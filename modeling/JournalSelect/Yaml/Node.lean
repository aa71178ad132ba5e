import JournalSelect.Yaml.Tag
import JournalSelect.Yaml.Token

namespace JournalSelect.Yaml

-- A scalar keeps its source text; what it stands for is left to the reader of the tree. Anchors, and the
-- aliases that stand for what has one, are known by a name or by a number.
inductive Node (α : Type) where
  | scalar (style : ScalarStyle) (text : String)
  | sequence (items : List (Node α))
  | mapping (entries : List (Node α × Node α))
  | tagged (tag : Tag) (content : Node α)
  | anchored (anchor : α) (content : Node α)
  | alias (anchor : α)

namespace Node

def empty : Node α :=
  .scalar .plain ""

def tagged? (tag : Option Tag) (content : Node α) : Node α :=
  match tag with
  | some tag => .tagged tag content
  | none => content

def anchored? (anchor : Option α) (content : Node α) : Node α :=
  match anchor with
  | some anchor => .anchored anchor content
  | none => content

end Node

-- What the readers of nodes go by: the edition, and what the handles of tags stand for.
structure Conventions where
  edition : Edition
  handles : List (String × String)

-- What comes before a node: an anchor, and the handle and the name of a tag, in either order.
def properties : List Token → Option String × Option (String × String) × List Token
  | .anchor anchor :: .tag handle name :: rest => (some anchor, some (handle, name), rest)
  | .tag handle name :: .anchor anchor :: rest => (some anchor, some (handle, name), rest)
  | .anchor anchor :: rest => (some anchor, none, rest)
  | .tag handle name :: rest => (none, some (handle, name), rest)
  | rest => (none, none, rest)

-- The tag of a node. In the classic edition a mark alone is no tag for a scalar that is written out.
def Conventions.tag? (conventions : Conventions) (tag : Option (String × String)) (tokens : List Token) :
    Option (Option Tag) :=
  match tag with
  | none => some none
  | some (handle, name) => do
    let tag ← Tag.resolve? conventions.handles handle name
    match tokens with
    | .scalar .. :: _ =>
      return if conventions.edition = .classic && tag.text = "!" then none else some tag
    | _ => return some tag

-- Whether a node that may be missing is missing before this token.
def isMissing (ends : List Token) : List Token → Bool
  | [] => false
  | token :: _ => ends.contains token

def startsContent (block indentless : Bool) : List Token → Bool
  | .scalar .. :: _ => true
  | .flowSequence :: _ => true
  | .flowMapping :: _ => true
  | .blockSequence :: _ => block
  | .blockMapping :: _ => block
  | .entry :: _ => indentless
  | _ => false

-- The readers below take a token at least every fourth round. `block` says whether a block collection may
-- stand here, and `indentless` whether entries may stand at the column of their key. In the modern edition a
-- colon may stand in a mapping without a key before it.
mutual

def node? (conventions : Conventions) : Nat → (block indentless : Bool) → List Token →
    Option (Node String × List Token)
  | 0, _, _, _ => none
  | rounds + 1, block, indentless, tokens =>
    match tokens with
    | .alias name :: rest => some (.alias name, rest)
    | tokens =>
      let (anchor, tag, tokens) := properties tokens
      match conventions.tag? tag tokens with
      | none => none
      | some found =>
        if startsContent block indentless tokens then
          (content? conventions rounds tokens).map fun (node, rest) =>
            ((node.tagged? found).anchored? anchor, rest)
        else if anchor.isSome || tag.isSome then
          some ((Node.empty.tagged? found).anchored? anchor, tokens)
        else none

def content? (conventions : Conventions) : Nat → List Token → Option (Node String × List Token)
  | 0, _ => none
  | rounds + 1, tokens =>
    match tokens with
    | .scalar style text :: rest => some (.scalar style text, rest)
    | .flowSequence :: rest =>
      (flowItems? conventions rounds true rest).map fun (items, rest) => (.sequence items, rest)
    | .flowMapping :: rest =>
      (flowEntries? conventions rounds true rest).map fun (entries, rest) => (.mapping entries, rest)
    | .blockSequence :: rest =>
      (blockItems? conventions rounds rest).map fun (items, rest) => (.sequence items, rest)
    | .blockMapping :: rest =>
      (blockEntries? conventions rounds rest).map fun (entries, rest) => (.mapping entries, rest)
    | .entry :: _ =>
      (indentlessItems? conventions rounds tokens).map fun (items, rest) => (.sequence items, rest)
    | _ => none

-- A node, or nothing before one of the tokens that end its place.
def nodeOrEmpty? (conventions : Conventions) : Nat → (block indentless : Bool) → (ends : List Token) →
    List Token → Option (Node String × List Token)
  | 0, _, _, _, _ => none
  | rounds + 1, block, indentless, ends, tokens =>
    if isMissing ends tokens then some (.empty, tokens)
    else node? conventions rounds block indentless tokens

def blockItems? (conventions : Conventions) : Nat → List Token → Option (List (Node String) × List Token)
  | 0, _ => none
  | rounds + 1, tokens =>
    match tokens with
    | .blockEnd :: rest => some ([], rest)
    | .entry :: rest =>
      match nodeOrEmpty? conventions rounds true false [.entry, .blockEnd] rest with
      | none => none
      | some (item, rest) =>
        (blockItems? conventions rounds rest).map fun (items, rest) => (item :: items, rest)
    | _ => none

def indentlessItems? (conventions : Conventions) : Nat → List Token →
    Option (List (Node String) × List Token)
  | 0, _ => none
  | rounds + 1, tokens =>
    match tokens with
    | .entry :: rest =>
      match nodeOrEmpty? conventions rounds true false [.entry, .key, .value, .blockEnd] rest with
      | none => none
      | some (item, rest) =>
        (indentlessItems? conventions rounds rest).map fun (items, rest) => (item :: items, rest)
    | rest => some ([], rest)

-- The value behind a key, if a colon introduces one.
def valueOrEmpty? (conventions : Conventions) : Nat → (block : Bool) → (ends : List Token) → List Token →
    Option (Node String × List Token)
  | 0, _, _, _ => none
  | rounds + 1, block, ends, tokens =>
    match tokens with
    | .value :: rest => nodeOrEmpty? conventions rounds block block ends rest
    | rest => some (.empty, rest)

def blockEntries? (conventions : Conventions) : Nat → List Token →
    Option (List (Node String × Node String) × List Token)
  | 0, _ => none
  | rounds + 1, tokens =>
    let behindKey? (key : Node String) (rest : List Token) :
        Option (List (Node String × Node String) × List Token) :=
      match valueOrEmpty? conventions rounds true [.key, .value, .blockEnd] rest with
      | none => none
      | some (value, rest) =>
        (blockEntries? conventions rounds rest).map fun (entries, rest) => ((key, value) :: entries, rest)
    match tokens with
    | .blockEnd :: rest => some ([], rest)
    | .value :: _ => if conventions.edition = .modern then behindKey? .empty tokens else none
    | .key :: rest =>
      match nodeOrEmpty? conventions rounds true true [.key, .value, .blockEnd] rest with
      | none => none
      | some (key, rest) => behindKey? key rest
    | _ => none

-- The items of a flow sequence. Commas separate them, and one may follow the last item. A key makes a
-- mapping of one entry; if the key is missing, the token that ends its place goes with it.
def flowItems? (conventions : Conventions) : Nat → (first : Bool) → List Token →
    Option (List (Node String) × List Token)
  | 0, _, _ => none
  | rounds + 1, first, tokens =>
    let item? (tokens : List Token) : Option (List (Node String) × List Token) :=
      match tokens with
      | .flowSequenceEnd :: rest => some ([], rest)
      | .key :: rest =>
        let key? : Option (Node String × List Token) :=
          if isMissing [.value, .comma, .flowSequenceEnd] rest then some (.empty, rest.tail)
          else node? conventions rounds false false rest
        match key? with
        | none => none
        | some (key, rest) =>
          match valueOrEmpty? conventions rounds false [.comma, .flowSequenceEnd] rest with
          | none => none
          | some (value, rest) =>
            (flowItems? conventions rounds false rest).map fun (items, rest) =>
              (.mapping [(key, value)] :: items, rest)
      | tokens =>
        match node? conventions rounds false false tokens with
        | none => none
        | some (item, rest) =>
          (flowItems? conventions rounds false rest).map fun (items, rest) => (item :: items, rest)
    match first, tokens with
    | false, .flowSequenceEnd :: rest => some ([], rest)
    | false, .comma :: rest => item? rest
    | false, _ => none
    | true, tokens => item? tokens

def flowEntries? (conventions : Conventions) : Nat → (first : Bool) → List Token →
    Option (List (Node String × Node String) × List Token)
  | 0, _, _ => none
  | rounds + 1, first, tokens =>
    let behindKey? (key : Node String) (rest : List Token) :
        Option (List (Node String × Node String) × List Token) :=
      match valueOrEmpty? conventions rounds false [.comma, .flowMappingEnd] rest with
      | none => none
      | some (value, rest) =>
        (flowEntries? conventions rounds false rest).map fun (entries, rest) =>
          ((key, value) :: entries, rest)
    let entry? (tokens : List Token) : Option (List (Node String × Node String) × List Token) :=
      match tokens with
      | .flowMappingEnd :: rest => some ([], rest)
      | .key :: rest =>
        match nodeOrEmpty? conventions rounds false false [.value, .comma, .flowMappingEnd] rest with
        | none => none
        | some (key, rest) => behindKey? key rest
      | tokens =>
        if conventions.edition = .modern && tokens.head? = some .value then behindKey? .empty tokens
        else
          match node? conventions rounds false false tokens with
          | none => none
          | some (key, rest) =>
            (flowEntries? conventions rounds false rest).map fun (entries, rest) =>
              ((key, .empty) :: entries, rest)
    match first, tokens with
    | false, .flowMappingEnd :: rest => some ([], rest)
    | false, .comma :: rest => entry? rest
    | false, _ => none
    | true, tokens => entry? tokens

end

-- What the handles of a document stand for, by the directives before it, of which at most one names a version.
-- In the classic edition that version is 1.1 or 1.2, and a handle is given a meaning at most once. In the
-- modern edition each directive makes void the one before it.
def directives? (e : Edition) : (versioned : Bool) → (handles : List (String × String)) → List Token →
    Option (List (String × String) × List Token)
  | versioned, handles, .version major minor :: tokens =>
    if versioned || (e = .classic && !(major = 1 && (minor = 1 || minor = 2))) then none
    else directives? e true (if e = .classic then handles else []) tokens
  | versioned, handles, .handle handle start :: tokens =>
    if e = .modern then directives? e versioned [(handle, start)] tokens
    else if (handles.lookup handle).isSome then none
    else directives? e versioned ((handle, start) :: handles) tokens
  | _, handles, tokens => some (handles, tokens)

-- Whether a document that is marked at its start has no content.
def endsDocument : List Token → Bool
  | [] => true
  | .version .. :: _ => true
  | .handle .. :: _ => true
  | .documentStart :: _ => true
  | .documentEnd :: _ => true
  | _ => false

-- The only document of a text, or nothing if there is none. A document may be marked at its start and at
-- its end, and has to be marked at its start behind directives. In the modern edition there may be marks of
-- an end before it.
def ofTokens? (e : Edition) (tokens : List Token) : Option (Option (Node String)) :=
  let rounds := 4 * tokens.length + 4
  let tokens := if e = .modern then tokens.dropWhile (· == .documentEnd) else tokens
  let content : Option (Option (Node String) × List Token) :=
    match directives? e false [] tokens with
    | none => none
    | some (handles, .documentStart :: rest) =>
      if endsDocument rest then some (some .empty, rest)
      else (node? ⟨e, handles⟩ rounds true false rest).map fun (node, rest) => (some node, rest)
    | some (_, rest) =>
      if tokens.isEmpty then some (none, [])
      else if rest.length = tokens.length then
        (node? ⟨e, []⟩ rounds true false tokens).map fun (node, rest) => (some node, rest)
      else none
  match content with
  | none => none
  | some (document, rest) => if rest.all (· == Token.documentEnd) then some document else none

end JournalSelect.Yaml
