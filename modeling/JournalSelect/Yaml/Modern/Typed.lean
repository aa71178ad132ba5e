import JournalSelect.Yaml.Modern.Scanner
import JournalSelect.Yaml.Node
import JournalSelect.Yaml.Plain

namespace JournalSelect.Yaml.Modern

-- The only document of a text, or nothing if there is none.
def read? (text : String) : Option (Option (Node String)) := do
  ofTokens? .modern (← tokens? (← Edition.modern.characters? text))

-- What a node is as a key.
inductive Key where
  | missing
  | scalar (kind : Plain.Kind)
  | collection
deriving DecidableEq

-- What a node is as a key, and its value if it has one.
structure Content where
  key : Key
  value? : Option Value

namespace Content

-- What is not of the type it names, or stands for what is still being written, is missing.
def missing : Content :=
  ⟨.missing, some .null⟩

def scalar (kind : Plain.Kind) : Content :=
  ⟨.scalar kind, kind.value?⟩

def collection (value? : Option Value) : Content :=
  ⟨.collection, value?⟩

-- Only a plain scalar can be something else than a text. A tag names its type.
def ofScalar (tag : Option Tag) (style : ScalarStyle) (s : String) : Content :=
  match style, tag with
  | .plain, none => scalar (Plain.kind s)
  | .plain, some tag =>
    if tag.start = Tag.coreStart then
      match Plain.Kind.ofType? tag.name s with
      | some kind => scalar kind
      | none => missing
    else scalar (.text s)
  | _, _ => scalar (.text s)

-- What stands in a mapping, in pairs. A missing key leaves its place to what comes next, and what is left
-- without a value is dropped.
def pairs : List Content → List (Content × Content)
  | [] => []
  | key :: rest =>
    if key.key = .missing then pairs rest
    else match rest with
      | [] => []
      | value :: rest => (key, value) :: pairs rest

def entry? (pair : Content × Content) : Option (Value × Value) :=
  match pair.1.key with
  | .scalar kind => do return (.text (← kind.name?), ← pair.2.value?)
  | _ => none

-- A mapping has no scalar twice as a key.
def ofEntries? (contents : List Content) : Option Content :=
  let pairs := pairs contents
  if (pairs.map (·.1.key) |>.filter (· != .collection)).Nodup then
    some (.collection ((pairs.mapM entry?).map .map))
  else none

end Content

-- What the names of anchors stand for, the last ones first: nothing yet while it is being read.
abbrev Anchors := List (String × Option Content)

namespace Anchors

def add (name : String) (anchors : Anchors) : Anchors :=
  (name, none) :: anchors

-- A name that has been given again in the meantime means what it was given to then.
def finish (name : String) (content : Content) (anchors : Anchors) : Anchors :=
  match anchors.lookup name with
  | some none => (name, some content) :: anchors
  | _ => anchors

end Anchors

mutual

def content? : Node String → StateT Anchors Option Content
  | .scalar style s => return .ofScalar none style s
  | .tagged tag node =>
    match node with
    | .scalar style s => return .ofScalar (some tag) style s
    | node => content? node
  | .anchored name node => do
    modify (·.add name)
    let content ← content? node
    modify (·.finish name content)
    return content
  | .alias name => do
    match (← get).lookup name with
    | some (some content) => return content
    | some none => return .missing
    | none => failure
  | .sequence items => do
    let contents ← itemContents? items
    return .collection ((contents.mapM Content.value?).map .list)
  | .mapping entries => do
    match Content.ofEntries? (← entryContents? entries) with
    | some content => return content
    | none => failure

def itemContents? : List (Node String) → StateT Anchors Option (List Content)
  | [] => return []
  | node :: nodes => do
    let content ← content? node
    return content :: (← itemContents? nodes)

-- The keys and the values of a mapping in the order of the text.
def entryContents? : List (Node String × Node String) → StateT Anchors Option (List Content)
  | [] => return []
  | (key, value) :: entries => do
    let key ← content? key
    let value ← content? value
    return key :: value :: (← entryContents? entries)

end

def value? (node : Node String) : Option Value :=
  ((content? node).run' []).bind (·.value?)

end JournalSelect.Yaml.Modern
