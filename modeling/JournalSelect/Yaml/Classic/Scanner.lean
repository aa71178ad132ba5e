import JournalSelect.Yaml.Classic.Scalar
import JournalSelect.Yaml.Directive
import JournalSelect.Yaml.Quoted

namespace JournalSelect.Yaml.Classic

open Edition (classic)

-- A text read up to some position. There is one possible key for each open flow collection and one for
-- the blocks around them, innermost first.
structure Scanner where
  rest : List Char
  position : Position
  tokens : Array Token
  indent : Int
  outerIndents : List Int
  keys : List (Option PossibleKey)
  keyAllowed : Bool

namespace Scanner

def start (cs : List Char) : Scanner where
  rest := cs
  position := .start
  tokens := #[]
  indent := -1
  outerIndents := []
  keys := [none]
  keyAllowed := true

def inFlow (s : Scanner) : Bool :=
  1 < s.keys.length

def column (s : Scanner) : Int :=
  s.position.column

-- Skips a mark of the given width and gives it as a token.
def mark (s : Scanner) (width : Nat) (token : Token) : Scanner :=
  { s with
    rest := s.rest.drop width
    position := s.position.rightBy width
    tokens := s.tokens.push token }

def allowKey (s : Scanner) (allowed : Bool) : Scanner :=
  { s with keyAllowed := allowed }

-- A mark of the byte order, which may start a line.
def isByteOrderMark (c : Char) : Bool :=
  c = '\ufeff'

-- Blanks, comments and line breaks before the next token. A tab may not stand where a key of a block may
-- start. A new line may start a key outside of flow collections.
def skipGap (flow : Bool) : (comment keyAllowed : Bool) → List Char → Position →
    List Char × Position × Bool
  | _, keyAllowed, [], p => ([], p, keyAllowed)
  | comment, keyAllowed, c :: cs, p =>
    if classic.isBreak c then skipGap flow false (keyAllowed || !flow) cs p.down
    else if p.column = 0 && isByteOrderMark c then skipGap flow comment keyAllowed cs p.right
    else if comment || c = ' ' || (c = '\t' && (flow || !keyAllowed)) then
      skipGap flow comment keyAllowed cs p.right
    else if c = '#' then skipGap flow true keyAllowed cs p.right
    else (c :: cs, p, keyAllowed)

def toNextToken (s : Scanner) : Scanner :=
  let (rest, position, keyAllowed) := skipGap s.inFlow false s.keyAllowed s.rest s.position
  { s with rest, position, keyAllowed }

def dropStaleKeys? (s : Scanner) : Option Scanner :=
  let isStale (key : Option PossibleKey) : Bool := key.any (·.isStale s.position)
  if s.keys.any fun key => isStale key && key.any (·.required) then none
  else some { s with keys := s.keys.map fun key => if isStale key then none else key }

-- Gives up the innermost possible key, which must not be a required one.
def dropKey? (s : Scanner) : Option Scanner :=
  match s.keys with
  | some key :: keys => if key.required then none else some { s with keys := none :: keys }
  | _ => some s

def saveKey? (s : Scanner) : Option Scanner :=
  if s.keyAllowed then
    s.dropKey?.map fun s =>
      let key : PossibleKey := ⟨s.tokens.size, !s.inFlow && s.indent = s.column, s.position⟩
      { s with keys := some key :: s.keys.tail }
  else some s

-- Closes the blocks that are indented more than the given column.
def closeBlocks (column : Int) : (indent : Int) → (outer : List Int) → Array Token →
    Int × List Int × Array Token
  | indent, [], tokens => (indent, [], tokens)
  | indent, outer :: outers, tokens =>
    if column < indent then closeBlocks column outer outers (tokens.push .blockEnd)
    else (indent, outer :: outers, tokens)

def unroll (s : Scanner) (column : Int) : Scanner :=
  if s.inFlow then s
  else
    let (indent, outerIndents, tokens) := closeBlocks column s.indent s.outerIndents s.tokens
    { s with indent, outerIndents, tokens }

-- Opens a block at a column right of the current one; its token goes to the given place.
def roll (s : Scanner) (column : Int) (place : Nat) (token : Token) : Scanner :=
  if s.inFlow || column ≤ s.indent then s
  else
    { s with
      indent := column
      outerIndents := s.indent :: s.outerIndents
      tokens := s.tokens.insertIdxIfInBounds place token }

def documentMark? (s : Scanner) (token : Token) : Option Scanner :=
  (s.unroll (-1)).dropKey?.map fun s => (s.allowKey false).mark 3 token

-- A directive takes its whole line, on which a comment may follow.
def directive? (s : Scanner) : Option Scanner := do
  let s ← (s.unroll (-1)).dropKey?
  let (token, behind) ← classic.directive? s.rest.tail
  let behind := behind.dropWhile isBlank
  let comment := if behind.head? = some '#' then behind.takeWhile (!classic.isBreak ·) else []
  let rest := behind.drop comment.length
  let s := (s.allowKey false).mark (s.rest.length - rest.length) token
  match rest with
  | [] => return s
  | c :: rest => if classic.isBreak c then return { s with rest, position := s.position.down } else none

def openFlow? (s : Scanner) (token : Token) : Option Scanner :=
  s.saveKey?.map fun s => ({ s with keys := none :: s.keys }.allowKey true).mark 1 token

def closeFlow? (s : Scanner) (token : Token) : Option Scanner :=
  s.dropKey?.map fun s =>
    let keys := if s.inFlow then s.keys.tail else s.keys
    ({ s with keys }.allowKey false).mark 1 token

def comma? (s : Scanner) : Option Scanner :=
  s.dropKey?.map fun s => (s.allowKey true).mark 1 .comma

-- An entry or an explicit key opens a block if it is the first one at its column.
def entry? (s : Scanner) : Option Scanner :=
  if s.inFlow || s.keyAllowed then
    (s.roll s.column s.tokens.size .blockSequence).dropKey?.map fun s =>
      (s.allowKey true).mark 1 .entry
  else none

def key? (s : Scanner) : Option Scanner :=
  if s.inFlow || s.keyAllowed then
    (s.roll s.column s.tokens.size .blockMapping).dropKey?.map fun s =>
      (s.allowKey !s.inFlow).mark 1 .key
  else none

-- A colon makes the possible key a key, and may thereby open a block at that key.
def value? (s : Scanner) : Option Scanner :=
  match s.keys with
  | some key :: keys =>
    let s := { s with keys := none :: keys, tokens := s.tokens.insertIdxIfInBounds key.place .key }
    let s := s.roll key.position.column key.place .blockMapping
    some ((s.allowKey false).mark 1 .value)
  | _ =>
    if s.inFlow || s.keyAllowed then
      let s := s.roll s.column s.tokens.size .blockMapping
      some ((s.allowKey !s.inFlow).mark 1 .value)
    else none

def finishScalar (s : Scanner) (style : ScalarStyle) (r : Reading) : Scanner :=
  { s with
    rest := r.rest
    position := r.position
    tokens := s.tokens.push (.scalar style (String.ofList r.text)) }

def quoted? (s : Scanner) (read? : List Char → Position → Option Reading) : Option Scanner :=
  s.saveKey?.bind fun s =>
    (read? s.rest.tail s.position.right).map (s.allowKey false |>.finishScalar .quoted)

def plain? (s : Scanner) : Option Scanner :=
  s.saveKey?.bind fun s =>
    (Classic.plain? s.inFlow s.indent [] .none s.rest s.position).map fun (r, broken) =>
      (s.allowKey broken).finishScalar .plain r

def block? (s : Scanner) (style : ScalarStyle) : Option Scanner :=
  s.dropKey?.bind fun s =>
    (Classic.block? (style = .folded) s.indent s.rest.tail s.position.right).map
      (s.allowKey true |>.finishScalar style)

-- What may follow the name of an anchor or an alias.
def endsAnchor (rest : List Char) : Bool :=
  classic.isGapNext rest || rest.head?.any ("?:,]\x7d%@`".toList.contains ·)

def anchor? (s : Scanner) (token : String → Token) : Option Scanner :=
  s.saveKey?.bind fun s =>
    let name := s.rest.tail.takeWhile classic.isAnchorChar
    if name.isEmpty || !endsAnchor (s.rest.drop (name.length + 1)) then none
    else some ((s.allowKey false).mark (name.length + 1) (token (String.ofList name)))

-- A gap follows a tag or, in a flow collection, a comma.
def tag? (s : Scanner) : Option Scanner :=
  s.saveKey?.bind fun s =>
    (classic.tag? s.rest.tail).bind fun (handle, name, rest) =>
      if classic.isGapNext rest || (s.inFlow && rest.head? = some ',') then
        some ((s.allowKey false).mark (s.rest.length - rest.length) (.tag handle name))
      else none

-- What a plain scalar may not start with.
def isIndicator (c : Char) : Bool :=
  "-?:,[]\x7b\x7d#&*!|>'\"%@`".toList.contains c

def startsPlain (flow : Bool) (c : Char) (cs : List Char) : Bool :=
  !(isBlank c || isIndicator c) ||
  (c = '-' && !cs.head?.any isBlank) ||
  (!flow && (c = '?' || c = ':') && !classic.isGapNext cs)

-- The token that starts with the given character.
def token? (s : Scanner) (c : Char) (cs : List Char) : Option Scanner :=
  let first := s.position.column = 0
  if first && c = '%' then s.directive?
  else if first && classic.isMarker '-' (c :: cs) then s.documentMark? .documentStart
  else if first && classic.isMarker '.' (c :: cs) then s.documentMark? .documentEnd
  else if c = '[' then s.openFlow? .flowSequence
  else if c = '\x7b' then s.openFlow? .flowMapping
  else if c = ']' then s.closeFlow? .flowSequenceEnd
  else if c = '\x7d' then s.closeFlow? .flowMappingEnd
  else if c = ',' then s.comma?
  else if c = '-' && classic.isGapNext cs then s.entry?
  else if c = '?' && (s.inFlow || classic.isGapNext cs) then s.key?
  else if c = ':' && (s.inFlow || classic.isGapNext cs) then s.value?
  else if c = '*' then s.anchor? .alias
  else if c = '&' then s.anchor? .anchor
  else if c = '!' then s.tag?
  else if c = '|' && !s.inFlow then s.block? .literal
  else if c = '>' && !s.inFlow then s.block? .folded
  else if c = '\'' then s.quoted? (singleQuoted? classic (-1) [] .none)
  else if c = '"' then s.quoted? (doubleQuoted? classic (-1) false [] .none)
  else if startsPlain s.inFlow c cs then s.plain?
  else none

-- Every token takes at least one character, so as many rounds as there are characters suffice.
def run? : Nat → Scanner → Option (Array Token)
  | 0, _ => none
  | rounds + 1, s =>
    match s.toNextToken.dropStaleKeys? with
    | none => none
    | some s =>
      let s := s.unroll s.column
      match s.rest with
      | [] => (s.unroll (-1)).dropKey?.map (·.tokens)
      | c :: cs => (s.token? c cs).bind (run? rounds)

end Scanner

def tokens? (cs : List Char) : Option (List Token) :=
  ((Scanner.start cs).run? (cs.length + 1)).map Array.toList

end JournalSelect.Yaml.Classic
