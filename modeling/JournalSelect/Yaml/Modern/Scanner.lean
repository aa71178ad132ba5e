import JournalSelect.Yaml.Directive
import JournalSelect.Yaml.Modern.Scalar
import JournalSelect.Yaml.Quoted

namespace JournalSelect.Yaml.Modern

open Edition (modern)

-- A level of indentation: the indentation around it, and whether it is that of a block. Any other one only
-- keeps what belongs to a key or an entry right of it.
structure Level where
  outer : Int
  isBlock : Bool

-- A text read up to some position. There is one possible key for each open flow collection and one for
-- the blocks around them, innermost first. `bare` says that there are only blanks so far on the line, and
-- `joint` is where a colon may stand without a gap behind it. Once a flow mapping or an explicit key has been
-- seen, a pair in a flow sequence needs no mapping of its own; until then `pairOpen` says that one is open.
structure Scanner where
  rest : List Char
  position : Position
  tokens : Array Token
  indent : Int
  levels : List Level
  keys : List (Option PossibleKey)
  keyAllowed : Bool
  bare : Bool
  joint : Nat
  mappingSeen : Bool
  pairOpen : Bool

namespace Scanner

def start (cs : List Char) : Scanner where
  rest := cs
  position := .start
  tokens := #[]
  indent := -1
  levels := []
  keys := [none]
  keyAllowed := true
  bare := true
  joint := 0
  mappingSeen := false
  pairOpen := false

def inFlow (s : Scanner) : Bool :=
  1 < s.keys.length

def column (s : Scanner) : Int :=
  s.position.column

def push (s : Scanner) (token : Token) : Scanner :=
  { s with tokens := s.tokens.push token }

def allowKey (s : Scanner) (allowed : Bool) : Scanner :=
  { s with keyAllowed := allowed }

-- Skips the given count of characters of a line.
def skip (s : Scanner) (count : Nat) : Scanner :=
  { s with rest := s.rest.drop count, position := s.position.rightBy count, bare := false }

-- What is skipped between two tokens: blanks and line breaks; a comment; or the blanks behind a tab that
-- stands left of the current indentation, on a line that has to be empty but for a comment.
inductive GapPlace where
  | blanks
  | comment
  | tabbed
deriving DecidableEq

-- A tab may only indent a line that is empty. A new line may start a key outside of flow collections.
def skipGap? : GapPlace → List Char → Scanner → Option Scanner
  | _, [], s => some { s with rest := [] }
  | place, c :: cs, s =>
    if c = '\n' then
      skipGap? .blanks cs
        { s with position := s.position.down, bare := true, keyAllowed := s.keyAllowed || !s.inFlow }
    else if place = .comment then skipGap? .comment cs { s with position := s.position.right }
    else if isBlank c then
      let place :=
        if c = '\t' && !s.levels.isEmpty && s.bare && s.column < s.indent then .tabbed else place
      skipGap? place cs { s with position := s.position.right }
    else if c = '#' then skipGap? .comment cs { s with position := s.position.right, bare := false }
    else if place = .tabbed then none
    else some { s with rest := c :: cs }

def toNextToken? (s : Scanner) : Option Scanner :=
  skipGap? .blanks s.rest s

-- The blanks and the comment at the end of a line: whether there are tabs among them, and spaces. Blanks
-- come before a comment.
structure Trailer where
  tab : Bool
  space : Bool
  rest : List Char
  length : Nat

def trailer? (tab space : Bool) (length : Nat) : List Char → Option Trailer
  | [] => some ⟨tab, space, [], length⟩
  | c :: cs =>
    if c = ' ' then trailer? tab true (length + 1) cs
    else if c = '\t' then trailer? true space (length + 1) cs
    else if c = '#' then
      let comment := (c :: cs).takeWhile (· != '\n')
      if tab || space then some ⟨tab, space, (c :: cs).drop comment.length, length + comment.length⟩
      else none
    else some ⟨tab, space, c :: cs, length⟩

-- Skips what may follow a token on its line.
def skipTrailer? (s : Scanner) : Option Scanner :=
  (trailer? false false 0 s.rest).map fun t => s.skip t.length

-- Outside of flow collections a key stands on one line and within 1024 characters.
def dropStaleKeys? (s : Scanner) : Option Scanner :=
  let isStale (key : Option PossibleKey) : Bool := !s.inFlow && key.any (·.isStale s.position)
  if s.keys.any fun key => isStale key && key.any (·.required) then none
  else some { s with keys := s.keys.map fun key => if isStale key then none else key }

-- Gives up the innermost possible key, which must not be a required one.
def dropKey? (s : Scanner) : Option Scanner :=
  match s.keys with
  | some key :: keys => if key.required then none else some { s with keys := none :: keys }
  | _ => some s

def saveKey (s : Scanner) : Scanner :=
  if s.keyAllowed then
    let required := !s.inFlow && s.indent = s.column && s.levels.head?.any (·.isBlock)
    { s with keys := some ⟨s.tokens.size, required, s.position⟩ :: s.keys.tail }
  else s

-- Closes the levels that are indented more than the given column.
def closeLevels (column : Int) : (indent : Int) → List Level → Array Token →
    Int × List Level × Array Token
  | indent, [], tokens => (indent, [], tokens)
  | indent, level :: levels, tokens =>
    if column < indent then
      closeLevels column level.outer levels (if level.isBlock then tokens.push .blockEnd else tokens)
    else (indent, level :: levels, tokens)

def unroll (s : Scanner) (column : Int) : Scanner :=
  if s.inFlow then s
  else
    let (indent, levels, tokens) := closeLevels column s.indent s.levels s.tokens
    { s with indent, levels, tokens }

-- Leaves a level that is not a block's. There is never more than one of them inside a block.
def leaveSpareLevel (s : Scanner) : Scanner :=
  match s.levels with
  | level :: levels => if level.isBlock then s else { s with indent := level.outer, levels }
  | [] => s

-- Asks of what belongs to a key or an entry of the current block that it stands right of it.
def addSpareLevel (s : Scanner) : Scanner :=
  if !s.inFlow && s.levels.head?.any (·.isBlock) then
    { s with indent := s.indent + 1, levels := ⟨s.indent, false⟩ :: s.levels }
  else s

-- Opens a block at a column right of the current one; its token goes to the given place.
def roll (s : Scanner) (column : Int) (place : Nat) (token : Token) : Scanner :=
  if s.inFlow then s
  else
    let s := if s.indent ≤ column then s.leaveSpareLevel else s
    if s.indent < column then
      { s with
        indent := column
        levels := ⟨s.indent, true⟩ :: s.levels
        tokens := s.tokens.insertIdxIfInBounds place token }
    else s

def documentMark? (s : Scanner) (token : Token) : Option Scanner :=
  (s.unroll (-1)).dropKey?.map fun s => ((s.allowKey false).skip 3).push token

-- Nothing but a comment may follow the end of a document on its line.
def documentEnd? (s : Scanner) : Option Scanner := do
  let s ← (← s.documentMark? .documentEnd).skipTrailer?
  if modern.isGapNext s.rest then return s else none

-- A directive takes its whole line, on which a comment may follow.
def directive? (s : Scanner) : Option Scanner := do
  let s ← (s.unroll (-1)).dropKey?
  let (token, behind) ← modern.directive? s.rest.tail
  let s ← (s.skip (s.rest.length - behind.length)).skipTrailer?
  let s := (s.allowKey false).push token
  match s.rest with
  | [] => return s
  | c :: rest => if c = '\n' then return { s with rest, position := s.position.down, bare := true } else none

-- Flow collections may be nested this deep.
def maxFlowDepth : Nat := 255

def openFlow? (s : Scanner) (token : Token) : Option Scanner := do
  let s := s.saveKey.addSpareLevel
  if s.keys.length ≤ maxFlowDepth then
    let s := { s with keys := none :: s.keys, mappingSeen := s.mappingSeen || token == Token.flowMapping }
    return (← ((s.allowKey true).skip 1).skipTrailer?).push token
  else none

-- The end of an item or a collection ends an open pair.
def closePair (s : Scanner) : Scanner :=
  if s.pairOpen then { s.push .flowMappingEnd with pairOpen := false, mappingSeen := false } else s

-- A colon may follow a collection without a gap.
def closeFlow? (s : Scanner) (token : Token) : Option Scanner := do
  let s ← s.dropKey?
  let s := { s with keys := if s.inFlow then s.keys.tail else s.keys }
  let s ← ((s.allowKey false).closePair.skip 1).skipTrailer?
  let s := if s.inFlow then { s with joint := s.position.index } else s
  return s.push token

def comma? (s : Scanner) : Option Scanner := do
  let s ← s.dropKey?
  return (← ((s.allowKey true).closePair.skip 1).skipTrailer?).push .comma

-- An entry opens a block if it is the first one at its column. No tab may stand between it and another one.
def entry? (s : Scanner) : Option Scanner := do
  if s.inFlow || !s.keyAllowed then none
  let s := (s.skip 1).roll s.column s.tokens.size .blockSequence
  let t ← trailer? false false 0 s.rest
  if t.tab && t.rest.head? = some '-' && modern.isGapNext t.rest.tail then none
  let s := s.skip t.length
  let s := if s.rest.head?.any fun c => c = '\n' || isFlowMark c then s.addSpareLevel else s
  return ((← s.dropKey?).allowKey true).push .entry

-- Spaces, line breaks and comments behind the mark of an explicit key, of which there must be some before a
-- comment.
def skipKeyGap? : (spaced comment : Bool) → List Char → Scanner → Option Scanner
  | spaced, _, [], s => if spaced then some { s with rest := [] } else none
  | spaced, comment, c :: cs, s =>
    if c = '\n' then
      skipKeyGap? true false cs
        { s with position := s.position.down, bare := true, keyAllowed := s.keyAllowed || !s.inFlow }
    else if comment then skipKeyGap? spaced true cs { s with position := s.position.right }
    else if c = ' ' then skipKeyGap? true false cs { s with position := s.position.right }
    else if c = '#' then
      skipKeyGap? spaced true cs { s with position := s.position.right, bare := false }
    else if !spaced || c = '\t' then none
    else some { s with rest := c :: cs }

def key? (s : Scanner) : Option Scanner := do
  if !s.inFlow && !s.keyAllowed then none
  let s := s.roll s.column s.tokens.size .blockMapping
  let s := { s with mappingSeen := s.mappingSeen || s.inFlow }
  let s := ((← s.dropKey?).allowKey !s.inFlow).skip 1
  return (← skipKeyGap? false false s.rest s).push .key

-- Skips a colon. After a tab but no space, nothing may follow that looks like a word or an entry.
def skipColon? (s : Scanner) : Option Scanner := do
  let s := s.skip 1
  if s.rest.head? = some '\t' then
    let t ← trailer? false false 0 s.rest
    if !t.space && t.rest.head?.any isWordChar then none
    return s.skip t.length
  else return s

-- A colon makes the possible key a key, and may thereby open a block at that key. In a flow sequence it makes
-- a mapping of the pair, whose key then stands on one line.
def value? (s : Scanner) : Option Scanner := do
  let line := s.position.line
  let column := s.column
  let s := { s with pairOpen := s.inFlow && !s.mappingSeen }
  let s ← s.skipColon?
  match s.keys with
  | some key :: keys =>
    if s.pairOpen && key.position.line < line then none
    let tokens := s.tokens.insertIdxIfInBounds key.place .key
    let tokens := if s.pairOpen then tokens.insertIdxIfInBounds key.place .flowMapping else tokens
    let s := { s with keys := none :: keys, tokens }
    let s := (s.roll key.position.column key.place .blockMapping).addSpareLevel
    return (s.allowKey false).push .value
  | _ =>
    if !s.inFlow && !s.keyAllowed then none
    let s := if s.pairOpen then s.push .flowMapping else s
    let s := (s.roll column s.tokens.size .blockMapping).addSpareLevel
    return (s.allowKey !s.inFlow).push .value

def finishScalar (s : Scanner) (style : ScalarStyle) (r : Reading) : Scanner :=
  { s with
    rest := r.rest
    position := r.position
    bare := false
    tokens := s.tokens.push (.scalar style (String.ofList r.text)) }

-- What may follow a quoted scalar that starts on the given line.
def endsQuoted (s : Scanner) (line : Nat) : Bool :=
  match s.rest with
  | [] => true
  | c :: _ =>
    c = '\n' || (s.inFlow && (c = ',' || c = ']' || c = '\x7d')) ||
      (c = ':' && (s.inFlow || line = s.position.line))

-- A colon may follow a quoted scalar without a gap.
def quoted? (s : Scanner) (read? : (margin : Int) → List Char → Position → Option Reading) :
    Option Scanner := do
  let line := s.position.line
  let s := s.saveKey.allowKey false
  let r ← read? s.indent s.rest.tail s.position.right
  let s ← (s.finishScalar .quoted r).skipTrailer?
  if s.endsQuoted line then
    let s ← s.toNextToken?
    return { s with joint := s.position.index }
  else none

def plain? (s : Scanner) : Option Scanner := do
  let s := (s.saveKey.allowKey false).leaveSpareLevel
  let margin := s.indent + 1
  if s.inFlow && s.column < margin then none
  let (r, bare) ← Modern.plain? s.inFlow margin .start s.bare [] .none s.rest s.position
  return { s.finishScalar .plain r with bare, keyAllowed := bare }

def block? (s : Scanner) (style : ScalarStyle) : Option Scanner := do
  let s := ((s.saveKey.allowKey true).skip 1).leaveSpareLevel
  let (indicators, behind) := blockStyle (style = .folded) s.rest
  let s ← (s.skip (s.rest.length - behind.length)).skipTrailer?
  let r ← match s.rest with
    | [] => blockBehind? indicators s.indent [] [] s.position
    | c :: cs => if c = '\n' then blockBehind? indicators s.indent ['\n'] cs s.position.down else none
  return { s.finishScalar style r with bare := true }

def anchor? (s : Scanner) (token : String → Token) : Option Scanner :=
  let s := s.saveKey.allowKey false
  let name := s.rest.tail.takeWhile modern.isAnchorChar
  if name.isEmpty then none
  else some ((s.skip (name.length + 1)).push (token (String.ofList name)))

-- A gap follows a tag or, in a flow collection, a mark.
def tag? (s : Scanner) : Option Scanner := do
  let s := s.saveKey.allowKey false
  let (handle, name, rest) ← modern.tag? s.rest.tail
  if modern.isGapNext rest || (s.inFlow && rest.head?.any isFlowMark) then
    return (s.skip (s.rest.length - rest.length)).push (.tag handle name)
  else none

def isColonNext (s : Scanner) (c : Char) (cs : List Char) : Bool :=
  c = ':' && (modern.isGapNext cs ||
    (s.inFlow && (cs.head?.any isFlowMark || s.position.index = s.joint)))

-- The token that starts with the given character.
def token? (s : Scanner) (c : Char) (cs : List Char) : Option Scanner :=
  let first := s.position.column = 0
  if first && c = '%' then s.directive?
  else if first && modern.isMarker '-' (c :: cs) then s.documentMark? .documentStart
  else if first && modern.isMarker '.' (c :: cs) then s.documentEnd?
  else if s.column < s.indent then none
  else if c = '[' then s.openFlow? .flowSequence
  else if c = '\x7b' then s.openFlow? .flowMapping
  else if c = ']' then s.closeFlow? .flowSequenceEnd
  else if c = '\x7d' then s.closeFlow? .flowMappingEnd
  else if c = ',' then s.comma?
  else if c = '-' && modern.isGapNext cs then s.entry?
  else if c = '?' && modern.isGapNext cs then s.key?
  else if s.isColonNext c cs then s.value?
  else if c = '*' then s.anchor? .alias
  else if c = '&' then s.anchor? .anchor
  else if c = '!' then s.tag?
  else if c = '|' && !s.inFlow then s.block? .literal
  else if c = '>' && !s.inFlow then s.block? .folded
  else if c = '\'' then s.quoted? (singleQuoted? modern · [] .none)
  else if c = '"' then s.quoted? (doubleQuoted? modern · false [] .none)
  else if c = '%' || c = '@' || c = '\x60' then none
  else s.plain?

-- No possible key may be left over that has to be one.
def finish? (s : Scanner) : Option (Array Token) :=
  if s.keys.any fun key => key.any (·.required) then none else some (s.unroll (-1)).tokens

-- Every token takes at least one character, so as many rounds as there are characters suffice.
def run? : Nat → Scanner → Option (Array Token)
  | 0, _ => none
  | rounds + 1, s =>
    match s.toNextToken?.bind dropStaleKeys? with
    | none => none
    | some s =>
      let s := s.unroll s.column
      match s.rest with
      | [] => s.finish?
      | c :: cs => (s.token? c cs).bind (run? rounds)

end Scanner

def tokens? (cs : List Char) : Option (List Token) :=
  ((Scanner.start cs).run? (cs.length + 1)).map Array.toList

end JournalSelect.Yaml.Modern
