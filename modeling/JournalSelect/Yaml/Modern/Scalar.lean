import JournalSelect.Yaml.Block
import JournalSelect.Yaml.Scalar

namespace JournalSelect.Yaml.Modern

open Edition (modern)

-- Whether a plain scalar can hold a character, given what follows it.
def continuesPlain (flow : Bool) (c : Char) (cs : List Char) : Bool :=
  !(c = ':' && (modern.isGapNext cs || (flow && cs.head?.any isFlowMark))) && !(flow && isFlowMark c)

-- Where a plain scalar is being read: at its start, inside a word or in a gap, or on a line that a tab left of
-- the margin starts, which has to be empty but for a comment.
inductive PlainPlace where
  | start
  | word
  | gap
  | tabbed
  | comment
deriving DecidableEq

-- A line break inside a plain scalar. It is the first one of its gap unless only blanks came before it on
-- its line.
def addPlainBreak (bare : Bool) (gap : Gap) : Gap :=
  if bare then gap.addBreak '\n'
  else match gap with
    | .breaks _ more => .breaks ['\n'] more
    | .blanks _ => .breaks ['\n'] []

-- A plain scalar, whose further lines start at the margin or right of it outside of flow collections. The
-- second result, like the argument `bare`, says whether there are only blanks so far on the line.
def plain? (flow : Bool) (margin : Int) : (place : PlainPlace) → (bare : Bool) →
    (before : List Char) → Gap → List Char → Position → Option (Reading × Bool)
  | _, bare, before, _, [], p => some (⟨before.reverse, [], p⟩, bare)
  | place, bare, before, gap, c :: cs, p =>
    if c = '\n' then plain? flow margin .gap true before (addPlainBreak bare gap) cs p.down
    else if place = .comment then plain? flow margin .comment bare before gap cs p.right
    else if isBlank c then
      if place = .tabbed then plain? flow margin .tabbed bare before gap cs p.right
      else if bare && c = '\t' && p.column < margin then
        plain? flow margin .tabbed bare before gap cs p.right
      else plain? flow margin .gap bare before (if bare then gap else gap.addBlank c) cs p.right
    else if place = .tabbed then
      if c = '#' then plain? flow margin .comment false before gap cs p.right else none
    else if place = .gap && ((!flow && p.column < margin) || c = '#' ||
        p.column = 0 && modern.isDocumentMarker (c :: cs)) then
      some (⟨before.reverse, c :: cs, p⟩, bare)
    else if place != .word && flow && c = '-' && cs.head?.any isFlowMark then none
    else if continuesPlain flow c cs then
      plain? flow margin .word false (c :: (gap.text.reverse ++ before)) .none cs p.right
    else some (⟨before.reverse, c :: cs, p⟩, bare)

-- Spaces and empty lines up to the next line of a block scalar, at most as far as the given column: the
-- line breaks, last first, and the widest indentation seen.
def emptyLines (limit : Option Nat) (breaks : List Char) (widest : Nat) :
    List Char → Position → List Char × Nat × List Char × Position
  | [], p => (breaks.reverse, max widest p.column, [], p)
  | c :: cs, p =>
    if c = ' ' && limit.all (p.column < ·) then emptyLines limit breaks widest cs p.right
    else if c = '\n' then emptyLines limit (c :: breaks) (max widest p.column) cs p.down
    else (breaks.reverse, max widest p.column, c :: cs, p)

-- The lines of a block scalar at the given indentation, and what is left. Without an indentation the end of
-- a document ends them. Each line takes a character, so as many rounds as there are characters suffice.
def blockLines? (indent : Nat) : Nat → List Char → Position →
    Option (List BlockLine × List Char × Position)
  | 0, _, _ => none
  | rounds + 1, cs, p =>
    if p.column = indent && !cs.isEmpty && !(indent = 0 && modern.isMarker '.' cs) then
      let content := cs.takeWhile (· != '\n')
      let p := p.rightBy content.length
      match cs.drop content.length with
      | [] => some ([⟨content, [], []⟩], [], p)
      | _ :: cs =>
        let (empty, _, cs, p) := emptyLines (some indent) [] 0 cs p.down
        (blockLines? indent rounds cs p).map fun (lines, rest) =>
          (⟨content, ['\n'], empty⟩ :: lines, rest)
    else some ([], cs, p)

-- The text of a block scalar that the end of the text leaves without a line. The break of its first line,
-- if there is one, counts unless empty lines are kept.
def textWithoutLines (style : BlockStyle) (ending empty : List Char) : List Char :=
  match style.chomping with
  | .strip => []
  | .clip => ending
  | .keep => if empty.isEmpty then ending else empty

-- The lines of a block scalar, which a tab may not start. They are indented at least as far as what they
-- belong to asks.
def blockBehind? (style : BlockStyle) (parent : Int) (ending : List Char) (cs : List Char) (p : Position) :
    Option Reading :=
  if cs.head? = some '\t' then none
  else
    let known := style.indent.map fun n => if 0 ≤ parent then parent.toNat + n else n
    let (empty, widest, rest, p) := emptyLines known [] 0 cs p
    let indent := known.getD (max widest (parent + 1).toNat)
    if rest.isEmpty then some ⟨textWithoutLines style ending empty, [], p⟩
    else if p.column < indent && parent < p.column then none
    else
      (blockLines? indent (rest.length + 1) rest p).map fun (lines, rest, p) =>
        let addition := if rest.isEmpty && max indent 1 ≤ p.column then ['\n'] else []
        ⟨style.text empty addition lines, rest, p⟩

end JournalSelect.Yaml.Modern
