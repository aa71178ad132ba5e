import JournalSelect.Yaml.Block
import JournalSelect.Yaml.Scalar

namespace JournalSelect.Yaml.Classic

open Edition (classic)

-- A plain scalar, which must stay right of its parent. It ends at a comment, a document marker, a colon
-- before a gap or, in a flow collection, a mark. The second result says whether line breaks follow it.
def plain? (flow : Bool) (parent : Int) (before : List Char) (gap : Gap) :
    List Char → Position → Option (Reading × Bool)
  | [], p => some (⟨before.reverse, [], p⟩, gap.isBreak)
  | c :: cs, p =>
    if classic.isBreak c then plain? flow parent before (gap.addBreak c) cs p.down
    else if isBlank c then
      if gap.isBreak && c = '\t' && p.column < parent + 1 then none
      else plain? flow parent before (gap.addBlank c) cs p.right
    else if !gap.isNone && (c = '#' || (!flow && p.column < parent + 1)) ||
        p.column = 0 && classic.isDocumentMarker (c :: cs) then
      some (⟨before.reverse, c :: cs, p⟩, gap.isBreak)
    else if flow && c = ':' && cs.head?.any fun next => isFlowMark next || next = '?' then none
    else if c = ':' && classic.isGapNext cs || flow && isFlowMark c then
      some (⟨before.reverse, c :: cs, p⟩, gap.isBreak)
    else plain? flow parent (c :: (gap.text.reverse ++ before)) .none cs p.right

-- Indentation and empty lines before the next line of a block scalar: the line breaks, last first, and
-- the widest indentation seen. An indentation of nothing is not known yet.
def emptyLines? (indent : Option Nat) (breaks : List Char) (widest : Nat) :
    List Char → Position → Option (List Char × Nat × List Char × Position)
  | [], p => some (breaks.reverse, max widest p.column, [], p)
  | c :: cs, p =>
    let inMargin := indent.all (p.column < ·)
    if c = ' ' && inMargin then emptyLines? indent breaks (max widest p.right.column) cs p.right
    else if c = '\t' && inMargin then none
    else if classic.isBreak c then emptyLines? indent (c :: breaks) widest cs p.down
    else some (breaks.reverse, max widest p.column, c :: cs, p)

-- The lines of a block scalar at the given indentation, and what is left. Each takes a character, so as many
-- rounds as there are characters suffice.
def blockLines? (indent : Nat) : Nat → List Char → Position →
    Option (List BlockLine × List Char × Position)
  | 0, _, _ => none
  | rounds + 1, cs, p =>
    if p.column = indent && !cs.isEmpty then
      let content := cs.takeWhile (!classic.isBreak ·)
      let p := p.rightBy content.length
      let (ending, cs, p) := match cs.drop content.length with
        | [] => ([], [], p)
        | c :: cs => ([c], cs, p.down)
      match emptyLines? (some indent) [] 0 cs p with
      | none => none
      | some (empty, _, cs, p) =>
        (blockLines? indent rounds cs p).map fun (lines, rest) => (⟨content, ending, empty⟩ :: lines, rest)
    else some ([], cs, p)

-- A block scalar behind its mark. Its lines are indented more than its parent.
def block? (folded : Bool) (parent : Int) (cs : List Char) (p : Position) : Option Reading :=
  let (style, rest) := blockStyle folded cs
  let rest := rest.dropWhile isBlank
  let comment := if rest.head? = some '#' then rest.takeWhile (!classic.isBreak ·) else []
  let rest := rest.drop comment.length
  let p := p.rightBy (cs.length - rest.length)
  let start := match rest with
    | [] => some ([], p)
    | c :: rest => if classic.isBreak c then some (rest, p.down) else none
  match start with
  | none => none
  | some (rest, p) =>
    let known := style.indent.map fun n => if 0 ≤ parent then parent.toNat + n else n
    match emptyLines? known [] 0 rest p with
    | none => none
    | some (empty, widest, rest, p) =>
      let indent := known.getD (max widest (max (parent + 1).toNat 1))
      (blockLines? indent (rest.length + 1) rest p).map fun (lines, rest, p) =>
        ⟨style.text empty [] lines, rest, p⟩

end JournalSelect.Yaml.Classic
