import JournalSelect.Text.Numeral

namespace JournalSelect.Yaml

-- What becomes of the line breaks at the end of a block scalar.
inductive Chomping where
  | strip
  | clip
  | keep
deriving DecidableEq

structure BlockStyle where
  folded : Bool
  chomping : Chomping
  indent : Option Nat

def indentDigit? (c : Char) : Option Nat :=
  if '1' ≤ c && c ≤ '9' then Text.digit? 10 c else none

def chomping? : Char → Option Chomping
  | '-' => some .strip
  | '+' => some .keep
  | _ => none

-- The indicators behind the mark of a block scalar, in either order.
def blockStyle (folded : Bool) (cs : List Char) : BlockStyle × List Char :=
  match cs with
  | [] => (⟨folded, .clip, none⟩, [])
  | c :: rest =>
    match chomping? c, indentDigit? c, rest with
    | some chomping, _, d :: rest' =>
      match indentDigit? d with
      | some n => (⟨folded, chomping, some n⟩, rest')
      | none => (⟨folded, chomping, none⟩, rest)
    | some chomping, _, [] => (⟨folded, chomping, none⟩, [])
    | none, some n, d :: rest' =>
      match chomping? d with
      | some chomping => (⟨folded, chomping, some n⟩, rest')
      | none => (⟨folded, .clip, some n⟩, rest)
    | none, some n, [] => (⟨folded, .clip, some n⟩, [])
    | none, none, _ => (⟨folded, .clip, none⟩, cs)

-- A line of a block scalar, the break that ends it, which the last line of a text may lack, and the
-- breaks of the empty lines behind it.
structure BlockLine where
  content : List Char
  ending : List Char
  empty : List Char

def BlockLine.isIndented (line : BlockLine) : Bool :=
  line.content.head?.any fun c => c = ' ' || c = '\t'

namespace BlockStyle

-- What joins two lines. Between lines of a folded scalar that are not indented further, a line feed is a
-- space or, before empty lines, nothing.
def joint (style : BlockStyle) (line next : BlockLine) : List Char :=
  if style.folded && line.ending = ['\n'] && !line.isIndented && !next.isIndented then
    if line.empty.isEmpty then [' '] else line.empty
  else line.ending ++ line.empty

-- What is left of the end of the last line. An end of text may add something to its break.
def tail (style : BlockStyle) (addition : List Char) (line : BlockLine) : List Char :=
  match style.chomping with
  | .strip => []
  | .clip => line.ending ++ addition
  | .keep => line.ending ++ addition ++ line.empty

def joined (style : BlockStyle) (addition : List Char) (line : BlockLine) : List BlockLine → List Char
  | [] => line.content ++ style.tail addition line
  | next :: lines => line.content ++ style.joint line next ++ joined style addition next lines

-- The text of a scalar whose first line follows some empty ones.
def text (style : BlockStyle) (empty addition : List Char) : List BlockLine → List Char
  | [] => style.tail addition ⟨[], [], empty⟩
  | line :: lines => empty ++ style.joined addition line lines

end BlockStyle

end JournalSelect.Yaml
