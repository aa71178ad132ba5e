namespace JournalSelect.Yaml

-- Filters and catalogs are written in the classic edition, and settings in the modern one.
inductive Edition where
  | classic
  | modern
deriving DecidableEq, Repr

def isBlank (c : Char) : Bool :=
  c = ' ' || c = '\t'

def isFlowMark (c : Char) : Bool :=
  c = ',' || c = '[' || c = ']' || c = '\x7b' || c = '\x7d'

-- What handles of tags and names of directives consist of.
def isWordChar (c : Char) : Bool :=
  c.isAlphanum || c = '_' || c = '-'

-- What stands behind three equal marks at the start of a text.
def behindMarker? (mark : Char) : List Char → Option (List Char)
  | a :: b :: c :: rest => if a = mark && b = mark && c = mark then some rest else none
  | _ => none

-- Controls other than line breaks and tabs are not allowed, nor are characters that are none.
def isAllowed (c : Char) : Bool :=
  c = '\t' || c = '\n' || c = '\r' || c = '\u0085' || (' ' ≤ c && c ≤ '~') ||
    ('\u00a0' ≤ c && c ≤ '\ufffd') || 0x10000 ≤ c.toNat

namespace Edition

-- In the classic edition the separators of lines and paragraphs break a line too, and keep their identity
-- in a scalar.
def isBreak : Edition → Char → Bool
  | classic, c => c = '\n' || c = '\u2028' || c = '\u2029'
  | modern, c => c = '\n'

-- Whether nothing or something empty comes next.
def isGapNext (e : Edition) : List Char → Bool
  | [] => true
  | c :: _ => isBlank c || e.isBreak c

-- Three equal marks that start or end a document.
def isMarker (e : Edition) (mark : Char) (cs : List Char) : Bool :=
  (behindMarker? mark cs).any e.isGapNext

def isDocumentMarker (e : Edition) (cs : List Char) : Bool :=
  e.isMarker '-' cs || e.isMarker '.' cs

-- A carriage return, alone or before a line feed, is a line feed; so is a next-line character in the
-- classic edition.
def unifyBreaks (e : Edition) : List Char → List Char
  | [] => []
  | '\r' :: '\n' :: cs => '\n' :: unifyBreaks e cs
  | c :: cs =>
    (if c = '\r' || (e = classic && c = '\u0085') then '\n' else c) :: unifyBreaks e cs

-- The characters of a text. The classic edition refuses some, and in the modern one a null character ends
-- the text.
def characters? : Edition → String → Option (List Char)
  | classic, s => if s.toList.all isAllowed then some (unifyBreaks classic s.toList) else none
  | modern, s => some (unifyBreaks modern (s.toList.takeWhile (· != '\x00')))

-- What may stand in a verbatim tag and in what a handle stands for.
def isUriChar (e : Edition) (c : Char) : Bool :=
  isWordChar c || (";/?:@&=+$,.!~*'()[]%".toList.contains c) || (e = modern && c = '#')

-- What may stand in other tags.
def isTagChar (e : Edition) (c : Char) : Bool :=
  e.isUriChar c && !isFlowMark c && (e = classic || c != '!')

-- What may stand in the name of an anchor.
def isAnchorChar : Edition → Char → Bool
  | classic, c => isWordChar c
  | modern, c => !(isBlank c || modern.isBreak c || isFlowMark c || c = '\ufeff')

end Edition

end JournalSelect.Yaml
