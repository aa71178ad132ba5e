import JournalSelect.Text.Numeral
import JournalSelect.Yaml.Scalar

namespace JournalSelect.Yaml

-- What no line of a quoted scalar may start with.
def isOutside (e : Edition) (margin : Int) (p : Position) (cs : List Char) : Bool :=
  p.column < margin || (p.column = 0 && e.isDocumentMarker cs)

-- Whether this blank would be a tab left of the margin.
def isTabOutside (margin : Int) (gap : Gap) (p : Position) (c : Char) : Bool :=
  gap.isBreak && c = '\t' && p.column < margin

-- A quoted scalar behind its first quote.
def singleQuoted? (e : Edition) (margin : Int) (before : List Char) (gap : Gap) :
    List Char → Position → Option Reading
  | [], _ => none
  | c :: cs, p =>
    if e.isBreak c then singleQuoted? e margin before (gap.addBreak c) cs p.down
    else if isBlank c then
      if isTabOutside margin gap p c then none
      else singleQuoted? e margin before (gap.addBlank c) cs p.right
    else if isOutside e margin p (c :: cs) then none
    else
      let before := gap.text.reverse ++ before
      if c = '\'' then
        match cs with
        | '\'' :: cs => singleQuoted? e margin ('\'' :: before) .none cs (p.rightBy 2)
        | _ => some ⟨before.reverse, cs, p.right⟩
      else singleQuoted? e margin (c :: before) .none cs p.right

def unescape? : Char → Option Char
  | '0' => some '\x00'
  | 'a' => some '\x07'
  | 'b' => some '\x08'
  | 't' => some '\t'
  | '\t' => some '\t'
  | 'n' => some '\n'
  | 'v' => some '\x0b'
  | 'f' => some '\x0c'
  | 'r' => some '\r'
  | 'e' => some '\x1b'
  | ' ' => some ' '
  | '"' => some '"'
  | '/' => some '/'
  | '\\' => some '\\'
  | 'N' => some '\u0085'
  | '_' => some '\u00a0'
  | 'L' => some '\u2028'
  | 'P' => some '\u2029'
  | _ => none

-- The character with a number; half of a surrogate pair is none.
def character? (n : Nat) : Option Char :=
  if n.isValidChar then some (Char.ofNat n) else none

def codePoint? (digits : List Char) : Option Char :=
  (Text.natural? 16 digits).bind character?

-- An escaped line break joins two lines. A quote right behind it may stand left of the margin.
def doubleQuoted? (e : Edition) (margin : Int) (joined : Bool) (before : List Char) (gap : Gap) :
    List Char → Position → Option Reading
  | [], _ => none
  | c :: cs, p =>
    if e.isBreak c then doubleQuoted? e margin false before (gap.addBreak c) cs p.down
    else if isBlank c then
      if isTabOutside margin gap p c then none
      else doubleQuoted? e margin false before (gap.addBlank c) cs p.right
    else if !(joined && c = '"') && isOutside e margin p (c :: cs) then none
    else
      let before := gap.text.reverse ++ before
      if c = '"' then some ⟨before.reverse, cs, p.right⟩
      else if c = '\\' then
        match cs with
        | 'x' :: a :: b :: cs =>
          (codePoint? [a, b]).bind fun d =>
            doubleQuoted? e margin false (d :: before) .none cs (p.rightBy 4)
        | 'u' :: a :: b :: c :: d :: cs =>
          (codePoint? [a, b, c, d]).bind fun d =>
            doubleQuoted? e margin false (d :: before) .none cs (p.rightBy 6)
        | 'U' :: a :: b :: c :: d :: i :: j :: k :: l :: cs =>
          (codePoint? [a, b, c, d, i, j, k, l]).bind fun d =>
            doubleQuoted? e margin false (d :: before) .none cs (p.rightBy 10)
        | letter :: cs =>
          if e.isBreak letter then doubleQuoted? e margin true before (.breaks [] []) cs p.right.down
          else (unescape? letter).bind fun d =>
            doubleQuoted? e margin false (d :: before) .none cs (p.rightBy 2)
        | [] => none
      else doubleQuoted? e margin false (c :: before) .none cs p.right

end JournalSelect.Yaml
