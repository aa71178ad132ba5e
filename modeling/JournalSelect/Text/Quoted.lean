import JournalSelect.Text.Graphic

namespace JournalSelect.Text

-- The characters that have an escape of their own, with its letter.
def escapeLetter? : Char → Option Char
  | '\\' => some '\\'
  | '\t' => some 't'
  | '\r' => some 'r'
  | '\n' => some 'n'
  | '\x00' => some '0'
  | _ => none

-- The code point in hexadecimal, in lower case and without padding.
def escapeCode (c : Char) : List Char :=
  ['\\', 'u', '\x7b'] ++ Nat.toDigits 16 c.toNat ++ ['\x7d']

-- Graphic characters stand for themselves, and all others are written by their letter or by their code
-- point.
def escape (delimiter c : Char) : List Char :=
  match escapeLetter? c with
  | some letter => ['\\', letter]
  | none =>
    if c = delimiter then ['\\', c]
    else if isGraphic c then [c]
    else escapeCode c

def quotedBy (delimiter : Char) (cs : List Char) : List Char :=
  delimiter :: cs.flatMap (escape delimiter) ++ [delimiter]

def quoted (s : String) : String :=
  String.ofList (quotedBy '"' s.toList)

def quotedChar (c : Char) : String :=
  String.ofList (quotedBy '\'' [c])

end JournalSelect.Text
