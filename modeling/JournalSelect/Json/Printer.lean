import JournalSelect.Text.Decimal
import JournalSelect.Value

namespace JournalSelect.Json

open Text

-- A quote, a backslash and the controls are escaped; all other characters stand for themselves.
def escape : Char → List Char
  | '"' => ['\\', '"']
  | '\\' => ['\\', '\\']
  | '\x08' => ['\\', 'b']
  | '\x0c' => ['\\', 'f']
  | '\n' => ['\\', 'n']
  | '\r' => ['\\', 'r']
  | '\t' => ['\\', 't']
  | c =>
    if c.toNat < 0x20 then ['\\', 'u', '0', '0', Nat.digitChar (c.toNat / 16), Nat.digitChar (c.toNat % 16)]
    else [c]

def textLiteral (s : String) : List Char :=
  '"' :: s.toList.flatMap escape ++ ['"']

-- A number that is no integer keeps a point; what JSON has no number for is null.
def realLiteral (x : Float) : List Char :=
  if x.isNaN || x.isInf then "null".toList
  else
    let digits := (floatText x).toList
    if digits.contains '.' then digits else digits ++ ['.', '0']

def joined (separator : List Char) : List (List Char) → List Char
  | [] => []
  | [part] => part
  | part :: parts => part ++ separator ++ joined separator parts

-- A value on a single line.
mutual

def compact : Value → List Char
  | .null => "null".toList
  | .bool b => (if b then "true" else "false").toList
  | .int n => decimalInt n
  | .real x => realLiteral x
  | .text s => textLiteral s
  | .list items => '[' :: joined [','] (compactItems items) ++ [']']
  | .map entries => '\x7b' :: joined [','] (compactEntries entries) ++ ['\x7d']

def compactItems : List Value → List (List Char)
  | [] => []
  | v :: vs => compact v :: compactItems vs

-- A name is a text. A key of another kind is named by its own JSON text.
def compactEntries : List (Value × Value) → List (List Char)
  | [] => []
  | (.text s, v) :: entries => (textLiteral s ++ ':' :: compact v) :: compactEntries entries
  | (key, v) :: entries =>
    (textLiteral (String.ofList (compact key)) ++ ':' :: compact v) :: compactEntries entries

end

def nameLiteral : Value → List Char
  | .text s => textLiteral s
  | key => textLiteral (String.ofList (compact key))

def newline (depth : Nat) : List Char :=
  '\n' :: List.replicate (2 * depth) ' '

-- Each part on a line of its own, between brackets; nothing at all between the brackets if there are
-- no parts.
def block (opening closing : Char) (depth : Nat) (parts : List (List Char)) : List Char :=
  if parts.isEmpty then [opening, closing]
  else
    opening :: newline (depth + 1) ++ joined (',' :: newline (depth + 1)) parts ++ newline depth
      ++ [closing]

-- A value with each of its parts on a line of its own.
mutual

def pretty (depth : Nat) : Value → List Char
  | .list items => block '[' ']' depth (prettyItems (depth + 1) items)
  | .map entries => block '\x7b' '\x7d' depth (prettyEntries (depth + 1) entries)
  | v => compact v

def prettyItems (depth : Nat) : List Value → List (List Char)
  | [] => []
  | v :: vs => pretty depth v :: prettyItems depth vs

def prettyEntries (depth : Nat) : List (Value × Value) → List (List Char)
  | [] => []
  | (key, v) :: entries =>
    (nameLiteral key ++ ':' :: ' ' :: pretty depth v) :: prettyEntries depth entries

end

end JournalSelect.Json
