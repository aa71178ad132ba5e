import JournalSelect.Text.Decimal
import JournalSelect.Value

namespace JournalSelect.Yaml.Plain

open Text

def bool? (s : String) : Option Bool :=
  if ["true", "True", "TRUE"].contains s then some true
  else if ["false", "False", "FALSE"].contains s then some false
  else none

def infinities : List (String × Float) := [
  (".inf", 1 / 0), (".Inf", 1 / 0), (".INF", 1 / 0),
  ("+.inf", 1 / 0), ("+.Inf", 1 / 0), ("+.INF", 1 / 0),
  ("-.inf", -1 / 0), ("-.Inf", -1 / 0), ("-.INF", -1 / 0)]

def notNumbers : List String :=
  [".nan", ".NaN", ".NAN"]

-- Digits alone, the first of them a zero that is not the last.
def hasLeadingZero (cs : List Char) : Bool :=
  let digits := match cs with
    | '-' :: cs => cs
    | '+' :: cs => cs
    | cs => cs
  match digits with
  | '0' :: d :: ds => (d :: ds).all Char.isDigit
  | _ => false

-- A natural number in the base that its mark names, or in base ten.
def magnitude? : List Char → Option Nat
  | '0' :: 'x' :: cs => natural? 16 cs
  | '0' :: 'o' :: cs => natural? 8 cs
  | '0' :: 'b' :: cs => natural? 2 cs
  | cs => natural? 10 cs

-- A sign comes before the mark of the base.
def integer? (cs : List Char) : Option (Bool × Nat) :=
  if hasLeadingZero cs then none
  else match cs with
    | '-' :: cs => (magnitude? cs).map (true, ·)
    | '+' :: cs => (magnitude? cs).map (false, ·)
    | cs => (magnitude? cs).map (false, ·)

-- A number with a fraction, an exponent or neither. What it stands for is finite unless it is written as one
-- of the infinities.
def number? (s : String) : Option Float :=
  match infinities.lookup s with
  | some x => some x
  | none =>
    if notNumbers.contains s then some (0 / 0)
    else
      match Decimal.ofChars? s.toList with
      | some d => if d.toFloat.isInf then none else some d.toFloat
      | none => none

def real? (s : String) : Option Float :=
  if hasLeadingZero s.toList then none else number? s

def realOrText (s : String) : Value :=
  match real? s with
  | some x => .real x
  | none => .text s

-- An integer of 64 bits. Zero with a minus sign is no integer.
def word? : Bool × Nat → Option Value
  | (false, n) => if n < 1 <<< 64 then some (.int n) else none
  | (true, n) => if n = 0 then some (.real (-0.0)) else if n ≤ 1 <<< 63 then some (.int (-n)) else none

def isDoubleWord : Bool × Nat → Bool
  | (false, n) => n < 1 <<< 128
  | (true, n) => n ≤ 1 <<< 127

def nulls : List String :=
  ["~", "null", "Null", "NULL"]

-- The reading of the classic edition, in which a numeral with leading zeros is a text. An integer of more
-- than 64 and at most 128 bits has no value.
def classic? (s : String) : Option Value :=
  if s.isEmpty || nulls.contains s then some .null
  else match bool? s with
    | some b => some (.bool b)
    | none =>
      match integer? s.toList with
      | none => some (realOrText s)
      | some n =>
        match word? n with
        | some v => some v
        | none => if isDoubleWord n then none else some (realOrText s)

-- What a scalar is taken for in the modern edition, in which whatever can be read as a number is one. A
-- number that is no integer keeps its characters.
inductive Kind where
  | null
  | bool (b : Bool)
  | int (n : Int)
  | number (source : String)
  | text (s : String)
deriving DecidableEq, Repr

def int64? (n : Option Int) : Option Int :=
  n.filter fun n => Int64.minValue.toInt ≤ n && n ≤ Int64.maxValue.toInt

-- An integer of 64 bits. A sign comes behind the mark of the base, and may follow a plus sign.
def markedInteger? (cs : List Char) : Option Int :=
  match cs with
  | '0' :: 'x' :: cs => int64? (signed? 16 cs)
  | '0' :: 'o' :: cs => int64? (signed? 8 cs)
  | '+' :: cs => int64? (signed? 10 cs)
  | cs => int64? (signed? 10 cs)

def isNumber (s : String) : Bool :=
  (infinities.lookup s).isSome || notNumbers.contains s || (Decimal.ofChars? s.toList).isSome

def kind (s : String) : Kind :=
  if ["", "~", "null"].contains s then .null
  else match bool? s with
    | some b => .bool b
    | none =>
      match markedInteger? s.toList with
      | some n => .int n
      | none => if isNumber s then .number s else .text s

namespace Kind

-- What is written in its own way, because it is no finite number, has no value.
def value? : Kind → Option Value
  | null => some .null
  | bool b => some (.bool b)
  | int n => some (.int n)
  | number source => (Decimal.ofChars? source.toList).map fun d => .real d.toFloat
  | text s => some (.text s)

-- The name of an entry with this key.
def name? : Kind → Option String
  | null => none
  | bool b => some (if b then "true" else "false")
  | int n => some (String.ofList (decimalInt n))
  | number source => some source
  | text s => some s

-- What a scalar is taken for that says its type, by the name of the type. It has to be of the type it names;
-- an unknown type is that of texts.
def ofType? (type s : String) : Option Kind :=
  if type = "bool" then
    if s = "true" then some (.bool true) else if s = "false" then some (.bool false) else none
  else if type = "int" then (int64? (signed? 10 s.toList)).map int
  else if type = "float" then if isNumber s then some (number s) else none
  else if type = "null" then if ["~", "null"].contains s then some null else none
  else some (text s)

end Kind

end JournalSelect.Yaml.Plain
