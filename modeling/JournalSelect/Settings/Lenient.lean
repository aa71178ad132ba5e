import JournalSelect.Settings.Encoding
import JournalSelect.Settings.Layer
import JournalSelect.Text.Decimal

namespace JournalSelect.Lenient

open Text

def lowered (s : String) : String :=
  String.ofList (s.toList.map Char.toLower)

def yes : List String :=
  ["true", "on", "yes"]

def no : List String :=
  ["false", "off", "no"]

-- The nearest natural number, the greater of two that are equally near. It has 64 bits at most.
def rounded (x : Float) : Nat :=
  x.round.toUInt64.toNat

-- A word for yes is one and a word for no is zero, in any case of letters.
def natural? : Value → Option Int
  | .bool b => some (if b then 1 else 0)
  | .int n => some n
  | .real x => some (rounded x)
  | .text s =>
    if yes.contains (lowered s) then some 1
    else if no.contains (lowered s) then some 0
    else (unsigned? 10 s.toList).map Int.ofNat
  | _ => none

def bool? : Value → Option Bool
  | .bool b => some b
  | .int n => some (n != 0)
  | .real x => some (x != 0)
  | .text s =>
    if ("1" :: yes).contains (lowered s) then some true
    else if ("0" :: no).contains (lowered s) then some false
    else none
  | _ => none

def text? : Value → Option String
  | .bool b => some (if b then "true" else "false")
  | .int n => some (String.ofList (decimalInt n))
  | .real x => some (floatText x)
  | .text s => some s
  | _ => none

end Lenient

-- A field takes what can be converted to its kind.
def FieldReaders.lenient : FieldReaders where
  word16 v := (Lenient.natural? v).bind word16?
  word32 v := (Lenient.natural? v).bind word32?
  bool := Lenient.bool?
  text := Lenient.text?

-- The slots of a record. Names that are no fields and places beyond the last field are ignored.
def Value.slots? (fields : List String) : Value → Option (List (Option Value))
  | .map entries => some (fields.map (named? · entries))
  | .list items => some ((List.range fields.length).map (items[·]?))
  | _ => none

def Endpoint.lenient? (v : Value) : Option Endpoint :=
  (v.slots? fields).bind (ofSlots? .lenient)

def Settings.lenient? (v : Value) : Option Settings :=
  (v.slots? fields).bind (ofSlots? .lenient Endpoint.lenient?)

-- The defaults with the entries of a layer in place of theirs.
def Settings.ofLayer? (layer : List (Value × Value)) : Option Settings :=
  lenient? (Value.layerOver layer default.toValue)

end JournalSelect
