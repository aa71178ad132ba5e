import JournalSelect.Settings.Path
import JournalSelect.Value

namespace JournalSelect.Value

def entries : Value → List (Value × Value)
  | .map entries => entries
  | _ => []

def items : Value → List Value
  | .list items => items
  | _ => []

def named? (name : String) (entries : List (Value × Value)) : Option Value :=
  (entries.find? fun entry => entry.1.hasName name).map Prod.snd

-- Changes the entry with a name. If there is none it is added, as a change of null.
def alter (name : String) (change : Value → Value) : List (Value × Value) → List (Value × Value)
  | [] => [(.text name, change .null)]
  | (key, v) :: entries =>
    if key.hasName name then (key, change v) :: entries else (key, v) :: alter name change entries

-- Changes the item at a place. Nulls are added before or behind the items until there is one.
def alterPlace (i : Int) (change : Value → Value) (items : List Value) : List Value :=
  if 0 ≤ i then
    (items ++ List.replicate (i.toNat + 1 - items.length) Value.null).modify i.toNat change
  else
    let items := List.replicate (i.natAbs - items.length) Value.null ++ items
    items.modify (items.length - i.natAbs) change

-- Changes what a path leads to. What stands in the way of the path gives way to an empty mapping or
-- list.
def alterAt (change : Value → Value) : List PathStep → Value → Value
  | [], v => change v
  | .name s :: path, v => .map (alter s (alterAt change path) v.entries)
  | .place i :: path, v => .list (alterPlace i (alterAt change path) v.items)

mutual

-- The first value laid over the second one. Mappings are merged entry by entry, and any other value
-- replaces what it is laid over.
def laidOver : Value → Value → Value
  | .map layer, base => .map (entriesOver layer base.entries)
  | .null, _ => .null
  | .bool b, _ => .bool b
  | .int n, _ => .int n
  | .real x, _ => .real x
  | .text s, _ => .text s
  | .list items, _ => .list items

def entriesOver : List (Value × Value) → List (Value × Value) → List (Value × Value)
  | [], base => base
  | (.text name, v) :: layer, base => entriesOver layer (alter name (laidOver v) base)
  | _ :: layer, base => entriesOver layer base

end

-- The outermost names of a layer are paths.
def layerOver (layer : List (Value × Value)) (base : Value) : Value :=
  layer.foldl (fun base (key, v) =>
    match key with
    | .text s => alterAt (laidOver v) (pathOf s) base
    | _ => base) base

end JournalSelect.Value
