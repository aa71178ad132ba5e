namespace JournalSelect

-- What a JSON or YAML text writes.
inductive Value where
  | null
  | bool (b : Bool)
  | int (n : Int)
  | real (x : Float)
  | text (s : String)
  | list (items : List Value)
  | map (entries : List (Value × Value))

namespace Value

def hasName (key : Value) (name : String) : Bool :=
  match key with
  | .text s => s == name
  | _ => false

-- Whether a key can name a field at all: by a name, or by the place of the field in the record.
def isKey : Value → Bool
  | .text _ => true
  | .int n => 0 ≤ n
  | _ => false

def names (fields : List String) (key : Value) (field : String) : Bool :=
  match key with
  | .text s => s == field
  | .int n => 0 ≤ n && fields[n.toNat]? == some field
  | _ => false

-- The values that a mapping gives for a field, in order.
def given (fields : List String) (field : String) (entries : List (Value × Value)) : List Value :=
  entries.filterMap fun (key, value) => if key.names fields field then some value else none

-- The value of each field of a record, if it has one. A record is a mapping from names, or the list of the
-- fields in order. No field may be given twice; entries that belong to no field are ignored.
def record? (fields : List String) : Value → Option (List (Option Value))
  | .list items =>
    if items.length ≤ fields.length then some ((List.range fields.length).map (items[·]?)) else none
  | .map entries =>
    if entries.all (·.1.isKey) && fields.all fun field => (given fields field entries).length ≤ 1
    then some (fields.map fun field => (given fields field entries).head?)
    else none
  | _ => none

theorem sizeOf_lt_of_mem_given {fields field entries} {v : Value} (h : v ∈ given fields field entries) :
    sizeOf v < sizeOf entries := by
  simp only [given, List.mem_filterMap] at h
  have ⟨⟨key, value⟩, mem, eq⟩ := h
  split at eq <;> simp at eq
  have := List.sizeOf_lt_of_mem mem
  simp_all
  omega

theorem sizeOf_lt_of_mem_record? {fields slots} {v w : Value} (h : v.record? fields = some slots)
    (m : some w ∈ slots) : sizeOf w < sizeOf v := by
  cases v <;> simp [record?] at h
  case list items =>
    have ⟨_, eq⟩ := h
    simp [← eq] at m
    have ⟨_, _, get⟩ := m
    have := List.sizeOf_lt_of_mem (List.mem_of_getElem? get)
    simp
    omega
  case map entries =>
    have ⟨_, eq⟩ := h
    simp [← eq] at m
    have ⟨_, _, head⟩ := m
    have := sizeOf_lt_of_mem_given (List.mem_of_mem_head? head)
    simp
    omega

end Value

end JournalSelect
