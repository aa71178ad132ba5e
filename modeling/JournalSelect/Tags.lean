import JournalSelect.Value

namespace JournalSelect

-- A value for each of finitely many names.
structure Tags where
  entries : List (String × String)
  distinct : (entries.map Prod.fst).Nodup

namespace Tags

def empty : Tags where
  entries := []
  distinct := .nil

def get? (tags : Tags) (name : String) : Option String :=
  tags.entries.lookup name

def size (tags : Tags) : Nat :=
  tags.entries.length

-- A name that is there already gets the new value.
def insert (tags : Tags) (name value : String) : Tags where
  entries := (name, value) :: tags.entries.filter (·.1 != name)
  distinct := by
    have kept : (tags.entries.filter (·.1 != name)).Sublist tags.entries := List.filter_sublist
    simp [List.nodup_cons, tags.distinct.sublist (kept.map Prod.fst)]

def ofList (entries : List (String × String)) : Tags :=
  entries.foldl (fun tags entry => tags.insert entry.1 entry.2) empty

def textEntry? : Value × Value → Option (String × String)
  | (.text name, .text value) => some (name, value)
  | _ => none

-- Only a mapping from texts to texts is a set of tags.
def ofValue? : Value → Option Tags
  | .map entries => (entries.mapM textEntry?).map ofList
  | _ => none

def toValue (tags : Tags) : Value :=
  .map (tags.entries.map fun (name, value) => (.text name, .text value))

theorem lookup_filter_ne {entries : List (String × String)} {name other : String} (h : other ≠ name) :
    (entries.filter (·.1 != name)).lookup other = entries.lookup other := by
  induction entries
  case nil => rfl
  case cons entry entries hi =>
    obtain ⟨key, value⟩ := entry
    by_cases he : key = name
    case pos => simp [he, hi, List.lookup_cons, beq_false_of_ne h]
    case neg => simp [he, hi, List.lookup_cons]

theorem get?_insert {tags : Tags} {name value other : String} :
    (tags.insert name value).get? other = if other = name then some value else tags.get? other := by
  by_cases h : other = name
  case pos => simp [get?, insert, h]
  case neg => simp [get?, insert, h, List.lookup_cons, beq_false_of_ne h, lookup_filter_ne h]

end Tags

end JournalSelect
