import JournalSelect.Json.Token

namespace JournalSelect

-- The entries with one more, in ascending order of their names; a name that is there already gets the
-- new value.
def Value.insertEntry (name : String) (v : Value) : List (Value × Value) → List (Value × Value)
  | [] => [(.text name, v)]
  | (key, old) :: entries =>
    match key with
    | .text s =>
      if name < s then (.text name, v) :: (key, old) :: entries
      else if name = s then (.text name, v) :: entries
      else (key, old) :: insertEntry name v entries
    | _ => (key, old) :: insertEntry name v entries

namespace Json

-- A place for a value inside a list or a mapping, with what stands before it.
inductive Place where
  | item (before : List Value)
  | entry (before : List (Value × Value)) (name : String)

-- What may come next. What is unfinished stands on a stack of places, the innermost list or mapping first.
inductive State where
  | value (places : List Place)
  | firstItem (places : List Place)
  | firstName (places : List Place)
  | nextName (before : List (Value × Value)) (places : List Place)
  | mark (before : List (Value × Value)) (name : String) (places : List Place)
  | done (v : Value) (places : List Place)

-- Lists and mappings may be nested this deep.
def maxDepth : Nat := 127

def begin? (places : List Place) : Token → Option State
  | .scalar v => some (.done v places)
  | .openList => if places.length < maxDepth then some (.firstItem places) else none
  | .openMap => if places.length < maxDepth then some (.firstName places) else none
  | _ => none

def State.step? : State → Token → Option State
  | .value places, token => begin? places token
  | .firstItem places, .closeList => some (.done (.list []) places)
  | .firstItem places, token => begin? (.item [] :: places) token
  | .firstName places, .closeMap => some (.done (.map []) places)
  | .firstName places, .scalar (.text name) => some (.mark [] name places)
  | .nextName before places, .scalar (.text name) => some (.mark before name places)
  | .mark before name places, .colon => some (.value (.entry before name :: places))
  | .done v (.item before :: places), .comma => some (.value (.item (v :: before) :: places))
  | .done v (.item before :: places), .closeList => some (.done (.list (v :: before).reverse) places)
  | .done v (.entry before name :: places), .comma =>
    some (.nextName (Value.insertEntry name v before) places)
  | .done v (.entry before name :: places), .closeMap =>
    some (.done (.map (Value.insertEntry name v before)) places)
  | _, _ => none

def State.run? : State → List Token → Option State
  | s, [] => some s
  | s, token :: tokens => (s.step? token).bind (·.run? tokens)

def ofTokens? (tokens : List Token) : Option Value :=
  match (State.value []).run? tokens with
  | some (.done v []) => some v
  | _ => none

def read? (s : String) : Option Value :=
  (tokens? s.toList).bind ofTokens?

end Json

end JournalSelect
