import JournalSelect.Filter.Basic
import JournalSelect.Value

namespace JournalSelect

def Condition.toValue (c : Condition) : Value :=
  .map [
    (.text "operand", .text c.tag),
    (.text "op", .text c.operator),
    (.text "value", .text c.value)]

def Condition.ofValue? (v : Value) : Option Condition :=
  match v.record? ["operand", "op", "value"] with
  | some [some (.text tag), some (.text operator), some (.text value)] => some ⟨tag, operator, value⟩
  | _ => none

-- Alternatives as the record that holds them.
def Value.alternatives (items : List Value) : Value :=
  .map [(.text "or", .list items)]

-- A filter is a record of its alternatives, and a conjunction is a record of its terms. A term is a mapping
-- that holds its body under a name for its kind.
mutual

def Term.toValue : Term → Value
  | .condition negated c => .map [(.text "not", .bool negated), (.text "cond", c.toValue)]
  | .group negated alternatives =>
    .map [(.text "not", .bool negated), (.text "expr", .alternatives (encodeAlternatives alternatives))]

def encodeTerms : List Term → List Value
  | [] => []
  | term :: terms => term.toValue :: encodeTerms terms

def encodeAlternatives : List (List Term) → List Value
  | [] => []
  | terms :: alternatives =>
    .map [(.text "and", .list (encodeTerms terms))] :: encodeAlternatives alternatives

end

def Filter.toValue (f : Filter) : Value :=
  .alternatives (encodeAlternatives f)

inductive BodyKind where
  | condition
  | group
deriving DecidableEq, Repr

def BodyKind.ofKey? : Value → Option BodyKind
  | .text "cond" => some .condition
  | .text "expr" => some .group
  | _ => none

namespace Term

-- The first entry that holds a body decides.
def body? : List (Value × Value) → Option (BodyKind × Value)
  | [] => none
  | (key, v) :: entries =>
    match BodyKind.ofKey? key with
    | some kind => some (kind, v)
    | none => body? entries

-- A term is not negated unless it says so, which it may do once.
def negated? (entries : List (Value × Value)) : Option Bool :=
  match entries.filter (·.1.hasName "not") with
  | [] => some false
  | [(_, .bool negated)] => some negated
  | _ => none

theorem sizeOf_lt_of_body? {entries kind v} (h : body? entries = some (kind, v)) :
    sizeOf v < sizeOf entries := by
  fun_induction body? entries <;> grind [Prod.mk.sizeOf_spec]

end Term

theorem Value.sizeOf_lt_of_record?_list {fields slots} {v : Value} {items : List Value}
    (h : v.record? fields = some slots) (m : some (.list items) ∈ slots) : sizeOf items < sizeOf v := by
  have := sizeOf_lt_of_mem_record? h m
  simp at this
  omega

mutual

def Filter.ofValue? (v : Value) : Option (List (List Term)) :=
  match h : v.record? ["or"] with
  | some [none] => some []
  | some [some (.list items)] =>
    have := Value.sizeOf_lt_of_record?_list h (List.mem_singleton_self _)
    conjunctions? items
  | _ => none
termination_by sizeOf v

def conjunctions? (items : List Value) : Option (List (List Term)) :=
  match items with
  | [] => some []
  | v :: vs =>
    match Conjunction.ofValue? v, conjunctions? vs with
    | some terms, some rest => some (terms :: rest)
    | _, _ => none
termination_by sizeOf items

def Conjunction.ofValue? (v : Value) : Option (List Term) :=
  match h : v.record? ["and"] with
  | some [none] => some []
  | some [some (.list items)] =>
    have := Value.sizeOf_lt_of_record?_list h (List.mem_singleton_self _)
    terms? items
  | _ => none
termination_by sizeOf v

def terms? (items : List Value) : Option (List Term) :=
  match items with
  | [] => some []
  | v :: vs =>
    match Term.ofValue? v, terms? vs with
    | some term, some rest => some (term :: rest)
    | _, _ => none
termination_by sizeOf items

def Term.ofValue? (v : Value) : Option Term :=
  match v with
  | .map entries =>
    if entries.all (·.1.isKey) then
      match Term.negated? entries with
      | none => none
      | some negated =>
        match h : Term.body? entries with
        | none => none
        | some (.condition, body) => (Condition.ofValue? body).map (.condition negated)
        | some (.group, body) =>
          have := Term.sizeOf_lt_of_body? h
          (Filter.ofValue? body).map (.group negated)
    else none
  | _ => none
termination_by sizeOf v

end

theorem Filter.ofValue?_eq (v : Value) : Filter.ofValue? v =
    match v.record? ["or"] with
    | some [none] => some []
    | some [some (.list items)] => conjunctions? items
    | _ => none := by
  rw [Filter.ofValue?]
  split <;> simp_all

theorem Conjunction.ofValue?_eq (v : Value) : Conjunction.ofValue? v =
    match v.record? ["and"] with
    | some [none] => some []
    | some [some (.list items)] => terms? items
    | _ => none := by
  rw [Conjunction.ofValue?]
  split <;> simp_all

theorem Term.ofValue?_map (entries : List (Value × Value)) : Term.ofValue? (.map entries) =
    if entries.all (·.1.isKey) then
      match Term.negated? entries, Term.body? entries with
      | some negated, some (.condition, body) => (Condition.ofValue? body).map (.condition negated)
      | some negated, some (.group, body) => (Filter.ofValue? body).map (.group negated)
      | _, _ => none
    else none := by
  rw [Term.ofValue?]
  repeat' split
  all_goals simp_all

end JournalSelect
