import JournalSelect.Filter.Encoding

namespace JournalSelect

namespace Value

def textEntries (fields : List (String × Value)) : List (Value × Value) :=
  fields.map fun field => (.text field.1, field.2)

def object (fields : List (String × Value)) : Value :=
  .map (textEntries fields)

-- What the fields of a name hold, in order.
def held (name : String) (fields : List (String × Value)) : List Value :=
  fields.filterMap fun field => if field.1 = name then some field.2 else none

-- The record with a list for its only field. The field may be left out when the list is empty.
inductive RecordsList (name : String) : List Value → Value → Prop
  | object {fields items} : held name fields = [.list items] → RecordsList name items (.object fields)
  | omitted {fields}      : held name fields = [] → RecordsList name [] (.object fields)
  | array {items}         : RecordsList name items (.list [.list items])
  | empty                 : RecordsList name [] (.list [])

end Value

open Value (textEntries object held RecordsList)

inductive Condition.EncodedBy (c : Condition) : Value → Prop
  | object {fields} :
    held "operand" fields = [.text c.tag] → held "op" fields = [.text c.operator] →
    held "value" fields = [.text c.value] → EncodedBy c (.object fields)
  | array : EncodedBy c (.list [.text c.tag, .text c.operator, .text c.value])

def BodyKind.name : BodyKind → String
  | condition => "cond"
  | group     => "expr"

-- The fields of a term, next to which there may be any others. There is a body of one kind only.
structure Term.Fields (negated : Bool) (kind : BodyKind) (body : Value)
    (fields : List (String × Value)) : Prop where
  negation : held "not" fields = [.bool negated] ∨ negated = false ∧ held "not" fields = []
  body     : held kind.name fields = [body]
  alone    : ∀ other ≠ kind, held other.name fields = []

-- Empty lists and a negation that is false may be left out, what is unknown may be added, and records may
-- be given as lists.
mutual

inductive Term.EncodedBy : Term → Value → Prop
  | condition {negated c body fields} :
    Term.Fields negated .condition body fields → c.EncodedBy body →
    Term.EncodedBy (.condition negated c) (.object fields)
  | group {negated alternatives body fields} :
    Term.Fields negated .group body fields → FilterEncodedBy alternatives body →
    Term.EncodedBy (.group negated alternatives) (.object fields)

inductive TermsEncodedBy : List Term → List Value → Prop
  | nil : TermsEncodedBy [] []
  | cons {term terms v vs} :
    Term.EncodedBy term v → TermsEncodedBy terms vs → TermsEncodedBy (term :: terms) (v :: vs)

inductive ConjunctionEncodedBy : List Term → Value → Prop
  | mk {terms items v} :
    RecordsList "and" items v → TermsEncodedBy terms items → ConjunctionEncodedBy terms v

inductive AlternativesEncodedBy : List (List Term) → List Value → Prop
  | nil : AlternativesEncodedBy [] []
  | cons {terms alternatives v vs} :
    ConjunctionEncodedBy terms v → AlternativesEncodedBy alternatives vs →
    AlternativesEncodedBy (terms :: alternatives) (v :: vs)

inductive FilterEncodedBy : List (List Term) → Value → Prop
  | mk {alternatives items v} :
    RecordsList "or" items v → AlternativesEncodedBy alternatives items →
    FilterEncodedBy alternatives v

end

section

variable {fields : List (String × Value)} {name : String} {items : List Value} {v : Value}

theorem Value.given_textEntries {names : List String} :
    given names name (textEntries fields) = held name fields := by
  rw [given, held, textEntries, List.filterMap_map]
  refine congrArg (List.filterMap · fields) (funext fun field => ?_)
  simp [Value.names]

theorem Value.all_isKey_textEntries : (textEntries fields).all (·.1.isKey) = true := by
  simp [textEntries, isKey]

theorem Value.map_filter_hasName :
    ((textEntries fields).filter (·.1.hasName name)).map Prod.snd = held name fields := by
  induction fields
  case nil                  => rfl
  case cons field fields hi => by_cases h : field.1 = name <;> simp_all [textEntries, held, hasName]

theorem Value.record?_object {names : List String}
    (h : ∀ name ∈ names, (held name fields).length ≤ 1) :
    (object fields).record? names = some (names.map fun name => (held name fields).head?) := by
  simpa [object, record?, all_isKey_textEntries, given_textEntries] using h

theorem Value.RecordsList.record? (h : RecordsList name items v) :
    v.record? [name] = some [some (.list items)] ∨ v.record? [name] = some [none] ∧ items = [] := by
  cases h
  case object h  => simp [record?_object, h]
  case omitted h => simp [record?_object, h]
  case array     => simp [Value.record?]
  case empty     => simp [Value.record?]

theorem Condition.EncodedBy.ofValue? {c : Condition} (h : c.EncodedBy v) :
    Condition.ofValue? v = some c := by
  cases h
  case object ht ho hv => simp [Condition.ofValue?, Value.record?_object, ht, ho, hv]
  case array           => simp [Condition.ofValue?, Value.record?, List.range, List.range.loop]

theorem BodyKind.ofKey?_text {kind : BodyKind} :
    BodyKind.ofKey? (.text name) = some kind ↔ name = kind.name := by
  unfold BodyKind.ofKey?
  split <;> cases kind <;> simp_all [BodyKind.name]

namespace Term

variable {negated : Bool} {kind : BodyKind} {body : Value}

theorem negated?_textEntries
    (h : held "not" fields = [.bool negated] ∨ negated = false ∧ held "not" fields = []) :
    negated? (textEntries fields) = some negated := by
  rw [←Value.map_filter_hasName] at h
  rw [negated?]
  generalize (textEntries fields).filter (·.1.hasName "not") = given at h
  cases h
  case inl h =>
    obtain ⟨⟨key, _⟩, hg, rfl⟩ := List.map_eq_singleton_iff.mp h
    rw [hg]
  case inr h => simp [List.map_eq_nil_iff.mp h.right, h.left]

theorem body?_textEntries (hb : held kind.name fields = [body])
    (ha : ∀ other ≠ kind, held other.name fields = []) :
    body? (textEntries fields) = some (kind, body) := by
  induction fields
  case nil => simp [held] at hb
  case cons field fields hi =>
    rw [textEntries, List.map_cons, body?]
    cases hk : BodyKind.ofKey? (.text field.1)
    case none =>
      have hn (other : BodyKind) : field.1 ≠ other.name := by
        intro h
        rw [BodyKind.ofKey?_text.mpr h] at hk
        contradiction
      simp only [held, List.filterMap_cons, hn, if_false] at hb ha
      exact hi hb ha
    case some other =>
      have hn := BodyKind.ofKey?_text.mp hk
      by_cases ho : other = kind
      case pos => simp_all [held]
      case neg => exact absurd (ha other ho) (by simp [held, hn])

theorem Fields.ofValue?_object (h : Fields negated kind body fields) :
    ofValue? (object fields) =
    match kind with
    | .condition => (Condition.ofValue? body).map (.condition negated)
    | .group     => (Filter.ofValue? body).map (.group negated) := by
  rw [object, ofValue?_map, Value.all_isKey_textEntries]
  rw [negated?_textEntries h.negation, body?_textEntries h.body h.alone]
  cases kind <;> rfl

end Term

-- By recursion on the tree.
mutual

theorem Term.EncodedBy.ofValue? : ∀ {term : Term} {v : Value},
    term.EncodedBy v → Term.ofValue? v = some term
  | .condition .., _, .condition hf hb => by simp [hf.ofValue?_object, hb.ofValue?]
  | .group .., _, .group hf hb         => by simp [hf.ofValue?_object, hb.ofValue?]

theorem TermsEncodedBy.terms? : ∀ {terms : List Term} {vs : List Value},
    TermsEncodedBy terms vs → terms? vs = some terms
  | [], _, .nil          => by rw [JournalSelect.terms?]
  | _ :: _, _, .cons h h' => by rw [JournalSelect.terms?, h.ofValue?, h'.terms?]

theorem ConjunctionEncodedBy.ofValue? : ∀ {terms : List Term} {v : Value},
    ConjunctionEncodedBy terms v → Conjunction.ofValue? v = some terms
  | _, _, .mk hr ht => by
    rw [Conjunction.ofValue?_eq]
    cases hr.record?
    case inl hr => rw [hr, ←ht.terms?]
    case inr hr =>
      rw [hr.left]
      simpa [hr.right, terms?] using ht.terms?

theorem AlternativesEncodedBy.conjunctions? : ∀ {alternatives : List (List Term)} {vs : List Value},
    AlternativesEncodedBy alternatives vs → conjunctions? vs = some alternatives
  | [], _, .nil          => by rw [JournalSelect.conjunctions?]
  | _ :: _, _, .cons h h' => by rw [JournalSelect.conjunctions?, h.ofValue?, h'.conjunctions?]

theorem FilterEncodedBy.ofValue? : ∀ {alternatives : List (List Term)} {v : Value},
    FilterEncodedBy alternatives v → Filter.ofValue? v = some alternatives
  | _, _, .mk hr ha => by
    rw [Filter.ofValue?_eq]
    cases hr.record?
    case inl hr => rw [hr, ←ha.conjunctions?]
    case inr hr =>
      rw [hr.left]
      simpa [hr.right, conjunctions?] using ha.conjunctions?

end

end

theorem Value.recordsList_written (name : String) (items : List Value) :
    RecordsList name items (.map [(.text name, .list items)]) := by
  change RecordsList name items (object [(name, .list items)])
  exact .object (by simp [held])

theorem Condition.encodedBy_toValue (c : Condition) : c.EncodedBy c.toValue := by
  let fields := [("operand", Value.text c.tag), ("op", .text c.operator), ("value", .text c.value)]
  change c.EncodedBy (object fields)
  exact .object (by simp [held, fields]) (by simp [held, fields]) (by simp [held, fields])

theorem Term.fields_written (negated : Bool) (kind : BodyKind) (body : Value) :
    Fields negated kind body [("not", .bool negated), (kind.name, body)] where
  negation := by cases kind <;> simp [held, BodyKind.name]
  body     := by cases kind <;> simp [held, BodyKind.name]
  alone    := by intro other; cases kind <;> cases other <;> simp [held, BodyKind.name]

mutual

theorem Term.encodedBy_toValue : ∀ term : Term, term.EncodedBy term.toValue
  | .condition _ c => by
    rw [Term.toValue]
    exact .condition (Term.fields_written _ .condition _) c.encodedBy_toValue
  | .group _ alternatives => by
    rw [Term.toValue]
    have ha := alternativesEncodedBy_encode alternatives
    exact .group (Term.fields_written _ .group _) (.mk (Value.recordsList_written _ _) ha)

theorem termsEncodedBy_encode : ∀ terms : List Term, TermsEncodedBy terms (encodeTerms terms)
  | []            => .nil
  | term :: terms => .cons term.encodedBy_toValue (termsEncodedBy_encode terms)

theorem alternativesEncodedBy_encode : ∀ alternatives : List (List Term),
    AlternativesEncodedBy alternatives (encodeAlternatives alternatives)
  | []                    => .nil
  | terms :: alternatives =>
    .cons (.mk (Value.recordsList_written _ _) (termsEncodedBy_encode terms))
      (alternativesEncodedBy_encode alternatives)

end

theorem Filter.encodedBy_toValue (f : Filter) : FilterEncodedBy f f.toValue :=
  .mk (Value.recordsList_written _ _) (alternativesEncodedBy_encode f)

theorem Filter.ofValue?_undoes_encoding (f : Filter) :
    (∀ v, FilterEncodedBy f v → Filter.ofValue? v = some f) ∧
    FilterEncodedBy f f.toValue ∧ Filter.ofValue? f.toValue = some f :=
  have hf := f.encodedBy_toValue
  ⟨fun _ => FilterEncodedBy.ofValue?, hf, hf.ofValue?⟩

-- NOT (() OR env = "prod"), with lists for records, fields that are left out and unknown ones.
theorem Filter.ofValue?_undoes_encoding_mixed_forms :
    let leaf : Value := .list [.text "env", .text "=", .text "prod"]
    let term := object [("note", .null), ("cond", leaf)]
    let inner := object [("or", .list [.list [], object [("and", .list [term]), ("rank", .int 2)]])]
    let v := .list [.list [.list [.list [object [("expr", inner), ("not", .bool true)]]]]]
    let f : Filter := [[.group true [[], [.condition false ⟨"env", "=", "prod"⟩]]]]
    FilterEncodedBy f v ∧ Filter.ofValue? v = some f := by
  intro leaf term inner v f
  have ht : Term.Fields false .condition leaf [("note", .null), ("cond", leaf)] :=
    ⟨.inr ⟨rfl, rfl⟩, rfl, by intro other; cases other <;> simp [held, BodyKind.name]⟩
  have hn : Term.Fields true .group inner [("expr", inner), ("not", .bool true)] :=
    ⟨.inl rfl, rfl, by intro other; cases other <;> simp [held, BodyKind.name]⟩
  have hi : FilterEncodedBy [[], [.condition false ⟨"env", "=", "prod"⟩]] inner :=
    have hc : ConjunctionEncodedBy [.condition false ⟨"env", "=", "prod"⟩] _ :=
      .mk (.object rfl) (.cons (.condition ht .array) .nil)
    .mk (.object rfl) (.cons (.mk .empty .nil) (.cons hc .nil))
  have hv : FilterEncodedBy f v :=
    .mk .array (.cons (.mk .array (.cons (.group hn hi) .nil)) .nil)
  exact ⟨hv, f.ofValue?_undoes_encoding.left v hv⟩

end JournalSelect
