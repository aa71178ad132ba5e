import JournalSelect.Proofs.Filter.Encoding

namespace JournalSelect

namespace Term

-- The entries that hold no body.
def others (entries : List (Value × Value)) : List (Value × Value) :=
  entries.filter fun entry => (BodyKind.ofKey? entry.1).isNone

-- The entries without any body behind the first one.
def withFirstBody : List (Value × Value) → List (Value × Value)
  | [] => []
  | entry :: entries =>
    if (BodyKind.ofKey? entry.1).isNone then entry :: withFirstBody entries else entry :: others entries

end Term

namespace Value

mutual

-- The value with the first body only in each of its mappings, at any depth.
def withFirstBodies : Value → Value
  | .list items => .list (itemsWithFirstBodies items)
  | .map entries => .map (Term.withFirstBody (entriesWithFirstBodies entries))
  | v => v

def itemsWithFirstBodies : List Value → List Value
  | [] => []
  | v :: vs => v.withFirstBodies :: itemsWithFirstBodies vs

def entriesWithFirstBodies : List (Value × Value) → List (Value × Value)
  | [] => []
  | (key, v) :: entries => (key, v.withFirstBodies) :: entriesWithFirstBodies entries

end

theorem itemsWithFirstBodies_eq_map (items : List Value) :
    itemsWithFirstBodies items = items.map withFirstBodies := by
  induction items
  case nil          => rw [itemsWithFirstBodies, List.map_nil]
  case cons v vs hi => rw [itemsWithFirstBodies, hi, List.map_cons]

theorem entriesWithFirstBodies_eq_map (entries : List (Value × Value)) :
    entriesWithFirstBodies entries = entries.map fun entry => (entry.1, entry.2.withFirstBodies) := by
  induction entries
  case nil                   => rw [entriesWithFirstBodies, List.map_nil]
  case cons entry entries hi => rw [entriesWithFirstBodies, hi, List.map_cons]

end Value

variable {entries : List (Value × Value)} {names : List String} {name : String} {key v : Value}
  {kind : BodyKind}

theorem BodyKind.ofKey?_eq_some_iff : BodyKind.ofKey? key = some kind ↔ key = .text kind.name := by
  unfold BodyKind.ofKey?
  split <;> cases kind <;> simp_all [BodyKind.name]

namespace Term

theorem others_withFirstBody : others (withFirstBody entries) = others entries := by
  fun_induction withFirstBody entries
  case case1      => rfl
  case case2 h hi => simpa [others, h] using hi
  case case3 h    => simp [others, h]

theorem sublist_withFirstBody : (withFirstBody entries).Sublist entries := by
  fun_induction withFirstBody entries
  case case1    => exact .slnil
  case case2 hi => exact hi.cons_cons _
  case case3    => exact List.filter_sublist.cons_cons _

theorem body?_withFirstBody : body? (withFirstBody entries) = body? entries := by
  fun_induction withFirstBody entries
  case case1      => rfl
  case case2 h hi => simp [body?, hi]
  case case3 h    =>
    obtain ⟨kind, hk⟩ := Option.ne_none_iff_exists'.mp (mt Option.isNone_iff_eq_none.mpr h)
    simp [body?, hk]

theorem body?_of_mem_withFirstBody {entry : Value × Value}
    (hm : entry ∈ withFirstBody entries) (hk : BodyKind.ofKey? entry.1 = some kind) :
    ∃ v, body? entries = some (kind, v) := by
  fun_induction withFirstBody entries
  case case1 => simp at hm
  case case2 first entries h hi =>
    rcases List.mem_cons.mp hm with rfl | hm
    · simp [hk] at h
    · have ⟨v, hv⟩ := hi hm
      exact ⟨v, by simp_all [body?]⟩
  case case3 first entries h =>
    rcases List.mem_cons.mp hm with rfl | hm
    · simp [body?, hk]
    · simp [others, hk] at hm

theorem given_others (hn : ∀ kind : BodyKind, name ≠ kind.name) :
    Value.given names name (others entries) = Value.given names name entries := by
  rw [Value.given, others, List.filterMap_filter]
  congr
  funext entry
  cases hk : BodyKind.ofKey? entry.1
  case none      => rfl
  case some kind => simp [BodyKind.ofKey?_eq_some_iff.mp hk, Value.names, (hn kind).symm]

theorem all_isKey_others : (others entries).all (·.1.isKey) = entries.all (·.1.isKey) := by
  rw [others, List.all_filter]
  congr
  funext entry
  cases hk : BodyKind.ofKey? entry.1
  case none      => rfl
  case some kind => simp [BodyKind.ofKey?_eq_some_iff.mp hk, Value.isKey]

theorem negated?_others : negated? (others entries) = negated? entries := by
  have hf : (others entries).filter (·.1.hasName "not") = entries.filter (·.1.hasName "not") := by
    rw [others, List.filter_filter]
    congr
    funext entry
    cases hk : BodyKind.ofKey? entry.1
    case none      => simp
    case some kind => cases kind <;> simp [BodyKind.ofKey?_eq_some_iff.mp hk, Value.hasName, BodyKind.name]
  rw [negated?, hf, negated?]

end Term

namespace Value

theorem given_entriesWithFirstBodies :
    given names name (entriesWithFirstBodies entries) = (given names name entries).map withFirstBodies := by
  rw [entriesWithFirstBodies_eq_map, given, given, List.filterMap_map, List.map_filterMap]
  congr
  funext entry
  simp only [Function.comp]
  split <;> rfl

theorem given_withFirstBodies (hn : ∀ kind : BodyKind, name ≠ kind.name) :
    given names name (Term.withFirstBody (entriesWithFirstBodies entries)) =
    (given names name entries).map withFirstBodies := by
  rw [←Term.given_others hn, Term.others_withFirstBody, Term.given_others hn, given_entriesWithFirstBodies]

theorem all_isKey_withFirstBodies :
    (Term.withFirstBody (entriesWithFirstBodies entries)).all (·.1.isKey) = entries.all (·.1.isKey) := by
  rw [←Term.all_isKey_others, Term.others_withFirstBody, Term.all_isKey_others,
    entriesWithFirstBodies_eq_map, List.all_map]
  rfl

theorem record?_withFirstBodies (hn : ∀ name ∈ names, ∀ kind : BodyKind, name ≠ kind.name) :
    v.withFirstBodies.record? names = (v.record? names).map (·.map (·.map withFirstBodies)) := by
  cases v <;> simp only [withFirstBodies, record?, Option.map_none]
  case list items =>
    rw [itemsWithFirstBodies_eq_map, List.length_map]
    split <;> simp
  case map entries =>
    have hg (name : String) (hm : name ∈ names) :
        given names name (Term.withFirstBody (entriesWithFirstBodies entries)) =
        (given names name entries).map withFirstBodies := given_withFirstBodies (hn name hm)
    have hl : (names.all fun name =>
          (given names name (Term.withFirstBody (entriesWithFirstBodies entries))).length ≤ 1) =
        names.all fun name => (given names name entries).length ≤ 1 := by
      rw [Bool.eq_iff_iff, List.all_eq_true, List.all_eq_true]
      exact forall₂_congr fun name hm => by rw [hg name hm, List.length_map]
    rw [all_isKey_withFirstBodies, hl]
    split
    case isFalse => rfl
    case isTrue =>
      rw [Option.map_some, List.map_map]
      exact congrArg some (List.map_congr_left fun name hm => by simp [hg name hm])

theorem negated?_entriesWithFirstBodies :
    Term.negated? (entriesWithFirstBodies entries) = Term.negated? entries := by
  rw [entriesWithFirstBodies_eq_map, Term.negated?, Term.negated?, List.filter_map]
  simp only [Function.comp_def]
  generalize entries.filter (·.1.hasName "not") = given
  cases given
  case nil => rfl
  case cons entry rest =>
    cases rest
    case nil =>
      obtain ⟨_, v⟩ := entry
      cases v <;> rfl
    case cons => simp

theorem body?_entriesWithFirstBodies :
    Term.body? (entriesWithFirstBodies entries) =
    (Term.body? entries).map fun (kind, v) => (kind, v.withFirstBodies) := by
  fun_induction Term.body? entries
  case case1 => rfl
  all_goals simp_all [entriesWithFirstBodies, Term.body?]

theorem withFirstBodies_eq_list_iff {items : List Value} : v.withFirstBodies = .list items ↔
    ∃ all, v = .list all ∧ all.map withFirstBodies = items := by
  cases v <;> simp [withFirstBodies, itemsWithFirstBodies_eq_map]

theorem withFirstBodies_eq_text_iff {s : String} : v.withFirstBodies = .text s ↔ v = .text s := by
  cases v <;> simp [withFirstBodies]

end Value

theorem Term.negated?_withFirstBodies :
    negated? (withFirstBody (Value.entriesWithFirstBodies entries)) = negated? entries := by
  rw [←negated?_others, others_withFirstBody, negated?_others, Value.negated?_entriesWithFirstBodies]

theorem Term.body?_withFirstBodies : body? (withFirstBody (Value.entriesWithFirstBodies entries)) =
    (body? entries).map fun (kind, v) => (kind, v.withFirstBodies) := by
  rw [body?_withFirstBody, Value.body?_entriesWithFirstBodies]

theorem Condition.ofValue?_eq_some_iff {c : Condition} : ofValue? v = some c ↔
    v.record? ["operand", "op", "value"] =
      some [some (.text c.tag), some (.text c.operator), some (.text c.value)] := by
  have ⟨tag, operator, value⟩ := c
  unfold ofValue?
  split
  case h_1 h => simp [h]
  case h_2 h => simp; intro he; exact h _ _ _ he

theorem Condition.ofValue?_withFirstBodies : ofValue? v.withFirstBodies = ofValue? v := by
  have hn : ∀ name ∈ ["operand", "op", "value"], ∀ kind : BodyKind, name ≠ kind.name := by
    intro name hm kind
    cases kind <;> simp only [BodyKind.name] <;> rintro rfl <;> simp at hm
  ext c
  rw [ofValue?_eq_some_iff, ofValue?_eq_some_iff, Value.record?_withFirstBodies hn]
  simp [List.map_eq_cons_iff, Value.withFirstBodies_eq_text_iff]

-- A list that is the only field of a record is read from the same items either way.
theorem Value.listField_withFirstBodies {α : Type} {read : List Value → Option (List α)}
    (hn : ∀ kind : BodyKind, name ≠ kind.name)
    (hr : ∀ items, v.record? [name] = some [some (.list items)] →
      read (items.map withFirstBodies) = read items) :
    (match v.withFirstBodies.record? [name] with
      | some [none] => some []
      | some [some (.list items)] => read items
      | _ => none) =
    match v.record? [name] with
      | some [none] => some []
      | some [some (.list items)] => read items
      | _ => none := by
  rw [record?_withFirstBodies (by simpa using hn)]
  match h : v.record? [name] with
  | none | some [] | some [none] => rfl
  | some [some w] =>
    cases w
    case list items => simpa [withFirstBodies, itemsWithFirstBodies_eq_map] using hr items h
    all_goals rfl
  | some (_ :: _ :: _) => simp

-- A body behind the first one is passed over unread, at any depth. By recursion on the value, as it is
-- read.
mutual

theorem Filter.ofValue?_withFirstBodies (v : Value) :
    Filter.ofValue? v.withFirstBodies = Filter.ofValue? v := by
  rw [Filter.ofValue?_eq, Filter.ofValue?_eq]
  refine Value.listField_withFirstBodies (by rintro (_ | _) <;> simp [BodyKind.name]) fun items h => ?_
  have := Value.sizeOf_lt_of_record?_list h (List.mem_singleton_self _)
  exact conjunctions?_withFirstBodies items
termination_by sizeOf v

theorem conjunctions?_withFirstBodies (items : List Value) :
    conjunctions? (items.map Value.withFirstBodies) = conjunctions? items := by
  match items with
  | []      => rfl
  | v :: vs =>
    rw [List.map_cons, conjunctions?, conjunctions?]
    rw [Conjunction.ofValue?_withFirstBodies v, conjunctions?_withFirstBodies vs]
termination_by sizeOf items

theorem Conjunction.ofValue?_withFirstBodies (v : Value) :
    Conjunction.ofValue? v.withFirstBodies = Conjunction.ofValue? v := by
  rw [Conjunction.ofValue?_eq, Conjunction.ofValue?_eq]
  refine Value.listField_withFirstBodies (by rintro (_ | _) <;> simp [BodyKind.name]) fun items h => ?_
  have := Value.sizeOf_lt_of_record?_list h (List.mem_singleton_self _)
  exact terms?_withFirstBodies items
termination_by sizeOf v

theorem terms?_withFirstBodies (items : List Value) :
    terms? (items.map Value.withFirstBodies) = terms? items := by
  match items with
  | []      => rfl
  | v :: vs =>
    rw [List.map_cons, terms?, terms?]
    rw [Term.ofValue?_withFirstBodies v, terms?_withFirstBodies vs]
termination_by sizeOf items

theorem Term.ofValue?_withFirstBodies (v : Value) :
    Term.ofValue? v.withFirstBodies = Term.ofValue? v := by
  match v with
  | .map entries =>
    rw [Value.withFirstBodies, Term.ofValue?_map, Term.ofValue?_map, Value.all_isKey_withFirstBodies]
    rw [Term.negated?_withFirstBodies, Term.body?_withFirstBodies]
    match h : Term.body? entries with
    | none => rfl
    | some (.condition, body) =>
      cases Term.negated? entries <;> simp [Condition.ofValue?_withFirstBodies]
    | some (.group, body) =>
      have := Term.sizeOf_lt_of_body? h
      cases Term.negated? entries <;> simp [Filter.ofValue?_withFirstBodies body]
  | .null | .bool _ | .int _ | .real _ | .text _ => rw [Value.withFirstBodies] <;> simp
  | .list _ => simp [Value.withFirstBodies, Term.ofValue?]
termination_by sizeOf v

end

end JournalSelect
