import JournalSelect.Proofs.Filter.Ambiguity

namespace JournalSelect

open Value (textEntries object held RecordsList)

variable {v w body : Value} {fields : List (String × Value)} {items : List Value} {name : String}

theorem Value.mem_textEntries_of_mem_held (h : w ∈ held name fields) :
    (.text name, w) ∈ textEntries fields :=
  List.mem_map.mpr ⟨_, mem_held_iff.mp h, rfl⟩

theorem Value.exists_withFirstBodies_object (fields : List (String × Value)) :
    ∃ kept, (object fields).withFirstBodies = object kept ∧
      kept.Sublist (fields.map fun field => (field.1, field.2.withFirstBodies)) := by
  let changed := fields.map fun field => (field.1, field.2.withFirstBodies)
  have he : entriesWithFirstBodies (textEntries fields) = textEntries changed := by
    simp [entriesWithFirstBodies_eq_map, textEntries, changed]
  have hs : (Term.withFirstBody (textEntries changed)).Sublist (textEntries changed) :=
    Term.sublist_withFirstBody
  obtain ⟨kept, hk, hw⟩ := List.sublist_map_iff.mp hs
  refine ⟨kept, ?_, hk⟩
  rw [object, withFirstBodies, he, hw]
  rfl

theorem Value.IsJson.withFirstBodies (h : v.IsJson) : v.withFirstBodies.IsJson := by
  induction h
  case list items _ hi =>
    rw [Value.withFirstBodies, itemsWithFirstBodies_eq_map]
    refine .list fun w hw => ?_
    obtain ⟨v, hv, rfl⟩ := List.mem_map.mp hw
    exact hi v hv
  case map fields hn _ hi =>
    have ⟨kept, he, hk⟩ := exists_withFirstBodies_object fields
    change (object fields).withFirstBodies.IsJson
    rw [he, object_iff]
    constructor
    case left =>
      refine List.Pairwise.sublist (hk.map Prod.fst) ?_
      simpa [Function.comp_def] using hn
    case right =>
      intro field hm
      obtain ⟨field, hf, rfl⟩ := List.mem_map.mp (hk.subset hm)
      exact hi field hf
  all_goals constructor

theorem Value.exists_of_recordsList_withFirstBodies (hn : ∀ kind : BodyKind, name ≠ kind.name)
    (h : RecordsList name items v.withFirstBodies) (hm : w ∈ items) :
    ∃ b : Value, b.withFirstBodies = w := by
  rcases h.record? with hr | ⟨_, rfl⟩
  case inr => contradiction
  case inl =>
    rw [record?_withFirstBodies (by simpa using hn)] at hr
    obtain ⟨slots, _, hs⟩ := Option.map_eq_some_iff.mp hr
    obtain ⟨slot, _, hs⟩ := List.map_eq_singleton_iff.mp hs
    obtain ⟨x, _, hx⟩ := Option.map_eq_some_iff.mp hs
    obtain ⟨all, _, rfl⟩ := withFirstBodies_eq_list_iff.mp hx
    have ⟨b, _, hb⟩ := List.mem_map.mp hm
    exact ⟨b, hb⟩

theorem Value.unambiguous_of_withFirstBodies (h : v.withFirstBodies = object fields) :
    (∃ kind : BodyKind, held kind.name fields = []) ∧
    ∀ body ∈ held "expr" fields, ∃ b : Value, b.withFirstBodies = body := by
  cases v <;> simp only [withFirstBodies, object, Value.map.injEq, reduceCtorEq] at h
  case map entries =>
    constructor
    case left =>
      refine Classical.byContradiction fun hn => ?_
      rw [not_exists] at hn
      have hb (kind : BodyKind) :
          ∃ body, Term.body? (entriesWithFirstBodies entries) = some (kind, body) := by
        obtain ⟨body, hm⟩ := List.exists_mem_of_ne_nil _ (hn kind)
        have hm := h ▸ mem_textEntries_of_mem_held hm
        exact Term.body?_of_mem_withFirstBody hm (BodyKind.ofKey?_text.mpr rfl)
      obtain ⟨_, hc⟩ := hb .condition
      obtain ⟨_, hg⟩ := hb .group
      simp [hc] at hg
    case right =>
      intro body hm
      have hm := Term.sublist_withFirstBody.subset (h ▸ mem_textEntries_of_mem_held hm)
      rw [entriesWithFirstBodies_eq_map] at hm
      obtain ⟨entry, _, he⟩ := List.mem_map.mp hm
      exact ⟨entry.2, congrArg Prod.snd he⟩

-- By induction on the way to a term, all along which there are values with their first bodies only.
theorem Value.unambiguous_withFirstBodies (v : Value) : v.withFirstBodies.Unambiguous := by
  suffices h : ∀ w fields, FilterReaches w fields → ∀ v : Value, v.withFirstBodies = w →
      (∃ kind : BodyKind, held kind.name fields = []) ∧
      ∀ body ∈ held "expr" fields, ∃ b : Value, b.withFirstBodies = body from
    fun fields hr => (h _ fields hr v rfl).left
  intro w fields hr
  induction hr
  case term ho hw ha ht =>
    rintro v rfl
    have hn : ∀ name ∈ ["or", "and"], ∀ kind : BodyKind, name ≠ kind.name := by
      intro name hm kind
      cases kind <;> simp only [BodyKind.name] <;> rintro rfl <;> simp at hm
    obtain ⟨w, rfl⟩ := exists_of_recordsList_withFirstBodies (hn "or" (by simp)) ho hw
    obtain ⟨t, ht⟩ := exists_of_recordsList_withFirstBodies (hn "and" (by simp)) ha ht
    exact unambiguous_of_withFirstBodies ht
  case inside hb _ hi hi' =>
    intro v hv
    have ⟨b, hb⟩ := (hi v hv).right _ hb
    exact hi' b hb

-- The name of a condition precedes that of a group.
theorem Term.body?_of_condition (hn : (fields.map Prod.fst).Pairwise (· < ·))
    (h : body ∈ held "cond" fields) : body? (textEntries fields) = some (.condition, body) := by
  induction fields
  case nil => contradiction
  case cons field fields hi =>
    have ⟨hl, hn⟩ := List.pairwise_cons.mp hn
    rw [textEntries, List.map_cons, body?]
    rcases List.mem_cons.mp (Value.mem_held_iff.mp h) with rfl | hm
    case inl => simp [BodyKind.ofKey?]
    case inr =>
      have hl := hl "cond" (List.mem_map.mpr ⟨_, hm, rfl⟩)
      have hk : BodyKind.ofKey? (.text field.1) = none := by
        refine Option.eq_none_iff_forall_ne_some.mpr fun kind hk => ?_
        rw [BodyKind.ofKey?_text.mp hk] at hl
        cases kind <;> revert hl <;> decide
      rw [hk]
      exact hi hn (Value.mem_held_iff.mpr hm)

theorem Term.negated?_without_group :
    negated? (textEntries (fields.filter (·.1 ≠ "expr"))) = negated? (textEntries fields) := by
  have hf : (textEntries (fields.filter (·.1 ≠ "expr"))).filter (·.1.hasName "not") =
      (textEntries fields).filter (·.1.hasName "not") := by
    rw [textEntries, List.filter_map, List.filter_filter, textEntries, List.filter_map]
    congr 2
    funext field
    by_cases h : field.1 = "not" <;> simp [Value.hasName, h]
  rw [negated?, hf, negated?]

-- A group next to a condition is never read.
theorem Term.ofValue?_without_group (h : (object fields).IsJson) (hc : held "cond" fields ≠ []) :
    Term.ofValue? (object (fields.filter (·.1 ≠ "expr"))) = Term.ofValue? (object fields) := by
  have hn := (Value.IsJson.object_iff.mp h).left
  have ⟨body, hm⟩ := List.exists_mem_of_ne_nil _ hc
  have hm' : body ∈ held "cond" (fields.filter (·.1 ≠ "expr")) := by
    simpa [Value.mem_held_iff] using hm
  have hs : (fields.filter (·.1 ≠ "expr")).Sublist fields := List.filter_sublist
  rw [object, object, ofValue?_map, ofValue?_map, Value.all_isKey_textEntries, Value.all_isKey_textEntries]
  rw [body?_of_condition hn hm, body?_of_condition (hn.sublist (hs.map Prod.fst)) hm']
  rw [negated?_without_group]

-- What a JSON value says to which not every body counts. A term with a condition is read by its condition,
-- whatever group stands next to it.
theorem Filter.ofValue?_keeps_first_bodies (hv : v.IsJson) :
    (∀ f, Filter.ofValue? v = some f ↔ FilterEncodedBy f v.withFirstBodies) ∧
    (∀ f, FilterEncodedBy f v ↔ Filter.ofValue? v = some f ∧ v.Unambiguous) ∧
    (∀ f, Filter.ofValue? v = some f →
      (v.Unambiguous ↔
        ∀ fields, FilterReaches v fields → ∃! kind : BodyKind, held kind.name fields ≠ [])) ∧
    ∀ fields, FilterReaches v fields → held "cond" fields ≠ [] →
      Term.ofValue? (object (fields.filter (·.1 ≠ "expr"))) = Term.ofValue? (object fields) := by
  refine ⟨fun f => ?_, fun f => Filter.encodedBy_iff hv, fun f h => ⟨fun hu fields => ?_, ?_⟩, ?_⟩
  · simp [Filter.encodedBy_iff hv.withFirstBodies, Filter.ofValue?_withFirstBodies,
      v.unambiguous_withFirstBodies]
  · exact (Filter.encodedBy_iff hv |>.mpr ⟨h, hu⟩).existsUnique_body
  · exact Value.unambiguous_of_existsUnique
  · exact fun fields hr => Term.ofValue?_without_group (hv.of_reaches hr)

-- NOT env = "prod", with an empty group next to it.
theorem Filter.ofValue?_keeps_first_bodies_empty_group :
    let leaf := object [("op", .text "="), ("operand", .text "env"), ("value", .text "prod")]
    let group (fields) := object [("or", .list [object [("and", .list [object fields])]])]
    let fields := [("cond", leaf), ("expr", object []), ("not", .bool true)]
    let f : Filter := [[.condition true ⟨"env", "=", "prod"⟩]]
    (group fields).IsJson ∧ Filter.ofValue? (group fields) = some f ∧
    ¬FilterEncodedBy f (group fields) := by
  intro leaf group fields f
  have hf : (object fields).IsJson := by
    have hl : leaf.IsJson := Value.IsJson.object_iff.mpr ⟨by decide, by simp [Value.IsJson.text]⟩
    have he : (object []).IsJson := Value.IsJson.object_iff.mpr ⟨by decide, nofun⟩
    exact Value.IsJson.object_iff.mpr ⟨by decide, by simp [fields, hl, he, Value.IsJson.bool]⟩
  have hv : (group fields).IsJson := (hf.single "and").single "or"
  have hw : FilterEncodedBy f (group [("cond", leaf), ("not", .bool true)]) := by
    have ht : Term.Fields true .condition leaf [("cond", leaf), ("not", .bool true)] :=
      ⟨.inl rfl, rfl, by intro other; cases other <;> simp [held, BodyKind.name]⟩
    have hc := TermsEncodedBy.cons (.condition ht (c := ⟨"env", "=", "prod"⟩) (.object rfl rfl rfl)) .nil
    exact .mk (.object rfl) (.cons (.mk (.object rfl) hc) .nil)
  obtain ⟨hr, hu, _⟩ := Filter.ofValue?_keeps_first_bodies hv
  refine ⟨hv, (hr f).mpr hw, fun h => ?_⟩
  obtain ⟨kind, hk⟩ := ((hu f).mp h).right fields <|
    .term (.object rfl) (List.mem_singleton_self _) (.object rfl) (List.mem_singleton_self _)
  cases kind <;> contradiction

-- env = "prod" with region = "eu" next to it, which nothing is left of.
theorem Filter.ofValue?_misses_second_body :
    let leaf (tag value : String) :=
      object [("op", .text "="), ("operand", .text tag), ("value", .text value)]
    let group (fields) := object [("or", .list [object [("and", .list [object fields])]])]
    let fields := [("cond", leaf "env" "prod"), ("expr", group [("cond", leaf "region" "eu")])]
    let f : Filter := [[.condition false ⟨"env", "=", "prod"⟩]]
    (group fields).IsJson ∧ Filter.ofValue? (group fields) = some f ∧
    FilterReaches (group fields) fields ∧ ∀ kind : BodyKind, held kind.name fields ≠ [] := by
  intro leaf group fields f
  have hl (tag value : String) : (leaf tag value).IsJson := by
    refine Value.IsJson.object_iff.mpr ⟨?_, by simp [Value.IsJson.text]⟩
    simp only [List.map_cons, List.map_nil]
    decide
  have hg {fields} (h : (object fields).IsJson) : (group fields).IsJson := (h.single "and").single "or"
  have hi : (object [("cond", leaf "region" "eu")]).IsJson :=
    Value.IsJson.object_iff.mpr ⟨by decide, by simp [hl]⟩
  have hf : (object fields).IsJson :=
    Value.IsJson.object_iff.mpr ⟨by decide, by simp [fields, hl, hg hi]⟩
  have hw : FilterEncodedBy f (group [("cond", leaf "env" "prod")]) := by
    have ht : Term.Fields false .condition (leaf "env" "prod") [("cond", leaf "env" "prod")] :=
      ⟨.inr ⟨rfl, rfl⟩, rfl, by intro other; cases other <;> simp [held, BodyKind.name]⟩
    have hc := TermsEncodedBy.cons (.condition ht (c := ⟨"env", "=", "prod"⟩) (.object rfl rfl rfl)) .nil
    exact .mk (.object rfl) (.cons (.mk (.object rfl) hc) .nil)
  refine ⟨hg hf, Filter.ofValue?_withFirstBodies (group fields) ▸ hw.ofValue?, ?_, ?_⟩
  · exact .term (.object rfl) (List.mem_singleton_self _) (.object rfl) (List.mem_singleton_self _)
  · intro kind
    cases kind <;> simp [fields, held, BodyKind.name]

end JournalSelect
