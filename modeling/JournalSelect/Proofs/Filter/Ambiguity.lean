import JournalSelect.Proofs.Filter.FirstBody
import JournalSelect.Proofs.Json.Values
import Mathlib.Data.List.Nodup

namespace JournalSelect

open Value (textEntries object held RecordsList)

-- The terms that are written in a filter, at any depth.
inductive FilterReaches : Value → List (String × Value) → Prop
  | term {v items w terms fields} :
    RecordsList "or" items v → w ∈ items → RecordsList "and" terms w → object fields ∈ terms →
    FilterReaches v fields
  | inside {v outer body fields} :
    FilterReaches v outer → body ∈ held "expr" outer → FilterReaches body fields →
    FilterReaches v fields

-- No term has a body of each kind.
def Value.Unambiguous (v : Value) : Prop :=
  ∀ fields, FilterReaches v fields → ∃ kind : BodyKind, held kind.name fields = []

variable {v w body : Value} {fields : List (String × Value)} {items : List Value} {name : String}
  {kind : BodyKind}

namespace Value

theorem object_injective : Function.Injective object := by
  intro fields others h
  have hi : Function.Injective fun field : String × Value => (Value.text field.1, field.2) := by
    intro field other he
    simpa [Prod.ext_iff] using he
  exact List.map_injective_iff.mpr hi (Value.map.inj h)

theorem mem_held_iff : w ∈ held name fields ↔ (name, w) ∈ fields := by
  simp only [held, List.mem_filterMap]
  constructor
  case mp =>
    rintro ⟨⟨other, _⟩, hm, h⟩
    split at h
    case isTrue he => simp_all
    case isFalse   => contradiction
  case mpr => exact fun hm => ⟨_, hm, by simp⟩

theorem length_held (name : String) (fields : List (String × Value)) :
    (held name fields).length = (fields.map Prod.fst).count name := by
  induction fields
  case nil => rfl
  case cons field fields hi => by_cases h : field.1 = name <;> simp_all [held]

theorem length_held_le_one (h : (fields.map Prod.fst).Pairwise (· < ·)) (name : String) :
    (held name fields).length ≤ 1 := by
  rw [length_held]
  exact List.nodup_iff_count_le_one.mp (h.imp ne_of_lt) name

theorem held_eq_singleton (h : (fields.map Prod.fst).Pairwise (· < ·)) (hm : w ∈ held name fields) :
    held name fields = [w] := by
  have hl := length_held_le_one h name
  match hs : held name fields with
  | []          => simp [hs] at hm
  | [_]         => simp_all
  | _ :: _ :: _ => simp [hs] at hl

namespace IsJson

theorem object_iff : (object fields).IsJson ↔
    (fields.map Prod.fst).Pairwise (· < ·) ∧ ∀ field ∈ fields, field.2.IsJson := by
  constructor
  case mp =>
    generalize hv : object fields = v
    intro h
    cases h
    case map hn hf => obtain rfl := object_injective hv; exact ⟨hn, hf⟩
    all_goals contradiction
  case mpr => exact fun ⟨hn, hf⟩ => .map hn hf

theorem single (h : w.IsJson) (name : String) : (object [(name, .list [w])]).IsJson :=
  object_iff.mpr ⟨List.pairwise_singleton _ _, by simpa using .list (by simpa using h)⟩

theorem of_held (h : (object fields).IsJson) (hm : w ∈ held name fields) : w.IsJson :=
  (object_iff.mp h).right _ (mem_held_iff.mp hm)

theorem of_list (h : (Value.list items).IsJson) (hm : w ∈ items) : w.IsJson := by
  cases h
  case list h => exact h w hm

theorem of_recordsList (h : v.IsJson) (hr : RecordsList name items v) (hm : w ∈ items) : w.IsJson := by
  cases hr
  case object hf => exact (h.of_held (hf ▸ List.mem_singleton_self _)).of_list hm
  case omitted   => contradiction
  case array     => exact (h.of_list (List.mem_singleton_self _)).of_list hm
  case empty     => contradiction

theorem held_of_record? (h : (object fields).IsJson)
    (hr : (object fields).record? [name] = some [some w]) : held name fields = [w] := by
  have hn := (object_iff.mp h).left
  rw [record?_object fun name _ => length_held_le_one hn name] at hr
  exact held_eq_singleton hn (List.mem_of_head? (by simpa using hr))

theorem recordsList_of_some (h : v.IsJson) (hr : v.record? [name] = some [some (.list items)]) :
    RecordsList name items v := by
  cases h
  case map fields hn hf => exact .object (held_of_record? (object_iff.mpr ⟨hn, hf⟩) hr)
  case list all h =>
    match all with
    | []          => simp [record?] at hr
    | [w]         =>
      obtain rfl : w = .list items := by simpa [record?] using hr
      exact .array
    | _ :: _ :: _ => simp [record?] at hr
  all_goals contradiction

theorem recordsList_of_none (h : v.IsJson) (hr : v.record? [name] = some [none]) :
    RecordsList name [] v := by
  cases h
  case map fields hn hf =>
    change (object fields).record? [name] = _ at hr
    rw [record?_object fun name _ => length_held_le_one hn name] at hr
    exact .omitted (by simpa using hr)
  case list all h =>
    match all with
    | []     => exact .empty
    | _ :: _ => simp [record?] at hr
  all_goals contradiction

theorem of_reaches (hr : FilterReaches v fields) (h : v.IsJson) : (object fields).IsJson := by
  induction hr
  case term ho hw ha ht   => exact (h.of_recordsList ho hw).of_recordsList ha ht
  case inside hb _ hi hi' => exact hi' ((hi h).of_held hb)

end IsJson

theorem RecordsList.unique {others : List Value} (h : RecordsList name items v)
    (h' : RecordsList name others v) : items = others := by
  rcases h.record? with hr | ⟨hr, rfl⟩ <;> rcases h'.record? with hr' | ⟨hr', rfl⟩ <;> simp_all

end Value

namespace Term

variable {negated : Bool}

theorem Fields.existsUnique (h : Fields negated kind body fields) :
    ∃! kind : BodyKind, held kind.name fields ≠ [] := by
  refine ⟨kind, by simp [h.body], fun other ho => ?_⟩
  exact Classical.byContradiction fun hn => ho (h.alone other hn)

theorem mem_held_of_body? (h : body? (textEntries fields) = some (kind, body)) :
    body ∈ held kind.name fields := by
  induction fields
  case nil => contradiction
  case cons field fields hi =>
    rw [textEntries, List.map_cons, body?] at h
    split at h
    case h_1 hk =>
      cases h
      simp [held, BodyKind.ofKey?_text.mp hk]
    case h_2 => exact Value.mem_held_iff.mpr (List.mem_cons_of_mem _ (Value.mem_held_iff.mp (hi h)))

theorem held_not_of_negated? (h : negated? (textEntries fields) = some negated) :
    held "not" fields = [.bool negated] ∨ negated = false ∧ held "not" fields = [] := by
  rw [←Value.map_filter_hasName]
  unfold negated? at h
  split at h
  case h_1 hf =>
    cases h
    exact .inr ⟨rfl, congrArg (List.map Prod.snd) hf⟩
  case h_2 hf =>
    cases h
    exact .inl (congrArg (List.map Prod.snd) hf)
  case h_3 => contradiction

theorem exists_fields {term : Term} (hw : w.IsJson)
    (hu : ∀ fields, w = object fields → ∃ kind : BodyKind, held kind.name fields = [])
    (h : Term.ofValue? w = some term) :
    ∃ fields negated kind body, w = object fields ∧ Fields negated kind body fields := by
  cases hw
  case map fields hn hf =>
    have ⟨missing, hm⟩ := hu fields rfl
    change Term.ofValue? (.map (textEntries fields)) = _ at h
    rw [Term.ofValue?_map, Value.all_isKey_textEntries, if_pos rfl] at h
    cases hs : negated? (textEntries fields)
    case none => simp [hs] at h
    case some negated =>
      match hb : body? (textEntries fields) with
      | none              => simp [hs, hb] at h
      | some (kind, body) =>
        have hh := mem_held_of_body? hb
        refine ⟨fields, negated, kind, body, rfl, held_not_of_negated? hs, ?_, fun other ho => ?_⟩
        · exact Value.held_eq_singleton hn hh
        · -- There are two kinds only, so the other one is the one that is missing.
          have hk : kind ≠ missing := by rintro rfl; simp [hm] at hh
          obtain rfl : other = missing := by cases kind <;> cases missing <;> cases other <;> simp_all
          exact hm
  all_goals simp [ofValue?] at h

end Term

-- What is read as a list is the record of one.
theorem Value.IsJson.exists_items {α : Type} {read : List Value → Option (List α)} {xs : List α}
    (h : v.IsJson) (hn : read [] = some [])
    (hr : (match v.record? [name] with
      | some [none] => some []
      | some [some (.list items)] => read items
      | _ => none) = some xs) :
    ∃ items, RecordsList name items v ∧ read items = some xs := by
  split at hr
  case h_1 hv => exact ⟨[], h.recordsList_of_none hv, hn.trans hr⟩
  case h_2 hv => exact ⟨_, h.recordsList_of_some hv, hr⟩
  case h_3    => contradiction

theorem Condition.encodedBy_of_ofValue? {c : Condition} (hv : v.IsJson) (h : Condition.ofValue? v = some c) :
    c.EncodedBy v := by
  rw [ofValue?_eq_some_iff] at h
  cases hv
  case map fields hn hf =>
    have hl := Value.length_held_le_one hn
    change (object fields).record? _ = _ at h
    rw [Value.record?_object fun name _ => hl name] at h
    simp only [List.map_cons, List.map_nil, Option.some.injEq, List.cons.injEq, and_true] at h
    have hs {name : String} {w : Value} (hw : (held name fields).head? = some w) :=
      Value.held_eq_singleton hn (List.mem_of_head? hw)
    exact .object (hs h.left) (hs h.right.left) (hs h.right.right)
  case list items _ =>
    match items with
    | [] | [_] | [_, _] => simp [Value.record?, List.range, List.range.loop] at h
    | [_, _, _] =>
      obtain ⟨rfl, rfl, rfl⟩ := by simpa [Value.record?, List.range, List.range.loop] using h
      exact .array
    | _ :: _ :: _ :: _ :: _ =>
      rw [Value.record?, if_neg (by simp only [List.length_cons, List.length_nil]; omega)] at h
      contradiction
  all_goals contradiction

-- Of a term: neither it nor a term in it has a body of each kind.
def Term.Unambiguous (w : Value) : Prop :=
  ∀ fields, w = object fields →
    (∃ kind : BodyKind, held kind.name fields = []) ∧ ∀ body ∈ held "expr" fields, body.Unambiguous

theorem Value.Unambiguous.term {terms : List Value} {t : Value} (h : v.Unambiguous)
    (ho : RecordsList "or" items v) (hw : w ∈ items) (ha : RecordsList "and" terms w) (ht : t ∈ terms) :
    Term.Unambiguous t := by
  rintro fields rfl
  have hr := FilterReaches.term ho hw ha ht
  exact ⟨h fields hr, fun body hb others hi => h others (.inside hr hb hi)⟩

theorem Term.exists_body {term : Term} (hw : w.IsJson) (hu : Term.Unambiguous w)
    (h : Term.ofValue? w = some term) :
    ∃ fields body, w = object fields ∧
      match term with
      | .condition negated c => Fields negated .condition body fields ∧ Condition.ofValue? body = some c
      | .group negated alternatives =>
        Fields negated .group body fields ∧ Filter.ofValue? body = some alternatives := by
  obtain ⟨fields, negated, kind, body, rfl, hf⟩ := exists_fields hw (fun fields he => (hu fields he).left) h
  rw [hf.ofValue?_object] at h
  refine ⟨fields, body, rfl, ?_⟩
  cases kind <;> obtain ⟨_, hb, rfl⟩ := Option.map_eq_some_iff.mp h <;> exact ⟨hf, hb⟩

theorem Filter.exists_items {f : Filter} (hv : v.IsJson) (h : Filter.ofValue? v = some f) :
    ∃ items, RecordsList "or" items v ∧ conjunctions? items = some f := by
  rw [Filter.ofValue?_eq] at h
  exact hv.exists_items (by rw [conjunctions?]) h

theorem Conjunction.exists_items {terms : Conjunction} (hw : w.IsJson)
    (h : Conjunction.ofValue? w = some terms) :
    ∃ items, RecordsList "and" items w ∧ terms? items = some terms := by
  rw [Conjunction.ofValue?_eq] at h
  exact hw.exists_items (by rw [terms?]) h

-- Of a conjunction: all of its terms are.
def Conjunction.Unambiguous (w : Value) : Prop :=
  ∀ items, RecordsList "and" items w → ∀ t ∈ items, Term.Unambiguous t

-- By recursion on the tree that has been read.
mutual

theorem Term.encodedBy_of_ofValue? : ∀ {term : Term} {w : Value}, w.IsJson → Term.Unambiguous w →
    Term.ofValue? w = some term → term.EncodedBy w
  | .condition .., _, hj, hu, h => by
    obtain ⟨fields, body, rfl, hf, hc⟩ := Term.exists_body hj hu h
    have hb := hj.of_held (hf.body ▸ List.mem_singleton_self _)
    exact .condition hf (Condition.encodedBy_of_ofValue? hb hc)
  | .group .., _, hj, hu, h => by
    obtain ⟨fields, body, rfl, hf, hg⟩ := Term.exists_body hj hu h
    have hm : body ∈ held "expr" fields := hf.body ▸ List.mem_singleton_self _
    have hb := hj.of_held hm
    have ⟨items, ho, hi⟩ := Filter.exists_items hb hg
    have hu := (hu fields rfl).right body hm
    have ha := alternativesEncodedBy_of_conjunctions?
      (fun w hw => ⟨hb.of_recordsList ho hw, fun _ ha _ => hu.term ho hw ha⟩) hi
    exact .group hf (.mk ho ha)

theorem termsEncodedBy_of_terms? : ∀ {terms : List Term} {items : List Value},
    (∀ w ∈ items, w.IsJson ∧ Term.Unambiguous w) → terms? items = some terms →
    TermsEncodedBy terms items
  | terms, [], _, h => by
    rw [terms?] at h
    cases h
    exact .nil
  | terms, w :: ws, hj, h => by
    rw [terms?] at h
    split at h
    case h_2 => contradiction
    case h_1 term rest ht hr =>
      cases h
      have ⟨hw, hws⟩ := List.forall_mem_cons.mp hj
      exact .cons (Term.encodedBy_of_ofValue? hw.left hw.right ht) (termsEncodedBy_of_terms? hws hr)

theorem alternativesEncodedBy_of_conjunctions? : ∀ {alternatives : List (List Term)} {items : List Value},
    (∀ w ∈ items, w.IsJson ∧ Conjunction.Unambiguous w) → conjunctions? items = some alternatives →
    AlternativesEncodedBy alternatives items
  | alternatives, [], _, h => by
    rw [conjunctions?] at h
    cases h
    exact .nil
  | alternatives, w :: ws, hj, h => by
    rw [conjunctions?] at h
    split at h
    case h_2 => contradiction
    case h_1 terms rest ht hr =>
      cases h
      have ⟨hw, hws⟩ := List.forall_mem_cons.mp hj
      have ⟨items, ha, hi⟩ := Conjunction.exists_items hw.left ht
      have hc := termsEncodedBy_of_terms?
        (fun t hm => ⟨hw.left.of_recordsList ha hm, hw.right items ha t hm⟩) hi
      exact .cons (.mk ha hc) (alternativesEncodedBy_of_conjunctions? hws hr)

end

theorem Filter.encodedBy_of_ofValue? {f : Filter} (hv : v.IsJson) (hu : v.Unambiguous)
    (h : Filter.ofValue? v = some f) : FilterEncodedBy f v := by
  have ⟨items, ho, hi⟩ := Filter.exists_items hv h
  exact .mk ho (alternativesEncodedBy_of_conjunctions?
    (fun w hw => ⟨hv.of_recordsList ho hw, fun _ ha _ => hu.term ho hw ha⟩) hi)

theorem TermsEncodedBy.exists_of_mem {terms : List Term} (h : TermsEncodedBy terms items) (hm : w ∈ items) :
    ∃ term, Term.EncodedBy term w := by
  induction items generalizing terms
  case nil => contradiction
  case cons v vs hi =>
    cases h
    case cons hv hvs =>
      rcases List.mem_cons.mp hm with rfl | hm
      · exact ⟨_, hv⟩
      · exact hi hvs hm

theorem AlternativesEncodedBy.exists_of_mem {alternatives : List (List Term)}
    (h : AlternativesEncodedBy alternatives items) (hm : w ∈ items) :
    ∃ terms, ConjunctionEncodedBy terms w := by
  induction items generalizing alternatives
  case nil => contradiction
  case cons v vs hi =>
    cases h
    case cons hv hvs =>
      rcases List.mem_cons.mp hm with rfl | hm
      · exact ⟨_, hv⟩
      · exact hi hvs hm

theorem Term.EncodedBy.exists_fields {term : Term} (h : term.EncodedBy (object fields)) :
    ∃ negated kind body, Term.Fields negated kind body fields ∧
      (kind = .group → ∃ f, FilterEncodedBy f body) := by
  generalize hw : object fields = w at h
  cases h
  case condition hf _ =>
    obtain rfl := Value.object_injective hw
    exact ⟨_, _, _, hf, nofun⟩
  case group hf hb =>
    obtain rfl := Value.object_injective hw
    exact ⟨_, _, _, hf, fun _ => ⟨_, hb⟩⟩

-- By induction on the way to the term.
theorem FilterEncodedBy.exists_fields {f : Filter} (h : FilterEncodedBy f v) (hr : FilterReaches v fields) :
    ∃ negated kind body, Term.Fields negated kind body fields ∧
      (kind = .group → ∃ f, FilterEncodedBy f body) := by
  induction hr generalizing f
  case term ho hw ha ht =>
    obtain ⟨ho', hs⟩ := h
    obtain rfl := ho'.unique ho
    obtain ⟨terms, ha', hs⟩ := hs.exists_of_mem hw
    obtain rfl := ha'.unique ha
    have ⟨term, ht⟩ := hs.exists_of_mem ht
    exact ht.exists_fields
  case inside hb _ hi hi' =>
    have ⟨negated, kind, body, hf, hg⟩ := hi h
    cases kind
    case condition =>
      have hn : held "expr" _ = [] := hf.alone .group nofun
      simp [hn] at hb
    case group =>
      have hs : held "expr" _ = [body] := hf.body
      obtain rfl : _ = body := by simpa [hs] using hb
      have ⟨_, hg⟩ := hg rfl
      exact hi' hg

theorem FilterEncodedBy.existsUnique_body {f : Filter} (h : FilterEncodedBy f v)
    (hr : FilterReaches v fields) : ∃! kind : BodyKind, held kind.name fields ≠ [] :=
  have ⟨_, _, _, hf, _⟩ := h.exists_fields hr
  hf.existsUnique

theorem Value.unambiguous_of_existsUnique
    (h : ∀ fields, FilterReaches v fields → ∃! kind : BodyKind, held kind.name fields ≠ []) :
    v.Unambiguous := by
  intro fields hr
  have ⟨kind, _, ho⟩ := h fields hr
  have ⟨other, hk⟩ : ∃ other, other ≠ kind := by
    cases kind
    exacts [⟨.group, nofun⟩, ⟨.condition, nofun⟩]
  exact ⟨other, Classical.byContradiction fun hn => hk (ho other hn)⟩

-- A JSON value leaves nothing out of the filter it is read as if no term has a body of each kind, and only
-- then.
theorem Filter.encodedBy_iff {f : Filter} (hv : v.IsJson) :
    FilterEncodedBy f v ↔ Filter.ofValue? v = some f ∧ v.Unambiguous :=
  ⟨fun h => ⟨h.ofValue?, Value.unambiguous_of_existsUnique fun _ => h.existsUnique_body⟩,
    fun ⟨h, hu⟩ => Filter.encodedBy_of_ofValue? hv hu h⟩

end JournalSelect
