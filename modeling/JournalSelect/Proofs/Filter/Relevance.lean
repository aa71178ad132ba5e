import JournalSelect.Proofs.Filter.Compile
import JournalSelect.Proofs.Filter.Validation

namespace JournalSelect

-- Nothing is negated, at any depth.
inductive Term.Positive : Term → Prop
  | condition {c} : Term.Positive (.condition false c)
  | group {alternatives} : (∀ terms ∈ alternatives, ∀ term ∈ terms, Term.Positive term) →
    Term.Positive (.group false alternatives)

def Conjunction.Positive (terms : Conjunction) : Prop :=
  ∀ term ∈ terms, term.Positive

def Filter.Positive (f : Filter) : Prop :=
  ∀ terms ∈ f, Conjunction.Positive terms

-- Those of the conditions that hold of the first tags hold of the second ones. Where there may be a negation
-- it has to be so the other way round as well.
structure Kept (positive : Prop) (cs : List Condition) (m n : Tags) : Prop where
  forth : ∀ c ∈ cs, c.Holds m → c.Holds n
  back  : ¬positive → ∀ c ∈ cs, c.Holds n → c.Holds m

variable {m n tags : Tags} {tag value : String} {c : Condition} {cs ds : List Condition}

namespace Kept

variable {p q r : Prop}

theorem split (h : Kept r (cs ++ ds) m n) (hr : r → p ∧ q) : Kept p cs m n ∧ Kept q ds m n := by
  have ⟨hc, hd⟩ := List.forall_mem_append.mp h.forth
  refine ⟨⟨hc, fun hn => ?_⟩, ⟨hd, fun hn => ?_⟩⟩
  · exact (List.forall_mem_append.mp <| h.back fun h => hn (hr h).left).left
  · exact (List.forall_mem_append.mp <| h.back fun h => hn (hr h).right).right

theorem weaken (h : Kept p cs m n) (hp : p → q) : Kept q cs m n where
  forth := h.forth
  back  := fun hn => h.back (mt hp hn)

theorem symm (h : Kept p cs m n) (hp : ¬p) : Kept q cs n m where
  forth := h.back hp
  back  := fun _ => h.forth

end Kept

-- By recursion on the tree. A negation exchanges the two sets of tags.
mutual

theorem Term.holds_of_kept : ∀ {term : Term} {m n : Tags},
    Kept term.Positive term.conditions m n → term.Holds m → term.Holds n
  | .condition false c, _, _, h => by
    rw [Term.Holds, Term.Holds]
    exact h.forth c (List.mem_singleton_self c)
  | .condition true c, _, _, h => by
    rw [Term.Holds, Term.Holds]
    exact mt (h.back nofun c (List.mem_singleton_self c))
  | .group false alternatives, _, _, h => by
    rw [Term.conditions] at h
    rw [Term.Holds, Term.Holds]
    exact Or.imp_right (someHold_of_kept (h.weaken fun | .group hp => hp))
  | .group true alternatives, _, _, h => by
    rw [Term.conditions] at h
    rw [Term.Holds, Term.Holds]
    exact mt (Or.imp_right (someHold_of_kept (h.symm nofun)))

theorem allHold_of_kept : ∀ {terms : List Term} {m n : Tags},
    Kept (Conjunction.Positive terms) (Conjunction.conditions terms) m n →
    AllHold m terms → AllHold n terms
  | [], _, _, _ => id
  | term :: terms, _, _, h => by
    have ⟨ht, hs⟩ := h.split List.forall_mem_cons.mp
    rw [AllHold, AllHold]
    exact And.imp (Term.holds_of_kept ht) (allHold_of_kept hs)

theorem someHold_of_kept : ∀ {alternatives : List (List Term)} {m n : Tags},
    Kept (Filter.Positive alternatives) (Filter.conditions alternatives) m n →
    SomeHold m alternatives → SomeHold n alternatives
  | [], _, _, _ => id
  | terms :: alternatives, _, _, h => by
    have ⟨ht, hs⟩ := h.split List.forall_mem_cons.mp
    rw [SomeHold, SomeHold]
    exact Or.imp (allHold_of_kept ht) (someHold_of_kept hs)

end

namespace Filter

variable {f : Filter}

theorem holds_of_kept (h : Kept f.Positive f.conditions m n) (hf : f.Holds m) : f.Holds n := by
  rw [Holds, ←someHold_iff] at hf ⊢
  exact hf.imp_right (someHold_of_kept h)

theorem holds_congr (h : ∀ c ∈ f.conditions, c.Holds m ↔ c.Holds n) : f.Holds m ↔ f.Holds n :=
  have hk : Kept False f.conditions m n := ⟨fun c hc => (h c hc).mp, fun _ c hc => (h c hc).mpr⟩
  ⟨holds_of_kept (hk.weaken False.elim), holds_of_kept (hk.symm id)⟩

end Filter

namespace Condition

theorem holds_congr (h : m.get? c.tag = n.get? c.tag) : c.Holds m ↔ c.Holds n := by
  rw [Holds, Holds, h]

theorem holds_insert_of_ne (h : c.tag ≠ tag) : c.Holds (tags.insert tag value) ↔ c.Holds tags :=
  holds_congr (by rw [Tags.get?_insert, if_neg h])

-- To a comparison, an empty tag is as good as a missing one.
theorem holds_insert_empty (hm : tags.get? tag = none)
    (ho : c.tag = tag → ∃ op, Operator.ofWord? c.operator = some (.compare op)) :
    c.Holds (tags.insert tag "") ↔ c.Holds tags := by
  by_cases h : c.tag = tag
  case neg => exact holds_insert_of_ne h
  case pos =>
    have ⟨op, ho⟩ := ho h
    simp [Holds, Tags.get?_insert, ho, h, hm, Operator.Holds]

-- Of a missing tag no test holds, so there is nothing to lose.
theorem holds_insert_of_holds (hm : tags.get? tag = none)
    (ho : c.tag = tag → ∃ op ∈ [Operator.like, .contains, .startsWith, .endsWith],
      Operator.ofWord? c.operator = some op)
    (hc : c.Holds tags) : c.Holds (tags.insert tag value) := by
  by_cases h : c.tag = tag
  case neg => exact (holds_insert_of_ne h).mpr hc
  case pos =>
    have ⟨op, hp, ho⟩ := ho h
    simp only [Holds, ho, h, hm, Option.some.injEq, exists_eq_left'] at hc
    simp only [List.mem_cons, List.not_mem_nil, or_false] at hp
    rcases hp with rfl | rfl | rfl | rfl <;> simp [Operator.Holds] at hc

end Condition

-- Tags of which the same conditions hold are the same to a filter. Where nothing is negated, it is never
-- worse that more of them hold.
theorem compileFilter_sees_named_tags {f : Filter} {p : Predicate}
    (h : compileFilter (some f) = .ok p) :
    (∀ m n : Tags, (∀ c ∈ f.conditions, m.get? c.tag = n.get? c.tag) → p.accepts m = p.accepts n) ∧
    (∀ (tag : String) (tags : Tags), tags.get? tag = none →
      (∀ c ∈ f.conditions, c.tag = tag → ∃ op, Operator.ofWord? c.operator = some (.compare op)) →
      p.accepts tags = p.accepts (tags.insert tag "")) ∧
    (∀ (tag : String) (tags : Tags) (value : String), tags.get? tag = none → f.Positive →
      (∀ c ∈ f.conditions, c.tag = tag → ∃ op ∈ [Operator.like, .contains, .startsWith, .endsWith],
        Operator.ofWord? c.operator = some op) →
      p.accepts tags = true → p.accepts (tags.insert tag value) = true) := by
  simp only [Bool.eq_iff_iff, Filter.accepts_compile h]
  refine ⟨?_, ?_, ?_⟩
  · intro m n hs
    exact Filter.holds_congr fun c hc => Condition.holds_congr (hs c hc)
  · intro tag tags hm hs
    exact Filter.holds_congr fun c hc => (Condition.holds_insert_empty hm (hs c hc)).symm
  · intro tag tags value hm hp hs
    exact Filter.holds_of_kept
      ⟨fun c hc => Condition.holds_insert_of_holds hm (hs c hc), fun hn => absurd hp hn⟩

theorem compileFilter_sees_named_tags_no_region :
    let f : Filter := [[
      .condition false ⟨"region", "<", "eu"⟩,
      .group false [
        [.condition false ⟨"name", "contains", "x"⟩],
        [.condition false ⟨"env", "!=", "prod"⟩]]]]
    let tags := Tags.ofList [("env", "test")]
    ∃ p, compileFilter (some f) = .ok p ∧
      p.accepts (tags.insert "owner" "me") = p.accepts tags ∧
      p.accepts tags = p.accepts (tags.insert "region" "") ∧
      (p.accepts tags = true → p.accepts (tags.insert "name" "y") = true) := by
  intro f tags
  have hf : f.conditions =
      [⟨"region", "<", "eu"⟩, ⟨"name", "contains", "x"⟩, ⟨"env", "!=", "prod"⟩] := by
    simp [f, Filter.conditions, Conjunction.conditions, Term.conditions]
  have hp : f.Positive := by
    simpa [f, Filter.Positive, Conjunction.Positive] using
      ⟨.condition, .group (by simpa using ⟨.condition, .condition⟩)⟩
  cases hc : compileFilter (some f)
  case error =>
    have h : (compileFilter (some f)).isOk = true := by decide +kernel
    simp [hc, Except.isOk, Except.toBool] at h
  case ok p =>
    have ⟨hs, hm, hk⟩ := compileFilter_sees_named_tags hc
    refine ⟨p, rfl, hs _ _ ?_, hm "region" tags (by decide) ?_, hk "name" tags "y" (by decide) hp ?_⟩
    · simp [hf, Tags.get?_insert]
    · simpa [hf] using ⟨Comparison.lt, by decide +kernel⟩
    · simpa [hf] using (by decide +kernel)

end JournalSelect
