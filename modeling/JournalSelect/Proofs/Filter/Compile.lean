import JournalSelect.Filter.Compile
import JournalSelect.Proofs.Except
import JournalSelect.Proofs.Filter.Meaning

namespace JournalSelect

variable {tags : Tags}

namespace Predicate

variable {p : Predicate} {ps : List Predicate}

theorem accepts_negateIf {negated : Bool} {meaning : Prop} (h : p.accepts tags = true ↔ meaning) :
    (p.negateIf negated).accepts tags = true ↔ InvertedIf negated meaning := by
  cases negated <;> simp [negateIf, InvertedIf, ←h]

theorem accepts_foldl_and : (ps.foldl and p).accepts tags = true ↔
    p.accepts tags = true ∧ ∀ q ∈ ps, q.accepts tags = true := by
  induction ps generalizing p
  case nil       => simp
  case cons _ hi => simp [hi, and_assoc]

theorem accepts_foldl_or : (ps.foldl or p).accepts tags = true ↔
    p.accepts tags = true ∨ ∃ q ∈ ps, q.accepts tags = true := by
  induction ps generalizing p
  case nil       => simp
  case cons _ hi => simp [hi, or_assoc]

theorem accepts_chain_and :
    (chain and ps).accepts tags = true ↔ ∀ p ∈ ps, p.accepts tags = true := by
  cases ps <;> simp [chain, accepts_foldl_and]

theorem accepts_chain_or :
    (chain or ps).accepts tags = true ↔ ps = [] ∨ ∃ p ∈ ps, p.accepts tags = true := by
  cases ps <;> simp [chain, accepts_foldl_or]

end Predicate

theorem Operator.accepts_predicate {tag value : String} {op : Operator} {p : Predicate}
    (h : op.predicate tag value = .ok p) :
    p.accepts tags = true ↔ op.Holds (tags.get? tag) value := by
  cases op <;> simp only [predicate, Except.ok.injEq] at h
  case like =>
    cases hp : Glob.Pattern.parse value <;> simp only [hp, reduceCtorEq, Except.ok.injEq] at h
    simp [←h, Predicate.accepts_like_iff, Holds, hp]
  case compare    => simp only [←h, Predicate.accepts_compare_iff, Holds]
  case contains   => simp only [←h, Predicate.accepts_contains_iff, Holds]
  case startsWith => simp only [←h, Predicate.accepts_startsWith_iff, Holds]
  case endsWith   => simp only [←h, Predicate.accepts_endsWith_iff, Holds]

theorem Condition.accepts_compile {c : Condition} {p : Predicate} (h : c.compile = .ok p) :
    p.accepts tags = true ↔ c.Holds tags := by
  cases ho : Operator.ofWord? c.operator <;> simp only [compile, ho, reduceCtorEq] at h
  simp [Holds, ho, Operator.accepts_predicate h]

theorem compileAlternatives_eq_nil_iff : ∀ {alternatives : List (List Term)} {ps : List Predicate},
    compileAlternatives alternatives = .ok ps → (ps = [] ↔ alternatives = [])
  | [], _, h => by
    rw [compileAlternatives] at h
    simp [pure_eq_ok_iff.mp h]
  | _ :: _, _, h => by
    rw [compileAlternatives] at h
    obtain ⟨_, _, h⟩ := bind_eq_ok_iff.mp h
    obtain ⟨_, _, hp⟩ := bind_eq_ok_iff.mp h
    simp [pure_eq_ok_iff.mp hp]

-- By recursion on the tree. The empty list of alternatives is kept apart, because a chain of no
-- predicates accepts everything although none of them does.
mutual

theorem Term.accepts_compile : ∀ {term : Term} {p : Predicate},
    term.compile = .ok p → (p.accepts tags = true ↔ term.Holds tags)
  | .condition .., _, h => by
    rw [Term.compile] at h
    have ⟨q, hq, hp⟩ := bind_eq_ok_iff.mp h
    rw [pure_eq_ok_iff.mp hp, Term.Holds]
    exact Predicate.accepts_negateIf <| Condition.accepts_compile hq
  | .group .., _, h => by
    rw [Term.compile] at h
    have ⟨qs, hq, hp⟩ := bind_eq_ok_iff.mp h
    rw [pure_eq_ok_iff.mp hp, Term.Holds]
    apply Predicate.accepts_negateIf
    rw [Predicate.accepts_chain_or, compileAlternatives_eq_nil_iff hq]
    rw [accepts_compileAlternatives hq]

theorem accepts_compileTerms : ∀ {terms : List Term} {ps : List Predicate},
    compileTerms terms = .ok ps → ((∀ p ∈ ps, p.accepts tags = true) ↔ AllHold tags terms)
  | [], _, h => by
    rw [compileTerms] at h
    simp [pure_eq_ok_iff.mp h, AllHold]
  | _ :: _, _, h => by
    rw [compileTerms] at h
    have ⟨q, hq, h⟩ := bind_eq_ok_iff.mp h
    have ⟨qs, hqs, hp⟩ := bind_eq_ok_iff.mp h
    rw [pure_eq_ok_iff.mp hp, List.forall_mem_cons, AllHold]
    rw [Term.accepts_compile hq, accepts_compileTerms hqs]

theorem accepts_compileAlternatives : ∀ {alternatives : List (List Term)} {ps : List Predicate},
    compileAlternatives alternatives = .ok ps →
    ((∃ p ∈ ps, p.accepts tags = true) ↔ SomeHold tags alternatives)
  | [], _, h => by
    rw [compileAlternatives] at h
    simp [pure_eq_ok_iff.mp h, SomeHold]
  | _ :: _, _, h => by
    rw [compileAlternatives] at h
    have ⟨q, hq, h⟩ := bind_eq_ok_iff.mp h
    have ⟨qs, hqs, hp⟩ := bind_eq_ok_iff.mp h
    rw [pure_eq_ok_iff.mp hp, List.exists_mem_cons_iff, SomeHold]
    rw [Predicate.accepts_chain_and, accepts_compileTerms hq, accepts_compileAlternatives hqs]

end

theorem Filter.accepts_compile {f : Filter} {p : Predicate} (h : f.compile = .ok p) :
    p.accepts tags = true ↔ f.Holds tags := by
  have ⟨ps, hps, hp⟩ := bind_eq_ok_iff.mp h
  rw [pure_eq_ok_iff.mp hp, Predicate.accepts_chain_or, Filter.Holds, ←someHold_iff]
  rw [compileAlternatives_eq_nil_iff hps, accepts_compileAlternatives hps]

end JournalSelect
