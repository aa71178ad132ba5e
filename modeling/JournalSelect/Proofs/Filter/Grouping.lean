import JournalSelect.Proofs.Filter.Compile
import JournalSelect.Proofs.Filter.Validation

namespace JournalSelect

-- A group around a filter, and what stands beside the group.
structure Enclosure where
  alternativesBefore : Filter
  termsBefore : Conjunction
  negated : Bool
  termsAfter : Conjunction
  alternativesAfter : Filter

def Enclosure.around (e : Enclosure) (f : Filter) : Filter :=
  e.alternativesBefore ++ (e.termsBefore ++ .group e.negated f :: e.termsAfter) :: e.alternativesAfter

-- The groups around a filter, the outermost first.
abbrev Surroundings := List Enclosure

def Surroundings.around (surroundings : Surroundings) (f : Filter) : Filter :=
  surroundings.foldr Enclosure.around f

-- A pair of parentheses more. It is a leading one if nothing stands before it in its list.
inductive Filter.Parenthesized : (leading : Bool) → Filter → Filter → Prop
  | terms {alternatives others : Filter} {before block after : Conjunction} : block ≠ [] →
    Parenthesized before.isEmpty
      (alternatives ++ (before ++ block ++ after) :: others)
      (alternatives ++ (before ++ .group false [block] :: after) :: others)
  | alternatives {before block after : Filter} : block ≠ [] →
    Parenthesized before.isEmpty (before ++ block ++ after) (before ++ [.group false block] :: after)

variable {f g : Filter} {xs ys : Conjunction} {before after : Filter} {tags : Tags}

-- What an enclosure keeps, any number of them keeps.
theorem Surroundings.around_induction {R : Filter → Filter → Prop}
    (step : ∀ {f g} (e : Enclosure), R f g → R (e.around f) (e.around g)) (h : R f g)
    (surroundings : Surroundings) : R (surroundings.around f) (surroundings.around g) := by
  induction surroundings
  case nil            => exact h
  case cons e rest hi => exact step e hi

section conditions

theorem Conjunction.conditions_append :
    Conjunction.conditions (xs ++ ys) = xs.conditions ++ ys.conditions := by
  induction xs
  case nil          => rfl
  case cons x xs hi => simp [conditions, hi]

theorem Filter.conditions_append : Filter.conditions (f ++ g) = f.conditions ++ g.conditions := by
  induction f
  case nil         => rfl
  case cons x f hi => simp [conditions, hi]

theorem Enclosure.conditions_around (e : Enclosure) (h : f.conditions = g.conditions) :
    (e.around f).conditions = (e.around g).conditions := by
  simp [around, Filter.conditions_append, Filter.conditions, Conjunction.conditions_append,
    Conjunction.conditions, Term.conditions, h]

theorem Filter.Parenthesized.conditions_eq {leading} (h : Parenthesized leading f g) :
    f.conditions = g.conditions := by
  cases h <;>
    simp [Filter.conditions_append, Filter.conditions, Conjunction.conditions_append,
      Conjunction.conditions, Term.conditions]

end conditions

section meaning

theorem Filter.holds_replace (h : (∀ term ∈ xs, term.Holds tags) ↔ ∀ term ∈ ys, term.Holds tags) :
    Filter.Holds (before ++ xs :: after) tags ↔ Filter.Holds (before ++ ys :: after) tags := by
  simp [Holds, or_and_right, exists_or, h]

theorem Enclosure.holds_around (e : Enclosure) (h : f.Holds tags ↔ g.Holds tags) :
    (e.around f).Holds tags ↔ (e.around g).Holds tags := by
  apply Filter.holds_replace
  simp [or_imp, forall_and, Term.holds_group, h]

theorem Filter.Parenthesized.holds_iff {leading} (h : Parenthesized leading f g) :
    f.Holds tags ↔ g.Holds tags := by
  cases h
  case terms =>
    apply Filter.holds_replace
    simp [or_imp, forall_and, Term.holds_group, InvertedIf, Holds]
  case alternatives hn =>
    simp [or_and_right, exists_or, Term.holds_group, InvertedIf, Holds, hn]

end meaning

section compile

-- The predicate of a conjunction that is an alternative.
def Conjunction.compile (terms : Conjunction) : Except CompileError Predicate := do
  let ps ← compileTerms terms
  return .chain .and ps

@[simp]
theorem Predicate.negateIf_false {p : Predicate} : p.negateIf false = p :=
  rfl

@[simp]
theorem Predicate.chain_singleton {join : Predicate → Predicate → Predicate} {p : Predicate} :
    chain join [p] = p :=
  rfl

theorem Predicate.chain_append {join : Predicate → Predicate → Predicate} {ps qs : List Predicate}
    (h : ps ≠ []) : chain join (ps ++ qs) = chain join (chain join ps :: qs) := by
  cases ps
  case nil  => contradiction
  case cons => simp [chain]

theorem Term.compile_group {negated : Bool} :
    (group negated f).compile = do return (← f.compile).negateIf negated := by
  simp [Term.compile, Filter.compile]

theorem compileTerms_append :
    compileTerms (xs ++ ys) = do return (← compileTerms xs) ++ (← compileTerms ys) := by
  induction xs
  case nil          => simp [compileTerms]
  case cons x xs hi => simp [compileTerms, hi]

theorem compileAlternatives_cons : compileAlternatives (xs :: f) =
    do return (← Conjunction.compile xs) :: (← compileAlternatives f) := by
  simp [compileAlternatives, Conjunction.compile]

theorem compileAlternatives_append :
    compileAlternatives (f ++ g) = do return (← compileAlternatives f) ++ (← compileAlternatives g) := by
  induction f
  case nil         => simp [compileAlternatives]
  case cons x f hi => simp [compileAlternatives_cons, hi]

theorem Filter.compile_replace (h : xs.compile = ys.compile) :
    Filter.compile (before ++ xs :: after) = Filter.compile (before ++ ys :: after) := by
  simp [Filter.compile, compileAlternatives_append, compileAlternatives_cons, h]

theorem Enclosure.compile_around (e : Enclosure) (h : f.compile = g.compile) :
    (e.around f).compile = (e.around g).compile := by
  apply Filter.compile_replace
  simp [Conjunction.compile, compileTerms_append, compileTerms, Term.compile_group, h]

theorem compileTerms_eq_nil_iff {ps : List Predicate} (h : compileTerms xs = .ok ps) :
    ps = [] ↔ xs = [] := by
  cases xs
  case nil  => simp [pure_eq_ok_iff.mp h]
  case cons =>
    rw [compileTerms] at h
    obtain ⟨_, _, h⟩ := bind_eq_ok_iff.mp h
    obtain ⟨_, _, hp⟩ := bind_eq_ok_iff.mp h
    simp [pure_eq_ok_iff.mp hp]

-- At the front of a list, what the parentheses enclose is chained first anyway.
theorem Predicate.chain_parenthesized (join : Predicate → Predicate → Predicate)
    {x : Except CompileError (List Predicate)} (y : Except CompileError (List Predicate))
    (hx : ∀ ps, x = .ok ps → ps ≠ []) :
    (do return chain join ((← x) ++ (← y))) =
    (do let p ← (do return chain join (← x)); return chain join (p :: (← y))) := by
  cases x
  case error => rfl
  case ok ps =>
    cases y
    case error => rfl
    case ok qs => exact congrArg _ (chain_append (hx ps rfl))

theorem Term.compile_group_singleton : (group false [xs]).compile = Conjunction.compile xs := by
  simp [compile_group, Filter.compile, compileAlternatives, Conjunction.compile]

theorem Conjunction.compile_group_singleton : Conjunction.compile [.group false f] = f.compile := by
  simp [compile, compileTerms, Term.compile_group]

theorem Conjunction.compile_parenthesized (hn : xs ≠ []) :
    Conjunction.compile (xs ++ ys) = Conjunction.compile (.group false [xs] :: ys) := by
  have hx ps (hp : compileTerms xs = .ok ps) : ps ≠ [] := mt (compileTerms_eq_nil_iff hp).mp hn
  have hc := Predicate.chain_parenthesized .and (compileTerms ys) hx
  calc
    _ = _ := by simp [compile, compileTerms_append]
    _ = _ := hc
    _ = _ := by simp [compile, compileTerms, Term.compile_group_singleton]

theorem Filter.compile_parenthesized (hn : f ≠ []) :
    Filter.compile (f ++ g) = Filter.compile ([.group false f] :: g) := by
  have hx ps (hp : compileAlternatives f = .ok ps) : ps ≠ [] :=
    mt (compileAlternatives_eq_nil_iff hp).mp hn
  have hc := Predicate.chain_parenthesized .or (compileAlternatives g) hx
  calc
    _ = _ := by simp [compile, compileAlternatives_append]
    _ = _ := hc
    _ = _ := by simp [compile, compileAlternatives_cons, Conjunction.compile_group_singleton]

theorem Filter.Parenthesized.compile_eq {leading} (h : Parenthesized leading f g)
    (hl : leading = true) : f.compile = g.compile := by
  cases h <;> rw [List.isEmpty_iff] at hl <;> subst hl
  case terms hn        => exact Filter.compile_replace <| Conjunction.compile_parenthesized hn
  case alternatives hn => exact Filter.compile_parenthesized hn

end compile

-- A pair of parentheses more, at any depth of a filter.
theorem compileFilter_ignores_parentheses {leading : Bool} (h : Filter.Parenthesized leading f g)
    (surroundings : Surroundings) :
    let plain := compileFilter (some (surroundings.around f))
    let parenthesized := compileFilter (some (surroundings.around g))
    (∀ e, plain = .error e ↔ parenthesized = .error e) ∧
    (∀ p q, plain = .ok p → parenthesized = .ok q → ∀ tags, p.accepts tags = q.accepts tags) ∧
    (leading = true → plain = parenthesized) := by
  intro plain parenthesized
  refine ⟨?_, ?_, ?_⟩
  · intro e
    have hc := Surroundings.around_induction (R := fun f g => f.conditions = g.conditions)
      Enclosure.conditions_around h.conditions_eq surroundings
    rw [←fault?_eq_some_iff, ←fault?_eq_some_iff]
    simp only [plain, parenthesized, compileFilter, Filter.fault?_compile, hc]
  · intro p q hp hq tags
    have hh := Surroundings.around_induction (R := fun f g => f.Holds tags ↔ g.Holds tags)
      Enclosure.holds_around h.holds_iff surroundings
    rw [Bool.eq_iff_iff, Filter.accepts_compile hp, Filter.accepts_compile hq, hh]
  · intro hl
    exact Surroundings.around_induction (R := fun f g => f.compile = g.compile)
      Enclosure.compile_around (h.compile_eq hl) surroundings

-- NOT (a OR b AND a), with parentheses around b, and around the alternatives behind a.
theorem compileFilter_ignores_parentheses_under_negation :
    let a : Term := .condition false ⟨"env", "=", "prod"⟩
    let b : Term := .condition true ⟨"name", "like", "tmp*"⟩
    let plain : Filter := [[.group true [[a], [b, a]]]]
    Filter.Parenthesized true [[a], [b, a]] [[a], [.group false [[b]], a]] ∧
    compileFilter (some plain) = compileFilter (some [[.group true [[a], [.group false [[b]], a]]]]) ∧
    Filter.Parenthesized false [[a], [b, a]] [[a], [.group false [[b, a]]]] ∧
    ∃ p q, compileFilter (some plain) = .ok p ∧
      compileFilter (some [[.group true [[a], [.group false [[b, a]]]]]]) = .ok q ∧
      ∀ tags, p.accepts tags = q.accepts tags := by
  intro a b plain
  have hl : Filter.Parenthesized true [[a], [b, a]] [[a], [.group false [[b]], a]] :=
    @Filter.Parenthesized.terms [[a]] [] [] [b] [a] (by simp)
  have hn : Filter.Parenthesized false [[a], [b, a]] [[a], [.group false [[b, a]]]] :=
    @Filter.Parenthesized.alternatives [[a]] [[b, a]] [] (by simp)
  let negation : Surroundings := [⟨[], [], true, [], []⟩]
  have ⟨_, _, same⟩ := compileFilter_ignores_parentheses hl negation
  have ⟨errors, agree, _⟩ := compileFilter_ignores_parentheses hn negation
  have hs : (compileFilter (some plain)).toOption.isSome = true := by decide +kernel
  have ⟨p, hp⟩ := Option.isSome_iff_exists.mp hs
  have hp := toOption_eq_some_iff.mp hp
  have valid := exists_eq_ok_iff.mp ⟨p, hp⟩
  have ⟨q, hq⟩ := exists_eq_ok_iff.mpr fun e he => valid e ((errors e).mpr he)
  exact ⟨hl, same rfl, hn, p, q, hp, hq, agree p q hp hq⟩

end JournalSelect
