import JournalSelect.Filter.Compile
import JournalSelect.Proofs.Except

namespace JournalSelect

def Condition.Valid (c : Condition) : Prop :=
  ∃ op, Operator.ofWord? c.operator = some op ∧
    (op = .like → ∃ p, Glob.Pattern.parse c.value = .ok p)

-- What is reported about a condition that is not valid. All texts are given as they were written.
inductive Condition.Fault (c : Condition) : CompileError → Prop
  | operator :
    Operator.ofWord? c.operator = none → Fault c (.unsupportedOperator c.operator c.tag)
  | pattern {cause} :
    Operator.ofWord? c.operator = some .like → Glob.Pattern.parse c.value = .error cause →
    Fault c (.invalidPattern c.tag c.value cause)

-- The conditions in the order in which they are written.
mutual

def Term.conditions : Term → List Condition
  | .condition _ c => [c]
  | .group _ alternatives => Filter.conditions alternatives

def Conjunction.conditions : Conjunction → List Condition
  | [] => []
  | term :: terms => term.conditions ++ Conjunction.conditions terms

def Filter.conditions : Filter → List Condition
  | [] => []
  | terms :: alternatives => Conjunction.conditions terms ++ Filter.conditions alternatives

end

namespace Condition

variable {c : Condition}

theorem compile_eq_ok_iff : (∃ p, c.compile = .ok p) ↔ c.Valid := by
  simp only [compile, Valid]
  cases Operator.ofWord? c.operator
  case none => simp
  case some op =>
    cases op <;> simp [Operator.predicate]
    cases Glob.Pattern.parse c.value <;> simp

theorem compile_eq_error_iff {e : CompileError} : c.compile = .error e ↔ c.Fault e := by
  constructor
  case mp =>
    intro h
    cases ho : Operator.ofWord? c.operator <;> simp only [compile, ho, Except.error.injEq] at h
    case none => exact h ▸ .operator ho
    case some op =>
      cases op <;> simp only [Operator.predicate, reduceCtorEq] at h
      cases hp : Glob.Pattern.parse c.value
      case ok => simp [hp] at h
      case error =>
        simp only [hp, Except.error.injEq] at h
        exact h ▸ .pattern ho hp
  case mpr =>
    intro h
    cases h
    case operator ho   => simp [compile, ho]
    case pattern ho hp => simp [compile, ho, Operator.predicate, hp]

end Condition

mutual

theorem Term.fault?_compile : ∀ term : Term,
    fault? term.compile = term.conditions.findSome? (fault? ·.compile)
  | .condition _ c => by
    rw [Term.compile, Term.conditions, fault?_bind_pure, List.findSome?_singleton]
  | .group _ alternatives => by
    rw [Term.compile, Term.conditions, fault?_bind_pure, fault?_compileAlternatives alternatives]

theorem fault?_compileTerms : ∀ terms : Conjunction,
    fault? (compileTerms terms) = terms.conditions.findSome? (fault? ·.compile)
  | [] => rfl
  | term :: terms => by
    rw [compileTerms, Conjunction.conditions, List.findSome?_append, fault?_bind_bind_pure]
    rw [Term.fault?_compile term, fault?_compileTerms terms]

theorem fault?_compileAlternatives : ∀ alternatives : Filter,
    fault? (compileAlternatives alternatives) = alternatives.conditions.findSome? (fault? ·.compile)
  | [] => rfl
  | terms :: alternatives => by
    rw [compileAlternatives, Filter.conditions, List.findSome?_append, fault?_bind_bind_pure]
    rw [fault?_compileTerms terms, fault?_compileAlternatives alternatives]

end

theorem Filter.fault?_compile (f : Filter) :
    fault? f.compile = f.conditions.findSome? (fault? ·.compile) := by
  rw [compile, fault?_bind_pure, fault?_compileAlternatives]

theorem Filter.compile_eq_ok_iff {f : Filter} :
    (∃ p, f.compile = .ok p) ↔ ∀ c ∈ f.conditions, c.Valid := by
  rw [←fault?_eq_none_iff, fault?_compile, List.findSome?_eq_none_iff]
  simp only [fault?_eq_none_iff, Condition.compile_eq_ok_iff]

theorem Filter.compile_eq_error_iff {f : Filter} {e : CompileError} :
    f.compile = .error e ↔
    ∃ before c after,
      f.conditions = before ++ c :: after ∧ (∀ b ∈ before, b.Valid) ∧ c.Fault e := by
  rw [←fault?_eq_some_iff, fault?_compile, List.findSome?_eq_some_iff]
  simp only [fault?_eq_none_iff, Condition.compile_eq_ok_iff, fault?_eq_some_iff,
    Condition.compile_eq_error_iff, and_comm]

-- The first condition is meant as the filter is written, from left to right.
theorem compileFilter_reports_first_invalid (f : Filter) :
    ((∃ p, compileFilter (some f) = .ok p) ↔ ∀ c ∈ f.conditions, c.Valid) ∧
    (∀ e, compileFilter (some f) = .error e ↔
      ∃ before c after,
        f.conditions = before ++ c :: after ∧ (∀ b ∈ before, b.Valid) ∧ c.Fault e) :=
  ⟨Filter.compile_eq_ok_iff, fun _ => Filter.compile_eq_error_iff⟩

-- env = "prod" OR region = "eu" AND NOT (name LIKE "[a-") OR env ~= "dev"
example :
    fault? (compileFilter (some [
      [.condition false ⟨"env", "=", "prod"⟩],
      [.condition false ⟨"region", "=", "eu"⟩,
        .group true [[.condition false ⟨"name", "LIKE", "[a-"⟩]]],
      [.condition false ⟨"env", "~=", "dev"⟩]])) =
    some (.invalidPattern "name" "[a-" .unterminatedClass) := by
  decide +kernel

end JournalSelect
