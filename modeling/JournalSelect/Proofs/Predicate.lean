import JournalSelect.Predicate
import Mathlib.Data.String.Basic

namespace JournalSelect

-- The first characters that differ decide which text is less; a beginning is less than the whole.
def Comparison.Relates : Comparison → String → String → Prop
  | eq, a, b => a = b
  | ne, a, b => a ≠ b
  | lt, a, b => a.toList < b.toList
  | le, a, b => a.toList < b.toList ∨ a = b
  | gt, a, b => b.toList < a.toList
  | ge, a, b => b.toList < a.toList ∨ b = a

theorem Comparison.holds_iff {op : Comparison} {a b : String} :
    op.holds a b = true ↔ op.Relates a b := by
  cases op
  case eq => exact beq_iff_eq
  case ne => exact bne_iff_ne
  case lt | gt => exact decide_eq_true_iff
  case le | ge =>
    rw [holds, Bool.not_eq_true', decide_eq_false_iff_not, not_lt]
    exact le_iff_lt_or_eq

theorem occursIn_iff_infix {part text : List Char} :
    occursIn part text = true ↔ part <:+: text := by
  induction text
  case nil          => simp [occursIn]
  case cons c cs hi => simp [occursIn, hi, List.infix_cons_iff]

namespace Predicate

variable {p q : Predicate} {tags : Tags} {tag value : String}

@[simp]
theorem accepts_const {b : Bool} : (const b).accepts tags = b :=
  rfl

@[simp]
theorem accepts_and : (and p q).accepts tags = (p.accepts tags && q.accepts tags) := by
  cases h : p.accepts tags <;> simp_all [accepts, evaluate, Evaluation.followedBy]

@[simp]
theorem accepts_or : (or p q).accepts tags = (p.accepts tags || q.accepts tags) := by
  cases h : p.accepts tags <;> simp_all [accepts, evaluate, Evaluation.followedBy]

@[simp]
theorem accepts_not : (not p).accepts tags = !p.accepts tags :=
  rfl

theorem accepts_compare_iff {op : Comparison} :
    (compare tag op value).accepts tags = true ↔ op.Relates ((tags.get? tag).getD "") value :=
  Comparison.holds_iff

theorem accepts_like_iff {pattern : Glob.Pattern} :
    (like tag pattern).accepts tags = true ↔
    ∃ text, tags.get? tag = some text ∧ pattern.accepts text = true := by
  simp [accepts, evaluate, Evaluation.known, Option.any_eq_true]

theorem accepts_contains_iff :
    (contains tag value).accepts tags = true ↔
    ∃ text, tags.get? tag = some text ∧ value.toList <:+: text.toList := by
  simp [accepts, evaluate, Evaluation.known, Option.any_eq_true, occursIn_iff_infix]

theorem accepts_startsWith_iff :
    (startsWith tag value).accepts tags = true ↔
    ∃ text, tags.get? tag = some text ∧ value.toList <+: text.toList := by
  simp [accepts, evaluate, Evaluation.known, Option.any_eq_true]

theorem accepts_endsWith_iff :
    (endsWith tag value).accepts tags = true ↔
    ∃ text, tags.get? tag = some text ∧ value.toList <:+ text.toList := by
  simp [accepts, evaluate, Evaluation.known, Option.any_eq_true]

end Predicate

end JournalSelect
