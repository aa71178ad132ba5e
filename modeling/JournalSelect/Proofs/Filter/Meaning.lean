import JournalSelect.Filter.Basic
import JournalSelect.Filter.Operator
import JournalSelect.Glob.Parser
import JournalSelect.Proofs.Predicate

namespace JournalSelect

-- A tag that is missing is compared as the empty text, and passes no other test.
def Operator.Holds (actual : Option String) (value : String) : Operator → Prop
  | compare op => op.Relates (actual.getD "") value
  | like => ∃ text p, actual = some text ∧ Glob.Pattern.parse value = .ok p ∧ p.accepts text = true
  | contains => ∃ text, actual = some text ∧ value.toList <:+: text.toList
  | startsWith => ∃ text, actual = some text ∧ value.toList <+: text.toList
  | endsWith => ∃ text, actual = some text ∧ value.toList <:+ text.toList

def Condition.Holds (c : Condition) (tags : Tags) : Prop :=
  ∃ op, Operator.ofWord? c.operator = some op ∧ op.Holds (tags.get? c.tag) c.value

def InvertedIf (negated : Bool) (meaning : Prop) : Prop :=
  if negated then ¬meaning else meaning

-- A conjunction without terms holds, and so does a group without alternatives.
mutual

def Term.Holds (tags : Tags) : Term → Prop
  | .condition negated c => InvertedIf negated (c.Holds tags)
  | .group negated alternatives =>
    InvertedIf negated (alternatives = [] ∨ SomeHold tags alternatives)

def AllHold (tags : Tags) : List Term → Prop
  | [] => True
  | term :: terms => term.Holds tags ∧ AllHold tags terms

def SomeHold (tags : Tags) : List (List Term) → Prop
  | [] => False
  | terms :: alternatives => AllHold tags terms ∨ SomeHold tags alternatives

end

def Filter.Holds (f : Filter) (tags : Tags) : Prop :=
  f = [] ∨ ∃ terms ∈ f, ∀ term ∈ terms, term.Holds tags

variable {tags : Tags}

theorem allHold_iff {terms : List Term} : AllHold tags terms ↔ ∀ term ∈ terms, term.Holds tags := by
  induction terms
  case nil       => simp [AllHold]
  case cons _ hi => simp [AllHold, hi]

theorem someHold_iff {alternatives : List (List Term)} :
    SomeHold tags alternatives ↔ ∃ terms ∈ alternatives, ∀ term ∈ terms, term.Holds tags := by
  induction alternatives
  case nil       => simp [SomeHold]
  case cons _ hi => simp [SomeHold, allHold_iff, hi]

-- In parentheses a filter means what it means by itself.
theorem Term.holds_group {negated : Bool} {f : Filter} :
    (group negated f).Holds tags ↔ InvertedIf negated (f.Holds tags) := by
  rw [Term.Holds, someHold_iff, Filter.Holds]

end JournalSelect
