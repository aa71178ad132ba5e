import JournalSelect.Text.Quoted

namespace JournalSelect

structure Condition where
  tag : String
  operator : String
  value : String
deriving DecidableEq, Repr

-- A condition, or the alternatives of a filter in parentheses.
inductive Term where
  | condition (negated : Bool) (c : Condition)
  | group (negated : Bool) (alternatives : List (List Term))
deriving Repr

-- All of the terms.
abbrev Conjunction := List Term

-- Any of the alternatives.
abbrev Filter := List Conjunction

namespace Term

def negate : Term → Term
  | condition negated c => .condition (!negated) c
  | group negated alternatives => .group (!negated) alternatives

def negated : Term → Bool
  | condition negated _ => negated
  | group negated _ => negated

end Term

mutual

def decEqTerm : (s t : Term) → Decidable (s = t)
  | .condition m c, .condition n d => decidable_of_iff (m = n ∧ c = d) (by simp)
  | .group m a, .group n b =>
    have := decEqFilter a b
    decidable_of_iff (m = n ∧ a = b) (by simp)
  | .condition .., .group .. => .isFalse (by simp)
  | .group .., .condition .. => .isFalse (by simp)

def decEqConjunction : (a b : List Term) → Decidable (a = b)
  | [], [] => .isTrue rfl
  | s :: a, t :: b =>
    have := decEqTerm s t
    have := decEqConjunction a b
    decidable_of_iff (s = t ∧ a = b) (by simp)
  | [], _ :: _ => .isFalse (by simp)
  | _ :: _, [] => .isFalse (by simp)

def decEqFilter : (a b : List (List Term)) → Decidable (a = b)
  | [], [] => .isTrue rfl
  | s :: a, t :: b =>
    have := decEqConjunction s t
    have := decEqFilter a b
    decidable_of_iff (s = t ∧ a = b) (by simp)
  | [], _ :: _ => .isFalse (by simp)
  | _ :: _, [] => .isFalse (by simp)

end

instance : DecidableEq Term :=
  decEqTerm

def Condition.render (c : Condition) : String :=
  c.tag ++ " " ++ c.operator ++ " " ++ Text.quoted c.value

def negationMark (negated : Bool) : String :=
  if negated then "NOT " else ""

mutual

def Term.render : Term → String
  | .condition negated c => negationMark negated ++ c.render
  | .group negated alternatives =>
    negationMark negated ++ "(" ++ " OR ".intercalate (renderEach alternatives) ++ ")"

def Conjunction.renderEach : List Term → List String
  | [] => []
  | term :: terms => term.render :: Conjunction.renderEach terms

def renderEach : List (List Term) → List String
  | [] => []
  | terms :: alternatives =>
    " AND ".intercalate (Conjunction.renderEach terms) :: renderEach alternatives

end

def Filter.render (f : Filter) : String :=
  " OR ".intercalate (renderEach f)

end JournalSelect
