import JournalSelect.Filter.Basic
import JournalSelect.Filter.Operator
import JournalSelect.Glob.Parser

namespace JournalSelect

inductive CompileError where
  | invalidPattern (tag pattern : String) (cause : Glob.PatternError)
  | unsupportedOperator (operator tag : String)
deriving DecidableEq, Repr

def CompileError.message : CompileError → String
  | .invalidPattern tag pattern cause =>
    "wrong 'like' expression '" ++ pattern ++ "' for tag '" ++ tag ++ "': " ++ cause.message
  | .unsupportedOperator operator tag =>
    "unsupported operation " ++ operator ++ " for tag '" ++ tag ++ "'"

def Operator.predicate (tag value : String) : Operator → Except CompileError Predicate
  | .compare op => .ok (.compare tag op value)
  | .like =>
    match Glob.Pattern.parse value with
    | .ok pattern => .ok (.like tag pattern)
    | .error cause => .error (.invalidPattern tag value cause)
  | .contains => .ok (.contains tag value)
  | .startsWith => .ok (.startsWith tag value)
  | .endsWith => .ok (.endsWith tag value)

def Condition.compile (c : Condition) : Except CompileError Predicate :=
  match Operator.ofWord? c.operator with
  | some operator => operator.predicate c.tag c.value
  | none => .error (.unsupportedOperator c.operator c.tag)

def Predicate.negateIf (negated : Bool) (p : Predicate) : Predicate :=
  if negated then .not p else p

-- A chain of predicates, joined from the left. An empty chain holds always, whatever joins it.
def Predicate.chain (join : Predicate → Predicate → Predicate) : List Predicate → Predicate
  | [] => .const true
  | p :: ps => ps.foldl join p

mutual

def Term.compile : Term → Except CompileError Predicate
  | .condition negated c => do
    let p ← c.compile
    return p.negateIf negated
  | .group negated alternatives => do
    let ps ← compileAlternatives alternatives
    return (Predicate.chain .or ps).negateIf negated

def compileTerms : List Term → Except CompileError (List Predicate)
  | [] => return []
  | term :: terms => do
    let p ← term.compile
    let ps ← compileTerms terms
    return p :: ps

def compileAlternatives : List (List Term) → Except CompileError (List Predicate)
  | [] => return []
  | terms :: alternatives => do
    let ps ← compileTerms terms
    let qs ← compileAlternatives alternatives
    return Predicate.chain .and ps :: qs

end

-- Every condition is looked at, and the first one that is wrong is reported.
def Filter.compile (f : Filter) : Except CompileError Predicate := do
  let ps ← compileAlternatives f
  return .chain .or ps

-- Without a filter everything is accepted.
def compileFilter : Option Filter → Except CompileError Predicate
  | none => return .const true
  | some f => f.compile

end JournalSelect
