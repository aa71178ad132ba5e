import JournalSelect.Glob.Pattern
import JournalSelect.Tags
import JournalSelect.Text.Quoted

namespace JournalSelect

inductive Comparison where
  | eq
  | ne
  | lt
  | le
  | gt
  | ge
deriving DecidableEq, Repr

namespace Comparison

-- Texts are compared character by character, by code point.
def holds : Comparison → String → String → Bool
  | eq, a, b => a == b
  | ne, a, b => a != b
  | lt, a, b => a < b
  | le, a, b => !(b < a)
  | gt, a, b => b < a
  | ge, a, b => !(a < b)

def symbol : Comparison → String
  | eq => "="
  | ne => "!="
  | lt => "<"
  | le => "<="
  | gt => ">"
  | ge => ">="

end Comparison

def occursIn (part : List Char) : List Char → Bool
  | [] => part.isEmpty
  | c :: cs => part.isPrefixOf (c :: cs) || occursIn part cs

-- A check that the caller supplies, known by its name.
structure Check where
  name : String
  holds : Tags → Bool

inductive Predicate where
  | const (b : Bool)
  | and (left right : Predicate)
  | or (left right : Predicate)
  | not (inner : Predicate)
  | compare (tag : String) (op : Comparison) (value : String)
  | like (tag : String) (pattern : Glob.Pattern)
  | contains (tag value : String)
  | startsWith (tag value : String)
  | endsWith (tag value : String)
  | check (c : Check)

-- A result, and the checks of the caller that ran until it was known.
structure Evaluation where
  result : Bool
  calls : List Check

namespace Evaluation

-- A result that needs no check.
def known (result : Bool) : Evaluation where
  result := result
  calls := []

-- The second evaluation decides, after the first one has run.
def followedBy (first second : Evaluation) : Evaluation where
  result := second.result
  calls := first.calls ++ second.calls

def inverted (e : Evaluation) : Evaluation :=
  { e with result := !e.result }

end Evaluation

namespace Predicate

-- Operands are evaluated from left to right, and no more of them than the result needs. A missing tag is
-- compared as the empty text, and no other test holds of it.
def evaluate (tags : Tags) : Predicate → Evaluation
  | const b => .known b
  | and left right =>
    let first := left.evaluate tags
    if first.result then first.followedBy (right.evaluate tags) else first
  | or left right =>
    let first := left.evaluate tags
    if first.result then first else first.followedBy (right.evaluate tags)
  | not inner => (inner.evaluate tags).inverted
  | compare tag op value => .known (op.holds ((tags.get? tag).getD "") value)
  | like tag pattern => .known ((tags.get? tag).any pattern.accepts)
  | contains tag value => .known ((tags.get? tag).any fun s => occursIn value.toList s.toList)
  | startsWith tag value => .known ((tags.get? tag).any fun s => value.toList.isPrefixOf s.toList)
  | endsWith tag value => .known ((tags.get? tag).any fun s => value.toList.isSuffixOf s.toList)
  | check c => ⟨c.holds tags, [c]⟩

def accepts (p : Predicate) (tags : Tags) : Bool :=
  (p.evaluate tags).result

end Predicate

end JournalSelect
