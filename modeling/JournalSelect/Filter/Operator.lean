import JournalSelect.Predicate
import JournalSelect.Text.UpperCase

namespace JournalSelect

inductive Operator where
  | compare (op : Comparison)
  | like
  | contains
  | startsWith
  | endsWith
deriving DecidableEq, Repr

namespace Operator

def words : List (String × Operator) := [
  ("<", .compare .lt),
  (">", .compare .gt),
  ("<=", .compare .le),
  (">=", .compare .ge),
  ("!=", .compare .ne),
  ("=", .compare .eq),
  ("LIKE", .like),
  ("CONTAINS", .contains),
  ("HAS_PREFIX", .startsWith),
  ("HAS_SUFFIX", .endsWith)]

-- Words are compared in upper case.
def ofWord? (word : String) : Option Operator :=
  words.lookup (Text.uppercased word)

theorem ofWord?_of_mem_words : ∀ entry ∈ words, ofWord? entry.1 = some entry.2 := by
  decide +kernel

end Operator

end JournalSelect
