import JournalSelect.Glob.Pattern

namespace JournalSelect.Glob

inductive PatternError where
  | unterminatedClass
  | emptyClass
  | badClassChar (c : Char)
  | trailingEscape
deriving DecidableEq, Repr

def PatternError.message : PatternError → String
  | .unterminatedClass => "unterminated character class"
  | .emptyClass => "empty character class"
  | .badClassChar c => "unexpected '" ++ c.toString ++ "' in character class"
  | .trailingEscape => "trailing escape character"

inductive Item where
  | star
  | token (t : Token)
deriving DecidableEq, Repr

-- One character of a class, which may be escaped. The class must go on after it.
def member? : List Char → Except PatternError (Char × List Char)
  | [] => .error .unterminatedClass
  | c :: rest =>
    if c = '-' ∨ c = ']' then .error (.badClassChar c)
    else if c = '\\' then
      match rest with
      | escaped :: d :: rest => .ok (escaped, d :: rest)
      | _ => .error .unterminatedClass
    else
      match rest with
      | d :: rest => .ok (c, d :: rest)
      | [] => .error .unterminatedClass

theorem length_lt_of_member? {cs c rest} (h : member? cs = .ok (c, rest)) :
    rest.length < cs.length := by
  unfold member? at h
  grind

-- The ranges of a class up to its closing bracket; a member by itself is the range from it to itself.
def ranges? (before : List (Char × Char)) (cs : List Char) :
    Except PatternError (List (Char × Char) × List Char) :=
  match cs with
  | [] => .error .unterminatedClass
  | ']' :: rest => if before.isEmpty then .error .emptyClass else .ok (before.reverse, rest)
  | cs =>
    match h : member? cs with
    | .error e => .error e
    | .ok (low, '-' :: rest) =>
      match h' : member? rest with
      | .error e => .error e
      | .ok (high, rest) =>
        have := length_lt_of_member? h
        have := length_lt_of_member? h'
        ranges? ((low, high) :: before) rest
    | .ok (low, rest) =>
      have := length_lt_of_member? h
      ranges? ((low, low) :: before) rest
termination_by cs.length
decreasing_by all_goals grind

theorem length_lt_of_ranges? {before cs ranges rest} (h : ranges? before cs = .ok (ranges, rest)) :
    rest.length < cs.length := by
  fun_induction ranges? before cs <;> simp_all
  all_goals grind

def classFrom? (negated : Bool) (cs : List Char) : Except PatternError (Token × List Char) :=
  match ranges? [] cs with
  | .error e => .error e
  | .ok (ranges, rest) => .ok (.charClass negated ranges, rest)

theorem length_lt_of_classFrom? {negated cs t rest} (h : classFrom? negated cs = .ok (t, rest)) :
    rest.length < cs.length := by
  cases e : ranges? [] cs <;> simp [classFrom?, e] at h
  simpa [← h.right] using length_lt_of_ranges? e

-- A class after its opening bracket; a caret right behind the bracket negates it.
def class? : List Char → Except PatternError (Token × List Char)
  | '^' :: rest => classFrom? true rest
  | cs => classFrom? false cs

theorem length_lt_of_class? {cs t rest} (h : class? cs = .ok (t, rest)) : rest.length < cs.length := by
  unfold class? at h
  split at h
  · exact Nat.lt_trans (length_lt_of_classFrom? h) (by simp)
  · exact length_lt_of_classFrom? h

def items? : List Char → Except PatternError (List Item)
  | [] => .ok []
  | '*' :: rest => (items? rest).map (.star :: ·)
  | '?' :: rest => (items? rest).map (.token .anyChar :: ·)
  | ['\\'] => .error .trailingEscape
  | '\\' :: c :: rest => (items? rest).map (.token (.literal c) :: ·)
  | '[' :: rest =>
    match h : class? rest with
    | .error e => .error e
    | .ok (t, rest) =>
      have := length_lt_of_class? h
      (items? rest).map (.token t :: ·)
  | c :: rest => (items? rest).map (.token (.literal c) :: ·)
termination_by cs => cs.length
decreasing_by all_goals simp; try omega

-- A star belongs to the chunk behind it, and stars in a row are one. A token joins the chunk behind it
-- unless a star stands between them.
def Item.prepend : Item → List Chunk → List Chunk
  | .star, [] => [⟨true, []⟩]
  | .star, chunk :: chunks => ⟨true, chunk.tokens⟩ :: chunks
  | .token t, [] => [⟨false, [t]⟩]
  | .token t, chunk :: chunks =>
    if chunk.star then ⟨false, [t]⟩ :: chunk :: chunks else ⟨false, t :: chunk.tokens⟩ :: chunks

def chunksOf (items : List Item) : List Chunk :=
  items.foldr Item.prepend [⟨false, []⟩]

-- First come the items as they are written, then their arrangement in chunks.
def Pattern.parse (s : String) : Except PatternError Pattern :=
  (items? s.toList).map fun items => ⟨chunksOf items⟩

end JournalSelect.Glob
