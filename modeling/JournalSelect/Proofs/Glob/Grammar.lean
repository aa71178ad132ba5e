import JournalSelect.Glob.Parser

namespace JournalSelect.Glob.Written

-- The grammar of patterns, by its derivations:
--
-- * pattern = item*
-- * item = `*` | `?` | `\` c | `[` [`^`] range+ `]` | c, where a bare c is none of `*`, `?`, `\`, `[`
-- * range = member | member `-` member
-- * member = `\` c | c, where a bare c is none of `-`, `]`, `\`
--
-- A class without the mark of negation does not start with a bare caret.
inductive Member where
  | bare (c : Char) (h : c ≠ '-' ∧ c ≠ ']' ∧ c ≠ '\\')
  | escaped (c : Char)

inductive Range where
  | single (m : Member)
  | between (low high : Member)

namespace Member

def char : Member → Char
  | bare c _ | escaped c => c

def text : Member → List Char
  | bare c _  => [c]
  | escaped c => ['\\', c]

end Member

namespace Range

-- A member by itself is the range from it to itself.
def bounds : Range → Char × Char
  | single m         => (m.char, m.char)
  | between low high => (low.char, high.char)

def text : Range → List Char
  | single m         => m.text
  | between low high => low.text ++ '-' :: high.text

end Range

-- What stands between the brackets of a class.
structure Class where
  negated : Bool
  ranges : List Range
  nonempty : ranges ≠ []
  uncareted : negated = false → (ranges.flatMap Range.text).head? ≠ some '^'

namespace Class

def token (c : Class) : Token :=
  .charClass c.negated (c.ranges.map Range.bounds)

def mark (negated : Bool) : List Char :=
  if negated then ['^'] else []

def text (c : Class) : List Char :=
  mark c.negated ++ c.ranges.flatMap Range.text

end Class

inductive Item where
  | star
  | anyChar
  | escaped (c : Char)
  | charClass (c : Class)
  | bare (c : Char) (h : c ≠ '*' ∧ c ≠ '?' ∧ c ≠ '\\' ∧ c ≠ '[')

namespace Item

def item : Item → Glob.Item
  | star               => .star
  | anyChar            => .token .anyChar
  | escaped c | bare c _ => .token (.literal c)
  | charClass c        => .token c.token

def text : Item → List Char
  | star        => ['*']
  | anyChar     => ['?']
  | escaped c   => ['\\', c]
  | charClass c => '[' :: c.text ++ [']']
  | bare c _    => [c]

end Item

abbrev Pattern := List Item

def Pattern.text (w : Pattern) : List Char :=
  w.flatMap Item.text

variable {x y : List Char}

theorem Member.append_inj {m n : Member} (h : m.text ++ x = n.text ++ y) : m = n ∧ x = y := by
  cases m <;> cases n <;> simp only [text, List.cons_append, List.nil_append, List.cons.injEq] at h
  case bare.bare       => simpa using h
  case escaped.escaped => simpa using h
  case bare.escaped hc _ => exact absurd h.left hc.right.right
  case escaped.bare hc   => exact absurd h.left.symm hc.right.right

theorem Member.head?_append {m : Member} {c : Char} (h : (m.text ++ x).head? = some c) :
    c ≠ '-' ∧ c ≠ ']' := by
  cases m <;> simp only [text, List.cons_append, List.head?_cons, Option.some.injEq] at h
  case bare hc => exact h ▸ ⟨hc.left, hc.right.left⟩
  case escaped => exact h ▸ by decide

theorem Range.head?_append {r : Range} {c : Char} (h : (r.text ++ x).head? = some c) :
    c ≠ '-' ∧ c ≠ ']' := by
  cases r
  case single  => exact Member.head?_append h
  case between => exact Member.head?_append (by rwa [text, List.append_assoc] at h)

-- A hyphen behind a member belongs to the range that the member starts.
theorem Range.append_inj {r q : Range} (hx : x.head? ≠ some '-') (hy : y.head? ≠ some '-')
    (h : r.text ++ x = q.text ++ y) : r = q ∧ x = y := by
  cases r <;> cases q <;> simp only [text, List.append_assoc] at h
  case single.single =>
    have ⟨hm, ht⟩ := Member.append_inj h
    exact ⟨hm ▸ rfl, ht⟩
  case single.between =>
    have ⟨_, ht⟩ := Member.append_inj h
    exact absurd (by simp [ht]) hx
  case between.single =>
    have ⟨_, ht⟩ := Member.append_inj h
    exact absurd (by simp [←ht]) hy
  case between.between =>
    have ⟨hl, ht⟩ := Member.append_inj h
    simp only [List.cons_append, List.cons.injEq, true_and] at ht
    have ⟨hh, ht⟩ := Member.append_inj ht
    exact ⟨hl ▸ hh ▸ rfl, ht⟩

theorem Range.head?_ranges_ne {rs : List Range} :
    (rs.flatMap text ++ ']' :: x).head? ≠ some '-' := by
  intro h
  cases rs
  case nil  => simp at h
  case cons =>
    rw [List.flatMap_cons, List.append_assoc] at h
    exact (head?_append h).left rfl

theorem Range.append_ne_closed {r : Range} : r.text ++ x ≠ ']' :: y := by
  intro h
  exact (head?_append (congrArg List.head? h)).right rfl

theorem Range.ranges_inj {rs qs : List Range}
    (h : rs.flatMap text ++ ']' :: x = qs.flatMap text ++ ']' :: y) : rs = qs ∧ x = y := by
  induction rs generalizing qs <;> cases qs <;>
    simp only [List.flatMap_cons, List.flatMap_nil, List.nil_append, List.append_assoc] at h
  case nil.nil          => simpa using h
  case nil.cons         => exact absurd h.symm append_ne_closed
  case cons.nil         => exact absurd h append_ne_closed
  case cons.cons hi _ _ =>
    have ⟨hr, ht⟩ := append_inj head?_ranges_ne head?_ranges_ne h
    have ⟨hrs, hxy⟩ := hi ht
    exact ⟨hr ▸ hrs ▸ rfl, hxy⟩

-- A caret behind the opening bracket is the mark of negation.
theorem Class.append_inj {c d : Class} (h : c.text ++ ']' :: x = d.text ++ ']' :: y) :
    c = d ∧ x = y := by
  have careted {e : Class} {z z' : List Char} (he : e.negated = false) :
      '^' :: z ≠ e.ranges.flatMap Range.text ++ ']' :: z' := by
    intro h
    have hn := e.uncareted he
    cases ht : e.ranges.flatMap Range.text <;> simp [ht] at h hn
    exact hn h.left.symm
  cases hc : c.negated <;> cases hd : d.negated <;> simp [text, mark, hc, hd] at h
  case false.true => exact absurd h.symm (careted hc)
  case true.false => exact absurd h (careted hd)
  all_goals
    have ⟨hr, hxy⟩ := Range.ranges_inj h
    cases c
    cases d
    simp_all

theorem Item.append_inj {i j : Item} (h : i.text ++ x = j.text ++ y) : i = j ∧ x = y := by
  cases i <;> cases j <;> simp [text] at h
  case charClass.charClass =>
    have ⟨hc, hxy⟩ := Class.append_inj h
    exact ⟨hc ▸ rfl, hxy⟩
  all_goals grind

theorem Pattern.text_injective : Function.Injective text := by
  intro w v h
  induction w generalizing v <;> cases v <;>
    simp only [text, List.flatMap_cons, List.flatMap_nil] at h
  case nil.nil          => rfl
  case nil.cons j _     => cases j <;> simp [Item.text] at h
  case cons.nil i _ _   => cases i <;> simp [Item.text] at h
  case cons.cons hi _ _ =>
    have ⟨hij, ht⟩ := Item.append_inj h
    rw [hij, hi ht]

end JournalSelect.Glob.Written
