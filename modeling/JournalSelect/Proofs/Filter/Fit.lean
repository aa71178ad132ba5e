import JournalSelect.Proofs.Filter.Compile
import JournalSelect.Proofs.Filter.Validation
import JournalSelect.Proofs.Glob.Matching
import JournalSelect.Proofs.Glob.Reading

namespace JournalSelect

open Glob

-- Which part of a value a text is.
inductive Fit where
  | whole
  | beginning
  | ending
  | inside
deriving DecidableEq, Repr

-- A pattern that stands for the text as it is.
def escaped (s : String) : String :=
  String.ofList (s.toList.flatMap fun c => ['\\', c])

namespace Fit

def pattern (s : String) : Fit → String
  | whole     => escaped s
  | beginning => escaped s ++ "*"
  | ending    => "*" ++ escaped s
  | inside    => "*" ++ escaped s ++ "*"

-- What else there is in the value is free of slashes.
def Holds (text value : List Char) : Fit → Prop
  | whole     => text = value
  | beginning => ∃ y, '/' ∉ y ∧ text ++ y = value
  | ending    => ∃ x, '/' ∉ x ∧ x ++ text = value
  | inside    => ∃ x y, '/' ∉ x ∧ '/' ∉ y ∧ x ++ text ++ y = value

-- The operator that asks without a pattern, and the word for it.
def test : Fit → Operator
  | whole     => .compare .eq
  | beginning => .startsWith
  | ending    => .endsWith
  | inside    => .contains

def word : Fit → String
  | whole     => "="
  | beginning => "HAS_PREFIX"
  | ending    => "HAS_SUFFIX"
  | inside    => "CONTAINS"

-- The items of the pattern, as they are written.
def written (s : String) : Fit → Written.Pattern
  | whole     => s.toList.map .escaped
  | beginning => s.toList.map .escaped ++ [.star]
  | ending    => .star :: s.toList.map .escaped
  | inside    => .star :: (s.toList.map .escaped ++ [.star])

def parsed (fit : Fit) (s : String) : Pattern where
  chunks := chunksOf ((fit.written s).map Written.Item.item)

variable {fit : Fit} {s v : String} {value : List Char}

theorem text_written : (fit.written s).text = (fit.pattern s).toList := by
  cases fit <;>
    simp [written, pattern, escaped, Written.Pattern.text, Written.Item.text, List.flatMap_map]

theorem parse_pattern : Pattern.parse (fit.pattern s) = .ok (fit.parsed s) :=
  Pattern.parse_written text_written

theorem cut_literals {cs text : List Char} :
    Cut (cs.map fun c => .token (.literal c)) text ↔ cs = text := by
  induction cs generalizing text
  case nil          => exact cut_nil.trans eq_comm
  case cons c cs hi =>
    rw [List.map_cons, cut_cons]
    simp [hi, Item.Takes, Token.Takes]

theorem cut_written :
    Cut ((fit.written s).map Written.Item.item) value ↔ fit.Holds s.toList value := by
  cases fit <;>
    simp [Holds, written, Written.Item.item, Function.comp_def, cut_cons, cut_append, cut_nil,
      cut_literals, Item.Takes]

theorem not_hasSlashClass_parsed : ¬(fit.parsed s).HasSlashClass := by
  intro ⟨negated, ranges, hm, _⟩
  have hm := Pattern.mem_of_mem_items_chunksOf hm
  cases fit <;> simp [written, Written.Item.item] at hm

theorem accepts_parsed_iff : (fit.parsed s).accepts v = true ↔ fit.Holds s.toList v.toList := by
  rw [Pattern.accepts_iff_describes parse_pattern (.inr not_hasSlashClass_parsed)]
  rw [parsed, describes_chunksOf, cut_written]

-- In a value without a slash nothing holds a star up.
theorem holds_test_iff (hs : '/' ∉ v.toList) :
    fit.test.Holds (some v) s ↔ fit.Holds s.toList v.toList := by
  cases fit <;> simp only [test, Operator.Holds, Holds, Option.some.injEq, exists_eq_left']
  case whole =>
    rw [Comparison.Relates, Option.getD_some, String.toList_inj]
    exact eq_comm
  case beginning =>
    constructor
    case mp  => rintro ⟨y, h⟩; exact ⟨y, fun hm => hs (h ▸ List.mem_append_right _ hm), h⟩
    case mpr => rintro ⟨y, _, h⟩; exact ⟨y, h⟩
  case ending =>
    constructor
    case mp  => rintro ⟨x, h⟩; exact ⟨x, fun hm => hs (h ▸ List.mem_append_left _ hm), h⟩
    case mpr => rintro ⟨x, _, h⟩; exact ⟨x, h⟩
  case inside =>
    constructor
    case mpr => rintro ⟨x, y, _, _, h⟩; exact ⟨x, y, h⟩
    case mp  =>
      rintro ⟨x, y, h⟩
      have hx : '/' ∉ x := fun hm => hs (h ▸ by simp [hm])
      have hy : '/' ∉ y := fun hm => hs (h ▸ by simp [hm])
      exact ⟨x, y, hx, hy, h⟩

theorem ofWord?_word : Operator.ofWord? fit.word = some fit.test := by
  cases fit <;> decide +kernel

theorem ofWord?_like : Operator.ofWord? "LIKE" = some .like := by
  decide +kernel

variable {tags : Tags} {tag : String}

theorem compile_pattern :
    Condition.compile ⟨tag, "LIKE", fit.pattern s⟩ = .ok (.like tag (fit.parsed s)) := by
  simp [Condition.compile, ofWord?_like, Operator.predicate, parse_pattern]

theorem accepts_like_iff (hv : tags.get? tag = some v) :
    (Predicate.like tag (fit.parsed s)).accepts tags = true ↔ fit.Holds s.toList v.toList := by
  simp [Predicate.accepts_like_iff, hv, accepts_parsed_iff]

theorem exists_compile_word (fit : Fit) (tag s : String) :
    ∃ q, Condition.compile ⟨tag, fit.word, s⟩ = .ok q := by
  refine Condition.compile_eq_ok_iff.mpr ⟨_, ofWord?_word, ?_⟩
  cases fit <;> nofun

theorem accepts_word_iff {q : Predicate} (hq : Condition.compile ⟨tag, fit.word, s⟩ = .ok q)
    (hv : tags.get? tag = some v) (hs : '/' ∉ v.toList) :
    q.accepts tags = true ↔ fit.Holds s.toList v.toList := by
  rw [Condition.accepts_compile hq]
  simp [Condition.Holds, ofWord?_word, hv, holds_test_iff hs]

end Fit

-- Any text, in each of the four ways it can be looked for, with a pattern and without one.
theorem compile_like_agrees_with_plain_test (fit : Fit) (tag s : String) : ∃ p q,
    Condition.compile ⟨tag, "LIKE", fit.pattern s⟩ = .ok p ∧
    Condition.compile ⟨tag, fit.word, s⟩ = .ok q ∧
    ∀ tags : Tags,
      (tags.get? tag = none → p.accepts tags = false) ∧
      ∀ v, tags.get? tag = some v →
        (p.accepts tags = true ↔ fit.Holds s.toList v.toList) ∧
        ('/' ∉ v.toList → p.accepts tags = q.accepts tags) := by
  have ⟨q, hq⟩ := Fit.exists_compile_word fit tag s
  refine ⟨_, q, Fit.compile_pattern, hq, fun tags => ⟨?_, ?_⟩⟩
  · intro hn
    rw [Bool.eq_false_iff, ne_eq, Predicate.accepts_like_iff]
    simp [hn]
  · intro v hv
    have hp : _ ↔ fit.Holds s.toList v.toList := Fit.accepts_like_iff hv
    refine ⟨hp, fun hs => ?_⟩
    rw [Bool.eq_iff_iff, hp, Fit.accepts_word_iff hq hv hs]

theorem compile_like_agrees_with_plain_test_star :
    let tags := Tags.ofList [("name", "a*b")]
    ∃ p q, Condition.compile ⟨"name", "LIKE", "*\\**"⟩ = .ok p ∧
      Condition.compile ⟨"name", "CONTAINS", "*"⟩ = .ok q ∧
      p.accepts .empty = false ∧ p.accepts tags = true ∧ q.accepts tags = true := by
  intro tags
  have ⟨p, q, hp, hq, h⟩ := compile_like_agrees_with_plain_test .inside "name" "*"
  have hv : tags.get? "name" = some "a*b" := by decide
  have ⟨ha, hs⟩ := (h tags).right "a*b" hv
  have ha : p.accepts tags = true := ha.mpr ⟨['a'], ['b'], by decide, by decide, by decide⟩
  have he : Fit.pattern "*" .inside = "*\\**" := by decide
  exact ⟨p, q, he ▸ hp, hq, (h .empty).left rfl, ha, hs (by decide) ▸ ha⟩

end JournalSelect
