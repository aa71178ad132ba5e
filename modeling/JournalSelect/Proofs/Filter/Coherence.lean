import JournalSelect.Proofs.Filter.Compile
import JournalSelect.Proofs.Filter.Validation

namespace JournalSelect

theorem le_of_beginning {part text : String} (h : part.toList <+: text.toList) : part ≤ text :=
  not_lt.mp <| List.not_lt.mpr h.le

-- By induction on the beginning: the first character lies between itself and itself.
theorem beginning_of_between {part low text high : List Char} (hl : part <+: low) (hh : part <+: high)
    (h₁ : ¬text < low) (h₂ : ¬high < text) : part <+: text := by
  induction part generalizing low text high
  case nil => exact List.nil_prefix
  case cons c part hi =>
    obtain ⟨low, rfl⟩ := hl
    obtain ⟨high, rfl⟩ := hh
    cases text
    case nil => exact absurd (List.nil_lt_cons c _) h₁
    case cons d text =>
      simp only [List.cons_append, List.cons_lt_cons_iff, not_or, not_and] at h₁ h₂
      obtain rfl : c = d := le_antisymm (not_lt.mp h₁.left) (not_lt.mp h₂.left)
      have hp := hi ⟨low, rfl⟩ ⟨high, rfl⟩ (h₁.right rfl) (h₂.right rfl)
      exact List.cons_prefix_cons.mpr ⟨rfl, hp⟩

namespace Tags

-- A condition, as it is written, accepts the tags.
def Passes (tags : Tags) (tag word value : String) : Prop :=
  ∃ p, Condition.compile ⟨tag, word, value⟩ = .ok p ∧ p.accepts tags = true

-- The value of a tag as a comparison sees it.
def compared (tags : Tags) (tag : String) : String :=
  (tags.get? tag).getD ""

-- The comparisons are those of one total order of all texts, in which a missing tag is the least. The texts
-- with one beginning lie next to each other in the order.
structure Coherent (tags : Tags) (tag : String) : Prop where
  lt_iff         : ∀ v, tags.Passes tag "<" v ↔ tags.compared tag < v
  eq_iff         : ∀ v, tags.Passes tag "=" v ↔ tags.compared tag = v
  one_comparison : ∀ v, ∃! word ∈ ["<", "=", ">"], tags.Passes tag word v
  le_iff         : ∀ v, tags.Passes tag "<=" v ↔ ¬tags.Passes tag ">" v
  ge_iff         : ∀ v, tags.Passes tag ">=" v ↔ ¬tags.Passes tag "<" v
  ne_iff         : ∀ v, tags.Passes tag "!=" v ↔ ¬tags.Passes tag "=" v
  lt_of_lt_of_le : ∀ v w, tags.Passes tag "<" v → v ≤ w → tags.Passes tag "<" w
  gt_of_gt_of_ge : ∀ v w, tags.Passes tag ">" v → w ≤ v → tags.Passes tag ">" w
  of_beginning   : ∀ v, tags.Passes tag "HAS_PREFIX" v →
    tags.Passes tag ">=" v ∧ tags.Passes tag "CONTAINS" v
  of_ending      : ∀ v, tags.Passes tag "HAS_SUFFIX" v → tags.Passes tag "CONTAINS" v
  of_eq          : ∀ v, (∃ text, tags.get? tag = some text) → tags.Passes tag "=" v →
    tags.Passes tag "HAS_PREFIX" v ∧ tags.Passes tag "HAS_SUFFIX" v ∧ tags.Passes tag "CONTAINS" v
  contains_part  : ∀ v w, tags.Passes tag "CONTAINS" v → w.toList <:+: v.toList →
    tags.Passes tag "CONTAINS" w
  between        : ∀ (low high : Tags) (v text : String),
    low.Passes tag "HAS_PREFIX" v → high.Passes tag "HAS_PREFIX" v → tags.get? tag = some text →
    (∃ least, low.get? tag = some least ∧ least ≤ text) →
    (∃ greatest, high.get? tag = some greatest ∧ text ≤ greatest) → tags.Passes tag "HAS_PREFIX" v

variable {tags : Tags} {tag word v text : String}

theorem compared_eq (h : tags.get? tag = some text) : tags.compared tag = text := by
  rw [compared, h, Option.getD_some]

theorem passes_iff_holds : tags.Passes tag word v ↔ Condition.Holds ⟨tag, word, v⟩ tags := by
  constructor
  case mp =>
    intro ⟨p, hc, ha⟩
    exact Condition.accepts_compile hc |>.mp ha
  case mpr =>
    intro ⟨op, ho, hh⟩
    have hv : Condition.Valid ⟨tag, word, v⟩ := by
      refine ⟨op, ho, ?_⟩
      rintro rfl
      have ⟨_, pattern, _, hp, _⟩ := hh
      exact ⟨pattern, hp⟩
    have ⟨p, hc⟩ := Condition.compile_eq_ok_iff.mpr hv
    exact ⟨p, hc, Condition.accepts_compile hc |>.mpr ⟨op, ho, hh⟩⟩

section words

theorem passes_iff (op : Operator) (h : (word, op) ∈ Operator.words) :
    tags.Passes tag word v ↔ op.Holds (tags.get? tag) v := by
  simp [passes_iff_holds, Condition.Holds, Operator.ofWord?_of_mem_words _ h]

theorem passes_lt : tags.Passes tag "<" v ↔ tags.compared tag < v :=
  passes_iff (.compare .lt) (by decide)

theorem passes_gt : tags.Passes tag ">" v ↔ v < tags.compared tag :=
  passes_iff (.compare .gt) (by decide)

theorem passes_eq : tags.Passes tag "=" v ↔ tags.compared tag = v :=
  passes_iff (.compare .eq) (by decide)

theorem passes_ne : tags.Passes tag "!=" v ↔ tags.compared tag ≠ v :=
  passes_iff (.compare .ne) (by decide)

theorem passes_le : tags.Passes tag "<=" v ↔ tags.compared tag ≤ v := by
  rw [le_iff_lt_or_eq]
  exact passes_iff (.compare .le) (by decide)

theorem passes_ge : tags.Passes tag ">=" v ↔ v ≤ tags.compared tag := by
  rw [le_iff_lt_or_eq]
  exact passes_iff (.compare .ge) (by decide)

theorem passes_startsWith : tags.Passes tag "HAS_PREFIX" v ↔
    ∃ text, tags.get? tag = some text ∧ v.toList <+: text.toList :=
  passes_iff .startsWith (by decide)

theorem passes_endsWith : tags.Passes tag "HAS_SUFFIX" v ↔
    ∃ text, tags.get? tag = some text ∧ v.toList <:+ text.toList :=
  passes_iff .endsWith (by decide)

theorem passes_contains : tags.Passes tag "CONTAINS" v ↔
    ∃ text, tags.get? tag = some text ∧ v.toList <:+: text.toList :=
  passes_iff .contains (by decide)

end words

theorem mem_and_passes_iff :
    word ∈ ["<", "=", ">"] ∧ tags.Passes tag word v ↔
    word = "<" ∧ tags.compared tag < v ∨ word = "=" ∧ tags.compared tag = v ∨
      word = ">" ∧ v < tags.compared tag := by
  simp only [List.mem_cons, List.not_mem_nil, or_false, or_and_right]
  rw [←passes_lt, ←passes_eq, ←passes_gt]
  constructor <;> rintro (⟨rfl, h⟩ | ⟨rfl, h⟩ | ⟨rfl, h⟩) <;> simp [h]

theorem existsUnique_comparison : ∃! word ∈ ["<", "=", ">"], tags.Passes tag word v := by
  simp only [mem_and_passes_iff]
  rcases lt_trichotomy (tags.compared tag) v with h | h | h
  case inl =>
    refine ⟨"<", .inl ⟨rfl, h⟩, ?_⟩
    rintro _ (⟨rfl, _⟩ | ⟨_, he⟩ | ⟨_, hg⟩)
    · rfl
    · exact absurd he h.ne
    · exact absurd hg h.not_gt
  case inr.inl =>
    refine ⟨"=", .inr (.inl ⟨rfl, h⟩), ?_⟩
    rintro _ (⟨_, hl⟩ | ⟨rfl, _⟩ | ⟨_, hg⟩)
    · exact absurd h hl.ne
    · rfl
    · exact absurd h hg.ne'
  case inr.inr =>
    refine ⟨">", .inr (.inr ⟨rfl, h⟩), ?_⟩
    rintro _ (⟨_, hl⟩ | ⟨_, he⟩ | ⟨rfl, _⟩)
    · exact absurd hl h.not_gt
    · exact absurd he h.ne'
    · rfl

theorem operators_coherent (tags : Tags) (tag : String) : tags.Coherent tag where
  lt_iff _         := passes_lt
  eq_iff _         := passes_eq
  one_comparison _ := existsUnique_comparison
  le_iff _         := by rw [passes_le, passes_gt, not_lt]
  ge_iff _         := by rw [passes_ge, passes_lt, not_lt]
  ne_iff _         := by rw [passes_ne, passes_eq]
  lt_of_lt_of_le v w hp hw := by
    rw [passes_lt] at hp ⊢
    exact hp.trans_le hw
  gt_of_gt_of_ge v w hp hw := by
    rw [passes_gt] at hp ⊢
    exact hw.trans_lt hp
  of_beginning v hp := by
    have ⟨text, ht, hv⟩ := passes_startsWith.mp hp
    refine ⟨passes_ge.mpr ?_, passes_contains.mpr ⟨text, ht, hv.isInfix⟩⟩
    exact compared_eq ht ▸ le_of_beginning hv
  of_ending v hp := by
    have ⟨text, ht, hv⟩ := passes_endsWith.mp hp
    exact passes_contains.mpr ⟨text, ht, hv.isInfix⟩
  of_eq := by
    intro v ⟨text, ht⟩ hp
    obtain rfl : text = v := by rw [←passes_eq.mp hp, compared_eq ht]
    rw [passes_startsWith, passes_endsWith, passes_contains]
    exact ⟨⟨text, ht, List.prefix_rfl⟩, ⟨text, ht, List.suffix_rfl⟩, ⟨text, ht, List.infix_rfl⟩⟩
  contains_part v w hp hw := by
    have ⟨text, ht, hv⟩ := passes_contains.mp hp
    exact passes_contains.mpr ⟨text, ht, hw.trans hv⟩
  between := by
    intro low high v text hl hh ht ⟨least, hle, h₁⟩ ⟨greatest, hge, h₂⟩
    have ⟨_, hle', hvl⟩ := passes_startsWith.mp hl
    have ⟨_, hge', hvh⟩ := passes_startsWith.mp hh
    obtain rfl := Option.some.inj (hle.symm.trans hle')
    obtain rfl := Option.some.inj (hge.symm.trans hge')
    exact passes_startsWith.mpr ⟨text, ht, beginning_of_between hvl hvh h₁.not_gt h₂.not_gt⟩

theorem operators_coherent_web :
    let tags := Tags.ofList [("host", "web-27")]
    tags.Passes "host" "HAS_PREFIX" "web-" ∧ tags.Passes "host" ">=" "web-" ∧
    tags.Passes "host" "CONTAINS" "eb" := by
  intro tags
  have hl : (Tags.ofList [("host", "web-1")]).Passes "host" "HAS_PREFIX" "web-" :=
    passes_startsWith.mpr ⟨"web-1", by decide, by decide⟩
  have hh : (Tags.ofList [("host", "web-3")]).Passes "host" "HAS_PREFIX" "web-" :=
    passes_startsWith.mpr ⟨"web-3", by decide, by decide⟩
  have hb := (operators_coherent tags "host").between _ _ "web-" "web-27" hl hh (by decide)
    ⟨"web-1", by decide, by decide⟩ ⟨"web-3", by decide, by decide⟩
  have ⟨hg, hc⟩ := (operators_coherent tags "host").of_beginning "web-" hb
  exact ⟨hb, hg, (operators_coherent tags "host").contains_part "web-" "eb" hc (by decide)⟩

end Tags

end JournalSelect
