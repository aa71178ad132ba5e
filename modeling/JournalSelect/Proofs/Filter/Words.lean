import JournalSelect.Proofs.Filter.Rendering
import JournalSelect.Proofs.Filter.Validation
import Mathlib.Data.List.Basic

namespace JournalSelect.Operator

-- The letters that a character counts as. A few that are no ASCII letters count as some, because those are
-- their upper case.
def lettersOf : Char → List Char
  | 'ı' => ['i']
  | 'ſ' => ['s']
  | 'ﬀ' => ['f', 'f']
  | 'ﬁ' => ['f', 'i']
  | 'ﬃ' => ['f', 'f', 'i']
  | c => [c]

def standIns : List Char :=
  ['ı', 'ſ', 'ﬀ', 'ﬁ', 'ﬃ']

abbrev SameLetters (s t : List Char) : Prop :=
  s.map Char.toLower = t.map Char.toLower

abbrev SpelledBy (word s : String) : Prop :=
  SameLetters (s.toList.flatMap lettersOf) word.toList

-- The upper case of these is made of letters too, but no word for an operator has such letters in it.
def unused : List Char :=
  ['ß', 'ﬂ', 'ﬄ', 'ﬅ', 'ﬆ']

variable {c d : Char} {s : String} {op : Operator} {letters word : List Char} {entry : String × Operator}

section words

theorem map_toUpper_words : ∀ entry ∈ words, entry.1.toList.map Char.toUpper = entry.1.toList := by
  decide +kernel

theorem lookup_words : ∀ entry ∈ words, words.lookup entry.1 = some entry.2 := by
  decide +kernel

theorem not_infix_words :
    ∀ entry ∈ words, ∀ pair ∈ [['S', 'S'], ['F', 'L'], ['S', 'T']], ¬pair <:+: entry.1.toList := by
  decide +kernel

theorem isASCII_of_mem_words :
    ∀ entry ∈ words, ∀ c ∈ entry.1.toList.map Char.toLower, c.toNat < 128 := by
  simp [words]

end words

theorem toNat_of_mem_unused : ∀ c ∈ unused, 128 ≤ c.toNat := by
  simp [unused]

theorem toNat_of_mem_standIns : ∀ c ∈ standIns, 128 ≤ c.toNat := by
  simp [standIns]

theorem not_mem_standIns : ∀ c ∈ unused, c ∉ standIns := by
  simp [unused, standIns]

theorem exists_pair_infix_upper :
    ∀ c ∈ unused, ∃ pair ∈ [['S', 'S'], ['F', 'L'], ['S', 'T']], pair <:+: Text.upper c := by
  simp only [unused, List.forall_mem_cons, List.not_mem_nil, false_implies, implies_true, and_true]
  decide +kernel

theorem lettersOf_eq_singleton (h : c ∉ standIns) : lettersOf c = [c] := by
  unfold lettersOf
  split
  case h_6 => rfl
  all_goals simp [standIns] at h

theorem isLower_iff : c.isLower = true ↔ 97 ≤ c.toNat ∧ c.toNat ≤ 122 := by
  delta Char.isLower
  simp [UInt32.le_iff_toNat_le]

theorem toNat_toUpper :
    c.toUpper.toNat = if 97 ≤ c.toNat ∧ c.toNat ≤ 122 then c.toNat - 32 else c.toNat := by
  delta Char.toUpper
  simp only [UInt32.le_iff_toNat_le, Char.toNat]
  grind [UInt32.toNat_add]

theorem toNat_toLower :
    c.toLower.toNat = if 65 ≤ c.toNat ∧ c.toNat ≤ 90 then c.toNat + 32 else c.toNat := by
  delta Char.toLower
  simp only [UInt32.le_iff_toNat_le, ge_iff_le, Char.toNat]
  grind [UInt32.toNat_add]

theorem toUpper_eq_iff (h : d.toUpper = d) : c.toUpper = d ↔ c.toLower = d.toLower := by
  simp only [←Char.toNat_inj, toNat_toUpper, toNat_toLower] at h ⊢
  grind

theorem upper_eq_map_toUpper (h : c ∉ unused) : Text.upper c = (lettersOf c).map Char.toUpper := by
  unfold Text.upper
  split
  case isTrue hl =>
    rw [lettersOf_eq_singleton fun hm => ?_, List.map_singleton]
    have hn := toNat_of_mem_standIns _ hm
    have hz := isLower_iff.mp hl |>.right
    omega
  case isFalse hl =>
    split
    case h_11 =>
      have hc : c.toUpper = c := by
        rw [←Char.toNat_inj, toNat_toUpper, if_neg (mt isLower_iff.mpr hl)]
      rw [lettersOf_eq_singleton (by simp_all [standIns]), List.map_singleton, hc]
    all_goals first | rfl | simp [unused] at h

theorem map_toUpper_eq_iff (h : word.map Char.toUpper = word) :
    letters.map Char.toUpper = word ↔ SameLetters letters word := by
  induction letters generalizing word <;> cases word
  case cons.cons hi _ _ =>
    rw [List.map_cons, List.cons.injEq] at h
    simp only [SameLetters, List.map_cons, List.cons.injEq, toUpper_eq_iff h.left, hi h.right]
  all_goals simp

-- The upper case of an unused character has two letters in it that stand together in none of the words.
theorem uppercased_ne (h : entry ∈ words) (hc : c ∈ unused) (hm : c ∈ s.toList) :
    Text.uppercased s ≠ entry.1 := by
  intro he
  have ⟨pair, hp, hi⟩ := exists_pair_infix_upper c hc
  refine not_infix_words entry h pair hp ?_
  rw [←he, Text.uppercased, String.toList_ofList]
  exact hi.trans (List.infix_flatMap_of_mem hm _)

-- Such a character is kept by everything that is done to the letters, and the words are ASCII.
theorem not_spelledBy (h : entry ∈ words) (hc : c ∉ standIns) (hn : 128 ≤ c.toNat)
    (hm : c ∈ s.toList) : ¬SpelledBy entry.1 s := by
  intro hs
  have hl : c.toLower = c := by
    rw [←Char.toNat_inj, toNat_toLower, if_neg (by omega)]
  have hw : c ∈ entry.1.toList.map Char.toLower := by
    rw [←hs, List.mem_map]
    exact ⟨c, List.mem_flatMap.mpr ⟨c, hm, by simp [lettersOf_eq_singleton hc]⟩, hl⟩
  exact absurd hn (Nat.not_le.mpr <| isASCII_of_mem_words entry h c hw)

theorem uppercased_eq_iff (h : entry ∈ words) : Text.uppercased s = entry.1 ↔ SpelledBy entry.1 s := by
  by_cases hu : ∃ c ∈ s.toList, c ∈ unused
  case pos =>
    have ⟨c, hm, hc⟩ := hu
    simp [uppercased_ne h hc hm, not_spelledBy h (not_mem_standIns c hc) (toNat_of_mem_unused c hc) hm]
  case neg =>
    have hf : s.toList.flatMap Text.upper = (s.toList.flatMap lettersOf).map Char.toUpper := by
      rw [List.map_flatMap]
      exact List.flatMap_congr fun c hc => upper_eq_map_toUpper fun hm => hu ⟨c, hc, hm⟩
    rw [Text.uppercased, SpelledBy, ←map_toUpper_eq_iff (map_toUpper_words entry h), ←hf,
      ←String.toList_inj, String.toList_ofList]

theorem ofWord?_eq_some_iff : ofWord? s = some op ↔ ∃ word, (word, op) ∈ words ∧ SpelledBy word s := by
  constructor
  case mp =>
    intro h
    have hm := mem_words_of_ofWord? h
    exact ⟨_, hm, uppercased_eq_iff hm |>.mp rfl⟩
  case mpr =>
    intro ⟨word, hm, hs⟩
    rw [ofWord?, uppercased_eq_iff hm |>.mpr hs, lookup_words _ hm]

theorem ofWord?_eq_none_iff : ofWord? s = none ↔ ∀ entry ∈ words, ¬SpelledBy entry.1 s := by
  constructor
  case mp =>
    intro h entry hm hs
    have ho := ofWord?_eq_some_iff.mpr ⟨entry.1, hm, hs⟩
    simp [h] at ho
  case mpr =>
    intro h
    refine Option.eq_none_iff_forall_ne_some.mpr fun op ho => ?_
    have ⟨_, hm, hs⟩ := ofWord?_eq_some_iff.mp ho
    exact h _ hm hs

theorem spelledBy_iff_of_ascii {word : String} (h : ∀ c ∈ s.toList, c.toNat < 128) :
    SpelledBy word s ↔ SameLetters s.toList word.toList := by
  have hl : s.toList.flatMap lettersOf = s.toList.flatMap ([·]) :=
    List.flatMap_congr fun c hc =>
      lettersOf_eq_singleton fun hm => absurd (toNat_of_mem_standIns _ hm) (Nat.not_le.mpr <| h c hc)
  rw [SpelledBy, hl, List.flatMap_singleton']

theorem compile_eq_unsupported_iff {tag value : String} :
    Condition.compile ⟨tag, s, value⟩ = .error (.unsupportedOperator s tag) ↔ ofWord? s = none := by
  rw [Condition.compile_eq_error_iff]
  constructor
  case mp  => intro h; cases h with | operator h => exact h
  case mpr => exact Condition.Fault.operator (c := ⟨tag, s, value⟩)

theorem compile_isOk_iff {tag value : String} (hp : ∃ pattern, Glob.Pattern.parse value = .ok pattern) :
    (∃ p, Condition.compile ⟨tag, s, value⟩ = .ok p) ↔ ∃ op, ofWord? s = some op := by
  rw [Condition.compile_eq_ok_iff]
  exact ⟨fun ⟨op, ho, _⟩ => ⟨op, ho⟩, fun ⟨op, ho⟩ => ⟨op, ho, fun _ => hp⟩⟩

-- Which operator a text stands for, for every text and for the plain ones, and what becomes of a
-- condition with that text for its operator.
structure ReadBySpelling (s : String) : Prop where
  spelled  : ∀ op, ofWord? s = some op ↔ ∃ word, (word, op) ∈ words ∧ SpelledBy word s
  ascii    : (∀ c ∈ s.toList, c.toNat < 128) →
    ∀ op, ofWord? s = some op ↔ ∃ word, (word, op) ∈ words ∧ SameLetters s.toList word.toList
  other    : ∀ c ∈ s.toList, 128 ≤ c.toNat → c ∉ standIns → ofWord? s = none
  accepted : ∀ tag value, (∃ pattern, Glob.Pattern.parse value = .ok pattern) →
    ((∃ p, Condition.compile ⟨tag, s, value⟩ = .ok p) ↔ ∃ entry ∈ words, SpelledBy entry.1 s)
  meant    : ∀ word op, (word, op) ∈ words → SpelledBy word s →
    ∀ tag value, Condition.compile ⟨tag, s, value⟩ = op.predicate tag value
  refused  : ∀ tag value, Condition.compile ⟨tag, s, value⟩ = .error (.unsupportedOperator s tag) ↔
    ∀ entry ∈ words, ¬SpelledBy entry.1 s

theorem ofWord?_readBySpelling (s : String) : ReadBySpelling s where
  spelled _ := ofWord?_eq_some_iff
  ascii h op := by simp [ofWord?_eq_some_iff, spelledBy_iff_of_ascii h]
  other c hm hn hc := ofWord?_eq_none_iff.mpr fun _ h => not_spelledBy h hc hn hm
  accepted tag value hp := by
    simp only [compile_isOk_iff hp, ofWord?_eq_some_iff]
    grind
  meant word op h hs tag value := by
    rw [Condition.compile, ofWord?_eq_some_iff.mpr ⟨word, h, hs⟩]
  refused _ _ := compile_eq_unsupported_iff.trans ofWord?_eq_none_iff

theorem ofWord?_readBySpelling_ligature :
    ofWord? "Contains" = some .contains ∧ ofWord? "has_suﬃx" = some .endsWith ∧ ofWord? "lïke" = none :=
  ⟨(ofWord?_readBySpelling "Contains").ascii (by simp) .contains |>.mpr
      ⟨"CONTAINS", by simp [words], by decide +kernel⟩,
    (ofWord?_readBySpelling "has_suﬃx").spelled .endsWith |>.mpr
      ⟨"HAS_SUFFIX", by simp [words], by decide +kernel⟩,
    (ofWord?_readBySpelling "lïke").other 'ï' (by simp) (by decide) (by decide)⟩

-- It does not take an ASCII text to be read as an operator.
theorem ofWord?_dotless_like :
    ofWord? "lıke" = some .like ∧ (∃ c ∈ "lıke".toList, 128 ≤ c.toNat) ∧
    ∀ entry ∈ words, ¬SameLetters "lıke".toList entry.1.toList :=
  ⟨by decide +kernel, ⟨'ı', by simp, by decide⟩, by decide +kernel⟩

end JournalSelect.Operator
