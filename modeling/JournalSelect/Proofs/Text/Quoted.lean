import JournalSelect.Text.Quoted
import Mathlib.Data.Nat.Digits.Defs

namespace JournalSelect.Text

variable {x y : List Char}

-- What is written before a mark can be told from the mark and from what stands behind it.
theorem append_mark_inj {mark : Char} {a b : List Char} (ha : mark ∉ a) (hb : mark ∉ b)
    (h : a ++ mark :: x = b ++ mark :: y) : a = b ∧ x = y := by
  induction a generalizing b <;> cases b <;>
    simp only [List.nil_append, List.cons_append, List.cons.injEq] at h
  case nil.nil   => exact ⟨rfl, h.right⟩
  case nil.cons  => exact absurd (h.left ▸ List.mem_cons_self) hb
  case cons.nil  => exact absurd (h.left ▸ List.mem_cons_self) ha
  case cons.cons hi _ _ =>
    have ⟨hab, hxy⟩ := hi (ha <| List.mem_cons_of_mem _ ·) (hb <| List.mem_cons_of_mem _ ·) h.right
    exact ⟨by rw [h.left, hab], hxy⟩

theorem digitChar_inj : ∀ m < 16, ∀ n < 16, Nat.digitChar m = Nat.digitChar n → m = n := by
  decide

theorem digitChar_ne_brace : ∀ n < 16, Nat.digitChar n ≠ '\x7d' := by
  decide

theorem toDigits_of_ge {n : Nat} (h : 16 ≤ n) :
    Nat.toDigits 16 n = Nat.toDigits 16 (n / 16) ++ [Nat.digitChar (n % 16)] :=
  Nat.toDigits_of_base_le (by decide) h

theorem toDigits_inj {m n : Nat} (h : Nat.toDigits 16 m = Nat.toDigits 16 n) : m = n := by
  induction m using Nat.strong_induction_on generalizing n
  case h m hi =>
    cases Nat.lt_or_ge m 16 <;> cases Nat.lt_or_ge n 16
    case inl.inl hm hn =>
      rw [Nat.toDigits_of_lt_base hm, Nat.toDigits_of_lt_base hn] at h
      exact digitChar_inj m hm n hn (List.cons.inj h).left
    case inl.inr hm hn =>
      rw [Nat.toDigits_of_lt_base hm, toDigits_of_ge hn, List.singleton_eq_append_iff] at h
      simp [Nat.toDigits_ne_nil] at h
    case inr.inl hm hn =>
      rw [Nat.toDigits_of_lt_base hn, toDigits_of_ge hm, List.append_eq_singleton_iff] at h
      simp [Nat.toDigits_ne_nil] at h
    case inr.inr hm hn =>
      rw [toDigits_of_ge hm, toDigits_of_ge hn] at h
      have ⟨hq, hr⟩ := List.append_inj' h rfl
      have hq := hi (m / 16) (by omega) hq
      have hr := digitChar_inj _ (by omega) _ (by omega) (List.cons.inj hr).left
      omega

theorem brace_not_mem_toDigits (n : Nat) : '\x7d' ∉ Nat.toDigits 16 n := by
  induction n using Nat.strong_induction_on
  case h n hi =>
    cases Nat.lt_or_ge n 16
    case inl hn => simp [Nat.toDigits_of_lt_base hn, (digitChar_ne_brace n hn).symm]
    case inr hn =>
      have hd := digitChar_ne_brace (n % 16) (by omega)
      simp [toDigits_of_ge hn, hi (n / 16) (by omega), hd.symm]

theorem escapeCode_append_inj {c d : Char} (h : escapeCode c ++ x = escapeCode d ++ y) :
    c = d ∧ x = y := by
  simp only [escapeCode, List.append_assoc, List.append_cancel_left_eq] at h
  have ⟨hd, hx⟩ := append_mark_inj (brace_not_mem_toDigits _) (brace_not_mem_toDigits _) h
  exact ⟨Char.toNat_inj.mp <| toDigits_inj hd, hx⟩

-- The ways in which a character between quotes can be written.
inductive Escaped (c : Char) : List Char → Prop
  | letter {l} : escapeLetter? c = some l → l ≠ '"' → l ≠ 'u' → Escaped c ['\\', l]
  | quote      : c = '"' → Escaped c ['\\', c]
  | graphic    : c ≠ '\\' → c ≠ '"' → Escaped c [c]
  | code       : Escaped c (escapeCode c)

theorem escaped_escape (c : Char) : Escaped c (escape '"' c) := by
  unfold escape
  split
  case h_1 h =>
    have hl := h
    unfold escapeLetter? at hl
    split at hl <;> exact .letter h (by grind) (by grind)
  case h_2 h =>
    split
    case isTrue hq  => exact .quote hq
    case isFalse hq =>
      split
      case isTrue  => exact .graphic (by rintro rfl; contradiction) hq
      case isFalse => exact .code

theorem escapeLetter?_inj {c d l : Char} (hc : escapeLetter? c = some l)
    (hd : escapeLetter? d = some l) : c = d := by
  unfold escapeLetter? at hc hd
  split at hc <;> split at hd <;> grind

theorem Escaped.append_inj {c d : Char} {a b : List Char} (ha : Escaped c a) (hb : Escaped d b)
    (h : a ++ x = b ++ y) : c = d ∧ x = y := by
  cases ha <;> cases hb
  case code.code => exact escapeCode_append_inj h
  all_goals simp only [escapeCode, List.cons_append, List.nil_append, List.cons.injEq] at h
  case letter.letter hc _ _ _ hd _ _ =>
    exact ⟨escapeLetter?_inj hc (h.right.left ▸ hd), h.right.right⟩
  all_goals grind

theorem Escaped.append_ne_quote {c : Char} {a : List Char} (h : Escaped c a) :
    a ++ x ≠ '"' :: y := by
  cases h <;> simp_all [escapeCode]

theorem flatMap_escape_inj {a b : List Char}
    (h : a.flatMap (escape '"') ++ '"' :: x = b.flatMap (escape '"') ++ '"' :: y) :
    a = b ∧ x = y := by
  induction a generalizing b <;> cases b <;>
    simp only [List.flatMap_cons, List.flatMap_nil, List.append_assoc, List.nil_append] at h
  case nil.nil          => simpa using h
  case nil.cons         => exact absurd h.symm (escaped_escape _).append_ne_quote
  case cons.nil         => exact absurd h (escaped_escape _).append_ne_quote
  case cons.cons hi _ _ =>
    have ⟨hc, ht⟩ := (escaped_escape _).append_inj (escaped_escape _) h
    have ⟨hab, hxy⟩ := hi ht
    exact ⟨by rw [hc, hab], hxy⟩

theorem exists_toList_quoted (s : String) : ∃ cs, (quoted s).toList = '"' :: cs := by
  simp [quoted, quotedBy]

-- A quoted text ends where its closing quote stands, and says which text was quoted.
theorem quoted_append_inj {s t : String} (h : (quoted s).toList ++ x = (quoted t).toList ++ y) :
    s = t ∧ x = y := by
  simp only [quoted, quotedBy, String.toList_ofList, List.append_assoc, List.cons_append,
    List.nil_append, List.cons.injEq, true_and] at h
  have ⟨hs, hx⟩ := flatMap_escape_inj h
  exact ⟨String.toList_inj.mp hs, hx⟩

end JournalSelect.Text
