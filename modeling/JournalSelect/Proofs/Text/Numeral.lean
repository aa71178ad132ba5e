import JournalSelect.Text.Numeral

namespace JournalSelect.Text

variable {n : Nat} {i : Int} {c : Char} {cs : List Char}

theorem toNat_of_isDigit (h : c.isDigit = true) : 48 ≤ c.toNat ∧ c.toNat ≤ 57 := by
  simpa [Char.isDigit, UInt32.le_iff_toNat_le] using h

theorem digit?_of_isDigit (h : c.isDigit = true) : digit? 10 c = some (c.toNat - '0'.toNat) := by
  have hc := toNat_of_isDigit h
  simp [digit?, h]
  omega

theorem naturalFrom?_of_isDigit (h : ∀ c ∈ cs, c.isDigit = true) :
    naturalFrom? 10 n cs = some (Nat.ofDigitChars 10 cs n) := by
  induction cs generalizing n
  case nil => rfl
  case cons c cs hi =>
    have hc := digit?_of_isDigit (h c List.mem_cons_self)
    rw [naturalFrom?, hc, Option.bind_some, hi fun c hm => h c (List.mem_cons_of_mem _ hm)]
    rw [Nat.ofDigitChars_cons, Nat.mul_comm]

theorem decimalDigits_ne_nil : decimalDigits n ≠ [] :=
  Nat.toDigits_ne_nil

theorem isDigit_of_mem_decimalDigits (h : c ∈ decimalDigits n) : c.isDigit = true :=
  Nat.isDigit_of_mem_toDigits (by decide) (by decide) h

theorem natural?_decimalDigits (n : Nat) : natural? 10 (decimalDigits n) = some n := by
  rw [natural?.eq_2 _ _ decimalDigits_ne_nil]
  rw [naturalFrom?_of_isDigit fun _ => isDigit_of_mem_decimalDigits]
  exact congrArg _ (Nat.ofDigitChars_toDigits (by decide) (by decide))

-- A number without a sign starts with neither.
theorem signed?_decimalDigits (n : Nat) : signed? 10 (decimalDigits n) = some (n : Int) := by
  have ⟨d, ds, hd⟩ := List.exists_cons_of_ne_nil (decimalDigits_ne_nil (n := n))
  have hi := isDigit_of_mem_decimalDigits (hd ▸ List.mem_cons_self)
  have hm : d ≠ '-' := fun h => absurd (h ▸ hi) (by decide)
  have hp : d ≠ '+' := fun h => absurd (h ▸ hi) (by decide)
  have hn := natural?_decimalDigits n
  rw [hd] at hn ⊢
  simp [signed?, unsigned?, hm, hp, hn]

theorem digitChar_ne_zero : ∀ n < 10, n ≠ 0 → Nat.digitChar n ≠ '0' := by
  decide

theorem head?_decimalDigits_ne_zero (h : n ≠ 0) : (decimalDigits n).head? ≠ some '0' := by
  induction n using Nat.strongRecOn
  case ind n hi =>
    cases Nat.lt_or_ge n 10
    case inl hn => simp [decimalDigits, Nat.toDigits_of_lt_base hn, digitChar_ne_zero n hn h]
    case inr hn =>
      have hq := hi (n / 10) (by omega) (by omega)
      have ⟨d, ds, hd⟩ := List.exists_cons_of_ne_nil (decimalDigits_ne_nil (n := n / 10))
      rw [decimalDigits] at hd
      rw [decimalDigits, hd] at hq
      rwa [decimalDigits, Nat.toDigits_of_base_le (by decide) hn, hd, List.cons_append]

theorem mem_decimalInt (h : c ∈ decimalInt i) : c.isDigit = true ∨ c = '-' := by
  cases i
  case ofNat   => exact .inl (isDigit_of_mem_decimalDigits h)
  case negSucc =>
    cases List.mem_cons.mp h
    case inl h => exact .inr h
    case inr h => exact .inl (isDigit_of_mem_decimalDigits h)

theorem decimalInt_ne_nil : decimalInt i ≠ [] := by
  cases i
  case ofNat   => exact decimalDigits_ne_nil
  case negSucc => exact List.cons_ne_nil _ _

theorem decimalInt_ne_cons (hd : c.isDigit = false) (hm : c ≠ '-') : decimalInt i ≠ c :: cs := by
  intro he
  have hc : c ∈ decimalInt i := he ▸ List.mem_cons_self
  cases mem_decimalInt hc
  case inl h => exact Bool.false_ne_true (hd.symm.trans h)
  case inr h => exact hm h

end JournalSelect.Text
