import JournalSelect.Files

namespace JournalSelect.Text.Utf8

variable {octets : List UInt8} {least greatest owed value n v : Nat}

theorem decodeFrom_octet {pending next : Option Pending} (cs : List Char) (hn : n < 256)
    (hs : step pending n = (cs, next)) :
    decodeFrom pending (UInt8.ofNat n :: octets) = cs ++ decodeFrom next octets := by
  rw [decodeFrom, UInt8.toNat_ofNat_of_lt' hn, hs]

theorem decodeFrom_last (hn : n < 64) (hl : least ≤ n + 0x80) (hg : n + 0x80 ≤ greatest) :
    decodeFrom (some ⟨1, least, greatest, value⟩) (UInt8.ofNat (n + 0x80) :: octets) =
    Char.ofNat (value * 64 + n) :: decodeFrom none octets := by
  have hm : (n + 0x80) % 64 = n := by omega
  exact decodeFrom_octet [_] (by omega) (by simp [step, hl, hg, hm])

theorem decodeFrom_more (hn : n < 64) (hl : least ≤ n + 0x80) (hg : n + 0x80 ≤ greatest) :
    decodeFrom (some ⟨owed + 2, least, greatest, value⟩) (UInt8.ofNat (n + 0x80) :: octets) =
    decodeFrom (some ⟨owed + 1, 0x80, 0xbf, value * 64 + n⟩) octets := by
  have hm : (n + 0x80) % 64 = n := by omega
  exact decodeFrom_octet [] (by omega) (by simp [step, hl, hg, hm])

theorem decodeFrom_one (h : v ≤ 0x7f) :
    decodeFrom none (UInt8.ofNat v :: octets) = Char.ofNat v :: decodeFrom none octets := by
  refine decodeFrom_octet [_] (by omega) ?_
  rw [step, first, if_pos (by omega)]

theorem decodeFrom_two (h : 0x80 ≤ v ∧ v ≤ 0x7ff) :
    decodeFrom none (UInt8.ofNat (v / 64 % 0x20 + 0xc0) :: octets) =
    decodeFrom (some ⟨1, 0x80, 0xbf, v / 64⟩) octets := by
  have hm : (v / 64 % 0x20 + 0xc0) % 32 = v / 64 := by omega
  refine decodeFrom_octet [] (by omega) ?_
  rw [step, first, if_neg (by omega), if_pos (by simp; omega), hm]

-- The bounds of the second octet keep out what has a shorter form, the surrogates, and what is beyond
-- the last character.
theorem decodeFrom_three (h : 0x800 ≤ v ∧ v ≤ 0xffff) (hv : v < 0xd800 ∨ 0xdfff < v) :
    ∃ least greatest, least ≤ v / 64 % 0x40 + 0x80 ∧ v / 64 % 0x40 + 0x80 ≤ greatest ∧
      ∀ octets, decodeFrom none (UInt8.ofNat (v / 4096 % 0x10 + 0xe0) :: octets) =
        decodeFrom (some ⟨2, least, greatest, v / 4096⟩) octets := by
  have hm : (v / 4096 % 0x10 + 0xe0) % 16 = v / 4096 := by omega
  refine ⟨if v / 4096 % 0x10 + 0xe0 = 0xe0 then 0xa0 else 0x80,
    if v / 4096 % 0x10 + 0xe0 = 0xed then 0x9f else 0xbf, ?_, ?_, ?_⟩
  · split <;> omega
  · split <;> omega
  · intro octets
    refine decodeFrom_octet [] (by omega) ?_
    rw [step, first, if_neg (by omega), if_neg (by simp), if_pos (by simp; omega), hm]

theorem decodeFrom_four (h : 0x10000 ≤ v ∧ v < 0x110000) :
    ∃ least greatest, least ≤ v / 4096 % 0x40 + 0x80 ∧ v / 4096 % 0x40 + 0x80 ≤ greatest ∧
      ∀ octets, decodeFrom none (UInt8.ofNat (v / 262144 % 0x08 + 0xf0) :: octets) =
        decodeFrom (some ⟨3, least, greatest, v / 262144⟩) octets := by
  have hm : (v / 262144 % 0x08 + 0xf0) % 8 = v / 262144 := by omega
  refine ⟨if v / 262144 % 0x08 + 0xf0 = 0xf0 then 0x90 else 0x80,
    if v / 262144 % 0x08 + 0xf0 = 0xf4 then 0x8f else 0xbf, ?_, ?_, ?_⟩
  · split <;> omega
  · split <;> omega
  · intro octets
    refine decodeFrom_octet [] (by omega) ?_
    rw [step, first, if_neg (by omega), if_neg (by simp), if_neg (by simp), if_pos (by simp; omega), hm]

theorem decodeFrom_encodeChar (c : Char) :
    decodeFrom none (String.utf8EncodeChar c ++ octets) = c :: decodeFrom none octets := by
  have hv : c.val.toNat < 0xd800 ∨ 0xdfff < c.val.toNat ∧ c.val.toNat < 0x110000 := c.valid
  have hc : Char.ofNat c.val.toNat = c := c.ofNat_toNat
  rw [String.utf8EncodeChar]
  generalize c.val.toNat = v at hv hc
  split
  case isTrue h => rw [List.singleton_append, decodeFrom_one h, hc]
  case isFalse h₁ =>
    split
    case isTrue h =>
      have hs : v / 64 * 64 + v % 64 = v := by omega
      rw [List.cons_append, List.singleton_append, decodeFrom_two (by omega)]
      rw [decodeFrom_last (by omega) (by omega) (by omega), hs, hc]
    case isFalse h₂ =>
      split
      case isTrue h =>
        have hs : (v / 4096 * 64 + v / 64 % 64) * 64 + v % 64 = v := by omega
        have ⟨_, _, hl, hg, hd⟩ := decodeFrom_three (v := v) (by omega) (by omega)
        rw [List.cons_append, List.cons_append, List.singleton_append, hd]
        rw [decodeFrom_more (by omega) hl hg, decodeFrom_last (by omega) (by omega) (by omega), hs, hc]
      case isFalse h₃ =>
        have hs : ((v / 262144 * 64 + v / 4096 % 64) * 64 + v / 64 % 64) * 64 + v % 64 = v := by omega
        have ⟨_, _, hl, hg, hd⟩ := decodeFrom_four (v := v) (by omega)
        rw [List.cons_append, List.cons_append, List.cons_append, List.singleton_append, hd]
        rw [decodeFrom_more (by omega) hl hg, decodeFrom_more (by omega) (by omega) (by omega)]
        rw [decodeFrom_last (by omega) (by omega) (by omega), hs, hc]

theorem decodeFrom_flatMap_encodeChar (cs : List Char) :
    decodeFrom none (cs.flatMap String.utf8EncodeChar) = cs := by
  induction cs
  case nil         => rfl
  case cons c _ hi => rw [List.flatMap_cons, decodeFrom_encodeChar, hi]

theorem toList_loop {bytes : ByteArray} {i : Nat} {before : List UInt8} :
    ByteArray.toList.loop bytes i before = before.reverse ++ bytes.data.toList.drop i := by
  fun_induction ByteArray.toList.loop bytes i before
  case case1 i before h hi =>
    have hd : i < bytes.data.toList.length := h
    have hg : bytes.get! i = bytes.data.toList[i] := getElem!_pos bytes.data i h
    rw [hi, List.drop_eq_getElem_cons hd, hg]
    rw [List.reverse_cons, List.append_assoc, List.singleton_append]
  case case2 i before h =>
    have hd : bytes.data.toList.length ≤ i := Nat.le_of_not_lt h
    rw [List.drop_eq_nil_of_le hd, List.append_nil]

theorem toList_toUTF8 (s : String) : s.toUTF8.toList = s.toList.flatMap String.utf8EncodeChar := by
  rw [ByteArray.toList, toList_loop, List.reverse_nil, List.nil_append, List.drop_zero]
  rw [String.toUTF8_eq_toByteArray]
  conv =>
    lhs
    rw [← String.ofList_toList (s := s)]
  rw [String.toByteArray_ofList, List.utf8Encode, List.toList_data_toByteArray]

theorem decode_toUTF8 (s : String) : decode s.toUTF8.toList = s.toList := by
  rw [decode, toList_toUTF8, decodeFrom_flatMap_encodeChar]

end JournalSelect.Text.Utf8

theorem JournalSelect.Files.lenientText_toUTF8 (s : String) : lenientText s.toUTF8 = s := by
  rw [lenientText, Text.Utf8.decode_toUTF8, String.ofList_toList]
