import JournalSelect.Json.Printer
import JournalSelect.Json.Token
import JournalSelect.Proofs.Text.Numeral
import Mathlib.Data.List.Forall2
import Mathlib.Data.List.TakeWhile

namespace JournalSelect

-- What a JSON text can say exactly, and in so many levels: integers are of 64 bits, and the keys of mappings
-- are names.
inductive Value.Sayable : Nat → Value → Prop
  | null {levels} : Sayable levels .null
  | bool {levels b} : Sayable levels (.bool b)
  | int {levels n} : Int64.minValue.toInt ≤ n → n < UInt64.size → Sayable levels (.int n)
  | text {levels s} : Sayable levels (.text s)
  | list {levels items} : (∀ v ∈ items, Sayable levels v) → Sayable (levels + 1) (.list items)
  | map {levels entries} :
    (∀ entry ∈ entries, ∃ name, entry.1 = .text name) → (∀ entry ∈ entries, Sayable levels entry.2) →
    Sayable (levels + 1) (.map entries)

namespace Json

open Text

variable {c : Char} {a b w bs piece rest : List Char} {n : Int} {token : Token} {ts us : List Token}

theorem natural?_code : ∀ n < 32,
    natural? 16 ['0', '0', Nat.digitChar (n / 16), Nat.digitChar (n % 16)] = some n := by
  decide

theorem text?_escape (c : Char) (rest : List Char) :
    text? (escape c ++ rest) = (text? rest).map fun (s, rest) => (c :: s, rest) := by
  unfold escape
  split
  case h_8 hq hb _ _ _ _ _ =>
    split
    case isTrue hc =>
      have hs : isHighSurrogate c.toNat = false ∧ isLowSurrogate c.toNat = false := by
        simp [isHighSurrogate, isLowSurrogate]
        omega
      simp [text?, natural?_code c.toNat hc, hs, Char.ofNat_toNat]
    case isFalse hc =>
      have hb : c ≠ '\\' := hb
      rw [List.singleton_append, text?, if_neg (by simp [hb, hc])]
      all_goals grind
  all_goals simp [text?, unescape?]

theorem text?_flatMap_escape (s rest : List Char) :
    text? (s.flatMap escape ++ '"' :: rest) = some (s, rest) := by
  induction s
  case nil         => rw [List.flatMap_nil, List.nil_append, text?]
  case cons c s hi => rw [List.flatMap_cons, List.append_assoc, text?_escape, hi, Option.map_some]

theorem isWordChar_digit : ∀ d < 10, isWordChar (Char.ofNat ('0'.toNat + d)) = true := by
  decide

theorem isWordChar_of_mem_decimalInt (h : c ∈ decimalInt n) : isWordChar c = true := by
  rcases mem_decimalInt h with hd | rfl
  case inl =>
    have hc := toNat_of_isDigit hd
    have hs : '0'.toNat + (c.toNat - 48) = c.toNat := Nat.add_sub_of_le hc.left
    have hw := isWordChar_digit (c.toNat - 48) (by omega)
    rwa [hs, Char.ofNat_toNat] at hw
  case inr => rfl

theorem unsignedNumber?_decimalDigits {negative : Bool} (n : Nat) :
    unsignedNumber? negative (decimalDigits n) = integer? negative (decimalDigits n) := by
  have hd : ∀ c ∈ decimalDigits n, c.isDigit = true := fun _ => isDigit_of_mem_decimalDigits
  have hz : (decimalDigits n).head? = some '0' → (decimalDigits n).length = 1 := by
    intro h
    by_cases hn : n = 0
    case pos => rw [hn]; rfl
    case neg => exact absurd h (head?_decimalDigits_ne_zero hn)
  have ht := List.takeWhile_eq_self_iff.mpr hd
  have hr := List.dropWhile_eq_nil_iff.mpr hd
  simp only [unsignedNumber?, ht, hr]
  rw [if_neg]
  simpa [decimalDigits_ne_nil] using hz

theorem number?_decimalInt (hl : Int64.minValue.toInt ≤ n) (hg : n < UInt64.size) :
    number? (decimalInt n) = some (.int n) := by
  cases n
  case ofNat n =>
    have hm : '-' ∉ decimalDigits n := fun h => absurd (isDigit_of_mem_decimalDigits h) (by decide)
    have hn : n < 1 <<< 64 := Int.ofNat_lt.mp hg
    rw [decimalInt, number?.eq_2 _ fun cs h => hm (by simp [h])]
    rw [unsignedNumber?_decimalDigits, integer?, natural?_decimalDigits]
    simp only [Bool.false_eq_true, if_false, if_pos hn]
    rfl
  case negSucc n =>
    have hm : Int64.minValue.toInt = -(1 <<< 63 : Nat) := by decide
    have hn : n + 1 ≤ 1 <<< 63 := by omega
    rw [decimalInt, number?, unsignedNumber?_decimalDigits, integer?, natural?_decimalDigits]
    simp only [if_true, if_pos hn, Nat.succ_ne_zero, if_false]
    rfl

theorem word?_decimalInt (hl : Int64.minValue.toInt ≤ n) (hg : n < UInt64.size) :
    word? (decimalInt n) = some (.int n) := by
  have hn : decimalInt n ≠ "null".toList := decimalInt_ne_cons (by decide) (by decide)
  have ht : decimalInt n ≠ "true".toList := decimalInt_ne_cons (by decide) (by decide)
  have hf : decimalInt n ≠ "false".toList := decimalInt_ne_cons (by decide) (by decide)
  rw [word?, if_neg hn, if_neg ht, if_neg hf, number?_decimalInt hl hg]

theorem tokens?_blank (h : isBlank c = true) : tokens? (c :: rest) = tokens? rest := by
  rw [tokens?, if_pos h]

theorem tokens?_blanks (h : ∀ c ∈ bs, isBlank c = true) : tokens? (bs ++ rest) = tokens? rest := by
  induction bs
  case nil          => rfl
  case cons c bs hi =>
    have ⟨hc, hbs⟩ := List.forall_mem_cons.mp h
    rw [List.cons_append, tokens?_blank hc, hi hbs]

theorem tokens?_mark (h : punctuation? c = some token) :
    tokens? (c :: rest) = (tokens? rest).map (token :: ·) := by
  have hb : isBlank c = false := by
    unfold punctuation? at h
    split at h
    case h_7 => contradiction
    all_goals rfl
  simp [tokens?, hb, h]

theorem tokens?_textLiteral (s : String) :
    tokens? (textLiteral s ++ rest) = (tokens? rest).map (.scalar (.text s) :: ·) := by
  have ht := text?_flatMap_escape s.toList rest
  rw [textLiteral, List.append_assoc, List.cons_append, List.cons_append, List.nil_append, tokens?]
  simp [isBlank, punctuation?]
  split <;> simp_all

-- Whether a word is over when this comes next.
def EndsWord (rest : List Char) : Prop :=
  ∀ c ∈ rest.head?, isWordChar c = false

theorem endsWord_nil : EndsWord [] :=
  nofun

theorem endsWord_cons (h : isWordChar c = false) : EndsWord (c :: rest) := by
  simpa [EndsWord] using h

theorem endsWord_blanks (h : ∀ c ∈ bs, isBlank c = true) : EndsWord bs := by
  cases bs
  case nil  => exact endsWord_nil
  case cons => exact endsWord_cons (by simp [isWordChar, h _ List.mem_cons_self])

theorem tokens?_word {v : Value} (hn : w ≠ []) (hc : ∀ c ∈ w, isWordChar c = true)
    (hw : word? w = some v) (hr : EndsWord rest) :
    tokens? (w ++ rest) = (tokens? rest).map (.scalar v :: ·) := by
  have ⟨c, cs, hs⟩ := List.exists_cons_of_ne_nil hn
  subst hs
  have ⟨hc, hcs⟩ := List.forall_mem_cons.mp hc
  have ht : (cs ++ rest).takeWhile isWordChar = cs := by
    rw [List.takeWhile_append_of_pos hcs]
    cases rest <;> simp_all [EndsWord]
  have hd : (cs ++ rest).dropWhile isWordChar = rest := by
    rw [List.dropWhile_append_of_pos hcs]
    cases rest <;> simp_all [EndsWord]
  have ⟨⟨hb, hp⟩, hq⟩ : (isBlank c = false ∧ punctuation? c = none) ∧ c ≠ '"' := by
    simpa [isWordChar] using hc
  rw [List.cons_append, tokens?]
  simp [hb, hp, hq, ht, hd, hw]

-- A piece of a text consists of some tokens, no matter what comes next.
def Spells (piece : List Char) (tokens : List Token) : Prop :=
  ∀ rest, EndsWord rest → tokens? (piece ++ rest) = (tokens? rest).map (tokens ++ ·)

namespace Spells

theorem nil : Spells [] [] := by
  intro rest _
  simp

theorem blanks (hb : ∀ c ∈ bs, isBlank c = true) (h : Spells piece ts) : Spells (bs ++ piece) ts := by
  intro rest hr
  rw [List.append_assoc, tokens?_blanks hb, h rest hr]

theorem mark (hc : punctuation? c = some token) (h : Spells piece ts) :
    Spells (c :: piece) (token :: ts) := by
  intro rest hr
  rw [List.cons_append, tokens?_mark hc, h rest hr, Option.map_map]
  rfl

theorem text (s : String) (h : Spells piece ts) :
    Spells (textLiteral s ++ piece) (.scalar (.text s) :: ts) := by
  intro rest hr
  rw [List.append_assoc, tokens?_textLiteral, h rest hr, Option.map_map]
  rfl

theorem word {v : Value} (hn : w ≠ []) (hc : ∀ c ∈ w, isWordChar c = true) (hw : word? w = some v) :
    Spells w [.scalar v] :=
  fun _ => tokens?_word hn hc hw

theorem append (ha : Spells a ts) (hb : Spells b us) (he : ∀ rest, EndsWord (b ++ rest)) :
    Spells (a ++ b) (ts ++ us) := by
  intro rest hr
  rw [List.append_assoc, ha _ (he rest), hb rest hr, Option.map_map]
  simp [Function.comp_def]

theorem joined {pieces : List (List Char)} {tokens : List (List Token)}
    (h : List.Forall₂ Spells pieces tokens) (hb : ∀ c ∈ bs, isBlank c = true) :
    Spells (joined (',' :: bs) pieces) ([.comma].intercalate tokens) := by
  induction h
  case nil => exact nil
  case cons hp ht hi =>
    cases ht
    case nil => rwa [Json.joined, List.intercalate_singleton]
    case cons =>
      have hs := hp.append ((hi.blanks hb).mark (c := ',') rfl) fun _ => endsWord_cons rfl
      simpa [Json.joined, List.intercalate_cons_cons] using hs

theorem isBlank_newline (depth : Nat) : ∀ c ∈ newline depth, isBlank c = true := by
  intro c h
  have hc : c = '\n' ∨ c = ' ' := by
    simp [newline] at h
    grind
  rcases hc with rfl | rfl <;> rfl

theorem block {opening closing : Char} {first last : Token} {depth : Nat} {pieces : List (List Char)}
    {tokens : List (List Token)} (ho : punctuation? opening = some first)
    (hc : punctuation? closing = some last) (h : List.Forall₂ Spells pieces tokens) :
    Spells (block opening closing depth pieces) (first :: ([.comma].intercalate tokens ++ [last])) := by
  have hl : Spells [closing] [last] := nil.mark hc
  cases h
  case nil => exact hl.mark ho
  case cons hp ht =>
    have hj := joined (.cons hp ht) (isBlank_newline (depth + 1))
    have hs := hj.append (hl.blanks (isBlank_newline depth)) fun _ => endsWord_cons rfl
    have hs := (hs.blanks (isBlank_newline (depth + 1))).mark ho
    simpa [Json.block] using hs

end Spells

mutual

-- The tokens of a printed value.
def tokensOf : Value → List Token
  | .list items => .openList :: ([.comma].intercalate (itemTokens items) ++ [.closeList])
  | .map entries => .openMap :: ([.comma].intercalate (entryTokens entries) ++ [.closeMap])
  | v => [.scalar v]

def itemTokens : List Value → List (List Token)
  | [] => []
  | v :: vs => tokensOf v :: itemTokens vs

def entryTokens : List (Value × Value) → List (List Token)
  | [] => []
  | (key, v) :: entries => (.scalar key :: .colon :: tokensOf v) :: entryTokens entries

end

theorem spells_prettyItems {items : List Value} {depth : Nat}
    (h : ∀ v ∈ items, Spells (pretty depth v) (tokensOf v)) :
    List.Forall₂ Spells (prettyItems depth items) (itemTokens items) := by
  induction items
  case nil => exact .nil
  case cons v vs hi =>
    have ⟨hv, hvs⟩ := List.forall_mem_cons.mp h
    exact .cons hv (hi hvs)

theorem spells_prettyEntries {entries : List (Value × Value)} {depth : Nat}
    (hk : ∀ entry ∈ entries, ∃ name, entry.1 = .text name)
    (h : ∀ entry ∈ entries, Spells (pretty depth entry.2) (tokensOf entry.2)) :
    List.Forall₂ Spells (prettyEntries depth entries) (entryTokens entries) := by
  induction entries
  case nil => exact .nil
  case cons entry entries hi =>
    have ⟨⟨name, hn⟩, hks⟩ := List.forall_mem_cons.mp hk
    have ⟨hv, hvs⟩ := List.forall_mem_cons.mp h
    have ⟨key, v⟩ := entry
    obtain rfl : key = .text name := hn
    have hb : Spells ([' '] ++ pretty depth v) (tokensOf v) := .blanks (List.all_eq_true.mp rfl) hv
    exact .cons (.text name (.mark rfl hb)) (hi hks hvs)

theorem spells_pretty {v : Value} {levels : Nat} (h : v.Sayable levels) (depth : Nat) :
    Spells (pretty depth v) (tokensOf v) := by
  induction h generalizing depth
  case null => exact .word (w := "null".toList) (by decide) (List.all_eq_true.mp rfl) rfl
  case bool b =>
    cases b
    case false => exact .word (w := "false".toList) (by decide) (List.all_eq_true.mp rfl) rfl
    case true  => exact .word (w := "true".toList) (by decide) (List.all_eq_true.mp rfl) rfl
  case int hl hg =>
    have hw := word?_decimalInt hl hg
    exact .word decimalInt_ne_nil (fun _ => isWordChar_of_mem_decimalInt) hw
  case text s => simpa [pretty, compact, tokensOf] using Spells.nil.text s
  case list hi => exact .block rfl rfl (spells_prettyItems fun v hv => hi v hv _)
  case map hk _ hi => exact .block rfl rfl (spells_prettyEntries hk fun entry he => hi entry he _)

end Json

end JournalSelect
