import JournalSelect.Json.Reader
import JournalSelect.Proofs.Json.Spelling

namespace JournalSelect

namespace Value

mutual

-- The value with the entries of its mappings in ascending order of their names.
def ordered : Value → Value
  | .list items => .list (orderedItems items)
  | .map entries => .map (orderedEntries [] entries)
  | v => v

def orderedItems : List Value → List Value
  | [] => []
  | v :: vs => v.ordered :: orderedItems vs

def orderedEntries (before : List (Value × Value)) : List (Value × Value) → List (Value × Value)
  | [] => before
  | (.text name, v) :: entries => orderedEntries (insertEntry name v.ordered before) entries
  | _ :: entries => orderedEntries before entries

end

end Value

namespace Json

variable {places : List Place} {entries : List (Value × Value)} {items : List Value} {v : Value}
  {levels : Nat} {ts us : List Token} {s t : State}

namespace State

theorem run?_append : s.run? (ts ++ us) = (s.run? ts).bind (·.run? us) := by
  induction ts generalizing s
  case nil          => rfl
  case cons t ts hi =>
    rw [List.cons_append, run?, run?]
    cases s.step? t
    case none => rfl
    case some => exact hi

theorem run?_append_of_eq_some (h : s.run? ts = some t) : s.run? (ts ++ us) = t.run? us := by
  rw [run?_append, h, Option.bind_some]

end State

open State

theorem exists_tokensOf_eq_cons (v : Value) : ∃ t ts, tokensOf v = t :: ts ∧ t ≠ .closeList := by
  cases v <;> exact ⟨_, _, rfl, nofun⟩

theorem run?_firstItem :
    (firstItem places).run? (tokensOf v ++ us) = (value (.item [] :: places)).run? (tokensOf v ++ us) := by
  have ⟨t, ts, ht, hn⟩ := exists_tokensOf_eq_cons v
  rw [ht, List.cons_append, run?, run?]
  cases t
  case closeList => contradiction
  all_goals rfl

-- A value is read in every place that is not too deep for it.
def Reads (levels : Nat) (v : Value) : Prop :=
  ∀ places : List Place, places.length + levels ≤ maxDepth →
    (value places).run? (tokensOf v) = some (done v.ordered places)

theorem Reads.inside (h : Reads levels v) (hd : places.length + levels < maxDepth) (place : Place) :
    (value (place :: places)).run? (tokensOf v) = some (done v.ordered (place :: places)) :=
  h (place :: places) (by rw [List.length_cons]; omega)

theorem intercalate_comma (piece : List Token) (pieces : List (List Token)) :
    [.comma].intercalate (piece :: pieces) = piece ++ pieces.flatMap (.comma :: ·) := by
  induction pieces generalizing piece
  case nil => rw [List.intercalate_singleton, List.flatMap_nil, List.append_nil]
  case cons next rest hi =>
    rw [List.intercalate_cons_cons, hi, List.flatMap_cons]
    rw [List.cons_append, List.append_assoc, List.singleton_append]

-- The items behind one that has been read, up to the end of the list. Each of them adds a place for as long
-- as it is read.
theorem run?_nextItems (hd : places.length + levels < maxDepth) (h : ∀ v ∈ items, Reads levels v)
    (v : Value) (read : List Value) :
    (done v (.item read :: places)).run? ((itemTokens items).flatMap (.comma :: ·) ++ [.closeList]) =
    some (done (.list ((v :: read).reverse ++ Value.orderedItems items)) places) := by
  induction items generalizing v read
  case nil => simp [itemTokens, run?, step?, Value.orderedItems]
  case cons w ws hi =>
    have ⟨hw, hws⟩ := List.forall_mem_cons.mp h
    have hr := hw.inside hd (.item (v :: read))
    have hn := hi hws w.ordered (v :: read)
    rw [itemTokens, List.flatMap_cons, List.cons_append, List.cons_append, List.append_assoc]
    rw [run?, step?, Option.bind_some, run?_append_of_eq_some hr, hn]
    simp [Value.orderedItems]

theorem run?_nextEntries (hd : places.length + levels < maxDepth)
    (hk : ∀ entry ∈ entries, ∃ name, entry.1 = .text name) (h : ∀ entry ∈ entries, Reads levels entry.2)
    (v : Value) (name : String) (read : List (Value × Value)) :
    (done v (.entry read name :: places)).run?
      ((entryTokens entries).flatMap (.comma :: ·) ++ [.closeMap]) =
    some (done (.map (Value.orderedEntries (Value.insertEntry name v read) entries)) places) := by
  induction entries generalizing v name read
  case nil => simp [entryTokens, run?, step?, Value.orderedEntries]
  case cons entry entries hi =>
    have ⟨⟨next, hn⟩, hks⟩ := List.forall_mem_cons.mp hk
    have ⟨hw, hws⟩ := List.forall_mem_cons.mp h
    have ⟨key, w⟩ := entry
    obtain rfl : key = .text next := hn
    have hr := hw.inside hd (.entry (Value.insertEntry name v read) next)
    have hn := hi hks hws w.ordered next (Value.insertEntry name v read)
    rw [entryTokens, List.flatMap_cons]
    simp [run?, step?, run?_append_of_eq_some hr, hn, Value.orderedEntries]

theorem reads_of_sayable (h : v.Sayable levels) : Reads levels v := by
  induction h
  case null | bool | int | text => exact fun _ _ => rfl
  case list levels items hs hi =>
    intro places hd
    have hd : places.length + levels < maxDepth := by omega
    have hb : (value places).step? .openList = some (firstItem places) := if_pos (by omega)
    rw [tokensOf, run?, hb, Option.bind_some]
    cases items
    case nil => rfl
    case cons v vs =>
      obtain ⟨hv, hvs⟩ := List.forall_mem_cons.mp hi
      have hr := hv.inside hd (.item [])
      have hn := run?_nextItems hd hvs v.ordered []
      rw [itemTokens, intercalate_comma, List.append_assoc]
      rw [run?_firstItem, run?_append_of_eq_some hr, hn]
      rfl
  case map levels entries hk hs hi =>
    intro places hd
    have hd : places.length + levels < maxDepth := by omega
    have hb : (value places).step? .openMap = some (firstName places) := if_pos (by omega)
    rw [tokensOf, run?, hb, Option.bind_some]
    cases entries
    case nil => rfl
    case cons entry entries =>
      obtain ⟨⟨name, hn⟩, hks⟩ := List.forall_mem_cons.mp hk
      obtain ⟨hv, hvs⟩ := List.forall_mem_cons.mp hi
      obtain ⟨key, v⟩ := entry
      obtain rfl : key = .text name := hn
      have hr := hv.inside hd (.entry [] name)
      have hn := run?_nextEntries hd hks hvs v.ordered name []
      rw [entryTokens, intercalate_comma]
      simp [run?, step?, run?_append_of_eq_some hr, hn, Value.ordered, Value.orderedEntries]

-- What a text says that is a printed value with blanks behind it. Only the order of the entries of mappings
-- changes.
theorem read?_pretty {s : String} {depth : Nat} {bs : List Char} (hs : s.toList = pretty depth v ++ bs)
    (hb : ∀ c ∈ bs, isBlank c = true) (hv : v.Sayable maxDepth) : read? s = some v.ordered := by
  have ht := spells_pretty hv depth bs (endsWord_blanks hb)
  have hn : tokens? bs = some [] := by rw [←bs.append_nil, tokens?_blanks hb, tokens?]
  have hr := reads_of_sayable hv [] (Nat.le_of_eq (Nat.zero_add _))
  rw [read?, hs, ht, hn, Option.map_some, Option.bind_some, List.append_nil, ofTokens?, hr]

end Json

end JournalSelect
