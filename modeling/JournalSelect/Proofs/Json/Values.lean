import JournalSelect.Json.Reader
import Mathlib.Data.String.Basic

namespace JournalSelect

-- What a JSON text can say. The names in a mapping ascend, so that none of them is there twice.
inductive Value.IsJson : Value → Prop
  | null : IsJson .null
  | bool {b} : IsJson (.bool b)
  | int {n} : IsJson (.int n)
  | real {x} : IsJson (.real x)
  | text {s} : IsJson (.text s)
  | list {items} : (∀ v ∈ items, IsJson v) → IsJson (.list items)
  | map {fields : List (String × Value)} :
    (fields.map Prod.fst).Pairwise (· < ·) → (∀ field ∈ fields, IsJson field.2) →
    IsJson (.map (fields.map fun field => (.text field.1, field.2)))

namespace Value

variable {fields : List (String × Value)} {entries : List (Value × Value)} {v : Value}

-- No names but the new one are added, so what stands before an entry keeps standing before it.
theorem exists_insertEntry (hn : (fields.map Prod.fst).Pairwise (· < ·))
    (hf : ∀ field ∈ fields, field.2.IsJson) (hv : v.IsJson) (name : String) :
    ∃ all : List (String × Value),
      insertEntry name v (fields.map fun field => (.text field.1, field.2)) =
        all.map (fun field => (.text field.1, field.2)) ∧
      (all.map Prod.fst).Pairwise (· < ·) ∧ (∀ field ∈ all, field.2.IsJson) ∧
      ∀ other ∈ all.map Prod.fst, other = name ∨ other ∈ fields.map Prod.fst := by
  induction fields
  case nil => exact ⟨[(name, v)], rfl, by simp, by simpa using hv, by simp⟩
  case cons field fields hi =>
    have ⟨hl, hn'⟩ := List.pairwise_cons.mp hn
    have ⟨hj, hf'⟩ := List.forall_mem_cons.mp hf
    simp only [List.map_cons, insertEntry]
    split
    case isTrue h =>
      refine ⟨(name, v) :: field :: fields, rfl, ?_, List.forall_mem_cons.mpr ⟨hv, hf⟩, by simp⟩
      refine List.pairwise_cons.mpr ⟨?_, hn⟩
      exact List.forall_mem_cons.mpr ⟨h, fun other ho => h.trans (hl other ho)⟩
    case isFalse h =>
      split
      case isTrue he =>
        refine ⟨(name, v) :: fields, rfl, ?_, List.forall_mem_cons.mpr ⟨hv, hf'⟩, by simp; grind⟩
        exact List.pairwise_cons.mpr ⟨he ▸ hl, hn'⟩
      case isFalse he =>
        have ⟨all, ha, hp, hs, ho⟩ := hi hn' hf'
        refine ⟨field :: all, by rw [ha, List.map_cons], ?_, List.forall_mem_cons.mpr ⟨hj, hs⟩, ?_⟩
        · refine List.pairwise_cons.mpr ⟨fun other hm => ?_, hp⟩
          cases ho other hm
          case inl ho => exact ho ▸ lt_of_le_of_ne (not_lt.mp h) (Ne.symm he)
          case inr ho => exact hl other ho
        · grind

theorem IsJson.insertEntry (h : IsJson (.map entries)) (hv : v.IsJson) (name : String) :
    IsJson (.map (insertEntry name v entries)) := by
  cases h
  case map fields hn hf =>
    have ⟨all, ha, hp, hs, _⟩ := exists_insertEntry hn hf hv name
    exact ha ▸ .map hp hs

end Value

namespace Json

variable {negative : Bool} {whole fraction cs : List Char} {e : Int} {v : Value} {ts : List Token}

theorem isJson_of_real? (h : real? negative whole fraction e = some v) : v.IsJson := by
  simp only [real?, Option.map_eq_some_iff] at h
  obtain ⟨_, _, rfl⟩ := h
  exact .real

theorem isJson_of_integer? (h : integer? negative whole = some v) : v.IsJson := by
  unfold integer? at h
  repeat' split at h
  all_goals first
    | exact isJson_of_real? h
    | cases h; exact .real
    | cases h; exact .int
    | cases h

theorem isJson_of_unsignedNumber? (h : unsignedNumber? negative cs = some v) : v.IsJson := by
  simp only [unsignedNumber?] at h
  repeat' split at h
  all_goals first
    | exact isJson_of_integer? h
    | cases h
    | have ⟨_, _, h⟩ := Option.bind_eq_some_iff.mp h; exact isJson_of_real? h

theorem isJson_of_word? (h : word? cs = some v) : v.IsJson := by
  unfold word? number? at h
  repeat' split at h
  all_goals first
    | exact isJson_of_unsignedNumber? h
    | cases h; first | exact .null | exact .bool

theorem isJson_of_tokens? (h : tokens? cs = some ts) (hm : .scalar v ∈ ts) : v.IsJson := by
  fun_induction tokens? cs generalizing ts
  case case1 => simp_all
  case case2 hi => exact hi h hm
  case case3 c cs _ mark hp hi =>
    obtain ⟨_, hs, rfl⟩ := Option.map_eq_some_iff.mp h
    cases hm
    case head => unfold punctuation? at hp; split at hp <;> cases hp
    case tail hm => exact hi hs hm
  case case4 => contradiction
  case case5 hi =>
    obtain ⟨_, hs, rfl⟩ := Option.map_eq_some_iff.mp h
    cases hm
    case head    => exact .text
    case tail hm => exact hi hs hm
  case case6 => contradiction
  case case7 hw _ hi =>
    obtain ⟨_, hs, rfl⟩ := Option.map_eq_some_iff.mp h
    cases hm
    case head    => exact isJson_of_word? hw
    case tail hm => exact hi hs hm

def Place.Sound : Place → Prop
  | .item before => ∀ v ∈ before, v.IsJson
  | .entry before _ => Value.IsJson (.map before)

-- What has been read so far is right, in every place.
def State.Sound : State → Prop
  | .value places | .firstItem places | .firstName places => ∀ place ∈ places, place.Sound
  | .nextName before places | .mark before _ places =>
    Value.IsJson (.map before) ∧ ∀ place ∈ places, place.Sound
  | .done v places => v.IsJson ∧ ∀ place ∈ places, place.Sound

variable {s t : State} {token : Token} {places : List Place}

theorem isJson_map_nil : Value.IsJson (.map []) :=
  @Value.IsJson.map [] .nil nofun

theorem sound_of_begin? (h : begin? places token = some t) (hp : ∀ place ∈ places, place.Sound)
    (hv : ∀ v, token = .scalar v → v.IsJson) : t.Sound := by
  unfold begin? at h
  repeat' split at h
  all_goals cases h
  case h_1 => exact ⟨hv _ rfl, hp⟩
  all_goals exact hp

theorem State.Sound.step? (hs : s.Sound) (h : s.step? token = some t)
    (hv : ∀ v, token = .scalar v → v.IsJson) : t.Sound := by
  unfold State.step? at h
  split at h
  case h_1 => exact sound_of_begin? h hs hv
  case h_3 => exact sound_of_begin? h (List.forall_mem_cons.mpr ⟨nofun, hs⟩) hv
  case h_12 => contradiction
  all_goals cases h
  case h_2          => exact ⟨.list nofun, hs⟩
  case h_4          => exact ⟨isJson_map_nil, hs⟩
  case h_5          => exact ⟨isJson_map_nil, hs⟩
  case h_6          => exact hs
  case h_7          => exact List.forall_mem_cons.mpr hs
  case h_8 v _ _    =>
    have ⟨hb, hp⟩ := List.forall_mem_cons.mp hs.right
    exact List.forall_mem_cons.mpr ⟨List.forall_mem_cons.mpr ⟨hs.left, hb⟩, hp⟩
  case h_9          =>
    have ⟨hb, hp⟩ := List.forall_mem_cons.mp hs.right
    exact ⟨.list fun w hw => List.forall_mem_cons.mpr ⟨hs.left, hb⟩ w (List.mem_reverse.mp hw), hp⟩
  case h_10 | h_11  =>
    have ⟨hb, hp⟩ := List.forall_mem_cons.mp hs.right
    exact ⟨hb.insertEntry hs.left _, hp⟩

theorem State.Sound.run? (hs : s.Sound) (h : s.run? ts = some t) (hv : ∀ v, .scalar v ∈ ts → v.IsJson) :
    t.Sound := by
  induction ts generalizing s
  case nil => cases h; exact hs
  case cons token ts hi =>
    have ⟨u, hu, hr⟩ := Option.bind_eq_some_iff.mp h
    have hn := hs.step? hu fun v he => hv v (he ▸ List.mem_cons_self)
    exact hi hn hr fun v hm => hv v (List.mem_cons_of_mem _ hm)

theorem isJson_of_read? {s : String} (h : read? s = some v) : v.IsJson := by
  have ⟨ts, ht, h⟩ := Option.bind_eq_some_iff.mp h
  unfold ofTokens? at h
  split at h
  case h_2 => contradiction
  case h_1 w hr =>
    cases h
    have hs : (State.value []).Sound := nofun
    exact (hs.run? hr fun _ => isJson_of_tokens? ht).left

end Json

end JournalSelect
