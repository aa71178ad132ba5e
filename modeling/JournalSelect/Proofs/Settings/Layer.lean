import JournalSelect.Settings.Layer
import Mathlib.Data.List.TakeWhile

namespace JournalSelect

-- A name that is a path of a single step.
def IsPlainName (name : String) : Prop :=
  name ≠ "" ∧ ∀ c ∈ name.toList, PathStep.isNameChar c = true

instance : DecidablePred IsPlainName := fun name =>
  decidable_of_iff (name ≠ "" ∧ name.toList.all PathStep.isNameChar = true) (by simp [IsPlainName])

theorem pathOf_plain {name : String} (h : IsPlainName name) : pathOf name = [.name name] := by
  have hn : name.toList ≠ [] := by simpa using h.left
  have ht := List.takeWhile_eq_self_iff.mpr h.right
  have hd := List.dropWhile_eq_nil_iff.mpr h.right
  simp [pathOf, PathStep.path?, ht, hd, hn, PathStep.more?]

namespace Value

variable {name key : String} {change : Value → Value} {v : Value} {layer b : List (Value × Value)}

-- All the values that a mapping has for a name.
def valuesOf (name : String) (entries : List (Value × Value)) : List Value :=
  entries.filterMap fun (key, v) => if key.hasName name then some v else none

theorem named?_cons {entry : Value × Value} :
    named? name (entry :: b) = if entry.1.hasName name then some entry.2 else named? name b := by
  cases h : entry.1.hasName name <;> simp [named?, h]

theorem named?_alter : named? name (alter key change b) =
    if key = name then some (change ((named? name b).getD .null)) else named? name b := by
  induction b
  case nil => simp [alter, named?, hasName]
  case cons entry b hi =>
    have ⟨k, v⟩ := entry
    cases k <;> simp only [alter, named?_cons, hasName, Bool.false_eq_true, if_false, hi]
    case text => grind [named?_cons, hasName]

-- The entries of the upper mapping take effect one after another.
theorem named?_entriesOver : named? name (entriesOver layer b) =
    (valuesOf name layer).foldl (fun old v => some (laidOver v (old.getD .null))) (named? name b) := by
  induction layer generalizing b
  case nil => rfl
  case cons entry layer hi =>
    have ⟨key, v⟩ := entry
    cases key <;> simp only [entriesOver, hi]
    case text key =>
      rw [named?_alter]
      by_cases h : key = name <;> simp [valuesOf, hasName, h]
    all_goals rfl

theorem layerOver_plain (h : ∀ entry ∈ layer, ∃ name, entry.1 = .text name ∧ IsPlainName name) :
    layerOver layer (.map b) = .map (entriesOver layer b) := by
  induction layer generalizing b
  case nil => rfl
  case cons entry layer hi =>
    have ⟨name, hk, hp⟩ := h entry List.mem_cons_self
    have hi {b} := hi (b := b) fun entry hm => h entry (List.mem_cons_of_mem _ hm)
    have ⟨key, v⟩ := entry
    have hk : key = .text name := hk
    simp only [layerOver] at hi
    simp [layerOver, hk, pathOf_plain hp, alterAt, entries, entriesOver, hi]

end Value

end JournalSelect
