import JournalSelect.Proofs.Settings.Setting

namespace JournalSelect

open CommandLine

def Settings.applyAll (s : Settings) (os : List Overrides) : Settings :=
  os.foldl apply s

-- The last of the values that are given for a setting, if there is one.
def lastGiven (given : List ConfigOptions) (k : Setting) : Option k.Given :=
  (given.filterMap (·.get? k)).getLast?

-- Overrides that count for more than earlier ones.
def EndpointOverrides.over (o earlier : EndpointOverrides) : EndpointOverrides where
  address := o.address.or earlier.address
  tls := o.tls.or earlier.tls
  twoWay := o.twoWay.or earlier.twoWay
  authorityFile := o.authorityFile.or earlier.authorityFile
  keyFile := o.keyFile.or earlier.keyFile
  certificateFile := o.certificateFile.or earlier.certificateFile

def Overrides.over (o earlier : Overrides) : Overrides where
  hostId := o.hostId.or earlier.hostId
  leaseSeconds := o.leaseSeconds.or earlier.leaseSeconds
  registrationSeconds := o.registrationSeconds.or earlier.registrationSeconds
  journalsDirectory := o.journalsDirectory.or earlier.journalsDirectory
  publicEndpoint := o.publicEndpoint.over earlier.publicEndpoint
  privateEndpoint := o.privateEndpoint.over earlier.privateEndpoint

def Overrides.combined (os : List Overrides) : Overrides :=
  os.foldl (fun earlier o => o.over earlier) none

namespace Overrides

variable {o p : Overrides} {k : Setting}

theorem get?_none : none.get? k = .none :=
  (ConfigOptions.get?_overrides .none k).trans ConfigOptions.get?_none

theorem get?_over : (o.over p).get? k = (o.get? k).or (p.get? k) := by
  cases k
  case publicEndpoint part | privateEndpoint part => cases part <;> rfl
  all_goals rfl

-- By recursion from the front, where the last value given so far may come from the earlier overrides.
theorem get?_foldl_over {os : List Overrides} : (os.foldl (fun earlier o => o.over earlier) p).get? k =
    (os.filterMap (·.get? k)).getLast?.or (p.get? k) := by
  induction os generalizing p
  case nil          => rfl
  case cons o os hi =>
    rw [List.foldl_cons, hi, get?_over, List.filterMap_cons]
    cases o.get? k
    case none   => rfl
    case some v => cases h : (os.filterMap (·.get? k)).getLast? <;> simp [List.getLast?_cons, h]

theorem get?_combined {given : List ConfigOptions} :
    (combined (given.map ConfigOptions.overrides)).get? k = lastGiven given k := by
  rw [combined, get?_foldl_over, get?_none, Option.or_none, List.filterMap_map]
  simp only [Function.comp_def, ConfigOptions.get?_overrides]
  rfl

end Overrides

namespace Settings

variable {s : Settings} {o p : Overrides} {os : List Overrides}

theorem get_apply_of_none {k : Setting} (h : o.get? k = none) : (s.apply o).get k = s.get k := by
  rw [get_apply, h]
  rfl

theorem get_apply_of_some {k : Setting} {v : k.Given} (h : o.get? k = some v) :
    (s.apply o).get k = k.holding v := by
  rw [get_apply, h]
  rfl

theorem apply_none : s.apply .none = s :=
  ext_get fun _ => get_apply_of_none Overrides.get?_none

theorem apply_over : s.apply (o.over p) = (s.apply p).apply o := by
  refine ext_get fun k => ?_
  rw [get_apply, Overrides.get?_over, get_apply, get_apply]
  cases o.get? k <;> rfl

theorem applyAll_apply :
    (s.apply p).applyAll os = s.apply (os.foldl (fun earlier o => o.over earlier) p) := by
  induction os generalizing p
  case nil          => rfl
  case cons o os hi => rw [applyAll, List.foldl_cons, List.foldl_cons, ←apply_over, ←hi, applyAll]

theorem applyAll_eq_apply_combined : s.applyAll os = s.apply (.combined os) := by
  rw [Overrides.combined, ←applyAll_apply, apply_none]

theorem get_applyAll {given : List ConfigOptions} {k : Setting} :
    (s.applyAll (given.map ConfigOptions.overrides)).get k =
    ((lastGiven given k).map k.holding).getD (s.get k) := by
  rw [applyAll_eq_apply_combined, get_apply, Overrides.get?_combined]

theorem apply_apply_self : (s.apply o).apply o = s.apply o := by
  refine ext_get fun k => ?_
  cases h : o.get? k
  case none   => exact get_apply_of_none h
  case some v => rw [get_apply_of_some h, get_apply_of_some h]

theorem apply_comm (h : ∀ k, o.get? k = none ∨ p.get? k = none) :
    (s.apply o).apply p = (s.apply p).apply o := by
  refine ext_get fun k => ?_
  simp only [get_apply]
  cases h k
  case inl h => simp [h]
  case inr h => simp [h]

-- What options come to that are given one set after the other, and that one set of overrides does as well.
theorem applyAll_last_given (s : Settings) :
    (∀ (given : List ConfigOptions) (t : Settings), s.applyAll (given.map ConfigOptions.overrides) = t ↔
      ∀ k, t.get k = ((lastGiven given k).map k.holding).getD (s.get k)) ∧
    (∀ os, s.applyAll os = s.apply (.combined os)) ∧
    (∀ o, s.applyAll [o, o] = s.applyAll [o]) ∧
    (∀ o p : Overrides, (∀ k, o.get? k = none ∨ p.get? k = none) →
      s.applyAll [o, p] = s.applyAll [p, o]) := by
  refine ⟨?_, fun _ => applyAll_eq_apply_combined, fun _ => apply_apply_self, fun _ _ => apply_comm⟩
  intro given t
  constructor
  case mp  => exact fun h k => h ▸ get_applyAll
  case mpr => exact fun h => ext_get fun k => get_applyAll.trans (h k).symm

-- The host is named twice, and each endpoint gets a key of its own.
theorem applyAll_last_given_two_keys :
    let a := { ConfigOptions.none with hostId := some 3, publicKeyFile := some "a" }
    let b := { ConfigOptions.none with privateKeyFile := some "b" }
    let c := { ConfigOptions.none with hostId := some 4 }
    (default.applyAll [a.overrides, b.overrides, c.overrides]).get .hostId = 4 ∧
    (∀ k, a.overrides.get? k = none ∨ b.overrides.get? k = none) ∧
    default.applyAll [a.overrides, b.overrides] = default.applyAll [b.overrides, a.overrides] := by
  intro a b c
  have ⟨hl, _, _, hc⟩ := applyAll_last_given default
  have hd : ∀ k, a.overrides.get? k = none ∨ b.overrides.get? k = none := by
    intro k
    cases k
    case publicEndpoint  => exact .inr (by cases ‹EndpointSetting› <;> rfl)
    case privateEndpoint => exact .inl (by cases ‹EndpointSetting› <;> rfl)
    all_goals exact .inr rfl
  exact ⟨(hl [a, b, c] _).mp rfl .hostId, hd, hc _ _ hd⟩

end Settings

end JournalSelect
