import JournalSelect.Proofs.Settings.Setting
import Mathlib.Data.List.Nodup

namespace JournalSelect

open CommandLine

-- A value given for one of the settings.
structure Choice where
  setting : Setting
  value : setting.Given

def EndpointSetting.all : List EndpointSetting :=
  [address, tls, twoWay, authorityFile, keyFile, certificateFile]

def Setting.all : List Setting :=
  [hostId, leaseSeconds, registrationSeconds, journalsDirectory]
    ++ EndpointSetting.all.map publicEndpoint ++ EndpointSetting.all.map privateEndpoint

theorem EndpointSetting.mem_all (part : EndpointSetting) : part ∈ all := by
  cases part <;> decide

theorem Setting.mem_all (k : Setting) : k ∈ all := by
  cases k
  case publicEndpoint | privateEndpoint => simp [all, EndpointSetting.mem_all]
  all_goals simp [all]

theorem Setting.nodup_all : all.Nodup := by
  decide

namespace CommandLine.ConfigOptions

-- At most one value for each setting.
def choices (o : ConfigOptions) : List Choice :=
  Setting.all.filterMap fun k => (o.get? k).map (Choice.mk k)

def give (o : ConfigOptions) (c : Choice) : ConfigOptions :=
  tabulate (Function.update o.get? c.setting (some c.value))

def giveAll (o : ConfigOptions) (cs : List Choice) : ConfigOptions :=
  cs.foldl give o

variable {o : ConfigOptions} {k : Setting} {c : Choice} {cs : List Choice}

theorem get?_give_self : (o.give c).get? c.setting = some c.value := by
  rw [give, get?_tabulate, Function.update_self]

theorem get?_give_of_ne (h : k ≠ c.setting) : (o.give c).get? k = o.get? k := by
  rw [give, get?_tabulate, Function.update_of_ne h]

theorem get?_giveAll_of_not_mem (h : k ∉ cs.map Choice.setting) : (o.giveAll cs).get? k = o.get? k := by
  induction cs generalizing o
  case nil          => rfl
  case cons c cs hi =>
    rw [List.map_cons, List.mem_cons, not_or] at h
    have ⟨hc, hcs⟩ := h
    rw [giveAll, List.foldl_cons, ←giveAll, hi hcs, get?_give_of_ne hc]

-- A setting that is given a value once keeps it.
theorem get?_giveAll_of_mem (hn : (cs.map Choice.setting).Nodup) (h : c ∈ cs) :
    (o.giveAll cs).get? c.setting = some c.value := by
  induction cs generalizing o
  case nil           => contradiction
  case cons c' cs hi =>
    have ⟨hc, hn⟩ := List.nodup_cons.mp hn
    rw [giveAll, List.foldl_cons, ←giveAll]
    cases List.mem_cons.mp h
    case inl h => rw [h, get?_giveAll_of_not_mem hc, get?_give_self]
    case inr h => exact hi hn h

theorem mem_choices_iff : c ∈ o.choices ↔ o.get? c.setting = some c.value := by
  rw [choices, List.mem_filterMap]
  constructor
  case mp =>
    intro ⟨k, _, hk⟩
    have ⟨v, hv, hc⟩ := Option.map_eq_some_iff.mp hk
    exact hc ▸ hv
  case mpr =>
    intro h
    exact ⟨c.setting, Setting.mem_all _, by rw [h]; rfl⟩

theorem nodup_choices : (o.choices.map Choice.setting).Nodup := by
  rw [choices, List.map_filterMap]
  refine List.Nodup.filterMap ?_ Setting.nodup_all
  simp only [Option.map_map, Option.mem_def, Option.map_eq_some_iff]
  intro j k l ⟨_, _, hj⟩ ⟨_, _, hk⟩
  exact hj.trans hk.symm

-- All that options give, in any order, comes to the same options.
theorem giveAll_choices (h : cs.Perm o.choices) : none.giveAll cs = o := by
  have hn := (h.map Choice.setting).nodup_iff.mpr nodup_choices
  refine ext_get? fun k => ?_
  cases hk : o.get? k
  case some v => exact get?_giveAll_of_mem (c := ⟨k, v⟩) hn (h.mem_iff.mpr <| mem_choices_iff.mpr hk)
  case none =>
    rw [get?_giveAll_of_not_mem, get?_none]
    intro hm
    have ⟨c, hc, hs⟩ := List.mem_map.mp hm
    subst hs
    exact Option.some_ne_none _ (mem_choices_iff.mp (h.mem_iff.mp hc) |>.symm.trans hk)

end CommandLine.ConfigOptions

end JournalSelect
