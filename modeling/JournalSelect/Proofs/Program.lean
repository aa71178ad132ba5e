import JournalSelect.Program

namespace JournalSelect

variable {files : Files} {configFile output : String}

namespace Output

variable {α : Type} {x : Except Failure α} {f : α → Output Unit}

theorem outcome_lift_bind :
    (liftM x >>= f).outcome output =
    match x with
    | .ok a          => (f a).outcome output
    | .error failure => (.error failure, output) := by
  cases x <;> rfl

theorem outcome_forM_writeLine {texts : List String} :
    (texts.forM writeLine).outcome output = (.ok (), output ++ lines texts) := by
  induction texts generalizing output
  case nil =>
    rw [lines, List.map_nil, String.join_nil, String.append_empty]
    rfl
  case cons text texts hi =>
    change (texts.forM writeLine).outcome (output ++ text ++ "\n") = _
    rw [hi, lines, lines, List.map_cons, String.join_cons]
    simp only [String.append_assoc]

end Output

namespace CommandLine.Command

theorem outcome_config {options : ConfigOptions} :
    ((config options).run files configFile).outcome output =
    match Settings.effective files configFile options with
    | .ok settings   => (.ok (), output ++ settings.print ++ "\n")
    | .error failure => (.error failure, output) := by
  rw [run, Output.outcome_lift_bind]
  cases Settings.effective files configFile options <;> rfl

theorem outcome_select {catalogPath : String} {filterPath : Option String} :
    ((select catalogPath filterPath).run files configFile).outcome output =
    match selectJournals files catalogPath filterPath with
    | .ok names      => (.ok (), output ++ lines names)
    | .error failure => (.error failure, output) := by
  rw [run, Output.outcome_lift_bind]
  simp only [Output.outcome_forM_writeLine]
  cases selectJournals files catalogPath filterPath <;> rfl

-- A command that fails has written nothing.
theorem output_eq_of_outcome_error {command : Command} {failure : Failure} {written : String}
    (h : (command.run files configFile).outcome output = (.error failure, written)) :
    written = output := by
  cases command
  case config options =>
    rw [outcome_config] at h
    cases hs : Settings.effective files configFile options <;> simp_all
  case select catalogPath filterPath =>
    rw [outcome_select] at h
    cases hs : selectJournals files catalogPath filterPath <;> simp_all

end CommandLine.Command

end JournalSelect
