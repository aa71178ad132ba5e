import JournalSelect.Filter.Compile
import JournalSelect.Settings.Basic

namespace JournalSelect

inductive Failure where
  | filterNotOpened (path : String)
  | filterNotParsed (path : String)
  | filterInvalid (cause : CompileError)
  | catalogNotOpened (path : String)
  | catalogNotParsed (path : String)
  | settingsNotRead (path : String)
  | settingsNotConverted (path : String)
  | settingsInvalid (fault : SettingsFault)
deriving DecidableEq, Repr

namespace Failure

def message : Failure → String
  | filterNotOpened path => "CLI: Failed to open " ++ Text.quoted path
  | filterNotParsed path => "CLI: Failed to parse tags expression in " ++ Text.quoted path
  | filterInvalid _ => "CLI: Invalid tags expression"
  | catalogNotOpened path => "Catalog: Failed to open " ++ Text.quoted path
  | catalogNotParsed path => "Catalog: Failed to parse " ++ Text.quoted path
  | settingsNotRead path => "Config: Failed to read " ++ Text.quoted path
  | settingsNotConverted path => "Config: Invalid configuration in " ++ Text.quoted path
  | settingsInvalid fault => fault.message

-- The error behind a failure, where it is one of the filter.
def cause? : Failure → Option CompileError
  | filterInvalid cause => some cause
  | _ => none

end Failure

end JournalSelect
