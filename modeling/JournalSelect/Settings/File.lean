import JournalSelect.Failure
import JournalSelect.Files
import JournalSelect.Json.Reader
import JournalSelect.Settings.Lenient
import JournalSelect.Yaml.Modern.Typed

namespace JournalSelect

inductive SettingsFormat where
  | json
  | yaml
deriving DecidableEq, Repr

namespace SettingsFormat

def ofPath? (path : String) : Option SettingsFormat :=
  match Files.extension? path with
  | some "json" => some json
  | some "yaml" => some yaml
  | some "yml" => some yaml
  | _ => none

def mapping? : Value → Option (List (Value × Value))
  | .map entries => some entries
  | _ => none

-- The entries of a text, whose root must be a mapping. A YAML text without a document has none.
def layer? (text : String) : SettingsFormat → Option (List (Value × Value))
  | json => (Json.read? text).bind mapping?
  | yaml =>
    match Yaml.Modern.read? text with
    | none => none
    | some none => some []
    | some (some node) => (Yaml.Modern.value? node).bind mapping?

end SettingsFormat

-- A text may start with a mark of the byte order.
def withoutByteOrderMark (text : String) : String :=
  match text.toList with
  | '\ufeff' :: cs => String.ofList cs
  | _ => text

namespace Settings

-- No file means no entries.
def layerOfFile (files : Files) (path : String) : Except Failure (List (Value × Value)) :=
  match files path with
  | .missing => .ok []
  | .folder => .error (.settingsNotRead path)
  | .file content =>
    match SettingsFormat.ofPath? path with
    | some format =>
      match format.layer? (withoutByteOrderMark (Files.lenientText content)) with
      | some layer => .ok layer
      | none => .error (.settingsNotRead path)
    | none => .error (.settingsNotRead path)

def load (files : Files) (path : String) : Except Failure Settings := do
  match ofLayer? (← layerOfFile files path) with
  | some settings => return settings
  | none => throw (.settingsNotConverted path)

end Settings

end JournalSelect
