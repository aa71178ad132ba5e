import JournalSelect.Failure
import JournalSelect.Files
import JournalSelect.Filter.Document
import JournalSelect.Journal

namespace JournalSelect

variable {α : Type}

-- A folder can be opened, but there is no text in it.
def Files.load (files : Files) (path : String) (read? : String → Option α)
    (notOpened notParsed : String → Failure) : Except Failure α :=
  match files path with
  | .missing => .error (notOpened path)
  | .folder => .error (notParsed path)
  | .file content =>
    match (text? content).bind read? with
    | some a => .ok a
    | none => .error (notParsed path)

def Filter.load (files : Files) (path : String) : Except Failure Filter :=
  files.load path read? .filterNotOpened .filterNotParsed

def Catalog.load (files : Files) (path : String) : Except Failure Catalog :=
  files.load path read? .catalogNotOpened .catalogNotParsed

def loadPredicate (files : Files) (filterPath : Option String) : Except Failure Predicate := do
  let filter ← filterPath.mapM (Filter.load files)
  (compileFilter filter).mapError .filterInvalid

-- The filter is read and compiled before the catalog is looked at. Without a filter all journals are
-- selected.
def selectJournals (files : Files) (catalogPath : String) (filterPath : Option String) :
    Except Failure (List String) := do
  let predicate ← loadPredicate files filterPath
  let catalog ← Catalog.load files catalogPath
  return (catalog.select predicate).map Journal.name

end JournalSelect
