import JournalSelect.Program

namespace JournalSelect

open CommandLine

def isFolderError : IO.Error → Bool
  | .inappropriateType _ code _ => code = 21
  | _ => false

def entryAt (path : String) : IO Entry := do
  try
    return .file (← IO.FS.readBinFile path)
  catch e =>
    return if isFolderError e then .folder else .missing

def Response.send (response : Response) : IO UInt32 := do
  IO.print response.output
  if let some failure := response.failure then IO.eprintln ("Error: " ++ failure.message)
  return response.exitCode

def readPaths (paths : List String) : IO Files := do
  let entries ← paths.mapM fun path => return (path, ← entryAt path)
  return fun path => (entries.lookup path).getD .missing

end JournalSelect

open JournalSelect CommandLine

def main (args : List String) : IO UInt32 := do
  match Invocation.read (← IO.getEnv "LOGRANGE_CONFIG_FILE") args with
  | .error halt => halt.response.send
  | .ok invocation => (invocation.respond (← readPaths invocation.paths)).send
