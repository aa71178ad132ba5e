import JournalSelect.Yaml.Tag
import JournalSelect.Yaml.Token

namespace JournalSelect.Yaml

-- A number of a version, and what is left. It has nine digits at most.
def versionNumber? (cs : List Char) : Option (Nat × List Char) :=
  let digits := cs.takeWhile Char.isDigit
  if digits.length ≤ 9 then (Text.natural? 10 digits).map (·, cs.drop digits.length) else none

def version? (cs : List Char) : Option (Token × List Char) := do
  let (major, rest) ← versionNumber? cs
  match rest with
  | '.' :: rest =>
    let (minor, rest) ← versionNumber? rest
    return (.version major minor, rest)
  | _ => none

-- A handle is one mark, or a word between two of them.
def handle? : List Char → Option (String × List Char)
  | '!' :: cs =>
    let word := cs.takeWhile isWordChar
    match cs.drop word.length with
    | '!' :: rest => some (String.ofList ('!' :: word ++ ['!']), rest)
    | rest => if word.isEmpty then some ("!", rest) else none
  | _ => none

namespace Edition

-- What a handle may stand for. In the modern edition no handle stands for what starts with a mark of flow
-- collections.
def startsHandleMeaning : Edition → Char → Bool
  | classic, c => classic.isUriChar c
  | modern, c => c = '!' || modern.isTagChar c

def handleMeaning? (e : Edition) (cs : List Char) : Option (Token × List Char) := do
  let (handle, rest) ← handle? cs
  if e = classic && !rest.head?.any isBlank then none
  let rest := rest.dropWhile isBlank
  let start := rest.takeWhile e.isUriChar
  let behind := rest.drop start.length
  if start.head?.any e.startsHandleMeaning && e.isGapNext behind then
    return (.handle handle (← e.tagText? start), behind)
  else none

-- A directive without its first mark, up to what may follow it on its line. The modern edition skips
-- unknown ones and has them give a meaning to no handle.
def directive? (e : Edition) (cs : List Char) : Option (Token × List Char) :=
  let name := cs.takeWhile isWordChar
  let rest := cs.drop name.length
  if name.isEmpty || !e.isGapNext rest then none
  else if name = "YAML".toList then version? (rest.dropWhile isBlank)
  else if name = "TAG".toList then e.handleMeaning? (rest.dropWhile isBlank)
  else if e = modern then some (.handle "" "", rest.dropWhile (!e.isBreak ·))
  else none

end Edition

end JournalSelect.Yaml
