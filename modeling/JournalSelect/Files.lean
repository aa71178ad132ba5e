import JournalSelect.Text.Utf8

namespace JournalSelect

inductive Entry where
  | missing
  | folder
  | file (content : ByteArray)

-- All that the program sees of a file system.
abbrev Files := String → Entry

namespace Files

-- The text of a file, if it is in UTF-8.
def text? (content : ByteArray) : Option String :=
  String.fromUTF8? content

-- The text of a file with a replacement character for whatever is not UTF-8.
def lenientText (content : ByteArray) : String :=
  String.ofList (Text.Utf8.decode content.toList)

-- The parts of a path that lead somewhere else.
def steps (path : String) : List (List Char) :=
  (path.toList.splitOn '/').filter fun part => !part.isEmpty && part != ['.']

-- Whether a path can only lead to a folder.
def endsInFolder (path : String) : Bool :=
  match (path.toList.splitOn '/').getLast? with
  | some last => last.isEmpty || last == ['.']
  | none => true

-- One folder without folders inside, in which relative paths are looked up. The folder above a folder, and
-- that of a root, is a folder.
def ofFolder (contents : List (String × ByteArray)) : Files := fun path =>
  if path.isEmpty then .missing
  else if (steps path).all (· == ['.', '.']) then .folder
  else
    match steps path with
    | [name] =>
      if path.toList.head? = some '/' || endsInFolder path then .missing
      else
        match contents.lookup (String.ofList name) with
        | some content => .file content
        | none => .missing
    | _ => .missing

-- What stands behind the last point in the name of a file. The point may not be its first character.
def extension? (path : String) : Option String :=
  let name := (steps path).getLast?.getD []
  let behind := (name.reverse.takeWhile (· != '.')).reverse
  if behind.length + 1 < name.length && name != ['.', '.'] then some (String.ofList behind) else none

end Files

end JournalSelect
