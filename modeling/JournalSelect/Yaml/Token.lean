import JournalSelect.Yaml.Position

namespace JournalSelect.Yaml

inductive ScalarStyle where
  | plain
  | quoted
  | literal
  | folded
deriving DecidableEq, Repr

inductive Token where
  | version (major minor : Nat)
  | handle (handle start : String)
  | documentStart
  | documentEnd
  | blockSequence
  | blockMapping
  | blockEnd
  | flowSequence
  | flowSequenceEnd
  | flowMapping
  | flowMappingEnd
  | entry
  | comma
  | key
  | value
  | anchor (name : String)
  | alias (name : String)
  | tag (handle name : String)
  | scalar (style : ScalarStyle) (text : String)
deriving DecidableEq, Repr

-- Where a key may start that only a later colon makes one: the count of tokens before it, and whether it
-- has to be a key, because it stands where the current block has its keys.
structure PossibleKey where
  place : Nat
  required : Bool
  position : Position

-- A key stands on one line and within 1024 characters.
def PossibleKey.isStale (p : Position) (key : PossibleKey) : Bool :=
  key.position.line < p.line || key.position.index + 1024 < p.index

end JournalSelect.Yaml
