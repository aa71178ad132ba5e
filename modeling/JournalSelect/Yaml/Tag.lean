import JournalSelect.Text.Numeral
import JournalSelect.Yaml.Quoted

namespace JournalSelect.Yaml

-- A tag is written with a handle, which stands for the start of the tag, and a name.
structure Tag where
  start : String
  name : String
deriving DecidableEq, Repr

namespace Tag

def coreStart : String :=
  "tag:yaml.org,2002:"

def text (tag : Tag) : String :=
  tag.start ++ tag.name

-- The tag that a handle and a name stand for. A handle that stands for nothing, other than a lone mark, is
-- unknown.
def resolve? (handles : List (String × String)) (handle name : String) : Option Tag :=
  match handles.lookup handle with
  | some start => some ⟨start, name⟩
  | none =>
    if handle = "!!" then some ⟨coreStart, name⟩
    else if handle.length ≤ 1 then some ⟨handle, name⟩
    else none

end Tag

-- How many octets the UTF-8 form of a character has that starts with this one.
def octetCount? (octet : Nat) : Option Nat :=
  if octet < 0x80 then some 1
  else if 0xc0 ≤ octet && octet < 0xe0 then some 2
  else if 0xe0 ≤ octet && octet < 0xf0 then some 3
  else if 0xf0 ≤ octet && octet < 0xf8 then some 4
  else none

-- The characters of a name, with the escaped octets of one character together. Some octets have been read
-- and some are owed.
def escapes? : (octets : List Nat) → (owed : Nat) → List Char → Option (List (Char ⊕ List Nat))
  | octets, owed, '%' :: a :: b :: cs => do
    let octet ← Text.natural? 16 [a, b]
    let octets := octets ++ [octet]
    match owed with
    | 0 =>
      match ← octetCount? octet with
      | 1 => return .inr octets :: (← escapes? [] 0 cs)
      | count => escapes? octets (count - 1) cs
    | 1 =>
      if octet / 64 != 2 then none
      return .inr octets :: (← escapes? [] 0 cs)
    | owed + 2 =>
      if octet / 64 != 2 then none
      escapes? octets (owed + 1) cs
  | _, 0, c :: cs => if c = '%' then none else (escapes? [] 0 cs).map (.inl c :: ·)
  | _, _ + 1, _ :: _ => none
  | _, 0, [] => some []
  | _, _ + 1, [] => none

namespace Edition

-- The classic edition keeps the octets, one by one, and the modern one takes the number that they form for
-- the number of a character.
def unescaped? : Edition → Char ⊕ List Nat → Option (List Char)
  | _, .inl c => some [c]
  | classic, .inr octets => some (octets.map Char.ofNat)
  | modern, .inr octets => (character? (octets.foldl (fun n octet => n * 256 + octet) 0)).map ([·])

def tagText? (e : Edition) (cs : List Char) : Option String := do
  return String.ofList (← (← escapes? [] 0 cs).mapM e.unescaped?).flatten

-- The handle and the name of a tag behind its first mark, and what is left. A verbatim tag has no handle,
-- and a mark alone is a name.
def tag? (e : Edition) (cs : List Char) : Option (String × String × List Char) :=
  match cs with
  | '<' :: cs =>
    let name := cs.takeWhile e.isUriChar
    match cs.drop name.length with
    | '>' :: rest =>
      if e = classic && name.isEmpty then none else (e.tagText? name).map ("", ·, rest)
    | _ => none
  | cs =>
    let word := cs.takeWhile isWordChar
    match cs.drop word.length with
    | '!' :: rest =>
      let name := rest.takeWhile e.isTagChar
      if name.isEmpty then none
      else (e.tagText? name).map (String.ofList ('!' :: word ++ ['!']), ·, rest.drop name.length)
    | _ =>
      let name := cs.takeWhile e.isTagChar
      if name.isEmpty then some ("", "!", cs)
      else (e.tagText? name).map ("!", ·, cs.drop name.length)

end Edition

end JournalSelect.Yaml
