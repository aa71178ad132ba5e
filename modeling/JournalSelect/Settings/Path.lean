import JournalSelect.Text.Numeral

namespace JournalSelect

-- A path starts with a name, which further names and places in lists may follow, as in `peers[0].address`.
inductive PathStep where
  | name (s : String)
  | place (i : Int)
deriving DecidableEq, Repr

namespace PathStep

def isNameChar (c : Char) : Bool :=
  c.isAlphanum || c = '_' || c = '-'

def isSpace (c : Char) : Bool :=
  c = ' ' || c = '\t'

-- A place is counted from the end if it is negative. It takes 64 bits.
def place? (cs : List Char) : Option PathStep :=
  let cs := ((cs.dropWhile isSpace).reverse.dropWhile isSpace).reverse
  if cs.head? = some '+' then none
  else
    match Text.signed? 10 cs with
    | some i =>
      if Int64.minValue.toInt ≤ i && i ≤ Int64.maxValue.toInt then some (.place i) else none
    | none => none

-- The steps behind the first one. Each takes a character at least, so as many rounds as there are
-- characters suffice.
def more? : Nat → List Char → Option (List PathStep)
  | _, [] => some []
  | 0, _ => none
  | rounds + 1, '.' :: cs =>
    let name := cs.takeWhile isNameChar
    if name.isEmpty then none
    else (more? rounds (cs.dropWhile isNameChar)).map (.name (String.ofList name) :: ·)
  | rounds + 1, '[' :: cs =>
    match place? (cs.takeWhile (· != ']')), cs.dropWhile (· != ']') with
    | some step, ']' :: rest => (more? rounds rest).map (step :: ·)
    | _, _ => none
  | _, _ => none

def path? (cs : List Char) : Option (List PathStep) :=
  let name := cs.takeWhile isNameChar
  if name.isEmpty then none
  else (more? cs.length (cs.dropWhile isNameChar)).map (.name (String.ofList name) :: ·)

end PathStep

-- The path that a text writes. What writes none is a name by itself.
def pathOf (s : String) : List PathStep :=
  (PathStep.path? s.toList).getD [.name s]

end JournalSelect
