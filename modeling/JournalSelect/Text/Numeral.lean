namespace JournalSelect.Text

-- The value of a digit; letters of either case go on after nine.
def digit? (base : Nat) (c : Char) : Option Nat :=
  let value :=
    if c.isDigit then c.toNat - '0'.toNat
    else if c.isLower then c.toNat - 'a'.toNat + 10
    else if c.isUpper then c.toNat - 'A'.toNat + 10
    else base
  if value < base then some value else none

def naturalFrom? (base : Nat) : Nat → List Char → Option Nat
  | n, [] => some n
  | n, c :: cs => (digit? base c).bind fun d => naturalFrom? base (n * base + d) cs

-- At least one digit and nothing else.
def natural? (base : Nat) : List Char → Option Nat
  | [] => none
  | cs => naturalFrom? base 0 cs

-- A natural number that may carry a plus sign.
def unsigned? (base : Nat) : List Char → Option Nat
  | '+' :: cs => natural? base cs
  | cs => natural? base cs

-- An integer that may carry a sign of either kind.
def signed? (base : Nat) : List Char → Option Int
  | '-' :: cs => (natural? base cs).map fun n => -(n : Int)
  | cs => (unsigned? base cs).map Int.ofNat

def decimalDigits (n : Nat) : List Char :=
  Nat.toDigits 10 n

def decimalInt : Int → List Char
  | .ofNat n => decimalDigits n
  | .negSucc n => '-' :: decimalDigits (n + 1)

end JournalSelect.Text
