import JournalSelect.Text.Numeral

namespace JournalSelect.Text

-- The number `digits * 10 ^ exponent`, below zero if `negative`.
structure Decimal where
  negative : Bool
  digits : Nat
  exponent : Int

namespace Decimal

-- An exponent part, which may be missing: a mark, a sign and at least one digit.
def exponentPart? : List Char → Option Int
  | [] => some 0
  | 'e' :: cs => signed? 10 cs
  | 'E' :: cs => signed? 10 cs
  | _ => none

-- Digits with an optional point among or around them and an optional exponent; a sign is not read
-- here.
def ofUnsignedChars? (negative : Bool) (cs : List Char) : Option Decimal :=
  let whole := cs.takeWhile Char.isDigit
  let rest := cs.dropWhile Char.isDigit
  let (fraction, rest) := match rest with
    | '.' :: tail => (tail.takeWhile Char.isDigit, tail.dropWhile Char.isDigit)
    | _ => ([], rest)
  match natural? 10 (whole ++ fraction), exponentPart? rest with
  | some digits, some e => some ⟨negative, digits, e - fraction.length⟩
  | _, _ => none

def ofChars? : List Char → Option Decimal
  | '-' :: cs => ofUnsignedChars? true cs
  | '+' :: cs => ofUnsignedChars? false cs
  | cs => ofUnsignedChars? false cs

-- The nearest double. The size of the number is looked at first, so that a huge exponent costs
-- nothing: a double has no values from `10 ^ 310` up and none but zero below `10 ^ -330`.
def toFloat (d : Decimal) : Float :=
  let size := (decimalDigits d.digits).length + d.exponent
  let magnitude :=
    if d.digits = 0 ∨ size < -330 then 0.0
    else if 310 < size then 1.0 / 0.0
    else Float.ofScientific d.digits (d.exponent < 0) d.exponent.natAbs
  if d.negative then -magnitude else magnitude

end Decimal

-- A finite double without its sign: `mantissa * 2 ^ exponent`. Below a power of two the doubles lie
-- twice as close as above it: `narrow` says that the value is such a power.
structure Binary where
  mantissa : Nat
  exponent : Int
  narrow : Bool

namespace Binary

def ofBits (bits : UInt64) : Binary :=
  let biased := ((bits >>> 52) &&& 0x7FF).toNat
  let fraction := (bits &&& 0xFFFFFFFFFFFFF).toNat
  if biased = 0 then ⟨fraction, -1074, false⟩
  else ⟨(1 <<< 52) + fraction, biased - 1075, fraction = 0 && biased > 1⟩

-- How `digits * 10 ^ i` compares with `n * 2 ^ j`.
def compareScaled (digits : Nat) (i : Int) (n : Nat) (j : Int) : Ordering :=
  let left := digits * Nat.pow 10 i.toNat
  let right := n * Nat.pow 10 (-i).toNat
  compare (left <<< (-j).toNat) (right <<< j.toNat)

-- Whether the nearest double to `digits * 10 ^ i` is this one: the number lies no further than half
-- way to either neighbour, and a number half way belongs to the even mantissa.
def isNearest (b : Binary) (digits : Nat) (i : Int) : Bool :=
  let below := compareScaled digits i (4 * b.mantissa - if b.narrow then 1 else 2) (b.exponent - 2)
  let above := compareScaled digits i (4 * b.mantissa + 2) (b.exponent - 2)
  if b.mantissa % 2 = 0 then below != .lt && above != .gt else below == .gt && above == .lt

-- Numerator and denominator of the value.
def ratio (b : Binary) : Nat × Nat :=
  (b.mantissa <<< b.exponent.toNat, 1 <<< (-b.exponent).toNat)

-- How often a fraction can be multiplied by ten and still be below one.
def leadingZeros : Nat → Nat → Nat → Nat
  | 0, _, _ => 0
  | fuel + 1, num, den => if num * 10 < den then leadingZeros fuel (num * 10) den + 1 else 0

-- The least power of ten above the value, for a value other than zero.
def magnitude (b : Binary) : Int :=
  let (num, den) := b.ratio
  if den ≤ num then (decimalDigits (num / den)).length else -(leadingZeros 400 num den : Int)

-- The number nearest to the value among those with the given count of digits, if it reads back; of
-- two numbers equally near it is the greater one.
def rounded? (b : Binary) (count : Nat) : Option (Nat × Int) :=
  let (num, den) := b.ratio
  let unit : Int := b.magnitude - count
  let scaledNum := num * Nat.pow 10 (-unit).toNat
  let scaledDen := den * Nat.pow 10 unit.toNat
  let low := scaledNum / scaledDen
  let up := decide (scaledDen ≤ 2 * (scaledNum - low * scaledDen))
  match b.isNearest low unit, b.isNearest (low + 1) unit with
  | true, true => some (if up then low + 1 else low, unit)
  | true, false => some (low, unit)
  | false, true => some (low + 1, unit)
  | false, false => none

-- The fewest digits that read back; seventeen always do.
def shortest (b : Binary) : Nat × Int :=
  ((List.range 17).findSome? fun n => b.rounded? (n + 1)).getD
    ((b.mantissa <<< b.exponent.toNat) * Nat.pow 5 (-b.exponent).toNat, min b.exponent 0)

end Binary

-- The number `digits * 10 ^ exponent` with a point where it needs one.
def positional (digits : Nat) (exponent : Int) : List Char :=
  let shown := decimalDigits digits
  if 0 ≤ exponent then shown ++ List.replicate exponent.toNat '0'
  else
    let places := exponent.natAbs
    let padded := List.replicate (places + 1 - shown.length) '0' ++ shown
    let whole := padded.take (padded.length - places)
    let fraction := ((padded.drop (padded.length - places)).reverse.dropWhile (· == '0')).reverse
    if fraction.isEmpty then whole else whole ++ '.' :: fraction

-- The fewest digits that read back to the double, always without an exponent.
def floatText (x : Float) : String :=
  if x.isNaN then "NaN"
  else
    let bits := x.toBits
    let sign := if bits >>> 63 = 1 then ['-'] else []
    let size :=
      if x.isInf then "inf".toList
      else
        let b := Binary.ofBits bits
        if b.mantissa = 0 then ['0']
        else
          let (digits, exponent) := b.shortest
          positional digits exponent
    String.ofList (sign ++ size)

end JournalSelect.Text
