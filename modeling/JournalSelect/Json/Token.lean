import JournalSelect.Text.Decimal
import JournalSelect.Value

namespace JournalSelect.Json

open Text

inductive Token where
  | openMap
  | closeMap
  | openList
  | closeList
  | comma
  | colon
  | scalar (v : Value)

def isBlank (c : Char) : Bool :=
  c = ' ' || c = '\t' || c = '\n' || c = '\r'

def punctuation? : Char → Option Token
  | '\x7b' => some .openMap
  | '\x7d' => some .closeMap
  | '[' => some .openList
  | ']' => some .closeList
  | ',' => some .comma
  | ':' => some .colon
  | _ => none

-- A scalar other than a text extends up to a blank, a mark or a quote.
def isWordChar (c : Char) : Bool :=
  !isBlank c && (punctuation? c).isNone && c != '"'

def unescape? : Char → Option Char
  | '"' => some '"'
  | '\\' => some '\\'
  | '/' => some '/'
  | 'b' => some '\x08'
  | 'f' => some '\x0c'
  | 'n' => some '\n'
  | 'r' => some '\r'
  | 't' => some '\t'
  | _ => none

def isHighSurrogate (n : Nat) : Bool :=
  0xD800 ≤ n && n < 0xDC00

def isLowSurrogate (n : Nat) : Bool :=
  0xDC00 ≤ n && n < 0xE000

-- A text up to its closing quote, and what follows the quote. Controls must be escaped, and a character
-- beyond the first plane is escaped as a pair of surrogates.
def text? : List Char → Option (List Char × List Char)
  | [] => none
  | '"' :: rest => some ([], rest)
  | '\\' :: 'u' :: a :: b :: c :: d :: rest =>
    match natural? 16 [a, b, c, d] with
    | none => none
    | some unit =>
      if isHighSurrogate unit then
        match rest with
        | '\\' :: 'u' :: e :: f :: g :: h :: rest =>
          match natural? 16 [e, f, g, h] with
          | none => none
          | some low =>
            if isLowSurrogate low then
              let code := 0x10000 + (unit - 0xD800) * 0x400 + (low - 0xDC00)
              (text? rest).map fun (s, rest) => (Char.ofNat code :: s, rest)
            else none
        | _ => none
      else if isLowSurrogate unit then none
      else (text? rest).map fun (s, rest) => (Char.ofNat unit :: s, rest)
  | '\\' :: letter :: rest =>
    match unescape? letter with
    | none => none
    | some c => (text? rest).map fun (s, rest) => (c :: s, rest)
  | c :: rest =>
    if c.toNat < 0x20 || c = '\\' then none
    else (text? rest).map fun (s, rest) => (c :: s, rest)

theorem length_lt_of_text? {cs s rest} (h : text? cs = some (s, rest)) : rest.length < cs.length := by
  fun_induction text? cs generalizing s rest <;> simp_all <;> grind

-- The number that the leading digits make as long as it fits 64 bits, and how many digits are left.
def significand : Nat → List Char → Nat × Nat
  | n, [] => (n, 0)
  | n, c :: cs =>
    let next := n * 10 + (digit? 10 c).getD 0
    if next < 1 <<< 64 then significand next cs else (n, cs.length + 1)

def tenTo (e : Nat) : Float :=
  Float.ofScientific 1 false e

-- Division by a power of ten that may be greater than every double. After two rounds nothing is left of
-- any 64-bit number.
def scaledDown : Nat → Float → Nat → Float
  | 0, _, _ => 0
  | rounds + 1, x, e => if e ≤ 308 then x / tenTo e else scaledDown rounds (x / tenTo 308) (e - 308)

-- `x * 10 ^ e` as one product or quotient of doubles, unless it is beyond the range of doubles.
def scaled? (x : Float) (e : Int) : Option Float :=
  if e < 0 then some (scaledDown 3 x e.natAbs)
  else if x == 0 then some x
  else if 308 < e then none
  else
    let product := x * tenTo e.natAbs
    if product.isInf then none else some product

def real? (negative : Bool) (whole fraction : List Char) (e : Int) : Option Value :=
  let (n, dropped) := significand 0 (whole ++ fraction)
  let kept := whole.length + fraction.length - dropped
  let shift := ((whole.length - kept : Nat) : Int) - ((kept - whole.length : Nat) : Int)
  (scaled? (Float.ofNat n) (shift + e)).map fun x => .real (if negative then -x else x)

def integer? (negative : Bool) (whole : List Char) : Option Value :=
  match natural? 10 whole with
  | none => none
  | some n =>
    if negative then
      if n = 0 then some (.real (-0.0))
      else if n ≤ 1 <<< 63 then some (.int (-n))
      else real? true whole [] 0
    else if n < 1 <<< 64 then some (.int n)
    else real? false whole [] 0

-- A number without a fraction or an exponent is an integer as long as it fits 64 bits. All others are
-- doubles.
def unsignedNumber? (negative : Bool) (cs : List Char) : Option Value :=
  let whole := cs.takeWhile Char.isDigit
  let rest := cs.dropWhile Char.isDigit
  if whole.isEmpty || (whole.head? = some '0' && whole.length ≠ 1) then none
  else match rest with
    | [] => integer? negative whole
    | '.' :: tail =>
      let fraction := tail.takeWhile Char.isDigit
      if fraction.isEmpty then none
      else (Decimal.exponentPart? (tail.dropWhile Char.isDigit)).bind (real? negative whole fraction)
    | _ => (Decimal.exponentPart? rest).bind (real? negative whole [])

def number? : List Char → Option Value
  | '-' :: cs => unsignedNumber? true cs
  | cs => unsignedNumber? false cs

def word? (cs : List Char) : Option Value :=
  if cs = "null".toList then some .null
  else if cs = "true".toList then some (.bool true)
  else if cs = "false".toList then some (.bool false)
  else number? cs

def tokens? : List Char → Option (List Token)
  | [] => some []
  | c :: cs =>
    if isBlank c then tokens? cs
    else match punctuation? c with
      | some mark => (tokens? cs).map (mark :: ·)
      | none =>
        if c = '"' then
          match h : text? cs with
          | none => none
          | some (s, rest) =>
            have := length_lt_of_text? h
            (tokens? rest).map (.scalar (.text (String.ofList s)) :: ·)
        else
          match word? (c :: cs.takeWhile isWordChar) with
          | none => none
          | some v =>
            have := (cs.dropWhile_suffix isWordChar).length_le
            (tokens? (cs.dropWhile isWordChar)).map (.scalar v :: ·)
termination_by cs => cs.length
decreasing_by all_goals simp; try omega

end JournalSelect.Json
