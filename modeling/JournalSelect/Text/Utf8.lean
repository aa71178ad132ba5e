namespace JournalSelect.Text.Utf8

-- A character of which some octets are still owed, with the bounds of the next one and the value of those
-- before it.
structure Pending where
  owed : Nat
  least : Nat
  greatest : Nat
  value : Nat

def replacement : Char :=
  '\ufffd'

-- The first octet of a character bounds the second one, so that each character has one form and none is
-- half of a surrogate pair.
def first (octet : Nat) : List Char × Option Pending :=
  if octet < 0x80 then ([Char.ofNat octet], none)
  else if 0xc2 ≤ octet && octet < 0xe0 then ([], some ⟨1, 0x80, 0xbf, octet % 32⟩)
  else if 0xe0 ≤ octet && octet < 0xf0 then
    let least := if octet = 0xe0 then 0xa0 else 0x80
    let greatest := if octet = 0xed then 0x9f else 0xbf
    ([], some ⟨2, least, greatest, octet % 16⟩)
  else if 0xf0 ≤ octet && octet < 0xf5 then
    let least := if octet = 0xf0 then 0x90 else 0x80
    let greatest := if octet = 0xf4 then 0x8f else 0xbf
    ([], some ⟨3, least, greatest, octet % 8⟩)
  else ([replacement], none)

-- What one more octet completes, and what is pending behind it.
def step (pending : Option Pending) (octet : Nat) : List Char × Option Pending :=
  match pending with
  | none => first octet
  | some p =>
    if p.least ≤ octet && octet ≤ p.greatest then
      let value := p.value * 64 + octet % 64
      if p.owed ≤ 1 then ([Char.ofNat value], none) else ([], some ⟨p.owed - 1, 0x80, 0xbf, value⟩)
    else
      let (cs, pending) := first octet
      (replacement :: cs, pending)

def decodeFrom (pending : Option Pending) : List UInt8 → List Char
  | [] => if pending.isSome then [replacement] else []
  | octet :: octets =>
    let (cs, pending) := step pending octet.toNat
    cs ++ decodeFrom pending octets

-- Octets that belong to no character give way to replacement characters, one for each beginning of a
-- character that goes no further.
def decode (octets : List UInt8) : List Char :=
  decodeFrom none octets

end JournalSelect.Text.Utf8
