namespace JournalSelect.Yaml

structure Position where
  index : Nat
  line : Nat
  column : Nat
deriving Repr

namespace Position

def start : Position where
  index := 0
  line := 0
  column := 0

def rightBy (steps : Nat) (p : Position) : Position :=
  { p with index := p.index + steps, column := p.column + steps }

def right (p : Position) : Position :=
  p.rightBy 1

def down (p : Position) : Position :=
  ⟨p.index + 1, p.line + 1, 0⟩

end Position

end JournalSelect.Yaml
