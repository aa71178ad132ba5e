import JournalSelect.Yaml.Edition
import JournalSelect.Yaml.Position

namespace JournalSelect.Yaml

-- The text of a scalar, and where reading it came to.
structure Reading where
  text : List Char
  rest : List Char
  position : Position

-- What separates two words of a scalar: blanks within a line, last first; or a line break and further
-- line breaks, last first. An escaped line break leaves no first one.
inductive Gap where
  | blanks (cs : List Char)
  | breaks (first : List Char) (more : List Char)

namespace Gap

def none : Gap :=
  .blanks []

def isNone : Gap → Bool
  | .blanks [] => true
  | _ => false

def isBreak : Gap → Bool
  | .breaks .. => true
  | .blanks _ => false

def addBlank (c : Char) : Gap → Gap
  | .blanks cs => .blanks (c :: cs)
  | .breaks first more => .breaks first more

def addBreak (c : Char) : Gap → Gap
  | .blanks _ => .breaks [c] []
  | .breaks first more => .breaks first (c :: more)

-- A single line feed is a space, and the first of several is dropped.
def text : Gap → List Char
  | .blanks cs => cs.reverse
  | .breaks ['\n'] [] => [' ']
  | .breaks ['\n'] more => more.reverse
  | .breaks first more => first ++ more.reverse

end Gap

end JournalSelect.Yaml
