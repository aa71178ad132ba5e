import JournalSelect.Predicate

namespace JournalSelect

def listed (parts : List String) : String :=
  ", ".intercalate parts

def bracketed (parts : List String) : String :=
  "[" ++ listed parts ++ "]"

def applied (name : String) (parts : List String) : String :=
  name ++ "(" ++ listed parts ++ ")"

def record (name : String) (fields : List (String × String)) : String :=
  name ++ " \x7b " ++ listed (fields.map fun (field, value) => field ++ ": " ++ value) ++ " \x7d"

def inspectBool (b : Bool) : String :=
  if b then "true" else "false"

namespace Glob

def inspectRange (range : Char × Char) : String :=
  applied "" [Text.quotedChar range.1, Text.quotedChar range.2]

def Token.inspect : Token → String
  | .literal c => applied "Literal" [Text.quotedChar c]
  | .anyChar => "AnyChar"
  | .charClass negated ranges =>
    record "Class" [("negated", inspectBool negated), ("ranges", bracketed (ranges.map inspectRange))]

def Chunk.inspect (chunk : Chunk) : String :=
  record "Chunk" [
    ("star", inspectBool chunk.star),
    ("tokens", bracketed (chunk.tokens.map Token.inspect))]

def Pattern.inspect (p : Pattern) : String :=
  record "GlobPattern" [("chunks", bracketed (p.chunks.map Chunk.inspect))]

end Glob

def Comparison.inspect : Comparison → String
  | eq => "Eq"
  | ne => "Ne"
  | lt => "Lt"
  | le => "Le"
  | gt => "Gt"
  | ge => "Ge"

def inspectTest (name tag value : String) : String :=
  record name [("tag", Text.quoted tag), ("value", Text.quoted value)]

-- The structure of a predicate on one line, down to the tokens of its patterns.
def Predicate.inspect : Predicate → String
  | const b => applied "Const" [inspectBool b]
  | and left right => applied "And" [left.inspect, right.inspect]
  | or left right => applied "Or" [left.inspect, right.inspect]
  | not inner => applied "Not" [inner.inspect]
  | compare tag op value =>
    record "Compare" [("tag", Text.quoted tag), ("op", op.inspect), ("value", Text.quoted value)]
  | like tag pattern => record "Like" [("tag", Text.quoted tag), ("pattern", pattern.inspect)]
  | contains tag value => inspectTest "Contains" tag value
  | startsWith tag value => inspectTest "HasPrefix" tag value
  | endsWith tag value => inspectTest "HasSuffix" tag value
  | check _ => applied "Func" ["TagsFn"]

end JournalSelect
