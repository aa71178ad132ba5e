import JournalSelect.Filter.Encoding
import JournalSelect.Yaml.Classic.Typed

namespace JournalSelect

open Yaml (Node)
open Yaml.Classic (Document Walk)

-- How deep collections may be nested inside a term: a document has room for 128 levels, and a term of its
-- outermost filter stands on the fifth.
def Term.room : Nat := 123

-- What a term holds is read as a value. A word for the negation counts whatever type it says it has.
def Term.ofNode (node : Node Nat) : Walk Term := do
  let values ← (← Walk.entries node).mapM fun (name, node) => do
    let v ← if name = "not" then .bool <$> Walk.bool node else Walk.value room node
    return (Value.text name, v)
  Walk.ofOption (ofValue? (.map values))

def Conjunction.ofNode (node : Node Nat) : Walk Conjunction := do
  match ← Walk.field "and" (← Walk.entries node) with
  | none => return []
  | some terms => (← Walk.items terms).mapM Term.ofNode

def Filter.ofNode (node : Node Nat) : Walk Filter := do
  match ← Walk.field "or" (← Walk.entries node) with
  | none => return []
  | some alternatives => (← Walk.items alternatives).mapM Conjunction.ofNode

-- A text without a document is the filter without alternatives.
def Filter.read? (text : String) : Option Filter :=
  match Document.read? text with
  | none => none
  | some none => some []
  | some (some document) => (ofNode document.root).run? document

end JournalSelect
