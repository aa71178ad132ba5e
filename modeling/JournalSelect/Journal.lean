import JournalSelect.Predicate
import JournalSelect.Yaml.Classic.Document

namespace JournalSelect

open Yaml (Node)
open Yaml.Classic (Document Walk)

structure Journal where
  name : String
  tags : Tags

structure Catalog where
  journals : List Journal

namespace Journal

-- A journal needs a name, and has no tags unless it gives some.
def ofValue? (v : Value) : Option Journal :=
  match v.record? ["name", "tags"] with
  | some [some (.text name), none] => some ⟨name, .empty⟩
  | some [some (.text name), some tags] => (Tags.ofValue? tags).map (⟨name, ·⟩)
  | _ => none

def toValue (journal : Journal) : Value :=
  .map [(.text "name", .text journal.name), (.text "tags", journal.tags.toValue)]

end Journal

-- In a document, tags are whatever scalars are written there.
def Tags.ofNode (node : Node Nat) : Walk Tags := do
  let tags ← (← Walk.entries node).mapM fun (name, node) => do return (name, ← Walk.source node)
  return .ofList tags

def Journal.ofNode (node : Node Nat) : Walk Journal := do
  let entries ← Walk.entries node
  match ← Walk.field "name" entries, ← Walk.field "tags" entries with
  | none, _ => failure
  | some name, none => return ⟨← Walk.source name, .empty⟩
  | some name, some tags => return ⟨← Walk.source name, ← Tags.ofNode tags⟩

namespace Catalog

def empty : Catalog where
  journals := []

def add (catalog : Catalog) (journal : Journal) : Catalog where
  journals := catalog.journals ++ [journal]

-- The journals whose tags the predicate accepts, in the order of the catalog.
def select (catalog : Catalog) (p : Predicate) : List Journal :=
  catalog.journals.filter fun journal => p.accepts journal.tags

def ofValue? (v : Value) : Option Catalog :=
  match v.record? ["journals"] with
  | some [none] => some empty
  | some [some (.list items)] => (items.mapM Journal.ofValue?).map (⟨·⟩)
  | _ => none

def toValue (catalog : Catalog) : Value :=
  .map [(.text "journals", .list (catalog.journals.map Journal.toValue))]

def ofNode (node : Node Nat) : Walk Catalog := do
  match ← Walk.field "journals" (← Walk.entries node) with
  | none => return empty
  | some journals => return ⟨← (← Walk.items journals).mapM Journal.ofNode⟩

-- A text without a document is the empty catalog.
def read? (text : String) : Option Catalog :=
  match Document.read? text with
  | none => none
  | some none => some empty
  | some (some document) => (ofNode document.root).run? document

end Catalog

end JournalSelect
