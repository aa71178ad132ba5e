import JournalSelect.Yaml.Classic.Scanner
import JournalSelect.Yaml.Node

namespace JournalSelect.Yaml

mutual

-- A node and all that is inside it, from the outside in and in the order of the text.
def Node.parts (node : Node α) : List (Node α) :=
  match node with
  | .scalar .. => [node]
  | .alias _ => [node]
  | .sequence items => node :: itemParts items
  | .mapping entries => node :: entryParts entries
  | .tagged _ content => node :: content.parts
  | .anchored _ content => node :: content.parts

def itemParts : List (Node α) → List (Node α)
  | [] => []
  | node :: nodes => node.parts ++ itemParts nodes

def entryParts : List (Node α × Node α) → List (Node α)
  | [] => []
  | (key, value) :: entries => key.parts ++ value.parts ++ entryParts entries

end

namespace Classic

-- The numbers of anchors, by their names.
abbrev Names := List (String × Nat)

-- The number of an anchor is the count of the different names before it. A name that is given again thereby
-- shares its number with the next new one.
def Names.add (name : String) (names : Names) : Names :=
  (name, names.length) :: names.filter (·.1 != name)

mutual

-- A tree with numbers for names. An alias means the last anchor of its name before it.
def numbered? : Node String → Names → Option (Node Nat × Names)
  | .scalar style text, names => some (.scalar style text, names)
  | .sequence items, names =>
    (numberedItems? items names).map fun (items, names) => (.sequence items, names)
  | .mapping entries, names =>
    (numberedEntries? entries names).map fun (entries, names) => (.mapping entries, names)
  | .tagged tag content, names =>
    (numbered? content names).map fun (content, names) => (.tagged tag content, names)
  | .anchored name content, names =>
    (numbered? content (names.add name)).map fun (content, later) =>
      (.anchored names.length content, later)
  | .alias name, names => (names.lookup name).map fun anchor => (.alias anchor, names)

def numberedItems? : List (Node String) → Names → Option (List (Node Nat) × Names)
  | [], names => some ([], names)
  | node :: nodes, names => do
    let (item, names) ← numbered? node names
    let (items, names) ← numberedItems? nodes names
    return (item :: items, names)

def numberedEntries? : List (Node String × Node String) → Names →
    Option (List (Node Nat × Node Nat) × Names)
  | [], names => some ([], names)
  | (key, value) :: entries, names => do
    let (key, names) ← numbered? key names
    let (value, names) ← numbered? value names
    let (entries, names) ← numberedEntries? entries names
    return ((key, value) :: entries, names)

end

-- What a node counts for in the size of a document: a collection has a start and an end.
def weight : Node α → Nat
  | .scalar .. => 1
  | .alias _ => 1
  | .sequence _ => 2
  | .mapping _ => 2
  | .tagged .. => 0
  | .anchored .. => 0

-- The last anchors come first among the targets.
structure Document where
  root : Node Nat
  targets : List (Nat × Node Nat)
  maxSteps : Nat

def anchor? : Node α → Option (α × Node α)
  | .anchored anchor content => some (anchor, content)
  | _ => none

def Document.ofNode? (node : Node String) : Option Document :=
  (numbered? node []).map fun (root, _) =>
    ⟨root, (root.parts.filterMap anchor?).reverse, 100 * root.parts.foldr (weight · + ·) 0⟩

-- The only document of a text, or nothing if there is none.
def Document.read? (text : String) : Option (Option Document) := do
  match ← ofTokens? .classic (← tokens? (← Edition.classic.characters? text)) with
  | none => return none
  | some node => return some (← ofNode? node)

-- A computation over a document that may follow as many aliases as its state says.
abbrev Walk := ReaderT Document (StateT Nat Option)

namespace Walk

def run? (walk : Walk α) (document : Document) : Option α :=
  (walk document).run' document.maxSteps

def follow (anchor : Nat) : Walk (Node Nat) := do
  match ← get, (← read).targets.lookup anchor with
  | steps + 1, some target =>
    set steps
    return target
  | _, _ => failure

-- What stands at a node, without an anchor: its tag, and a scalar or a collection.
def content (node : Node Nat) : Walk (Option Tag × Node Nat) := do
  let node ← match node with
    | .alias anchor => follow anchor
    | .anchored _ content => pure content
    | node => pure node
  match node with
  | .tagged tag content => return (some tag, content)
  | node => return (none, node)

-- The characters of a scalar, whatever they stand for.
def source (node : Node Nat) : Walk String := do
  match (← content node).2 with
  | .scalar _ text => return text
  | _ => failure

-- A place left empty is an empty list or an empty mapping.
def items (node : Node Nat) : Walk (List (Node Nat)) := do
  match (← content node).2 with
  | .sequence items => return items
  | .scalar .plain "" => return []
  | _ => failure

-- Entries are named by scalars.
def entries (node : Node Nat) : Walk (List (String × Node Nat)) := do
  match (← content node).2 with
  | .mapping entries => entries.mapM fun (key, value) => do return (← source key, value)
  | .scalar .plain "" => return []
  | _ => failure

-- The entry with a name, if there is one; there may not be two.
def field (name : String) (entries : List (String × Node Nat)) : Walk (Option (Node Nat)) :=
  match entries.filter (·.1 = name) with
  | [] => return none
  | [(_, node)] => return some node
  | _ => failure

end Walk

end Classic

end JournalSelect.Yaml
