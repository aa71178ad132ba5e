import JournalSelect.Yaml.Classic.Document
import JournalSelect.Yaml.Plain

namespace JournalSelect.Yaml

namespace Tag

-- Whether a scalar says by its tag that it is of a type.
def isCore (tag : Tag) (type : String) : Bool :=
  tag.text = coreStart ++ type

-- Whether a tag belongs to its document alone.
def isLocal (tag : Tag) : Bool :=
  tag.text.toList.head? = some '!'

-- Whether the octets of a tag are a text.
def isText (tag : Tag) : Bool :=
  (String.fromUTF8? ⟨(tag.text.toList.map (·.toNat.toUInt8)).toArray⟩).isSome

end Tag

namespace Classic

-- The value of a scalar. It is of the type that its tag says, or else a text unless it is plain.
def scalar? (tag : Option Tag) (style : ScalarStyle) (s : String) : Option Value :=
  match tag with
  | none => if style = .plain then Plain.classic? s else some (.text s)
  | some tag =>
    if tag.isCore "bool" then (Plain.bool? s).map .bool
    else if tag.isCore "int" then (Plain.integer? s.toList).bind Plain.word?
    else if tag.isCore "float" then (Plain.number? s).map .real
    else if tag.isCore "null" then if Plain.nulls.contains s then some .null else none
    else if tag.isLocal && style = .plain then Plain.classic? s
    else some (.text s)

-- A truth value is plain, or says its type.
def bool? (tag : Option Tag) (style : ScalarStyle) (s : String) : Option Bool :=
  if style = .plain || (style = .literal && tag.any (·.isCore "bool")) then Plain.bool? s else none

namespace Walk

def ofOption (a : Option α) : Walk α :=
  match a with
  | some a => return a
  | none => failure

def bool (node : Node Nat) : Walk Bool := do
  match ← content node with
  | (tag, .scalar style s) => ofOption (bool? tag style s)
  | _ => failure

-- The value of a node, in which collections may be nested no deeper than the given room. What has a local
-- tag has none.
def value (room : Nat) (node : Node Nat) : Walk Value := do
  let (tag, node) ← content node
  if tag.any fun tag => tag.isLocal && tag.isText then failure
  match room, node with
  | _, .scalar style s => ofOption (scalar? tag style s)
  | room + 1, .sequence items => return .list (← items.mapM (value room))
  | room + 1, .mapping entries =>
    return .map (← entries.mapM fun (key, v) => do return (← value room key, ← value room v))
  | _, _ => failure

end Walk

end Classic

end JournalSelect.Yaml
