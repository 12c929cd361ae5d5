/-
  `Element` — what a caller sees of a schema node.

  An element names a node by its data path and lists the names of the nodes that the data shows right
  below it. As long as it stays beside its tree it knows the place of its node; that is not written.
-/
import SchemaCatalog.Json.Record
import SchemaCatalog.Tree

namespace SchemaCatalog

/-- The description of one schema node. -/
structure Element where
  name : String
  path : DataPath
  kind : Kind
  typeName : Option String
  description : Option String
  keys : List String
  children : List String
  childrenCount : Nat
  /-- The place of the node in its tree. -/
  node : Option Nat
deriving DecidableEq, Repr, Inhabited

namespace Element

/-- The element of the node at a place of a tree, under a path. -/
def ofNode (t : Tree) (place : Nat) (node : Node) (path : DataPath) : Element :=
  let children := t.names (t.visible node)
  { name := node.name
    path
    kind := node.kind
    typeName := node.typeName
    description := node.description
    keys := node.keys
    children
    childrenCount := children.length
    node := some place }

/-- The element without the place of its node. -/
def forgetNode (e : Element) : Element := { e with node := none }

/-- Lists without items, and what is not there, are left out, the children excepted. -/
def codec : Json.Codec Element :=
  (Json.Codec.record "SchemaElement"
    [.required "name" .string,
     .required "path" DataPath.codec,
     .required "kind" Kind.codec,
     .omissible "type" .string,
     .omissible "description" .string,
     ⟨"keys", .list .string, .always [], List.isEmpty⟩,
     .withDefault "children" (.list .string) [],
     .required "children_count" .size]).imap
    (fun (name, path, kind, typeName, description, keys, children, childrenCount, _) =>
      ⟨name, path, kind, typeName, description, keys, children, childrenCount, none⟩)
    (fun e => (e.name, e.path, e.kind, e.typeName, e.description, e.keys, e.children,
      e.childrenCount, ()))

end Element

end SchemaCatalog
