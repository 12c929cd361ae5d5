/-
  `Details` — a schema in numbers: its nodes and elements, and the paths of a single segment.
-/
import SchemaCatalog.Catalog

namespace SchemaCatalog

/-- What is told about a schema as a whole. -/
structure Details where
  identity : Identity
  nodeCount : Nat
  elementCount : Nat
  rootChildren : List String
deriving DecidableEq, Repr, Inhabited

namespace Details

/-- The details of an entry; its paths of one segment are in ascending order. -/
def ofEntry (entry : Entry) : Details :=
  { identity := entry.identity
    nodeCount := entry.tree.size
    elementCount := entry.index.size
    rootChildren :=
      (entry.index.paths.filter fun p => p.segments.length = 1).map DataPath.text }

def codec : Json.Codec Details :=
  (Json.Codec.record "SchemaDetails"
    [.required "identity" Identity.codec, .required "node_count" .size,
     .required "element_count" .size, .required "root_children" (.list .string)]).imap
    (fun (identity, nodeCount, elementCount, rootChildren, _) =>
      ⟨identity, nodeCount, elementCount, rootChildren⟩)
    (fun d => (d.identity, d.nodeCount, d.elementCount, d.rootChildren, ()))

end Details

end SchemaCatalog
