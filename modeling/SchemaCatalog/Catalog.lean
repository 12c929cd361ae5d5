/-
  `Catalog` — the schemas that can be looked up.

  A catalog stores entries, a tree and its index each, under the keys of their identities. `put`
  refuses identities that `Identity.check` refuses, so every stored key has one identity. A new entry
  takes the place of the one it replaces as a whole. `load` builds a catalog from sources: either all of
  them are there or none.
-/
import SchemaCatalog.Document
import SchemaCatalog.Index

namespace SchemaCatalog

/-- A schema that can be looked up. -/
structure Entry where
  identity : Identity
  tree : Tree
  index : Index

namespace Entry

/-- The entry of a tree, with the index made from it. -/
def build (identity : Identity) (tree : Tree) : Except Error Entry :=
  (Index.build tree).map fun index => ⟨identity, tree, index⟩

/-- The element at a path. -/
def element (entry : Entry) (path : String) : Except Error Element :=
  match entry.index.get? path with
  | some e => .ok e
  | none => .error (.pathNotFound entry.identity.key path)

end Entry

/-- Entries under the keys of their identities. -/
structure Catalog where
  entries : Std.TreeMap String Entry := ∅

namespace Catalog

/-- The catalog without entries. -/
def empty : Catalog := {}

def size (c : Catalog) : Nat := c.entries.size

def isEmpty (c : Catalog) : Bool := c.entries.isEmpty

/-- Stores an entry, in place of the one of its identity. -/
def put (c : Catalog) (entry : Entry) : Except Error Catalog :=
  match entry.identity.check with
  | .error flaw => .error (.config (.identity flaw))
  | .ok () => .ok ⟨c.entries.insert entry.identity.key entry⟩

/-- Takes the entry of an identity out; says whether there was one. -/
def remove (c : Catalog) (id : Identity) : Catalog × Bool :=
  (⟨c.entries.erase id.key⟩, c.entries.contains id.key)

/-- The entry of an identity. -/
def get (c : Catalog) (id : Identity) : Except Error Entry :=
  match c.entries[id.key]? with
  | some entry => .ok entry
  | none => .error (.schemaNotFound id.key)

/-- The element at a path of the schema of an identity. -/
def getElement (c : Catalog) (id : Identity) (path : String) : Except Error Element := do
  (← c.get id).element path

/-- The identities of all entries, in ascending order. -/
def list (c : Catalog) : List Identity :=
  (c.entries.values.map Entry.identity).mergeSort fun a b => (compare a b).isLE

/-! ### Loading -/

/-- The entry of a source, whose tree `parse` gives. -/
def buildEntry (parse : Source → Except Error Tree) (s : Source) : Except Error Entry :=
  match s.identity.check with
  | .error flaw => .error (.config (.identity flaw))
  | .ok () => do Entry.build s.identity (← parse s)

/-- Stores an entry whose identity is new. -/
def putNew (c : Catalog) (entry : Entry) : Except Error Catalog :=
  if c.entries.contains entry.identity.key then
    .error (.config (.repeatedSchema entry.identity.key))
  else .ok ⟨c.entries.insert entry.identity.key entry⟩

/-- The catalog of all sources. Each of them is built before any is stored. -/
def load (parse : Source → Except Error Tree) (sources : List Source) : Except Error Catalog := do
  (← sources.mapM (buildEntry parse)).foldlM putNew empty

end Catalog

end SchemaCatalog
