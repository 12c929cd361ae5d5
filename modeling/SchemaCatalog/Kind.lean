/-
  `Kind` — the structural kinds of schema nodes.

  A choice and its cases group alternatives and never appear in a data path: they are wrappers. A
  leaf and a leaf list have no children: they are terminal.
-/
import SchemaCatalog.Json.Variant

namespace SchemaCatalog

/-- What a schema node is. -/
inductive Kind where
  | root
  | container
  | list
  | leaf
  | leafList
  | choice
  | case
deriving DecidableEq, Repr, Inhabited

namespace Kind

/-- Every kind, in the order messages list them. -/
def all : List Kind := [root, container, list, leaf, leafList, choice, case]

/-- The name of a kind in documents. -/
def name : Kind → String
  | root => "root"
  | container => "container"
  | list => "list"
  | leaf => "leaf"
  | leafList => "leaf-list"
  | choice => "choice"
  | case => "case"

/-- The name of a kind with a capital letter for each of its words. -/
def title : Kind → String
  | root => "Root"
  | container => "Container"
  | list => "List"
  | leaf => "Leaf"
  | leafList => "LeafList"
  | choice => "Choice"
  | case => "Case"

/-- Whether nodes of this kind are left out of data paths. -/
def isWrapper : Kind → Bool
  | choice | case => true
  | _ => false

/-- Whether nodes of this kind have no children. -/
def isTerminal : Kind → Bool
  | leaf | leafList => true
  | _ => false

theorem isTerminal_iff (k : Kind) : k.isTerminal = true ↔ k = leaf ∨ k = leafList := by
  cases k <;> simp [isTerminal]

/-- A kind is written as its name. -/
def codec : Json.Codec Kind := .variant (all.map fun k => (k.name, k)) name

/-- Every kind is read back from its name. -/
theorem chooseVariant_name (k : Kind) :
    Json.Codec.chooseVariant (all.map fun k => (k.name, k)) k.name = .ok k := by
  cases k <;> rfl

end Kind

end SchemaCatalog
