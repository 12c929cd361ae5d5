/-
  `Tree` — schemas as trees of nodes.

  A tree keeps its nodes in one array and links them by their places in it: a node has the place of
  its parent, and the places of its children in order. A new tree has its root only. `addChild` adds a
  node below another one, `addDetached` one without a parent; either way the links of the node given
  are replaced.

  `pathOf` follows the parents of a node upward and gives the data path of the node. `visible` follows
  the children downward and gives the nodes that a data path shows right below a node. Both have as
  many steps as there are nodes.
-/
import SchemaCatalog.DataPath
import SchemaCatalog.Kind
import SchemaCatalog.Text.Quoted

namespace SchemaCatalog

/-- A node of a schema. -/
structure Node where
  name : String
  kind : Kind
  /-- The type of a leaf. -/
  typeName : Option String := none
  description : Option String := none
  /-- The names of the leaves that tell the entries of a list apart. -/
  keys : List String := []
  parent : Option Nat := none
  children : Array Nat := #[]
deriving DecidableEq, Repr, Inhabited

/-- A schema: its unique name and its nodes. -/
structure Tree where
  uniqueName : String
  nodes : Array Node
deriving DecidableEq, Repr, Inhabited

namespace Tree

/-- Why a node cannot be added, or has no path. -/
inductive Flaw where
  | missingParent (place : Nat)
  | terminalParent (kind : Kind) (parent child : String)
  | secondRoot (name : String)
  | danglingParent (name : String) (place : Nat)
  | parentCycle (name : String)
deriving DecidableEq, Repr

/-- The wording of a flaw. -/
def Flaw.message : Flaw → String
  | missingParent place => "parent node " ++ toString place ++ " does not exist"
  | terminalParent kind parent child =>
    kind.name ++ " " ++ Text.quoted parent ++ " cannot have child " ++ Text.quoted child
  | secondRoot name => "node " ++ Text.quoted name ++ " cannot be a second root"
  | danglingParent name place =>
    "node " ++ Text.quoted name ++ " references missing parent " ++ toString place
  | parentCycle name => "parent cycle reached from node " ++ Text.quoted name

/-- The name of every root. -/
def rootName : String := "root"

/-- The place of the root. -/
def root : Nat := 0

/-- A tree of its root only. -/
def new (uniqueName : String) : Tree := ⟨uniqueName, #[⟨rootName, .root, none, none, [], none, #[]⟩]⟩

/-- How many nodes a tree has. -/
def size (t : Tree) : Nat := t.nodes.size

/-- The node at a place. -/
def node? (t : Tree) (place : Nat) : Option Node := t.nodes[place]?

/-- Adds a node as the last child of the one at `parent`; gives its place. -/
def addChild (t : Tree) (parent : Nat) (node : Node) : Except Flaw (Tree × Nat) :=
  match t.node? parent with
  | none => .error (.missingParent parent)
  | some above =>
    if above.kind.isTerminal then .error (.terminalParent above.kind above.name node.name)
    else if node.kind = .root then .error (.secondRoot node.name)
    else
      let place := t.size
      let linked := t.nodes.modify parent fun n => { n with children := n.children.push place }
      .ok (⟨t.uniqueName, linked.push { node with parent := some parent, children := #[] }⟩, place)

/-- Adds a node that has no parent; gives its place. -/
def addDetached (t : Tree) (node : Node) : Tree × Nat :=
  (⟨t.uniqueName, t.nodes.push { node with parent := none, children := #[] }⟩, t.size)

/-! ### Paths -/

/-- Goes from a node up to the top. `below` are the segments gathered so far, outermost first: the
names of the nodes passed that are no wrappers. They make the path if the top is a root; otherwise
the outermost one stands for an enclosing module and is dropped. -/
def climb (t : Tree) (start : String) : (steps : Nat) → Node → (below : List String) →
    Except Flaw DataPath
  | 0, _, _ => .error (.parentCycle start)
  | steps + 1, node, below =>
    if node.kind = .root then .ok (.join below)
    else
      let segments := if node.kind.isWrapper then below else node.name :: below
      match node.parent with
      | none => .ok (.join segments.tail)
      | some place =>
        match t.node? place with
        | none => .error (.danglingParent node.name place)
        | some above => climb t start steps above segments

/-- The data path of a node of the tree. -/
def pathOf (t : Tree) (node : Node) : Except Flaw DataPath := t.climb node.name t.size node []

/-! ### Children that data shows -/

/-- Works off the places `pending`, first one first: a wrapper is replaced by its own children, any
other node is one of the answer. -/
def expand (t : Tree) : (steps : Nat) → (pending : List Nat) → List Nat
  | 0, _ => []
  | _, [] => []
  | steps + 1, place :: pending =>
    match t.node? place with
    | none => expand t steps pending
    | some node =>
      if node.kind.isWrapper then expand t steps (node.children.toList ++ pending)
      else place :: expand t steps pending

/-- The places of the nodes right below a node once its wrappers are replaced by what they hold. -/
def visible (t : Tree) (node : Node) : List Nat := t.expand t.size node.children.toList

/-- The names of the nodes at `places`. -/
def names (t : Tree) (places : List Nat) : List String :=
  places.filterMap fun place => (t.node? place).map Node.name

end Tree

end SchemaCatalog
