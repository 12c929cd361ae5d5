/-
  `Index` — the elements of a schema by their paths.

  `build` goes through the nodes of a tree in order and enters the element of each one that has a path
  of its own: wrappers have none, nor has a node whose path is empty. Two nodes of one path are an
  error. `get?` ignores outer slashes; `expand` lists the paths at and below another one.
-/
import SchemaCatalog.Element
import SchemaCatalog.Error
import Std.Data.TreeMap.Basic

namespace SchemaCatalog

/-- The elements of a schema, each under the text of its path. -/
structure Index where
  elements : Std.TreeMap String Element := ∅

namespace Index

/-- The index without elements. -/
def empty : Index := {}

/-- How many elements there are. -/
def size (index : Index) : Nat := index.elements.size

/-- Enters the node at a place of the tree. -/
def enter (t : Tree) (index : Index) (place : Nat) : Except Error Index :=
  match t.node? place with
  | none => .ok index
  | some node =>
    match t.pathOf node with
    | .error flaw => .error (.build t.uniqueName (.tree flaw))
    | .ok path =>
      if path.isEmpty || node.kind.isWrapper then .ok index
      else
        match index.elements[path.text]? with
        | some earlier =>
          .error (.build t.uniqueName (.duplicatePath path.text earlier.kind earlier.name))
        | none => .ok ⟨index.elements.insert path.text (.ofNode t place node path)⟩

/-- The index of a tree. -/
def build (t : Tree) : Except Error Index := (List.range t.size).foldlM (enter t) empty

/-- The element at a path. -/
def get? (index : Index) (path : String) : Option Element := index.elements[DataPath.trim path]?

/-- All paths, in ascending order. -/
def paths (index : Index) : List DataPath := index.elements.keys.map DataPath.mk

/-- The paths at and below `lead`, in ascending order. -/
def expand (index : Index) (lead : String) : List DataPath :=
  index.paths.filter fun p => p.startsWith lead

end Index

end SchemaCatalog
