/-
  `Document` — module files, and the trees they define.

  A module file holds a forest of items. The modules of a schema are merged below one root: their
  items become nodes in the order of the files, each item before the items inside it and those before
  the item that follows it. No item may be a root, and a leaf holds no items.
-/
import SchemaCatalog.Error
import SchemaCatalog.Json.Record
import SchemaCatalog.Source

namespace SchemaCatalog

/-- A node of a schema with all that it holds, as a module file defines it. -/
inductive Item where
  | mk (name : String) (kind : Kind) (typeName description : Option String) (keys : List String)
    (items : List Item)
deriving Repr, Inhabited

/-- A module file. -/
structure Document where
  module : String
  items : List Item
deriving Repr, Inhabited

namespace Item

def name : Item → String
  | mk name .. => name

def kind : Item → Kind
  | mk _ kind .. => kind

def typeName : Item → Option String
  | mk _ _ typeName .. => typeName

def description : Item → Option String
  | mk _ _ _ description .. => description

def keys : Item → List String
  | mk _ _ _ _ keys _ => keys

def items : Item → List Item
  | mk _ _ _ _ _ items => items

/-- The node of an item. -/
def node (i : Item) : Node :=
  { name := i.name, kind := i.kind, typeName := i.typeName, description := i.description,
    keys := i.keys }

/-- Items, for a codec of the items inside them. -/
def codecAround (inside : Json.Codec Item) : Json.Codec Item :=
  (Json.Codec.record "NodeDoc"
    [.required "name" .string,
     .required "kind" Kind.codec,
     .nullable "type" .string,
     .nullable "description" .string,
     .withDefault "keys" (.list .string) [],
     .withDefault "children" (.list inside) []]).imap
    (fun (name, kind, typeName, description, keys, items, _) =>
      mk name kind typeName description keys items)
    (fun i => (i.name, i.kind, i.typeName, i.description, i.keys, i.items, ()))

/-- Items of at most `levels` levels. Each level opens a brace and a bracket, so the limit on open
ones comes first if there are as many levels as that allows. -/
def codec : (levels : Nat) → Json.Codec Item
  | 0 =>
    { read := fun _ _ bytes => .error (Json.faultAtNext bytes .recursionLimit)
      accept := fun _ => .error .recursionLimit
      write := fun _ => .null }
  | levels + 1 => codecAround (codec levels)

mutual

/-- Adds an item, and all that it holds, below a node. -/
def insert (t : Tree) (parent : Nat) : Item → Except Error Tree
  | mk name kind typeName description keys items =>
    if kind = .root then .error (.build t.uniqueName (.rootDeclared name))
    else
      match t.addChild parent { name, kind, typeName, description, keys } with
      | .error flaw => .error (.build t.uniqueName (.tree flaw))
      | .ok (t, place) => insertAll t place items

/-- Adds items one after the other below a node. -/
def insertAll (t : Tree) (parent : Nat) : List Item → Except Error Tree
  | [] => .ok t
  | i :: rest =>
    match insert t parent i with
    | .error e => .error e
    | .ok t => insertAll t parent rest

end

end Item

namespace Document

/-- A module file is an object of its name and its items. -/
def codec : Json.Codec Document :=
  (Json.Codec.record "ModuleDoc"
    [.required "module" .string,
     .withDefault "children" (.list (Item.codec Json.maxDepth)) []]).imap
    (fun (module, items, _) => ⟨module, items⟩)
    (fun d => (d.module, d.items, ()))

/-- The module in a file, for the schema stored under `key`. -/
def read (files : Files) (key path : String) : Except Error Document :=
  match files.readText path with
  | .error e => .error (.build key (.unreadable path e))
  | .ok text =>
    match codec.parse text with
    | .error e => .error (.build key (.unparsable path e))
    | .ok document => .ok document

/-- Reads the modules in files and adds their items below the root, file by file. -/
def mergeFiles (files : Files) (key : String) : Tree → List String → Except Error Tree
  | t, [] => .ok t
  | t, path :: rest =>
    match read files key path with
    | .error e => .error e
    | .ok document =>
      match Item.insertAll t Tree.root document.items with
      | .error e => .error e
      | .ok t => mergeFiles files key t rest

end Document

/-- The tree of a configured schema. -/
def Source.parse (files : Files) (s : Source) : Except Error Tree :=
  Document.mergeFiles files s.identity.key (.new s.identity.key) s.files

end SchemaCatalog
