/-
  `Method` — the calls that look schemas up, and the envelopes of their results.

  Each result stands under a key of its own in an object, so that an answer can grow. A list that is
  missing is an empty one.
-/
import SchemaCatalog.Json.Value

namespace SchemaCatalog.Rpc

open Json (Value)

/-- The calls that look schemas up. -/
inductive Method where
  | getElement
  | listSchemas
  | getDetails
  | expandPath
deriving DecidableEq, Repr, Inhabited

namespace Method

def all : List Method := [getElement, listSchemas, getDetails, expandPath]

/-- The name of a call in requests. -/
def name : Method → String
  | getElement => "get_schema_element"
  | listSchemas => "list_schemas"
  | getDetails => "get_schema_details"
  | expandPath => "expand_path"

/-- The call with a name. -/
def ofName? (name : String) : Option Method := all.find? fun m => m.name == name

/-- The key under which the result of a call stands. -/
def key : Method → String
  | getElement => "element"
  | listSchemas => "schemas"
  | getDetails => "schema"
  | expandPath => "paths"

/-- Whether the result of a call is a list. -/
def isList : Method → Bool
  | listSchemas | expandPath => true
  | _ => false

/-- The result of a call in its envelope. -/
def wrap (m : Method) (result : Value) : Value :=
  .object [(m.key, if m.isList && result.isNull then .array [] else result)]

/-- Every call is found by its name. -/
theorem ofName?_name (m : Method) : ofName? m.name = some m := by cases m <;> rfl

end Method

/-- The result of the call `name` in its envelope; results of other calls have none. -/
def wrapResult (name : String) (result : Value) : Value :=
  match Method.ofName? name with
  | some m => m.wrap result
  | none => result

/-- The key under which the result of the call `name` stands. -/
def resultKey (name : String) : Option String := (Method.ofName? name).map Method.key

end SchemaCatalog.Rpc
