/-
  `Cancellation` — tokens that end what hangs on them.

  Names are handles on tokens, and several may be on one token. A token may be made as the child of
  another one: it is then cancelled with that one, and at once if that one already is, but cancelling
  it leaves that one as it is. A token without a handle is gone; its children hang on its parent from
  then on.

  Work under a token may ask whether it is cancelled, check that it is not, or wait until it is.
-/
import SchemaCatalog.Error

namespace SchemaCatalog

/-- A token: the one it hangs on, by number, and whether it is cancelled. -/
structure Token where
  parent : Option Nat
  cancelled : Bool
deriving DecidableEq, Repr, Inhabited

/-- The tokens made so far, by number, and the handles on them. -/
structure Forest where
  tokens : List Token
  handles : List (String × Nat)
deriving DecidableEq, Repr, Inhabited

namespace Forest

/-- No token. -/
def empty : Forest := ⟨[], []⟩

/-- The number of the token that a handle is on. -/
def token? (f : Forest) (name : String) : Option Nat := f.handles.lookup name

/-- Whether the token at the end of `start` hangs on `token`, over at most `steps` others. -/
def hangsOn (f : Forest) (token : Nat) : (steps : Nat) → (start : Option Nat) → Bool
  | _, none => false
  | 0, some place => place == token
  | steps + 1, some place =>
    place == token || f.hangsOn token steps (f.tokens[place]?.bind Token.parent)

/-- Cancels a token and all that hangs on it. -/
def mark (f : Forest) (token : Nat) : Forest :=
  { f with
    tokens := f.tokens.mapIdx fun place t =>
      if f.hangsOn token f.tokens.length (some place) then { t with cancelled := true } else t }

/-- Hangs the children of a token without a handle on its parent. -/
def release (f : Forest) (token : Nat) : Forest :=
  if f.handles.any (·.2 == token) then f
  else
    { f with
      tokens := f.tokens.map fun t =>
        if t.parent = some token then { t with parent := f.tokens[token]?.bind Token.parent } else t }

/-- Takes a handle away. -/
def drop (f : Forest) (name : String) : Forest :=
  match f.token? name with
  | none => f
  | some token => { f with handles := f.handles.filter (·.1 != name) }.release token

/-- Puts a handle on a token, and takes it off the token it was on. -/
def bind (f : Forest) (name : String) (token : Nat) : Forest :=
  let others := f.handles.filter (·.1 != name)
  let bound : Forest := { f with handles := (name, token) :: others }
  match f.token? name with
  | none => bound
  | some earlier => bound.release earlier

/-- Makes a token and puts a handle on it. -/
def grow (f : Forest) (name : String) (token : Token) : Forest :=
  { f with tokens := f.tokens ++ [token] }.bind name f.tokens.length

/-- Whether a token is cancelled. -/
def isCancelled (f : Forest) (token : Nat) : Bool := (f.tokens[token]?.map Token.cancelled).getD false

/-- Stops work under a token that is cancelled. -/
def check (f : Forest) (token : Nat) : Except TransportProblem Unit :=
  if f.isCancelled token then .error .shuttingDown else .ok ()

/-- Whether waiting for a token to be cancelled is over. -/
inductive Wait where
  | over
  | pending
deriving DecidableEq, Repr

/-- What a wait for a token to be cancelled finds when it looks. -/
def wait (f : Forest) (token : Nat) : Wait := if f.isCancelled token then .over else .pending

/-- What can be done with handles. -/
inductive Step where
  | new (name : String)
  | clone (name source : String)
  | child (name source : String)
  | cancel (name : String)
  | drop (name : String)
deriving DecidableEq, Repr

/-- One step. A step from or on a name that is no handle changes nothing. -/
def step (f : Forest) : Step → Forest
  | .new name => f.grow name ⟨none, false⟩
  | .clone name source =>
    match f.token? source with
    | some token => f.bind name token
    | none => f
  | .child name source =>
    match f.token? source with
    | some token => f.grow name ⟨some token, f.isCancelled token⟩
    | none => f
  | .cancel name =>
    match f.token? name with
    | some token => f.mark token
    | none => f
  | .drop name => f.drop name

/-- Every handle with the state of its token. -/
def states (f : Forest) : List (String × Bool) :=
  f.handles.map fun (name, token) => (name, f.isCancelled token)

end Forest

end SchemaCatalog
