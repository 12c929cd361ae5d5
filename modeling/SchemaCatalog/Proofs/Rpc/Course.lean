import SchemaCatalog.Proofs.Rpc.LookUp

/-!
# Calls step by step

A `Course` is what a call still has to do: it is done, or it looks at the catalog once more and goes on with
what it finds there. Only the looks take place under the lock of the catalog; all that is computed from what
was found comes behind them, when the catalog may have changed. `Method.course` is the course of a call.

Taken without a pause, the course of a call is `Service.dispatch` (`run_course`). And a call looks at the
catalog once at most (`once_course`): what it tells of a schema is all taken from the entry that it holds.
-/

namespace SchemaCatalog.Rpc

open Json (Codec Value)

/-- What a call still has to do. -/
inductive Course (ε α : Type) where
  | done (result : Except ε α)
  /-- The entry of an identity is looked up. -/
  | get (id : Identity) (next : Except Error Entry → Course ε α)
  /-- The identities of all entries are listed. -/
  | list (next : List Identity → Course ε α)

namespace Course

variable {ε ε' α β : Type}

/-- One course after the other; a failed one ends both. -/
def bind : Course ε α → (α → Course ε β) → Course ε β
  | done (.error e), _ => done (.error e)
  | done (.ok x), f => f x
  | get id next, f => get id fun found => (next found).bind f
  | list next, f => list fun ids => (next ids).bind f

instance : Monad (Course ε) where
  pure x := done (.ok x)
  bind := bind

/-- A course with another kind of errors. -/
def mapError (f : ε → ε') : Course ε α → Course ε' α
  | done result => done (result.mapError f)
  | get id next => get id fun found => (next found).mapError f
  | list next => list fun ids => (next ids).mapError f

/-- The next look at a catalog, unless the course is done. -/
def advance (c : Catalog) : Course ε α → Option (Course ε α)
  | done _ => none
  | get id next => some (next (c.get id))
  | list next => some (next c.list)

/-- The result of a course whose looks are all at one catalog. -/
def run (c : Catalog) : Course ε α → Except ε α
  | done result => result
  | get id next => (next (c.get id)).run c
  | list next => (next c.list).run c

/-! ### Without a pause -/

theorem run_bind (c : Catalog) (x : Course ε α) (f : α → Course ε β) :
    (x >>= f).run c = x.run c >>= fun a => (f a).run c := by
  show (x.bind f).run c = _
  induction x with
  | done result =>
    cases result with
    | error e => rfl
    | ok a => rfl
  | get id next ih => exact ih (c.get id)
  | list next ih => exact ih c.list

theorem run_mapError (c : Catalog) (f : ε → ε') (x : Course ε α) :
    (x.mapError f).run c = (x.run c).mapError f := by
  induction x with
  | done result => rfl
  | get id next ih => exact ih (c.get id)
  | list next ih => exact ih c.list

/-! ### A single look -/

/-- A course without any further look. -/
inductive Settled : Course ε α → Prop where
  | done (result : Except ε α) : Settled (.done result)

/-- A course with one look at most. -/
inductive Once : Course ε α → Prop where
  | done (result : Except ε α) : Once (.done result)
  | get {id : Identity} {next : Except Error Entry → Course ε α} (h : ∀ found, (next found).Settled) :
      Once (.get id next)
  | list {next : List Identity → Course ε α} (h : ∀ ids, (next ids).Settled) : Once (.list next)

theorem Settled.bind {x : Course ε α} {f : α → Course ε β} (hx : x.Settled)
    (hf : ∀ a, (f a).Settled) : (x >>= f).Settled := by
  cases hx with
  | done result =>
    cases result with
    | error e => exact .done _
    | ok a => exact hf a

theorem Settled.mapError {x : Course ε α} (hx : x.Settled) (f : ε → ε') :
    (x.mapError f).Settled := by
  cases hx with
  | done result => exact .done _

theorem Settled.once {x : Course ε α} (hx : x.Settled) : x.Once := by
  cases hx with
  | done result => exact .done result

/-- A look may come behind what needs none. -/
theorem Settled.once_bind {x : Course ε α} {f : α → Course ε β} (hx : x.Settled)
    (hf : ∀ a, (f a).Once) : (x >>= f).Once := by
  cases hx with
  | done result =>
    cases result with
    | error e => exact .done _
    | ok a => exact hf a

/-- What needs no look may come behind one. -/
theorem Once.bind {x : Course ε α} {f : α → Course ε β} (hx : x.Once) (hf : ∀ a, (f a).Settled) :
    (x >>= f).Once := by
  cases hx with
  | done result => exact ((Settled.done result).bind hf).once
  | get h => exact .get fun found => (h found).bind hf
  | list h => exact .list fun ids => (h ids).bind hf

theorem Once.mapError {x : Course ε α} (hx : x.Once) (f : ε → ε') : (x.mapError f).Once := by
  cases hx with
  | done result => exact .done _
  | get h => exact .get fun found => (h found).mapError f
  | list h => exact .list fun ids => (h ids).mapError f

theorem Settled.eq_done {x : Course ε α} (hx : x.Settled) (c : Catalog) : x = .done (x.run c) := by
  cases hx with
  | done result => rfl

/-- Behind its look a course is done, with the result that it has without a pause. -/
theorem Once.advance_eq {x next : Course ε α} (hx : x.Once) {c : Catalog}
    (h : x.advance c = some next) : next = .done (x.run c) := by
  cases hx with
  | done result => cases h
  | @get id next' hsettled =>
    obtain rfl : next' (c.get id) = next := Option.some.inj h
    exact (hsettled (c.get id)).eq_done c
  | @list next' hsettled =>
    obtain rfl : next' c.list = next := Option.some.inj h
    exact (hsettled c.list).eq_done c

end Course

/-! ### The calls -/

/-- The course of a call. -/
def Method.course (params : Value) : Method → Course Error Value
  | .getElement => do
    let id ← .done (identityParam params)
    let path ← .done (textParam params "path")
    let entry ← .get id .done
    let e ← .done (entry.element path)
    return Element.codec.toValue e
  | .listSchemas => do
    let ids ← .list fun ids => .done (.ok ids)
    return (Codec.list Identity.codec).toValue ids
  | .getDetails => do
    let id ← .done (identityParam params)
    let entry ← .get id .done
    return Details.codec.toValue (.ofEntry entry)
  | .expandPath => do
    let id ← .done (identityParam params)
    let lead := (textParam? params "path").getD ""
    let entry ← .get id .done
    let paths ← .done (expandEntry entry lead)
    return (Codec.list DataPath.codec).toValue paths

/-- A call looks up what it looks up without a pause. -/
theorem Method.run_course (c : Catalog) (params : Value) (m : Method) :
    (m.course params).run c = lookUp c params m := by
  cases m with
  | getElement =>
    simp only [Method.course, Course.run_bind, lookUp, Catalog.getElement, bind_assoc]
    rfl
  | listSchemas => rfl
  | getDetails =>
    simp only [Method.course, Course.run_bind, lookUp]
    rfl
  | expandPath =>
    simp only [Method.course, Course.run_bind, lookUp]
    rfl

/-- **A call looks at the catalog once at most.** -/
theorem Method.once_course (params : Value) (m : Method) : (m.course params).Once := by
  cases m with
  | getElement =>
    refine (Course.Settled.done (identityParam params)).once_bind fun id => ?_
    refine (Course.Settled.done (textParam params "path")).once_bind fun path => ?_
    refine (Course.Once.get Course.Settled.done).bind fun entry => ?_
    exact (Course.Settled.done (entry.element path)).bind fun e => .done _
  | listSchemas => exact .list fun ids => .done _
  | getDetails =>
    refine (Course.Settled.done (identityParam params)).once_bind fun id => ?_
    exact (Course.Once.get Course.Settled.done).bind fun entry => .done _
  | expandPath =>
    refine (Course.Settled.done (identityParam params)).once_bind fun id => ?_
    refine (Course.Once.get Course.Settled.done).bind fun entry => ?_
    exact (Course.Settled.done (expandEntry entry _)).bind fun paths => .done _

/-- The course of a call of a service that has been stopped, or has not, when the call begins. -/
def course (stopped : Bool) (method : String) (params : Value) : Course Refusal Value :=
  if stopped then .done (.error (.failed (.transport .shuttingDown)))
  else
    match Method.ofName? method with
    | none => .done (.error .unknownMethod)
    | some m => (m.course params).mapError .failed

/-- A call without a pause is dispatched. -/
theorem run_course (s : Service) (method : String) (params : Value) :
    (course s.stopped method params).run s.catalog = s.dispatch method params := by
  rw [course, Service.dispatch]
  split_ifs with hstopped
  · rfl
  · cases Method.ofName? method with
    | none => rfl
    | some m =>
      show ((m.course params).mapError Refusal.failed).run s.catalog = _
      rw [Course.run_mapError, Method.run_course]

theorem once_course (stopped : Bool) (method : String) (params : Value) :
    (course stopped method params).Once := by
  rw [course]
  split_ifs with hstopped
  · exact .done _
  · cases Method.ofName? method with
    | none => exact .done _
    | some m => exact (m.once_course params).mapError Refusal.failed

end SchemaCatalog.Rpc
