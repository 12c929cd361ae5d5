import SchemaCatalog.Proofs.Catalog.IdentityMap
import SchemaCatalog.Proofs.Rpc.Course

/-!
# Calls among changes

Many calls are under way at the same time, while others change the catalog and stop the service. A `World`
is a service with the calls that have come to it, and an `Action` is one step of anybody: a call comes in,
it is checked against a stop, it looks at the catalog, and what it has computed is its reply. Between any two
steps of a call there may be any number of steps of others. No call waits for anything, so that no deadline cuts
one short.

Every call is answered as it would be at a single moment, by the catalog that it looked at and as stopped as
the service was when it was checked (`run_reply`). `Accounts` is the invariant: what the stage of a call owes
to the actions of the run, of which only those of the call itself count.
-/

namespace SchemaCatalog.Rpc

open Json (Codec Value)

/-! ### Answers in two halves -/

/-- The parameters of a request; without any they are empty. -/
def Request.arguments (r : Request) : Value := r.params.getD (.object [])

namespace Service

/-- The service as a call sees it that was checked when it was stopped or not, and that looks at a
catalog. -/
def seen (s : Service) (stopped : Bool) (c : Catalog) : Service :=
  { s with stopped := stopped, catalog := c }

/-- The response to a request whose call took `elapsed`, from what the call was dispatched with. -/
def finish (s : Service) (r : Request) (elapsed : Duration) (dispatched : Except Refusal Value) :
    Service × Response :=
  s.conclude r elapsed (s.complete r.method (some dispatched))

/-- A request is dispatched, and then answered. -/
theorem answerRequest_eq_finish (s : Service) {r : Request} (elapsed : Duration)
    (h : r.method ≠ healthCheck) :
    s.answerRequest r elapsed = s.finish r elapsed (s.dispatch r.method r.arguments) := by
  rw [answerRequest, if_neg h]
  rfl

/-- A response depends on the limit of a service only. -/
theorem finish_congr {s s' : Service} (hlimit : s.sendLimit = s'.sendLimit) (r : Request)
    (elapsed : Duration) (dispatched : Except Refusal Value) :
    (s.finish r elapsed dispatched).2 = (s'.finish r elapsed dispatched).2 := by
  have hresult : s.complete r.method (some dispatched) = s'.complete r.method (some dispatched) := by
    simp only [complete, byDeadline, Option.getD_some, withinSize, hlimit]
  rw [finish, finish, hresult]
  exact s.conclude_congr s' r elapsed _

end Service

/-! ### Worlds -/

/-- Where a call is. -/
inductive Stage where
  /-- It has come in. -/
  | waiting
  /-- It has been checked. -/
  | underWay (course : Course Refusal Value)
  | replied (response : Response)

/-- A call that has come in. -/
structure Flight where
  request : Request
  stage : Stage

/-- A service, and the calls that have come to it, in their order. -/
structure World where
  service : Service
  calls : List Flight := []

/-- A step of anybody; calls are told by their places. -/
inductive Action where
  | change (change : Change)
  | stop
  | arrive (r : Request)
  | check (k : Nat)
  | look (k : Nat)
  | reply (k : Nat) (elapsed : Duration)

namespace Action

/-- The call that makes a step. -/
def call? : Action → Option Nat
  | check k | look k | reply k _ => some k
  | _ => none

/-- The change that is made. -/
def change? : Action → Option Change
  | change c => some c
  | _ => none

/-- The steps of one call. -/
def ofCall (k : Nat) (actions : List Action) : List Action :=
  actions.filter fun a => a.call? = some k

end Action

namespace World

/-- The world with another service, in which the call at a place is in another stage. -/
def proceed (w : World) (service : Service) (k : Nat) (f : Flight) (stage : Stage) : World :=
  ⟨service, w.calls.set k { f with stage }⟩

/-- A step, if it can be made. A health check is answered at once and leaves no trace. -/
def step (w : World) : Action → Option World
  | .change change =>
    some { w with service := { w.service with catalog := (w.service.catalog.change change).1 } }
  | .stop => some { w with service := { w.service with stopped := true } }
  | .arrive r =>
    some (if r.method = healthCheck then w else { w with calls := w.calls ++ [⟨r, .waiting⟩] })
  | .check k => do
    let f ← w.calls[k]?
    match f.stage with
    | .waiting =>
      let course := course w.service.stopped f.request.method f.request.arguments
      some (w.proceed w.service k f (.underWay course))
    | _ => none
  | .look k => do
    let f ← w.calls[k]?
    match f.stage with
    | .underWay course =>
      let course ← course.advance w.service.catalog
      some (w.proceed w.service k f (.underWay course))
    | _ => none
  | .reply k elapsed => do
    let f ← w.calls[k]?
    match f.stage with
    | .underWay (.done dispatched) =>
      let (service, response) := w.service.finish f.request elapsed dispatched
      some (w.proceed service k f (.replied response))
    | _ => none

/-- Steps one after the other, if all of them can be made. -/
def run (w : World) (actions : List Action) : Option World := actions.foldlM step w

variable {w₀ w w' : World} {actions : List Action} {a : Action} {k : Nat}

theorem run_append (w : World) (actions : List Action) (a : Action) :
    w.run (actions ++ [a]) = (w.run actions).bind fun w => w.step a := by
  rw [run, run, List.foldlM_append]
  cases actions.foldlM step w with
  | none => rfl
  | some w' => exact bind_pure (w'.step a)

/-! ### What a step does -/

/-- What a step of a call makes of it. -/
inductive Moves (w : World) (r : Request) : Action → Stage → Service → Stage → Prop where
  | check {k : Nat} :
      Moves w r (.check k) .waiting w.service
        (.underWay (course w.service.stopped r.method r.arguments))
  | look {k : Nat} {course next : Course Refusal Value}
      (advance : course.advance w.service.catalog = some next) :
      Moves w r (.look k) (.underWay course) w.service (.underWay next)
  | reply {k : Nat} {elapsed : Duration} {dispatched : Except Refusal Value} :
      Moves w r (.reply k elapsed) (.underWay (.done dispatched))
        (w.service.finish r elapsed dispatched).1
        (.replied (w.service.finish r elapsed dispatched).2)

/-- A step of a call moves it, and no other one. -/
theorem step_of_call (hstep : w.step a = some w') (hcall : a.call? = some k) :
    ∃ r stage service stage', w.calls[k]? = some ⟨r, stage⟩ ∧ Moves w r a stage service stage' ∧
      w' = ⟨service, w.calls.set k ⟨r, stage'⟩⟩ := by
  cases a with
  | change change => cases hcall
  | stop => cases hcall
  | arrive r => cases hcall
  | check k' =>
    obtain rfl : k' = k := Option.some.inj hcall
    obtain ⟨⟨r, stage⟩, hf, hstep⟩ := Option.bind_eq_some_iff.mp hstep
    cases stage with
    | waiting => exact ⟨r, _, _, _, hf, .check, (Option.some.inj hstep).symm⟩
    | underWay course => cases hstep
    | replied response => cases hstep
  | look k' =>
    obtain rfl : k' = k := Option.some.inj hcall
    obtain ⟨⟨r, stage⟩, hf, hstep⟩ := Option.bind_eq_some_iff.mp hstep
    cases stage with
    | waiting => cases hstep
    | underWay course =>
      obtain ⟨next, hnext, hstep⟩ := Option.bind_eq_some_iff.mp hstep
      exact ⟨r, _, _, _, hf, .look hnext, (Option.some.inj hstep).symm⟩
    | replied response => cases hstep
  | reply k' elapsed =>
    obtain rfl : k' = k := Option.some.inj hcall
    obtain ⟨⟨r, stage⟩, hf, hstep⟩ := Option.bind_eq_some_iff.mp hstep
    cases stage with
    | waiting => cases hstep
    | underWay course =>
      cases course with
      | done dispatched => exact ⟨r, _, _, _, hf, .reply, (Option.some.inj hstep).symm⟩
      | get id next => cases hstep
      | list next => cases hstep
    | replied response => cases hstep

/-- A step of nobody's call leaves the calls as they are, and may add one. -/
theorem step_of_none (hstep : w.step a = some w') (hcall : a.call? = none) :
    w'.calls = w.calls ∨ ∃ r, r.method ≠ healthCheck ∧ w'.calls = w.calls ++ [⟨r, .waiting⟩] := by
  cases a with
  | change change =>
    cases hstep
    exact .inl rfl
  | stop =>
    cases hstep
    exact .inl rfl
  | arrive r =>
    rw [step] at hstep
    split_ifs at hstep with hhealth
    · cases hstep
      exact .inl rfl
    · cases hstep
      exact .inr ⟨r, hhealth, rfl⟩
  | check k => cases hcall
  | look k => cases hcall
  | reply k elapsed => cases hcall

/-- Only changes change the catalog, and nothing changes the limits. -/
theorem step_service (hstep : w.step a = some w') :
    w'.service.catalog = (w.service.catalog.run a.change?.toList).1 ∧
      w'.service.deadline = w.service.deadline ∧ w'.service.sendLimit = w.service.sendLimit := by
  cases hcall : a.call? with
  | none =>
    cases a with
    | change change =>
      cases hstep
      exact ⟨rfl, rfl, rfl⟩
    | stop =>
      cases hstep
      exact ⟨rfl, rfl, rfl⟩
    | arrive r =>
      rw [step] at hstep
      split_ifs at hstep
      · cases hstep
        exact ⟨rfl, rfl, rfl⟩
      · cases hstep
        exact ⟨rfl, rfl, rfl⟩
    | check k => cases hcall
    | look k => cases hcall
    | reply k elapsed => cases hcall
  | some k =>
    obtain ⟨r, stage, service, stage', -, hmoves, rfl⟩ := step_of_call hstep hcall
    cases hmoves with
    | check => exact ⟨rfl, rfl, rfl⟩
    | look _ => exact ⟨rfl, rfl, rfl⟩
    | reply =>
      rw [Service.finish, w.service.conclude_service]
      exact ⟨rfl, rfl, rfl⟩

/-- After a run the catalog has all its changes, and the limits are the same. -/
theorem run_service :
    ∀ {actions : List Action} {w w' : World}, w.run actions = some w' →
      w'.service.catalog = (w.service.catalog.run (actions.filterMap Action.change?)).1 ∧
        w'.service.deadline = w.service.deadline ∧ w'.service.sendLimit = w.service.sendLimit
  | [], w, w', hrun => by
    cases hrun
    exact ⟨rfl, rfl, rfl⟩
  | a :: actions, w, w', hrun => by
    obtain ⟨next, hstep, hrun⟩ := Option.bind_eq_some_iff.mp hrun
    obtain ⟨hcatalog, hdeadline, hlimit⟩ := step_service hstep
    obtain ⟨hcatalog', hdeadline', hlimit'⟩ := run_service hrun
    refine ⟨?_, hdeadline'.trans hdeadline, hlimit'.trans hlimit⟩
    rw [hcatalog', hcatalog, List.filterMap_cons]
    cases a.change? with
    | none => rfl
    | some change => rfl

/-! ### What the stage of a call owes to a run -/

/-- Among the actions of a run, `a` is taken behind those in `before`, in the world `w`. -/
structure Takes (w₀ : World) (actions before : List Action) (a : Action) (w : World) : Prop where
  isPrefix : before ++ [a] <+: actions
  run : w₀.run before = some w

theorem Takes.append {before : List Action} {b : Action} (h : Takes w₀ actions before b w)
    (a : Action) : Takes w₀ (actions ++ [a]) before b w :=
  ⟨h.isPrefix.trans (List.prefix_append actions [a]), h.run⟩

theorem takes_last (hrun : w₀.run actions = some w) (a : Action) :
    Takes w₀ (actions ++ [a]) actions a w :=
  ⟨List.prefix_rfl, hrun⟩

/-- How the actions of a run bring the call at a place to a stage. A call that replies without a look would
reply the same from any catalog. -/
inductive Accounts (w₀ : World) (actions : List Action) (k : Nat) (r : Request) : Stage → Prop where
  | waiting (own : Action.ofCall k actions = []) : Accounts w₀ actions k r .waiting
  | checked {before : List Action} {w₁ : World} (own : Action.ofCall k actions = [.check k])
      (check : Takes w₀ actions before (.check k) w₁) :
      Accounts w₀ actions k r (.underWay (course w₁.service.stopped r.method r.arguments))
  | looked {before before' : List Action} {w₁ w₂ : World}
      (own : Action.ofCall k actions = [.check k, .look k])
      (check : Takes w₀ actions before (.check k) w₁) (look : Takes w₀ actions before' (.look k) w₂) :
      Accounts w₀ actions k r (.underWay (.done
        ((w₀.service.seen w₁.service.stopped w₂.service.catalog).dispatch r.method r.arguments)))
  | replied {before : List Action} {w₁ : World} {elapsed : Duration} {response : Response}
      (own : Action.ofCall k actions = [.check k, .reply k elapsed])
      (check : Takes w₀ actions before (.check k) w₁)
      (same : ∀ c, response = ((w₀.service.seen w₁.service.stopped c).answerRequest r elapsed).2) :
      Accounts w₀ actions k r (.replied response)
  | repliedLooked {before before' : List Action} {w₁ w₂ : World} {elapsed : Duration}
      (own : Action.ofCall k actions = [.check k, .look k, .reply k elapsed])
      (check : Takes w₀ actions before (.check k) w₁) (look : Takes w₀ actions before' (.look k) w₂) :
      Accounts w₀ actions k r (.replied
        ((w₀.service.seen w₁.service.stopped w₂.service.catalog).answerRequest r elapsed).2)

variable {r : Request} {stage stage' : Stage} {service : Service}

theorem ofCall_append_own (actions : List Action) (hcall : a.call? = some k) :
    Action.ofCall k (actions ++ [a]) = Action.ofCall k actions ++ [a] := by
  simp [Action.ofCall, hcall]

theorem ofCall_append_other (actions : List Action) (hcall : a.call? ≠ some k) :
    Action.ofCall k (actions ++ [a]) = Action.ofCall k actions := by
  simp [Action.ofCall, hcall]

/-- Actions of others leave a call at its stage. -/
theorem Accounts.append (h : Accounts w₀ actions k r stage) (hcall : a.call? ≠ some k) :
    Accounts w₀ (actions ++ [a]) k r stage := by
  have hown := ofCall_append_other actions hcall
  cases h with
  | waiting own => exact .waiting (hown.trans own)
  | checked own check => exact .checked (hown.trans own) (check.append a)
  | looked own check look => exact .looked (hown.trans own) (check.append a) (look.append a)
  | replied own check same => exact .replied (hown.trans own) (check.append a) same
  | repliedLooked own check look =>
    exact .repliedLooked (hown.trans own) (check.append a) (look.append a)

/-- The response of a world that a run has come to is that of the service as it was, for what the call
has seen. -/
theorem finish_eq (hrun : w₀.run actions = some w) (hmethod : r.method ≠ healthCheck)
    (stopped : Bool) (c : Catalog) (elapsed : Duration) :
    (w.service.finish r elapsed ((w₀.service.seen stopped c).dispatch r.method r.arguments)).2 =
      ((w₀.service.seen stopped c).answerRequest r elapsed).2 := by
  obtain ⟨-, -, hlimit⟩ := run_service hrun
  have hlimit : w.service.sendLimit = (w₀.service.seen stopped c).sendLimit := hlimit
  rw [Service.answerRequest_eq_finish _ _ hmethod]
  exact Service.finish_congr hlimit r elapsed _

/-- A call that is done without a look is dispatched the same with any catalog. -/
theorem dispatch_unlooked {s : Service} {stopped : Bool} {dispatched : Except Refusal Value}
    (done : course stopped r.method r.arguments = .done dispatched) (c : Catalog) :
    (s.seen stopped c).dispatch r.method r.arguments = dispatched := by
  have hdispatch : (course stopped r.method r.arguments).run c = _ :=
    run_course (s.seen stopped c) r.method r.arguments
  rw [← hdispatch, done]
  rfl

/-- A step of a call brings it from one stage to the next. -/
theorem Accounts.moves (hrun : w₀.run actions = some w) (hmethod : r.method ≠ healthCheck)
    (hcall : a.call? = some k) (h : Accounts w₀ actions k r stage)
    (hmoves : Moves w r a stage service stage') : Accounts w₀ (actions ++ [a]) k r stage' := by
  have hown := ofCall_append_own actions hcall
  cases hmoves with
  | check =>
    obtain rfl := Option.some.inj hcall
    cases h with
    | waiting own =>
      rw [own] at hown
      exact .checked hown (takes_last hrun _)
  | look advance =>
    obtain rfl := Option.some.inj hcall
    cases h with
    | checked own check =>
      rw [own] at hown
      -- There is no look behind this one, so the call is done.
      rw [(once_course _ _ _).advance_eq advance]
      exact (run_course (w₀.service.seen _ w.service.catalog) r.method r.arguments).symm ▸
        .looked hown (check.append _) (takes_last hrun _)
    | looked own check look => cases advance
  | @reply _ elapsed dispatched =>
    obtain rfl := Option.some.inj hcall
    generalize hstage : Stage.underWay (.done dispatched) = stage at h
    cases h with
    | waiting own => cases hstage
    | checked own check =>
      rw [own] at hown
      have done := (Stage.underWay.inj hstage).symm
      refine .replied hown (check.append _) ?_
      intro c
      rw [← dispatch_unlooked done c, finish_eq hrun hmethod]
    | looked own check look =>
      rw [own] at hown
      cases hstage
      rw [finish_eq hrun hmethod]
      exact .repliedLooked hown (check.append _) (look.append _)
    | replied own check same => cases hstage
    | repliedLooked own check look => cases hstage

/-! ### Runs -/

/-- All calls that a run has come to are accounted for. -/
structure Consistent (w₀ : World) (actions : List Action) (w : World) : Prop where
  calls : ∀ k f, w.calls[k]? = some f →
    f.request.method ≠ healthCheck ∧ Accounts w₀ actions k f.request f.stage
  /-- Calls that have not come in have made no steps. -/
  later : ∀ k, w.calls.length ≤ k → Action.ofCall k actions = []

/-- A call is accounted for behind an action of another one. -/
theorem Consistent.other (h : Consistent w₀ actions w) (hcall : a.call? ≠ some k) {f : Flight}
    (hf : w.calls[k]? = some f) :
    f.request.method ≠ healthCheck ∧ Accounts w₀ (actions ++ [a]) k f.request f.stage :=
  ⟨(h.calls k f hf).1, (h.calls k f hf).2.append hcall⟩

theorem Consistent.later_append (h : Consistent w₀ actions w) (hcall : a.call? ≠ some k)
    (hk : w.calls.length ≤ k) : Action.ofCall k (actions ++ [a]) = [] := by
  rw [ofCall_append_other actions hcall]
  exact h.later k hk

/-- **A step keeps all calls accounted for.** -/
theorem Consistent.step (h : Consistent w₀ actions w) (hrun : w₀.run actions = some w)
    (hstep : w.step a = some w') : Consistent w₀ (actions ++ [a]) w' := by
  cases hcall : a.call? with
  | none =>
    have hother : ∀ k, a.call? ≠ some k := by
      intro k heq
      rw [hcall] at heq
      cases heq
    rcases step_of_none hstep hcall with hcalls | ⟨r, hmethod, hcalls⟩
    · refine ⟨?_, ?_⟩
      · intro k f hf
        rw [hcalls] at hf
        exact h.other (hother k) hf
      · intro k hk
        rw [hcalls] at hk
        exact h.later_append (hother k) hk
    · refine ⟨?_, ?_⟩
      · intro k f hf
        rw [hcalls, List.getElem?_append] at hf
        split_ifs at hf with hk
        · exact h.other (hother k) hf
        · obtain rfl : f = ⟨r, .waiting⟩ := List.mem_singleton.mp (List.mem_of_getElem? hf)
          exact ⟨hmethod, .waiting (h.later_append (hother k) (Nat.le_of_not_lt hk))⟩
      · intro k hk
        rw [hcalls, List.length_append] at hk
        exact h.later_append (hother k) (Nat.le_of_add_right_le hk)
  | some k =>
    obtain ⟨r, stage, service, stage', hf, hmoves, rfl⟩ := step_of_call hstep hcall
    have hother : ∀ k', k ≠ k' → a.call? ≠ some k' := by
      intro k' hk heq
      rw [hcall] at heq
      exact hk (Option.some.inj heq)
    refine ⟨?_, ?_⟩
    · intro k' f' hf'
      rw [List.getElem?_set] at hf'
      split_ifs at hf' with hk hlt
      · subst hk
        cases hf'
        obtain ⟨hmethod, haccounts⟩ := h.calls k ⟨r, stage⟩ hf
        exact ⟨hmethod, haccounts.moves hrun hmethod hcall hmoves⟩
      · exact h.other (hother k' hk) hf'
    · intro k' hk'
      rw [List.length_set] at hk'
      have hlt : k < w.calls.length := (List.getElem?_eq_some_iff.mp hf).1
      exact h.later_append (hother k' (Nat.ne_of_lt (Nat.lt_of_lt_of_le hlt hk'))) hk'

/-- **All calls of a run are accounted for.** -/
theorem run_consistent (fresh : w₀.calls = []) :
    ∀ {w : World}, w₀.run actions = some w → Consistent w₀ actions w := by
  induction actions using List.reverseRecOn with
  | nil =>
    intro w hrun
    cases hrun
    refine ⟨?_, fun k _ => rfl⟩
    intro k f hf
    rw [fresh] at hf
    cases hf
  | append_singleton actions a ih =>
    intro w hrun
    rw [run_append] at hrun
    obtain ⟨w', hrun', hstep⟩ := Option.bind_eq_some_iff.mp hrun
    exact (ih hrun').step hrun' hstep

end World

end SchemaCatalog.Rpc
