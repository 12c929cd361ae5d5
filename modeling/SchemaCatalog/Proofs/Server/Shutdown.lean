import SchemaCatalog.Proofs.Cancellation.Ancestry
import SchemaCatalog.Proofs.Catalog.IdentityMap
import SchemaCatalog.Proofs.Rpc.Parameters
import SchemaCatalog.Proofs.Rpc.Queries
import SchemaCatalog.Proofs.Server.Startup

/-!
# A stop is final

A `Host` is a server together with the handles that can stop it. The server keeps one of them itself; others
are taken from it or cloned from each other, and dropped, in any order, among requests, changes of the
catalog and a bind. All handles are on one token, which is the only thing that says whether the server has
been stopped (`Host.Holds`), and no step takes a cancellation back (`Host.Holds.step`).

So from the first stop on, which a listener that halts counts as, every handle tells that the server has been
stopped, it cannot be bound any more, and every call is refused; before it no request is answered with that
refusal (`Server.stop_final`).
-/

namespace SchemaCatalog

/-! ### Refusals -/

namespace Rpc

open Json (Value)

variable {s : Service} {c : Catalog} {params : Value} {call : Method} {method : String}
  {elapsed : Duration}

/-- How a call of a service that has not been stopped is refused. It does not wait, so that it is never too
late. -/
inductive Refusal.OfRunning : Refusal → Prop where
  | unknownMethod : OfRunning .unknownMethod
  | params (problem : ParamsProblem) : OfRunning (.failed (.invalidParams problem))
  | schema (key : String) : OfRunning (.failed (.schemaNotFound key))
  | path (key path : String) : OfRunning (.failed (.pathNotFound key path))
  | large (size limit : Nat) : OfRunning (.failed (.messageTooLarge size limit))

/-- A text starts with a character. -/
def StartsWith (s : String) (c : Char) : Prop := s.toList.head? = some c

theorem StartsWith.append {s : String} {c : Char} (h : StartsWith s c) (t : String) :
    StartsWith (s ++ t) c := by
  rw [StartsWith, String.toList_append, List.head?_append, h]
  rfl

/-- No wording of these refusals starts like that of a service that has been stopped. -/
theorem Refusal.OfRunning.startsWith {refusal : Refusal} (h : refusal.OfRunning) (method : String) :
    ∃ c, c ≠ 'T' ∧ StartsWith (refusal.message method) c := by
  cases h with
  | unknownMethod =>
    have hstart : StartsWith "Method not found: " 'M' := rfl
    exact ⟨'M', by decide, hstart.append _⟩
  | params problem =>
    have hstart : StartsWith "Invalid params: " 'I' := rfl
    exact ⟨'I', by decide, hstart.append _⟩
  | schema key =>
    have hstart : StartsWith "Schema not found: " 'S' := rfl
    exact ⟨'S', by decide, hstart.append _⟩
  | path key path =>
    have hstart : StartsWith "Path not found in schema " 'P' := rfl
    exact ⟨'P', by decide, ((hstart.append _).append _).append _⟩
  | large size limit =>
    have hstart : StartsWith "Message too large: " 'M' := rfl
    exact ⟨'M', by decide, (((hstart.append _).append _).append _).append _⟩

theorem ofRunning_get {id : Identity} {e : Error} (h : c.get id = .error e) :
    (Refusal.failed e).OfRunning := by
  rw [Client.Query.get_error h]
  exact .schema _

theorem ofRunning_element {entry : Entry} {path : String} {e : Error}
    (h : entry.element path = .error e) : (Refusal.failed e).OfRunning := by
  rw [Client.Query.element_error h]
  exact .path _ _

/-- Looking up fails for a parameter, a schema or a path. -/
theorem ofRunning_lookUp {e : Error} (h : lookUp c params call = .error e) :
    (Refusal.failed e).OfRunning := by
  rcases given_or_lacks params call.demands with hgiven | ⟨p, hlacks⟩
  · cases call with
    | getElement =>
      obtain ⟨id, hid⟩ := exists_names fun q hq => hgiven q (List.mem_append_left _ hq)
      obtain ⟨path, hpath⟩ := hgiven .path (List.mem_append_right _ List.mem_cons_self)
      rw [lookUp_getElement c (identityParam_of_names hid), textParam_path hpath, ok_bind,
        map_eq_error_iff, Catalog.getElement, bind_eq_error_iff] at h
      rcases h with hget | ⟨entry, _, helement⟩
      · exact ofRunning_get hget
      · exact ofRunning_element helement
    | listSchemas => cases h
    | getDetails =>
      obtain ⟨id, hid⟩ := exists_names hgiven
      rw [lookUp_getDetails c (identityParam_of_names hid), map_eq_error_iff] at h
      exact ofRunning_get h
    | expandPath =>
      obtain ⟨id, hid⟩ := exists_names hgiven
      rw [lookUp_expandPath c (identityParam_of_names hid), bind_eq_error_iff] at h
      rcases h with hget | ⟨entry, _, hexpand⟩
      · exact ofRunning_get hget
      · rw [map_eq_error_iff, Client.Query.expandEntry_eq] at hexpand
        split_ifs at hexpand
        rw [map_eq_error_iff] at hexpand
        exact ofRunning_element hexpand
  · rw [lookUp_of_lacks c hlacks] at h
    cases h
    exact .params _

theorem ofRunning_call {refusal : Refusal} (running : s.stopped = false)
    (h : s.call method params = .error refusal) : refusal.OfRunning := by
  rw [Service.call, Service.complete, Service.byDeadline, Option.getD_some, bind_eq_error_iff] at h
  rcases h with h | ⟨v, _, h⟩
  · rw [Service.dispatch, if_neg (ne_true_of_eq_false running)] at h
    cases hname : Method.ofName? method with
    | none =>
      rw [hname] at h
      cases h
      exact .unknownMethod
    | some call =>
      rw [hname] at h
      cases hlook : lookUp s.catalog params call with
      | error e =>
        simp only [hlook] at h
        cases h
        exact ofRunning_lookUp hlook
      | ok v =>
        simp only [hlook] at h
        cases h
  · rw [Service.withinSize] at h
    split_ifs at h
    cases h
    exact .large _ _

/-- The answer to a call of a service that has been stopped. -/
def refused (id : Option Value) : Response :=
  ⟨"2.0", none, some ⟨-32603, "Transport error: Server is shutting down", none⟩, id⟩

/-- A service that has been stopped refuses every call. -/
theorem answer_of_stopped (stopped : s.stopped = true) {body : Bytes} {r : Request}
    (hparse : Request.codec.parse body = .ok r) (hmethod : r.method ≠ "health_check") :
    (s.answer body elapsed).2 = refused r.id := by
  have hother : r.method ≠ healthCheck := hmethod
  rw [s.answer_of_parse hparse hother, call_of_refused (by rw [Service.dispatch, if_pos stopped])]
  rfl

/-- A service that has not been stopped answers nothing with the wording of a stopped one. -/
theorem message_of_running (running : s.stopped = false) {body : Bytes} {f : Failure}
    (h : (s.answer body elapsed).2.error = some f) :
    f.message ≠ "Transport error: Server is shutting down" := by
  have hstarts : ∃ c, c ≠ 'T' ∧ StartsWith f.message c := by
    cases hparse : Request.codec.parse body with
    | error e =>
      rw [s.answer_of_unreadable hparse] at h
      cases h
      have hstart : StartsWith "Parse error: " 'P' := rfl
      exact ⟨'P', by decide, hstart.append _⟩
    | ok r =>
      by_cases health : r.method = healthCheck
      · rw [s.answer_of_health hparse health] at h
        cases h
      · rw [s.answer_of_parse hparse health] at h
        cases hcall : s.call r.method (r.params.getD (.object [])) with
        | ok v =>
          rw [hcall] at h
          cases h
        | error refusal =>
          rw [hcall] at h
          cases h
          exact (ofRunning_call running hcall).startsWith r.method
  rintro heq
  obtain ⟨c, hc, hstart⟩ := hstarts
  rw [heq] at hstart
  exact hc (Option.some.inj hstart).symm

end Rpc

/-! ### Hosts -/

/-- How far a server has come; it is gone when it failed to bind or its listener halted. -/
inductive Phase where
  | created
  | bound
  | gone
deriving DecidableEq

/-- A server, and the tokens and handles that can stop it. -/
structure Host where
  server : Server
  phase : Phase
  tokens : Forest

/-- What happens to a server. -/
inductive Act where
  /-- Somebody takes a handle from the server. -/
  | take (name : String)
  | clone (name source : String)
  | drop (name : String)
  | stop (name : String)
  /-- The listener fails. -/
  | halt
  | change (change : Change)
  | request (body : Bytes) (elapsed : Duration)
  | bind (network : Network)

/-- Whether the server has to end from then on. -/
def Act.ends : Act → Bool
  | stop _ | halt => true
  | _ => false

namespace Host

/-- The name of the handle that the server keeps. -/
def own : String := ""

/-- A server that nobody else has a handle of. -/
def start (server : Server) : Host := ⟨server, .created, Forest.empty.step (.new own)⟩

/-- What a handle tells, if there is one of the name. -/
def isStopped? (h : Host) (name : String) : Option Bool :=
  (h.tokens.token? name).map h.tokens.isCancelled

/-- The server as its own handle tells. -/
def view (h : Host) : Server := if h.isStopped? own = some true then h.server.stop else h.server

/-- The answer to a body. -/
def answer (h : Host) (body : Bytes) (elapsed : Duration) : Rpc.Service × Rpc.Response :=
  h.view.service.answer body elapsed

/-- Whether somebody has a handle of the name. -/
def holds (h : Host) (name : String) : Bool := name != own && (h.tokens.token? name).isSome

/-- One step, if it can be made. -/
def step (h : Host) : Act → Option Host
  | .take name =>
    if name = own || h.phase = .gone then none
    else some { h with tokens := h.tokens.step (.clone name own) }
  | .clone name source =>
    if name = own || !h.holds source then none
    else some { h with tokens := h.tokens.step (.clone name source) }
  | .drop name => if h.holds name then some { h with tokens := h.tokens.step (.drop name) } else none
  | .stop name => if h.holds name then some { h with tokens := h.tokens.step (.cancel name) } else none
  | .halt =>
    if h.phase = .bound then
      some { h with phase := .gone, tokens := h.tokens.step (.cancel own) }
    else none
  | .change change =>
    let service := { h.server.service with catalog := (h.server.service.catalog.change change).1 }
    some { h with server := { h.server with service } }
  | .request body elapsed =>
    let service := { h.server.service with metrics := (h.answer body elapsed).1.metrics }
    some { h with server := { h.server with service } }
  | .bind network =>
    if h.phase = .created then
      match h.view.bind network with
      | .ok bound => some { h with server := bound, phase := .bound }
      | .error _ => some { h with phase := .gone }
    else none

/-- Steps one after the other, if all of them can be made. -/
def run (h : Host) (acts : List Act) : Option Host := acts.foldlM step h

/-! ### One token -/

/-- All handles are on one token, which tells whether the server has been stopped. -/
structure Holds (h : Host) (stopped : Bool) : Prop where
  tokens : h.tokens.tokens = [⟨none, stopped⟩]
  shared : ∀ p ∈ h.tokens.handles, p.2 = 0
  kept : (own, 0) ∈ h.tokens.handles
  unmarked : h.server.service.stopped = false

variable {h h' : Host} {stopped : Bool} {name source : String}

theorem Holds.token_eq (hh : h.Holds stopped) {token : Nat} (ht : h.tokens.token? name = some token) :
    token = 0 :=
  hh.shared (name, token) (Forest.mem_handles_of_token? ht)

/-- Every handle tells what the token tells. -/
theorem Holds.isStopped?_eq (hh : h.Holds stopped) {told : Bool}
    (ht : h.isStopped? name = some told) : told = stopped := by
  obtain ⟨token, htoken, rfl⟩ := Option.map_eq_some_iff.mp ht
  rw [hh.token_eq htoken, Forest.isCancelled, hh.tokens]
  rfl

theorem Holds.token?_own (hh : h.Holds stopped) : h.tokens.token? own = some 0 := by
  have hsome : (h.tokens.token? own).isSome = true :=
    List.lookup_isSome_iff.mpr ⟨_, hh.kept, beq_self_eq_true own⟩
  obtain ⟨token, htoken⟩ := Option.isSome_iff_exists.mp hsome
  rw [htoken, hh.token_eq htoken]

theorem Holds.isStopped?_own (hh : h.Holds stopped) : h.isStopped? own = some stopped := by
  rw [isStopped?, hh.token?_own, Option.map_some, Forest.isCancelled, hh.tokens]
  rfl

/-- The server is in the state that the token tells. -/
theorem Holds.isStopped_view (hh : h.Holds stopped) : h.view.isStopped = stopped := by
  rw [view, hh.isStopped?_own]
  cases stopped with
  | true => rfl
  | false => exact hh.unmarked

/-! ### Steps -/

/-- A cloned handle is one more on the token. -/
theorem Holds.clone (hh : h.Holds stopped) (hname : name ≠ own)
    (hsource : (h.tokens.token? source).isSome = true) :
    Holds { h with tokens := h.tokens.step (.clone name source) } stopped := by
  obtain ⟨token, htoken⟩ := Option.isSome_iff_exists.mp hsource
  have hzero := hh.token_eq htoken
  subst hzero
  have hbound : h.tokens.step (.clone name source) =
      ⟨h.tokens.tokens, (name, 0) :: h.tokens.handles.filter (·.1 != name)⟩ := by
    rw [Forest.step, htoken]
    dsimp only
    rw [Forest.bind]
    cases hearlier : h.tokens.token? name with
    | none => rfl
    | some earlier =>
      rw [hh.token_eq hearlier]
      exact Forest.release_of_mem List.mem_cons_self
  rw [hbound]
  refine ⟨hh.tokens, ?_, ?_, hh.unmarked⟩
  · intro p hp
    rcases List.mem_cons.mp hp with rfl | hp
    · rfl
    · exact hh.shared p (List.mem_of_mem_filter hp)
  · refine List.mem_cons_of_mem _ (List.mem_filter.mpr ⟨hh.kept, ?_⟩)
    exact bne_iff_ne.mpr hname.symm

/-- A handle that is dropped leaves the token with the handle of the server at least. -/
theorem Holds.drop (hh : h.Holds stopped) (hname : name ≠ own) :
    Holds { h with tokens := h.tokens.step (.drop name) } stopped := by
  have hkept : (own, 0) ∈ h.tokens.handles.filter (·.1 != name) :=
    List.mem_filter.mpr ⟨hh.kept, bne_iff_ne.mpr hname.symm⟩
  rw [Forest.step, Forest.drop]
  cases htoken : h.tokens.token? name with
  | none => exact hh
  | some token =>
    dsimp only
    rw [hh.token_eq htoken, Forest.release_of_mem hkept]
    exact ⟨hh.tokens, fun p hp => hh.shared p (List.mem_of_mem_filter hp), hkept, hh.unmarked⟩

/-- Any handle cancels the token. -/
theorem Holds.cancel (hh : h.Holds stopped) (hname : (h.tokens.token? name).isSome = true)
    (phase : Phase) :
    Holds { h with phase, tokens := h.tokens.step (.cancel name) } true := by
  obtain ⟨token, htoken⟩ := Option.isSome_iff_exists.mp hname
  have hzero := hh.token_eq htoken
  subst hzero
  rw [Forest.step, htoken]
  dsimp only
  rw [Forest.mark]
  refine ⟨?_, hh.shared, hh.kept, hh.unmarked⟩
  dsimp only
  rw [hh.tokens]
  rfl

theorem ne_own_of_holds (hh : h.holds name = true) :
    name ≠ own ∧ (h.tokens.token? name).isSome = true := by
  rw [holds, Bool.and_eq_true, bne_iff_ne] at hh
  exact hh

/-- The tokens are not touched by what happens to the server alone. -/
theorem Holds.serve (hh : h.Holds stopped) {server : Server} (unmarked : server.service.stopped = false)
    (phase : Phase) : Holds ⟨server, phase, h.tokens⟩ stopped :=
  ⟨hh.tokens, hh.shared, hh.kept, unmarked⟩

/-- A server that has been stopped is not bound. -/
theorem Holds.stopped_of_bind (hh : h.Holds stopped) {network : Network} {bound : Server}
    (hbind : h.view.bind network = .ok bound) : bound.service.stopped = false := by
  cases stopped with
  | false =>
    have hview : h.view.service.stopped = false := hh.isStopped_view
    rw [(Server.eq_of_bind hbind).2, hview]
  | true =>
    rw [Server.bind, hh.isStopped_view] at hbind
    cases hbind

theorem Holds.of_ends_eq_false (hh : h.Holds stopped) {act : Act} (hends : act.ends = false) :
    h.Holds (stopped || act.ends) := by
  rw [hends, Bool.or_false]
  exact hh

/-- **A step keeps all handles on one token, and cancels it just if it ends the server.** -/
theorem Holds.step (hh : h.Holds stopped) {act : Act} (hstep : h.step act = some h') :
    h'.Holds (stopped || act.ends) := by
  cases act with
  | take name =>
    rw [Host.step] at hstep
    split_ifs at hstep with hrefused
    cases hstep
    rw [Bool.or_eq_true, not_or, decide_eq_true_eq] at hrefused
    have hown : (h.tokens.token? own).isSome = true :=
      Option.isSome_iff_exists.mpr ⟨0, hh.token?_own⟩
    exact (hh.clone hrefused.1 hown).of_ends_eq_false rfl
  | clone name source =>
    rw [Host.step] at hstep
    split_ifs at hstep with hrefused
    cases hstep
    rw [Bool.or_eq_true, not_or, decide_eq_true_eq, Bool.not_eq_true, Bool.not_eq_false'] at hrefused
    exact (hh.clone hrefused.1 (ne_own_of_holds hrefused.2).2).of_ends_eq_false rfl
  | drop name =>
    rw [Host.step] at hstep
    split_ifs at hstep with hname
    cases hstep
    exact (hh.drop (ne_own_of_holds hname).1).of_ends_eq_false rfl
  | stop name =>
    rw [Host.step] at hstep
    split_ifs at hstep with hname
    cases hstep
    rw [Act.ends, Bool.or_true]
    exact hh.cancel (ne_own_of_holds hname).2 h.phase
  | halt =>
    rw [Host.step] at hstep
    split_ifs at hstep with hphase
    cases hstep
    rw [Act.ends, Bool.or_true]
    exact hh.cancel (Option.isSome_iff_exists.mpr ⟨0, hh.token?_own⟩) .gone
  | change change =>
    cases hstep
    refine Holds.of_ends_eq_false (hh.serve ?_ h.phase) rfl
    exact hh.unmarked
  | request body elapsed =>
    cases hstep
    refine Holds.of_ends_eq_false (hh.serve ?_ h.phase) rfl
    exact hh.unmarked
  | bind network =>
    rw [Host.step] at hstep
    split_ifs at hstep with hphase
    cases hbind : h.view.bind network with
    | error e =>
      rw [hbind] at hstep
      cases hstep
      exact (hh.serve hh.unmarked .gone).of_ends_eq_false rfl
    | ok bound =>
      rw [hbind] at hstep
      cases hstep
      exact (hh.serve (hh.stopped_of_bind hbind) .bound).of_ends_eq_false rfl

theorem Holds.run :
    ∀ {acts : List Act} {h h' : Host} {stopped : Bool}, h.Holds stopped → h.run acts = some h' →
      h'.Holds (stopped || acts.any Act.ends)
  | [], h, h', stopped, hh, hrun => by
    cases hrun
    rw [List.any_nil, Bool.or_false]
    exact hh
  | act :: acts, h, h', stopped, hh, hrun => by
    obtain ⟨next, hstep, hrun⟩ := Option.bind_eq_some_iff.mp hrun
    rw [List.any_cons, ← Bool.or_assoc]
    exact (hh.step hstep).run hrun

theorem holds_start {server : Server} (running : server.service.stopped = false) :
    (start server).Holds false where
  tokens := rfl
  shared p hp := by
    rcases List.mem_cons.mp hp with rfl | hp
    · rfl
    · cases hp
  kept := List.mem_cons_self
  unmarked := running

/-! ### Before and after the end -/

/-- A host whose server has to end. -/
structure Final (h : Host) : Prop where
  handles : ∀ name told, h.isStopped? name = some told → told = true
  binds : ∀ network, h.view.bind network = .error (.transport .stoppedBeforeStart)
  answers : ∀ body elapsed r, Rpc.Request.codec.parse body = .ok r → r.method ≠ "health_check" →
    (h.answer body elapsed).2 =
      ⟨"2.0", none, some ⟨-32603, "Transport error: Server is shutting down", none⟩, r.id⟩

/-- A host whose server has not to end yet. -/
structure Running (h : Host) : Prop where
  handles : ∀ name told, h.isStopped? name = some told → told = false
  answers : ∀ body elapsed f, (h.answer body elapsed).2.error = some f →
    f.message ≠ "Transport error: Server is shutting down"

theorem Holds.final (hh : h.Holds true) : h.Final where
  handles _ _ htold := hh.isStopped?_eq htold
  binds network := by
    rw [Server.bind, hh.isStopped_view]
    rfl
  answers body elapsed r hparse hmethod := by
    exact Rpc.answer_of_stopped hh.isStopped_view hparse hmethod

theorem Holds.running (hh : h.Holds false) : h.Running where
  handles _ _ htold := hh.isStopped?_eq htold
  answers _ _ _ hf := Rpc.message_of_running hh.isStopped_view hf

end Host

/-- **A stop is final.** In every run of a server, from the first stop by any handle on, or from when its
listener halted, all handles tell that it has been stopped, it cannot be bound, and every request but a health
check is refused, whatever the catalog holds; before that, no answer is that refusal. -/
theorem Server.stop_final {files : Files} {settings : Settings} {c : Catalog} {server : Server}
    (made : Server.new files settings c = .ok server) {acts : List Act} {h : Host}
    (run : (Host.start server).run acts = some h) :
    (acts.any Act.ends = true → h.Final) ∧ (acts.any Act.ends = false → h.Running) := by
  have hrunning : server.service.stopped = false := by rw [(eq_of_new made).2]
  have hholds := (Host.holds_start hrunning).run run
  rw [Bool.false_or] at hholds
  refine ⟨fun hends => ?_, fun hends => ?_⟩
  · rw [hends] at hholds
    exact hholds.final
  · rw [hends] at hholds
    exact hholds.running

/-- A server that a clone of a handle has stopped refuses a call that it answered before, and a handle that
is taken afterwards tells so, although the other ones are gone. -/
theorem Server.stop_final_clone :
    let body := Utf8.encode "\x7b\"jsonrpc\":\"2.0\",\"method\":\"list_schemas\",\"id\":1\x7d"
    let before : List Act := [.take "a", .bind .isolated, .clone "b" "a", .request body (.ofSeconds 1)]
    let acts := before ++ [.stop "b", .drop "a", .drop "b", .take "c", .request body (.ofSeconds 90)]
    ∃ server h h', Server.new (.ofReads []) {} .empty = .ok server ∧
      (Host.start server).run before = some h ∧ h.isStopped? "a" = some false ∧
      (Host.start server).run acts = some h' ∧ h'.isStopped? "c" = some true ∧
      (h'.answer body (.ofSeconds 90)).2 =
        ⟨"2.0", none, some ⟨-32603, "Transport error: Server is shutting down", none⟩,
          some (.natural 1)⟩ := by
  intro body before acts
  let server : Server :=
    { listener := {}, metrics := none,
      service := { catalog := .empty, metrics := Metrics.empty.setSchemas 0,
                   deadline := .ofMilliseconds 60000, sendLimit := 25165824 } }
  have hcheck : Settings.check (.ofReads []) {} = .ok () := by decide +kernel
  have hnew : Server.new (.ofReads []) {} .empty = .ok server := by
    rw [Server.new, hcheck]
    rfl
  have hbefore : ((Host.start server).run before).bind (fun h => h.isStopped? "a") = some false := by
    decide +kernel
  have hafter : ((Host.start server).run acts).bind (fun h => h.isStopped? "c") = some true := by
    decide +kernel
  obtain ⟨h, hrun, hopen⟩ := Option.bind_eq_some_iff.mp hbefore
  obtain ⟨h', hrun', hended⟩ := Option.bind_eq_some_iff.mp hafter
  have hfinal := (Server.stop_final hnew hrun').1 (by decide)
  refine ⟨server, h, h', hnew, hrun, hopen, hrun', hended, ?_⟩
  exact hfinal.answers body _ ⟨"2.0", "list_schemas", none, some (.natural 1)⟩
    (by decide +kernel) (by decide)

end SchemaCatalog
