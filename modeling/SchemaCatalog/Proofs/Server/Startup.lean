import SchemaCatalog.Proofs.Document.Sources
import SchemaCatalog.Proofs.Rpc.Exchange
import SchemaCatalog.Proofs.Rpc.Protocol
import SchemaCatalog.Proofs.Settings
import SchemaCatalog.Server

/-!
# From settings to a server

Settings that pass can be relied on when the schemas are loaded, whatever the files hold by then: no fault
of the configuration comes up any more (`Settings.load_cases`). A server of the catalog that was loaded lists
just the schemas that are configured, at any time (`Server.answerCall_listing`), as requests change nothing
but its metrics (`Server.foldl_after_frame`). `Settings.startup_outcome` is both of this together.
-/

namespace SchemaCatalog

open Json (Codec Value)
open Rpc (byteSize)

/-! ### What a server is made of -/

namespace Server

variable {s bound : Server} {files : Files} {network : Network} {settings : Settings} {c : Catalog}

/-- A server that is made of settings and a catalog listens and answers as these say. -/
theorem eq_of_new (h : new files settings c = .ok s) :
    s.listener = settings.listener ∧
      s.service = { catalog := c, metrics := Metrics.empty.setSchemas c.size,
                    deadline := settings.listener.timeout, sendLimit := settings.listener.sendLimit } := by
  unfold new at h
  obtain ⟨_, _, h⟩ := bind_eq_ok_iff.mp h
  cases htls : settings.listener.tls with
  | none =>
    rw [htls] at h
    rw [← Except.ok.inj h]
    exact ⟨rfl, rfl⟩
  | some tls =>
    rw [htls] at h
    obtain ⟨_, _, h⟩ := bind_eq_ok_iff.mp h
    rw [← Except.ok.inj h]
    exact ⟨rfl, rfl⟩

/-- A server that is bound answers as it would before. -/
theorem eq_of_bind (h : bind network s = .ok bound) :
    bound.listener = s.listener ∧ bound.service = s.service := by
  unfold bind at h
  cases hstopped : s.isStopped with
  | true =>
    rw [hstopped] at h
    cases h
  | false =>
    rw [hstopped] at h
    obtain ⟨address, _, h⟩ := bind_eq_ok_iff.mp h
    cases hfailure : network.bindFailure [] address with
    | some failure =>
      simp only [hfailure] at h
      cases h
    | none =>
      simp only [hfailure] at h
      rw [← Except.ok.inj h]
      exact ⟨rfl, rfl⟩

/-! ### Requests that come before -/

/-- A request that reaches one of the listeners of a server. -/
inductive Visit where
  | call (r : Http.Request) (elapsed : Duration)
  | metrics (process : List Metrics.Family) (r : Http.Request)

/-- The server after a request. -/
def after (s : Server) : Visit → Server
  | .call r elapsed => (s.answerCall r elapsed).1
  | .metrics process r => (s.answerMetrics process r).1

/-- A request changes nothing but the metrics. -/
theorem after_frame (s : Server) (v : Visit) :
    ∃ metrics, s.after v = { s with service := { s.service with metrics } } := by
  cases v with
  | call r elapsed =>
    obtain ⟨metrics, hframe⟩ := s.service.route_frame s.listener.receiveLimit r elapsed
    refine ⟨metrics, ?_⟩
    show { s with service := (s.service.route s.listener.receiveLimit r elapsed).1 } = _
    rw [hframe]
  | metrics process r =>
    show ∃ metrics, { s with service := (s.service.routeMetrics process r).1 } = _
    rcases s.service.routeMetrics_frame process r with h | h
    · exact ⟨s.service.metrics, by rw [h]⟩
    · exact ⟨_, by rw [h]⟩

theorem foldl_after_frame (visits : List Visit) (s : Server) :
    ∃ metrics, visits.foldl after s = { s with service := { s.service with metrics } } := by
  induction visits generalizing s with
  | nil => exact ⟨s.service.metrics, rfl⟩
  | cons v rest ih =>
    obtain ⟨metrics, hframe⟩ := s.after_frame v
    obtain ⟨metrics', hrest⟩ := ih (s.after v)
    rw [List.foldl_cons, hrest, hframe]
    exact ⟨metrics', rfl⟩

/-! ### Listing -/

/-- The result of listing schemas, in its envelope. -/
def listing (ids : List Identity) : Value :=
  .object [("schemas", (Codec.list Identity.codec).toValue ids)]

/-- A request to list schemas that the limits of a listener permit, where `ids` is what there is to
list. -/
structure Lists (l : ListenerSettings) (ids : List Identity) (r : Http.Request)
    (call : Rpc.Request) : Prop where
  method : r.method = "POST"
  path : r.path = "/rpc"
  readable : r.isReadable = true
  received : r.body.length ≤ l.receiveLimit
  parses : Rpc.Request.codec.parse r.body = .ok call
  lists : call.method = "list_schemas"
  sent : byteSize (listing ids) ≤ l.sendLimit

/-- The answer to a call to list schemas. -/
def listingAnswer (ids : List Identity) (call : Rpc.Request) : Http.Answer :=
  .json (Rpc.Response.codec.print (.success call.id (listing ids)))

variable {r : Http.Request} {call : Rpc.Request} {elapsed : Duration}

/-- A server that has not been stopped lists the schemas of its catalog, if its limits permit. -/
theorem answerCall_listing (running : s.isStopped = false)
    (sendLimit : s.service.sendLimit = s.listener.sendLimit)
    (h : Lists s.listener s.service.catalog.list r call) :
    (s.answerCall r elapsed).2 = (listingAnswer s.service.catalog.list call).compress r := by
  -- The call looks the list up, whatever its parameters are, and the result fits.
  have hname : call.method = Rpc.Method.listSchemas.name := h.lists
  have hcall : s.service.call call.method (call.params.getD (.object [])) =
      .ok (listing s.service.catalog.list) := by
    rw [hname, Rpc.call_of_running running, Rpc.lookUp_listSchemas]
    have hsize : ¬ s.service.sendLimit < byteSize (listing s.service.catalog.list) := by
      rw [sendLimit]
      exact Nat.not_lt.mpr h.sent
    exact if_neg hsize
  have hother : call.method ≠ Rpc.healthCheck := hname ▸ Rpc.Service.name_ne_healthCheck _
  have hanswer : (s.service.answer r.body elapsed).2 =
      .success call.id (listing s.service.catalog.list) := by
    rw [s.service.answer_of_parse h.parses hother, hcall]
    rfl
  show (s.service.route s.listener.receiveLimit r elapsed).2 = _
  rw [s.service.route_rpc h.readable h.path h.method h.received, hanswer, listingAnswer]

end Server

/-! ### Starting -/

namespace Settings

variable {settings : Settings} {files content : Files}

/-- Settings that pass have sources of which the first one that is not loadable is told, or which are all
loaded. -/
theorem load_cases (passed : settings.check files = .ok ()) (content : Files) :
    (∃ before s after problem, settings.schemas = before ++ s :: after ∧
      (∀ s' ∈ before, s'.Loadable content) ∧ ¬ s.Loadable content ∧
      Catalog.load (Source.parse content) settings.schemas = .error (.build s.identity.key problem)) ∨
    ∃ c, Catalog.load (Source.parse content) settings.schemas = .ok c ∧
      (∀ s ∈ settings.schemas, s.Loadable content) ∧
      c.list.Perm (settings.schemas.map Source.identity) := by
  obtain ⟨passes, differ⟩ := sources_of_check passed
  exact Catalog.load_cases_of_files passes differ

/-- A catalog that was loaded from settings is listed by any server of it, whatever was asked before. -/
theorem listed_of_bind {c : Catalog} {network : Network} {server bound : Server}
    (made : Server.new files settings c = .ok server) (binds : server.bind network = .ok bound)
    (visits : List Server.Visit) {r : Http.Request} {call : Rpc.Request} {elapsed : Duration}
    (lists : Server.Lists settings.listener c.list r call) :
    ((visits.foldl Server.after bound).answerCall r elapsed).2 =
      (Server.listingAnswer c.list call).compress r := by
  obtain ⟨hlistener, hservice⟩ := Server.eq_of_new made
  obtain ⟨hlistener', hservice'⟩ := Server.eq_of_bind binds
  obtain ⟨metrics, hframe⟩ := Server.foldl_after_frame visits bound
  -- After all visits, catalog and limits are still those that the server was made of.
  have hlistener : bound.listener = settings.listener := hlistener'.trans hlistener
  have hservice : bound.service = _ := hservice'.trans hservice
  have hcatalog : (visits.foldl Server.after bound).service.catalog = c := by
    rw [hframe, hservice]
  rw [← hcatalog]
  apply Server.answerCall_listing
  · show (visits.foldl Server.after bound).service.stopped = false
    rw [hframe, hservice]
  · rw [hframe, hservice, hlistener]
  · rw [hcatalog, hframe, hlistener]
    exact lists

/-- **What becomes of settings that pass.** Whatever files are there when their schemas are loaded, the
configuration is not at fault any more: the error names the first schema in the order of the configuration
that is not loadable, or there is a catalog of just the schemas that are configured, each once. Any server of
it lists them, then and later, if its limits permit. -/
theorem startup_outcome
    (passed : settings.check files = .ok () ∨ ∃ path, load files path = .ok settings)
    (content : Files) :
    (∀ flaw, Catalog.load (Source.parse content) settings.schemas ≠ .error (.config flaw)) ∧
    ((∃ before s after problem, settings.schemas = before ++ s :: after ∧
        (∀ s' ∈ before, s'.Loadable content) ∧ ¬ s.Loadable content ∧
        Catalog.load (Source.parse content) settings.schemas =
          .error (.build s.identity.key problem)) ∨
      ∃ c, Catalog.load (Source.parse content) settings.schemas = .ok c ∧
        (∀ s ∈ settings.schemas, s.Loadable content) ∧
        c.list.Perm (settings.schemas.map Source.identity) ∧ c.list.Nodup ∧
        ∀ (files' : Files) (network : Network) (server bound : Server) (visits : List Server.Visit)
          (r : Http.Request) (call : Rpc.Request) (elapsed : Duration),
          Server.new files' settings c = .ok server → server.bind network = .ok bound →
          Server.Lists settings.listener c.list r call →
          ((visits.foldl Server.after bound).answerCall r elapsed).2 =
            (Server.listingAnswer c.list call).compress r) := by
  have hpassed : settings.check files = .ok () := by
    rcases passed with h | ⟨path, h⟩
    · exact h
    · exact check_of_load h
  rcases load_cases hpassed content with
    ⟨before, s, after, problem, hsplit, hbefore, hnot, hload⟩ | ⟨c, hload, hall, hperm⟩
  · refine ⟨?_, .inl ⟨before, s, after, problem, hsplit, hbefore, hnot, hload⟩⟩
    intro flaw hflaw
    rw [hload] at hflaw
    cases hflaw
  · have hnodup : c.list.Nodup := hperm.nodup_iff.mpr (sources_of_check hpassed).2
    refine ⟨?_, .inr ⟨c, hload, hall, hperm, hnodup, ?_⟩⟩
    · intro flaw hflaw
      rw [hload] at hflaw
      cases hflaw
    · intro files' network server bound visits r call elapsed made binds lists
      exact listed_of_bind made binds visits lists

/-- A schema whose file is missing is told; with the file, it is listed. -/
theorem startup_outcome_single :
    let files : Files := .ofReads [("conf.json", .ok (Utf8.encode
      ("\x7b\"schemas\":[\x7b\"name\":\"a\",\"vendor\":\"x\",\"version\":\"1\"," ++
        "\"files\":[\"a.json\"]\x7d]\x7d")))]
    let content : Files := .ofReads [("a.json", .ok (Utf8.encode "\x7b\"module\":\"m\"\x7d"))]
    let settings : Settings := { schemas := [⟨"a", "x", "1", ["a.json"]⟩] }
    let body := Utf8.encode "\x7b\"jsonrpc\":\"2.0\",\"method\":\"list_schemas\",\"id\":1\x7d"
    load files "conf.json" = .ok settings ∧
      (∃ problem, Catalog.load (Source.parse files) settings.schemas =
        .error (.build "a@x@1" problem)) ∧
      ∃ c server bound, Catalog.load (Source.parse content) settings.schemas = .ok c ∧
        Server.new files settings c = .ok server ∧ server.bind .isolated = .ok bound ∧
        ((bound.after (.metrics [] ⟨"GET", "/metrics", [], []⟩)).answerCall
            ⟨"POST", "/rpc", [], body⟩ (.ofSeconds 0)).2.body =
          "\x7b\"jsonrpc\":\"2.0\",\"result\":\x7b\"schemas\":[\x7b\"name\":\"a\"," ++
            "\"vendor\":\"x\",\"version\":\"1\"\x7d]\x7d,\"id\":1\x7d" := by
  intro files content settings body
  have hload : load files "conf.json" = .ok settings := by decide +kernel
  refine ⟨hload, ?_, ?_⟩
  · rcases (startup_outcome (.inr ⟨_, hload⟩) files).2 with
      ⟨before, s, after, problem, hsplit, _, _, herror⟩ | ⟨c, _, hall, _⟩
    · have hs : s ∈ settings.schemas := by
        rw [hsplit]
        exact List.mem_append_right _ List.mem_cons_self
      obtain rfl := List.mem_singleton.mp hs
      exact ⟨problem, herror⟩
    · obtain ⟨documents, _, _, hread, _⟩ := hall _ List.mem_cons_self
      cases hread with
      | cons hfirst _ =>
        obtain ⟨text, htext, _⟩ := hfirst
        have hmissing : files.readText "a.json" = .error .notFound := by decide +kernel
        rw [hmissing] at htext
        cases htext
  · have hsome : (Catalog.load (Source.parse content) settings.schemas).toOption.isSome = true := by
      decide +kernel
    rcases (startup_outcome (.inr ⟨_, hload⟩) content).2 with
      ⟨_, _, _, _, _, _, _, herror⟩ | ⟨c, hok, _, hperm, _, hlists⟩
    · rw [herror] at hsome
      cases hsome
    · have hlist : c.list = [⟨"a", "x", "1"⟩] := List.perm_singleton.mp hperm
      let server : Server :=
        { listener := settings.listener, metrics := settings.metrics,
          service := { catalog := c, metrics := Metrics.empty.setSchemas c.size,
                       deadline := settings.listener.timeout,
                       sendLimit := settings.listener.sendLimit } }
      have hcheck : settings.check files = .ok () := by decide +kernel
      have hnew : Server.new files settings c = .ok server := by
        rw [Server.new, hcheck]
        rfl
      have haddress : settings.listener.socketAddress = .ok (.v4 [0, 0, 0, 0] 55000) := by
        decide +kernel
      have hfree : Network.isolated.bindFailure [] (.v4 [0, 0, 0, 0] 55000) = none := by
        decide +kernel
      have hbind : server.bind .isolated =
          .ok { server with callAddress := some (.v4 [0, 0, 0, 0] 55000) } := by
        show (settings.listener.socketAddress >>= _) = _
        rw [haddress, ok_bind, hfree]
        rfl
      refine ⟨c, server, _, hok, hnew, hbind, ?_⟩
      have hanswer := hlists files .isolated server _ [.metrics [] ⟨"GET", "/metrics", [], []⟩]
        ⟨"POST", "/rpc", [], body⟩ ⟨"2.0", "list_schemas", none, some (.natural 1)⟩ (.ofSeconds 0)
        hnew hbind (by rw [hlist]; constructor <;> decide +kernel)
      rw [hlist] at hanswer
      refine (congrArg Http.Answer.body hanswer).trans ?_
      decide +kernel

end Settings

end SchemaCatalog
