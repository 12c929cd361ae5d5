import SchemaCatalog.Proofs.DataPath
import SchemaCatalog.Proofs.Identity.Order
import SchemaCatalog.Proofs.Index.Contents
import SchemaCatalog.Proofs.Metrics.Counters
import SchemaCatalog.Proofs.Rpc.Parameters
import SchemaCatalog.Proofs.Rpc.Queries

/-!
# The protocol

What a service has to answer is told here without the service: by what is registered under identities,
by whether the service has been stopped, and by how large results may be. `Finds` is about looking up,
`Replies` about a call, and `Prescribed` about a body. Each of them names codes and wordings itself. There is
one answer prescribed for every body, and it is the one that the service gives (`Service.answer_prescribed`).
-/

namespace SchemaCatalog.Rpc

open Json (Codec Value)

/-- What a call comes to. -/
inductive Reply where
  | result (document : Value)
  /-- A failure, with the outcome that the metrics count it under. -/
  | failure (outcome : String) (code : Int) (message : String)

namespace Reply

/-- The response of a reply to the request with an id. -/
def response (id : Option Value) : Reply → Response
  | result document => ⟨"2.0", some document, none, id⟩
  | failure _ code message => ⟨"2.0", none, some ⟨code, message, none⟩, id⟩

/-- The outcome that the metrics count a reply under. -/
def outcome : Reply → String
  | result _ => "ok"
  | failure outcome _ _ => outcome

/-- A parameter is missing. -/
def missing (p : Parameter) : Reply :=
  failure "invalid_params" (-32602) ("Invalid params: Missing required parameter: " ++ p.name)

/-- No schema is registered under an identity. -/
def unregistered (id : Identity) : Reply :=
  failure "not_found" (-32001) ("Schema not found: " ++ id.key)

/-- A schema has no such path. -/
def unindexed (id : Identity) (path : String) : Reply :=
  failure "not_found" (-32002) ("Path not found in schema " ++ id.key ++ ": " ++ path)

end Reply

/-- The path below which paths are asked for: an empty one if none is given. -/
inductive Lead (params : Value) : String → Prop where
  | given {s : String} (h : Given params .path s) : Lead params s
  | absent (h : ∀ s, ¬ Given params .path s) : Lead params ""

/-- A path that a call asks for has to be in the schema. Below a path of slashes only, all paths are
asked for. -/
inductive Seeks (params : Value) : Method → String → Prop where
  | element {path : String} (h : Given params .path path) : Seeks params .getElement path
  | below {lead : String} (h : Lead params lead) (more : ∃ c ∈ lead.toList, c ≠ '/') :
      Seeks params .expandPath lead

/-- What looking up comes to where `registered` has the entries of identities. -/
inductive Finds (registered : IdentityMap) (params : Value) : Method → Reply → Prop where
  | missing {call : Method} {p : Parameter} (lacks : Lacks params call.demands p) :
      Finds registered params call (.missing p)
  | unregistered {call : Method} {id : Identity} (about : call ≠ .listSchemas)
      (given : ∀ p ∈ call.demands, ∃ s, Given params p s) (names : Names params id)
      (none : registered id = none) : Finds registered params call (.unregistered id)
  | unindexed {call : Method} {id : Identity} {entry : Entry} {path : String}
      (names : Names params id) (found : registered id = some entry)
      (seeks : Seeks params call path) (absent : DataPath.ofText path ∉ entry.index.paths) :
      Finds registered params call (.unindexed id path)
  | element {id : Identity} {entry : Entry} {path : String} {e : Element}
      (names : Names params id) (found : registered id = some entry)
      (given : Given params .path path) (indexed : entry.index.get? path = some e) :
      Finds registered params .getElement (.result (.object [("element", Element.codec.toValue e)]))
  | schemas {ids : List Identity} (ascending : ids.Pairwise fun a b => compare a b = .lt)
      (mem_iff : ∀ id, id ∈ ids ↔ (registered id).isSome = true) :
      Finds registered params .listSchemas
        (.result (.object [("schemas", (Codec.list Identity.codec).toValue ids)]))
  | details {id : Identity} {entry : Entry} {d : Details} (names : Names params id)
      (found : registered id = some entry) (describes : d.Describes entry) :
      Finds registered params .getDetails (.result (.object [("schema", Details.codec.toValue d)]))
  | paths {id : Identity} {entry : Entry} {lead : String} {paths : List DataPath}
      (names : Names params id) (found : registered id = some entry) (below : Lead params lead)
      (indexed : (∃ c ∈ lead.toList, c ≠ '/') → DataPath.ofText lead ∈ entry.index.paths)
      (lists : entry.index.ListsBelow lead paths) :
      Finds registered params .expandPath
        (.result (.object [("paths", (Codec.list DataPath.codec).toValue paths)]))

/-- What the call of a method comes to. -/
inductive Replies (registered : IdentityMap) (stopped : Bool) (limit : Nat) (params : Value) :
    String → Reply → Prop where
  | stopped {method : String} (h : stopped = true) :
      Replies registered stopped limit params method
        (.failure "internal" (-32603) "Transport error: Server is shutting down")
  | unknown {method : String} (running : stopped = false) (h : ∀ call : Method, call.name ≠ method) :
      Replies registered stopped limit params method
        (.failure "method_not_found" (-32601) ("Method not found: " ++ method))
  | failed {call : Method} {outcome message : String} {code : Int} (running : stopped = false)
      (finds : Finds registered params call (.failure outcome code message)) :
      Replies registered stopped limit params call.name (.failure outcome code message)
  | tooLarge {call : Method} {document : Value} (running : stopped = false)
      (finds : Finds registered params call (.result document)) (large : limit < byteSize document) :
      Replies registered stopped limit params call.name
        (.failure "too_large" (-32004) ("Message too large: " ++ toString (byteSize document) ++
          " bytes exceeds limit of " ++ toString limit ++ " bytes"))
  | result {call : Method} {document : Value} (running : stopped = false)
      (finds : Finds registered params call (.result document)) (small : byteSize document ≤ limit) :
      Replies registered stopped limit params call.name (.result document)

/-- The name that the metrics count a method under. -/
inductive Counts : String → String → Prop where
  | known (call : Method) : Counts call.name call.name
  | unknown {method : String} (h : ∀ call : Method, call.name ≠ method) : Counts method "unknown"

/-- The response that a body has to be answered with, and the name and the outcome that the metrics have
to count it under, if at all. -/
inductive Prescribed (registered : IdentityMap) (stopped : Bool) (limit : Nat) (body : Bytes) :
    Response → Option (String × String) → Prop where
  | unreadable {e : Json.Error} (parse : Request.codec.parse body = .error e) :
      Prescribed registered stopped limit body
        ⟨"2.0", none, some ⟨-32700, "Parse error: " ++ e.message, none⟩, none⟩ none
  | healthy {r : Request} (parse : Request.codec.parse body = .ok r)
      (health : r.method = "health_check") :
      Prescribed registered stopped limit body
        ⟨"2.0", some (.object [("status", .string "ok")]), none, r.id⟩ none
  | call {r : Request} {reply : Reply} {name : String} (parse : Request.codec.parse body = .ok r)
      (other : r.method ≠ "health_check")
      (replies : Replies registered stopped limit (r.params.getD (.object [])) r.method reply)
      (counts : Counts r.method name) :
      Prescribed registered stopped limit body (reply.response r.id) (some (name, reply.outcome))

/-! ### Looking up -/

/-- What the result of a lookup comes to. -/
def Reply.ofLookUp (call : Method) : Except Error Value → Reply
  | .ok v => .result (call.wrap v)
  | .error e => .failure e.outcome e.rpcCode e.message

variable {c : Catalog} {m : IdentityMap} {params : Value} {call : Method} {reply : Reply}

theorem lead_iff {lead : String} :
    Lead params lead ↔ (textParam? params "path").getD "" = lead := by
  have hread : readParam params .path = textParam? params "path" := rfl
  rw [← hread]
  constructor
  · intro h
    cases h with
    | given h => rw [given_iff.mp h, Option.getD_some]
    | absent h => rw [not_given_iff.mp h, Option.getD_none]
  · rintro rfl
    cases hpath : readParam params .path with
    | some path => exact .given (given_iff.mpr hpath)
    | none => exact .absent (not_given_iff.mpr hpath)

theorem get_of_registered (h : c.Represents m) {id : Identity} {entry : Entry}
    (found : m id = some entry) : c.get id = .ok entry := by
  rw [h.get_eq, found]

theorem element_of_not_mem {entry : Entry} {path : String}
    (h : DataPath.ofText path ∉ entry.index.paths) :
    entry.element path = .error (.pathNotFound entry.identity.key path) := by
  unfold Entry.element
  cases hget : entry.index.get? path with
  | none => rfl
  | some e => exact absurd ((Index.ofText_mem_paths_iff _ _).mpr ⟨e, hget⟩) h

/-- The paths below a path are asked for only if that one is in the schema, or has slashes only. -/
theorem expandEntry_of_mem {entry : Entry} {lead : String}
    (h : (∃ c ∈ lead.toList, c ≠ '/') → DataPath.ofText lead ∈ entry.index.paths) :
    expandEntry entry lead = .ok (entry.index.expand lead) := by
  apply Client.Query.expandEntry_of_indexed
  intro more
  obtain ⟨e, he⟩ := (Index.ofText_mem_paths_iff _ _).mp (h more)
  exact ⟨e, by rw [Entry.element, he]⟩

theorem expandEntry_of_not_mem {entry : Entry} {lead : String} (more : ∃ c ∈ lead.toList, c ≠ '/')
    (h : DataPath.ofText lead ∉ entry.index.paths) :
    expandEntry entry lead = .error (.pathNotFound entry.identity.key lead) := by
  rw [Client.Query.expandEntry_of_more more, element_of_not_mem h]
  rfl

/-- Looking up comes to what it has to. -/
theorem Finds.eq_ofLookUp (h : c.Represents m) (finds : Finds m params call reply) :
    reply = .ofLookUp call (lookUp c params call) := by
  -- In all cases but the first one the parameters are read without an error.
  cases finds with
  | @missing _ p lacks =>
    have hmessage : "Invalid params: Missing required parameter: " ++ p.name =
        "Invalid params: " ++ ("Missing required parameter: " ++ p.name) := by
      rw [← String.append_assoc]
      rfl
    rw [lookUp_of_lacks c lacks, Reply.missing, hmessage]
    rfl
  | @unregistered _ id about given names none =>
    have hid := identityParam_of_names names
    have hget : c.get id = .error (.schemaNotFound id.key) := by rw [h.get_eq, none]
    cases call with
    | getElement =>
      obtain ⟨path, hpath⟩ := given .path (by decide)
      rw [lookUp_getElement c hid, textParam_path hpath, ok_bind, Catalog.getElement, hget]
      rfl
    | listSchemas => exact absurd rfl about
    | getDetails =>
      rw [lookUp_getDetails c hid, hget]
      rfl
    | expandPath =>
      rw [lookUp_expandPath c hid, hget]
      rfl
  | @unindexed _ id entry path names found seeks absent =>
    have hid := identityParam_of_names names
    have hget := get_of_registered h found
    rw [← h.identity_eq id entry found]
    cases seeks with
    | element hpath =>
      rw [lookUp_getElement c hid, textParam_path hpath, ok_bind, Catalog.getElement, hget, ok_bind,
        element_of_not_mem absent]
      rfl
    | below hlead more =>
      rw [lookUp_expandPath c hid, hget, ok_bind, lead_iff.mp hlead,
        expandEntry_of_not_mem more absent]
      rfl
  | @element id entry path e names found given indexed =>
    have hget := get_of_registered h found
    rw [lookUp_getElement c (identityParam_of_names names), textParam_path given, ok_bind,
      Catalog.getElement, hget, ok_bind, Entry.element, indexed]
    rfl
  | schemas ascending mem_iff =>
    rw [lookUp_listSchemas, h.list_eq ascending mem_iff]
    rfl
  | @details id entry d names found describes =>
    have hget := get_of_registered h found
    rw [lookUp_getDetails c (identityParam_of_names names), hget, Details.describes_iff.mp describes]
    rfl
  | @paths id entry lead paths names found below indexed lists =>
    have hget := get_of_registered h found
    rw [lookUp_expandPath c (identityParam_of_names names), hget, ok_bind, lead_iff.mp below,
      expandEntry_of_mem indexed, Index.listsBelow_iff.mp lists]
    rfl

/-- A result that is found is the one that is looked up, in its envelope. -/
theorem Finds.exists_ok (h : c.Represents m) {document : Value}
    (finds : Finds m params call (.result document)) :
    ∃ v, lookUp c params call = .ok v ∧ call.wrap v = document := by
  have heq := finds.eq_ofLookUp h
  cases hresult : lookUp c params call with
  | error e =>
    rw [hresult] at heq
    cases heq
  | ok v =>
    rw [hresult] at heq
    cases heq
    exact ⟨v, rfl, rfl⟩

/-- A failure is that of looking up. -/
theorem Finds.exists_error (h : c.Represents m) {outcome message : String} {code : Int}
    (finds : Finds m params call (.failure outcome code message)) :
    ∃ e, lookUp c params call = .error e ∧ e.outcome = outcome ∧ e.rpcCode = code ∧
      e.message = message := by
  have heq := finds.eq_ofLookUp h
  cases hresult : lookUp c params call with
  | ok v =>
    rw [hresult] at heq
    cases heq
  | error e =>
    rw [hresult] at heq
    cases heq
    exact ⟨e, rfl, rfl, rfl, rfl⟩

/-- A call looks up something. -/
theorem exists_finds (h : c.Represents m) (params : Value) (call : Method) :
    ∃ reply, Finds m params call reply := by
  -- The rules are tried in their order: the demands, the entry, and then the path if there is one.
  rcases given_or_lacks params call.demands with given | ⟨p, lacks⟩
  · by_cases about : call = .listSchemas
    · rw [about]
      exact ⟨_, .schemas h.list_ascending h.mem_list_iff⟩
    · obtain ⟨id, names⟩ : ∃ id, Names params id := by
        apply exists_names
        intro q hq
        apply given
        cases call <;> simp_all [Method.demands]
      cases found : m id with
      | none => exact ⟨_, .unregistered about given names found⟩
      | some entry =>
        cases call with
        | getElement =>
          obtain ⟨path, hpath⟩ := given .path (by decide)
          by_cases hindexed : DataPath.ofText path ∈ entry.index.paths
          · obtain ⟨e, he⟩ := (Index.ofText_mem_paths_iff _ _).mp hindexed
            exact ⟨_, .element names found hpath he⟩
          · exact ⟨_, .unindexed names found (.element hpath) hindexed⟩
        | listSchemas => exact absurd rfl about
        | getDetails => exact ⟨_, .details names found (Details.describes_ofEntry entry)⟩
        | expandPath =>
          obtain ⟨lead, hlead⟩ : ∃ lead, Lead params lead := ⟨_, lead_iff.mpr rfl⟩
          by_cases hindexed :
            (∃ c ∈ lead.toList, c ≠ '/') → DataPath.ofText lead ∈ entry.index.paths
          · exact ⟨_, .paths names found hlead hindexed (entry.index.listsBelow_expand lead)⟩
          · rw [Classical.not_imp] at hindexed
            exact ⟨_, .unindexed names found (.below hlead hindexed.1) hindexed.2⟩
  · exact ⟨_, .missing lacks⟩

/-! ### Calls -/

/-- What the result of a call comes to. -/
def Reply.ofCall (method : String) : Except Refusal Value → Reply
  | .ok v => .result v
  | .error refusal => .failure refusal.outcome refusal.code (refusal.message method)

theorem ofName?_eq_none_iff {method : String} :
    Method.ofName? method = none ↔ ∀ call : Method, call.name ≠ method := by
  rw [Method.ofName?, List.find?_eq_none]
  constructor
  · intro h call hcall
    exact h call (by cases call <;> decide) (by simpa using hcall)
  · intro h call _
    simpa using h call

variable {s : Service} {elapsed : Duration} {method : String}

/-- A call that looks something up. -/
theorem call_of_running (running : s.stopped = false) (params : Value) (call : Method) :
    s.call call.name params =
      ((lookUp s.catalog params call).mapError .failed >>= fun v => s.withinSize (call.wrap v)) := by
  rw [Service.call, Service.complete, Service.byDeadline, Option.getD_some, Service.dispatch,
    if_neg (ne_true_of_eq_false running), Method.ofName?_name]
  simp only [wrapResult, Method.ofName?_name]

/-- A call that is refused before anything is looked up. -/
theorem call_of_refused {refusal : Refusal} (refused : s.dispatch method params = .error refusal) :
    s.call method params = .error refusal := by
  rw [Service.call, Service.complete, Service.byDeadline, Option.getD_some, refused]
  rfl

/-- A call comes to what it has to. -/
theorem Replies.eq_ofCall (h : s.catalog.Represents m)
    (replies : Replies m s.stopped s.sendLimit params method reply) :
    reply = .ofCall method (s.call method params) := by
  cases replies with
  | stopped hstopped =>
    rw [call_of_refused (by rw [Service.dispatch, if_pos hstopped])]
    rfl
  | unknown running hunknown =>
    rw [call_of_refused (by
      rw [Service.dispatch, if_neg (ne_true_of_eq_false running), ofName?_eq_none_iff.mpr hunknown])]
    rfl
  | failed running finds =>
    obtain ⟨e, hlookUp, rfl, rfl, rfl⟩ := finds.exists_error h
    rw [call_of_running running, hlookUp]
    rfl
  | tooLarge running finds large =>
    obtain ⟨v, hlookUp, rfl⟩ := finds.exists_ok h
    rw [call_of_running running, hlookUp, Except.mapError, ok_bind, Service.withinSize,
      if_pos large]
    rfl
  | result running finds small =>
    obtain ⟨v, hlookUp, rfl⟩ := finds.exists_ok h
    rw [call_of_running running, hlookUp, Except.mapError, ok_bind, Service.withinSize,
      if_neg (Nat.not_lt.mpr small)]
    rfl

/-- A call comes to something. -/
theorem exists_replies (h : c.Represents m) (stopped : Bool) (limit : Nat) (params : Value)
    (method : String) : ∃ reply, Replies m stopped limit params method reply := by
  cases stopped with
  | true => exact ⟨_, .stopped rfl⟩
  | false =>
    by_cases hunknown : ∀ call : Method, call.name ≠ method
    · exact ⟨_, .unknown rfl hunknown⟩
    · push Not at hunknown
      obtain ⟨call, rfl⟩ := hunknown
      obtain ⟨reply, finds⟩ := exists_finds h params call
      cases reply with
      | failure outcome code message => exact ⟨_, .failed rfl finds⟩
      | result document =>
        rcases Nat.lt_or_ge limit (byteSize document) with large | small
        · exact ⟨_, .tooLarge rfl finds large⟩
        · exact ⟨_, .result rfl finds small⟩

theorem counts_iff {name : String} : Counts method name ↔ name = Service.label method := by
  unfold Service.label
  cases hcall : Method.ofName? method with
  | none =>
    have hunknown := ofName?_eq_none_iff.mp hcall
    constructor
    · rintro (call | _)
      · exact absurd rfl (hunknown call)
      · rfl
    · rintro rfl
      exact .unknown hunknown
  | some call =>
    obtain rfl : call.name = method := by simpa using List.find?_some hcall
    constructor
    · intro h
      generalize hmethod : call.name = method at h
      cases h with
      | known => rfl
      | unknown hunknown => exact absurd hmethod (hunknown call)
    · rintro rfl
      exact .known call

/-! ### Answers -/

/-- The service after an answer that took `elapsed`: its metrics have recorded a call under a name and an
outcome, or there was none to record. All else is as before. -/
inductive Service.Counted (s : Service) (elapsed : Duration) :
    Option (String × String) → Service → Prop where
  | none : Counted s elapsed none s
  | call {name outcome : String} {metrics : Metrics}
      (records : s.metrics.Records metrics name outcome elapsed) :
      Counted s elapsed (some (name, outcome)) { s with metrics }

/-- A response as it is written: it names the version and the id of the request, and gives either a
result or an error. -/
structure Response.Proper (r : Response) : Prop where
  version : (Response.codec.write r).get? "jsonrpc" = some (.string "2.0")
  id : (Response.codec.write r).get? "id" = some (r.id.getD .null)
  result_iff : ((Response.codec.write r).get? "result").isSome = true ↔
    (Response.codec.write r).get? "error" = none

theorem Reply.proper_response (id : Option Value) (reply : Reply) : (reply.response id).Proper := by
  cases reply with
  | result document => cases id <;> exact ⟨rfl, rfl, iff_of_true rfl rfl⟩
  | failure outcome code message =>
    cases id <;> exact ⟨rfl, rfl, iff_of_false Bool.false_ne_true (Option.some_ne_none _)⟩

variable {body : Bytes} {response : Response} {counted : Option (String × String)}

/-- The response to a request says what its call comes to. -/
theorem Service.conclude_response (s : Service) (r : Request) (elapsed : Duration)
    (result : Except Refusal Value) :
    (s.conclude r elapsed result).2 = (Reply.ofCall r.method result).response r.id := by
  cases result with
  | ok v => rfl
  | error refusal => rfl

/-- A request is counted once. -/
theorem Service.conclude_counted (s : Service) (r : Request) (elapsed : Duration)
    (result : Except Refusal Value) :
    s.Counted elapsed (some (label r.method, outcome result)) (s.conclude r elapsed result).1 := by
  rw [s.conclude_service]
  exact .call (s.metrics.records_observe _ _ elapsed)

theorem Reply.outcome_ofCall (method : String) (result : Except Refusal Value) :
    (ofCall method result).outcome = Service.outcome result := by
  cases result with
  | ok v => rfl
  | error refusal => rfl

/-- The service gives an answer that is prescribed. -/
theorem Prescribed.answer_eq (h : s.catalog.Represents m)
    (prescribed : Prescribed m s.stopped s.sendLimit body response counted) :
    (s.answer body elapsed).2 = response ∧ s.Counted elapsed counted (s.answer body elapsed).1 := by
  cases prescribed with
  | unreadable parse =>
    rw [s.answer_of_unreadable parse]
    exact ⟨rfl, .none⟩
  | @healthy r parse health =>
    rw [s.answer_of_health parse health]
    exact ⟨rfl, .none⟩
  | @call r reply name parse other replies counts =>
    rw [s.answer_of_parse parse other, replies.eq_ofCall h, counts_iff.mp counts,
      Reply.outcome_ofCall]
    exact ⟨s.conclude_response r elapsed _, s.conclude_counted r elapsed _⟩

/-- Some answer is prescribed to every body. -/
theorem exists_prescribed (h : c.Represents m) (stopped : Bool) (limit : Nat) (body : Bytes) :
    ∃ response counted, Prescribed m stopped limit body response counted := by
  cases parse : Request.codec.parse body with
  | error e => exact ⟨_, _, .unreadable parse⟩
  | ok r =>
    by_cases health : r.method = "health_check"
    · exact ⟨_, _, .healthy parse health⟩
    · obtain ⟨reply, replies⟩ := exists_replies h stopped limit (r.params.getD (.object [])) r.method
      exact ⟨_, _, .call parse health replies (counts_iff.mpr rfl)⟩

/-- The answers that are prescribed are proper. -/
theorem Prescribed.proper {stopped : Bool} {limit : Nat}
    (prescribed : Prescribed m stopped limit body response counted) : response.Proper := by
  cases prescribed with
  | @unreadable e parse =>
    exact (Reply.failure "" (-32700) ("Parse error: " ++ e.message)).proper_response none
  | @healthy r parse health =>
    exact (Reply.result (.object [("status", .string "ok")])).proper_response r.id
  | call parse other replies counts => exact Reply.proper_response _ _

/-- **Every body gets the one answer that the protocol prescribes.** -/
theorem Service.answer_prescribed (start : Catalog.Starts c m) (changes : List Change)
    (state : s.catalog = (c.run changes).1) (body : Bytes) (elapsed : Duration) :
    (∀ response, (∃ counted, Prescribed (m.run changes).1 s.stopped s.sendLimit body response counted) ↔
      (s.answer body elapsed).2 = response) ∧
    (∀ response counted, Prescribed (m.run changes).1 s.stopped s.sendLimit body response counted →
      s.Counted elapsed counted (s.answer body elapsed).1) ∧
    (s.answer body elapsed).2.Proper := by
  have h : s.catalog.Represents (m.run changes).1 :=
    state ▸ (start.mirrors.run changes).2.represents
  -- Whatever is prescribed is what the service answers, so that nothing else can be.
  obtain ⟨response, counted, prescribed⟩ := exists_prescribed h s.stopped s.sendLimit body
  have hanswer : (s.answer body elapsed).2 = response := (prescribed.answer_eq h).1
  refine ⟨?_, ?_, ?_⟩
  · intro response'
    constructor
    · rintro ⟨counted', prescribed'⟩
      exact (prescribed'.answer_eq h).1
    · rintro rfl
      rw [hanswer]
      exact ⟨counted, prescribed⟩
  · intro response' counted' prescribed'
    exact (prescribed'.answer_eq h).2
  · rw [hanswer]
    exact prescribed.proper

/-- Where `schema` is an object, the version beside it does not count. -/
theorem Service.answer_prescribed_nested :
    let changes : List Change :=
      [.put ⟨⟨"test", "x", "1"⟩, .interfaces, (Index.build .interfaces).toOption.getD .empty⟩]
    let s : Service := { catalog := (Catalog.empty.run changes).1 }
    let body := Utf8.encode ("\x7b\"jsonrpc\":\"2.0\",\"method\":\"get_schema_details\",\"params\":" ++
      "\x7b\"schema\":\x7b\"name\":\"test\",\"vendor\":\"x\"\x7d,\"version\":\"1\"\x7d,\"id\":7\x7d")
    let response : Response := ⟨"2.0", none,
      some ⟨-32602, "Invalid params: Missing required parameter: version", none⟩, some (.natural 7)⟩
    Catalog.Starts .empty .empty ∧ (s.answer body (.ofSeconds 0)).2 = response ∧ response.Proper ∧
      ∃ counted, Prescribed (IdentityMap.empty.run changes).1 s.stopped s.sendLimit body response
        counted := by
  intro changes s body response
  have hanswer : (s.answer body (.ofSeconds 0)).2 = response := by decide +kernel
  obtain ⟨hiff, _, hproper⟩ := answer_prescribed (s := s) .empty changes rfl body (.ofSeconds 0)
  rw [hanswer] at hproper
  exact ⟨.empty, hanswer, hproper, (hiff response).mpr hanswer⟩

end SchemaCatalog.Rpc
