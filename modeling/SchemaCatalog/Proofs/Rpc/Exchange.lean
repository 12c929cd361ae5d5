import SchemaCatalog.Http.Router
import SchemaCatalog.Proofs.Rpc.Queries

/-!
# One call and the reply to it

Whatever a catalog has to say to a query, a service with that catalog answers the call of it with
`Query.response`: the result in the envelope of the method, or the error (`Service.answer_ask`). The reply
reaches the client in pieces, from which it gets the response back (`Client.result_eq`), and out of that the
result or the error (`Client.answer_ask`).
-/

namespace SchemaCatalog

open Json (Codec Value)
open Json.Codec

/-- The error as a remote caller is told it. -/
def Error.told (e : Error) : Error := .rpc e.rpcCode e.message

theorem Error.isNotFound_told (e : Error) : e.told.isNotFound = e.isNotFound := by
  cases e <;> rfl

theorem Error.isTimeout_told (e : Error) : e.told.isTimeout = e.isTimeout := by
  cases e <;> rfl

/-- The answer arrives as it is: its status, and its body in pieces, with its length told before if at
all. -/
structure Http.Reply.Delivers (reply : Http.Reply) (answer : Http.Answer) : Prop where
  status_eq : reply.status = answer.status
  flatten_eq : reply.chunks.flatten = answer.body.toUTF8.toList
  length_eq : ∀ n, reply.declaredLength = some n → n = answer.body.toUTF8.toList.length

/-- The length of the body is that which is told before, if one is. -/
def Http.Reply.TellsLength (reply : Http.Reply) : Prop :=
  ∀ n, reply.declaredLength = some n → n = reply.chunks.flatten.length

theorem Http.Reply.Delivers.tellsLength {reply : Http.Reply} {answer : Http.Answer}
    (delivers : reply.Delivers answer) : reply.TellsLength := by
  intro n hn
  rw [delivers.flatten_eq]
  exact delivers.length_eq n hn

/-- An answer arrives in one piece. -/
theorem Http.Answer.delivers_reply (answer : Http.Answer) : answer.reply.Delivers answer where
  status_eq := rfl
  flatten_eq := List.flatten_singleton
  length_eq n hn := by
    rw [Http.Answer.reply] at hn
    split_ifs at hn
    exact (Option.some.inj hn).symm

namespace Rpc

/-! ### Parameters -/

/-- Members ascend if their names do. -/
theorem namesAscend_iff (members : List (String × Value)) :
    Value.NamesAscend members ↔
      (members.map Prod.fst).Pairwise fun name name' => compare name name' = .lt := by
  rw [List.pairwise_map]
  rfl

/-- The parameters of a call about a schema can be sent. -/
theorem sendable_identityParams (id : Identity) (path : Option String) :
    Sendable (Client.identityParams id path) := by
  cases path with
  | none =>
    refine ⟨⟨by decide, trivial, trivial, trivial, trivial⟩,
      ⟨(namesAscend_iff _).mpr ?_, trivial, trivial, trivial, trivial⟩, Value.noConfusion⟩
    show ["name", "vendor", "version"].Pairwise _
    decide +kernel
  | some path =>
    refine ⟨⟨by decide, trivial, trivial, trivial, trivial, trivial⟩,
      ⟨(namesAscend_iff _).mpr ?_, trivial, trivial, trivial, trivial, trivial⟩, Value.noConfusion⟩
    show ["name", "path", "vendor", "version"].Pairwise _
    decide +kernel

theorem Client.Query.sendable_params {α : Type} (query : Query α) : Sendable query.params := by
  cases query with
  | element id path => exact sendable_identityParams id (some path)
  | schemas => exact ⟨⟨by decide, trivial⟩, ⟨.nil, trivial⟩, Value.noConfusion⟩
  | details id => exact sendable_identityParams id none
  | paths id lead => exact sendable_identityParams id (some lead)

/-- The number of a call can be sent. -/
theorem Client.sendable_nextId (c : Client) (v : Value)
    (hv : some (.natural c.nextId.toNat) = some v) : Sendable v := by
  have hlt := c.nextId.toNat_lt
  have hmax : Json.Number.maxInteger = 18446744073709551615 := rfl
  rw [← Option.some.inj hv]
  apply sendable_natural
  omega

/-! ### Responses -/

namespace Client.Query

variable {α : Type} {c : Catalog} {query : Query α} {x : Except Error α}

/-- The response that says a result of a query, or an error. -/
def response (id : Option Value) (query : Query α) : Except Error α → Response
  | .ok y => .success id (query.method.wrap (query.codec.toValue y))
  | .error e => .failure id e.rpcCode e.message

/-- Results of the methods with lists are lists. -/
theorem isNull_toValue (hlist : query.method.isList = true) (x : α) :
    (query.codec.toValue x).isNull = false := by
  cases query with
  | element id path => cases hlist
  | schemas => rfl
  | details id => cases hlist
  | paths id lead => rfl

/-- A result stands in its envelope as it is. -/
theorem wrap_toValue (query : Query α) (x : α) :
    query.method.wrap (query.codec.toValue x) =
      .object [(query.method.key, query.codec.toValue x)] := by
  rw [Method.wrap]
  cases hlist : query.method.isList with
  | false => rfl
  | true => rw [isNull_toValue hlist]; rfl

/-- A result in its envelope can be sent. -/
theorem sendable_wrap (words : c.WordSized) {y : α} (answers : query.Answers c (.ok y)) :
    Sendable (query.method.wrap (query.codec.toValue y)) := by
  rw [wrap_toValue]
  refine ⟨⟨by decide, ?_, trivial⟩, ⟨List.pairwise_singleton _ _, ?_, trivial⟩, Value.noConfusion⟩
  · exact Value.plain_sorted (answers.plain words _)
  · exact Value.ascending_sorted _

/-- The client gets the response back from the text of it. -/
theorem parse_response (words : c.WordSized) (answers : query.Answers c x) {id : Option Value}
    (hid : ∀ v, id = some v → Sendable v) :
    Response.codec.parse (Response.codec.print (query.response id x)).toUTF8.toList =
      .ok (query.response id x) := by
  cases x with
  | ok y => exact parse_success (sendable_wrap words answers) hid
  | error e =>
    have hcode : e.rpcCode = -32001 ∨ e.rpcCode = -32002 := by
      rcases answers.error_cases with ⟨key, rfl⟩ | ⟨key, path, rfl⟩
      · exact .inl rfl
      · exact .inr rfl
    exact parse_failure e.message (by omega) (by omega) hid

/-- A result is taken out of its envelope. -/
theorem unwrapResult_wrap (query : Query α) (x : α) :
    unwrapResult query.method.name (query.method.wrap (query.codec.toValue x)) =
      query.codec.toValue x := by
  rw [wrap_toValue, unwrapResult, resultKey, Method.ofName?_name]
  show (List.lookup query.method.key [(query.method.key, query.codec.toValue x)]).getD .null = _
  rw [List.lookup_cons_self]
  rfl

/-- The client takes what the catalog has to say out of the response, errors as they are told. -/
theorem outcome_response (words : c.WordSized) (answers : query.Answers c x) (id : Option Value) :
    (outcome query.method.name (query.response id x) >>= fun v =>
        (query.codec.fromValue v).mapError Error.json) = x.mapError Error.told := by
  cases x with
  | ok y =>
    show (query.codec.fromValue
      (unwrapResult _ (query.method.wrap (query.codec.toValue y)))).mapError Error.json = _
    rw [unwrapResult_wrap, (answers.acceptsBack words).fromValue]
    rfl
  | error e => rfl

end Client.Query

/-! ### Requests -/

namespace Client

variable {α : Type} {c : Client} {query : Query α} {r : Http.Request}

/-- What is sent for a query goes to the address of the client, and holds the next call. -/
theorem exists_url_of_ask (sent : (c.ask query).2 = some r) :
    ∃ url, callUrl? c.base = some url ∧ url.isSendable = true ∧
      r = ⟨"POST", url.target, [("content-type", "application/json"), ("accept-encoding", "gzip")],
        (Request.codec.print (c.message query.method.name query.params)).toUTF8.toList⟩ := by
  rw [ask, request] at sent
  dsimp only at sent
  rw [Option.map_eq_some_iff] at sent
  obtain ⟨url, hfilter, hrequest⟩ := sent
  rw [Option.filter_eq_some_iff] at hfilter
  exact ⟨url, hfilter.1, hfilter.2, hrequest.symm⟩

theorem method_of_ask (sent : (c.ask query).2 = some r) : r.method = "POST" := by
  obtain ⟨url, -, -, rfl⟩ := exists_url_of_ask sent
  rfl

theorem isReadable_of_ask (sent : (c.ask query).2 = some r) : r.isReadable = true := by
  obtain ⟨url, -, -, rfl⟩ := exists_url_of_ask sent
  have hvalues : ([("content-type", "application/json"), ("accept-encoding", "gzip")].filter fun h =>
      Http.lowerAscii h.1 == "content-encoding").map (·.2) = ([] : List String) := by
    decide +kernel
  rw [Http.Request.isReadable, Http.Request.headerValues, hvalues]

/-- The call is read back from what is sent. -/
theorem parse_of_ask (sent : (c.ask query).2 = some r) :
    Request.codec.parse r.body = .ok (c.message query.method.name query.params) := by
  obtain ⟨url, -, -, rfl⟩ := exists_url_of_ask sent
  exact parse_request (fun v hv => Option.some.inj hv ▸ query.sendable_params) c.sendable_nextId

end Client

/-! ### Serving -/

namespace Service

variable {α : Type} {s : Service} {query : Client.Query α} {x : Except Error α} {elapsed : Duration}

/-- An answer changes nothing but the metrics. -/
theorem answer_frame (s : Service) (body : Bytes) (elapsed : Duration) :
    ∃ metrics, (s.answer body elapsed).1 = { s with metrics } := by
  cases parse : Request.codec.parse body with
  | error e =>
    rw [s.answer_of_unreadable parse]
    exact ⟨s.metrics, rfl⟩
  | ok r =>
    by_cases health : r.method = healthCheck
    · rw [s.answer_of_health parse health]
      exact ⟨s.metrics, rfl⟩
    · rw [s.answer_of_parse parse health, s.conclude_service]
      exact ⟨_, rfl⟩

theorem route_frame (s : Service) (receiveLimit : Nat) (r : Http.Request) (elapsed : Duration) :
    ∃ metrics, (s.route receiveLimit r elapsed).1 = { s with metrics } := by
  rw [route]
  split_ifs
  · exact ⟨s.metrics, rfl⟩
  · show ∃ metrics, (s.routeCall receiveLimit r elapsed).1 = { s with metrics }
    rw [routeCall]
    split_ifs
    · exact ⟨s.metrics, rfl⟩
    · exact ⟨s.metrics, rfl⟩
    · exact ⟨s.metrics, rfl⟩
    · exact s.answer_frame r.body elapsed
    · exact ⟨s.metrics, rfl⟩

/-- Scraping changes nothing but the number of schemas that is shown. -/
theorem routeMetrics_frame (s : Service) (process : List Metrics.Family) (r : Http.Request) :
    (s.routeMetrics process r).1 = s ∨
      (s.routeMetrics process r).1 = { s with metrics := s.metrics.setSchemas s.catalog.size } := by
  rw [routeMetrics]
  split_ifs
  · exact .inr rfl
  · exact .inl rfl
  · exact .inl rfl

/-- When the call of a query is answered without regard to limits: the service has not been stopped, and no
result is too large in its envelope. -/
structure CanServe (s : Service) (query : Client.Query α) : Prop where
  running : s.stopped = false
  fits : ∀ y, query.Answers s.catalog (.ok y) →
    byteSize (query.method.wrap (query.codec.toValue y)) ≤ s.sendLimit

/-- A call gives the result in its envelope, or fails as the catalog does. -/
theorem call_params (h : s.CanServe query) (answers : query.Answers s.catalog x) :
    s.call query.method.name query.params =
      (x.map fun y => query.method.wrap (query.codec.toValue y)).mapError .failed := by
  have hdispatch : s.dispatch query.method.name query.params =
      (x.map query.codec.toValue).mapError .failed := by
    rw [dispatch, if_neg (ne_true_of_eq_false h.running), Method.ofName?_name, ← answers.lookUp_eq]
  rw [call, complete, byDeadline, Option.getD_some, hdispatch]
  cases x with
  | error e => rfl
  | ok y =>
    rw [Except.map, Except.mapError, ok_bind, wrapResult, Method.ofName?_name, withinSize,
      if_neg (Nat.not_lt.mpr (h.fits y answers))]
    rfl

theorem name_ne_healthCheck (m : Method) : m.name ≠ healthCheck := by
  cases m <;> decide

/-- The call of a query is answered with what the catalog has to say. -/
theorem answer_ask (h : s.CanServe query) (answers : query.Answers s.catalog x) {c : Client}
    {r : Http.Request} (sent : (c.ask query).2 = some r) (elapsed : Duration) :
    (s.answer r.body elapsed).2 = query.response (some (.natural c.nextId.toNat)) x := by
  have hmethod : (c.message query.method.name query.params).method ≠ healthCheck :=
    name_ne_healthCheck query.method
  have hcall : s.call (c.message query.method.name query.params).method
      ((c.message query.method.name query.params).params.getD (.object [])) = _ :=
    call_params h answers
  rw [s.answer_of_parse (Client.parse_of_ask sent) hmethod, hcall]
  cases x with
  | ok y => rfl
  | error e => rfl

/-- A readable request at the path for calls is answered with the response to its body, perhaps
compressed, unless that is too long. -/
theorem route_post (s : Service) (receiveLimit : Nat) {r : Http.Request} (readable : r.isReadable = true)
    (path : r.path = "/rpc") (method : r.method = "POST") (elapsed : Duration) :
    s.route receiveLimit r elapsed =
      if receiveLimit < r.body.length then (s, Http.Answer.tooLarge.compress r)
      else ((s.answer r.body elapsed).1,
        (Http.Answer.json (Response.codec.print (s.answer r.body elapsed).2)).compress r) := by
  rw [route, readable, if_neg (by decide)]
  dsimp only
  rw [routeCall, path, method, if_neg (by decide), if_pos rfl, if_neg (by decide)]
  split_ifs
  · rfl
  · rfl

/-- The answer to a body that is not too long. -/
theorem route_rpc (s : Service) {receiveLimit : Nat} {r : Http.Request} (readable : r.isReadable = true)
    (path : r.path = "/rpc") (method : r.method = "POST") (small : r.body.length ≤ receiveLimit) :
    (s.route receiveLimit r elapsed).2 =
      (Http.Answer.json (Response.codec.print (s.answer r.body elapsed).2)).compress r := by
  rw [s.route_post receiveLimit readable path method, if_neg (Nat.not_lt.mpr small)]

/-- **The answer to the call of a query says what the catalog has to say**, perhaps compressed. -/
theorem route_ask (h : s.CanServe query) (answers : query.Answers s.catalog x) {c : Client}
    {r : Http.Request} {receiveLimit : Nat} (sent : (c.ask query).2 = some r) (reaches : r.path = "/rpc")
    (small : r.body.length ≤ receiveLimit) (elapsed : Duration) :
    (s.route receiveLimit r elapsed).2 =
      (Http.Answer.json (Response.codec.print
        (query.response (some (.natural c.nextId.toNat)) x))).compress r := by
  rw [s.route_rpc (Client.isReadable_of_ask sent) reaches (Client.method_of_ask sent) small,
    answer_ask h answers sent]

end Service

/-! ### Taking the reply -/

namespace Client

variable {α : Type} {limit : Nat} {reply : Http.Reply} {answer : Http.Answer}

/-- The pieces of a body that stays within a limit are put together. -/
theorem gather_eq {chunks : List Bytes} :
    ∀ {body : Bytes}, (body ++ chunks.flatten).length ≤ limit →
      gather limit body chunks = .ok (body ++ chunks.flatten) := by
  induction chunks with
  | nil =>
    intro body _
    rw [gather, List.flatten_nil, List.append_nil]
  | cons chunk rest ih =>
    intro body hlimit
    rw [List.flatten_cons, ← List.append_assoc] at hlimit ⊢
    have hchunk : ¬limit < body.length + chunk.length := by
      rw [List.length_append, List.length_append] at hlimit
      omega
    rw [gather, if_neg hchunk]
    exact ih hlimit

/-- The body of a reply is all of its pieces, if it stays within the limit. -/
theorem body_of_le (tells : reply.TellsLength) (fits : reply.chunks.flatten.length ≤ limit) :
    body limit reply = .ok reply.chunks.flatten := by
  have hgather : gather limit [] reply.chunks = .ok reply.chunks.flatten := gather_eq fits
  rw [body]
  cases hlength : reply.declaredLength with
  | none => exact hgather
  | some n =>
    dsimp only
    rw [tells n hlength, if_neg (Nat.not_lt.mpr fits)]
    exact hgather

/-- The body of a reply is that of the answer. -/
theorem body_eq (delivers : reply.Delivers answer)
    (received : answer.body.toUTF8.toList.length ≤ limit) :
    body limit reply = .ok answer.body.toUTF8.toList := by
  rw [← delivers.flatten_eq] at received ⊢
  exact body_of_le delivers.tellsLength received

/-- The reply to a call tells what the response in the answer says. -/
theorem result_eq {c : Client} {response : Response} (method : String)
    (delivers : reply.Delivers answer) (status_eq : answer.status = 200)
    (received : answer.body.toUTF8.toList.length ≤ c.receiveLimit)
    (parse : Response.codec.parse answer.body.toUTF8.toList = .ok response) :
    c.result method (some reply) = outcome method response := by
  rw [result, delivers.status_eq, status_eq, if_neg (by decide), if_neg (by decide),
    body_eq delivers received]
  dsimp only
  rw [parse]

/-- **The client answers a query as the catalog does**, errors as they are told. -/
theorem answer_ask {c : Client} {s : Service} {query : Query α} {x : Except Error α} {r : Http.Request}
    {elapsed : Duration} {receiveLimit : Nat} (words : s.catalog.WordSized) (serve : s.CanServe query)
    (answers : query.Answers s.catalog x) (sent : (c.ask query).2 = some r) (reaches : r.path = "/rpc")
    (small : r.body.length ≤ receiveLimit)
    (delivers : reply.Delivers (s.route receiveLimit r elapsed).2)
    (received : reply.chunks.flatten.length ≤ c.receiveLimit) :
    (c.ask query).1.answer query (some reply) = x.mapError Error.told := by
  rw [delivers.flatten_eq] at received
  rw [Service.route_ask serve answers sent reaches small] at delivers received
  have hresult := result_eq (c := (c.ask query).1) query.method.name delivers rfl received
    (Query.parse_response words answers c.sendable_nextId)
  rw [Client.answer, hresult, ← Query.outcome_response words answers (some (.natural c.nextId.toNat))]
  cases outcome query.method.name _ with
  | error e => rfl
  | ok v => rfl

end Client

end Rpc

end SchemaCatalog
