import SchemaCatalog.Proofs.Rpc.Address
import SchemaCatalog.Proofs.Tree.Linked

/-!
# Sessions of a client

A client asks one query after the other, and a service answers from its catalog while it serves other
callers too. `Session.turns_agree` says that the client gets just what the catalog has to say: the same
results, and the errors of the catalog with their codes and wordings.

A turn goes through as long as nothing but the query decides about it (`Turn.GoesThrough`): its request is
sent and reaches the path for calls, the service has not been stopped, request and result are not too large
for the service, the answer arrives unchanged, and its body is not too large for the client. Where a request
goes is up to the address of the client; that of a server itself will do (`Client.path_of_ask`).
-/

namespace SchemaCatalog.Rpc

/-- A query of a client with the request and the reply of its call, and what the client makes of that. -/
structure Turn where
  /-- The type of the results of the query. -/
  Result : Type
  query : Client.Query Result
  request : Http.Request
  /-- How long the call took. -/
  elapsed : Duration
  reply : Http.Reply
  answer : Except Error Result

namespace Turn

/-- Whether the reply to a turn is that of a service, and nothing but the query decides about it. -/
structure GoesThrough (receiveLimit : Nat) (c : Client) (s : Service) (turn : Turn) : Prop where
  sent : (c.ask turn.query).2 = some turn.request
  reaches : turn.request.path = "/rpc"
  serve : s.CanServe turn.query
  small : turn.request.body.length ≤ receiveLimit
  delivers : turn.reply.Delivers (s.route receiveLimit turn.request turn.elapsed).2
  received : turn.reply.chunks.flatten.length ≤ c.receiveLimit
  answered : turn.answer = (c.ask turn.query).1.answer turn.query (some turn.reply)

/-- The client gets what a catalog has to say, and nothing else: its result, or its error with the code and the
wording of it, which is of the same sort on both sides. -/
structure Agrees (catalog : Catalog) (turn : Turn) : Prop where
  result : ∀ x, turn.answer = .ok x ↔ turn.query.Answers catalog (.ok x)
  error : ∀ told, turn.answer = .error told ↔
    ∃ e, turn.query.Answers catalog (.error e) ∧ told = .rpc e.rpcCode e.message
  sort : ∀ e, turn.query.Answers catalog (.error e) → ∃ told, turn.answer = .error told ∧
    told.isNotFound = e.isNotFound ∧ told.isTimeout = e.isTimeout ∧ told.rpcCode = e.rpcCode

/-- A turn that goes through gets the client what the catalog has to say. -/
theorem GoesThrough.agrees {receiveLimit : Nat} {c : Client} {s : Service} {turn : Turn}
    (h : turn.GoesThrough receiveLimit c s) (words : s.catalog.WordSized) :
    turn.Agrees s.catalog := by
  have hanswer : ∀ {x}, turn.query.Answers s.catalog x → turn.answer = x.mapError Error.told :=
    fun answers => h.answered.trans
      (Client.answer_ask words h.serve answers h.sent h.reaches h.small h.delivers h.received)
  have herror : ∀ e, turn.query.Answers s.catalog (.error e) → turn.answer = .error e.told :=
    fun _ answers => hanswer answers
  -- The catalog has something to say, so that an answer of the client can be nothing else.
  obtain ⟨x, answers⟩ := turn.query.exists_answers s.catalog
  constructor
  · intro y
    constructor
    · intro hy
      rw [hanswer answers, mapError_eq_ok_iff] at hy
      exact hy ▸ answers
    · exact fun answers => hanswer answers
  · intro told
    constructor
    · intro htold
      rw [hanswer answers, mapError_eq_error_iff] at htold
      obtain ⟨e, hx, htold⟩ := htold
      exact ⟨e, hx ▸ answers, htold.symm⟩
    · rintro ⟨e, answers, rfl⟩
      exact herror e answers
  · intro e answers
    exact ⟨e.told, herror e answers, e.isNotFound_told, e.isTimeout_told, rfl⟩

end Turn

/-- The turns of a client at a service, which takes requests of at most `receiveLimit` bytes. -/
inductive Session (receiveLimit : Nat) : Client → Service → List Turn → Prop where
  | done {c : Client} {s : Service} : Session receiveLimit c s []
  /-- Another caller is served. -/
  | aside {c : Client} {s : Service} {turns : List Turn} (r : Http.Request) (elapsed : Duration)
      (rest : Session receiveLimit c (s.route receiveLimit r elapsed).1 turns) :
      Session receiveLimit c s turns
  | turn {c : Client} {s : Service} {turn : Turn} {turns : List Turn}
      (first : turn.GoesThrough receiveLimit c s)
      (rest : Session receiveLimit (c.ask turn.query).1
        (s.route receiveLimit turn.request turn.elapsed).1 turns) :
      Session receiveLimit c s (turn :: turns)

/-- **Client and server agree.** In every turn of every session, the client gets what the catalog of the
service has to say. -/
theorem Session.turns_agree {receiveLimit : Nat} {c : Client} {s : Service} {turns : List Turn}
    (session : Session receiveLimit c s turns) (words : s.catalog.WordSized) :
    ∀ turn ∈ turns, turn.Agrees s.catalog := by
  induction session with
  | done => exact List.forall_mem_nil _
  | @aside c s turns r elapsed rest ih =>
    -- serving others changes the metrics, which no answer depends on
    obtain ⟨metrics, hframe⟩ := s.route_frame receiveLimit r elapsed
    rw [hframe] at ih
    exact ih words
  | @turn c s first turns through rest ih =>
    obtain ⟨metrics, hframe⟩ := s.route_frame receiveLimit first.request first.elapsed
    rw [hframe] at ih
    exact List.forall_mem_cons.mpr ⟨through.agrees words, ih words⟩

/-! ### Five turns -/

namespace Turn

variable {α : Type} {receiveLimit : Nat} {c : Client} {s : Service} {query : Client.Query α}
  {x : Except Error α}

/-- The turn of a query to which there is `x` to say, whose call takes no time, and whose answer arrives in one
piece. -/
def atOnce (c : Client) (query : Client.Query α) (x : Except Error α) : Turn :=
  let request := (c.ask query).2.getD default
  let text := Response.codec.print (query.response (some (.natural c.nextId.toNat)) x)
  let reply := ((Http.Answer.json text).compress request).reply
  ⟨α, query, request, .ofSeconds 0, reply, (c.ask query).1.answer query (some reply)⟩

/-- A catalog has one thing to say to a query, so that nothing is too large if that is not. -/
theorem canServe_of_answers (running : s.stopped = false) (answers : query.Answers s.catalog x)
    (fits : ∀ y, x = .ok y → byteSize (query.method.wrap (query.codec.toValue y)) ≤ s.sendLimit) :
    s.CanServe query where
  running := running
  fits y answers' := by
    obtain ⟨z, hx, hvalue⟩ := map_eq_ok_iff.mp (answers.lookUp_eq.symm.trans answers'.lookUp_eq)
    rw [← hvalue]
    exact fits z hx

theorem goesThrough_atOnce (root : Client.IsRoot c.base) (sendable : (c.ask query).2.isSome = true)
    (running : s.stopped = false) (answers : query.Answers s.catalog x)
    (fits : ∀ y, x = .ok y → byteSize (query.method.wrap (query.codec.toValue y)) ≤ s.sendLimit)
    (small : (atOnce c query x).request.body.length ≤ receiveLimit)
    (received : (atOnce c query x).reply.chunks.flatten.length ≤ c.receiveLimit) :
    (atOnce c query x).GoesThrough receiveLimit c s := by
  have sent : (c.ask query).2 = some ((c.ask query).2.getD default) := by
    generalize (c.ask query).2 = request at sendable ⊢
    cases request with
    | none => cases sendable
    | some r => rfl
  have reaches := Client.path_of_ask root sent
  have serve := canServe_of_answers running answers fits
  rw [atOnce] at small received ⊢
  dsimp only at small received
  have hroute := Service.route_ask serve answers sent reaches small (.ofSeconds 0)
  constructor <;> dsimp only
  · exact sent
  · exact reaches
  · exact serve
  · exact small
  · rw [hroute]
    exact Http.Answer.delivers_reply _
  · exact received

/-- The first turn of a session may go through at once. Serving it changes the metrics only. -/
theorem session_atOnce {turns : List Turn} (through : (atOnce c query x).GoesThrough receiveLimit c s)
    (rest : ∀ metrics, Session receiveLimit (c.ask query).1 { s with metrics } turns) :
    Session receiveLimit c s (atOnce c query x :: turns) := by
  obtain ⟨metrics, hframe⟩ :=
    s.route_frame receiveLimit (atOnce c query x).request (atOnce c query x).elapsed
  refine .turn through ?_
  rw [hframe]
  exact rest metrics

end Turn

/-- A catalog of one schema, which has a leaf behind a choice. -/
def interfacesCatalog : Catalog :=
  ⟨(∅ : Std.TreeMap String Entry).insert "test@x@1"
    ⟨⟨"test", "x", "1"⟩, .interfaces, (Index.build .interfaces).toOption.getD .empty⟩⟩

theorem interfacesCatalog_wordSized : interfacesCatalog.WordSized := by
  intro id entry hget
  have hcounts : ∀ pair ∈ (((Index.build .interfaces).toOption.getD .empty).elements.toList),
      (pair.2.childrenCount : Int) ≤ Json.Number.maxInteger := by
    decide +kernel
  rw [Catalog.get, interfacesCatalog, Std.TreeMap.getElem?_insert] at hget
  split_ifs at hget
  · rw [← Except.ok.inj hget]
    refine ⟨by decide, by decide +kernel, ?_⟩
    intro path e he
    exact hcounts _ (Std.TreeMap.mem_toList_iff_getElem?_eq_some.mpr he)
  · cases hget

theorem get_interfacesCatalog :
    interfacesCatalog.get ⟨"test", "x", "1"⟩ =
      .ok ⟨⟨"test", "x", "1"⟩, .interfaces, (Index.build .interfaces).toOption.getD .empty⟩ := by
  rw [Catalog.get, interfacesCatalog, Std.TreeMap.getElem?_insert, if_pos (by decide +kernel)]

/-- A client that has connected to a host and a port asks for a leaf, for a path that is not there, for the
schemas, for the details of the one that there is, and for all of its paths. -/
theorem Session.turns_agree_interfaces :
    let c (n : UInt64) : Client := ⟨"http://localhost:8080", 65536, n⟩
    let s : Service := { catalog := interfacesCatalog }
    let id : Identity := ⟨"test", "x", "1"⟩
    let leaf : Client.Query Element := .element id "/interfaces/mtu/"
    let missing : Client.Query Element := .element id "interfaces/speed"
    let ids : Client.Query (List Identity) := .schemas
    let numbers : Client.Query Details := .details id
    let below : Client.Query (List DataPath) := .paths id "/"
    let mtu : Element :=
      ⟨"mtu", ⟨"interfaces/mtu"⟩, .leaf, some "uint16", none, [], [], 0, none⟩
    let all : List DataPath := [⟨"interfaces"⟩, ⟨"interfaces/mtu"⟩, ⟨"interfaces/name"⟩]
    let first := Turn.atOnce (c 1) leaf (.ok mtu)
    let second := Turn.atOnce (c 2) missing (.error (.pathNotFound "test@x@1" "interfaces/speed"))
    let third := Turn.atOnce (c 3) ids (.ok [id])
    let fourth := Turn.atOnce (c 4) numbers (.ok ⟨id, 6, 3, ["interfaces"]⟩)
    let fifth := Turn.atOnce (c 5) below (.ok all)
    Client.connect "localhost:8080" 65536 (some ⟨200, none, []⟩) = .ok (c 1) ∧
      Session 65536 (c 1) s [first, second, third, fourth, fifth] ∧ s.catalog.WordSized ∧
      (∀ turn ∈ [first, second, third, fourth, fifth], turn.Agrees s.catalog) ∧
      first.answer = .ok mtu ∧
      second.answer = .error (.rpc (-32002) "Path not found in schema test@x@1: interfaces/speed") ∧
      third.answer = .ok [id] ∧
      fourth.answer = .ok ⟨id, 6, 3, ["interfaces"]⟩ ∧
      fifth.answer = .ok all := by
  intro c s id leaf missing ids numbers below mtu all first second third fourth fifth
  have connected : Client.connect "localhost:8080" 65536 (some ⟨200, none, []⟩) = .ok (c 1) := by
    decide +kernel
  have names : Client.NamesRoot "localhost:8080" := .place ⟨by simp, by simp, by simp⟩
  have rooted : Client.IsRoot (c 1).base := Client.isRoot_of_connect names connected
  have root (n : UInt64) : Client.IsRoot (c n).base := rooted
  have hmtu : leaf.Answers s.catalog (.ok mtu) :=
    .element (e := { mtu with node := some 5 }) (by decide +kernel)
  have habsent : missing.Answers s.catalog (.error (.pathNotFound "test@x@1" "interfaces/speed")) :=
    .noElement (by decide +kernel)
  have hids : ids.Answers s.catalog (.ok [id]) := by
    have hlist : s.catalog.list = [id] := by decide +kernel
    exact hlist ▸ .schemas
  have hdetails : numbers.Answers s.catalog (.ok ⟨id, 6, 3, ["interfaces"]⟩) :=
    .details get_interfacesCatalog (Details.describes_iff.mpr (by decide +kernel))
  have hpaths : below.Answers s.catalog (.ok all) :=
    .paths get_interfacesCatalog (fun more => absurd more (by simp))
      (Index.listsBelow_iff.mpr (by decide +kernel))
  have session : Session 65536 (c 1) s [first, second, third, fourth, fifth] := by
    have hsizes : byteSize (leaf.method.wrap (leaf.codec.toValue mtu)) ≤ s.sendLimit ∧
        byteSize (ids.method.wrap (ids.codec.toValue [id])) ≤ s.sendLimit ∧
        byteSize (numbers.method.wrap (numbers.codec.toValue ⟨id, 6, 3, ["interfaces"]⟩)) ≤ s.sendLimit ∧
        byteSize (below.method.wrap (below.codec.toValue all)) ≤ s.sendLimit := by decide +kernel
    obtain ⟨hleaf, hids', hnumbers, hbelow⟩ := hsizes
    refine Turn.session_atOnce (Turn.goesThrough_atOnce (root 1) (by decide +kernel) rfl hmtu
      (fun _ h => by cases h; exact hleaf) (by decide +kernel) (by decide +kernel)) fun _ => ?_
    refine Turn.session_atOnce (Turn.goesThrough_atOnce (root 2) (by decide +kernel) rfl habsent
      (fun _ h => by cases h) (by decide +kernel) (by decide +kernel)) fun _ => ?_
    refine Turn.session_atOnce (Turn.goesThrough_atOnce (root 3) (by decide +kernel) rfl hids
      (fun _ h => by cases h; exact hids') (by decide +kernel) (by decide +kernel)) fun _ => ?_
    refine Turn.session_atOnce (Turn.goesThrough_atOnce (root 4) (by decide +kernel) rfl hdetails
      (fun _ h => by cases h; exact hnumbers) (by decide +kernel) (by decide +kernel)) fun _ => ?_
    exact Turn.session_atOnce (Turn.goesThrough_atOnce (root 5) (by decide +kernel) rfl hpaths
      (fun _ h => by cases h; exact hbelow) (by decide +kernel) (by decide +kernel)) fun _ => .done
  have hagrees := session.turns_agree interfacesCatalog_wordSized
  refine ⟨connected, session, interfacesCatalog_wordSized, hagrees, ?_⟩
  simp only [List.forall_mem_cons] at hagrees
  obtain ⟨hfirst, hsecond, hthird, hfourth, hfifth, -⟩ := hagrees
  exact ⟨(hfirst.result _).mpr hmtu, (hsecond.error _).mpr ⟨_, habsent, by decide +kernel⟩,
    (hthird.result _).mpr hids, (hfourth.result _).mpr hdetails, (hfifth.result _).mpr hpaths⟩

end SchemaCatalog.Rpc
