import SchemaCatalog.Proofs.Rpc.Exchange
import SchemaCatalog.Proofs.Rpc.Protocol

/-!
# What a client makes of a reply

A client reads a body piece by piece, and may know its length before. What it makes of the reply depends on
the status and on the body as a whole only. `Client.BodyTells` is about the body of a reply, and
`Client.Tells` about its status and its body, each with the rules in the order in which they apply. Both leave no
choice, but for the size that a message which is too large is told to have.

A body that is longer than the limit is noticed, if its length is not known, at the first piece that does not
fit any more (`gather_tooLarge`). `Client.result_tells` puts this together.
-/

namespace SchemaCatalog.Rpc.Client

open Json (Value)

/-! ### What is told -/

/-- What a body says about a call of `method`: it is no response, or one with an error, whatever else is in
there, or one without, whose result holds that of the call under the key of the method, if there is such a
method. What is missing is `null`. -/
inductive BodyTells (method : String) (body : Bytes) : Except Error Value → Prop where
  | unreadable {e : Json.Error} (unparsed : Response.codec.parse body = .error e) :
      BodyTells method body (.error (.json e))
  | failed {response : Response} {failure : Failure} (parsed : Response.codec.parse body = .ok response)
      (error : response.error = some failure) :
      BodyTells method body (.error (.rpc failure.code failure.message))
  | member {response : Response} {call : Method} (parsed : Response.codec.parse body = .ok response)
      (error : response.error = none) (known : call.name = method) :
      BodyTells method body (.ok (((response.result.getD .null).get? call.key).getD .null))
  | whole {response : Response} (parsed : Response.codec.parse body = .ok response)
      (error : response.error = none) (unknown : ∀ call : Method, call.name ≠ method) :
      BodyTells method body (.ok (response.result.getD .null))

/-- What a client that reads bodies of at most `limit` bytes makes of the reply to a call of `method`. -/
inductive Tells (method : String) (limit status : Nat) (body : Bytes) : Except Error Value → Prop where
  | refused (too_large : status = 413) :
      Tells method limit status body (.error (.transport (.requestTooLarge method)))
  | unsuccessful (other : status ≠ 413) (failed : ¬ (200 ≤ status ∧ status < 300)) :
      Tells method limit status body
        (.error (.transport (.unsuccessful method (Http.statusText status))))
  | tooLarge {size : Nat} (served : 200 ≤ status ∧ status < 300) (above : limit < size)
      (within : size ≤ body.length) :
      Tells method limit status body (.error (.messageTooLarge size limit))
  | read {outcome : Except Error Value} (served : 200 ≤ status ∧ status < 300)
      (fits : body.length ≤ limit) (told : BodyTells method body outcome) :
      Tells method limit status body outcome

/-- Two outcomes are the same, but for the size of a message that is too large. -/
def SameButSize (x y : Except Error Value) : Prop :=
  x = y ∨ ∃ size size' limit, x = .error (.messageTooLarge size limit) ∧
    y = .error (.messageTooLarge size' limit)

variable {method : String} {limit status : Nat} {body : Bytes} {x y : Except Error Value}

/-! ### No choice -/

/-- A body says what is taken out of the response in it. -/
theorem bodyTells_iff : BodyTells method body x ↔
    ((Response.codec.parse body).mapError Error.json >>= outcome method) = x := by
  constructor
  · intro h
    cases h with
    | unreadable unparsed =>
      rw [unparsed]
      rfl
    | failed parsed error =>
      rw [parsed, Except.mapError, ok_bind, outcome, error]
    | member parsed error known =>
      rw [parsed, Except.mapError, ok_bind, outcome, error, ← known, unwrapResult, resultKey,
        Method.ofName?_name]
      rfl
    | whole parsed error unknown =>
      rw [parsed, Except.mapError, ok_bind, outcome, error, unwrapResult, resultKey,
        ofName?_eq_none_iff.mpr unknown]
      rfl
  · rintro rfl
    cases hparse : Response.codec.parse body with
    | error e => exact .unreadable hparse
    | ok response =>
      rw [Except.mapError, ok_bind, outcome]
      cases herror : response.error with
      | some failure => exact .failed hparse herror
      | none =>
        dsimp only
        by_cases hknown : ∃ call : Method, call.name = method
        · obtain ⟨call, rfl⟩ := hknown
          rw [unwrapResult, resultKey, Method.ofName?_name]
          exact .member hparse herror rfl
        · have hunknown : ∀ call : Method, call.name ≠ method := not_exists.mp hknown
          rw [unwrapResult, resultKey, ofName?_eq_none_iff.mpr hunknown]
          exact .whole hparse herror hunknown

/-- A status with a body tells one thing only, but for the size of a message that is too large. -/
theorem Tells.unique (hx : Tells method limit status body x) (hy : Tells method limit status body y) :
    SameButSize x y := by
  -- The conditions of any two rules exclude each other; only the size of a large message is left open.
  cases hx with
  | refused too_large =>
    cases hy with
    | refused => exact .inl rfl
    | unsuccessful other => exact absurd too_large other
    | tooLarge served => omega
    | read served => omega
  | unsuccessful other failed =>
    cases hy with
    | refused too_large => exact absurd too_large other
    | unsuccessful => exact .inl rfl
    | tooLarge served => exact absurd served failed
    | read served => exact absurd served failed
  | tooLarge served above within =>
    cases hy with
    | refused => omega
    | unsuccessful _ failed => exact absurd served failed
    | tooLarge => exact .inr ⟨_, _, limit, rfl, rfl⟩
    | read _ fits => omega
  | read served fits htold =>
    cases hy with
    | refused => omega
    | unsuccessful _ failed => exact absurd served failed
    | tooLarge => omega
    | read _ _ htold' => exact .inl ((bodyTells_iff.mp htold).symm.trans (bodyTells_iff.mp htold'))

/-! ### Reading a body -/

/-- **The first piece that does not fit ends the reading** of a body that is longer than the limit. The size
told is that of the pieces so far. -/
theorem gather_tooLarge {chunks : List Bytes} :
    ∀ {body : Bytes}, body.length ≤ limit → limit < (body ++ chunks.flatten).length →
      ∃ size, gather limit body chunks = .error (.messageTooLarge size limit) ∧ limit < size ∧
        size ≤ (body ++ chunks.flatten).length := by
  induction chunks with
  | nil =>
    intro body hbody hlimit
    rw [List.flatten_nil, List.append_nil] at hlimit
    omega
  | cons chunk rest ih =>
    intro body hbody hlimit
    rw [gather, List.flatten_cons, ← List.append_assoc]
    rw [List.flatten_cons, ← List.append_assoc] at hlimit
    by_cases hfits : limit < body.length + chunk.length
    · rw [if_pos hfits]
      refine ⟨_, rfl, hfits, ?_⟩
      rw [List.length_append, List.length_append]
      omega
    · -- This piece still fits, so that it is one of the others that does not.
      rw [if_neg hfits]
      refine ih ?_ hlimit
      rw [List.length_append]
      omega

/-- A body that is longer than the limit is told to be too large, with its length if that is known. -/
theorem body_tooLarge {reply : Http.Reply} (tells : reply.TellsLength)
    (above : limit < reply.chunks.flatten.length) :
    ∃ size, Client.body limit reply = .error (.messageTooLarge size limit) ∧ limit < size ∧
      size ≤ reply.chunks.flatten.length := by
  rw [Client.body]
  cases hlength : reply.declaredLength with
  | some n =>
    dsimp only
    rw [tells n hlength, if_pos above]
    exact ⟨_, rfl, above, Nat.le_refl _⟩
  | none => exact gather_tooLarge (Nat.zero_le limit) above

theorem isSuccess_iff {status : Nat} : Http.isSuccess status = true ↔ 200 ≤ status ∧ status < 300 := by
  simp [Http.isSuccess]

/-- What the client makes of a reply is what its status and its body tell. -/
theorem tells_result (c : Client) (method : String) {reply : Http.Reply} (tells : reply.TellsLength) :
    Tells method c.receiveLimit reply.status reply.chunks.flatten (c.result method (some reply)) := by
  rw [result]
  by_cases hrefused : reply.status = 413
  · rw [if_pos hrefused]
    exact .refused hrefused
  rw [if_neg hrefused]
  by_cases hserved : 200 ≤ reply.status ∧ reply.status < 300
  · rw [isSuccess_iff.mpr hserved, Bool.not_true, if_neg Bool.false_ne_true]
    by_cases hfits : reply.chunks.flatten.length ≤ c.receiveLimit
    · rw [body_of_le tells hfits]
      refine .read hserved hfits (bodyTells_iff.mpr ?_)
      dsimp only
      cases Response.codec.parse reply.chunks.flatten <;> rfl
    · obtain ⟨size, hbody, habove, hwithin⟩ := body_tooLarge tells (Nat.not_le.mp hfits)
      rw [hbody]
      exact .tooLarge hserved habove hwithin
  · rw [Bool.eq_false_iff.mpr (mt isSuccess_iff.mp hserved), Bool.not_false, if_pos rfl]
    exact .unsuccessful hrefused hserved

/-- The wording for a request that is too large is told for nothing else. -/
theorem unsuccessful_ne_tooLarge (method status : String) :
    (TransportProblem.unsuccessful method status).message ≠
      method ++ " request rejected by server as too large" := by
  show method ++ " returned HTTP " ++ status ≠ _
  rw [String.append_assoc, Ne, ← String.toList_inj]
  simp only [String.toList_append, List.append_cancel_left_eq]
  simp

/-- **A client decides by the status, by the length of the body, and by what the body says.** However the body
is divided into pieces, and whether or not its length is told before, the outcome is the one that the status
and the whole body tell, which is the same for all such replies but for the size of a message that is too
large. The wording for a request that is too large is told for the status 413, and for no other one. -/
theorem result_tells (c : Client) (method : String) {reply : Http.Reply} (tells : reply.TellsLength) :
    Tells method c.receiveLimit reply.status reply.chunks.flatten (c.result method (some reply)) ∧
    (∀ x, Tells method c.receiveLimit reply.status reply.chunks.flatten x →
      SameButSize x (c.result method (some reply))) ∧
    (∀ reply' : Http.Reply, reply'.TellsLength → reply'.status = reply.status →
      reply'.chunks.flatten = reply.chunks.flatten →
      SameButSize (c.result method (some reply')) (c.result method (some reply))) ∧
    ∀ problem, c.result method (some reply) = .error (.transport problem) →
      (problem.message = method ++ " request rejected by server as too large" ↔ reply.status = 413) := by
  have htold := tells_result c method tells
  refine ⟨htold, fun x hx => hx.unique htold, ?_, ?_⟩
  · intro reply' tells' hstatus hbody
    have htold' := tells_result c method tells'
    rw [hstatus, hbody] at htold'
    exact htold'.unique htold
  · intro problem hproblem
    rw [hproblem] at htold
    generalize hx : (Except.error (.transport problem) : Except Error Value) = x at htold
    cases htold with
    | refused too_large =>
      cases hx
      exact iff_of_true rfl too_large
    | unsuccessful other =>
      cases hx
      exact iff_of_false (unsuccessful_ne_tooLarge method _) other
    | tooLarge => cases hx
    | read _ _ htold => cases htold <;> cases hx

/-- An error counts even beside a result, unless it is `null`. A limit of one byte less than the body refuses
it, in pieces as well as with its length told before. -/
theorem result_tells_pieces :
    let body := Utf8.encode ("\x7b\"jsonrpc\":\"2.0\",\"result\":\x7b\"schemas\":[]\x7d," ++
      "\"error\":\x7b\"code\":-5,\"message\":\"m\"\x7d,\"id\":1\x7d")
    let sound := Utf8.encode
      "\x7b\"jsonrpc\":\"2.0\",\"result\":\x7b\"schemas\":[]\x7d,\"error\":null,\"id\":1\x7d"
    let pieces : Http.Reply := { status := 200, chunks := [body.take 10, [], body.drop 10] }
    let told : Http.Reply := { status := 200, declaredLength := some body.length, chunks := [body] }
    let c : Client := { base := "http://h", receiveLimit := body.length }
    let small : Client := { base := "http://h", receiveLimit := body.length - 1 }
    pieces.TellsLength ∧ told.TellsLength ∧
      c.result "list_schemas" (some pieces) = .error (.rpc (-5) "m") ∧
      c.result "list_schemas" (some { status := 200, chunks := [sound] }) = .ok (.array []) ∧
      (∃ size, small.result "list_schemas" (some pieces) =
        .error (.messageTooLarge size (body.length - 1))) ∧
      SameButSize (small.result "list_schemas" (some told)) (small.result "list_schemas" (some pieces)) := by
  intro body sound pieces told c small
  have hpieces : pieces.TellsLength := fun n hn => nomatch hn
  have htold : told.TellsLength := by
    intro n hn
    rw [← Option.some.inj hn]
    exact congrArg List.length List.flatten_singleton.symm
  have hbody : pieces.chunks.flatten = body := by simp [pieces]
  have hpos : 0 < body.length := by decide +kernel
  refine ⟨hpieces, htold, ?_, ?_, ?_, ?_⟩
  · have hparse : Response.codec.parse pieces.chunks.flatten =
        .ok ⟨"2.0", some (.object [("schemas", .array [])]), some ⟨-5, "m", none⟩, some (.natural 1)⟩ := by
      decide +kernel
    have hrefused : Tells "list_schemas" c.receiveLimit pieces.status pieces.chunks.flatten
        (.error (.rpc (-5) "m")) :=
      .read (by decide) (Nat.le_of_eq (congrArg List.length hbody)) (.failed hparse rfl)
    rcases (result_tells c "list_schemas" hpieces).2.1 _ hrefused with heq | ⟨_, _, _, hrpc, _⟩
    · exact heq.symm
    · cases hrpc
  · let reply : Http.Reply := { status := 200, chunks := [sound] }
    have hreply : reply.TellsLength := fun n hn => nomatch hn
    have hparse : Response.codec.parse reply.chunks.flatten =
        .ok ⟨"2.0", some (.object [("schemas", .array [])]), none, some (.natural 1)⟩ := by
      decide +kernel
    have hmember : BodyTells Method.listSchemas.name reply.chunks.flatten (.ok (.array [])) :=
      .member hparse rfl rfl
    have hread : Tells "list_schemas" c.receiveLimit reply.status reply.chunks.flatten
        (.ok (.array [])) :=
      .read (by decide) (by decide +kernel) hmember
    rcases (result_tells c "list_schemas" hreply).2.1 _ hread with heq | ⟨_, _, _, hok, _⟩
    · exact heq.symm
    · cases hok
  · have hlarge : Tells "list_schemas" small.receiveLimit pieces.status pieces.chunks.flatten
        (.error (.messageTooLarge body.length small.receiveLimit)) :=
      .tooLarge (by decide) (by show body.length - 1 < body.length; omega) (by rw [hbody])
    rcases (result_tells small "list_schemas" hpieces).2.1 _ hlarge with heq | ⟨_, size, _, heq, hresult⟩
    · exact ⟨_, heq.symm⟩
    · obtain ⟨_, rfl⟩ := Error.messageTooLarge.inj (Except.error.inj heq)
      exact ⟨size, hresult⟩
  · refine (result_tells small "list_schemas" hpieces).2.2.1 told htold rfl ?_
    rw [hbody]
    exact List.flatten_singleton

end SchemaCatalog.Rpc.Client
