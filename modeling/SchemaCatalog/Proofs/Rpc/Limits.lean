import SchemaCatalog.Proofs.Rpc.Protocol
import SchemaCatalog.Proofs.Rpc.Session

/-!
# The limits of a service

A body that is longer than the receive limit is refused before anything looks at it, and any other one is
answered. A result has a size of its own: `Service.unlimited` is what a call comes to before that is looked
at, and `Service.call_eq_unlimited` says that the send limit then lets through what is no larger. So an answer
in which no limit shows stays the same when the limits are raised (`Service.answer_raise`).
`Service.route_limits` puts this together.
-/

namespace SchemaCatalog

open Json (Value)

/-- A request that posts a body to the path for calls, in no encoding. -/
structure Http.Request.PostsPlain (r : Http.Request) : Prop where
  method : r.method = "POST"
  path : r.path = "/rpc"
  encoding : ∀ v, (r.headerValues "content-encoding").head? = some v → v = "identity"

theorem Http.Request.PostsPlain.isReadable {r : Http.Request} (h : r.PostsPlain) :
    r.isReadable = true := by
  have hencoding := h.encoding
  unfold Http.Request.isReadable
  cases hvalues : r.headerValues "content-encoding" with
  | nil => rfl
  | cons v rest =>
    rw [hvalues] at hencoding
    rw [hencoding v rfl]
    rfl

namespace Rpc

/-- The text of a response that gives a result has the text of the result in it. -/
theorem print_success (id : Option Value) (document : Value) :
    Response.codec.print (.success id document) =
      "\x7b\"jsonrpc\":\"2.0\",\"result\":" ++ document.compact ++ ",\"id\":" ++
        (id.getD .null).compact ++ "\x7d" := by
  have hwrite : Response.codec.write (.success id document) =
      .object [("jsonrpc", .string "2.0"), ("result", document), ("id", id.getD .null)] := by
    cases id <;> rfl
  have hnames : Value.stringChars "jsonrpc" = "\"jsonrpc\"".toList ∧
      Value.stringChars "2.0" = "\"2.0\"".toList ∧ Value.stringChars "result" = "\"result\"".toList ∧
      Value.stringChars "id" = "\"id\"".toList := by decide +kernel
  have hbraces : [Value.openBrace] = "\x7b".toList ∧ [Value.closeBrace] = "\x7d".toList := by decide +kernel
  obtain ⟨hversion, hnumber, hresult, hid⟩ := hnames
  rw [Json.Codec.print, hwrite, ← String.toList_inj]
  simp only [Value.compact, Value.render, Value.renderMembers, String.toList_ofList, String.toList_append,
    hversion, hnumber, hresult, hid, hbraces.2]
  rw [← List.singleton_append, hbraces.1]
  simp

namespace Service

variable {s : Service} {r : Http.Request} {request : Request} {body : Bytes} {elapsed : Duration}
  {method : String} {params document : Value}

/-- The result of a call in its envelope, however large it is. -/
def unlimited (s : Service) (method : String) (params : Value) : Except Refusal Value :=
  (s.dispatch method params).map (wrapResult method)

/-- The same service with another send limit. -/
def withSendLimit (s : Service) (limit : Nat) : Service := { s with sendLimit := limit }

/-- Whether a response tells that a result is too large. -/
def TellsTooLarge (response : Response) : Prop :=
  ∃ failure, response.error = some failure ∧ failure.code = -32004

/-! ### One call -/

/-- Of a call, the size of its result is looked at last. -/
theorem call_eq_unlimited (s : Service) (method : String) (params : Value) :
    s.call method params = s.unlimited method params >>= s.withinSize := by
  rw [call, complete, byDeadline, Option.getD_some, unlimited]
  cases s.dispatch method params <;> rfl

/-- A result that is no larger than the limit is given. -/
theorem call_of_le (result : s.unlimited method params = .ok document)
    (fits : byteSize document ≤ s.sendLimit) : s.call method params = .ok document := by
  rw [call_eq_unlimited, result, ok_bind, withinSize, if_neg (Nat.not_lt.mpr fits)]

/-- A result that is larger than the limit is told to be. -/
theorem call_of_lt (result : s.unlimited method params = .ok document)
    (large : s.sendLimit < byteSize document) :
    s.call method params =
      .error (.failed (.messageTooLarge (byteSize document) s.sendLimit)) := by
  rw [call_eq_unlimited, result, ok_bind, withinSize, if_pos large]

/-- A higher limit changes no call but one whose result was too large. -/
theorem call_raise {limit : Nat} (raised : s.sendLimit ≤ limit) :
    (s.withSendLimit limit).call method params = s.call method params ∨
      ∃ size, s.call method params = .error (.failed (.messageTooLarge size s.sendLimit)) := by
  have hunlimited : (s.withSendLimit limit).unlimited method params =
      s.unlimited method params := rfl
  cases hresult : s.unlimited method params with
  | error refusal =>
    refine .inl ?_
    rw [call_eq_unlimited, call_eq_unlimited, hunlimited, hresult]
    rfl
  | ok document =>
    rcases Nat.lt_or_ge s.sendLimit (byteSize document) with large | fits
    · exact .inr ⟨_, call_of_lt hresult large⟩
    · refine .inl ?_
      rw [call_of_le hresult fits, call_of_le (hunlimited.trans hresult) (Nat.le_trans fits raised)]

/-! ### One body -/

/-- The response to a call whose result is too large tells so. -/
theorem tellsTooLarge_of_call {size : Nat} (parse : Request.codec.parse body = .ok request)
    (other : request.method ≠ healthCheck)
    (large : s.call request.method (request.params.getD (.object [])) =
      .error (.failed (.messageTooLarge size s.sendLimit))) :
    TellsTooLarge (s.answer body elapsed).2 := by
  rw [s.answer_of_parse parse other, large]
  exact ⟨_, rfl, rfl⟩

/-- **An answer that tells of no limit stays the same under a higher one.** -/
theorem answer_raise {limit : Nat} (raised : s.sendLimit ≤ limit)
    (accepted : ¬ TellsTooLarge (s.answer body elapsed).2) :
    (s.withSendLimit limit).answer body elapsed =
      ((s.answer body elapsed).1.withSendLimit limit, (s.answer body elapsed).2) := by
  cases parse : Request.codec.parse body with
  | error e =>
    rw [answer_of_unreadable _ parse, answer_of_unreadable _ parse]
  | ok request =>
    by_cases health : request.method = healthCheck
    · rw [answer_of_health _ parse health, answer_of_health _ parse health]
    · rcases call_raise raised with hsame | ⟨size, large⟩
      · rw [answer_of_parse _ parse health, answer_of_parse _ parse health, hsame]
        cases s.call request.method (request.params.getD (.object [])) <;> rfl
      · exact absurd (tellsTooLarge_of_call parse health large) accepted

/-- The answer to the call of a method, by the size of its result. -/
theorem answer_of_unlimited {call : Method} (parse : Request.codec.parse body = .ok request)
    (calls : request.method = call.name)
    (result : s.unlimited call.name (request.params.getD (.object [])) = .ok document) :
    (byteSize document ≤ s.sendLimit →
      s.Counted elapsed (some (call.name, "ok")) (s.answer body elapsed).1 ∧
      (s.answer body elapsed).2 = .success request.id document) ∧
    (s.sendLimit < byteSize document →
      s.Counted elapsed (some (call.name, "too_large")) (s.answer body elapsed).1 ∧
      (s.answer body elapsed).2 = .failure request.id (-32004)
        ("Message too large: " ++ toString (byteSize document) ++ " bytes exceeds limit of " ++
          toString s.sendLimit ++ " bytes")) := by
  have hother : request.method ≠ healthCheck := calls ▸ name_ne_healthCheck call
  have hlabel : label request.method = call.name := by
    rw [calls]
    exact (counts_iff.mp (.known call)).symm
  rw [← calls] at result
  constructor
  · intro fits
    rw [s.answer_of_parse parse hother, call_of_le result fits, ← hlabel]
    exact ⟨s.conclude_counted request elapsed (.ok document), rfl⟩
  · intro large
    rw [s.answer_of_parse parse hother, call_of_lt result large, ← hlabel]
    exact ⟨s.conclude_counted request elapsed
      (.error (.failed (.messageTooLarge (byteSize document) s.sendLimit))), rfl⟩

/-! ### One request -/

/-- **Limits are exact.** A body that is longer than the receive limit is refused, whatever it holds, and
leaves the service as it is; any other one is answered. The call of a method gets its result, in its envelope,
if that has no more bytes than the send limit, and otherwise an error with both numbers, and is counted
accordingly. A request that meets no limit gets the same answer when the limits are raised. -/
theorem route_limits (s : Service) (receiveLimit : Nat) (elapsed : Duration) (posts : r.PostsPlain) :
    (receiveLimit < r.body.length →
      (s.route receiveLimit r elapsed).1 = s ∧ (s.route receiveLimit r elapsed).2.status = 413) ∧
    (r.body.length ≤ receiveLimit →
      (s.route receiveLimit r elapsed).1 = (s.answer r.body elapsed).1 ∧
      (s.route receiveLimit r elapsed).2.status = 200 ∧
      (s.route receiveLimit r elapsed).2.body = Response.codec.print (s.answer r.body elapsed).2) ∧
    (r.body.length ≤ receiveLimit → ∀ request call document,
      Request.codec.parse r.body = .ok request → request.method = Method.name call →
      s.unlimited call.name (request.params.getD (.object [])) = .ok document →
      ((s.answer r.body elapsed).2 = .success request.id document ↔ byteSize document ≤ s.sendLimit) ∧
      (byteSize document ≤ s.sendLimit →
        s.Counted elapsed (some (call.name, "ok")) (s.route receiveLimit r elapsed).1 ∧
        (s.route receiveLimit r elapsed).2.body = "\x7b\"jsonrpc\":\"2.0\",\"result\":" ++
          document.compact ++ ",\"id\":" ++ (request.id.getD .null).compact ++ "\x7d") ∧
      (s.sendLimit < byteSize document →
        s.Counted elapsed (some (call.name, "too_large")) (s.route receiveLimit r elapsed).1 ∧
        (s.answer r.body elapsed).2 = .failure request.id (-32004)
          ("Message too large: " ++ toString (byteSize document) ++ " bytes exceeds limit of " ++
            toString s.sendLimit ++ " bytes"))) ∧
    ∀ receiveLimit' sendLimit', receiveLimit ≤ receiveLimit' → s.sendLimit ≤ sendLimit' →
      r.body.length ≤ receiveLimit → ¬ TellsTooLarge (s.answer r.body elapsed).2 →
      (s.withSendLimit sendLimit').route receiveLimit' r elapsed =
        ((s.route receiveLimit r elapsed).1.withSendLimit sendLimit',
          (s.route receiveLimit r elapsed).2) := by
  have hroute (s : Service) (limit : Nat) : s.route limit r elapsed = _ :=
    s.route_post limit posts.isReadable posts.path posts.method elapsed
  have hanswered (small : r.body.length ≤ receiveLimit) : s.route receiveLimit r elapsed =
      ((s.answer r.body elapsed).1,
        (Http.Answer.json (Response.codec.print (s.answer r.body elapsed).2)).compress r) := by
    rw [hroute, if_neg (Nat.not_lt.mpr small)]
  refine ⟨?_, ?_, ?_, ?_⟩
  · intro long
    rw [hroute, if_pos long]
    exact ⟨rfl, rfl⟩
  · intro small
    rw [hanswered small]
    exact ⟨rfl, rfl, rfl⟩
  · intro small request call document parse calls result
    obtain ⟨hfits, hlarge⟩ := answer_of_unlimited parse calls result
    rw [hanswered small]
    refine ⟨⟨?_, fun fits => (hfits fits).2⟩, ?_, hlarge⟩
    · -- An error is no success.
      intro hsuccess
      by_contra hnot
      rw [(hlarge (Nat.not_le.mp hnot)).2] at hsuccess
      cases hsuccess
    · intro fits
      obtain ⟨hcounted, hresponse⟩ := hfits fits
      rw [hresponse, ← print_success]
      exact ⟨hcounted, rfl⟩
  · intro receiveLimit' sendLimit' hreceive hsend small accepted
    have small' : ¬ receiveLimit' < r.body.length := by omega
    rw [hroute, if_neg small', hanswered small, answer_raise hsend accepted]

/-- A list of one schema has 56 bytes in its envelope: it is given under a limit of 56 bytes, and told to be
too large under one of 55. A body that is longer than the receive limit by one byte is refused. -/
theorem route_limits_boundary :
    let body := Utf8.encode "\x7b\"jsonrpc\":\"2.0\",\"method\":\"list_schemas\",\"id\":7\x7d"
    let r : Http.Request := { method := "POST", target := "/rpc", body }
    let document : Value := .object [("schemas", .array [.object
      [("name", .string "test"), ("vendor", .string "x"), ("version", .string "1")]])]
    let s : Service := { catalog := interfacesCatalog, sendLimit := 56 }
    let now : Duration := .ofSeconds 0
    r.PostsPlain ∧ byteSize document = 56 ∧
      s.unlimited "list_schemas" (.object []) = .ok document ∧
      (s.answer body now).2 = .success (some (.natural 7)) document ∧
      ((s.withSendLimit 55).answer body now).2 = .failure (some (.natural 7)) (-32004)
        "Message too large: 56 bytes exceeds limit of 55 bytes" ∧
      (s.route (body.length - 1) r now).2.status = 413 := by
  intro body r document s now
  have posts : r.PostsPlain := ⟨rfl, by decide +kernel, fun v hv => nomatch hv⟩
  have hsize : byteSize document = 56 := by decide +kernel
  have hresult : s.unlimited "list_schemas" (.object []) = .ok document := by decide +kernel
  have hparse : Request.codec.parse r.body = .ok ⟨"2.0", "list_schemas", none, some (.natural 7)⟩ := by
    decide +kernel
  refine ⟨posts, hsize, hresult, ?_, ?_, ?_⟩
  · obtain ⟨hiff, _, _⟩ := (route_limits s body.length now posts).2.2.1 (Nat.le_refl _) _ .listSchemas
      document hparse rfl hresult
    exact hiff.mpr (Nat.le_of_eq hsize)
  · obtain ⟨_, _, hlarge⟩ := (route_limits (s.withSendLimit 55) body.length now posts).2.2.1
      (Nat.le_refl _) _ .listSchemas document hparse rfl hresult
    obtain ⟨_, hfailure⟩ := hlarge (by rw [hsize]; decide)
    rw [hsize] at hfailure
    have htext : "Message too large: " ++ toString 56 ++ " bytes exceeds limit of " ++ toString 55 ++
        " bytes" = "Message too large: 56 bytes exceeds limit of 55 bytes" := by decide +kernel
    exact hfailure.trans (congrArg (Response.failure (some (.natural 7)) (-32004)) htext)
  · have hlong : body.length - 1 < r.body.length := by decide +kernel
    exact ((route_limits s (body.length - 1) now posts).1 hlong).2

end Service

end Rpc

end SchemaCatalog
