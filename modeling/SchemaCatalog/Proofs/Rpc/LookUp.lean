import SchemaCatalog.Proofs.Except
import SchemaCatalog.Rpc.Service

/-!
# What a call looks up

The result of a call about the schema of an identity, in terms of what the catalog has for that
identity: the error of the catalog, or the written form of what is found. Once a call has a result, its request
is concluded with it: the response is up to these two only, and the service records the call and stays as it is
otherwise.
-/

namespace SchemaCatalog.Rpc

open Json (Codec Value)

variable {params : Value} {id : Identity}

/-- An element is written without the place of its node. -/
theorem map_toValue (x : Except Error Element) :
    x.map Element.codec.toValue = (x.map Element.forgetNode).map Element.codec.toValue := by
  cases x with
  | error e => rfl
  | ok e => rfl

theorem lookUp_getElement (c : Catalog) (hid : identityParam params = .ok id) :
    lookUp c params .getElement =
      textParam params "path" >>= fun path => (c.getElement id path).map Element.codec.toValue := by
  rw [lookUp, hid, ok_bind]
  simp only [bind_pure_eq_map]

theorem lookUp_listSchemas (c : Catalog) (params : Value) :
    lookUp c params .listSchemas = .ok ((Codec.list Identity.codec).toValue c.list) :=
  rfl

theorem lookUp_getDetails (c : Catalog) (hid : identityParam params = .ok id) :
    lookUp c params .getDetails =
      (c.get id).map fun entry => Details.codec.toValue (.ofEntry entry) := by
  rw [lookUp, hid, ok_bind]
  simp only [bind_pure_eq_map]

theorem lookUp_expandPath (c : Catalog) (hid : identityParam params = .ok id) :
    lookUp c params .expandPath =
      c.get id >>= fun entry =>
        (expandEntry entry ((textParam? params "path").getD "")).map
          (Codec.list DataPath.codec).toValue := by
  rw [lookUp, hid, ok_bind]
  simp only [bind_pure_eq_map]

/-! ### Answers -/

namespace Service

/-- A body that is no request leaves the service as it is. -/
theorem answer_of_unreadable (s : Service) {body : Bytes} {e : Json.Error}
    (parse : Request.codec.parse body = .error e) (elapsed : Duration) :
    s.answer body elapsed = (s, .failure none parseErrorCode ("Parse error: " ++ e.message)) := by
  rw [answer, parse]

/-- So does a health check. -/
theorem answer_of_health (s : Service) {body : Bytes} {r : Request}
    (parse : Request.codec.parse body = .ok r) (health : r.method = healthCheck) (elapsed : Duration) :
    s.answer body elapsed = (s, .success r.id healthy) := by
  rw [answer, parse]
  dsimp only
  rw [answerRequest, if_pos health]

/-- Any other request is concluded with the result of its call. -/
theorem answer_of_parse (s : Service) {body : Bytes} {r : Request}
    (parse : Request.codec.parse body = .ok r) (other : r.method ≠ healthCheck) (elapsed : Duration) :
    s.answer body elapsed = s.conclude r elapsed (s.call r.method (r.params.getD (.object []))) := by
  rw [answer, parse]
  dsimp only
  rw [answerRequest, if_neg other]

/-- A call is recorded, and nothing else changes. -/
theorem conclude_service (s : Service) (r : Request) (elapsed : Duration)
    (result : Except Refusal Value) :
    (s.conclude r elapsed result).1 =
      { s with metrics := s.metrics.observe (label r.method) (outcome result) elapsed } := by
  cases result with
  | ok v => rfl
  | error refusal => rfl

theorem conclude_congr (s s' : Service) (r : Request) (elapsed : Duration)
    (result : Except Refusal Value) :
    (s.conclude r elapsed result).2 = (s'.conclude r elapsed result).2 := by
  cases result with
  | ok v => rfl
  | error refusal => rfl

end Service

end SchemaCatalog.Rpc
