import SchemaCatalog.Proofs.Rpc.Exchange
import SchemaCatalog.Proofs.Rpc.Interleaving
import SchemaCatalog.Proofs.Rpc.Protocol

/-!
# Every reply is of a single moment

However calls, changes and stops come one after the other, a call replies as if it had been made without a
pause when it looked at the catalog, with the service stopped or not as it was when the call was checked
(`World.run_reply`). So the numbers of one reply tell of one entry, the paths that are expanded are those of
the entry in which the path was found (`OfOneEntry`), and changes to the schemas of other identities do not
show in a reply (`lookUp_congr`, `IdentityMap.run_filter`).
-/

namespace SchemaCatalog

/-! ### Changes to other identities -/

/-- Whether a change is one to an identity. -/
def Change.concerns (id : Identity) : Change → Bool
  | put entry => entry.identity = id
  | remove id' => id' = id

namespace IdentityMap

variable {m m' : IdentityMap} {id : Identity}

/-- What a map has for an identity after a change depends on what it had for it before. -/
theorem change_congr (h : m id = m' id) (change : Change) :
    (m.change change).1 id = (m'.change change).1 id := by
  cases change with
  | put entry =>
    simp only [IdentityMap.change]
    cases entry.identity.check with
    | error flaw => exact h
    | ok => by_cases hid : id = entry.identity <;> simp [hid, h]
  | remove id' => by_cases hid : id = id' <;> simp [IdentityMap.change, hid, h]

/-- A change to another identity changes nothing for this one. -/
theorem change_of_not_concerns {change : Change} (h : change.concerns id = false) :
    (m.change change).1 id = m id := by
  cases change with
  | put entry =>
    have hne : id ≠ entry.identity := fun heq => of_decide_eq_false h heq.symm
    simp only [IdentityMap.change]
    cases entry.identity.check with
    | error flaw => rfl
    | ok => exact Function.update_of_ne hne _ _
  | remove id' =>
    have hne : id ≠ id' := fun heq => of_decide_eq_false h heq.symm
    exact Function.update_of_ne hne _ _

/-- Only changes to an identity change what a map has for it. -/
theorem run_filter (id : Identity) :
    ∀ (changes : List Change) {m m' : IdentityMap}, m id = m' id →
      (m.run changes).1 id = (m'.run (changes.filter (·.concerns id))).1 id
  | [], _, _, h => h
  | change :: changes, m, m', h => by
    show ((m.change change).1.run changes).1 id = _
    rw [List.filter_cons]
    split_ifs with hconcerns
    · exact run_filter id changes (change_congr h change)
    · exact run_filter id changes
        ((change_of_not_concerns (eq_false_of_ne_true hconcerns)).trans h)

end IdentityMap

/-- Only changes to an identity change what a catalog has for it. -/
theorem Catalog.get_run_filter {c : Catalog} {m : IdentityMap} (start : Starts c m)
    (changes : List Change) (id : Identity) :
    (c.run changes).1.get id = (c.run (changes.filter (·.concerns id))).1.get id := by
  obtain ⟨-, hall⟩ := run_represents start changes
  obtain ⟨-, hown⟩ := run_represents start (changes.filter (·.concerns id))
  rw [hall.get_eq, hown.get_eq, IdentityMap.run_filter id changes rfl]

namespace Rpc

open Json (Codec Value)

variable {r : Request} {c c' : Catalog} {id : Identity} {call : Method}

/-! ### What a reply tells -/

/-- The identity that is read from parameters is named by them. -/
theorem names_of_identityParam {params : Value} (h : identityParam params = .ok id) :
    Names params id := by
  rcases given_or_lacks params identityDemands with hgiven | ⟨p, hlacks⟩
  · obtain ⟨id', hnames⟩ := exists_names hgiven
    rw [identityParam_of_names hnames] at h
    exact Except.ok.inj h ▸ hnames
  · rw [identityParam_of_lacks hlacks] at h
    cases h

/-- A call about one schema looks at the entry of its identity only. -/
theorem lookUp_congr {params : Value} (hnames : Names params id) (hcall : call ≠ .listSchemas)
    (h : c.get id = c'.get id) : lookUp c params call = lookUp c' params call := by
  have hid := identityParam_of_names hnames
  cases call with
  | getElement =>
    rw [lookUp_getElement c hid, lookUp_getElement c' hid]
    simp only [Catalog.getElement, h]
  | listSchemas => exact absurd rfl hcall
  | getDetails => rw [lookUp_getDetails c hid, lookUp_getDetails c' hid, h]
  | expandPath => rw [lookUp_expandPath c hid, lookUp_expandPath c' hid, h]

theorem dispatch_of_name (s : Service) (params : Value) (call : Method) :
    s.dispatch call.name params =
      if s.stopped then .error (.failed (.transport .shuttingDown))
      else (lookUp s.catalog params call).mapError .failed := by
  rw [Service.dispatch, Method.ofName?_name]

/-- The answer to a call about one schema depends on the entry of its identity only. -/
theorem answerRequest_congr (s : Service) (stopped : Bool) (elapsed : Duration)
    (hr : r.method = call.name) (hnames : Names r.arguments id) (hcall : call ≠ .listSchemas)
    (h : c.get id = c'.get id) :
    ((s.seen stopped c).answerRequest r elapsed).2 =
      ((s.seen stopped c').answerRequest r elapsed).2 := by
  have hmethod : r.method ≠ healthCheck := hr ▸ Service.name_ne_healthCheck call
  have hdispatch : (s.seen stopped c).dispatch r.method r.arguments =
      (s.seen stopped c').dispatch r.method r.arguments := by
    rw [hr, dispatch_of_name, dispatch_of_name]
    show (if stopped then _ else (lookUp c r.arguments call).mapError Refusal.failed) =
      if stopped then _ else (lookUp c' r.arguments call).mapError Refusal.failed
    rw [lookUp_congr hnames hcall h]
  rw [Service.answerRequest_eq_finish _ _ hmethod, Service.answerRequest_eq_finish _ _ hmethod,
    hdispatch]
  have hlimit : (s.seen stopped c).sendLimit = (s.seen stopped c').sendLimit := rfl
  exact Service.finish_congr hlimit r elapsed _

/-- A call has what was looked up for its result, in its envelope. -/
theorem exists_lookUp_of_call {s : Service} {params v : Value} (h : s.call call.name params = .ok v) :
    ∃ x, lookUp s.catalog params call = .ok x ∧ v = call.wrap x := by
  rw [Service.call, Service.complete, Service.byDeadline, Option.getD_some] at h
  obtain ⟨x, hx, hsize⟩ := bind_eq_ok_iff.mp h
  rw [dispatch_of_name] at hx
  split_ifs at hx
  rw [Service.withinSize] at hsize
  split_ifs at hsize
  refine ⟨x, ?_, ?_⟩
  · cases hlook : lookUp s.catalog params call with
    | error e =>
      rw [hlook] at hx
      cases hx
    | ok y =>
      rw [hlook] at hx
      cases hx
      rfl
  · rw [← Except.ok.inj hsize, wrapResult, Method.ofName?_name]

theorem eq_of_result_conclude {s : Service} {elapsed : Duration} {result : Except Refusal Value}
    {v : Value} (h : (s.conclude r elapsed result).2.result = some v) : result = .ok v := by
  cases result with
  | ok w => exact congrArg Except.ok (Option.some.inj h)
  | error refusal => cases h

theorem exists_lookUp_of_result {s : Service} {elapsed : Duration} {v : Value}
    (hr : r.method = call.name) (h : (s.answerRequest r elapsed).2.result = some v) :
    ∃ x, lookUp s.catalog r.arguments call = .ok x ∧ v = call.wrap x := by
  have hmethod : r.method ≠ healthCheck := hr ▸ Service.name_ne_healthCheck call
  rw [Service.answerRequest, if_neg hmethod, hr] at h
  exact exists_lookUp_of_call (eq_of_result_conclude h)

/-- What a reply tells of a schema comes from the one entry that the catalog has for its identity: all
numbers of details, and the paths below one that is found in the schema. -/
structure OfOneEntry (c : Catalog) (r : Request) (v : Value) : Prop where
  details : r.method = "get_schema_details" →
    ∃ id entry, Names r.arguments id ∧ c.get id = .ok entry ∧
      ∃ d : Details, d.Describes entry ∧ v = .object [("schema", Details.codec.toValue d)]
  paths : ∀ lead, r.method = "expand_path" → Given r.arguments .path lead →
    (∃ c ∈ lead.toList, c ≠ '/') →
    ∃ id entry e, Names r.arguments id ∧ c.get id = .ok entry ∧ entry.element lead = .ok e ∧
      ∃ paths, entry.index.ListsBelow lead paths ∧
        v = .object [("paths", (Codec.list DataPath.codec).toValue paths)]

theorem ofOneEntry_of_result {s : Service} {elapsed : Duration} {v : Value}
    (h : (s.answerRequest r elapsed).2.result = some v) : OfOneEntry s.catalog r v where
  details hr := by
    have hname : r.method = Method.getDetails.name := hr
    obtain ⟨x, hx, rfl⟩ := exists_lookUp_of_result hname h
    obtain ⟨id, hid, hlook⟩ := bind_eq_ok_iff.mp hx
    rw [lookUp_getDetails _ hid] at hx
    obtain ⟨entry, hentry, rfl⟩ := map_eq_ok_iff.mp hx
    exact ⟨id, entry, names_of_identityParam hid, hentry, .ofEntry entry, Details.describes_ofEntry entry, rfl⟩
  paths lead hr hlead more := by
    have hname : r.method = Method.expandPath.name := hr
    obtain ⟨x, hx, rfl⟩ := exists_lookUp_of_result hname h
    obtain ⟨id, hid, hlook⟩ := bind_eq_ok_iff.mp hx
    rw [lookUp_expandPath _ hid] at hx
    obtain ⟨entry, hentry, hx⟩ := bind_eq_ok_iff.mp hx
    obtain ⟨paths, hpaths, rfl⟩ := map_eq_ok_iff.mp hx
    have htext : textParam? r.arguments "path" = some lead := given_iff.mp hlead
    rw [htext, Option.getD_some, Client.Query.expandEntry_of_more more] at hpaths
    obtain ⟨e, he, rfl⟩ := map_eq_ok_iff.mp hpaths
    exact ⟨id, entry, e, names_of_identityParam hid, hentry, he, _, entry.index.listsBelow_expand lead, rfl⟩

/-! ### Replies of a run -/

namespace World

variable {w₀ w : World} {actions : List Action} {k : Nat} {response : Response}

/-- The request and the reply of the call at a place, once it has replied. -/
def reply? (w : World) (k : Nat) : Option (Request × Response) :=
  w.calls[k]?.bind fun f =>
    match f.stage with
    | .replied response => some (f.request, response)
    | _ => none

theorem reply?_eq_some (h : w.reply? k = some (r, response)) :
    w.calls[k]? = some ⟨r, .replied response⟩ := by
  obtain ⟨⟨r', stage⟩, hf, hstage⟩ := Option.bind_eq_some_iff.mp h
  cases stage with
  | waiting => cases hstage
  | underWay course => cases hstage
  | replied response' =>
    cases hstage
    exact hf

/-- **Every call of a run is answered as at a single moment.** It is checked once, looks at the catalog
once at most, and replies as the whole call would, made when it looked, by a service that is stopped as it
was at the check. Without a look it would reply the same from any catalog. What it tells of a schema comes
from one entry, and only changes to the schema it names show in its reply. -/
theorem run_reply {m : IdentityMap} (start : Catalog.Starts w₀.service.catalog m)
    (fresh : w₀.calls = []) (run : w₀.run actions = some w)
    (reply : w.reply? k = some (r, response)) :
    ∃ before w₁ elapsed, Takes w₀ actions before (.check k) w₁ ∧
      ((Action.ofCall k actions = [.check k, .reply k elapsed] ∧
          ∀ c, response = ((w₀.service.seen w₁.service.stopped c).answerRequest r elapsed).2) ∨
        ∃ before' w₂, Action.ofCall k actions = [.check k, .look k, .reply k elapsed] ∧
          Takes w₀ actions before' (.look k) w₂ ∧
          response =
            ((w₀.service.seen w₁.service.stopped w₂.service.catalog).answerRequest r elapsed).2 ∧
          (∀ v, response.result = some v → OfOneEntry w₂.service.catalog r v) ∧
          ∀ (call : Method) (id : Identity), r.method = call.name → call ≠ .listSchemas →
            Names r.arguments id →
            let own := (before'.filterMap Action.change?).filter (·.concerns id)
            response = ((w₀.service.seen w₁.service.stopped
              (w₀.service.catalog.run own).1).answerRequest r elapsed).2) := by
  obtain ⟨_, haccounts⟩ := (run_consistent fresh run).calls k _ (reply?_eq_some reply)
  dsimp only at haccounts
  cases haccounts with
  | replied own check same => exact ⟨_, _, _, check, .inl ⟨own, same⟩⟩
  | repliedLooked own check look =>
    refine ⟨_, _, _, check, .inr ⟨_, _, own, look, rfl, fun _ => ofOneEntry_of_result, ?_⟩⟩
    intro call id hr hcall hnames
    obtain ⟨hcatalog, -⟩ := run_service look.run
    apply answerRequest_congr _ _ _ hr hnames hcall
    rw [hcatalog]
    exact Catalog.get_run_filter start _ id

/-- A call that has found its schema replies from it, although the schema is removed and the service
stopped in between. -/
theorem run_reply_removed :
    let id : Identity := ⟨"test", "x", "1"⟩
    let entry : Entry := ⟨id, .interfaces, (Index.build .interfaces).toOption.getD .empty⟩
    let params := Value.object [("name", .string "test"), ("path", .string "/interfaces/mtu"),
      ("vendor", .string "x"), ("version", .string "1")]
    let r : Request := ⟨"2.0", "expand_path", some params, some (.natural 7)⟩
    let elapsed := Duration.ofSeconds 1
    let actions : List Action :=
      [.arrive r, .arrive r, .change (.put entry), .check 0, .look 0, .stop, .change (.remove id),
        .check 1, .reply 1 elapsed, .reply 0 elapsed]
    let response : Response :=
      .success r.id (.object [("paths", .array [.string "interfaces/mtu"])])
    Catalog.Starts .empty .empty ∧ ∃ w, run ⟨{}, []⟩ actions = some w ∧
      w.reply? 0 = some (r, response) ∧
      w.reply? 1 = some (r, .failure r.id (-32603) "Transport error: Server is shutting down") ∧
      ∃ before before' w₁ w₂, Takes ⟨{}, []⟩ actions before (.check 0) w₁ ∧
        Takes ⟨{}, []⟩ actions before' (.look 0) w₂ ∧
        response =
          ((Service.seen {} w₁.service.stopped w₂.service.catalog).answerRequest r elapsed).2 := by
  intro id entry params r elapsed actions response
  have hreply : (run ⟨{}, []⟩ actions).bind (fun w => w.reply? 0) = some (r, response) := by
    decide +kernel
  have hother : (run ⟨{}, []⟩ actions).bind (fun w => w.reply? 1) =
      some (r, .failure r.id (-32603) "Transport error: Server is shutting down") := by
    decide +kernel
  obtain ⟨w, hrun, hreply⟩ := Option.bind_eq_some_iff.mp hreply
  rw [hrun] at hother
  refine ⟨.empty, w, hrun, hreply, hother, ?_⟩
  obtain ⟨before, w₁, elapsed', check, ⟨own, -⟩ | ⟨before', w₂, own, look, same, -⟩⟩ :=
    run_reply .empty rfl hrun hreply
  · cases (congrArg List.length own : (3 : Nat) = 2)
  · obtain rfl : elapsed = elapsed' := by
      injection own with _ own
      injection own with _ own
      injection own with own _
      injection own
    exact ⟨before, before', w₁, w₂, check, look, same⟩

end World

end Rpc

end SchemaCatalog
