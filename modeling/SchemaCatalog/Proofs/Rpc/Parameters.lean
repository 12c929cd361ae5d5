import SchemaCatalog.Proofs.Rpc.LookUp

/-!
# What the parameters of a call give

`Given params p s` says that the parameters of a call give the text `s` for a parameter: the path always
stands among them, the components of an identity in the object `schema`, if there is one. A call fails for
the first of its `demands` that is not given, the one that it `Lacks` (`lookUp_of_lacks`); with all of them
given, there is an identity that they name (`exists_names`).
-/

namespace SchemaCatalog.Rpc

open Json (Value)

/-- The parameters that are looked at. -/
inductive Parameter where
  | part (p : Identity.Part)
  | path
deriving DecidableEq

/-- The name of a parameter. -/
def Parameter.name : Parameter → String
  | part p => p.text
  | path => "path"

/-- The parameters of a call give a text for a parameter. -/
inductive Given (params : Value) : Parameter → String → Prop where
  /-- A component that stands in the object `schema`. -/
  | nested {p : Identity.Part} {s : String} {members : List (String × Value)}
      (schema : params.get? "schema" = some (.object members))
      (text : (Value.object members).get? p.text = some (.string s)) : Given params (.part p) s
  /-- A component that stands among the parameters, where `schema` is no object. -/
  | flat {p : Identity.Part} {s : String}
      (schema : ∀ members, params.get? "schema" ≠ some (.object members))
      (text : params.get? p.text = some (.string s)) : Given params (.part p) s
  | path {s : String} (text : params.get? "path" = some (.string s)) : Given params .path s

/-- The parameters name an identity. -/
def Names (params : Value) (id : Identity) : Prop := ∀ p, Given params (.part p) (id.component p)

/-- The first of some parameters that is not given. -/
def Lacks (params : Value) (demands : List Parameter) (p : Parameter) : Prop :=
  ∃ before after, demands = before ++ p :: after ∧ (∀ q ∈ before, ∃ s, Given params q s) ∧
    ∀ s, ¬ Given params p s

/-- The components of an identity, in the order in which they are asked for. -/
def identityDemands : List Parameter := [.part .name, .part .vendor, .part .version]

/-- The parameters that a call cannot do without, in the order in which they are asked for. -/
def Method.demands : Method → List Parameter
  | .getElement => identityDemands ++ [.path]
  | .listSchemas => []
  | .getDetails | .expandPath => identityDemands

/-! ### Reading parameters -/

variable {params : Value} {p : Parameter} {s : String} {id : Identity}

theorem textParam?_eq_some_iff {name : String} :
    textParam? params name = some s ↔ params.get? name = some (.string s) := by
  rw [textParam?, Option.bind_eq_some_iff]
  constructor
  · rintro ⟨v, hv, htext⟩
    cases v <;> simp_all [Value.text?]
  · intro h
    exact ⟨_, h, rfl⟩

/-- The text that is read for a parameter. -/
def readParam (params : Value) : Parameter → Option String
  | .part p => textParam? (identityParams params) p.text
  | .path => textParam? params "path"

/-- What is given is what is read. -/
theorem given_iff : Given params p s ↔ readParam params p = some s := by
  cases p with
  | path =>
    rw [readParam, textParam?_eq_some_iff]
    constructor
    · rintro ⟨⟩
      assumption
    · exact .path
  | part p =>
    rw [readParam, textParam?_eq_some_iff]
    unfold identityParams
    split
    next members hschema =>
      constructor
      · intro h
        cases h with
        | nested hschema' htext =>
          -- There is one member `schema` only.
          rw [hschema] at hschema'
          cases hschema'
          exact htext
        | flat hnot _ => exact absurd hschema (hnot members)
      · exact .nested hschema
    next hnot =>
      constructor
      · intro h
        cases h with
        | nested hschema _ => exact absurd hschema (hnot _)
        | flat _ htext => exact htext
      · exact .flat hnot

theorem not_given_iff : (∀ s, ¬ Given params p s) ↔ readParam params p = none := by
  rw [Option.eq_none_iff_forall_ne_some]
  exact forall_congr' fun s => not_congr given_iff

theorem exists_given_iff : (∃ s, Given params p s) ↔ (readParam params p).isSome = true := by
  rw [Option.isSome_iff_exists]
  exact exists_congr fun s => given_iff

/-! ### Demands -/

variable {demands more : List Parameter}

/-- What is lacking is what a search for it finds first. -/
theorem lacks_iff :
    Lacks params demands p ↔ demands.find? (fun q => (readParam params q).isNone) = some p := by
  rw [List.find?_eq_some_iff_append]
  constructor
  · rintro ⟨before, after, hsplit, hgiven, hnot⟩
    refine ⟨?_, before, after, hsplit, ?_⟩
    · rw [not_given_iff.mp hnot]
      rfl
    · intro q hq
      simpa using exists_given_iff.mp (hgiven q hq)
  · rintro ⟨hnone, before, after, hsplit, hgiven⟩
    refine ⟨before, after, hsplit, ?_, not_given_iff.mpr (Option.isNone_iff_eq_none.mp hnone)⟩
    intro q hq
    rw [exists_given_iff]
    simpa using hgiven q hq

/-- Either all demands are given, or one of them is lacking. -/
theorem given_or_lacks (params : Value) (demands : List Parameter) :
    (∀ q ∈ demands, ∃ s, Given params q s) ∨ ∃ p, Lacks params demands p := by
  cases hfind : demands.find? fun q => (readParam params q).isNone with
  | some p => exact .inr ⟨p, lacks_iff.mpr hfind⟩
  | none =>
    refine .inl fun q hq => ?_
    rw [exists_given_iff]
    simpa [Option.isSome_iff_ne_none] using List.find?_eq_none.mp hfind q hq

theorem lacks_append_iff :
    Lacks params (demands ++ more) p ↔
      Lacks params demands p ∨ (∀ q ∈ demands, ∃ s, Given params q s) ∧ Lacks params more p := by
  rw [lacks_iff, List.find?_append, Option.or_eq_some_iff, ← lacks_iff, ← lacks_iff,
    List.find?_eq_none]
  simp [exists_given_iff, Option.isSome_iff_ne_none]

theorem lacks_nil : ¬ Lacks params [] p := by
  rw [lacks_iff, List.find?_nil]
  intro h
  cases h

theorem lacks_cons_iff {q : Parameter} :
    Lacks params (q :: demands) p ↔
      (q = p ∧ ∀ s, ¬ Given params q s) ∨ (∃ s, Given params q s) ∧ Lacks params demands p := by
  rw [lacks_iff, lacks_iff, List.find?_cons, not_given_iff, exists_given_iff]
  cases readParam params q <;> simp

/-- Parameters that give all components name an identity. -/
theorem exists_names (h : ∀ q ∈ identityDemands, ∃ s, Given params q s) : ∃ id, Names params id := by
  obtain ⟨name, hname⟩ := h (.part .name) (by decide)
  obtain ⟨vendor, hvendor⟩ := h (.part .vendor) (by decide)
  obtain ⟨version, hversion⟩ := h (.part .version) (by decide)
  refine ⟨⟨name, vendor, version⟩, ?_⟩
  rintro (_ | _ | _)
  · exact hname
  · exact hvendor
  · exact hversion

/-- The text of a parameter that a call cannot do without. -/
def demand (params : Value) (p : Parameter) : Except Error String :=
  match readParam params p with
  | some s => .ok s
  | none => .error (.invalidParams (.missing p.name))

theorem demand_of_given (h : Given params p s) : demand params p = .ok s := by
  rw [demand, given_iff.mp h]

theorem textParam_path {path : String} (h : Given params .path path) :
    textParam params "path" = .ok path :=
  demand_of_given h

theorem demand_of_not_given (h : ∀ s, ¬ Given params p s) :
    demand params p = .error (.invalidParams (.missing p.name)) := by
  rw [demand, not_given_iff.mp h]

/-- The components of an identity are asked for one after the other. -/
theorem identityParam_eq (params : Value) :
    identityParam params =
      demand params (.part .name) >>= fun name =>
        demand params (.part .vendor) >>= fun vendor =>
          demand params (.part .version) >>= fun version => .ok ⟨name, vendor, version⟩ :=
  rfl

theorem identityParam_of_names (h : Names params id) : identityParam params = .ok id := by
  rw [identityParam_eq, demand_of_given (h .name), ok_bind, demand_of_given (h .vendor), ok_bind,
    demand_of_given (h .version), ok_bind]
  rfl

/-- A call about an identity fails for the first component that is not given. -/
theorem identityParam_of_lacks (h : Lacks params identityDemands p) :
    identityParam params = .error (.invalidParams (.missing p.name)) := by
  rw [identityParam_eq]
  rcases lacks_cons_iff.mp h with ⟨rfl, hnot⟩ | ⟨⟨name, hname⟩, h⟩
  · rw [demand_of_not_given hnot]
    rfl
  rw [demand_of_given hname, ok_bind]
  rcases lacks_cons_iff.mp h with ⟨rfl, hnot⟩ | ⟨⟨vendor, hvendor⟩, h⟩
  · rw [demand_of_not_given hnot]
    rfl
  rw [demand_of_given hvendor, ok_bind]
  rcases lacks_cons_iff.mp h with ⟨rfl, hnot⟩ | ⟨_, h⟩
  · rw [demand_of_not_given hnot]
    rfl
  · exact absurd h lacks_nil

/-- **A call fails for the first of its demands that is not given.** -/
theorem lookUp_of_lacks (c : Catalog) {call : Method} (h : Lacks params call.demands p) :
    lookUp c params call = .error (.invalidParams (.missing p.name)) := by
  cases call with
  | getElement =>
    rcases lacks_append_iff.mp h with h | ⟨hgiven, h⟩
    · rw [lookUp, identityParam_of_lacks h]
      rfl
    · obtain ⟨id, hid⟩ := exists_names hgiven
      rcases lacks_cons_iff.mp h with ⟨rfl, hnot⟩ | ⟨_, h⟩
      · have hpath : textParam params "path" = _ := demand_of_not_given hnot
        rw [lookUp_getElement c (identityParam_of_names hid), hpath]
        rfl
      · exact absurd h lacks_nil
  | listSchemas => exact absurd h lacks_nil
  | getDetails =>
    rw [lookUp, identityParam_of_lacks h]
    rfl
  | expandPath =>
    rw [lookUp, identityParam_of_lacks h]
    rfl

end SchemaCatalog.Rpc
