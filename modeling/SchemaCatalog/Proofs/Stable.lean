import SchemaCatalog.Proofs.Json.Reread
import SchemaCatalog.Rpc.Details
import SchemaCatalog.Rpc.Message
import SchemaCatalog.Settings

/-!
# Documents are stable

However a text spells a value, with members in any order, unknown ones among them, optional ones missing
or `null`, or as an array, the text that the value is printed as is parsed as the same value, and so printed
as the same text again. This holds of all documents that are exchanged and of the configuration
(`stable_of_parse`). Free-form parts of requests and responses must be `Whole` for it: an integer that they
hold keeps its digits, while a floating-point number need not be written as it was read.
-/

namespace SchemaCatalog

open Json (Codec Value Field maxDepth)
open Json.Codec Json.Field

namespace Json.Codec

variable {α : Type} {c : Codec α} {x : α}

/-- The text of a value is parsed as the value, so that it is printed as the same text again. -/
structure Stable (c : Codec α) (x : α) : Prop where
  parsed : c.parse (c.print x).toUTF8.toList = .ok x
  printed : (c.parse (c.print x).toUTF8.toList).map c.print = .ok (c.print x)

/-- A value that a text is parsed as is stable if its codec reads back what it has read. -/
theorem Rereads.stable (h : c.Rereads maxDepth) {text : List UInt8} (hparse : c.parse text = .ok x)
    (hwhole : (c.write x).Whole) : c.Stable x := by
  have hparsed : c.parse (c.print x).toUTF8.toList = .ok x := by
    rw [parse] at hparse
    cases hread : c.read (text.length + 1) maxDepth text with
    | error f =>
      rw [hread] at hparse
      cases hparse
    | ok r =>
      rw [hread] at hparse
      dsimp only at hparse
      split at hparse
      · cases hparse
        exact (h _ text _ _ hread hwhole).parse_print
      · cases hparse
  refine ⟨hparsed, ?_⟩
  rw [hparsed]
  rfl

end Json.Codec

/-! ### Schemas and their parts -/

theorem rereads_strings (depth : Nat) : (Codec.list Codec.string).Rereads (depth + 1) :=
  (rereads_text _ depth).list

theorem rereads_optional_string (depth : Nat) : Codec.string.optional.Rereads depth :=
  (rereads_text _ depth).optional_of_ne_null fun x h => by cases h

theorem Identity.rereads (depth : Nat) : Identity.codec.Rereads (depth + 1) := by
  refine Rereads.imap (rereads_record _ (by decide) ?_) fun _ => rfl
  simp only [List.forall_mem_cons]
  exact ⟨rereads_required _ (rereads_text _ _), rereads_required _ (rereads_text _ _),
    rereads_required _ (rereads_text _ _), List.forall_mem_nil _⟩

theorem Source.rereads (depth : Nat) : Source.codec.Rereads (depth + 2) := by
  refine Rereads.imap (rereads_record _ (by decide) ?_) fun _ => rfl
  simp only [List.forall_mem_cons]
  exact ⟨rereads_required _ (rereads_text _ _), rereads_required _ (rereads_text _ _),
    rereads_required _ (rereads_text _ _), rereads_required _ (rereads_text _ _).list,
    List.forall_mem_nil _⟩

theorem DataPath.rereads (depth : Nat) : DataPath.codec.Rereads depth :=
  (rereads_text _ depth).imap fun _ => rfl

theorem Element.rereads (depth : Nat) : Element.codec.Rereads (depth + 2) := by
  refine Rereads.imap (rereads_record _ (by decide) ?_) fun _ => rfl
  have hkeys : Field.Rereads ⟨"keys", .list .string, .always [], List.isEmpty⟩ (depth + 1) := by
    refine ⟨rereads_strings depth, ?_, ?_⟩
    · intro keys hkeys
      rw [defaults_always hkeys]
      exact ReadsBack.list fun s hs => by cases hs
    · intro keys hempty
      obtain rfl : keys = [] := List.isEmpty_iff.mp hempty
      exact .inl rfl
  simp only [List.forall_mem_cons]
  exact ⟨rereads_required _ (rereads_text _ _), rereads_required _ (DataPath.rereads _),
    rereads_required _ (rereads_variant _ Kind.chooseVariant_name),
    rereads_omissible _ (rereads_optional_string _), rereads_omissible _ (rereads_optional_string _),
    hkeys, rereads_withDefault _ (rereads_strings depth) (ReadsBack.list fun s hs => by cases hs),
    rereads_required _ (rereads_natural _ _), List.forall_mem_nil _⟩

theorem Details.rereads (depth : Nat) : Details.codec.Rereads (depth + 2) := by
  refine Rereads.imap (rereads_record _ (by decide) ?_) fun _ => rfl
  simp only [List.forall_mem_cons]
  exact ⟨rereads_required _ (Identity.rereads _), rereads_required _ (rereads_natural _ _),
    rereads_required _ (rereads_natural _ _), rereads_required _ (rereads_strings _),
    List.forall_mem_nil _⟩

theorem whole_strings (texts : List String) : ((Codec.list Codec.string).write texts).Whole :=
  whole_list fun _ _ => trivial

theorem whole_optional_string (o : Option String) : (Codec.string.optional.write o).Whole :=
  whole_optional fun _ _ => trivial

theorem Identity.whole (id : Identity) : (Identity.codec.write id).Whole :=
  whole_record ⟨trivial, trivial, trivial, trivial⟩

theorem Source.whole (s : Source) : (Source.codec.write s).Whole :=
  whole_record ⟨trivial, trivial, trivial, whole_list fun _ _ => trivial, trivial⟩

theorem Element.whole (e : Element) : (Element.codec.write e).Whole :=
  whole_record ⟨trivial, trivial, trivial, whole_optional_string _, whole_optional_string _,
    whole_strings _, whole_strings _, trivial, trivial⟩

theorem Details.whole (d : Details) : (Details.codec.write d).Whole :=
  whole_record ⟨d.identity.whole, trivial, trivial, whole_strings _, trivial⟩

/-! ### Messages -/

namespace Rpc

theorem rereads_idField (depth : Nat) : idField.Rereads depth where
  reads := rereads_optional_any depth
  defaults x hx := defaults_inObject hx ▸ readsBack_none Codec.any depth
  leaves x hx := by cases hx

theorem Request.rereads (depth : Nat) : Request.codec.Rereads (depth + 1) := by
  refine Rereads.imap (rereads_record _ (by decide) ?_) fun _ => rfl
  simp only [List.forall_mem_cons]
  exact ⟨rereads_required _ (rereads_text _ _), rereads_required _ (rereads_text _ _),
    rereads_omissible _ (rereads_optional_any _), rereads_idField _, List.forall_mem_nil _⟩

theorem Failure.rereads (depth : Nat) : Failure.codec.Rereads (depth + 1) := by
  refine Rereads.imap (rereads_record _ (by decide) ?_) fun _ => rfl
  simp only [List.forall_mem_cons]
  exact ⟨rereads_required _ (rereads_integer _ _ (by decide) (by decide)),
    rereads_required _ (rereads_text _ _), rereads_omissible _ (rereads_optional_any _),
    List.forall_mem_nil _⟩

theorem Response.rereads (depth : Nat) : Response.codec.Rereads (depth + 2) := by
  refine Rereads.imap (rereads_record _ (by decide) ?_) fun _ => rfl
  have hfailure := (Failure.rereads depth).optional_of_ne_null fun f h => by cases h
  simp only [List.forall_mem_cons]
  exact ⟨rereads_required _ (rereads_text _ _), rereads_omissible _ (rereads_optional_any _),
    rereads_omissible _ hfailure, rereads_idField _, List.forall_mem_nil _⟩

theorem Request.whole {r : Request} (hparams : ∀ v, r.params = some v → v.Whole)
    (hid : ∀ v, r.id = some v → v.Whole) : (Request.codec.write r).Whole :=
  whole_record ⟨trivial, trivial, whole_optional hparams, whole_optional hid, trivial⟩

theorem Response.whole {r : Response} (hresult : ∀ v, r.result = some v → v.Whole)
    (hdata : ∀ f v, r.error = some f → f.data = some v → v.Whole)
    (hid : ∀ v, r.id = some v → v.Whole) : (Response.codec.write r).Whole := by
  have hfailure : ∀ f, r.error = some f → (Failure.codec.write f).Whole := by
    intro f hf
    exact whole_record ⟨trivial, trivial, whole_optional (hdata f · hf), trivial⟩
  exact whole_record
    ⟨trivial, whole_optional hresult, whole_optional hfailure, whole_optional hid, trivial⟩

end Rpc

/-! ### The configuration -/

theorem TlsFiles.rereads (depth : Nat) : TlsFiles.codec.Rereads (depth + 1) := by
  refine Rereads.imap (rereads_record _ (by decide) ?_) fun _ => rfl
  simp only [List.forall_mem_cons]
  exact ⟨rereads_required _ (rereads_text _ _), rereads_required _ (rereads_text _ _),
    List.forall_mem_nil _⟩

theorem ListenerSettings.rereads (depth : Nat) : ListenerSettings.codec.Rereads (depth + 2) := by
  unfold ListenerSettings.codec
  refine Rereads.imap (rereads_record _ (by decide) ?_) fun _ => rfl
  have htls := (TlsFiles.rereads depth).optional_of_ne_null fun t h => by cases h
  simp only [List.forall_mem_cons]
  exact ⟨rereads_withDefault _ (rereads_text _ _) (readsBack_text _ _ _),
    rereads_withDefault _ (rereads_natural _ _) (readsBack_natural _ _ (by decide)),
    rereads_withDefault _ (rereads_natural _ _) (readsBack_natural _ _ (by decide)),
    rereads_withDefault _ (rereads_natural _ _) (readsBack_natural _ _ (by decide)),
    rereads_nullable _ htls, List.forall_mem_nil _⟩

theorem MetricsSettings.rereads (depth : Nat) : MetricsSettings.codec.Rereads (depth + 1) := by
  unfold MetricsSettings.codec
  refine Rereads.imap (rereads_record _ (by decide) ?_) fun _ => rfl
  simp only [List.forall_mem_cons]
  exact ⟨rereads_withDefault _ (rereads_text _ _) (readsBack_text _ _ _), List.forall_mem_nil _⟩

/-- The settings of a listener by default are read back. -/
theorem ListenerSettings.readsBack_default (depth : Nat) :
    ListenerSettings.codec.ReadsBack (depth + 1) {} := by
  unfold ListenerSettings.codec
  refine ReadsBack.imap (readsBack_record _ (by decide) ?_) rfl
  apply Json.Row.each_withDefault _ _ (readsBack_text _ _ _)
  apply Json.Row.each_withDefault _ _ (readsBack_natural _ _ (by decide))
  apply Json.Row.each_withDefault _ _ (readsBack_natural _ _ (by decide))
  apply Json.Row.each_withDefault _ _ (readsBack_natural _ _ (by decide))
  exact ⟨fun hout => absurd hout Bool.false_ne_true, fun _ => readsBack_none _ _, trivial⟩

theorem Settings.rereads (depth : Nat) : Settings.codec.Rereads (depth + 4) := by
  refine Rereads.imap (rereads_record _ (by decide) ?_) fun _ => rfl
  have hmetrics := (MetricsSettings.rereads (depth + 2)).optional_of_ne_null fun m h => by cases h
  simp only [List.forall_mem_cons]
  exact ⟨rereads_withDefault _ (ListenerSettings.rereads _) (ListenerSettings.readsBack_default _),
    rereads_nullable _ hmetrics,
    rereads_withDefault _ (Source.rereads depth).list (ReadsBack.list fun s hs => by cases hs),
    List.forall_mem_nil _⟩

theorem ListenerSettings.whole (l : ListenerSettings) : (ListenerSettings.codec.write l).Whole := by
  have htls : ∀ t, l.tls = some t → (TlsFiles.codec.write t).Whole := by
    intro t _
    exact whole_record ⟨trivial, trivial, trivial⟩
  exact whole_record ⟨trivial, trivial, trivial, trivial, whole_optional htls, trivial⟩

theorem Settings.whole (s : Settings) : (Settings.codec.write s).Whole := by
  have hmetrics : ∀ m, s.metrics = some m → (MetricsSettings.codec.write m).Whole := by
    intro m _
    exact whole_record ⟨trivial, trivial⟩
  exact whole_record ⟨s.listener.whole, whole_optional hmetrics,
    whole_list fun source _ => source.whole, trivial⟩

/-! ### All documents -/

/-- **Whatever a text is parsed as is stable**: elements, identities, sources, details, paths,
requests, responses and the configuration, provided that the free-form parts of requests and responses hold
no floating-point numbers. -/
theorem stable_of_parse (text : List UInt8) :
    (∀ e, Element.codec.parse text = .ok e → Element.codec.Stable e) ∧
    (∀ id, Identity.codec.parse text = .ok id → Identity.codec.Stable id) ∧
    (∀ s, Source.codec.parse text = .ok s → Source.codec.Stable s) ∧
    (∀ d, Details.codec.parse text = .ok d → Details.codec.Stable d) ∧
    (∀ p, DataPath.codec.parse text = .ok p → DataPath.codec.Stable p) ∧
    (∀ r, Rpc.Request.codec.parse text = .ok r →
      (∀ v, r.params = some v → v.Whole) → (∀ v, r.id = some v → v.Whole) →
      Rpc.Request.codec.Stable r) ∧
    (∀ r, Rpc.Response.codec.parse text = .ok r →
      (∀ v, r.result = some v → v.Whole) →
      (∀ f v, r.error = some f → f.data = some v → v.Whole) →
      (∀ v, r.id = some v → v.Whole) → Rpc.Response.codec.Stable r) ∧
    (∀ s, Settings.codec.parse text = .ok s → Settings.codec.Stable s) := by
  refine ⟨?_, ?_, ?_, ?_, ?_, ?_, ?_, ?_⟩
  · intro e hparse
    exact (Element.rereads _).stable hparse e.whole
  · intro id hparse
    exact (Identity.rereads _).stable hparse id.whole
  · intro s hparse
    exact (Source.rereads _).stable hparse s.whole
  · intro d hparse
    exact (Details.rereads _).stable hparse d.whole
  · intro p hparse
    exact (DataPath.rereads _).stable hparse trivial
  · intro r hparse hparams hid
    exact (Rpc.Request.rereads _).stable hparse (Rpc.Request.whole hparams hid)
  · intro r hparse hresult hdata hid
    exact (Rpc.Response.rereads _).stable hparse (Rpc.Response.whole hresult hdata hid)
  · intro s hparse
    exact (Settings.rereads _).stable hparse s.whole

/-- A request with its members in another order and an unknown one among them, a response as an array,
its failure as one without its end, and a configuration whose optional members are `null`. -/
theorem stable_request_response_settings :
    let request := Utf8.encode ("\x7b \"id\": null, \"params\": \x7b\"b\": [1, -2], \"a\": \"\\u0041\"\x7d," ++
      " \"x\": 0.5, \"method\": \"m\", \"jsonrpc\": \"2.0\"\x7d")
    let params := Value.object
      [("a", .string "A"), ("b", .array [.natural 1, .number (.integer (-2))])]
    let response := Utf8.encode "[\"2.0\", null, [-32601, \"no\"], 7]"
    let failure : Rpc.Failure := ⟨-32601, "no", none⟩
    let settings := Utf8.encode "\x7b\"metrics\": null, \"rpc_server\": \x7b\"tls\": null\x7d\x7d"
    Rpc.Request.codec.parse request = .ok ⟨"2.0", "m", some params, none⟩ ∧ params.Whole ∧
      Rpc.Request.codec.Stable ⟨"2.0", "m", some params, none⟩ ∧
      Rpc.Response.codec.parse response = .ok ⟨"2.0", none, some failure, some (.natural 7)⟩ ∧
      Rpc.Response.codec.Stable ⟨"2.0", none, some failure, some (.natural 7)⟩ ∧
      Settings.codec.parse settings = .ok {} ∧ Settings.codec.Stable {} := by
  intro request params response failure settings
  have hrequest : Rpc.Request.codec.parse request = .ok ⟨"2.0", "m", some params, none⟩ := by
    decide +kernel
  have hresponse : Rpc.Response.codec.parse response =
      .ok ⟨"2.0", none, some failure, some (.natural 7)⟩ := by decide +kernel
  have hsettings : Settings.codec.parse settings = .ok {} := by decide +kernel
  have hwhole : params.Whole := ⟨trivial, ⟨trivial, trivial, trivial⟩, trivial⟩
  obtain ⟨-, -, -, -, -, hrequests, -, -⟩ := stable_of_parse request
  obtain ⟨-, -, -, -, -, -, hresponses, -⟩ := stable_of_parse response
  obtain ⟨-, -, -, -, -, -, -, hconfigurations⟩ := stable_of_parse settings
  refine ⟨hrequest, hwhole, hrequests _ hrequest ?_ ?_, hresponse, hresponses _ hresponse ?_ ?_ ?_,
    hsettings, hconfigurations _ hsettings⟩
  · intro v hv
    cases hv
    exact hwhole
  · intro v hv
    cases hv
  · intro v hv
    cases hv
  · intro f v hf hv
    cases hf
    cases hv
  · intro v hv
    cases hv
    trivial

end SchemaCatalog
