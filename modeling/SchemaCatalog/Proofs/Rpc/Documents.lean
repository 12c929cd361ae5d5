import SchemaCatalog.Proofs.Json.Record
import SchemaCatalog.Rpc.Details
import SchemaCatalog.Rpc.Message

/-!
# What calls send can be read back

Identities, paths, elements and details are taken back from the documents they are written as, elements
without the places of their nodes, and counts as long as they are machine words. Requests, and
responses with a result or with a failure, are parsed as what they were printed from, if the free-form
documents in them are plain and ascending and not `null`.
-/

namespace SchemaCatalog

open Json (Codec Value Row)
open Json.Codec

/-! ### Results -/

theorem Identity.acceptsBack (id : Identity) : Identity.codec.AcceptsBack id := by
  refine AcceptsBack.imap (acceptsBack_record _ (by decide) ?_) rfl
  apply Row.each_required _ (acceptsBack_text _ _)
  apply Row.each_required _ (acceptsBack_text _ _)
  exact Row.each_required _ (acceptsBack_text _ _) trivial

theorem Identity.plain (id : Identity) (depth : Nat) :
    (Identity.codec.write id).Plain (depth + 1) := by
  apply plain_record "SchemaIdentity"
  apply Row.each_required _ trivial
  apply Row.each_required _ trivial
  exact Row.each_required _ trivial trivial

theorem DataPath.acceptsBack (p : DataPath) : DataPath.codec.AcceptsBack p :=
  (acceptsBack_text _ p.text).imap rfl

theorem DataPath.plain (p : DataPath) (depth : Nat) : (DataPath.codec.write p).Plain depth :=
  trivial

theorem acceptsBack_strings (texts : List String) : (Codec.list Codec.string).AcceptsBack texts :=
  AcceptsBack.list fun s _ => acceptsBack_text _ s

theorem plain_strings (texts : List String) (depth : Nat) :
    ((Codec.list Codec.string).write texts).Plain (depth + 1) :=
  plain_list fun _ _ => trivial

theorem acceptsBack_some_string (s : String) : Codec.string.optional.AcceptsBack (some s) := by
  apply (acceptsBack_text _ s).some
  intro h
  cases h

theorem plain_size {n : Nat} (h : (n : Int) ≤ Json.Number.maxInteger) (depth : Nat) :
    (Codec.size.write n).Plain depth :=
  ⟨Int.le_trans (by decide) (Int.natCast_nonneg n), h⟩

/-- An element is taken back without the place of its node. -/
theorem Element.acceptsBack {e : Element} (h : (e.childrenCount : Int) ≤ Json.Number.maxInteger) :
    Element.codec.AcceptsBack e.forgetNode := by
  refine AcceptsBack.imap (acceptsBack_record _ (by decide) ?_) rfl
  apply Row.each_required _ (acceptsBack_text _ _)
  apply Row.each_required _ e.path.acceptsBack
  apply Row.each_required _ (acceptsBack_variant (Kind.chooseVariant_name e.kind))
  apply Row.each_omissible _ fun s _ => acceptsBack_some_string s
  apply Row.each_omissible _ fun s _ => acceptsBack_some_string s
  refine ⟨?_, fun _ => acceptsBack_strings _, ?_⟩
  · intro hout
    have hnil : e.keys = [] := List.isEmpty_iff.mp hout
    exact .inl (congrArg Json.Absence.always hnil.symm)
  · apply Row.each_withDefault _ _ (acceptsBack_strings _)
    exact Row.each_required _ (acceptsBack_natural _ h) trivial

theorem Element.plain {e : Element} (h : (e.childrenCount : Int) ≤ Json.Number.maxInteger)
    (depth : Nat) : (Element.codec.write e).Plain (depth + 2) := by
  apply plain_record "SchemaElement"
  apply Row.each_required _ trivial
  apply Row.each_required _ trivial
  apply Row.each_required _ trivial
  apply Row.each_omissible _ fun _ _ => trivial
  apply Row.each_omissible _ fun _ _ => trivial
  refine ⟨?_, fun _ => plain_strings _ _, ?_⟩
  · intro hout
    have hnil : e.keys = [] := List.isEmpty_iff.mp hout
    exact .inl (congrArg Json.Absence.always hnil.symm)
  · apply Row.each_withDefault _ _ (plain_strings _ _)
    exact Row.each_required _ (plain_size h _) trivial

theorem Details.acceptsBack {d : Details} (hnodes : (d.nodeCount : Int) ≤ Json.Number.maxInteger)
    (helements : (d.elementCount : Int) ≤ Json.Number.maxInteger) :
    Details.codec.AcceptsBack d := by
  refine AcceptsBack.imap (acceptsBack_record _ (by decide) ?_) rfl
  apply Row.each_required _ d.identity.acceptsBack
  apply Row.each_required _ (acceptsBack_natural _ hnodes)
  apply Row.each_required _ (acceptsBack_natural _ helements)
  exact Row.each_required _ (acceptsBack_strings _) trivial

theorem Details.plain {d : Details} (hnodes : (d.nodeCount : Int) ≤ Json.Number.maxInteger)
    (helements : (d.elementCount : Int) ≤ Json.Number.maxInteger) (depth : Nat) :
    (Details.codec.write d).Plain (depth + 2) := by
  apply plain_record "SchemaDetails"
  apply Row.each_required _ (d.identity.plain _)
  apply Row.each_required _ (plain_size hnodes _)
  apply Row.each_required _ (plain_size helements _)
  exact Row.each_required _ (plain_strings _ _) trivial

/-! ### Messages -/

namespace Rpc

/-- A free-form document that can be sent as a part of a message. -/
structure Sendable (v : Value) : Prop where
  plain : v.Plain (Json.maxDepth - 1)
  ascending : v.Ascending
  ne_null : v ≠ .null

theorem Sendable.readsBack {v : Value} (h : Sendable v) :
    Codec.any.optional.ReadsBack (Json.maxDepth - 1) (some v) :=
  (readsBack_any h.plain h.ascending).some h.ne_null

theorem sendable_natural {n : Nat} (h : (n : Int) ≤ Json.Number.maxInteger) :
    Sendable (.natural n) where
  plain := plain_size h _
  ascending := trivial
  ne_null heq := by cases heq

variable {id : Option Value}

/-- The id of a message is read back. -/
theorem each_id (h : ∀ v, id = some v → Sendable v) :
    Row.Each (fun c x => c.ReadsBack (Json.maxDepth - 1) x) [idField] (id, ()) := by
  refine ⟨fun hout => absurd hout Bool.false_ne_true, fun _ => ?_, trivial⟩
  cases id with
  | none => exact readsBack_none _ _
  | some v => exact (h v rfl).readsBack

/-- **A request is parsed as what it was printed from.** -/
theorem parse_request {method : String} {params : Option Value}
    (hparams : ∀ v, params = some v → Sendable v) (hid : ∀ v, id = some v → Sendable v) :
    Request.codec.parse (Request.codec.print ⟨version, method, params, id⟩).toUTF8.toList =
      .ok ⟨version, method, params, id⟩ := by
  apply ReadsBack.parse_print
  refine ReadsBack.imap (readsBack_record _ (by decide) ?_) rfl
  apply Row.each_required _ (readsBack_text _ _ _)
  apply Row.each_required _ (readsBack_text _ _ _)
  exact Row.each_omissible _ (fun v hv => (hparams v hv).readsBack) (each_id hid)

/-- **A response with a result is parsed as what it was printed from.** -/
theorem parse_success {result : Value} (hresult : Sendable result)
    (hid : ∀ v, id = some v → Sendable v) :
    Response.codec.parse (Response.codec.print (.success id result)).toUTF8.toList =
      .ok (.success id result) := by
  apply ReadsBack.parse_print
  refine ReadsBack.imap (readsBack_record _ (by decide) ?_) rfl
  apply Row.each_required _ (readsBack_text _ _ _)
  apply Row.each_omissible _ fun v hv => Option.some.inj hv ▸ hresult.readsBack
  apply Row.each_omissible _
  · intro failure hfailure
    cases hfailure
  · exact each_id hid

/-- **A response with a failure is parsed as what it was printed from.** -/
theorem parse_failure {code : Int} (message : String) (hlow : -0x80000000 ≤ code)
    (hhigh : code ≤ 0x7FFFFFFF) (hid : ∀ v, id = some v → Sendable v) :
    Response.codec.parse (Response.codec.print (.failure id code message)).toUTF8.toList =
      .ok (.failure id code message) := by
  have hfailure : Failure.codec.ReadsBack (Json.maxDepth - 1) ⟨code, message, none⟩ := by
    refine ReadsBack.imap (readsBack_record _ (by decide) ?_) rfl
    apply Row.each_required _
      (readsBack_integer _ _ hlow hhigh (Int.le_trans (by decide) hlow)
        (Int.le_trans hhigh (by decide)))
    apply Row.each_required _ (readsBack_text _ _ _)
    refine Row.each_omissible _ ?_ trivial
    intro v hv
    cases hv
  apply ReadsBack.parse_print
  refine ReadsBack.imap (readsBack_record _ (by decide) ?_) rfl
  apply Row.each_required _ (readsBack_text _ _ _)
  apply Row.each_omissible _
  · intro v hv
    cases hv
  · apply Row.each_omissible _
    · intro failure hv
      rw [← Option.some.inj hv]
      apply hfailure.some
      intro heq
      cases heq
    · exact each_id hid

end Rpc

end SchemaCatalog
