import SchemaCatalog.Proofs.Rpc.Contents
import SchemaCatalog.Proofs.Rpc.Documents
import SchemaCatalog.Proofs.Rpc.LookUp
import SchemaCatalog.Rpc.Client

/-!
# What queries ask for

`Query.Answers` says what a catalog itself has to say to a query: what it holds for the identity, or the error
that a schema or a path is not there. The call of the query looks up just that, written as a document
(`Answers.lookUp_eq`), from which the client takes it back (`Answers.acceptsBack`).

Counts are taken back as far as they are machine words, which those of all collections in memory are;
`Catalog.WordSized` says so of the counts that a catalog tells about.
-/

namespace SchemaCatalog

open Json (Codec Value)
open Json.Codec

/-- The counts that a catalog tells about are machine words. -/
def Catalog.WordSized (c : Catalog) : Prop :=
  ∀ id entry, c.get id = .ok entry →
    (entry.tree.size : Int) ≤ Json.Number.maxInteger ∧
    (entry.index.size : Int) ≤ Json.Number.maxInteger ∧
    ∀ path e, entry.index.get? path = some e → (e.childrenCount : Int) ≤ Json.Number.maxInteger

namespace Rpc.Client.Query

/-- What a catalog has to say to a query. An element comes without the place of its node. A path that paths are
asked for below has to be in the schema, unless it is of slashes only. -/
inductive Answers (c : Catalog) : {α : Type} → Query α → Except Error α → Prop where
  | element {id : Identity} {path : String} {e : Element} (found : c.getElement id path = .ok e) :
      Answers c (.element id path) (.ok { e with node := none })
  | noElement {id : Identity} {path : String} {e : Error} (fails : c.getElement id path = .error e) :
      Answers c (.element id path) (.error e)
  | schemas : Answers c .schemas (.ok c.list)
  | details {id : Identity} {entry : Entry} {d : Details} (found : c.get id = .ok entry)
      (describes : d.Describes entry) : Answers c (.details id) (.ok d)
  | noDetails {id : Identity} {e : Error} (fails : c.get id = .error e) :
      Answers c (.details id) (.error e)
  | paths {id : Identity} {lead : String} {entry : Entry} {paths : List DataPath}
      (found : c.get id = .ok entry)
      (indexed : (∃ c ∈ lead.toList, c ≠ '/') → ∃ e, entry.element lead = .ok e)
      (lists : entry.index.ListsBelow lead paths) : Answers c (.paths id lead) (.ok paths)
  | noSchema {id : Identity} {lead : String} {e : Error} (fails : c.get id = .error e) :
      Answers c (.paths id lead) (.error e)
  | noPath {id : Identity} {lead : String} {entry : Entry} {e : Error} (found : c.get id = .ok entry)
      (more : ∃ c ∈ lead.toList, c ≠ '/') (fails : entry.element lead = .error e) :
      Answers c (.paths id lead) (.error e)

variable {α : Type} {c : Catalog} {query : Query α} {x : Except Error α}

theorem identityParam_identityParams (id : Identity) (path : Option String) :
    identityParam (identityParams id path) = .ok id := by
  cases path with
  | none => rfl
  | some path => rfl

theorem expandEntry_eq (entry : Entry) (lead : String) :
    expandEntry entry lead =
      if (DataPath.trim lead).isEmpty then .ok (entry.index.expand lead)
      else (entry.element lead).map fun _ => entry.index.expand lead := by
  rw [expandEntry]
  cases hempty : (DataPath.trim lead).isEmpty with
  | true => rfl
  | false =>
    cases entry.element lead with
    | error e => rfl
    | ok x => rfl

theorem expandEntry_of_more {entry : Entry} {lead : String} (more : ∃ c ∈ lead.toList, c ≠ '/') :
    expandEntry entry lead = (entry.element lead).map fun _ => entry.index.expand lead := by
  have hempty : ¬ (DataPath.trim lead).isEmpty = true := by
    rw [String.isEmpty_iff]
    exact DataPath.trim_ne_empty_iff.mpr more
  rw [expandEntry_eq, if_neg hempty]

/-- The paths below a path are looked up only if that one is in the schema, or has slashes only. -/
theorem expandEntry_of_indexed {entry : Entry} {lead : String}
    (indexed : (∃ c ∈ lead.toList, c ≠ '/') → ∃ e, entry.element lead = .ok e) :
    expandEntry entry lead = .ok (entry.index.expand lead) := by
  by_cases more : ∃ c ∈ lead.toList, c ≠ '/'
  · obtain ⟨e, he⟩ := indexed more
    rw [expandEntry_of_more more, he]
    rfl
  · have hempty : (DataPath.trim lead).isEmpty = true := by
      rw [String.isEmpty_iff]
      exact not_not.mp (mt DataPath.trim_ne_empty_iff.mp more)
    rw [expandEntry_eq, if_pos hempty]

/-! ### Looking up -/

theorem lookUp_element (c : Catalog) (id : Identity) (path : String) :
    lookUp c (identityParams id (some path)) .getElement =
      (c.getElement id path).map Element.codec.toValue := by
  have hpath : textParam (identityParams id (some path)) "path" = .ok path := rfl
  rw [lookUp_getElement c (identityParam_identityParams id _), hpath, ok_bind]

theorem lookUp_paths (c : Catalog) (id : Identity) (lead : String) :
    lookUp c (identityParams id (some lead)) .expandPath =
      c.get id >>= fun entry => (expandEntry entry lead).map (Codec.list DataPath.codec).toValue := by
  have hlead : (textParam? (identityParams id (some lead)) "path").getD "" = lead := rfl
  rw [lookUp_expandPath c (identityParam_identityParams id _), hlead]

/-- The call of a query looks up what the catalog has to say to it. -/
theorem Answers.lookUp_eq (h : query.Answers c x) :
    lookUp c query.params query.method = x.map query.codec.toValue := by
  cases h with
  | @element id path e found =>
    show lookUp c (identityParams id (some path)) .getElement = _
    rw [lookUp_element, found]
    rfl
  | @noElement id path e fails =>
    show lookUp c (identityParams id (some path)) .getElement = _
    rw [lookUp_element, fails]
    rfl
  | schemas => rfl
  | @details id entry d found describes =>
    show lookUp c (identityParams id none) .getDetails = _
    rw [lookUp_getDetails c (identityParam_identityParams id _), found, Details.describes_iff.mp describes]
    rfl
  | @noDetails id e fails =>
    show lookUp c (identityParams id none) .getDetails = _
    rw [lookUp_getDetails c (identityParam_identityParams id _), fails]
    rfl
  | @paths id lead entry paths found indexed lists =>
    show lookUp c (identityParams id (some lead)) .expandPath = _
    rw [lookUp_paths, found, ok_bind, expandEntry_of_indexed indexed, Index.listsBelow_iff.mp lists]
    rfl
  | @noSchema id lead e fails =>
    show lookUp c (identityParams id (some lead)) .expandPath = _
    rw [lookUp_paths, fails]
    rfl
  | @noPath id lead entry e found more fails =>
    show lookUp c (identityParams id (some lead)) .expandPath = _
    rw [lookUp_paths, found, ok_bind, expandEntry_of_more more, fails]
    rfl

/-- A catalog has something to say to every query. -/
theorem exists_answers (c : Catalog) (query : Query α) : ∃ x, query.Answers c x := by
  cases query with
  | element id path =>
    cases hfound : c.getElement id path with
    | error e => exact ⟨_, .noElement hfound⟩
    | ok e => exact ⟨_, .element hfound⟩
  | schemas => exact ⟨_, .schemas⟩
  | details id =>
    cases hfound : c.get id with
    | error e => exact ⟨_, .noDetails hfound⟩
    | ok entry => exact ⟨_, .details hfound (Details.describes_ofEntry entry)⟩
  | paths id lead =>
    cases hfound : c.get id with
    | error e => exact ⟨_, .noSchema hfound⟩
    | ok entry =>
      by_cases more : ∃ c ∈ lead.toList, c ≠ '/'
      · cases helement : entry.element lead with
        | error e => exact ⟨_, .noPath hfound more helement⟩
        | ok e => exact ⟨_, .paths hfound (fun _ => ⟨e, helement⟩) (entry.index.listsBelow_expand lead)⟩
      · exact ⟨_, .paths hfound (fun h => absurd h more) (entry.index.listsBelow_expand lead)⟩

/-! ### Errors -/

theorem get_error {id : Identity} {e : Error} (h : c.get id = .error e) :
    e = .schemaNotFound id.key := by
  rw [Catalog.get] at h
  cases hentry : c.entries[id.key]? with
  | none =>
    rw [hentry] at h
    exact (Except.error.inj h).symm
  | some entry =>
    rw [hentry] at h
    cases h

theorem element_error {entry : Entry} {path : String} {e : Error}
    (h : entry.element path = .error e) : e = .pathNotFound entry.identity.key path := by
  rw [Entry.element] at h
  cases helement : entry.index.get? path with
  | none =>
    rw [helement] at h
    exact (Except.error.inj h).symm
  | some element =>
    rw [helement] at h
    cases h

/-- A query fails if a schema or a path is not there only. -/
theorem Answers.error_cases {e : Error} (h : query.Answers c (.error e)) :
    (∃ key, e = .schemaNotFound key) ∨ ∃ key path, e = .pathNotFound key path := by
  cases h with
  | noElement fails =>
    rw [Catalog.getElement, bind_eq_error_iff] at fails
    rcases fails with hget | ⟨entry, _, helement⟩
    · exact .inl ⟨_, get_error hget⟩
    · exact .inr ⟨_, _, element_error helement⟩
  | noDetails fails => exact .inl ⟨_, get_error fails⟩
  | noSchema fails => exact .inl ⟨_, get_error fails⟩
  | noPath found more fails => exact .inr ⟨_, _, element_error fails⟩

/-! ### Results -/

/-- An element that is found has as many children as fit a machine word. -/
theorem childrenCount_le (words : c.WordSized) {id : Identity} {path : String} {e : Element}
    (h : c.getElement id path = .ok e) : (e.childrenCount : Int) ≤ Json.Number.maxInteger := by
  rw [Catalog.getElement] at h
  obtain ⟨entry, hget, helement⟩ := bind_eq_ok_iff.mp h
  rw [Entry.element] at helement
  cases hfound : entry.index.get? path with
  | none =>
    rw [hfound] at helement
    cases helement
  | some e' =>
    rw [hfound] at helement
    rw [← Except.ok.inj helement]
    exact (words id entry hget).2.2 path e' hfound

/-- The details of an entry have counts that fit machine words. -/
theorem counts_le (words : c.WordSized) {id : Identity} {entry : Entry} {d : Details}
    (found : c.get id = .ok entry) (describes : d.Describes entry) :
    (d.nodeCount : Int) ≤ Json.Number.maxInteger ∧ (d.elementCount : Int) ≤ Json.Number.maxInteger := by
  obtain ⟨hnodes, helements, _⟩ := words id entry found
  rw [describes.nodeCount, describes.elementCount]
  exact ⟨hnodes, helements⟩

/-- The client takes back what a catalog has to say. -/
theorem Answers.acceptsBack (words : c.WordSized) {y : α} (h : query.Answers c (.ok y)) :
    query.codec.AcceptsBack y := by
  cases h with
  | @element id path e found => exact Element.acceptsBack (e := e) (childrenCount_le words found)
  | schemas => exact AcceptsBack.list fun id _ => id.acceptsBack
  | details found describes =>
    obtain ⟨hnodes, helements⟩ := counts_le words found describes
    exact Details.acceptsBack hnodes helements
  | paths => exact AcceptsBack.list fun p _ => p.acceptsBack

/-- What a catalog has to say is written plainly. -/
theorem Answers.plain (words : c.WordSized) {y : α} (h : query.Answers c (.ok y)) (depth : Nat) :
    (query.codec.write y).Plain (depth + 2) := by
  cases h with
  | @element id path e found =>
    have hcount := childrenCount_le words found
    exact Element.plain (e := e.forgetNode) hcount depth
  | schemas => exact plain_list fun id _ => id.plain _
  | details found describes =>
    obtain ⟨hnodes, helements⟩ := counts_le words found describes
    exact Details.plain hnodes helements depth
  | paths => exact plain_list fun p _ => p.plain _

end Rpc.Client.Query

end SchemaCatalog
