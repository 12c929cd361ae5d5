/-
  `Source` — a schema as it is configured: its identity, and the files that define it.
-/
import SchemaCatalog.Identity

namespace SchemaCatalog

/-- A configured schema. -/
structure Source where
  name : String
  vendor : String
  version : String
  files : List String
deriving DecidableEq, Repr, Inhabited

namespace Source

/-- The identity of the schema. -/
def identity (s : Source) : Identity := ⟨s.name, s.vendor, s.version⟩

/-- A source is an object of its components. -/
def codec : Json.Codec Source :=
  (Json.Codec.record "SchemaSource"
    [.required "name" .string, .required "vendor" .string, .required "version" .string,
     .required "files" (.list .path)]).imap
    (fun (name, vendor, version, files, _) => ⟨name, vendor, version, files⟩)
    (fun s => (s.name, s.vendor, s.version, s.files, ()))

end Source

end SchemaCatalog
