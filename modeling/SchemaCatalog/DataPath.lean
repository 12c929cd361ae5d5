/-
  `DataPath` — the slash-delimited path of a schema node in the data it describes.

  `ofText` takes outer slashes off, `join` puts segments together, and `startsWith` compares whole
  segments: a path starts with another one if it equals it or goes on with a slash behind it.
-/
import SchemaCatalog.Json.Codec
import SchemaCatalog.Text.Split

namespace SchemaCatalog

/-- A path from the root of the data. -/
structure DataPath where
  text : String
deriving DecidableEq, Repr, Inhabited

namespace DataPath

/-- The character between segments. -/
def separator : Char := '/'

/-- A text without separators at either end. -/
def trim (s : String) : String := String.ofList (Text.trim separator s.toList)

/-- The path that a text names. -/
def ofText (s : String) : DataPath := ⟨trim s⟩

/-- The path of segments, which may be empty or hold separators themselves. -/
def join (segments : List String) : DataPath :=
  ⟨String.ofList (Text.join separator (segments.map String.toList))⟩

/-- The segments of a path, empty ones left out. -/
def segments (p : DataPath) : List String :=
  ((Text.split separator p.text.toList).filter (!·.isEmpty)).map String.ofList

def isEmpty (p : DataPath) : Bool := p.text.isEmpty

/-- Whether a path equals `lead` or lies below it, outer separators of `lead` aside. Every path
lies below the empty one. -/
def startsWith (p : DataPath) (lead : String) : Bool :=
  match Text.trim separator lead.toList with
  | [] => true
  | c :: cs =>
    match Text.after? (c :: cs) p.text.toList with
    | none => false
    | some [] => true
    | some (d :: _) => d = separator

/-- A path is written as its text, and read as it stands. -/
def codec : Json.Codec DataPath := Json.Codec.string.imap DataPath.mk DataPath.text

end DataPath

end SchemaCatalog
