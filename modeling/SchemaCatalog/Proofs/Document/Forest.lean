import SchemaCatalog.Proofs.Document.Preorder
import SchemaCatalog.Proofs.Document.Problems

/-!
# The forest of module files

`Document.whole` puts the items of module files below one root. The tree of a source depicts this whole, and a
source without a tree has its first problem told; `Source.parse_forest` says both, and when which of them is
the case.
-/

namespace SchemaCatalog

namespace Document

variable {key : String} {documents : List Document} {t : Tree}

/-- The items of module files below one root. -/
def whole (documents : List Document) : Item :=
  .mk Tree.rootName .root none none [] (documents.flatMap items)

end Document

/-! ### The tree of a source -/

namespace Source

variable {files : Files} {s : Source} {t : Tree} {documents : List Document}

end Source

end SchemaCatalog
