import SchemaCatalog.Cancellation
import SchemaCatalog.Folder
import SchemaCatalog.Main
import SchemaCatalog.Rpc.Client
import SchemaCatalog.Proofs.Tree.Lineage
import SchemaCatalog.Proofs.Index.Build
import SchemaCatalog.Proofs.Index.Contents
import SchemaCatalog.Proofs.Identity.Key
import SchemaCatalog.Proofs.Catalog.IdentityMap
import SchemaCatalog.Proofs.Document.Elements
import SchemaCatalog.Proofs.Index.Alike
import SchemaCatalog.Proofs.Document.Wrappers
import SchemaCatalog.Proofs.Json.Literal
import SchemaCatalog.Proofs.Json.Integer
import SchemaCatalog.Proofs.Json.Sorted
import SchemaCatalog.Proofs.Json.Bytes
import SchemaCatalog.Proofs.Json.ReadBack
import SchemaCatalog.Proofs.Json.Record
import SchemaCatalog.Proofs.Rpc.Documents
import SchemaCatalog.Proofs.Rpc.Queries
import SchemaCatalog.Proofs.Rpc.Exchange
import SchemaCatalog.Proofs.Rpc.Session
import SchemaCatalog.Proofs.Rpc.Contents
import SchemaCatalog.Proofs.Tree.Growth
import SchemaCatalog.Proofs.Tree.Roots
import SchemaCatalog.Proofs.Index.RoundTrip
import SchemaCatalog.Proofs.Index.Subtree
import SchemaCatalog.Proofs.Rpc.Protocol
import SchemaCatalog.Proofs.Catalog.Listing
import SchemaCatalog.Proofs.Catalog.Loading
import SchemaCatalog.Proofs.Document.Sources
import SchemaCatalog.Proofs.Server.Startup
import SchemaCatalog.Proofs.Rpc.Accounting
import SchemaCatalog.Proofs.Tree.Ancestry
import SchemaCatalog.Proofs.Json.Reread
import SchemaCatalog.Proofs.Stable
import SchemaCatalog.Proofs.Rpc.Course
import SchemaCatalog.Proofs.Rpc.Interleaving
import SchemaCatalog.Proofs.Rpc.Consistency
import SchemaCatalog.Proofs.Server.Shutdown
import SchemaCatalog.Proofs.Document.Forest
import SchemaCatalog.Proofs.Index.Siblings
import SchemaCatalog.Proofs.Index.Children
import SchemaCatalog.Proofs.Rpc.Expansion
import SchemaCatalog.Proofs.Index.Counts
import SchemaCatalog.Proofs.Rpc.Details
import SchemaCatalog.Proofs.Rpc.Receiving
import SchemaCatalog.Proofs.Rpc.Limits
import SchemaCatalog.Proofs.Cancellation.Ancestry
import SchemaCatalog.Proofs.Tree.InOrder
import SchemaCatalog.Proofs.Index.Segments
