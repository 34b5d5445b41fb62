import EntitySql.Main
import EntitySql.Proofs.Change.Assignment
import EntitySql.Proofs.Condition.Combination
import EntitySql.Proofs.Condition.Meaning
import EntitySql.Proofs.Document.RoundTrip
import EntitySql.Proofs.Entity.Caching
import EntitySql.Proofs.Entity.Escaping
import EntitySql.Proofs.Insert.Columns
import EntitySql.Proofs.Keys.Deletion
import EntitySql.Proofs.Keys.Finding
import EntitySql.Proofs.Naming.Camel
import EntitySql.Proofs.Paging.Tiling
import EntitySql.Proofs.Paging.Window
import EntitySql.Proofs.Result.Labels
import EntitySql.Proofs.Result.Rearrangement
import EntitySql.Proofs.Result.Shadowing
import EntitySql.Proofs.Session.Counting
import EntitySql.Proofs.Session.Operations
import EntitySql.Proofs.Statement.FirstUnknown
import EntitySql.Proofs.Statement.Harmless
import EntitySql.Proofs.Statement.Independence
import EntitySql.Proofs.Statement.Limits
import EntitySql.Proofs.Statement.Placeholders
import EntitySql.Proofs.Storage.RoundTrip
import EntitySql.Proofs.Value.Equality
import EntitySql.Proofs.Value.Readable
import EntitySql.Proofs.Value.RoundTrip
import EntitySql.Proofs.Value.Truncation
import EntitySql.Repository
import EntitySql.Session.Script
