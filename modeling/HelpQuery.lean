import HelpQuery.Index.Search
import HelpQuery.Main
import HelpQuery.Proofs.Initialization
import HelpQuery.Proofs.Isolation
import HelpQuery.Proofs.Passages
import HelpQuery.Proofs.Precedence
import HelpQuery.Proofs.Ranking
import HelpQuery.Proofs.Serving
import HelpQuery.Proofs.Shapes
import HelpQuery.Proofs.Signs
import HelpQuery.Proofs.WrittenSettings
import HelpQuery.Proofs.WrittenTokens
import HelpQuery.Query.Meaning
import HelpQuery.Proofs.Globs
import HelpQuery.Proofs.Schemas
import HelpQuery.Proofs.Boosts
import HelpQuery.Proofs.Counterparts
import HelpQuery.Proofs.Concatenation
import HelpQuery.Proofs.Redundancy
import HelpQuery.Proofs.Provenance
import HelpQuery.Proofs.Listing
import HelpQuery.Proofs.FieldWarnings
import HelpQuery.Proofs.Stages
import HelpQuery.Proofs.Arrangement
import HelpQuery.Proofs.Bounds
import HelpQuery.Proofs.Cursors
import HelpQuery.Proofs.Results
import HelpQuery.Proofs.BracketedLists
import HelpQuery.Proofs.Capitals
import HelpQuery.Proofs.Occurrences
import HelpQuery.Proofs.TreeViews
import HelpQuery.Proofs.QueryStrings
import HelpQuery.Proofs.JsonReports
