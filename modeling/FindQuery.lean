import FindQuery.Proofs.Client.Run
import FindQuery.Proofs.Condition.Equality
import FindQuery.Proofs.Condition.Grammar
import FindQuery.Proofs.Condition.Groups
import FindQuery.Proofs.Condition.Meaning
import FindQuery.Proofs.Condition.Names
import FindQuery.Proofs.Condition.Recompiled
import FindQuery.Proofs.Http.Exchange
import FindQuery.Proofs.Http.Target
import FindQuery.Proofs.Query.Body
import FindQuery.Proofs.Query.Conjunction
import FindQuery.Proofs.Query.EmptySelector
import FindQuery.Proofs.Query.Failure
import FindQuery.Proofs.Query.Meaning
import FindQuery.Proofs.Query.Projection
import FindQuery.Proofs.Query.Ranking
import FindQuery.Proofs.Query.Sorting
import FindQuery.Proofs.Query.Steps
import FindQuery.Proofs.Query.TextSelector
import FindQuery.Proofs.Response.RoundTrip
import FindQuery.Proofs.Selector.Writes
