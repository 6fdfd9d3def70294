import Dataflow.Candidate.Dominance
import Dataflow.Config.Yaml
import Dataflow.Physical.Dump
import Dataflow.Physical.Explain
import Dataflow.Program.Builder
import Dataflow.Proofs.Candidate.Domination
import Dataflow.Proofs.Candidate.Reuse
import Dataflow.Proofs.Candidate.Unforced
import Dataflow.Proofs.Data.Grouping
import Dataflow.Proofs.Data.Matching
import Dataflow.Proofs.Data.Product
import Dataflow.Proofs.Optimizer.History
import Dataflow.Proofs.Optimizer.OpenBranches
import Dataflow.Proofs.Optimizer.Optimality
import Dataflow.Proofs.Optimizer.Retention
import Dataflow.Proofs.Optimizer.SharedCosts
import Dataflow.Proofs.Optimizer.SinkAgreement
import Dataflow.Proofs.Optimizer.Sizes
import Dataflow.Proofs.Optimizer.Success
import Dataflow.Proofs.Optimizer.Validity
import Dataflow.Proofs.Physical.Renumbering
import Dataflow.Proofs.Program.Building
import Dataflow.Proofs.Program.Coverage
import Dataflow.Proofs.Program.Recovery
import Dataflow.Proofs.Properties.Projection
import Dataflow.Proofs.Search.FirstCheapest
import Dataflow.Proofs.Search.Repartitioning
import Dataflow.Search.Optimizer
