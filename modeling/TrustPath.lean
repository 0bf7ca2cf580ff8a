import TrustPath.Engine
import TrustPath.NameEvaluator
import TrustPath.Path.Evaluator
import TrustPath.Proofs.Credential
import TrustPath.Proofs.Name.HexForm
import TrustPath.Proofs.Name.Injectivity
import TrustPath.Proofs.Name.LostOctets
import TrustPath.Proofs.NameConstraint.Blocks
import TrustPath.Proofs.NameConstraint.Exactness
import TrustPath.Proofs.NameConstraint.Labels
import TrustPath.Proofs.NameEvaluation.BlankNames
import TrustPath.Proofs.Orchestration
import TrustPath.Proofs.Path.AlternativeNames
import TrustPath.Proofs.Path.Backtracking
import TrustPath.Proofs.Path.Failure
import TrustPath.Proofs.Path.Growth
import TrustPath.Proofs.Path.Length
import TrustPath.Proofs.Path.Logging
import TrustPath.Proofs.Path.Strictness
import TrustPath.Proofs.Path.Trust
import TrustPath.Proofs.Path.Undecodable
import TrustPath.Proofs.Policy.AnyChain
import TrustPath.Proofs.Policy.Counters
import TrustPath.Proofs.Policy.Deletion
import TrustPath.Proofs.Policy.Exactness
import TrustPath.Proofs.Policy.Loosening
import TrustPath.Proofs.Settings.Bundles
import TrustPath.Proofs.Settings.InitialPolicies
import TrustPath.Resolver
import TrustPath.Settings.Load
