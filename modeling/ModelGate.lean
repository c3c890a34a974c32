import ModelGate.Decide.Service
import ModelGate.Http.Target
import ModelGate.Leadership.Lease
import ModelGate.Main
import ModelGate.Simulation.Controller
import ModelGate.Proofs.Decide.Authorization
import ModelGate.Proofs.Decide.Staleness
import ModelGate.Proofs.Reconcile.Retries
import ModelGate.Proofs.Reconcile.FinalizerSafety
import ModelGate.Proofs.Reconcile.Answers
import ModelGate.Proofs.Reconcile.StatusConsistency
import ModelGate.Proofs.Cluster.StatusRecord
import ModelGate.Proofs.Reconcile.BackendRequests
import ModelGate.Proofs.Reconcile.Convergence
import ModelGate.Proofs.Reconcile.ReadyService
import ModelGate.Proofs.Reconcile.RouteDeletion
import ModelGate.Proofs.Reconcile.Rescheduling
import ModelGate.Proofs.Simulation.Footprint
import ModelGate.Proofs.Reconcile.LeastMutation
import ModelGate.Proofs.Reconcile.BoundedWaits
import ModelGate.Proofs.Leadership.Alternation
import ModelGate.Proofs.Decide.Accounting
import ModelGate.Proofs.Index.TierHistory
import ModelGate.Proofs.Reconcile.RecordedRoute
import ModelGate.Proofs.Reconcile.DelayGrowth
import ModelGate.Proofs.Tier.Eviction
import ModelGate.Proofs.Reconcile.RouteCleanup
import ModelGate.Proofs.Reconcile.DerivedEndpoint
import ModelGate.Proofs.Tier.LookupTables
import ModelGate.Proofs.Tier.FirstClash
import ModelGate.Proofs.Tier.HighestTier
import ModelGate.Proofs.Decide.BodyReading
import ModelGate.Proofs.Reconcile.ConditionHistory
import ModelGate.Proofs.Decide.SideEffects
import ModelGate.Proofs.Reconcile.ServiceTriggers
import ModelGate.Proofs.Decide.Identities
import ModelGate.Proofs.Access.AnnotationText
import ModelGate.Proofs.Index.ModelCount
import ModelGate.Proofs.Tier.TimeToLive
import ModelGate.Proofs.Cluster.StatusEncoding
import ModelGate.Proofs.Tier.DeclaredTiers
import ModelGate.Proofs.Reconcile.RouteInStatus
