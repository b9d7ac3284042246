import MeshRoutes.Control.Reconciler
import MeshRoutes.Json.Printer
import MeshRoutes.Json.Reader
import MeshRoutes.NameMap.Lemmas
import MeshRoutes.Rehearsal.Script
import MeshRoutes.Proofs.Interleaving
import MeshRoutes.Proofs.Ownership
import MeshRoutes.Proofs.Partition
import MeshRoutes.Proofs.Conduct
import MeshRoutes.Proofs.Convergence
import MeshRoutes.Proofs.Idempotence
import MeshRoutes.Proofs.SafeStates
import MeshRoutes.Proofs.ScheduleIndependence
import MeshRoutes.Proofs.Warrants
import MeshRoutes.Proofs.FailureCauses
import MeshRoutes.Proofs.Barriers
import MeshRoutes.Proofs.InTurn
import MeshRoutes.Proofs.Fitting
import MeshRoutes.Proofs.Trails
import MeshRoutes.Proofs.SharedStore
import MeshRoutes.Proofs.Removal
import MeshRoutes.Proofs.RacedStage
import MeshRoutes.Proofs.Clearance
import MeshRoutes.Proofs.Cleanup
import MeshRoutes.Proofs.Pagination
import MeshRoutes.Proofs.Rearrangement
import MeshRoutes.Proofs.Retargeting
import MeshRoutes.Proofs.ResourceForms
import MeshRoutes.Proofs.RecordForms
import MeshRoutes.Proofs.ExactPartition
import MeshRoutes.Proofs.ExactTaint
import MeshRoutes.Proofs.ChangeDetection
import MeshRoutes.Proofs.FaithfulSpecs
import MeshRoutes.Proofs.References
import MeshRoutes.Proofs.TaintByName
import MeshRoutes.Proofs.DurationText
import MeshRoutes.Proofs.ArnTargets
import MeshRoutes.Proofs.RouterNames
