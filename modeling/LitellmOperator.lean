import LitellmOperator.Lifecycle.Confinement
import LitellmOperator.Lifecycle.Cleanup
import LitellmOperator.Rollout.Collision
import LitellmOperator.Sync.Soundness
import LitellmOperator.Recovery.Healthy
import LitellmOperator.Upstream.VirtualKey
import LitellmOperator.Rotation.Run
import LitellmOperator.Members.Ownership
import LitellmOperator.Identity.Kinds
import LitellmOperator.Drift.Kinds
import LitellmOperator.Drift.Cycle
import LitellmOperator.Workload.Migration
import LitellmOperator.Instance.Readiness
import LitellmOperator.Workload.Revision
import LitellmOperator.Resources.MigrationName
import LitellmOperator.Resources.Overlap
import LitellmOperator.Members.Ledger
import LitellmOperator.Members.Convergence
import LitellmOperator.Logging.Callbacks
import LitellmOperator.Reference.Kinds
import LitellmOperator.Removal.Credential
import LitellmOperator.Resources.Extra
import LitellmOperator.Resources.EnvOverrides
import LitellmOperator.Custody.Upkeep
import LitellmOperator.Instance.Annotations
import LitellmOperator.Instance.Selectors
import LitellmOperator.Controller.Lookup
