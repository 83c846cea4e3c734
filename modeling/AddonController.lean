import AddonController.Set
import AddonController.Api
import AddonController.References
import AddonController.ReferenceMaps
import AddonController.Prometheus.Remote
import AddonController.Prometheus.Deploy
import AddonController.Prometheus.Errors
import AddonController.Prometheus.Hash
import AddonController.Reconcile.Pass
import AddonController.Reconcile.Effects
import AddonController.Reconcile.Lifecycle
import AddonController.Reconcile.Maps
import AddonController.Reconcile.Progress
import AddonController.Reconcile.Retained
import AddonController.Reconcile.Fleet
import AddonController.Scope
