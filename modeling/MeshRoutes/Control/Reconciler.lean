import MeshRoutes.Control.Batch
import MeshRoutes.Control.RouteTask
/-!
# The reconciler

The reconciler keeps nothing between its errands. Each one lists the remote routes, or takes
it that there are none, and then creates, updates and deletes, in this order and each in a
batch. The first failure ends the errand and undoes nothing; running it again does the rest.
-/

namespace MeshRoutes.Control

open Remote

/-- Why an errand has no result. -/
inductive Stop where
  | failed (failure : Failure)
  /-- The listing was longer than the policy allows. -/
  | unfinished
deriving DecidableEq

structure Reconciler (σ : Type) where
  plane : Plane σ
  policy : Policy

namespace Reconciler

variable {σ : Type}

/-- An event that belongs to no operation. -/
def log (event : Log.Event) : Action σ Stop Unit := modify (·.log event)

def fail (failure : Failure) : Action σ Stop α := throw (.failed failure)

/-! ## Listing -/

/-- The refs of the pages from a token on, behind those listed before. The last argument
counts the pages that may still be asked for. -/
def listFrom (plane : Plane σ) (router : RouterRef) (listed : List RouteRef)
    (token : Option String) : Nat → Run σ → Except Stop (List RouteRef) × Run σ
  | 0, run => (.error .unfinished, run)
  | limit + 1, run =>
    let call := Call.list router token
    let (_, run) := run.issue plane .listing call
    match run.answer plane .listing call with
    | (.error error, run) =>
      (.error (.failed (.api error)), run.record (.settled .listing (some (.api error))))
    | (.ok page, run) =>
      match page.next with
      | some next => listFrom plane router (listed ++ page.refs) (some next) limit run
      | none => (.ok (listed ++ page.refs), run.record (.settled .listing none))

/-- Lists the refs of a router's routes, page by page. -/
def list (reconciler : Reconciler σ) (router : RouterRef) :
    Action σ Stop (List RouteRef) := do
  modify (·.record (.began .listing))
  let refs ← show Action σ Stop (List RouteRef) from
    listFrom reconciler.plane router [] none reconciler.policy.pageLimit
  log (.listed refs.length)
  return refs

/-! ## Batches -/

/-- Carries out an operation on each of some items. -/
def batch (reconciler : Reconciler σ) (operation : β → Operation) (task : β → Task α n)
    (items : List β) : Action σ Stop (List α) := fun run =>
  let jobs := items.map fun item => ⟨operation item, n, task item⟩
  match Batch.run reconciler.plane reconciler.policy { waiting := jobs } run with
  | (.ok results, run) => (.ok results, run)
  | (.error failure, run) => (.error (.failed failure), run)

/-- Makes the remote routes those that are declared, given what is listed. -/
def reconcile (reconciler : Reconciler σ) (router : RouterRef) (scope : Declared.Scope)
    (routes : List Declared.Route) (refs : List RouteRef) :
    Action σ Stop (NameMap RouteRecord) := do
  match Partition.of routes refs with
  | .error duplicate => fail (.duplicateName duplicate)
  | .ok partition =>
    log (.reconciling partition.missing.length partition.matched.length
      partition.surplus.length)
    let created ← reconciler.batch (.creating ·.name) (RouteTask.create router scope)
      partition.missing
    let updated ← reconciler.batch (.updating ·.route.name) (RouteTask.update scope)
      partition.matched
    let _ ← reconciler.batch (.deleting ·.routeName) RouteTask.retire partition.surplus
    return NameMap.ofList (created ++ updated)

/-! ## Errands -/

/-- Creates the router's routes, of which none is there yet. -/
def create (reconciler : Reconciler σ) (mesh : Declared.Mesh)
    (router : Declared.VirtualRouter) (nodes : VirtualNode.Table) :
    Action σ Stop (NameMap RouteRecord) :=
  reconciler.reconcile (.of mesh router) (router.scope nodes) router.spec.routes []

/-- Makes the remote routes those that the router declares. -/
def update (reconciler : Reconciler σ) (mesh : Declared.Mesh)
    (router : Declared.VirtualRouter) (nodes : VirtualNode.Table) :
    Action σ Stop (NameMap RouteRecord) := do
  let refs ← reconciler.list (.of mesh router)
  reconciler.reconcile (.of mesh router) (router.scope nodes) router.spec.routes refs

/-- Deletes the routes that are tainted by the listeners that are now configured. -/
def remove (reconciler : Reconciler σ) (mesh : Declared.Mesh)
    (router : Declared.VirtualRouter) (listeners : List PortMapping) :
    Action σ Stop Unit := do
  let refs ← reconciler.list (.of mesh router)
  match Partition.of router.spec.routes refs with
  | .error duplicate => fail (.duplicateName duplicate)
  | .ok partition =>
    (partition.conflicts listeners).forM fun conflict => log (.conflicting conflict)
    let tainted := partition.tainted listeners
    log (.removing tainted.length)
    let _ ← reconciler.batch (.deleting ·.routeName) (RouteTask.delete (n := 0)) tainted
    return ()

/-- Deletes all routes of the router, whatever it declares. -/
def cleanup (reconciler : Reconciler σ) (mesh : Declared.Mesh)
    (router : Declared.VirtualRouter) : Action σ Stop Unit := do
  let refs ← reconciler.list (.of mesh router)
  let _ ← reconciler.reconcile (.of mesh router) (router.scope {}) [] refs
  return ()

end Reconciler

end MeshRoutes.Control
