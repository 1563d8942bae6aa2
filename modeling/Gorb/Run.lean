import Gorb.Store

/-!
# Runs of the daemon

The daemon's goroutines share the Context through its lock: the REST handlers and the store's
reconciler call the mutators, each holding the lock for its whole run, and the notification loop
takes it once per step of an update. A run is any interleaving of these atomic steps from a daemon
just started, against one environment `Env`.

`UpdateBackend` has no caller but the notification loop, so it is a step only inside the loop's
steps. `Close` removes the services one `RemoveService` at a time, each under the lock; it is a
step too, and running further steps after it only adds runs.
-/

namespace Gorb

/-- A daemon just started: an empty Context and IPVS table and an idle notification loop. The VIP
interface may carry addresses already. -/
def Machine.init (endpoint : Option IP) (vipInterface : Option String) (addrs : List String) :
    Machine where
  ctx := { endpoint := endpoint, vipInterface := vipInterface, services := ∅ }
  ipvs := []
  addrs := addrs
  monitors := []
  stash := ∅
  phase := .idle
  calls := []
  clock := 0
  next := 0

def Env.accepting (dns : String → Option IP) : Env where
  dns := fun _ => dns
  ipvs := fun _ => true
  netlink := fun _ => true
  pulseNew := fun _ _ _ => true
  lower := CaseMap.onASCII

/-- The atomic steps: a call of a REST handler or of the store's reconciler, an update a probe
delivers to the notification loop, or the loop's next locked step. -/
inductive Action
  | createService (vsID : String) (cfg : ServiceConfig)
  | createBackend (vsID rsID : String) (opts : BackendOptions)
  | removeService (vsID : String)
  | removeBackend (vsID rsID : String)
  | synchronize (order : SyncOrder) (d : StrMap ServiceConfig)
  | close (order : List String)
  | deliver (u : Update)
  | pulse

namespace Action

def run (env : Env) (s : Machine) : Action → CtxM Unit
  | createService vsID cfg => Gorb.createService env vsID cfg
  | createBackend vsID rsID opts => Gorb.createBackend env vsID rsID opts
  | removeService vsID => discard (Gorb.removeService env vsID)
  | removeBackend vsID rsID => discard (Gorb.removeBackend env vsID rsID)
  | synchronize order d => Gorb.synchronize env order d
  | close order => Gorb.close env order
  | deliver u => pulseCheck u
  | pulse => pulseStep env s.phase

def step (env : Env) (a : Action) (s : Machine) : Machine :=
  ((a.run env s).exec s).2

/-- The steps a run can take from `s`: callers pass documents as decoded, the loop takes an update
only when idle, and probes report healths in `[0, 1]`. -/
def Allowed (s : Machine) : Action → Prop
  | createService _ cfg => cfg.Decoded
  | createBackend _ _ opts => opts.Decoded
  | synchronize _ d => ∀ vsID cfg, d.lookup vsID = some cfg → cfg.Decoded
  | deliver u => s.phase = .idle ∧ 0 ≤ u.Metrics.Health ∧ u.Metrics.Health ≤ 1
  | _ => True

end Action

inductive ReachableWith (env : Env) (P : Machine → Action → Prop) : Machine → Prop
  | init (endpoint : Option IP) (vipInterface : Option String) (addrs : List String) :
      ReachableWith env P (Machine.init endpoint vipInterface addrs)
  | step {s : Machine} (a : Action) :
      ReachableWith env P s → a.Allowed s → P s a → ReachableWith env P (a.step env s)

def Reachable (env : Env) : Machine → Prop :=
  ReachableWith env fun _ _ => True

theorem ReachableWith.induct_on {env : Env} {P : Machine → Action → Prop} {I : Machine → Prop}
    (hinit : ∀ endpoint vipInterface addrs, I (Machine.init endpoint vipInterface addrs))
    (hstep : ∀ s a, I s → a.Allowed s → P s a → I (a.step env s)) {s : Machine}
    (h : ReachableWith env P s) : I s := by
  induction h with
  | init endpoint vipInterface addrs => exact hinit endpoint vipInterface addrs
  | step a _ hallowed hP ih => exact hstep _ a ih hallowed hP

end Gorb
