import Gorb.Options

/-!
# The Context and its mutators

`context.go` and `service.go`: the services map of the Context, the kernel state and goroutines
it drives, and the mutators `createService`, `createBackend`, `updateBackend`, `removeService`,
`removeBackend` and `Close`.

A mutator runs in `CtxM`, a state monad over the whole `Machine` with Go's error results. Every
exported mutator holds the Context lock for its whole run, so one run of a mutator is one atomic
step of the daemon. An error does not undo what the mutator did before it, as in Go.
-/

namespace Gorb

/-- `Backend`. Its back-pointer is the service holding it; its `rsID` field is never set by
`Service.CreateBackend` and only logged, and is left out. -/
structure Backend where
  options : BackendOptions
  /-- The pulse probe of the backend, a fresh handle for each backend created. -/
  monitor : Nat
  metrics : Metrics
  deriving DecidableEq

structure Service where
  vsID : String
  options : ServiceOptions
  svc : Svc
  backends : StrMap Backend
  /-- The object a map entry points to; Go's `range` tells entries apart by it. -/
  ref : Nat
  deriving DecidableEq

structure Context where
  endpoint : Option IP
  vipInterface : Option String
  services : StrMap Service
  deriving DecidableEq

/-- Where the notification loop is in `processPulseUpdate`. Between the steps that take the
Context lock it lets other goroutines run. -/
inductive Phase
  | idle
  /-- The locked check of a `StatusUp` update has passed. -/
  | up (u : Update)
  /-- The locked check of a `StatusDown` update has passed. -/
  | down (u : Update)
  /-- `GetService` has fixed the weight of a `StatusDown` update. -/
  | downWeighed (u : Update) (weight : Int)
  deriving DecidableEq

/-- The Context with the kernel state, the goroutines and the driver log it runs against. -/
structure Machine where
  ctx : Context
  /-- The IPVS table. -/
  ipvs : List Pool
  /-- The addresses of the VIP interface. -/
  addrs : List String
  /-- The pulse probes started by `go monitor.Loop` and not stopped. -/
  monitors : List Nat
  /-- The stash of the notification loop. -/
  stash : AList fun _ : PulseID => Int
  phase : Phase
  /-- The IPVS calls issued, the latest first. -/
  calls : List Issued
  /-- The number of external calls made, which indexes the environment's answers. -/
  clock : Nat
  /-- The next fresh handle. -/
  next : Nat

@[simp] def Machine.setService (s : Machine) (vsID : String) (vs : Service) : Machine :=
  { s with ctx := { s.ctx with services := s.ctx.services.insert vsID vs } }

@[simp] def Machine.eraseService (s : Machine) (vsID : String) : Machine :=
  { s with ctx := { s.ctx with services := s.ctx.services.erase vsID } }

abbrev CtxM := ExceptT Err (StateM Machine)

def CtxM.exec {α : Type} (m : CtxM α) (s : Machine) : Except Err α × Machine :=
  m.run.run s

section Exec

variable {α β : Type} (s : Machine)

@[simp] theorem exec_bind (m : CtxM α) (f : α → CtxM β) :
    (m >>= f).exec s = match m.exec s with
      | (.ok a, s') => (f a).exec s'
      | (.error e, s') => (.error e, s') := by
  simp only [CtxM.exec, ExceptT.run_bind, StateT.run_bind]
  rcases StateT.run (ExceptT.run m) s with ⟨r, s'⟩
  cases r <;> rfl

@[simp] theorem exec_pure (a : α) : (pure a : CtxM α).exec s = (.ok a, s) := rfl

@[simp] theorem exec_map (f : α → β) (m : CtxM α) :
    (f <$> m).exec s = match m.exec s with
      | (.ok a, s') => (.ok (f a), s')
      | (.error e, s') => (.error e, s') := by
  rw [← bind_pure_comp, exec_bind]
  rfl

@[simp] theorem exec_discard (m : CtxM α) :
    (Functor.discard m).exec s = match m.exec s with
      | (.ok _, s') => (.ok ⟨⟩, s')
      | (.error e, s') => (.error e, s') :=
  exec_map s (fun _ => PUnit.unit) m

@[simp] theorem exec_get : (get : CtxM Machine).exec s = (.ok s, s) := rfl

@[simp] theorem exec_modify (f : Machine → Machine) :
    (modify f : CtxM PUnit).exec s = (.ok ⟨⟩, f s) := rfl

@[simp] theorem exec_modifyGet (f : Machine → α × Machine) :
    (modifyGet f : CtxM α).exec s = (.ok (f s).1, (f s).2) := rfl

@[simp] theorem exec_throw (e : Err) : (throw e : CtxM α).exec s = (.error e, s) := rfl

@[simp] theorem exec_tryCatch (m : CtxM α) (h : Err → CtxM α) :
    (tryCatch m h : CtxM α).exec s = match m.exec s with
      | (.ok a, s') => (.ok a, s')
      | (.error e, s') => (h e).exec s' := by
  show StateT.run (ExceptT.tryCatch m h) s = _
  unfold ExceptT.tryCatch ExceptT.mk
  rw [StateT.run_bind]
  rcases h' : StateT.run (ExceptT.run m) s with ⟨r, s'⟩
  simp only [ExceptT.run] at h'
  simp only [CtxM.exec, ExceptT.run, h']
  cases r <;> rfl

end Exec

section Mutators

variable (env : Env)

def tick : CtxM Nat :=
  modifyGet fun s => (s.clock, { s with clock := s.clock + 1 })

def alloc : CtxM Nat :=
  modifyGet fun s => (s.next, { s with next := s.next + 1 })

/-- `net.ResolveIPAddr` as it answers at this point of the run. -/
def resolver : CtxM (String → Option IP) := do
  return env.dns (← tick)

/-- A mutating IPVS call for a service whose validated `MaxWeight` is `maxWeight`: logged, applied
when the driver accepts it, and `ErrIpvsSyscallFailed` when it refuses, as at every call site. -/
def ipvsCall (maxWeight : Int) (c : IpvsCall) : CtxM Unit := do
  let n ← tick
  modify fun s => { s with calls := ⟨c, maxWeight⟩ :: s.calls }
  if env.ipvs n then modify fun s => { s with ipvs := c.apply s.ipvs }
  else throw .ipvsSyscallFailed

def getPools (maxWeight : Int) : CtxM (Option (List Pool)) := do
  let n ← tick
  modify fun s => { s with calls := ⟨.getPools, maxWeight⟩ :: s.calls }
  let s ← get
  return if env.ipvs n then some s.ipvs else none

/-- `Context.GetPoolForService`; both of its errors are `none`. -/
def getPoolForService (maxWeight : Int) (svc : Svc) : CtxM (Option Pool) := do
  return (← getPools env maxWeight).bind fun pools => pools.find? (·.Service.isEqual svc)

def Machine.issue (s : Machine) (maxWeight : Int) (c : IpvsCall) : Machine :=
  { s with clock := s.clock + 1, calls := ⟨c, maxWeight⟩ :: s.calls,
           ipvs := if env.ipvs s.clock then c.apply s.ipvs else s.ipvs }

section Primitives

variable (s : Machine) (maxWeight : Int) (c : IpvsCall)

@[simp] theorem issue_ctx : (s.issue env maxWeight c).ctx = s.ctx := rfl
@[simp] theorem issue_monitors : (s.issue env maxWeight c).monitors = s.monitors := rfl
@[simp] theorem issue_next : (s.issue env maxWeight c).next = s.next := rfl
@[simp] theorem issue_addrs : (s.issue env maxWeight c).addrs = s.addrs := rfl
@[simp] theorem issue_stash : (s.issue env maxWeight c).stash = s.stash := rfl
@[simp] theorem issue_phase : (s.issue env maxWeight c).phase = s.phase := rfl
@[simp] theorem issue_calls : (s.issue env maxWeight c).calls = ⟨c, maxWeight⟩ :: s.calls := rfl
@[simp] theorem issue_clock : (s.issue env maxWeight c).clock = s.clock + 1 := rfl

@[simp] theorem tick_exec : tick.exec s = (.ok s.clock, { s with clock := s.clock + 1 }) := rfl

@[simp] theorem alloc_exec : alloc.exec s = (.ok s.next, { s with next := s.next + 1 }) := rfl

@[simp] theorem resolver_exec :
    (resolver env).exec s = (.ok (env.dns s.clock), { s with clock := s.clock + 1 }) := rfl

theorem ipvsCall_exec : (ipvsCall env maxWeight c).exec s =
    (if env.ipvs s.clock then .ok () else .error .ipvsSyscallFailed, s.issue env maxWeight c) := by
  by_cases hok : env.ipvs s.clock <;> simp [ipvsCall, Machine.issue, hok]

@[simp] theorem getPools_exec : (getPools env maxWeight).exec s =
    (.ok (if env.ipvs s.clock then some s.ipvs else none), s.issue env maxWeight .getPools) := by
  by_cases hok : env.ipvs s.clock <;> simp [getPools, Machine.issue, hok, IpvsCall.apply]

end Primitives

def addrAdd (vip : String) : CtxM Bool := do
  if env.netlink (← tick) then
    modify fun s => { s with addrs := if vip ∈ s.addrs then s.addrs else s.addrs ++ [vip] }
    return true
  else return false

def addrDel (vip : String) : CtxM Bool := do
  if env.netlink (← tick) then
    modify fun s => { s with addrs := s.addrs.erase vip }
    return true
  else return false

section Addrs

variable (s : Machine) (vip : String)

@[simp] theorem addrAdd_exec : (addrAdd env vip).exec s =
    (.ok (env.netlink s.clock),
      { s with
        clock := s.clock + 1
        addrs := if env.netlink s.clock then (if vip ∈ s.addrs then s.addrs else s.addrs ++ [vip])
          else s.addrs }) := by
  by_cases hok : env.netlink s.clock <;> simp [addrAdd, hok]

@[simp] theorem addrDel_exec : (addrDel env vip).exec s =
    (.ok (env.netlink s.clock),
      { s with
        clock := s.clock + 1
        addrs := if env.netlink s.clock then s.addrs.erase vip else s.addrs }) := by
  by_cases hok : env.netlink s.clock <;> simp [addrDel, hok]

end Addrs

/-- Modelled from the spec: `util.AddrFamily`, the address family of a resolved address. -/
def addrFamily (ip : Option IP) : Option AddrFamily :=
  ip.map (·.family)

def Metrics.zero : Metrics :=
  { Status := .up, Health := 0 }

/-- `Service.CreateBackend`: validates the options again, builds the probe with `pulse.New`, and
registers the backend; the service afterwards. -/
def Service.createBackend (vs : Service) (rsID : String) (opts : BackendOptions) :
    CtxM Service := do
  let opts ← match opts.validate (← resolver env) with
    | .ok o => pure o
    | .error e => throw e
  unless env.pulseNew (ipString opts.host) opts.Port vs.options.Pulse do throw .pulse
  let p ← alloc
  return { vs with
    backends := vs.backends.insert rsID { options := opts, monitor := p, metrics := .zero } }

/-- The end of `Context.createBackend`: `vs.CreateBackend(rsID, opts)` on the service of the
Context, then `go vs.backends[rsID].monitor.Loop(...)`. -/
def registerBackend (vsID rsID : String) (vs : Service) (opts : BackendOptions) : CtxM Unit := do
  let vs ← vs.createBackend env rsID opts
  modify (·.setService vsID vs)
  if let some rs := vs.backends.lookup rsID then
    modify fun s => { s with monitors := rs.monitor :: s.monitors }

def createBackend (vsID rsID : String) (opts : BackendOptions) : CtxM Unit := do
  let some vs := (← get).ctx.services.lookup vsID
    | throw (.objectNotFound ("vsID: " ++ vsID))
  if (vs.backends.lookup rsID).isSome then throw (.objectExists ("rsID: " ++ rsID))
  let opts ← match opts.validate (← resolver env) with
    | .ok o => pure o
    | .error e => throw e
  if addrFamily opts.host ≠ addrFamily vs.options.host then throw .incompatibleAFs
  let newDest : Dest :=
    { IP := ipString opts.host, Port := opts.Port, Weight := vs.options.MaxWeight }
  let some pool ← getPoolForService env vs.options.MaxWeight vs.svc | throw .ipvsSyscallFailed
  let skipCreation := pool.Dests.any fun d => d.IP == newDest.IP && d.Port == newDest.Port
  unless skipCreation do
    ipvsCall env vs.options.MaxWeight (.addDestPort (ipString vs.options.host) vs.options.Port
      newDest.IP newDest.Port vs.options.protocol newDest.Weight vs.options.methodID)
  registerBackend env vsID rsID vs opts

/-- `Context.updateBackend`: programs the weight, then records it; the weight recorded before. -/
def updateBackend (vsID rsID : String) (weight : Int) : CtxM Int := do
  let some vs := (← get).ctx.services.lookup vsID
    | throw (.objectNotFound ("vsID: " ++ vsID))
  let some rs := vs.backends.lookup rsID | throw (.objectNotFound "")
  ipvsCall env vs.options.MaxWeight (.updateDestPort (ipString vs.options.host) vs.options.Port
    (ipString rs.options.host) rs.options.Port vs.options.protocol weight vs.options.methodID)
  -- `rs.UpdateWeight(weight)`
  modify (·.setService vsID { vs with
    backends := vs.backends.insert rsID
      { rs with options := { rs.options with weight := weight } } })
  return rs.options.weight

def Service.cleanup (vs : Service) : CtxM Unit :=
  modify fun s => { s with
    monitors := vs.backends.entries.foldl (fun ms e => ms.erase e.2.monitor) s.monitors }

/-- The VIP of a service being removed, deleted from the VIP interface when the service added it
there; a failure is only logged. -/
def delVip (vs : Service) : CtxM Unit := do
  if (← get).ctx.vipInterface.isSome && vs.options.delIfAddr then
    discard <| addrDel env (ipString vs.options.host)

def removeService (vsID : String) : CtxM ServiceOptions := do
  let some vs := (← get).ctx.services.lookup vsID | throw (.objectNotFound ("vsID: " ++ vsID))
  delVip env vs
  ipvsCall env vs.options.MaxWeight
    (.delService (ipString vs.options.host) vs.options.Port vs.options.protocol)
  modify (·.eraseService vsID)
  vs.cleanup
  -- `ctx.disco.Remove(vsID)`: a failure is only logged
  return vs.options

def Service.removeBackend (vs : Service) (rsID : String) : CtxM (BackendOptions × Service) := do
  let some rs := vs.backends.lookup rsID | throw (.objectNotFound "")
  modify fun s => { s with monitors := s.monitors.erase rs.monitor }
  return (rs.options, { vs with backends := vs.backends.erase rsID })

def removeBackend (vsID rsID : String) : CtxM BackendOptions := do
  let some vs := (← get).ctx.services.lookup vsID
    | throw (.objectNotFound ("vsID: " ++ vsID))
  let some rs := vs.backends.lookup rsID | throw (.objectNotFound "")
  ipvsCall env vs.options.MaxWeight (.delDestPort (ipString vs.options.host) vs.options.Port
    (ipString rs.options.host) rs.options.Port vs.options.protocol)
  let (opts, vs) ← vs.removeBackend rsID
  modify (·.setService vsID vs)
  return opts

def shFlagBits (shFlags : String) : Nat :=
  (split shFlags '|').foldl (fun acc f => acc ||| (schedulerFlags.lookup f).getD 0) 0

/-- The VIP of a new service added to the VIP interface when the Context has one. The options
record whether the VIP is the service's to delete: a failure of `AddrAdd` is only logged, and the
VIP is then not the service's. -/
def addVip (serviceOptions : ServiceOptions) : CtxM ServiceOptions := do
  if (← get).ctx.vipInterface.isSome then
    if ← addrAdd env (ipString serviceOptions.host) then
      return { serviceOptions with delIfAddr := true }
  return serviceOptions

def addPoolFor (maxWeight : Int) (svc : Svc) : CtxM Unit := do
  if (← getPoolForService env maxWeight svc).isNone then
    if svc.Flags ≠ 0 then
      ipvsCall env maxWeight (.addServiceWithFlags svc.VIP svc.Port svc.Proto svc.Sched svc.Flags)
    else
      ipvsCall env maxWeight (.addService svc.VIP svc.Port svc.Proto svc.Sched)

def serviceSvc (serviceOptions : ServiceOptions) : Svc :=
  { Proto := serviceOptions.protocol, VIP := ipString serviceOptions.host,
    Port := serviceOptions.Port, Sched := serviceOptions.LbMethod,
    Flags := shFlagBits serviceOptions.ShFlags }

/-- `Context.createService` up to its loop over the backends: the options validated, the VIP and
the kernel service added, and the service registered with no backend. -/
def registerService (vsID : String) (serviceConfig : ServiceConfig) : CtxM Unit := do
  let resolve ← resolver env
  let s ← get
  let (r, serviceOptions) := serviceConfig.ServiceOptions.runValidate s.ctx.endpoint resolve env.lower
  if let .error e := r then throw e
  if (s.ctx.services.lookup vsID).isSome then throw (.objectExists "")
  let serviceOptions ← addVip env serviceOptions
  let svc := serviceSvc serviceOptions
  addPoolFor env serviceOptions.MaxWeight svc
  let ref ← alloc
  modify (·.setService vsID
    { vsID := vsID, options := serviceOptions, svc := svc, backends := ∅, ref := ref })
  -- `ctx.disco.Expose(...)`: a failure is only logged

/-- `Context.createService`. The backends of the configuration are created in the order of its
map, and the first error is returned with the service left installed. -/
def createService (vsID : String) (serviceConfig : ServiceConfig) : CtxM Unit := do
  registerService env vsID serviceConfig
  serviceConfig.ServiceBackends.entries.forM fun e => createBackend env vsID e.1 e.2

end Mutators

/-! ### Go's `range` over a changing map -/

section Range

variable {V β : Type}

def rangePass (live : Machine → String → Option (Nat × V)) (may : String × Nat → Bool)
    (body : String → V → β → CtxM β) :
    List String → List (String × Nat) → β → CtxM (β × List (String × Nat))
  | [], produced, acc => pure (acc, produced)
  | k :: ks, produced, acc => do
    match live (← get) k with
    | some (n, v) =>
      if may (k, n) && !produced.contains (k, n) then
        let acc ← body k v acc
        rangePass live may body ks ((k, n) :: produced) acc
      else rangePass live may body ks produced acc
    | none => rangePass live may body ks produced acc

/-- Go's `for k, v := range m` where the body may delete and re-create entries (Go spec, "For
statements with range clause"). `order` is the order the runtime produces keys in. An entry is
produced at most once and one deleted before it is reached is not produced; an entry created
during the loop is produced only if listed. The entries present at the start and not produced by
then come last, in map order, since the runtime produces every one of them. -/
def goRange (keys : Machine → List String) (live : Machine → String → Option (Nat × V))
    (body : String → V → β → CtxM β) (order : List String) (acc : β) : CtxM β := do
  let s ← get
  let start := (keys s).filterMap fun k => (live s k).map fun e => (k, e.1)
  let (acc, produced) ← rangePass live (fun _ => true) body order [] acc
  let (acc, _) ← rangePass live (fun e => start.contains e) body (start.map (·.1)) produced acc
  return acc

end Range

def liveService (s : Machine) (vsID : String) : Option (Nat × Service) :=
  (s.ctx.services.lookup vsID).map fun vs => (vs.ref, vs)

/-- The entries of `service.backends` for the service object `ref`: the map of the live service
while the object is live, and empty once `removeService` took it out, since `Service.Cleanup`
has emptied it. -/
def liveBackend (vsID : String) (ref : Nat) (s : Machine) (rsID : String) :
    Option (Nat × Backend) :=
  match s.ctx.services.lookup vsID with
  | some vs =>
    if vs.ref = ref then (vs.backends.lookup rsID).map fun rs => (rs.monitor, rs) else none
  | none => none

def backendKeys (vsID : String) (ref : Nat) (s : Machine) : List String :=
  match s.ctx.services.lookup vsID with
  | some vs => if vs.ref = ref then vs.backends.keys else []
  | none => []


/-- `Context.Close`: each service is removed, an error only logged. It runs as one step, with no
`stopCh` to stop the other loops, and the release of the IPVS driver is left out. -/
def close (env : Env) (order : List String) : CtxM Unit :=
  goRange (fun s => s.ctx.services.keys) liveService
    (fun vsID _ _ => tryCatch (discard (removeService env vsID)) fun _ => pure ()) order ()

end Gorb
