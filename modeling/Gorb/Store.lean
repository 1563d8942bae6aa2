import Gorb.Notification

/-!
# Reconciliation with the store

`store.go` and the end of `context.go`: the documents read from the key-value store
(`getStoreServices`), the diff of the running services against them (`CompareWith`), and
`Synchronize`, which drives the Context towards them.

`Synchronize` ranges over `ctx.services` and over the backends of each service while its body
removes and re-creates entries of those very maps. Go leaves the order of such a `range` open, and
an entry created during it may or may not be produced; `goRange` takes the order as an argument, so
a theorem over every order covers every run the Go runtime may choose. The loops over maps that
nothing changes during them run in the order of the map: over every map, that is every order.
-/

namespace Gorb

/-! ### The diff -/

structure StoreSyncStatus where
  RemovedServices : List String := []
  RemovedBackends : List String := []
  UpdatedServices : List String := []
  UpdatedBackends : List String := []
  NewServices : List String := []
  NewBackends : List String := []
  Status : String := ""
  deriving DecidableEq, Repr

/-- `StoreSyncStatus.CheckStatus`. The lists are only ever appended to, so a nil list is an empty
one. -/
def StoreSyncStatus.checkStatus (st : StoreSyncStatus) : String :=
  if st.NewServices.isEmpty && st.NewBackends.isEmpty && st.UpdatedBackends.isEmpty &&
      st.UpdatedServices.isEmpty && st.RemovedBackends.isEmpty && st.RemovedServices.isEmpty
  then "ok" else "need sync"

def backendName (vsID rsID : String) : String :=
  "[" ++ vsID ++ "/" ++ rsID ++ "]"

def compareBackends (vsID : String) (backends : List (Σ _ : String, Backend))
    (st : StoreSyncStatus) (sbs : StrMap BackendOptions) :
    StoreSyncStatus × StrMap BackendOptions :=
  backends.foldl (fun (st, sbs) e =>
    match sbs.lookup e.1 with
    | none => ({ st with RemovedBackends := st.RemovedBackends ++ [backendName vsID e.1] }, sbs)
    | some storeBackendOptions =>
      (if !e.2.options.compareStoreOptions storeBackendOptions then
        { st with UpdatedBackends := st.UpdatedBackends ++ [backendName vsID e.1] }
      else st, sbs.erase e.1)) (st, sbs)

def compareService (acc : StoreSyncStatus × StrMap ServiceConfig) (e : Σ _ : String, Service) :
    StoreSyncStatus × StrMap ServiceConfig :=
  let (st, storeServices) := acc
  match storeServices.lookup e.1 with
  | none => ({ st with RemovedServices := st.RemovedServices ++ [e.1] }, storeServices)
  | some storeServiceOptions =>
    let st := if !e.2.options.compareStoreOptions storeServiceOptions.ServiceOptions then
      { st with UpdatedServices := st.UpdatedServices ++ [e.1] } else st
    let (st, sbs) := compareBackends e.1 e.2.backends.entries st
      storeServiceOptions.ServiceBackends
    -- the name is built from the unexported `vsID` field of the store's backend options
    let st := sbs.entries.foldl (fun st b =>
      { st with NewBackends := st.NewBackends ++ [backendName b.2.vsID b.1] }) st
    (st, storeServices.erase e.1)

def Context.compareWith (ctx : Context) (storeServices : StrMap ServiceConfig) :
    StoreSyncStatus :=
  let (st, storeServices) := ctx.services.entries.foldl compareService ({}, storeServices)
  let st := storeServices.keys.foldl (fun st id =>
    { st with NewServices := st.NewServices ++ [id] }) st
  { st with Status := st.checkStatus }

/-! ### Synchronize -/

/-- The orders the runtime produces the keys of the maps `Synchronize` changes while it ranges
over them: the services, and the backends of each service. -/
structure SyncOrder where
  services : List String
  backends : String → List String

section Sync

variable (env : Env)

def syncBackend (vsID rsID : String) (backend : Backend) (sbs : StrMap BackendOptions) :
    CtxM (StrMap BackendOptions) := do
  match sbs.lookup rsID with
  | none =>
    discard <| removeBackend env vsID rsID
    pure sbs
  | some storeBackendOptions =>
    if !backend.options.compareStoreOptions storeBackendOptions then
      discard <| removeBackend env vsID rsID
      createBackend env vsID rsID storeBackendOptions
    pure (sbs.erase rsID)

/-- The body of `Synchronize`'s loop over the running services: a service missing from the store
is removed, an outdated one replaced; then its backends are synchronized, the store's backends left
over are created, and the service is deleted from the store's map. -/
def syncService (order : SyncOrder) (vsID : String) (service : Service)
    (storeServicesConfig : StrMap ServiceConfig) : CtxM (StrMap ServiceConfig) := do
  match storeServicesConfig.lookup vsID with
  | none =>
    discard <| removeService env vsID
    pure storeServicesConfig
  | some storeService =>
    if !service.options.compareStoreOptions storeService.ServiceOptions then
      discard <| removeService env vsID
      createService env vsID storeService
    let sbs ← goRange (backendKeys vsID service.ref) (liveBackend vsID service.ref)
      (syncBackend env vsID) (order.backends vsID) storeService.ServiceBackends
    sbs.entries.forM fun e => createBackend env vsID e.1 e.2
    pure (storeServicesConfig.erase vsID)

/-- `Context.Synchronize`, under the write lock from start to end. -/
def synchronize (order : SyncOrder) (storeServicesConfig : StrMap ServiceConfig) : CtxM Unit := do
  let storeServicesConfig ← goRange (fun s => s.ctx.services.keys) liveService
    (syncService env order) order.services storeServicesConfig
  storeServicesConfig.entries.forM fun e => createService env e.1 e.2

end Sync

/-! ### The store's documents -/

structure ServiceDocument where
  ServiceOptions : Option ServiceOptions
  ServiceBackends : StrMap BackendOptions

structure KVPair where
  Key : String
  Value : Option (Except String ServiceDocument)

inductive ListError
  | keyNotFound
  | other (msg : String)

def getID (key : String) : String :=
  match key.data.reverse.findIdx? (· = '/') with
  | some i =>
    let index := key.length - 1 - i
    if index = 0 then key else ⟨key.data.drop (index + 1)⟩
  | none => key

section Store

variable (env : Env)

/-- The loop of `Store.getStoreServices` over the key-value pairs. Each document's options are
validated with no default host, and the error of `Validate` is ignored. -/
def storeServices :
    List KVPair → StrMap ServiceConfig → CtxM (Except String (StrMap ServiceConfig))
  | [], services => pure (.ok services)
  | kv :: kvs, services => do
    match kv.Value with
    | none => storeServices kvs services
    | some (.error e) => pure (.error e)
    | some (.ok doc) =>
      match doc.ServiceOptions with
      | none => storeServices kvs services
      | some o =>
        let o := (o.runValidate none (← resolver env) env.lower).2
        storeServices kvs (services.insert (getID kv.Key)
          { ServiceOptions := o, ServiceBackends := doc.ServiceBackends })

def getStoreServices (kvlist : Except ListError (List KVPair)) :
    CtxM (Except String (StrMap ServiceConfig)) :=
  match kvlist with
  | .error .keyNotFound => pure (.ok ∅)
  | .error (.other e) => pure (.error e)
  | .ok pairs => storeServices env pairs ∅

/-- `Store.Sync`: the store's services, then `Synchronize` on them; the error of either is only
logged. -/
def Store.sync (order : SyncOrder) (kvlist : Except ListError (List KVPair)) : CtxM Unit := do
  match ← getStoreServices env kvlist with
  | .error _ => pure ()
  | .ok services => discard <| attempt (synchronize env order services)

def Store.storeSyncStatus (kvlist : Except ListError (List KVPair)) :
    CtxM (Except String StoreSyncStatus) := do
  match ← getStoreServices env kvlist with
  | .error e => pure (.error e)
  | .ok services => pure (.ok ((← get).ctx.compareWith services))

end Store

end Gorb
