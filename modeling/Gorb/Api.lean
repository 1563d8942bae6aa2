import Gorb.Monitors

/-!
# The REST API

`main` routes each request to a handler (its `r.Handle` lines), which calls one method of
the Context or of the store and writes what it returned: nothing, a JSON document, or an error
through `writeError`. With a store, the handlers that would change the Context refuse.

`writeError` picks the status with a `switch` on the error, which compares with `==`. The Context
returns `ErrObjectNotFound` and `ErrObjectExists` bare at some sites and wrapped with the id by
`fmt.Errorf("%w vsID: %s", ...)` at others, and a wrapped one is none of the cases. Which errors a
mutator can return is proved once per mutator, by composition (`Raises`), and from that which
requests a daemon without a store answers with `404 Not Found` (`answers_not_found_iff`) and with
`409 Conflict` (`answers_conflict_iff`).
-/

namespace Gorb

/-! ### Responses -/

def StatusOK : Nat := 200
def StatusBadRequest : Nat := 400
def StatusNotFound : Nat := 404
def StatusConflict : Nat := 409
def StatusInternalServerError : Nat := 500

/-- The errors the handlers pass to `writeError`: one of the core, one of `json.Decoder.Decode` or
of the store's content (Go's text of it), and `operationNotSupportedStore`. -/
inductive ApiErr
  | core (e : Err)
  | decode (msg : String)
  | store (msg : String)
  | operationNotSupportedStore
  deriving DecidableEq, Repr

structure BackendInfo where
  Options : BackendOptions
  Metrics : Metrics

inductive Body
  | services (ids : List String)
  | service (info : ServiceInfo)
  | backend (info : BackendInfo)
  | status (fields : List (String × String))
  | syncStatus (st : StoreSyncStatus)

inductive Response
  /-- Nothing: `net/http` answers `200 OK` with an empty body. -/
  | empty
  /-- `writeJSON`: `200 OK` and the document. -/
  | json (body : Body)
  /-- `writeError`: the status and `{"error": err.Error()}`. -/
  | error (code : Nat) (err : ApiErr)
  /-- The handler panicked: `net/http` recovers and closes the connection with no response. -/
  | aborted

/-- The status of a response, none when the connection is closed without one. -/
def Response.code : Response → Option Nat
  | .empty => some StatusOK
  | .json _ => some StatusOK
  | .error code _ => some code
  | .aborted => none

@[simp] theorem Response.code_empty : Response.empty.code = some StatusOK := rfl
@[simp] theorem Response.code_json (body : Body) : (Response.json body).code = some StatusOK := rfl
@[simp] theorem Response.code_aborted : Response.aborted.code = none := rfl
@[simp] theorem Response.code_error (code : Nat) (err : ApiErr) :
    (Response.error code err).code = some code := rfl

/-- `writeError`. Its `switch` compares the error with `==`, so a sentinel wrapped by
`fmt.Errorf("%w ...")` is none of the cases and gets the default. -/
def writeError (err : ApiErr) : Response :=
  .error
    (if err = .core .ipvsSyscallFailed then StatusInternalServerError
    else if err = .core (.objectExists "") then StatusConflict
    else if err = .core (.objectNotFound "") then StatusNotFound
    else StatusBadRequest) err

/-! ### The Context's read-only queries -/

/-- `Context.ListServices`: the keys of the map, in the order the runtime ranges over it, taken to
be the map's. -/
def Context.listServices (ctx : Context) : List String :=
  ctx.services.keys

def Context.getBackend (ctx : Context) (vsID rsID : String) : Except Err BackendInfo :=
  match ctx.services.lookup vsID with
  | none => .error (.objectNotFound ("vsID: " ++ vsID))
  | some vs =>
    match vs.backends.lookup rsID with
    | none => .error (.objectNotFound ("rsID: " ++ rsID))
    | some rs => .ok ⟨rs.options, rs.metrics⟩

/-- `Store.StartSyncWithStore`: the store's services, then `Synchronize` on them; the error of
either is returned. -/
def Store.startSyncWithStore (env : Env) (order : SyncOrder)
    (kvlist : Except ListError (List KVPair)) : CtxM (Except ApiErr Unit) := do
  match ← getStoreServices env kvlist with
  | .error msg => pure (.error (.store msg))
  | .ok services =>
    match ← attempt (synchronize env order services) with
    | .error e => pure (.error (.core e))
    | .ok () => pure (.ok ())

/-! ### The handlers -/

section Handlers

variable (env : Env) (storeExist : Bool)

/-- `serviceCreateHandler`. The body decodes into a `ServiceConfig` as the store's documents do; one
without `ServiceOptions` leaves a nil pointer, on which `Validate` panics before anything changed. -/
def serviceCreateHandler (vsID : String) (body : Except String ServiceDocument) (s : Machine) :
    Response × Machine :=
  if storeExist then (writeError .operationNotSupportedStore, s)
  else match body with
    | .error msg => (writeError (.decode msg), s)
    | .ok doc =>
      match doc.ServiceOptions with
      | none => (.aborted, s)
      | some o =>
        match (createService env vsID ⟨o, doc.ServiceBackends⟩).exec s with
        | (.error e, s') => (writeError (.core e), s')
        | (.ok (), s') => (.empty, s')

def backendCreateHandler (vsID rsID : String) (body : Except String BackendOptions)
    (s : Machine) : Response × Machine :=
  if storeExist then (writeError .operationNotSupportedStore, s)
  else match body with
    | .error msg => (writeError (.decode msg), s)
    | .ok opts =>
      match (createBackend env vsID rsID opts).exec s with
      | (.error e, s') => (writeError (.core e), s')
      | (.ok (), s') => (.empty, s')

def serviceRemoveHandler (vsID : String) (s : Machine) : Response × Machine :=
  if storeExist then (writeError .operationNotSupportedStore, s)
  else match (removeService env vsID).exec s with
    | (.error e, s') => (writeError (.core e), s')
    | (.ok _, s') => (.empty, s')

def backendRemoveHandler (vsID rsID : String) (s : Machine) : Response × Machine :=
  if storeExist then (writeError .operationNotSupportedStore, s)
  else match (removeBackend env vsID rsID).exec s with
    | (.error e, s') => (writeError (.core e), s')
    | (.ok _, s') => (.empty, s')

def serviceListHandler (s : Machine) : Response × Machine :=
  (.json (.services s.ctx.listServices), s)

def serviceStatusHandler (vsID : String) (s : Machine) : Response × Machine :=
  match s.ctx.getService vsID with
  | .error e => (writeError (.core e), s)
  | .ok info => (.json (.service info), s)

def backendStatusHandler (vsID rsID : String) (s : Machine) : Response × Machine :=
  match s.ctx.getBackend vsID rsID with
  | .error e => (writeError (.core e), s)
  | .ok info => (.json (.backend info), s)

/-- `storeSyncHandler`. Its `h.store != nil` is `ctx.StoreExist()`: `NewStore` sets the Context's
store, and `main` exits when it fails. -/
def storeSyncHandler (order : SyncOrder) (kvlist : Except ListError (List KVPair)) (s : Machine) :
    Response × Machine :=
  if storeExist then
    match (Store.startSyncWithStore env order kvlist).exec s with
    | (.ok (.error e), s') => (writeError e, s')
    | (.ok (.ok ()), s') => (.json (.status [("status", "ok")]), s')
    | (.error e, s') => (writeError (.core e), s')
  else (writeError (.core (.objectNotFound "")), s)

def storeSyncStatusHandler (kvlist : Except ListError (List KVPair)) (s : Machine) :
    Response × Machine :=
  if storeExist then
    match (Store.storeSyncStatus env kvlist).exec s with
    | (.ok (.error msg), s') => (writeError (.store msg), s')
    | (.ok (.ok st), s') => (.json (.syncStatus st), s')
    | (.error e, s') => (writeError (.core e), s')
  else (writeError (.core (.objectNotFound "")), s)

end Handlers

/-- A request `main`'s router hands to a handler, with its path variables and its body as
`json.NewDecoder(r.Body).Decode` leaves it. A store route carries what the store lists when the
handler reads it, and the order the runtime ranges over the maps in. -/
inductive Request
  /-- `PUT /service/{vsID}`. -/
  | serviceCreate (vsID : String) (body : Except String ServiceDocument)
  /-- `PUT /service/{vsID}/{rsID}`. -/
  | backendCreate (vsID rsID : String) (body : Except String BackendOptions)
  /-- `DELETE /service/{vsID}`. -/
  | serviceRemove (vsID : String)
  /-- `DELETE /service/{vsID}/{rsID}`. -/
  | backendRemove (vsID rsID : String)
  /-- `GET /service`. -/
  | serviceList
  /-- `GET /service/{vsID}`. -/
  | serviceStatus (vsID : String)
  /-- `GET /service/{vsID}/{rsID}`. -/
  | backendStatus (vsID rsID : String)
  /-- `GET /store/sync`. -/
  | storeSync (order : SyncOrder) (kvlist : Except ListError (List KVPair))
  /-- `GET /store/sync/status`. -/
  | storeSyncStatus (kvlist : Except ListError (List KVPair))

/-- The router: the handler of the request's route, run from `s`. -/
def serve (env : Env) (storeExist : Bool) : Request → Machine → Response × Machine
  | .serviceCreate vsID body => serviceCreateHandler env storeExist vsID body
  | .backendCreate vsID rsID body => backendCreateHandler env storeExist vsID rsID body
  | .serviceRemove vsID => serviceRemoveHandler env storeExist vsID
  | .backendRemove vsID rsID => backendRemoveHandler env storeExist vsID rsID
  | .serviceList => serviceListHandler
  | .serviceStatus vsID => serviceStatusHandler vsID
  | .backendStatus vsID rsID => backendStatusHandler vsID rsID
  | .storeSync order kvlist => storeSyncHandler env storeExist order kvlist
  | .storeSyncStatus kvlist => storeSyncStatusHandler env storeExist kvlist

/-! ### Which errors a computation fails with -/

/-- Every error `m` fails with, from any machine, satisfies `P`. -/
def Raises {α : Type} (P : Err → Prop) (m : CtxM α) : Prop :=
  ∀ s e s', m.exec s = (.error e, s') → P e

section Raises

variable {α β : Type} {P : Err → Prop}

theorem raises_of_ok {m : CtxM α} (h : ∀ s, ∃ a s', m.exec s = (.ok a, s')) : Raises P m :=
  fun s _ _ he => by
    obtain ⟨_, _, h⟩ := h s
    rw [h] at he
    cases he

theorem raises_pure {a : α} : Raises P (pure a) := raises_of_ok fun s => ⟨a, s, rfl⟩

theorem raises_throw {e : Err} (h : P e) : Raises P (throw e : CtxM α) :=
  fun _ _ _ he => by
    cases he
    exact h

theorem raises_get : Raises P (get : CtxM Machine) := raises_of_ok fun s => ⟨s, s, rfl⟩

theorem raises_modify {f : Machine → Machine} : Raises P (modify f : CtxM PUnit) :=
  raises_of_ok fun s => ⟨⟨⟩, f s, rfl⟩

theorem raises_modifyGet {f : Machine → α × Machine} : Raises P (modifyGet f : CtxM α) :=
  raises_of_ok fun s => ⟨(f s).1, (f s).2, rfl⟩

theorem Raises.bind {m : CtxM α} {f : α → CtxM β} (hm : Raises P m) (hf : ∀ a, Raises P (f a)) :
    Raises P (m >>= f) := by
  intro s e s' h
  rw [exec_bind] at h
  rcases hr : m.exec s with ⟨_ | a, t⟩ <;> rw [hr] at h
  · cases h
    exact hm _ _ _ hr
  · exact hf a t e s' h

theorem Raises.map {m : CtxM α} {f : α → β} (hm : Raises P m) : Raises P (f <$> m) := by
  rw [← bind_pure_comp]
  exact hm.bind fun _ => raises_pure

theorem Raises.discard {m : CtxM α} (hm : Raises P m) : Raises P (Functor.discard m) := by
  intro s e s' h
  rw [exec_discard] at h
  rcases hr : m.exec s with ⟨_ | a, t⟩ <;> rw [hr] at h <;> cases h
  exact hm _ _ _ hr

theorem Raises.forM {xs : List α} {f : α → CtxM PUnit} (h : ∀ x, Raises P (f x)) :
    Raises P (xs.forM f) := by
  induction xs with
  | nil => exact raises_pure
  | cons x xs ih =>
    rw [List.forM_cons']
    exact (h x).bind fun _ => ih

end Raises

section Sites

variable (env : Env) {P : Err → Prop}

theorem raises_resolver : Raises P (resolver env) :=
  raises_of_ok fun s => ⟨_, _, resolver_exec env s⟩

theorem raises_alloc : Raises P alloc :=
  raises_of_ok fun s => ⟨_, _, alloc_exec s⟩

theorem raises_ipvsCall {w : Int} {c : IpvsCall} (h : P .ipvsSyscallFailed) :
    Raises P (ipvsCall env w c) := fun s e s' he => by
  rw [ipvsCall_exec] at he
  split at he <;> cases he
  exact h

theorem raises_delVip (vs : Service) : Raises P (delVip env vs) := by
  unfold delVip
  refine raises_get.bind fun s => ?_
  split
  · exact (raises_of_ok fun s => ⟨_, _, addrDel_exec env s _⟩).discard
  · exact raises_pure

theorem raises_addVip (o : ServiceOptions) : Raises P (addVip env o) := by
  unfold addVip
  refine raises_get.bind fun s => ?_
  split
  · refine (raises_of_ok fun s => ⟨_, _, addrAdd_exec env s _⟩).bind fun b => ?_
    split
    · exact raises_pure
    · exact raises_pure
  · exact raises_pure

theorem raises_getPoolForService {w : Int} {svc : Svc} : Raises P (getPoolForService env w svc) :=
  raises_of_ok fun s => ⟨_, _, by simp only [getPoolForService, exec_bind, getPools_exec]; rfl⟩

theorem raises_addPoolFor {w : Int} {svc : Svc} (h : P .ipvsSyscallFailed) :
    Raises P (addPoolFor env w svc) := by
  unfold addPoolFor
  refine (raises_getPoolForService env).bind fun pool => ?_
  split
  · split
    · exact raises_ipvsCall env h
    · exact raises_ipvsCall env h
  · exact raises_pure

end Sites

/-- `ErrObjectExists` and `ErrObjectNotFound` returned bare, not wrapped with an id by
`fmt.Errorf`: the two errors `writeError` answers with `409` and `404`. -/
def Err.Bare (e : Err) : Prop :=
  e = .objectExists "" ∨ e = .objectNotFound ""

theorem Err.not_bare_iff {e : Err} : ¬ e.Bare ↔ e ≠ .objectExists "" ∧ e ≠ .objectNotFound "" := by
  simp [Err.Bare]

theorem append_ne_empty {p : String} (x : String) (hp : p ≠ "") : p ++ x ≠ "" := fun h =>
  hp (String.ext (List.append_eq_nil.1 (congrArg String.data h)).1)

theorem Err.not_bare_wrapped {p : String} (x : String) (hp : p ≠ "") :
    ¬ (Err.objectNotFound (p ++ x)).Bare ∧ ¬ (Err.objectExists (p ++ x)).Bare := by
  simp [Err.Bare, append_ne_empty x hp]

namespace ServiceOptions

section Validation

variable {d : Option IP} {r : String → Option IP} {cm : CaseMap} {o : ServiceOptions} {e : Err}

theorem validateEndpoint_error (h : ((validateEndpoint d r).exec o).1 = .error e) :
    e = .missingEndpoint ∨ e = .resolve o.Host := by
  simp only [validateEndpoint, ValidateM.exec_bind, ValidateM.exec_get] at h
  repeat' split at h
  all_goals simp_all

theorem validateProtocol_error (h : ((validateProtocol cm).exec o).1 = .error e) :
    e = .unknownProtocol := by
  simp only [validateProtocol, ValidateM.exec_bind, ValidateM.exec_get] at h
  split at h <;> simp only [ValidateM.exec_bind, ValidateM.exec_modify, ValidateM.exec_get,
    ValidateM.exec_pure] at h <;> split at h <;> simp_all

theorem validateFlags_error (h : (validateFlags.exec o).1 = .error e) :
    e = .unknownFlag ∨ e = .unknownFallbackFlag := by
  simp only [validateFlags, ValidateM.exec_bind, ValidateM.exec_get] at h
  repeat' split at h
  all_goals simp only [ValidateM.exec_throw, ValidateM.exec_modify, ValidateM.exec_pure,
    ValidateM.exec_bind, reduceCtorEq, Except.error.injEq] at h
  all_goals simp [← h]

theorem validateMethod_error (h : ((validateMethod cm).exec o).1 = .error e) :
    e = .unknownMethod := by
  simp only [validateMethod, ValidateM.exec_bind, ValidateM.exec_get] at h
  split at h <;> simp only [ValidateM.exec_bind, ValidateM.exec_modify, ValidateM.exec_get,
    ValidateM.exec_pure] at h <;> split at h <;> simp only [ValidateM.exec_bind,
    ValidateM.exec_modify, ValidateM.exec_get, ValidateM.exec_throw, ValidateM.exec_pure] at h <;>
    (try split at h) <;> simp_all

/-- `Validate` fails only at its own checks: each error names the field it found wrong. -/
theorem runValidate_error (h : (o.runValidate d r cm).1 = .error e) :
    e = .missingEndpoint ∨ e = .resolve o.Host ∨ e = .unknownProtocol ∨ e = .unknownFlag ∨
      e = .unknownFallbackFlag ∨ e = .unknownMethod := by
  simp only [runValidate, validate, ValidateM.exec_bind] at h
  rcases h₁ : (validateEndpoint d r).exec o with ⟨_ | _, o₁⟩ <;> simp only [h₁] at h
  · cases h
    rcases validateEndpoint_error (by rw [h₁]) with rfl | rfl <;> simp
  rcases h₂ : (validateProtocol cm).exec o₁ with ⟨_ | _, o₂⟩ <;> simp only [h₂] at h
  · cases h
    simp [validateProtocol_error (by rw [h₂])]
  rcases h₃ : validateFlags.exec o₂ with ⟨_ | _, o₃⟩ <;> simp only [h₃] at h
  · cases h
    rcases validateFlags_error (by rw [h₃]) with rfl | rfl <;> simp
  simp only [ValidateM.exec_get] at h
  split at h <;> simp only [ValidateM.exec_bind, ValidateM.exec_modify, ValidateM.exec_pure,
    ValidateM.exec_get] at h <;> split at h <;> simp only [ValidateM.exec_bind,
    ValidateM.exec_modify, ValidateM.exec_pure] at h <;> simp [validateMethod_error h]

end Validation

end ServiceOptions

theorem BackendOptions.validate_error {r : String → Option IP} {o : BackendOptions} {e : Err}
    (h : o.validate r = .error e) : e = .missingEndpoint ∨ e = .resolve o.Host := by
  unfold BackendOptions.validate at h
  repeat' split at h
  all_goals simp_all

section Mutators

variable (env : Env) {vsID rsID : String}

theorem raises_throw_bind {α β : Type} {P : Err → Prop} {e : Err} {f : α → CtxM β} (h : P e) :
    Raises P (throw e >>= f) :=
  fun _ _ _ he => by
    cases he
    exact h

theorem not_bare_of_validate {r : String → Option IP} {o : BackendOptions} {e : Err}
    (h : o.validate r = .error e) : ¬ e.Bare := by
  rcases BackendOptions.validate_error h with rfl | rfl <;> simp [Err.Bare]

theorem raises_serviceCreateBackend (vs : Service) (opts : BackendOptions) :
    Raises (fun e => ¬ e.Bare) (vs.createBackend env rsID opts) := by
  unfold Service.createBackend
  refine (raises_resolver env).bind fun r => ?_
  dsimp only
  split
  · simp only [pure_bind]
    split
    · exact raises_alloc.bind fun _ => raises_pure
    · exact raises_throw_bind (by simp [Err.Bare])
  · exact raises_throw_bind (not_bare_of_validate ‹_›)

theorem raises_registerBackend (vs : Service) (opts : BackendOptions) :
    Raises (fun e => ¬ e.Bare) (registerBackend env vsID rsID vs opts) := by
  unfold registerBackend
  refine (raises_serviceCreateBackend env vs opts).bind fun vs => raises_modify.bind fun _ => ?_
  split
  · exact raises_modify
  · exact raises_pure

theorem raises_createBackend (opts : BackendOptions) :
    Raises (fun e => ¬ e.Bare) (createBackend env vsID rsID opts) := by
  unfold createBackend
  refine raises_get.bind fun s => ?_
  split
  · dsimp only
    split
    · exact raises_throw_bind (Err.not_bare_wrapped (p := "rsID: ") rsID (by decide)).2
    refine raises_pure.bind fun _ => (raises_resolver env).bind fun r => ?_
    split
    · refine raises_pure.bind fun _ => ?_
      split
      · exact raises_throw_bind (by simp [Err.Bare])
      refine raises_pure.bind fun _ => (raises_getPoolForService env).bind fun pool => ?_
      split
      · split
        · exact raises_pure.bind fun _ => raises_registerBackend env _ _
        · exact (raises_ipvsCall env (by simp [Err.Bare])).bind fun _ =>
            raises_registerBackend env _ _
      · exact raises_throw (by simp [Err.Bare])
    · exact raises_throw_bind (not_bare_of_validate ‹_›)
  · exact raises_throw (Err.not_bare_wrapped (p := "vsID: ") vsID (by decide)).1

theorem raises_removeService : Raises (fun e => ¬ e.Bare) (removeService env vsID) := by
  unfold removeService
  refine raises_get.bind fun s => ?_
  split
  · exact (raises_delVip env _).bind fun _ => (raises_ipvsCall env (by simp [Err.Bare])).bind
      fun _ => raises_modify.bind fun _ => raises_modify.bind fun _ => raises_pure
  · exact raises_throw (Err.not_bare_wrapped (p := "vsID: ") vsID (by decide)).1

/-- `registerService` fails at the validation of the options, with bare `ErrObjectExists` when they
validate and the service runs, or at the IPVS call adding the kernel's service. -/
theorem registerService_error {cfg : ServiceConfig} {e : Err} {s s' : Machine}
    (h : (registerService env vsID cfg).exec s = (.error e, s')) :
    (cfg.ServiceOptions.runValidate s.ctx.endpoint (env.dns s.clock) env.lower).1 = .error e ∨
      (cfg.ServiceOptions.runValidate s.ctx.endpoint (env.dns s.clock) env.lower).1 = .ok () ∧
        ((s.ctx.services.lookup vsID).isSome ∧ e = .objectExists "" ∨ e = .ipvsSyscallFailed) := by
  simp only [registerService, exec_bind, resolver_exec, exec_get] at h
  rcases hv : (cfg.ServiceOptions.runValidate s.ctx.endpoint (env.dns s.clock) env.lower).1 with e₀ | ⟨⟩
  · rw [hv] at h
    simp only [exec_bind, exec_throw, Prod.mk.injEq, Except.error.injEq] at h
    exact .inl (congrArg _ h.1)
  · rw [hv] at h
    refine .inr ⟨rfl, ?_⟩
    dsimp only at h
    rw [exec_bind] at h
    simp only [exec_pure] at h
    split at h
    · rw [exec_bind] at h
      simp only [exec_throw, Prod.mk.injEq, Except.error.injEq] at h
      exact .inl ⟨‹_›, h.1.symm⟩
    · rw [exec_bind] at h
      simp only [exec_pure] at h
      exact .inr ((raises_addVip env _).bind (fun _ => (raises_addPoolFor env rfl).bind fun _ =>
        raises_alloc.bind fun _ => raises_modify) _ _ _ h).symm

/-- With options that validate, `registerService` of a running service returns bare
`ErrObjectExists`, having only resolved the host. -/
theorem registerService_running {cfg : ServiceConfig} {s : Machine}
    (hv : (cfg.ServiceOptions.runValidate s.ctx.endpoint (env.dns s.clock) env.lower).1 = .ok ())
    (hk : (s.ctx.services.lookup vsID).isSome) :
    (registerService env vsID cfg).exec s = (.error (.objectExists ""), { s with clock := s.clock + 1 }) := by
  simp only [registerService, exec_bind, resolver_exec, exec_get, hv, hk, if_true]
  rfl

/-- `createService` fails as `registerService` does, or with an error of `createBackend`, which is
not bare. -/
theorem createService_fails {cfg : ServiceConfig} {e : Err} {s s' : Machine}
    (h : (createService env vsID cfg).exec s = (.error e, s')) :
    (cfg.ServiceOptions.runValidate s.ctx.endpoint (env.dns s.clock) env.lower).1 = .error e ∨
      (cfg.ServiceOptions.runValidate s.ctx.endpoint (env.dns s.clock) env.lower).1 = .ok () ∧
        ((s.ctx.services.lookup vsID).isSome ∧ e = .objectExists "" ∨ e = .ipvsSyscallFailed) ∨
      ¬ e.Bare := by
  rw [createService, exec_bind] at h
  rcases hr : (registerService env vsID cfg).exec s with ⟨_ | _, t⟩ <;> rw [hr] at h
  · cases h
    exact (registerService_error env hr).imp_right .inl
  · exact .inr (.inr (Raises.forM (fun _ => raises_createBackend env _) t e s' h))

theorem raises_removeBackend : Raises (· ≠ .objectExists "") (removeBackend env vsID rsID) := by
  have hvs : ∀ vs : Service, Raises (· ≠ .objectExists "") (vs.removeBackend rsID) := fun vs => by
    unfold Service.removeBackend
    split
    · exact raises_modify.bind fun _ => raises_pure
    · exact raises_throw (by simp)
  unfold removeBackend
  refine raises_get.bind fun s => ?_
  split
  · split
    · exact (raises_ipvsCall env (by simp)).bind fun _ => (hvs _).bind fun _ =>
        raises_modify.bind fun _ => raises_pure
    · exact raises_throw (by simp)
  · exact raises_throw (by simp)

/-- `removeBackend` returns bare `ErrObjectNotFound` exactly when the service runs without the
backend. -/
theorem removeBackend_not_found {s : Machine} :
    ((removeBackend env vsID rsID).exec s).1 = .error (.objectNotFound "") ↔
      ∃ vs, s.ctx.services.lookup vsID = some vs ∧ vs.backends.lookup rsID = none := by
  rcases hvs : s.ctx.services.lookup vsID with _ | vs
  · simp [removeBackend, hvs, append_ne_empty vsID (by decide : "vsID: " ≠ "")]
  rcases hrs : vs.backends.lookup rsID with _ | rs
  · simp [removeBackend, hvs, hrs]
  · simp only [removeBackend, Service.removeBackend, exec_bind, exec_get, hvs, hrs, ipvsCall_exec]
    by_cases hi : env.ipvs s.clock <;> simp [hi, hrs]

theorem createService_not_found {cfg : ServiceConfig} {e : Err} {s s' : Machine}
    (h : (createService env vsID cfg).exec s = (.error e, s')) : e ≠ .objectNotFound "" := by
  rintro rfl
  rcases createService_fails env h with hv | ⟨-, ⟨-, he⟩ | he⟩ | hb
  · rcases ServiceOptions.runValidate_error hv with he | he | he | he | he | he <;> cases he
  · cases he
  · cases he
  · exact hb (.inr rfl)

/-- `createService` returns bare `ErrObjectExists` exactly when the options validate and the
service runs. -/
theorem createService_exists_iff {cfg : ServiceConfig} {s : Machine} :
    ((createService env vsID cfg).exec s).1 = .error (.objectExists "") ↔
      (cfg.ServiceOptions.runValidate s.ctx.endpoint (env.dns s.clock) env.lower).1 = .ok () ∧
        (s.ctx.services.lookup vsID).isSome := by
  constructor
  · intro h
    rcases createService_fails env (Prod.ext h rfl) with hv | ⟨hv, ⟨hk, -⟩ | he⟩ | hb
    · rcases ServiceOptions.runValidate_error hv with he | he | he | he | he | he <;> cases he
    · exact ⟨hv, hk⟩
    · cases he
    · exact absurd (.inl rfl) hb
  · rintro ⟨hv, hk⟩
    simp only [createService, exec_bind, registerService_running env hv hk]

end Mutators

section Codes

variable {err : ApiErr}

@[simp] theorem ok_ne_notFound : StatusOK ≠ StatusNotFound := by decide
@[simp] theorem ok_ne_conflict : StatusOK ≠ StatusConflict := by decide

@[simp] theorem code_writeError_notFound :
    (writeError err).code = some StatusNotFound ↔ err = .core (.objectNotFound "") := by
  unfold writeError Response.code
  split_ifs <;> simp_all [StatusNotFound, StatusInternalServerError, StatusConflict, StatusBadRequest]

@[simp] theorem code_writeError_conflict :
    (writeError err).code = some StatusConflict ↔ err = .core (.objectExists "") := by
  unfold writeError Response.code
  split_ifs <;> simp_all [StatusNotFound, StatusInternalServerError, StatusConflict, StatusBadRequest]

end Codes

/-- A route that names a service not running answers `400 Bad Request`, but for the status of the
service: the Context wraps `ErrObjectNotFound` with the id, and `writeError` compares with `==`. -/
theorem code_missing_service {env : Env} {r : Request} {s : Machine} {vsID : String}
    (hvs : s.ctx.services.lookup vsID = none)
    (hr : (∃ rsID body, r = .backendCreate vsID rsID body) ∨ r = .serviceRemove vsID ∨
      (∃ rsID, r = .backendRemove vsID rsID) ∨ ∃ rsID, r = .backendStatus vsID rsID) :
    (serve env false r s).1.code = some StatusBadRequest := by
  have hne := append_ne_empty vsID (by decide : "vsID: " ≠ "")
  rcases hr with ⟨rsID, msg | opts, rfl⟩ | rfl | ⟨rsID, rfl⟩ | ⟨rsID, rfl⟩
  · simp [serve, backendCreateHandler, writeError]
  · simp [serve, backendCreateHandler, createBackend, hvs, writeError, hne]
  · simp [serve, serviceRemoveHandler, removeService, hvs, writeError, hne]
  · simp [serve, backendRemoveHandler, removeBackend, hvs, writeError, hne]
  · simp [serve, backendStatusHandler, Context.getBackend, hvs, writeError, hne]

/-- Creating a backend that a running service has already answers `400 Bad Request`:
`createBackend` wraps `ErrObjectExists` with the id. -/
theorem code_existing_backend {env : Env} {s : Machine} {vsID rsID : String} {vs : Service}
    (hvs : s.ctx.services.lookup vsID = some vs) (hrs : rsID ∈ vs.backends)
    (body : Except String BackendOptions) :
    (serve env false (.backendCreate vsID rsID body) s).1.code = some StatusBadRequest := by
  have hin : (vs.backends.lookup rsID).isSome := AList.lookup_isSome.2 hrs
  rcases body with msg | opts
  · simp [serve, backendCreateHandler, writeError]
  · simp [serve, backendCreateHandler, createBackend, hvs, hin, writeError,
      append_ne_empty rsID (by decide : "rsID: " ≠ "")]

theorem code_notFound_iff (env : Env) (r : Request) (s : Machine) :
    (serve env false r s).1.code = some StatusNotFound ↔
      (∃ vsID, r = .serviceStatus vsID ∧ s.ctx.services.lookup vsID = none) ∨
      (∃ vsID rsID vs, r = .backendRemove vsID rsID ∧ s.ctx.services.lookup vsID = some vs ∧
        vs.backends.lookup rsID = none) ∨
      (∃ order kvlist, r = .storeSync order kvlist) ∨ ∃ kvlist, r = .storeSyncStatus kvlist := by
  cases r with
  | serviceCreate vsID body =>
    simp only [serve, serviceCreateHandler, Bool.false_eq_true, if_false]
    rcases body with msg | doc
    · simp
    rcases ho : doc.ServiceOptions with _ | o
    · simp [ho]
    rcases h : (createService env vsID ⟨o, doc.ServiceBackends⟩).exec s with ⟨_ | _, s'⟩
    · simp [ho, h, createService_not_found env h]
    · simp [ho, h]
  | backendCreate vsID rsID body =>
    simp only [serve, backendCreateHandler, Bool.false_eq_true, if_false]
    rcases body with msg | opts
    · simp
    rcases h : (createBackend env vsID rsID opts).exec s with ⟨_ | e, s'⟩
    · simp [h, (Err.not_bare_iff.1 (raises_createBackend env opts _ _ _ h)).2]
    · simp [h]
  | serviceRemove vsID =>
    simp only [serve, serviceRemoveHandler, Bool.false_eq_true, if_false]
    rcases h : (removeService env vsID).exec s with ⟨_ | _, s'⟩
    · simp [h, (Err.not_bare_iff.1 (raises_removeService env _ _ _ h)).2]
    · simp [h]
  | backendRemove vsID rsID =>
    simp only [serve, backendRemoveHandler, Bool.false_eq_true, if_false]
    have := @removeBackend_not_found env vsID rsID s
    rcases h : (removeBackend env vsID rsID).exec s with ⟨_ | _, s'⟩ <;> rw [h] at this
    · simpa [and_assoc] using this
    · simpa [and_assoc] using this
  | serviceList => simp [serve, serviceListHandler]
  | serviceStatus vsID =>
    simp only [serve, serviceStatusHandler, Context.getService]
    rcases h : s.ctx.services.lookup vsID with _ | vs <;> simp [h]
  | backendStatus vsID rsID =>
    simp only [serve, backendStatusHandler, Context.getBackend]
    rcases s.ctx.services.lookup vsID with _ | vs
    · simp [append_ne_empty vsID (by decide : "vsID: " ≠ "")]
    rcases h : vs.backends.lookup rsID with _ | rs
    · simp [h, append_ne_empty rsID (by decide : "rsID: " ≠ "")]
    · simp [h]
  | storeSync order kvlist => simp [serve, storeSyncHandler]
  | storeSyncStatus kvlist => simp [serve, storeSyncStatusHandler]

theorem code_conflict_iff (env : Env) (r : Request) (s : Machine) :
    (serve env false r s).1.code = some StatusConflict ↔
      ∃ vsID doc o, r = .serviceCreate vsID (.ok doc) ∧ doc.ServiceOptions = some o ∧
        (o.runValidate s.ctx.endpoint (env.dns s.clock) env.lower).1 = .ok () ∧
        (s.ctx.services.lookup vsID).isSome := by
  cases r with
  | serviceCreate vsID body =>
    simp only [serve, serviceCreateHandler, Bool.false_eq_true, if_false]
    rcases body with msg | doc
    · simp
    rcases ho : doc.ServiceOptions with _ | o
    · simp [ho]
    have := @createService_exists_iff env vsID ⟨o, doc.ServiceBackends⟩ s
    rcases h : (createService env vsID ⟨o, doc.ServiceBackends⟩).exec s with ⟨_ | _, s'⟩ <;>
      rw [h] at this
    · simpa [ho, h, and_assoc] using this
    · simpa [ho, h, and_assoc] using this
  | backendCreate vsID rsID body =>
    simp only [serve, backendCreateHandler, Bool.false_eq_true, if_false]
    rcases body with msg | opts
    · simp
    rcases h : (createBackend env vsID rsID opts).exec s with ⟨_ | e, s'⟩
    · simp [h, (Err.not_bare_iff.1 (raises_createBackend env opts _ _ _ h)).1]
    · simp [h]
  | serviceRemove vsID =>
    simp only [serve, serviceRemoveHandler, Bool.false_eq_true, if_false]
    rcases h : (removeService env vsID).exec s with ⟨_ | _, s'⟩
    · simp [h, (Err.not_bare_iff.1 (raises_removeService env _ _ _ h)).1]
    · simp [h]
  | backendRemove vsID rsID =>
    simp only [serve, backendRemoveHandler, Bool.false_eq_true, if_false]
    rcases h : (removeBackend env vsID rsID).exec s with ⟨_ | _, s'⟩
    · simp [h, raises_removeBackend env _ _ _ h]
    · simp [h]
  | serviceList => simp [serve, serviceListHandler]
  | serviceStatus vsID =>
    simp only [serve, serviceStatusHandler, Context.getService]
    rcases h : s.ctx.services.lookup vsID with _ | vs <;> simp [h]
  | backendStatus vsID rsID =>
    simp only [serve, backendStatusHandler, Context.getBackend]
    rcases s.ctx.services.lookup vsID with _ | vs
    · simp
    rcases h : vs.backends.lookup rsID with _ | rs <;> simp [h]
  | storeSync order kvlist => simp [serve, storeSyncHandler]
  | storeSyncStatus kvlist => simp [serve, storeSyncStatusHandler]

/-- The requests a daemon without a store answers with `404 Not Found`: the status of a service not
running, the removal of a backend a running service lacks, and the store routes. A request that
names a service not running gets `400 Bad Request` from every other route, since the Context wraps
`ErrObjectNotFound` with the id there and `writeError` compares errors with `==`. -/
theorem answers_not_found_iff (env : Env) (r : Request) (s : Machine) :
    ((serve env false r s).1.code = some StatusNotFound ↔
      (∃ vsID, r = .serviceStatus vsID ∧ s.ctx.services.lookup vsID = none) ∨
      (∃ vsID rsID vs, r = .backendRemove vsID rsID ∧ s.ctx.services.lookup vsID = some vs ∧
        vs.backends.lookup rsID = none) ∨
      (∃ order kvlist, r = .storeSync order kvlist) ∨ ∃ kvlist, r = .storeSyncStatus kvlist) ∧
    ∀ vsID, s.ctx.services.lookup vsID = none →
      (∃ rsID body, r = .backendCreate vsID rsID body) ∨ r = .serviceRemove vsID ∨
        (∃ rsID, r = .backendRemove vsID rsID) ∨ (∃ rsID, r = .backendStatus vsID rsID) →
      (serve env false r s).1.code = some StatusBadRequest :=
  ⟨code_notFound_iff env r s, fun _ hvs hr => code_missing_service hvs hr⟩

/-- The requests a daemon without a store answers with `409 Conflict`: the creation of a service that
runs already, with options that validate under the case mapping of the environment. Creating a
backend that exists already gets `400 Bad Request`, since `createBackend` wraps `ErrObjectExists`
with the id. -/
theorem answers_conflict_iff (env : Env) (r : Request) (s : Machine) :
    ((serve env false r s).1.code = some StatusConflict ↔
      ∃ vsID doc o, r = .serviceCreate vsID (.ok doc) ∧ doc.ServiceOptions = some o ∧
        (o.runValidate s.ctx.endpoint (env.dns s.clock) env.lower).1 = .ok () ∧
        (s.ctx.services.lookup vsID).isSome) ∧
    ∀ vsID rsID body vs, r = .backendCreate vsID rsID body → s.ctx.services.lookup vsID = some vs →
      rsID ∈ vs.backends → (serve env false r s).1.code = some StatusBadRequest :=
  ⟨code_conflict_iff env r s, fun _ _ body _ hr hvs hrs => hr ▸ code_existing_backend hvs hrs body⟩

/-- A case mapping that also lowers the dotted capital `İ` (U+0130) to `i`, as Go's `unicode.ToLower`
does. -/
def dottedCapital : CaseMap :=
  ⟨fun c => if c = 'İ' then 'i' else c.toLower, fun c hc => if_neg fun h => by
    subst h
    exact absurd hc (by decide)⟩

theorem dotted_method_conflicts :
    (({ Host := "10.0.0.1", Port := 80, FwdMethod := "İPİP" } : ServiceOptions).runValidate
      firstBackend.ctx.endpoint (webEnv.dns firstBackend.clock) dottedCapital).1 = .ok () ∧
    (serve { webEnv with lower := dottedCapital } false (.serviceCreate "web"
      (.ok ⟨some { Host := "10.0.0.1", Port := 80, FwdMethod := "İPİP" }, ∅⟩)) firstBackend).1.code =
      some StatusConflict :=
  have hv : (({ Host := "10.0.0.1", Port := 80, FwdMethod := "İPİP" } : ServiceOptions).runValidate
      firstBackend.ctx.endpoint (webEnv.dns firstBackend.clock) dottedCapital).1 = .ok () := rfl
  ⟨hv, (answers_conflict_iff _ _ firstBackend).1.2 ⟨"web", _, _, rfl, rfl, hv, by decide⟩⟩

end Gorb
