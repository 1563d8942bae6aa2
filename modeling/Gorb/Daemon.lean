import Gorb.Api
import Gorb.Rounds

/-!
# The daemon and the runs of its mutators

`Reachable` is stated over the Context's mutators and the notification loop's steps. The daemon is
driven by its entry points: the REST handlers, the store's timer (`Store.Sync`, and the first round
in `NewStore`), and the notification loop. Each event of the daemon is a step of a run, or lets
time pass: a refused or read-only request changes nothing, a mutating request is the step of its
mutator, and a store round resolves the documents' hosts and runs `Synchronize`. Letting one call
pass is itself a step of a run, a `CreateService` whose options lack the port (`Reachable.tick`).
So every state of the daemon is a state of a run (`daemon_reachable`), and the invariants proved
of runs hold of the daemon.

The documents are taken as the decoders leave them (`Decoded`): `delIfAddr` and the backends'
derived fields are unexported, so neither the JSON nor the YAML decoder sets them.
-/

namespace Gorb

/-- Every option of the document is as decoded. -/
def ServiceDocument.Decoded (doc : ServiceDocument) : Prop :=
  (∀ o, doc.ServiceOptions = some o → o.Decoded) ∧
    ∀ rsID o, doc.ServiceBackends.lookup rsID = some o → o.Decoded

/-- Every document the store lists is as decoded. -/
def ListingDecoded (kvlist : Except ListError (List KVPair)) : Prop :=
  ∀ kvs, kvlist = .ok kvs → ∀ kv ∈ kvs, ∀ doc, kv.Value = some (.ok doc) → doc.Decoded

/-- The bodies of a request, and the documents it reads from the store, as the decoders leave
them. -/
def Request.Decoded : Request → Prop
  | .serviceCreate _ body => ∀ doc, body = .ok doc → doc.Decoded
  | .backendCreate _ _ body => ∀ o, body = .ok o → o.Decoded
  | .storeSync _ kvlist => ListingDecoded kvlist
  | _ => True

/-- The daemon's events: a request to the REST API, a round of the store's timer, an update a
probe delivers to the notification loop, and the loop's next locked step. -/
inductive Event
  | request (r : Request)
  | storeTimer (order : SyncOrder) (kvlist : Except ListError (List KVPair))
  | deliver (u : Update)
  | pulse

namespace Event

/-- The machine after the event. -/
def step (env : Env) (storeExist : Bool) : Event → Machine → Machine
  | request r, s => (serve env storeExist r s).2
  | storeTimer order kvlist, s => ((Store.sync env order kvlist).exec s).2
  | deliver u, s => (Action.deliver u).step env s
  | pulse, s => Action.pulse.step env s

/-- The events that can happen at `s`: documents as decoded, the store's timer only with a store,
and the loop's updates as `Action.Allowed` has them. -/
def Allowed (storeExist : Bool) (s : Machine) : Event → Prop
  | request r => r.Decoded
  | storeTimer _ kvlist => storeExist = true ∧ ListingDecoded kvlist
  | deliver u => (Action.deliver u).Allowed s
  | pulse => True

end Event

/-- The states of a daemon started by `NewContext`, with a store or not, after any sequence of
events. -/
inductive Daemon (env : Env) (storeExist : Bool) : Machine → Prop
  | init (endpoint : Option IP) (vipInterface : Option String) (addrs : List String) :
      Daemon env storeExist (Machine.init endpoint vipInterface addrs)
  | step {s : Machine} (e : Event) :
      Daemon env storeExist s → e.Allowed storeExist s → Daemon env storeExist (e.step env storeExist s)

/-! ### Time passing -/

/-- The machine `n` external calls later, with nothing else changed. -/
def Machine.advance (s : Machine) (n : Nat) : Machine :=
  { s with clock := s.clock + n }

theorem ServiceOptions.runValidate_port_zero {o : ServiceOptions} (h : o.Port = 0)
    (d : Option IP) (r : String → Option IP) (cm : CaseMap) :
    o.runValidate d r cm = (.error .missingEndpoint, o) := by
  simp [ServiceOptions.runValidate, ServiceOptions.validate, ServiceOptions.validateEndpoint, h]

/-- A run can let one external call pass with nothing else changed: a `CreateService` whose
options lack the port resolves and fails. -/
theorem Reachable.tick {env : Env} {s : Machine} (hs : Reachable env s) :
    Reachable env (s.advance 1) := by
  have h : Reachable env ((Action.createService "" ⟨{}, ∅⟩).step env s) :=
    .step (.createService "" ⟨{}, ∅⟩) hs ⟨rfl, fun _ _ h => by simp at h⟩ trivial
  have hstep : (Action.createService "" ⟨{}, ∅⟩).step env s = s.advance 1 := by
    simp [Action.step, Action.run, createService, registerService,
      ServiceOptions.runValidate_port_zero, Machine.advance]
  rwa [hstep] at h

theorem Reachable.advance {env : Env} {s : Machine} (hs : Reachable env s) :
    ∀ n, Reachable env (s.advance n)
  | 0 => hs
  | n + 1 => (hs.advance n).tick

variable (env : Env) in
/-- The loop of `getStoreServices` only resolves hosts. -/
theorem storeServices_advance (kvs : List KVPair) (services : StrMap ServiceConfig) (s : Machine) :
    ∃ n r, (storeServices env kvs services).exec s = (.ok r, s.advance n) := by
  induction kvs generalizing services s with
  | nil => exact ⟨0, _, rfl⟩
  | cons kv kvs ih =>
    simp only [storeServices]
    split
    · exact ih services s
    · exact ⟨0, _, rfl⟩
    · split
      · exact ih services s
      · simp only [exec_bind, resolver_exec]
        obtain ⟨n, r, h⟩ := ih (services.insert _ _) (s.advance 1)
        exact ⟨1 + n, r, h.trans (by simp only [Machine.advance, Nat.add_assoc])⟩

namespace ServiceOptions

variable {d : Option IP} {r : String → Option IP} {cm : CaseMap}

/-- `Validate` leaves `delIfAddr`, which only `createService` sets, as it was. -/
theorem runValidate_delIfAddr (o : ServiceOptions) :
    (o.runValidate d r cm).2.delIfAddr = o.delIfAddr := by
  simp only [runValidate, validate, ValidateM.exec_bind]
  obtain ⟨h, e₁⟩ := validateEndpoint_frame (d := d) (r := r) o
  rcases hx : (validateEndpoint d r).exec o with ⟨_ | _, o₁⟩ <;> rw [hx] at e₁ <;> subst e₁
  · rfl
  dsimp only
  obtain ⟨p, n, e₂⟩ := validateProtocol_frame cm { o with host := h }
  rcases hy : (validateProtocol cm).exec { o with host := h } with ⟨_ | _, o₂⟩ <;> rw [hy] at e₂ <;>
    subst e₂
  · rfl
  dsimp only
  obtain ⟨fb, e₃⟩ := validateFlags_frame { o with host := h, Protocol := p, protocol := n }
  rcases hz : validateFlags.exec { o with host := h, Protocol := p, protocol := n } with
    ⟨_ | _, o₃⟩ <;> rw [hz] at e₃ <;> subst e₃
  · rfl
  simp only [ValidateM.exec_get]
  split <;> simp only [ValidateM.exec_bind, ValidateM.exec_modify, ValidateM.exec_pure,
    ValidateM.exec_get] <;> split <;> simp only [ValidateM.exec_bind, ValidateM.exec_modify,
    ValidateM.exec_pure] <;> obtain ⟨f, m, q, hm⟩ := validateMethod_frame cm _ <;> rw [hm]

end ServiceOptions

/-! ### The store's documents -/

section Store

variable {env : Env}

theorem attempt_exec {α : Type} (m : CtxM α) (s : Machine) :
    (attempt m).exec s = (.ok (m.exec s).1, (m.exec s).2) := by
  simp only [attempt, exec_tryCatch, exec_map]
  rcases m.exec s with ⟨_ | _, _⟩ <;> rfl

/-- The services `getStoreServices` builds from documents as decoded are as decoded. -/
theorem storeServices_decoded {kvs : List KVPair} {services d : StrMap ServiceConfig}
    {s s' : Machine} (h : (storeServices env kvs services).exec s = (.ok (.ok d), s'))
    (hkvs : ∀ kv ∈ kvs, ∀ doc, kv.Value = some (.ok doc) → doc.Decoded)
    (hsv : ∀ vsID cfg, services.lookup vsID = some cfg → cfg.Decoded) :
    ∀ vsID cfg, d.lookup vsID = some cfg → cfg.Decoded := by
  intro vsID cfg hd
  rcases storeServices_lookup h hd with hk | ⟨kv, hkv, doc, o, n, hv, ho, -, rfl⟩
  · exact hsv _ _ hk
  · have hdoc := hkvs kv hkv doc hv
    exact ⟨(ServiceOptions.runValidate_delIfAddr o).trans (hdoc.1 o ho), hdoc.2⟩

variable (env) in
/-- `getStoreServices` only resolves hosts, and builds decoded services from decoded documents. -/
theorem getStoreServices_spec (kvlist : Except ListError (List KVPair)) (s : Machine) :
    ∃ n r, (getStoreServices env kvlist).exec s = (.ok r, s.advance n) ∧
      (ListingDecoded kvlist → ∀ d, r = .ok d → ∀ vsID cfg, d.lookup vsID = some cfg → cfg.Decoded) := by
  rcases kvlist with (_ | msg) | kvs
  · exact ⟨0, _, rfl, fun _ d hd => by cases hd; simp⟩
  · exact ⟨0, _, rfl, fun _ d hd => by cases hd⟩
  · obtain ⟨n, r, h⟩ := storeServices_advance env kvs ∅ s
    refine ⟨n, r, h, fun hk d hd => ?_⟩
    subst hd
    exact storeServices_decoded h (hk kvs rfl) fun _ _ h => by simp at h

/-- A round of the store's timer from a state of a run, over decoded documents, ends in a state of
a run: it lets the resolutions pass, then runs `Synchronize`. -/
theorem Reachable.storeSync {s : Machine} (hs : Reachable env s) {order : SyncOrder}
    {kvlist : Except ListError (List KVPair)} (hk : ListingDecoded kvlist) :
    Reachable env ((Store.sync env order kvlist).exec s).2 := by
  obtain ⟨n, r, hg, hd⟩ := getStoreServices_spec env kvlist s
  simp only [Store.sync, exec_bind, hg]
  rcases r with _ | d
  · exact hs.advance n
  · simp only [exec_discard, attempt_exec]
    exact ReachableWith.step (.synchronize order d) (hs.advance n) (hd hk d rfl) trivial

/-- `StartSyncWithStore` does to the machine what a round of the timer does. -/
theorem startSyncWithStore_machine (order : SyncOrder) (kvlist : Except ListError (List KVPair))
    (s : Machine) :
    ((Store.startSyncWithStore env order kvlist).exec s).2 = ((Store.sync env order kvlist).exec s).2 := by
  obtain ⟨n, r, hg, -⟩ := getStoreServices_spec env kvlist s
  simp only [Store.startSyncWithStore, Store.sync, exec_bind, hg]
  rcases r with _ | d
  · rfl
  · simp only [exec_bind, attempt_exec, exec_discard]
    rcases (synchronize env order d).exec (s.advance n) with ⟨_ | _, _⟩ <;> rfl

end Store

/-! ### The daemon refines the runs of its mutators -/

section Serve

variable {env : Env} {s : Machine}

/-- A request a handler serves from a state of a run, with its bodies as decoded, ends in a state of
a run: a refused or read-only request changes nothing, a mutating one is the step of its mutator,
and a store route lets resolutions pass and runs `Synchronize`. -/
theorem Reachable.serve (hs : Reachable env s) (storeExist : Bool) (r : Request)
    (hr : r.Decoded) : Reachable env (serve env storeExist r s).2 := by
  cases r with
  | serviceCreate vsID body =>
    simp only [Gorb.serve, serviceCreateHandler]
    split
    · exact hs
    rcases body with msg | doc
    · exact hs
    rcases ho : doc.ServiceOptions with _ | o
    · simp only [ho]
      exact hs
    have h := ReachableWith.step (.createService vsID ⟨o, doc.ServiceBackends⟩) hs
      ⟨(hr doc rfl).1 o ho, (hr doc rfl).2⟩ trivial
    simp only [Action.step, Action.run] at h
    rcases hc : (createService env vsID ⟨o, doc.ServiceBackends⟩).exec s with ⟨_ | _, s'⟩ <;>
      simp only [ho, hc] at h ⊢ <;> exact h
  | backendCreate vsID rsID body =>
    simp only [Gorb.serve, backendCreateHandler]
    split
    · exact hs
    rcases body with msg | opts
    · exact hs
    have h := ReachableWith.step (.createBackend vsID rsID opts) hs (hr opts rfl) trivial
    simp only [Action.step, Action.run] at h
    rcases hc : (createBackend env vsID rsID opts).exec s with ⟨_ | _, s'⟩ <;>
      simp only [hc] at h ⊢ <;> exact h
  | serviceRemove vsID =>
    simp only [Gorb.serve, serviceRemoveHandler]
    split
    · exact hs
    have h := ReachableWith.step (.removeService vsID) hs trivial trivial
    simp only [Action.step, Action.run, exec_discard] at h
    rcases hc : (removeService env vsID).exec s with ⟨_ | _, s'⟩ <;>
      simp only [hc] at h ⊢ <;> exact h
  | backendRemove vsID rsID =>
    simp only [Gorb.serve, backendRemoveHandler]
    split
    · exact hs
    have h := ReachableWith.step (.removeBackend vsID rsID) hs trivial trivial
    simp only [Action.step, Action.run, exec_discard] at h
    rcases hc : (removeBackend env vsID rsID).exec s with ⟨_ | _, s'⟩ <;>
      simp only [hc] at h ⊢ <;> exact h
  | serviceList => exact hs
  | serviceStatus vsID =>
    simp only [Gorb.serve, serviceStatusHandler]
    split <;> exact hs
  | backendStatus vsID rsID =>
    simp only [Gorb.serve, backendStatusHandler]
    split <;> exact hs
  | storeSync order kvlist =>
    simp only [Gorb.serve, storeSyncHandler]
    split
    · have h : Reachable env ((Store.sync env order kvlist).exec s).2 := hs.storeSync hr
      rw [← startSyncWithStore_machine] at h
      rcases hc : (Store.startSyncWithStore env order kvlist).exec s with ⟨_ | (_ | _), s'⟩ <;>
        simp only [hc] at h ⊢ <;> exact h
    · exact hs
  | storeSyncStatus kvlist =>
    simp only [Gorb.serve, storeSyncStatusHandler]
    split
    · obtain ⟨n, r, hg, -⟩ := getStoreServices_spec env kvlist s
      have h : ((Store.storeSyncStatus env kvlist).exec s).2 = s.advance n := by
        simp only [Store.storeSyncStatus, exec_bind, hg]
        rcases r with _ | d <;> rfl
      rcases hc : (Store.storeSyncStatus env kvlist).exec s with ⟨_ | (_ | _), s'⟩ <;>
        simp only [hc] at h ⊢ <;> exact h ▸ hs.advance n
    · exact hs

end Serve

/-- Every state of the daemon, with a store or without, after any sequence of REST requests, rounds
of the store's timer and steps of the notification loop, is a state of a run of the Context's
mutators: every invariant proved of `Reachable` holds of the daemon. -/
theorem daemon_reachable (env : Env) (storeExist : Bool) (s : Machine)
    (h : Daemon env storeExist s) : Reachable env s := by
  induction h with
  | init endpoint vipInterface addrs => exact .init endpoint vipInterface addrs
  | step e _ he ih =>
    cases e with
    | request r => exact ih.serve storeExist r he
    | storeTimer order kvlist => exact ih.storeSync he.2
    | deliver u => exact .step (.deliver u) ih he trivial
    | pulse => exact .step .pulse ih trivial trivial

/-- The service `web` created through the REST API of a daemon without a store. -/
def webRequest : Request :=
  .serviceCreate "web" (.ok ⟨some { Host := "10.0.0.1", Port := 80 }, ∅⟩)

theorem web_request_reachable :
    Daemon webEnv false ((Event.request webRequest).step webEnv false (Machine.init none none [])) ∧
      Reachable webEnv ((Event.request webRequest).step webEnv false (Machine.init none none [])) :=
  have hd : Daemon webEnv false
      ((Event.request webRequest).step webEnv false (Machine.init none none [])) :=
    .step _ (.init _ _ _) fun _ h => by
      cases h
      exact ⟨fun _ h => by cases h; rfl, fun _ _ h => by simp at h⟩
  ⟨hd, daemon_reachable webEnv false _ hd⟩

end Gorb
