import Gorb.Reconcile

/-!
# Two rounds of the store's reconciliation

`Store.Sync` parses the store's documents (`getStoreServices`) and drives the Context towards
them (`Synchronize`); `Store.StoreSyncStatus` parses them the same way and diffs them against the
running services (`CompareWith`). A round that succeeded is not a fixpoint of the next one.

`getStoreServices` validates each document's options with no default host, and ignores the
error. A document that leaves its host empty therefore fails at the endpoint, before `Validate`
sets the default protocol, and its service is parsed with an empty protocol. The running service
was validated against the daemon's endpoint and has `tcp` or `udp` in every run
(`protocols_valid`), so the two never compare equal, and `CompareWith` reports "need sync" after
any number of rounds (`default_protocol_needs_sync`).
-/

namespace Gorb

/-! ### The protocols of the running services -/

/-- A protocol `Validate` accepts: it leaves `tcp` or `udp`. -/
def ServiceOptions.ProtocolKnown (o : ServiceOptions) : Prop :=
  o.Protocol = "tcp" ∨ o.Protocol = "udp"

/-- Every running service has a protocol `Validate` accepts. -/
def ProtocolsValid (s : Machine) : Prop :=
  ∀ vsID vs, s.ctx.services.lookup vsID = some vs → vs.options.ProtocolKnown

section Keep

variable {env : Env} {s s' : Machine}

theorem ProtocolsValid.of_services (hs : ProtocolsValid s)
    (h : s'.ctx.services = s.ctx.services) : ProtocolsValid s' :=
  fun k vs hk => hs k vs (h ▸ hk)

theorem ProtocolsValid.insert (hs : ProtocolsValid s) {vsID : String} {vs : Service}
    (hvs : vs.options.ProtocolKnown) (h : s'.ctx.services = s.ctx.services.insert vsID vs) :
    ProtocolsValid s' :=
  fun k v hk => forall_lookup_insert (P := fun _ (vs : Service) => vs.options.ProtocolKnown) hs hvs
    k v (h ▸ hk)

/-- A running service replaced by an object with the same options. -/
theorem ProtocolsValid.replace (hs : ProtocolsValid s) {vsID : String} {vs vs' : Service}
    (hvs : s.ctx.services.lookup vsID = some vs)
    (h : s'.ctx.services = s.ctx.services.insert vsID vs') (ho : vs'.options = vs.options) :
    ProtocolsValid s' :=
  hs.insert (ho ▸ hs vsID vs hvs) h

theorem keeps_protocols_createBackend (env : Env) (vsID rsID : String) (opts : BackendOptions) :
    Keeps ProtocolsValid (createBackend env vsID rsID opts) fun _ => True :=
  Keeps.of_cases fun s _ _ h hs => by
    obtain ⟨-, ⟨-, hk, -⟩ | ⟨-, hk, -⟩ | ⟨-, vs, -, o, -, t, hvs, -, -, -, -, -, -, -, rfl⟩⟩ :=
      createBackend_cases h
    · exact hs.of_services (by rw [hk.ctx])
    · exact hs.of_services (by rw [hk.ctx])
    · exact hs.replace hvs rfl rfl

theorem keeps_protocols_removeBackend (env : Env) (vsID rsID : String) :
    Keeps ProtocolsValid (removeBackend env vsID rsID) fun _ => True :=
  Keeps.of_cases fun s _ _ h hs => by
    obtain ⟨-, rfl⟩ | ⟨vs, rs, hvs, -, ⟨-, -, rfl⟩ | ⟨-, -, rfl⟩⟩ := removeBackend_cases h
    · exact hs
    · exact hs
    · exact hs.replace hvs rfl rfl

theorem keeps_protocols_removeService (env : Env) (vsID : String) :
    Keeps ProtocolsValid (removeService env vsID) fun _ => True :=
  Keeps.of_cases fun s _ _ h hs => by
    obtain ⟨-, rfl⟩ | ⟨vs, -, ⟨-, -, rfl⟩ | ⟨-, -, rfl⟩⟩ := removeService_cases h
    · exact hs
    · exact hs.of_services (by simp)
    · exact fun k v hk => forall_lookup_erase (P := fun _ (vs : Service) => vs.options.ProtocolKnown)
        hs k v (by simpa using hk)

theorem keeps_protocols_registerService (env : Env) (vsID : String) (cfg : ServiceConfig) :
    Keeps ProtocolsValid (registerService env vsID cfg) fun _ => True :=
  Keeps.of_cases fun s _ _ h hs => by
    obtain ⟨-, -, -, -, ⟨-, hctx, -⟩ | ⟨-, o, o', t, hval, -, ho', -, -, -, -, -, -, rfl⟩⟩ :=
      registerService_cases h
    · exact hs.of_services (by rw [hctx])
    · have hp : o.ProtocolKnown := by
        have := ServiceOptions.runValidate_protocol (by rw [hval])
        rwa [hval] at this
      have ho : o'.ProtocolKnown := by
        rcases ho' with rfl | rfl
        exacts [hp, hp]
      exact hs.insert ho rfl

theorem protocols_of_updateBackend {vsID rsID : String} {w : Int} {r : Except Err Int}
    (h : (updateBackend env vsID rsID w).exec s = (r, s')) (hs : ProtocolsValid s) :
    ProtocolsValid s' := by
  obtain ⟨-, rfl⟩ | ⟨vs, rs, hvs, -, ⟨-, -, rfl⟩ | ⟨-, -, rfl⟩⟩ := updateBackend_cases h
  · exact hs
  · exact hs
  · exact hs.replace hvs rfl rfl

theorem protocols_of_pulseCheck (hs : ProtocolsValid s) (u : Update) :
    ProtocolsValid ((pulseCheck u).exec s).2 := by
  rcases hr : (pulseCheck u).exec s with ⟨r, s'⟩
  obtain rfl | ⟨vs, rs, hvs, -, -, rfl⟩ := pulseCheck_cases hr
  · exact hs
  · exact hs.replace hvs rfl rfl

theorem protocols_of_pulseStep (hs : ProtocolsValid s) (p : Phase) :
    ProtocolsValid ((pulseStep env p).exec s).2 := by
  rcases hr : (pulseStep env p).exec s with ⟨r, s'⟩
  cases p with
  | idle =>
    cases hr
    exact hs
  | up u =>
    rcases pulseUp_cases hr with ⟨-, rfl⟩ | ⟨_, _, t, -, hu, rfl | ⟨-, -, rfl⟩⟩
    · exact hs
    · exact protocols_of_updateBackend hu hs
    · exact (protocols_of_updateBackend hu hs : ProtocolsValid t)
  | down u =>
    simp only [pulseStep, pulseDownWeight_exec, Prod.mk.injEq] at hr
    rw [← hr.2]
    exact hs
  | downWeighed u w =>
    obtain ⟨_, t, hu, rfl | ⟨_, -, -, rfl⟩⟩ := pulseDownApply_cases hr
    · exact protocols_of_updateBackend hu hs
    · exact (protocols_of_updateBackend hu hs : ProtocolsValid t)

theorem ProtocolsValid.step (hs : ProtocolsValid s) (a : Action) :
    ProtocolsValid (a.step env s) := by
  have hcb := fun vsID rsID opts (_ : True) => keeps_protocols_createBackend env vsID rsID opts
  have hrb := keeps_protocols_removeBackend env
  have hrs := keeps_protocols_removeService env
  have hreg := fun vsID cfg (_ : True) => keeps_protocols_registerService env vsID cfg
  have hPS : ∀ (vsID : String) (cfg : ServiceConfig), True →
      ∀ e ∈ cfg.ServiceBackends.entries, True := fun _ _ _ _ _ => trivial
  cases a with
  | createService vsID cfg =>
    exact (keeps_createService (hcb vsID) (hreg vsID) (hPS vsID) trivial s hs).1
  | createBackend vsID rsID opts => exact (keeps_protocols_createBackend env vsID rsID opts s hs).1
  | removeService vsID => exact ((hrs vsID).discard s hs).1
  | removeBackend vsID rsID => exact ((hrb vsID rsID).discard s hs).1
  | synchronize order d =>
    exact (keeps_synchronize hPS hcb hrb hrs hreg (fun _ _ => trivial) s hs).1
  | close order => exact (keeps_close hrs s hs).1
  | deliver u => exact protocols_of_pulseCheck hs u
  | pulse => exact protocols_of_pulseStep hs s.phase

/-- Every running service of every run has a protocol `Validate` accepts. -/
theorem protocols_valid (env : Env) (s : Machine) (h : Reachable env s) : ProtocolsValid s :=
  ReachableWith.induct_on (fun _ _ _ _ _ h => nomatch h) (fun _ a hs _ _ => hs.step a) h

end Keep

/-! ### The store's documents -/

section Parse

variable {env : Env}

/-- Every service `getStoreServices` returns is the service of a document of the store, with the
options `Validate(nil)` left, whether it failed or not. -/
theorem storeServices_lookup {kvs : List KVPair} {services d : StrMap ServiceConfig}
    {s s' : Machine} (h : (storeServices env kvs services).exec s = (.ok (.ok d), s'))
    {vsID : String} {cfg : ServiceConfig} (hd : d.lookup vsID = some cfg) :
    services.lookup vsID = some cfg ∨ ∃ kv ∈ kvs, ∃ doc o n, kv.Value = some (.ok doc) ∧
      doc.ServiceOptions = some o ∧ getID kv.Key = vsID ∧
      cfg = ⟨(o.runValidate none (env.dns n) env.lower).2, doc.ServiceBackends⟩ := by
  induction kvs generalizing services s with
  | nil =>
    simp only [storeServices, exec_pure, Prod.mk.injEq, Except.ok.injEq] at h
    exact .inl (h.1 ▸ hd)
  | cons kv kvs ih =>
    have hmem : ∀ {P : KVPair → Prop}, (∃ kv' ∈ kvs, P kv') → ∃ kv' ∈ kv :: kvs, P kv' :=
      fun ⟨kv', hkv', hp⟩ => ⟨kv', List.mem_cons_of_mem _ hkv', hp⟩
    simp only [storeServices] at h
    split at h
    · exact (ih h).imp id hmem
    · simp only [exec_pure, Prod.mk.injEq, Except.ok.injEq, reduceCtorEq, false_and] at h
    · next doc hv =>
      split at h
      · exact (ih h).imp id hmem
      · next o ho =>
        simp only [exec_bind, resolver_exec] at h
        rcases ih h with hk | hk
        · by_cases hid : getID kv.Key = vsID
          · subst hid
            rw [AList.lookup_insert, Option.some.injEq] at hk
            exact .inr ⟨kv, List.mem_cons_self _ _, doc, o, _, hv, ho, rfl, hk.symm⟩
          · rw [AList.lookup_insert_ne (Ne.symm hid)] at hk
            exact .inl hk
        · exact .inr (hmem hk)

variable (env) in
/-- `getStoreServices` only reads the Context. -/
theorem storeServices_ctx (kvs : List KVPair) (services : StrMap ServiceConfig)
    (s : Machine) : ((storeServices env kvs services).exec s).2.ctx = s.ctx := by
  induction kvs generalizing services s with
  | nil => rfl
  | cons kv kvs ih =>
    simp only [storeServices]
    split
    · exact ih _ _
    · rfl
    · split
      · exact ih _ _
      · simp only [exec_bind, resolver_exec]
        exact ih _ _

/-- Every document of `vsID` among the pairs leaves its host and its protocol to the defaults. -/
def UsesDefaultEndpoint (kvs : List KVPair) (vsID : String) : Prop :=
  ∀ kv ∈ kvs, ∀ doc o, kv.Value = some (.ok doc) → doc.ServiceOptions = some o →
    getID kv.Key = vsID → o.Host = "" ∧ o.Protocol = ""

/-- Such a service keeps the empty protocol through `getStoreServices`: `Validate(nil)` stops at
the endpoint before it sets the default. -/
theorem storeServices_default_protocol {kvs : List KVPair} {s s' : Machine}
    {d : StrMap ServiceConfig} (h : (storeServices env kvs ∅).exec s = (.ok (.ok d), s'))
    {vsID : String} (hdefault : UsesDefaultEndpoint kvs vsID) {cfg : ServiceConfig}
    (hd : d.lookup vsID = some cfg) : cfg.ServiceOptions.Protocol = "" := by
  rcases storeServices_lookup h hd with h0 | ⟨kv, hkv, doc, o, n, hv, ho, hid, rfl⟩
  · exact nomatch h0
  · obtain ⟨hhost, hproto⟩ := hdefault kv hkv doc o hv ho hid
    rw [ServiceOptions.runValidate_no_host (by rw [hhost]; rfl)]
    exact hproto

end Parse

/-! ### A second round -/

/-- Options that compare equal to the store's have its protocol. -/
theorem compareStoreOptions_protocol {o o' : ServiceOptions}
    (h : o.compareStoreOptions o' = true) : o.Protocol = o'.Protocol := by
  simp only [ServiceOptions.compareStoreOptions, Bool.and_eq_true, beq_iff_eq] at h
  exact h.1.1.1.1.1.1.2

/-- `CompareWith` reports one of the two statuses of `CheckStatus`. -/
theorem compareWith_status (ctx : Context) (d : StrMap ServiceConfig) :
    (ctx.compareWith d).Status = "ok" ∨ (ctx.compareWith d).Status = "need sync" := by
  simp only [Context.compareWith, StoreSyncStatus.checkStatus]
  split
  · exact .inl rfl
  · exact .inr rfl

/-- The store's status after any run, when a running service's documents rely on the default
endpoint and protocol: `CompareWith` reports "need sync", whatever the rounds before did. -/
theorem default_protocol_needs_sync (env : Env) (s : Machine) (hs : Reachable env s)
    (kvs : List KVPair) (vsID : String) (hrun : vsID ∈ s.ctx.services)
    (hdefault : UsesDefaultEndpoint kvs vsID) (st : StoreSyncStatus)
    (hst : ((Store.storeSyncStatus env (.ok kvs)).exec s).1 = .ok (.ok st)) :
    st.Status = "need sync" := by
  simp only [Store.storeSyncStatus, getStoreServices, exec_bind] at hst
  rcases hparse : (storeServices env kvs ∅).exec s with ⟨r, s'⟩
  have hctx : s'.ctx = s.ctx := by rw [← storeServices_ctx env kvs ∅ s, hparse]
  rw [hparse] at hst
  rcases r with _ | _ | d
  · exact nomatch hst
  · exact nomatch hst
  simp only [exec_bind, exec_get, exec_pure, Except.ok.injEq] at hst
  subst hst
  refine (compareWith_status _ d).resolve_left fun hok => ?_
  rw [hctx] at hok
  obtain ⟨vs, hvs⟩ := Option.isSome_iff_exists.1 (AList.lookup_isSome.2 hrun)
  obtain ⟨cfg, hcfg, hsync⟩ := (inSync_of_compareWith hok).stored vsID vs hvs
  have hsame := (compareStoreOptions_protocol hsync.options).trans
    (storeServices_default_protocol hparse hdefault hcfg)
  rcases protocols_valid env s hs vsID vs hvs with h | h <;> rw [h] at hsame <;>
    exact absurd hsame (by decide)

/-- `Synchronize` on a daemon that runs no service creates the store's services, in map order. -/
theorem synchronize_from_empty (env : Env) (order : SyncOrder) (d : StrMap ServiceConfig)
    {s : Machine} (h : s.ctx.services = ∅) :
    (synchronize env order d).exec s =
      (d.entries.forM fun e => createService env e.1 e.2).exec s := by
  have hidle : ∀ k, liveService s k = none := fun k => by simp [liveService, h]
  simp only [synchronize, exec_bind, goRange_idle hidle]

/-- A daemon started with the default endpoint 10.0.0.1. -/
def endpointOnly : Machine :=
  Machine.init (some ⟨"10.0.0.1", .inet⟩) none []

/-- The store's pairs: the document of `web`, with only its port set. -/
def portOnlyPairs : List KVPair :=
  [⟨"services/web", some (.ok ⟨some { Port := 80 }, ∅⟩)⟩]

/-- What `getStoreServices` makes of `portOnlyPairs`: the options as decoded. -/
def portOnlyServices : StrMap ServiceConfig :=
  (∅ : StrMap ServiceConfig).insert "web" { ServiceOptions := { Port := 80 }, ServiceBackends := ∅ }

/-- `endpointOnly` once `Synchronize` created `web` from `portOnlyServices`. -/
def firstSync : Machine :=
  (Action.createService "web" ⟨{ Port := 80 }, ∅⟩).step webEnv endpointOnly

theorem synchronize_portOnly :
    (synchronize webEnv ⟨["web"], fun _ => []⟩ portOnlyServices).exec endpointOnly =
      (.ok (), firstSync) := by
  rw [synchronize_from_empty _ _ _ rfl]
  have hcreate : (createService webEnv "web" ⟨{ Port := 80 }, ∅⟩).exec endpointOnly =
      (.ok (), firstSync) := Prod.ext rfl rfl
  simp only [show portOnlyServices.entries = [⟨"web", ⟨{ Port := 80 }, ∅⟩⟩] from rfl, List.forM,
    exec_bind, hcreate, exec_pure]

theorem usesDefaultEndpoint_portOnly : UsesDefaultEndpoint portOnlyPairs "web" := by
  rintro kv (_ | ⟨_, ⟨⟩⟩) doc o hv ho -
  cases hv
  cases ho
  exact ⟨rfl, rfl⟩

/-- One round on `portOnlyPairs` parses them and synchronizes without an error; the next parses
them to the same map, and `CompareWith` reports it outdated. -/
theorem port_only_never_synced :
    ((getStoreServices webEnv (.ok portOnlyPairs)).exec endpointOnly).1 =
        .ok (.ok portOnlyServices) ∧
      (synchronize webEnv ⟨["web"], fun _ => []⟩ portOnlyServices).exec endpointOnly =
        (.ok (), firstSync) ∧
      ((Store.storeSyncStatus webEnv (.ok portOnlyPairs)).exec firstSync).1 =
        .ok (.ok (firstSync.ctx.compareWith portOnlyServices)) ∧
      (firstSync.ctx.compareWith portOnlyServices).Status = "need sync" :=
  ⟨rfl, synchronize_portOnly, rfl, default_protocol_needs_sync webEnv firstSync
    (.step _ (.init _ _ _) ⟨rfl, fun _ _ h => nomatch h⟩ trivial) portOnlyPairs "web"
    (by decide) usesDefaultEndpoint_portOnly _ rfl⟩

end Gorb
