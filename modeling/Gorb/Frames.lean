import Gorb.Ranges
import Gorb.Reconcile

/-!
# What each mutator leaves as it was

The facts about the Context's map that the loops of `Synchronize` and `Close` carry, each proved
once per mutator of the Context (`createBackend`, `removeBackend`, `removeService`,
`registerService`) and lifted to the loops by the rules of `Keeps`:

* `createBackend_services` and its siblings: what a mutator does to the map of services and to the
  next fresh handle, read off the mutator's cases;
* `EveryService`: a property of every running service, kept by a mutator when the one entry it
  writes keeps it;
* `OthersAs` and `OnlyBackend`: a body of `Synchronize`'s loop, or of its loop over one service's
  backends, changes no entry but its own key's (`keepsOthers_syncService`,
  `keepsOthers_syncBackend`), which is what a `goRange` needs of its body;
* `RefAt`: a service keeps its object and its options while its backends change;
* `Fresh`: every handle in use, of a service object or of a probe, is below the next fresh one, in
  every state of every run (`Reachable.fresh`).
-/

namespace Gorb

section Services

variable {env : Env} {s s' : Machine} {vsID rsID : String}

/-- A `createBackend` fails and leaves the services and the next handle, or adds to a running service
that lacks the backend the backend with the next handle as its probe, at the address of `opts`. -/
theorem createBackend_services {opts : BackendOptions} {r : Except Err Unit}
    (h : (createBackend env vsID rsID opts).exec s = (r, s')) :
    (∃ e, r = .error e) ∧ s'.ctx.services = s.ctx.services ∧ s'.next = s.next ∨
    r = .ok () ∧ s'.next = s.next + 1 ∧ ∃ vs o, s.ctx.services.lookup vsID = some vs ∧
      vs.backends.lookup rsID = none ∧ o.compareStoreOptions opts = true ∧ s'.ctx.services =
        s.ctx.services.insert vsID { vs with backends := vs.backends.insert rsID ⟨o, s.next, .zero⟩ } := by
  obtain ⟨-, ⟨he, hk, -⟩ | ⟨⟨e, he, -⟩, hk, -⟩ |
      ⟨rfl, vs, o₁, o, -, t, hvs, hrs, h₁, -, -, ⟨n, -, -, h₂⟩, -, -, rfl⟩⟩ := createBackend_cases h
  · exact .inl ⟨he, by rw [hk.ctx], hk.next⟩
  · exact .inl ⟨⟨e, he⟩, by rw [hk.ctx], hk.next⟩
  · obtain ⟨_, -, rfl⟩ := BackendOptions.validate_ok h₁
    obtain ⟨_, -, rfl⟩ := BackendOptions.validate_ok h₂
    exact .inr ⟨rfl, rfl, vs, _, hvs, hrs, by simp [BackendOptions.compareStoreOptions], rfl⟩

/-- A `removeBackend` leaves the next handle, and leaves the services or erases the backend from a
running service. -/
theorem removeBackend_services {r : Except Err BackendOptions}
    (h : (removeBackend env vsID rsID).exec s = (r, s')) :
    s'.next = s.next ∧ ((∃ e, r = .error e) ∧ s'.ctx.services = s.ctx.services ∨
    (∃ o, r = .ok o) ∧ ∃ vs, s.ctx.services.lookup vsID = some vs ∧
      s'.ctx.services = s.ctx.services.insert vsID { vs with backends := vs.backends.erase rsID }) := by
  obtain ⟨he, rfl⟩ | ⟨vs, rs, hvs, -, ⟨-, he, rfl⟩ | ⟨-, he, rfl⟩⟩ := removeBackend_cases h
  · exact ⟨rfl, .inl ⟨he, rfl⟩⟩
  · exact ⟨rfl, .inl ⟨⟨_, he⟩, rfl⟩⟩
  · exact ⟨rfl, .inr ⟨⟨_, he⟩, vs, hvs, rfl⟩⟩

/-- A `removeService` leaves the next handle, and leaves the services or erases the service. -/
theorem removeService_services {r : Except Err ServiceOptions}
    (h : (removeService env vsID).exec s = (r, s')) :
    s'.next = s.next ∧ ((∃ e, r = .error e) ∧ s'.ctx.services = s.ctx.services ∨
    (∃ o, r = .ok o) ∧ s'.ctx.services = s.ctx.services.erase vsID) := by
  obtain ⟨he, rfl⟩ | ⟨vs, -, ⟨-, he, rfl⟩ | ⟨-, he, rfl⟩⟩ := removeService_cases h
  · exact ⟨rfl, .inl ⟨he, rfl⟩⟩
  · exact ⟨by simp, .inl ⟨⟨_, he⟩, by simp⟩⟩
  · exact ⟨by simp, .inr ⟨⟨_, he⟩, by simp⟩⟩

/-- A `registerService` fails and leaves the services and the next handle, or adds the service, which
was not running, with no backend and the next handle as its object; its options agree with those
of `cfg` when these are in normal form. -/
theorem registerService_services {cfg : ServiceConfig} {r : Except Err Unit}
    (h : (registerService env vsID cfg).exec s = (r, s')) :
    (∃ e, r = .error e) ∧ s'.ctx.services = s.ctx.services ∧ s'.next = s.next ∨
    r = .ok () ∧ s'.next = s.next + 1 ∧ s.ctx.services.lookup vsID = none ∧ ∃ o,
      (cfg.ServiceOptions.Normal → o.compareStoreOptions cfg.ServiceOptions = true) ∧
      s'.ctx.services = s.ctx.services.insert vsID
        { vsID := vsID, options := o, svc := serviceSvc o, backends := ∅, ref := s.next } := by
  obtain ⟨-, -, -, -, ⟨he, hctx, hnext, -⟩ | ⟨rfl, o, o', t, hval, hvs, ho', -, -, -, -, -, -, rfl⟩⟩ :=
    registerService_cases h
  · exact .inl ⟨he, by rw [hctx], hnext⟩
  · refine .inr ⟨rfl, rfl, hvs, o', fun hn => ?_, rfl⟩
    have hcmp := ServiceOptions.compareStoreOptions_runValidate hn (by rw [hval])
    rw [hval] at hcmp
    rcases ho' with rfl | rfl <;> exact hcmp

/-- What a body of the loop over a service's backends that returns did: a backend missing from the
store's map was removed; otherwise it was replaced (its options differ from the map's) or left, and
erased from the map. -/
theorem syncBackend_cases {backend : Backend} {sbs sbs' : StrMap BackendOptions}
    (h : (syncBackend env vsID rsID backend sbs).exec s = (.ok sbs', s')) :
    (sbs.lookup rsID = none ∧ sbs' = sbs ∧
      ∃ o, (removeBackend env vsID rsID).exec s = (.ok o, s')) ∨
    ∃ o, sbs.lookup rsID = some o ∧ sbs' = sbs.erase rsID ∧
      ((backend.options.compareStoreOptions o = false ∧ ∃ o' t,
          (removeBackend env vsID rsID).exec s = (.ok o', t) ∧
          (createBackend env vsID rsID o).exec t = (.ok (), s')) ∨
        backend.options.compareStoreOptions o = true ∧ s' = s) := by
  unfold syncBackend at h
  split at h
  · next hrs =>
    simp only [exec_bind, exec_discard] at h
    rcases hr : (removeBackend env vsID rsID).exec s with ⟨_ | o, t⟩ <;> simp only [hr] at h
    · cases h
    simp only [exec_pure, Prod.mk.injEq, Except.ok.injEq] at h
    obtain ⟨rfl, rfl⟩ := h
    exact .inl ⟨hrs, rfl, o, rfl⟩
  · next o ho =>
    split at h
    · next hcmp =>
      simp only [exec_bind, exec_discard] at h
      rcases hr : (removeBackend env vsID rsID).exec s with ⟨_ | o', t⟩ <;> simp only [hr] at h
      · cases h
      rcases hc : (createBackend env vsID rsID o).exec t with ⟨_ | _, t'⟩ <;> simp only [hc] at h
      · cases h
      simp only [exec_pure, Prod.mk.injEq, Except.ok.injEq] at h
      obtain ⟨rfl, rfl⟩ := h
      exact .inr ⟨o, ho, rfl, .inl ⟨by simpa using hcmp, o', t, rfl, hc⟩⟩
    · next hcmp =>
      simp only [exec_pure, Prod.mk.injEq, Except.ok.injEq] at h
      obtain ⟨rfl, rfl⟩ := h
      exact .inr ⟨o, ho, rfl, .inr ⟨by simpa using hcmp, rfl⟩⟩

/-- What a body of `Synchronize`'s loop that returns did: a service missing from the store's map was
removed; otherwise it was replaced (its options differ from the map's) or left, its backends were
ranged over, and the backends of the map left over were created. -/
theorem syncService_cases {order : SyncOrder} {vs : Service} {acc acc' : StrMap ServiceConfig}
    (h : (syncService env order vsID vs acc).exec s = (.ok acc', s')) :
    (acc.lookup vsID = none ∧ acc' = acc ∧ ∃ o, (removeService env vsID).exec s = (.ok o, s')) ∨
    ∃ cfg s₂ sbs s₃, acc.lookup vsID = some cfg ∧ acc' = acc.erase vsID ∧
      ((vs.options.compareStoreOptions cfg.ServiceOptions = false ∧ ∃ o s₁,
          (removeService env vsID).exec s = (.ok o, s₁) ∧
          (createService env vsID cfg).exec s₁ = (.ok (), s₂)) ∨
        vs.options.compareStoreOptions cfg.ServiceOptions = true ∧ s₂ = s) ∧
      (goRange (backendKeys vsID vs.ref) (liveBackend vsID vs.ref) (syncBackend env vsID)
        (order.backends vsID) cfg.ServiceBackends).exec s₂ = (.ok sbs, s₃) ∧
      (sbs.entries.forM fun e => createBackend env vsID e.1 e.2).exec s₃ = (.ok (), s') := by
  unfold syncService at h
  split at h
  · next hacc =>
    simp only [exec_bind, exec_discard] at h
    rcases hr : (removeService env vsID).exec s with ⟨_ | o, t⟩ <;> simp only [hr] at h
    · cases h
    simp only [exec_pure, Prod.mk.injEq, Except.ok.injEq] at h
    obtain ⟨rfl, rfl⟩ := h
    exact .inl ⟨hacc, rfl, o, rfl⟩
  · next cfg hacc =>
    have htail : ∀ s₂, (goRange (backendKeys vsID vs.ref) (liveBackend vsID vs.ref)
          (syncBackend env vsID) (order.backends vsID) cfg.ServiceBackends >>= fun sbs =>
            sbs.entries.forM (fun e => createBackend env vsID e.1 e.2) >>= fun _ =>
              (pure (acc.erase vsID) : CtxM _)).exec s₂ = (.ok acc', s') →
        acc' = acc.erase vsID ∧ ∃ sbs s₃, (goRange (backendKeys vsID vs.ref)
          (liveBackend vsID vs.ref) (syncBackend env vsID) (order.backends vsID)
            cfg.ServiceBackends).exec s₂ = (.ok sbs, s₃) ∧
          (sbs.entries.forM fun e => createBackend env vsID e.1 e.2).exec s₃ = (.ok (), s') := by
      intro s₂ h
      rw [exec_bind] at h
      rcases hg : (goRange (backendKeys vsID vs.ref) (liveBackend vsID vs.ref)
        (syncBackend env vsID) (order.backends vsID) cfg.ServiceBackends).exec s₂ with
        ⟨_ | sbs, s₃⟩ <;> rw [hg] at h
      · cases h
      simp only [exec_bind] at h
      rcases hf : (sbs.entries.forM fun e => createBackend env vsID e.1 e.2).exec s₃ with
        ⟨_ | _, s₄⟩ <;> simp only [hf] at h
      · cases h
      simp only [exec_pure, Prod.mk.injEq, Except.ok.injEq] at h
      obtain ⟨rfl, rfl⟩ := h
      exact ⟨rfl, sbs, s₃, rfl, hf⟩
    split at h
    · next hcmp =>
      simp only [exec_bind, exec_discard] at h
      rcases hr : (removeService env vsID).exec s with ⟨_ | o, s₁⟩ <;> simp only [hr] at h
      · cases h
      rcases hc : (createService env vsID cfg).exec s₁ with ⟨_ | _, s₂⟩ <;> simp only [hc] at h
      · cases h
      obtain ⟨rfl, sbs, s₃, hg, hf⟩ := htail s₂ (by simpa only [exec_bind] using h)
      exact .inr ⟨cfg, s₂, sbs, s₃, hacc, rfl,
        .inl ⟨by simpa using hcmp, o, s₁, rfl, hc⟩, hg, hf⟩
    · next hcmp =>
      simp only [exec_bind, exec_pure] at h
      obtain ⟨rfl, sbs, s₃, hg, hf⟩ := htail s (by simpa only [exec_bind] using h)
      exact .inr ⟨cfg, s, sbs, s₃, hacc, rfl, .inr ⟨by simpa using hcmp, rfl⟩, hg, hf⟩

end Services

section Every

variable {env : Env} {P : String → Service → Prop} {s s' : Machine} {vsID rsID : String}

/-- Every running service satisfies `P`. -/
def EveryService (P : String → Service → Prop) (s : Machine) : Prop :=
  ∀ k vs, s.ctx.services.lookup k = some vs → P k vs

theorem EveryService.of_eq (h : EveryService P s) (hs : s'.ctx.services = s.ctx.services) :
    EveryService P s' := fun k vs hk => h k vs (hs ▸ hk)

theorem EveryService.insert {vs : Service} (h : EveryService P s) (hP : P vsID vs)
    (hs : s'.ctx.services = s.ctx.services.insert vsID vs) : EveryService P s' := by
  intro k vs' hk
  rw [hs] at hk
  by_cases hkv : k = vsID
  · subst hkv
    rw [AList.lookup_insert, Option.some.injEq] at hk
    exact hk ▸ hP
  · exact h k vs' (by rwa [AList.lookup_insert_ne hkv] at hk)

theorem keeps_every_createBackend (opts : BackendOptions)
    (hP : ∀ vs (b : Backend), b.options.compareStoreOptions opts = true → P vsID vs →
      P vsID { vs with backends := vs.backends.insert rsID b }) :
    Keeps (EveryService P) (createBackend env vsID rsID opts) fun _ => True :=
  Keeps.of_cases fun s _ _ h hs => by
    rcases createBackend_services h with ⟨-, hk, -⟩ | ⟨-, -, vs, o, hvs, -, ho, hk⟩
    · exact hs.of_eq hk
    · exact hs.insert (hP vs _ ho (hs vsID vs hvs)) hk

theorem keeps_every_removeBackend
    (hP : ∀ vs, P vsID vs → P vsID { vs with backends := vs.backends.erase rsID }) :
    Keeps (EveryService P) (removeBackend env vsID rsID) fun _ => True :=
  Keeps.of_cases fun s _ _ h hs => by
    rcases (removeBackend_services h).2 with ⟨-, hk⟩ | ⟨-, vs, hvs, hk⟩
    · exact hs.of_eq hk
    · exact hs.insert (hP vs (hs vsID vs hvs)) hk

theorem keeps_every_registerService (cfg : ServiceConfig)
    (hP : ∀ o n, (cfg.ServiceOptions.Normal → o.compareStoreOptions cfg.ServiceOptions = true) →
      P vsID { vsID := vsID, options := o, svc := serviceSvc o, backends := ∅, ref := n }) :
    Keeps (EveryService P) (registerService env vsID cfg) fun _ => True :=
  Keeps.of_cases fun s _ _ h hs => by
    rcases registerService_services h with ⟨-, hk, -⟩ | ⟨-, -, -, o, ho, hk⟩
    · exact hs.of_eq hk
    · exact hs.insert (hP o _ ho) hk

end Every

section Frame

variable {env : Env} {k : String} {s₀ s s' : Machine}

/-- The services other than `k` are those of `s₀`. -/
def OthersAs (k : String) (s₀ s : Machine) : Prop :=
  ∀ j, j ≠ k → s.ctx.services.lookup j = s₀.ctx.services.lookup j

theorem OthersAs.of_services (h : OthersAs k s₀ s)
    (hs : s'.ctx.services = s.ctx.services ∨ (∃ vs, s'.ctx.services = s.ctx.services.insert k vs) ∨
      s'.ctx.services = s.ctx.services.erase k) : OthersAs k s₀ s' := by
  intro j hj
  rcases hs with hs | ⟨vs, hs⟩ | hs <;> rw [hs, ← h j hj]
  · exact AList.lookup_insert_ne hj
  · exact AList.lookup_erase_ne hj

theorem keeps_others_createBackend (rsID : String) (opts : BackendOptions) :
    Keeps (OthersAs k s₀) (createBackend env k rsID opts) fun _ => True :=
  Keeps.of_cases fun _ _ _ h hs => hs.of_services <| by
    rcases createBackend_services h with ⟨-, hk, -⟩ | ⟨-, -, vs, o, -, -, -, hk⟩
    · exact .inl hk
    · exact .inr (.inl ⟨_, hk⟩)

theorem keeps_others_removeBackend (rsID : String) :
    Keeps (OthersAs k s₀) (removeBackend env k rsID) fun _ => True :=
  Keeps.of_cases fun _ _ _ h hs => hs.of_services <| by
    rcases (removeBackend_services h).2 with ⟨-, hk⟩ | ⟨-, vs, -, hk⟩
    · exact .inl hk
    · exact .inr (.inl ⟨_, hk⟩)

theorem keeps_others_removeService : Keeps (OthersAs k s₀) (removeService env k) fun _ => True :=
  Keeps.of_cases fun _ _ _ h hs => hs.of_services <| by
    rcases (removeService_services h).2 with ⟨-, hk⟩ | ⟨-, hk⟩
    · exact .inl hk
    · exact .inr (.inr hk)

theorem keeps_others_registerService (cfg : ServiceConfig) :
    Keeps (OthersAs k s₀) (registerService env k cfg) fun _ => True :=
  Keeps.of_cases fun _ _ _ h hs => hs.of_services <| by
    rcases registerService_services h with ⟨-, hk, -⟩ | ⟨-, -, -, o, -, hk⟩
    · exact .inl hk
    · exact .inr (.inl ⟨_, hk⟩)

variable (env) in
/-- A body of `Synchronize`'s loop changes no service but its own. -/
theorem syncService_othersAs (order : SyncOrder) (k : String) (service : Service)
    (d : StrMap ServiceConfig) (s : Machine) :
    OthersAs k s ((syncService env order k service d).exec s).2 :=
  (@keeps_syncService env (OthersAs k s) k (fun _ _ => True) (fun _ => True)
    (fun rsID opts _ => keeps_others_createBackend rsID opts) keeps_others_removeBackend
    keeps_others_removeService (fun cfg _ => keeps_others_registerService cfg)
    (fun _ _ _ _ => trivial) order service d (fun _ _ => True) (fun _ _ => trivial)
    (fun _ _ => trivial) s fun _ _ => rfl).1

theorem keepsOthers_syncService (order : SyncOrder) :
    KeepsOthers liveService (syncService env order) := by
  intro s k n v acc acc' s' _ h j hj
  have := syncService_othersAs env order k v acc s j hj
  rw [h] at this
  simp only [liveService, this]

variable (env) in
/-- A `createService` changes no service but its own. -/
theorem createService_othersAs (k : String) (cfg : ServiceConfig) (s : Machine) :
    OthersAs k s ((createService env k cfg).exec s).2 :=
  (@keeps_createService env (OthersAs k s) k (fun _ _ => True) (fun _ => True)
    (fun rsID opts _ => keeps_others_createBackend rsID opts)
    (fun cfg _ => keeps_others_registerService cfg) (fun _ _ _ _ => trivial) cfg trivial s
    fun _ _ => rfl).1

end Frame

section Backends

variable {env : Env} {k rsID : String} {s s' : Machine}

/-- The entries of the backends of the service `k` other than `rsID` are those of `s₀`. -/
def OnlyBackend (k rsID : String) (s₀ s : Machine) : Prop :=
  ∀ ref j, j ≠ rsID → liveBackend k ref s j = liveBackend k ref s₀ j

theorem OnlyBackend.of_services {s₀ : Machine} (h : OnlyBackend k rsID s₀ s)
    (hs : s'.ctx.services = s.ctx.services ∨ ∃ vs bs, s.ctx.services.lookup k = some vs ∧
      s'.ctx.services = s.ctx.services.insert k { vs with backends := bs } ∧
      ∀ j, j ≠ rsID → bs.lookup j = vs.backends.lookup j) : OnlyBackend k rsID s₀ s' := by
  intro ref j hj
  rw [← h ref j hj]
  rcases hs with hs | ⟨vs, bs, hvs, hs, hbs⟩
  · simp only [liveBackend, hs]
  · simp only [liveBackend, hs, hvs, AList.lookup_insert, hbs j hj]

theorem keeps_onlyBackend_createBackend {s₀ : Machine} (opts : BackendOptions) :
    Keeps (OnlyBackend k rsID s₀) (createBackend env k rsID opts) fun _ => True :=
  Keeps.of_cases fun _ _ _ h hs => hs.of_services <| by
    rcases createBackend_services h with ⟨-, hk, -⟩ | ⟨-, -, vs, o, hvs, -, -, hk⟩
    · exact .inl hk
    · exact .inr ⟨vs, _, hvs, hk, fun j hj => AList.lookup_insert_ne hj⟩

theorem keeps_onlyBackend_removeBackend {s₀ : Machine} :
    Keeps (OnlyBackend k rsID s₀) (removeBackend env k rsID) fun _ => True :=
  Keeps.of_cases fun _ _ _ h hs => hs.of_services <| by
    rcases (removeBackend_services h).2 with ⟨-, hk⟩ | ⟨-, vs, hvs, hk⟩
    · exact .inl hk
    · exact .inr ⟨vs, _, hvs, hk, fun j hj => AList.lookup_erase_ne hj⟩

/-- `syncBackend` runs only the two mutators of its own backend. -/
theorem keeps_syncBackend_of {I : Machine → Prop}
    (hcb : ∀ opts, Keeps I (createBackend env k rsID opts) fun _ => True)
    (hrb : Keeps I (removeBackend env k rsID) fun _ => True) (backend : Backend)
    (sbs : StrMap BackendOptions) : Keeps I (syncBackend env k rsID backend sbs) fun _ => True := by
  unfold syncBackend
  split
  · exact hrb.discard.bind fun _ _ => keeps_pure_true
  · split
    · exact hrb.discard.bind fun _ _ => (hcb _).bind fun _ _ => keeps_pure_true
    · exact keeps_pure_true.bind fun _ _ => keeps_pure_true

theorem keepsOthers_syncBackend (ref : Nat) :
    KeepsOthers (liveBackend k ref) (syncBackend env k) := by
  intro s rsID n v acc acc' s' _ h j hj
  have := (@keeps_syncBackend_of env k rsID (OnlyBackend k rsID s)
    keeps_onlyBackend_createBackend keeps_onlyBackend_removeBackend v acc s fun _ _ _ => rfl).1
  rw [h] at this
  exact this ref j hj

end Backends

section Refs

variable {env : Env} {k rsID : String} {s s' : Machine}

/-- The service `k` runs as the object `r`, with the options `o`. -/
def RefAt (k : String) (r : Nat) (o : ServiceOptions) (t : Machine) : Prop :=
  ∃ vs, t.ctx.services.lookup k = some vs ∧ vs.ref = r ∧ vs.options = o

theorem RefAt.of_services {r : Nat} {o : ServiceOptions} (h : RefAt k r o s)
    (hs : s'.ctx.services = s.ctx.services ∨ ∃ vsID vs bs, s.ctx.services.lookup vsID = some vs ∧
      s'.ctx.services = s.ctx.services.insert vsID { vs with backends := bs }) :
    RefAt k r o s' := by
  obtain ⟨vk, hvk, rfl, rfl⟩ := h
  rcases hs with hs | ⟨vsID, vs, bs, hvs, hs⟩
  · exact ⟨vk, hs ▸ hvk, rfl, rfl⟩
  · by_cases hk : k = vsID
    · subst hk
      rw [hvk, Option.some.injEq] at hvs
      subst hvs
      exact ⟨{ vk with backends := bs }, by rw [hs, AList.lookup_insert], rfl, rfl⟩
    · exact ⟨vk, by rw [hs, AList.lookup_insert_ne hk, hvk], rfl, rfl⟩

theorem keeps_refAt_createBackend {r : Nat} {o : ServiceOptions} {vsID : String}
    (opts : BackendOptions) : Keeps (RefAt k r o) (createBackend env vsID rsID opts) fun _ => True :=
  Keeps.of_cases fun _ _ _ h hs => hs.of_services <| by
    rcases createBackend_services h with ⟨-, hk, -⟩ | ⟨-, -, vs, _, hvs, -, -, hk⟩
    · exact .inl hk
    · exact .inr ⟨_, vs, _, hvs, hk⟩

theorem keeps_refAt_removeBackend {r : Nat} {o : ServiceOptions} {vsID : String} :
    Keeps (RefAt k r o) (removeBackend env vsID rsID) fun _ => True :=
  Keeps.of_cases fun _ _ _ h hs => hs.of_services <| by
    rcases (removeBackend_services h).2 with ⟨-, hk⟩ | ⟨-, vs, hvs, hk⟩
    · exact .inl hk
    · exact .inr ⟨_, vs, _, hvs, hk⟩

end Refs

section Next

variable {env : Env} {N : Nat} {vsID rsID : String}


theorem keeps_next_createBackend (opts : BackendOptions) :
    Keeps (fun t => N ≤ t.next) (createBackend env vsID rsID opts) fun _ => True :=
  Keeps.of_cases fun _ _ _ h (hs : N ≤ _) => by
    rcases createBackend_services h with ⟨-, -, hn⟩ | ⟨-, hn, -⟩ <;> (show N ≤ _; omega)

theorem keeps_next_removeBackend :
    Keeps (fun t => N ≤ t.next) (removeBackend env vsID rsID) fun _ => True :=
  Keeps.of_cases fun _ _ _ h (hs : N ≤ _) => by
    have := (removeBackend_services h).1
    show N ≤ _
    omega

theorem keeps_next_removeService :
    Keeps (fun t => N ≤ t.next) (removeService env vsID) fun _ => True :=
  Keeps.of_cases fun _ _ _ h (hs : N ≤ _) => by
    have := (removeService_services h).1
    show N ≤ _
    omega

theorem keeps_next_registerService (cfg : ServiceConfig) :
    Keeps (fun t => N ≤ t.next) (registerService env vsID cfg) fun _ => True :=
  Keeps.of_cases fun _ _ _ h (hs : N ≤ _) => by
    rcases registerService_services h with ⟨-, -, hn⟩ | ⟨-, hn, -⟩ <;> (show N ≤ _; omega)

variable (env) in
/-- A body of `Synchronize`'s loop never hands out a handle twice: the next handle only grows. -/
theorem syncService_next (order : SyncOrder) (k : String) (service : Service)
    (d : StrMap ServiceConfig) (s : Machine) :
    s.next ≤ ((syncService env order k service d).exec s).2.next :=
  (@keeps_syncService env (fun t => s.next ≤ t.next) k (fun _ _ => True) (fun _ => True)
    (fun _ opts _ => keeps_next_createBackend opts) (fun _ => keeps_next_removeBackend)
    keeps_next_removeService (fun cfg _ => keeps_next_registerService cfg)
    (fun _ _ _ _ => trivial) order service d (fun _ _ => True) (fun _ _ => trivial)
    (fun _ _ => trivial) s le_rfl).1

end Next

section Fresh

variable {env : Env} {s s' : Machine}

/-- Every handle in use, of a service object or of a probe, is below the next fresh one. -/
def Fresh (s : Machine) : Prop :=
  ∀ k vs, s.ctx.services.lookup k = some vs →
    vs.ref < s.next ∧ ∀ rsID rs, vs.backends.lookup rsID = some rs → rs.monitor < s.next

theorem Fresh.mono (h : Fresh s) (hs : s'.ctx.services = s.ctx.services) (hn : s.next ≤ s'.next) :
    Fresh s' := fun k vs hk => by
  obtain ⟨h₁, h₂⟩ := h k vs (hs ▸ hk)
  exact ⟨by omega, fun rsID rs h => by have := h₂ rsID rs h; omega⟩

theorem Fresh.insert {k : String} {vs : Service} (h : Fresh s)
    (hvs : vs.ref < s'.next ∧ ∀ rsID rs, vs.backends.lookup rsID = some rs → rs.monitor < s'.next)
    (hs : s'.ctx.services = s.ctx.services.insert k vs) (hn : s.next ≤ s'.next) : Fresh s' := by
  intro j vs' hj
  rw [hs] at hj
  by_cases hjk : j = k
  · subst hjk
    rw [AList.lookup_insert, Option.some.injEq] at hj
    exact hj ▸ hvs
  · rw [AList.lookup_insert_ne hjk] at hj
    obtain ⟨h₁, h₂⟩ := h j vs' hj
    exact ⟨by omega, fun rsID rs h => by have := h₂ rsID rs h; omega⟩

theorem Fresh.erase {k : String} (h : Fresh s) (hs : s'.ctx.services = s.ctx.services.erase k)
    (hn : s.next ≤ s'.next) : Fresh s' := fun j vs hj => by
  obtain ⟨h₁, h₂⟩ := h j vs (lookup_of_lookup_erase (hs ▸ hj))
  exact ⟨by omega, fun rsID rs h => by have := h₂ rsID rs h; omega⟩

/-- The object of `k` with the backend `rsID` replaced by one with the same probe. -/
theorem Fresh.setBackend {k rsID : String} {vs : Service} {rs b : Backend} (h : Fresh s)
    (hvs : s.ctx.services.lookup k = some vs) (hrs : vs.backends.lookup rsID = some rs)
    (hb : b.monitor = rs.monitor) :
    Fresh (s.setService k { vs with backends := vs.backends.insert rsID b }) := by
  obtain ⟨h₁, h₂⟩ := h k vs hvs
  refine @Fresh.insert s _ k { vs with backends := vs.backends.insert rsID b } h
    ⟨h₁, fun j b' hj => ?_⟩ rfl le_rfl
  by_cases hj' : j = rsID
  · subst hj'
    rw [AList.lookup_insert, Option.some.injEq] at hj
    exact hj ▸ hb ▸ h₂ j rs hrs
  · exact h₂ j b' (by rwa [AList.lookup_insert_ne hj'] at hj)

theorem keeps_fresh_createBackend {vsID rsID : String} (opts : BackendOptions) :
    Keeps Fresh (createBackend env vsID rsID opts) fun _ => True :=
  Keeps.of_cases fun s _ s' h hs => by
    rcases createBackend_services h with ⟨-, hk, hn⟩ | ⟨-, hn, vs, o, hvs, -, -, hk⟩
    · exact hs.mono hk hn.ge
    obtain ⟨h₁, h₂⟩ := hs _ vs hvs
    refine @Fresh.insert s s' vsID { vs with backends := vs.backends.insert rsID ⟨o, s.next, .zero⟩ }
      hs ⟨by show vs.ref < s'.next; omega, fun j b hj => ?_⟩ hk (by omega)
    by_cases hj' : j = rsID
    · subst hj'
      rw [AList.lookup_insert, Option.some.injEq] at hj
      rw [← hj]
      show s.next < s'.next
      omega
    · have := h₂ j b (by rwa [AList.lookup_insert_ne hj'] at hj)
      omega

theorem keeps_fresh_removeBackend {vsID rsID : String} :
    Keeps Fresh (removeBackend env vsID rsID) fun _ => True :=
  Keeps.of_cases fun s _ s' h hs => by
    obtain ⟨hn, ⟨-, hk⟩ | ⟨-, vs, hvs, hk⟩⟩ := removeBackend_services h
    · exact hs.mono hk hn.ge
    obtain ⟨h₁, h₂⟩ := hs _ vs hvs
    exact @Fresh.insert s s' vsID { vs with backends := vs.backends.erase rsID } hs
      ⟨by show vs.ref < s'.next; omega, fun j b hj => by
        have := h₂ j b (lookup_of_lookup_erase hj)
        omega⟩ hk hn.ge

theorem keeps_fresh_removeService {vsID : String} :
    Keeps Fresh (removeService env vsID) fun _ => True :=
  Keeps.of_cases fun _ _ _ h hs => by
    obtain ⟨hn, ⟨-, hk⟩ | ⟨-, hk⟩⟩ := removeService_services h
    · exact hs.mono hk hn.ge
    · exact hs.erase hk hn.ge

theorem keeps_fresh_registerService {vsID : String} (cfg : ServiceConfig) :
    Keeps Fresh (registerService env vsID cfg) fun _ => True :=
  Keeps.of_cases fun _ _ _ h hs => by
    rcases registerService_services h with ⟨-, hk, hn⟩ | ⟨-, hn, -, o, -, hk⟩
    · exact hs.mono hk hn.ge
    · exact hs.insert ⟨by dsimp only; omega, fun j b hj => absurd hj (by simp)⟩ hk (by omega)

theorem fresh_of_updateBackend {vsID rsID : String} {w : Int} {r : Except Err Int}
    (h : (updateBackend env vsID rsID w).exec s = (r, s')) (hs : Fresh s) : Fresh s' := by
  obtain ⟨-, rfl⟩ | ⟨vs, rs, hvs, hrs, ⟨-, -, rfl⟩ | ⟨-, -, rfl⟩⟩ := updateBackend_cases h
  · exact hs
  · exact hs.mono rfl le_rfl
  · exact Fresh.setBackend (hs.mono rfl le_rfl) hvs hrs rfl

/-- A machine with only the notification loop's stash or phase changed is as fresh. -/
theorem Fresh.loop (hs : Fresh s) (stash : AList fun _ : PulseID => Int) (phase : Phase) :
    Fresh { s with stash := stash, phase := phase } :=
  hs.mono rfl le_rfl

theorem Fresh.step (hs : Fresh s) (a : Action) : Fresh (a.step env s) := by
  have hcb := fun vsID rsID opts (_ : True) => @keeps_fresh_createBackend env vsID rsID opts
  have hrb := fun vsID rsID => @keeps_fresh_removeBackend env vsID rsID
  have hrs := fun vsID => @keeps_fresh_removeService env vsID
  have hreg := fun vsID cfg (_ : True) => @keeps_fresh_registerService env vsID cfg
  have hPS : ∀ (vsID : String) (cfg : ServiceConfig), True →
      ∀ e ∈ cfg.ServiceBackends.entries, True := fun _ _ _ _ _ => trivial
  cases a with
  | createService vsID cfg =>
    exact (keeps_createService (hcb vsID) (hreg vsID) (hPS vsID) trivial s hs).1
  | createBackend vsID rsID opts => exact (keeps_fresh_createBackend opts s hs).1
  | removeService vsID => exact ((hrs vsID).discard s hs).1
  | removeBackend vsID rsID => exact ((hrb vsID rsID).discard s hs).1
  | synchronize order d =>
    exact (keeps_synchronize hPS hcb hrb hrs hreg (fun _ _ => trivial) s hs).1
  | close order => exact (keeps_close hrs s hs).1
  | deliver u =>
    rcases hr : (pulseCheck u).exec s with ⟨r, s'⟩
    show Fresh ((pulseCheck u).exec s).2
    rw [hr]
    obtain rfl | ⟨vs, rs, hvs, hrs, -, rfl⟩ := pulseCheck_cases hr
    · exact hs.loop _ _
    · exact (Fresh.setBackend (b := { rs with metrics := u.Metrics }) hs hvs hrs rfl).loop _ _
  | pulse =>
    show Fresh ((pulseStep env s.phase).exec s).2
    rcases hr : (pulseStep env s.phase).exec s with ⟨r, s'⟩
    cases hp : s.phase with
    | idle =>
      rw [hp] at hr
      cases hr
      exact hs
    | up u =>
      rw [hp] at hr
      rcases pulseUp_cases hr with ⟨-, rfl⟩ | ⟨_, _, t, -, hu, rfl | ⟨-, -, rfl⟩⟩
      · exact hs.loop _ _
      · exact fresh_of_updateBackend hu (hs.loop _ _)
      · exact (fresh_of_updateBackend hu (hs.loop _ _)).loop _ _
    | down u =>
      rw [hp] at hr
      simp only [pulseStep, pulseDownWeight_exec, Prod.mk.injEq] at hr
      rw [← hr.2]
      exact hs.loop _ _
    | downWeighed u w =>
      rw [hp] at hr
      obtain ⟨_, t, hu, rfl | ⟨_, -, -, rfl⟩⟩ := pulseDownApply_cases hr
      · exact fresh_of_updateBackend hu (hs.loop _ _)
      · exact (fresh_of_updateBackend hu (hs.loop _ _)).loop _ _

theorem Reachable.fresh {s : Machine} (h : Reachable env s) : Fresh s :=
  ReachableWith.induct_on (fun _ _ _ _ _ h => by simp [Machine.init] at h)
    (fun s a hs _ _ => hs.step a) h

end Fresh

end Gorb
