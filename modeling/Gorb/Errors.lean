import Gorb.Weights

/-!
# What a failed mutator leaves behind

A mutator that returns an error has not always left the daemon as it found it: the Go code undoes
nothing. What it leaves as it was is read off its `_cases` lemma. The services of the Context
never change on an error. The IPVS table changes only when `createBackend` fails after its
`AddDestPort`, at the second validation of the options or at `pulse.New`. The VIP interface changes
only when `removeService` has deleted the VIP before its `DelService` fails, and when
`createService` has added it before the kernel refuses the service.

`createService` fails before inserting the service exactly when the part up to the insertion,
`registerService`, fails: once the service is in the map, no `createBackend` of its loop takes it
out (`createService_error_before_insert`).
-/

namespace Gorb

section Frames

variable {env : Env} {s : Machine}

theorem issue_ipvs_of_refused {maxWeight : Int} {c : IpvsCall} (h : env.ipvs s.clock = false) :
    (s.issue env maxWeight c).ipvs = s.ipvs := by
  simp [Machine.issue, h]

theorem afterDelVip_addrs (env : Env) (s : Machine) (vs : Service) :
    (s.afterDelVip env vs).addrs = s.addrs ∨ vs.options.delIfAddr = true ∧
      (s.afterDelVip env vs).addrs = s.addrs.erase (ipString vs.options.host) := by
  unfold Machine.afterDelVip
  split
  · next h =>
    simp only [Bool.and_eq_true] at h
    by_cases hok : env.netlink s.clock <;> simp [hok, h.2]
  · exact .inl rfl

theorem isSome_lookup_insert {β : Type} {m : StrMap β} {a : String}
    (h : (m.lookup a).isSome) (k : String) (v : β) : ((m.insert k v).lookup a).isSome := by
  by_cases hak : a = k
  · subst hak
    simp
  · rwa [AList.lookup_insert_ne hak]

/-- `createBackend` never takes a service out of the Context. -/
theorem keeps_lookup_createBackend (vsID vsID' rsID : String) (opts : BackendOptions) :
    Keeps (fun s => (s.ctx.services.lookup vsID).isSome) (createBackend env vsID' rsID opts)
      fun _ => True :=
  Keeps.of_cases fun s _ _ h hs => by
    obtain ⟨-, ⟨-, hk, -⟩ | ⟨-, hk, -⟩ | ⟨-, -, -, -, -, -, -, -, -, -, -, -, -, -, rfl⟩⟩ :=
      createBackend_cases h
    · rwa [hk.ctx]
    · rwa [hk.ctx]
    · exact isSome_lookup_insert hs _ _

end Frames

variable {env : Env} {s s' : Machine} {vsID : String} {e : Err}

/-- An error of `createService` that leaves the service's entry as it was is an error of the part
before the insertion. -/
theorem createService_error_before_insert {cfg : ServiceConfig}
    (h : (createService env vsID cfg).exec s = (.error e, s'))
    (hlookup : s'.ctx.services.lookup vsID = s.ctx.services.lookup vsID) :
    (registerService env vsID cfg).exec s = (.error e, s') := by
  simp only [createService, exec_bind] at h
  rcases hr : (registerService env vsID cfg).exec s with ⟨_ | _, s₁⟩
  · rwa [hr] at h
  rw [hr] at h
  obtain ⟨-, -, -, -, ⟨⟨_, ⟨⟩⟩, -⟩ | ⟨-, o, o', t, -, hvs, -, -, -, -, -, -, -, rfl⟩⟩ :=
    registerService_cases hr
  have hin : (Machine.ctx { t with
      ctx := (s.setService vsID
        { vsID := vsID, options := o', svc := serviceSvc o', backends := ∅, ref := s.next }).ctx,
      next := s.next + 1 } |>.services.lookup vsID).isSome := by
    simp
  have hkeep : Keeps (fun s => (s.ctx.services.lookup vsID).isSome)
      (cfg.ServiceBackends.entries.forM fun b => createBackend env vsID b.1 b.2) fun _ => True :=
    Keeps.forM fun b _ => keeps_lookup_createBackend vsID vsID b.1 b.2
  have hout := (hkeep _ hin).1
  simp only at h
  rw [h, hlookup, hvs] at hout
  cases hout

section Mutators

variable {rsID : String}

theorem createBackend_error {opts : BackendOptions}
    (h : (createBackend env vsID rsID opts).exec s = (.error e, s')) :
    s'.ctx = s.ctx ∧ s'.addrs = s.addrs ∧
      (s'.ipvs = s.ipvs ∨ (e = .pulse ∨ e = .resolve opts.Host) ∧
        ∃ vs o, s.ctx.services.lookup vsID = some vs ∧ opts.validate (env.dns s.clock) = .ok o ∧
          s'.ipvs = (createBackendCall vs o).apply s.ipvs) := by
  obtain ⟨-, ⟨-, hk, hipvs⟩ | ⟨⟨_, he, hfail⟩, hk, vs, o, hvs, hv, hipvs⟩ | ⟨hr, -⟩⟩ :=
    createBackend_cases h
  · exact ⟨hk.ctx, hk.addrs, .inl hipvs⟩
  · cases he
    exact ⟨hk.ctx, hk.addrs, .inr ⟨hfail, vs, o, hvs, hv, hipvs⟩⟩
  · cases hr

theorem updateBackend_error {weight : Int}
    (h : (updateBackend env vsID rsID weight).exec s = (.error e, s')) :
    s'.ctx = s.ctx ∧ s'.ipvs = s.ipvs ∧ s'.addrs = s.addrs := by
  obtain ⟨-, rfl⟩ | ⟨vs, rs, -, -, ⟨hok, -, rfl⟩ | ⟨-, hr, -⟩⟩ := updateBackend_cases h
  · exact ⟨rfl, rfl, rfl⟩
  · exact ⟨rfl, issue_ipvs_of_refused hok, rfl⟩
  · cases hr

theorem removeBackend_error (h : (removeBackend env vsID rsID).exec s = (.error e, s')) :
    s'.ctx = s.ctx ∧ s'.ipvs = s.ipvs ∧ s'.addrs = s.addrs := by
  obtain ⟨-, rfl⟩ | ⟨vs, rs, -, -, ⟨hok, -, rfl⟩ | ⟨-, hr, -⟩⟩ := removeBackend_cases h
  · exact ⟨rfl, rfl, rfl⟩
  · exact ⟨rfl, issue_ipvs_of_refused hok, rfl⟩
  · cases hr

theorem removeService_error (h : (removeService env vsID).exec s = (.error e, s')) :
    s'.ctx = s.ctx ∧ s'.ipvs = s.ipvs ∧ (s'.addrs = s.addrs ∨
      ∃ vs, s.ctx.services.lookup vsID = some vs ∧ vs.options.delIfAddr = true ∧
        s'.addrs = s.addrs.erase (ipString vs.options.host)) := by
  obtain ⟨-, rfl⟩ | ⟨vs, hvs, ⟨hok, -, rfl⟩ | ⟨-, hr, -⟩⟩ := removeService_cases h
  · exact ⟨rfl, rfl, .inl rfl⟩
  · refine ⟨by simp, (issue_ipvs_of_refused hok).trans afterDelVip_ipvs, ?_⟩
    rcases afterDelVip_addrs env s vs with ha | ⟨hd, ha⟩
    · exact .inl ha
    · exact .inr ⟨vs, hvs, hd, ha⟩
  · cases hr

theorem createService_error {cfg : ServiceConfig}
    (h : (createService env vsID cfg).exec s = (.error e, s'))
    (hlookup : s'.ctx.services.lookup vsID = s.ctx.services.lookup vsID) :
    s'.ctx = s.ctx ∧ s'.ipvs = s.ipvs ∧ (s'.addrs = s.addrs ∨ e = .ipvsSyscallFailed ∧
      (∃ i rest, s'.calls = i :: rest ∧ i.call.addsService = true) ∧ ∃ o,
        cfg.ServiceOptions.runValidate s.ctx.endpoint (env.dns s.clock) env.lower = (.ok (), o) ∧
        s.ctx.services.lookup vsID = none ∧ s'.addrs = s.addrs ++ [ipString o.host]) := by
  obtain ⟨-, -, -, -, ⟨-, hctx, -, hipvs, haddrs⟩ | ⟨hr, -⟩⟩ :=
    registerService_cases (createService_error_before_insert h hlookup)
  · exact ⟨hctx, hipvs, haddrs.imp id fun ⟨he, hrest⟩ => ⟨Except.error.inj he, hrest⟩⟩
  · cases hr

end Mutators

/-- What an error of each mutator leaves as it was: the Context always; the IPVS table unless
`createBackend` failed after its `AddDestPort`; the VIP interface unless `removeService` deleted
the VIP before `DelService` failed, or `createService` added it before the kernel refused the
`AddService` it logged last. A validation error or `ErrObjectExists` leaves the VIP interface as it
was. -/
theorem mutator_error_effects (env : Env) (s : Machine) :
    (∀ vsID rsID opts e s', (createBackend env vsID rsID opts).exec s = (.error e, s') →
      s'.ctx = s.ctx ∧ s'.addrs = s.addrs ∧
        (s'.ipvs = s.ipvs ∨ (e = .pulse ∨ e = .resolve opts.Host) ∧
          ∃ vs o, s.ctx.services.lookup vsID = some vs ∧
            opts.validate (env.dns s.clock) = .ok o ∧
            s'.ipvs = (createBackendCall vs o).apply s.ipvs)) ∧
    (∀ vsID rsID weight e s', (updateBackend env vsID rsID weight).exec s = (.error e, s') →
      s'.ctx = s.ctx ∧ s'.ipvs = s.ipvs ∧ s'.addrs = s.addrs) ∧
    (∀ vsID rsID e s', (removeBackend env vsID rsID).exec s = (.error e, s') →
      s'.ctx = s.ctx ∧ s'.ipvs = s.ipvs ∧ s'.addrs = s.addrs) ∧
    (∀ vsID e s', (removeService env vsID).exec s = (.error e, s') →
      s'.ctx = s.ctx ∧ s'.ipvs = s.ipvs ∧ (s'.addrs = s.addrs ∨
        ∃ vs, s.ctx.services.lookup vsID = some vs ∧ vs.options.delIfAddr = true ∧
          s'.addrs = s.addrs.erase (ipString vs.options.host))) ∧
    (∀ vsID cfg e s', (createService env vsID cfg).exec s = (.error e, s') →
      s'.ctx.services.lookup vsID = s.ctx.services.lookup vsID →
      s'.ctx = s.ctx ∧ s'.ipvs = s.ipvs ∧ (s'.addrs = s.addrs ∨ e = .ipvsSyscallFailed ∧
        (∃ i rest, s'.calls = i :: rest ∧ i.call.addsService = true) ∧ ∃ o,
          cfg.ServiceOptions.runValidate s.ctx.endpoint (env.dns s.clock) env.lower = (.ok (), o) ∧
          s.ctx.services.lookup vsID = none ∧ s'.addrs = s.addrs ++ [ipString o.host])) :=
  ⟨fun _ _ _ _ _ => createBackend_error, fun _ _ _ _ _ => updateBackend_error,
    fun _ _ _ _ => removeBackend_error, fun _ _ _ => removeService_error,
    fun _ _ _ _ => createService_error⟩

/-- `webEnv` with `pulse.New` refusing every probe. -/
def pulseRefused : Env :=
  { webEnv with pulseNew := fun _ _ _ => false }

/-- The daemon after `CreateService` of `web` against `pulseRefused`. -/
def webOnly : Machine :=
  (Action.createService "web" webService).step pulseRefused (Machine.init none none [])

/-- `CreateBackend` of `a` where `pulse.New` refuses the probe: the error leaves the Context and
the VIP interface as they were. -/
theorem refused_probe_keeps_context :
    ((createBackend pulseRefused "web" "a" webBackend).exec webOnly).2.ctx = webOnly.ctx ∧
      ((createBackend pulseRefused "web" "a" webBackend).exec webOnly).2.addrs = webOnly.addrs :=
  have h := (mutator_error_effects pulseRefused webOnly).1 "web" "a" webBackend .pulse _
    (Prod.ext rfl rfl)
  ⟨h.1, h.2.1⟩

/-- The same call fails with the error of `pulse.New`, and leaves the destination its
`AddDestPort` added in the kernel's table. -/
theorem refused_probe_leaves_destination :
    ((createBackend pulseRefused "web" "a" webBackend).exec webOnly).1 = .error .pulse ∧
      ((createBackend pulseRefused "web" "a" webBackend).exec webOnly).2.ipvs ≠ webOnly.ipvs :=
  ⟨rfl, by decide⟩

end Gorb
