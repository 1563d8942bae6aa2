import Gorb.Frames
import Gorb.Rounds
import Gorb.Monitors

/-!
# What a returning `Synchronize` leaves running, and what `Close` leaves

`Synchronize` ranges over the running services, brings each into line with the store's map and
erases it from the map, then creates what is left of the map. When it returns nil:

* every service running is one of the store's map, with only backends the map gives it
  (`synchronize_listed`), whatever order the runtime ranges over the maps in: a body of the loop
  leaves its service out of the Context or `Listed`, and the services created after the loop are
  the map's own;
* every service of the store's map runs, with every backend the map gives it
  (`synchronize_complete`), from any state the daemon can reach and over orders that produce each
  key once. The loop is then run at most once per key (`goRange_once`), so `SyncedFrom` only has to
  be kept by the first run of the body on each key. Over an order that produces a re-created entry
  again, a second run of the body can take out what the first one put in.

`Close` removes every service with an IPVS driver that accepts every call, and every probe stops
with them, since the probes running match the backends of the Context (`MonitorsMatch`).
-/

namespace Gorb

section Live

variable {s : Machine} {vsID : String}

theorem liveService_eq_some {e : Nat × Service} :
    liveService s vsID = some e ↔ ∃ vs, s.ctx.services.lookup vsID = some vs ∧ (vs.ref, vs) = e :=
  Option.map_eq_some'

theorem liveService_of_lookup {vs : Service} (h : s.ctx.services.lookup vsID = some vs) :
    liveService s vsID = some (vs.ref, vs) := by
  simp [liveService, h]

/-- Every live service is one of the keys `Synchronize` and `Close` range over. -/
theorem mem_keys_of_liveService (h : (liveService s vsID).isSome) :
    vsID ∈ s.ctx.services.keys := by
  simpa [liveService, AList.lookup_isSome, AList.mem_keys] using h

theorem liveBackend_eq_some {ref : Nat} {rsID : String} {e : Nat × Backend} :
    liveBackend vsID ref s rsID = some e ↔ ∃ vs, s.ctx.services.lookup vsID = some vs ∧
      vs.ref = ref ∧ ∃ rs, vs.backends.lookup rsID = some rs ∧ (rs.monitor, rs) = e := by
  unfold liveBackend
  split
  · next vs hvs => by_cases hr : vs.ref = ref <;> simp [hvs, hr]
  · simp [*]

end Live

section Backends

variable {env : Env} {k rsID : String} {s s' : Machine}

/-- A backend `syncBackend` leaves running is one of the store's map it was given, at the address
the map gives it. -/
theorem syncBackend_agrees {ref n : Nat} {backend : Backend} {sbs sbs' : StrMap BackendOptions}
    {e : Nat × Backend} (hlive : liveBackend k ref s rsID = some (n, backend))
    (h : (syncBackend env k rsID backend sbs).exec s = (.ok sbs', s'))
    (he : liveBackend k ref s' rsID = some e) :
    ∃ o, sbs.lookup rsID = some o ∧ e.2.options.compareStoreOptions o = true := by
  rcases syncBackend_cases h with ⟨-, -, o, hr⟩ | ⟨o, ho, -, ⟨-, o', t, -, hc⟩ | ⟨hcmp, rfl⟩⟩
  · rcases (removeBackend_services hr).2 with ⟨⟨_, ⟨⟩⟩, -⟩ | ⟨-, vs, hvs, hk⟩
    simp [liveBackend, hk] at he
  · rcases createBackend_services hc with ⟨⟨_, ⟨⟩⟩, -⟩ | ⟨-, -, vs, o'', -, -, hcmp, ht⟩
    obtain ⟨_, hvs, -, rs, hrs, rfl⟩ := liveBackend_eq_some.1 he
    rw [ht, AList.lookup_insert, Option.some.injEq] at hvs
    subst hvs
    rw [AList.lookup_insert, Option.some.injEq] at hrs
    subst hrs
    exact ⟨o, ho, hcmp⟩
  · rw [hlive, Option.some.injEq] at he
    exact ⟨o, ho, he ▸ hcmp⟩

/-- The service's options agree with `o` as `CompareWith` compares them, when `o` is in normal
form. -/
def OptionsAgree (o : ServiceOptions) (vs : Service) : Prop :=
  o.Normal → vs.options.compareStoreOptions o = true

/-- Each backend of the service is one of `c`, at the address `c` gives it. -/
def BackendsAgree (c : StrMap BackendOptions) (vs : Service) : Prop :=
  ∀ rsID rs, vs.backends.lookup rsID = some rs →
    ∃ o, c.lookup rsID = some o ∧ rs.options.compareStoreOptions o = true

section Agree

variable {c : StrMap BackendOptions} {vs : Service}

theorem BackendsAgree.mem (h : BackendsAgree c vs) (hin : rsID ∈ vs.backends) : rsID ∈ c := by
  obtain ⟨rs, hrs⟩ := Option.isSome_iff_exists.1 (AList.lookup_isSome.2 hin)
  obtain ⟨o, ho, -⟩ := h rsID rs hrs
  exact AList.lookup_isSome.1 (by simp [ho])

theorem BackendsAgree.insert (h : BackendsAgree c vs) {opts : BackendOptions} {b : Backend}
    (hin : c.lookup rsID = some opts) (hb : b.options.compareStoreOptions opts = true) :
    BackendsAgree c { vs with backends := vs.backends.insert rsID b } := by
  intro j rs hj
  by_cases hjr : j = rsID
  · subst hjr
    rw [AList.lookup_insert, Option.some.injEq] at hj
    exact ⟨opts, hin, hj ▸ hb⟩
  · rw [AList.lookup_insert_ne hjr] at hj
    exact h j rs hj

end Agree

/-- The service `k`, while it runs, agrees with the store's configuration `cfg` as `CompareWith`
compares them, but for the backends of `cfg` it lacks. -/
def AgreesAt (k : String) (cfg : ServiceConfig) : Machine → Prop :=
  EveryService fun j vs => j = k →
    OptionsAgree cfg.ServiceOptions vs ∧ BackendsAgree cfg.ServiceBackends vs

section At

variable {cfg : ServiceConfig}

theorem keeps_agreesAt_createBackend {vsID : String} {opts : BackendOptions}
    (hin : vsID = k → cfg.ServiceBackends.lookup rsID = some opts) :
    Keeps (AgreesAt k cfg) (createBackend env vsID rsID opts) fun _ => True :=
  keeps_every_createBackend opts fun _ _ hb h hk => ⟨(h hk).1, (h hk).2.insert (hin hk) hb⟩

theorem keeps_agreesAt_createService : Keeps (AgreesAt k cfg) (createService env k cfg) fun _ => True :=
  @keeps_createService env (AgreesAt k cfg) k (fun rsID o => cfg.ServiceBackends.lookup rsID = some o)
    (· = cfg) (fun _ _ hin => keeps_agreesAt_createBackend fun _ => hin)
    (fun cfg' hcfg' => by
      subst hcfg'
      exact keeps_every_registerService cfg' fun _ _ hcmp _ => ⟨hcmp, fun _ _ hj => by simp at hj⟩)
    (fun _ hcfg _ he => hcfg ▸ AList.mem_lookup_iff.2 he) cfg rfl

/-- The loop over the backends of the service object `ref` at `k`, started on the backends of the
store's configuration `cfg`, returns a part of them and leaves `k` agreeing with `cfg`, provided
the service at `k` agrees with `cfg` in its options, and in its backends too when it is not the
object `ref`. -/
theorem syncBackends_agree (order : List String) {ref : Nat} {sbs : StrMap BackendOptions}
    (h : (goRange (backendKeys k ref) (liveBackend k ref) (syncBackend env k) order
      cfg.ServiceBackends).exec s = (.ok sbs, s'))
    (hs : ∀ vs, s.ctx.services.lookup k = some vs →
      OptionsAgree cfg.ServiceOptions vs ∧ (vs.ref ≠ ref → BackendsAgree cfg.ServiceBackends vs)) :
    (∀ e ∈ sbs.entries, cfg.ServiceBackends.lookup e.1 = some e.2) ∧ AgreesAt k cfg s' := by
  have hc : ∀ e ∈ cfg.ServiceBackends.entries, cfg.ServiceBackends.lookup e.1 = some e.2 :=
    fun e he => AList.mem_lookup_iff.2 he
  by_cases hlive : ∃ vs, s.ctx.services.lookup k = some vs ∧ vs.ref = ref
  · obtain ⟨vs, hvs, rfl⟩ := hlive
    obtain ⟨hJ, hG⟩ := goRange_good (keepsOthers_syncBackend vs.ref)
      (J := fun sbs => ∀ e ∈ sbs.entries, cfg.ServiceBackends.lookup e.1 = some e.2)
      (G := fun rsID rs =>
        ∃ o, cfg.ServiceBackends.lookup rsID = some o ∧ rs.options.compareStoreOptions o = true)
      (fun t rsID n v acc acc' t' hv hJ hb => ⟨by
          have := (@keeps_syncBackend env (fun _ => True) k
            (fun rsID o => cfg.ServiceBackends.lookup rsID = some o)
            (fun _ _ _ => Keeps.of_exec fun _ _ => trivial) (fun _ => Keeps.of_exec fun _ _ => trivial)
            rsID v acc hJ t trivial).2 acc'
          rw [hb] at this
          exact this rfl,
        fun e he => by
          obtain ⟨o, ho, hcmp⟩ := syncBackend_agrees hv hb he
          exact ⟨o, hJ ⟨rsID, o⟩ (AList.mem_lookup_iff.1 ho), hcmp⟩⟩)
      (backendKeys k vs.ref)
      (fun rsID h => by
        simpa [liveBackend, backendKeys, hvs, AList.lookup_isSome, AList.mem_keys] using h) h hc
    have hkeep : Keeps (EveryService fun j vs' => j = k → vs'.ref = vs.ref ∧ vs'.options = vs.options)
        (goRange (backendKeys k vs.ref) (liveBackend k vs.ref) (syncBackend env k) order
          cfg.ServiceBackends) fun _ => True :=
      Keeps.goRange (fun _ b sbs _ => keeps_syncBackend_of
        (fun opts => keeps_every_createBackend opts fun _ _ _ h hj => h hj)
        (keeps_every_removeBackend fun _ h hj => h hj) b sbs) order _ trivial
    have href := (hkeep s fun j vs' hj hjk => by
      subst hjk
      rw [hvs, Option.some.injEq] at hj
      exact ⟨by rw [hj], by rw [hj]⟩).1
    rw [h] at href
    refine ⟨hJ, fun j vs' hj hjk => ?_⟩
    subst hjk
    obtain ⟨hr, ho⟩ := href _ _ hj rfl
    refine ⟨fun hn => by rw [ho]; exact (hs vs hvs).1 hn, fun rsID rs hrs => ?_⟩
    exact hG rsID (rs.monitor, rs) (liveBackend_eq_some.2 ⟨vs', hj, hr, rs, hrs, rfl⟩)
  · have hidle : ∀ rsID, liveBackend k ref s rsID = none := fun rsID => by
      rcases hk : s.ctx.services.lookup k with _ | vs
      · simp [liveBackend, hk]
      · have : vs.ref ≠ ref := fun hr => hlive ⟨vs, hk, hr⟩
        simp [liveBackend, hk, this]
    rw [goRange_idle hidle, Prod.mk.injEq, Except.ok.injEq] at h
    obtain ⟨rfl, rfl⟩ := h
    exact ⟨hc, fun j vs hj hjk => by
      subst hjk
      exact ⟨(hs vs hj).1, (hs vs hj).2 fun hr => hlive ⟨vs, hj, hr⟩⟩⟩

end At

end Backends

section Listed

variable {env : Env} {s s' : Machine}

/-- The service `k` has an entry in the store's map `d`, with which it agrees as `CompareWith`
compares them, but for the backends of the entry it lacks. -/
def Listed (d : StrMap ServiceConfig) (k : String) (vs : Service) : Prop :=
  ∃ cfg, d.lookup k = some cfg ∧
    OptionsAgree cfg.ServiceOptions vs ∧ BackendsAgree cfg.ServiceBackends vs

theorem syncService_listed (order : SyncOrder) {k : String} {vs : Service}
    {acc acc' : StrMap ServiceConfig} (hvs : s.ctx.services.lookup k = some vs)
    (h : (syncService env order k vs acc).exec s = (.ok acc', s')) :
    ∀ vs', s'.ctx.services.lookup k = some vs' → Listed acc k vs' := by
  rcases syncService_cases h with ⟨-, -, o, hr⟩ | ⟨cfg, s₂, sbs, s₃, hcfg, -, hstart, hg, hf⟩
  · rcases (removeService_services hr).2 with ⟨⟨_, ⟨⟩⟩, -⟩ | ⟨-, hk⟩
    intro vs' hvs'
    rw [hk, AList.lookup_erase] at hvs'
    cases hvs'
  have hs₂ : ∀ vs₂, s₂.ctx.services.lookup k = some vs₂ → OptionsAgree cfg.ServiceOptions vs₂ ∧
      (vs₂.ref ≠ vs.ref → BackendsAgree cfg.ServiceBackends vs₂) := by
    rcases hstart with ⟨-, o, s₁, hr, hc⟩ | ⟨hcmp, rfl⟩
    · have h₁ : AgreesAt k cfg s₁ := by
        rcases (removeService_services hr).2 with ⟨⟨_, ⟨⟩⟩, -⟩ | ⟨-, hk⟩
        intro j vs' hj hjk
        subst hjk
        rw [hk, AList.lookup_erase] at hj
        cases hj
      have h₂ := ((keeps_agreesAt_createService : Keeps _ (createService env k cfg) _) s₁ h₁).1
      rw [hc] at h₂
      exact fun vs₂ hv => ⟨(h₂ k vs₂ hv rfl).1, fun _ => (h₂ k vs₂ hv rfl).2⟩
    · intro vs₂ hv
      rw [hvs, Option.some.injEq] at hv
      subst hv
      exact ⟨fun _ => hcmp, fun hne => absurd rfl hne⟩
  obtain ⟨hJ, hin⟩ := syncBackends_agree (order.backends k) hg hs₂
  have hloop : Keeps (AgreesAt k cfg) (sbs.entries.forM fun e => createBackend env k e.1 e.2)
      fun _ => True :=
    Keeps.forM fun e he => keeps_agreesAt_createBackend fun _ => hJ e he
  have hout := (hloop s₃ hin).1
  rw [hf] at hout
  exact fun vs' hvs' => ⟨cfg, hcfg, hout k vs' hvs' rfl⟩

theorem Listed.of_sub {d d' : StrMap ServiceConfig} {k : String} {vs : Service}
    (h : Listed d' k vs) (hd : ∀ e ∈ d'.entries, d.lookup e.1 = some e.2) : Listed d k vs := by
  obtain ⟨cfg, hcfg, hin⟩ := h
  exact ⟨cfg, hd ⟨k, cfg⟩ (AList.mem_lookup_iff.1 hcfg), hin⟩

theorem keeps_listed_createService {d : StrMap ServiceConfig} {k : String} {cfg : ServiceConfig}
    (hd : d.lookup k = some cfg) :
    Keeps (EveryService (Listed d)) (createService env k cfg) fun _ => True :=
  @keeps_createService env (EveryService (Listed d)) k
    (fun rsID o => cfg.ServiceBackends.lookup rsID = some o) (· = cfg)
    (fun _ _ hin => keeps_every_createBackend _ fun _ _ hb ⟨cfg', hcfg', hopt, hsub⟩ => by
      rw [hd, Option.some.injEq] at hcfg'
      subst hcfg'
      exact ⟨_, hd, hopt, hsub.insert hin hb⟩)
    (fun cfg' hcfg' => by
      subst hcfg'
      exact keeps_every_registerService cfg' fun _ _ hcmp =>
        ⟨cfg', hd, hcmp, fun _ _ hj => by simp at hj⟩)
    (fun _ hcfg _ he => hcfg ▸ AList.mem_lookup_iff.2 he) cfg rfl

end Listed

/-- When `Synchronize` returns nil, every service running agrees with its entry of the store's map
but for the backends of the entry it lacks, whatever order the runtime ranges over the maps in. -/
theorem synchronize_agrees (env : Env) (order : SyncOrder) (d : StrMap ServiceConfig) (s : Machine)
    (h : ((synchronize env order d).exec s).1 = .ok ()) :
    EveryService (Listed d) ((synchronize env order d).exec s).2 := by
  rcases hs : (synchronize env order d).exec s with ⟨r, s'⟩
  rw [hs] at h
  subst h
  simp only [synchronize, exec_bind] at hs
  rcases hg : (goRange (fun s => s.ctx.services.keys) liveService (syncService env order)
    order.services d).exec s with ⟨_ | acc, s₁⟩ <;> simp only [hg] at hs
  · cases hs
  obtain ⟨hJ, hG⟩ := goRange_good (keepsOthers_syncService order)
    (J := fun acc => ∀ e ∈ acc.entries, d.lookup e.1 = some e.2) (G := fun k vs => Listed d k vs)
    (fun t k n v acc acc' t' hk hJ hb => by
      obtain ⟨v, hv, ⟨⟩⟩ := liveService_eq_some.1 hk
      refine ⟨?_, fun e he => (syncService_listed order hv hb e.2 ?_).of_sub hJ⟩
      · rcases (syncService_result order k v acc t trivial).2 acc' (by rw [hb]) with rfl | rfl
        · exact hJ
        · exact fun e he => hJ e ((List.kerase_sublist _ _).subset he)
      · obtain ⟨vs, hvs, rfl⟩ := liveService_eq_some.1 he
        exact hvs)
    (fun s => s.ctx.services.keys)
    (fun _ => mem_keys_of_liveService) hg
    fun e he => AList.mem_lookup_iff.2 he
  have hloop : Keeps (EveryService (Listed d)) (acc.entries.forM fun e => createService env e.1 e.2)
      fun _ => True :=
    Keeps.forM fun e he => keeps_listed_createService (hJ e he)
  exact hloop.after_exec hs fun k vs hk => hG k (vs.ref, vs) (liveService_of_lookup hk)

/-- When `Synchronize` returns nil, every service running is one of the store's map, and every
backend of it is one of the backends the map gives it, whatever order the runtime ranges over the
maps in. -/
theorem synchronize_listed (env : Env) (order : SyncOrder) (d : StrMap ServiceConfig) (s : Machine)
    (h : ((synchronize env order d).exec s).1 = .ok ()) :
    ∀ vsID vs, ((synchronize env order d).exec s).2.ctx.services.lookup vsID = some vs →
      ∃ cfg, d.lookup vsID = some cfg ∧ ∀ rsID, rsID ∈ vs.backends → rsID ∈ cfg.ServiceBackends :=
  fun vsID vs hvs =>
    let ⟨cfg, hcfg, _, hb⟩ := synchronize_agrees env order d s h vsID vs hvs
    ⟨cfg, hcfg, fun _ hin => hb.mem hin⟩

theorem swapped_sync_listed :
    ((synchronize webEnv ⟨["web"], fun _ => ["a"]⟩ swappedStore).exec firstBackend).1 = .ok () ∧
      ∀ vsID vs, ((synchronize webEnv ⟨["web"], fun _ => ["a"]⟩ swappedStore).exec
        firstBackend).2.ctx.services.lookup vsID = some vs →
        ∃ cfg, swappedStore.lookup vsID = some cfg ∧
          ∀ rsID, rsID ∈ vs.backends → rsID ∈ cfg.ServiceBackends :=
  ⟨synchronize_swapped_ok,
    synchronize_listed webEnv _ swappedStore firstBackend synchronize_swapped_ok⟩

section Complete

variable {env : Env} {k rsID : String} {s s' : Machine}

/-- The loop creating the store's backends left over, from a service object `r` at `k` with the
options `o`: `k` runs afterwards as the same object, and every backend it ran or the map held. -/
theorem createBackends_complete {sbs : StrMap BackendOptions} {r : Nat} {o : ServiceOptions}
    {Q : String → Prop} (h : (sbs.entries.forM fun e => createBackend env k e.1 e.2).exec s = (.ok (), s'))
    (hs : ∃ vs, s.ctx.services.lookup k = some vs ∧ vs.ref = r ∧ vs.options = o ∧
      ∀ rsID, Q rsID → rsID ∈ vs.backends ∨ rsID ∈ sbs) :
    ∃ vs, s'.ctx.services.lookup k = some vs ∧ vs.ref = r ∧ vs.options = o ∧
      ∀ rsID, Q rsID → rsID ∈ vs.backends := by
  obtain ⟨vs, hvs, href, hopt, hc⟩ := forM_ok
    (P := fun rem t => ∃ vs, t.ctx.services.lookup k = some vs ∧ vs.ref = r ∧ vs.options = o ∧
      ∀ rsID, Q rsID → rsID ∈ vs.backends ∨ rsID ∈ rem.keys)
    (fun x rem t t' ⟨vs, hvs, href, hopt, hc⟩ hx => by
      rcases createBackend_services hx with ⟨⟨_, ⟨⟩⟩, -⟩ | ⟨-, -, vs', o', hvs', -, -, ht⟩
      rw [hvs, Option.some.injEq] at hvs'
      subst hvs'
      refine ⟨{ vs with backends := vs.backends.insert x.1 ⟨o', t.next, .zero⟩ },
        by rw [ht, AList.lookup_insert], href, hopt, fun rsID hin => ?_⟩
      rcases hc rsID hin with hr | hr
      · exact .inl ((AList.mem_insert _).2 (.inr hr))
      · rcases List.mem_cons.1 hr with rfl | hr
        · exact .inl ((AList.mem_insert _).2 (.inl rfl))
        · exact .inr hr)
    sbs.entries h (by simpa only [AList.mem_keys] using hs)
  exact ⟨vs, hvs, href, hopt, fun rsID hin => (hc rsID hin).resolve_right (List.not_mem_nil _)⟩

/-- A `createService` that returns has created the service `k` as the object of the next fresh
handle, with every backend of its configuration. -/
theorem createService_creates {cfg : ServiceConfig}
    (h : (createService env k cfg).exec s = (.ok (), s')) :
    ∃ vs, s'.ctx.services.lookup k = some vs ∧ vs.ref = s.next ∧
      ∀ rsID, rsID ∈ cfg.ServiceBackends → rsID ∈ vs.backends := by
  simp only [createService, exec_bind] at h
  rcases hr : (registerService env k cfg).exec s with ⟨_ | _, s₁⟩ <;> simp only [hr] at h
  · cases h
  rcases registerService_services hr with ⟨⟨_, ⟨⟩⟩, -⟩ | ⟨-, -, -, o, -, hs₁⟩
  obtain ⟨vs, hvs, href, -, hall⟩ := createBackends_complete (Q := (· ∈ cfg.ServiceBackends)) h
    ⟨_, by rw [hs₁, AList.lookup_insert], rfl, rfl, fun _ => .inr⟩
  exact ⟨vs, hvs, href, hall⟩

/-- A `syncBackend` that returns on the live backend `rsID`: the backend is erased from the store's
map and the others are left, it runs afterwards if the map has it, and it then runs with its own
probe or a fresh one. -/
theorem syncBackend_complete {ref n : Nat} {backend : Backend} {sbs sbs' : StrMap BackendOptions}
    (hlive : liveBackend k ref s rsID = some (n, backend))
    (h : (syncBackend env k rsID backend sbs).exec s = (.ok sbs', s')) :
    (∀ j, j ≠ rsID → sbs'.lookup j = sbs.lookup j) ∧ sbs'.lookup rsID = none ∧
      (rsID ∈ sbs → (liveBackend k ref s' rsID).isSome) ∧
      ∀ e, liveBackend k ref s' rsID = some e → e.1 = n ∨ s.next ≤ e.1 := by
  obtain ⟨vs, hvs, href, -⟩ := liveBackend_eq_some.1 hlive
  have herase : ∀ j, j ≠ rsID → (sbs.erase rsID).lookup j = sbs.lookup j :=
    fun j hj => AList.lookup_erase_ne hj
  rcases syncBackend_cases h with ⟨hrs, rfl, o, hr⟩ | ⟨o, ho, rfl, ⟨-, o', t, hr, hc⟩ | ⟨-, rfl⟩⟩
  · rcases (removeBackend_services hr).2 with ⟨⟨_, ⟨⟩⟩, -⟩ | ⟨-, vs', hvs', ht⟩
    refine ⟨fun _ _ => rfl, hrs, fun hin => absurd (AList.lookup_isSome.2 hin) (by simp [hrs]),
      fun e he => ?_⟩
    simp [liveBackend, ht] at he
  · obtain ⟨hnext, ⟨⟨_, ⟨⟩⟩, -⟩ | ⟨-, vs', hvs', ht⟩⟩ := removeBackend_services hr
    rw [hvs, Option.some.injEq] at hvs'
    subst hvs'
    rcases createBackend_services hc with ⟨⟨_, ⟨⟩⟩, -⟩ | ⟨-, -, vs'', o'', hvs'', -, -, ht'⟩
    rw [ht, AList.lookup_insert, Option.some.injEq] at hvs''
    subst hvs''
    refine ⟨herase, AList.lookup_erase _ _, fun _ => by simp [liveBackend, ht', href],
      fun e he => .inr ?_⟩
    simp only [liveBackend, ht', AList.lookup_insert, href, if_true, Option.map_some',
      Option.some.injEq] at he
    rw [← he]
    exact hnext.ge
  · refine ⟨herase, AList.lookup_erase _ _, fun _ => by simp [hlive], fun e he => .inl ?_⟩
    rw [hlive, Option.some.injEq] at he
    rw [← he]

/-- The loop over the backends of the running object `vs` at `k`, over an order listing each
backend once, from a machine whose probes of `vs` are below `s.next`: when it returns, `k` runs as
the same object, and every backend of the store's `c` runs or is left in the map. -/
theorem syncBackends_complete (order : List String) (hnd : order.Nodup) {vs : Service}
    {c sbs : StrMap BackendOptions} (hvs : s.ctx.services.lookup k = some vs)
    (hfresh : ∀ rsID rs, vs.backends.lookup rsID = some rs → rs.monitor < s.next)
    (h : (goRange (backendKeys k vs.ref) (liveBackend k vs.ref) (syncBackend env k) order c).exec s =
      (.ok sbs, s')) :
    ∃ vs', s'.ctx.services.lookup k = some vs' ∧ vs'.ref = vs.ref ∧ vs'.options = vs.options ∧
      ∀ rsID, rsID ∈ c → rsID ∈ vs'.backends ∨ rsID ∈ sbs := by
  obtain ⟨produced, ⟨⟨vs', hvs', href, hopt⟩, -, hall⟩, -⟩ := goRange_once
    (keepsOthers_syncBackend vs.ref)
    (I := fun t sbs produced => RefAt k vs.ref vs.options t ∧ s.next ≤ t.next ∧ ∀ rsID,
      ((∀ m, (rsID, m) ∉ produced) → sbs.lookup rsID = c.lookup rsID) ∧
      ((∃ m, (rsID, m) ∈ produced) → sbs.lookup rsID = none ∧
        (rsID ∈ c → (liveBackend k vs.ref t rsID).isSome) ∧
        ∀ e, liveBackend k vs.ref t rsID = some e → (rsID, e.1) ∈ produced ∨ s.next ≤ e.1))
    (fun t rsID n b acc produced acc' t' ⟨hat, hnext, hI⟩ hk hun hb => by
      obtain ⟨hother, hnone, hlive, hnew⟩ := syncBackend_complete hk hb
      refine ⟨(keeps_syncBackend_of (fun opts => keeps_refAt_createBackend opts)
          keeps_refAt_removeBackend b acc).after_exec hb hat,
        (keeps_syncBackend_of (fun opts => keeps_next_createBackend opts) keeps_next_removeBackend b
          acc).after_exec hb hnext, fun j => ?_⟩
      by_cases hj : j = rsID
      · subst hj
        refine ⟨fun hnot => absurd (List.mem_cons_self _ _) (hnot n), fun _ => ⟨hnone,
          fun hin => hlive (AList.lookup_isSome.1 (by
            rw [(hI j).1 hun]
            exact AList.lookup_isSome.2 hin)), fun e he => ?_⟩⟩
        rcases hnew e he with rfl | hle
        · exact .inl (List.mem_cons_self _ _)
        · exact .inr (le_trans hnext hle)
      · have hframe := keepsOthers_syncBackend vs.ref t rsID n b acc acc' t' hk hb j hj
        have hmem : ∀ m, (j, m) ∈ (rsID, n) :: produced ↔ (j, m) ∈ produced := fun m => by
          simp [hj]
        simp only [hmem, hother j hj, hframe]
        exact hI j)
    (fun t acc produced j m e ⟨_, _, hI⟩ hm he => ((hI j).2 ⟨m, hm⟩).2.2 e he)
    (backendKeys k vs.ref) hnd
    (fun rsID e he => by
      simp only [liveBackend, hvs, if_true, Option.map_eq_some'] at he
      obtain ⟨rs, hrs, rfl⟩ := he
      exact hfresh rsID rs hrs)
    h ⟨⟨vs, hvs, rfl, rfl⟩, le_rfl,
      fun rsID => ⟨fun _ => rfl, fun ⟨_, hm⟩ => absurd hm (List.not_mem_nil _)⟩⟩
  refine ⟨vs', hvs', href, hopt, fun rsID hin => ?_⟩
  by_cases hp : ∃ m, (rsID, m) ∈ produced
  · have : (vs'.backends.lookup rsID).isSome := by
      simpa [liveBackend, hvs', href] using ((hall rsID).2 hp).2.1 hin
    exact .inl (AList.lookup_isSome.1 this)
  · have := (hall rsID).1 fun m hm => hp ⟨m, hm⟩
    exact .inr (AList.lookup_isSome.1 (by rw [this]; exact AList.lookup_isSome.2 hin))

/-- The loop over the backends of the running object `vs` at `k`, over any order: `k` runs
afterwards as the same object with the same options, and every backend of the store's `c` that
`vs` did not run is still in the map, since no body runs on a backend that is not live. -/
theorem syncBackends_keep (order : List String) {vs : Service} {c sbs : StrMap BackendOptions}
    (hvs : s.ctx.services.lookup k = some vs)
    (h : (goRange (backendKeys k vs.ref) (liveBackend k vs.ref) (syncBackend env k) order c).exec s =
      (.ok sbs, s')) :
    ∃ vs', s'.ctx.services.lookup k = some vs' ∧ vs'.ref = vs.ref ∧ vs'.options = vs.options ∧
      ∀ rsID, rsID ∈ c → rsID ∈ vs.backends ∨ rsID ∈ sbs := by
  have hstart : ∀ rsID, rsID ∉ vs.backends → liveBackend k vs.ref s rsID = none :=
    fun rsID hr => by simp [liveBackend, hvs, AList.lookup_eq_none.2 hr]
  obtain ⟨⟨vs', hvs', href, hopt⟩, hout⟩ := goRange_inv (keepsOthers_syncBackend vs.ref)
    (I := fun t sbs => RefAt k vs.ref vs.options t ∧ ∀ rsID, rsID ∉ vs.backends →
      liveBackend k vs.ref t rsID = none ∧ sbs.lookup rsID = c.lookup rsID)
    (fun t j n b acc acc' t' ⟨hat, hI⟩ hj hb => by
      have hmem : j ∈ vs.backends := by
        by_contra hn
        rw [(hI j hn).1] at hj
        cases hj
      refine ⟨?_, fun rsID hr => ?_⟩
      · exact (keeps_syncBackend_of (fun opts => keeps_refAt_createBackend opts)
          keeps_refAt_removeBackend b acc).after_exec hb hat
      · have hne : rsID ≠ j := fun h => hr (h ▸ hmem)
        rw [keepsOthers_syncBackend vs.ref t j n b acc acc' t' hj hb rsID hne,
          (syncBackend_complete hj hb).1 rsID hne]
        exact hI rsID hr)
    _ h ⟨⟨vs, hvs, rfl, rfl⟩, fun rsID hr => ⟨hstart rsID hr, rfl⟩⟩
  refine ⟨vs', hvs', href, hopt, fun rsID hin => ?_⟩
  by_cases hr : rsID ∈ vs.backends
  · exact .inl hr
  · exact .inr (AList.lookup_isSome.1 (by rw [(hout rsID hr).2]; exact AList.lookup_isSome.2 hin))

/-- A body of `Synchronize`'s loop that returns on a running service with handles below `s.next`,
whose store configuration is `cfg`, over an order listing each backend once: the service is erased
from the store's map and runs afterwards, as the same object or a fresh one, with every backend of
`cfg`. -/
theorem syncService_complete (order : SyncOrder) (hnd : (order.backends k).Nodup) {vs : Service}
    {acc acc' : StrMap ServiceConfig} {cfg : ServiceConfig}
    (hvs : s.ctx.services.lookup k = some vs)
    (hfresh : vs.ref < s.next ∧ ∀ rsID rs, vs.backends.lookup rsID = some rs → rs.monitor < s.next)
    (hcfg : acc.lookup k = some cfg) (h : (syncService env order k vs acc).exec s = (.ok acc', s')) :
    acc' = acc.erase k ∧ ∃ vs', s'.ctx.services.lookup k = some vs' ∧
      (vs'.ref = vs.ref ∨ s.next ≤ vs'.ref) ∧
      ∀ rsID, rsID ∈ cfg.ServiceBackends → rsID ∈ vs'.backends := by
  rcases syncService_cases h with ⟨hnone, -⟩ | ⟨cfg', s₂, sbs, s₃, hcfg', rfl, hstart, hg, hf⟩
  · rw [hcfg] at hnone
    cases hnone
  rw [hcfg, Option.some.injEq] at hcfg'
  subst hcfg'
  refine ⟨rfl, ?_⟩
  rcases hstart with ⟨-, o, s₁, hr, hc⟩ | ⟨-, rfl⟩
  · obtain ⟨vs₂, hvs₂, href₂, hall₂⟩ := createService_creates hc
    have hnext : s₁.next = s.next := (removeService_services hr).1
    have hidle : ∀ rsID, liveBackend k vs.ref s₂ rsID = none := fun rsID => by
      have : vs₂.ref ≠ vs.ref := by omega
      simp [liveBackend, hvs₂, this]
    rw [goRange_idle hidle, Prod.mk.injEq, Except.ok.injEq] at hg
    obtain ⟨rfl, rfl⟩ := hg
    obtain ⟨vs', hvs', href', -, hall'⟩ := createBackends_complete (Q := (· ∈ cfg.ServiceBackends)) hf
      ⟨vs₂, hvs₂, href₂, rfl, fun rsID hin => .inl (hall₂ rsID hin)⟩
    exact ⟨vs', hvs', .inr (by omega), hall'⟩
  · obtain ⟨vs', hvs', href', -, hall'⟩ :=
      createBackends_complete hf (syncBackends_complete _ hnd hvs hfresh.2 hg)
    exact ⟨vs', hvs', .inl href', hall'⟩

/-- What a body of the loop that returns leaves of its key `k`: `k` is out of the store's map; if
the map had it, `k` runs with every backend the map gives it; and what runs under `k` is the service
ranged over or a fresh one. -/
theorem syncService_settles (order : SyncOrder) (hnd : (order.backends k).Nodup) {v : Service}
    {acc acc' : StrMap ServiceConfig} (hv : s.ctx.services.lookup k = some v)
    (hfresh : v.ref < s.next ∧ ∀ rsID rs, v.backends.lookup rsID = some rs → rs.monitor < s.next)
    (h : (syncService env order k v acc).exec s = (.ok acc', s')) :
    acc'.lookup k = none ∧
      (∀ cfg, acc.lookup k = some cfg → ∃ vs, s'.ctx.services.lookup k = some vs ∧
        ∀ rsID, rsID ∈ cfg.ServiceBackends → rsID ∈ vs.backends) ∧
      ∀ vs, s'.ctx.services.lookup k = some vs → vs.ref = v.ref ∨ s.next ≤ vs.ref := by
  rcases syncService_cases h with ⟨hacc, rfl, o, hr⟩ | ⟨cfg, -, -, -, hacc, -⟩
  · have hgone : s'.ctx.services.lookup k = none := by
      rcases (removeService_services hr).2 with ⟨⟨_, ⟨⟩⟩, -⟩ | ⟨-, hk⟩
      rw [hk, AList.lookup_erase]
    exact ⟨hacc, fun _ h => (by rw [hacc] at h; cases h), fun vs h => by rw [hgone] at h; cases h⟩
  · obtain ⟨rfl, vs', hvs', href, hall⟩ := syncService_complete order hnd hv hfresh hacc h
    refine ⟨AList.lookup_erase _ _, fun cfg' hcfg' => ?_, fun vs h => ?_⟩
    · rw [hacc, Option.some.injEq] at hcfg'
      exact ⟨vs', hvs', hcfg' ▸ hall⟩
    · rw [hvs', Option.some.injEq] at h
      exact h ▸ href

/-- The loop that creates what the range left of the store's map: over entries of distinct keys,
each of a service not running and as the map has it, every service of the map runs at the end with
every backend the map gives it, if every service of the map the entries leave out already did. -/
theorem createServices_complete {d : StrMap ServiceConfig} {rem : List (Σ _ : String, ServiceConfig)}
    {s s' : Machine} (h : (rem.forM fun e => createService env e.1 e.2).exec s = (.ok (), s'))
    (hnone : ∀ x ∈ rem, s.ctx.services.lookup x.1 = none ∧ d.lookup x.1 = some x.2)
    (hnd : rem.keys.Nodup)
    (hdone : ∀ k cfg, d.lookup k = some cfg → k ∉ rem.keys →
      ∃ vs, s.ctx.services.lookup k = some vs ∧
        ∀ rsID, rsID ∈ cfg.ServiceBackends → rsID ∈ vs.backends) :
    ∀ k cfg, d.lookup k = some cfg → ∃ vs, s'.ctx.services.lookup k = some vs ∧
      ∀ rsID, rsID ∈ cfg.ServiceBackends → rsID ∈ vs.backends := by
  refine fun k cfg hcfg => (forM_ok (P := fun rem t => (∀ x ∈ rem,
      t.ctx.services.lookup x.1 = none ∧ d.lookup x.1 = some x.2) ∧ rem.keys.Nodup ∧
      ∀ k cfg, d.lookup k = some cfg → k ∉ rem.keys → ∃ vs, t.ctx.services.lookup k = some vs ∧
        ∀ rsID, rsID ∈ cfg.ServiceBackends → rsID ∈ vs.backends)
    ?_ rem h ⟨hnone, hnd, hdone⟩).2.2 k cfg hcfg (List.not_mem_nil _)
  rintro x rem t t' ⟨hnone, hnd, hdone⟩ hx
  obtain ⟨vs₁, hvs₁, -, hall₁⟩ := createService_creates hx
  have hother := createService_othersAs env x.1 x.2 t
  rw [hx] at hother
  have hnd' := List.nodup_cons.1 hnd
  refine ⟨fun y hy => ?_, hnd'.2, fun k cfg hcfg hk => ?_⟩
  · have hne : y.1 ≠ x.1 := fun h => hnd'.1 (h ▸ List.mem_keys_of_mem hy)
    rw [hother _ hne]
    exact hnone y (List.mem_cons_of_mem _ hy)
  · by_cases hkx : k = x.1
    · subst hkx
      rw [(hnone x (List.mem_cons_self _ _)).2, Option.some.injEq] at hcfg
      exact ⟨vs₁, hvs₁, hcfg ▸ hall₁⟩
    · rw [hother k hkx]
      exact hdone k cfg hcfg fun h => (List.mem_cons.1 h).elim hkx hk

end Complete

/-- What `Synchronize` has done so far, over a store's map `d` and from a machine `s₀`: a key not
produced is still in the map and as it was in `s₀`; a key produced is out of the map, runs every
backend `d` gives it, and its entry is the one produced or a fresh one. -/
def SyncedFrom (d : StrMap ServiceConfig) (s₀ t : Machine) (acc : StrMap ServiceConfig)
    (produced : List (String × Nat)) : Prop :=
  s₀.next ≤ t.next ∧ ∀ k,
    ((∀ m, (k, m) ∉ produced) →
      acc.lookup k = d.lookup k ∧ t.ctx.services.lookup k = s₀.ctx.services.lookup k) ∧
    ((∃ m, (k, m) ∈ produced) → acc.lookup k = none ∧
      (∀ cfg, d.lookup k = some cfg → ∃ vs, t.ctx.services.lookup k = some vs ∧
        ∀ rsID, rsID ∈ cfg.ServiceBackends → rsID ∈ vs.backends) ∧
      ∀ vs, t.ctx.services.lookup k = some vs → (k, vs.ref) ∈ produced ∨ s₀.next ≤ vs.ref)

section Synced

variable {env : Env} {order : SyncOrder} {d : StrMap ServiceConfig} {s : Machine}

/-- A run of the loop's body on a key produced for the first time keeps `SyncedFrom`, from a
machine whose handles are all below its next one and over an order listing each backend once. -/
theorem SyncedFrom.step
    (hfresh : ∀ vsID vs, s.ctx.services.lookup vsID = some vs → vs.ref < s.next ∧
      ∀ rsID rs, vs.backends.lookup rsID = some rs → rs.monitor < s.next)
    (hnd : ∀ vsID, (order.backends vsID).Nodup) {t t' : Machine} {k : String} {n : Nat}
    {v : Service} {acc acc' : StrMap ServiceConfig} {produced : List (String × Nat)}
    (hI : SyncedFrom d s t acc produced) (hk : liveService t k = some (n, v))
    (hun : ∀ m, (k, m) ∉ produced) (hb : (syncService env order k v acc).exec t = (.ok acc', t')) :
    SyncedFrom d s t' acc' ((k, n) :: produced) := by
  obtain ⟨hnext, hI⟩ := hI
  obtain ⟨v, hv, ⟨⟩⟩ := liveService_eq_some.1 hk
  obtain ⟨hacc, hsame⟩ := (hI k).1 hun
  obtain ⟨hr, hf⟩ := hfresh k v (hsame ▸ hv)
  obtain ⟨hnone, hall, href⟩ := syncService_settles order (hnd k) hv
    ⟨by omega, fun rsID rs h => (hf rsID rs h).trans_le hnext⟩ hb
  have hnext' := syncService_next env order k v acc t
  have hother := syncService_othersAs env order k v acc t
  rw [hb] at hnext' hother
  refine ⟨hnext.trans hnext', fun j => ?_⟩
  by_cases hj : j = k
  · subst hj
    exact ⟨fun hnot => absurd (List.mem_cons_self _ _) (hnot v.ref), fun _ => ⟨hnone,
      fun cfg hcfg => hall cfg (hacc.trans hcfg), fun vs h => (href vs h).imp
        (fun (h : vs.ref = v.ref) => h ▸ List.mem_cons_self _ _) hnext.trans⟩⟩
  · have hacc' : acc'.lookup j = acc.lookup j := by
      rcases (syncService_result order k v acc t trivial).2 acc' (by rw [hb]) with rfl | rfl
      · rfl
      · exact AList.lookup_erase_ne hj
    have hmem : ∀ m, (j, m) ∈ (k, v.ref) :: produced ↔ (j, m) ∈ produced := fun m => by
      simp [hj]
    simp only [hmem, hacc', hother j hj]
    exact hI j

end Synced

/-- When `Synchronize` returns nil from a machine whose handles are all below `s.next`, and the
runtime produces each key of the maps once, every service of the store's map runs afterwards with
every backend the map gives it. -/
theorem synchronize_complete_of_fresh (env : Env) (order : SyncOrder) (d : StrMap ServiceConfig)
    (s : Machine)
    (hfresh : ∀ vsID vs, s.ctx.services.lookup vsID = some vs → vs.ref < s.next ∧
      ∀ rsID rs, vs.backends.lookup rsID = some rs → rs.monitor < s.next)
    (horder : order.services.Nodup ∧ ∀ vsID, (order.backends vsID).Nodup)
    (h : ((synchronize env order d).exec s).1 = .ok ()) :
    ∀ vsID cfg, d.lookup vsID = some cfg →
      ∃ vs, ((synchronize env order d).exec s).2.ctx.services.lookup vsID = some vs ∧
        ∀ rsID, rsID ∈ cfg.ServiceBackends → rsID ∈ vs.backends := by
  rcases hs : (synchronize env order d).exec s with ⟨r, s'⟩
  rw [hs] at h
  subst h
  simp only [synchronize, exec_bind] at hs
  rcases hg : (goRange (fun s => s.ctx.services.keys) liveService (syncService env order)
    order.services d).exec s with ⟨_ | acc, s₁⟩ <;> simp only [hg] at hs
  · cases hs
  obtain ⟨produced, ⟨-, hI⟩, hall⟩ := goRange_once (keepsOthers_syncService order)
    (I := SyncedFrom d s) (N := s.next)
    (fun _ _ _ _ _ _ _ _ hI hk hun hb => SyncedFrom.step hfresh horder.2 hI hk hun hb)
    (fun t acc produced k m e ⟨_, hI⟩ hm he => by
      obtain ⟨vs, hvs, rfl⟩ := liveService_eq_some.1 he
      exact ((hI k).2 ⟨m, hm⟩).2.2 vs hvs)
    (fun s => s.ctx.services.keys) horder.1
    (fun k e he => by
      obtain ⟨vs, hvs, rfl⟩ := liveService_eq_some.1 he
      exact (hfresh k vs hvs).1)
    hg ⟨le_rfl, fun k => ⟨fun _ => ⟨rfl, rfl⟩, fun ⟨_, hm⟩ => absurd hm (List.not_mem_nil _)⟩⟩
  have hprod : ∀ k, k ∈ acc → (∀ m, (k, m) ∉ produced) := fun k hk m hm => by
    have := ((hI k).2 ⟨m, hm⟩).1
    rw [AList.lookup_eq_none] at this
    exact this hk
  refine createServices_complete hs (fun x hx => ?_) acc.nodupKeys fun k cfg hcfg hk => ?_
  · have hx' : acc.lookup x.1 = some x.2 := AList.mem_lookup_iff.2 hx
    have hxacc : x.1 ∈ acc := AList.lookup_isSome.1 (by simp [hx'])
    obtain ⟨hd, hsame⟩ := (hI x.1).1 (hprod x.1 hxacc)
    refine ⟨?_, hd ▸ hx'⟩
    rw [hsame]
    rcases h₀ : s.ctx.services.lookup x.1 with _ | vs
    · rfl
    · exact absurd (hall x.1 (AList.mem_keys.1 (AList.lookup_isSome.1 (by simp [h₀]))) vs.ref vs
        (liveService_of_lookup h₀)) (hprod x.1 hxacc _)
  · by_cases hp : ∃ m, (k, m) ∈ produced
    · exact ((hI k).2 hp).2.1 cfg hcfg
    · have := ((hI k).1 fun m hm => hp ⟨m, hm⟩).1
      rw [AList.lookup_eq_none.2 fun h => hk (AList.mem_keys.1 h), hcfg] at this
      cases this

/-- When `Synchronize` returns nil from any state the daemon can reach, and the runtime produces each
key of the maps once, every service of the store's map runs afterwards with every backend the map
gives it. -/
theorem synchronize_complete (env : Env) (order : SyncOrder) (d : StrMap ServiceConfig) (s : Machine)
    (hs : Reachable env s) (horder : order.services.Nodup ∧ ∀ vsID, (order.backends vsID).Nodup)
    (h : ((synchronize env order d).exec s).1 = .ok ()) :
    ∀ vsID cfg, d.lookup vsID = some cfg →
      ∃ vs, ((synchronize env order d).exec s).2.ctx.services.lookup vsID = some vs ∧
        ∀ rsID, rsID ∈ cfg.ServiceBackends → rsID ∈ vs.backends :=
  synchronize_complete_of_fresh env order d s hs.fresh horder h

theorem grown_sync_complete :
    Reachable webEnv firstBackend ∧
      ((["web"] : List String).Nodup ∧ ∀ _ : String, (["a"] : List String).Nodup) ∧
      ((synchronize webEnv ⟨["web"], fun _ => ["a"]⟩ grownStore).exec firstBackend).1 = .ok () ∧
      ∀ vsID cfg, grownStore.lookup vsID = some cfg →
        ∃ vs, ((synchronize webEnv ⟨["web"], fun _ => ["a"]⟩ grownStore).exec
          firstBackend).2.ctx.services.lookup vsID = some vs ∧
          ∀ rsID, rsID ∈ cfg.ServiceBackends → rsID ∈ vs.backends :=
  ⟨reachable_firstBackend, ⟨List.nodup_singleton _, fun _ => List.nodup_singleton _⟩,
    by rw [synchronize_grown],
    synchronize_complete webEnv _ grownStore firstBackend reachable_firstBackend
      ⟨List.nodup_singleton _, fun _ => List.nodup_singleton _⟩ (by rw [synchronize_grown])⟩

section Close

variable {env : Env}

/-- The body of `Close`'s loop always returns: a failed `removeService` is logged and skipped. -/
theorem close_body_returns (vsID : String) (s : Machine) :
    ∃ s', (tryCatch (discard (removeService env vsID)) fun _ => pure () : CtxM Unit).exec s =
      (.ok (), s') := by
  simp only [exec_tryCatch, exec_discard]
  rcases (removeService env vsID).exec s with ⟨_ | _, s'⟩ <;> exact ⟨_, rfl⟩

/-- With an IPVS driver that accepts every call, `removeService` of a running service returns its
options. -/
theorem removeService_accepted (hipvs : ∀ n, env.ipvs n = true) {vsID : String} {vs : Service}
    {s : Machine} (hvs : s.ctx.services.lookup vsID = some vs) :
    ((removeService env vsID).exec s).1 = .ok vs.options := by
  simp only [removeService, exec_bind, exec_get, hvs, delVip_exec, ipvsCall_exec, hipvs, if_true,
    Service.cleanup, exec_modify, exec_pure]

/-- With an IPVS driver that accepts every call, `Close` removes every service and stops every
probe, whatever order the runtime ranges over the map in. -/
theorem close_removes_all (env : Env) (hipvs : ∀ n, env.ipvs n = true) (order : List String)
    (s : Machine) (hs : Reachable env s) :
    ((close env order).exec s).2.ctx.services.entries = [] ∧
      ((close env order).exec s).2.monitors = [] := by
  rcases hc : (close env order).exec s with ⟨r, s'⟩
  obtain ⟨⟨⟩, s'', hs''⟩ := goRange_returns liveService
    (fun k _ _ s => ⟨(), close_body_returns k s⟩) (fun s => s.ctx.services.keys) order () s
  have hs'' : (close env order).exec s = (.ok (), s'') := hs''
  rw [hc, Prod.mk.injEq] at hs''
  obtain ⟨rfl, rfl⟩ := hs''
  have hkeeps : ∀ vsID (t : Machine), OthersAs vsID t
      ((tryCatch (discard (removeService env vsID)) fun _ => pure () : CtxM Unit).exec t).2 :=
    fun vsID t => ((Keeps.tryCatch (@keeps_others_removeService env vsID t).discard
      fun _ => keeps_pure_true) t fun _ _ => rfl).1
  obtain ⟨-, hnone⟩ := goRange_good (J := fun _ => True) (G := fun _ _ => False)
    (fun t k n v acc acc' t' _ hb j hj => by
      have := hkeeps k t j hj
      rw [hb] at this
      simp only [liveService, this])
    (fun t k n v acc acc' t' hk _ hb => ⟨trivial, fun e he => by
      obtain ⟨vs, hvs, -⟩ := liveService_eq_some.1 hk
      obtain ⟨vs', hvs', -⟩ := liveService_eq_some.1 he
      simp only [exec_tryCatch, exec_discard] at hb
      have hok := removeService_accepted hipvs hvs
      rcases hr : (removeService env k).exec t with ⟨_ | _, t₁⟩ <;> rw [hr] at hok
      · cases hok
      simp only [hr, Prod.mk.injEq] at hb
      obtain ⟨-, rfl⟩ := hb
      rcases (removeService_services hr).2 with ⟨⟨_, ⟨⟩⟩, -⟩ | ⟨-, ht⟩
      rw [ht, AList.lookup_erase] at hvs'
      cases hvs'⟩)
    (fun s => s.ctx.services.keys)
    (fun _ => mem_keys_of_liveService) hc trivial
  have hempty : s'.ctx.services.entries = [] := entries_eq_nil_of_lookup fun k => by
    rcases hk : s'.ctx.services.lookup k with _ | vs
    · rfl
    · exact (hnone k (vs.ref, vs) (liveService_of_lookup hk)).elim
  have hmatch : MonitorsMatch s := ReachableWith.induct_on
    (fun _ _ _ => ⟨List.Perm.nil, List.nodup_nil, fun _ hm => absurd hm (List.not_mem_nil _)⟩)
    (fun s a hs _ _ => hs.step a) hs
  have hm' := (@keeps_close env _ (keeps_monitors_removeService env) order s hmatch).1
  rw [hc] at hm'
  refine ⟨hempty, List.eq_nil_iff_forall_not_mem.2 fun m hm => ?_⟩
  have := hm'.perm.subset hm
  simp [Context.monitors, StrMap.collect, hempty] at this

theorem close_removes_web :
    (∀ n, webEnv.ipvs n = true) ∧ Reachable webEnv firstBackend ∧
      ((close webEnv ["web"]).exec firstBackend).2.ctx.services.entries = [] ∧
        ((close webEnv ["web"]).exec firstBackend).2.monitors = [] :=
  ⟨fun _ => rfl, reachable_firstBackend,
    close_removes_all webEnv (fun _ => rfl) ["web"] firstBackend reachable_firstBackend⟩

end Close

end Gorb
