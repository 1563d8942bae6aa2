import Gorb.Converge
import Gorb.Daemon
import Gorb.Diff

/-!
# One round of `Synchronize` brings the daemon in line with the store

`CompareWith` reports "ok" exactly when the running services agree with the store's map
(`inSync_of_compareWith`, `compareWith_ok_of_inSync`): each running service is in the map with the
same options and the same backends at the same addresses, and each service of the map runs. So
`CompareWith` against a snapshot of the running services reports nothing (`compareWith_snapshot`).

`Synchronize` leaves the services it keeps agreeing with the map, and creates the others from it;
`Validate` then fills the options it creates a service with, and lower-cases them. When the
options of the map are already in the form `Validate` leaves (`ServiceOptions.Normal`), the service
created agrees with them (`compareStoreOptions_runValidate`). So a round that returns nil, from a
state the daemon can reach and over orders that produce each key once, leaves nothing for the next
`CompareWith` to report (`synchronize_settles`), and the next `Synchronize` on the same map does
nothing. Options not in normal form, such as a document's that gives only a port, can leave
something to report after every round.

Conversely, a round that returns nil and leaves the running services as they were, over any order,
had nothing to do (`status_ok_iff_sync_idle`): an object that runs at the end and at the start was
kept by its body, in line with the map (`Survives`), and a service of the map that did not run at
the start would have been created.

The store's reconciler validates each document's options when it reads them, and a validation that
succeeds leaves them in normal form (`runValidate_normal`). With names that resolve the same way at
every call it reads the same services from the same documents each time, so a `StartSyncWithStore`
that answers nil on documents that validate leaves the next `StoreSyncStatus` reporting "ok".
-/

namespace Gorb

open StoreSyncStatus

/-- A running service in line with its entry of the store's map adds nothing to the lists of
`CompareWith`. -/
theorem ServiceInSync.reports_nothing {e : Σ _ : String, Service} {cfg : ServiceConfig}
    (h : ServiceInSync e.2 cfg) :
    removedServiceOf e (some cfg) = [] ∧ missingOf e (some cfg) = [] ∧
      updatedServiceOf e (some cfg) = [] ∧ outdatedOf e (some cfg) = [] ∧
      newBackendsOf e (some cfg) = [] := by
  refine ⟨rfl, List.eq_nil_iff_forall_not_mem.2 fun p hp => ?_,
    by simp [updatedServiceOf, h.options], List.eq_nil_iff_forall_not_mem.2 fun p hp => ?_,
    List.eq_nil_iff_forall_not_mem.2 fun t ht => ?_⟩
  · obtain ⟨_, ⟨⟩, -, hin, hout⟩ := mem_missingOf.1 hp
    obtain ⟨rs, hrs⟩ := Option.isSome_iff_exists.1 (AList.lookup_isSome.2 hin)
    obtain ⟨o, ho, -⟩ := h.stored _ rs hrs
    exact hout ((exists_lookup_iff_mem _ _).1 ⟨o, ho⟩)
  · obtain ⟨_, rs, b, ⟨⟩, -, hrs, hb, hc⟩ := mem_outdatedOf.1 hp
    obtain ⟨o, ho, hcmp⟩ := h.stored _ rs hrs
    rw [hb, Option.some.injEq] at ho
    rw [ho, hcmp] at hc
    cases hc
  · obtain ⟨_, ⟨⟩, -, hb, hout⟩ := mem_newBackendsOf.1 ht
    exact hout (h.running _ ((exists_lookup_iff_mem _ _).1 ⟨_, hb⟩))

/-- `CompareWith` reports "ok" when the running services agree with the store's map. With
`inSync_of_compareWith`, it reports "ok" exactly then. -/
theorem compareWith_ok_of_inSync {ctx : Context} {d : StrMap ServiceConfig} (h : InSync ctx d) :
    (ctx.compareWith d).Status = "ok" := by
  have hnd : ctx.services.entries.keys.Nodup := ctx.services.nodupKeys
  have hnone : ∀ e ∈ ctx.services.entries, ∃ cfg, d.lookup e.1 = some cfg ∧
      removedServiceOf e (some cfg) = [] ∧ missingOf e (some cfg) = [] ∧
      updatedServiceOf e (some cfg) = [] ∧ outdatedOf e (some cfg) = [] ∧
      newBackendsOf e (some cfg) = [] := fun e he => by
    obtain ⟨cfg, hcfg, hsync⟩ := h.stored e.1 e.2 (AList.mem_lookup_iff.2 he)
    exact ⟨cfg, hcfg, hsync.reports_nothing⟩
  have hleft : ∀ k, (ctx.services.entries.foldl compareService ({}, d)).2.lookup k = none := by
    intro k
    by_cases hk : k ∈ ctx.services
    · exact foldl_compareService_lookup_of_mem hnd hk _
    · rw [foldl_compareService_lookup (mt AList.mem_keys.1 hk)]
      exact AList.lookup_eq_none.2 (mt (h.running k) hk)
  simp only [Context.compareWith, foldl_newServices, foldl_compareService_eq hnd, List.nil_append,
    checkStatus_eq_ok, Clean, List.map_eq_nil_iff, List.flatMap_eq_nil_iff]
  refine ⟨fun e he => ?_, fun e he => ?_, fun e he => ?_, fun e he => ?_,
    by simp [AList.keys, entries_eq_nil_of_lookup hleft], fun e he => ?_⟩ <;>
  · obtain ⟨cfg, hcfg, hs⟩ := hnone e he
    simp only [hcfg, hs]

/-- `CompareWith` reports "ok" exactly when it found no difference. -/
theorem compareWith_ok_iff_clean (ctx : Context) (d : StrMap ServiceConfig) :
    (ctx.compareWith d).Status = "ok" ↔ (ctx.compareWith d).Clean := by
  unfold Context.compareWith
  exact checkStatus_eq_ok _

/-! ### A snapshot of the running services -/

/-- The map with the keys of `m` and each value sent through `f`. -/
def StrMap.mapValues {α β : Type} (f : α → β) (m : StrMap α) : StrMap β :=
  m.entries.foldr (fun e acc => acc.insert e.1 (f e.2)) ∅

@[simp] theorem StrMap.lookup_mapValues {α β : Type} (f : α → β) (m : StrMap α) (k : String) :
    (m.mapValues f).lookup k = (m.lookup k).map f := by
  rcases m with ⟨l, hl⟩
  induction l with
  | nil => rfl
  | cons e l ih =>
    rcases e with ⟨a, v⟩
    have ih' := ih hl.tail
    simp only [StrMap.mapValues, List.foldr_cons] at ih' ⊢
    by_cases hk : k = a
    · subst hk
      simp [AList.lookup, List.dlookup_cons_eq]
    · rw [AList.lookup_insert_ne hk, ih']
      simp [AList.lookup, List.dlookup_cons_ne l ⟨a, v⟩ hk]

@[simp] theorem StrMap.mem_mapValues {α β : Type} (f : α → β) (m : StrMap α) (k : String) :
    k ∈ m.mapValues f ↔ k ∈ m := by
  simp only [← AList.lookup_isSome, StrMap.lookup_mapValues, Option.isSome_map']

/-- The running services as the store would describe them: each service's options, and the
options of its backends. -/
def Context.snapshot (ctx : Context) : StrMap ServiceConfig :=
  ctx.services.mapValues fun vs => ⟨vs.options, vs.backends.mapValues (·.options)⟩

/-- `CompareWith` against a snapshot of the running services finds nothing to report, whatever the
Context holds. -/
theorem compareWith_snapshot (ctx : Context) :
    (ctx.compareWith ctx.snapshot).Status = "ok" ∧ (ctx.compareWith ctx.snapshot).Clean := by
  have hok : (ctx.compareWith ctx.snapshot).Status = "ok" := compareWith_ok_of_inSync
    ⟨fun vsID vs hvs => ⟨⟨vs.options, vs.backends.mapValues (·.options)⟩, by simp [Context.snapshot, hvs],
      ⟨by simp [ServiceOptions.compareStoreOptions],
        fun rsID rs hrs => ⟨rs.options, by simp [hrs], by simp [BackendOptions.compareStoreOptions]⟩,
        fun rsID hin => by simpa using hin⟩⟩,
      fun vsID hin => by simpa [Context.snapshot] using hin⟩
  exact ⟨hok, (compareWith_ok_iff_clean _ _).1 hok⟩

/-- A round of `Synchronize` that returns nil, from a state of a run and over orders that produce
each key once, on a map in normal form, leaves the running services agreeing with the map. -/
theorem synchronize_inSync (env : Env) (order : SyncOrder) (d : StrMap ServiceConfig) (s : Machine)
    (hs : Reachable env s) (horder : order.services.Nodup ∧ ∀ vsID, (order.backends vsID).Nodup)
    (hnormal : ∀ vsID cfg, d.lookup vsID = some cfg → cfg.ServiceOptions.Normal)
    (h : ((synchronize env order d).exec s).1 = .ok ()) :
    InSync ((synchronize env order d).exec s).2.ctx d := by
  have hcomplete := synchronize_complete_of_fresh env order d s hs.fresh horder h
  refine ⟨fun vsID vs hvs => ?_, fun vsID hin => ?_⟩
  · obtain ⟨cfg, hcfg, hopt, hb⟩ := synchronize_agrees env order d s h vsID vs hvs
    obtain ⟨vs', hvs', hall⟩ := hcomplete vsID cfg hcfg
    rw [hvs, Option.some.injEq] at hvs'
    subst hvs'
    exact ⟨cfg, hcfg, hopt (hnormal vsID cfg hcfg), hb, hall⟩
  · obtain ⟨cfg, hcfg⟩ := (exists_lookup_iff_mem _ _).2 hin
    obtain ⟨vs, hvs, -⟩ := hcomplete vsID cfg hcfg
    exact (exists_lookup_iff_mem _ _).1 ⟨vs, hvs⟩

/-- When `Synchronize` returns nil from any state the daemon can reach, over orders that produce
each key of the maps once, on a store's map whose options are in `Validate`'s normal form,
`CompareWith` on the same map reports "ok" afterwards: one round brings the daemon in line with the
store. -/
theorem synchronize_settles (env : Env) (order : SyncOrder) (d : StrMap ServiceConfig) (s : Machine)
    (hs : Reachable env s) (horder : order.services.Nodup ∧ ∀ vsID, (order.backends vsID).Nodup)
    (hnormal : ∀ vsID cfg, d.lookup vsID = some cfg → cfg.ServiceOptions.Normal)
    (h : ((synchronize env order d).exec s).1 = .ok ()) :
    (((synchronize env order d).exec s).2.ctx.compareWith d).Status = "ok" :=
  compareWith_ok_of_inSync (synchronize_inSync env order d s hs horder hnormal h)

theorem grown_sync_settles :
    Reachable webEnv firstBackend ∧
      ((["web"] : List String).Nodup ∧ ∀ _ : String, (["a"] : List String).Nodup) ∧
      (∀ vsID cfg, grownStore.lookup vsID = some cfg → cfg.ServiceOptions.Normal) ∧
      ((synchronize webEnv ⟨["web"], fun _ => ["a"]⟩ grownStore).exec firstBackend).1 = .ok () ∧
      (((synchronize webEnv ⟨["web"], fun _ => ["a"]⟩ grownStore).exec firstBackend).2.ctx.compareWith
        grownStore).Status = "ok" := by
  have hnormal : ∀ vsID cfg, grownStore.lookup vsID = some cfg → cfg.ServiceOptions.Normal := by
    intro vsID cfg h
    by_cases hv : vsID = "web"
    · subst hv
      cases h
      decide
    · rw [grownStore, AList.lookup_insert_ne hv] at h
      cases h
  exact ⟨reachable_firstBackend, ⟨List.nodup_singleton _, fun _ => List.nodup_singleton _⟩, hnormal,
    by rw [synchronize_grown],
    synchronize_settles webEnv _ grownStore firstBackend reachable_firstBackend
      ⟨List.nodup_singleton _, fun _ => List.nodup_singleton _⟩ hnormal (by rw [synchronize_grown])⟩

/-! ### A round that leaves the services as they were

Over any order, even one that produces a re-created service again, a round of `Synchronize` that
returns nil and leaves the services as they were had nothing to do. A body of the loop that keeps
its service leaves options `CompareWith` finds equal to the store's, and adds every backend of the
store the service lacked; one that replaces or removes its service leaves a fresh object or none;
a body run again on a key already erased from the map removes the service. So every object that
runs at the end and ran at the start was kept, with its options in line and every backend of the
store, and every service of the map that did not run at the start was created. -/

section Same

variable {env : Env} {order : SyncOrder} {k : String} {s s' : Machine}

/-- A body of `Synchronize`'s loop on a key the store's map no longer has removes the service. -/
theorem syncService_removes {v : Service} {acc acc' : StrMap ServiceConfig}
    (hacc : acc.lookup k = none) (h : (syncService env order k v acc).exec s = (.ok acc', s')) :
    acc' = acc ∧ s'.ctx.services.lookup k = none := by
  rcases syncService_cases h with ⟨-, rfl, o, hr⟩ | ⟨cfg, -, -, -, hcfg, -⟩
  · rcases (removeService_services hr).2 with ⟨⟨_, ⟨⟩⟩, -⟩ | ⟨-, hk⟩
    rw [hk, AList.lookup_erase]
    exact ⟨rfl, rfl⟩
  · rw [hacc] at hcfg
    cases hcfg

/-- A body of `Synchronize`'s loop that returns on the running object `v` at `k`, below `s.next`,
over any order: `k` is erased from the store's map, and what runs under `k` afterwards is `v`
kept, with options in line with the store's `cfg` and every backend of `cfg` that `v` lacked, or
a fresh object. -/
theorem syncService_survives {v : Service} {acc acc' : StrMap ServiceConfig} {cfg : ServiceConfig}
    (hv : s.ctx.services.lookup k = some v) (hfresh : v.ref < s.next)
    (hcfg : acc.lookup k = some cfg) (h : (syncService env order k v acc).exec s = (.ok acc', s')) :
    acc' = acc.erase k ∧ ∀ vs, s'.ctx.services.lookup k = some vs →
      (vs.options.compareStoreOptions cfg.ServiceOptions = true ∧
        ∀ rsID, rsID ∈ cfg.ServiceBackends → rsID ∈ v.backends ∨ rsID ∈ vs.backends) ∨
      s.next ≤ vs.ref := by
  rcases syncService_cases h with ⟨hnone, -⟩ | ⟨cfg', s₂, sbs, s₃, hcfg', rfl, hstart, hg, hf⟩
  · rw [hcfg] at hnone
    cases hnone
  rw [hcfg, Option.some.injEq] at hcfg'
  subst hcfg'
  refine ⟨rfl, fun vs hvs => ?_⟩
  rcases hstart with ⟨-, o, s₁, hr, hc⟩ | ⟨hcmp, rfl⟩
  · obtain ⟨vs₂, hvs₂, href₂, -⟩ := createService_creates hc
    have hnext : s₁.next = s.next := (removeService_services hr).1
    have hidle : ∀ rsID, liveBackend k v.ref s₂ rsID = none := fun rsID => by
      have : vs₂.ref ≠ v.ref := by omega
      simp [liveBackend, hvs₂, this]
    rw [goRange_idle hidle, Prod.mk.injEq, Except.ok.injEq] at hg
    obtain ⟨rfl, rfl⟩ := hg
    obtain ⟨vs', hvs', href', -⟩ := createBackends_complete (Q := fun _ => False) hf
      ⟨vs₂, hvs₂, href₂, rfl, fun _ => False.elim⟩
    rw [hvs', Option.some.injEq] at hvs
    subst hvs
    exact .inr (by omega)
  · obtain ⟨vs₂, hvs₂, href₂, hopt₂, hout⟩ := syncBackends_keep _ hv hg
    obtain ⟨vs', hvs', -, hopt', hall⟩ :=
      createBackends_complete (Q := fun rsID => rsID ∈ cfg.ServiceBackends ∧ rsID ∉ v.backends) hf
        ⟨vs₂, hvs₂, href₂, hopt₂, fun rsID ⟨hin, hn⟩ => .inr ((hout rsID hin).resolve_left hn)⟩
    rw [hvs', Option.some.injEq] at hvs
    subst hvs
    refine .inl ⟨hopt' ▸ hcmp, fun rsID hin => ?_⟩
    by_cases hn : rsID ∈ v.backends
    · exact .inl hn
    · exact .inr (hall rsID ⟨hin, hn⟩)

/-- The loop that creates what the range left of the store's map: a key it does not create keeps
its entry, and a key it creates runs an object at or above the next handle it started from. -/
theorem createServices_fresh {rem : List (Σ _ : String, ServiceConfig)}
    (h : (rem.forM fun e => createService env e.1 e.2).exec s = (.ok (), s')) (k : String) :
    (k ∉ rem.keys → s'.ctx.services.lookup k = s.ctx.services.lookup k) ∧
      (k ∈ rem.keys → ∃ vs, s'.ctx.services.lookup k = some vs ∧ s.next ≤ vs.ref) := by
  refine (forM_ok (P := fun rem' t => s.next ≤ t.next ∧ (∀ y ∈ rem', y.1 ∈ rem.keys) ∧
      (k ∉ rem.keys → t.ctx.services.lookup k = s.ctx.services.lookup k) ∧
      (k ∈ rem.keys → k ∉ rem'.keys → ∃ vs, t.ctx.services.lookup k = some vs ∧ s.next ≤ vs.ref))
    ?_ rem h ⟨le_rfl, fun y hy => List.mem_keys_of_mem hy, fun _ => rfl,
      fun hk hn => absurd hk hn⟩).2.2.imp_right fun hc hk => hc hk (List.not_mem_nil _)
  rintro x rem' t t' ⟨hnext, hin, hout, hdone⟩ hx
  have hnext' : t.next ≤ t'.next :=
    (@keeps_createService env (fun u => t.next ≤ u.next) x.1 (fun _ _ => True) (fun _ => True)
      (fun _ opts _ => keeps_next_createBackend opts) (fun cfg _ => keeps_next_registerService cfg)
      (fun _ _ _ _ => trivial) x.2 trivial).after_exec hx le_rfl
  have hother := createService_othersAs env x.1 x.2 t
  rw [hx] at hother
  have hx₁ : x.1 ∈ rem.keys := hin x (List.mem_cons_self _ _)
  refine ⟨hnext.trans hnext', fun y hy => hin y (List.mem_cons_of_mem _ hy),
    fun hk => by rw [hother k fun h => hk (h ▸ hx₁)]; exact hout hk, fun hk hn => ?_⟩
  by_cases hkx : k = x.1
  · subst hkx
    obtain ⟨vs, hvs, href, -⟩ := createService_creates hx
    exact ⟨vs, hvs, by omega⟩
  · rw [hother k hkx]
    exact hdone hk fun h => (List.mem_cons.1 h).elim hkx hn

/-- Where the key `k` stands in a run of `Synchronize` over the store's map `d` from `s₀`, with `acc`
left of the map: its body has not run and `k` is as it was, or its body has run, `k` is out of the
map, `k` ran at `s₀`, and an object below `s₀.next` running under `k` is the one that ran at `s₀`,
kept with options in line with the store's and every backend of the store. -/
def Survives (d : StrMap ServiceConfig) (s₀ t : Machine) (acc : StrMap ServiceConfig) (k : String) :
    Prop :=
  acc.lookup k = d.lookup k ∧ t.ctx.services.lookup k = s₀.ctx.services.lookup k ∨
    acc.lookup k = none ∧ k ∈ s₀.ctx.services ∧ ∀ vs, t.ctx.services.lookup k = some vs →
      vs.ref < s₀.next → ∃ vs₀ cfg, s₀.ctx.services.lookup k = some vs₀ ∧ d.lookup k = some cfg ∧
        vs.options.compareStoreOptions cfg.ServiceOptions = true ∧
        ∀ rsID, rsID ∈ cfg.ServiceBackends → rsID ∈ vs₀.backends ∨ rsID ∈ vs.backends

/-- Every run of the loop's body, first or repeated, keeps `Survives` of every key, from a machine
whose service objects are all below its next handle. -/
theorem Survives.step {d : StrMap ServiceConfig} {s₀ t t' : Machine} {v : Service}
    {acc acc' : StrMap ServiceConfig}
    (hfresh : ∀ k vs, s₀.ctx.services.lookup k = some vs → vs.ref < s₀.next)
    (hnext : s₀.next ≤ t.next) (hI : ∀ j, Survives d s₀ t acc j)
    (hk : t.ctx.services.lookup k = some v)
    (hb : (syncService env order k v acc).exec t = (.ok acc', t')) (j : String) :
    Survives d s₀ t' acc' j := by
  by_cases hj : j = k
  · subst hj
    rcases hI j with ⟨hacc, hsame⟩ | ⟨hacc, hmem, -⟩
    · have hv₀ : s₀.ctx.services.lookup j = some v := hsame ▸ hk
      have hmem : j ∈ s₀.ctx.services := AList.lookup_isSome.1 (by simp [hv₀])
      rcases hd : d.lookup j with _ | cfg
      · obtain ⟨rfl, hgone⟩ := syncService_removes (hacc.trans hd) hb
        exact .inr ⟨hacc.trans hd, hmem, fun vs h => by rw [hgone] at h; cases h⟩
      · obtain ⟨rfl, hkept⟩ := syncService_survives hk
          ((hfresh j v hv₀).trans_le hnext) (hacc.trans hd) hb
        refine .inr ⟨AList.lookup_erase _ _, hmem, fun vs h hlt => ?_⟩
        rcases hkept vs h with ⟨hcmp, hall⟩ | hge
        · exact ⟨v, cfg, hv₀, hd, hcmp, hall⟩
        · omega
    · obtain ⟨rfl, hgone⟩ := syncService_removes hacc hb
      exact .inr ⟨hacc, hmem, fun vs h => by rw [hgone] at h; cases h⟩
  · have hother := syncService_othersAs env order k v acc t
    rw [hb] at hother
    have hacc' : acc'.lookup j = acc.lookup j := by
      rcases (syncService_result order k v acc t trivial).2 acc' (by rw [hb]) with rfl | rfl
      · rfl
      · exact AList.lookup_erase_ne hj
    unfold Survives
    rw [hacc', hother j hj]
    exact hI j

end Same

/-- A round of `Synchronize` that returns nil, over any order, from a machine whose service objects
are all below its next handle, and leaves the services as they were, was run on a map the running
services are in line with. -/
theorem inSync_of_synchronize_same (env : Env) (order : SyncOrder) (d : StrMap ServiceConfig)
    (s : Machine) (hfresh : ∀ k vs, s.ctx.services.lookup k = some vs → vs.ref < s.next)
    (h : ((synchronize env order d).exec s).1 = .ok ())
    (hsame : ((synchronize env order d).exec s).2.ctx.services = s.ctx.services) :
    InSync s.ctx d := by
  have hlisted := synchronize_agrees env order d s h
  rcases hs : (synchronize env order d).exec s with ⟨r, s'⟩
  rw [hs] at h hlisted hsame
  subst h
  simp only [synchronize, exec_bind] at hs
  rcases hg : (goRange (fun s => s.ctx.services.keys) liveService (syncService env order)
    order.services d).exec s with ⟨_ | acc, s₁⟩ <;> simp only [hg] at hs
  · cases hs
  obtain ⟨hnext, hI⟩ := goRange_inv (keepsOthers_syncService order)
    (I := fun t acc => s.next ≤ t.next ∧ ∀ j, Survives d s t acc j)
    (fun t k n v acc acc' t' ⟨hn, hI⟩ hk hb => by
      obtain ⟨v, hv, ⟨⟩⟩ := liveService_eq_some.1 hk
      have hn' := syncService_next env order k v acc t
      rw [hb] at hn'
      exact ⟨hn.trans hn', Survives.step hfresh hn hI hv hb⟩)
    _ hg ⟨le_rfl, fun _ => .inl ⟨rfl, rfl⟩⟩
  have hfinal := createServices_fresh hs
  have hkeys : ∀ j, j ∈ acc.entries.keys ↔ acc.lookup j ≠ none := fun _ =>
    AList.mem_keys.trans (AList.lookup_isSome.symm.trans Option.isSome_iff_ne_none)
  refine ⟨fun j vs₀ hvs₀ => ?_, fun j hin => ?_⟩
  · obtain ⟨cfg, hcfg, -, hbacks⟩ := hlisted j vs₀ (hsame ▸ hvs₀)
    have hlt := (hfresh j vs₀ hvs₀)
    rcases hI j with ⟨hacc, -⟩ | ⟨hacc, -, hkept⟩
    · obtain ⟨vs, hvs, hge⟩ := (hfinal j).2 ((hkeys j).2 (by rw [hacc, hcfg]; simp))
      rw [hsame, hvs₀, Option.some.injEq] at hvs
      subst hvs
      omega
    · have h₁ : s₁.ctx.services.lookup j = some vs₀ := by
        rw [← (hfinal j).1 fun h => (hkeys j).1 h hacc, hsame, hvs₀]
      obtain ⟨vs₁, cfg', hvs₁, hcfg', hcmp, hall⟩ := hkept vs₀ h₁ hlt
      rw [hvs₀, Option.some.injEq] at hvs₁
      rw [hcfg, Option.some.injEq] at hcfg'
      subst hvs₁ hcfg'
      exact ⟨cfg, hcfg, hcmp, hbacks, fun rsID hin => (hall rsID hin).elim id id⟩
  · rcases hI j with ⟨hacc, -⟩ | ⟨-, hmem, -⟩
    · obtain ⟨cfg, hcfg⟩ := (exists_lookup_iff_mem _ _).2 hin
      obtain ⟨vs, hvs, -⟩ := (hfinal j).2 ((hkeys j).2 (by rw [hacc, hcfg]; simp))
      rw [hsame] at hvs
      exact AList.lookup_isSome.1 (by simp [hvs])
    · exact hmem

/-- `CompareWith` reports "ok" exactly when `Synchronize` on the same map has nothing to do. When it
reports "ok", `Synchronize` returns nil and leaves the daemon as it was, whatever order the runtime
ranges over the maps in. From any state the daemon can reach, a `Synchronize` that returns nil and
leaves the running services as they were, over any order, was run on a map `CompareWith` reports
"ok" for. -/
theorem status_ok_iff_sync_idle (env : Env) (s : Machine) (d : StrMap ServiceConfig) :
    ((s.ctx.compareWith d).Status = "ok" → ∀ order, (synchronize env order d).exec s = (.ok (), s)) ∧
    (Reachable env s → ∀ order, ((synchronize env order d).exec s).1 = .ok () →
      ((synchronize env order d).exec s).2.ctx.services = s.ctx.services →
      (s.ctx.compareWith d).Status = "ok") :=
  ⟨synchronize_idle_of_status_ok env s d, fun hs order h hsame =>
    compareWith_ok_of_inSync (inSync_of_synchronize_same env order d s
      (fun k vs hvs => (hs.fresh k vs hvs).1) h hsame)⟩

theorem first_backend_sync_idle :
    Reachable webEnv firstBackend ∧ (firstBackend.ctx.compareWith webStore).Status = "ok" ∧
      (synchronize webEnv ⟨["web"], fun _ => ["a"]⟩ webStore).exec firstBackend =
        (.ok (), firstBackend) := by
  have hsync := (status_ok_iff_sync_idle webEnv firstBackend webStore).1 (by decide)
    ⟨["web"], fun _ => ["a"]⟩
  exact ⟨reachable_firstBackend, (status_ok_iff_sync_idle webEnv firstBackend webStore).2
    reachable_firstBackend _ (by rw [hsync]) (by rw [hsync]), hsync⟩

/-! ### A round of the store's reconciler -/

section Store

variable {env : Env}

/-- With names that resolve the same way at every call, `getStoreServices` builds the same services
from the same pairs, from whatever machine. -/
theorem storeServices_stable {r : String → Option IP} (hdns : ∀ n, env.dns n = r)
    (kvs : List KVPair) (services : StrMap ServiceConfig) (s t : Machine) :
    ((storeServices env kvs services).exec s).1 = ((storeServices env kvs services).exec t).1 := by
  induction kvs generalizing services s t with
  | nil => rfl
  | cons kv kvs ih =>
    simp only [storeServices]
    split
    · exact ih services s t
    · rfl
    · split
      · exact ih services s t
      · simp only [exec_bind, resolver_exec, hdns]
        exact ih _ _ _

/-- Documents whose options validate give services in `Validate`'s normal form. -/
theorem storeServices_normal {kvs : List KVPair} {d : StrMap ServiceConfig} {s s' : Machine}
    (h : (storeServices env kvs ∅).exec s = (.ok (.ok d), s'))
    (hvalid : ∀ kv ∈ kvs, ∀ doc o, kv.Value = some (.ok doc) → doc.ServiceOptions = some o →
      ∀ n, (o.runValidate none (env.dns n) env.lower).1 = .ok ()) :
    ∀ vsID cfg, d.lookup vsID = some cfg → cfg.ServiceOptions.Normal := by
  intro vsID cfg hd
  rcases storeServices_lookup h hd with hk | ⟨kv, hkv, doc, o, n, hv, ho, -, rfl⟩
  · exact nomatch hk
  · exact ServiceOptions.runValidate_normal (hvalid kv hkv doc o hv ho n)

/-- What a `StartSyncWithStore` that answers nil did: it built the services of the listing, letting
the resolutions pass, and `Synchronize` on them returned nil. -/
theorem startSyncWithStore_ok {order : SyncOrder} {kvlist : Except ListError (List KVPair)}
    {s : Machine} (h : ((Store.startSyncWithStore env order kvlist).exec s).1 = .ok (.ok ())) :
    ∃ n d, (getStoreServices env kvlist).exec s = (.ok (.ok d), s.advance n) ∧
      ((synchronize env order d).exec (s.advance n)).1 = .ok () ∧
      ((Store.startSyncWithStore env order kvlist).exec s).2 =
        ((synchronize env order d).exec (s.advance n)).2 := by
  obtain ⟨n, R, hg, -⟩ := getStoreServices_spec env kvlist s
  simp only [Store.startSyncWithStore, exec_bind, hg, attempt_exec] at h ⊢
  rcases R with e | d
  · cases h
  simp only [exec_bind, attempt_exec] at h ⊢
  rcases hx : (synchronize env order d).exec (s.advance n) with ⟨_ | _, t⟩ <;>
    simp only [hx, exec_pure] at h ⊢
  · cases h
  · exact ⟨n, d, rfl, by rw [hx], by rw [hx]⟩

end Store

/-- With names that resolve the same way at every call, a `StartSyncWithStore` that answers nil on
documents whose options all validate, from any state the daemon can reach and over orders that
produce each key once, leaves `StoreSyncStatus` on the same documents reporting "ok": one round of
the reconciler reaches its fixed point. On the way, a `Validate` that succeeds leaves its options in
normal form. -/
theorem store_sync_settles (env : Env) (r : String → Option IP) (hdns : ∀ n, env.dns n = r)
    (order : SyncOrder) (horder : order.services.Nodup ∧ ∀ vsID, (order.backends vsID).Nodup)
    (kvs : List KVPair)
    (hvalid : ∀ kv ∈ kvs, ∀ doc o, kv.Value = some (.ok doc) → doc.ServiceOptions = some o →
      (o.runValidate none r env.lower).1 = .ok ())
    (s : Machine) (hs : Reachable env s)
    (hsync : ((Store.startSyncWithStore env order (.ok kvs)).exec s).1 = .ok (.ok ())) :
    (∀ (o : ServiceOptions) (endpoint : Option IP) (resolve : String → Option IP) (cm : CaseMap),
      (o.runValidate endpoint resolve cm).1 = .ok () → (o.runValidate endpoint resolve cm).2.Normal) ∧
    ∃ st, ((Store.storeSyncStatus env (.ok kvs)).exec
        ((Store.startSyncWithStore env order (.ok kvs)).exec s).2).1 = .ok (.ok st) ∧
      st.Status = "ok" := by
  refine ⟨fun _ _ _ _ => ServiceOptions.runValidate_normal, ?_⟩
  obtain ⟨n, d, hg, hok, heq⟩ := startSyncWithStore_ok hsync
  rw [heq]
  set t := ((synchronize env order d).exec (s.advance n)).2
  obtain ⟨n', R, hg', -⟩ := getStoreServices_spec env (.ok kvs) t
  have hR : R = .ok d := by
    have := storeServices_stable hdns kvs ∅ t s
    rw [show storeServices env kvs ∅ = getStoreServices env (.ok kvs) from rfl, hg', hg] at this
    simpa using this
  subst hR
  have hnormal := storeServices_normal hg fun kv hkv doc o hv ho m => by
    rw [hdns]
    exact hvalid kv hkv doc o hv ho
  have hst : ((Store.storeSyncStatus env (.ok kvs)).exec t).1 = .ok (.ok (t.ctx.compareWith d)) := by
    simp only [Store.storeSyncStatus, exec_bind, hg', exec_get, exec_pure]
    rfl
  exact ⟨_, hst, compareWith_ok_of_inSync
    (synchronize_inSync env order d (s.advance n) (hs.advance n) horder hnormal hok)⟩

/-- The store's pair for `web`: its address, and the backends `a` and `b`. -/
def grownPairs : List KVPair :=
  [⟨"services/web", some (.ok ⟨some { Host := "10.0.0.1", Port := 80 },
    ((∅ : StrMap BackendOptions).insert "a" webBackend).insert "b" webBackendB⟩)⟩]

/-- `StartSyncWithStore` on `grownPairs` from `firstBackend` reads the store, then creates `b`. -/
theorem startSyncWithStore_grown :
    ((Store.startSyncWithStore webEnv ⟨["web"], fun _ => ["a"]⟩ (.ok grownPairs)).exec
      firstBackend).1 = .ok (.ok ()) := by
  obtain ⟨d, t, hg, hsync⟩ : ∃ d t, (getStoreServices webEnv (.ok grownPairs)).exec firstBackend =
      (.ok (.ok d), firstBackend.advance 1) ∧
      (synchronize webEnv ⟨["web"], fun _ => ["a"]⟩ d).exec (firstBackend.advance 1) = (.ok (), t) :=
    ⟨_, _, Prod.ext rfl rfl,
      @synchronize_adds_backend webEnv _ _ "web" "a" "b"
        ((firstBackend.ctx.services.lookup "web").get (by decide))
        ((((firstBackend.ctx.services.lookup "web").get (by decide)).backends.lookup "a").get
          (by decide)) _ _ _ (by decide) (Option.some_get _).symm rfl (by decide) (by decide) (Option.some_get _).symm
        ⟨webBackend, rfl, by decide⟩ rfl (Prod.ext rfl rfl)⟩
  simp only [Store.startSyncWithStore, exec_bind, hg, attempt_exec, hsync, exec_pure]

theorem grown_store_settles :
    (∀ n, webEnv.dns n = fun host => some ⟨host, .inet⟩) ∧
      ((["web"] : List String).Nodup ∧ ∀ _ : String, (["a"] : List String).Nodup) ∧
      (∀ kv ∈ grownPairs, ∀ doc o, kv.Value = some (.ok doc) → doc.ServiceOptions = some o →
        (o.runValidate none (fun host => some ⟨host, .inet⟩) webEnv.lower).1 = .ok ()) ∧
      Reachable webEnv firstBackend ∧
      ((Store.startSyncWithStore webEnv ⟨["web"], fun _ => ["a"]⟩ (.ok grownPairs)).exec
        firstBackend).1 = .ok (.ok ()) ∧
      (∀ (o : ServiceOptions) (endpoint : Option IP) (resolve : String → Option IP) (cm : CaseMap),
        (o.runValidate endpoint resolve cm).1 = .ok () →
          (o.runValidate endpoint resolve cm).2.Normal) ∧
      ∃ st, ((Store.storeSyncStatus webEnv (.ok grownPairs)).exec
          ((Store.startSyncWithStore webEnv ⟨["web"], fun _ => ["a"]⟩ (.ok grownPairs)).exec
            firstBackend).2).1 = .ok (.ok st) ∧ st.Status = "ok" := by
  have hvalid : ∀ kv ∈ grownPairs, ∀ doc o, kv.Value = some (.ok doc) →
      doc.ServiceOptions = some o →
      (o.runValidate none (fun host => some ⟨host, .inet⟩) webEnv.lower).1 = .ok () := by
    rintro kv (_ | ⟨_, ⟨⟩⟩) doc o hv ho
    cases hv
    cases ho
    rfl
  exact ⟨fun _ => rfl, ⟨List.nodup_singleton _, fun _ => List.nodup_singleton _⟩, hvalid,
    reachable_firstBackend, startSyncWithStore_grown,
    store_sync_settles webEnv _ (fun _ => rfl) _ ⟨List.nodup_singleton _, fun _ => List.nodup_singleton _⟩
      grownPairs hvalid _ reachable_firstBackend startSyncWithStore_grown⟩

end Gorb
