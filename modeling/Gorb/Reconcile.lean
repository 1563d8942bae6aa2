import Gorb.Errors

/-!
# The diff and the sync

`CompareWith` and `Synchronize` walk the running services against the store's independently.
When the diff is empty (`Status` is "ok") every running service is in the store with equal options
and the same backends with equal options, and the store names no other (`InSync`). From such a
Context every body of `Synchronize`'s loops finds its key still in the store's map and only erases
it, and every key is produced once whatever the order of the `range` (`goRange_erases`): the loops
end with empty maps, nothing is created, and the daemon is left as it was. A `Synchronize` that
fails before its first IPVS call leaves the Context as it was while the diff is not empty; one that
returns nil and leaves the services as they were had an empty diff (`Settle`).

A service whose store options changed is replaced: `removeService`, then `createService`, which
creates every backend of the store as well. The loop over the old object's backends then produces
nothing, and the loop over the store's backends left over creates the same backends a second time,
which fails: `Synchronize` does not converge whenever such a service has a backend
(`synchronize_fails_replacing_service`). The proof follows the one entry through Go's `range`: the
bodies for the other keys leave it and its store entry as they were (`Untouched`), and the range
reaches it (`goRange_fails`).
-/

namespace Gorb

/-! ### Maps -/

theorem lookup_of_lookup_erase {β : Type} {m : StrMap β} {a k : String} {v : β}
    (h : (m.erase a).lookup k = some v) : m.lookup k = some v := by
  by_cases hk : k = a
  · subst hk
    simp at h
  · rwa [AList.lookup_erase_ne hk] at h

theorem lookup_eq_none_of_entries {β : Type} {m : StrMap β} (h : m.entries = []) (k : String) :
    m.lookup k = none := by
  unfold AList.lookup
  rw [h]
  rfl

theorem entries_eq_nil_of_lookup {β : Type} {m : StrMap β} (h : ∀ k, m.lookup k = none) :
    m.entries = [] :=
  List.eq_nil_iff_forall_not_mem.2 fun e he => by
    have := AList.mem_lookup_iff.2 (show ⟨e.1, e.2⟩ ∈ m.entries from he)
    rw [h] at this
    cases this

/-! ### What an empty diff says -/

namespace StoreSyncStatus

/-- No difference found. -/
def Clean (st : StoreSyncStatus) : Prop :=
  st.RemovedServices = [] ∧ st.RemovedBackends = [] ∧ st.UpdatedServices = [] ∧
    st.UpdatedBackends = [] ∧ st.NewServices = [] ∧ st.NewBackends = []

theorem checkStatus_eq_ok (st : StoreSyncStatus) : st.checkStatus = "ok" ↔ st.Clean := by
  unfold checkStatus Clean
  split
  · next h =>
    simp only [Bool.and_eq_true, List.isEmpty_iff] at h
    simp only [h, and_self]
  · next h =>
    simp only [Bool.and_eq_true, List.isEmpty_iff] at h
    simp only [show ("need sync" : String) ≠ "ok" by decide, false_iff]
    tauto

end StoreSyncStatus

open StoreSyncStatus

theorem compareBackends_lookup {vsID k : String} {bes : List (Σ _ : String, Backend)}
    (hk : k ∉ bes.keys) (st : StoreSyncStatus) (sbs : StrMap BackendOptions) :
    (compareBackends vsID bes st sbs).2.lookup k = sbs.lookup k := by
  induction bes generalizing st sbs with
  | nil => rfl
  | cons e bes ih =>
    simp only [List.keys_cons, List.mem_cons, not_or] at hk
    simp only [compareBackends, List.foldl_cons] at ih ⊢
    split
    · exact ih hk.2 _ _
    · rw [ih hk.2, AList.lookup_erase_ne hk.1]

theorem compareBackends_clean {vsID : String} {bes : List (Σ _ : String, Backend)}
    {st : StoreSyncStatus} {sbs : StrMap BackendOptions}
    (h : (compareBackends vsID bes st sbs).1.Clean) :
    st.Clean ∧ ∀ e ∈ bes, ∃ o, sbs.lookup e.1 = some o ∧
      e.2.options.compareStoreOptions o = true := by
  induction bes generalizing st sbs with
  | nil => exact ⟨h, fun _ h => nomatch h⟩
  | cons e bes ih =>
    simp only [compareBackends, List.foldl_cons] at ih h
    split at h
    · exact absurd (ih h).1.2.1 (by simp)
    · next o ho =>
      obtain ⟨hst, hbes⟩ := ih h
      have hcmp : e.2.options.compareStoreOptions o = true := by
        by_contra hne
        simp [hne, Clean] at hst
      simp only [hcmp, Bool.not_true, Bool.false_eq_true, ite_false] at hst
      refine ⟨hst, fun e' he' => ?_⟩
      rcases List.mem_cons.1 he' with rfl | he'
      · exact ⟨o, ho, hcmp⟩
      · obtain ⟨o', ho', hc⟩ := hbes e' he'
        exact ⟨o', lookup_of_lookup_erase ho', hc⟩

theorem foldl_newBackends (l : List (Σ _ : String, BackendOptions)) (st : StoreSyncStatus) :
    l.foldl (fun st b =>
      { st with NewBackends := st.NewBackends ++ [backendName b.2.vsID b.1] }) st =
      { st with NewBackends := st.NewBackends ++ l.map fun b => backendName b.2.vsID b.1 } := by
  induction l generalizing st with
  | nil => simp
  | cons b l ih => simp [ih]

theorem newBackends_clean {l : List (Σ _ : String, BackendOptions)} {st : StoreSyncStatus}
    (h : (l.foldl (fun st b =>
      { st with NewBackends := st.NewBackends ++ [backendName b.2.vsID b.1] }) st).Clean) :
    st.Clean ∧ l = [] := by
  rw [foldl_newBackends] at h
  simp only [Clean, List.append_eq_nil, List.map_eq_nil_iff] at h ⊢
  tauto

theorem foldl_newServices (l : List String) (st : StoreSyncStatus) :
    l.foldl (fun st id => { st with NewServices := st.NewServices ++ [id] }) st =
      { st with NewServices := st.NewServices ++ l } := by
  induction l generalizing st with
  | nil => simp
  | cons b l ih => simp [ih]

/-- A running service and the store's agree as `CompareWith` compares them: the same options,
and the same backends with the same options. -/
structure ServiceInSync (vs : Service) (cfg : ServiceConfig) : Prop where
  options : vs.options.compareStoreOptions cfg.ServiceOptions = true
  stored : ∀ rsID rs, vs.backends.lookup rsID = some rs →
    ∃ o, cfg.ServiceBackends.lookup rsID = some o ∧ rs.options.compareStoreOptions o = true
  running : ∀ rsID, rsID ∈ cfg.ServiceBackends → rsID ∈ vs.backends

theorem compareService_clean {st : StoreSyncStatus} {acc : StrMap ServiceConfig}
    {e : Σ _ : String, Service} (h : (compareService (st, acc) e).1.Clean) :
    st.Clean ∧ ∃ cfg, acc.lookup e.1 = some cfg ∧ ServiceInSync e.2 cfg := by
  simp only [compareService] at h
  split at h
  · exact absurd h.1 (by simp)
  · next cfg hcfg =>
    obtain ⟨hst, hnew⟩ := newBackends_clean h
    have hrest := fun rsID (hk : rsID ∉ e.2.backends.keys) =>
      (compareBackends_lookup hk _ _).symm.trans (lookup_eq_none_of_entries hnew rsID)
    obtain ⟨hst, hbes⟩ := compareBackends_clean hst
    have hcmp : e.2.options.compareStoreOptions cfg.ServiceOptions = true := by
      by_contra hne
      simp [hne, Clean] at hst
    simp only [hcmp, Bool.not_true, Bool.false_eq_true, ite_false] at hst
    refine ⟨hst, cfg, hcfg, hcmp, fun rsID rs hrs => hbes _ (AList.mem_lookup_iff.1 hrs),
      fun rsID hin => ?_⟩
    by_contra hout
    exact AList.lookup_eq_none.1 (hrest rsID (mt AList.mem_keys.1 hout)) hin

theorem compareService_snd (p : StoreSyncStatus × StrMap ServiceConfig)
    (e : Σ _ : String, Service) :
    (compareService p e).2 = p.2 ∨ (compareService p e).2 = p.2.erase e.1 := by
  obtain ⟨st, acc⟩ := p
  simp only [compareService]
  split
  · exact .inl rfl
  · exact .inr rfl

theorem foldl_compareService_lookup {k : String} {es : List (Σ _ : String, Service)}
    (hk : k ∉ es.keys) (p : StoreSyncStatus × StrMap ServiceConfig) :
    (es.foldl compareService p).2.lookup k = p.2.lookup k := by
  induction es generalizing p with
  | nil => rfl
  | cons e es ih =>
    simp only [List.keys_cons, List.mem_cons, not_or] at hk
    rw [List.foldl_cons, ih hk.2]
    rcases compareService_snd p e with h | h <;> rw [h]
    rw [AList.lookup_erase_ne hk.1]

theorem foldl_compareService_clean {es : List (Σ _ : String, Service)}
    {p : StoreSyncStatus × StrMap ServiceConfig} (h : (es.foldl compareService p).1.Clean) :
    p.1.Clean ∧ ∀ e ∈ es, ∃ cfg, p.2.lookup e.1 = some cfg ∧ ServiceInSync e.2 cfg := by
  induction es generalizing p with
  | nil => exact ⟨h, fun _ h => nomatch h⟩
  | cons e es ih =>
    obtain ⟨hp, hes⟩ := ih h
    obtain ⟨hst, he⟩ := compareService_clean hp
    refine ⟨hst, fun e' he' => ?_⟩
    rcases List.mem_cons.1 he' with rfl | he'
    · exact he
    · obtain ⟨cfg, hcfg, hsync⟩ := hes e' he'
      refine ⟨cfg, ?_, hsync⟩
      rcases compareService_snd p e with hs | hs <;> rw [hs] at hcfg
      exacts [hcfg, lookup_of_lookup_erase hcfg]

/-- The running services agree with the store's `d` as `CompareWith` compares them. -/
structure InSync (ctx : Context) (d : StrMap ServiceConfig) : Prop where
  stored : ∀ vsID vs, ctx.services.lookup vsID = some vs →
    ∃ cfg, d.lookup vsID = some cfg ∧ ServiceInSync vs cfg
  running : ∀ vsID, vsID ∈ d → vsID ∈ ctx.services

theorem inSync_of_compareWith {ctx : Context} {d : StrMap ServiceConfig}
    (h : (ctx.compareWith d).Status = "ok") : InSync ctx d := by
  simp only [Context.compareWith] at h
  rw [checkStatus_eq_ok, foldl_newServices] at h
  obtain ⟨hst, hleft⟩ : (ctx.services.entries.foldl compareService ({}, d)).1.Clean ∧
      (ctx.services.entries.foldl compareService ({}, d)).2.keys = [] := by
    simp only [Clean, List.append_eq_nil] at h ⊢
    tauto
  obtain ⟨-, hes⟩ := foldl_compareService_clean hst
  refine ⟨fun vsID vs hvs => hes ⟨vsID, vs⟩ (AList.mem_lookup_iff.1 hvs), fun vsID hin => ?_⟩
  by_contra hout
  exact AList.lookup_eq_none.1
    ((foldl_compareService_lookup (mt AList.mem_keys.1 hout) _).symm.trans
      (lookup_eq_none_of_entries (List.map_eq_nil_iff.1 hleft) vsID)) hin

/-! ### A loop whose body only erases -/

section Stable

variable {V W : Type} {live : Machine → String → Option (Nat × V)}
  {body : String → V → StrMap W → CtxM (StrMap W)} {s : Machine} {a₀ : StrMap W}

/-- On `s`, the body run on a live entry whose key still has its value of `a₀` in the
accumulator returns, leaves `s` as it was, and erases the key. -/
def ErasesOn (live : Machine → String → Option (Nat × V))
    (body : String → V → StrMap W → CtxM (StrMap W)) (s : Machine) (a₀ : StrMap W) : Prop :=
  ∀ k n v acc, live s k = some (n, v) → acc.lookup k = a₀.lookup k →
    (body k v acc).exec s = (.ok (acc.erase k), s)

/-- What the passes of `goRange` have done on `s` so far: an entry produced is live with its
number and erased from the accumulator, and a key not produced still has its value of `a₀`. -/
structure Erased (live : Machine → String → Option (Nat × V)) (s : Machine) (a₀ : StrMap W)
    (produced : List (String × Nat)) (acc : StrMap W) : Prop where
  live : ∀ p ∈ produced, (live s p.1).map Prod.fst = some p.2
  erased : ∀ p ∈ produced, acc.lookup p.1 = none
  kept : ∀ k, (∀ n, (k, n) ∉ produced) → acc.lookup k = a₀.lookup k

theorem Erased.start : Erased live s a₀ [] a₀ :=
  ⟨(fun _ h => nomatch h), (fun _ h => nomatch h), fun _ _ => rfl⟩

theorem Erased.unproduced {produced : List (String × Nat)} {acc : StrMap W} {k : String}
    {n : Nat} {v : V} (hinv : Erased live s a₀ produced acc) (hk : live s k = some (n, v))
    (hn : (k, n) ∉ produced) : acc.lookup k = a₀.lookup k :=
  hinv.kept k fun m hm => by
    have := hinv.live _ hm
    simp only [hk, Option.map_some', Option.some.injEq] at this
    exact hn (this ▸ hm)

theorem Erased.produce {produced : List (String × Nat)} {acc : StrMap W} {k : String} {n : Nat}
    {v : V} (hinv : Erased live s a₀ produced acc) (hk : live s k = some (n, v)) :
    Erased live s a₀ ((k, n) :: produced) (acc.erase k) := by
  constructor
  · intro p hp
    rcases List.mem_cons.1 hp with rfl | hp
    · simp [hk]
    · exact hinv.live p hp
  · intro p hp
    rcases List.mem_cons.1 hp with rfl | hp
    · exact AList.lookup_erase _ _
    · by_cases hpk : p.1 = k
      · rw [hpk, AList.lookup_erase]
      · rw [AList.lookup_erase_ne hpk, hinv.erased p hp]
  · intro k' hk'
    have hne : k' ≠ k := fun h => hk' n (h ▸ List.mem_cons_self _ _)
    rw [AList.lookup_erase_ne hne]
    exact hinv.kept k' fun m hm => hk' m (List.mem_cons_of_mem _ hm)

theorem rangePass_erases (h : ErasesOn live body s a₀) (may : String × Nat → Bool)
    (ks : List String) (produced : List (String × Nat)) (acc : StrMap W)
    (hinv : Erased live s a₀ produced acc) :
    ∃ acc' produced', (rangePass live may body ks produced acc).exec s =
        (.ok (acc', produced'), s) ∧ Erased live s a₀ produced' acc' ∧
      (∀ p ∈ produced, p ∈ produced') ∧
      ∀ k ∈ ks, ∀ n v, live s k = some (n, v) → may (k, n) = true → (k, n) ∈ produced' := by
  induction ks generalizing produced acc with
  | nil => exact ⟨acc, produced, rfl, hinv, fun _ => id, fun _ h => nomatch h⟩
  | cons k ks ih =>
    simp only [rangePass, exec_bind, exec_get]
    split
    · next n v hk =>
      split
      · next hmay =>
        have hn : (k, n) ∉ produced := by
          simp only [Bool.and_eq_true] at hmay
          simpa using hmay.2
        simp only [exec_bind, h k n v acc hk (hinv.unproduced hk hn)]
        obtain ⟨acc', produced', hrun, hinv', hsub, hall⟩ :=
          ih ((k, n) :: produced) (acc.erase k) (hinv.produce hk)
        refine ⟨acc', produced', hrun, hinv', fun p hp => hsub p (List.mem_cons_of_mem _ hp),
          fun k' hk' n' v' hk'' hmay' => ?_⟩
        rcases List.mem_cons.1 hk' with rfl | hk'
        · simp only [hk, Option.some.injEq, Prod.mk.injEq] at hk''
          exact hk''.1 ▸ hsub _ (List.mem_cons_self _ _)
        · exact hall k' hk' n' v' hk'' hmay'
      · next hmay =>
        obtain ⟨acc', produced', hrun, hinv', hsub, hall⟩ := ih produced acc hinv
        refine ⟨acc', produced', hrun, hinv', hsub, fun k' hk' n' v' hk'' hmay' => ?_⟩
        rcases List.mem_cons.1 hk' with rfl | hk'
        · simp only [hk, Option.some.injEq, Prod.mk.injEq] at hk''
          obtain ⟨rfl, rfl⟩ := hk''
          exact hsub _ (by simpa [hmay'] using hmay)
        · exact hall k' hk' n' v' hk'' hmay'
    · next hk =>
      obtain ⟨acc', produced', hrun, hinv', hsub, hall⟩ := ih produced acc hinv
      refine ⟨acc', produced', hrun, hinv', hsub, fun k' hk' n' v' hk'' hmay' => ?_⟩
      rcases List.mem_cons.1 hk' with rfl | hk'
      · simp [hk] at hk''
      · exact hall k' hk' n' v' hk'' hmay'

/-- A `goRange` over `s` whose body erases every entry it is run on returns, leaves `s` as it was,
and leaves the accumulator with the live keys erased and the others as they were. -/
theorem goRange_erases (keys : Machine → List String) (h : ErasesOn live body s a₀)
    (hkeys : ∀ k, (live s k).isSome → k ∈ keys s) (order : List String) :
    ∃ a, (goRange keys live body order a₀).exec s = (.ok a, s) ∧
      ∀ k, a.lookup k = if (live s k).isSome then none else a₀.lookup k := by
  obtain ⟨acc₁, pr₁, h₁, hinv₁, -, -⟩ := rangePass_erases h (fun _ => true) order [] a₀ .start
  let start := (keys s).filterMap fun k => (live s k).map fun e => (k, e.1)
  obtain ⟨acc₂, pr₂, h₂, hinv₂, -, hall⟩ :=
    rangePass_erases h (fun e => start.contains e) (start.map (·.1)) pr₁ acc₁ hinv₁
  refine ⟨acc₂, by simp only [goRange, exec_bind, exec_get, h₁, h₂, exec_pure], fun k => ?_⟩
  split
  · next hk =>
    obtain ⟨⟨n, v⟩, hnv⟩ := Option.isSome_iff_exists.1 hk
    have hstart : (k, n) ∈ start := List.mem_filterMap.2 ⟨k, hkeys k hk, by simp [hnv]⟩
    exact hinv₂.erased (k, n)
      (hall k (List.mem_map_of_mem _ hstart) n v hnv (by simpa using hstart))
  · next hk =>
    exact hinv₂.kept k fun n hn => hk (by simpa using congrArg Option.isSome (hinv₂.live _ hn))

end Stable

/-! ### Synchronize from a Context in sync -/

section Sync

variable {s : Machine}

theorem syncBackend_erases (env : Env) {vsID : String} {vs : Service} {cfg : ServiceConfig}
    (hvs : s.ctx.services.lookup vsID = some vs) (hsync : ServiceInSync vs cfg) :
    ErasesOn (liveBackend vsID vs.ref) (syncBackend env vsID) s cfg.ServiceBackends := by
  intro k n v acc hk hacc
  simp only [liveBackend, hvs, if_true, Option.map_eq_some', Prod.mk.injEq] at hk
  obtain ⟨rs, hrs, -, rfl⟩ := hk
  obtain ⟨o, ho, hcmp⟩ := hsync.stored k rs hrs
  simp [syncBackend, hacc, ho, hcmp]

theorem syncService_erases (env : Env) (order : SyncOrder) {d : StrMap ServiceConfig}
    (hsync : InSync s.ctx d) : ErasesOn liveService (syncService env order) s d := by
  intro k n v acc hk hacc
  simp only [liveService, Option.map_eq_some', Prod.mk.injEq] at hk
  obtain ⟨vs, hvs, -, rfl⟩ := hk
  obtain ⟨cfg, hcfg, hsvc⟩ := hsync.stored k vs hvs
  obtain ⟨sbs, hrange, hsbs⟩ :=
    goRange_erases (backendKeys k vs.ref) (syncBackend_erases env hvs hsvc)
      (fun rsID h => by
        simpa [liveBackend, backendKeys, hvs, AList.lookup_isSome, AList.mem_keys] using h)
      (order.backends k)
  have hempty : sbs.entries = [] := entries_eq_nil_of_lookup fun rsID => by
    rw [hsbs]
    split
    · rfl
    · next hout =>
      have hout : rsID ∉ vs.backends := by simpa [liveBackend, hvs, AList.lookup_isSome] using hout
      exact AList.lookup_eq_none.2 (mt (hsvc.running rsID) hout)
  simp [syncService, hacc, hcfg, hsvc.options, hrange, hempty]

theorem synchronize_of_inSync (env : Env) (order : SyncOrder) {d : StrMap ServiceConfig}
    (hsync : InSync s.ctx d) : (synchronize env order d).exec s = (.ok (), s) := by
  obtain ⟨d', hrange, hd'⟩ :=
    goRange_erases (fun s => s.ctx.services.keys) (syncService_erases env order hsync)
      (fun vsID h => by simpa [liveService, AList.lookup_isSome, AList.mem_keys] using h)
      order.services
  have hempty : d'.entries = [] := entries_eq_nil_of_lookup fun vsID => by
    rw [hd']
    split
    · rfl
    · next hout =>
      have hout : vsID ∉ s.ctx.services := by simpa [liveService, AList.lookup_isSome] using hout
      exact AList.lookup_eq_none.2 (mt (hsync.running vsID) hout)
  simp [synchronize, hrange, hempty]

end Sync

/-- When `CompareWith` reports "ok", `Synchronize` on the same map returns nil and leaves the
daemon as it was, whatever order the runtime ranges over the maps in. -/
theorem synchronize_idle_of_status_ok (env : Env) (s : Machine) (d : StrMap ServiceConfig)
    (h : (s.ctx.compareWith d).Status = "ok") (order : SyncOrder) :
    (synchronize env order d).exec s = (.ok (), s) :=
  synchronize_of_inSync env order (inSync_of_compareWith h)

/-- The options `Validate` gives `web`. -/
def webOptions : ServiceOptions :=
  { Host := "10.0.0.1", Port := 80, Protocol := "tcp", LbMethod := "wrr",
    Fallback := "fb-default", FwdMethod := "nat", MaxWeight := 100 }

/-- The store's document for the daemon `firstBackend` runs. -/
def webStore : StrMap ServiceConfig :=
  (∅ : StrMap ServiceConfig).insert "web"
    { ServiceOptions := webOptions
      ServiceBackends := (∅ : StrMap BackendOptions).insert "a" webBackend }

/-- Every call accepted; `fd00::2` resolves to an IPv6 address, every other name to an IPv4 one. -/
def dualStack : Env :=
  .accepting fun host => some ⟨host, if host = "fd00::2" then .inet6 else .inet⟩

/-- The daemon after `CreateService` of `web` against `dualStack`. -/
def webDual : Machine :=
  (Action.createService "web" webService).step dualStack (Machine.init none none [])

/-- A backend on `fd00::2`. -/
def v6Backend : BackendOptions :=
  { Host := "fd00::2", Port := 8080 }

/-- The store's `web` with a new backend `b` on `v6Backend`. -/
def v6Store : StrMap ServiceConfig :=
  (∅ : StrMap ServiceConfig).insert "web"
    { ServiceOptions := webOptions
      ServiceBackends := (∅ : StrMap BackendOptions).insert "b" v6Backend }

theorem v6_backend_not_synced :
    (webOptions.runValidate none (dualStack.dns 0) dualStack.lower).1 = .ok () ∧
      (v6Backend.validate (dualStack.dns 0)).isOk = true ∧
      (webDual.ctx.compareWith v6Store).Status = "need sync" ∧
      ((synchronize dualStack ⟨["web"], fun _ => []⟩ v6Store).exec webDual).1 =
        .error .incompatibleAFs ∧
      ((synchronize dualStack ⟨["web"], fun _ => []⟩ v6Store).exec webDual).2.ctx = webDual.ctx ∧
      ((synchronize dualStack ⟨["web"], fun _ => []⟩ v6Store).exec webDual).2.calls =
        webDual.calls :=
  ⟨rfl, rfl, by decide, rfl, rfl, rfl⟩

/-! ### A loop that reaches a failing body -/

section Fails

variable {V β : Type} {live : Machine → String → Option (Nat × V)}
  {body : String → V → β → CtxM β} {I : Machine → Prop} {J : β → Prop} {k₀ : String} {n₀ : Nat}
  {v₀ : V}

/-- A pass over `s`, whose bodies on keys other than `k₀` keep `I` and `J` and whose body on the
entry of `k₀` fails: the pass fails, or returns without having produced that entry, and without
having reached it when `may` allows it. -/
theorem rangePass_fails_or (hbody : ∀ k v acc, k ≠ k₀ → J acc → Keeps I (body k v acc) J)
    (hhit : ∀ acc s, J acc → I s → ∃ e s', (body k₀ v₀ acc).exec s = (.error e, s'))
    (hlive : ∀ s, I s → live s k₀ = some (n₀, v₀)) (may : String × Nat → Bool) (ks : List String)
    (produced : List (String × Nat)) (acc : β) (s : Machine) (hs : I s) (hacc : J acc)
    (hn : (k₀, n₀) ∉ produced) :
    (∃ e s', (rangePass live may body ks produced acc).exec s = (.error e, s')) ∨
    ∃ acc' produced' s', (rangePass live may body ks produced acc).exec s =
        (.ok (acc', produced'), s') ∧ I s' ∧ J acc' ∧ (k₀, n₀) ∉ produced' ∧
      (k₀ ∈ ks → may (k₀, n₀) = false) := by
  induction ks generalizing produced acc s with
  | nil => exact .inr ⟨acc, produced, s, rfl, hs, hacc, hn, fun h => nomatch h⟩
  | cons k ks ih =>
    simp only [rangePass, exec_bind, exec_get]
    split
    · next n v hk =>
      split
      · next hmay =>
        by_cases hk₀ : k = k₀
        · subst hk₀
          rw [hlive s hs, Option.some.injEq, Prod.mk.injEq] at hk
          obtain ⟨rfl, rfl⟩ := hk
          obtain ⟨e, s', he⟩ := hhit acc s hacc hs
          exact .inl ⟨e, s', by simp only [exec_bind, he]⟩
        · have hk' := hbody k v acc hk₀ hacc s hs
          simp only [exec_bind]
          rcases hr : (body k v acc).exec s with ⟨_ | acc₁, s₁⟩
          · exact .inl ⟨_, _, rfl⟩
          · rw [hr] at hk'
            have hn' : (k₀, n₀) ∉ (k, n) :: produced := by
              simp only [List.mem_cons, Prod.mk.injEq, not_or]
              exact ⟨fun h => hk₀ h.1.symm, hn⟩
            rcases ih _ acc₁ s₁ hk'.1 (hk'.2 acc₁ rfl) hn' with h | ⟨a, p, s', h, h₁, h₂, h₃, h₄⟩
            · exact .inl h
            · refine .inr ⟨a, p, s', h, h₁, h₂, h₃, fun hmem => h₄ ?_⟩
              exact (List.mem_cons.1 hmem).resolve_left fun h => hk₀ h.symm
      · next hmay =>
        rcases ih produced acc s hs hacc hn with h | ⟨a, p, s', h, h₁, h₂, h₃, h₄⟩
        · exact .inl h
        · refine .inr ⟨a, p, s', h, h₁, h₂, h₃, fun hmem => ?_⟩
          rcases List.mem_cons.1 hmem with rfl | hmem
          · rw [hlive s hs, Option.some.injEq, Prod.mk.injEq] at hk
            obtain ⟨rfl, rfl⟩ := hk
            simpa [hn] using hmay
          · exact h₄ hmem
    · next hk =>
      rcases ih produced acc s hs hacc hn with h | ⟨a, p, s', h, h₁, h₂, h₃, h₄⟩
      · exact .inl h
      · refine .inr ⟨a, p, s', h, h₁, h₂, h₃, fun hmem => ?_⟩
        rcases List.mem_cons.1 hmem with rfl | hmem
        · rw [hlive s hs] at hk
          cases hk
        · exact h₄ hmem

/-- A `goRange` that starts with `k₀` live, and whose bodies behave as in `rangePass_fails_or`,
fails: the entry of `k₀` stays live until it is produced, and the range produces it. -/
theorem goRange_fails (hbody : ∀ k v acc, k ≠ k₀ → J acc → Keeps I (body k v acc) J)
    (hhit : ∀ acc s, J acc → I s → ∃ e s', (body k₀ v₀ acc).exec s = (.error e, s'))
    (hlive : ∀ s, I s → live s k₀ = some (n₀, v₀)) (keys : Machine → List String)
    (order : List String) (a₀ : β) (s : Machine) (hs : I s) (hacc : J a₀)
    (hkey : k₀ ∈ keys s) :
    ∃ e s', (goRange keys live body order a₀).exec s = (.error e, s') := by
  simp only [goRange, exec_bind, exec_get]
  rcases rangePass_fails_or hbody hhit hlive (fun _ => true) order [] a₀ s hs hacc
    (List.not_mem_nil _) with ⟨e, s', h⟩ | ⟨acc₁, pr₁, s₁, h, hs₁, hacc₁, hn₁, -⟩
  · exact ⟨e, s', by rw [h]⟩
  rw [h]
  let start := (keys s).filterMap fun k => (live s k).map fun e => (k, e.1)
  have hstart : (k₀, n₀) ∈ start := List.mem_filterMap.2 ⟨k₀, hkey, by simp [hlive s hs]⟩
  rcases rangePass_fails_or hbody hhit hlive (fun e => start.contains e) (start.map (·.1)) pr₁
    acc₁ s₁ hs₁ hacc₁ hn₁ with ⟨e, s', h'⟩ | ⟨-, -, -, -, -, -, -, hfar⟩
  · exact ⟨e, s', by simp only [h']⟩
  · have := hfar (List.mem_map_of_mem _ hstart)
    simp [hstart] at this

end Fails

/-! ### Replacing a service -/

section Replace

variable {env : Env} {k₀ : String} {vs : Service}

/-- The entry of `k₀` is still the object `vs`, created before the next fresh handle. -/
def Untouched (k₀ : String) (vs : Service) (s : Machine) : Prop :=
  s.ctx.services.lookup k₀ = some vs ∧ vs.ref < s.next

theorem Untouched.of_ctx {s s' : Machine} (hs : Untouched k₀ vs s)
    (hctx : s'.ctx.services.lookup k₀ = s.ctx.services.lookup k₀) (hnext : s.next ≤ s'.next) :
    Untouched k₀ vs s' :=
  ⟨hctx.trans hs.1, lt_of_lt_of_le hs.2 hnext⟩

theorem lookup_setService_ne (s : Machine) {vsID k : String} (hne : vsID ≠ k) (vs' : Service) :
    (s.setService vsID vs').ctx.services.lookup k = s.ctx.services.lookup k :=
  AList.lookup_insert_ne hne.symm

theorem keeps_untouched_createBackend {vsID : String} (hne : vsID ≠ k₀) (rsID : String)
    (opts : BackendOptions) :
    Keeps (Untouched k₀ vs) (createBackend env vsID rsID opts) fun _ => True :=
  Keeps.of_cases fun s _ _ h hs => by
    obtain ⟨-, ⟨-, hk, -⟩ | ⟨-, hk, -⟩ | ⟨-, vs', -, o, -, t, -, -, -, -, -, -, -, -, rfl⟩⟩ :=
      createBackend_cases h
    · exact hs.of_ctx (by rw [hk.ctx]) hk.next.ge
    · exact hs.of_ctx (by rw [hk.ctx]) hk.next.ge
    · exact hs.of_ctx (lookup_setService_ne s hne _) (Nat.le_succ _)

theorem keeps_untouched_removeBackend {vsID : String} (hne : vsID ≠ k₀) (rsID : String) :
    Keeps (Untouched k₀ vs) (removeBackend env vsID rsID) fun _ => True :=
  Keeps.of_cases fun s _ _ h hs => by
    obtain ⟨-, rfl⟩ | ⟨vs', rs, -, -, ⟨-, -, rfl⟩ | ⟨-, -, rfl⟩⟩ := removeBackend_cases h
    · exact hs
    · exact hs.of_ctx rfl le_rfl
    · exact hs.of_ctx (lookup_setService_ne s hne _) le_rfl

theorem keeps_untouched_removeService {vsID : String} (hne : vsID ≠ k₀) :
    Keeps (Untouched k₀ vs) (removeService env vsID) fun _ => True :=
  Keeps.of_cases fun s _ _ h hs => by
    obtain ⟨-, rfl⟩ | ⟨vs', -, ⟨-, -, rfl⟩ | ⟨-, -, rfl⟩⟩ := removeService_cases h
    · exact hs
    · exact hs.of_ctx (by simp) (by simp)
    · exact hs.of_ctx (by simp [AList.lookup_erase_ne hne.symm]) (by simp)

theorem keeps_untouched_registerService {vsID : String} (hne : vsID ≠ k₀) (cfg : ServiceConfig) :
    Keeps (Untouched k₀ vs) (registerService env vsID cfg) fun _ => True :=
  Keeps.of_cases fun s _ _ h hs => by
    obtain ⟨-, -, -, -, ⟨-, hctx, hnext, -⟩ | ⟨-, o, o', t, -, -, -, -, -, -, -, -, -, rfl⟩⟩ :=
      registerService_cases h
    · exact hs.of_ctx (by rw [hctx]) hnext.ge
    · exact hs.of_ctx (lookup_setService_ne s hne _) (Nat.le_succ _)

/-- A body of `Synchronize`'s loop returns the store's map, or the map with its service erased. -/
theorem syncService_result (order : SyncOrder) (vsID : String) (service : Service)
    (d : StrMap ServiceConfig) :
    Keeps (fun _ => True) (syncService env order vsID service d)
      fun r => r = d ∨ r = d.erase vsID := by
  have htrue : ∀ {α : Type} (m : CtxM α), Keeps (fun _ => True) m fun _ => True :=
    fun m => Keeps.of_exec fun _ _ => trivial
  unfold syncService
  split
  · exact (htrue _).bind fun _ _ => keeps_pure (.inl rfl)
  · next cfg _ =>
    have hrest : ∀ _ : PUnit, Keeps (fun _ => True) (do
          let sbs ← goRange (backendKeys vsID service.ref) (liveBackend vsID service.ref)
            (syncBackend env vsID) (order.backends vsID) cfg.ServiceBackends
          sbs.entries.forM fun e => createBackend env vsID e.1 e.2
          pure (d.erase vsID) : CtxM (StrMap ServiceConfig)) fun r => r = d ∨ r = d.erase vsID :=
      fun _ => (htrue _).bind fun _ _ => (htrue _).bind fun _ _ => keeps_pure (.inr rfl)
    split
    · exact (htrue _).bind fun _ _ => (htrue _).bind fun y _ => hrest y
    · exact (htrue _).bind fun y _ => hrest y

/-- A `goRange` over a machine with no live entry produces nothing. -/
theorem goRange_idle {V β : Type} {live : Machine → String → Option (Nat × V)}
    {body : String → V → β → CtxM β} {s : Machine} (h : ∀ k, live s k = none)
    (keys : Machine → List String) (order : List String) (a₀ : β) :
    (goRange keys live body order a₀).exec s = (.ok a₀, s) := by
  have hpass : ∀ may ks produced (acc : β),
      (rangePass live may body ks produced acc).exec s = (.ok (acc, produced), s) := by
    intro may ks
    induction ks with
    | nil => exact fun _ _ => rfl
    | cons k ks ih => exact fun produced acc => by simp only [rangePass, exec_bind, exec_get, h, ih]
  simp only [goRange, exec_bind, exec_get, hpass, exec_pure]

theorem goRange_single {V β : Type} {live : Machine → String → Option (Nat × V)}
    {body : String → V → β → CtxM β} {keys : Machine → List String} {s s' : Machine} {k : String}
    {n : Nat} {v : V} {acc acc' : β} (hkeys : keys s = [k]) (hk : live s k = some (n, v))
    (hb : (body k v acc).exec s = (.ok acc', s')) :
    (goRange keys live body [k] acc).exec s = (.ok acc', s') := by
  have hfirst : (rangePass live (fun _ => true) body [k] [] acc).exec s =
      (.ok (acc', [(k, n)]), s') := by
    simp only [rangePass, exec_bind, exec_get, hk, List.contains_nil, Bool.not_false,
      Bool.and_self, if_true, hb]
    rfl
  have hsecond : (rangePass live (fun e => [(k, n)].contains e) body [k] [(k, n)] acc').exec s' =
      (.ok (acc', [(k, n)]), s') := by
    simp only [rangePass, exec_bind, exec_get]
    split
    · simp only [Bool.and_not_self, Bool.false_eq_true, if_false]
      rfl
    · rfl
  simp only [goRange, exec_bind, exec_get, hkeys, List.filterMap_cons, hk, Option.map_some',
    List.filterMap_nil, List.map_cons, List.map_nil, hfirst, hsecond, exec_pure]

theorem createBackend_exists {s : Machine} {vsID rsID : String} {vs' : Service}
    (hvs : s.ctx.services.lookup vsID = some vs') (hrs : (vs'.backends.lookup rsID).isSome)
    (opts : BackendOptions) :
    (createBackend env vsID rsID opts).exec s = (.error (.objectExists ("rsID: " ++ rsID)), s) := by
  simp only [createBackend, exec_bind, exec_get, hvs, hrs, if_true, exec_throw]

variable (env) in
theorem keeps_untouched_syncService (order : SyncOrder) {k : String} (hk : k ≠ k₀)
    (service : Service) (d : StrMap ServiceConfig) :
    Keeps (Untouched k₀ vs) (syncService env order k service d)
      fun r => r.lookup k₀ = d.lookup k₀ := by
  intro s hs
  have hstate := @keeps_syncService env (Untouched k₀ vs) k (fun _ _ => True) (fun _ => True)
    (fun rsID opts _ => keeps_untouched_createBackend hk rsID opts)
    (keeps_untouched_removeBackend hk) (keeps_untouched_removeService hk)
    (fun cfg _ => keeps_untouched_registerService hk cfg) (fun _ _ _ _ => trivial) order service d
    (fun _ _ => True) (fun _ _ => trivial) (fun _ _ => trivial) s hs
  refine ⟨hstate.1, fun r hr => ?_⟩
  rcases (syncService_result order k service d s trivial).2 r hr with rfl | rfl
  · rfl
  · exact AList.lookup_erase_ne hk.symm

/-- The entry of `k₀` is an object created at handle `r` or later, with the backend `rsID`. -/
def HasBackend (k₀ : String) (r : Nat) (rsID : String) (s : Machine) : Prop :=
  ∃ vs', s.ctx.services.lookup k₀ = some vs' ∧ r ≤ vs'.ref ∧ (vs'.backends.lookup rsID).isSome

theorem keeps_hasBackend_createBackend (r : Nat) (rsID rsID' : String) (opts : BackendOptions) :
    Keeps (HasBackend k₀ r rsID) (createBackend env k₀ rsID' opts) fun _ => True :=
  Keeps.of_cases fun s _ _ h hs => by
    obtain ⟨vs', hvs', hr, hrs⟩ := hs
    obtain ⟨-, ⟨-, hk, -⟩ | ⟨-, hk, -⟩ | ⟨-, vs'', -, o, -, t, hvs'', -, -, -, -, -, -, -, rfl⟩⟩ :=
      createBackend_cases h
    · exact ⟨vs', by rw [hk.ctx, hvs'], hr, hrs⟩
    · exact ⟨vs', by rw [hk.ctx, hvs'], hr, hrs⟩
    · rw [hvs''] at hvs'
      cases hvs'
      exact ⟨{ vs' with backends := vs'.backends.insert rsID' ⟨o, s.next, .zero⟩ }, by simp, hr,
        isSome_lookup_insert hrs _ _⟩

/-- A `createService` that returns has created the service at the next fresh handle or later,
with the first backend of its configuration. -/
theorem createService_hasBackend {s s' : Machine} {cfg : ServiceConfig}
    {e₁ : Σ _ : String, BackendOptions} {rest : List (Σ _ : String, BackendOptions)}
    (h : (createService env k₀ cfg).exec s = (.ok (), s'))
    (hent : cfg.ServiceBackends.entries = e₁ :: rest) : HasBackend k₀ s.next e₁.1 s' := by
  simp only [createService, exec_bind] at h
  rcases hr : (registerService env k₀ cfg).exec s with ⟨_ | _, s₁⟩ <;> rw [hr] at h
  · cases h
  obtain ⟨-, -, -, -, ⟨⟨_, ⟨⟩⟩, -⟩ | ⟨-, o, o', t, -, -, -, -, -, -, -, -, -, hs₁⟩⟩ :=
    registerService_cases hr
  have hvs₁ : s₁.ctx.services.lookup k₀ =
      some ⟨k₀, o', serviceSvc o', ∅, s.next⟩ := by
    rw [hs₁]
    exact AList.lookup_insert _
  simp only [hent, List.forM, exec_bind] at h
  rcases hb : (createBackend env k₀ e₁.1 e₁.2).exec s₁ with ⟨_ | _, s₂⟩ <;> rw [hb] at h
  · cases h
  have h₂ : HasBackend k₀ s.next e₁.1 s₂ := by
    obtain ⟨-, ⟨⟨_, ⟨⟩⟩, -⟩ | ⟨⟨_, ⟨⟩, -⟩, -⟩ |
        ⟨-, vs', -, o, -, t', hvs', -, -, -, -, -, -, -, hs₂⟩⟩ := createBackend_cases hb
    rw [hvs₁, Option.some.injEq] at hvs'
    subst hvs' hs₂
    exact ⟨⟨k₀, o', serviceSvc o', (∅ : StrMap Backend).insert e₁.1 ⟨o, s₁.next, .zero⟩, s.next⟩,
      AList.lookup_insert _, le_rfl, by rw [AList.lookup_insert]; rfl⟩
  have hloop : Keeps (HasBackend k₀ s.next e₁.1) (rest.forM fun e => createBackend env k₀ e.1 e.2)
      fun _ => True :=
    Keeps.forM fun e _ => keeps_hasBackend_createBackend s.next e₁.1 e.1 e.2
  have hkeep := (hloop s₂ h₂).1
  simp only at h
  rwa [h] at hkeep

variable (env) in
/-- The body of `Synchronize`'s loop on a running service whose store options differ and whose
store configuration has a backend fails. -/
theorem syncService_replace_fails (order : SyncOrder) {d : StrMap ServiceConfig}
    {cfg : ServiceConfig} (hcfg : d.lookup k₀ = some cfg)
    (hcmp : vs.options.compareStoreOptions cfg.ServiceOptions = false)
    (hb : cfg.ServiceBackends.entries ≠ []) {s : Machine} (hs : Untouched k₀ vs s) :
    ∃ e s', (syncService env order k₀ vs d).exec s = (.error e, s') := by
  obtain ⟨e₁, rest, hent⟩ := List.exists_cons_of_ne_nil hb
  simp only [syncService, hcfg, hcmp, Bool.not_false, if_true, exec_bind, exec_discard]
  rcases h₁ : (removeService env k₀).exec s with ⟨_ | _, s₁⟩
  · exact ⟨_, _, rfl⟩
  have hnext : s.next ≤ s₁.next := by
    rcases removeService_cases h₁ with ⟨⟨_, ⟨⟩⟩, -⟩ | ⟨vs', -, ⟨-, ⟨⟩, -⟩ | ⟨-, -, rfl⟩⟩
    simp
  simp only
  rcases h₂ : (createService env k₀ cfg).exec s₁ with ⟨_ | _, s₂⟩
  · exact ⟨_, _, rfl⟩
  obtain ⟨vs₂, hvs₂, href, hrs⟩ := createService_hasBackend h₂ hent
  have hidle : ∀ k, liveBackend k₀ vs.ref s₂ k = none := fun k => by
    have : vs₂.ref ≠ vs.ref := by
      have := hs.2
      omega
    simp [liveBackend, hvs₂, this]
  simp only [goRange_idle hidle, hent, List.forM, exec_bind, createBackend_exists hvs₂ hrs]
  exact ⟨_, _, rfl⟩

end Replace

/-- `Synchronize` fails whenever the store changes the options of a running service and gives it
a backend: `createService` re-creates the service with every backend of the store, and the loop
over the store's backends left over then creates the first of them again. -/
theorem synchronize_fails_replacing_service (env : Env) (s : Machine) (order : SyncOrder)
    (d : StrMap ServiceConfig) (vsID : String) (cfg : ServiceConfig)
    (hvs : ∃ vs, s.ctx.services.lookup vsID = some vs ∧ vs.ref < s.next ∧
      vs.options.compareStoreOptions cfg.ServiceOptions = false)
    (hcfg : d.lookup vsID = some cfg) (hb : cfg.ServiceBackends.entries ≠ []) :
    ∃ e, ((synchronize env order d).exec s).1 = .error e := by
  obtain ⟨vs, hlookup, href, hcmp⟩ := hvs
  obtain ⟨e, s', h⟩ := goRange_fails (I := Untouched vsID vs)
    (J := fun acc => acc.lookup vsID = some cfg)
    (fun k v acc hk hacc => (keeps_untouched_syncService env order hk v acc).mono
      fun r hr => hr.trans hacc)
    (fun acc s hacc hs => syncService_replace_fails env order hacc hcmp hb hs)
    (fun s hs => show liveService s vsID = some (vs.ref, vs) by simp [liveService, hs.1])
    (fun s => s.ctx.services.keys) order.services d s
    ⟨hlookup, href⟩ hcfg (AList.mem_keys.2 (AList.lookup_isSome.1 (by simp [hlookup])))
  exact ⟨e, by simp only [synchronize, exec_bind, h]⟩

/-- The store's `web` with `MaxWeight` changed to 50, and its backend `a`. -/
def reweighedStore : StrMap ServiceConfig :=
  (∅ : StrMap ServiceConfig).insert "web"
    { ServiceOptions := { webOptions with MaxWeight := 50 },
      ServiceBackends := (∅ : StrMap BackendOptions).insert "a" webBackend }

/-- `Synchronize` of `reweighedStore` on `firstBackend`: the options validate with the endpoint of
the Context, every call is accepted, and yet `Synchronize` fails. -/
theorem reweighed_sync_fails :
    (({ webOptions with MaxWeight := 50 } : ServiceOptions).runValidate firstBackend.ctx.endpoint
      (webEnv.dns 0) webEnv.lower).1 = .ok () ∧
      ∃ e, ((synchronize webEnv ⟨["web"], fun _ => ["a"]⟩ reweighedStore).exec firstBackend).1 =
        .error e :=
  ⟨rfl, synchronize_fails_replacing_service webEnv firstBackend _ reweighedStore "web" _
    ⟨_, rfl, by decide, by decide⟩ rfl (by decide)⟩

/-! ### Synchronize over one running service

With one service running and one key in the store's map, `Synchronize` runs one body of each loop;
these lemmas give its result from the results of the mutators it calls, so that it can be evaluated
one call at a time. -/

/-- The store keeps the running service and its backend `a`, and adds a backend `b`: `Synchronize`
is the `CreateBackend` of `b`. -/
theorem synchronize_adds_backend {env : Env} {s t : Machine} {k a b : String} {vs : Service}
    {rs : Backend} {d : StrMap ServiceConfig} {cfg : ServiceConfig} {ob : BackendOptions}
    (hkeys : s.ctx.services.keys = [k]) (hvs : s.ctx.services.lookup k = some vs)
    (hd : d.entries = [⟨k, cfg⟩]) (hcmp : vs.options.compareStoreOptions cfg.ServiceOptions = true)
    (hbkeys : vs.backends.keys = [a]) (hrs : vs.backends.lookup a = some rs)
    (hcmpa : ∃ oa, cfg.ServiceBackends.lookup a = some oa ∧ rs.options.compareStoreOptions oa = true)
    (hrest : (cfg.ServiceBackends.erase a).entries = [⟨b, ob⟩])
    (hb : (createBackend env k b ob).exec s = (.ok (), t)) :
    (synchronize env ⟨[k], fun _ => [a]⟩ d).exec s = (.ok (), t) := by
  obtain ⟨oa, ha, hcmpa⟩ := hcmpa
  have hback : (goRange (backendKeys k vs.ref) (liveBackend k vs.ref) (syncBackend env k) [a]
      cfg.ServiceBackends).exec s = (.ok (cfg.ServiceBackends.erase a), s) :=
    goRange_single (n := rs.monitor) (v := rs) (by simp [backendKeys, hvs, hbkeys])
      (by simp [liveBackend, hvs, hrs]) (by simp [syncBackend, ha, hcmpa])
  have hbody : (syncService env ⟨[k], fun _ => [a]⟩ k vs d).exec s = (.ok (d.erase k), t) := by
    have hlookup : d.lookup k = some cfg := by simp [AList.lookup, hd]
    simp only [syncService, hlookup, hcmp, Bool.not_true, Bool.false_eq_true, if_false, exec_bind,
      hback, hrest, List.forM, hb, exec_map, exec_pure]
  have hrange : (goRange (fun t : Machine => t.ctx.services.keys) liveService
      (syncService env ⟨[k], fun _ => [a]⟩) [k] d).exec s = (.ok (d.erase k), t) :=
    goRange_single (n := vs.ref) hkeys (by simp [liveService, hvs]) hbody
  have hnil : (d.erase k).entries = [] := by
    show d.entries.kerase k = []
    simp [hd]
  simp only [synchronize, exec_bind, hrange, hnil, List.forM, exec_pure]

/-- The store drops the running service and names another: `Synchronize` removes the one and
creates the other. -/
theorem synchronize_swaps_service {env : Env} {s t u : Machine} {k k' : String} {vs : Service}
    {d : StrMap ServiceConfig} {cfg : ServiceConfig} {o : ServiceOptions}
    (hkeys : s.ctx.services.keys = [k]) (hvs : s.ctx.services.lookup k = some vs)
    (hd : d.entries = [⟨k', cfg⟩]) (hne : k ≠ k') (backends : String → List String)
    (hrm : (removeService env k).exec s = (.ok o, t))
    (hcs : (createService env k' cfg).exec t = (.ok (), u)) :
    (synchronize env ⟨[k], backends⟩ d).exec s = (.ok (), u) := by
  have hbody : (syncService env ⟨[k], backends⟩ k vs d).exec s = (.ok d, t) := by
    have hlookup : d.lookup k = none := by simp [AList.lookup, hd, hne]
    simp only [syncService, hlookup, exec_bind, exec_discard, hrm, exec_pure]
  have hrange : (goRange (fun t : Machine => t.ctx.services.keys) liveService
      (syncService env ⟨[k], backends⟩) [k] d).exec s = (.ok d, t) :=
    goRange_single (n := vs.ref) hkeys (by simp [liveService, hvs]) hbody
  simp only [synchronize, exec_bind, hrange, hd, List.forM, hcs, exec_pure]

theorem createService_single {env : Env} {s t u : Machine} {k b : String} {cfg : ServiceConfig}
    {ob : BackendOptions} (hbs : cfg.ServiceBackends.entries = [⟨b, ob⟩])
    (hreg : (registerService env k cfg).exec s = (.ok (), t))
    (hcb : (createBackend env k b ob).exec t = (.ok (), u)) :
    (createService env k cfg).exec s = (.ok (), u) := by
  simp only [createService, exec_bind, hreg, hbs, List.forM, hcb, exec_pure]

/-- A backend `b` of `web` on 10.0.0.3:8080. -/
def webBackendB : BackendOptions :=
  { Host := "10.0.0.3", Port := 8080 }

/-- The store's `web` with a backend `b` beside `a`. -/
def grownStore : StrMap ServiceConfig :=
  (∅ : StrMap ServiceConfig).insert "web"
    { ServiceOptions := webOptions
      ServiceBackends := ((∅ : StrMap BackendOptions).insert "a" webBackend).insert "b" webBackendB }

/-- `firstBackend` once `CreateBackend` created `b`. -/
def grownBackend : Machine :=
  (Action.createBackend "web" "b" webBackendB).step webEnv firstBackend

theorem synchronize_grown :
    (synchronize webEnv ⟨["web"], fun _ => ["a"]⟩ grownStore).exec firstBackend =
      (.ok (), grownBackend) :=
  @synchronize_adds_backend webEnv firstBackend _ "web" "a" "b"
    ((firstBackend.ctx.services.lookup "web").get (by decide))
    ((((firstBackend.ctx.services.lookup "web").get (by decide)).backends.lookup "a").get (by decide))
    _ _ _ (by decide) (Option.some_get _).symm rfl (by decide) (by decide) (Option.some_get _).symm
    ⟨webBackend, rfl, by decide⟩ rfl (Prod.ext rfl rfl)

/-- A service `www` on the address of `web`, with the backend `b`. -/
def wwwService : ServiceConfig :=
  { ServiceOptions := webOptions
    ServiceBackends := (∅ : StrMap BackendOptions).insert "b" webBackendB }

/-- The store's map with `www` in the place of `web`. -/
def swappedStore : StrMap ServiceConfig :=
  (∅ : StrMap ServiceConfig).insert "www" wwwService

theorem synchronize_swapped_ok :
    ((synchronize webEnv ⟨["web"], fun _ => ["a"]⟩ swappedStore).exec firstBackend).1 = .ok () := by
  obtain ⟨u, hu⟩ : ∃ u, (synchronize webEnv ⟨["web"], fun _ => ["a"]⟩ swappedStore).exec
      firstBackend = (.ok (), u) :=
    ⟨_, @synchronize_swaps_service webEnv firstBackend _ _ "web" "www"
      ((firstBackend.ctx.services.lookup "web").get (by decide)) _ _ _ (by decide) (Option.some_get _).symm (show swappedStore.entries = [⟨"www", wwwService⟩] from rfl)
      (by decide) _ (Prod.ext rfl rfl) (createService_single rfl (Prod.ext rfl rfl) (Prod.ext rfl rfl))⟩
  rw [hu]

end Gorb
