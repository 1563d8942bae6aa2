import Gorb.Rounds

/-!
# The diff `CompareWith` reports

`CompareWith` walks the running services in map order and, for each, the running backends; it
deletes what it finds from its copy of the store's maps, so the store's entries left over are the
new ones. Each loop appends what it finds, so each list of the status is a list gathered entry by
entry (`foldl_compareService_eq`), and each entry contributes its own items, tagged with its key:
every item is listed once (`nodup_flatMap_keyed`).

The new backends are named from the `vsID` field of the store's backend options, which is
unexported and which the YAML decoder never sets (`BackendOptions.Decoded`): a store's new backend
`rs1` of `a` is reported as `[/rs1]`, while the removed and outdated ones are named
`[a/rs1]` (`compareWith_reports`).
-/

namespace Gorb

open StoreSyncStatus

/-! ### Lists read off a map -/

section Maps

variable {β γ δ : Type}

theorem flatMap_lookup_erase {m : StrMap β} {k : String} {es : List (Σ _ : String, γ)}
    (hk : k ∉ es.keys) (F : (Σ _ : String, γ) → Option β → List δ) :
    es.flatMap (fun e => F e ((m.erase k).lookup e.1)) =
      es.flatMap (fun e => F e (m.lookup e.1)) := by
  induction es with
  | nil => rfl
  | cons e es ih =>
    simp only [List.keys_cons, List.mem_cons, not_or] at hk
    simp only [List.flatMap_cons, AList.lookup_erase_ne (Ne.symm hk.1), ih hk.2]

theorem mem_flatMap_entries (m : StrMap β) (F : (Σ _ : String, β) → List δ) (x : δ) :
    x ∈ m.entries.flatMap F ↔ ∃ k v, m.lookup k = some v ∧ x ∈ F ⟨k, v⟩ := by
  simp only [List.mem_flatMap, Sigma.exists]
  exact ⟨fun ⟨k, v, h, hx⟩ => ⟨k, v, AList.mem_lookup_iff.2 h, hx⟩,
    fun ⟨k, v, h, hx⟩ => ⟨k, v, AList.mem_lookup_iff.1 h, hx⟩⟩

/-- Membership in a list gathered entry by entry, when each item carries its entry's key. -/
theorem mem_flatMap_entries_of_key (m : StrMap β) {F : (Σ _ : String, β) → List δ}
    (key : δ → String) (hkey : ∀ e x, x ∈ F e → key x = e.1) (x : δ) :
    x ∈ m.entries.flatMap F ↔ ∃ v, m.lookup (key x) = some v ∧ x ∈ F ⟨key x, v⟩ := by
  rw [mem_flatMap_entries]
  constructor
  · rintro ⟨k, v, hv, hx⟩
    obtain rfl := hkey _ _ hx
    exact ⟨v, hv, hx⟩
  · rintro ⟨v, hv, hx⟩
    exact ⟨_, v, hv, hx⟩

/-- A list gathered entry by entry, each entry's items carrying its key, lists each item once. -/
theorem nodup_flatMap_keyed {es : List (Σ _ : String, γ)} (hnd : es.keys.Nodup)
    {F : (Σ _ : String, γ) → List δ} (key : δ → String) (hkey : ∀ e x, x ∈ F e → key x = e.1)
    (hF : ∀ e ∈ es, (F e).Nodup) : (es.flatMap F).Nodup := by
  refine List.nodup_flatMap.2 ⟨hF, ?_⟩
  have hne : es.Pairwise fun a b => a.1 ≠ b.1 := List.pairwise_map.1 hnd
  exact hne.imp fun hab x h₁ h₂ => hab ((hkey _ x h₁).symm.trans (hkey _ x h₂))

theorem erase_of_lookup_eq_none {m : StrMap β} {k : String} (h : m.lookup k = none) :
    m.erase k = m :=
  AList.ext (List.kerase_of_not_mem_keys (mt AList.mem_keys.2 (AList.lookup_eq_none.1 h)))

end Maps

/-! ### One service's backends -/

section Backends

variable (vsID : String) (bes : List (Σ _ : String, Backend)) (sbs : StrMap BackendOptions)

/-- The running backends the store's map lacks. -/
def missingBackends : List (String × String) :=
  bes.flatMap fun b => match sbs.lookup b.1 with
    | none => [(vsID, b.1)]
    | some _ => []

/-- The running backends whose options differ from the store's. -/
def outdatedBackends : List (String × String) :=
  bes.flatMap fun b => match sbs.lookup b.1 with
    | some o => if b.2.options.compareStoreOptions o then [] else [(vsID, b.1)]
    | none => []

/-- The store's map without the running backends. -/
def leftoverBackends : StrMap BackendOptions :=
  bes.foldl (fun m b => m.erase b.1) sbs

/-- `fmt.Sprintf("[%s/%s]", ...)` of a pair. -/
def pairName (p : String × String) : String :=
  backendName p.1 p.2

theorem leftoverBackends_cons (b : Σ _ : String, Backend) :
    leftoverBackends (b :: bes) sbs = leftoverBackends bes (sbs.erase b.1) := rfl

variable {sbs} in
theorem missingBackends_cons {b : Σ _ : String, Backend} (hb : sbs.lookup b.1 = none) :
    missingBackends vsID (b :: bes) sbs = (vsID, b.1) :: missingBackends vsID bes sbs := by
  simp [missingBackends, hb]

variable {bes} in
theorem missingBackends_erase {k : String} (hk : k ∉ bes.keys) :
    missingBackends vsID bes (sbs.erase k) = missingBackends vsID bes sbs := by
  unfold missingBackends
  exact flatMap_lookup_erase hk fun b (o : Option BackendOptions) => match o with
    | none => [(vsID, b.1)]
    | some _ => []

variable {bes} in
theorem outdatedBackends_erase {k : String} (hk : k ∉ bes.keys) :
    outdatedBackends vsID bes (sbs.erase k) = outdatedBackends vsID bes sbs := by
  unfold outdatedBackends
  exact flatMap_lookup_erase hk fun b (o : Option BackendOptions) => match o with
    | some o => if b.2.options.compareStoreOptions o then [] else [(vsID, b.1)]
    | none => []

theorem compareBackends_eq (hnd : bes.keys.Nodup) (st : StoreSyncStatus) :
    compareBackends vsID bes st sbs =
      ({ st with
          RemovedBackends := st.RemovedBackends ++ (missingBackends vsID bes sbs).map pairName
          UpdatedBackends := st.UpdatedBackends ++ (outdatedBackends vsID bes sbs).map pairName },
        leftoverBackends bes sbs) := by
  induction bes generalizing st sbs with
  | nil => simp [compareBackends, missingBackends, outdatedBackends, leftoverBackends]
  | cons b bes ih =>
    simp only [List.keys_cons, List.nodup_cons] at hnd
    simp only [compareBackends, List.foldl_cons] at ih ⊢
    rw [leftoverBackends_cons]
    split
    · next hb =>
      rw [ih _ hnd.2, erase_of_lookup_eq_none hb, missingBackends_cons _ _ hb]
      simp [outdatedBackends, hb, pairName]
    · next o hb =>
      rw [ih _ hnd.2, missingBackends_erase _ _ hnd.1, outdatedBackends_erase _ _ hnd.1]
      cases hc : b.2.options.compareStoreOptions o <;>
        simp [missingBackends, outdatedBackends, hb, hc, pairName]

theorem lookup_leftoverBackends (k : String) :
    (leftoverBackends bes sbs).lookup k = if k ∈ bes.keys then none else sbs.lookup k := by
  induction bes generalizing sbs with
  | nil => simp [leftoverBackends]
  | cons b bes ih =>
    rw [leftoverBackends_cons, ih]
    by_cases hk : k = b.1
    · subst hk
      simp
    · simp [hk, AList.lookup_erase_ne hk]

end Backends

/-! ### The running services -/

section Services

/-- The service itself, if the store lacks it. -/
def removedServiceOf (e : Σ _ : String, Service) : Option ServiceConfig → List String
  | none => [e.1]
  | some _ => []

/-- The service itself, if its options differ from the store's. -/
def updatedServiceOf (e : Σ _ : String, Service) : Option ServiceConfig → List String
  | none => []
  | some cfg => if e.2.options.compareStoreOptions cfg.ServiceOptions then [] else [e.1]

/-- Its running backends the store lacks. -/
def missingOf (e : Σ _ : String, Service) : Option ServiceConfig → List (String × String)
  | none => []
  | some cfg => missingBackends e.1 e.2.backends.entries cfg.ServiceBackends

/-- Its running backends whose options differ from the store's. -/
def outdatedOf (e : Σ _ : String, Service) : Option ServiceConfig → List (String × String)
  | none => []
  | some cfg => outdatedBackends e.1 e.2.backends.entries cfg.ServiceBackends

/-- The store's backends it does not run, with their options. -/
def newBackendsOf (e : Σ _ : String, Service) :
    Option ServiceConfig → List (String × String × BackendOptions)
  | none => []
  | some cfg => (leftoverBackends e.2.backends.entries cfg.ServiceBackends).entries.map
      fun b => (e.1, b.1, b.2)

/-- The name `CompareWith` gives a new backend: from the `vsID` field of its store options. -/
def newBackendName (t : String × String × BackendOptions) : String :=
  backendName t.2.2.vsID t.2.1

theorem compareService_eq (st : StoreSyncStatus) (a : StrMap ServiceConfig)
    (e : Σ _ : String, Service) :
    compareService (st, a) e =
      ({ st with
          RemovedServices := st.RemovedServices ++ removedServiceOf e (a.lookup e.1)
          UpdatedServices := st.UpdatedServices ++ updatedServiceOf e (a.lookup e.1)
          RemovedBackends := st.RemovedBackends ++ (missingOf e (a.lookup e.1)).map pairName
          UpdatedBackends := st.UpdatedBackends ++ (outdatedOf e (a.lookup e.1)).map pairName
          NewBackends := st.NewBackends ++ (newBackendsOf e (a.lookup e.1)).map newBackendName },
        a.erase e.1) := by
  simp only [compareService]
  split
  · next h => simp [h, removedServiceOf, updatedServiceOf, missingOf, outdatedOf, newBackendsOf,
      erase_of_lookup_eq_none h]
  · next cfg h =>
    rw [compareBackends_eq _ _ _ e.2.backends.nodupKeys, foldl_newBackends]
    cases hc : e.2.options.compareStoreOptions cfg.ServiceOptions <;>
      simp [h, hc, removedServiceOf, updatedServiceOf, missingOf, outdatedOf, newBackendsOf,
        newBackendName]

theorem foldl_compareService_eq {es : List (Σ _ : String, Service)} (hnd : es.keys.Nodup)
    (st : StoreSyncStatus) (a : StrMap ServiceConfig) :
    (es.foldl compareService (st, a)).1 =
      { st with
        RemovedServices :=
          st.RemovedServices ++ es.flatMap fun e => removedServiceOf e (a.lookup e.1)
        UpdatedServices :=
          st.UpdatedServices ++ es.flatMap fun e => updatedServiceOf e (a.lookup e.1)
        RemovedBackends :=
          st.RemovedBackends ++ (es.flatMap fun e => missingOf e (a.lookup e.1)).map pairName
        UpdatedBackends :=
          st.UpdatedBackends ++ (es.flatMap fun e => outdatedOf e (a.lookup e.1)).map pairName
        NewBackends :=
          st.NewBackends ++
            (es.flatMap fun e => newBackendsOf e (a.lookup e.1)).map newBackendName } := by
  induction es generalizing st a with
  | nil => simp
  | cons e es ih =>
    simp only [List.keys_cons, List.nodup_cons] at hnd
    rw [List.foldl_cons, compareService_eq, ih hnd.2, flatMap_lookup_erase hnd.1 removedServiceOf,
      flatMap_lookup_erase hnd.1 updatedServiceOf, flatMap_lookup_erase hnd.1 missingOf,
      flatMap_lookup_erase hnd.1 outdatedOf, flatMap_lookup_erase hnd.1 newBackendsOf]
    simp

theorem foldl_compareService_lookup_of_mem {k : String} {es : List (Σ _ : String, Service)}
    (hnd : es.keys.Nodup) (hk : k ∈ es.keys) (p : StoreSyncStatus × StrMap ServiceConfig) :
    (es.foldl compareService p).2.lookup k = none := by
  induction es generalizing p with
  | nil => exact nomatch hk
  | cons e es ih =>
    simp only [List.keys_cons, List.nodup_cons, List.mem_cons] at hnd hk
    rw [List.foldl_cons]
    rcases hk with rfl | hk
    · obtain ⟨st, a⟩ := p
      rw [foldl_compareService_lookup hnd.1, compareService_eq]
      exact AList.lookup_erase _ _
    · exact ih hnd.2 hk _

end Services

/-! ### Membership -/

section Members

variable {e : Σ _ : String, Service} {o : Option ServiceConfig}

theorem mem_removedServiceOf {x : String} : x ∈ removedServiceOf e o ↔ o = none ∧ x = e.1 := by
  cases o <;> simp [removedServiceOf]

theorem mem_updatedServiceOf {x : String} :
    x ∈ updatedServiceOf e o ↔ ∃ cfg, o = some cfg ∧
      e.2.options.compareStoreOptions cfg.ServiceOptions = false ∧ x = e.1 := by
  cases o with
  | none => simp [updatedServiceOf]
  | some cfg => cases hc : e.2.options.compareStoreOptions cfg.ServiceOptions <;>
      simp [updatedServiceOf, hc]

theorem mem_missingOf {p : String × String} :
    p ∈ missingOf e o ↔ ∃ cfg, o = some cfg ∧ p.1 = e.1 ∧ p.2 ∈ e.2.backends ∧
      p.2 ∉ cfg.ServiceBackends := by
  cases o with
  | none => simp [missingOf]
  | some cfg =>
    simp only [missingOf, missingBackends, mem_flatMap_entries, Option.some.injEq, exists_eq_left']
    constructor
    · rintro ⟨k, rs, hrs, hp⟩
      split at hp
      · next h =>
        obtain rfl := List.mem_singleton.1 hp
        exact ⟨rfl, AList.lookup_isSome.1 (by rw [hrs]; rfl), AList.lookup_eq_none.1 h⟩
      · exact nomatch hp
    · rintro ⟨h1, hin, hout⟩
      obtain ⟨rs, hrs⟩ := Option.isSome_iff_exists.1 (AList.lookup_isSome.2 hin)
      refine ⟨p.2, rs, hrs, ?_⟩
      rw [AList.lookup_eq_none.2 hout, ← h1]
      exact List.mem_singleton_self _

theorem mem_outdatedOf {p : String × String} :
    p ∈ outdatedOf e o ↔ ∃ cfg rs b, o = some cfg ∧ p.1 = e.1 ∧ e.2.backends.lookup p.2 = some rs ∧
      cfg.ServiceBackends.lookup p.2 = some b ∧ rs.options.compareStoreOptions b = false := by
  cases o with
  | none => simp [outdatedOf]
  | some cfg =>
    simp only [outdatedOf, outdatedBackends, mem_flatMap_entries, Option.some.injEq,
      exists_and_left, exists_eq_left']
    constructor
    · rintro ⟨k, rs, hrs, hp⟩
      split at hp
      · next b h =>
        cases hc : rs.options.compareStoreOptions b <;> simp only [hc] at hp
        · obtain rfl := List.mem_singleton.1 hp
          exact ⟨rfl, rs, hrs, b, h, hc⟩
        · exact nomatch hp
      · exact nomatch hp
    · rintro ⟨h1, rs, hrs, b, hb, hc⟩
      refine ⟨p.2, rs, hrs, ?_⟩
      simp only [hb, hc, ← h1]
      exact List.mem_singleton_self _

theorem mem_newBackendsOf {t : String × String × BackendOptions} :
    t ∈ newBackendsOf e o ↔ ∃ cfg, o = some cfg ∧ t.1 = e.1 ∧
      cfg.ServiceBackends.lookup t.2.1 = some t.2.2 ∧ t.2.1 ∉ e.2.backends := by
  cases o with
  | none => simp [newBackendsOf]
  | some cfg =>
    obtain ⟨v, r, b⟩ := t
    simp only [newBackendsOf, List.mem_map, Option.some.injEq, exists_eq_left', Prod.mk.injEq]
    constructor
    · rintro ⟨⟨k, b'⟩, hk, rfl, rfl, rfl⟩
      have hl := AList.mem_lookup_iff.2 hk
      rw [lookup_leftoverBackends] at hl
      split at hl
      · exact nomatch hl
      · next hout => exact ⟨rfl, hl, fun hin => hout (AList.mem_keys.1 hin)⟩
    · rintro ⟨rfl, hb, hout⟩
      refine ⟨⟨r, b⟩, AList.mem_lookup_iff.1 ?_, rfl, rfl, rfl⟩
      rw [lookup_leftoverBackends, if_neg (show r ∉ e.2.backends.entries.keys from hout), hb]
      rfl

theorem key_of_mem_updatedServiceOf {x : String} (h : x ∈ updatedServiceOf e o) : x = e.1 := by
  obtain ⟨_, -, -, h⟩ := mem_updatedServiceOf.1 h
  exact h

theorem key_of_mem_missingOf {p : String × String} (h : p ∈ missingOf e o) : p.1 = e.1 := by
  obtain ⟨_, -, h, -⟩ := mem_missingOf.1 h
  exact h

theorem key_of_mem_outdatedOf {p : String × String} (h : p ∈ outdatedOf e o) : p.1 = e.1 := by
  obtain ⟨_, _, _, -, h, -⟩ := mem_outdatedOf.1 h
  exact h

theorem key_of_mem_newBackendsOf {t : String × String × BackendOptions}
    (h : t ∈ newBackendsOf e o) : t.1 = e.1 := by
  obtain ⟨_, -, h, -⟩ := mem_newBackendsOf.1 h
  exact h

end Members

/-! ### Each item once -/

section Nodup

variable (e : Σ _ : String, Service) (o : Option ServiceConfig)

theorem nodup_removedServiceOf : (removedServiceOf e o).Nodup := by
  cases o <;> simp [removedServiceOf]

theorem nodup_updatedServiceOf : (updatedServiceOf e o).Nodup := by
  cases o with
  | none => simp [updatedServiceOf]
  | some cfg => simp only [updatedServiceOf]; split <;> simp

theorem nodup_missingOf : (missingOf e o).Nodup := by
  cases o with
  | none => simp [missingOf]
  | some cfg =>
    refine nodup_flatMap_keyed e.2.backends.nodupKeys Prod.snd (fun b p hp => ?_) fun b _ => ?_
    · split at hp
      · rw [List.mem_singleton.1 hp]
      · exact nomatch hp
    · split <;> simp

theorem nodup_outdatedOf : (outdatedOf e o).Nodup := by
  cases o with
  | none => simp [outdatedOf]
  | some cfg =>
    refine nodup_flatMap_keyed e.2.backends.nodupKeys Prod.snd (fun b p hp => ?_) fun b _ => ?_
    · split at hp
      · split at hp
        · exact nomatch hp
        · rw [List.mem_singleton.1 hp]
      · exact nomatch hp
    · split
      · split <;> simp
      · simp

theorem nodup_newBackendsOf : (newBackendsOf e o).Nodup := by
  cases o with
  | none => simp [newBackendsOf]
  | some cfg =>
    refine List.Nodup.of_map (fun t => t.2.1) ?_
    have h := (leftoverBackends e.2.backends.entries cfg.ServiceBackends).nodupKeys
    simpa [newBackendsOf, List.map_map, Function.comp_def, List.NodupKeys, List.keys] using h

end Nodup

/-! ### The diff `CompareWith` reports -/

/-- What `CompareWith` reports of the running services `ctx` against the store's `d`, list by list:
the items each list holds, each once, and the status. Backends are named by
`fmt.Sprintf("[%s/%s]", ...)`; the new ones take the service part of their name from the store's
options. -/
structure Reports (ctx : Context) (d : StrMap ServiceConfig) (st : StoreSyncStatus) : Prop where
  removedServices : st.RemovedServices.Nodup ∧
    ∀ vsID, vsID ∈ st.RemovedServices ↔ vsID ∈ ctx.services ∧ vsID ∉ d
  newServices : st.NewServices.Nodup ∧
    ∀ vsID, vsID ∈ st.NewServices ↔ vsID ∈ d ∧ vsID ∉ ctx.services
  updatedServices : st.UpdatedServices.Nodup ∧
    ∀ vsID, vsID ∈ st.UpdatedServices ↔ ∃ vs cfg, ctx.services.lookup vsID = some vs ∧
      d.lookup vsID = some cfg ∧ vs.options.compareStoreOptions cfg.ServiceOptions = false
  removedBackends : ∃ l : List (String × String), l.Nodup ∧
    (∀ vsID rsID, (vsID, rsID) ∈ l ↔ ∃ vs cfg, ctx.services.lookup vsID = some vs ∧
      d.lookup vsID = some cfg ∧ rsID ∈ vs.backends ∧ rsID ∉ cfg.ServiceBackends) ∧
    st.RemovedBackends = l.map fun p => backendName p.1 p.2
  updatedBackends : ∃ l : List (String × String), l.Nodup ∧
    (∀ vsID rsID, (vsID, rsID) ∈ l ↔ ∃ vs cfg rs o, ctx.services.lookup vsID = some vs ∧
      d.lookup vsID = some cfg ∧ vs.backends.lookup rsID = some rs ∧
      cfg.ServiceBackends.lookup rsID = some o ∧
      (rs.options.Host ≠ o.Host ∨ rs.options.Port ≠ o.Port)) ∧
    st.UpdatedBackends = l.map fun p => backendName p.1 p.2
  newBackends : ∃ l : List (String × String × BackendOptions), l.Nodup ∧
    (∀ vsID rsID o, (vsID, rsID, o) ∈ l ↔ ∃ vs cfg, ctx.services.lookup vsID = some vs ∧
      d.lookup vsID = some cfg ∧ cfg.ServiceBackends.lookup rsID = some o ∧ rsID ∉ vs.backends) ∧
    st.NewBackends = l.map fun t => backendName t.2.2.vsID t.2.1
  status : st.Status = "need sync" ↔ ¬ st.Clean

theorem compareStoreOptions_eq_false {o o' : BackendOptions} :
    o.compareStoreOptions o' = false ↔ o.Host ≠ o'.Host ∨ o.Port ≠ o'.Port := by
  simp [BackendOptions.compareStoreOptions, Bool.and_eq_false_iff, ← Decidable.not_and_iff_or_not]

theorem checkStatus_eq_needSync (st : StoreSyncStatus) :
    st.checkStatus = "need sync" ↔ ¬ st.Clean := by
  rw [← checkStatus_eq_ok]
  unfold checkStatus
  split <;> decide

theorem exists_lookup_iff_mem {β : Type} (m : StrMap β) (k : String) :
    (∃ v, m.lookup k = some v) ↔ k ∈ m :=
  Option.isSome_iff_exists.symm.trans AList.lookup_isSome

theorem compareWith_reports (ctx : Context) (d : StrMap ServiceConfig) :
    Reports ctx d (ctx.compareWith d) := by
  have hnd : ctx.services.entries.keys.Nodup := ctx.services.nodupKeys
  have hleft : ∀ k, (ctx.services.entries.foldl compareService ({}, d)).2.lookup k =
      if k ∈ ctx.services then none else d.lookup k := fun k => by
    split
    · next hk => exact foldl_compareService_lookup_of_mem hnd hk _
    · next hk => exact foldl_compareService_lookup hk _
  simp only [Context.compareWith, foldl_newServices, foldl_compareService_eq hnd, List.nil_append]
  refine ⟨⟨nodup_flatMap_keyed hnd id (fun _ _ h => (mem_removedServiceOf.1 h).2)
      fun e _ => nodup_removedServiceOf e _, fun x => ?_⟩,
    ⟨AList.nodupKeys _, fun x => ?_⟩,
    ⟨nodup_flatMap_keyed hnd id (fun _ _ => key_of_mem_updatedServiceOf)
      fun e _ => nodup_updatedServiceOf e _, fun x => ?_⟩,
    ⟨_, nodup_flatMap_keyed hnd Prod.fst (fun _ _ => key_of_mem_missingOf)
      fun e _ => nodup_missingOf e _, fun v r => ?_, rfl⟩,
    ⟨_, nodup_flatMap_keyed hnd Prod.fst (fun _ _ => key_of_mem_outdatedOf)
      fun e _ => nodup_outdatedOf e _, fun v r => ?_, rfl⟩,
    ⟨_, nodup_flatMap_keyed hnd Prod.fst (fun _ _ => key_of_mem_newBackendsOf)
      fun e _ => nodup_newBackendsOf e _, fun v r o => ?_, rfl⟩,
    checkStatus_eq_needSync _⟩
  · simp only [mem_flatMap_entries_of_key _ id (fun _ _ h => (mem_removedServiceOf.1 h).2),
      mem_removedServiceOf, id, and_true, exists_and_right, exists_lookup_iff_mem,
      AList.lookup_eq_none]
  · have hmem := exists_lookup_iff_mem (ctx.services.entries.foldl compareService ({}, d)).2 x
    refine hmem.symm.trans ?_
    rw [hleft]
    split
    · next h => simp [h]
    · next h => simp [h, exists_lookup_iff_mem]
  · simp only [mem_flatMap_entries_of_key _ id (fun _ _ => key_of_mem_updatedServiceOf),
      mem_updatedServiceOf, id, and_true, exists_and_left]
  · simp only [mem_flatMap_entries_of_key _ Prod.fst (fun _ _ => key_of_mem_missingOf),
      mem_missingOf, true_and, exists_and_left]
  · simp only [mem_flatMap_entries_of_key _ Prod.fst (fun _ _ => key_of_mem_outdatedOf),
      mem_outdatedOf, ← compareStoreOptions_eq_false, true_and, exists_and_left]
  · simp only [mem_flatMap_entries_of_key _ Prod.fst (fun _ _ => key_of_mem_newBackendsOf),
      mem_newBackendsOf, true_and, exists_and_left]

/-- The store's `web` with a second backend `b`, as decoded: its `vsID` field is empty. -/
def twoBackendStore : StrMap ServiceConfig :=
  (∅ : StrMap ServiceConfig).insert "web"
    { ServiceOptions := webOptions
      ServiceBackends := ((∅ : StrMap BackendOptions).insert "a" webBackend).insert "b"
        { Host := "10.0.0.3", Port := 8080 } }

/-- Against `firstBackend`, the new backend `b` of `web` is reported as `[/b]`. -/
theorem new_backend_loses_service :
    Reports firstBackend.ctx twoBackendStore (firstBackend.ctx.compareWith twoBackendStore) ∧
      (firstBackend.ctx.compareWith twoBackendStore).NewBackends = ["[/b]"] ∧
      (firstBackend.ctx.compareWith twoBackendStore).NewBackends ≠ [backendName "web" "b"] :=
  ⟨compareWith_reports _ _, by decide, by decide⟩

end Gorb
