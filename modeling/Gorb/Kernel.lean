import Gorb.Errors

/-!
# The kernel's table backs the Context

The services of the Context are backed by the kernel's table when each has a pool under its
(resolved host, port, protocol) and each of its backends a destination in that pool at its
(resolved host, port), of the service's address family (`KernelBacksContext`).

Two things break it, both by the design of `context.go`. The Context never owns a kernel entry:
`createService` skips `AddService` when `GetPoolForService` finds the pool, and `createBackend`
skips `AddDestPort` when the pool has the destination, so two live services on one VIP, port and
protocol, or two live backends of a service on one address, share an entry that the first
`DelService` or `DelDestPort` deletes. And `createBackend` resolves the backend's host twice, once
for `AddDestPort` and once more in `Service.CreateBackend` for what it records.

Every step of a run is a sequence of calls of the Context's mutators and of the loop's steps
(`Action.step_calls`). Along a sequence in which no two live objects share an entry (`Unshared`)
and no `createBackend` sees its host's answer change, the invariant `Backed` holds in every state:
each call keeps it, one lemma each from its `_cases` lemma. A call that changes the table keeps
every entry it does not delete (`hasDest_apply`), and the one it deletes belongs to no other live
service or backend. An entry freed by a removal may be taken again.
-/

namespace Gorb

namespace Pool

variable {p : Pool} {rip rip' : String} {rport rport' : UInt16} {w : Int}

theorem dest?_isSome_iff :
    (p.dest? rip rport).isSome ↔ ∃ d ∈ p.Dests, d.IP = rip ∧ d.Port = rport := by
  simp [dest?, List.find?_isSome]

theorem hasKey_eq {vip vip' : String} {port port' : UInt16} {proto proto' : Nat}
    (h : p.hasKey vip port proto) (h' : p.hasKey vip' port' proto') :
    vip = vip' ∧ port = port' ∧ proto = proto' := by
  simp only [hasKey, Bool.and_eq_true, beq_iff_eq] at h h'
  exact ⟨h.1.1.symm.trans h'.1.1, h.1.2.symm.trans h'.1.2, h.2.symm.trans h'.2⟩

@[simp] theorem addDest_Service : (p.addDest rip rport w).Service = p.Service := by
  unfold addDest; split <;> rfl

@[simp] theorem setWeight_Service : (p.setWeight rip rport w).Service = p.Service := rfl

@[simp] theorem delDest_Service : (p.delDest rip rport).Service = p.Service := rfl

theorem dest?_addDest (h : (p.dest? rip' rport').isSome) :
    ((p.addDest rip rport w).dest? rip' rport').isSome := by
  unfold addDest; split
  · exact h
  · rw [dest?_isSome_iff] at h ⊢
    obtain ⟨d, hd, hk⟩ := h
    exact ⟨d, List.mem_append_left _ hd, hk⟩

theorem dest?_addDest_self : ((p.addDest rip rport w).dest? rip rport).isSome := by
  unfold addDest; split
  · assumption
  · rw [dest?_isSome_iff]
    exact ⟨_, List.mem_append_right _ (List.mem_singleton_self _), rfl, rfl⟩

theorem dest?_setWeight (h : (p.dest? rip' rport').isSome) :
    ((p.setWeight rip rport w).dest? rip' rport').isSome := by
  rw [dest?_isSome_iff] at h ⊢
  obtain ⟨d, hd, hk⟩ := h
  refine ⟨_, List.mem_map_of_mem _ hd, ?_⟩
  split <;> exact hk

theorem dest?_delDest (h : (p.dest? rip' rport').isSome) (hne : ¬(rip' = rip ∧ rport' = rport)) :
    ((p.delDest rip rport).dest? rip' rport').isSome := by
  rw [dest?_isSome_iff] at h ⊢
  obtain ⟨d, hd, hk⟩ := h
  refine ⟨d, List.mem_filter.2 ⟨hd, ?_⟩, hk⟩
  rw [hk.1, hk.2]
  simp only [Bool.not_eq_true', Bool.and_eq_false_iff, beq_eq_false_iff_ne, ne_eq]
  exact not_and_or.1 hne

end Pool

/-- The table has a pool under the key (vip, port, proto), with the destination (rip, rport). -/
def HasDest (t : List Pool) (vip : String) (port : UInt16) (proto : Nat) (rip : String)
    (rport : UInt16) : Prop :=
  ∃ pool, poolOf t vip port proto = some pool ∧ (pool.dest? rip rport).isSome

section Table

variable {t : List Pool} {vip : String} {port : UInt16} {proto : Nat} {rip : String}
  {rport : UInt16}

theorem hasKey_of_poolOf {pool : Pool} (h : poolOf t vip port proto = some pool) :
    pool.hasKey vip port proto := by
  unfold poolOf at h
  exact List.find?_some (p := fun q : Pool => q.hasKey vip port proto) h

theorem poolOf_map {f : Pool → Pool} (hf : ∀ p, (f p).Service = p.Service) :
    poolOf (t.map f) vip port proto = (poolOf t vip port proto).map f := by
  have : ((fun p : Pool => p.hasKey vip port proto) ∘ f) = fun p => p.hasKey vip port proto :=
    funext fun p => by simp only [Function.comp, Pool.hasKey, hf]
  rw [poolOf, List.find?_map, this]
  rfl

theorem poolOf_filter {vip' : String} {port' : UInt16} {proto' : Nat}
    (hne : ¬(vip = vip' ∧ port = port' ∧ proto = proto')) :
    poolOf (t.filter fun p => !p.hasKey vip' port' proto') vip port proto =
      poolOf t vip port proto := by
  rw [poolOf, List.find?_filter]
  congr 1
  funext p
  by_cases h : p.hasKey vip port proto
  · have h' : ¬p.hasKey vip' port' proto' := fun h' => hne (Pool.hasKey_eq h h')
    simp [h, h']
  · simp [h]

theorem poolOf_addPool (svc : Svc) (h : (poolOf t vip port proto).isSome) :
    poolOf (IpvsCall.addPool svc t) vip port proto = poolOf t vip port proto := by
  unfold IpvsCall.addPool
  split
  · rfl
  · obtain ⟨p, hp⟩ := Option.isSome_iff_exists.1 h
    simp only [poolOf] at hp ⊢
    rw [List.find?_append, hp]
    rfl

theorem poolOf_addPool_self (svc : Svc) :
    (poolOf (IpvsCall.addPool svc t) svc.VIP svc.Port svc.Proto).isSome := by
  unfold IpvsCall.addPool
  split
  · assumption
  · rw [poolOf, List.find?_append, Option.isSome_or]
    simp [Pool.hasKey]

end Table

section Apply

variable {t : List Pool} {vip : String} {port : UInt16} {proto : Nat} {rip : String}
  {rport : UInt16}

theorem HasDest.map {f : Pool → Pool} (hf : ∀ p, (f p).Service = p.Service)
    (hd : ∀ p, p.hasKey vip port proto → (p.dest? rip rport).isSome →
      ((f p).dest? rip rport).isSome)
    (h : HasDest t vip port proto rip rport) : HasDest (t.map f) vip port proto rip rport := by
  obtain ⟨pool, hp, hdp⟩ := h
  exact ⟨f pool, by rw [poolOf_map hf, hp]; rfl, hd pool (hasKey_of_poolOf hp) hdp⟩

/-- A call keeps the pool under a key unless it deletes that virtual service. -/
theorem isSome_poolOf_apply (c : IpvsCall) (h : (poolOf t vip port proto).isSome)
    (hc : c ≠ .delService vip port proto) : (poolOf (c.apply t) vip port proto).isSome := by
  cases c with
  | addService => exact (poolOf_addPool _ h).symm ▸ h
  | addServiceWithFlags => exact (poolOf_addPool _ h).symm ▸ h
  | delService vip' port' proto' =>
    rwa [IpvsCall.apply, poolOf_filter fun ⟨h₁, h₂, h₃⟩ => hc (by rw [h₁, h₂, h₃])]
  | addDestPort | updateDestPort | delDestPort =>
    rw [IpvsCall.apply, poolOf_map fun p => by split <;> simp]
    simpa using h
  | getPools => exact h

/-- A call keeps a destination unless it deletes it or its virtual service. -/
theorem hasDest_apply (c : IpvsCall) (h : HasDest t vip port proto rip rport)
    (hsvc : c ≠ .delService vip port proto) (hdest : c ≠ .delDestPort vip port rip rport proto) :
    HasDest (c.apply t) vip port proto rip rport := by
  have hpool : (poolOf t vip port proto).isSome := by
    obtain ⟨_, hp, -⟩ := h
    rw [hp]
    rfl
  cases c with
  | addService | addServiceWithFlags =>
    rw [IpvsCall.apply, HasDest, poolOf_addPool _ hpool]
    exact h
  | delService vip' port' proto' =>
    rw [IpvsCall.apply, HasDest, poolOf_filter fun ⟨h₁, h₂, h₃⟩ => hsvc (by rw [h₁, h₂, h₃])]
    exact h
  | addDestPort =>
    refine h.map (fun p => by split <;> simp) fun p _ hd => ?_
    split
    · exact Pool.dest?_addDest hd
    · exact hd
  | updateDestPort =>
    refine h.map (fun p => by split <;> simp) fun p _ hd => ?_
    split
    · exact Pool.dest?_setWeight hd
    · exact hd
  | delDestPort vip' vport' rip' rport' proto' =>
    refine h.map (fun p => by split <;> simp) fun p hkey hd => ?_
    split
    · next hkey' =>
      obtain ⟨rfl, rfl, rfl⟩ := Pool.hasKey_eq hkey hkey'
      exact Pool.dest?_delDest hd fun ⟨h₁, h₂⟩ => hdest (by rw [h₁, h₂])
    · exact hd
  | getPools => exact h

/-- `AddDestPort` into a pool the table has adds the destination. -/
theorem hasDest_addDestPort (h : (poolOf t vip port proto).isSome) (weight : Int) (fwd : Nat) :
    HasDest ((IpvsCall.addDestPort vip port rip rport proto weight fwd).apply t) vip port proto
      rip rport := by
  obtain ⟨pool, hp⟩ := Option.isSome_iff_exists.1 h
  refine ⟨_, by rw [IpvsCall.apply, poolOf_map fun p => by split <;> simp, hp]; rfl, ?_⟩
  dsimp only
  rw [if_pos (hasKey_of_poolOf hp)]
  exact Pool.dest?_addDest_self

end Apply

/-! ### Entries no two objects share -/

/-- The kernel's key of the virtual service of validated options: (VIP, port, protocol). -/
def serviceKey (o : ServiceOptions) : String × UInt16 × Nat :=
  (ipString o.host, o.Port, o.protocol)

/-- The address of the destination of a backend with validated options. -/
def backendAddr (o : BackendOptions) : String × UInt16 :=
  (ipString o.host, o.Port)

/-- No two services of the Context share a virtual service of the kernel, and no two backends of
a service share a destination. -/
structure Unshared (s : Machine) : Prop where
  services : ∀ vsID vs vsID' vs', s.ctx.services.lookup vsID = some vs →
    s.ctx.services.lookup vsID' = some vs' → serviceKey vs.options = serviceKey vs'.options →
    vsID = vsID'
  backends : ∀ vsID vs, s.ctx.services.lookup vsID = some vs → ∀ rsID rs rsID' rs',
    vs.backends.lookup rsID = some rs → vs.backends.lookup rsID' = some rs' →
    backendAddr rs.options = backendAddr rs'.options → rsID = rsID'

/-- The call deletes the virtual service of `vs`, or the destination of one of its backends. -/
def IpvsCall.Drops (c : IpvsCall) (vs : Service) : Prop :=
  c = .delService (ipString vs.options.host) vs.options.Port vs.options.protocol ∨
    ∃ rsID rs, vs.backends.lookup rsID = some rs ∧
      c = .delDestPort (ipString vs.options.host) vs.options.Port (ipString rs.options.host)
        rs.options.Port vs.options.protocol

section Backed

/-- The table has the destination of the backend `rs` in the pool of its service `vs`, and the
backend's address has the service's family. -/
def BackendBacked (t : List Pool) (vs : Service) (rs : Backend) : Prop :=
  HasDest t (ipString vs.options.host) vs.options.Port vs.options.protocol
      (ipString rs.options.host) rs.options.Port ∧
    addrFamily rs.options.host = addrFamily vs.options.host

structure ServiceBacked (t : List Pool) (vs : Service) : Prop where
  svc : vs.svc = serviceSvc vs.options
  pool : (poolOf t (ipString vs.options.host) vs.options.Port vs.options.protocol).isSome
  backends : ∀ rsID rs, vs.backends.lookup rsID = some rs → BackendBacked t vs rs

/-- The kernel's table backs every service of the Context and every backend of each. -/
def Backed (s : Machine) : Prop :=
  ∀ vsID vs, s.ctx.services.lookup vsID = some vs → ServiceBacked s.ipvs vs

variable {t : List Pool} {vs : Service}

theorem ServiceBacked.apply (h : ServiceBacked t vs) {c : IpvsCall} (hc : ¬c.Drops vs) :
    ServiceBacked (c.apply t) vs :=
  ⟨h.svc, isSome_poolOf_apply c h.pool fun h' => hc (.inl h'), fun rsID rs hrs =>
    have hb := h.backends rsID rs hrs
    ⟨hasDest_apply c hb.1 (fun h' => hc (.inl h')) fun h' => hc (.inr ⟨rsID, rs, hrs, h'⟩),
      hb.2⟩⟩

theorem ServiceBacked.issue (h : ServiceBacked t vs) {c : IpvsCall} (hc : ¬c.Drops vs) (b : Bool) :
    ServiceBacked (if b then c.apply t else t) vs := by
  cases b
  · exact h
  · exact h.apply hc

theorem ServiceBacked.erase (h : ServiceBacked t vs) (rsID : String) :
    ServiceBacked t { vs with backends := vs.backends.erase rsID } :=
  ⟨h.svc, h.pool, forall_lookup_erase h.backends⟩

theorem ServiceBacked.addPool (h : ServiceBacked t vs) (svc : Svc) :
    ServiceBacked (IpvsCall.addPool svc t) vs :=
  ⟨h.svc, by rw [poolOf_addPool _ h.pool]; exact h.pool, fun rsID rs hrs =>
    have hb := h.backends rsID rs hrs
    ⟨by rw [HasDest, poolOf_addPool _ h.pool]; exact hb.1, hb.2⟩⟩

end Backed

theorem forall_lookup_erase_of_ne {β : Type} {P : String → β → Prop} {m : StrMap β} {a : String}
    (hm : ∀ k v, k ≠ a → m.lookup k = some v → P k v) :
    ∀ k v, (m.erase a).lookup k = some v → P k v := by
  intro k v hk
  by_cases hka : k = a
  · subst hka
    rw [AList.lookup_erase] at hk
    cases hk
  · rw [AList.lookup_erase_ne hka] at hk
    exact hm k v hka hk

theorem forall_lookup_insert_of_ne {β : Type} {P : String → β → Prop} {m : StrMap β} {a : String}
    {b : β} (hm : ∀ k v, k ≠ a → m.lookup k = some v → P k v) (hb : P a b) :
    ∀ k v, (m.insert a b).lookup k = some v → P k v := by
  intro k v hk
  by_cases hka : k = a
  · subst hka
    rw [AList.lookup_insert, Option.some.injEq] at hk
    exact hk ▸ hb
  · rw [AList.lookup_insert_ne hka] at hk
    exact hm k v hka hk

section Transport

variable {env : Env} {s s' : Machine} {vs : Service}

theorem IpvsCall.not_drops {c : IpvsCall} (hs : ∀ vip port proto, c ≠ .delService vip port proto)
    (hd : ∀ vip port rip rport proto, c ≠ .delDestPort vip port rip rport proto) (vs : Service) :
    ¬c.Drops vs := by
  rintro (h | ⟨_, _, _, h⟩)
  · exact hs _ _ _ h
  · exact hd _ _ _ _ _ h

/-- `DelService` of `vs₀` touches only a service with its key. -/
theorem drops_removeServiceCall {vs₀ : Service} (h : (removeServiceCall vs₀).Drops vs) :
    serviceKey vs.options = serviceKey vs₀.options := by
  rcases h with h | ⟨_, _, _, h⟩
  · injection h with h₁ h₂ h₃
    simp only [serviceKey, h₁, h₂, h₃]
  · cases h

/-- `DelDestPort` of the backend `rs₀` of `vs₀` touches only a service with its key, through a
backend with its address. -/
theorem drops_removeBackendCall {vs₀ : Service} {rs₀ : Backend}
    (h : (removeBackendCall vs₀ rs₀).Drops vs) :
    serviceKey vs.options = serviceKey vs₀.options ∧ ∃ rsID rs,
      vs.backends.lookup rsID = some rs ∧ backendAddr rs.options = backendAddr rs₀.options := by
  rcases h with h | ⟨rsID, rs, hrs, h⟩
  · cases h
  · injection h with h₁ h₂ h₃ h₄ h₅
    exact ⟨by simp only [serviceKey, h₁, h₂, h₅], rsID, rs, hrs, by
      simp only [backendAddr, h₃, h₄]⟩

theorem Backed.of_table (hs : Backed s) (hctx : s'.ctx = s.ctx)
    (ht : ∀ vsID vs, s.ctx.services.lookup vsID = some vs →
      ServiceBacked s.ipvs vs → ServiceBacked s'.ipvs vs) : Backed s' := fun vsID vs h => by
  rw [hctx] at h
  exact ht vsID vs h (hs vsID vs h)

theorem Backed.of_same (hs : Backed s) (hctx : s'.ctx = s.ctx) (hipvs : s'.ipvs = s.ipvs) :
    Backed s' :=
  hs.of_table hctx fun _ _ _ h => hipvs ▸ h

theorem Backed.issue (hs : Backed s) {c : IpvsCall} {maxWeight : Int}
    (hc : ∀ vsID vs, s.ctx.services.lookup vsID = some vs → ¬c.Drops vs) :
    Backed (s.issue env maxWeight c) :=
  hs.of_table rfl fun vsID vs hvs h => h.issue (hc vsID vs hvs) _

end Transport

theorem Pool.dest?_isSome_of_any {pool : Pool} {rip : String} {rport : UInt16}
    (h : pool.Dests.any fun d => d.IP == rip && d.Port == rport) :
    (pool.dest? rip rport).isSome :=
  List.find?_isSome.2 (List.any_eq_true.1 h)

section Mutators

variable {env : Env} {s s' : Machine} {vsID rsID : String}

theorem backed_of_updateBackend {w : Int} {r : Except Err Int}
    (h : (updateBackend env vsID rsID w).exec s = (r, s')) (hs : Backed s) : Backed s' := by
  obtain ⟨-, rfl⟩ | ⟨vs, rs, hvs, hrs, ⟨-, -, rfl⟩ | ⟨-, -, rfl⟩⟩ := updateBackend_cases h
  · exact hs
  all_goals
    have hi : Backed (s.issue env vs.options.MaxWeight (updateBackendCall vs rs w)) :=
      hs.issue fun _ _ _ => IpvsCall.not_drops (by simp [updateBackendCall])
        (by simp [updateBackendCall]) _
  · exact hi
  · have hb := hi vsID vs hvs
    exact forall_lookup_insert hi
      ⟨hb.svc, hb.pool, forall_lookup_insert hb.backends (hb.backends rsID rs hrs)⟩

/-- `DelDestPort` deletes a destination no other backend of the service has, since no two share
one. -/
theorem backed_of_removeBackend {r : Except Err BackendOptions}
    (h : (removeBackend env vsID rsID).exec s = (r, s')) (hs : Backed s) (hu : Unshared s) :
    Backed s' := by
  obtain ⟨-, rfl⟩ | ⟨vs, rs, hvs, hrs, ⟨hok, -, rfl⟩ | ⟨-, -, rfl⟩⟩ := removeBackend_cases h
  · exact hs
  · exact hs.of_same rfl (issue_ipvs_of_refused hok)
  · have hother : ∀ vsID' vs', vsID' ≠ vsID → s.ctx.services.lookup vsID' = some vs' →
        ¬(removeBackendCall vs rs).Drops vs' := fun _ _ hne hvs' hd =>
      hne (hu.services _ _ _ _ hvs' hvs (drops_removeBackendCall hd).1)
    have hself : ¬(removeBackendCall vs rs).Drops
        { vs with backends := vs.backends.erase rsID } := fun hd => by
      obtain ⟨-, rsID', rs', hrs', haddr⟩ := drops_removeBackendCall hd
      have hne : rsID' ≠ rsID := by
        rintro rfl
        rw [AList.lookup_erase] at hrs'
        cases hrs'
      rw [AList.lookup_erase_ne hne] at hrs'
      exact hne (hu.backends vsID vs hvs rsID' rs' rsID rs hrs' hrs haddr)
    exact forall_lookup_insert_of_ne (fun k v hk hkv => (hs k v hkv).issue (hother k v hk hkv) _)
      (((hs vsID vs hvs).erase rsID).issue hself _)

/-- `DelService` deletes a virtual service no other service has, since no two share one. -/
theorem backed_of_removeService {r : Except Err ServiceOptions}
    (h : (removeService env vsID).exec s = (r, s')) (hs : Backed s) (hu : Unshared s) :
    Backed s' := by
  have hs₁ : ∀ vs, Backed (s.afterDelVip env vs) := fun _ =>
    hs.of_same afterDelVip_ctx afterDelVip_ipvs
  obtain ⟨-, rfl⟩ | ⟨vs, hvs, ⟨hok, -, rfl⟩ | ⟨-, -, rfl⟩⟩ := removeService_cases h
  · exact hs
  · exact (hs₁ vs).of_same rfl (issue_ipvs_of_refused hok)
  · refine forall_lookup_erase_of_ne fun k v hk hkv => ?_
    have hkv' : s.ctx.services.lookup k = some v := by simpa using hkv
    exact ((hs₁ vs) k v hkv).issue
      (fun hd => hk (hu.services _ _ _ _ hkv' hvs (drops_removeServiceCall hd))) _

/-- A service registered finds its pool in the table or adds it, and has no backend yet. -/
theorem backed_of_registerService {cfg : ServiceConfig} {r : Except Err Unit}
    (h : (registerService env vsID cfg).exec s = (r, s')) (hs : Backed s) : Backed s' := by
  obtain ⟨-, -, -, -, ⟨-, hctx, -, hipvs, -⟩ |
      ⟨-, o, o', t, -, -, -, -, -, -, -, -, hpool, rfl⟩⟩ := registerService_cases h
  · exact hs.of_same hctx hipvs
  have hold : ∀ k v, s.ctx.services.lookup k = some v → ServiceBacked t.ipvs v := by
    intro k v hkv
    rcases hpool with ⟨-, ht⟩ | ht <;> rw [ht]
    · exact hs k v hkv
    · exact (hs k v hkv).addPool _
  have hnew : (poolOf t.ipvs (ipString o'.host) o'.Port o'.protocol).isSome := by
    rcases hpool with ⟨hfound, ht⟩ | ht <;> rw [ht]
    · exact hfound
    · exact poolOf_addPool_self (serviceSvc o')
  exact forall_lookup_insert hold ⟨rfl, hnew, fun _ _ h => nomatch h⟩

/-- A backend created while its host keeps one answer: its destination is found in the pool of its
service or added there, at the address the Context records. -/
theorem backed_of_createBackend {opts : BackendOptions} {r : Except Err Unit}
    (h : (createBackend env vsID rsID opts).exec s = (r, s')) (hs : Backed s)
    (hdns : ∀ n, s.clock ≤ n → n < s'.clock → env.dns n opts.Host = env.dns s.clock opts.Host) :
    Backed s' := by
  have hadd : ∀ vs o k v, s.ctx.services.lookup k = some v →
      ServiceBacked ((createBackendCall vs o).apply s.ipvs) v := fun _ _ k v hkv =>
    (hs k v hkv).apply (IpvsCall.not_drops (by simp [createBackendCall])
      (by simp [createBackendCall]) _)
  obtain ⟨-, ⟨-, hk, hipvs⟩ | ⟨-, hk, vs, o₁, -, -, hipvs⟩ |
      ⟨-, vs, o₁, o, pool, t, hvs, -, hv₁, haf, hpool, ⟨n, hn, htn, hv⟩, hk, hdest, rfl⟩⟩ :=
    createBackend_cases h
  · exact hs.of_same hk.ctx hipvs
  · exact hs.of_table hk.ctx fun k v hkv _ => hipvs ▸ hadd vs o₁ k v hkv
  have hb := hs vsID vs hvs
  obtain ⟨ip₁, hip₁, rfl⟩ := BackendOptions.validate_ok hv₁
  obtain ⟨ip₂, hip₂, rfl⟩ := BackendOptions.validate_ok hv
  obtain rfl : ip₂ = ip₁ :=
    Option.some.inj (hip₂.symm.trans ((hdns n hn.le (by show n < t.clock; omega)).trans hip₁))
  have hold : ∀ k v, s.ctx.services.lookup k = some v → ServiceBacked t.ipvs v := by
    intro k v hkv
    rcases hdest with ⟨ht, -⟩ | ht <;> rw [ht]
    · exact hs k v hkv
    · exact hadd vs _ k v hkv
  have hnew : HasDest t.ipvs (ipString vs.options.host) vs.options.Port vs.options.protocol
      ip₂.text opts.Port := by
    rcases hdest with ⟨ht, hany⟩ | ht <;> rw [ht]
    · rw [hb.svc] at hpool
      exact ⟨pool, hpool, Pool.dest?_isSome_of_any hany⟩
    · exact hasDest_addDestPort hb.pool _ _
  have hbt := hold vsID vs hvs
  exact forall_lookup_insert hold
    ⟨hbt.svc, hbt.pool, forall_lookup_insert hbt.backends ⟨hnew, haf⟩⟩

theorem backed_of_pulseCheck (hs : Backed s) (u : Update) : Backed ((pulseCheck u).exec s).2 := by
  rcases hr : (pulseCheck u).exec s with ⟨r, s'⟩
  obtain rfl | ⟨vs, rs, hvs, hrs, -, rfl⟩ := pulseCheck_cases hr
  · exact hs.of_same rfl rfl
  · have hb := hs _ _ hvs
    exact forall_lookup_insert hs
      ⟨hb.svc, hb.pool, forall_lookup_insert hb.backends (hb.backends _ rs hrs)⟩

theorem backed_of_pulseStep (hs : Backed s) (p : Phase) : Backed ((pulseStep env p).exec s).2 := by
  rcases hr : (pulseStep env p).exec s with ⟨r, s'⟩
  cases p with
  | idle =>
    cases hr
    exact hs
  | up u =>
    rcases pulseUp_cases hr with ⟨-, rfl⟩ | ⟨_, _, t, -, hu, rfl | ⟨-, -, rfl⟩⟩
    · exact hs.of_same rfl rfl
    · exact backed_of_updateBackend hu (hs.of_same rfl rfl)
    · exact (backed_of_updateBackend hu (hs.of_same rfl rfl)).of_same rfl rfl
  | down u =>
    simp only [pulseStep, pulseDownWeight_exec, Prod.mk.injEq] at hr
    rw [← hr.2]
    exact hs.of_same rfl rfl
  | downWeighed u w =>
    obtain ⟨_, t, hu, rfl | ⟨_, -, -, rfl⟩⟩ := pulseDownApply_cases hr
    · exact backed_of_updateBackend hu (hs.of_same rfl rfl)
    · exact (backed_of_updateBackend hu (hs.of_same rfl rfl)).of_same rfl rfl

end Mutators

/-! ### Runs as sequences of the Context's calls -/

/-- A call of a mutator of the Context, or a step of the notification loop: every step of a run is
a sequence of them (`Action.step_calls`). -/
inductive Call
  | registerService (vsID : String) (cfg : ServiceConfig)
  | createBackend (vsID rsID : String) (opts : BackendOptions)
  | removeService (vsID : String)
  | removeBackend (vsID rsID : String)
  | deliver (u : Update)
  | pulse

namespace Call

def step (env : Env) (s : Machine) : Call → Machine
  | registerService vsID cfg => ((Gorb.registerService env vsID cfg).exec s).2
  | createBackend vsID rsID opts => ((Gorb.createBackend env vsID rsID opts).exec s).2
  | removeService vsID => ((Gorb.removeService env vsID).exec s).2
  | removeBackend vsID rsID => ((Gorb.removeBackend env vsID rsID).exec s).2
  | deliver u => ((pulseCheck u).exec s).2
  | pulse => ((pulseStep env s.phase).exec s).2

/-- `createBackend` looks its backend's host up twice; here every answer for the host while the
call runs is the first. -/
def ResolvesAlike (env : Env) (s : Machine) : Call → Prop
  | createBackend vsID rsID opts => ∀ n, s.clock ≤ n →
      n < ((Gorb.createBackend env vsID rsID opts).exec s).2.clock →
      env.dns n opts.Host = env.dns s.clock opts.Host
  | _ => True

end Call

def CallStep (env : Env) (s s' : Machine) : Prop :=
  ∃ c : Call, s' = c.step env s

/-- A call during which the host of a backend being created keeps its answer, after which no two
objects of the Context share a kernel entry. -/
def UnsharedStep (env : Env) (s s' : Machine) : Prop :=
  ∃ c : Call, c.ResolvesAlike env s ∧ s' = c.step env s ∧ Unshared s'

/-- `createService`, `Synchronize` and `Close` only sequence the calls. -/
theorem Action.step_calls (env : Env) (s : Machine) (a : Action) :
    Relation.ReflTransGen (CallStep env) s (a.step env s) := by
  let I := Relation.ReflTransGen (CallStep env) s
  have hcall : ∀ c : Call, ∀ t, I t → I (c.step env t) := fun c _ ht => ht.tail ⟨c, rfl⟩
  have hcb : ∀ vsID rsID opts, True →
      Keeps I (Gorb.createBackend env vsID rsID opts) fun _ => True :=
    fun vsID rsID opts _ t ht => ⟨hcall (.createBackend vsID rsID opts) t ht, fun _ _ => trivial⟩
  have hrb : ∀ vsID rsID, Keeps I (Gorb.removeBackend env vsID rsID) fun _ => True :=
    fun vsID rsID t ht => ⟨hcall (.removeBackend vsID rsID) t ht, fun _ _ => trivial⟩
  have hrs : ∀ vsID, Keeps I (Gorb.removeService env vsID) fun _ => True :=
    fun vsID t ht => ⟨hcall (.removeService vsID) t ht, fun _ _ => trivial⟩
  have hreg : ∀ vsID cfg, True → Keeps I (registerService env vsID cfg) fun _ => True :=
    fun vsID cfg _ t ht => ⟨hcall (.registerService vsID cfg) t ht, fun _ _ => trivial⟩
  have hPS : ∀ (_ : String) (cfg : ServiceConfig), True →
      ∀ e ∈ cfg.ServiceBackends.entries, (fun _ _ _ => True) e.1 e.1 e.2 :=
    fun _ _ _ _ _ => trivial
  cases a with
  | createService vsID cfg =>
    exact (keeps_createService (hcb vsID) (hreg vsID) (hPS vsID) trivial s .refl).1
  | createBackend vsID rsID opts => exact .single ⟨.createBackend vsID rsID opts, rfl⟩
  | removeService vsID => exact ((hrs vsID).discard s .refl).1
  | removeBackend vsID rsID => exact ((hrb vsID rsID).discard s .refl).1
  | synchronize order d =>
    exact (keeps_synchronize hPS hcb hrb hrs hreg (fun _ _ => trivial) s .refl).1
  | close order => exact (keeps_close hrs s .refl).1
  | deliver u => exact .single ⟨.deliver u, rfl⟩
  | pulse => exact .single ⟨.pulse, rfl⟩

section Run

/-- Every service of the Context has a pool in the kernel's table under its (resolved host, port,
protocol), with a destination at the recorded (resolved host, port) of each of its backends, and
each backend's address has the family of its service's. -/
def KernelBacksContext (s : Machine) : Prop :=
  ∀ vsID vs, s.ctx.services.lookup vsID = some vs →
    ∃ pool, poolOf s.ipvs (ipString vs.options.host) vs.options.Port vs.options.protocol =
        some pool ∧
      ∀ rsID rs, vs.backends.lookup rsID = some rs →
        (pool.dest? (ipString rs.options.host) rs.options.Port).isSome ∧
          addrFamily rs.options.host = addrFamily vs.options.host

variable {env : Env} {s : Machine}

theorem Backed.kernelBacks (h : Backed s) : KernelBacksContext s := by
  intro vsID vs hvs
  have hb := h vsID vs hvs
  obtain ⟨pool, hp⟩ := Option.isSome_iff_exists.1 hb.pool
  refine ⟨pool, hp, fun rsID rs hrs => ?_⟩
  obtain ⟨⟨pool', hp', hd⟩, haf⟩ := hb.backends rsID rs hrs
  rw [hp, Option.some.injEq] at hp'
  exact ⟨hp' ▸ hd, haf⟩

/-- Each call keeps the table backing the Context, from a state where no two objects share an
entry. -/
theorem Backed.call (hs : Backed s) (hu : Unshared s) (c : Call) (hc : c.ResolvesAlike env s) :
    Backed (c.step env s) := by
  cases c with
  | registerService vsID cfg => exact backed_of_registerService Prod.mk.eta.symm hs
  | createBackend vsID rsID opts => exact backed_of_createBackend Prod.mk.eta.symm hs hc
  | removeService vsID => exact backed_of_removeService Prod.mk.eta.symm hs hu
  | removeBackend vsID rsID => exact backed_of_removeBackend Prod.mk.eta.symm hs hu
  | deliver u => exact backed_of_pulseCheck hs u
  | pulse => exact backed_of_pulseStep hs s.phase

/-- Every run is a sequence of the Context's calls from a Context just started. Along every such
sequence in which no two services share a virtual service and no two backends of a service a
destination at any time, and no `createBackend` sees its host's answer change, the kernel's table
backs the Context. -/
theorem services_backed_by_kernel (env : Env) :
    (∀ s, Reachable env s → ∃ endpoint vipInterface addrs,
      Relation.ReflTransGen (CallStep env) (Machine.init endpoint vipInterface addrs) s) ∧
    ∀ endpoint vipInterface addrs s,
      Relation.ReflTransGen (UnsharedStep env) (Machine.init endpoint vipInterface addrs) s →
      KernelBacksContext s := by
  refine ⟨fun s h => ReachableWith.induct_on
    (I := fun s => ∃ endpoint vipInterface addrs,
      Relation.ReflTransGen (CallStep env) (Machine.init endpoint vipInterface addrs) s)
    (fun e v a => ⟨e, v, a, .refl⟩)
    (fun s a ⟨e, v, ad, hr⟩ _ _ => ⟨e, v, ad, hr.trans (Action.step_calls env s a)⟩) h,
    fun endpoint vipInterface addrs s h => ?_⟩
  have hinv : Backed s ∧ Unshared s := by
    induction h with
    | refl => exact ⟨fun _ _ h => (nomatch h), fun _ _ _ _ h => (nomatch h), fun _ _ h => nomatch h⟩
    | tail _ hstep ih =>
      obtain ⟨c, hc, rfl, hu⟩ := hstep
      exact ⟨ih.1.call ih.2 c hc, hu⟩
  exact hinv.1.kernelBacks

theorem key_eq_of_length_le_one {β : Type} {m : StrMap β} (hm : m.entries.length ≤ 1)
    {k k' : String} {v v' : β} (h : m.lookup k = some v) (h' : m.lookup k' = some v') :
    k = k' := by
  have hk := AList.mem_lookup_iff.1 h
  have hk' := AList.mem_lookup_iff.1 h'
  match hl : m.entries, hm with
  | [], _ =>
    rw [hl] at hk
    cases hk
  | [_], _ =>
    rw [hl, List.mem_singleton] at hk hk'
    exact congrArg Sigma.fst (hk.trans hk'.symm)
  | _ :: _ :: _, hm => simp at hm

/-- A Context of at most one service, each with at most one backend, shares no entry. -/
theorem Unshared.of_length_le_one (h : s.ctx.services.entries.length ≤ 1 ∧
    ∀ e ∈ s.ctx.services.entries, e.2.backends.entries.length ≤ 1) : Unshared s :=
  ⟨fun _ _ _ _ hvs hvs' _ => key_eq_of_length_le_one h.1 hvs hvs',
    fun vsID vs hvs _ _ _ _ hrs hrs' _ =>
      key_eq_of_length_le_one (h.2 ⟨vsID, vs⟩ (AList.mem_lookup_iff.1 hvs)) hrs hrs'⟩

/-- `web` with its backend `a`; then `web` removed, and `www` created on the VIP and port `web`
freed, with a backend `b`. -/
def reusedVip : Machine :=
  (Call.createBackend "www" "b" { Host := "10.0.0.3", Port := 8080 }).step webEnv
    ((Call.registerService "www" webService).step webEnv
      ((Call.removeService "web").step webEnv
        ((Call.createBackend "web" "a" webBackend).step webEnv
          ((Call.registerService "web" webService).step webEnv (Machine.init none none [])))))

theorem reused_vip_backed : KernelBacksContext reusedVip :=
  (services_backed_by_kernel webEnv).2 none none [] reusedVip
    (.tail (.tail (.tail (.tail (.tail .refl
      ⟨.registerService "web" webService, trivial, rfl, .of_length_le_one (by decide)⟩)
      ⟨.createBackend "web" "a" webBackend, fun _ _ _ => rfl, rfl, .of_length_le_one (by decide)⟩)
      ⟨.removeService "web", trivial, rfl, .of_length_le_one (by decide)⟩)
      ⟨.registerService "www" webService, trivial, rfl, .of_length_le_one (by decide)⟩)
      ⟨.createBackend "www" "b" { Host := "10.0.0.3", Port := 8080 }, fun _ _ _ => rfl, rfl,
        .of_length_le_one (by decide)⟩)

end Run

/-! ### Where the table fails to back the Context -/

section Counterexamples

/-- A second service `www` on the VIP, port and protocol of `web`, then `web` removed: the
`DelService` of `web` deletes the pool `www` relies on. -/
def sharedVip : Machine :=
  (Action.removeService "web").step webEnv ((Action.createService "www" webService).step webEnv
    ((Action.createService "web" webService).step webEnv (Machine.init none none [])))

/-- `webEnv` with the host `backend` resolving to 10.0.0.2 at even positions of the run and to
10.0.0.3 at odd ones. -/
def flappingDns : Env :=
  { webEnv with
    dns := fun n host => if host = "backend" then
      some ⟨if n % 2 = 0 then "10.0.0.2" else "10.0.0.3", .inet⟩ else some ⟨host, .inet⟩ }

/-- `web` with a backend `a` on the host `backend`, resolved once for `AddDestPort` and once more
for the Backend. -/
def flappingBackend : Machine :=
  (Action.createBackend "web" "a" { Host := "backend", Port := 8080 }).step flappingDns
    ((Action.createService "web" webService).step flappingDns (Machine.init none none []))

theorem kernel_backing_fails :
    Reachable webEnv sharedVip ∧ ¬KernelBacksContext sharedVip ∧
      Reachable flappingDns flappingBackend ∧ ¬KernelBacksContext flappingBackend := by
  refine ⟨.step _ (.step _ (.step _ (.init _ _ _) ⟨rfl, fun _ _ h => nomatch h⟩ trivial)
    ⟨rfl, fun _ _ h => nomatch h⟩ trivial) trivial trivial, fun h => ?_,
    .step _ (.step _ (.init _ _ _) ⟨rfl, fun _ _ h => nomatch h⟩ trivial) ⟨rfl, rfl⟩ trivial,
    fun h => ?_⟩
  · obtain ⟨pool, hp, -⟩ := h "www" _ rfl
    have hipvs : sharedVip.ipvs = [] := by decide
    rw [hipvs] at hp
    cases hp
  · obtain ⟨pool, hp, hall⟩ := h "web" _ rfl
    have hpool : poolOf flappingBackend.ipvs "10.0.0.1" 80 6 =
        some ⟨⟨6, "10.0.0.1", 80, "wrr", 0⟩, [⟨"10.0.0.3", 8080, 100⟩]⟩ := by decide
    have hd := (hall "a" _ rfl).1
    cases hp.symm.trans hpool
    revert hd
    decide

end Counterexamples

end Gorb
