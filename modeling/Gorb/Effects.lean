import Gorb.Keeps
import Gorb.Notification

/-!
# What each mutator does

One lemma per mutator says everything a run of it can do, guards included: the outcomes it can
end in, with the machine each leaves. The invariants of the daemon are derived from these lemmas
alone, so no later proof unfolds a mutator.

Two relations abbreviate the parts of a machine the drivers change. `t.KernelOnly s`: `t` is `s`
after calls to the IPVS driver and the resolver only, so the Context, the probes, the VIP
interface and the notification loop are as they were. `t.LogsFrom P s`: the IPVS calls logged in
`t` are those of `s` and calls satisfying `P`.
-/

namespace Gorb

/-- `t` is `s` after calls to the IPVS driver and the resolver only. -/
structure Machine.KernelOnly (t s : Machine) : Prop where
  ctx : t.ctx = s.ctx
  monitors : t.monitors = s.monitors
  next : t.next = s.next
  addrs : t.addrs = s.addrs
  stash : t.stash = s.stash
  phase : t.phase = s.phase

/-- The IPVS calls logged in `t` are those of `s` and calls satisfying `P`. -/
def Machine.LogsFrom (t : Machine) (P : Issued → Prop) (s : Machine) : Prop :=
  ∀ i ∈ t.calls, i ∈ s.calls ∨ P i

section Frames

variable {env : Env} {s t : Machine} {P : Issued → Prop}

theorem Machine.KernelOnly.refl (s : Machine) : s.KernelOnly s :=
  ⟨rfl, rfl, rfl, rfl, rfl, rfl⟩

theorem Machine.KernelOnly.issue (s : Machine) (maxWeight : Int) (c : IpvsCall) :
    (s.issue env maxWeight c).KernelOnly s :=
  ⟨rfl, rfl, rfl, rfl, rfl, rfl⟩

theorem Machine.LogsFrom.refl (P : Issued → Prop) (s : Machine) : s.LogsFrom P s :=
  fun _ hi => .inl hi

theorem Machine.LogsFrom.issue (ht : t.LogsFrom P s) (maxWeight : Int) (c : IpvsCall)
    (hc : P ⟨c, maxWeight⟩) : (t.issue env maxWeight c).LogsFrom P s := by
  intro i hi
  rw [issue_calls, List.mem_cons] at hi
  rcases hi with rfl | hi
  · exact .inr hc
  · exact ht i hi

end Frames

/-! ### The IPVS calls of the mutators -/

/-- The `AddDestPort` of `createBackend` for the service `vs` and the validated options `o`. -/
def createBackendCall (vs : Service) (o : BackendOptions) : IpvsCall :=
  .addDestPort (ipString vs.options.host) vs.options.Port (ipString o.host) o.Port
    vs.options.protocol vs.options.MaxWeight vs.options.methodID

/-- The `UpdateDestPort` of `updateBackend`. -/
def updateBackendCall (vs : Service) (rs : Backend) (weight : Int) : IpvsCall :=
  .updateDestPort (ipString vs.options.host) vs.options.Port (ipString rs.options.host)
    rs.options.Port vs.options.protocol weight vs.options.methodID

/-- The `DelDestPort` of `removeBackend`. -/
def removeBackendCall (vs : Service) (rs : Backend) : IpvsCall :=
  .delDestPort (ipString vs.options.host) vs.options.Port (ipString rs.options.host)
    rs.options.Port vs.options.protocol

/-- The `DelService` of `removeService`. -/
def removeServiceCall (vs : Service) : IpvsCall :=
  .delService (ipString vs.options.host) vs.options.Port vs.options.protocol

/-- What each IPVS call `createBackend` issues for the service `vs` satisfies: it is logged with
the service's `MaxWeight`, and a weight it programs is that `MaxWeight`. -/
def CreateBackendIssue (vs : Service) (i : Issued) : Prop :=
  i.maxWeight = vs.options.MaxWeight ∧ ∀ w, i.call.weight? = some w → w = vs.options.MaxWeight

section Backends

variable {env : Env} {s s' : Machine} {vsID rsID : String}

theorem registerBackend_exec (vs : Service) (o : BackendOptions) :
    (registerBackend env vsID rsID vs o).exec s =
      match o.validate (env.dns s.clock) with
      | .error e => (.error e, { s with clock := s.clock + 1 })
      | .ok o' =>
        if env.pulseNew (ipString o'.host) o'.Port vs.options.Pulse then
          (.ok (), { s with
            ctx := (s.setService vsID
              { vs with backends := vs.backends.insert rsID ⟨o', s.next, .zero⟩ }).ctx,
            monitors := s.next :: s.monitors, clock := s.clock + 1, next := s.next + 1 })
        else (.error .pulse, { s with clock := s.clock + 1 }) := by
  simp only [registerBackend, Service.createBackend, exec_bind, resolver_exec]
  rcases o.validate (env.dns s.clock) with e | o'
  · rfl
  · by_cases hp : env.pulseNew (ipString o'.host) o'.Port vs.options.Pulse
    · simp [hp, Machine.setService]
    · simp [hp]

theorem createBackend_cases {opts : BackendOptions} {r : Except Err Unit}
    (h : (createBackend env vsID rsID opts).exec s = (r, s')) :
    s'.LogsFrom (fun i => ∃ vs, s.ctx.services.lookup vsID = some vs ∧ CreateBackendIssue vs i) s ∧
    ((∃ e, r = .error e) ∧ s'.KernelOnly s ∧ s'.ipvs = s.ipvs ∨
     (∃ e, r = .error e ∧ (e = .pulse ∨ e = .resolve opts.Host)) ∧ s'.KernelOnly s ∧
      (∃ vs o₁, s.ctx.services.lookup vsID = some vs ∧ opts.validate (env.dns s.clock) = .ok o₁ ∧
        s'.ipvs = (createBackendCall vs o₁).apply s.ipvs) ∨
     r = .ok () ∧ ∃ (vs : Service) (o₁ o : BackendOptions) (pool : Pool) (t : Machine),
      s.ctx.services.lookup vsID = some vs ∧
      vs.backends.lookup rsID = none ∧ opts.validate (env.dns s.clock) = .ok o₁ ∧
      addrFamily o₁.host = addrFamily vs.options.host ∧
      s.ipvs.find? (·.Service.isEqual vs.svc) = some pool ∧
      (∃ n, s.clock < n ∧ t.clock = n + 1 ∧ o₁.validate (env.dns n) = .ok o) ∧ t.KernelOnly s ∧
      (t.ipvs = s.ipvs ∧ (pool.Dests.any fun d => d.IP == ipString o₁.host && d.Port == o₁.Port) ∨
        t.ipvs = (createBackendCall vs o₁).apply s.ipvs) ∧
      s' = { t with
        ctx := (s.setService vsID
          { vs with backends := vs.backends.insert rsID ⟨o, s.next, .zero⟩ }).ctx,
        monitors := s.next :: s.monitors, next := s.next + 1 }) := by
  simp only [createBackend, exec_bind, exec_get] at h
  rcases Option.eq_none_or_eq_some (s.ctx.services.lookup vsID) with hvs | ⟨vs, hvs⟩
  · simp only [hvs, exec_throw, Prod.mk.injEq] at h
    obtain ⟨rfl, rfl⟩ := h
    exact ⟨.refl _ _, .inl ⟨⟨_, rfl⟩, .refl _, rfl⟩⟩
  rcases Option.eq_none_or_eq_some (vs.backends.lookup rsID) with hrs | ⟨rs, hrs⟩
  swap
  · simp only [hvs, hrs, Option.isSome_some, if_true, exec_bind, exec_throw, Prod.mk.injEq] at h
    obtain ⟨rfl, rfl⟩ := h
    exact ⟨.refl _ _, .inl ⟨⟨_, rfl⟩, .refl _, rfl⟩⟩
  simp only [hvs, hrs, Option.isSome_none, Bool.false_eq_true, if_false, exec_bind, exec_pure,
    resolver_exec] at h
  rcases hv : opts.validate (env.dns s.clock) with e | o₁
  · simp only [hv, exec_bind, exec_throw, Prod.mk.injEq] at h
    obtain ⟨rfl, rfl⟩ := h
    exact ⟨.refl _ _, .inl ⟨⟨_, rfl⟩, ⟨rfl, rfl, rfl, rfl, rfl, rfl⟩, rfl⟩⟩
  simp only [hv, exec_pure, exec_bind] at h
  by_cases haf : addrFamily o₁.host = addrFamily vs.options.host
  swap
  · simp only [haf, ne_eq, not_false_eq_true, if_true, exec_bind, exec_throw, Prod.mk.injEq] at h
    obtain ⟨rfl, rfl⟩ := h
    exact ⟨.refl _ _, .inl ⟨⟨_, rfl⟩, ⟨rfl, rfl, rfl, rfl, rfl, rfl⟩, rfl⟩⟩
  simp only [haf, ne_eq, not_true_eq_false, if_false, exec_bind, exec_pure, getPoolForService,
    exec_map, getPools_exec] at h
  set s₂ := { s with clock := s.clock + 1 }.issue env vs.options.MaxWeight .getPools with hs₂
  have hlog₂ : s₂.LogsFrom (fun i => ∃ vs, s.ctx.services.lookup vsID = some vs ∧
      CreateBackendIssue vs i) s :=
    (Machine.LogsFrom.refl _ s).issue (t := { s with clock := s.clock + 1 }) _ _
      ⟨vs, hvs, rfl, fun _ hw => by cases hw⟩
  have hk₂ : s₂.KernelOnly s := ⟨rfl, rfl, rfl, rfl, rfl, rfl⟩
  have hipvs₂ : s₂.ipvs = s.ipvs := by simp [hs₂, Machine.issue, IpvsCall.apply]
  by_cases hok : env.ipvs (s.clock + 1)
  swap
  · simp only [hok, Bool.false_eq_true, if_false, Option.none_bind, exec_throw,
      Prod.mk.injEq] at h
    obtain ⟨rfl, rfl⟩ := h
    exact ⟨hlog₂, .inl ⟨⟨_, rfl⟩, hk₂, hipvs₂⟩⟩
  rcases Option.eq_none_or_eq_some (s.ipvs.find? (·.Service.isEqual vs.svc)) with
    hpool | ⟨pool, hpool⟩
  · simp only [hok, if_true, Option.some_bind, hpool, exec_throw, Prod.mk.injEq] at h
    obtain ⟨rfl, rfl⟩ := h
    exact ⟨hlog₂, .inl ⟨⟨_, rfl⟩, hk₂, hipvs₂⟩⟩
  simp only [hok, if_true, Option.some_bind, hpool] at h
  by_cases hskip : (pool.Dests.any fun d => d.IP == ipString o₁.host && d.Port == o₁.Port) = true
  · simp only [hskip, if_true, exec_bind, exec_pure, registerBackend_exec] at h
    rcases hv₂ : o₁.validate (env.dns s₂.clock) with e | o
    · simp only [hv₂, Prod.mk.injEq] at h
      obtain ⟨rfl, rfl⟩ := h
      exact ⟨hlog₂, .inl ⟨⟨e, rfl⟩, ⟨rfl, rfl, rfl, rfl, rfl, rfl⟩, hipvs₂⟩⟩
    by_cases hp : env.pulseNew (ipString o.host) o.Port vs.options.Pulse
    · simp only [hv₂, hp, if_true, Prod.mk.injEq] at h
      obtain ⟨rfl, rfl⟩ := h
      exact ⟨hlog₂, .inr (.inr ⟨rfl, vs, o₁, o, pool, { s₂ with clock := s₂.clock + 1 }, hvs, hrs,
        rfl, haf, hpool, ⟨_, by simp [hs₂, Machine.issue]; omega, rfl, hv₂⟩, ⟨rfl, rfl, rfl, rfl, rfl, rfl⟩,
        .inl ⟨hipvs₂, hskip⟩, rfl⟩)⟩
    · simp only [hv₂, hp, Bool.false_eq_true, if_false, Prod.mk.injEq] at h
      obtain ⟨rfl, rfl⟩ := h
      exact ⟨hlog₂, .inl ⟨⟨_, rfl⟩, ⟨rfl, rfl, rfl, rfl, rfl, rfl⟩, hipvs₂⟩⟩
  · simp only [hskip, Bool.false_eq_true, if_false, exec_bind, ipvsCall_exec] at h
    set c := IpvsCall.addDestPort (ipString vs.options.host) vs.options.Port (ipString o₁.host)
      o₁.Port vs.options.protocol vs.options.MaxWeight vs.options.methodID with hc
    set s₃ := s₂.issue env vs.options.MaxWeight c with hs₃
    have hlog₃ : s₃.LogsFrom (fun i => ∃ vs, s.ctx.services.lookup vsID = some vs ∧
        CreateBackendIssue vs i) s :=
      hlog₂.issue _ _ ⟨vs, hvs, rfl, fun w hw => by cases hw; rfl⟩
    have hk₃ : s₃.KernelOnly s := ⟨rfl, rfl, rfl, rfl, rfl, rfl⟩
    by_cases hacc : env.ipvs s₂.clock
    swap
    · simp only [hacc, Bool.false_eq_true, if_false, Prod.mk.injEq] at h
      obtain ⟨rfl, rfl⟩ := h
      exact ⟨hlog₃, .inl ⟨⟨_, rfl⟩, hk₃, by simp [hs₃, Machine.issue, hacc, hipvs₂]⟩⟩
    have hipvs₃ : s₃.ipvs = (createBackendCall vs o₁).apply s.ipvs := by
      simp [hs₃, Machine.issue, hacc, hipvs₂, createBackendCall, hc]
    simp only [hacc, if_true, registerBackend_exec] at h
    rcases hv₂ : o₁.validate (env.dns s₃.clock) with e | o
    · simp only [hv₂, Prod.mk.injEq] at h
      obtain ⟨rfl, rfl⟩ := h
      exact ⟨hlog₃, .inr (.inl ⟨⟨e, rfl, .inr (BackendOptions.validate_error_of_ok hv hv₂)⟩,
        ⟨rfl, rfl, rfl, rfl, rfl, rfl⟩, vs, o₁, hvs, rfl, hipvs₃⟩)⟩
    by_cases hp : env.pulseNew (ipString o.host) o.Port vs.options.Pulse
    · simp only [hv₂, hp, if_true, Prod.mk.injEq] at h
      obtain ⟨rfl, rfl⟩ := h
      exact ⟨hlog₃, .inr (.inr ⟨rfl, vs, o₁, o, pool, { s₃ with clock := s₃.clock + 1 }, hvs, hrs,
        rfl, haf, hpool, ⟨_, by simp [hs₃, hs₂, Machine.issue]; omega, rfl, hv₂⟩,
        ⟨rfl, rfl, rfl, rfl, rfl, rfl⟩, .inr hipvs₃, rfl⟩)⟩
    · simp only [hv₂, hp, Bool.false_eq_true, if_false, Prod.mk.injEq] at h
      obtain ⟨rfl, rfl⟩ := h
      exact ⟨hlog₃, .inr (.inl ⟨⟨_, rfl, .inl rfl⟩, ⟨rfl, rfl, rfl, rfl, rfl, rfl⟩, vs, o₁, hvs,
        rfl, hipvs₃⟩)⟩

theorem updateBackend_cases {weight : Int} {r : Except Err Int}
    (h : (updateBackend env vsID rsID weight).exec s = (r, s')) :
    (∃ e, r = .error e) ∧ s' = s ∨
    ∃ vs rs, s.ctx.services.lookup vsID = some vs ∧ vs.backends.lookup rsID = some rs ∧
      (env.ipvs s.clock = false ∧ r = .error .ipvsSyscallFailed ∧
        s' = s.issue env vs.options.MaxWeight (updateBackendCall vs rs weight) ∨
       env.ipvs s.clock = true ∧ r = .ok rs.options.weight ∧
        s' = (s.issue env vs.options.MaxWeight (updateBackendCall vs rs weight)).setService vsID
          { vs with
            backends := vs.backends.insert rsID
              { rs with options := { rs.options with weight := weight } } }) := by
  simp only [updateBackend, exec_bind, exec_get] at h
  rcases Option.eq_none_or_eq_some (s.ctx.services.lookup vsID) with hvs | ⟨vs, hvs⟩
  · simp only [hvs, exec_throw, Prod.mk.injEq] at h
    exact .inl ⟨⟨_, h.1.symm⟩, h.2.symm⟩
  rcases Option.eq_none_or_eq_some (vs.backends.lookup rsID) with hrs | ⟨rs, hrs⟩
  · simp only [hvs, hrs, exec_throw, Prod.mk.injEq] at h
    exact .inl ⟨⟨_, h.1.symm⟩, h.2.symm⟩
  simp only [hvs, hrs, exec_bind, ipvsCall_exec] at h
  refine .inr ⟨vs, rs, hvs, hrs, ?_⟩
  by_cases hok : env.ipvs s.clock
  · simp only [hok, if_true, exec_bind, exec_modify, exec_pure, Prod.mk.injEq] at h
    exact .inr ⟨hok, h.1.symm, h.2.symm⟩
  · simp only [hok, Bool.false_eq_true, if_false, Prod.mk.injEq] at h
    exact .inl ⟨by simpa using hok, h.1.symm, h.2.symm⟩

theorem removeBackend_cases {r : Except Err BackendOptions}
    (h : (removeBackend env vsID rsID).exec s = (r, s')) :
    (∃ e, r = .error e) ∧ s' = s ∨
    ∃ vs rs, s.ctx.services.lookup vsID = some vs ∧ vs.backends.lookup rsID = some rs ∧
      (env.ipvs s.clock = false ∧ r = .error .ipvsSyscallFailed ∧
        s' = s.issue env vs.options.MaxWeight (removeBackendCall vs rs) ∨
       env.ipvs s.clock = true ∧ r = .ok rs.options ∧
        s' = { (s.issue env vs.options.MaxWeight (removeBackendCall vs rs)).setService vsID
          { vs with backends := vs.backends.erase rsID } with
          monitors := s.monitors.erase rs.monitor }) := by
  simp only [removeBackend, exec_bind, exec_get] at h
  rcases Option.eq_none_or_eq_some (s.ctx.services.lookup vsID) with hvs | ⟨vs, hvs⟩
  · simp only [hvs, exec_throw, Prod.mk.injEq] at h
    exact .inl ⟨⟨_, h.1.symm⟩, h.2.symm⟩
  rcases Option.eq_none_or_eq_some (vs.backends.lookup rsID) with hrs | ⟨rs, hrs⟩
  · simp only [hvs, hrs, exec_throw, Prod.mk.injEq] at h
    exact .inl ⟨⟨_, h.1.symm⟩, h.2.symm⟩
  simp only [hvs, hrs, exec_bind, ipvsCall_exec] at h
  refine .inr ⟨vs, rs, hvs, hrs, ?_⟩
  by_cases hok : env.ipvs s.clock
  · simp only [hok, if_true, Service.removeBackend, hrs, exec_bind, exec_modify, exec_pure,
      Prod.mk.injEq] at h
    exact .inr ⟨hok, h.1.symm, h.2.symm⟩
  · simp only [hok, Bool.false_eq_true, if_false, Prod.mk.injEq] at h
    exact .inl ⟨by simpa using hok, h.1.symm, h.2.symm⟩

/-- The machine after `delVip`. -/
def Machine.afterDelVip (env : Env) (s : Machine) (vs : Service) : Machine :=
  if s.ctx.vipInterface.isSome && vs.options.delIfAddr then
    { s with
      clock := s.clock + 1
      addrs := if env.netlink s.clock then s.addrs.erase (ipString vs.options.host) else s.addrs }
  else s

section AfterDelVip

@[simp] theorem afterDelVip_ctx : (s.afterDelVip env vs).ctx = s.ctx := by
  unfold Machine.afterDelVip; split <;> rfl
@[simp] theorem afterDelVip_monitors : (s.afterDelVip env vs).monitors = s.monitors := by
  unfold Machine.afterDelVip; split <;> rfl
@[simp] theorem afterDelVip_next : (s.afterDelVip env vs).next = s.next := by
  unfold Machine.afterDelVip; split <;> rfl
@[simp] theorem afterDelVip_stash : (s.afterDelVip env vs).stash = s.stash := by
  unfold Machine.afterDelVip; split <;> rfl
@[simp] theorem afterDelVip_phase : (s.afterDelVip env vs).phase = s.phase := by
  unfold Machine.afterDelVip; split <;> rfl
@[simp] theorem afterDelVip_calls : (s.afterDelVip env vs).calls = s.calls := by
  unfold Machine.afterDelVip; split <;> rfl
@[simp] theorem afterDelVip_ipvs : (s.afterDelVip env vs).ipvs = s.ipvs := by
  unfold Machine.afterDelVip; split <;> rfl

end AfterDelVip

theorem delVip_exec (vs : Service) : (delVip env vs).exec s = (.ok (), s.afterDelVip env vs) := by
  cases hv : s.ctx.vipInterface.isSome <;> cases hd : vs.options.delIfAddr <;>
    simp [delVip, Machine.afterDelVip, hv, hd]

theorem removeService_cases {r : Except Err ServiceOptions}
    (h : (removeService env vsID).exec s = (r, s')) :
    (∃ e, r = .error e) ∧ s' = s ∨
    ∃ vs, s.ctx.services.lookup vsID = some vs ∧
      (env.ipvs (s.afterDelVip env vs).clock = false ∧ r = .error .ipvsSyscallFailed ∧
        s' = (s.afterDelVip env vs).issue env vs.options.MaxWeight (removeServiceCall vs) ∨
       env.ipvs (s.afterDelVip env vs).clock = true ∧ r = .ok vs.options ∧
        s' = { ((s.afterDelVip env vs).issue env vs.options.MaxWeight
          (removeServiceCall vs)).eraseService vsID with
          monitors := vs.backends.entries.foldl (fun ms e => ms.erase e.2.monitor)
            s.monitors }) := by
  simp only [removeService, exec_bind, exec_get] at h
  rcases Option.eq_none_or_eq_some (s.ctx.services.lookup vsID) with hvs | ⟨vs, hvs⟩
  · simp only [hvs, exec_throw, Prod.mk.injEq] at h
    exact .inl ⟨⟨_, h.1.symm⟩, h.2.symm⟩
  simp only [hvs, exec_bind, delVip_exec, ipvsCall_exec] at h
  refine .inr ⟨vs, hvs, ?_⟩
  by_cases hok : env.ipvs (s.afterDelVip env vs).clock
  · simp only [hok, if_true, Service.cleanup, exec_bind, exec_modify, exec_pure,
      Prod.mk.injEq] at h
    exact .inr ⟨hok, h.1.symm, h.2.symm.trans (by simp [removeServiceCall])⟩
  · simp only [hok, Bool.false_eq_true, if_false, Prod.mk.injEq] at h
    exact .inl ⟨by simpa using hok, h.1.symm, h.2.symm⟩

end Backends

section Services

variable {env : Env} {s s' : Machine} {vsID : String}

theorem addVip_exec (o : ServiceOptions) : (addVip env o).exec s =
    if s.ctx.vipInterface.isSome then
      (.ok (if env.netlink s.clock then { o with delIfAddr := true } else o),
        { s with
          clock := s.clock + 1
          addrs := if env.netlink s.clock then
            (if ipString o.host ∈ s.addrs then s.addrs else s.addrs ++ [ipString o.host])
            else s.addrs })
    else (.ok o, s) := by
  by_cases hvip : s.ctx.vipInterface.isSome <;> by_cases hok : env.netlink s.clock <;>
    simp [addVip, hvip, hok]

theorem addPoolFor_cases {maxWeight : Int} {svc : Svc} {r : Except Err Unit}
    (h : (addPoolFor env maxWeight svc).exec s = (r, s')) :
    s'.KernelOnly s ∧ s'.LogsFrom (fun i => i.maxWeight = maxWeight ∧ i.call.weight? = none) s ∧
    (r = .error .ipvsSyscallFailed ∧ s'.ipvs = s.ipvs ∧
      (∃ i rest, s'.calls = i :: rest ∧ i.call.addsService = true) ∨
     r = .ok () ∧ ((s.ipvs.find? (·.Service.isEqual svc)).isSome ∧ s'.ipvs = s.ipvs ∨
       s'.ipvs = IpvsCall.addPool svc s.ipvs)) := by
  simp only [addPoolFor, getPoolForService, exec_bind, exec_map, getPools_exec] at h
  set s₁ := s.issue env maxWeight .getPools with hs₁
  have hlog₁ : s₁.LogsFrom (fun i => i.maxWeight = maxWeight ∧ i.call.weight? = none) s :=
    (Machine.LogsFrom.refl _ s).issue _ _ ⟨rfl, rfl⟩
  have hipvs₁ : s₁.ipvs = s.ipvs := by simp [hs₁, Machine.issue, IpvsCall.apply]
  by_cases hfound : env.ipvs s.clock ∧ (s.ipvs.find? (·.Service.isEqual svc)).isSome
  · obtain ⟨hok, hfind⟩ := hfound
    rw [Option.isSome_iff_exists] at hfind
    obtain ⟨pool, hpool⟩ := hfind
    simp only [hok, if_true, Option.some_bind, hpool, exec_pure, Option.isNone_some,
      Bool.false_eq_true, if_false, Prod.mk.injEq] at h
    obtain ⟨rfl, rfl⟩ := h
    exact ⟨⟨rfl, rfl, rfl, rfl, rfl, rfl⟩, hlog₁, .inr ⟨rfl, .inl ⟨by simp [hpool], hipvs₁⟩⟩⟩
  have hnone : ((if env.ipvs s.clock = true then some s.ipvs else none).bind fun pools =>
      pools.find? (·.Service.isEqual svc)).isNone = true := by
    by_cases hok : env.ipvs s.clock <;> simp_all
  simp only [exec_pure, hnone, if_true] at h
  obtain ⟨c, hc, hadd, happ, h⟩ : ∃ c : IpvsCall, c.weight? = none ∧ c.addsService = true ∧
      c.apply s.ipvs = IpvsCall.addPool svc s.ipvs ∧
      (ipvsCall env maxWeight c).exec s₁ = (r, s') := by
    split at h
    · exact ⟨.addServiceWithFlags svc.VIP svc.Port svc.Proto svc.Sched svc.Flags, rfl, rfl, rfl, h⟩
    · refine ⟨.addService svc.VIP svc.Port svc.Proto svc.Sched, rfl, rfl, ?_, h⟩
      have hflags : svc.Flags = 0 := by simpa using ‹¬svc.Flags ≠ 0›
      cases svc
      simp_all [IpvsCall.apply]
  rw [ipvsCall_exec, Prod.mk.injEq] at h
  obtain ⟨rfl, rfl⟩ := h
  refine ⟨⟨rfl, rfl, rfl, rfl, rfl, rfl⟩, hlog₁.issue _ _ ⟨rfl, hc⟩, ?_⟩
  by_cases hok : env.ipvs s₁.clock
  · exact .inr ⟨by simp [hok], .inr (by simp [Machine.issue, hok, hipvs₁, happ])⟩
  · exact .inl ⟨by simp [hok], by simp [Machine.issue, hok, hipvs₁], _, _, rfl, hadd⟩

theorem addVip_cases (o : ServiceOptions) : ∃ o' clock addrs,
    (addVip env o).exec s = (.ok o', { s with clock := clock, addrs := addrs }) ∧
    (o' = o ∨ o' = { o with delIfAddr := true }) ∧
    (addrs = s.addrs ∨ addrs = s.addrs ++ [ipString o.host]) := by
  rw [addVip_exec]
  by_cases hvip : s.ctx.vipInterface.isSome <;> by_cases hok : env.netlink s.clock <;>
    simp only [hvip, hok, if_true, if_false, Bool.false_eq_true] <;>
    refine ⟨_, _, _, rfl, by simp, ?_⟩
  · by_cases hin : ipString o.host ∈ s.addrs <;> simp [hin]
  all_goals simp

theorem registerService_cases {cfg : ServiceConfig} {r : Except Err Unit}
    (h : (registerService env vsID cfg).exec s = (r, s')) :
    s'.monitors = s.monitors ∧ s'.stash = s.stash ∧ s'.phase = s.phase ∧
    s'.LogsFrom (fun i => i.call.weight? = none) s ∧
    ((∃ e, r = .error e) ∧ s'.ctx = s.ctx ∧ s'.next = s.next ∧ s'.ipvs = s.ipvs ∧
      (s'.addrs = s.addrs ∨ r = .error .ipvsSyscallFailed ∧
        (∃ i rest, s'.calls = i :: rest ∧ i.call.addsService = true) ∧ ∃ o,
          cfg.ServiceOptions.runValidate s.ctx.endpoint (env.dns s.clock) env.lower = (.ok (), o) ∧
          s.ctx.services.lookup vsID = none ∧ s'.addrs = s.addrs ++ [ipString o.host]) ∨
     r = .ok () ∧ ∃ (o o' : ServiceOptions) (t : Machine),
      cfg.ServiceOptions.runValidate s.ctx.endpoint (env.dns s.clock) env.lower = (.ok (), o) ∧
      s.ctx.services.lookup vsID = none ∧ (o' = o ∨ o' = { o with delIfAddr := true }) ∧
      t.ctx = s.ctx ∧ t.next = s.next ∧ t.monitors = s.monitors ∧ t.stash = s.stash ∧
      t.phase = s.phase ∧
      ((s.ipvs.find? (·.Service.isEqual (serviceSvc o'))).isSome ∧ t.ipvs = s.ipvs ∨
        t.ipvs = IpvsCall.addPool (serviceSvc o') s.ipvs) ∧
      s' = { t with
        ctx := (s.setService vsID
          { vsID := vsID, options := o', svc := serviceSvc o', backends := ∅, ref := s.next }).ctx,
        next := s.next + 1 }) := by
  simp only [registerService, exec_bind, resolver_exec, exec_get] at h
  rcases hval : cfg.ServiceOptions.runValidate s.ctx.endpoint (env.dns s.clock) env.lower with ⟨r₀, o⟩
  simp only [hval] at h
  rcases r₀ with e | ⟨⟩
  · simp only [exec_bind, exec_throw, Prod.mk.injEq] at h
    obtain ⟨rfl, rfl⟩ := h
    exact ⟨rfl, rfl, rfl, .refl _ _, .inl ⟨⟨e, rfl⟩, rfl, rfl, rfl, .inl rfl⟩⟩
  rcases Option.eq_none_or_eq_some (s.ctx.services.lookup vsID) with hvs | ⟨vs, hvs⟩
  swap
  · simp only [hvs, Option.isSome_some, if_true, exec_bind, exec_pure, exec_throw,
      Prod.mk.injEq] at h
    obtain ⟨rfl, rfl⟩ := h
    exact ⟨rfl, rfl, rfl, .refl _ _, .inl ⟨⟨_, rfl⟩, rfl, rfl, rfl, .inl rfl⟩⟩
  simp only [hvs, Option.isSome_none, Bool.false_eq_true, if_false, exec_bind, exec_pure] at h
  obtain ⟨o', clock, addrs, hvip, ho', haddrs⟩ :=
    @addVip_cases env { s with clock := s.clock + 1 } o
  rw [hvip] at h
  simp only at h
  rcases hp : (addPoolFor env o'.MaxWeight (serviceSvc o')).exec
    { s with clock := clock, addrs := addrs } with ⟨r₃, t₃⟩
  obtain ⟨hk₃, hlog₃, hcases⟩ := addPoolFor_cases hp
  rw [hp] at h
  have hlog : t₃.LogsFrom (fun i => i.call.weight? = none) s := fun i hi =>
    (hlog₃ i hi).imp id And.right
  rcases r₃ with e | ⟨⟩
  · simp only [Prod.mk.injEq] at h
    obtain ⟨rfl, rfl⟩ := h
    rcases hcases with ⟨⟨⟩, hipvs, hcall⟩ | ⟨⟨⟩, -⟩
    refine ⟨hk₃.monitors, hk₃.stash, hk₃.phase, hlog, .inl ⟨⟨_, rfl⟩, hk₃.ctx, hk₃.next, hipvs, ?_⟩⟩
    rw [hk₃.addrs]
    exact haddrs.imp id fun h => ⟨rfl, hcall, o, rfl, hvs, h⟩
  simp only [exec_bind, alloc_exec, exec_modify, Prod.mk.injEq] at h
  obtain ⟨rfl, rfl⟩ := h
  refine ⟨hk₃.monitors, hk₃.stash, hk₃.phase, hlog, .inr ⟨rfl, o, o', t₃, rfl, hvs, ho', hk₃.ctx,
    hk₃.next, hk₃.monitors, hk₃.stash, hk₃.phase, ?_, ?_⟩⟩
  · rcases hcases with ⟨⟨⟩, -⟩ | ⟨-, hipvs⟩
    exact hipvs
  · simp only [Machine.setService, hk₃.ctx, hk₃.next]

end Services

section Loop

variable {env : Env} {s s' : Machine} {u : Update}

theorem pulseCheck_cases {r : Except Err Unit} (h : (pulseCheck u).exec s = (r, s')) :
    s' = { s with stash := s.stash.erase u.Source } ∨
    ∃ vs rs, s.ctx.services.lookup u.Source.VsID = some vs ∧
      vs.backends.lookup u.Source.RsID = some rs ∧ u.Metrics.Status ≠ .removed ∧
      s' = { s.setService u.Source.VsID { vs with
          backends := vs.backends.insert u.Source.RsID { rs with metrics := u.Metrics } } with
        phase := if u.Metrics.Status = .up then .up u else .down u } := by
  simp only [pulseCheck, exec_bind, exec_get] at h
  rcases Option.eq_none_or_eq_some (s.ctx.services.lookup u.Source.VsID) with hvs | ⟨vs, hvs⟩
  · simp only [hvs, dropStash, exec_modify, Prod.mk.injEq] at h
    exact .inl h.2.symm
  rcases Option.eq_none_or_eq_some (vs.backends.lookup u.Source.RsID) with hrs | ⟨rs, hrs⟩
  · simp only [hvs, hrs, dropStash, exec_modify, Prod.mk.injEq] at h
    exact .inl h.2.symm
  by_cases hrm : u.Metrics.Status = .removed
  · simp only [hvs, hrs, hrm, if_true, dropStash, exec_modify, Prod.mk.injEq] at h
    exact .inl h.2.symm
  · simp only [hvs, hrs, hrm, if_false, exec_bind, exec_modify, Prod.mk.injEq] at h
    exact .inr ⟨vs, rs, hvs, hrs, hrm, h.2.symm⟩

theorem pulseUp_cases {r : Except Err Unit} (h : (pulseUp env u).exec s = (r, s')) :
    s.stash.lookup u.Source = none ∧ s' = { s with phase := .idle } ∨
    ∃ stashed rw t, s.stash.lookup u.Source = some stashed ∧
      (updateBackend env u.Source.VsID u.Source.RsID (scaleWeight stashed u.Metrics.Health)).exec
        { s with phase := .idle } = (rw, t) ∧
      (s' = t ∨ (∃ prev, rw = .ok prev) ∧ scaleWeight stashed u.Metrics.Health = stashed ∧
        s' = { t with stash := t.stash.erase u.Source }) := by
  simp only [pulseUp, exec_bind, exec_modify, exec_get] at h
  rcases Option.eq_none_or_eq_some (s.stash.lookup u.Source) with hst | ⟨stashed, hst⟩
  · simp only [hst, exec_pure, Prod.mk.injEq] at h
    exact .inl ⟨hst, h.2.symm⟩
  simp only [hst, attempt, exec_bind, exec_tryCatch, exec_map] at h
  rcases hu : (updateBackend env u.Source.VsID u.Source.RsID
    (scaleWeight stashed u.Metrics.Health)).exec { s with phase := .idle } with ⟨rw, t⟩
  refine .inr ⟨stashed, rw, t, hst, hu, ?_⟩
  rw [hu] at h
  rcases rw with e | prev
  · simp only [exec_pure, Prod.mk.injEq] at h
    exact .inl h.2.symm
  · by_cases heq : scaleWeight stashed u.Metrics.Health = stashed
    · simp only [heq, if_true, dropStash, exec_modify, Prod.mk.injEq] at h
      exact .inr ⟨⟨prev, rfl⟩, heq, h.2.symm⟩
    · simp only [heq, if_false, exec_pure, Prod.mk.injEq] at h
      exact .inl h.2.symm

theorem pulseDownWeight_exec (u : Update) : (pulseDownWeight u).exec s =
    (.ok (), { s with phase := .downWeighed u (s.ctx.downWeight u.Source.VsID) }) := rfl

theorem pulseDownApply_cases {w : Int} {r : Except Err Unit}
    (h : (pulseDownApply env u w).exec s = (r, s')) :
    ∃ rw t, (updateBackend env u.Source.VsID u.Source.RsID w).exec { s with phase := .idle } =
      (rw, t) ∧
      (s' = t ∨ ∃ prev, rw = .ok prev ∧ t.stash.lookup u.Source = none ∧
        s' = { t with stash := t.stash.insert u.Source prev }) := by
  simp only [pulseDownApply, exec_bind, exec_modify, attempt, exec_tryCatch, exec_map] at h
  rcases hu : (updateBackend env u.Source.VsID u.Source.RsID w).exec { s with phase := .idle } with
    ⟨rw, t⟩
  refine ⟨rw, t, rfl, ?_⟩
  rw [hu] at h
  rcases rw with e | prev
  · simp only [exec_pure, Prod.mk.injEq] at h
    exact .inl h.2.symm
  rcases Option.eq_none_or_eq_some (t.stash.lookup u.Source) with hst | ⟨old, hst⟩
  · simp only [exec_get, exec_bind, hst, Option.isSome_none, Bool.false_eq_true, if_false,
      exec_modify, Prod.mk.injEq] at h
    exact .inr ⟨prev, rfl, hst, h.2.symm⟩
  · simp only [exec_get, exec_bind, hst, Option.isSome_some, if_true, exec_pure,
      Prod.mk.injEq] at h
    exact .inl h.2.symm

end Loop

end Gorb
