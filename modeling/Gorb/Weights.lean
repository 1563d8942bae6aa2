import Mathlib.Data.Rat.Floor
import Gorb.Monitors

/-!
# Weights stay in bounds

The Context programs two kinds of weights. `createBackend` adds a destination with the
`MaxWeight` of its service, which `Validate` makes positive. The notification loop programs 0 or
1 for a failed backend, and for a recovering one a stashed weight scaled by the health the probe
reports, in `[0, 1]`. A stashed weight is one the Context recorded for the backend, and the
Context records only what the loop programs: `Service.CreateBackend` never sets the weight of a
new backend, which stays at the 0 it is decoded with. So every weight recorded or stashed is 0, 1
or in between, and every weight programmed lies in `[0, MaxWeight]` of its service at the time of
the call (`WeightsBounded`), whichever service replaced which and whatever stash entry outlived
its backend.
-/

namespace Gorb

/-- A weight the notification loop programs or stashes: between 0 and 1. -/
def UnitWeight (w : Int) : Prop :=
  0 ≤ w ∧ w ≤ 1

/-- A service of the Context: its validated `MaxWeight` is positive, and the weight it records
for each of its backends is a unit weight. -/
def Service.WeightsBounded (vs : Service) : Prop :=
  1 ≤ vs.options.MaxWeight ∧
    ∀ rsID rs, vs.backends.lookup rsID = some rs → UnitWeight rs.options.weight

/-- A weight the call programs lies in `[0, MaxWeight]` of its service at the time of the call. -/
def Issued.WeightBounded (i : Issued) : Prop :=
  ∀ w, i.call.weight? = some w → 0 ≤ w ∧ w ≤ i.maxWeight

/-- The update the notification loop is in the middle of: an Up update reports a health in
`[0, 1]`, and the weight fixed for a Down update is a unit weight. -/
def Phase.Bounded : Phase → Prop
  | .up u => 0 ≤ u.Metrics.Health ∧ u.Metrics.Health ≤ 1
  | .downWeighed _ w => UnitWeight w
  | _ => True

/-- The bounds on weights that hold in every state of a run. -/
structure WeightsBounded (s : Machine) : Prop where
  services : ∀ vsID vs, s.ctx.services.lookup vsID = some vs → vs.WeightsBounded
  stash : ∀ src w, s.stash.lookup src = some w → UnitWeight w
  phase : s.phase.Bounded
  calls : ∀ i ∈ s.calls, i.WeightBounded

/-! ### The weights the loop computes -/

theorem floor_le_roundHalfEven (x : ℚ) : ⌊x⌋ ≤ roundHalfEven x := by
  dsimp only [roundHalfEven]
  split_ifs <;> omega

theorem roundHalfEven_le_floor_add_one (x : ℚ) : roundHalfEven x ≤ ⌊x⌋ + 1 := by
  dsimp only [roundHalfEven]
  split_ifs <;> omega

@[simp] theorem roundHalfEven_intCast (n : ℤ) : roundHalfEven n = n := by
  simp [roundHalfEven]

theorem roundHalfEven_mono {x y : ℚ} (h : x ≤ y) : roundHalfEven x ≤ roundHalfEven y := by
  rcases (Int.floor_mono h).lt_or_eq with hlt | heq
  · calc roundHalfEven x ≤ ⌊x⌋ + 1 := roundHalfEven_le_floor_add_one x
      _ ≤ ⌊y⌋ := hlt
      _ ≤ roundHalfEven y := floor_le_roundHalfEven y
  · have hf : x - ⌊x⌋ ≤ y - ⌊y⌋ := by rw [heq]; linarith
    dsimp only [roundHalfEven]
    simp only [heq]
    split_ifs <;> first | omega | (exfalso; linarith)


/-- Below `2 ^ 31` the unit of a `float64` is `2 ^ e` with `e ≤ 0`. -/
theorem roundFloat64_of_abs_lt {x : ℚ} (hx : |x| < 2 ^ 31) (h0 : x ≠ 0) :
    ∃ k : ℕ, roundFloat64 x = roundHalfEven (x * 2 ^ k) / 2 ^ k := by
  have hlog : Int.log 2 |x| < 31 :=
    (Int.lt_zpow_iff_log_lt (by norm_num) (abs_pos.2 h0)).1 (by exact_mod_cast hx)
  obtain ⟨k, hk⟩ := Int.exists_eq_neg_ofNat
    (show max (Int.log 2 |x| - 52) (-1074) ≤ 0 by omega)
  refine ⟨k, ?_⟩
  simp only [roundFloat64, h0, if_false, hk, zpow_neg, zpow_natCast, div_inv_eq_mul]
  rfl

/-- Rounding below `2 ^ 31` does not cross an integer: upwards. -/
theorem roundFloat64_le_int {x : ℚ} (hx : |x| < 2 ^ 31) {n : ℤ} (h : x ≤ n) :
    roundFloat64 x ≤ n := by
  rcases eq_or_ne x 0 with rfl | h0
  · simpa [roundFloat64] using h
  obtain ⟨k, hk⟩ := roundFloat64_of_abs_lt hx h0
  have hn : (n : ℚ) * 2 ^ k = ((n * 2 ^ k : ℤ) : ℚ) := by push_cast; ring
  have hm := roundHalfEven_mono (mul_le_mul_of_nonneg_right h (by positivity : (0 : ℚ) ≤ 2 ^ k))
  rw [hn, roundHalfEven_intCast] at hm
  rw [hk, div_le_iff₀ (by positivity), hn]
  exact_mod_cast hm

/-- Rounding below `2 ^ 31` does not cross an integer: downwards. -/
theorem int_le_roundFloat64 {x : ℚ} (hx : |x| < 2 ^ 31) {n : ℤ} (h : (n : ℚ) ≤ x) :
    (n : ℚ) ≤ roundFloat64 x := by
  rcases eq_or_ne x 0 with rfl | h0
  · simpa [roundFloat64] using h
  obtain ⟨k, hk⟩ := roundFloat64_of_abs_lt hx h0
  have hn : (n : ℚ) * 2 ^ k = ((n * 2 ^ k : ℤ) : ℚ) := by push_cast; ring
  have hm := roundHalfEven_mono (mul_le_mul_of_nonneg_right h (by positivity : (0 : ℚ) ≤ 2 ^ k))
  rw [hn, roundHalfEven_intCast] at hm
  rw [hk, le_div_iff₀ (by positivity), hn]
  exact_mod_cast hm

/-- A rational at least 0 is truncated toward zero to its floor. -/
theorem tdiv_num_den {r : ℚ} (hr : 0 ≤ r) : r.num.tdiv r.den = ⌊r⌋ := by
  rw [Rat.floor_def, Int.tdiv_eq_ediv (Rat.num_nonneg.2 hr) (Int.natCast_nonneg _)]

/-- A weight scaled by a health in `[0, 1]` lies between 0 and the weight: the product does, and
its rounding to a `float64` crosses no integer. -/
theorem scaleWeight_mem {w : Int} {h : ℚ} (hw : 0 ≤ w) (h0 : 0 ≤ h) (h1 : h ≤ 1) :
    0 ≤ scaleWeight w h ∧ scaleWeight w h ≤ w := by
  have hw' : (0 : ℚ) ≤ w := Int.cast_nonneg.2 hw
  have hq0 : (((0 : ℤ)) : ℚ) ≤ w * h := by simpa using mul_nonneg hw' h0
  have hq1 : (w : ℚ) * h ≤ w := mul_le_of_le_one_right hw' h1
  have htrunc : ∀ r : ℚ, 0 ≤ r → r ≤ w → 0 ≤ r.num.tdiv r.den ∧ r.num.tdiv r.den ≤ w :=
    fun r hr0 hr1 => by
      rw [tdiv_num_den hr0]
      exact ⟨Int.floor_nonneg.2 hr0, (Int.floor_le_floor hr1).trans (Int.floor_intCast w).le⟩
  dsimp only [scaleWeight]
  split_ifs with hs
  · exact htrunc _ (by simpa using int_le_roundFloat64 hs hq0) (roundFloat64_le_int hs hq1)
  · exact htrunc _ (by simpa using hq0) hq1

/-- A weight scaled by the health 1 is the weight. -/
theorem scaleWeight_one (w : Int) : scaleWeight w 1 = w := by
  dsimp only [scaleWeight]
  rw [mul_one]
  split_ifs with hs
  · rw [le_antisymm (roundFloat64_le_int hs le_rfl) (int_le_roundFloat64 hs le_rfl)]
    simp
  · simp

/- The product is rounded to a `float64` before it is truncated: the health 0.7, stored as
`3152519739159347 / 2 ^ 52`, scales 10 to 7, while 0.29, stored as `5224175567749775 / 2 ^ 54`,
scales 100 to 28. -/
example : scaleWeight 10 (3152519739159347 / 2 ^ 52) = 7 := by
  have hq : ((10 : ℤ) : ℚ) * (3152519739159347 / 2 ^ 52) = 15762598695796735 / 2 ^ 51 := by norm_num
  have hlog : Int.log 2 |(15762598695796735 / 2 ^ 51 : ℚ)| = 2 := by
    rw [abs_of_pos (by norm_num), Int.log_of_one_le_right _ (by norm_num)]
    have hf : ⌊(15762598695796735 / 2 ^ 51 : ℚ)⌋₊ = 6 := by
      rw [Nat.floor_eq_iff (by norm_num)]
      norm_num
    rw [hf]
    exact_mod_cast (Nat.log_eq_iff (by norm_num)).2 ⟨by norm_num, by norm_num⟩
  simp only [scaleWeight, hq, roundFloat64, hlog]
  norm_num [roundHalfEven]
  rw [if_pos (by rw [abs_of_pos (by norm_num)]; norm_num), tdiv_num_den (by norm_num),
    Int.floor_eq_iff]
  norm_num

example : scaleWeight 100 (5224175567749775 / 2 ^ 54) = 28 := by
  have hq : ((100 : ℤ) : ℚ) * (5224175567749775 / 2 ^ 54) = 130604389193744375 / 2 ^ 52 := by norm_num
  have hlog : Int.log 2 |(130604389193744375 / 2 ^ 52 : ℚ)| = 4 := by
    rw [abs_of_pos (by norm_num), Int.log_of_one_le_right _ (by norm_num)]
    have hf : ⌊(130604389193744375 / 2 ^ 52 : ℚ)⌋₊ = 28 := by
      rw [Nat.floor_eq_iff (by norm_num)]
      norm_num
    rw [hf]
    exact_mod_cast (Nat.log_eq_iff (by norm_num)).2 ⟨by norm_num, by norm_num⟩
  simp only [scaleWeight, hq, roundFloat64, hlog]
  norm_num [roundHalfEven]
  rw [if_pos (by rw [abs_of_pos (by norm_num)]; norm_num), tdiv_num_den (by norm_num),
    Int.floor_eq_iff]
  norm_num

/-- The fallback weight of a Down update is 0 or 1. -/
theorem Context.downWeight_unit (ctx : Context) (vsID : String) :
    UnitWeight (ctx.downWeight vsID) := by
  unfold Context.downWeight UnitWeight
  split
  · decide
  · split <;> decide

/-! ### Maps whose values all satisfy a property -/

section Maps

variable {α β : Type} [DecidableEq α] {P : α → β → Prop} {m : AList fun _ : α => β} {a : α}
  {b : β}

theorem forall_lookup_insert (hm : ∀ k v, m.lookup k = some v → P k v) (hb : P a b) :
    ∀ k v, (m.insert a b).lookup k = some v → P k v := by
  intro k v hk
  by_cases hka : k = a
  · subst hka
    rw [AList.lookup_insert, Option.some.injEq] at hk
    exact hk ▸ hb
  · rw [AList.lookup_insert_ne hka] at hk
    exact hm k v hk

theorem forall_lookup_erase (hm : ∀ k v, m.lookup k = some v → P k v) :
    ∀ k v, (m.erase a).lookup k = some v → P k v := by
  intro k v hk
  by_cases hka : k = a
  · subst hka
    rw [AList.lookup_erase] at hk
    cases hk
  · rw [AList.lookup_erase_ne hka] at hk
    exact hm k v hk

end Maps

/-! ### What keeps the bounds -/

theorem Issued.WeightBounded.of_none {i : Issued} (h : i.call.weight? = none) :
    i.WeightBounded := fun _ hw => by rw [h] at hw; cases hw

theorem Service.WeightsBounded.insert {vs : Service} (hvs : vs.WeightsBounded) (rsID : String)
    {rs : Backend} (hrs : UnitWeight rs.options.weight) :
    ({ vs with backends := vs.backends.insert rsID rs } : Service).WeightsBounded :=
  ⟨hvs.1, forall_lookup_insert hvs.2 hrs⟩

theorem Service.WeightsBounded.erase {vs : Service} (hvs : vs.WeightsBounded) (rsID : String) :
    ({ vs with backends := vs.backends.erase rsID } : Service).WeightsBounded :=
  ⟨hvs.1, forall_lookup_erase hvs.2⟩

namespace WeightsBounded

variable {env : Env} {s t : Machine}

theorem of_eq (hs : WeightsBounded s) (hctx : t.ctx = s.ctx) (hstash : t.stash = s.stash)
    (hphase : t.phase = s.phase) (hcalls : ∀ i ∈ t.calls, i.WeightBounded) : WeightsBounded t :=
  ⟨hctx ▸ hs.services, hstash ▸ hs.stash, hphase ▸ hs.phase, hcalls⟩

theorem of_kernelOnly (hs : WeightsBounded s) (ht : t.KernelOnly s)
    (hcalls : ∀ i ∈ t.calls, i.WeightBounded) : WeightsBounded t :=
  hs.of_eq ht.ctx ht.stash ht.phase hcalls

/-- The calls logged since `s` are bounded when the new ones are. -/
theorem calls_of_logsFrom (hs : WeightsBounded s) {P : Issued → Prop} (ht : t.LogsFrom P s)
    (hP : ∀ i, P i → i.WeightBounded) : ∀ i ∈ t.calls, i.WeightBounded :=
  fun i hi => (ht i hi).elim (hs.calls i) (hP i)

theorem issue (hs : WeightsBounded s) {maxWeight : Int} {c : IpvsCall}
    (hc : Issued.WeightBounded ⟨c, maxWeight⟩) : WeightsBounded (s.issue env maxWeight c) :=
  hs.of_kernelOnly (.issue _ _ _) fun i hi => by
    rcases List.mem_cons.1 hi with rfl | hi
    · exact hc
    · exact hs.calls i hi

theorem setService (hs : WeightsBounded s) {vsID : String} {vs : Service}
    (hvs : vs.WeightsBounded) : WeightsBounded (s.setService vsID vs) :=
  ⟨forall_lookup_insert hs.services hvs, hs.stash, hs.phase, hs.calls⟩

theorem eraseService (hs : WeightsBounded s) (vsID : String) :
    WeightsBounded (s.eraseService vsID) :=
  ⟨forall_lookup_erase hs.services, hs.stash, hs.phase, hs.calls⟩

theorem afterDelVip (hs : WeightsBounded s) (vs : Service) :
    WeightsBounded (s.afterDelVip env vs) :=
  hs.of_eq afterDelVip_ctx afterDelVip_stash afterDelVip_phase (by
    rw [afterDelVip_calls]
    exact hs.calls)

end WeightsBounded

/-! ### The mutators -/

section Mutators

variable {env : Env} {s s' : Machine} {vsID rsID : String}

/-- A backend created from options as decoded records weight 0, and its `AddDestPort` programs
the `MaxWeight` of its service. -/
theorem keeps_weights_createBackend (env : Env) (vsID rsID : String) {opts : BackendOptions}
    (hopts : opts.Decoded) :
    Keeps WeightsBounded (createBackend env vsID rsID opts) fun _ => True :=
  Keeps.of_cases fun s _ _ h hs => by
    obtain ⟨hlog, hcases⟩ := createBackend_cases h
    have hcalls := hs.calls_of_logsFrom hlog fun i ⟨vs, hvs, hmw, hw⟩ w hiw => by
      have := (hs.services _ vs hvs).1
      rw [hw w hiw, hmw]
      omega
    obtain ⟨-, hk, -⟩ | ⟨-, hk, -⟩ | ⟨-, vs, o₁, o, -, t, hvs, -, hv₁, -, -, ⟨n, -, -, hv⟩, hk, -, rfl⟩ :=
      hcases
    · exact hs.of_kernelOnly hk hcalls
    · exact hs.of_kernelOnly hk hcalls
    · obtain ⟨_, -, rfl⟩ := BackendOptions.validate_ok hv₁
      obtain ⟨_, -, rfl⟩ := BackendOptions.validate_ok hv
      have hw : UnitWeight opts.weight := by
        rw [hopts.2]
        exact ⟨le_rfl, zero_le_one⟩
      exact (hs.setService ((hs.services _ _ hvs).insert rsID hw)).of_eq rfl hk.stash hk.phase
        hcalls

/-- `updateBackend` with a unit weight keeps the bounds and returns the unit weight it replaced. -/
theorem weights_of_updateBackend {w : Int} (hw : UnitWeight w) {r : Except Err Int}
    (h : (updateBackend env vsID rsID w).exec s = (r, s')) (hs : WeightsBounded s) :
    WeightsBounded s' ∧ ∀ prev, r = .ok prev → UnitWeight prev := by
  obtain ⟨⟨e, rfl⟩, rfl⟩ | ⟨vs, rs, hvs, hrs, ⟨-, rfl, rfl⟩ | ⟨-, rfl, rfl⟩⟩ :=
    updateBackend_cases h
  · exact ⟨hs, fun _ h => nomatch h⟩
  all_goals
    have hvsb := hs.services _ _ hvs
    have hcall : Issued.WeightBounded ⟨updateBackendCall vs rs w, vs.options.MaxWeight⟩ :=
      fun w' h => by
        obtain rfl : w = w' := Option.some.inj h
        exact ⟨hw.1, hw.2.trans hvsb.1⟩
  · exact ⟨hs.issue hcall, fun _ h => nomatch h⟩
  · refine ⟨(hs.issue hcall).setService (hvsb.insert rsID hw), fun _ h => ?_⟩
    cases h
    exact hvsb.2 rsID rs hrs

theorem keeps_weights_removeBackend (env : Env) (vsID rsID : String) :
    Keeps WeightsBounded (removeBackend env vsID rsID) fun _ => True :=
  Keeps.of_cases fun s _ _ h hs => by
    obtain ⟨-, rfl⟩ | ⟨vs, rs, hvs, -, ⟨-, -, rfl⟩ | ⟨-, -, rfl⟩⟩ := removeBackend_cases h
    · exact hs
    all_goals
      have hi : WeightsBounded (s.issue env vs.options.MaxWeight (removeBackendCall vs rs)) :=
        hs.issue (.of_none rfl)
    · exact hi
    · have : WeightsBounded (Machine.setService _ vsID _) :=
        hi.setService ((hs.services _ _ hvs).erase rsID)
      exact this.of_eq rfl rfl rfl this.calls

theorem keeps_weights_removeService (env : Env) (vsID : String) :
    Keeps WeightsBounded (removeService env vsID) fun _ => True :=
  Keeps.of_cases fun s _ _ h hs => by
    obtain ⟨-, rfl⟩ | ⟨vs, -, ⟨-, -, rfl⟩ | ⟨-, -, rfl⟩⟩ := removeService_cases h
    · exact hs
    all_goals
      have hi : WeightsBounded ((s.afterDelVip env vs).issue env vs.options.MaxWeight
          (removeServiceCall vs)) := (hs.afterDelVip vs).issue (.of_none rfl)
    · exact hi
    · have := hi.eraseService vsID
      exact this.of_eq rfl rfl rfl this.calls

/-- A service registered has the positive `MaxWeight` of its validated options and no backend. -/
theorem keeps_weights_registerService (env : Env) (vsID : String) (cfg : ServiceConfig) :
    Keeps WeightsBounded (registerService env vsID cfg) fun _ => True :=
  Keeps.of_cases fun s _ _ h hs => by
    obtain ⟨-, hstash, hphase, hlog, ⟨-, hctx, -⟩ |
        ⟨-, o, o', t, hval, -, ho', -, -, -, -, -, -, rfl⟩⟩ := registerService_cases h
    all_goals have hcalls := hs.calls_of_logsFrom hlog fun i hi => .of_none hi
    · exact hs.of_eq hctx hstash hphase hcalls
    · have hmw : 1 ≤ o.MaxWeight := by
        have := ServiceOptions.runValidate_maxWeight (by rw [hval])
        rwa [hval] at this
      have hvs : Service.WeightsBounded
          { vsID := vsID, options := o', svc := serviceSvc o', backends := ∅, ref := s.next } :=
        ⟨by rcases ho' with rfl | rfl <;> exact hmw, fun _ _ h => nomatch h⟩
      exact (hs.setService hvs).of_eq rfl hstash hphase hcalls

end Mutators

/-! ### The notification loop -/

section Loop

variable {env : Env} {s : Machine}

theorem weights_of_pulseCheck (hs : WeightsBounded s) {u : Update}
    (hu : 0 ≤ u.Metrics.Health ∧ u.Metrics.Health ≤ 1) :
    WeightsBounded ((pulseCheck u).exec s).2 := by
  rcases hr : (pulseCheck u).exec s with ⟨r, s'⟩
  obtain rfl | ⟨vs, rs, hvs, hrs, -, rfl⟩ := pulseCheck_cases hr
  · exact ⟨hs.services, forall_lookup_erase hs.stash, hs.phase, hs.calls⟩
  · have hvsb := hs.services _ _ hvs
    have : WeightsBounded (s.setService u.Source.VsID _) := hs.setService
      (hvsb.insert u.Source.RsID
        (hvsb.2 _ rs hrs : UnitWeight { rs with metrics := u.Metrics }.options.weight))
    refine ⟨this.services, this.stash, ?_, this.calls⟩
    show Phase.Bounded (if u.Metrics.Status = .up then .up u else .down u)
    split
    · exact hu
    · trivial

/-- A machine with only the loop's phase changed, to one that is bounded, keeps the bounds. -/
theorem WeightsBounded.withPhase (hs : WeightsBounded s) {p : Phase} (hp : p.Bounded) :
    WeightsBounded { s with phase := p } :=
  ⟨hs.services, hs.stash, hp, hs.calls⟩

theorem weights_of_pulseStep (hs : WeightsBounded s) :
    WeightsBounded ((pulseStep env s.phase).exec s).2 := by
  rcases hr : (pulseStep env s.phase).exec s with ⟨r, s'⟩
  have hphase := hs.phase
  cases hp : s.phase with
  | idle =>
    rw [hp] at hr
    cases hr
    exact hs
  | up u =>
    rw [hp] at hr hphase
    have hidle := hs.withPhase (p := .idle) trivial
    rcases pulseUp_cases hr with ⟨-, rfl⟩ | ⟨stashed, _, t, hst, hu, rfl | ⟨-, -, rfl⟩⟩
    · exact hidle
    all_goals
      have hsw := hs.stash _ _ hst
      have hscaled := scaleWeight_mem hsw.1 hphase.1 hphase.2
      have ht := (weights_of_updateBackend ⟨hscaled.1, hscaled.2.trans hsw.2⟩ hu hidle).1
    · exact ht
    · exact ⟨ht.services, forall_lookup_erase ht.stash, ht.phase, ht.calls⟩
  | down u =>
    rw [hp] at hr
    simp only [pulseStep, pulseDownWeight_exec, Prod.mk.injEq] at hr
    rw [← hr.2]
    exact hs.withPhase (Context.downWeight_unit _ _)
  | downWeighed u w =>
    rw [hp] at hr hphase
    obtain ⟨_, t, hu, rfl | ⟨prev, rfl, -, rfl⟩⟩ := pulseDownApply_cases hr
    · exact (weights_of_updateBackend hphase hu (hs.withPhase trivial)).1
    · obtain ⟨ht, hprev⟩ := weights_of_updateBackend hphase hu (hs.withPhase trivial)
      exact ⟨ht.services, forall_lookup_insert ht.stash (hprev prev rfl), ht.phase, ht.calls⟩

end Loop

/-! ### What the Context records against what the kernel has

The bounds hold because the Context records weights the kernel does not have: a backend is
recorded with weight 0 while its destination is programmed with `MaxWeight`, and a failure stashes
that 0, so the recovery programs 0. -/

section FirstBackend

/-- The weight the Context records for the backend `rsID` of the service `vsID`. -/
def Machine.recordedWeight (s : Machine) (vsID rsID : String) : Option Int :=
  (s.ctx.services.lookup vsID).bind fun vs => (vs.backends.lookup rsID).map (·.options.weight)

/-- The weight of the kernel's destination for the backend `rsID` of the service `vsID`. -/
def Machine.kernelWeight (s : Machine) (vsID rsID : String) : Option Int := do
  let vs ← s.ctx.services.lookup vsID
  let rs ← vs.backends.lookup rsID
  let pool ← poolOf s.ipvs (ipString vs.options.host) vs.options.Port vs.options.protocol
  let d ← pool.dest? (ipString rs.options.host) rs.options.Port
  return d.Weight

/-- The probe of `a`. -/
def webSource : PulseID :=
  ⟨"web", "a"⟩

/-- The first backend of a service: the kernel has its destination at the service's `MaxWeight`,
100 by default, and the Context records weight 0 for it. -/
theorem first_backend_weight_diverges :
    Reachable webEnv firstBackend ∧ firstBackend.recordedWeight "web" "a" = some 0 ∧
      firstBackend.kernelWeight "web" "a" = some 100 :=
  ⟨reachable_firstBackend, by decide, by decide⟩

/-- `firstBackend` after a Down update of `a` with health 0, processed to its end. -/
def afterDown : Machine :=
  Action.pulse.step webEnv (Action.pulse.step webEnv
    ((Action.deliver ⟨webSource, ⟨.down, 0⟩⟩).step webEnv firstBackend))

/-- `afterDown` after an Up update of `a` with health 1, processed to its end. -/
def afterUp : Machine :=
  Action.pulse.step webEnv ((Action.deliver ⟨webSource, ⟨.up, 1⟩⟩).step webEnv afterDown)

theorem reachable_afterUp : Reachable webEnv afterUp := by
  refine .step _ (.step _ (.step _ (.step _ (.step _ reachable_firstBackend ?_ trivial)
    trivial trivial) trivial trivial) ?_ trivial) trivial trivial
  all_goals exact ⟨by decide, by with_unfolding_all decide, by with_unfolding_all decide⟩

/-- A Down update then an Up update with health 1: the Down update stashes the recorded 0, not the
100 the kernel had, and the Up update restores 0 and drops the stash entry. -/
theorem failure_restores_zero :
    Reachable webEnv afterUp ∧ firstBackend.kernelWeight "web" "a" = some 100 ∧
      firstBackend.stash.lookup webSource = none ∧ afterDown.stash.lookup webSource = some 0 ∧
      afterUp.stash.lookup webSource = none ∧ afterUp.kernelWeight "web" "a" = some 0 :=
  ⟨reachable_afterUp, by decide, by decide, by with_unfolding_all decide,
    by with_unfolding_all decide, by with_unfolding_all decide⟩

/-- The probe of a backend: its `monitor` handle, one per incarnation. -/
def Machine.monitorOf (s : Machine) (vsID rsID : String) : Option Nat := do
  let vs ← s.ctx.services.lookup vsID
  return (← vs.backends.lookup rsID).monitor

/-- `firstBackend` after `a` is removed and created again. -/
def recreated : Machine :=
  (Action.createBackend "web" "a" webBackend).step webEnv
    ((Action.removeBackend "web" "a").step webEnv firstBackend)

/-- `recreated` after the Down update with health 0 that the first probe of `a` sent before its
removal, processed to its end. -/
def afterStaleDown : Machine :=
  Action.pulse.step webEnv (Action.pulse.step webEnv
    ((Action.deliver ⟨webSource, ⟨.down, 0⟩⟩).step webEnv recreated))

theorem reachable_afterStaleDown : Reachable webEnv afterStaleDown := by
  refine .step _ (.step _ (.step _ (.step _ (.step _ reachable_firstBackend trivial trivial)
    ⟨rfl, rfl⟩ trivial) ?_ trivial) trivial trivial) trivial trivial
  exact ⟨by decide, by with_unfolding_all decide, by with_unfolding_all decide⟩

/-- A Down update that the first incarnation of `a` sent before `RemoveBackend`, delivered after
`CreateBackend` made a second one with a probe of its own: the update programs weight 0 for the new
destination and creates a stash entry for it. -/
theorem stale_down_hits_new_incarnation :
    Reachable webEnv afterStaleDown ∧ firstBackend.monitorOf "web" "a" = some 1 ∧
      recreated.monitorOf "web" "a" = some 2 ∧ 1 ∉ recreated.monitors ∧
      recreated.kernelWeight "web" "a" = some 100 ∧ recreated.stash.lookup webSource = none ∧
      afterStaleDown.kernelWeight "web" "a" = some 0 ∧
      afterStaleDown.stash.lookup webSource = some 0 :=
  ⟨reachable_afterStaleDown, by decide, by decide, by decide, by decide, by decide,
    by with_unfolding_all decide, by with_unfolding_all decide⟩

end FirstBackend

/-! ### Every run -/

section Run

variable {env : Env} {s : Machine}

theorem WeightsBounded.step (hs : WeightsBounded s) (a : Action) (ha : a.Allowed s) :
    WeightsBounded (a.step env s) := by
  have hcb := fun vsID rsID opts (hopts : BackendOptions.Decoded opts) =>
    keeps_weights_createBackend env vsID rsID hopts
  have hrb := keeps_weights_removeBackend env
  have hrs := keeps_weights_removeService env
  have hreg := fun vsID cfg (_ : ServiceConfig.Decoded cfg) =>
    keeps_weights_registerService env vsID cfg
  have hPS : ∀ (vsID : String) (cfg : ServiceConfig), cfg.Decoded →
      ∀ e ∈ cfg.ServiceBackends.entries, e.2.Decoded :=
    fun _ _ hcfg e he => hcfg.2 e.1 e.2 (AList.mem_lookup_iff.2 he)
  cases a with
  | createService vsID cfg =>
    exact (keeps_createService (hcb vsID) (hreg vsID) (hPS vsID) ha s hs).1
  | createBackend vsID rsID opts => exact (hcb vsID rsID opts ha s hs).1
  | removeService vsID => exact ((hrs vsID).discard s hs).1
  | removeBackend vsID rsID => exact ((hrb vsID rsID).discard s hs).1
  | synchronize order d =>
    exact (keeps_synchronize hPS hcb hrb hrs hreg
      (fun e he => ha e.1 e.2 (AList.mem_lookup_iff.2 he)) s hs).1
  | close order => exact (keeps_close hrs s hs).1
  | deliver u => exact weights_of_pulseCheck hs ha.2
  | pulse => exact weights_of_pulseStep hs

/-- Every weight the Context passes to `AddDestPort` or `UpdateDestPort`, in every run with
health reports in `[0, 1]`, lies in `[0, MaxWeight]` of its service at the time of the call. -/
theorem programmed_weights_bounded (env : Env) (s : Machine) (h : Reachable env s) :
    ∀ i ∈ s.calls, ∀ w, i.call.weight? = some w → 0 ≤ w ∧ w ≤ i.maxWeight :=
  (ReachableWith.induct_on (I := WeightsBounded)
    (fun _ _ _ => ⟨(fun _ _ h => nomatch h), (fun _ _ h => nomatch h), trivial,
      (fun _ h => nomatch h)⟩)
    (fun _ a hs ha _ => hs.step a ha) h).calls

theorem first_addDestPort_bounded :
    0 ≤ (100 : Int) ∧
      100 ≤ (Issued.mk (.addDestPort "10.0.0.1" 80 "10.0.0.2" 8080 6 100 0) 100).maxWeight :=
  programmed_weights_bounded webEnv firstBackend reachable_firstBackend
    ⟨.addDestPort "10.0.0.1" 80 "10.0.0.2" 8080 6 100 0, 100⟩ (by decide) 100 rfl

end Run

end Gorb
