import Gorb.Health

/-!
# The stash of the notification loop

The design states what the loop does with one update in one go (§4.2, `Update.stashAfter`): an
update for a backend that does not run, or a `StatusRemoved` one, drops the stash entry of its
source; a `StatusUp` update programs the stashed weight scaled by the health, and drops the entry
once the whole weight is back; a `StatusDown` update programs the fallback weight and stashes the
weight it replaced, unless an older entry stands. `processPulseUpdate` does this in three steps that
each take the Context lock. Run from an idle loop with no goroutine in between, it leaves the entry
of the update's source as the policy says, every other entry as it was, and the loop idle
(`processPulseUpdate_stash`); an update the check drops does nothing else
(`processPulseUpdate_drops`), and a `StatusUp` one programs and records the scaled weight
(`processPulseUpdate_up`). A failure followed by a full recovery programs the backend back to the
weight it had before (`down_then_up_restores`).

Other goroutines do run between the steps and between updates. The Context's mutators never touch
the loop's stash or phase (`LoopAt`), and the loop adds an entry only where none stands. So along
every run, whatever interleaves, an entry keeps the weight it was created with for as long as it
stands (`stash_entry_kept`): a later failure never overwrites the weight an earlier one stashed.
-/

namespace Gorb

/-! ### The policy -/

/-- The backend of the Context that the probe `src` reports on, when it runs. -/
def Machine.backendOf (s : Machine) (src : PulseID) : Option Backend :=
  (s.ctx.services.lookup src.VsID).bind (·.backends.lookup src.RsID)

theorem Machine.backendOf_eq_some {s : Machine} {src : PulseID} {rs : Backend} :
    s.backendOf src = some rs ↔
      ∃ vs, s.ctx.services.lookup src.VsID = some vs ∧ vs.backends.lookup src.RsID = some rs :=
  Option.bind_eq_some

/-- The stash entry of the source of `u` once the loop has handled `u`, as §4.2 of the design states
the policy. `backend` is the backend `u` reports on when it runs, `accepted` whether the driver
takes the `UpdateDestPort`, and `entry` the entry before. -/
def Update.stashAfter (u : Update) (backend : Option Backend) (accepted : Bool)
    (entry : Option Int) : Option Int :=
  match backend, u.Metrics.Status, entry with
  | none, _, _ => none
  | some _, .removed, _ => none
  | some _, .up, none => none
  | some _, .up, some w => if accepted ∧ scaleWeight w u.Metrics.Health = w then none else some w
  | some _, .down, some w => some w
  | some rs, .down, none => if accepted then some rs.options.weight else none

/-! ### The steps of one update -/

section Steps

variable {env : Env} {s : Machine} {u : Update} {vsID rsID : String} {vs : Service} {rs : Backend}

theorem updateBackend_refused (hvs : s.ctx.services.lookup vsID = some vs)
    (hrs : vs.backends.lookup rsID = some rs) (hno : env.ipvs s.clock = false) (w : Int) :
    (updateBackend env vsID rsID w).exec s =
      (.error .ipvsSyscallFailed, s.issue env vs.options.MaxWeight (updateBackendCall vs rs w)) := by
  simp only [updateBackend, exec_bind, exec_get, hvs, hrs, ipvsCall_exec, hno]
  rfl

/-- `UpdateBackend` leaves the loop's stash and phase. -/
theorem updateBackend_loop (env : Env) (s : Machine) (vsID rsID : String) (w : Int) :
    ((updateBackend env vsID rsID w).exec s).2.stash = s.stash ∧
      ((updateBackend env vsID rsID w).exec s).2.phase = s.phase := by
  rcases h : (updateBackend env vsID rsID w).exec s with ⟨r, t⟩
  obtain ⟨-, rfl⟩ | ⟨vs, rs, -, -, ⟨-, -, rfl⟩ | ⟨-, -, rfl⟩⟩ := updateBackend_cases h <;>
    exact ⟨rfl, rfl⟩

/-- The locked check drops the stash entry of an update for a backend that does not run, or of a
`StatusRemoved` update, and does nothing else. -/
theorem pulseCheck_drops (h : s.backendOf u.Source = none ∨ u.Metrics.Status = .removed) :
    (pulseCheck u).exec s = (.ok (), { s with stash := s.stash.erase u.Source }) := by
  simp only [pulseCheck, exec_bind, exec_get]
  rcases hvs : s.ctx.services.lookup u.Source.VsID with _ | vs
  · rfl
  dsimp only
  rcases hrs : vs.backends.lookup u.Source.RsID with _ | rs
  · rfl
  simp only [Machine.backendOf, hvs, hrs, Option.some_bind, reduceCtorEq, false_or] at h
  simp [h, dropStash]

/-- The locked check of an update for a running backend caches the metrics and moves the loop on. -/
theorem pulseCheck_observes (hvs : s.ctx.services.lookup u.Source.VsID = some vs)
    (hrs : vs.backends.lookup u.Source.RsID = some rs) (hrm : u.Metrics.Status ≠ .removed) :
    (pulseCheck u).exec s =
      (.ok (), { s.setService u.Source.VsID (vs.withMetrics u.Source.RsID rs u.Metrics) with
        phase := if u.Metrics.Status = .up then .up u else .down u }) := by
  simp [pulseCheck, hvs, hrs, hrm, Service.withMetrics]

/-- `pulseUp` on a backend that runs: with a stash entry it programs the entry scaled by the
health, and drops the entry when the driver took the whole weight back. -/
theorem pulseUp_exec (hvs : s.ctx.services.lookup u.Source.VsID = some vs)
    (hrs : vs.backends.lookup u.Source.RsID = some rs) :
    (pulseUp env u).exec s = (.ok (), match s.stash.lookup u.Source with
      | none => { s with phase := .idle }
      | some w =>
        let t := ((updateBackend env u.Source.VsID u.Source.RsID
          (scaleWeight w u.Metrics.Health)).exec { s with phase := .idle }).2
        if env.ipvs s.clock ∧ scaleWeight w u.Metrics.Health = w then
          { t with stash := t.stash.erase u.Source }
        else t) := by
  simp only [pulseUp, exec_bind, exec_modify, exec_get]
  rcases hst : s.stash.lookup u.Source with _ | w
  · rfl
  simp only [attempt, exec_bind, exec_tryCatch, exec_map]
  cases hok : env.ipvs s.clock
  · rw [updateBackend_refused (s := { s with phase := .idle }) hvs hrs hok]
    simp
  · rw [updateBackend_exec (s := { s with phase := .idle }) hvs hrs hok]
    by_cases heq : scaleWeight w u.Metrics.Health = w <;> simp [heq, dropStash]

/-- `pulseDownApply` on a backend that runs: it programs the weight, and stashes the weight it
replaced when the driver took the call and no entry stands. -/
theorem pulseDownApply_exec (hvs : s.ctx.services.lookup u.Source.VsID = some vs)
    (hrs : vs.backends.lookup u.Source.RsID = some rs) (w : Int) :
    (pulseDownApply env u w).exec s = (.ok (),
      let t := ((updateBackend env u.Source.VsID u.Source.RsID w).exec { s with phase := .idle }).2
      if env.ipvs s.clock ∧ s.stash.lookup u.Source = none then
        { t with stash := t.stash.insert u.Source rs.options.weight }
      else t) := by
  simp only [pulseDownApply, exec_bind, exec_modify, attempt, exec_tryCatch, exec_map]
  cases hok : env.ipvs s.clock
  · rw [updateBackend_refused (s := { s with phase := .idle }) hvs hrs hok]
    simp
  · rw [updateBackend_exec (s := { s with phase := .idle }) hvs hrs hok]
    rcases hst : s.stash.lookup u.Source with _ | old <;> simp [hst]

/-- `pulseUp` with a stash entry for a running backend, the driver taking the call: it programs and
records the entry scaled by the health, and keeps the entry unless the whole weight is back. -/
theorem pulseUp_restores {w : Int} (hvs : s.ctx.services.lookup u.Source.VsID = some vs)
    (hrs : vs.backends.lookup u.Source.RsID = some rs) (hw : s.stash.lookup u.Source = some w)
    (hipvs : env.ipvs s.clock = true) :
    ((pulseUp env u).exec s).2.calls =
        ⟨updateBackendCall vs rs (scaleWeight w u.Metrics.Health), vs.options.MaxWeight⟩ :: s.calls ∧
      ((pulseUp env u).exec s).2.recordedWeight u.Source.VsID u.Source.RsID =
        some (scaleWeight w u.Metrics.Health) ∧
      ((pulseUp env u).exec s).2.stash.lookup u.Source =
        if scaleWeight w u.Metrics.Health = w then none else some w := by
  rw [pulseUp_exec hvs hrs, hw]
  dsimp only
  rw [updateBackend_exec (s := { s with phase := .idle }) hvs hrs hipvs]
  by_cases h : scaleWeight w u.Metrics.Health = w <;> simp [Machine.recordedWeight, hipvs, h, hw]

/-- `pulseDownApply` with no stash entry for a running backend, the driver taking the call: the
backend records the weight, and the weight it had is stashed. -/
theorem pulseDownApply_stashes {w : Int} (hvs : s.ctx.services.lookup u.Source.VsID = some vs)
    (hrs : vs.backends.lookup u.Source.RsID = some rs) (hnone : s.stash.lookup u.Source = none)
    (hipvs : env.ipvs s.clock = true) :
    ((pulseDownApply env u w).exec s).2.ctx.services.lookup u.Source.VsID =
        some { vs with
          backends := vs.backends.insert u.Source.RsID
            { rs with options := { rs.options with weight := w } } } ∧
      ((pulseDownApply env u w).exec s).2.stash.lookup u.Source = some rs.options.weight := by
  rw [pulseDownApply_exec hvs hrs w, updateBackend_exec (s := { s with phase := .idle }) hvs hrs hipvs]
  simp [hipvs, hnone]

theorem pulseUp_phase (env : Env) (u : Update) (s : Machine) :
    ((pulseUp env u).exec s).2.phase = .idle := by
  rcases h : (pulseUp env u).exec s with ⟨r, t⟩
  obtain ⟨-, rfl⟩ | ⟨w, rw, t', -, hu, rfl | ⟨-, -, rfl⟩⟩ := pulseUp_cases h
  · rfl
  all_goals
    have := (updateBackend_loop env { s with phase := .idle } u.Source.VsID u.Source.RsID
      (scaleWeight w u.Metrics.Health)).2
    rwa [hu] at this

end Steps

/-! ### One update, with no goroutine in between -/

section OneUpdate

variable {env : Env} {s : Machine} {u : Update}

/-- An update for a backend that does not run, or a `StatusRemoved` update, handled from an idle
loop: the loop drops the stash entry of its source, makes no IPVS call and changes nothing else. -/
theorem processPulseUpdate_drops (env : Env) (s : Machine) (u : Update) (hidle : s.phase = .idle)
    (h : s.backendOf u.Source = none ∨ u.Metrics.Status = .removed) :
    (processPulseUpdate env u).exec s = (.ok (), { s with stash := s.stash.erase u.Source }) := by
  simp only [processPulseUpdate, exec_bind, pulseCheck_drops h, exec_get, hidle, pulseStep, exec_pure]

section Known

variable {vs : Service} {rs : Backend}
  (hvs : s.ctx.services.lookup u.Source.VsID = some vs)
  (hrs : vs.backends.lookup u.Source.RsID = some rs)
include hvs hrs

/-- A `StatusUp` update for a running backend is its check, then `pulseUp`. -/
theorem processPulseUpdate_up_eq (hup : u.Metrics.Status = .up) :
    (processPulseUpdate env u).exec s = (pulseUp env u).exec
      { s.setService u.Source.VsID (vs.withMetrics u.Source.RsID rs u.Metrics) with phase := .up u } := by
  obtain ⟨t, hx⟩ : ∃ t, (pulseUp env u).exec
      { s.setService u.Source.VsID (vs.withMetrics u.Source.RsID rs u.Metrics) with
        phase := .up u } = (.ok (), t) :=
    ⟨_, pulseUp_exec (AList.lookup_insert _) (AList.lookup_insert _)⟩
  have hp : t.phase = .idle := by
    simpa only [hx] using pulseUp_phase env u
      { s.setService u.Source.VsID (vs.withMetrics u.Source.RsID rs u.Metrics) with phase := .up u }
  simp only [processPulseUpdate, exec_bind, pulseCheck_observes hvs hrs (by simp [hup]), hup,
    if_true, exec_get, pulseStep, hx, hp, exec_pure]

/-- A `StatusDown` update for a running backend is its check, the weight `GetService` fixes, then
`pulseDownApply`. -/
theorem processPulseUpdate_down_eq (hdown : u.Metrics.Status = .down) :
    (processPulseUpdate env u).exec s = (pulseDownApply env u
      (if (vs.withMetrics u.Source.RsID rs u.Metrics).calcServiceStat.Health = 0 ∧
        fallbackFlag vs.options.Fallback = ZeroToOne then 1 else 0)).exec
      { s.setService u.Source.VsID (vs.withMetrics u.Source.RsID rs u.Metrics) with
        phase := .downWeighed u
          (if (vs.withMetrics u.Source.RsID rs u.Metrics).calcServiceStat.Health = 0 ∧
            fallbackFlag vs.options.Fallback = ZeroToOne then 1 else 0) } := by
  have hw : ({ s.setService u.Source.VsID (vs.withMetrics u.Source.RsID rs u.Metrics) with
      phase := .down u } : Machine).ctx.downWeight u.Source.VsID =
      if (vs.withMetrics u.Source.RsID rs u.Metrics).calcServiceStat.Health = 0 ∧
        fallbackFlag vs.options.Fallback = ZeroToOne then 1 else 0 :=
    downWeight_setService _ _ _
  simp only [processPulseUpdate, exec_bind, pulseCheck_observes hvs hrs (by simp [hdown]), hdown,
    reduceCtorEq, if_false, exec_get, pulseStep, pulseDownWeight_exec, hw]

/-- The stash after a `StatusUp` update for a running backend: an entry goes when the driver took
the whole weight back. -/
theorem processPulseUpdate_up_stash (hup : u.Metrics.Status = .up) :
    ((processPulseUpdate env u).exec s).2.stash = match s.stash.lookup u.Source with
      | none => s.stash
      | some w => if env.ipvs s.clock ∧ scaleWeight w u.Metrics.Health = w then
          s.stash.erase u.Source else s.stash := by
  rw [processPulseUpdate_up_eq hvs hrs hup, pulseUp_exec (AList.lookup_insert _) (AList.lookup_insert _)]
  dsimp only [Machine.setService]
  rcases s.stash.lookup u.Source with _ | w
  · rfl
  · dsimp only
    split_ifs <;> simp only [(updateBackend_loop _ _ _ _ _).1]

/-- The stash after a `StatusDown` update for a running backend: the replaced weight is stashed when
the driver took the call and no entry stands. -/
theorem processPulseUpdate_down_stash (hdown : u.Metrics.Status = .down) :
    ((processPulseUpdate env u).exec s).2.stash =
      if env.ipvs s.clock ∧ s.stash.lookup u.Source = none then
        s.stash.insert u.Source rs.options.weight else s.stash := by
  rw [processPulseUpdate_down_eq hvs hrs hdown, pulseDownApply_exec (AList.lookup_insert _)
    (AList.lookup_insert _)]
  dsimp only [Machine.setService]
  split_ifs <;> simp only [(updateBackend_loop _ _ _ _ _).1]

/-- A `StatusDown` update for a running backend with no stash entry, the driver taking the call:
the backend holds the weight `GetService` fixed, and the weight it had is stashed. -/
theorem processPulseUpdate_down_stashes (hdown : u.Metrics.Status = .down)
    (hnone : s.stash.lookup u.Source = none) (hipvs : env.ipvs s.clock = true) :
    ∃ w, ((processPulseUpdate env u).exec s).2.ctx.services.lookup u.Source.VsID =
        some { vs.withMetrics u.Source.RsID rs u.Metrics with
          backends := (vs.withMetrics u.Source.RsID rs u.Metrics).backends.insert u.Source.RsID
            ({ rs with metrics := u.Metrics, options := { rs.options with weight := w } }) } ∧
      ((processPulseUpdate env u).exec s).2.stash.lookup u.Source = some rs.options.weight := by
  rw [processPulseUpdate_down_eq hvs hrs hdown]
  exact ⟨_, @pulseDownApply_stashes env _ u _ { rs with metrics := u.Metrics } _ (by simp)
    (by simp [Service.withMetrics]) hnone hipvs⟩
end Known

/-- From an idle loop, `processPulseUpdate` ends with the loop idle again. -/
theorem processPulseUpdate_idle (env : Env) (s : Machine) (u : Update) (hidle : s.phase = .idle) :
    ((processPulseUpdate env u).exec s).2.phase = .idle := by
  rcases hb : s.backendOf u.Source with _ | rs
  · rw [processPulseUpdate_drops env s u hidle (.inl hb)]
    exact hidle
  obtain ⟨vs, hvs, hrs⟩ := Machine.backendOf_eq_some.1 hb
  cases hst : u.Metrics.Status
  · rw [processPulseUpdate_up_eq hvs hrs hst]
    exact pulseUp_phase env u _
  · rw [processPulseUpdate_down_eq hvs hrs hst,
      pulseDownApply_exec (AList.lookup_insert _) (AList.lookup_insert _)]
    dsimp only
    split_ifs <;> exact (updateBackend_loop _ _ _ _ _).2
  · rw [processPulseUpdate_drops env s u hidle (.inr hst)]
    exact hidle

theorem processPulseUpdate_entries (env : Env) (s : Machine) (u : Update) (hidle : s.phase = .idle) :
    ((processPulseUpdate env u).exec s).2.stash.lookup u.Source =
        u.stashAfter (s.backendOf u.Source) (env.ipvs s.clock) (s.stash.lookup u.Source) ∧
      ∀ src, src ≠ u.Source →
        ((processPulseUpdate env u).exec s).2.stash.lookup src = s.stash.lookup src := by
  rcases hb : s.backendOf u.Source with _ | rs
  · rw [processPulseUpdate_drops env s u hidle (.inl hb)]
    exact ⟨AList.lookup_erase _ _, fun _ h => AList.lookup_erase_ne h⟩
  obtain ⟨vs, hvs, hrs⟩ := Machine.backendOf_eq_some.1 hb
  cases hst : u.Metrics.Status
  · rw [processPulseUpdate_up_stash hvs hrs hst]
    rcases hw : s.stash.lookup u.Source with _ | w
    · simp [Update.stashAfter, hst, hw]
    · by_cases hc : env.ipvs s.clock = true ∧ scaleWeight w u.Metrics.Health = w
      · simp only [hc, and_self, if_true, Update.stashAfter, hst, AList.lookup_erase]
        exact ⟨trivial, fun _ h => AList.lookup_erase_ne h⟩
      · simp [Update.stashAfter, hst, hw, hc]
  · rw [processPulseUpdate_down_stash hvs hrs hst]
    rcases hw : s.stash.lookup u.Source with _ | w
    · cases hok : env.ipvs s.clock
      · simp [Update.stashAfter, hst, hw, hok]
      · simp only [hok, hw, and_self, if_true, Update.stashAfter, hst, AList.lookup_insert]
        exact ⟨trivial, fun _ h => AList.lookup_insert_ne h⟩
    · simp [Update.stashAfter, hst, hw]
  · rw [processPulseUpdate_drops env s u hidle (.inr hst)]
    exact ⟨by simp [Update.stashAfter, hst], fun _ h => AList.lookup_erase_ne h⟩

/-- `processPulseUpdate`, run from an idle loop with no goroutine in between, leaves the stash entry
of the update's source as §4.2 of the design states the policy, every other entry as it was, and
the loop idle. -/
theorem processPulseUpdate_stash (env : Env) (s : Machine) (u : Update) (hidle : s.phase = .idle) :
    ((processPulseUpdate env u).exec s).2.stash.lookup u.Source =
        u.stashAfter (s.backendOf u.Source) (env.ipvs s.clock) (s.stash.lookup u.Source) ∧
      (∀ src, src ≠ u.Source →
        ((processPulseUpdate env u).exec s).2.stash.lookup src = s.stash.lookup src) ∧
      ((processPulseUpdate env u).exec s).2.phase = .idle :=
  ⟨(processPulseUpdate_entries env s u hidle).1, (processPulseUpdate_entries env s u hidle).2,
    processPulseUpdate_idle env s u hidle⟩

/-- A Down update of `a` just after its creation. -/
theorem first_down_stashes :
    firstBackend.phase = .idle ∧
      ((processPulseUpdate webEnv ⟨webSource, ⟨.down, 0⟩⟩).exec firstBackend).2.stash.lookup
          webSource =
        Update.stashAfter ⟨webSource, ⟨.down, 0⟩⟩ (firstBackend.backendOf webSource)
          (webEnv.ipvs firstBackend.clock) (firstBackend.stash.lookup webSource) ∧
      (∀ src, src ≠ webSource →
        ((processPulseUpdate webEnv ⟨webSource, ⟨.down, 0⟩⟩).exec firstBackend).2.stash.lookup src =
          firstBackend.stash.lookup src) ∧
      ((processPulseUpdate webEnv ⟨webSource, ⟨.down, 0⟩⟩).exec firstBackend).2.phase = .idle :=
  ⟨by decide, processPulseUpdate_stash webEnv firstBackend ⟨webSource, ⟨.down, 0⟩⟩ (by decide)⟩

/-- A `StatusUp` update for a running backend with a stash entry, the driver taking the call:
the loop programs the entry scaled by the health and records that weight, and keeps the entry
unless the whole weight is back. -/
theorem processPulseUpdate_up (env : Env) (s : Machine) {u : Update} (hup : u.Metrics.Status = .up)
    {vs : Service} {rs : Backend} {w : Int} (hvs : s.ctx.services.lookup u.Source.VsID = some vs)
    (hrs : vs.backends.lookup u.Source.RsID = some rs) (hw : s.stash.lookup u.Source = some w)
    (hipvs : env.ipvs s.clock = true) :
    ((processPulseUpdate env u).exec s).2.calls =
        ⟨updateBackendCall vs rs (scaleWeight w u.Metrics.Health), vs.options.MaxWeight⟩ :: s.calls ∧
      ((processPulseUpdate env u).exec s).2.recordedWeight u.Source.VsID u.Source.RsID =
        some (scaleWeight w u.Metrics.Health) ∧
      ((processPulseUpdate env u).exec s).2.stash.lookup u.Source =
        if scaleWeight w u.Metrics.Health = w then none else some w := by
  rw [processPulseUpdate_up_eq hvs hrs hup]
  exact @pulseUp_restores env _ u (vs.withMetrics u.Source.RsID rs u.Metrics)
    { rs with metrics := u.Metrics } w (by simp) (by simp [Service.withMetrics]) hw hipvs

/-- An Up update of `a` with health 1 once a Down update stashed its weight. -/
theorem up_after_down_restores :
    ∃ vs rs, afterDown.ctx.services.lookup "web" = some vs ∧ vs.backends.lookup "a" = some rs ∧
      afterDown.stash.lookup webSource = some 0 ∧ webEnv.ipvs afterDown.clock = true ∧
      ((processPulseUpdate webEnv ⟨webSource, ⟨.up, 1⟩⟩).exec afterDown).2.calls =
          ⟨updateBackendCall vs rs (scaleWeight 0 1), vs.options.MaxWeight⟩ :: afterDown.calls ∧
        ((processPulseUpdate webEnv ⟨webSource, ⟨.up, 1⟩⟩).exec afterDown).2.recordedWeight "web" "a" =
          some (scaleWeight 0 1) ∧
        ((processPulseUpdate webEnv ⟨webSource, ⟨.up, 1⟩⟩).exec afterDown).2.stash.lookup webSource =
          if scaleWeight 0 1 = 0 then none else some 0 := by
  obtain ⟨rs, hb⟩ := Option.isSome_iff_exists.1
    (show (afterDown.backendOf webSource).isSome by with_unfolding_all decide)
  obtain ⟨vs, hvs, hrs⟩ := Machine.backendOf_eq_some.1 hb
  have hw : afterDown.stash.lookup webSource = some 0 := by with_unfolding_all decide
  exact ⟨vs, rs, hvs, hrs, hw, rfl,
    processPulseUpdate_up webEnv afterDown (u := ⟨webSource, ⟨.up, 1⟩⟩) rfl hvs hrs hw rfl⟩

/-- A `StatusDown` update then a `StatusUp` update with health 1 for a running backend with no
stash entry, with no goroutine in between and the driver taking the calls: the Up update programs
the destination back to the weight the Context recorded before the failure, the backend records it
again, and the stash entry is gone. -/
theorem down_then_up_restores (env : Env) (s : Machine) (src : PulseID) (health : ℚ)
    {vs : Service} {rs : Backend} (hvs : s.ctx.services.lookup src.VsID = some vs)
    (hrs : vs.backends.lookup src.RsID = some rs) (hnone : s.stash.lookup src = none)
    (hipvs : ∀ n, env.ipvs n = true) :
    ((processPulseUpdate env ⟨src, ⟨.up, 1⟩⟩).exec
        ((processPulseUpdate env ⟨src, ⟨.down, health⟩⟩).exec s).2).2.calls.head? =
        some ⟨updateBackendCall vs rs rs.options.weight, vs.options.MaxWeight⟩ ∧
      ((processPulseUpdate env ⟨src, ⟨.up, 1⟩⟩).exec
        ((processPulseUpdate env ⟨src, ⟨.down, health⟩⟩).exec s).2).2.recordedWeight
          src.VsID src.RsID = some rs.options.weight ∧
      ((processPulseUpdate env ⟨src, ⟨.up, 1⟩⟩).exec
        ((processPulseUpdate env ⟨src, ⟨.down, health⟩⟩).exec s).2).2.stash.lookup src = none := by
  obtain ⟨w, hvs₁, hst₁⟩ := processPulseUpdate_down_stashes (u := ⟨src, ⟨.down, health⟩⟩) hvs hrs rfl
    hnone (hipvs _)
  rw [processPulseUpdate_up_eq (u := ⟨src, ⟨.up, 1⟩⟩) hvs₁ (AList.lookup_insert _) rfl,
    pulseUp_exec (AList.lookup_insert _) (AList.lookup_insert _)]
  dsimp only [Machine.setService]
  rw [hst₁]
  dsimp only
  rw [updateBackend_exec (AList.lookup_insert _) (AList.lookup_insert _) (hipvs _)]
  simp [Machine.recordedWeight, hipvs, scaleWeight_one]
  exact ⟨rfl, rfl⟩

/-- A Down then an Up update of `a` just after its creation. -/
theorem web_down_up_restores :
    ∃ vs rs, firstBackend.ctx.services.lookup "web" = some vs ∧ vs.backends.lookup "a" = some rs ∧
      firstBackend.stash.lookup webSource = none ∧ (∀ n, webEnv.ipvs n = true) ∧
      ((processPulseUpdate webEnv ⟨webSource, ⟨.up, 1⟩⟩).exec
          ((processPulseUpdate webEnv ⟨webSource, ⟨.down, 0⟩⟩).exec firstBackend).2).2.calls.head? =
          some ⟨updateBackendCall vs rs rs.options.weight, vs.options.MaxWeight⟩ ∧
        ((processPulseUpdate webEnv ⟨webSource, ⟨.up, 1⟩⟩).exec
          ((processPulseUpdate webEnv ⟨webSource, ⟨.down, 0⟩⟩).exec firstBackend).2).2.recordedWeight
            "web" "a" = some rs.options.weight ∧
        ((processPulseUpdate webEnv ⟨webSource, ⟨.up, 1⟩⟩).exec
          ((processPulseUpdate webEnv ⟨webSource, ⟨.down, 0⟩⟩).exec firstBackend).2).2.stash.lookup
            webSource = none := by
  obtain ⟨rs, hb⟩ := Option.isSome_iff_exists.1
    (show (firstBackend.backendOf webSource).isSome by with_unfolding_all decide)
  obtain ⟨vs, hvs, hrs⟩ := Machine.backendOf_eq_some.1 hb
  have hnone : firstBackend.stash.lookup webSource = none := by with_unfolding_all decide
  exact ⟨vs, rs, hvs, hrs, hnone, fun _ => rfl,
    down_then_up_restores webEnv firstBackend webSource 0 hvs hrs hnone fun _ => rfl⟩

end OneUpdate

/-! ### Every run -/

section Loop

variable {env : Env} {st : AList fun _ : PulseID => Int} {ph : Phase} {vsID rsID : String}

/-- The notification loop's own state: its stash and its phase. -/
def LoopAt (st : AList fun _ : PulseID => Int) (ph : Phase) (s : Machine) : Prop :=
  s.stash = st ∧ s.phase = ph

theorem keeps_loopAt_createBackend (opts : BackendOptions) :
    Keeps (LoopAt st ph) (createBackend env vsID rsID opts) fun _ => True :=
  Keeps.of_cases fun _ _ _ h hs => by
    obtain ⟨-, ⟨-, hk, -⟩ | ⟨-, hk, -⟩ | ⟨-, -, -, -, -, t, -, -, -, -, -, -, hk, -, rfl⟩⟩ :=
      createBackend_cases h
    all_goals exact ⟨hk.stash.trans hs.1, hk.phase.trans hs.2⟩

theorem keeps_loopAt_removeBackend :
    Keeps (LoopAt st ph) (removeBackend env vsID rsID) fun _ => True :=
  Keeps.of_cases fun _ _ _ h hs => by
    obtain ⟨-, rfl⟩ | ⟨vs, rs, -, -, ⟨-, -, rfl⟩ | ⟨-, -, rfl⟩⟩ := removeBackend_cases h <;> exact hs

theorem keeps_loopAt_removeService : Keeps (LoopAt st ph) (removeService env vsID) fun _ => True :=
  Keeps.of_cases fun _ _ _ h hs => by
    obtain ⟨-, rfl⟩ | ⟨vs, -, ⟨-, -, rfl⟩ | ⟨-, -, rfl⟩⟩ := removeService_cases h
    · exact hs
    all_goals simpa [LoopAt] using hs

theorem keeps_loopAt_registerService (cfg : ServiceConfig) :
    Keeps (LoopAt st ph) (registerService env vsID cfg) fun _ => True :=
  Keeps.of_cases fun _ _ _ h hs => by
    obtain ⟨-, hst, hph, -⟩ := registerService_cases h
    exact ⟨hst.trans hs.1, hph.trans hs.2⟩

/-- A step of a goroutine other than the notification loop leaves the loop's stash and phase. -/
theorem loopAt_step (s : Machine) {a : Action} (hd : ∀ u, a ≠ .deliver u) (hp : a ≠ .pulse) :
    LoopAt s.stash s.phase (a.step env s) := by
  have hcb := fun vsID rsID opts (_ : True) => (keeps_loopAt_createBackend opts :
    Keeps (LoopAt s.stash s.phase) (createBackend env vsID rsID opts) _)
  have hrb := fun vsID rsID => (keeps_loopAt_removeBackend :
    Keeps (LoopAt s.stash s.phase) (removeBackend env vsID rsID) _)
  have hrs := fun vsID => (keeps_loopAt_removeService :
    Keeps (LoopAt s.stash s.phase) (removeService env vsID) _)
  have hreg := fun vsID cfg (_ : True) => (keeps_loopAt_registerService cfg :
    Keeps (LoopAt s.stash s.phase) (registerService env vsID cfg) _)
  have hPS : ∀ (_ : String) (cfg : ServiceConfig), True →
      ∀ e ∈ cfg.ServiceBackends.entries, True := fun _ _ _ _ _ => trivial
  have hs : LoopAt s.stash s.phase s := ⟨rfl, rfl⟩
  cases a with
  | createService vsID cfg =>
    exact (keeps_createService (hcb vsID) (hreg vsID) (hPS vsID) trivial s hs).1
  | createBackend vsID rsID opts => exact (hcb vsID rsID opts trivial s hs).1
  | removeService vsID => exact ((hrs vsID).discard s hs).1
  | removeBackend vsID rsID => exact ((hrb vsID rsID).discard s hs).1
  | synchronize order d =>
    exact (keeps_synchronize hPS hcb hrb hrs hreg (fun _ _ => trivial) s hs).1
  | close order => exact (keeps_close hrs s hs).1
  | deliver u => exact absurd rfl (hd u)
  | pulse => exact absurd rfl hp

variable {s t : Machine} {src : PulseID} {w : Int}

/-- `t` has the entry `w` for `src`, or none. -/
def EntryKeptOrDropped (src : PulseID) (w : Int) (t : Machine) : Prop :=
  t.stash.lookup src = some w ∨ t.stash.lookup src = none

theorem EntryKeptOrDropped.erase (hw : s.stash.lookup src = some w) (src' : PulseID) :
    EntryKeptOrDropped src w { s with stash := s.stash.erase src' } := by
  by_cases h : src = src'
  · exact .inr (h ▸ AList.lookup_erase _ _)
  · exact .inl ((AList.lookup_erase_ne h).trans hw)

theorem EntryKeptOrDropped.of_loopAt (hw : s.stash.lookup src = some w)
    (h : LoopAt s.stash s.phase t) : EntryKeptOrDropped src w t :=
  .inl (h.1 ▸ hw)

theorem pulseUp_entry (hw : s.stash.lookup src = some w) {u : Update} :
    EntryKeptOrDropped src w ((pulseUp env u).exec s).2 := by
  rcases h : (pulseUp env u).exec s with ⟨r, t⟩
  obtain ⟨-, rfl⟩ | ⟨w', rw, t', -, hu, rfl | ⟨-, -, rfl⟩⟩ := pulseUp_cases h
  · exact .inl hw
  all_goals
    have ht := (updateBackend_loop env { s with phase := .idle } u.Source.VsID u.Source.RsID
      (scaleWeight w' u.Metrics.Health)).1
    rw [hu] at ht
    dsimp only at ht
  · exact .inl (ht ▸ hw)
  · exact EntryKeptOrDropped.erase (ht ▸ hw) u.Source

/-- `pulseDownApply` adds an entry only where none stands. -/
theorem pulseDownApply_entry (hw : s.stash.lookup src = some w) {u : Update} (w' : Int) :
    EntryKeptOrDropped src w ((pulseDownApply env u w').exec s).2 := by
  rcases h : (pulseDownApply env u w').exec s with ⟨r, t⟩
  obtain ⟨rw, t', hu, rfl | ⟨prev, -, hnone, rfl⟩⟩ := pulseDownApply_cases h
  all_goals
    have ht := (updateBackend_loop env { s with phase := .idle } u.Source.VsID u.Source.RsID w').1
    rw [hu] at ht
    dsimp only at ht
  · exact .inl (ht ▸ hw)
  · have hne : src ≠ u.Source := by
      rintro rfl
      rw [ht, hw] at hnone
      cases hnone
    exact .inl ((AList.lookup_insert_ne hne).trans (ht ▸ hw))

/-- Every step of the daemon's model, of any goroutine, keeps a stash entry as it is or drops it. -/
theorem Action.entry_step (a : Action) (hw : s.stash.lookup src = some w) :
    EntryKeptOrDropped src w (a.step env s) := by
  cases a with
  | deliver u =>
    rcases h : (pulseCheck u).exec s with ⟨r, t⟩
    have ht : (Action.deliver u).step env s = t := by simp only [Action.step, Action.run, h]
    rw [ht]
    obtain rfl | ⟨vs, rs, -, -, -, rfl⟩ := pulseCheck_cases h
    · exact EntryKeptOrDropped.erase hw u.Source
    · exact .inl hw
  | pulse =>
    simp only [Action.step, Action.run]
    cases s.phase with
    | idle => exact .inl hw
    | up u => exact pulseUp_entry hw
    | down u => exact .inl hw
    | downWeighed u w' => exact pulseDownApply_entry hw w'
  | _ => exact .of_loopAt hw (loopAt_step s (fun _ => by simp) (by simp))

theorem entry_kept_along_run (env : Env) (src : PulseID) {s t : Machine} {w : Int}
    (hrun : Relation.ReflTransGen
      (fun t t' => ∃ a : Action, t' = a.step env t ∧ (t'.stash.lookup src).isSome) s t)
    (hw : s.stash.lookup src = some w) : t.stash.lookup src = some w := by
  induction hrun with
  | refl => exact hw
  | tail _ hstep ih =>
    obtain ⟨a, rfl, hsome⟩ := hstep
    rcases a.entry_step ih with h | h
    · exact h
    · rw [h] at hsome
      cases hsome

/-- Along every run of the daemon's model, whatever the goroutines interleave, a stash entry keeps
the weight it was created with for as long as it stands: a later failure never overwrites the
weight an earlier one stashed. The Context's mutators never change the loop's stash or phase. -/
theorem stash_entry_kept (env : Env) (src : PulseID) :
    (∀ {s t : Machine} {w : Int}, Relation.ReflTransGen
        (fun t t' => ∃ a : Action, t' = a.step env t ∧ (t'.stash.lookup src).isSome) s t →
      s.stash.lookup src = some w → t.stash.lookup src = some w) ∧
    ∀ (s : Machine) (a : Action), (∀ u, a ≠ .deliver u) → a ≠ .pulse →
      LoopAt s.stash s.phase (a.step env s) :=
  ⟨entry_kept_along_run env src, fun s _ hd hp => loopAt_step s hd hp⟩

/-- The entry the Down update stashed for `a` outlives `RemoveBackend` of `a`. -/
theorem stash_outlives_removal :
    Relation.ReflTransGen
        (fun t t' => ∃ a : Action, t' = a.step webEnv t ∧ (t'.stash.lookup webSource).isSome)
        afterDown ((Action.removeBackend "web" "a").step webEnv afterDown) ∧
      afterDown.stash.lookup webSource = some 0 ∧
      ((Action.removeBackend "web" "a").step webEnv afterDown).stash.lookup webSource = some 0 ∧
      LoopAt afterDown.stash afterDown.phase ((Action.removeBackend "web" "a").step webEnv afterDown) := by
  have hrun : Relation.ReflTransGen
      (fun t t' => ∃ a : Action, t' = a.step webEnv t ∧ (t'.stash.lookup webSource).isSome)
      afterDown ((Action.removeBackend "web" "a").step webEnv afterDown) :=
    .single ⟨_, rfl, by with_unfolding_all decide⟩
  have hw : afterDown.stash.lookup webSource = some 0 := by with_unfolding_all decide
  exact ⟨hrun, hw, (stash_entry_kept webEnv webSource).1 hrun hw,
    (stash_entry_kept webEnv webSource).2 afterDown _ (fun _ => by simp) (by simp)⟩

end Loop

end Gorb
