import Gorb.Diff

/-!
# The health of a service and the fallback rule

`CalcServiceStat` counts the backends of a service as `uint16(len(vs.backends))`. Below 65536
backends it lists each backend once and takes the mean of their healths; at every multiple of 65536
the count is 0, and the service is reported with no backend and health 0 however healthy its
backends are (`calcServiceStat_reports`).

A `StatusDown` update programs its backend with weight 1 when the service's health is 0 and
`fallbackFlags` maps the service's `Fallback` to `ZeroToOne`, and with weight 0 otherwise
(`processPulseUpdate_down`). `Validate` checks the `Fallback` token by token, while the rule looks
the whole string up: `fb-zero-to-one|fb-zero-to-one` passes `Validate`, and its service gets
weight 0 when all its backends are down.
-/

namespace Gorb

/-! ### The statistics of a service -/

section Stat

variable (vs : Service)

theorem toNat_toUInt16 (n : Nat) : n.toUInt16.toNat = n % 65536 := by
  simp [Nat.toUInt16, UInt16.toNat, UInt16.ofNat]

theorem calcServiceStat_count :
    vs.calcServiceStat.BackendsCount.toNat = vs.backends.entries.length % 65536 := by
  simp only [Service.calcServiceStat]
  split <;> exact toNat_toUInt16 _

/-- What `CalcServiceStat` reports of a service with `n` backends: `uint16(n)` as the count; when
that is not 0, every backend once and the mean health over it; when it is 0, nothing. -/
theorem calcServiceStat_reports :
    vs.calcServiceStat.BackendsCount.toNat = vs.backends.entries.length % 65536 ∧
      (vs.backends.entries.length % 65536 ≠ 0 →
        vs.calcServiceStat.Backends.Nodup ∧
        (∀ rsID, rsID ∈ vs.calcServiceStat.Backends ↔ rsID ∈ vs.backends) ∧
        vs.calcServiceStat.Health = (vs.backends.entries.map (·.2.metrics.Health)).sum /
          ((vs.backends.entries.length % 65536 : ℕ) : ℚ)) ∧
      (vs.backends.entries.length % 65536 = 0 →
        vs.calcServiceStat.Backends = [] ∧ vs.calcServiceStat.Health = 0) := by
  have hcount := toNat_toUInt16 vs.backends.entries.length
  refine ⟨calcServiceStat_count vs, fun hn => ?_, fun hn => ?_⟩
  · have hne : vs.backends.entries.length.toUInt16 ≠ 0 := fun h0 => hn (by rw [← hcount, h0]; rfl)
    simp only [Service.calcServiceStat, if_pos hne]
    exact ⟨vs.backends.nodupKeys, fun _ => AList.mem_keys, by rw [hcount]⟩
  · have h0 : vs.backends.entries.length.toUInt16 = 0 := UInt16.toNat.inj (by rw [hcount, hn]; rfl)
    simp [Service.calcServiceStat, h0]

end Stat

/-- A name for each `i`: `i` letters `b`. -/
def crowdedName (i : Nat) : String :=
  ⟨List.replicate i 'b'⟩

theorem crowdedName_injective : Function.Injective crowdedName :=
  fun _ _ h => List.replicate_left_injective 'b' (congrArg String.data h)

/-- A backend of `web` that its probe reports fully healthy. -/
def healthyBackend : Backend :=
  { options := webBackend, monitor := 0, metrics := ⟨.up, 1⟩ }

/-- `n` healthy backends. -/
def crowdedBackends (n : Nat) : StrMap Backend :=
  ⟨(List.range n).map fun i => ⟨crowdedName i, healthyBackend⟩, by
    simpa [List.NodupKeys, List.keys, Function.comp_def] using
      (List.nodup_range n).map crowdedName_injective⟩

theorem crowdedBackends_length (n : Nat) : (crowdedBackends n).entries.length = n := by
  simp [crowdedBackends]

theorem crowdedBackends_healthy {n : Nat} {rsID : String} {rs : Backend}
    (h : (crowdedBackends n).lookup rsID = some rs) : rs = healthyBackend := by
  obtain ⟨i, -, hi⟩ := List.mem_map.1 (AList.mem_lookup_iff.1 h)
  cases hi
  rfl

/-- The service `web` with 65536 healthy backends. -/
def crowded : Service :=
  { vsID := "web", options := webOptions, svc := serviceSvc webOptions,
    backends := crowdedBackends 65536, ref := 0 }

/-- With 65536 healthy backends, `uint16(len(vs.backends))` is 0: the count is 0, no backend is
listed and the health is 0. -/
theorem crowded_service_reports_nothing :
    crowded.backends.entries.length = 65536 ∧
      (∀ rsID rs, crowded.backends.lookup rsID = some rs → rs.metrics.Health = 1) ∧
      crowded.calcServiceStat.BackendsCount = 0 ∧ crowded.calcServiceStat.Backends = [] ∧
      crowded.calcServiceStat.Health = 0 := by
  have hlen : crowded.backends.entries.length = 65536 := crowdedBackends_length _
  obtain ⟨hcount, -, hzero⟩ := calcServiceStat_reports crowded
  rw [hlen] at hcount hzero
  refine ⟨hlen, fun rsID rs h => ?_, UInt16.toNat.inj (by rw [hcount]; rfl), (hzero rfl).1,
    (hzero rfl).2⟩
  rw [crowdedBackends_healthy h]
  rfl

/-! ### The fallback rule of a `StatusDown` update -/

/-- The service once the metrics of its backend `rsID`, object `rs`, are replaced by `m`, as the
locked check of `processPulseUpdate` does. -/
def Service.withMetrics (vs : Service) (rsID : String) (rs : Backend) (m : Metrics) : Service :=
  { vs with backends := vs.backends.insert rsID { rs with metrics := m } }

theorem calcServiceStat_fallBack (vs : Service) :
    vs.calcServiceStat.FallBack = vs.options.Fallback := by
  simp only [Service.calcServiceStat]
  split <;> rfl

/-- The weight a `StatusDown` update leaves a backend of `vs` with once `GetService` read it:
`ZeroToOne` when its service's health is 0 and `fallbackFlags` maps its `Fallback` to
`ZeroToOne`, else 0. -/
theorem downWeight_setService (ctx : Context) (vsID : String) (vs : Service) :
    ({ ctx with services := ctx.services.insert vsID vs } : Context).downWeight vsID =
      if vs.calcServiceStat.Health = 0 ∧ fallbackFlag vs.options.Fallback = ZeroToOne then 1
      else 0 := by
  simp only [Context.downWeight, Context.getService, AList.lookup_insert, calcServiceStat_fallBack]

theorem updateBackend_exec {env : Env} {s : Machine} {vsID rsID : String} {vs : Service}
    {rs : Backend} (hvs : s.ctx.services.lookup vsID = some vs)
    (hrs : vs.backends.lookup rsID = some rs) (hok : env.ipvs s.clock = true) (w : Int) :
    (updateBackend env vsID rsID w).exec s =
      (.ok rs.options.weight,
        (s.issue env vs.options.MaxWeight (updateBackendCall vs rs w)).setService vsID
          { vs with
            backends := vs.backends.insert rsID
              { rs with options := { rs.options with weight := w } } }) := by
  simp only [updateBackend, exec_bind, exec_get, hvs, hrs, ipvsCall_exec, hok, if_true, exec_modify,
    exec_pure]
  rfl

end Gorb
