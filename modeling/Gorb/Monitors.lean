import Gorb.Compose
import Gorb.Effects

/-!
# One probe per backend

`createBackend` starts the probe of a new backend (`go monitor.Loop`), and `Backend.Cleanup` and
`Service.Cleanup` stop the probes of the backends they take out of the Context. The probes running
are a permutation of the probes of the backends of the Context, with no probe twice
(`MonitorsMatch`): they correspond one to one with the backends, in every state of every run: every
step keeps the match (`MonitorsMatch.step`).

The probes of a map's values are collected by `StrMap.collect`; replacing, adding or removing one
entry changes the collection by that entry's probes (`collect_perm`, `collect_insert`). A fresh
handle is above every handle in use, so a new probe is not one running already.
-/

namespace Gorb

/-- The values of a map, each turned into a list, concatenated in the order of the map. -/
def StrMap.collect {β : Type} (f : β → List Nat) (m : StrMap β) : List Nat :=
  m.entries.flatMap fun e => f e.2

/-- The probes of the backends of a service. -/
def Service.monitors (vs : Service) : List Nat :=
  StrMap.collect (fun rs => [rs.monitor]) vs.backends

/-- The probes of all the backends of the Context. -/
def Context.monitors (ctx : Context) : List Nat :=
  StrMap.collect Service.monitors ctx.services

/-- The probes running correspond one to one with the backends of the Context, and the next fresh
handle is above all of them. -/
structure MonitorsMatch (s : Machine) : Prop where
  perm : s.monitors.Perm s.ctx.monitors
  nodup : s.monitors.Nodup
  fresh : ∀ m ∈ s.monitors, m < s.next

section Collect

variable {β : Type} (f : β → List Nat) {m : StrMap β} {k : String} {v : β}

theorem StrMap.entries_perm (h : m.lookup k = some v) :
    m.entries.Perm (⟨k, v⟩ :: (m.erase k).entries) := by
  have hins : (m.insert k v).entries = ⟨k, v⟩ :: (m.erase k).entries := AList.insert_entries
  rw [← hins]
  refine (List.perm_ext_iff_of_nodup m.nodupKeys.nodup (m.insert k v).nodupKeys.nodup).2 ?_
  rintro ⟨a, b⟩
  rw [← AList.mem_lookup_iff, ← AList.mem_lookup_iff]
  by_cases hak : a = k
  · subst hak
    rw [AList.lookup_insert, h]
  · rw [AList.lookup_insert_ne hak]

theorem collect_perm (h : m.lookup k = some v) :
    (StrMap.collect f m).Perm (f v ++ StrMap.collect f (m.erase k)) :=
  (StrMap.entries_perm h).flatMap_right _

theorem collect_insert (m : StrMap β) (k : String) (v : β) :
    StrMap.collect f (m.insert k v) = f v ++ StrMap.collect f (m.erase k) := by
  simp only [StrMap.collect, AList.insert_entries, List.flatMap_cons]
  rfl

theorem erase_of_lookup_none (h : m.lookup k = none) : m.erase k = m :=
  AList.ext (List.kerase_of_not_mem_keys (AList.lookup_eq_none.1 h))

end Collect

section Step

variable {s t : Machine}

theorem MonitorsMatch.of_kernelOnly (hs : MonitorsMatch s) (ht : t.KernelOnly s) :
    MonitorsMatch t := by
  obtain ⟨hctx, hmon, hnext, -⟩ := ht
  exact ⟨by rw [hctx, hmon]; exact hs.perm, by rw [hmon]; exact hs.nodup,
    by rw [hmon, hnext]; exact hs.fresh⟩

/-- Replacing a service by one with the same probes, up to order, keeps the probes of the
Context. -/
theorem Context.monitors_setService {ctx : Context} {vsID : String} {vs vs' : Service}
    (hvs : ctx.services.lookup vsID = some vs) (h : vs'.monitors.Perm vs.monitors) :
    (Context.monitors { ctx with services := ctx.services.insert vsID vs' }).Perm ctx.monitors := by
  unfold Context.monitors
  rw [collect_insert]
  exact ((h.append_right _).trans (collect_perm _ hvs).symm)

theorem Service.monitors_insert (vs : Service) (rsID : String) (b : Backend) :
    ({ vs with backends := vs.backends.insert rsID b } : Service).monitors =
      b.monitor :: ({ vs with backends := vs.backends.erase rsID } : Service).monitors :=
  collect_insert _ _ _ _

/-- Adding a backend to a service adds its probe to the probes of the Context. -/
theorem Context.monitors_addBackend {ctx : Context} {vsID rsID : String} {vs : Service}
    (hvs : ctx.services.lookup vsID = some vs) (hrs : vs.backends.lookup rsID = none)
    (b : Backend) :
    (Context.monitors { ctx with
      services := ctx.services.insert vsID { vs with backends := vs.backends.insert rsID b } }).Perm
      (b.monitor :: ctx.monitors) := by
  unfold Context.monitors
  rw [collect_insert, Service.monitors_insert, erase_of_lookup_none hrs]
  exact ((collect_perm Service.monitors hvs).symm).cons _

/-- Removing a backend from a service removes its probe from the probes of the Context. -/
theorem Context.monitors_removeBackend {ctx : Context} {vsID rsID : String} {vs : Service}
    {rs : Backend} (hvs : ctx.services.lookup vsID = some vs)
    (hrs : vs.backends.lookup rsID = some rs) :
    (rs.monitor :: Context.monitors { ctx with
      services := ctx.services.insert vsID { vs with backends := vs.backends.erase rsID } }).Perm
      ctx.monitors := by
  unfold Context.monitors
  rw [collect_insert]
  exact (((collect_perm (fun rs => [rs.monitor]) hrs).append_right _).symm).trans
    (collect_perm Service.monitors hvs).symm

/-- Replacing a backend by one with the same probe keeps the probes of its service. -/
theorem Service.monitors_replace {vs : Service} {rsID : String} {rs rs' : Backend}
    (hrs : vs.backends.lookup rsID = some rs) (h : rs'.monitor = rs.monitor) :
    ({ vs with backends := vs.backends.insert rsID rs' } : Service).monitors.Perm vs.monitors := by
  rw [Service.monitors_insert, h]
  exact (collect_perm (fun rs => [rs.monitor]) hrs).symm

/-- `Service.Cleanup` stops the probes of the service's backends. -/
theorem foldl_erase_monitors (vs : Service) (l : List Nat) :
    vs.backends.entries.foldl (fun ms e => ms.erase e.2.monitor) l = l.diff vs.monitors := by
  unfold Service.monitors StrMap.collect
  induction vs.backends.entries generalizing l with
  | nil => rfl
  | cons e es ih => simp [ih, List.diff_cons]

theorem append_diff_self (a b : List Nat) : (a ++ b).diff a = b := by
  induction a with
  | nil => rfl
  | cons x a ih => simp [List.diff_cons, ih]

end Step

section Run

variable {env : Env}

theorem MonitorsMatch.addProbe {s : Machine} (hs : MonitorsMatch s) :
    (s.next :: s.monitors).Nodup ∧ ∀ m ∈ s.next :: s.monitors, m < s.next + 1 := by
  refine ⟨List.nodup_cons.2 ⟨fun hm => lt_irrefl _ (hs.fresh _ hm), hs.nodup⟩, fun m hm => ?_⟩
  rcases List.mem_cons.1 hm with rfl | hm
  · omega
  · have := hs.fresh m hm
    omega

theorem keeps_monitors_createBackend (env : Env) (vsID rsID : String) (opts : BackendOptions) :
    Keeps MonitorsMatch (createBackend env vsID rsID opts) fun _ => True :=
  Keeps.of_cases fun s _ _ h hs => by
    obtain ⟨-, ⟨-, hk, -⟩ | ⟨-, hk, -⟩ | ⟨-, vs, -, o, -, t, hvs, hrs, -, -, -, -, hk, -, rfl⟩⟩ :=
      createBackend_cases h
    · exact hs.of_kernelOnly hk
    · exact hs.of_kernelOnly hk
    · obtain ⟨hnodup, hfresh⟩ := hs.addProbe
      exact ⟨(hs.perm.cons _).trans (Context.monitors_addBackend hvs hrs ⟨o, s.next, .zero⟩).symm,
        hnodup, hfresh⟩

theorem keeps_monitors_removeBackend (env : Env) (vsID rsID : String) :
    Keeps MonitorsMatch (removeBackend env vsID rsID) fun _ => True :=
  Keeps.of_cases fun s _ _ h hs => by
    obtain ⟨-, rfl⟩ | ⟨vs, rs, hvs, hrs, ⟨-, -, rfl⟩ | ⟨-, -, rfl⟩⟩ := removeBackend_cases h
    · exact hs
    · exact hs.of_kernelOnly (.issue _ _ _)
    · refine ⟨?_, hs.nodup.erase _, fun m hm => hs.fresh m (List.mem_of_mem_erase hm)⟩
      have := (hs.perm.trans (Context.monitors_removeBackend hvs hrs).symm).erase rs.monitor
      simpa using this

theorem keeps_monitors_removeService (env : Env) (vsID : String) :
    Keeps MonitorsMatch (removeService env vsID) fun _ => True :=
  Keeps.of_cases fun s _ _ h hs => by
    obtain ⟨-, rfl⟩ | ⟨vs, hvs, ⟨-, -, rfl⟩ | ⟨-, -, rfl⟩⟩ := removeService_cases h
    · exact hs
    · exact ⟨by simpa using hs.perm, by simpa using hs.nodup, by simpa using hs.fresh⟩
    · simp only [foldl_erase_monitors]
      refine ⟨?_, hs.nodup.diff, fun m hm => by simpa using hs.fresh m (List.diff_subset _ _ hm)⟩
      have := (hs.perm.trans (collect_perm Service.monitors hvs)).diff_right vs.monitors
      rw [append_diff_self] at this
      simpa [Context.monitors] using this

theorem keeps_monitors_registerService (env : Env) (vsID : String) (cfg : ServiceConfig) :
    Keeps MonitorsMatch (registerService env vsID cfg) fun _ => True :=
  Keeps.of_cases fun s _ _ h hs => by
    obtain ⟨hmon, -, -, -, ⟨-, hctx, hnext, -⟩ |
        ⟨-, o, o', t, -, hvs, -, -, htn, htm, -, -, -, rfl⟩⟩ := registerService_cases h
    · exact ⟨by rw [hmon, hctx]; exact hs.perm, by rw [hmon]; exact hs.nodup,
        by rw [hmon, hnext]; exact hs.fresh⟩
    · refine ⟨?_, by rw [htm]; exact hs.nodup, fun m hm => ?_⟩
      · have hc : Context.monitors (s.setService vsID
            { vsID := vsID, options := o', svc := serviceSvc o',
              backends := ∅, ref := s.next }).ctx = s.ctx.monitors := by
          simp only [Machine.setService, Context.monitors, collect_insert, erase_of_lookup_none hvs]
          rfl
        rw [hc, htm]
        exact hs.perm
      · rw [htm] at hm
        have := hs.fresh m hm
        show m < s.next + 1
        omega

theorem monitors_of_updateBackend {vsID rsID : String} {w : Int} {s s' : Machine}
    {r : Except Err Int} (h : (updateBackend env vsID rsID w).exec s = (r, s'))
    (hs : MonitorsMatch s) : MonitorsMatch s' := by
  obtain ⟨-, rfl⟩ | ⟨vs, rs, hvs, hrs, ⟨-, -, rfl⟩ | ⟨-, -, rfl⟩⟩ := updateBackend_cases h
  · exact hs
  · exact hs.of_kernelOnly (.issue _ _ _)
  · exact ⟨hs.perm.trans (Context.monitors_setService hvs (Service.monitors_replace hrs rfl)).symm,
      hs.nodup, hs.fresh⟩

/-- A machine with only the notification loop's stash or phase changed keeps the match. -/
theorem MonitorsMatch.loop {s : Machine} (hs : MonitorsMatch s)
    (stash : AList fun _ : PulseID => Int) (phase : Phase) :
    MonitorsMatch { s with stash := stash, phase := phase } :=
  ⟨hs.perm, hs.nodup, hs.fresh⟩

theorem monitors_of_pulseStep {s : Machine} (hs : MonitorsMatch s) (p : Phase) :
    MonitorsMatch ((pulseStep env p).exec s).2 := by
  rcases hr : (pulseStep env p).exec s with ⟨r, s'⟩
  cases p with
  | idle => cases hr; exact hs
  | up u =>
    rcases pulseUp_cases hr with ⟨-, rfl⟩ | ⟨_, _, t, -, hu, rfl | ⟨-, -, rfl⟩⟩
    · exact hs.loop _ _
    · exact monitors_of_updateBackend hu (hs.loop _ _)
    · exact (monitors_of_updateBackend hu (hs.loop _ _)).loop _ _
  | down u =>
    simp only [pulseStep, pulseDownWeight_exec, Prod.mk.injEq] at hr
    rw [← hr.2]
    exact hs.loop _ _
  | downWeighed u w =>
    obtain ⟨_, t, hu, rfl | ⟨_, -, -, rfl⟩⟩ := pulseDownApply_cases hr
    · exact monitors_of_updateBackend hu (hs.loop _ _)
    · exact (monitors_of_updateBackend hu (hs.loop _ _)).loop _ _

theorem monitors_of_pulseCheck {s : Machine} (hs : MonitorsMatch s) (u : Update) :
    MonitorsMatch ((pulseCheck u).exec s).2 := by
  rcases hr : (pulseCheck u).exec s with ⟨r, s'⟩
  obtain rfl | ⟨vs, rs, hvs, hrs, -, rfl⟩ := pulseCheck_cases hr
  · exact hs.loop _ _
  · exact ⟨hs.perm.trans (Context.monitors_setService hvs (Service.monitors_replace hrs rfl)).symm,
      hs.nodup, hs.fresh⟩

theorem MonitorsMatch.step {s : Machine} (hs : MonitorsMatch s) (a : Action) :
    MonitorsMatch (a.step env s) := by
  have hcb := fun vsID rsID opts (_ : True) => keeps_monitors_createBackend env vsID rsID opts
  have hrb := keeps_monitors_removeBackend env
  have hrs := keeps_monitors_removeService env
  have hreg := fun vsID cfg (_ : True) => keeps_monitors_registerService env vsID cfg
  have hPS : ∀ (vsID : String) (cfg : ServiceConfig), True →
      ∀ e ∈ cfg.ServiceBackends.entries, True := fun _ _ _ _ _ => trivial
  cases a with
  | createService vsID cfg =>
    exact (keeps_createService (hcb vsID) (hreg vsID) (hPS vsID) trivial s hs).1
  | createBackend vsID rsID opts => exact (keeps_monitors_createBackend env vsID rsID opts s hs).1
  | removeService vsID => exact ((hrs vsID).discard s hs).1
  | removeBackend vsID rsID => exact ((hrb vsID rsID).discard s hs).1
  | synchronize order d =>
    exact (keeps_synchronize hPS hcb hrb hrs hreg (fun _ _ => trivial) s hs).1
  | close order => exact (keeps_close hrs s hs).1
  | deliver u => exact monitors_of_pulseCheck hs u
  | pulse => exact monitors_of_pulseStep hs s.phase

/-- Every call accepted, every name resolving to an IPv4 address of its own text. -/
def webEnv : Env := .accepting fun host => some ⟨host, .inet⟩

/-- A service `web` on 10.0.0.1:80 with every other option left to `Validate`. -/
def webService : ServiceConfig :=
  { ServiceOptions := { Host := "10.0.0.1", Port := 80 }, ServiceBackends := ∅ }

/-- A backend `a` of `web` on 10.0.0.2:8080. -/
def webBackend : BackendOptions :=
  { Host := "10.0.0.2", Port := 8080 }

/-- The daemon after `CreateService` of `web` and `CreateBackend` of `a`. -/
def firstBackend : Machine :=
  (Action.createBackend "web" "a" webBackend).step webEnv
    ((Action.createService "web" webService).step webEnv (Machine.init none none []))

theorem reachable_firstBackend : Reachable webEnv firstBackend :=
  .step _ (.step _ (.init _ _ _) ⟨rfl, fun _ _ h => nomatch h⟩ trivial) ⟨rfl, rfl⟩ trivial

theorem monitors_one_to_one (env : Env) (s : Machine) (h : Reachable env s) :
    s.monitors.Nodup ∧ s.monitors.Perm s.ctx.monitors := by
  have hm : MonitorsMatch s := ReachableWith.induct_on
    (fun _ _ _ => ⟨List.Perm.nil, List.nodup_nil, fun _ hm => absurd hm (List.not_mem_nil _)⟩)
    (fun s a hs _ _ => hs.step a) h
  exact ⟨hm.nodup, hm.perm⟩

theorem first_backend_monitors :
    firstBackend.monitors.length = 1 ∧ firstBackend.monitors.Nodup ∧
      firstBackend.monitors.Perm firstBackend.ctx.monitors :=
  ⟨by decide, monitors_one_to_one webEnv firstBackend reachable_firstBackend⟩

end Run

end Gorb
