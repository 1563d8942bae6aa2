import Gorb.Drivers

/-!
# Service and backend options

`options.go`: the options a service or a backend is created with, how `Validate` fills the
missing ones and resolves the hosts, and how the reconciler compares them with the store's.

The exported fields are those the REST and store documents carry; the lower-case ones are derived
by `Validate` or kept by the runtime. Decoding a document leaves the lower-case ones at their zero
values, and no caller outside the package can set them (`Decoded`).
-/

namespace Gorb

/-- The errors of the core: those of `options.go` and `context.go`, the one `net.ResolveIPAddr`
returns and the one `pulse.New` returns. `fmt.Errorf("%w vsID: %s", ...)` wraps a base error with a
detail, which is `""` for the bare one. -/
inductive Err
  | missingEndpoint
  | unknownMethod
  | unknownProtocol
  | unknownFlag
  | unknownFallbackFlag
  | resolve (host : String)
  | ipvsSyscallFailed
  | objectExists (detail : String)
  | objectNotFound (detail : String)
  | incompatibleAFs
  | pulse
  deriving DecidableEq, Repr

def split (s : String) (sep : Char) : List String :=
  (s.data.splitOn sep).map String.mk

def IPPROTO_TCP : Nat := 6
def IPPROTO_UDP : Nat := 17

-- Modelled from the spec: the kernel's forwarding codes, `gnl2go.IPVS_*`, are not in the source.
def IPVS_MASQUERADING : Nat := 0
def IPVS_TUNNELING : Nat := 2
def IPVS_DIRECTROUTE : Nat := 3

/-- `schedulerFlags`. The bit values of the `gnl2go` constants are not in the source: they are the
kernel's `IP_VS_SVC_F_SCHED1..3`, of which the two `sh` flags are the first two. -/
def schedulerFlags : List (String × Nat) :=
  [("sh-fallback", 8), ("sh-port", 16), ("flag-1", 8), ("flag-2", 16), ("flag-3", 32)]

/-- The fallbacks: `Default` gives a failed backend weight 0, and `ZeroToOne` gives it weight 1
when its whole service is down. -/
def Default : Int := 0
def ZeroToOne : Int := 1

def fallbackFlags : List (String × Int) :=
  [("fb-default", Default), ("fb-zero-to-one", ZeroToOne)]

structure ServiceOptions where
  Host : String := ""
  Port : UInt16 := 0
  Protocol : String := ""
  LbMethod : String := ""
  ShFlags : String := ""
  Persistent : Bool := false
  Fallback : String := ""
  FwdMethod : String := ""
  Pulse : Option PulseOptions := none
  MaxWeight : Int := 0
  host : Option IP := none
  delIfAddr : Bool := false
  protocol : Nat := 0
  methodID : Nat := 0
  deriving DecidableEq, Repr

namespace ServiceOptions

/-- As decoded from a document, and possibly validated since: the lower-case field `Validate`
does not derive holds its zero value. -/
def Decoded (o : ServiceOptions) : Prop :=
  o.delIfAddr = false

/-- `Validate` works on the options through a pointer and returns Go's error. -/
abbrev ValidateM := ExceptT Err (StateM ServiceOptions)

def ValidateM.exec {α : Type} (m : ValidateM α) (o : ServiceOptions) :
    Except Err α × ServiceOptions :=
  m.run.run o

namespace ValidateM

variable {α β : Type} (o : ServiceOptions)

@[simp] theorem exec_bind (m : ValidateM α) (f : α → ValidateM β) :
    (m >>= f).exec o = match m.exec o with
      | (.ok a, o') => (f a).exec o'
      | (.error e, o') => (.error e, o') := by
  simp only [ValidateM.exec, ExceptT.run_bind, StateT.run_bind]
  rcases StateT.run (ExceptT.run m) o with ⟨r, o'⟩
  cases r <;> rfl

@[simp] theorem exec_pure (a : α) : (pure a : ValidateM α).exec o = (.ok a, o) := rfl
@[simp] theorem exec_get : (get : ValidateM ServiceOptions).exec o = (.ok o, o) := rfl
@[simp] theorem exec_set (o' : ServiceOptions) :
    (set o' : ValidateM PUnit).exec o = (.ok ⟨⟩, o') := rfl
@[simp] theorem exec_modify (f : ServiceOptions → ServiceOptions) :
    (modify f : ValidateM PUnit).exec o = (.ok ⟨⟩, f o) := rfl
@[simp] theorem exec_throw (e : Err) : (throw e : ValidateM α).exec o = (.error e, o) := rfl

end ValidateM

def validateEndpoint (defaultHost : Option IP) (resolve : String → Option IP) :
    ValidateM Unit := do
  let o ← get
  if o.Port = 0 then throw .missingEndpoint
  if o.Host.length ≠ 0 then
    match resolve o.Host with
    | some ip => set { o with host := some ip }
    | none => throw (.resolve o.Host)
  else
    match defaultHost with
    | some ip => set { o with host := some ip }
    | none => throw .missingEndpoint

def validateProtocol (cm : CaseMap) : ValidateM Unit := do
  if (← get).Protocol.length = 0 then modify fun o => { o with Protocol := "tcp" }
  modify fun o => { o with Protocol := toLower cm o.Protocol }
  match (← get).Protocol with
  | "tcp" => modify fun o => { o with protocol := IPPROTO_TCP }
  | "udp" => modify fun o => { o with protocol := IPPROTO_UDP }
  | _ => throw .unknownProtocol

/-- The scheduler and fallback flags; the loops of `options.go` return at the first unknown
token. A missing fallback is `fb-default`. -/
def validateFlags : ValidateM Unit := do
  let o ← get
  if o.ShFlags ≠ "" then
    unless (split o.ShFlags '|').all (fun f => (schedulerFlags.lookup f).isSome) do
      throw .unknownFlag
  if o.Fallback ≠ "" then
    unless (split o.Fallback '|').all (fun f => (fallbackFlags.lookup f).isSome) do
      throw .unknownFallbackFlag
  else
    modify fun o => { o with Fallback := "fb-default" }

def validateMethod (cm : CaseMap) : ValidateM Unit := do
  if (← get).FwdMethod.length = 0 then modify fun o => { o with FwdMethod := "nat" }
  modify fun o => { o with FwdMethod := toLower cm o.FwdMethod }
  match (← get).FwdMethod with
  | "dr" => modify fun o => { o with methodID := IPVS_DIRECTROUTE }
  | "nat" => modify fun o => { o with methodID := IPVS_MASQUERADING }
  | "tunnel" => modify fun o => { o with methodID := IPVS_TUNNELING }
  | "ipip" => modify fun o => { o with methodID := IPVS_TUNNELING }
  | _ => throw .unknownMethod
  if (← get).Pulse.isNone then modify fun o => { o with Pulse := some default }

/-- `ServiceOptions.Validate`: fills the missing fields and checks the others, in the order of
`options.go`. The fields set before an error stay set, as they do on the Go pointer. -/
def validate (defaultHost : Option IP) (resolve : String → Option IP) (cm : CaseMap) :
    ValidateM Unit := do
  validateEndpoint defaultHost resolve
  validateProtocol cm
  validateFlags
  if (← get).LbMethod.length = 0 then modify fun o => { o with LbMethod := "wrr" }
  if (← get).MaxWeight ≤ 0 then modify fun o => { o with MaxWeight := 100 }
  validateMethod cm

def runValidate (o : ServiceOptions) (defaultHost : Option IP) (resolve : String → Option IP)
    (cm : CaseMap) : Except Err Unit × ServiceOptions :=
  (validate defaultHost resolve cm).exec o

theorem validateFlags_frame (o : ServiceOptions) :
    ∃ fb, (validateFlags.exec o).2 = { o with Fallback := fb } := by
  simp only [validateFlags, ValidateM.exec_bind, ValidateM.exec_get]
  repeat' split
  all_goals simp only [ValidateM.exec_modify, ValidateM.exec_throw, ValidateM.exec_pure,
    ValidateM.exec_bind]
  all_goals exact ⟨_, rfl⟩

theorem validateMethod_frame (cm : CaseMap) (o : ServiceOptions) :
    ∃ f m p, ((validateMethod cm).exec o).2 = { o with FwdMethod := f, methodID := m, Pulse := p } := by
  simp only [validateMethod, ValidateM.exec_bind, ValidateM.exec_get]
  split <;> simp only [ValidateM.exec_bind, ValidateM.exec_modify, ValidateM.exec_get,
    ValidateM.exec_pure] <;> split <;> simp only [ValidateM.exec_bind, ValidateM.exec_modify,
    ValidateM.exec_get, ValidateM.exec_throw] <;> (try split) <;> exact ⟨_, _, _, rfl⟩

theorem validateEndpoint_frame {d : Option IP} {r : String → Option IP}
    (o : ServiceOptions) :
    ∃ h, ((validateEndpoint d r).exec o).2 = { o with host := h } := by
  simp only [validateEndpoint, ValidateM.exec_bind, ValidateM.exec_get]
  repeat' split
  all_goals simp only [ValidateM.exec_throw, ValidateM.exec_set, ValidateM.exec_pure,
    ValidateM.exec_bind]
  all_goals exact ⟨_, rfl⟩

theorem validateProtocol_frame (cm : CaseMap) (o : ServiceOptions) :
    ∃ p n, ((validateProtocol cm).exec o).2 = { o with Protocol := p, protocol := n } := by
  simp only [validateProtocol, ValidateM.exec_bind, ValidateM.exec_get]
  split <;> simp only [ValidateM.exec_bind, ValidateM.exec_modify, ValidateM.exec_get,
    ValidateM.exec_pure] <;> split <;> simp only [ValidateM.exec_modify, ValidateM.exec_throw]
  all_goals exact ⟨_, _, rfl⟩

theorem validateProtocol_ok {cm : CaseMap} {o o' : ServiceOptions}
    (h : (validateProtocol cm).exec o = (.ok (), o')) :
    o'.Protocol = "tcp" ∨ o'.Protocol = "udp" := by
  simp only [validateProtocol, ValidateM.exec_bind, ValidateM.exec_get] at h
  split at h <;> simp only [ValidateM.exec_bind, ValidateM.exec_modify, ValidateM.exec_get,
    ValidateM.exec_pure] at h <;> split at h
  all_goals simp only [ValidateM.exec_modify, ValidateM.exec_throw, Prod.mk.injEq, reduceCtorEq,
    false_and] at h
  all_goals obtain ⟨-, rfl⟩ := h
  all_goals simp_all

/-- What a validation that succeeds leaves: the options as `validateProtocol` left them, with
`tcp` or `udp`, and then the fallback, the scheduler, a positive `MaxWeight` and the method set. -/
theorem runValidate_ok {o : ServiceOptions} {d : Option IP} {r : String → Option IP}
    {cm : CaseMap}
    (h : (o.runValidate d r cm).1 = .ok ()) :
    ∃ (o₂ : ServiceOptions) (fb lb : String) (mw : Int) (f : String) (m : Nat)
      (p : Option PulseOptions), (o₂.Protocol = "tcp" ∨ o₂.Protocol = "udp") ∧ 1 ≤ mw ∧
      (o.runValidate d r cm).2 =
        { o₂ with Fallback := fb, LbMethod := lb, MaxWeight := mw, FwdMethod := f, methodID := m,
                  Pulse := p } := by
  simp only [runValidate, validate, ValidateM.exec_bind] at h ⊢
  rcases h₁ : (validateEndpoint d r).exec o with ⟨_ | _, o₁⟩ <;> simp only [h₁] at h ⊢
  · cases h
  rcases h₂ : (validateProtocol cm).exec o₁ with ⟨_ | _, o₂⟩ <;> simp only [h₂] at h ⊢
  · cases h
  obtain ⟨fb, h₃⟩ := validateFlags_frame o₂
  rcases h₃' : validateFlags.exec o₂ with ⟨_ | _, o₃⟩ <;> simp only [h₃'] at h ⊢
  · cases h
  rw [h₃'] at h₃
  subst h₃
  simp only [ValidateM.exec_get]
  split <;> simp only [ValidateM.exec_bind, ValidateM.exec_modify, ValidateM.exec_pure,
    ValidateM.exec_get] <;> split <;> simp only [ValidateM.exec_bind, ValidateM.exec_modify,
    ValidateM.exec_pure] <;> obtain ⟨f, m, p, hm⟩ := validateMethod_frame cm _ <;> rw [hm] <;>
    exact ⟨o₂, _, _, _, f, m, p, validateProtocol_ok h₂, by dsimp only; omega, rfl⟩

theorem runValidate_maxWeight {o : ServiceOptions} {d : Option IP} {r : String → Option IP}
    {cm : CaseMap}
    (h : (o.runValidate d r cm).1 = .ok ()) : 1 ≤ (o.runValidate d r cm).2.MaxWeight := by
  obtain ⟨_, _, _, _, _, _, _, -, hmw, heq⟩ := runValidate_ok h
  rw [heq]
  exact hmw

theorem runValidate_protocol {o : ServiceOptions} {d : Option IP} {r : String → Option IP}
    {cm : CaseMap}
    (h : (o.runValidate d r cm).1 = .ok ()) :
    (o.runValidate d r cm).2.Protocol = "tcp" ∨ (o.runValidate d r cm).2.Protocol = "udp" := by
  obtain ⟨_, _, _, _, _, _, _, hp, -, heq⟩ := runValidate_ok h
  rw [heq]
  exact hp

theorem runValidate_no_host {o : ServiceOptions} (h : o.Host.length = 0)
    (r : String → Option IP) (cm : CaseMap) :
    o.runValidate none r cm = (.error .missingEndpoint, o) := by
  have hend : (validateEndpoint none r).exec o = (.error .missingEndpoint, o) := by
    simp only [validateEndpoint, ValidateM.exec_bind, ValidateM.exec_get]
    split <;> simp [h]
  simp only [runValidate, validate, ValidateM.exec_bind, hend]

def compareStoreOptions (o options : ServiceOptions) : Bool :=
  o.Host == options.Host && o.Port == options.Port && o.Protocol == options.Protocol &&
    o.ShFlags == options.ShFlags && o.LbMethod == options.LbMethod &&
    o.Persistent == options.Persistent && o.Fallback == options.Fallback &&
    o.FwdMethod == options.FwdMethod && o.MaxWeight == options.MaxWeight

/-! ### The normal form `Validate` leaves -/

section Normal

variable {d : Option IP} {r : String → Option IP} {cm : CaseMap}

/-- Options in the form a successful `Validate` leaves the fields `CompareStoreOptions` reads: a
known protocol and forwarding method, in lower case, a scheduler, a fallback and a positive
maximum weight. -/
def Normal (o : ServiceOptions) : Prop :=
  (o.Protocol = "tcp" ∨ o.Protocol = "udp") ∧ o.LbMethod.length ≠ 0 ∧ o.Fallback ≠ "" ∧
    0 < o.MaxWeight ∧ o.FwdMethod ∈ ["dr", "nat", "tunnel", "ipip"]

instance (o : ServiceOptions) : Decidable o.Normal :=
  inferInstanceAs (Decidable ((o.Protocol = "tcp" ∨ o.Protocol = "udp") ∧ o.LbMethod.length ≠ 0 ∧
    o.Fallback ≠ "" ∧ 0 < o.MaxWeight ∧ o.FwdMethod ∈ ["dr", "nat", "tunnel", "ipip"]))

theorem validateProtocol_known {o : ServiceOptions} (h : o.Protocol = "tcp" ∨ o.Protocol = "udp") :
    ∃ n, (validateProtocol cm).exec o = (.ok (), { o with protocol := n }) := by
  cases o
  rcases h with rfl | rfl <;>
  · simp only [validateProtocol, ValidateM.exec_bind, ValidateM.exec_get, ValidateM.exec_modify,
      if_neg (by decide : ¬ "tcp".length = 0), if_neg (by decide : ¬ "udp".length = 0),
      ValidateM.exec_pure,
      toLower_of_ascii cm (by decide : ∀ c ∈ "tcp".data, c.toNat < 128 ∧ c.toLower = c),
      toLower_of_ascii cm (by decide : ∀ c ∈ "udp".data, c.toNat < 128 ∧ c.toLower = c)]
    exact ⟨_, rfl⟩

theorem validateFlags_keeps {o : ServiceOptions} (h : o.Fallback ≠ "") :
    ∃ e, validateFlags.exec o = (e, o) := by
  simp only [validateFlags, ValidateM.exec_bind, ValidateM.exec_get, if_pos h]
  repeat' split
  all_goals simp only [ValidateM.exec_throw, ValidateM.exec_pure, ValidateM.exec_bind]
  all_goals exact ⟨_, rfl⟩

theorem validateMethod_known {o : ServiceOptions}
    (h : o.FwdMethod ∈ ["dr", "nat", "tunnel", "ipip"]) :
    ∃ m p, (validateMethod cm).exec o = (.ok (), { o with methodID := m, Pulse := p }) := by
  simp only [List.mem_cons, List.mem_singleton, List.not_mem_nil, or_false] at h
  rcases o with ⟨_, _, _, _, _, _, _, _, _ | _, _⟩ <;>
    rcases h with rfl | rfl | rfl | rfl <;>
  · simp only [validateMethod, ValidateM.exec_bind, ValidateM.exec_get, ValidateM.exec_modify,
      if_neg (by decide : ¬ "dr".length = 0), if_neg (by decide : ¬ "nat".length = 0),
      if_neg (by decide : ¬ "tunnel".length = 0), if_neg (by decide : ¬ "ipip".length = 0),
      ValidateM.exec_pure,
      toLower_of_ascii cm (by decide : ∀ c ∈ "dr".data, c.toNat < 128 ∧ c.toLower = c),
      toLower_of_ascii cm (by decide : ∀ c ∈ "nat".data, c.toNat < 128 ∧ c.toLower = c),
      toLower_of_ascii cm (by decide : ∀ c ∈ "tunnel".data, c.toNat < 128 ∧ c.toLower = c),
      toLower_of_ascii cm (by decide : ∀ c ∈ "ipip".data, c.toNat < 128 ∧ c.toLower = c)]
    exact ⟨_, _, rfl⟩

/-- A `Validate` of options in normal form that succeeds sets only the fields it derives: the
resolved host and the codes of the protocol and of the method, and the pulse options. -/
theorem runValidate_of_normal {o : ServiceOptions} (hn : o.Normal)
    (h : (o.runValidate d r cm).1 = .ok ()) :
    ∃ ip n m p, (o.runValidate d r cm).2 =
      { o with host := ip, protocol := n, methodID := m, Pulse := p } := by
  obtain ⟨hp, hlb, hfb, hmw, hfw⟩ := hn
  simp only [runValidate, validate, ValidateM.exec_bind] at h ⊢
  obtain ⟨ip, e₁⟩ := validateEndpoint_frame (d := d) (r := r) o
  rcases hx : (validateEndpoint d r).exec o with ⟨_ | _, o₁⟩ <;> rw [hx] at e₁ <;>
    simp only [hx] at h ⊢
  · cases h
  subst e₁
  obtain ⟨n, e₂⟩ := @validateProtocol_known cm { o with host := ip } hp
  dsimp only at e₂
  obtain ⟨_ | _, e₃⟩ := validateFlags_keeps (o := { o with host := ip, protocol := n }) hfb
  · simp only [e₂, e₃, reduceCtorEq] at h
  obtain ⟨m, q, e₄⟩ := @validateMethod_known cm { o with host := ip, protocol := n } hfw
  simp only [e₂, e₃, ValidateM.exec_bind, ValidateM.exec_get, hlb, if_false, not_le.2 hmw,
    ValidateM.exec_pure, e₄]
  exact ⟨ip, n, m, q, rfl⟩

/-- Options in normal form agree, as `CompareStoreOptions` compares them, with what a successful
`Validate` makes of them. -/
theorem compareStoreOptions_runValidate {o : ServiceOptions} (hn : o.Normal)
    (h : (o.runValidate d r cm).1 = .ok ()) : (o.runValidate d r cm).2.compareStoreOptions o = true := by
  obtain ⟨ip, n, m, p, e⟩ := runValidate_of_normal hn h
  simp [e, compareStoreOptions]

theorem validateFlags_fallback {o o' : ServiceOptions} (h : validateFlags.exec o = (.ok (), o')) :
    o'.Fallback ≠ "" := by
  simp only [validateFlags, ValidateM.exec_bind, ValidateM.exec_get] at h
  repeat' split at h
  all_goals simp only [ValidateM.exec_throw, ValidateM.exec_modify, ValidateM.exec_pure,
    ValidateM.exec_bind, Prod.mk.injEq, reduceCtorEq, false_and] at h
  all_goals obtain ⟨-, rfl⟩ := h
  all_goals first | assumption | simp

theorem validateMethod_method {o o' : ServiceOptions} (h : (validateMethod cm).exec o = (.ok (), o')) :
    o'.FwdMethod ∈ ["dr", "nat", "tunnel", "ipip"] := by
  simp only [validateMethod, ValidateM.exec_bind, ValidateM.exec_get] at h
  split at h <;> simp only [ValidateM.exec_bind, ValidateM.exec_modify, ValidateM.exec_get,
    ValidateM.exec_pure] at h <;> split at h
  all_goals simp only [ValidateM.exec_bind, ValidateM.exec_modify, ValidateM.exec_get,
    ValidateM.exec_throw, ValidateM.exec_pure, Prod.mk.injEq, reduceCtorEq, false_and] at h
  all_goals split at h
  all_goals simp only [ValidateM.exec_modify, ValidateM.exec_pure, Prod.mk.injEq] at h
  all_goals obtain ⟨-, rfl⟩ := h
  all_goals simp_all

theorem validateMethod_normal {o : ServiceOptions} (h : ((validateMethod cm).exec o).1 = .ok ())
    (hp : o.Protocol = "tcp" ∨ o.Protocol = "udp") (hlb : o.LbMethod.length ≠ 0)
    (hf : o.Fallback ≠ "") (hmw : 0 < o.MaxWeight) : ((validateMethod cm).exec o).2.Normal := by
  obtain ⟨f, m, p, hm⟩ := validateMethod_frame cm o
  rcases hx : (validateMethod cm).exec o with ⟨r, o'⟩
  rw [hx] at h hm
  dsimp only at h hm ⊢
  subst h hm
  exact ⟨hp, hlb, hf, hmw, validateMethod_method hx⟩

/-- A `Validate` that succeeds leaves the options in normal form: the defaults filled and the
names it looks up known. -/
theorem runValidate_normal {o : ServiceOptions} (h : (o.runValidate d r cm).1 = .ok ()) :
    (o.runValidate d r cm).2.Normal := by
  simp only [runValidate, validate, ValidateM.exec_bind] at h ⊢
  rcases h₁ : (validateEndpoint d r).exec o with ⟨_ | _, o₁⟩ <;> simp only [h₁] at h ⊢
  · cases h
  rcases h₂ : (validateProtocol cm).exec o₁ with ⟨_ | _, o₂⟩ <;> simp only [h₂] at h ⊢
  · cases h
  rcases h₃ : validateFlags.exec o₂ with ⟨_ | _, o₃⟩ <;> simp only [h₃] at h ⊢
  · cases h
  have hp : o₃.Protocol = "tcp" ∨ o₃.Protocol = "udp" := by
    obtain ⟨fb, hfb⟩ := validateFlags_frame o₂
    rw [h₃] at hfb
    dsimp only at hfb
    simpa only [hfb] using validateProtocol_ok h₂
  have hf := validateFlags_fallback h₃
  simp only [ValidateM.exec_get] at h ⊢
  by_cases hlb : o₃.LbMethod.length = 0 <;> by_cases hmw : o₃.MaxWeight ≤ 0 <;>
    simp only [hlb, hmw, if_true, if_false, ValidateM.exec_bind, ValidateM.exec_modify,
      ValidateM.exec_pure, ValidateM.exec_get] at h ⊢
  all_goals
    exact validateMethod_normal h hp (by first | exact hlb | (dsimp only; decide)) hf
      (by first | omega | (dsimp only; omega))

end Normal

end ServiceOptions

/-- `BackendOptions`; its `pulse` field is never read or written, and left out. -/
structure BackendOptions where
  Host : String := ""
  Port : UInt16 := 0
  vsID : String := ""
  host : Option IP := none
  weight : Int := 0
  deriving DecidableEq, Repr

namespace BackendOptions

def Decoded (o : BackendOptions) : Prop :=
  o.vsID = "" ∧ o.weight = 0

/-- `BackendOptions.Validate`; it changes the options only when it succeeds. -/
def validate (resolve : String → Option IP) (o : BackendOptions) : Except Err BackendOptions :=
  if o.Host.length = 0 ∨ o.Port = 0 then .error .missingEndpoint
  else
    match resolve o.Host with
    | some ip => .ok { o with host := some ip }
    | none => .error (.resolve o.Host)

theorem validate_ok {resolve : String → Option IP} {o o' : BackendOptions}
    (h : o.validate resolve = .ok o') :
    ∃ ip, resolve o.Host = some ip ∧ o' = { o with host := some ip } := by
  unfold validate at h
  split at h
  · cases h
  · split at h <;> cases h
    exact ⟨_, ‹_›, rfl⟩

/-- Options that validated once fail a second validation only at resolving their host. -/
theorem validate_error_of_ok {resolve resolve' : String → Option IP} {o o' : BackendOptions}
    {e : Err} (h : o.validate resolve = .ok o') (h' : o'.validate resolve' = .error e) :
    e = .resolve o.Host := by
  obtain ⟨ip, -, rfl⟩ := validate_ok h
  unfold validate at h h'
  split at h
  · cases h
  · rw [if_neg ‹_›] at h'
    split at h' <;> cases h'
    rfl

def compareStoreOptions (o options : BackendOptions) : Bool :=
  o.Host == options.Host && o.Port == options.Port

end BackendOptions

/-- `ServiceConfig`, a service with its backends as a caller or the store describes it. -/
structure ServiceConfig where
  ServiceOptions : ServiceOptions
  ServiceBackends : StrMap BackendOptions

def ServiceConfig.Decoded (c : ServiceConfig) : Prop :=
  c.ServiceOptions.Decoded ∧ ∀ rsID o, c.ServiceBackends.lookup rsID = some o → o.Decoded

end Gorb
