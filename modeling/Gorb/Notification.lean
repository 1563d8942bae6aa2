import Gorb.Context
import Mathlib.Algebra.Ring.Rat
import Mathlib.Data.Int.Log
import Mathlib.Data.Rat.Floor

/-!
# The notification loop

`runtime.go`: `processPulseUpdate` handles one update of a probe in steps that each take the
Context lock, and other goroutines may run between them. The locked check caches the metrics
(`pulseCheck`); for a `StatusDown` update, `GetService` under the read lock fixes the weight
(`pulseDownWeight`); last comes `UpdateBackend` with the stash bookkeeping after it (`pulseUp`,
`pulseDownApply`). The stash is owned by the loop alone, so what it does between two locked steps
only touches the stash and is part of the step before.
-/

namespace Gorb

structure ServiceInfo where
  Options : ServiceOptions
  Health : ℚ
  Backends : List String
  BackendsCount : UInt16
  FallBack : String

/-- `Service.CalcServiceStat`. The count is `uint16(len(vs.backends))`. The healths are summed in
the order of the map, which the exact sum of rationals does not depend on. -/
def Service.calcServiceStat (vs : Service) : ServiceInfo :=
  let count : UInt16 := vs.backends.entries.length.toUInt16
  if count ≠ 0 then
    { Options := vs.options,
      Health := (vs.backends.entries.map (·.2.metrics.Health)).sum / (count.toNat : ℚ),
      Backends := vs.backends.keys, BackendsCount := count, FallBack := vs.options.Fallback }
  else
    { Options := vs.options, Health := 0, Backends := [], BackendsCount := count,
      FallBack := vs.options.Fallback }

def Context.getService (ctx : Context) (vsID : String) : Except Err ServiceInfo :=
  match ctx.services.lookup vsID with
  | none => .error (.objectNotFound "")
  | some vs => .ok vs.calcServiceStat

def fallbackFlag (name : String) : Int :=
  (fallbackFlags.lookup name).getD 0

def roundHalfEven (x : ℚ) : Int :=
  let n := ⌊x⌋
  if x - n < 1 / 2 then n
  else if 1 / 2 < x - n then n + 1
  else if n % 2 = 0 then n else n + 1

/-- `x` rounded to the nearest `float64`, ties to even: to a multiple of `2 ^ e` with 53
significant bits, with `e` no lower than the exponent -1074 of the subnormals. Overflow to an
infinity is left out. -/
def roundFloat64 (x : ℚ) : ℚ :=
  if x = 0 then 0
  else
    let e : Int := max (Int.log 2 |x| - 52) (-1074)
    roundHalfEven (x / 2 ^ e) * 2 ^ e

/-- `int32(float64(weight) * health)`, with `health` kept as the rational its `float64` equals: the
product rounded to the nearest `float64`, then truncated toward zero. Go leaves the conversion of a
value `int32` cannot hold to the implementation; there the exact product is truncated. -/
def scaleWeight (weight : Int) (health : ℚ) : Int :=
  let q := (weight : ℚ) * health
  let r := if |q| < 2 ^ 31 then roundFloat64 q else q
  r.num.tdiv r.den

def attempt {α : Type} (m : CtxM α) : CtxM (Except Err α) :=
  tryCatch (Except.ok <$> m) fun e => pure (.error e)

section Loop

variable (env : Env)

def dropStash (src : PulseID) : CtxM Unit :=
  modify fun s => { s with stash := s.stash.erase src }

/-- Lines 43-72, under the write lock. An update for an unknown service or backend, or a
`StatusRemoved` one, only drops the stash entry of its source; otherwise the backend's metrics
become the update's and the loop goes on with the update's status. -/
def pulseCheck (u : Update) : CtxM Unit := do
  match (← get).ctx.services.lookup u.Source.VsID with
  | none => dropStash u.Source
  | some vs =>
    match vs.backends.lookup u.Source.RsID with
    | none => dropStash u.Source
    | some rs =>
      if u.Metrics.Status = .removed then dropStash u.Source
      else
        modify (·.setService u.Source.VsID { vs with
          backends := vs.backends.insert u.Source.RsID { rs with metrics := u.Metrics } })
        modify fun s => { s with phase := if u.Metrics.Status = .up then .up u else .down u }

def pulseUp (u : Update) : CtxM Unit := do
  modify fun s => { s with phase := .idle }
  let some stashed := (← get).stash.lookup u.Source | return
  let weight := scaleWeight stashed u.Metrics.Health
  match ← attempt (updateBackend env u.Source.VsID u.Source.RsID weight) with
  | .error _ => pure ()
  | .ok _ => if weight = stashed then dropStash u.Source

/-- The fallback rule of a `StatusDown` update: weight 0, or 1 when the health of the service is 0
and its fallback is `fb-zero-to-one`; 0 when `GetService` fails. -/
def Context.downWeight (ctx : Context) (vsID : String) : Int :=
  match ctx.getService vsID with
  | .error _ => 0
  | .ok info => if info.Health = 0 ∧ fallbackFlag info.FallBack = ZeroToOne then 1 else 0

def pulseDownWeight (u : Update) : CtxM Unit :=
  modify fun s => { s with phase := .downWeighed u (s.ctx.downWeight u.Source.VsID) }

def pulseDownApply (u : Update) (backendWeight : Int) : CtxM Unit := do
  modify fun s => { s with phase := .idle }
  match ← attempt (updateBackend env u.Source.VsID u.Source.RsID backendWeight) with
  | .error _ => pure ()
  | .ok weight =>
    unless ((← get).stash.lookup u.Source).isSome do
      modify fun s => { s with stash := s.stash.insert u.Source weight }

def pulseStep : Phase → CtxM Unit
  | .idle => pure ()
  | .up u => pulseUp env u
  | .down u => pulseDownWeight u
  | .downWeighed u w => pulseDownApply env u w

/-- `processPulseUpdate` run to its end with no other goroutine in between. -/
def processPulseUpdate (u : Update) : CtxM Unit := do
  pulseCheck u
  pulseStep env (← get).phase
  pulseStep env (← get).phase

end Loop

end Gorb
