import Mathlib.Data.List.AList
import Mathlib.Data.Rat.Defs

/-!
# What the core sees of its collaborators

The core of the daemon reaches the kernel, the network and the health probes only through
drivers: the `Ipvs` interface of `context.go`, `netlink` for the VIP interface,
`net.ResolveIPAddr`, and the `pulse` package. This module fixes what the core can observe of them.

The IPVS table is a list of pools, each a virtual service with its destinations, keyed by
(VIP, port, protocol) as the kernel keys them. A call the driver accepts changes the table as the
kernel would; a call it refuses changes nothing. Which calls are refused, what a name resolves to
and whether `netlink` succeeds are the answers of an environment `Env`, indexed by the number of
external calls made before in the run, so a theorem over every `Env` holds under every pattern of
failures and every DNS answer.
-/

namespace Gorb

/-- A Go `map[string]V`. The keys are distinct, as in Go: a `vsID` names one service of the
Context and an `rsID` one backend of its service. -/
abbrev StrMap (V : Type) := AList fun _ : String => V

inductive AddrFamily
  | inet
  | inet6
  deriving DecidableEq, Repr

structure IP where
  text : String
  family : AddrFamily
  deriving DecidableEq, Repr

def ipString : Option IP → String
  | some ip => ip.text
  | none => "<nil>"

/-! ### The IPVS table -/

structure Svc where
  Proto : Nat
  VIP : String
  Port : UInt16
  Sched : String
  Flags : Nat
  deriving DecidableEq, Repr

/-- Modelled from the spec: `gnl2go.Service.IsEqual`. A pool matches a descriptor with the same
(VIP, port, protocol), the key the spec's idempotence property names. -/
def Svc.isEqual (a b : Svc) : Bool :=
  a.VIP == b.VIP && a.Port == b.Port && a.Proto == b.Proto

structure Dest where
  IP : String
  Port : UInt16
  Weight : Int
  deriving DecidableEq, Repr

structure Pool where
  Service : Svc
  Dests : List Dest
  deriving DecidableEq, Repr

namespace Pool

def hasKey (p : Pool) (vip : String) (port : UInt16) (proto : Nat) : Bool :=
  p.Service.VIP == vip && p.Service.Port == port && p.Service.Proto == proto

def dest? (p : Pool) (rip : String) (rport : UInt16) : Option Dest :=
  p.Dests.find? fun d => d.IP == rip && d.Port == rport

def addDest (p : Pool) (rip : String) (rport : UInt16) (weight : Int) : Pool :=
  if (p.dest? rip rport).isSome then p
  else { p with Dests := p.Dests ++ [{ IP := rip, Port := rport, Weight := weight }] }

def setWeight (p : Pool) (rip : String) (rport : UInt16) (weight : Int) : Pool :=
  { p with Dests := p.Dests.map fun d =>
      if d.IP == rip && d.Port == rport then { d with Weight := weight } else d }

def delDest (p : Pool) (rip : String) (rport : UInt16) : Pool :=
  { p with Dests := p.Dests.filter fun d => !(d.IP == rip && d.Port == rport) }

end Pool

def poolOf (t : List Pool) (vip : String) (port : UInt16) (proto : Nat) : Option Pool :=
  t.find? fun p => p.hasKey vip port proto

/-- The calls of the `Ipvs` interface the core makes, with their arguments. -/
inductive IpvsCall
  | addService (vip : String) (port : UInt16) (protocol : Nat) (sched : String)
  | addServiceWithFlags (vip : String) (port : UInt16) (protocol : Nat) (sched : String)
      (flags : Nat)
  | delService (vip : String) (port : UInt16) (protocol : Nat)
  | addDestPort (vip : String) (vport : UInt16) (rip : String) (rport : UInt16) (protocol : Nat)
      (weight : Int) (fwd : Nat)
  | updateDestPort (vip : String) (vport : UInt16) (rip : String) (rport : UInt16)
      (protocol : Nat) (weight : Int) (fwd : Nat)
  | delDestPort (vip : String) (vport : UInt16) (rip : String) (rport : UInt16) (protocol : Nat)
  | getPools
  deriving DecidableEq, Repr

namespace IpvsCall

def addPool (svc : Svc) (t : List Pool) : List Pool :=
  if (poolOf t svc.VIP svc.Port svc.Proto).isSome then t else t ++ [{ Service := svc, Dests := [] }]

/-- What the kernel does on a call the driver accepts. -/
def apply : IpvsCall → List Pool → List Pool
  | addService vip port proto sched, t =>
      addPool { Proto := proto, VIP := vip, Port := port, Sched := sched, Flags := 0 } t
  | addServiceWithFlags vip port proto sched flags, t =>
      addPool { Proto := proto, VIP := vip, Port := port, Sched := sched, Flags := flags } t
  | delService vip port proto, t => t.filter fun p => !p.hasKey vip port proto
  | addDestPort vip vport rip rport proto weight _, t =>
      t.map fun p => if p.hasKey vip vport proto then p.addDest rip rport weight else p
  | updateDestPort vip vport rip rport proto weight _, t =>
      t.map fun p => if p.hasKey vip vport proto then p.setWeight rip rport weight else p
  | delDestPort vip vport rip rport proto, t =>
      t.map fun p => if p.hasKey vip vport proto then p.delDest rip rport else p
  | getPools, t => t

def weight? : IpvsCall → Option Int
  | addDestPort _ _ _ _ _ w _ => some w
  | updateDestPort _ _ _ _ _ w _ => some w
  | _ => none

def isMutation : IpvsCall → Bool
  | getPools => false
  | _ => true

def addsService : IpvsCall → Bool
  | addService .. | addServiceWithFlags .. => true
  | _ => false

end IpvsCall

/-- An IPVS call as the Context issued it, with the validated `MaxWeight` of the service it was
issued for, read at the time of the call. -/
structure Issued where
  call : IpvsCall
  maxWeight : Int
  deriving DecidableEq, Repr

/-! ### Health probes -/

/-- Modelled from the spec: `pulse.Options`, the probe configuration of a service, which only
`pulse.New` reads. -/
structure PulseOptions where
  type : String
  interval : String
  args : List (String × String)
  deriving DecidableEq, Repr, Inhabited

inductive Status
  | up
  | down
  | removed
  deriving DecidableEq, Repr

/-- `pulse.Metrics`, with the health as a rational. The uptime is only reported, and left out. -/
structure Metrics where
  Status : Status
  Health : ℚ
  deriving DecidableEq

structure PulseID where
  VsID : String
  RsID : String
  deriving DecidableEq, Repr

structure Update where
  Source : PulseID
  Metrics : Metrics
  deriving DecidableEq

/-! ### The environment -/

/-- `unicode.ToLower`. On ASCII it is fixed by the code; the rest of the mapping comes from the
Unicode tables, which are not modelled. -/
structure CaseMap where
  lower : Char → Char
  ascii : ∀ c : Char, c.toNat < 128 → lower c = c.toLower

def CaseMap.onASCII : CaseMap :=
  ⟨Char.toLower, fun _ _ => rfl⟩

/-- `strings.ToLower`: `unicode.ToLower` on each character. -/
def toLower (cm : CaseMap) (s : String) : String :=
  ⟨s.data.map cm.lower⟩

theorem toLower_of_ascii (cm : CaseMap) {s : String}
    (h : ∀ c ∈ s.data, c.toNat < 128 ∧ c.toLower = c) : toLower cm s = s := by
  rcases s with ⟨cs⟩
  show String.mk (cs.map cm.lower) = String.mk cs
  congr 1
  conv_rhs => rw [← List.map_id cs]
  exact List.map_congr_left fun c hc => (cm.ascii c (h c hc).1).trans (h c hc).2

/-- The answers of the environment to the external calls of a run, by their position in it, and
the case mapping of its Unicode tables. -/
structure Env where
  /-- `net.ResolveIPAddr`. -/
  dns : Nat → String → Option IP
  /-- Whether the IPVS driver accepts the call. -/
  ipvs : Nat → Bool
  /-- Whether `netlink.AddrAdd` or `netlink.AddrDel` succeeds. -/
  netlink : Nat → Bool
  /-- Whether `pulse.New` accepts a backend endpoint with its service's pulse options. -/
  pulseNew : String → UInt16 → Option PulseOptions → Bool
  /-- `unicode.ToLower`. -/
  lower : CaseMap

end Gorb
