import Gorb.Run
import Gorb.Keeps

/-!
# Invariants of the composite steps

`createService`, `Synchronize` and `Close` only sequence the four mutators `registerService`,
`createBackend`, `removeBackend` and `removeService`, in loops. So an invariant kept by every run
of those four is kept by every run of the composite steps, whatever the iteration orders of Go's
`range` and wherever a failure stops them.

A mutator may keep the invariant only for some inputs: `createBackend` keeps the bound on weights
only for options as decoded. The inputs the composite steps pass come from their argument, so the
rules take a property of the inputs (`PB` for a backend's options, `PS` for a service's
configuration) and carry it through the loops as a property of the store's maps.
-/

namespace Gorb

section Compose

variable {env : Env} {I : Machine → Prop}

/-! The steps for one service call the mutators of that service only, so their rules ask for those
alone. -/

section Service

variable {vsID : String} {PB : String → BackendOptions → Prop} {PS : ServiceConfig → Prop}
  (hcb : ∀ rsID opts, PB rsID opts → Keeps I (createBackend env vsID rsID opts) fun _ => True)
  (hrb : ∀ rsID, Keeps I (removeBackend env vsID rsID) fun _ => True)
  (hrs : Keeps I (removeService env vsID) fun _ => True)
  (hreg : ∀ cfg, PS cfg → Keeps I (registerService env vsID cfg) fun _ => True)
  (hPS : ∀ cfg, PS cfg → ∀ e ∈ cfg.ServiceBackends.entries, PB e.1 e.2)

include hcb hreg hPS in
theorem keeps_createService {cfg : ServiceConfig} (hcfg : PS cfg) :
    Keeps I (createService env vsID cfg) fun _ => True :=
  (hreg cfg hcfg).bind fun _ _ => Keeps.forM fun e he => hcb e.1 e.2 (hPS cfg hcfg e he)

include hcb hrb in
theorem keeps_syncBackend {rsID : String} {backend : Backend} {sbs : StrMap BackendOptions}
    (hsbs : ∀ e ∈ sbs.entries, PB e.1 e.2) :
    Keeps I (syncBackend env vsID rsID backend sbs) fun r => ∀ e ∈ r.entries, PB e.1 e.2 := by
  unfold syncBackend
  split
  · exact (hrb rsID).discard.bind fun _ _ => keeps_pure hsbs
  · next o ho =>
    have hpure : Keeps I (pure (sbs.erase rsID) : CtxM _) fun r => ∀ e ∈ r.entries, PB e.1 e.2 :=
      keeps_pure fun e he => hsbs e ((List.kerase_sublist _ _).subset he)
    split
    · exact (hrb rsID).discard.bind fun _ _ =>
        (hcb rsID o (hsbs ⟨rsID, o⟩ (AList.mem_lookup_iff.1 ho))).bind fun _ _ => hpure
    · exact keeps_pure_true.bind fun _ _ => hpure

include hcb hrb hrs hreg hPS in
/-- The store's map keeps a property `PD` of its entries that gives `PS` for this service. -/
theorem keeps_syncService {order : SyncOrder} {service : Service} {d : StrMap ServiceConfig}
    {PD : String → ServiceConfig → Prop} (hPD : ∀ cfg, PD vsID cfg → PS cfg)
    (hd : ∀ e ∈ d.entries, PD e.1 e.2) :
    Keeps I (syncService env order vsID service d) fun r => ∀ e ∈ r.entries, PD e.1 e.2 := by
  unfold syncService
  split
  · exact hrs.discard.bind fun _ _ => keeps_pure hd
  · next cfg hcfg =>
    have hcfg' : PS cfg := hPD cfg (hd ⟨vsID, cfg⟩ (AList.mem_lookup_iff.1 hcfg))
    have hrest : Keeps I (do
        let sbs ← goRange (backendKeys vsID service.ref) (liveBackend vsID service.ref)
          (syncBackend env vsID) (order.backends vsID) cfg.ServiceBackends
        sbs.entries.forM fun e => createBackend env vsID e.1 e.2
        pure (d.erase vsID)) fun r => ∀ e ∈ r.entries, PD e.1 e.2 :=
      (Keeps.goRange (fun _ _ _ hsbs => keeps_syncBackend hcb hrb hsbs) _ _
        (hPS cfg hcfg')).bind fun sbs hsbs =>
        (Keeps.forM fun e he => hcb e.1 e.2 (hsbs e he)).bind fun _ _ =>
          keeps_pure fun e he => hd e ((List.kerase_sublist _ _).subset he)
    split
    · exact hrs.discard.bind fun _ _ =>
        (keeps_createService hcb hreg hPS hcfg').bind fun _ _ => hrest
    · exact keeps_pure_true.bind fun _ _ => hrest

end Service

section All

variable {PB : String → String → BackendOptions → Prop} {PS : String → ServiceConfig → Prop}
  (hPS : ∀ vsID cfg, PS vsID cfg → ∀ e ∈ cfg.ServiceBackends.entries, PB vsID e.1 e.2)
  (hcb : ∀ vsID rsID opts, PB vsID rsID opts →
    Keeps I (createBackend env vsID rsID opts) fun _ => True)
  (hrb : ∀ vsID rsID, Keeps I (removeBackend env vsID rsID) fun _ => True)
  (hrs : ∀ vsID, Keeps I (removeService env vsID) fun _ => True)
  (hreg : ∀ vsID cfg, PS vsID cfg → Keeps I (registerService env vsID cfg) fun _ => True)

include hPS hcb hrb hrs hreg in
/-- `Synchronize` keeps every invariant its four mutators keep, for every iteration order. -/
theorem keeps_synchronize {order : SyncOrder} {d : StrMap ServiceConfig}
    (hd : ∀ e ∈ d.entries, PS e.1 e.2) :
    Keeps I (synchronize env order d) fun _ => True :=
  (Keeps.goRange (fun vsID _ _ hacc => keeps_syncService (hcb vsID) (hrb vsID) (hrs vsID)
    (hreg vsID) (hPS vsID) (fun _ h => h) hacc) _ _ hd).bind fun _ hr =>
      Keeps.forM fun e he => keeps_createService (hcb e.1) (hreg e.1) (hPS e.1) (hr e he)

include hrs in
/-- `Close` keeps every invariant `removeService` keeps, for every iteration order. -/
theorem keeps_close {order : List String} : Keeps I (close env order) fun _ => True :=
  Keeps.goRange
    (fun vsID _ _ _ => (Keeps.tryCatch (hrs vsID).discard fun _ => keeps_pure trivial).mono
      fun _ _ => trivial) _ _ trivial

end All

end Compose

end Gorb
