import Gorb.Context

/-!
# Invariants of computations

`Keeps I m Q`: from every machine satisfying `I`, `m` ends in a machine satisfying `I`, whether it
returns or fails, and what it returns satisfies `Q`. A failure does not undo what the computation
did before it, so the invariant must hold of the machine it fails in too.

A mutator is proved to keep an invariant once, from what it does (its `_cases` lemma). A
computation built from mutators, as `createService`, `Synchronize` and `Close` are, is proved to
keep it by the rules below, one per way of building it: sequencing, catching, the loops over a
list and Go's `range` over a changing map. A loop body may need a property of its accumulator (the
store's map holds decoded options); the rules carry it as the result's property `Q`.
-/

namespace Gorb

/-- From a machine satisfying `I`, `m` ends in one satisfying `I`, and a result it returns
satisfies `Q`. -/
def Keeps {α : Type} (I : Machine → Prop) (m : CtxM α) (Q : α → Prop) : Prop :=
  ∀ s, I s → I (m.exec s).2 ∧ ∀ a, (m.exec s).1 = .ok a → Q a

namespace Keeps

variable {α β : Type} {I : Machine → Prop} {Q R : α → Prop}

theorem mono {m : CtxM α} (h : Keeps I m Q) (hQ : ∀ a, Q a → R a) : Keeps I m R :=
  fun s hs => ⟨(h s hs).1, fun a ha => hQ a ((h s hs).2 a ha)⟩

/-- A computation that keeps `I` on its own, whatever it returns. -/
theorem of_exec {m : CtxM α} (h : ∀ s, I s → I (m.exec s).2) : Keeps I m fun _ => True :=
  fun s hs => ⟨h s hs, fun _ _ => trivial⟩

/-- A computation each of whose runs from `I` ends in `I`. -/
theorem of_cases {m : CtxM α} (h : ∀ s r s', m.exec s = (r, s') → I s → I s') :
    Keeps I m fun _ => True :=
  of_exec fun s hs => h s _ _ rfl hs

theorem after_exec {m : CtxM α} (h : Keeps I m Q) {s s' : Machine} {r : Except Err α}
    (hm : m.exec s = (r, s')) (hs : I s) : I s' := by
  simpa only [hm] using (h s hs).1

end Keeps

section Rules

variable {α β : Type} {I : Machine → Prop} {Q R : α → Prop}

theorem keeps_pure {a : α} (h : Q a) : Keeps I (pure a) Q :=
  fun _ hs => ⟨hs, fun _ ha => by cases ha; exact h⟩

theorem keeps_pure_true {a : α} : Keeps I (pure a) fun _ => True :=
  keeps_pure trivial

theorem keeps_throw {e : Err} : Keeps I (throw e : CtxM α) Q :=
  fun _ hs => ⟨hs, fun _ ha => by cases ha⟩

/-- `get` returns the machine, which satisfies `I`. -/
theorem keeps_get : Keeps I get I :=
  fun _ hs => ⟨hs, fun _ ha => by cases ha; exact hs⟩

theorem keeps_modify {f : Machine → Machine} (h : ∀ s, I s → I (f s)) :
    Keeps I (modify f : CtxM PUnit) fun _ => True :=
  Keeps.of_exec fun s hs => h s hs

theorem Keeps.bind {m : CtxM α} {f : α → CtxM β} {Q : β → Prop} (hm : Keeps I m R)
    (hf : ∀ a, R a → Keeps I (f a) Q) : Keeps I (m >>= f) Q := by
  intro s hs
  have h := hm s hs
  simp only [exec_bind]
  split
  · next a s' heq =>
    rw [heq] at h
    exact hf a (h.2 a rfl) s' h.1
  · next heq =>
    rw [heq] at h
    exact ⟨h.1, fun _ ha => by cases ha⟩

theorem Keeps.map {m : CtxM α} {f : α → β} {Q : β → Prop}
    (hm : Keeps I m fun a => Q (f a)) : Keeps I (f <$> m) Q := by
  rw [← bind_pure_comp]
  exact hm.bind fun a ha => keeps_pure ha

theorem Keeps.discard {m : CtxM α} (hm : Keeps I m R) :
    Keeps I (Functor.discard m) fun _ => True :=
  Keeps.map (hm.mono fun _ _ => trivial)

theorem Keeps.tryCatch {m : CtxM α} {h : Err → CtxM α} (hm : Keeps I m Q)
    (hh : ∀ e, Keeps I (h e) Q) : Keeps I (MonadExcept.tryCatch m h) Q := by
  intro s hs
  have hs' := hm s hs
  simp only [exec_tryCatch]
  split
  · next a s' heq =>
    rw [heq] at hs'
    exact hs'
  · next e s' heq =>
    rw [heq] at hs'
    exact hh e s' hs'.1

/-- `for _, x := range xs` over a list, or a map nothing changes during the loop. -/
theorem Keeps.forM {xs : List α} {f : α → CtxM PUnit}
    (h : ∀ x ∈ xs, Keeps I (f x) fun _ => True) : Keeps I (xs.forM f) fun _ => True := by
  induction xs with
  | nil => exact keeps_pure trivial
  | cons x xs ih =>
    rw [List.forM_cons']
    exact (h x (List.mem_cons_self x xs)).bind fun _ _ =>
      ih fun y hy => h y (List.mem_cons_of_mem x hy)

end Rules

section Range

variable {V β : Type} {I : Machine → Prop} {J : β → Prop}
  {live : Machine → String → Option (Nat × V)} {body : String → V → β → CtxM β}

theorem Keeps.rangePass {may : String × Nat → Bool}
    (hbody : ∀ k v acc, J acc → Keeps I (body k v acc) J) (ks : List String)
    (produced : List (String × Nat)) (acc : β) (hacc : J acc) :
    Keeps I (rangePass live may body ks produced acc) fun r => J r.1 := by
  induction ks generalizing produced acc with
  | nil => exact keeps_pure hacc
  | cons k ks ih =>
    simp only [Gorb.rangePass]
    refine keeps_get.bind fun s _ => ?_
    split
    · split
      · exact (hbody _ _ acc hacc).bind fun acc' hacc' => ih _ acc' hacc'
      · exact ih produced acc hacc
    · exact ih produced acc hacc

/-- Go's `range` over a changing map keeps what every run of its body keeps. -/
theorem Keeps.goRange {keys : Machine → List String}
    (hbody : ∀ k v acc, J acc → Keeps I (body k v acc) J) (order : List String) (acc : β)
    (hacc : J acc) : Keeps I (Gorb.goRange keys live body order acc) J := by
  unfold Gorb.goRange
  refine keeps_get.bind fun s _ => ?_
  refine (Keeps.rangePass hbody order [] acc hacc).bind fun r hr => ?_
  exact (Keeps.rangePass hbody _ r.2 r.1 hr).bind fun r' hr' => keeps_pure hr'

end Range

end Gorb
