import Gorb.Context

/-!
# Runs of Go's `range` that return

`goRange` runs a body on the entries of a map the body itself changes (`Synchronize`, `Close`).
What a run that returns has done is read off two facts about the body: it changes no entry but
its own key's (`KeepsOthers`), and what it leaves under its own key. Every entry live at the start
is produced: the first pass leaves live every entry it did not produce, and the second pass
produces those (`goRange_ok`). So when every body run leaves its key's entry with a property `G`,
every entry live at the end has it (`goRange_good`), and what every body run keeps, the whole
range keeps (`goRange_inv`).

A map entry created during the loop may be produced again in the first pass, and the body then
runs twice on one key. Over an order that lists each key once, and with bodies that leave under
their key either the entry produced or a fresh one, no key is produced twice (`goRange_once`): an
invariant then needs to be kept only by the first run of the body on each key.

The invariants here hold of the runs that return only; a failure stops `Synchronize` with what the
bodies did so far, which the invariants of `Keeps` describe.
-/

namespace Gorb

section Runs

variable {V β : Type} {live : Machine → String → Option (Nat × V)}
  {body : String → V → β → CtxM β}

/-- A body that returns on a live entry leaves the entries of the other keys as they were. -/
def KeepsOthers (live : Machine → String → Option (Nat × V)) (body : String → V → β → CtxM β) :
    Prop :=
  ∀ s k n v acc acc' s', live s k = some (n, v) → (body k v acc).exec s = (.ok acc', s') →
    ∀ j, j ≠ k → live s' j = live s j

theorem rangePass_ok (hframe : KeepsOthers live body)
    {I : List String → Machine → β → List (String × Nat) → Prop} {may : String × Nat → Bool}
    (hbody : ∀ k ks s n v acc produced acc' s', I (k :: ks) s acc produced →
      live s k = some (n, v) → may (k, n) = true → (k, n) ∉ produced →
      (body k v acc).exec s = (.ok acc', s') → I ks s' acc' ((k, n) :: produced))
    (hskip : ∀ k ks s acc produced, I (k :: ks) s acc produced → I ks s acc produced)
    (ks : List String) {produced : List (String × Nat)} {acc : β}
    {s : Machine} {r : β × List (String × Nat)} {s' : Machine}
    (h : (rangePass live may body ks produced acc).exec s = (.ok r, s'))
    (hs : I ks s acc produced) :
    I [] s' r.1 r.2 ∧ (∀ p ∈ produced, p ∈ r.2) ∧
      (∀ k ∈ ks, ∀ n v, live s k = some (n, v) → may (k, n) = true → (k, n) ∈ r.2) ∧
      ∀ k n, (live s k).map Prod.fst = some n → (k, n) ∉ r.2 →
        (live s' k).map Prod.fst = some n := by
  induction ks generalizing produced acc s with
  | nil =>
    simp only [rangePass, exec_pure, Prod.mk.injEq, Except.ok.injEq] at h
    obtain ⟨rfl, rfl⟩ := h
    exact ⟨hs, fun _ => id, fun _ h => absurd h (List.not_mem_nil _), fun _ _ h _ => h⟩
  | cons k₁ ks ih =>
    simp only [rangePass, exec_bind, exec_get] at h
    split at h
    · next n₁ v₁ hk₁ =>
      split at h
      · next hmay =>
        simp only [Bool.and_eq_true] at hmay
        have hn : (k₁, n₁) ∉ produced := by simpa using hmay.2
        rw [exec_bind] at h
        rcases hb : (body k₁ v₁ acc).exec s with ⟨_ | acc₁, s₁⟩ <;> simp only [hb] at h
        · cases h
        obtain ⟨hinv, hsub, hreach, hstay⟩ :=
          ih h (hbody _ _ _ _ _ _ _ _ _ hs hk₁ hmay.1 hn hb)
        have hmem : (k₁, n₁) ∈ r.2 := hsub _ (List.mem_cons_self _ _)
        refine ⟨hinv, fun p hp => hsub p (List.mem_cons_of_mem _ hp), fun k hk n v hkv hm => ?_,
          fun k n hkn hnr => ?_⟩
        · by_cases hkk : k = k₁
          · subst hkk
            rw [hk₁, Option.some.injEq, Prod.mk.injEq] at hkv
            exact hkv.1 ▸ hmem
          · rw [← hframe _ _ _ _ _ _ _ hk₁ hb k hkk] at hkv
            exact hreach k ((List.mem_cons.1 hk).resolve_left hkk) n v hkv hm
        · by_cases hkk : k = k₁
          · subst hkk
            simp only [hk₁, Option.map_some', Option.some.injEq] at hkn
            exact absurd (hkn ▸ hmem) hnr
          · exact hstay k n (by rwa [hframe _ _ _ _ _ _ _ hk₁ hb k hkk]) hnr
      · next hmay =>
        obtain ⟨hinv, hsub, hreach, hstay⟩ := ih h (hskip _ _ _ _ _ hs)
        refine ⟨hinv, hsub, fun k hk n v hkv hm => ?_, hstay⟩
        rcases List.mem_cons.1 hk with rfl | hk
        · rw [hk₁, Option.some.injEq, Prod.mk.injEq] at hkv
          obtain ⟨rfl, rfl⟩ := hkv
          exact hsub _ (by simpa [hm] using hmay)
        · exact hreach k hk n v hkv hm
    · next hk₁ =>
      obtain ⟨hinv, hsub, hreach, hstay⟩ := ih h (hskip _ _ _ _ _ hs)
      refine ⟨hinv, hsub, fun k hk n v hkv hm => ?_, hstay⟩
      rcases List.mem_cons.1 hk with rfl | hk
      · rw [hk₁] at hkv
        cases hkv
      · exact hreach k hk n v hkv hm

/-- A `goRange` that returns: an invariant `I₁` of the first pass, over the keys of `order` still to
come, that ends in the invariant `I₂` of the second pass, over the entries live at the start,
holds at the end, and every entry live at the start has been produced. -/
theorem goRange_ok (hframe : KeepsOthers live body)
    {I₁ : List String → Machine → β → List (String × Nat) → Prop}
    {I₂ : Machine → β → List (String × Nat) → Prop} {s : Machine}
    (hbody₁ : ∀ k ks t n v acc produced acc' t', I₁ (k :: ks) t acc produced →
      live t k = some (n, v) → (k, n) ∉ produced → (body k v acc).exec t = (.ok acc', t') →
      I₁ ks t' acc' ((k, n) :: produced))
    (hskip₁ : ∀ k ks t acc produced, I₁ (k :: ks) t acc produced → I₁ ks t acc produced)
    (hbody₂ : ∀ t k n v acc produced acc' t', I₂ t acc produced → live t k = some (n, v) →
      (∃ v₀, live s k = some (n, v₀)) → (k, n) ∉ produced →
      (body k v acc).exec t = (.ok acc', t') → I₂ t' acc' ((k, n) :: produced))
    (hmid : ∀ t acc produced, I₁ [] t acc produced → I₂ t acc produced)
    (keys : Machine → List String) {order : List String} {a₀ r : β} {s' : Machine}
    (h : (goRange keys live body order a₀).exec s = (.ok r, s')) (hs : I₁ order s a₀ []) :
    ∃ produced, I₂ s' r produced ∧
      ∀ k ∈ keys s, ∀ n v, live s k = some (n, v) → (k, n) ∈ produced := by
  simp only [goRange, exec_bind, exec_get] at h
  rcases h₁ : (rangePass live (fun _ => true) body order [] a₀).exec s with
    ⟨_ | ⟨acc₁, pr₁⟩, s₁⟩ <;> simp only [h₁] at h
  · cases h
  split at h
  · next r₂ s₂ h₂ =>
    simp only [exec_pure, Prod.mk.injEq, Except.ok.injEq] at h
    obtain ⟨rfl, rfl⟩ := h
    obtain ⟨hinv₁, -, -, hstay₁⟩ := rangePass_ok hframe
      (fun k ks t n v acc produced acc' t' hI hk _ hn hb => hbody₁ k ks t n v acc produced acc' t'
        hI hk hn hb) hskip₁ order h₁ hs
    obtain ⟨hinv₂, hsub₂, hreach₂, -⟩ := rangePass_ok hframe (I := fun _ => I₂)
      (fun k _ t n v acc produced acc' t' hI hk hm hn hb => hbody₂ t k n v acc produced acc' t' hI
        hk ((by simpa using hm : k ∈ keys s ∧ ∃ v₀, live s k = some (n, v₀)).2) hn hb) (fun _ _ _ _ _ h => h) _ h₂ (hmid _ _ _ hinv₁)
    refine ⟨r₂.2, hinv₂, fun k hk n v hkv => ?_⟩
    have hstart : (k, n) ∈ (keys s).filterMap fun k => (live s k).map fun e => (k, e.1) :=
      List.mem_filterMap.2 ⟨k, hk, by simp [hkv]⟩
    by_cases hp : (k, n) ∈ pr₁
    · exact hsub₂ _ hp
    · obtain ⟨⟨n₁, v₁⟩, hlive, rfl⟩ := Option.map_eq_some'.1 (hstay₁ k n (by simp [hkv]) hp)
      exact hreach₂ k (List.mem_map_of_mem _ hstart) _ v₁ hlive (by simpa using hstart)
  · cases h

def Covered (live : Machine → String → Option (Nat × V)) (G : String → V → Prop) (s₀ t : Machine)
    (produced : List (String × Nat)) : Prop :=
  ∀ k e, live t k = some e → G k e.2 ∨ (k, e.1) ∉ produced ∧ (live s₀ k).map Prod.fst = some e.1

/-- A `goRange` that returns, whose body, when it returns on a live entry, keeps `J` of the
accumulator and leaves that key's entry `G` if there is one, ends with every live entry `G`. -/
theorem goRange_good (hframe : KeepsOthers live body) {J : β → Prop} {G : String → V → Prop}
    (hbody : ∀ s k n v acc acc' s', live s k = some (n, v) → J acc →
      (body k v acc).exec s = (.ok acc', s') → J acc' ∧ ∀ e, live s' k = some e → G k e.2)
    (keys : Machine → List String) {order : List String} {a₀ r : β} {s s' : Machine}
    (hkeys : ∀ k, (live s k).isSome → k ∈ keys s)
    (h : (goRange keys live body order a₀).exec s = (.ok r, s')) (ha : J a₀) :
    J r ∧ ∀ k e, live s' k = some e → G k e.2 := by
  have hstep : ∀ t k n v acc produced acc' t', J acc ∧ Covered live G s t produced →
      live t k = some (n, v) → (body k v acc).exec t = (.ok acc', t') →
      J acc' ∧ Covered live G s t' ((k, n) :: produced) := by
    intro t k n v acc produced acc' t' ⟨hJ, hcov⟩ hk hb
    obtain ⟨hJ', hG⟩ := hbody t k n v acc acc' t' hk hJ hb
    refine ⟨hJ', fun j e hj => ?_⟩
    by_cases hjk : j = k
    · subst hjk
      exact .inl (hG e hj)
    · rw [hframe t k n v acc acc' t' hk hb j hjk] at hj
      refine (hcov j e hj).imp_right fun ⟨hn, hs⟩ => ⟨fun hm => ?_, hs⟩
      rcases List.mem_cons.1 hm with hm | hm
      · exact hjk (Prod.mk.inj hm).1
      · exact hn hm
  obtain ⟨produced, ⟨hJ, hcov⟩, hall⟩ := @goRange_ok _ _ _ _ hframe
    (fun _ t acc produced => J acc ∧ Covered live G s t produced)
    (fun t acc produced => J acc ∧ Covered live G s t produced) s
    (fun _ _ t n v acc produced acc' t' hI hk _ hb => hstep t _ n v acc produced acc' t' hI hk hb)
    (fun _ _ _ _ _ h => h)
    (fun t _ n v acc produced acc' t' hI hk _ _ hb => hstep t _ n v acc produced acc' t' hI hk hb)
    (fun _ _ _ h => h) keys order a₀ r s' h ⟨ha, fun k e hk => .inr ⟨List.not_mem_nil _, by simp [hk]⟩⟩
  refine ⟨hJ, fun k e hk => (hcov k e hk).resolve_right fun ⟨hn, hs⟩ => hn ?_⟩
  obtain ⟨⟨n, v⟩, hlive, hn⟩ := Option.map_eq_some'.1 hs
  rw [← hn]
  exact hall k (hkeys k (by simp [hlive])) n v hlive

theorem goRange_inv (hframe : KeepsOthers live body) {I : Machine → β → Prop}
    (hbody : ∀ t k n v acc acc' t', I t acc → live t k = some (n, v) →
      (body k v acc).exec t = (.ok acc', t') → I t' acc')
    (keys : Machine → List String) {order : List String} {a₀ r : β} {s s' : Machine}
    (h : (goRange keys live body order a₀).exec s = (.ok r, s')) (hs : I s a₀) : I s' r :=
  (@goRange_ok _ _ _ _ hframe (fun _ t acc _ => I t acc) (fun t acc _ => I t acc) s
    (fun _ _ t _ _ acc _ acc' t' hI hk _ hb => hbody t _ _ _ acc acc' t' hI hk hb)
    (fun _ _ _ _ _ h => h)
    (fun t _ _ _ acc _ acc' t' hI hk _ _ hb => hbody t _ _ _ acc acc' t' hI hk hb)
    (fun _ _ _ h => h) keys order a₀ r s' h hs).choose_spec.1

/-- A `goRange` over an order that lists each key once, whose bodies leave under their key nothing,
the entry produced, or an entry numbered `N` or above, while every entry live at the start is
numbered below `N`: no key is produced twice, so `I` needs to be kept only by the bodies run on a
key not produced before. -/
theorem goRange_once (hframe : KeepsOthers live body)
    {I : Machine → β → List (String × Nat) → Prop} {N : Nat}
    (hbody : ∀ t k n v acc produced acc' t', I t acc produced → live t k = some (n, v) →
      (∀ m, (k, m) ∉ produced) → (body k v acc).exec t = (.ok acc', t') →
      I t' acc' ((k, n) :: produced))
    (hfresh : ∀ t acc produced k m e, I t acc produced → (k, m) ∈ produced → live t k = some e →
      (k, e.1) ∈ produced ∨ N ≤ e.1)
    (keys : Machine → List String) {order : List String} (horder : order.Nodup) {a₀ r : β}
    {s s' : Machine} (hstart : ∀ k e, live s k = some e → e.1 < N)
    (h : (goRange keys live body order a₀).exec s = (.ok r, s')) (hs : I s a₀ []) :
    ∃ produced, I s' r produced ∧
      ∀ k ∈ keys s, ∀ n v, live s k = some (n, v) → (k, n) ∈ produced := by
  refine @goRange_ok _ _ _ _ hframe
    (fun ks t acc produced => ks.Nodup ∧ (∀ p ∈ produced, p.1 ∉ ks) ∧ I t acc produced) I s
    ?_ ?_ ?_ (fun _ _ _ h => h.2.2) keys order a₀ r s' h
    ⟨horder, fun _ h => absurd h (List.not_mem_nil _), hs⟩
  · intro k ks t n v acc produced acc' t' ⟨hnd, hout, hI⟩ hk _ hb
    have hnd' := List.nodup_cons.1 hnd
    refine ⟨hnd'.2, fun p hp => ?_, hbody t k n v acc produced acc' t' hI hk
      (fun m hm => hout _ hm (List.mem_cons_self _ _)) hb⟩
    rcases List.mem_cons.1 hp with rfl | hp
    · exact hnd'.1
    · exact fun h => hout p hp (List.mem_cons_of_mem _ h)
  · intro k ks t acc produced ⟨hnd, hout, hI⟩
    exact ⟨(List.nodup_cons.1 hnd).2, fun p hp h => hout p hp (List.mem_cons_of_mem _ h), hI⟩
  · intro t k n v acc produced acc' t' hI hk ⟨v₀, hk₀⟩ hn hb
    refine hbody t k n v acc produced acc' t' hI hk (fun m hm => ?_) hb
    rcases hfresh t acc produced k m _ hI hm hk with h | h
    · exact hn h
    · exact absurd (hstart k _ hk₀) (not_lt.2 h)

end Runs

theorem rangePass_returns {V β : Type} (live : Machine → String → Option (Nat × V))
    {body : String → V → β → CtxM β}
    (hbody : ∀ k v acc s, ∃ acc' s', (body k v acc).exec s = (.ok acc', s'))
    (may : String × Nat → Bool) :
    ∀ ks produced acc s, ∃ r s', (rangePass live may body ks produced acc).exec s = (.ok r, s')
  | [], produced, acc, s => ⟨_, _, rfl⟩
  | k :: ks, produced, acc, s => by
    simp only [rangePass, exec_bind, exec_get]
    split
    · next n v _ =>
      split
      · obtain ⟨acc', s', h⟩ := hbody k v acc s
        simp only [exec_bind, h]
        exact rangePass_returns live hbody may ks _ acc' s'
      · exact rangePass_returns live hbody may ks produced acc s
    · exact rangePass_returns live hbody may ks produced acc s

theorem goRange_returns {V β : Type} (live : Machine → String → Option (Nat × V))
    {body : String → V → β → CtxM β}
    (hbody : ∀ k v acc s, ∃ acc' s', (body k v acc).exec s = (.ok acc', s'))
    (keys : Machine → List String) (order : List String) (a₀ : β) (s : Machine) :
    ∃ r s', (goRange keys live body order a₀).exec s = (.ok r, s') := by
  simp only [goRange, exec_bind, exec_get]
  obtain ⟨⟨acc₁, pr₁⟩, s₁, h₁⟩ := rangePass_returns live hbody (fun _ => true) order [] a₀ s
  rw [h₁]
  obtain ⟨⟨acc₂, pr₂⟩, s₂, h₂⟩ := rangePass_returns live hbody
    (fun e => ((keys s).filterMap fun k => (live s k).map fun e => (k, e.1)).contains e)
    (((keys s).filterMap fun k => (live s k).map fun e => (k, e.1)).map (·.1)) pr₁ acc₁ s₁
  simp only [h₂, exec_pure]
  exact ⟨_, _, rfl⟩

theorem forM_ok {α : Type} {P : List α → Machine → Prop} {f : α → CtxM PUnit}
    (hstep : ∀ x xs s s', P (x :: xs) s → (f x).exec s = (.ok (), s') → P xs s') :
    ∀ (xs : List α) {s s' : Machine}, (xs.forM f).exec s = (.ok (), s') → P xs s → P [] s'
  | [], _, _, h, hs => by
    obtain ⟨-, rfl⟩ := Prod.mk.inj h
    exact hs
  | x :: xs, s, s', h, hs => by
    rw [List.forM_cons', exec_bind] at h
    rcases hx : (f x).exec s with ⟨_ | _, t⟩ <;> simp only [hx] at h
    · cases h
    exact forM_ok hstep xs h (hstep x xs s t hs hx)

end Gorb
