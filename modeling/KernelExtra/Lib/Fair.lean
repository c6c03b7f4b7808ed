/-
Infinite runs, and what must happen along them.

`LeadsTo` says that one condition is always followed by another, at once or later. There are two
rules to prove it: a rank that no step raises and that every helpful input lowers, with helpful
inputs that keep coming; and, as a case of that, a queue that keeps being popped.
-/
import Mathlib

namespace KernelExtra.Fair

variable {σ α : Type*}

/-- The states of an infinite run. -/
def trace (step : σ → α → σ) (s : σ) (acts : ℕ → α) : ℕ → σ
  | 0 => s
  | t + 1 => step (trace step s acts t) (acts t)

/-- It happens again and again. -/
def Recurs (acts : ℕ → α) (p : α → Prop) : Prop := ∀ t, ∃ t' ≥ t, p (acts t')

/-- Whenever `P` holds, `Q` holds then or later. -/
def LeadsTo (tr : ℕ → σ) (P Q : σ → Prop) : Prop := ∀ t, P (tr t) → ∃ t' ≥ t, Q (tr t')

variable {tr : ℕ → σ}

lemma LeadsTo.through {P Q R : σ → Prop} (h : LeadsTo tr P fun s => Q s ∨ R s)
    (h' : LeadsTo tr R Q) : LeadsTo tr P Q := by
  intro t ht
  obtain ⟨t₁, hle, hq | hr⟩ := h t ht
  · exact ⟨t₁, hle, hq⟩
  · obtain ⟨t₂, hle', hq⟩ := h' t₁ hr
    exact ⟨t₂, le_trans hle hle', hq⟩

lemma LeadsTo.or {P P' Q : σ → Prop} (h : LeadsTo tr P Q) (h' : LeadsTo tr P' Q) :
    LeadsTo tr (fun s => P s ∨ P' s) Q := by
  rintro t (ht | ht)
  · exact h t ht
  · exact h' t ht

lemma LeadsTo.refl (tr : ℕ → σ) (P : σ → Prop) : LeadsTo tr P P :=
  fun t ht => ⟨t, le_refl t, ht⟩

/-- **The rank rule.** -/
theorem leadsTo_of_rank {acts : ℕ → α} {helpful : α → Prop} {P : ℕ → σ → Prop} {Q : σ → Prop}
    (hkeep : ∀ t n, P n (tr t) → ¬ helpful (acts t) → Q (tr (t + 1)) ∨ ∃ m ≤ n, P m (tr (t + 1)))
    (hhelp : ∀ t n, P n (tr t) → helpful (acts t) → Q (tr (t + 1)) ∨ ∃ m < n, P m (tr (t + 1)))
    (hfair : Recurs acts helpful) (n : ℕ) : LeadsTo tr (P n) Q := by
  have hstep : ∀ t n, P n (tr t) → Q (tr (t + 1)) ∨ ∃ m ≤ n, P m (tr (t + 1)) := by
    intro t n ht
    by_cases hact : helpful (acts t)
    · exact (hhelp t n ht hact).imp_right fun ⟨m, hm, hp⟩ => ⟨m, le_of_lt hm, hp⟩
    · exact hkeep t n ht hact
  induction n using Nat.strongRecOn with
  | ind n ih =>
    intro t ht
    obtain ⟨t', hle, hact⟩ := hfair t
    obtain ⟨gap, rfl⟩ := Nat.exists_eq_add_of_le hle
    -- wait for the helpful input, unless the rank falls before
    induction gap generalizing t with
    | zero =>
      rcases hhelp t n ht hact with hq | ⟨m, hm, hp⟩
      · exact ⟨t + 1, Nat.le_succ t, hq⟩
      · obtain ⟨t₁, hle₁, hq⟩ := ih m hm _ hp
        exact ⟨t₁, by omega, hq⟩
    | succ gap ihgap =>
      rcases hstep t n ht with hq | ⟨m, hm, hp⟩
      · exact ⟨t + 1, Nat.le_succ t, hq⟩
      · rcases lt_or_eq_of_le hm with hlt | rfl
        · obtain ⟨t₁, hle₁, hq⟩ := ih m hlt _ hp
          exact ⟨t₁, by omega, hq⟩
        · have hshift : t + 1 + gap = t + (gap + 1) := by omega
          obtain ⟨t₁, hle₁, hq⟩ := ihgap _ hp (by omega) (by rwa [hshift])
          exact ⟨t₁, by omega, hq⟩

lemma leadsTo_of_helpful {acts : ℕ → α} {helpful : α → Prop} {P Q : σ → Prop}
    (hkeep : ∀ t, P (tr t) → ¬ helpful (acts t) → Q (tr (t + 1)) ∨ P (tr (t + 1)))
    (hhelp : ∀ t, P (tr t) → helpful (acts t) → Q (tr (t + 1)))
    (hfair : Recurs acts helpful) : LeadsTo tr P Q := by
  refine leadsTo_of_rank (P := fun _ => P) (fun t n ht hact => ?_) (fun t n ht hact => ?_) hfair 0
  · exact (hkeep t ht hact).imp_right fun hp => ⟨n, le_refl n, hp⟩
  · exact .inl (hhelp t ht hact)

/-- **The queue rule.** -/
theorem leadsTo_of_fifo {β : Type*} {acts : ℕ → α} {queue : σ → List β}
    {p : β → Prop} {pop : α → Prop} {R Q : σ → Prop}
    (hR : ∀ t, R (tr t) → R (tr (t + 1)) ∨ Q (tr (t + 1)))
    (hgrow : ∀ t, ¬ pop (acts t) → queue (tr t) <+: queue (tr (t + 1)))
    (hpop : ∀ t, pop (acts t) → queue (tr (t + 1)) = (queue (tr t)).tail)
    (hfront : ∀ t x l, R (tr t) → queue (tr t) = x :: l → p x → pop (acts t) → Q (tr (t + 1)))
    (hfair : Recurs acts pop) : LeadsTo tr (fun s => R s ∧ ∃ x ∈ queue s, p x) Q := by
  -- the rank is the number of elements before it
  let P : ℕ → σ → Prop := fun n s =>
    R s ∧ ∃ l x l', queue s = l ++ x :: l' ∧ p x ∧ l.length = n
  rintro t ⟨hr, x, hx, hp⟩
  obtain ⟨l, l', hq⟩ := List.append_of_mem hx
  refine leadsTo_of_rank (P := P) ?_ ?_ hfair l.length t ⟨hr, l, x, l', hq, hp, rfl⟩
  · rintro t n ⟨hr, l, x, l', hq, hx, rfl⟩ hact
    obtain ⟨new, hnew⟩ := hgrow t hact
    refine (hR t hr).symm.imp_right fun hr' =>
      ⟨_, le_rfl, hr', l, x, l' ++ new, ?_, hx, rfl⟩
    rw [← hnew, hq, List.append_assoc, List.cons_append]
  · rintro t n ⟨hr, l, x, l', hq, hx, rfl⟩ hact
    cases l with
    | nil => exact .inl (hfront t x l' hr hq hx hact)
    | cons y l =>
      refine (hR t hr).symm.imp_right fun hr' => ⟨l.length, by simp, hr', l, x, l', ?_, hx, rfl⟩
      rw [hpop t hact, hq]
      rfl

end KernelExtra.Fair
