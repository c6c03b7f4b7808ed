/-
Runs of a deterministic transition system.

Every subsystem is a state with a total step function `step : σ → α → σ` and a list of inputs.

* `Run.Ok.inv` -- an invariant that every admitted step keeps holds after every admitted run;
* `Run.legal_prefix_good_iff` -- when, besides, a step that is not admitted breaks the property,
  the property holds after every prefix **exactly** when all steps were admitted.
-/
import Mathlib

namespace KernelExtra.Run

variable {σ α : Type*}

/-- The state after the inputs `l`, taken from left to right. -/
def exec (step : σ → α → σ) (s : σ) (l : List α) : σ := l.foldl step s

variable (step : σ → α → σ)

@[simp] lemma exec_nil (s : σ) : exec step s [] = s := rfl

@[simp] lemma exec_cons (s : σ) (a : α) (l : List α) :
    exec step s (a :: l) = exec step (step s a) l := rfl

lemma exec_append (s : σ) (l l' : List α) :
    exec step s (l ++ l') = exec step (exec step s l) l' := List.foldl_append

/-- Every input of the run meets `ok` in the state it is taken in. -/
def Ok (step : σ → α → σ) (ok : σ → α → Prop) : σ → List α → Prop
  | _, [] => True
  | s, a :: l => ok s a ∧ Ok step ok (step s a) l

variable {step : σ → α → σ} {ok : σ → α → Prop}

instance Ok.decidable [∀ s a, Decidable (ok s a)] :
    ∀ (s : σ) (l : List α), Decidable (Ok step ok s l)
  | _, [] => .isTrue trivial
  | s, a :: l =>
    have := Ok.decidable (step s a) l
    inferInstanceAs (Decidable (ok s a ∧ Ok step ok (step s a) l))

variable {I : σ → Prop} {s : σ} {l : List α}

/-- **The invariant rule.** -/
theorem Ok.inv (hstep : ∀ s a, I s → ok s a → I (step s a)) (hs : I s)
    (hok : Ok step ok s l) : I (exec step s l) := by
  induction l generalizing s with
  | nil => exact hs
  | cons a l ih => exact ih (hstep s a hs hok.1) hok.2

lemma exec_inv (hstep : ∀ s a, I s → I (step s a)) (hs : I s) (l : List α) : I (exec step s l) := by
  induction l generalizing s with
  | nil => exact hs
  | cons a l ih => exact ih (hstep s a hs)

lemma ok_congr {ok' : σ → α → Prop} (hstep : ∀ s a, I s → I (step s a))
    (h : ∀ s a, I s → (ok s a ↔ ok' s a)) (hs : I s) (l : List α) :
    Ok step ok s l ↔ Ok step ok' s l := by
  induction l generalizing s with
  | nil => exact .rfl
  | cons a l ih => exact and_congr (h s a hs) (ih (hstep s a hs))

lemma Ok.of_prefix {l' : List α} (hp : l <+: l') (hok : Ok step ok s l') : Ok step ok s l := by
  induction l generalizing s l' with
  | nil => exact trivial
  | cons a l ih =>
    obtain ⟨t, rfl⟩ := hp
    exact ⟨hok.1, ih ⟨t, rfl⟩ hok.2⟩

lemma Ok.of_forall {p : α → Prop} (s : σ) (h : ∀ a ∈ l, p a) : Ok step (fun _ a => p a) s l := by
  induction l generalizing s with
  | nil => exact trivial
  | cons a l ih =>
    rw [List.forall_mem_cons] at h
    exact ⟨h.1, ih _ h.2⟩

lemma Ok.with_states {G : σ → Prop} (hok : Ok step ok s l)
    (h : ∀ l', l' <+: l → G (exec step s l')) :
    Ok step (fun s a => ok s a ∧ G s ∧ G (step s a)) s l := by
  induction l generalizing s with
  | nil => exact trivial
  | cons a l ih =>
    refine ⟨⟨hok.1, h [] (by simp), h [a] (by simp)⟩, ih hok.2 fun l' hl' => ?_⟩
    exact h _ (List.cons_prefix_cons.mpr ⟨rfl, hl'⟩)

/-- **The rule for defects**, for runs of `legal` inputs. -/
theorem legal_prefix_good_iff {legal : σ → α → Prop} {good : σ → Prop} (hgood : ∀ s, I s → good s)
    (hstep : ∀ s a, I s → legal s a → ok s a → I (step s a))
    (hbad : ∀ s a, I s → legal s a → ¬ ok s a → ¬ good (step s a))
    (hlegal : Ok step legal s l) (hs : I s) :
    (∀ l', l' <+: l → good (exec step s l')) ↔ Ok step ok s l := by
  induction l generalizing s with
  | nil =>
    refine ⟨fun _ => trivial, fun _ l' hl' => ?_⟩
    rw [List.prefix_nil.mp hl']
    exact hgood s hs
  | cons a l ih =>
    constructor
    · intro h
      have ha : ok s a := by
        by_contra hna
        exact hbad s a hs hlegal.1 hna (h [a] (by simp))
      refine ⟨ha, (ih hlegal.2 (hstep s a hs hlegal.1 ha)).mp fun l' hl' => ?_⟩
      exact h _ (List.cons_prefix_cons.mpr ⟨rfl, hl'⟩)
    · rintro ⟨ha, hok⟩ l' hl'
      rcases List.prefix_cons_iff.mp hl' with rfl | ⟨t, rfl, ht⟩
      · exact hgood s hs
      · exact (ih hlegal.2 (hstep s a hs hlegal.1 ha)).mpr hok t ht

lemma prefix_good_iff {good : σ → Prop} (hgood : ∀ s, I s → good s)
    (hstep : ∀ s a, I s → ok s a → I (step s a))
    (hbad : ∀ s a, I s → ¬ ok s a → ¬ good (step s a)) (l : List α) (hs : I s) :
    (∀ l', l' <+: l → good (exec step s l')) ↔ Ok step ok s l :=
  legal_prefix_good_iff hgood (fun s a hi _ => hstep s a hi) (fun s a hi _ => hbad s a hi)
    (Ok.of_forall s fun _ _ => trivial) hs

end KernelExtra.Run
