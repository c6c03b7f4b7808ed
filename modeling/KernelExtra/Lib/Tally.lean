/-
Tallies: a quantity summed over a finite family of records.

All that is needed is how a tally moves when one record is replaced: `tally_update_add`, without
subtraction, so that it serves `ℕ` and `ℤ` alike.
-/
import Mathlib

namespace KernelExtra.Tally

open Function List

variable {ι α M : Type*} [Fintype ι]

/-- A sum over all indices. -/
def tally [AddCommMonoid M] (φ : α → M) (s : ι → α) : M := ∑ i, φ (s i)

lemma tally_congr [AddCommMonoid M] {φ ψ : α → M} {s t : ι → α}
    (h : ∀ i, φ (s i) = ψ (t i)) : tally φ s = tally ψ t :=
  Finset.sum_congr rfl fun i _ => h i

lemma reading_update_of_eq {ι α β : Type*} [DecidableEq ι] {φ : α → β} {s : ι → α} {i : ι} {a : α}
    (h : φ a = φ (s i)) (j : ι) : φ (update s i a j) = φ (s j) := by
  rcases eq_or_ne j i with rfl | hj
  · rw [update_self, h]
  · rw [update_of_ne hj]

section

variable [DecidableEq ι] [AddCommMonoid M]

/-- **Replacing one record** trades its old reading for the new one. -/
theorem tally_update_add (φ : α → M) (s : ι → α) (i : ι) (a : α) :
    tally φ (update s i a) + φ (s i) = tally φ s + φ a := by
  have hother : ∀ j ∈ Finset.univ.erase i, φ (update s i a j) = φ (s j) := by
    intro j hj
    rw [update_of_ne (Finset.ne_of_mem_erase hj)]
  unfold tally
  rw [← Finset.add_sum_erase _ _ (Finset.mem_univ i),
    ← Finset.add_sum_erase Finset.univ (fun j => φ (s j)) (Finset.mem_univ i),
    Finset.sum_congr rfl hother, update_self]
  abel

lemma tally_update_of_eq {φ : α → M} {s : ι → α} {i : ι} {a : α} (h : φ a = φ (s i)) :
    tally φ (update s i a) = tally φ s :=
  tally_congr fun j => reading_update_of_eq h j

end

lemma le_tally [AddCommMonoid M] [PartialOrder M] [IsOrderedAddMonoid M] {φ : α → M}
    {s : ι → α} (h : ∀ i, 0 ≤ φ (s i)) (i : ι) : φ (s i) ≤ tally φ s :=
  Finset.single_le_sum (fun j _ => h j) (Finset.mem_univ i)

/-! ## Counting in lists -/

theorem countP_set_add {p : α → Bool} {l : List α} {i : ℕ} {x : α} (hi : l[i]? = some x) (a : α) :
    (l.set i a).countP p + (p x).toNat = l.countP p + (p a).toNat := by
  induction l generalizing i with
  | nil => cases hi
  | cons y l ih =>
    cases i with
    | zero =>
      cases hi
      rw [set_cons_zero, countP_cons, countP_cons]
      cases p x <;> cases p a <;> simp
    | succ i =>
      have := ih hi
      rw [set_cons_succ, countP_cons, countP_cons]
      omega

lemma countP_modify {p : α → Bool} {f : α → α} {i : ℕ} (l : List α)
    (h : ∀ x, l[i]? = some x → p (f x) = p x) : (l.modify i f).countP p = l.countP p := by
  induction l generalizing i with
  | nil => rw [modify_nil]
  | cons y l ih =>
    cases i with
    | zero => rw [modify_zero_cons, countP_cons, countP_cons, h y rfl]
    | succ i => rw [modify_succ_cons, countP_cons, countP_cons, ih h]

end KernelExtra.Tally
