/-
Insertions that can be taken back.

Several elements inserted one after the other by `List.orderedInsert`, and taken out in the same
order, leave no trace. The list need not be sorted: the element behind the first `a` is one that `a`
may precede, so that nothing stops at `a` that would not stop there without it.
-/
import Mathlib

namespace KernelExtra.Insertion

open List

variable {α : Type*} [DecidableEq α] (r : α → α → Prop) [DecidableRel r]

/-- There is an `a`, and the first one may precede what stands behind it. -/
def Settled (a : α) : List α → Prop
  | [] => False
  | b :: l => if b = a then ∀ x ∈ l.head?, r a x else Settled a l

lemma settled_orderedInsert_self [Std.Refl r] (a : α) (l : List α) :
    Settled r a (l.orderedInsert r a) := by
  induction l with
  | nil => simp [Settled]
  | cons b l ih =>
    rw [orderedInsert_cons]
    split
    · rename_i hab
      simp [Settled, hab]
    · rename_i hab
      have hne : b ≠ a := by
        rintro rfl
        exact hab (refl b)
      simpa [Settled, hne] using ih

omit [DecidableEq α] in
lemma mem_head?_orderedInsert {b x : α} {l : List α} (h : x ∈ (l.orderedInsert r b).head?) :
    x = b ∨ x ∈ l.head? := by
  cases l with
  | nil => simpa [eq_comm] using h
  | cons c l =>
    rw [orderedInsert_cons] at h
    split at h <;> simp_all

section

variable {r} [Std.Total r] [IsTrans α r] {a b : α} {l : List α}

omit [IsTrans α r] in
lemma Settled.orderedInsert (h : Settled r a l) (hab : b ≠ a) :
    Settled r a (l.orderedInsert r b) := by
  induction l with
  | nil => exact h.elim
  | cons c l ih =>
    rw [orderedInsert_cons]
    split
    · simpa [Settled, hab] using h
    · rename_i hbc
      rcases eq_or_ne c a with rfl | hc
      · -- the new element went past `a`, so `a` may precede it
        simp only [Settled, if_true] at h ⊢
        intro x hx
        rcases mem_head?_orderedInsert r hx with rfl | hx
        · exact (Std.Total.total x c).resolve_left hbc
        · exact h x hx
      · simp only [Settled, hc, if_false] at h ⊢
        exact ih h

omit [Std.Total r] in
/-- **An insertion commutes** with taking a settled element out. -/
theorem Settled.erase_orderedInsert (h : Settled r a l) (hab : b ≠ a) :
    (l.orderedInsert r b).erase a = (l.erase a).orderedInsert r b := by
  induction l with
  | nil => exact h.elim
  | cons c l ih =>
    rw [orderedInsert_cons]
    rcases eq_or_ne c a with rfl | hc
    · simp only [Settled, if_true] at h
      rw [erase_cons_head]
      split
      · rename_i hbc
        rw [erase_cons_tail (by simpa using hab), erase_cons_head]
        cases l with
        | nil => rfl
        | cons d l => rw [orderedInsert_cons_of_le r l (IsTrans.trans _ _ _ hbc (h d rfl))]
      · rw [erase_cons_head]
    · simp only [Settled, hc, if_false] at h
      rw [erase_cons_tail (by simpa using hc)]
      split
      · rename_i hbc
        rw [erase_cons_tail (by simpa using hab), erase_cons_tail (by simpa using hc),
          orderedInsert_cons_of_le r _ hbc]
      · rename_i hbc
        rw [erase_cons_tail (by simpa using hc), ih h, orderedInsert_of_not_le r _ hbc]

def insertAll (r : α → α → Prop) [DecidableRel r] (as l : List α) : List α :=
  as.foldl (fun l a => l.orderedInsert r a) l

lemma Settled.erase_insertAll {as : List α} (h : Settled r a l) (ha : a ∉ as) :
    (insertAll r as l).erase a = insertAll r as (l.erase a) := by
  induction as generalizing l with
  | nil => rfl
  | cons b as ih =>
    have hab : b ≠ a := fun heq => ha (heq ▸ mem_cons_self)
    have has : a ∉ as := fun hmem => ha (mem_cons_of_mem b hmem)
    exact (ih (h.orderedInsert hab) has).trans (by rw [h.erase_orderedInsert hab]; rfl)

/-- **Insertions taken back in order** leave no trace. -/
theorem foldl_erase_insertAll {as : List α} (has : as.Nodup) (l : List α) :
    as.foldl List.erase (insertAll r as l) = l := by
  induction as generalizing l with
  | nil => rfl
  | cons a as ih =>
    have h := settled_orderedInsert_self r a l
    rw [foldl_cons]
    refine Eq.trans ?_ (ih has.of_cons l)
    congr 1
    exact (h.erase_insertAll has.notMem).trans (by rw [erase_orderedInsert])

end

end KernelExtra.Insertion
