/-
A heap of objects of one type.

Addresses are given out once, in order: a pointer that is kept too long always points to nothing,
and looking it up is what tells a use after free from a proper use.
-/
import Mathlib

namespace KernelExtra

/-- Objects by address, and the next address. -/
structure Heap (α : Type*) where
  cell : ℕ → Option α
  next : ℕ
  fresh : ∀ a, next ≤ a → cell a = none

namespace Heap

variable {α : Type*} (h : Heap α)

def empty : Heap α := ⟨fun _ => none, 0, fun _ _ => rfl⟩

lemma lt_next {h : Heap α} {a : ℕ} {v : α} (ha : h.cell a = some v) : a < h.next := by
  by_contra hge
  rw [h.fresh a (not_lt.mp hge)] at ha
  cases ha

/-- A new object, at the next address. -/
def alloc (v : α) : Heap α where
  cell a := if a = h.next then some v else h.cell a
  next := h.next + 1
  fresh a ha := by
    rw [if_neg (Nat.ne_of_gt ha)]
    exact h.fresh a (Nat.le_of_succ_le ha)

/-- Writes to an object, if it is there. -/
def put (a : ℕ) (v : α) : Heap α where
  cell b := if b = a then (h.cell a).map fun _ => v else h.cell b
  next := h.next
  fresh b hb := by
    split
    · rename_i heq
      rw [← heq, h.fresh b hb]
      rfl
    · exact h.fresh b hb

/-- The object is gone, and its address is not used again. -/
def free (a : ℕ) : Heap α where
  cell b := if b = a then none else h.cell b
  next := h.next
  fresh b hb := by
    split
    · rfl
    · exact h.fresh b hb

@[simp] lemma cell_alloc (v : α) (a : ℕ) :
    (h.alloc v).cell a = if a = h.next then some v else h.cell a := rfl

@[simp] lemma next_put (a : ℕ) (v : α) : (h.put a v).next = h.next := rfl

@[simp] lemma next_free (a : ℕ) : (h.free a).next = h.next := rfl

@[simp] lemma cell_free (a b : ℕ) : (h.free a).cell b = if b = a then none else h.cell b := rfl

lemma of_cell_free {h : Heap α} {a b : ℕ} {v : α} (hb : (h.free a).cell b = some v) :
    h.cell b = some v := by
  rw [cell_free] at hb
  split at hb
  · cases hb
  · exact hb

lemma cell_put_of_none {h : Heap α} {b : ℕ} (hb : h.cell b = none) (a : ℕ) (v : α) :
    (h.put a v).cell b = none := by
  change (if b = a then (h.cell a).map fun _ => v else h.cell b) = none
  split
  · rename_i heq
    rw [← heq, hb]
    rfl
  · exact hb

/-- Only the object that is written changes. -/
lemma cell_put {h : Heap α} {a : ℕ} {v : α} (ha : h.cell a = some v) (v' : α) (b : ℕ) :
    (h.put a v').cell b = if b = a then some v' else h.cell b := by
  change (if b = a then (h.cell a).map fun _ => v' else h.cell b) = _
  rw [ha]
  rfl

end Heap

end KernelExtra
