/-
Ring buffers with a head and a tail index.

Both indices advance modulo the number `n` of slots. They agree both when the ring is empty and when
`n` elements are in it; `push` does not see to that. `Holds` says that a ring holds a list, and each
operation has one rule that says what list it makes of which.
-/
import Mathlib

namespace KernelExtra

open Function List Nat

/-- Slots with two indices. -/
structure Ring (α : Type*) where
  slots : ℕ → Option α
  head : ℕ
  tail : ℕ

namespace Ring

variable {α : Type*} (n : ℕ)

/-- The index after `i`. -/
def next (i : ℕ) : ℕ := (i + 1) % n

def prev (i : ℕ) : ℕ := if i = 0 then n - 1 else i - 1

section

variable (r : Ring α)

/-- Behind the last element. -/
def push (a : α) : Ring α :=
  { r with slots := update r.slots r.tail (some a), tail := next n r.tail }

def pop : Ring α := { r with head := next n r.head }

/-- Back in front of the first one. -/
def unpop (a : α) : Ring α :=
  { r with slots := update r.slots (prev n r.head) (some a), head := prev n r.head }

/-- The number of elements, from the indices. -/
def length : ℕ := (r.tail + n - r.head) % n

def toList : List α :=
  (List.range (r.length n)).filterMap fun i => r.slots ((r.head + i) % n)

end

def modify (f : α → α) (r : Ring α) : Ring α :=
  { r with slots := fun j =>
      if (j + n - r.head) % n < r.length n then (r.slots j).map f else r.slots j }

/-- The ring holds the list, oldest element first. -/
structure Holds (r : Ring α) (l : List α) : Prop where
  head_lt : r.head < n
  room : l.length < n
  tail_eq : r.tail = (r.head + l.length) % n
  slot : ∀ i (hi : i < l.length), r.slots ((r.head + i) % n) = some l[i]

variable {n} {r : Ring α} {l : List α} {a : α}

/-! ## Indices -/

/-- Positions within one turn are different slots. -/
lemma offset_inj {h i j : ℕ} (hi : i < n) (hj : j < n) (heq : (h + i) % n = (h + j) % n) :
    i = j := by
  have : i % n = j % n := Nat.ModEq.add_left_cancel' h heq
  rwa [mod_eq_of_lt hi, mod_eq_of_lt hj] at this

lemma offset_eq {h i : ℕ} (hh : h < n) (hi : i < n) : ((h + i) % n + n - h) % n = i := by
  rcases lt_or_ge (h + i) n with hlt | hge
  · rw [mod_eq_of_lt hlt, show h + i + n - h = i + n by omega, add_mod_right, mod_eq_of_lt hi]
  · have hsub : (h + i) % n = h + i - n := by
      rw [mod_eq_sub_mod hge, mod_eq_of_lt (by omega)]
    rw [hsub, show h + i - n + n - h = i by omega, mod_eq_of_lt hi]

lemma next_add {h i : ℕ} : (next n h + i) % n = (h + (i + 1)) % n := by
  rw [next, mod_add_mod]
  congr 1
  omega

lemma prev_lt {h : ℕ} (hh : h < n) : prev n h < n := by
  unfold prev
  split <;> omega

lemma next_prev {h : ℕ} (hh : h < n) : next n (prev n h) = h := by
  unfold next prev
  split
  · rw [show n - 1 + 1 = n by omega, mod_self]
    omega
  · rw [show h - 1 + 1 = h by omega, mod_eq_of_lt hh]

/-! An index may also be a count that runs on and is only reduced to find a slot. -/

/-- The same for counts that are never reset. -/
lemma count_inj {i j : ℕ} (hij : i ≤ j) (hj : j < i + n) (heq : i % n = j % n) : i = j := by
  have h0 : (i + 0) % n = (i + (j - i)) % n := by
    rw [add_zero, heq, show i + (j - i) = j by omega]
  have := offset_inj (by omega) (by omega) h0
  omega

lemma count_succ (hn : 0 < n) (i : ℕ) : (i + 1) % n = if i % n + 1 = n then 0 else i % n + 1 := by
  have hlt := mod_lt i hn
  rw [← mod_add_mod]
  split_ifs with h
  · rw [h, mod_self]
  · exact mod_eq_of_lt (by omega)

lemma count_sub {i j : ℕ} (hij : i ≤ j) (hj : j < i + n) : (j % n + n - i % n) % n = j - i := by
  have hj' : j % n = (i % n + (j - i)) % n := by
    rw [mod_add_mod, show i + (j - i) = j by omega]
  rw [hj', offset_eq (mod_lt i (by omega)) (by omega)]

/-! ## Reading back -/

lemma Holds.length_eq (h : Holds n r l) : r.length n = l.length := by
  rw [length, h.tail_eq, offset_eq h.head_lt h.room]

lemma Holds.head_eq_tail_iff (h : Holds n r l) : r.head = r.tail ↔ l = [] := by
  have hlen := h.length_eq
  constructor
  · intro heq
    rw [length, ← heq, show r.head + n - r.head = n by omega, mod_self] at hlen
    exact length_eq_zero_iff.mp hlen.symm
  · rintro rfl
    rw [h.tail_eq, length_nil, add_zero, mod_eq_of_lt h.head_lt]

/-- The first element is at the head. -/
lemma Holds.front (h : Holds n r (a :: l)) : r.slots r.head = some a := by
  have := h.slot 0 (by simp)
  rwa [add_zero, mod_eq_of_lt h.head_lt] at this

/-! ## The operations -/

lemma Holds.empty (h : r.head < n) (heq : r.head = r.tail) : Holds n r [] where
  head_lt := h
  room := by rw [length_nil]; omega
  tail_eq := by rw [length_nil, add_zero, mod_eq_of_lt h, heq]
  slot i hi := by simp at hi

/-- The operations of the ring are those of the list. -/
lemma Holds.push (h : Holds n r l) (hroom : l.length + 1 < n) :
    Holds n (r.push n a) (l ++ [a]) where
  head_lt := h.head_lt
  room := by simpa using hroom
  tail_eq := by
    change next n r.tail = _
    rw [h.tail_eq, next, mod_add_mod, length_append, length_singleton, add_assoc]
    rfl
  slot i hi := by
    rw [length_append, length_singleton] at hi
    change update r.slots r.tail (some a) ((r.head + i) % n) = _
    by_cases hlast : i = l.length
    · subst hlast
      rw [h.tail_eq, update_self]
      simp
    · -- the tail is not one of the slots in use
      have hne : (r.head + i) % n ≠ r.tail := by
        rw [h.tail_eq]
        intro heq
        exact hlast (offset_inj (by omega) (by omega) heq)
      rw [update_of_ne hne, h.slot i (by omega), getElem_append_left (by omega)]

/-- Several elements may be written at once, as long as nothing else changes. -/
lemma Holds.append {m : List α} {slots : ℕ → Option α} (h : Holds n r l)
    (hroom : l.length + m.length < n)
    (hnew : ∀ i (hi : i < m.length), slots ((r.tail + i) % n) = some m[i])
    (hold : ∀ j, (∀ i < m.length, j ≠ (r.tail + i) % n) → slots j = r.slots j) :
    Holds n ⟨slots, r.head, (r.tail + m.length) % n⟩ (l ++ m) where
  head_lt := h.head_lt
  room := by rwa [length_append]
  tail_eq := by
    rw [h.tail_eq, mod_add_mod, length_append, add_assoc]
  slot i hi := by
    rw [length_append] at hi
    change slots ((r.head + i) % n) = _
    rcases lt_or_ge i l.length with hlt | hge
    · rw [getElem_append_left hlt, ← h.slot i hlt]
      apply hold
      intro k hk heq
      rw [h.tail_eq, mod_add_mod, add_assoc] at heq
      have := offset_inj (by omega) (by omega) heq
      omega
    · rw [getElem_append_right hge, ← hnew (i - l.length) (by omega), h.tail_eq,
        mod_add_mod, add_assoc, Nat.add_sub_cancel' hge]

lemma Holds.pop (h : Holds n r (a :: l)) : Holds n (r.pop n) l where
  head_lt := mod_lt _ (zero_lt_of_lt h.head_lt)
  room := by
    have := h.room
    rw [length_cons] at this
    omega
  tail_eq := by
    change r.tail = (next n r.head + l.length) % n
    rw [next_add, h.tail_eq, length_cons]
  slot i hi := by
    change r.slots ((next n r.head + i) % n) = _
    rw [next_add, h.slot (i + 1) (by simpa using hi), getElem_cons_succ]

lemma Holds.drop {m : List α} (h : Holds n r (m ++ l)) :
    Holds n { r with head := (r.head + m.length) % n } l := by
  induction m generalizing r with
  | nil =>
    rw [length_nil, add_zero, mod_eq_of_lt h.head_lt]
    exact h
  | cons a m ih =>
    have hrest := ih h.pop
    have hhead : (next n r.head + m.length) % n = (r.head + (a :: m).length) % n := next_add
    rw [← hhead]
    exact hrest

/-- Reading a ring gives the list it holds. -/
lemma Holds.toList_eq (h : Holds n r l) : r.toList n = l := by
  induction l generalizing r with
  | nil => simp [toList, h.length_eq]
  | cons a l ih =>
    have hrest := ih h.pop
    rw [toList, h.pop.length_eq] at hrest
    have hfront : r.slots ((r.head + 0) % n) = some a := h.slot 0 (succ_pos _)
    rw [toList, h.length_eq, length_cons, range_succ_eq_map]
    simp only [filterMap_cons, hfront, filterMap_map]
    refine congrArg _ (Eq.trans ?_ hrest)
    apply filterMap_congr
    intro i _
    change r.slots ((r.head + (i + 1)) % n) = r.slots ((next n r.head + i) % n)
    rw [next_add]

lemma Holds.unpop (h : Holds n r l) (hroom : l.length + 1 < n) :
    Holds n (r.unpop n a) (a :: l) where
  head_lt := prev_lt h.head_lt
  room := by simpa using hroom
  tail_eq := by
    change r.tail = (prev n r.head + (l.length + 1)) % n
    rw [← next_add, next_prev h.head_lt, h.tail_eq]
  slot i hi := by
    change update r.slots (prev n r.head) (some a) ((prev n r.head + i) % n) = _
    cases i with
    | zero =>
      rw [add_zero, mod_eq_of_lt (prev_lt h.head_lt), update_self]
      rfl
    | succ i =>
      rw [length_cons] at hi
      have hne : (prev n r.head + (i + 1)) % n ≠ prev n r.head := by
        have hzero : (prev n r.head + 0) % n = prev n r.head :=
          mod_eq_of_lt (prev_lt h.head_lt)
        intro heq
        have := offset_inj (by omega) (by omega) (heq.trans hzero.symm)
        omega
      rw [update_of_ne hne, ← next_add, next_prev h.head_lt, h.slot i (by omega)]
      rfl

lemma Holds.modify (h : Holds n r l) (f : α → α) : Holds n (r.modify n f) (l.map f) where
  head_lt := h.head_lt
  room := by simpa using h.room
  tail_eq := by
    rw [length_map]
    exact h.tail_eq
  slot i hi := by
    rw [length_map] at hi
    have hin : i < n := lt_trans hi h.room
    change (if ((r.head + i) % n + n - r.head) % n < r.length n
      then (r.slots ((r.head + i) % n)).map f else r.slots ((r.head + i) % n)) = _
    rw [offset_eq h.head_lt hin, h.length_eq, if_pos hi, h.slot i hi]
    simp

end Ring

end KernelExtra
