/-
Bytes in memory, and the accesses a parser makes.

Memory is a function of the offset: reading past the end of a buffer yields whatever is there.
Functions return the list of their accesses as well, and `Access.Inside` is asked of each.
-/
import Mathlib

namespace KernelExtra.Bytes

open List Nat

/-- Memory, byte by byte. -/
abbrev Mem := ℕ → UInt8

/-- The `n` bytes from `off` on, as a little-endian number. -/
def le (mem : Mem) (off : ℕ) : ℕ → ℕ
  | 0 => 0
  | n + 1 => (mem off).toNat + 256 * le mem (off + 1) n

/-- The number fits its bytes. -/
lemma le_lt (mem : Mem) (off n : ℕ) : le mem off n < 256 ^ n := by
  induction n generalizing off with
  | zero => exact one_pos
  | succ n ih =>
    have hbyte := (mem off).toNat_lt
    have hrest := ih (off + 1)
    rw [le, pow_succ]
    omega

variable {mem : Mem} {off : ℕ}

/-- Only the bytes that are read count. -/
lemma le_congr {mem' : Mem} {off' n : ℕ}
    (h : ∀ i < n, mem (off + i) = mem' (off' + i)) : le mem off n = le mem' off' n := by
  induction n generalizing off off' with
  | zero => rfl
  | succ n ih =>
    have hhead : mem off = mem' off' := h 0 (succ_pos n)
    rw [le, le, hhead, ih]
    intro i hi
    have := h (i + 1) (succ_lt_succ hi)
    rwa [add_comm i 1, ← add_assoc, ← add_assoc] at this

/-- The `n` bytes of a number, little-endian. -/
def toLe : ℕ → ℕ → List UInt8
  | 0, _ => []
  | n + 1, x => UInt8.ofNat x :: toLe n (x / 256)

@[simp] lemma length_toLe (n x : ℕ) : (toLe n x).length = n := by
  induction n generalizing x with
  | zero => rfl
  | succ n ih => rw [toLe, length_cons, ih]

/-- Reading back what was written, wherever it stands. -/
lemma le_getD_toLe (front back : List UInt8) (n x : ℕ) :
    le (fun i => (front ++ (toLe n x ++ back)).getD i 0) front.length n = x % 256 ^ n := by
  induction n generalizing front x with
  | zero => rw [pow_zero, mod_one, le]
  | succ n ih =>
    have hhead : (front ++ (toLe (n + 1) x ++ back)).getD front.length 0 = UInt8.ofNat x := by
      rw [toLe, getD_append_right _ _ _ _ (le_rfl), Nat.sub_self]
      rfl
    have hrest := ih (front ++ [UInt8.ofNat x]) (x / 256)
    rw [length_append, length_singleton, append_assoc] at hrest
    rw [le, hhead, toLe, cons_append]
    rw [show front ++ UInt8.ofNat x :: (toLe n (x / 256) ++ back) =
      front ++ ([UInt8.ofNat x] ++ (toLe n _ ++ back)) from rfl, hrest,
      UInt8.toNat_ofNat', pow_succ' (n := n), mod_mul]

/-! ## Copies -/

/-- The `n` bytes from `off` on. -/
def load (mem : Mem) (off n : ℕ) : List UInt8 := (List.range n).map fun i => mem (off + i)

/-- Memory with `l` at `off`. -/
def store (mem : Mem) (off : ℕ) (l : List UInt8) : Mem := fun j =>
  if off ≤ j ∧ j < off + l.length then l.getD (j - off) 0 else mem j

@[simp] lemma length_load (mem : Mem) (off n : ℕ) : (load mem off n).length = n := by
  rw [load, length_map, length_range]

lemma getElem_load (mem : Mem) (off n i : ℕ) (hi : i < (load mem off n).length) :
    (load mem off n)[i] = mem (off + i) := by
  simp [load]

lemma getD_load {n i : ℕ} {d : UInt8} (hi : i < n) : (load mem off n).getD i d = mem (off + i) := by
  rw [getD_eq_getElem _ _ (by rwa [length_load]), getElem_load]

@[simp] lemma load_zero (mem : Mem) (off : ℕ) : load mem off 0 = [] := rfl

/-- A read in two pieces. -/
lemma load_add (mem : Mem) (off m n : ℕ) :
    load mem off (m + n) = load mem off m ++ load mem (off + m) n := by
  simp only [load, range_add, map_append, map_map, append_cancel_left_eq]
  apply map_congr_left
  intro i _
  rw [Function.comp, add_assoc]

/-- Only the bytes that are read count. -/
lemma load_congr {mem' : Mem} {n : ℕ} (h : ∀ i < n, mem (off + i) = mem' (off + i)) :
    load mem off n = load mem' off n := by
  apply map_congr_left
  intro i hi
  exact h i (mem_range.mp hi)

@[simp] lemma store_nil (mem : Mem) (off : ℕ) : store mem off [] = mem := by
  funext j
  rw [store, if_neg (by rw [length_nil]; omega)]

variable {l : List UInt8}

/-- Bytes before are as they were, and so are bytes behind. -/
lemma store_of_lt {j : ℕ} (h : j < off) : store mem off l j = mem j := by
  rw [store, if_neg (by omega)]

lemma store_of_ge {j : ℕ} (h : off + l.length ≤ j) : store mem off l j = mem j := by
  rw [store, if_neg (by omega)]

/-- And those between are the new ones. -/
lemma store_add {i : ℕ} (hi : i < l.length) : store mem off l (off + i) = l[i] := by
  rw [store, if_pos (by omega), Nat.add_sub_cancel_left, getD_eq_getElem _ _ hi]

/-- Reading back what was stored. -/
lemma load_store_self (mem : Mem) (off : ℕ) (l : List UInt8) :
    load (store mem off l) off l.length = l := by
  apply ext_getElem
  · exact length_load ..
  · intro i _ hi
    rw [getElem_load, store_add hi]

/-- Storing at the end of what is there. -/
lemma load_store_append (mem : Mem) (off n : ℕ) (l : List UInt8) :
    load (store mem (off + n) l) off (n + l.length) = load mem off n ++ l := by
  rw [load_add, load_store_self]
  congr 1
  apply load_congr
  intro i hi
  exact store_of_lt (by omega)

/-! ## Accesses -/

/-- The bytes of one access, by offset and length. -/
structure Access where
  off : ℕ
  len : ℕ
  deriving DecidableEq

/-- The access is inside an object of `n` bytes. -/
def Access.Inside (a : Access) (n : ℕ) : Prop := a.off + a.len ≤ n

instance (a : Access) (n : ℕ) : Decidable (a.Inside n) := inferInstanceAs (Decidable (_ ≤ _))

/-- Rounding up to words in `w` bits, where the sum may wrap. -/
def align4 (w x : ℕ) : ℕ := (x + 3) % 2 ^ w / 4 * 4

/-- It rounds up as long as it does not wrap. -/
lemma align4_eq {w x : ℕ} (h : x + 3 < 2 ^ w) :
    x ≤ align4 w x ∧ align4 w x ≤ x + 3 ∧ align4 w x % 4 = 0 := by
  rw [align4, mod_eq_of_lt h]
  omega

/-- Rounding up to eight bytes. -/
def pad8 (x : ℕ) : ℕ := (x + 7) / 8 * 8

lemma pad8_spec (x : ℕ) : x ≤ pad8 x ∧ pad8 x ≤ x + 7 ∧ pad8 x % 8 = 0 := by
  rw [pad8]
  omega

/-- The same in `w` bits, where the sum may wrap. -/
def align8 (w x : ℕ) : ℕ := (x + 7) % 2 ^ w / 8 * 8

lemma align8_eq {w x : ℕ} (h : x + 7 < 2 ^ w) : align8 w x = pad8 x := by
  rw [align8, pad8, mod_eq_of_lt h]

/-- The `int` that 32 bits stand for. -/
def int32 (x : ℕ) : ℤ := if x % 2 ^ 32 < 2 ^ 31 then (x % 2 ^ 32 : ℕ) else (x % 2 ^ 32 : ℕ) - 2 ^ 32

/-- Only the low 32 bits count. -/
lemma int32_mod (x : ℕ) : int32 (x % 2 ^ 32) = int32 x := by
  rw [int32, int32, mod_mod]

lemma int32_range (x : ℕ) : -2 ^ 31 ≤ int32 x ∧ int32 x < 2 ^ 31 := by
  unfold int32
  split <;> omega

lemma int32_emod (x : ℕ) : int32 x % 2 ^ 32 = (x : ℤ) % 2 ^ 32 := by
  unfold int32
  split <;> omega

/-- A number is read back if it is an `int`. -/
lemma int32_eq_iff (x n : ℕ) (hmod : x % 2 ^ 32 = n % 2 ^ 32) : int32 x = (n : ℤ) ↔ n < 2 ^ 31 := by
  rw [int32, hmod]
  constructor
  · intro h
    split at h <;> omega
  · intro h
    have hn : n % 2 ^ 32 = n := mod_eq_of_lt (by omega)
    rw [hn, if_pos h]

end KernelExtra.Bytes
