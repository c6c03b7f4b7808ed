/-
What the parts of the KGSL driver share, `drivers/gpu/msm/kgsl.h`.

Timestamps wrap at `2 ^ 32`, so `timestamp_cmp` takes `a` to be after `b` when it is less than half
the range ahead. Two values exactly half the range apart are compared by their size.
-/
import Mathlib

namespace KernelExtra.Kgsl

inductive Errno where
  | EINVAL
  | ENOMEM
  | EEXIST
  | ENOENT
  | EDEADLK
  | ERANGE
  | EOPNOTSUPP
  | ETIMEDOUT
  | ERESTARTSYS
  | EPROTO
  | EBUSY
  | ENOSPC
  | ENODATA
  | EMSGSIZE
  deriving DecidableEq

lemma bind_eq_ok {ε α β : Type} {x : Except ε α} {f : α → Except ε β} {b : β} :
    x >>= f = .ok b ↔ ∃ a, x = .ok a ∧ f a = .ok b := by
  cases x with
  | error e => simp [bind, Except.bind]
  | ok a => simp [bind, Except.bind]

lemma map_eq_ok {ε α β : Type} {x : Except ε α} {f : α → β} {b : β} :
    x.map f = .ok b ↔ ∃ a, x = .ok a ∧ f a = b := by
  cases x with
  | error e => simp [Except.map]
  | ok a => simp [Except.map]

def KGSL_TIMESTAMP_WINDOW : UInt32 := 0x80000000

def timestamp_cmp (a b : UInt32) : ℤ :=
  if a = b then 0
  -- greater than, without a rollover between them
  else if a > b ∧ a - b < KGSL_TIMESTAMP_WINDOW then 1
  else
    let a := a + KGSL_TIMESTAMP_WINDOW
    let b := b + KGSL_TIMESTAMP_WINDOW
    if a > b ∧ a - b ≤ KGSL_TIMESTAMP_WINDOW then 1 else -1

lemma timestamp_cmp_eq (a b : UInt32) :
    timestamp_cmp a b =
      if a.toNat = b.toNat then 0
      else if (a.toNat + 2 ^ 32 - b.toNat) % 2 ^ 32 < 2 ^ 31 ∨
          (a.toNat + 2 ^ 32 - b.toNat) % 2 ^ 32 = 2 ^ 31 ∧ a.toNat < b.toNat then 1
      else -1 := by
  have ha := a.toNat_lt
  have hb := b.toNat_lt
  have hw : KGSL_TIMESTAMP_WINDOW.toNat = 2147483648 := rfl
  unfold timestamp_cmp
  simp only [← UInt32.toNat_inj, UInt32.lt_iff_toNat_lt, UInt32.le_iff_toNat_le, gt_iff_lt,
    UInt32.toNat_add, UInt32.toNat_sub, hw]
  split_ifs <;> omega

@[simp] lemma timestamp_cmp_self (a : UInt32) : timestamp_cmp a a = 0 := by
  simp [timestamp_cmp]

lemma timestamp_cmp_swap (a b : UInt32) : timestamp_cmp b a = - timestamp_cmp a b := by
  have ha := a.toNat_lt
  have hb := b.toNat_lt
  rw [timestamp_cmp_eq, timestamp_cmp_eq]
  split_ifs <;> omega

end KernelExtra.Kgsl
