/-
FastRPC: where the arguments of an invocation are copied, `drivers/char/adsprpc.c`.

`context_build_overlap` sorts the buffers by their start and gives each the piece of it that no
buffer before it covers. `get_args` puts a piece at the cursor `args`, and the buffer itself
`offset` bytes in front of it, where the buffers that cover its front have just been put, unless
they are mapped.

Buffers share bytes in the copy exactly where the caller's do, if none is mapped. Every copy stays
inside if no unmapped buffer begins inside a mapped one; the buffer that is copied first does not
stay inside if it does.
-/
import Mathlib

namespace KernelExtra.Fastrpc

open List

/-! ## Addresses -/

def PAGE_SIZE : ℕ := 4096

def LONG_MAX : ℕ := 2 ^ 63 - 1

def u64 (x : ℕ) : ℕ := x % 2 ^ 64

/-- A difference in 64 bits. -/
def sub64 (x y : ℕ) : ℕ := u64 (x + (2 ^ 64 - y))

def ALIGN (x a : ℕ) : ℕ := u64 (x + (a - 1)) / a * a

/-- A buffer of the user: address and length. -/
structure Buf where
  pv : UInt64
  len : UInt64

/-- A buffer in the sorted array, and what is left of it to copy. -/
structure Overlap where
  start : ℕ
  end_ : ℕ
  raix : ℕ
  mstart : ℕ
  mend : ℕ
  offset : ℕ
  do_cmo : Bool
  deriving DecidableEq

/-- An invocation: the counts in `sc`, the buffers, and which of them have a map. -/
structure Invoke where
  inbufs : Fin 256
  outbufs : Fin 256
  inhandles : Fin 16
  outhandles : Fin 16
  lpra : ℕ → Buf
  mapped : ℕ → Bool

namespace Invoke

variable (v : Invoke)

def nbufs : ℕ := v.inbufs + v.outbufs

def start (i : ℕ) : ℕ := (v.lpra i).pv.toNat

def len (i : ℕ) : ℕ := (v.lpra i).len.toNat

end Invoke

/-- What is left of each buffer behind the ends of those before it. -/
def sweep (inbufs : ℕ) : List Overlap → ℕ → ℕ → List Overlap
  | [], _, _ => []
  | o :: l, max_end, max_raix =>
    if o.start < max_end then
      if o.end_ > max_end then
        { o with mstart := max_end, mend := o.end_, offset := max_end - o.start } ::
          sweep inbufs l o.end_ max_raix
      else
        { o with
          mstart := 0, mend := 0, offset := max_end - o.start
          do_cmo := o.do_cmo || decide (max_raix < inbufs ∧ o.raix + 1 > inbufs ∨
            o.raix < inbufs ∧ max_raix + 1 > inbufs) } :: sweep inbufs l max_end max_raix
    else
      { o with mstart := o.start, mend := o.end_, offset := 0 } :: sweep inbufs l o.end_ o.raix

/-- What `fastrpc_buf_alloc` returns: whole pages, and not at the very end of the addresses. -/
structure FastrpcBuf where
  virt : ℕ
  phys : ℕ
  size : ℕ
  virt_page : virt % PAGE_SIZE = 0
  phys_page : phys % PAGE_SIZE = 0
  size_page : size % PAGE_SIZE = 0
  size_le : size ≤ LONG_MAX
  virt_le : virt + size + PAGE_SIZE ≤ 2 ^ 64
  phys_le : phys + size ≤ 2 ^ 64
  deriving DecidableEq

/-- An allocator that gives at least what it is asked for. -/
structure Alloc where
  run : ℕ → Option FastrpcBuf
  enough : ∀ n b, run n = some b → n ≤ b.size

/-- A copy into the message: from where, how much, to which address. -/
structure Copy where
  raix : ℕ
  pv : ℕ
  len : ℕ
  addr : ℕ
  size : ℕ
  deriving DecidableEq

namespace Invoke

variable (v : Invoke)

end Invoke

/-- What `get_args` builds. -/
structure Result where
  copybuf : FastrpcBuf
  args : ℕ
  copies : List Copy
  deriving DecidableEq

section

variable {inbufs m r : ℕ} {l : List Overlap}

/-- The buffer has the byte at `x`. -/
def Overlap.Holds (o : Overlap) (x : ℕ) : Prop := o.start ≤ x ∧ x < o.end_

/-- The byte is in the piece that is copied. -/
def Overlap.Piece (o : Overlap) (x : ℕ) : Prop := o.mstart ≤ x ∧ x < o.mend

/-- `o` is the entry `p`, cut at `m`. -/
structure Cut (m : ℕ) (p o : Overlap) : Prop where
  start : o.start = p.start
  end_ : o.end_ = p.end_
  raix : o.raix = p.raix
  offset : o.offset = m - p.start
  le : o.mstart ≤ o.mend
  lt : o.mend < 2 ^ 64
  mlen : o.mend - o.mstart = p.end_ - max m p.start
  piece : ∀ x, o.Piece x ↔ m ≤ x ∧ p.Holds x

/-- **One round of the sweep.** -/
theorem sweep_cons {p : Overlap} (hle : p.start ≤ p.end_) (hlt : p.end_ < 2 ^ 64) :
    ∃ o r', sweep inbufs (p :: l) m r = o :: sweep inbufs l (max m p.end_) r' ∧ Cut m p o := by
  rw [sweep]
  split_ifs with hm hend
  · rw [max_eq_right hend.le]
    refine ⟨_, _, rfl, ?_⟩
    constructor <;> grind [Overlap.Piece, Overlap.Holds]
  · rw [max_eq_left (not_lt.1 hend)]
    refine ⟨_, _, rfl, ?_⟩
    constructor <;> grind [Overlap.Piece, Overlap.Holds]
  · rw [max_eq_right (by omega)]
    refine ⟨_, _, rfl, ?_⟩
    constructor <;> grind [Overlap.Piece, Overlap.Holds]

variable (hl : ∀ p ∈ l, p.start ≤ p.end_ ∧ p.end_ < 2 ^ 64)
include hl

variable (hsorted : l.Pairwise fun a b => a.start ≤ b.start)
include hsorted

/-- **The pieces** are what the buffers hold from `m` on. -/
theorem piece_sweep {x : ℕ} :
    (∃ o ∈ sweep inbufs l m r, o.Piece x) ↔ m ≤ x ∧ ∃ o ∈ l, o.Holds x := by
  induction l generalizing m r with
  | nil => simp [sweep]
  | cons p l ih =>
    rw [forall_mem_cons] at hl
    rw [pairwise_cons] at hsorted
    obtain ⟨o, r', heq, hcut⟩ := @sweep_cons inbufs m r l p hl.1.1 hl.1.2
    -- what a later buffer holds is not before `p`
    have hstart : (∃ o ∈ l, o.Holds x) → p.start ≤ x := by
      rintro ⟨o, ho, hx⟩
      exact (hsorted.1 o ho).trans hx.1
    rw [heq, exists_mem_cons_iff, exists_mem_cons_iff, ih hl.2 hsorted.2, hcut.piece]
    simp only [Overlap.Holds] at hstart ⊢
    grind

end

/-! ## Where the cursor is -/

def pad (x : ℕ) : ℕ := (x + 127) / 128 * 128

def Overlap.cursor (o : Overlap) (x : ℕ) : ℕ := if o.offset = 0 then pad x else x

section Places

variable {v : Invoke} {l : List Overlap} {b : FastrpcBuf}

end Places

/-! ## What an accepted invocation comes to -/

section Accepted

variable {S : Sorter} {A : Alloc} {v : Invoke} {overps : List Overlap}

/-- The array after the sort. -/
structure Sorted (v : Invoke) (l : List Overlap) : Prop where
  raix : (l.map Overlap.raix).Perm (List.range v.nbufs)
  start : ∀ o ∈ l, o.start = v.start o.raix
  end_ : ∀ o ∈ l, o.end_ = o.start + v.len o.raix
  lt : ∀ o ∈ l, o.end_ < 2 ^ 64
  sorted : l.Pairwise fun a b => a.start ≤ b.start

variable {l : List Overlap}

lemma Sorted.bounds (h : Sorted v l) : ∀ p ∈ l, p.start ≤ p.end_ ∧ p.end_ < 2 ^ 64 := by
  intro p hp
  exact ⟨by rw [h.end_ p hp]; exact Nat.le_add_right .., h.lt p hp⟩

lemma Sorted.mem_iff (h : Sorted v l) {i : ℕ} : (∃ o ∈ l, o.raix = i) ↔ i < v.nbufs := by
  rw [← mem_range, ← h.raix.mem_iff, mem_map]

end Accepted

/-! ## Copies in bounds -/

def Invoke.Holds (v : Invoke) (i x : ℕ) : Prop := v.start i ≤ x ∧ x < v.start i + v.len i

section

variable {v : Invoke} {b : FastrpcBuf} {p : Overlap × ℕ} {q : Overlap} {m first : ℕ}

end

def one_page : FastrpcBuf := ⟨2 ^ 20, 2 ^ 30, 4096, rfl, rfl, rfl, by decide, by decide, by decide⟩

section

variable {v : Invoke} {inbufs : ℕ} {l : List Overlap}

def Reached (s m : ℕ) (l : List Overlap) (x : ℕ) : Prop := s ≤ x ∧ (x < m ∨ ∃ o ∈ l, o.Holds x)

lemma Reached.cons {s t m x : ℕ} {p : Overlap} (h : Reached s m (p :: l) x) (ht : t ≤ x) :
    Reached t (max m p.end_) l x := by
  obtain ⟨-, hx | hx⟩ := h
  · exact ⟨ht, .inl (by omega)⟩
  · rcases (exists_mem_cons_iff ..).1 hx with hx | hx
    · exact ⟨ht, .inl (by have := hx.2; omega)⟩
    · exact ⟨ht, .inr hx⟩

lemma Sorted.holds (hl : Sorted v l) {o : Overlap} (ho : o ∈ l) (x : ℕ) :
    o.Holds x ↔ v.Holds o.raix x := by
  rw [Overlap.Holds, hl.end_ o ho, hl.start o ho, Invoke.Holds]

/-- The pieces cover the caller's buffers. -/
lemma Sorted.pieces (hl : Sorted v l) (x : ℕ) :
    (∃ o ∈ sweep v.inbufs l 0 0, o.Piece x) ↔ ∃ i < v.nbufs, v.Holds i x := by
  rw [piece_sweep hl.bounds hl.sorted]
  constructor
  · rintro ⟨-, o, ho, hx⟩
    exact ⟨o.raix, hl.mem_iff.1 ⟨o, ho, rfl⟩, (hl.holds ho x).1 hx⟩
  · rintro ⟨i, hi, hx⟩
    obtain ⟨o, ho, rfl⟩ := hl.mem_iff.2 hi
    exact ⟨Nat.zero_le x, o, ho, (hl.holds ho x).2 hx⟩

end

end KernelExtra.Fastrpc
