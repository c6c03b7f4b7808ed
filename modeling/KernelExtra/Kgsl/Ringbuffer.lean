/-
Space in the ringbuffer, `adreno_ringbuffer_allocspace`.

The code has positions in the buffer. Counts of dwords since the start say what is unread: `wrote`
up to the write pointer, with those skipped at the end of the buffer, `read` by the GPU, and `seen`
as its read pointer was last written to memory, where the CPU gets it, so that it may be stale.
-/
import KernelExtra.Lib.Run

namespace KernelExtra.Kgsl.Ringbuffer

def KGSL_RB_DWORDS : ℕ := 8192

def u32 (n : ℕ) : ℕ := n % 2 ^ 32

/-- Where the granted dwords start, and the payload of the NOP packet at the write pointer if the
rest of the buffer is skipped. -/
structure Grant where
  start : ℕ
  nop : Option ℕ
  deriving DecidableEq

/-- The grant and the new write pointer, or `-ENOSPC`. -/
def adreno_ringbuffer_allocspace (rptr wptr dwords : ℕ) : Option (Grant × ℕ) :=
  if rptr ≤ wptr ∧ u32 (wptr + dwords) ≤ KGSL_RB_DWORDS - 2 then
    some (⟨wptr, none⟩, u32 (wptr + dwords) % KGSL_RB_DWORDS)
  -- not enough space toward the end, so look from the beginning up to the read pointer
  else if rptr ≤ wptr ∧ dwords < rptr then some (⟨0, some (KGSL_RB_DWORDS - wptr - 1)⟩, dwords)
  else if u32 (wptr + dwords) < rptr then
    some (⟨wptr, none⟩, u32 (wptr + dwords) % KGSL_RB_DWORDS)
  else none

/-- The write pointer, with the words written, read and known to be read since the start. -/
structure State where
  wptr : ℕ
  wrote : ℕ
  read : ℕ
  seen : ℕ

def State.alloc (s : State) : ℕ → Option (Grant × ℕ) :=
  adreno_ringbuffer_allocspace (s.seen % KGSL_RB_DWORDS) s.wptr

/-- Steps of the driver and of the GPU. -/
inductive Act
  | allocspace (dwords : ℕ)
  | gpu_reads (n : ℕ)
  | rptr_written (n : ℕ)

def step (s : State) : Act → State
  | .allocspace dwords =>
    match s.alloc dwords with
    | none => s
    | some (g, wptr) => { s with
      wptr := wptr
      wrote := s.wrote + (if g.nop.isSome then KGSL_RB_DWORDS - s.wptr else 0) + dwords }
  | .gpu_reads n => { s with read := min (s.read + n) s.wrote }
  | .rptr_written n => { s with seen := min (s.seen + n) s.read }

/-- What a grant must be: inside the buffer, off the unread dwords, not up to the read pointer with
something pending, and with a NOP packet that ends with the buffer and can be encoded. -/
def Sound (s : State) : Act → Prop
  | .allocspace dwords => ∀ g wptr, s.alloc dwords = some (g, wptr) →
      g.start + dwords ≤ KGSL_RB_DWORDS ∧
      (∀ k i, s.read + k < s.wrote → i < dwords → (s.read + k) % KGSL_RB_DWORDS ≠ g.start + i) ∧
      (s.read < (step s (.allocspace dwords)).wrote → s.read % KGSL_RB_DWORDS ≠ wptr) ∧
      ∀ n ∈ g.nop, s.wptr + 1 + n = KGSL_RB_DWORDS ∧ 0 < n ∧ n < 2 ^ 14
  | _ => True

/-- The sum of a request with the write pointer is a `u32`. -/
def Fits (s : State) : Act → Prop
  | .allocspace dwords => s.wptr + dwords < 2 ^ 32
  | _ => True

/-- The pointers are the counts, and the driver is never a whole ring ahead. -/
structure Inv (s : State) : Prop where
  wptr : s.wptr = s.wrote % KGSL_RB_DWORDS
  margin : s.wptr ≤ KGSL_RB_DWORDS - 2
  read_le : s.read ≤ s.wrote
  seen_le : s.seen ≤ s.read
  room : s.wrote < s.seen + KGSL_RB_DWORDS

variable {s : State} {g : Grant} {dwords wptr : ℕ}

lemma Inv.grant (h : Inv s) (hfit : s.wptr + dwords < 2 ^ 32)
    (hg : s.alloc dwords = some (g, wptr)) :
    ∃ wrote, wrote = s.wrote + (if g.nop.isSome then KGSL_RB_DWORDS - s.wptr else 0) + dwords ∧
      wrote < s.seen + KGSL_RB_DWORDS ∧ wptr = wrote % KGSL_RB_DWORDS ∧
      wptr = g.start + dwords ∧ wptr ≤ KGSL_RB_DWORDS - 2 ∧
      ∀ n ∈ g.nop, s.wptr + 1 + n = KGSL_RB_DWORDS ∧ 0 < n ∧ n < 2 ^ 14 := by
  obtain ⟨hwptr, hmargin, hread, hseen, hroom⟩ := h
  unfold State.alloc adreno_ringbuffer_allocspace u32 at hg
  unfold KGSL_RB_DWORDS at *
  rw [Nat.mod_eq_of_lt hfit] at hg
  split_ifs at hg with h1 h2 h3 <;> cases hg <;> refine ⟨_, rfl, ?_⟩ <;> simp <;> omega

lemma Inv.sound (h : Inv s) : ∀ a, Fits s a → Sound s a
  | .gpu_reads _, _ => trivial
  | .rptr_written _, _ => trivial
  | .allocspace dwords, hfit => by
    intro g wptr hg
    obtain ⟨wrote, hwrote, hroom, hwptr, hend, hmargin, hnop⟩ := h.grant hfit hg
    have hstep : (step s (.allocspace dwords)).wrote = wrote := by rw [step, hg, hwrote]
    obtain ⟨-, -, hread, hseen, -⟩ := h
    rw [hstep]
    unfold KGSL_RB_DWORDS at *
    exact ⟨by omega, fun k i hk hi => by omega, fun hpending => by omega, hnop⟩

lemma Inv.step (h : Inv s) : ∀ a, Fits s a → Inv (step s a)
  | .gpu_reads n, _ => { h with
    read_le := min_le_right ..
    seen_le := le_min (h.seen_le.trans (Nat.le_add_right ..)) (h.seen_le.trans h.read_le) }
  | .rptr_written n, _ => { h with
    seen_le := min_le_right ..
    room := h.room.trans_le (Nat.add_le_add_right (le_min (Nat.le_add_right ..) h.seen_le) _) }
  | .allocspace dwords, hfit => by
    rw [Ringbuffer.step]
    split
    · exact h
    · next g wptr hg =>
      obtain ⟨wrote, rfl, hroom, hwptr, -, hmargin, -⟩ := h.grant hfit hg
      exact ⟨hwptr, hmargin, h.read_le.trans (by dsimp only; omega), h.seen_le, hroom⟩

def start : State := ⟨0, 0, 0, 0⟩

/-- **Space is never granted over unread commands**, while the sums fit. -/
theorem space_never_over_unread (l : List Act) (hok : Run.Ok step Fits start l) :
    Run.Ok step Sound start l := by
  have h : Inv start := ⟨rfl, by decide, le_rfl, le_rfl, by decide⟩
  revert hok h
  generalize start = s
  induction l generalizing s with
  | nil => exact fun _ _ => trivial
  | cons a l ih => exact fun hok h => ⟨h.sound a hok.1, ih _ hok.2 (h.step a hok.1)⟩

theorem space_after_wrap :
    Run.Ok step Sound start
      [.allocspace 8000, .gpu_reads 7000, .rptr_written 900, .allocspace 500] :=
  space_never_over_unread _
    ⟨by unfold Fits; decide, trivial, trivial, by unfold Fits; decide, trivial⟩

/-- The sum wraps: almost the whole range of a `u32` is granted behind ten dwords. -/
theorem huge_request_granted :
    (step start (.allocspace 10)).alloc (2 ^ 32 - 5) = some (⟨10, none⟩, 5) ∧
      ¬ Sound (step start (.allocspace 10)) (.allocspace (2 ^ 32 - 5)) :=
  ⟨by decide, fun h => absurd (h ⟨10, none⟩ 5 (by decide)).1 (by decide)⟩

end KernelExtra.Kgsl.Ringbuffer
