/-
The FIFOs of the shared-memory transport, `qcom_glink_smem.c`.

The writer moves `head`, the reader `tail`. Two things keep a full FIFO from looking like an empty
one: `glink_smem_tx_avail` holds back sixteen bytes, and the head is always rounded up to a multiple
of eight.
-/
import KernelExtra.Lib.Circular

namespace KernelExtra.Glink

open Bytes Nat UInt32

/-- What `glink_smem_tx_avail` keeps back. -/
def FIFO_FULL_RESERVE : ℕ := 8

def TX_BLOCKED_CMD_RESERVE : ℕ := 8

/-- A FIFO in shared memory, with its two indices. -/
structure Pipe where
  length : ℕ
  tail : UInt32
  head : UInt32
  fifo : Mem

/-! ## Receiving -/

/-- The bytes between tail and head; nothing if they are more than the FIFO has. -/
def glink_smem_rx_avail (pipe : Pipe) : ℕ :=
  let len :=
    if pipe.head < pipe.tail then
      (pipe.length + 2 ^ 64 - pipe.tail.toNat + pipe.head.toNat) % 2 ^ 64
    else pipe.head.toNat - pipe.tail.toNat
  if len > pipe.length then 0 else len

/-- Copies bytes from behind the tail; with a bad tail the buffer keeps what it had. -/
def glink_smem_rx_peak (pipe : Pipe) (old : List UInt8) (offset count : ℕ) : List UInt8 :=
  if pipe.tail.toNat > pipe.length then old
  else
    let tail := ofNat (pipe.tail.toNat + offset)
    let tail := if tail.toNat ≥ pipe.length then tail - ofNat pipe.length else tail
    let len := min count ((pipe.length + 2 ^ 64 - tail.toNat) % 2 ^ 64)
    load pipe.fifo tail.toNat len ++ load pipe.fifo 0 (count - len)

/-- The tail moves on, modulo the length. -/
def glink_smem_rx_advance (pipe : Pipe) (count : ℕ) : Pipe :=
  let tail := ofNat (pipe.tail.toNat + count)
  { pipe with
    tail := if tail.toNat ≥ pipe.length then ofNat (tail.toNat % pipe.length) else tail }

/-! ## Sending -/

/-- The room for writing, in 32 bits, less the two reserves. -/
def glink_smem_tx_avail (pipe : Pipe) : UInt32 :=
  let avail :=
    if pipe.tail ≤ pipe.head then ofNat pipe.length - pipe.head + pipe.tail
    else pipe.tail - pipe.head
  let reserve := ofNat (FIFO_FULL_RESERVE + TX_BLOCKED_CMD_RESERVE)
  let avail := if avail < reserve then 0 else avail - reserve
  if avail.toNat > pipe.length then 0 else avail

/-- The head moves on; the length is taken off once at most. -/
def tx_head (length : ℕ) (head : UInt32) (count : ℕ) : UInt32 :=
  let head := ofNat (head.toNat + count)
  if head.toNat ≥ length then head - ofNat length else head

/-- One piece of a message goes in behind the head. -/
def glink_smem_tx_write_one (length : ℕ) (fifo : Mem) (head : UInt32) (data : List UInt8) :
    Mem × UInt32 :=
  if head.toNat > length then (fifo, head)
  else (wrapStore length fifo head.toNat data, tx_head length head data.length)

/-- The head is rounded up to eight bytes. -/
def tx_align (length : ℕ) (head : UInt32) : UInt32 :=
  let head := ofNat (align8 32 head.toNat)
  if head.toNat ≥ length then head - ofNat length else head

/-- `glink_smem_tx_write` up to its barrier: the bytes are in the FIFO, and the new head is
still to be stored. -/
def glink_smem_tx_fill (pipe : Pipe) (hdr data : List UInt8) : Mem × UInt32 :=
  let (fifo, head) := glink_smem_tx_write_one pipe.length pipe.fifo pipe.head hdr
  let (fifo, head) := glink_smem_tx_write_one pipe.length fifo head data
  (fifo, tx_align pipe.length head)

/-- Header and data go in before the head is stored. -/
def glink_smem_tx_write (pipe : Pipe) (hdr data : List UInt8) : Pipe :=
  let (fifo, head) := glink_smem_tx_fill pipe hdr data
  { pipe with fifo, head }

/-! ## A FIFO with both ends inside -/

/-- The indices are sound, and `used` bytes lie between them. -/
structure Pipe.Spans (pipe : Pipe) (used : ℕ) : Prop where
  small : pipe.length < 2 ^ 32
  inside : pipe.tail.toNat < pipe.length
  room : used < pipe.length
  head_eq : pipe.head.toNat = (pipe.tail.toNat + used) % pipe.length

section Spans

variable {pipe : Pipe} {used : ℕ}

section

variable (h : pipe.Spans used)
include h

/-- The head is ahead of the tail, or has wrapped. -/
lemma Pipe.Spans.head_cases :
    (pipe.tail.toNat + used < pipe.length ∧ pipe.head.toNat = pipe.tail.toNat + used) ∨
      (pipe.length ≤ pipe.tail.toNat + used ∧
        pipe.head.toNat + pipe.length = pipe.tail.toNat + used) := by
  have hin := h.inside
  have hroom := h.room
  rcases lt_or_ge (pipe.tail.toNat + used) pipe.length with hlt | hge
  · exact .inl ⟨hlt, by rw [h.head_eq, mod_eq_of_lt hlt]⟩
  · refine .inr ⟨hge, ?_⟩
    rw [h.head_eq, mod_eq_sub_mod hge, mod_eq_of_lt (by omega)]
    omega

lemma Pipe.Spans.head_lt : pipe.head.toNat < pipe.length := by
  rw [h.head_eq]
  exact mod_lt _ (zero_lt_of_lt h.inside)

/-- With sound indices the functions do what they are for. -/
lemma glink_smem_rx_avail_eq : glink_smem_rx_avail pipe = used := by
  have hsmall := h.small
  have hin := h.inside
  have hroom := h.room
  have hlen : (if pipe.head < pipe.tail then
      (pipe.length + 2 ^ 64 - pipe.tail.toNat + pipe.head.toNat) % 2 ^ 64
      else pipe.head.toNat - pipe.tail.toNat) = used := by
    rcases h.head_cases with ⟨_, hhead⟩ | ⟨_, hhead⟩
    · rw [if_neg (by rw [lt_iff_toNat_lt]; omega)]
      omega
    · rw [if_pos (by rw [lt_iff_toNat_lt]; omega)]
      omega
  simp only [glink_smem_rx_avail, hlen]
  exact if_neg (by omega)

lemma glink_smem_tx_avail_eq : (glink_smem_tx_avail pipe).toNat = pipe.length - used - 16 := by
  have hsmall := h.small
  have hin := h.inside
  have hroom := h.room
  have hfree : (if pipe.tail ≤ pipe.head then ofNat pipe.length - pipe.head + pipe.tail
      else pipe.tail - pipe.head).toNat = (pipe.length - used) % 2 ^ 32 := by
    rcases h.head_cases with ⟨_, hhead⟩ | ⟨_, hhead⟩
    · rw [if_pos (by rw [le_iff_toNat_le]; omega), UInt32.toNat_add, UInt32.toNat_sub, toNat_ofNat']
      omega
    · rw [if_neg (by rw [le_iff_toNat_le]; omega), UInt32.toNat_sub]
      omega
  rw [mod_eq_of_lt (by omega)] at hfree
  have hreserve : (ofNat (FIFO_FULL_RESERVE + TX_BLOCKED_CMD_RESERVE)).toNat = 16 := rfl
  simp only [glink_smem_tx_avail]
  generalize (if pipe.tail ≤ pipe.head then ofNat pipe.length - pipe.head + pipe.tail
    else pipe.tail - pipe.head) = avail at hfree ⊢
  have hcut : (if avail < ofNat (FIFO_FULL_RESERVE + TX_BLOCKED_CMD_RESERVE) then 0
      else avail - ofNat (FIFO_FULL_RESERVE + TX_BLOCKED_CMD_RESERVE)).toNat =
        pipe.length - used - 16 := by
    rcases lt_or_ge avail.toNat 16 with hlt | hge
    · rw [if_pos (by rw [lt_iff_toNat_lt, hreserve]; exact hlt)]
      change 0 = _
      omega
    · rw [if_neg (by rw [lt_iff_toNat_lt, hreserve]; omega),
        UInt32.toNat_sub_of_le _ _ (by rw [le_iff_toNat_le, hreserve]; exact hge), hreserve, hfree]
  rw [if_neg (by rw [hcut]; omega), hcut]

lemma glink_smem_rx_peak_eq (old : List UInt8) (count : ℕ) :
    glink_smem_rx_peak pipe old 0 count =
      wrapLoad pipe.length pipe.fifo pipe.tail.toNat count := by
  have hsmall := h.small
  have hin := h.inside
  have htail : ofNat (pipe.tail.toNat + 0) = pipe.tail := by
    rw [add_zero, UInt32.ofNat_toNat]
  simp only [glink_smem_rx_peak, htail]
  rw [if_neg (by omega), if_neg (by omega), wrapLoad]
  have hleft : (pipe.length + 2 ^ 64 - pipe.tail.toNat) % 2 ^ 64 =
      pipe.length - pipe.tail.toNat := by omega
  rw [hleft]

end

lemma glink_smem_rx_advance_eq {count : ℕ} (hsum : pipe.tail.toNat + count < 2 ^ 32) :
    (glink_smem_rx_advance pipe count).tail.toNat = (pipe.tail.toNat + count) % pipe.length := by
  have htail : (ofNat (pipe.tail.toNat + count)).toNat = pipe.tail.toNat + count := by
    rw [toNat_ofNat', mod_eq_of_lt hsum]
  simp only [glink_smem_rx_advance, htail]
  split
  · have hlt : (pipe.tail.toNat + count) % pipe.length < 2 ^ 32 :=
      lt_of_le_of_lt (mod_le _ _) hsum
    rw [toNat_ofNat', mod_eq_of_lt hlt]
  · rw [htail, mod_eq_of_lt (by omega)]

/-- The head moves on modulo the length, if the sum does not wrap. -/
lemma tx_head_eq {length count : ℕ} {head : UInt32} (hhead : head.toNat < length)
    (hcount : count ≤ length) (hsum : head.toNat + count < 2 ^ 32) (hsmall : length < 2 ^ 32) :
    (tx_head length head count).toNat = (head.toNat + count) % length := by
  have hnew : (ofNat (head.toNat + count)).toNat = head.toNat + count := by
    rw [toNat_ofNat', mod_eq_of_lt hsum]
  have hlength : (ofNat length).toNat = length := by
    rw [toNat_ofNat', mod_eq_of_lt hsmall]
  simp only [tx_head, hnew]
  split
  · next hge =>
    rw [UInt32.toNat_sub_of_le _ _ (by rw [le_iff_toNat_le, hnew, hlength]; exact hge),
      hnew, hlength, mod_eq_sub_mod hge, mod_eq_of_lt (by omega)]
  · rw [hnew, mod_eq_of_lt (by omega)]

lemma tx_align_eq {length : ℕ} {head : UInt32} (hhead : head.toNat < length)
    (hwords : length % 8 = 0) (hsmall : length < 2 ^ 32) :
    (tx_align length head).toNat = pad8 head.toNat % length := by
  have hpad := pad8_spec head.toNat
  have hround : (ofNat (align8 32 head.toNat)).toNat = pad8 head.toNat := by
    rw [align8_eq (by omega), toNat_ofNat', mod_eq_of_lt (by omega)]
  have hlength : (ofNat length).toNat = length := by
    rw [toNat_ofNat', mod_eq_of_lt hsmall]
  simp only [tx_align, hround]
  split
  · next hge =>
    rw [UInt32.toNat_sub_of_le _ _ (by rw [le_iff_toNat_le, hround, hlength]; exact hge),
      hround, hlength, mod_eq_sub_mod hge, mod_eq_of_lt (by omega)]
  · rw [hround, mod_eq_of_lt (by omega)]

end Spans

/-! ## Where a command goes -/

/-- The sums on the way to the new head stay below `2 ^ 32`. -/
def NoCarry (length head hlen dlen : ℕ) : Prop :=
  head + hlen < 2 ^ 32 ∧ (length ≤ head + hlen ∨ head + hlen + dlen < 2 ^ 32)

instance (length head hlen dlen : ℕ) : Decidable (NoCarry length head hlen dlen) :=
  inferInstanceAs (Decidable (_ ∧ _))

section Fill

variable {pipe : Pipe} {hdr data : List UInt8}

variable {length : ℕ} {head : UInt32}

/-- If the sum wraps, the head is short by `2 ^ 32`. -/
lemma tx_head_of_carry {count : ℕ} (hcarry : 2 ^ 32 ≤ head.toNat + count)
    (hlt : head.toNat + count < 2 ^ 32 + length) (hsmall : length < 2 ^ 32) :
    (tx_head length head count).toNat = head.toNat + count - 2 ^ 32 := by
  have hnew : (ofNat (head.toNat + count)).toNat = head.toNat + count - 2 ^ 32 := by
    rw [toNat_ofNat']
    omega
  simp only [tx_head, hnew]
  rw [if_neg (by omega), hnew]

/-- The head after a message. -/
def fill_head (length : ℕ) (head : UInt32) (hlen dlen : ℕ) : UInt32 :=
  tx_align length (tx_head length (tx_head length head hlen) dlen)

section

variable (hhead : head.toNat < length)
include hhead

/-- It is where it should be if no sum wraps. -/
lemma fill_head_eq {hlen dlen : ℕ}
    (hword : head.toNat % 8 = 0) (hwords : length % 8 = 0) (hsmall : length < 2 ^ 32)
    (hfit : pad8 (hlen + dlen) ≤ length) (hcarry : NoCarry length head.toNat hlen dlen) :
    (fill_head length head hlen dlen).toNat = (head.toNat + pad8 (hlen + dlen)) % length := by
  have hpad := pad8_spec (hlen + dlen)
  have hfirst := tx_head_eq hhead (show hlen ≤ length by omega) hcarry.1 hsmall
  have hfirst_lt : (tx_head length head hlen).toNat < length := by
    rw [hfirst]
    exact mod_lt _ (by omega)
  have hsum : (tx_head length head hlen).toNat + dlen < 2 ^ 32 := by
    rw [hfirst]
    rcases hcarry.2 with hwrap | hlt
    · rw [mod_eq_sub_mod hwrap, mod_eq_of_lt (by omega)]
      omega
    · have := mod_le (head.toNat + hlen) length
      omega
  have hsecond := tx_head_eq hfirst_lt (show dlen ≤ length by omega) hsum hsmall
  rw [hfirst, mod_add_mod] at hsecond
  have hsecond_lt : (tx_head length (tx_head length head hlen) dlen).toNat < length := by
    rw [hsecond]
    exact mod_lt _ (by omega)
  rw [fill_head, tx_align_eq hsecond_lt hwords hsmall, hsecond]
  -- rounding up commutes with going around, the length being a multiple of eight
  rcases lt_or_ge (head.toNat + hlen + dlen) length with hlt | hge
  · rw [mod_eq_of_lt hlt]
    congr 1
    rw [pad8, pad8]
    omega
  · have hround : pad8 (head.toNat + hlen + dlen - length) + length =
        head.toNat + pad8 (hlen + dlen) := by
      rw [pad8, pad8]
      omega
    rw [mod_eq_sub_mod hge, mod_eq_of_lt (show head.toNat + hlen + dlen - length < length by
      omega), ← hround, add_mod_right]

/-- And only then. -/
lemma fill_head_of_carry {hlen dlen : ℕ}
    (hword : head.toNat % 8 = 0) (hwords : length % 8 = 0) (hsmall : length < 2 ^ 32)
    (hfit : pad8 (hlen + dlen) < length) (hcarry : ¬ NoCarry length head.toNat hlen dlen) :
    (fill_head length head hlen dlen).toNat ≠ (head.toNat + pad8 (hlen + dlen)) % length := by
  have hpad := pad8_spec (hlen + dlen)
  have hboth : 2 ^ 32 ≤ head.toNat + hlen + dlen ∧
      (tx_head length (tx_head length head hlen) dlen).toNat =
        head.toNat + hlen + dlen - 2 ^ 32 := by
    rcases lt_or_ge (head.toNat + hlen) (2 ^ 32) with hlt | hge
    · rw [NoCarry, not_and_or, not_or, not_lt] at hcarry
      obtain hcarry | ⟨hbefore, hsum⟩ := hcarry
      · omega
      have hfirst := tx_head_eq hhead (show hlen ≤ length by omega) hlt hsmall
      rw [mod_eq_of_lt (by omega)] at hfirst
      refine ⟨by omega, ?_⟩
      rw [tx_head_of_carry (by omega) (by omega) hsmall, hfirst]
    · have hfirst := @tx_head_of_carry length head hlen hge (by omega) hsmall
      refine ⟨by omega, ?_⟩
      rw [tx_head_eq (by omega) (by omega) (by omega) hsmall, hfirst, mod_eq_of_lt (by omega)]
      omega
  obtain ⟨hover, hwrong⟩ := hboth
  rw [fill_head, tx_align_eq (by omega) hwords hsmall, hwrong]
  have hround : pad8 (head.toNat + hlen + dlen - 2 ^ 32) + 2 ^ 32 =
      head.toNat + pad8 (hlen + dlen) := by
    rw [pad8, pad8]
    omega
  rw [mod_eq_of_lt (show pad8 _ < length by omega),
    mod_eq_sub_mod (show length ≤ head.toNat + _ by omega), mod_eq_of_lt (by omega)]
  omega

lemma tx_head_lt {count : ℕ} (hcount : count ≤ length) (hsmall : length < 2 ^ 32) :
    (tx_head length head count).toNat < length := by
  rcases lt_or_ge (head.toNat + count) (2 ^ 32) with hlt | hge
  · rw [tx_head_eq hhead hcount hlt hsmall]
    exact mod_lt _ (by omega)
  · rw [tx_head_of_carry hge (by omega) hsmall]
    omega

lemma glink_smem_tx_write_one_eq {fifo : Mem} (data : List UInt8) :
    glink_smem_tx_write_one length fifo head data =
      (wrapStore length fifo head.toNat data, tx_head length head data.length) :=
  if_neg (not_lt.2 (le_of_lt hhead))

end

lemma glink_smem_tx_fill_eq (hhead : pipe.head.toNat < pipe.length)
    (hlen : hdr.length ≤ pipe.length) (hsmall : pipe.length < 2 ^ 32) :
    glink_smem_tx_fill pipe hdr data =
      (wrapStore pipe.length (wrapStore pipe.length pipe.fifo pipe.head.toNat hdr)
        (tx_head pipe.length pipe.head hdr.length).toNat data,
        fill_head pipe.length pipe.head hdr.length data.length) := by
  simp only [glink_smem_tx_fill, glink_smem_tx_write_one_eq hhead,
    glink_smem_tx_write_one_eq (tx_head_lt hhead hlen hsmall)]
  rfl

/-- In any case the head stays within reach of the message. -/
lemma tx_head_pos {count : ℕ} (hhead : head.toNat < length)
    (hcount : count ≤ length) (hsmall : length < 2 ^ 32) :
    ∃ j ≤ count, (tx_head length head count).toNat = (head.toNat + j) % length ∧
      (head.toNat + count < 2 ^ 32 → j = count) := by
  rcases lt_or_ge (head.toNat + count) (2 ^ 32) with hlt | hge
  · exact ⟨count, le_rfl, tx_head_eq hhead hcount hlt hsmall, fun _ => rfl⟩
  · refine ⟨count + length - 2 ^ 32, by omega, ?_, fun hlt => absurd hge (by omega)⟩
    rw [tx_head_of_carry hge (by omega) hsmall, mod_eq_sub_mod (by omega), mod_eq_of_lt (by omega)]
    omega

/-- **No unread byte is overwritten** by a command that fits. -/
theorem records_fill {used : ℕ} (h : pipe.Spans used) {unread : List (List UInt8)}
    (hunread : Records pad8 pipe.length pipe.fifo pipe.tail.toNat unread)
    (hused : extent pad8 unread = used) (hfit : used + (hdr.length + data.length) ≤ pipe.length) :
    Records pad8 pipe.length (glink_smem_tx_fill pipe hdr data).1 pipe.tail.toNat unread := by
  have hpad : ∀ k, k ≤ pad8 k := fun k => (pad8_spec k).1
  obtain ⟨j, hj, hpos, -⟩ := tx_head_pos h.head_lt (show hdr.length ≤ pipe.length by omega) h.small
  rw [glink_smem_tx_fill_eq h.head_lt (by omega) h.small, hpos, h.head_eq, mod_add_mod, add_assoc]
  exact (hunread.keep hpad (le_of_eq hused) (by omega)).keep hpad (by omega) (by omega)

/-- A message that fits lies behind those that were there. -/
lemma at_fill {used : ℕ} (h : pipe.Spans used)
    (hfit : used + (hdr.length + data.length) ≤ pipe.length)
    (hcarry : NoCarry pipe.length pipe.head.toNat hdr.length data.length) :
    At pipe.length (glink_smem_tx_fill pipe hdr data).1 (pipe.tail.toNat + used) (hdr ++ data) := by
  have hfirst := tx_head_eq h.head_lt (show hdr.length ≤ pipe.length by omega) hcarry.1 h.small
  rw [glink_smem_tx_fill_eq h.head_lt (by omega) h.small, hfirst, h.head_eq, mod_add_mod]
  have hhdr := (At.nil pipe.length pipe.fifo (pipe.tail.toNat + used)).store
    (show [].length + hdr.length ≤ pipe.length by rw [List.length_nil]; omega)
  rw [List.length_nil, add_zero, List.nil_append] at hhdr
  exact hhdr.store (by omega)

end Fill

end KernelExtra.Glink
