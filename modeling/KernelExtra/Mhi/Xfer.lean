/-
Transfer completion, `drivers/bus/mhi/core/mhi_main.c`.

An event names a transfer ring element, and `parse_xfer_event` walks both rings until the read
pointer is the element after it. Nothing asks whether that lies between the read and the write
pointer, on an element boundary, or in the ring at all.

The client's callback runs inside the loop and may queue more, and so may the recycling of
pre-allocated buffers; an `Env` says what they do.
-/
import KernelExtra.Lib.Loop
import KernelExtra.Lib.Ring

namespace KernelExtra.Mhi

open Loop (whileLoop)
open List Nat

/-! ## Rings -/

/-- A ring, by addresses. -/
structure MhiRing where
  iommu_base : ℕ
  base : ℕ
  rp : ℕ
  wp : ℕ
  el_size : ℕ
  len : ℕ
  elements : ℕ
  deriving DecidableEq

section

variable (ring : MhiRing)

/-- The write pointer moves on. -/
def mhi_add_ring_element : MhiRing :=
  let wp := ring.wp + ring.el_size
  { ring with wp := if wp ≥ ring.base + ring.len then ring.base else wp }

/-- The read pointer moves on. -/
def mhi_del_ring_element : MhiRing :=
  let rp := ring.rp + ring.el_size
  { ring with rp := if rp ≥ ring.base + ring.len then ring.base else rp }

/-- The number of free elements, as an `int`. -/
def get_nr_avail_ring_elements : ℤ :=
  if ring.wp < ring.rp then ((ring.rp - ring.wp) / ring.el_size : ℕ) - 1
  else
    ((ring.rp - ring.base) / ring.el_size : ℕ) +
      (((ring.base + ring.len - ring.wp) / ring.el_size : ℕ) - 1)

def mhi_is_ring_full : Bool :=
  let tmp := ring.wp + ring.el_size
  (if tmp ≥ ring.base + ring.len then ring.base else tmp) = ring.rp

def mhi_to_virtual (addr : ℕ) : ℕ :=
  ((addr + 2 ^ 64 - ring.iommu_base) % 2 ^ 64 + ring.base) % 2 ^ 64

end

/-! ## Events and channels -/

/-- A transfer event of the device. -/
structure Event where
  ptr : UInt64
  dword0 : UInt32
  dword1 : UInt32
  deriving DecidableEq

def MHI_TRE_GET_EV_CODE (event : Event) : ℕ := ((event.dword0 >>> 24) &&& 0xFF).toNat

def MHI_TRE_GET_EV_LEN (event : Event) : ℕ := (event.dword0 &&& 0xFFFF).toNat

def MHI_EV_CC_EOT : ℕ := 2
def MHI_EV_CC_OVERFLOW : ℕ := 3
def MHI_EV_CC_EOB : ℕ := 4
def MHI_EV_CC_OOB : ℕ := 5
def MHI_EV_CC_DB_MODE : ℕ := 6
def MHI_EV_CC_BAD_TRE : ℕ := 0x11

def MHI_RSC_MIN_CREDITS : ℤ := 8

def tre_size : ℕ := 16

inductive ChState where
  | DISABLED
  | ENABLED
  | RUNNING
  | SUSPENDED
  | STOP
  | ERROR
  deriving DecidableEq

inductive Dir where
  | DMA_TO_DEVICE
  | DMA_FROM_DEVICE
  deriving DecidableEq

/-- The buffer of an element. -/
structure BufInfo where
  len : ℕ
  cb_buf : ℕ
  pre_mapped : Bool
  deriving DecidableEq

structure Result where
  /-- `transaction_status` is `-EOVERFLOW`. -/
  overflow : Bool
  dir : Dir
  buf_addr : ℕ
  bytes_xferd : ℕ
  deriving DecidableEq

/-- A callback, and the rings as it found them. -/
structure Completion where
  tre : ℕ
  result : Result
  len : ℕ
  unmapped : Bool
  /-- The read pointer of the transfer ring was the write pointer. -/
  tre_empty : Bool
  /-- The read pointer of the buffer ring was the write pointer. -/
  buf_empty : Bool
  deriving DecidableEq

/-- A channel with its two rings, and the trace of its callbacks. -/
structure Chan where
  ch_state : ChState
  dir : Dir
  /-- `xfer_type` is `MHI_XFER_RSC_DMA`. -/
  rsc : Bool
  pre_alloc : Bool
  tre_ring : MhiRing
  buf_ring : MhiRing
  /-- The elements of the buffer ring, by address. -/
  bufs : ℕ → BufInfo
  db_mode : Bool
  mode_change : ℕ
  pending_pkts : ℤ
  /-- Trace: how often the doorbell was rung. -/
  doorbells : ℕ
  /-- Trace: the callbacks. -/
  completions : List Completion
  /-- Trace: buffers that could not be recycled. -/
  freed : List ℕ
  /-- Trace: `MHI_ASSERT` was hit. -/
  panicked : Bool

/-- What a callback does. -/
structure Reply where
  queued : List BufInfo
  /-- Nothing but a full ring keeps `mhi_queue_buf` from queueing. -/
  recycle : Bool

/-- What the clients and the power state do. -/
structure Env where
  reply : ℕ → Reply
  /-- `MHI_DB_ACCESS_VALID`. -/
  db_access : Bool

/-- A buffer is queued on both rings. -/
def queue (c : Chan) (info : BufInfo) : Chan :=
  { c with
    bufs := Function.update c.bufs c.buf_ring.wp info
    tre_ring := mhi_add_ring_element c.tre_ring
    buf_ring := mhi_add_ring_element c.buf_ring
    pending_pkts := if c.dir = .DMA_TO_DEVICE then c.pending_pkts + 1 else c.pending_pkts }

def client_queue (c : Chan) (info : BufInfo) : Chan :=
  if mhi_is_ring_full c.tre_ring then c else queue c info

/-- A buffer of the driver is queued again, or freed. -/
def recycle (c : Chan) (ok : Bool) (info : BufInfo) : Chan :=
  if !ok || mhi_is_ring_full c.tre_ring then { c with freed := c.freed ++ [info.cb_buf] }
  else queue c { info with pre_mapped := (c.bufs c.buf_ring.wp).pre_mapped }

/-! ## The loop -/

def xfer_result (c : Chan) (event : Event) (ev_tre : ℕ) : Result :=
  let buf_info := c.bufs c.buf_ring.rp
  -- the last element gets its length from the event
  let xfer_len :=
    if c.tre_ring.rp = ev_tre then MHI_TRE_GET_EV_LEN event else buf_info.len % 2 ^ 16
  { overflow := MHI_TRE_GET_EV_CODE event = MHI_EV_CC_OVERFLOW
    dir := c.dir
    buf_addr := buf_info.cb_buf
    bytes_xferd := min xfer_len (buf_info.len % 2 ^ 16) }

/-- What is reported of the element at the read pointer. -/
def Chan.front (c : Chan) (event : Event) (ev_tre : ℕ) : Completion where
  tre := c.tre_ring.rp
  result := xfer_result c event ev_tre
  len := (c.bufs c.buf_ring.rp).len
  unmapped := !(c.bufs c.buf_ring.rp).pre_mapped
  tre_empty := c.tre_ring.rp = c.tre_ring.wp
  buf_empty := c.buf_ring.rp = c.buf_ring.wp

/-- The element at the front is taken off both rings and reported. -/
def report (event : Event) (ev_tre : ℕ) (c : Chan) : Chan :=
  { c with
    buf_ring := mhi_del_ring_element c.buf_ring
    tre_ring := mhi_del_ring_element c.tre_ring
    completions := c.completions ++ [c.front event ev_tre] }

/-- What follows the callback. -/
def notify (reply : Reply) (slot : ℕ) (c : Chan) : Chan :=
  let c := reply.queued.foldl client_queue c
  let c := { c with
    pending_pkts := if c.dir = .DMA_TO_DEVICE then c.pending_pkts - 1 else c.pending_pkts }
  if c.pre_alloc then recycle c reply.recycle (c.bufs slot) else c

def complete (env : Env) (event : Event) (ev_tre : ℕ) (c : Chan) : Chan :=
  notify (env.reply c.completions.length) c.buf_ring.rp (report event ev_tre c)

def device_rp (ring : MhiRing) (ptr : ℕ) : ℕ :=
  let dev_rp := (mhi_to_virtual ring ptr + tre_size) % 2 ^ 64
  if dev_rp ≥ ring.base + ring.len then ring.base else dev_rp

/-- `mhi_ring_chan_db`, under the conditions of the two doorbell events. -/
def doorbell (env : Env) (ring_db : Bool) (c : Chan) : Chan :=
  let c := { c with db_mode := true, mode_change := c.mode_change + 1 }
  if c.tre_ring.wp ≠ c.tre_ring.rp ∧ env.db_access ∧ ring_db then
    { c with doorbells := c.doorbells + 1 }
  else c

/-- All elements up to the one that the event names are completed. -/
def parse_xfer_event (env : Env) (fuel : ℕ) (c : Chan) (event : Event) : Option Chan :=
  let ev_code := MHI_TRE_GET_EV_CODE event
  if c.ch_state ≠ .ENABLED then some c
  else if ev_code = MHI_EV_CC_OVERFLOW ∨ ev_code = MHI_EV_CC_EOB ∨ ev_code = MHI_EV_CC_EOT then
    let ev_tre := mhi_to_virtual c.tre_ring event.ptr.toNat
    let dev_rp := device_rp c.tre_ring event.ptr.toNat
    whileLoop (fun c => c.tre_ring.rp ≠ dev_rp) (fun _ => false) (complete env event ev_tre)
      fuel c
  else if ev_code = MHI_EV_CC_OOB then
    let n_queued_tre := c.tre_ring.elements - get_nr_avail_ring_elements c.tre_ring
    some (doorbell env (!(c.rsc && decide (n_queued_tre < MHI_RSC_MIN_CREDITS))) c)
  else if ev_code = MHI_EV_CC_DB_MODE then some (doorbell env true c)
  else if ev_code = MHI_EV_CC_BAD_TRE then some { c with panicked := true }
  else some c

/-! ## Well-formed rings -/

/-- The ring has `n` elements, its read pointer is at element `i`, and `k` elements from
there are in flight. -/
structure MhiRing.At (ring : MhiRing) (n i k : ℕ) : Prop where
  el_pos : 0 < ring.el_size
  len_eq : ring.len = ring.el_size * n
  top : ring.base + ring.len < 2 ^ 64
  i_lt : i < n
  k_lt : k < n
  rp_eq : ring.rp = ring.base + ring.el_size * i
  wp_eq : ring.wp = ring.base + ring.el_size * ((i + k) % n)

/-- The element `d` behind the read pointer. -/
def MhiRing.after (ring : MhiRing) (d : ℕ) : ℕ :=
  ring.base + (ring.rp - ring.base + ring.el_size * d) % ring.len

/-- The number of elements between the pointers. -/
def MhiRing.in_flight (ring : MhiRing) : ℕ :=
  (ring.wp + ring.len - ring.rp) % ring.len / ring.el_size

namespace MhiRing.At

variable {ring : MhiRing} {n i k : ℕ}

section

variable (h : ring.At n i k)
include h

lemma after_eq (d : ℕ) : ring.after d = ring.base + ring.el_size * ((i + d) % n) := by
  rw [after, h.rp_eq, Nat.add_sub_cancel_left, h.len_eq, ← mul_add, mul_mod_mul_left]

lemma in_flight_eq : ring.in_flight = k := by
  have hoff : ring.wp + ring.len - ring.rp = ring.el_size * ((i + k) % n + n - i) := by
    rw [h.rp_eq, h.wp_eq, h.len_eq, Nat.mul_sub, mul_add]
    omega
  rw [in_flight, hoff, h.len_eq, mul_mod_mul_left, Ring.offset_eq h.i_lt h.k_lt,
    Nat.mul_div_cancel_left _ h.el_pos]

lemma rp_eq_after_iff {d : ℕ} (hd : d < n) : ring.rp = ring.after d ↔ d = 0 := by
  rw [h.after_eq, h.rp_eq]
  constructor
  · intro heq
    have := Nat.eq_of_mul_eq_mul_left h.el_pos (add_left_cancel heq)
    have hzero : (i + 0) % n = (i + d) % n := by
      rw [← this, add_zero, mod_eq_of_lt h.i_lt]
    exact (Ring.offset_inj (zero_lt_of_lt hd) hd hzero).symm
  · rintro rfl
    rw [add_zero, mod_eq_of_lt h.i_lt]

lemma rp_eq_wp_iff : ring.rp = ring.wp ↔ k = 0 := by
  rw [← h.rp_eq_after_iff h.k_lt, h.after_eq, h.wp_eq]

lemma bump {j : ℕ} (hj : j < n) :
    (if ring.base + ring.el_size * j + ring.el_size ≥ ring.base + ring.len then ring.base
      else ring.base + ring.el_size * j + ring.el_size) =
      ring.base + ring.el_size * ((j + 1) % n) := by
  have hstep : ring.el_size * j + ring.el_size = ring.el_size * (j + 1) := (mul_succ ..).symm
  rw [h.len_eq, add_assoc, hstep]
  split
  · rename_i hge
    have hle := le_of_mul_le_mul_left (le_of_add_le_add_left hge) h.el_pos
    have heq : j + 1 = n := by omega
    rw [heq, mod_self]
    rfl
  · rename_i hlt
    have hne : j + 1 ≠ n := by
      intro heq
      rw [heq] at hlt
      exact hlt (le_rfl)
    rw [mod_eq_of_lt (by omega)]

lemma full_iff : mhi_is_ring_full ring = true ↔ k + 1 = n := by
  have hlt : (i + k) % n < n := mod_lt _ (zero_lt_of_lt h.i_lt)
  have hmod : ((i + k) % n + 1) % n = (i + (k + 1)) % n := by
    rw [mod_add_mod, add_assoc]
  rw [mhi_is_ring_full, decide_eq_true_iff, h.wp_eq, h.bump hlt, hmod, ← h.after_eq, eq_comm]
  obtain hk | hk := lt_or_eq_of_le (succ_le_of_lt h.k_lt)
  · rw [h.rp_eq_after_iff hk]
    omega
  · -- a whole lap leads back
    have : ring.after (k + 1) = ring.rp := by
      rw [h.after_eq, show k + 1 = n from hk, add_mod_right, mod_eq_of_lt h.i_lt, h.rp_eq]
    rw [this]
    exact ⟨fun _ => hk, fun _ => rfl⟩

lemma add (hroom : k + 1 < n) : (mhi_add_ring_element ring).At n i (k + 1) where
  el_pos := h.el_pos
  len_eq := h.len_eq
  top := h.top
  i_lt := h.i_lt
  k_lt := hroom
  rp_eq := h.rp_eq
  wp_eq := by
    have hlt : (i + k) % n < n := mod_lt _ (zero_lt_of_lt h.i_lt)
    change (if ring.wp + ring.el_size ≥ ring.base + ring.len then ring.base
      else ring.wp + ring.el_size) = ring.base + ring.el_size * ((i + (k + 1)) % n)
    rw [h.wp_eq, h.bump hlt, mod_add_mod, add_assoc i]

lemma del_rp : (mhi_del_ring_element ring).rp = ring.base + ring.el_size * ((i + 1) % n) := by
  change (if ring.rp + ring.el_size ≥ ring.base + ring.len then ring.base
    else ring.rp + ring.el_size) = _
  rw [h.rp_eq, h.bump h.i_lt]

end

lemma del (h : ring.At n i (k + 1)) : (mhi_del_ring_element ring).At n ((i + 1) % n) k where
  el_pos := h.el_pos
  len_eq := h.len_eq
  top := h.top
  i_lt := mod_lt _ (zero_lt_of_lt h.i_lt)
  k_lt := lt_of_succ_lt h.k_lt
  rp_eq := h.del_rp
  wp_eq := by
    change ring.wp = ring.base + ring.el_size * (((i + 1) % n + k) % n)
    rw [h.wp_eq, mod_add_mod, add_assoc, add_comm 1 k]

end MhiRing.At

/-! ## What one round does -/

/-- A channel whose rings are well formed and hold the same `k` elements. The buffer ring
is not shorter than the transfer ring. -/
structure Chan.At (c : Chan) (base n i k m j : ℕ) : Prop where
  tre : c.tre_ring.At n i k
  tre_base : c.tre_ring.base = base
  tre_el : c.tre_ring.el_size = tre_size
  buf : c.buf_ring.At m j k
  le : n ≤ m

variable {c : Chan} {n i k : ℕ} {base m j : ℕ}

lemma Chan.At.after_eq (h : c.At base n i k m j) (d : ℕ) :
    c.tre_ring.after d = base + tre_size * ((i + d) % n) := by
  rw [h.tre.after_eq, h.tre_base, h.tre_el]

section

variable {c : Chan} {base n i k m j : ℕ}

variable (h : c.At base n i k m j)
include h

lemma Chan.At.client_queue (info : BufInfo) :
    ∃ k', k ≤ k' ∧ (client_queue c info).At base n i k' m j := by
  unfold Mhi.client_queue
  split
  · exact ⟨k, le_refl k, h⟩
  · rename_i hfull
    have hk : k + 1 < n := by
      have := h.tre.k_lt
      have : k + 1 ≠ n := by
        intro heq
        exact hfull (h.tre.full_iff.mpr heq)
      omega
    have := h.le
    exact ⟨k + 1, by omega, h.tre.add hk, h.tre_base, h.tre_el, h.buf.add (by omega), h.le⟩

lemma Chan.At.foldl_queue (l : List BufInfo) :
    ∃ k', k ≤ k' ∧ (l.foldl Mhi.client_queue c).At base n i k' m j := by
  induction l generalizing c k with
  | nil => exact ⟨k, le_refl k, h⟩
  | cons info l ih =>
    obtain ⟨k', hk', h'⟩ := h.client_queue info
    obtain ⟨k'', hk'', h''⟩ := ih h'
    exact ⟨k'', le_trans hk' hk'', h''⟩

lemma Chan.At.recycle (ok : Bool) (info : BufInfo) :
    ∃ k', k ≤ k' ∧ (recycle c ok info).At base n i k' m j := by
  by_cases hok : (!ok || mhi_is_ring_full c.tre_ring) = true
  · rw [Mhi.recycle, if_pos hok]
    exact ⟨k, le_refl k, h.tre, h.tre_base, h.tre_el, h.buf, h.le⟩
  · have hfull : ¬ mhi_is_ring_full c.tre_ring = true := by
      intro hfull
      exact hok (by rw [hfull, Bool.or_true])
    have := h.client_queue { info with pre_mapped := (c.bufs c.buf_ring.wp).pre_mapped }
    rw [Mhi.client_queue, if_neg hfull] at this
    rw [Mhi.recycle, if_neg hok]
    exact this

lemma Chan.At.notify (reply : Reply) (slot : ℕ) :
    ∃ k', k ≤ k' ∧ (notify reply slot c).At base n i k' m j := by
  obtain ⟨k', hk', h'⟩ := h.foldl_queue reply.queued
  have h'' : Chan.At { reply.queued.foldl Mhi.client_queue c with
      pending_pkts := if (reply.queued.foldl Mhi.client_queue c).dir = .DMA_TO_DEVICE then
        (reply.queued.foldl Mhi.client_queue c).pending_pkts - 1
        else (reply.queued.foldl Mhi.client_queue c).pending_pkts } base n i k' m j :=
    ⟨h'.tre, h'.tre_base, h'.tre_el, h'.buf, h'.le⟩
  unfold Mhi.notify
  dsimp only
  split
  · obtain ⟨k'', hk'', h3⟩ := h''.recycle reply.recycle _
    exact ⟨k'', le_trans hk' hk'', h3⟩
  · exact ⟨k', hk', h''⟩

lemma Chan.At.notify_quiet (slot : ℕ) : (Mhi.notify ⟨[], false⟩ slot c).At base n i k m j := by
  unfold Mhi.notify Mhi.recycle
  simp only [foldl_nil, Bool.not_false, Bool.true_or, if_true]
  split <;> exact ⟨h.tre, h.tre_base, h.tre_el, h.buf, h.le⟩

end

lemma notify_completions (reply : Reply) (slot : ℕ) (c : Chan) :
    (notify reply slot c).completions = c.completions := by
  have hqueue : ∀ (c : Chan) info, (client_queue c info).completions = c.completions := by
    intro c info
    unfold client_queue
    split <;> rfl
  have hfold : ∀ (l : List BufInfo) (c : Chan),
      (l.foldl client_queue c).completions = c.completions := by
    intro l
    induction l with
    | nil => exact fun _ => rfl
    | cons info l ih => exact fun c => (ih _).trans (hqueue c info)
  unfold notify recycle
  dsimp only
  split
  · split <;> exact hfold ..
  · exact hfold ..

/-- The element was in flight, and no more is reported than it holds. -/
def Completion.Sound (x : Completion) : Prop :=
  x.tre_empty = false ∧ x.buf_empty = false ∧ x.result.bytes_xferd ≤ x.len

lemma complete_completions (env : Env) (event : Event) (ev_tre : ℕ) (c : Chan) :
    (complete env event ev_tre c).completions = c.completions ++ [c.front event ev_tre] :=
  notify_completions ..

lemma Chan.At.front_sound (h : c.At base n i (k + 1) m j)
    (event : Event) (ev_tre : ℕ) : (c.front event ev_tre).Sound := by
  refine ⟨?_, ?_, le_trans (min_le_right ..) (mod_le ..)⟩
  · rw [front, decide_eq_false_iff_not, h.tre.rp_eq_wp_iff]
    exact succ_ne_zero k
  · rw [front, decide_eq_false_iff_not, h.buf.rp_eq_wp_iff]
    exact succ_ne_zero k

lemma Chan.At.report (h : c.At base n i (k + 1) m j) (event : Event) (ev_tre : ℕ) :
    (report event ev_tre c).At base n ((i + 1) % n) k m ((j + 1) % m) :=
  ⟨h.tre.del, h.tre_base, h.tre_el, h.buf.del, h.le⟩

/-! ## The loop, from the read pointer to the device's -/

section

variable {event : Event} {ev_tre dev_rp : ℕ}

/-- A device that has come `d` elements further. The induction is on `d`. -/
lemma loop_completes (env : Env) (d : ℕ) {c : Chan} {base n i k m j : ℕ}
    (h : c.At base n i k m j) (hd : d ≤ k) (hdev : dev_rp = c.tre_ring.after d) (fuel : ℕ)
    (hfuel : d < fuel) :
    ∃ c' done, whileLoop (fun c : Chan => c.tre_ring.rp ≠ dev_rp) (fun _ => false)
        (complete env event ev_tre) fuel c = some c' ∧
      c'.completions = c.completions ++ done ∧
      done.map Completion.tre = (List.range d).map c.tre_ring.after ∧
      ∀ x ∈ done, x.Sound := by
  induction d generalizing c i k j fuel with
  | zero =>
    have hrp : c.tre_ring.rp = dev_rp := by
      rw [hdev]
      exact (h.tre.rp_eq_after_iff (zero_lt_of_lt h.tre.i_lt)).mpr rfl
    obtain ⟨fuel, rfl⟩ := exists_eq_succ_of_ne_zero (ne_of_gt hfuel)
    refine ⟨c, [], ?_, (append_nil _).symm, rfl, fun x hx => by cases hx⟩
    simp [whileLoop, hrp]
  | succ d ih =>
    have hlt : d + 1 < n := lt_of_le_of_lt hd h.tre.k_lt
    have hrp : c.tre_ring.rp ≠ dev_rp := by
      rw [hdev, ne_eq, h.tre.rp_eq_after_iff hlt]
      exact succ_ne_zero d
    obtain ⟨fuel, rfl⟩ := exists_eq_succ_of_ne_zero (ne_of_gt (zero_lt_of_lt hfuel))
    obtain ⟨k, rfl⟩ := exists_eq_succ_of_ne_zero (ne_of_gt (lt_of_lt_of_le (succ_pos d) hd))
    obtain ⟨k', hk', hnext⟩ := (h.report event ev_tre).notify
      (env.reply c.completions.length) c.buf_ring.rp
    -- seen from the next element the device is one element nearer
    have hafter : ∀ e, (complete env event ev_tre c).tre_ring.after e =
        c.tre_ring.after (e + 1) := by
      intro e
      rw [complete, hnext.after_eq, h.after_eq, mod_add_mod, add_assoc, add_comm 1 e]
    obtain ⟨c', done, hloop, hcompl, horder, hsound⟩ :=
      ih hnext (by omega) (hdev.trans (hafter d).symm) fuel (by omega)
    refine ⟨c', c.front event ev_tre :: done, ?_, ?_, ?_, ?_⟩
    · rw [whileLoop, if_pos (by simpa using hrp), if_neg (by simp)]
      exact hloop
    · have hc := complete_completions env event ev_tre c
      rw [complete] at hc
      rw [hcompl, hc, append_assoc]
      rfl
    · have hzero : c.tre_ring.after 0 = c.tre_ring.rp :=
        ((h.tre.rp_eq_after_iff (zero_lt_of_lt hlt)).mpr rfl).symm
      have heq : done.map Completion.tre = (range d).map fun e => c.tre_ring.after (e + 1) := by
        rw [horder]
        exact map_congr_left fun e _ => hafter e
      rw [map_cons, heq, range_succ_eq_map, map_cons, map_map, hzero]
      rfl
    · intro x hx
      obtain rfl | hx := mem_cons.mp hx
      · exact h.front_sound event ev_tre
      · exact hsound x hx

def quiet : Env := ⟨fun _ => ⟨[], false⟩, false⟩

/-- Conversely, a loop that ends without having run into the write pointer has stopped at
an element in flight, or at the write pointer. -/
lemma loop_reaches (fuel : ℕ) {c c' : Chan} {base n i k m j : ℕ} {done : List Completion}
    (h : c.At base n i k m j)
    (hloop : whileLoop (fun c : Chan => c.tre_ring.rp ≠ dev_rp) (fun _ => false)
      (complete quiet event ev_tre) fuel c = some c')
    (hcompl : c'.completions = c.completions ++ done) (hsound : ∀ x ∈ done, x.tre_empty = false) :
    ∃ d ≤ k, dev_rp = c.tre_ring.after d := by
  induction fuel generalizing c i k j done with
  | zero => cases hloop
  | succ fuel ih =>
    by_cases hrp : c.tre_ring.rp = dev_rp
    · refine ⟨0, zero_le k, ?_⟩
      rw [← hrp]
      exact (h.tre.rp_eq_after_iff (zero_lt_of_lt h.tre.i_lt)).mpr rfl
    · rw [whileLoop, if_pos (by simpa using hrp), if_neg (by simp)] at hloop
      -- the round has reported the element at the read pointer
      obtain ⟨done', hdone⟩ : (complete quiet event ev_tre c).completions <+: c'.completions := by
        refine Loop.whileLoop_all
          (I := fun s => (complete quiet event ev_tre c).completions <+: s.completions)
          ?_ fuel (prefix_refl _) hloop
        intro s hs
        rw [complete_completions quiet event ev_tre s]
        exact hs.trans (prefix_append _ _)
      have hcons : done = c.front event ev_tre :: done' := by
        rw [complete_completions, hcompl, append_assoc] at hdone
        exact (append_cancel_left hdone).symm
      have hk : k ≠ 0 := by
        have := hsound _ (by rw [hcons]; exact mem_cons_self)
        rwa [Chan.front, decide_eq_false_iff_not, h.tre.rp_eq_wp_iff] at this
      obtain ⟨k, rfl⟩ := exists_eq_succ_of_ne_zero hk
      have hnext := (h.report event ev_tre).notify_quiet c.buf_ring.rp
      obtain ⟨d, hd, hdev⟩ := ih hnext hloop hdone.symm fun x hx =>
        hsound x (by rw [hcons]; exact mem_cons_of_mem _ hx)
      refine ⟨d + 1, succ_le_succ hd, ?_⟩
      rw [hdev, hnext.after_eq, h.after_eq, mod_add_mod, add_assoc, add_comm 1 d]

end

/-! ## Events -/

/-- The rings as the driver keeps them: both well formed, with the same number of elements
in flight, and the buffer ring not shorter than the transfer ring. -/
def Chan.WellFormed (c : Chan) : Prop :=
  ∃ n i k m j, c.At c.tre_ring.base n i k m j

def Event.completes (event : Event) : Prop :=
  MHI_TRE_GET_EV_CODE event = MHI_EV_CC_OVERFLOW ∨ MHI_TRE_GET_EV_CODE event = MHI_EV_CC_EOB ∨
    MHI_TRE_GET_EV_CODE event = MHI_EV_CC_EOT

instance (event : Event) : Decidable event.completes :=
  inferInstanceAs (Decidable (_ ∨ _ ∨ _))

/-- The function returns; the elements it completes are those from the read
pointer on, each of them in flight, on both rings; and no more bytes are reported than the buffer
has. -/
def Tolerated (env : Env) (c : Chan) (event : Event) : Prop :=
  ∃ fuel c' done, parse_xfer_event env fuel c event = some c' ∧
    c'.completions = c.completions ++ done ∧
    done.map Completion.tre = (List.range done.length).map c.tre_ring.after ∧
    (done.map Completion.tre).Nodup ∧ ∀ x ∈ done, x.Sound

/-- What follows the element that an event pointer names is the read pointer, the write pointer or
an element between them. (Past the end of the ring any address is taken for its last element.) -/
def NamesInFlight (ring : MhiRing) (ptr : ℕ) : Prop :=
  ∃ d ≤ ring.in_flight,
    (mhi_to_virtual ring ptr + tre_size) % 2 ^ 64 = ring.after d ∨
      ring.after d = ring.base ∧
        ring.base + ring.len ≤ (mhi_to_virtual ring ptr + tre_size) % 2 ^ 64

lemma MhiRing.At.after_lt {ring : MhiRing} (h : ring.At n i k) (d : ℕ) :
    ring.after d < ring.base + ring.len := by
  refine Nat.add_lt_add_left (mod_lt _ ?_) _
  rw [h.len_eq]
  exact mul_pos h.el_pos (zero_lt_of_lt h.i_lt)

lemma device_rp_eq_after_iff {ring : MhiRing} (h : ring.At n i k) (ptr d : ℕ) :
    device_rp ring ptr = ring.after d ↔
      (mhi_to_virtual ring ptr + tre_size) % 2 ^ 64 = ring.after d ∨
        ring.after d = ring.base ∧
          ring.base + ring.len ≤ (mhi_to_virtual ring ptr + tre_size) % 2 ^ 64 := by
  have hlt := h.after_lt d
  rw [device_rp]
  split
  · rename_i hge
    constructor
    · intro heq
      exact .inr ⟨heq.symm, hge⟩
    · rintro (heq | ⟨heq, -⟩)
      · omega
      · exact heq.symm
  · rename_i hnot
    constructor
    · exact .inl
    · rintro (heq | ⟨-, hge⟩)
      · exact heq
      · exact absurd hge hnot

lemma parse_xfer_event_eq {event : Event} (henabled : c.ch_state = .ENABLED)
    (hcode : event.completes) (env : Env) (fuel : ℕ) :
    parse_xfer_event env fuel c event =
      whileLoop (fun c' : Chan => c'.tre_ring.rp ≠ device_rp c.tre_ring event.ptr.toNat)
        (fun _ => false) (complete env event (mhi_to_virtual c.tre_ring event.ptr.toNat))
        fuel c := by
  unfold Event.completes at hcode
  rw [parse_xfer_event]
  rw [if_neg (by simp [henabled]), if_pos hcode]

/-- **Completion events are tolerated exactly when they name what is in flight.** -/
theorem xfer_event_tolerated_iff (c : Chan) (event : Event) (hc : c.WellFormed)
    (hcode : event.completes) :
    (∀ env, Tolerated env c event) ↔
      c.ch_state ≠ .ENABLED ∨ NamesInFlight c.tre_ring event.ptr.toNat := by
  obtain ⟨n, i, k, m, j, h⟩ := hc
  rw [NamesInFlight, h.tre.in_flight_eq]
  simp only [← device_rp_eq_after_iff h.tre]
  constructor
  · intro htol
    rw [or_iff_not_imp_left, not_not]
    intro henabled
    obtain ⟨fuel, c', done, hparse, hcompl, -, -, hsound⟩ := htol quiet
    rw [parse_xfer_event_eq henabled hcode] at hparse
    exact loop_reaches fuel h hparse hcompl fun x hx => (hsound x hx).1
  · rintro hcond env
    by_cases henabled : c.ch_state = .ENABLED
    · obtain ⟨d, hd, hdev⟩ := hcond.resolve_left (not_not.mpr henabled)
      obtain ⟨c', done, hloop, hcompl, horder, hsound⟩ :=
        loop_completes env d h hd hdev _ (lt_succ_self d)
      have hlen : done.length = d := by
        have := congrArg length horder
        simpa using this
      refine ⟨d + 1, c', done, ?_, hcompl, hlen ▸ horder, ?_, hsound⟩
      · rw [parse_xfer_event_eq henabled hcode]
        exact hloop
      · -- less than a lap
        rw [horder]
        refine List.Nodup.map_on ?_ nodup_range
        intro a ha b hb heq
        rw [mem_range] at ha hb
        rw [h.after_eq, h.after_eq] at heq
        have hmod := Nat.eq_of_mul_eq_mul_left (by decide) (add_left_cancel heq)
        have := h.tre.k_lt
        exact Ring.offset_inj (by omega) (by omega) hmod
    · refine ⟨0, c, [], ?_, (append_nil _).symm, rfl, nodup_nil, fun x hx => by cases hx⟩
      rw [parse_xfer_event]
      rw [if_pos henabled]

def sample_chan (k : ℕ) : Chan where
  ch_state := .ENABLED
  dir := .DMA_FROM_DEVICE
  rsc := false
  pre_alloc := false
  tre_ring := ⟨0x80000000, 0x1000, 0x1000, 0x1000 + 16 * k, 16, 64, 4⟩
  buf_ring := ⟨0, 0x2000, 0x2000, 0x2000 + 56 * k, 56, 224, 4⟩
  bufs := fun slot => ⟨100, slot, false⟩
  db_mode := false
  mode_change := 0
  pending_pkts := 0
  doorbells := 0
  completions := []
  freed := []
  panicked := false

lemma sample_chan_at (hk : k < 4) : (sample_chan k).At 0x1000 4 0 k 4 0 := by
  have hmod : (0 + k) % 4 = k := by omega
  refine ⟨?_, rfl, rfl, ?_, le_refl 4⟩
  · refine ⟨by simp [sample_chan], rfl, by simp [sample_chan], by decide, hk, rfl, ?_⟩
    rw [hmod]
    rfl
  · refine ⟨by simp [sample_chan], rfl, by simp [sample_chan], by decide, hk, rfl, ?_⟩
    rw [hmod]
    rfl

theorem both_transfers_completed :
    (sample_chan 2).tre_ring.in_flight = 2 ∧
      Tolerated quiet (sample_chan 2) ⟨0x80000010, 0x02000028, 0⟩ := by
  refine ⟨by decide +kernel, ?_⟩
  have h := xfer_event_tolerated_iff _ ⟨0x80000010, 0x02000028, 0⟩
    ⟨4, 0, 2, 4, 0, sample_chan_at (by decide)⟩ (by decide +kernel)
  exact h.mpr (.inr ⟨2, by decide +kernel, .inl (by decide +kernel)⟩) quiet

lemma notify_quiet_tre_ring (slot : ℕ) (c : Chan) :
    (notify ⟨[], false⟩ slot c).tre_ring = c.tre_ring := by
  unfold notify recycle
  simp only [foldl_nil, Bool.not_false, Bool.true_or, if_true]
  split <;> rfl

lemma misaligned_never_returns (event : Event) (ev_tre dev_rp : ℕ) (hdev : dev_rp % 16 ≠ 0)
    (hbase : c.tre_ring.base % 16 = 0) (hel : c.tre_ring.el_size = 16)
    (hrp : c.tre_ring.rp % 16 = 0) (fuel : ℕ) :
    whileLoop (fun c : Chan => c.tre_ring.rp ≠ dev_rp) (fun _ => false)
      (complete quiet event ev_tre) fuel c = none := by
  induction fuel generalizing c with
  | zero => rfl
  | succ fuel ih =>
    have hne : c.tre_ring.rp ≠ dev_rp := by
      rintro rfl
      exact hdev hrp
    have hring : (complete quiet event ev_tre c).tre_ring = mhi_del_ring_element c.tre_ring :=
      notify_quiet_tre_ring ..
    rw [whileLoop, if_pos (by simpa using hne), if_neg (by simp)]
    apply ih
    · rw [hring]
      exact hbase
    · rw [hring]
      exact hel
    · rw [hring]
      simp only [mhi_del_ring_element, hel]
      split
      · exact hbase
      · omega

/-- **Two events that are not tolerated.** One is for an element that was never queued; the pointer
of the other is not on an element boundary. -/
theorem event_outside_window :
    ¬ Tolerated quiet (sample_chan 1) ⟨0x80000020, 0x02000028, 0⟩ ∧
      ((parse_xfer_event quiet 9 (sample_chan 1) ⟨0x80000020, 0x02000028, 0⟩).map fun c =>
        (c.completions.map fun x => (x.tre, x.tre_empty), c.tre_ring.rp, c.tre_ring.wp)) =
        some ([(0x1000, false), (0x1010, true), (0x1020, false)], 0x1030, 0x1010) ∧
      ∀ fuel, parse_xfer_event quiet fuel (sample_chan 1) ⟨0x80000008, 0x02000028, 0⟩ = none := by
  refine ⟨?_, by decide +kernel, ?_⟩
  · rintro ⟨fuel, c', done, hparse, hcompl, -, -, hsound⟩
    obtain ⟨d, hd, hdev⟩ := loop_reaches fuel (sample_chan_at (by decide)) hparse hcompl
      fun x hx => (hsound x hx).1
    interval_cases d <;> exact absurd hdev (by decide +kernel)
  · intro fuel
    exact misaligned_never_returns _ _ _ (by decide +kernel) rfl rfl rfl fuel

end KernelExtra.Mhi
