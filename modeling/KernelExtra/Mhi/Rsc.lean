/-
Coalescing channels (`MHI_XFER_RSC_DMA`), `drivers/bus/mhi/core/mhi_main.c`.

The device reports buffers in any order, by the offset of a `struct mhi_buf_info` in the local
buffer ring. A buffer's slot is the one at that ring's write pointer, which only goes round; but
whether there is room is asked of the transfer ring, whose read pointer advances with every
completion. When the oldest buffer stays out, the write pointer comes round to its slot: at most
`buf_ring.elements + 1 - tre_ring.elements` younger ones may have overtaken it.

The client's callback runs before the completed slot is given back, and may queue.
-/
import KernelExtra.Lib.Run
import KernelExtra.Mhi.Xfer

namespace KernelExtra.Mhi

open Run (exec Ok)
open Function List Nat

/-! ## The code -/

def buf_info_size : ℕ := 56

/-- An element of `buf_ring`. -/
structure RscInfo where
  p_addr : UInt64
  cb_buf : ℕ
  wp : ℕ
  len : ℕ
  used : Bool
  pre_mapped : Bool
  dir : Dir
  deriving DecidableEq

/-- A transfer element. -/
structure Tre where
  ptr : UInt64
  dword0 : UInt32
  dword1 : UInt32
  deriving DecidableEq

def MHI_PKT_TYPE_COALESCING : UInt32 := 8

def MHI_RSCTRE_DATA_PTR (ptr : UInt64) (len : ℕ) : UInt64 := (UInt64.ofNat len <<< 48) ||| ptr

def MHI_RSCTRE_DATA_DWORD0 (cookie : ℕ) : UInt32 := UInt32.ofNat cookie

def MHI_RSCTRE_DATA_DWORD1 : UInt32 := MHI_PKT_TYPE_COALESCING <<< 16

def MHI_TRE_GET_EV_COOKIE (event : Event) : ℕ := event.ptr.toNat % 2 ^ 32

/-- A descriptor that was queued: how many were queued before it, and the cookie that its
transfer ring element carries. -/
structure Desc where
  seq : ℕ
  cookie : ℕ
  deriving DecidableEq

/-- A channel that completes out of order. -/
structure RscChan where
  ch_state : ChState
  dir : Dir
  db_mode : Bool
  tre_ring : MhiRing
  buf_ring : MhiRing
  /-- The elements of the transfer ring, by address. -/
  tres : ℕ → Tre
  /-- The elements of the buffer ring, by address. -/
  infos : ℕ → RscInfo
  pending_pkts : ℤ
  /-- Trace: how often the doorbell was rung. -/
  doorbells : ℕ
  /-- Trace: the callbacks. -/
  results : List Result
  /-- Trace: the number of descriptors that were queued. -/
  seq : ℕ
  /-- Trace: the descriptors that are queued and not completed, oldest first. -/
  live : List Desc

/-- A buffer of the client. -/
structure MhiBuf where
  dma_addr : UInt64
  addr : ℕ
  deriving DecidableEq

/-- What the power state allows. -/
structure PmState where
  /-- `MHI_PM_IN_ERROR_STATE`. -/
  error : Bool
  /-- `MHI_DB_ACCESS_VALID`. -/
  db_access : Bool
  deriving DecidableEq

inductive QueueError where
  | ENOMEM
  /-- `-EIO`. -/
  | EIO_ERROR
  deriving DecidableEq

/-- A call of `mhi_queue_dma`. -/
structure Request where
  pm_state : PmState
  mhi_buf : MhiBuf
  len : ℕ
  deriving DecidableEq

/-- A transfer element, with its slot as cookie. -/
def generate_tre (c : RscChan) (req : Request) : RscChan :=
  let buf_info : RscInfo :=
    { p_addr := req.mhi_buf.dma_addr
      cb_buf := req.mhi_buf.addr
      wp := c.tre_ring.wp
      len := req.len
      used := true
      pre_mapped := true
      dir := c.dir }
  let mhi_tre : Tre :=
    { ptr := MHI_RSCTRE_DATA_PTR buf_info.p_addr buf_info.len
      dword0 := MHI_RSCTRE_DATA_DWORD0 (c.buf_ring.wp - c.buf_ring.base)
      dword1 := MHI_RSCTRE_DATA_DWORD1 }
  let n_queued_tre := c.tre_ring.elements - get_nr_avail_ring_elements c.tre_ring
  let ring_db := !(c.db_mode && decide (n_queued_tre < MHI_RSC_MIN_CREDITS))
  { c with
    infos := update c.infos c.buf_ring.wp buf_info
    tres := update c.tres c.tre_ring.wp mhi_tre
    tre_ring := mhi_add_ring_element c.tre_ring
    buf_ring := mhi_add_ring_element c.buf_ring
    pending_pkts := if c.dir = .DMA_TO_DEVICE then c.pending_pkts + 1 else c.pending_pkts
    doorbells := if req.pm_state.db_access && ring_db then c.doorbells + 1 else c.doorbells
    seq := c.seq + 1
    live := c.live ++ [⟨c.seq, mhi_tre.dword0.toNat⟩] }

def mhi_queue_dma (c : RscChan) (req : Request) : Except String (Option QueueError × RscChan) :=
  if mhi_is_ring_full c.tre_ring then .ok (some .ENOMEM, c)
  else if req.pm_state.error then .ok (some .EIO_ERROR, c)
  else if (c.infos c.buf_ring.wp).used then .error "TRE Not Freed\n"
  else .ok (none, generate_tre c req)

def request (c : RscChan) (req : Request) : Except String RscChan :=
  (mhi_queue_dma c req).map Prod.snd

/-- The end of `parse_rsc_event`: the transfer ring's read pointer advances and the slot is
given back. -/
def free_slot (cookie : ℕ) (c : RscChan) : RscChan :=
  let slot := c.buf_ring.base + cookie
  { c with
    tre_ring := mhi_del_ring_element c.tre_ring
    infos := update c.infos slot { c.infos slot with used := false }
    live := c.live.eraseP (·.cookie = cookie) }

/-- An event frees the slot that its cookie names. -/
def parse_rsc_event (c : RscChan) (event : Event) (requests : List Request) :
    Except String RscChan :=
  let cookie := MHI_TRE_GET_EV_COOKIE event
  if cookie ≥ c.buf_ring.len then .error "invalid cookie"
  else
    let buf_info := c.infos (c.buf_ring.base + cookie)
    let result : Result :=
      { overflow := MHI_TRE_GET_EV_CODE event = MHI_EV_CC_OVERFLOW
        dir := c.dir
        buf_addr := buf_info.cb_buf
        bytes_xferd := min (MHI_TRE_GET_EV_LEN event) (buf_info.len % 2 ^ 16) }
    if c.ch_state ≠ .ENABLED then .ok c
    else if !buf_info.used then .error "TRE already Freed\n"
    else
      (requests.foldlM request { c with results := c.results ++ [result] }).map
        (free_slot cookie)

def init_ring (iommu_base base el_size elements : ℕ) : MhiRing where
  iommu_base := iommu_base
  base := base
  rp := base
  wp := base
  el_size := el_size
  len := el_size * elements
  elements := elements

def RscChan.Fresh (c : RscChan) (n m : ℕ) : Prop :=
  (∃ iommu_base base, c.tre_ring = init_ring iommu_base base tre_size n) ∧
    (∃ base, c.buf_ring = init_ring 0 base buf_info_size m) ∧
    (∀ slot, (c.infos slot).used = false) ∧ c.seq = 0 ∧ c.live = []

/-! ## Runs -/

/-- Queueing, and events of the device. -/
inductive RscAct where
  | queue (req : Request)
  /-- An event, with what the callback queues meanwhile. -/
  | event (event : Event) (requests : List Request)

def rsc_step (s : Except String RscChan) (a : RscAct) : Except String RscChan :=
  s.bind fun c =>
    match a with
    | .queue req => request c req
    | .event event requests => parse_rsc_event c event requests

/-- The events that the device sends: their cookies name descriptors that are queued and
not completed. -/
def RscLegal : Except String RscChan → RscAct → Prop
  | .ok c, .event event _ => ∃ d ∈ c.live, d.cookie = MHI_TRE_GET_EV_COOKIE event
  | _, _ => True

instance : ∀ s a, Decidable (RscLegal s a)
  | .ok _, .event _ _ => inferInstanceAs (Decidable (∃ d ∈ _, _))
  | .ok _, .queue _ => .isTrue trivial
  | .error _, _ => .isTrue trivial

/-- **Slots are safe**: no assertion has failed, no two outstanding descriptors have the same slot,
and nothing is queued when no slot is free. -/
def SlotsSafe (s : Except String RscChan) : Prop :=
  ∃ c, s = .ok c ∧ (c.live.map Desc.cookie).Nodup ∧
    ((∀ i < c.buf_ring.elements,
        (c.infos (c.buf_ring.base + c.buf_ring.el_size * i)).used = true) →
      ∀ req, mhi_queue_dma c req = .ok (some .ENOMEM, c))

def RefillSafe (s : Except String RscChan) : Prop :=
  ∀ requests : List Request, SlotsSafe (s.bind fun c => requests.foldlM request c)

/-- The number of descriptors that are younger than the oldest outstanding one and have
already completed. -/
def RscChan.overtaken (c : RscChan) : ℕ :=
  match c.live with
  | [] => 0
  | d :: _ => c.seq - d.seq - c.live.length

/-- An event completes the oldest outstanding descriptor, or
there is still room for one more to overtake it. -/
def RscInTurn : Except String RscChan → RscAct → Prop
  | .ok c, .event event _ =>
    c.ch_state ≠ .ENABLED ∨ c.live.head?.map Desc.cookie = some (MHI_TRE_GET_EV_COOKIE event) ∨
      c.overtaken + c.tre_ring.elements ≤ c.buf_ring.elements
  | _, _ => True

instance : ∀ s a, Decidable (RscInTurn s a)
  | .ok _, .event _ _ => inferInstanceAs (Decidable (_ ∨ _ ∨ _))
  | .ok _, .queue _ => .isTrue trivial
  | .error _, _ => .isTrue trivial

/-! ## The slots of outstanding descriptors -/

/-- Rings and outstanding descriptors go together. -/
structure Tracks (c : RscChan) (n m : ℕ) : Prop where
  tre : ∃ i, c.tre_ring.At n i c.live.length
  tre_elements : c.tre_ring.elements = n
  buf : c.buf_ring.At m 0 (c.seq % m)
  buf_elements : c.buf_ring.elements = m
  fits : c.buf_ring.len ≤ 2 ^ 32
  sorted : c.live.Pairwise fun d e => d.seq < e.seq
  seq_lt : ∀ d ∈ c.live, d.seq < c.seq
  /-- The write pointer has not passed the slot of an outstanding descriptor. -/
  window : ∀ d ∈ c.live, c.seq ≤ d.seq + m
  cookie_eq : ∀ d ∈ c.live, d.cookie = c.buf_ring.el_size * (d.seq % m)
  used_iff : ∀ i < m, (c.infos (c.buf_ring.base + c.buf_ring.el_size * i)).used = true ↔
    ∃ d ∈ c.live, d.seq % m = i

lemma add_length_le_of_sorted {l : List Desc} {a b : ℕ}
    (hsorted : l.Pairwise fun d e => d.seq < e.seq) (hle : ∀ d ∈ l, a ≤ d.seq)
    (hlt : ∀ d ∈ l, d.seq < b) (hab : a ≤ b) : a + l.length ≤ b := by
  induction l generalizing a with
  | nil => exact hab
  | cons d l ih =>
    rw [pairwise_cons] at hsorted
    rw [forall_mem_cons] at hle hlt
    have := ih hsorted.2 (fun e he => hsorted.1 e he) hlt.2 hlt.1
    rw [length_cons]
    omega

namespace Tracks

variable {c : RscChan} {n m : ℕ}

variable (h : Tracks c n m)
include h

lemma m_pos : 0 < m := h.buf.i_lt

lemma wp_eq : c.buf_ring.wp = c.buf_ring.base + c.buf_ring.el_size * (c.seq % m) := by
  rw [h.buf.wp_eq, zero_add, mod_mod]

lemma full_iff : mhi_is_ring_full c.tre_ring = true ↔ c.live.length + 1 = n := by
  obtain ⟨i, hi⟩ := h.tre
  exact hi.full_iff

lemma length_lt : c.live.length < n := by
  obtain ⟨i, hi⟩ := h.tre
  exact hi.k_lt

lemma slot_inj {d e : Desc} (hd : d ∈ c.live) (he : e ∈ c.live)
    (heq : d.seq % m = e.seq % m) : d.seq = e.seq := by
  have := h.seq_lt d hd
  have := h.seq_lt e he
  have := h.window d hd
  have := h.window e he
  rcases le_total d.seq e.seq with hle | hle
  · have hdiff := (modEq_iff_dvd' hle).mp heq
    rcases Nat.eq_zero_or_pos (e.seq - d.seq) with hzero | hpos
    · omega
    · have := le_of_dvd hpos hdiff
      omega
  · have hdiff := (modEq_iff_dvd' hle).mp heq.symm
    rcases Nat.eq_zero_or_pos (d.seq - e.seq) with hzero | hpos
    · omega
    · have := le_of_dvd hpos hdiff
      omega

lemma nodup_cookie : (c.live.map Desc.cookie).Nodup := by
  rw [List.Nodup, pairwise_map]
  refine h.sorted.imp_of_mem ?_
  intro d e hd he hlt heq
  rw [h.cookie_eq d hd, h.cookie_eq e he] at heq
  have := h.slot_inj hd he (Nat.eq_of_mul_eq_mul_left h.buf.el_pos heq)
  omega

lemma used_wp_iff : (c.infos c.buf_ring.wp).used = true ↔ ∃ d ∈ c.live, c.seq = d.seq + m := by
  rw [h.wp_eq, h.used_iff _ (mod_lt _ h.m_pos)]
  refine exists_congr fun d => and_congr_right fun hd => ?_
  have := h.seq_lt d hd
  have := h.window d hd
  constructor
  · intro heq
    have hdvd := (modEq_iff_dvd' (by omega)).mp heq
    have := le_of_dvd (by omega) hdvd
    omega
  · intro heq
    rw [heq, add_mod_right]

lemma oldest_le {d : Desc} {l : List Desc} (hlive : c.live = d :: l)
    {e : Desc} (he : e ∈ c.live) : d.seq ≤ e.seq := by
  have hsorted := h.sorted
  rw [hlive, pairwise_cons] at hsorted
  rw [hlive] at he
  rcases mem_cons.mp he with rfl | he
  · exact le_rfl
  · exact le_of_lt (hsorted.1 e he)

lemma seq_eq {d : Desc} {l : List Desc} (hlive : c.live = d :: l) :
    c.seq = d.seq + c.live.length + c.overtaken := by
  have hmem : d ∈ c.live := by
    rw [hlive]
    exact mem_cons_self
  have := add_length_le_of_sorted h.sorted (fun e he => h.oldest_le hlive he) h.seq_lt
    (le_of_lt (h.seq_lt d hmem))
  have hover : c.overtaken = c.seq - d.seq - c.live.length := by
    rw [RscChan.overtaken, hlive]
  omega

/-! ## Queueing -/

lemma cookie_toNat :
    (MHI_RSCTRE_DATA_DWORD0 (c.buf_ring.wp - c.buf_ring.base)).toNat =
      c.buf_ring.el_size * (c.seq % m) := by
  have hlt : c.buf_ring.el_size * (c.seq % m) < c.buf_ring.len := by
    rw [h.buf.len_eq]
    exact mul_lt_mul_of_pos_left (mod_lt _ h.m_pos) h.buf.el_pos
  rw [h.wp_eq, Nat.add_sub_cancel_left, MHI_RSCTRE_DATA_DWORD0, UInt32.toNat_ofNat']
  exact mod_eq_of_lt (lt_of_lt_of_le hlt h.fits)

lemma generate_tre_live (req : Request) :
    (generate_tre c req).live = c.live ++ [⟨c.seq, c.buf_ring.el_size * (c.seq % m)⟩] := by
  rw [← h.cookie_toNat]
  rfl

lemma generate_tre (hroom : c.live.length + 1 < n)
    (hfree : ∀ d ∈ c.live, c.seq < d.seq + m) (req : Request) :
    Tracks (Mhi.generate_tre c req) n m where
  tre := by
    obtain ⟨i, hi⟩ := h.tre
    refine ⟨i, ?_⟩
    rw [h.generate_tre_live, length_append]
    exact hi.add hroom
  tre_elements := h.tre_elements
  buf := by
    refine ⟨h.buf.el_pos, h.buf.len_eq, h.buf.top, h.m_pos, mod_lt _ h.m_pos, h.buf.rp_eq, ?_⟩
    change (if c.buf_ring.wp + c.buf_ring.el_size ≥ c.buf_ring.base + c.buf_ring.len
      then c.buf_ring.base else c.buf_ring.wp + c.buf_ring.el_size) =
      c.buf_ring.base + c.buf_ring.el_size * ((0 + (c.seq + 1) % m) % m)
    rw [h.wp_eq, h.buf.bump (mod_lt _ h.m_pos), zero_add, mod_mod, mod_add_mod]
  buf_elements := h.buf_elements
  fits := h.fits
  sorted := by
    rw [h.generate_tre_live, pairwise_append]
    refine ⟨h.sorted, pairwise_singleton _ _, ?_⟩
    intro d hd e he
    rw [mem_singleton.mp he]
    exact h.seq_lt d hd
  seq_lt := by
    rw [h.generate_tre_live, forall_mem_append]
    refine ⟨fun d hd => lt_succ_of_lt (h.seq_lt d hd), ?_⟩
    rw [forall_mem_singleton]
    exact lt_succ_self _
  window := by
    rw [h.generate_tre_live, forall_mem_append]
    refine ⟨fun d hd => hfree d hd, ?_⟩
    rw [forall_mem_singleton]
    exact Nat.add_le_add_left h.m_pos _
  cookie_eq := by
    rw [h.generate_tre_live, forall_mem_append]
    refine ⟨h.cookie_eq, ?_⟩
    rw [forall_mem_singleton]
    rfl
  used_iff := by
    intro i hi
    change (update c.infos c.buf_ring.wp _
      (c.buf_ring.base + c.buf_ring.el_size * i)).used = true ↔ _
    by_cases hslot : c.seq % m = i
    · rw [h.wp_eq, hslot, update_self]
      refine iff_of_true rfl ⟨_, mem_append_right _ mem_cons_self, hslot⟩
    · have hne : c.buf_ring.base + c.buf_ring.el_size * i ≠ c.buf_ring.wp := by
        rw [h.wp_eq]
        intro heq
        exact hslot (Nat.eq_of_mul_eq_mul_left h.buf.el_pos (add_left_cancel heq)).symm
      rw [update_of_ne hne, h.used_iff i hi]
      constructor
      · rintro ⟨d, hd, hmod⟩
        exact ⟨d, mem_append_left _ hd, hmod⟩
      · rintro ⟨d, hd, hmod⟩
        rcases mem_append.mp hd with hd | hd
        · exact ⟨d, hd, hmod⟩
        · rw [mem_singleton.mp hd] at hmod
          exact absurd hmod hslot

lemma generate_tre_overtaken (hroom : c.live.length + 1 < n)
    (hfree : ∀ d ∈ c.live, c.seq < d.seq + m) (req : Request) :
    (Mhi.generate_tre c req).overtaken = c.overtaken := by
  have hnext := h.generate_tre hroom hfree req
  have hlive := h.generate_tre_live req
  have hseq : (Mhi.generate_tre c req).seq = c.seq + 1 := rfl
  cases hold : c.live with
  | nil =>
    rw [hold] at hlive
    have heq := hnext.seq_eq hlive
    rw [hseq, hlive] at heq
    have hzero : c.overtaken = 0 := by rw [RscChan.overtaken, hold]
    simp only [nil_append, length_singleton] at heq
    omega
  | cons d l =>
    have heq := h.seq_eq hold
    rw [hold, cons_append] at hlive
    have heq' := hnext.seq_eq hlive
    rw [hseq, hlive, ← cons_append, length_append, ← hold, length_singleton] at heq'
    omega

end Tracks

/-! ## Completions -/

namespace Tracks

variable {c : RscChan} {n m : ℕ} {cookie : ℕ}

lemma free_slot_live (hlegal : ∃ d ∈ c.live, d.cookie = cookie) :
    ∃ d l₁ l₂, d.cookie = cookie ∧ (∀ e ∈ l₁, e.cookie ≠ cookie) ∧ c.live = l₁ ++ d :: l₂ ∧
      (Mhi.free_slot cookie c).live = l₁ ++ l₂ := by
  obtain ⟨d, hd, hcookie⟩ := hlegal
  obtain ⟨d, l₁, l₂, hbefore, hcookie, hlive, herase⟩ :=
    exists_of_eraseP (p := (·.cookie = cookie)) hd (by simpa using hcookie)
  refine ⟨d, l₁, l₂, by simpa using hcookie, ?_, hlive, herase⟩
  intro e he
  simpa using hbefore e he

lemma free_slot (h : Tracks c n m) (hlegal : ∃ d ∈ c.live, d.cookie = cookie) :
    Tracks (Mhi.free_slot cookie c) n m := by
  obtain ⟨d, l₁, l₂, hcookie, -, hlive, hleft⟩ := free_slot_live hlegal
  have hd : d ∈ c.live := by
    rw [hlive]
    exact mem_append_right _ mem_cons_self
  have hsub : (l₁ ++ l₂).Sublist c.live := by
    rw [hlive]
    exact List.Sublist.append_left (sublist_cons_self _ _) _
  constructor
  case tre =>
    obtain ⟨i, hi⟩ := h.tre
    refine ⟨(i + 1) % n, ?_⟩
    have hlen : c.live.length = (Mhi.free_slot cookie c).live.length + 1 := by
      rw [hleft, hlive, length_append, length_append, length_cons]
      rfl
    rw [hlen] at hi
    exact hi.del
  case tre_elements => exact h.tre_elements
  case buf => exact h.buf
  case buf_elements => exact h.buf_elements
  case fits => exact h.fits
  case sorted =>
    rw [hleft]
    exact h.sorted.sublist hsub
  case seq_lt =>
    rw [hleft]
    exact fun e he => h.seq_lt e (hsub.subset he)
  case window =>
    rw [hleft]
    exact fun e he => h.window e (hsub.subset he)
  case cookie_eq =>
    rw [hleft]
    exact fun e he => h.cookie_eq e (hsub.subset he)
  case used_iff =>
    intro i hi
    rw [hleft]
    change (update c.infos (c.buf_ring.base + cookie) _
      (c.buf_ring.base + c.buf_ring.el_size * i)).used = true ↔ _
    have hslot : cookie = c.buf_ring.el_size * (d.seq % m) := by
      rw [← hcookie, h.cookie_eq d hd]
    have hsorted := h.sorted
    rw [hlive, pairwise_append, pairwise_cons] at hsorted
    by_cases hmod : d.seq % m = i
    · -- nobody else has this slot
      rw [hslot, hmod, update_self]
      refine iff_of_false Bool.false_ne_true ?_
      rintro ⟨e, he, heq⟩
      have hseq := h.slot_inj (hsub.subset he) hd (heq.trans hmod.symm)
      rcases mem_append.mp he with he | he
      · have := hsorted.2.2 e he d mem_cons_self
        omega
      · have := hsorted.2.1.1 e he
        omega
    · have hne : c.buf_ring.base + c.buf_ring.el_size * i ≠ c.buf_ring.base + cookie := by
        rw [hslot]
        intro heq
        exact hmod (Nat.eq_of_mul_eq_mul_left h.buf.el_pos (add_left_cancel heq)).symm
      rw [update_of_ne hne, h.used_iff i hi]
      constructor
      · rintro ⟨e, he, heq⟩
        rw [hlive] at he
        rcases mem_append.mp he with he | he
        · exact ⟨e, mem_append_left _ he, heq⟩
        · rcases mem_cons.mp he with rfl | he
          · exact absurd heq hmod
          · exact ⟨e, mem_append_right _ he, heq⟩
      · rintro ⟨e, he, heq⟩
        exact ⟨e, hsub.subset he, heq⟩

lemma free_slot_oldest (h : Tracks c n m) {d : Desc} {l : List Desc} (hlive : c.live = d :: l) :
    (Mhi.free_slot d.cookie c).overtaken ≤ c.overtaken := by
  have hd : ∃ e ∈ c.live, e.cookie = d.cookie := by
    rw [hlive]
    exact ⟨d, mem_cons_self, rfl⟩
  have hnext := h.free_slot hd
  have hleft : (Mhi.free_slot d.cookie c).live = l := by
    change c.live.eraseP (·.cookie = d.cookie) = l
    rw [hlive, eraseP_cons_of_pos (by simp)]
  cases l with
  | nil =>
    rw [RscChan.overtaken, hleft]
    exact zero_le _
  | cons e l =>
    have heq := h.seq_eq hlive
    have heq' := hnext.seq_eq hleft
    have hsorted := h.sorted
    rw [hlive, pairwise_cons] at hsorted
    have := hsorted.1 e mem_cons_self
    rw [hlive, length_cons] at heq
    rw [hleft, show (Mhi.free_slot d.cookie c).seq = c.seq from rfl] at heq'
    omega

lemma free_slot_other (h : Tracks c n m) (hlegal : ∃ d ∈ c.live, d.cookie = cookie)
    (hother : c.live.head?.map Desc.cookie ≠ some cookie) :
    (Mhi.free_slot cookie c).overtaken = c.overtaken + 1 := by
  have hnext := h.free_slot hlegal
  obtain ⟨d, l₁, l₂, hcookie, -, hlive, hleft⟩ := free_slot_live hlegal
  cases l₁ with
  | nil =>
    rw [hlive] at hother
    exact absurd (congrArg some hcookie) hother
  | cons e l₁ =>
    have heq := h.seq_eq hlive
    have heq' := hnext.seq_eq hleft
    rw [hlive] at heq
    rw [hleft, show (Mhi.free_slot cookie c).seq = c.seq from rfl] at heq'
    simp only [length_append, length_cons] at heq heq'
    omega

end Tracks

/-! ## The invariant -/

/-- The rings track the descriptors, and the oldest of these is not overtaken too far. -/
structure Steady (c : RscChan) (n m : ℕ) : Prop extends Tracks c n m where
  bound : c.overtaken + n ≤ m + 1

lemma Steady.free {c : RscChan} {n m : ℕ} (h : Steady c n m)
    (hroom : c.live.length + 1 < n) {d : Desc} (hd : d ∈ c.live) : c.seq < d.seq + m := by
  cases hold : c.live with
  | nil =>
    rw [hold] at hd
    cases hd
  | cons e l =>
    have := h.seq_eq hold
    have := h.oldest_le hold hd
    have := h.bound
    omega

section

variable {c : RscChan} {n m : ℕ}

lemma mhi_queue_dma_full (h : Tracks c n m) (hfull : c.live.length + 1 = n) (req : Request) :
    mhi_queue_dma c req = .ok (some .ENOMEM, c) := by
  rw [mhi_queue_dma, if_pos (h.full_iff.mpr hfull)]

lemma request_free (h : Tracks c n m) (hroom : c.live.length + 1 < n)
    (hfree : ∀ d ∈ c.live, c.seq < d.seq + m) (req : Request) :
    request c req = .ok (if req.pm_state.error then c else generate_tre c req) := by
  have hfull : ¬ mhi_is_ring_full c.tre_ring = true := by
    rw [h.full_iff]
    omega
  have hused : ¬ (c.infos c.buf_ring.wp).used = true := by
    rw [h.used_wp_iff]
    rintro ⟨d, hd, heq⟩
    have := hfree d hd
    omega
  rw [request, mhi_queue_dma, if_neg hfull, if_neg hused]
  split <;> rfl

/-- Requests leave the oldest descriptor in place, and how far it was overtaken. -/
structure Grows (c c' : RscChan) : Prop where
  live : c.live <+: c'.live
  overtaken : c'.overtaken = c.overtaken
  ch_state : c'.ch_state = c.ch_state

lemma Steady.request (h : Steady c n m) (req : Request) :
    ∃ c', Mhi.request c req = .ok c' ∧ Steady c' n m ∧ Grows c c' := by
  by_cases hfull : c.live.length + 1 = n
  · refine ⟨c, ?_, h, prefix_refl _, rfl, rfl⟩
    rw [Mhi.request, mhi_queue_dma_full h.toTracks hfull]
    rfl
  · have hroom : c.live.length + 1 < n := by
      have := h.length_lt
      omega
    have hfree : ∀ d ∈ c.live, c.seq < d.seq + m := fun d hd => h.free hroom hd
    refine ⟨_, request_free h.toTracks hroom hfree req, ?_⟩
    split
    · exact ⟨h, prefix_refl _, rfl, rfl⟩
    · have hover := h.generate_tre_overtaken hroom hfree req
      refine ⟨⟨h.generate_tre hroom hfree req, ?_⟩, prefix_append _ _, hover, rfl⟩
      rw [hover]
      exact h.bound

lemma Steady.requests (h : Steady c n m) (reqs : List Request) :
    ∃ c', reqs.foldlM Mhi.request c = .ok c' ∧ Steady c' n m ∧ Grows c c' := by
  induction reqs generalizing c with
  | nil => exact ⟨c, rfl, h, prefix_refl _, rfl, rfl⟩
  | cons req reqs ih =>
    obtain ⟨c₁, hreq, hsteady, hgrows⟩ := h.request req
    obtain ⟨c₂, hreqs, hsteady, hgrows'⟩ := ih hsteady
    refine ⟨c₂, ?_, hsteady, hgrows.live.trans hgrows'.live,
      hgrows'.overtaken.trans hgrows.overtaken, hgrows'.ch_state.trans hgrows.ch_state⟩
    rw [foldlM_cons, hreq]
    exact hreqs

lemma Tracks.le_length_of_used (h : Tracks c n m)
    (hused : ∀ i < m, (c.infos (c.buf_ring.base + c.buf_ring.el_size * i)).used = true) :
    m ≤ c.live.length := by
  have hsub : range m ⊆ c.live.map fun d => d.seq % m := by
    intro i hi
    rw [mem_range] at hi
    obtain ⟨d, hd, heq⟩ := (h.used_iff i hi).mp (hused i hi)
    exact mem_map.mpr ⟨d, hd, heq⟩
  have := (subperm_of_subset nodup_range hsub).length_le
  rwa [length_range, length_map] at this

lemma Steady.slotsSafe (h : Steady c n m) : SlotsSafe (.ok c) := by
  refine ⟨c, rfl, h.nodup_cookie, ?_⟩
  rw [h.buf_elements]
  intro hused req
  have := h.le_length_of_used hused
  have := h.length_lt
  have := h.bound
  exact mhi_queue_dma_full h.toTracks (by omega) req

lemma Steady.refillSafe (h : Steady c n m) : RefillSafe (.ok c) := by
  intro reqs
  obtain ⟨c', hreqs, hsteady, -⟩ := h.requests reqs
  change SlotsSafe (reqs.foldlM Mhi.request c)
  rw [hreqs]
  exact hsteady.slotsSafe

end

/-! ## Overtaken too far -/

section

variable {c : RscChan} {n m : ℕ}

def plain_request : Request := ⟨⟨false, true⟩, ⟨0, 0⟩, 0⟩

/-- The client can queue until the write pointer is at the slot. The induction is on how far that
is. -/
lemma Tracks.refill_panics (h : Tracks c n m) (hfar : m + 1 < c.overtaken + n)
    {d : Desc} {l : List Desc} (hlive : c.live = d :: l) :
    ∃ reqs : List Request, reqs.foldlM request c = .error "TRE Not Freed\n" := by
  obtain ⟨gap, hgap⟩ : ∃ gap, d.seq + m = c.seq + gap :=
    Nat.exists_eq_add_of_le (h.window d (by rw [hlive]; exact mem_cons_self))
  induction gap generalizing c l with
  | zero =>
    have heq := h.seq_eq hlive
    have hfull : ¬ mhi_is_ring_full c.tre_ring = true := by
      rw [h.full_iff]
      omega
    have hused : (c.infos c.buf_ring.wp).used = true := by
      refine h.used_wp_iff.mpr ⟨d, ?_, hgap.symm⟩
      rw [hlive]
      exact mem_cons_self
    refine ⟨[plain_request], ?_⟩
    have hreq : request c plain_request = .error "TRE Not Freed\n" := by
      rw [request, mhi_queue_dma, if_neg hfull, if_neg (by decide), if_pos hused]
      rfl
    rw [foldlM_cons, hreq]
    rfl
  | succ gap ih =>
    have heq := h.seq_eq hlive
    have hroom : c.live.length + 1 < n := by omega
    have hfree : ∀ e ∈ c.live, c.seq < e.seq + m := by
      intro e he
      have := h.oldest_le hlive he
      omega
    have hreq := request_free h hroom hfree plain_request
    have hgap' : d.seq + m = (Mhi.generate_tre c plain_request).seq + gap := by
      change _ = c.seq + 1 + gap
      omega
    obtain ⟨reqs, hreqs⟩ := ih (h.generate_tre hroom hfree plain_request)
      (by rwa [h.generate_tre_overtaken hroom hfree])
      (by rw [h.generate_tre_live, hlive, cons_append]) hgap'
    refine ⟨plain_request :: reqs, ?_⟩
    rw [foldlM_cons, hreq]
    exact hreqs

lemma Tracks.not_refillSafe (h : Tracks c n m) (hfar : m + 1 < c.overtaken + n) :
    ¬ RefillSafe (.ok c) := by
  obtain ⟨reqs, hreqs⟩ : ∃ reqs : List Request,
      reqs.foldlM request c = .error "TRE Not Freed\n" := by
    cases hlive : c.live with
    | cons d l => exact h.refill_panics hfar hlive
    | nil =>
      -- the first descriptor becomes the oldest
      have hzero : c.overtaken = 0 := by rw [RscChan.overtaken, hlive]
      have hroom : c.live.length + 1 < n := by
        rw [hlive, length_nil]
        omega
      have hfree : ∀ e ∈ c.live, c.seq < e.seq + m := by
        rw [hlive]
        exact fun e he => by cases he
      have hreq := request_free h hroom hfree plain_request
      obtain ⟨reqs, hreqs⟩ := (h.generate_tre hroom hfree plain_request).refill_panics
        (by rwa [h.generate_tre_overtaken hroom hfree])
        (by rw [h.generate_tre_live, hlive, nil_append])
      refine ⟨plain_request :: reqs, ?_⟩
      rw [foldlM_cons, hreq]
      exact hreqs
  intro hsafe
  obtain ⟨c', hok, -⟩ := hsafe reqs
  change reqs.foldlM request c = .ok c' at hok
  rw [hreqs] at hok
  cases hok

end

/-! ## Events -/

section

variable {c : RscChan} {n m : ℕ} {event : Event}

lemma Steady.parse_rsc_event (h : Steady c n m) (henabled : c.ch_state = .ENABLED)
    (hlegal : ∃ d ∈ c.live, d.cookie = MHI_TRE_GET_EV_COOKIE event) (reqs : List Request) :
    ∃ c', Mhi.parse_rsc_event c event reqs =
        .ok (free_slot (MHI_TRE_GET_EV_COOKIE event) c') ∧ Steady c' n m ∧ Grows c c' := by
  obtain ⟨d, hd, hcookie⟩ := hlegal
  have hmod : d.seq % m < m := mod_lt _ h.m_pos
  have hinside : MHI_TRE_GET_EV_COOKIE event < c.buf_ring.len := by
    rw [← hcookie, h.cookie_eq d hd, h.buf.len_eq]
    exact mul_lt_mul_of_pos_left hmod h.buf.el_pos
  have hused : (c.infos (c.buf_ring.base + MHI_TRE_GET_EV_COOKIE event)).used = true := by
    rw [← hcookie, h.cookie_eq d hd, h.used_iff _ hmod]
    exact ⟨d, hd, rfl⟩
  -- the trace of callbacks is none of the rings' business
  have htrace : ∀ results, Steady { c with results } n m := fun results =>
    ⟨⟨h.tre, h.tre_elements, h.buf, h.buf_elements, h.fits, h.sorted, h.seq_lt, h.window,
      h.cookie_eq, h.used_iff⟩, h.bound⟩
  rw [Mhi.parse_rsc_event]
  rw [if_neg (not_le.mpr hinside), if_neg (not_not.mpr henabled), hused, if_neg (by decide)]
  generalize c.results ++ _ = results
  obtain ⟨c', hreqs, hsteady, hgrows⟩ := (htrace results).requests reqs
  refine ⟨c', ?_, hsteady, hgrows.live, hgrows.overtaken, hgrows.ch_state⟩
  rw [hreqs]
  rfl

lemma Grows.legal {c' : RscChan} (hgrows : Grows c c') {cookie : ℕ}
    (hlegal : ∃ d ∈ c.live, d.cookie = cookie) : ∃ d ∈ c'.live, d.cookie = cookie := by
  obtain ⟨d, hd, hcookie⟩ := hlegal
  exact ⟨d, hgrows.live.subset hd, hcookie⟩

lemma Grows.head_eq {c' : RscChan} (hgrows : Grows c c') (hne : c.live ≠ []) :
    c'.live.head? = c.live.head? := by
  obtain ⟨new, hnew⟩ := hgrows.live
  rw [← hnew, head?_append_of_ne_nil _ hne]

lemma Steady.step (h : Steady c n m) (a : RscAct) (hlegal : RscLegal (.ok c) a)
    (hturn : RscInTurn (.ok c) a) : ∃ c', rsc_step (.ok c) a = .ok c' ∧ Steady c' n m := by
  cases a with
  | queue req =>
    obtain ⟨c', hreq, hsteady, -⟩ := h.request req
    exact ⟨c', hreq, hsteady⟩
  | event event reqs =>
    change ∃ c', Mhi.parse_rsc_event c event reqs = .ok c' ∧ _
    obtain ⟨d, hd, hcookie⟩ := id hlegal
    have hne : c.live ≠ [] := ne_nil_of_mem hd
    by_cases henabled : c.ch_state = .ENABLED
    · obtain ⟨c', hparse, hsteady, hgrows⟩ := h.parse_rsc_event henabled hlegal reqs
      refine ⟨_, hparse, hsteady.free_slot (hgrows.legal hlegal), ?_⟩
      have hbound := hsteady.bound
      by_cases hhead : c'.live.head?.map Desc.cookie = some (MHI_TRE_GET_EV_COOKIE event)
      · obtain ⟨e, he, hecookie⟩ := Option.map_eq_some_iff.mp hhead
        obtain ⟨l, hl⟩ := head?_eq_some_iff.mp he
        have := hsteady.free_slot_oldest hl
        rw [hecookie] at this
        omega
      · rw [hsteady.free_slot_other (hgrows.legal hlegal) hhead, hgrows.overtaken]
        rw [hgrows.head_eq hne] at hhead
        have := (hturn.resolve_left (not_not.mpr henabled)).resolve_left hhead
        rw [h.tre_elements, h.buf_elements] at this
        omega
    · have hinside : MHI_TRE_GET_EV_COOKIE event < c.buf_ring.len := by
        rw [← hcookie, h.cookie_eq d hd, h.buf.len_eq]
        exact mul_lt_mul_of_pos_left (mod_lt _ h.m_pos) h.buf.el_pos
      refine ⟨c, ?_, h⟩
      rw [Mhi.parse_rsc_event]
      rw [if_neg (not_le.mpr hinside), if_pos henabled]

lemma Steady.step_out_of_turn (h : Steady c n m) (a : RscAct) (hlegal : RscLegal (.ok c) a)
    (hturn : ¬ RscInTurn (.ok c) a) : ¬ RefillSafe (rsc_step (.ok c) a) := by
  cases a with
  | queue req => exact absurd trivial hturn
  | event event reqs =>
    change ¬ RefillSafe (Mhi.parse_rsc_event c event reqs)
    obtain ⟨d, hd, -⟩ := id hlegal
    have hne : c.live ≠ [] := ne_nil_of_mem hd
    rw [RscInTurn, not_or, not_or, not_not, h.tre_elements, h.buf_elements] at hturn
    obtain ⟨henabled, hhead, hfar⟩ := hturn
    obtain ⟨c', hparse, hsteady, hgrows⟩ := h.parse_rsc_event henabled hlegal reqs
    rw [← hgrows.head_eq hne] at hhead
    rw [hparse]
    apply (hsteady.free_slot (hgrows.legal hlegal)).not_refillSafe
    rw [hsteady.free_slot_other (hgrows.legal hlegal) hhead, hgrows.overtaken]
    omega

end

/-! ## Every run -/

lemma init_ring_at {iommu_base base el_size n : ℕ} (hel : 0 < el_size) (hn : 0 < n)
    (htop : base + el_size * n < 2 ^ 64) : (init_ring iommu_base base el_size n).At n 0 0 where
  el_pos := hel
  len_eq := rfl
  top := htop
  i_lt := hn
  k_lt := hn
  rp_eq := rfl
  wp_eq := by
    rfl

/-- The rings lie in the address space, have elements, and offsets into the buffer ring
fit the 32 bits of a cookie. -/
structure RscChan.Placed (c : RscChan) : Prop where
  tre_pos : 0 < c.tre_ring.elements
  tre_top : c.tre_ring.base + c.tre_ring.len < 2 ^ 64
  buf_pos : 0 < c.buf_ring.elements
  buf_top : c.buf_ring.base + c.buf_ring.len < 2 ^ 64
  fits : c.buf_ring.len ≤ 2 ^ 32

lemma RscChan.Fresh.tracks {c : RscChan} {n m : ℕ} (h : c.Fresh n m) (hplaced : c.Placed) :
    Tracks c n m := by
  obtain ⟨⟨iommu_base, tre_base, htre⟩, ⟨buf_base, hbuf⟩, hunused, hseq, hlive⟩ := h
  obtain ⟨htpos, httop, hbpos, hbtop, hfits⟩ := hplaced
  rw [htre] at htpos httop
  rw [hbuf] at hbpos hbtop hfits
  constructor
  case tre =>
    rw [htre, hlive]
    exact ⟨0, init_ring_at (by decide) htpos httop⟩
  case tre_elements =>
    rw [htre]
    rfl
  case buf =>
    rw [hbuf, hseq, zero_mod]
    exact init_ring_at (by decide) hbpos hbtop
  case buf_elements =>
    rw [hbuf]
    rfl
  case fits =>
    rw [hbuf]
    exact hfits
  all_goals
    rw [hlive]
    simp [hunused]

/-- **Slots are not reused exactly when completions keep to their turn.** -/
theorem slots_never_shared_iff (c : RscChan) (n m : ℕ) (hfresh : c.Fresh n m)
    (hplaced : c.Placed) (acts : List RscAct) (hlegal : Ok rsc_step RscLegal (.ok c) acts) :
    (∀ pre, pre <+: acts → RefillSafe (exec rsc_step (.ok c) pre)) ↔
      n ≤ m + 1 ∧ Ok rsc_step RscInTurn (.ok c) acts := by
  have htracks := hfresh.tracks hplaced
  have hzero : c.overtaken = 0 := by
    rw [RscChan.overtaken, hfresh.2.2.2.2]
  by_cases hnm : n ≤ m + 1
  · rw [and_iff_right hnm]
    refine Run.legal_prefix_good_iff (I := fun s => ∃ c, s = .ok c ∧ Steady c n m) ?_ ?_ ?_
      hlegal ⟨c, rfl, htracks, by omega⟩
    · rintro _ ⟨c, rfl, h⟩
      exact h.refillSafe
    · rintro _ a ⟨c, rfl, h⟩ hlegal hturn
      exact h.step a hlegal hturn
    · rintro _ a ⟨c, rfl, h⟩ hlegal hturn
      exact h.step_out_of_turn a hlegal hturn
  · refine iff_of_false ?_ (fun h => hnm h.1)
    intro hsafe
    exact htracks.not_refillSafe (by omega) (hsafe [] nil_prefix)

def rsc_chan : RscChan where
  ch_state := .ENABLED
  dir := .DMA_FROM_DEVICE
  db_mode := true
  tre_ring := init_ring 0x80000000 0x1000 tre_size 3
  buf_ring := init_ring 0 0x2000 buf_info_size 3
  tres := fun _ => ⟨0, 0, 0⟩
  infos := fun _ => ⟨0, 0, 0, 0, false, false, .DMA_FROM_DEVICE⟩
  pending_pkts := 0
  doorbells := 0
  results := []
  seq := 0
  live := []

lemma rsc_chan_fresh : rsc_chan.Fresh 3 3 :=
  ⟨⟨_, _, rfl⟩, ⟨_, rfl⟩, fun _ => rfl, rfl, rfl⟩

lemma rsc_chan_placed : rsc_chan.Placed := by
  constructor <;> decide

def completes_slot (cookie : UInt64) : RscAct := .event ⟨cookie, 0x02000028, 0⟩ []

def one_overtakes : List RscAct :=
  [.queue plain_request, .queue plain_request, completes_slot 56, .queue plain_request,
    completes_slot 0, .queue plain_request]

theorem one_may_overtake :
    Ok rsc_step RscLegal (.ok rsc_chan) one_overtakes ∧
      RefillSafe (exec rsc_step (.ok rsc_chan) one_overtakes) := by
  have hlegal : Ok rsc_step RscLegal (.ok rsc_chan) one_overtakes := by decide +kernel
  refine ⟨hlegal, ?_⟩
  refine (slots_never_shared_iff rsc_chan 3 3 rsc_chan_fresh rsc_chan_placed one_overtakes
    hlegal).mpr ⟨by decide, by decide +kernel⟩ _ (prefix_refl _)

/-- **A live slot is taken again**: the first of three slots stays in use while the others complete.
-/
theorem live_slot_taken_again :
    Ok rsc_step RscLegal (.ok rsc_chan)
        [.queue plain_request, .queue plain_request, completes_slot 56, .queue plain_request,
          completes_slot 112, .queue plain_request] ∧
      ¬ SlotsSafe (exec rsc_step (.ok rsc_chan)
        [.queue plain_request, .queue plain_request, completes_slot 56, .queue plain_request,
          completes_slot 112, .queue plain_request]) := by
  refine ⟨by decide +kernel, ?_⟩
  rintro ⟨c, hok, -⟩
  have hpanic : (exec rsc_step (.ok rsc_chan)
      [.queue plain_request, .queue plain_request, completes_slot 56, .queue plain_request,
        completes_slot 112, .queue plain_request]).toBool = false := by decide +kernel
  rw [hok] at hpanic
  cases hpanic

end KernelExtra.Mhi
