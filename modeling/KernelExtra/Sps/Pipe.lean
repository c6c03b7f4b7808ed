/-
System-mode pipes of the SPS driver, `sps_bam.c`.

Four offsets go around the FIFO: where the next descriptor is written, how far the hardware has got,
how far `pipe_handler_eot` has handed the completed ones over, and how far they have been
acknowledged. `owner` says whose descriptor a slot holds; `handled` and `acked` record whose slots
the last two offsets passed over. The handler calls the client, who may submit and fetch from there.

With SPS_O_LATE_EOT a source pipe keeps back the last completed descriptor: the handler takes one
off the hardware's offset. It does so as well when the hardware has completed none, and then goes
once around the FIFO. Nothing else goes wrong.
-/
import KernelExtra.Lib.Ring
import KernelExtra.Lib.Run

namespace KernelExtra.Sps

open Function List Nat

def SPS_ERROR : ℤ := -1

/-- A descriptor. -/
structure Iovec where
  addr : ℕ
  size : ℕ
  int : Bool
  eot : Bool
  other : ℕ
  deriving DecidableEq

/-- A transfer, with its flags. -/
structure Request where
  addr : ℕ
  size : ℕ
  user : Option ℕ
  default : Bool
  no_submit : Bool
  int : Bool
  eot : Bool
  other : ℕ

inductive EventId where
  | EOT | DESC_DONE
  deriving DecidableEq

/-- What the client is told. -/
structure Event where
  event_id : EventId
  iovec : Iovec
  user : Option ℕ
  deriving DecidableEq

def DESC : ℕ := 8

/-- `struct sps_pipe`. Slots are found by their offset; the fields from `owner` on are no variables
of the driver. -/
structure Pipe where
  producer : Bool
  no_queue : Bool
  ack_xfers : Bool
  polled : Bool
  hybrid : Bool
  late_eot : Bool
  irq_eot : Bool
  irq_desc_done : Bool
  desc_size : ℕ
  desc_buf : ℕ → Iovec
  desc_cache : ℕ → Iovec
  user_ptrs : ℕ → Option ℕ
  desc_offset : ℕ
  acked_offset : ℕ
  cache_offset : ℕ
  /-- `handler_eot`, with `offset` and `end_offset` of the handler. -/
  handler : Option (ℕ × ℕ)
  read_offset : ℕ
  write_offset : ℕ
  events : List Event
  owner : ℕ → Option ℕ
  submitted : ℕ
  told : ℕ
  done : ℕ
  handled : List (Option ℕ)
  acked : List (Option ℕ)

def next_offset (desc_size offset : ℕ) : ℕ :=
  if offset + DESC ≥ desc_size then 0 else offset + DESC

def prev_offset (desc_size offset : ℕ) : ℕ :=
  if offset = 0 then desc_size - DESC else offset - DESC

namespace Pipe

/-! ## The handler -/

section

variable (s : Pipe)

def end_offset : ℕ :=
  if s.producer && s.late_eot && !(s.desc_buf (prev_offset s.desc_size s.read_offset)).eot then
    prev_offset s.desc_size s.read_offset
  else s.read_offset

def between (start stop : ℕ) : List (Option ℕ) :=
  (List.range ((stop + s.desc_size - start) / DESC % (s.desc_size / DESC))).map fun i =>
    s.owner ((start + DESC * i) % s.desc_size)

def fetch (start stop : ℕ) : ℕ → Iovec := fun offset =>
  if (if stop < start then (start ≤ offset ∧ offset < s.desc_size) ∨ offset < stop
      else start ≤ offset ∧ offset < stop) then s.desc_buf offset
  else s.desc_cache offset

def start_offset : ℕ := if s.ack_xfers then s.cache_offset else s.acked_offset

def eot_start : Pipe :=
  if s.handler.isSome then s
  else if s.no_queue then
    if s.ack_xfers then s
    else
      { s with
        acked_offset := s.end_offset
        acked := s.acked ++ s.between s.acked_offset s.end_offset }
  else if s.start_offset = s.end_offset then s
  else
    { s with
      desc_cache := if s.producer then s.fetch s.start_offset s.end_offset else s.desc_cache
      handler := some (s.start_offset, s.end_offset) }

def update_offset (offset next : ℕ) : Pipe :=
  if s.ack_xfers then { s with cache_offset := next }
  else { s with acked_offset := next, acked := s.acked ++ [s.owner offset] }

def notify (offset : ℕ) : List Event :=
  let iovec := s.desc_cache offset
  let user := s.user_ptrs (offset / DESC)
  let eot := iovec.eot && s.irq_eot
  let int := iovec.int && s.irq_desc_done
  if user.isSome || eot || int then [⟨if eot then .EOT else .DESC_DONE, iovec, user⟩] else []

def eot_next : Pipe :=
  match s.handler with
  | none => s
  | some (offset, stop) =>
    let next := next_offset s.desc_size offset
    { s.update_offset offset next with
      handled := s.handled ++ [s.owner offset]
      events := s.events ++ s.notify offset
      handler := if next = stop then none else some (next, stop) }

def pipe_handler_eot : Pipe :=
  if s.handler.isSome then s else eot_next^[s.desc_size / DESC] s.eot_start

end

/-! ## The client -/

def Request.desc (r : Request) (producer : Bool) : Iovec :=
  if !r.default then ⟨r.addr, r.size, r.int, r.eot, r.other⟩
  else if producer then ⟨r.addr, r.size, true, false, 0⟩
  else ⟨r.addr, r.size, true, true, 0⟩

section

variable (s : Pipe)

def submit (r : Request) : Pipe :=
  let desc := Request.desc r s.producer
  let next_write := next_offset s.desc_size s.desc_offset
  { s with
    desc_buf := update s.desc_buf s.desc_offset desc
    desc_cache :=
      if s.no_queue then s.desc_cache else update s.desc_cache s.desc_offset desc
    user_ptrs :=
      if s.no_queue then s.user_ptrs else update s.user_ptrs (s.desc_offset / DESC) r.user
    desc_offset := next_write
    write_offset := if r.no_submit then s.write_offset else next_write
    owner := update s.owner s.desc_offset (some s.submitted)
    submitted := s.submitted + 1
    told := if r.no_submit then s.told else s.submitted + 1 }

def full : Bool := decide (next_offset s.desc_size s.desc_offset = s.acked_offset)

def make_room : Pipe :=
  if s.full && !s.ack_xfers && s.polled then s.pipe_handler_eot else s

def sps_bam_pipe_transfer_one (r : Request) : ℤ × Pipe :=
  if s.no_queue && r.user.isSome then (SPS_ERROR, s)
  else if s.make_room.full then (SPS_ERROR, s.make_room)
  else (0, s.make_room.submit r)

def poll : Pipe :=
  if (s.polled || s.hybrid) && !s.no_queue then s.pipe_handler_eot else s

def take : Iovec × Pipe :=
  if (if s.no_queue then s.read_offset else s.cache_offset) = s.acked_offset then
    (⟨0, 0, false, false, 0⟩, s)
  else
    (s.desc_buf s.acked_offset,
      { s with
        acked_offset := next_offset s.desc_size s.acked_offset
        acked := s.acked ++ [s.owner s.acked_offset] })

def sps_bam_pipe_get_iovec : ℤ × Option Iovec × Pipe :=
  if !s.ack_xfers then (SPS_ERROR, none, s)
  else (0, some s.poll.take.1, s.poll.take.2)

end

/-! ## The hardware -/

/-- The hardware completes a descriptor. At a source pipe it writes the size, and the EOT flag if it
knows already. -/
def advance (s : Pipe) (size : ℕ) (eot : Option Bool) : Pipe :=
  if s.read_offset = s.write_offset then s
  else
    let desc := s.desc_buf s.read_offset
    { s with
      desc_buf := if s.producer then
          update s.desc_buf s.read_offset { desc with size, eot := eot.getD desc.eot }
        else s.desc_buf
      read_offset := next_offset s.desc_size s.read_offset
      done := s.done + 1 }

def set_eot (s : Pipe) : Pipe :=
  if s.producer && decide (0 < s.done) then
    let last := prev_offset s.desc_size s.read_offset
    { s with desc_buf := update s.desc_buf last { s.desc_buf last with eot := true } }
  else s

end Pipe

/-- The steps of the client, of the interrupt and of the hardware. -/
inductive Action where
  | transfer_one (r : Request)
  | get_iovec
  | eot_start
  | eot_next
  | advance (size : ℕ) (eot : Option Bool)
  | set_eot

def Pipe.step (s : Pipe) : Action → Pipe
  | .transfer_one r => (s.sps_bam_pipe_transfer_one r).2
  | .get_iovec => s.sps_bam_pipe_get_iovec.2.2
  | .eot_start => s.eot_start
  | .eot_next => s.eot_next
  | .advance size eot => s.advance size eot
  | .set_eot => s.set_eot

/-- How the pipe is set up. -/
structure Options where
  producer : Bool
  no_queue : Bool
  ack_xfers : Bool
  polled : Bool
  hybrid : Bool
  late_eot : Bool
  irq_eot : Bool
  irq_desc_done : Bool

def Pipe.init (o : Options) (slots : ℕ) : Pipe where
  producer := o.producer
  no_queue := o.no_queue
  ack_xfers := o.ack_xfers
  polled := o.polled
  hybrid := o.hybrid
  late_eot := o.late_eot
  irq_eot := o.irq_eot
  irq_desc_done := o.irq_desc_done
  desc_size := DESC * slots
  desc_buf := fun _ => ⟨0, 0, false, false, 0⟩
  desc_cache := fun _ => ⟨0, 0, false, false, 0⟩
  user_ptrs := fun _ => none
  desc_offset := 0
  acked_offset := 0
  cache_offset := 0
  handler := none
  read_offset := 0
  write_offset := 0
  events := []
  owner := fun _ => none
  submitted := 0
  told := 0
  done := 0
  handled := []
  acked := []

/-! ## Descriptors are handled once and in order -/

def upTo (n : ℕ) : List (Option ℕ) := (List.range n).map some

/-- What was handled and acknowledged is the beginning of what was done. -/
structure Pipe.Good (s : Pipe) : Prop where
  handled : ∃ n ≤ s.done, s.handled = upTo n
  acked : ∃ n ≤ s.done, s.acked = upTo n
  slots : ∀ n, s.acked.length ≤ n → n < s.submitted →
    s.owner (DESC * (n % (s.desc_size / DESC))) = some n

def Pipe.watched (s : Pipe) : Bool := s.producer && s.late_eot && !(s.no_queue && s.ack_xfers)

def Pipe.settled (s : Pipe) : Bool :=
  !s.watched || decide (0 < s.done) || (s.desc_buf (s.desc_size - DESC)).eot

def Pipe.careful (s : Pipe) : Action → Bool
  | .eot_start => s.settled
  | .transfer_one _ => !(s.full && !s.ack_xfers && s.polled) || s.settled
  | .get_iovec => !(s.ack_xfers && (s.polled || s.hybrid) && !s.no_queue) || s.settled
  | .eot_next | .advance .. | .set_eot => true

/-! ## Offsets and counts -/

section

variable {n : ℕ}

def slot (n i : ℕ) : ℕ := DESC * (i % n)

lemma slot_inj {i j : ℕ} (hij : i ≤ j) (hj : j < i + n) (heq : slot n i = slot n j) : i = j := by
  apply Ring.count_inj hij hj
  unfold slot DESC at heq
  omega

lemma next_slot (hn : 0 < n) (i : ℕ) : next_offset (DESC * n) (slot n i) = slot n (i + 1) := by
  have hlt := mod_lt i hn
  unfold next_offset slot DESC
  rw [Ring.count_succ hn]
  split_ifs <;> omega

lemma prev_slot (hn : 0 < n) {i : ℕ} (hi : 0 < i) :
    prev_offset (DESC * n) (slot n i) = slot n (i - 1) := by
  have hsucc := Ring.count_succ hn (i - 1)
  rw [show i - 1 + 1 = i by omega] at hsucc
  unfold prev_offset slot DESC
  split_ifs at hsucc with hwrap
  · rw [hsucc, if_pos rfl]
    omega
  · rw [hsucc, if_neg (by omega)]
    omega

lemma slot_add (i k : ℕ) : (slot n i + DESC * k) % (DESC * n) = slot n (i + k) := by
  unfold slot
  rw [← mul_add, mul_mod_mul_left, mod_add_mod]

lemma between_slots {i j : ℕ} (hij : i ≤ j) (hj : j < i + n) :
    (slot n j + DESC * n - slot n i) / DESC % (DESC * n / DESC) = j - i := by
  have hcancel : (slot n j + DESC * n - slot n i) / DESC = j % n + n - i % n := by
    unfold slot DESC
    omega
  rw [hcancel, Nat.mul_div_cancel_left n (by decide), Ring.count_sub hij hj]

end

lemma upTo_succ (i : ℕ) : upTo (i + 1) = upTo i ++ [some i] := by
  rw [upTo, range_succ, map_append]
  rfl

/-! ## The invariant -/

namespace Pipe

def LastEot (n : ℕ) (s : Pipe) : Prop := (s.desc_buf (slot n (s.done - 1))).eot = true

/-- `A` descriptors have been acknowledged and `H` handed over. Each offset is the slot of a count.
-/
structure Inv (n A H : ℕ) (s : Pipe) : Prop where
  two : 2 ≤ n
  size : s.desc_size = DESC * n
  desc_offset : s.desc_offset = slot n s.submitted
  write_offset : s.write_offset = slot n s.told
  read_offset : s.read_offset = slot n s.done
  acked_offset : s.acked_offset = slot n A
  acked : s.acked = upTo A
  handled : s.handled = upTo H
  cached : s.no_queue = false → s.ack_xfers = true → s.cache_offset = slot n H
  direct : s.no_queue = false → s.ack_xfers = false → A = H
  queued : s.no_queue = false → A ≤ H
  acked_le : A ≤ s.done
  handled_le : H ≤ s.done
  done_le : s.done ≤ s.told
  told_le : s.told ≤ s.submitted
  room : s.submitted < A + n
  slots : ∀ i, A ≤ i → i < s.submitted → s.owner (slot n i) = some i
  eot : s.watched = true → 0 < s.done → (if s.no_queue then A else H) = s.done → s.LastEot n
  running : ∀ offset stop, s.handler = some (offset, stop) → s.no_queue = false ∧
    offset = slot n H ∧ ∃ k, H < k ∧ k ≤ s.done ∧ stop = slot n k ∧
      (s.watched = true → k = s.done → s.LastEot n)

def Counted (n : ℕ) (s : Pipe) : Prop := ∃ A H, s.Inv n A H

namespace Inv

variable {n A H : ℕ} {s : Pipe}

variable (h : s.Inv n A H)
include h

lemma pos : 0 < n := by
  have := h.two
  omega

lemma good : s.Good where
  handled := ⟨H, h.handled_le, h.handled⟩
  acked := ⟨A, h.acked_le, h.acked⟩
  slots := by
    rw [h.size, Nat.mul_div_cancel_left n (by decide), h.acked, upTo, length_map, length_range]
    exact h.slots

lemma end_offset_eq (hset : s.settled = true) (hmoves : (s.no_queue && s.ack_xfers) = false) {m : ℕ}
    (hm : (if s.no_queue then A else H) = m) :
    ∃ k, m ≤ k ∧ k ≤ s.done ∧ s.end_offset = slot n k ∧
      (s.watched = true → 0 < s.done → k = s.done → s.LastEot n) := by
  have hw : s.watched = (s.producer && s.late_eot) := by
    rw [watched, hmoves, Bool.not_false, Bool.and_true]
  have hle : m ≤ s.done := by
    rw [← hm]
    split
    · exact h.acked_le
    · exact h.handled_le
  rw [end_offset, ← hw, h.size, h.read_offset]
  cases hwatched : s.watched with
  | false => exact ⟨s.done, hle, le_rfl, by simp, nofun⟩
  | true =>
    rcases Nat.eq_zero_or_pos s.done with hzero | hpos
    · -- Nothing is completed: this is where the flag of the last slot is looked at.
      have hlast : (s.desc_buf (DESC * n - DESC)).eot = true := by
        rw [settled, hwatched, hzero, h.size] at hset
        simpa using hset
      have hprev : prev_offset (DESC * n) (slot n s.done) = DESC * n - DESC := by
        rw [hzero, slot, zero_mod]
        rfl
      refine ⟨s.done, hle, le_rfl, ?_, fun _ hpos => by omega⟩
      rw [hprev, hlast]
      rfl
    · rw [prev_slot h.pos hpos]
      cases heot : (s.desc_buf (slot n (s.done - 1))).eot with
      | true => exact ⟨s.done, hle, le_rfl, by simp, fun _ _ _ => heot⟩
      | false =>
        have hne : m ≠ s.done := by
          intro heq
          have := h.eot hwatched hpos (hm.trans heq)
          rw [LastEot, heot] at this
          exact Bool.false_ne_true this
        exact ⟨s.done - 1, by omega, by omega, by simp, fun _ _ heq => by omega⟩

lemma between_eq {k : ℕ} (hle : A ≤ k) (hk : k ≤ s.done) :
    s.acked ++ s.between s.acked_offset (slot n k) = upTo k := by
  have hdone := h.done_le
  have htold := h.told_le
  have hroom := h.room
  rw [between, h.size, h.acked_offset, between_slots hle (by omega), h.acked]
  have howner : (range (k - A)).map (fun i => s.owner ((slot n A + DESC * i) % (DESC * n))) =
        (range (k - A)).map fun i => some (A + i) := by
    apply map_congr_left
    intro i hi
    rw [mem_range] at hi
    rw [slot_add, h.slots _ (by omega) (by omega)]
  rw [howner, upTo, upTo, ← add_sub_of_le hle, range_add, map_append, map_map,
    Nat.add_sub_cancel_left]
  rfl

/-! Nothing but the handler's own start depends on what it finds. -/

lemma eot_start (hset : s.settled = true) : s.eot_start.Counted n := by
  unfold Pipe.eot_start
  by_cases hrun : s.handler.isSome
  · rw [if_pos hrun]
    exact ⟨A, H, h⟩
  rw [if_neg hrun]
  by_cases hq : s.no_queue = true
  · rw [if_pos hq]
    by_cases hack : s.ack_xfers = true
    · rw [if_pos hack]
      exact ⟨A, H, h⟩
    obtain ⟨k, hle, hk, hend, heot⟩ := h.end_offset_eq hset
      (by rw [Bool.eq_false_iff.mpr hack, Bool.and_false]) (if_pos hq)
    have hroom := h.room
    rw [if_neg hack, hend, h.between_eq hle hk]
    exact ⟨k, H,
      { h with
        acked_offset := rfl
        acked := rfl
        direct := fun hq' => absurd (hq.symm.trans hq') Bool.true_eq_false.mp
        queued := fun hq' => absurd (hq.symm.trans hq') Bool.true_eq_false.mp
        acked_le := hk
        room := hroom.trans_le (Nat.add_le_add_right hle n)
        slots := fun i hi => h.slots i (hle.trans hi)
        eot := fun hw hpos hall => heot hw hpos ((if_pos hq).symm.trans hall) }⟩
  · rw [if_neg hq]
    have hq' : s.no_queue = false := Bool.eq_false_iff.mpr hq
    obtain ⟨k, hle, hk, hend, heot⟩ := h.end_offset_eq hset (by rw [hq', Bool.false_and])
      (if_neg hq)
    -- In both modes the offset that the handler moves stands where it has got to.
    have hoffset : s.start_offset = slot n H := by
      unfold start_offset
      cases hack : s.ack_xfers with
      | true => exact h.cached hq' hack
      | false => exact h.direct hq' hack ▸ h.acked_offset
    rw [hoffset, hend]
    by_cases hsame : slot n H = slot n k
    · rw [if_pos hsame]
      exact ⟨A, H, h⟩
    rw [if_neg hsame]
    have hlt : H < k := lt_of_le_of_ne hle fun heq => hsame (congrArg _ heq)
    refine ⟨A, H, { h with running := ?_ }⟩
    intro offset stop hsome
    cases hsome
    exact ⟨hq', rfl, k, hlt, hk, rfl, fun hw => heot hw (by omega)⟩

lemma eot_next : s.eot_next.Counted n := by
  unfold Pipe.eot_next
  split
  · exact ⟨A, H, h⟩
  case h_2 offset stop hrun =>
    obtain ⟨hq, rfl, k, hlt, hk, rfl, heot⟩ := h.running offset stop hrun
    have hle := h.queued hq
    have hdone := h.done_le
    have htold := h.told_le
    have hroom := h.room
    have howner := h.slots H hle (by omega)
    have hstop : slot n (H + 1) = slot n k ↔ H + 1 = k :=
      ⟨fun heq => slot_inj (by omega) (by omega) heq, fun heq => by rw [heq]⟩
    have hflag : s.watched = true → H + 1 = s.done → s.LastEot n :=
      fun hw heq => heot hw (by omega)
    -- The next round, or none with the flag of the last descriptor seen.
    have hrunning : ∀ offset stop,
        (if slot n (H + 1) = slot n k then none else some (slot n (H + 1), slot n k)) =
          some (offset, stop) → s.no_queue = false ∧ offset = slot n (H + 1) ∧
        ∃ k, H + 1 < k ∧ k ≤ s.done ∧ stop = slot n k ∧
          (s.watched = true → k = s.done → s.LastEot n) := by
      intro offset stop hsome
      by_cases hlast : H + 1 = k
      · rw [if_pos (hstop.mpr hlast)] at hsome
        exact absurd hsome.symm (Option.some_ne_none _)
      · rw [if_neg (mt hstop.mp hlast)] at hsome
        cases hsome
        exact ⟨hq, rfl, k, by omega, hk, rfl, heot⟩
    have hif : ∀ A', (if s.no_queue then A' else H + 1) = H + 1 := fun A' => by rw [hq]; rfl
    simp only [h.size, next_slot h.pos, howner, h.handled, ← upTo_succ]
    by_cases hack : s.ack_xfers = true
    · simp only [update_offset, if_pos hack]
      exact ⟨A, H + 1,
        { h with
          size := h.size
          handled := rfl
          cached := fun _ _ => rfl
          direct := fun _ hack' => absurd (hack.symm.trans hack') Bool.true_eq_false.mp
          queued := fun _ => le_succ_of_le hle
          handled_le := hlt.trans_le hk
          eot := fun hw _ hall => hflag hw ((hif A).symm.trans hall)
          running := hrunning }⟩
    · have hdirect := h.direct hq (Bool.eq_false_iff.mpr hack)
      simp only [update_offset, if_neg hack, howner, h.acked, hdirect, ← upTo_succ]
      exact ⟨H + 1, H + 1,
        { h with
          size := h.size
          acked_offset := rfl
          acked := rfl
          handled := rfl
          cached := fun _ hack' => absurd hack' hack
          direct := fun _ _ => rfl
          queued := fun _ => le_rfl
          acked_le := hlt.trans_le hk
          handled_le := hlt.trans_le hk
          room := by change s.submitted < _; omega
          slots := fun i hi => h.slots i (by omega)
          eot := fun hw _ hall => hflag hw ((hif (H + 1)).symm.trans hall)
          running := hrunning }⟩

lemma pipe_handler_eot (hset : s.settled = true) : s.pipe_handler_eot.Counted n := by
  have hiter : ∀ (k : ℕ) (t : Pipe), t.Counted n → (Pipe.eot_next^[k] t).Counted n := by
    intro k
    induction k with
    | zero => exact fun _ ht => ht
    | succ k ih => exact fun t ⟨_, _, ht⟩ => ih t.eot_next ht.eot_next
  unfold Pipe.pipe_handler_eot
  split
  · exact ⟨A, H, h⟩
  · exact hiter _ _ (h.eot_start hset)

end Inv

/-! The options stay what they are. -/

lemma eot_next_ack_xfers (s : Pipe) : s.eot_next.ack_xfers = s.ack_xfers := by
  unfold eot_next update_offset
  split
  · rfl
  · split <;> rfl

lemma poll_ack_xfers (s : Pipe) : s.poll.ack_xfers = s.ack_xfers := by
  have hiter : ∀ (k : ℕ) (t : Pipe), (eot_next^[k] t).ack_xfers = t.ack_xfers := by
    intro k
    induction k with
    | zero => exact fun _ => rfl
    | succ k ih => exact fun t => (ih t.eot_next).trans t.eot_next_ack_xfers
  unfold poll pipe_handler_eot
  split_ifs
  · rfl
  · rw [hiter]
    unfold eot_start
    split_ifs <;> rfl
  · rfl

namespace Inv

variable {n A H : ℕ} {s : Pipe}

/-! The client. -/

variable (h : s.Inv n A H)
include h

lemma submit (hroom : s.full = false) (r : Request) : (s.submit r).Inv n A H := by
  have hle := h.acked_le
  have hdone := h.done_le
  have htold := h.told_le
  have hlt := h.room
  have hnext : next_offset s.desc_size s.desc_offset = slot n (s.submitted + 1) := by
    rw [h.size, h.desc_offset, next_slot h.pos]
  have hspare : s.submitted + 1 < A + n := by
    rw [full, hnext, h.acked_offset, decide_eq_false_iff_not] at hroom
    apply lt_of_le_of_ne (by omega)
    intro heq
    rw [heq, slot, slot, add_mod_right] at hroom
    exact hroom rfl
  have hother : ∀ {i}, i < s.submitted → s.submitted < i + n → slot n i ≠ slot n s.submitted :=
    fun hi hj heq => hi.ne (slot_inj hi.le hj heq)
  -- The slot is not the one whose flag the handler has seen.
  have hlast : 0 < s.done → s.LastEot n → (s.submit r).LastEot n := by
    intro hpos heot
    change (update s.desc_buf s.desc_offset _ (slot n (s.done - 1))).eot = true
    rw [h.desc_offset, update_of_ne (hother (by omega) (by omega))]
    exact heot
  refine
    { h with
      desc_offset := hnext
      write_offset := ?_
      done_le := ?_
      told_le := ?_
      room := hspare
      slots := ?_
      eot := fun hw hpos hall => hlast hpos (h.eot hw hpos hall)
      running := ?_ }
  · change (if r.no_submit then _ else _) = slot n (if r.no_submit then _ else _)
    split
    · exact h.write_offset
    · exact hnext
  · change s.done ≤ if r.no_submit then _ else _
    split <;> omega
  · change (if r.no_submit then _ else _) ≤ s.submitted + 1
    split <;> omega
  · intro i hi hlt'
    change update s.owner s.desc_offset (some s.submitted) (slot n i) = some i
    rw [h.desc_offset]
    rcases Nat.lt_succ_iff_lt_or_eq.mp hlt' with hold | rfl
    · rw [update_of_ne (hother hold (by omega)), h.slots i hi hold]
    · exact update_self ..
  · intro offset stop hsome
    obtain ⟨hq, hoffset, k, hk, hk', hstop, heot⟩ := h.running offset stop hsome
    exact ⟨hq, hoffset, k, hk, hk', hstop, fun hw heq => hlast (by omega) (heot hw heq)⟩

lemma transfer_one {r : Request} (hc : s.careful (.transfer_one r) = true) :
    (s.sps_bam_pipe_transfer_one r).2.Counted n := by
  have hroom : s.make_room.Counted n := by
    unfold make_room
    split
    case isTrue hcall =>
      rw [careful, hcall, Bool.not_true, Bool.false_or] at hc
      exact h.pipe_handler_eot hc
    case isFalse => exact ⟨A, H, h⟩
  unfold sps_bam_pipe_transfer_one
  split_ifs with _ hfull
  · exact ⟨A, H, h⟩
  · exact hroom
  · obtain ⟨A', H', hinv⟩ := hroom
    exact ⟨A', H', hinv.submit (Bool.eq_false_iff.mpr hfull) r⟩

lemma take (hack : s.ack_xfers = true) : s.take.2.Counted n := by
  unfold Pipe.take
  by_cases hne : (if s.no_queue then s.read_offset else s.cache_offset) = s.acked_offset
  · rw [if_pos hne]
    exact ⟨A, H, h⟩
  rw [if_neg hne]
  have hdone := h.done_le
  have htold := h.told_le
  have hroom := h.room
  -- There is a completed descriptor that is not acknowledged.
  have hlt : A < s.done ∧ (s.no_queue = false → A < H) := by
    rw [h.acked_offset] at hne
    cases hq : s.no_queue with
    | true =>
      rw [hq, if_pos rfl, h.read_offset] at hne
      exact ⟨lt_of_le_of_ne h.acked_le fun heq => hne (by rw [heq]), nofun⟩
    | false =>
      rw [hq, if_neg Bool.false_ne_true, h.cached hq hack] at hne
      have hlt : A < H := lt_of_le_of_ne (h.queued hq) fun heq => hne (by rw [heq])
      exact ⟨hlt.trans_le h.handled_le, fun _ => hlt⟩
  have howner := h.slots A le_rfl (by omega)
  simp only [h.acked_offset, h.size, next_slot h.pos, howner, h.acked, ← upTo_succ]
  refine ⟨A + 1, H,
    { h with
      size := rfl
      acked_offset := rfl
      acked := rfl
      direct := fun _ hack' => absurd (hack.symm.trans hack') Bool.true_eq_false.mp
      queued := hlt.2
      acked_le := hlt.1
      room := by change s.submitted < _; omega
      slots := fun i hi => h.slots i (by omega)
      eot := ?_ }⟩
  intro hw hpos hall
  -- Without the queue nothing is watched here, and with it nothing has moved.
  have hq : s.no_queue = false := by
    rw [watched, hack] at hw
    cases hq : s.no_queue with
    | false => rfl
    | true => simp [hq] at hw
  refine h.eot hw hpos ?_
  simpa [hq] using hall

lemma get_iovec (hc : s.careful .get_iovec = true) : s.sps_bam_pipe_get_iovec.2.2.Counted n := by
  unfold sps_bam_pipe_get_iovec
  by_cases hack : s.ack_xfers = true
  · have hpoll : s.poll.Counted n := by
      unfold poll
      split
      case isTrue hcall =>
        rw [careful, hack, Bool.true_and, hcall, Bool.not_true, Bool.false_or] at hc
        exact h.pipe_handler_eot hc
      case isFalse => exact ⟨A, H, h⟩
    obtain ⟨A', H', hinv⟩ := hpoll
    rw [hack]
    exact hinv.take (s.poll_ack_xfers.trans hack)
  · rw [Bool.eq_false_iff.mpr hack]
    exact ⟨A, H, h⟩

/-! The hardware. -/

lemma advance (size : ℕ) (eot : Option Bool) : (s.advance size eot).Inv n A H := by
  unfold Pipe.advance
  split
  · exact h
  case isFalse hne =>
    have hle := h.acked_le
    have hhandled := h.handled_le
    have hlt : s.done < s.told := by
      apply lt_of_le_of_ne h.done_le
      intro heq
      rw [h.read_offset, h.write_offset, heq] at hne
      exact hne rfl
    refine
      { h with
        read_offset := ?_
        acked_le := le_succ_of_le hle
        handled_le := le_succ_of_le hhandled
        done_le := hlt
        eot := ?_
        running := ?_ }
    · rw [h.size, h.read_offset, next_slot h.pos]
    · intro _ _ hall
      change (if s.no_queue then A else H) = s.done + 1 at hall
      split at hall <;> omega
    · intro offset stop hsome
      obtain ⟨hq, hoffset, k, hk, hk', hstop, -⟩ := h.running offset stop hsome
      refine ⟨hq, hoffset, k, hk, le_succ_of_le hk', hstop, fun _ heq => ?_⟩
      change k = s.done + 1 at heq
      omega

lemma set_eot : s.set_eot.Inv n A H := by
  unfold Pipe.set_eot
  split
  case isFalse => exact h
  case isTrue hset =>
    have hpos : 0 < s.done := by
      rw [Bool.and_eq_true, decide_eq_true_iff] at hset
      exact hset.2
    have hlast : ∀ desc : Iovec, (update s.desc_buf
        (prev_offset s.desc_size s.read_offset) { desc with eot := true }
          (slot n (s.done - 1))).eot = true := by
      intro desc
      rw [h.size, h.read_offset, prev_slot h.pos hpos, update_self]
    refine { h with eot := fun _ _ _ => hlast _, running := ?_ }
    intro offset stop hsome
    obtain ⟨hq, hoffset, k, hk, hk', hstop, -⟩ := h.running offset stop hsome
    exact ⟨hq, hoffset, k, hk, hk', hstop, fun _ _ => hlast _⟩

lemma step {a : Action} (hc : s.careful a = true) : (s.step a).Counted n := by
  cases a with
  | transfer_one r => exact h.transfer_one hc
  | get_iovec => exact h.get_iovec hc
  | eot_start => exact h.eot_start hc
  | eot_next => exact h.eot_next
  | advance size eot => exact ⟨A, H, h.advance size eot⟩
  | set_eot => exact ⟨A, H, h.set_eot⟩

end Inv

end Pipe

end KernelExtra.Sps
