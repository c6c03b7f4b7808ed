/-
Concurrent senders on one FIFO, `qcom_glink_tx`.

A caller takes `tx_lock` and writes its command if there is room. One that may wait writes a
READ_NOTIF command first and sleeps without the lock. The READ_NOTIF lives on the eight bytes that
`glink_smem_tx_avail` keeps from everybody else; one flag, shared by all callers, is to see to it
that they are spent once. The invariant is that account: while the flag is clear, sixteen bytes are
free; while it is set, eight.

There are three ways out of it: a FIFO of eight bytes, a command of 2³² bytes and more, and a FIFO
of more than 2³¹ bytes.
-/
import KernelExtra.Glink.Fifo
import KernelExtra.Lib.Run

namespace KernelExtra.Glink

open Run (exec exec_cons Ok)
open Bytes List Nat UInt32

/-! ## The callers -/

def EINVAL : ℤ := 22
def EAGAIN : ℤ := 11
def ECONNRESET : ℤ := 104

/-- A call of `qcom_glink_tx`. -/
structure Call where
  hdr : List UInt8
  data : List UInt8
  wait : Bool

def Call.tlen (c : Call) : UInt32 := ofNat (c.hdr.length + c.data.length)

def read_notif : List UInt8 := toLe 2 13 ++ toLe 2 0 ++ toLe 4 0

/-- What is written: a READ_NOTIF, or the command itself. -/
inductive Item where
  | notif
  | command

def Item.hdr (c : Call) : Item → List UInt8
  | .notif => read_notif
  | .command => c.hdr

def Item.data (c : Call) : Item → List UInt8
  | .notif => []
  | .command => c.data

/-- The bytes of a command. -/
def Item.bytes (c : Call) (it : Item) : List UInt8 := it.hdr c ++ it.data c

/-- Where a caller is. -/
inductive Task where
  | idle
  | entering (c : Call)
  | looking (c : Call)
  | copying (c : Call) (it : Item)
  | publishing (c : Call) (it : Item) (head : UInt32)
  | asleep (c : Call)
  | woken (c : Call)
  | returned (ret : ℤ)

def Task.holds : Task → Bool
  | .looking _ | .copying .. | .publishing .. | .woken _ => true
  | .idle | .entering _ | .asleep _ | .returned _ => false

/-- The sending side of `struct qcom_glink`. The last four fields are a trace: the commands in the
FIFO, the one that is being written, all that have been written, and what the remote has read. -/
structure Edge where
  tx_pipe : Pipe
  in_reset : Bool
  tx_lock : Option ℕ
  sent_read_notify : Bool
  task : ℕ → Task
  unread : List (List UInt8)
  filling : List (List UInt8)
  written : List (List UInt8)
  read : List (List UInt8)

namespace Edge

def init (length : ℕ) (fifo : Mem) : Edge where
  tx_pipe := ⟨length, 0, 0, fifo⟩
  in_reset := false
  tx_lock := none
  sent_read_notify := false
  task := fun _ => .idle
  unread := []
  filling := []
  written := []
  read := []

section

variable (s : Edge)

def goto (t : ℕ) (k : Task) : Edge := { s with task := Function.update s.task t k }

def spin_lock (t : ℕ) (k : Task) : Edge :=
  match s.tx_lock with
  | none => { s.goto t k with tx_lock := some t }
  | some _ => s

def spin_unlock (t : ℕ) (k : Task) : Edge := { s.goto t k with tx_lock := none }

def enter (t : ℕ) (c : Call) : Edge :=
  if c.tlen.toNat ≥ s.tx_pipe.length then s.goto t (.returned (-EINVAL))
  else if s.in_reset then s.goto t (.returned (-ECONNRESET))
  else s.goto t (.entering c)

/-- Is there room? If not, the caller sleeps or returns. -/
def look (t : ℕ) (c : Call) : Edge :=
  if glink_smem_tx_avail s.tx_pipe < c.tlen then
    if !c.wait then s.spin_unlock t (.returned (-EAGAIN))
    else if !s.sent_read_notify then
      { s with sent_read_notify := true }.goto t (.copying c .notif)
    else s.spin_unlock t (.asleep c)
  else s.goto t (.copying c .command)

/-- The bytes go into the FIFO. -/
def fill (t : ℕ) (c : Call) (it : Item) : Edge :=
  let filled := glink_smem_tx_fill s.tx_pipe (it.hdr c) (it.data c)
  { s with
    tx_pipe := { s.tx_pipe with fifo := filled.1 }
    filling := [it.bytes c] }.goto t (.publishing c it filled.2)

/-- The head is stored, and the other side may read. -/
def publish (t : ℕ) (c : Call) (it : Item) (head : UInt32) : Edge :=
  { s with
    tx_pipe := { s.tx_pipe with head }
    unread := s.unread ++ s.filling
    written := s.written ++ s.filling
    filling := [] }.spin_unlock t
      (match it with
        | .notif => .asleep c
        | .command => .returned 0)

def recheck (t : ℕ) (c : Call) : Edge :=
  if s.in_reset then s.spin_unlock t (.returned (-ECONNRESET))
  else if glink_smem_tx_avail s.tx_pipe ≥ c.tlen then
    { s with sent_read_notify := false }.goto t (.looking c)
  else s.goto t (.looking c)

/-- What a caller does next. One that sleeps can wake at any time: the wait has a timeout. -/
def next (t : ℕ) : Task → Edge
  | .idle | .returned _ => s
  | .entering c => s.spin_lock t (.looking c)
  | .looking c => s.look t c
  | .copying c it => s.fill t c it
  | .publishing c it head => s.publish t c it head
  | .asleep c => s.spin_lock t (.woken c)
  | .woken c => s.recheck t c

/-- The other side reads a command. -/
def consume : Edge :=
  match s.unread with
  | [] => s
  | cmd :: rest =>
    if s.tx_pipe.head = s.tx_pipe.tail then s
    else
      { s with
        tx_pipe := { s.tx_pipe with
          tail := ofNat ((s.tx_pipe.tail.toNat + pad8 cmd.length) % s.tx_pipe.length) }
        unread := rest
        read := s.read ++ [glink_smem_rx_peak s.tx_pipe [] 0 cmd.length] }

end

end Edge

/-- A step of a caller, a reset, or a read of the other side. -/
inductive Action where
  | call (t : ℕ) (c : Call)
  | next (t : ℕ)
  | reset
  | consume

def Edge.step (s : Edge) : Action → Edge
  | .call t c =>
    match s.task t with
    | .idle | .returned _ => s.enter t c
    | _ => s
  | .next t => s.next t (s.task t)
  | .reset => { s with in_reset := true }
  | .consume => s.consume

/-! ## The FIFO holds what was written -/

/-- The FIFO holds the commands that are written and not read, whole and in order. -/
structure Edge.Good (s : Edge) : Prop where
  free : extent pad8 (s.unread ++ s.filling) + 8 ≤ s.tx_pipe.length
  head_eq : s.tx_pipe.head.toNat =
    (s.tx_pipe.tail.toNat + extent pad8 s.unread) % s.tx_pipe.length
  seen : extent pad8 s.unread ≠ 0 → s.tx_pipe.head ≠ s.tx_pipe.tail
  intact : Records pad8 s.tx_pipe.length s.tx_pipe.fifo s.tx_pipe.tail.toNat s.unread
  order : s.read ++ s.unread = s.written

/-- What a caller that writes must see to: a READ_NOTIF needs a FIFO of sixteen bytes; the length of
a command is the one that was checked; and the sums on the way to the new head do not wrap. -/
def Pipe.Careful (pipe : Pipe) : Task → Prop
  | .copying _ .notif => 16 ≤ pipe.length
  | .copying c .command => c.hdr.length + c.data.length < 2 ^ 32
  | .publishing c it _ =>
    NoCarry pipe.length pipe.head.toNat (it.hdr c).length (it.data c).length
  | .idle | .entering _ | .looking _ | .asleep _ | .woken _ | .returned _ => True

instance (pipe : Pipe) : ∀ k, Decidable (pipe.Careful k)
  | .copying _ .notif => inferInstanceAs (Decidable (_ ≤ _))
  | .copying _ .command => inferInstanceAs (Decidable (_ < _))
  | .publishing .. => inferInstanceAs (Decidable (NoCarry ..))
  | .idle | .entering _ | .looking _ | .asleep _ | .woken _ | .returned _ => .isTrue trivial

def Edge.Careful (s : Edge) : Action → Prop
  | .next t => s.tx_pipe.Careful (s.task t)
  | .call .. | .reset | .consume => True

instance (s : Edge) : ∀ a, Decidable (s.Careful a)
  | .next t => inferInstanceAs (Decidable (s.tx_pipe.Careful (s.task t)))
  | .call .. | .reset | .consume => .isTrue trivial

/-! ## The invariant -/

def Fits (pipe : Pipe) (sent : Bool) (unread filling : List (List UInt8)) : Task → Prop
  | .idle | .entering _ | .returned _ => True
  | .looking _ => filling = []
  | .asleep c => 0 < c.tlen.toNat
  | .woken c => filling = [] ∧ 0 < c.tlen.toNat
  | .copying c .notif =>
    filling = [] ∧ 0 < c.tlen.toNat ∧ sent = true ∧
      extent pad8 unread + min 16 pipe.length ≤ pipe.length
  | .copying c .command =>
    filling = [] ∧ (c.tlen.toNat = 0 ∨ extent pad8 unread + 16 + c.tlen.toNat ≤ pipe.length)
  | .publishing c it head =>
    filling = [it.bytes c] ∧ (it = .notif → 0 < c.tlen.toNat) ∧
      head = fill_head pipe.length pipe.head (it.hdr c).length (it.data c).length ∧
      (NoCarry pipe.length pipe.head.toNat (it.hdr c).length (it.data c).length →
        At pipe.length pipe.fifo (pipe.tail.toNat + extent pad8 unread) (it.bytes c))

/-- The same with what the steps need. -/
structure Edge.Inv (s : Edge) : Prop where
  words : s.tx_pipe.length % 8 = 0
  eight : 8 ≤ s.tx_pipe.length
  aligned : s.tx_pipe.tail.toNat % 8 = 0
  spans : s.tx_pipe.Spans (extent pad8 s.unread)
  free : extent pad8 s.unread + extent pad8 s.filling + 8 ≤ s.tx_pipe.length
  reserve : s.sent_read_notify = false →
    extent pad8 s.unread + extent pad8 s.filling + min 16 s.tx_pipe.length ≤ s.tx_pipe.length
  intact : Records pad8 s.tx_pipe.length s.tx_pipe.fifo s.tx_pipe.tail.toNat s.unread
  order : s.read ++ s.unread = s.written
  holder : ∀ t, (s.task t).holds = true → s.tx_lock = some t
  unlocked : s.tx_lock = none → s.filling = []
  fits : ∀ t, Fits s.tx_pipe s.sent_read_notify s.unread s.filling (s.task t)

lemma extent_mod_eight (rs : List (List UInt8)) : extent pad8 rs % 8 = 0 := by
  induction rs with
  | nil => rfl
  | cons r rs ih =>
    have := (pad8_spec r.length).2.2
    rw [extent_cons]
    omega

lemma extent_singleton (r : List UInt8) : extent pad8 [r] = pad8 r.length := by
  rw [extent_cons, extent_nil, add_zero]

lemma Edge.Inv.good {s : Edge} (h : s.Inv) : s.Good where
  free := by
    rw [extent_append]
    exact h.free
  head_eq := h.spans.head_eq
  seen hne heq := by
    have hfree := h.free
    have hnat : s.tx_pipe.head.toNat = s.tx_pipe.tail.toNat := congrArg UInt32.toNat heq
    rcases h.spans.head_cases with ⟨_, hhead⟩ | ⟨_, hhead⟩ <;> omega
  intact := h.intact
  order := h.order

lemma Edge.init_inv {length : ℕ} (fifo : Mem) (hwords : length % 8 = 0) (height : 8 ≤ length)
    (hsmall : length < 2 ^ 32) : (Edge.init length fifo).Inv where
  words := hwords
  eight := height
  aligned := rfl
  spans := by
    refine ⟨hsmall, ?_, ?_, ?_⟩
    · change 0 < length
      omega
    · change 0 < length
      omega
    · exact (zero_mod length).symm
  free := by
    change 0 + 0 + 8 ≤ length
    omega
  reserve _ := by
    change 0 + 0 + min 16 length ≤ length
    omega
  intact := trivial
  order := rfl
  holder _ h := Bool.noConfusion h
  unlocked _ := rfl
  fits _ := trivial

/-! ## Moves of one caller

Most steps of a caller move it on and perhaps take or give back the lock, and leave the FIFO
alone. -/

section Moves

variable {s : Edge} {t : ℕ} {k : Task}

lemma Fits.of_not_holds {pipe pipe' : Pipe} {sent sent' : Bool}
    {unread filling unread' filling' : List (List UInt8)} (hk : k.holds = false)
    (h : Fits pipe sent unread filling k) : Fits pipe' sent' unread' filling' k := by
  cases k with
  | idle => trivial
  | entering c => trivial
  | returned ret => trivial
  | asleep c => exact h
  | looking c => exact Bool.noConfusion hk
  | copying c it => exact Bool.noConfusion hk
  | publishing c it head => exact Bool.noConfusion hk
  | woken c => exact Bool.noConfusion hk

lemma Edge.Inv.others (h : s.Inv) (ht : (s.task t).holds = true) {u : ℕ} (hu : u ≠ t) :
    (s.task u).holds = false := by
  by_contra hhold
  have hlock := h.holder t ht
  rw [h.holder u (by simpa using hhold), Option.some_inj] at hlock
  exact hu hlock

lemma Edge.task_goto (s : Edge) (t : ℕ) (k : Task) (u : ℕ) :
    (s.goto t k).task u = if u = t then k else s.task u := Function.update_apply ..

variable {task : ℕ → Task}

lemma holder_update {lock : Option ℕ} (hk : k.holds = true → lock = some t)
    (hother : ∀ u ≠ t, (task u).holds = true → lock = some u) (u : ℕ)
    (hu : (Function.update task t k u).holds = true) : lock = some u := by
  rw [Function.update_apply] at hu
  split_ifs at hu with heq
  · exact heq ▸ hk hu
  · exact hother u heq hu

lemma fits_update {pipe : Pipe} {sent : Bool} {unread filling : List (List UInt8)}
    (hk : Fits pipe sent unread filling k)
    (hother : ∀ u ≠ t, Fits pipe sent unread filling (task u)) (u : ℕ) :
    Fits pipe sent unread filling (Function.update task t k u) := by
  rw [Function.update_apply]
  split_ifs with heq
  · exact hk
  · exact hother u heq

variable (h : s.Inv)
include h

lemma Edge.Inv.goto (hlock : k.holds = true → s.tx_lock = some t)
    (hk : Fits s.tx_pipe s.sent_read_notify s.unread s.filling k) : (s.goto t k).Inv := by
  refine ⟨h.words, h.eight, h.aligned, h.spans, h.free, h.reserve, h.intact, h.order, ?_,
    h.unlocked, ?_⟩
  · exact holder_update hlock fun u _ => h.holder u
  · exact fits_update hk fun u _ => h.fits u

lemma Edge.Inv.spin_lock
    (hk : s.filling = [] → Fits s.tx_pipe s.sent_read_notify s.unread s.filling k) :
    (s.spin_lock t k).Inv := by
  unfold Edge.spin_lock
  split
  · next hfree =>
    refine ⟨h.words, h.eight, h.aligned, h.spans, h.free, h.reserve, h.intact, h.order, ?_,
      fun hnone => absurd hnone (Option.some_ne_none t), ?_⟩
    · refine holder_update (fun _ => rfl) fun u _ hu => ?_
      exact absurd (h.holder u hu) (by rw [hfree]; exact nofun)
    · exact fits_update (hk (h.unlocked hfree)) fun u _ => h.fits u
  · exact h

lemma Edge.Inv.spin_unlock (ht : (s.task t).holds = true)
    (hnone : s.filling = []) (hhold : k.holds = false)
    (hk : Fits s.tx_pipe s.sent_read_notify s.unread s.filling k) : (s.spin_unlock t k).Inv := by
  refine ⟨h.words, h.eight, h.aligned, h.spans, h.free, h.reserve, h.intact, h.order, ?_,
    fun _ => hnone, ?_⟩
  · exact holder_update (fun hu => Bool.noConfusion (hhold.symm.trans hu))
      fun u hne hu => Bool.noConfusion ((h.others ht hne).symm.trans hu)
  · exact fits_update hk fun u _ => h.fits u

lemma Edge.Inv.flag (ht : (s.task t).holds = true) {sent : Bool}
    (hroom : sent = false → extent pad8 s.unread + extent pad8 s.filling + min 16 s.tx_pipe.length ≤
      s.tx_pipe.length) (hk : Fits s.tx_pipe sent s.unread s.filling k) :
    ({ s with sent_read_notify := sent }.goto t k : Edge).Inv := by
  refine ⟨h.words, h.eight, h.aligned, h.spans, h.free, hroom, h.intact, h.order, ?_,
    h.unlocked, ?_⟩
  · exact holder_update (fun _ => h.holder t ht) fun u _ => h.holder u
  · exact fits_update hk fun u hne => (h.fits u).of_not_holds (h.others ht hne)

lemma Edge.Inv.enter (c : Call) : (s.enter t c).Inv := by
  unfold Edge.enter
  split_ifs
  · exact h.goto nofun trivial
  · exact h.goto nofun trivial
  · exact h.goto nofun trivial

lemma Edge.Inv.room {c : Call} (hge : c.tlen ≤ glink_smem_tx_avail s.tx_pipe) :
    c.tlen.toNat = 0 ∨ extent pad8 s.unread + 16 + c.tlen.toNat ≤ s.tx_pipe.length := by
  rw [le_iff_toNat_le, glink_smem_tx_avail_eq h.spans] at hge
  omega

lemma Edge.Inv.look {c : Call} (ht : s.task t = .looking c) : (s.look t c).Inv := by
  have hhold : (s.task t).holds = true := by rw [ht]; rfl
  have hnone : s.filling = [] := by
    have := h.fits t
    rwa [ht] at this
  unfold Edge.look
  split_ifs with hless hwait hflag
  · exact h.spin_unlock hhold hnone rfl trivial
  · refine h.flag hhold (fun hset => Bool.noConfusion hset) ⟨hnone, ?_, rfl, ?_⟩
    · exact zero_lt_of_lt hless
    · have := h.reserve (by simpa using hflag)
      rwa [hnone, extent_nil, add_zero] at this
  · refine h.spin_unlock hhold hnone rfl ?_
    exact zero_lt_of_lt hless
  · exact h.goto (fun _ => h.holder t hhold) ⟨hnone, h.room (UInt32.not_lt.1 hless)⟩

lemma Edge.Inv.recheck {c : Call} (ht : s.task t = .woken c) : (s.recheck t c).Inv := by
  have hhold : (s.task t).holds = true := by rw [ht]; rfl
  have hfits : s.filling = [] ∧ 0 < c.tlen.toNat := by
    have := h.fits t
    rwa [ht] at this
  unfold Edge.recheck
  split_ifs with hreset hroom
  · exact h.spin_unlock hhold hfits.1 rfl trivial
  · refine h.flag hhold (fun _ => ?_) hfits.1
    rw [hfits.1, extent_nil]
    rcases h.room hroom with hzero | hfree <;> omega
  · exact h.goto (fun _ => h.holder t hhold) hfits.1

end Moves

/-! ## Writing -/

section Write

variable {s : Edge} {t : ℕ} {c : Call} {it : Item} {head : UInt32}

lemma Item.length_bytes (c : Call) (it : Item) :
    (it.bytes c).length = (it.hdr c).length + (it.data c).length := length_append

lemma pad_notif (c : Call) : pad8 (Item.notif.bytes c).length = 8 := by
  rw [Item.length_bytes, Item.hdr, Item.data, read_notif, length_append, length_append,
    length_toLe, length_toLe, length_nil]
  rfl

variable (h : s.Inv)
include h

lemma Edge.Inv.pad_fits {n : ℕ} (hn : extent pad8 s.unread + 16 + n ≤ s.tx_pipe.length) :
    extent pad8 s.unread + 16 + pad8 n ≤ s.tx_pipe.length := by
  have hwords := h.words
  have hocc := extent_mod_eight s.unread
  rw [pad8]
  omega

section

variable (ht : s.task t = .copying c it)
include ht

/-- **The account.** -/
theorem Edge.Inv.account (hok : s.Careful (.next t)) :
    extent pad8 s.unread + pad8 (it.bytes c).length + 8 ≤ s.tx_pipe.length ∧
      (s.sent_read_notify = false →
        extent pad8 s.unread + pad8 (it.bytes c).length + min 16 s.tx_pipe.length ≤
          s.tx_pipe.length) := by
  have hfits := h.fits t
  have hfree := h.free
  have hreserve := h.reserve
  rw [ht] at hfits
  rw [Edge.Careful, ht] at hok
  cases it with
  | notif =>
    obtain ⟨_, _, hsent, hroom⟩ := hfits
    rw [Pipe.Careful] at hok
    rw [pad_notif]
    exact ⟨by omega, fun hclear => by rw [hsent] at hclear; exact Bool.noConfusion hclear⟩
  | command =>
    obtain ⟨hnone, hroom⟩ := hfits
    have hlen : (Item.command.bytes c).length = c.hdr.length + c.data.length := length_append
    have htlen : c.tlen.toNat = (Item.command.bytes c).length := by
      rw [hlen, Call.tlen, toNat_ofNat', mod_eq_of_lt hok]
    rw [htlen] at hroom
    rcases hroom with hzero | hroom
    · have hpad : pad8 (Item.command.bytes c).length = 0 := by rw [hzero]; rfl
      rw [hnone, extent_nil] at hfree hreserve
      rw [hpad]
      exact ⟨hfree, hreserve⟩
    · have := h.pad_fits hroom
      exact ⟨by omega, fun _ => by omega⟩

lemma Edge.Inv.fill (hok : s.Careful (.next t)) : (s.fill t c it).Inv := by
  obtain ⟨hfree, hreserve⟩ := h.account ht hok
  have hhold : (s.task t).holds = true := by rw [ht]; rfl
  have hlen := Item.length_bytes c it
  have hpad := pad8_spec (it.bytes c).length
  have hfit : extent pad8 s.unread + ((it.hdr c).length + (it.data c).length) ≤
      s.tx_pipe.length := by omega
  have hextent : extent pad8 [it.bytes c] = pad8 (it.bytes c).length := extent_singleton _
  have hhead : (glink_smem_tx_fill s.tx_pipe (it.hdr c) (it.data c)).2 =
      fill_head s.tx_pipe.length s.tx_pipe.head (it.hdr c).length (it.data c).length := by
    rw [glink_smem_tx_fill_eq h.spans.head_lt (by omega) h.spans.small]
  have hrecords := @records_fill _ (it.hdr c) _ _ h.spans _ h.intact rfl hfit
  have hat := @at_fill _ (it.hdr c) _ _ h.spans hfit
  refine ⟨h.words, h.eight, h.aligned, ⟨h.spans.small, h.spans.inside, h.spans.room,
    h.spans.head_eq⟩, ?_, ?_, ?_, h.order, ?_, ?_, ?_⟩
  · change _ + extent pad8 [it.bytes c] + 8 ≤ _
    rwa [hextent]
  · intro hclear
    exact hreserve hclear
  · exact hrecords
  · exact holder_update (fun _ => h.holder t hhold) fun u _ => h.holder u
  · intro hnone
    exact absurd (h.holder t hhold) (by rw [show s.tx_lock = none from hnone]; exact nofun)
  · refine fits_update ⟨rfl, ?_, hhead, hat⟩ fun u hne =>
      (h.fits u).of_not_holds (h.others hhold hne)
    rintro rfl
    have hfits := h.fits t
    rw [ht] at hfits
    exact hfits.2.1

lemma Edge.Inv.fill_overruns (hbad : ¬ s.Careful (.next t)) : ¬ (s.fill t c it).Good := by
  intro hgood
  have hfree := hgood.free
  change extent pad8 (s.unread ++ [it.bytes c]) + 8 ≤ s.tx_pipe.length at hfree
  rw [extent_append, extent_singleton] at hfree
  have hsmall := h.spans.small
  have hpad := pad8_spec (it.bytes c).length
  rw [Edge.Careful, ht] at hbad
  cases it with
  | notif =>
    have hlen := pad_notif c
    rw [Pipe.Careful] at hbad
    omega
  | command =>
    rw [Pipe.Careful] at hbad
    have hlen : (Item.command.bytes c).length = c.hdr.length + c.data.length := length_append
    omega

end

lemma Edge.Inv.publishing (ht : s.task t = .publishing c it head) :
    s.filling = [it.bytes c] ∧
      extent pad8 s.unread + pad8 (it.bytes c).length + 8 ≤ s.tx_pipe.length ∧
      head = fill_head s.tx_pipe.length s.tx_pipe.head (it.hdr c).length (it.data c).length := by
  have hfits := h.fits t
  have hfree := h.free
  rw [ht] at hfits
  rw [hfits.1, extent_singleton] at hfree
  exact ⟨hfits.1, hfree, hfits.2.2.1⟩

lemma Edge.Inv.head_word : s.tx_pipe.head.toNat % 8 = 0 := by
  have hocc := extent_mod_eight s.unread
  have haligned := h.aligned
  rw [h.spans.head_eq, mod_mod_of_dvd _ (dvd_of_mod_eq_zero h.words)]
  omega

lemma Edge.Inv.publish (ht : s.task t = .publishing c it head)
    (hok : s.Careful (.next t)) : (s.publish t c it head).Inv := by
  obtain ⟨hfilling, hfree, hhead⟩ := h.publishing ht
  have hhold : (s.task t).holds = true := by rw [ht]; rfl
  have hfits := h.fits t
  rw [ht] at hfits
  rw [Edge.Careful, ht] at hok
  have hlen := Item.length_bytes c it
  have hunread : extent pad8 (s.unread ++ s.filling) =
      extent pad8 s.unread + pad8 (it.bytes c).length := by
    rw [hfilling, extent_append, extent_singleton]
  have hnew := fill_head_eq h.spans.head_lt h.head_word h.words h.spans.small
    (show pad8 _ ≤ _ by rw [← hlen]; omega) hok
  refine ⟨h.words, h.eight, h.aligned, ⟨h.spans.small, h.spans.inside, ?_, ?_⟩, ?_, ?_, ?_, ?_,
    ?_, fun _ => rfl, ?_⟩
  · change extent pad8 (s.unread ++ s.filling) < s.tx_pipe.length
    omega
  · change head.toNat = (_ + extent pad8 (s.unread ++ s.filling)) % _
    rw [hhead, hnew, h.spans.head_eq, mod_add_mod, hunread, ← hlen, add_assoc]
    rfl
  · change extent pad8 (s.unread ++ s.filling) + 0 + 8 ≤ s.tx_pipe.length
    omega
  · intro hclear
    have hreserve := h.reserve hclear
    change extent pad8 (s.unread ++ s.filling) + 0 + min 16 s.tx_pipe.length ≤ s.tx_pipe.length
    rw [extent_append]
    omega
  · change Records _ _ _ _ (s.unread ++ s.filling)
    rw [hfilling, records_snoc]
    exact ⟨h.intact, hfits.2.2.2 hok⟩
  · change s.read ++ (s.unread ++ s.filling) = s.written ++ s.filling
    rw [← append_assoc, h.order]
  · refine holder_update (fun hu => ?_) fun u hne hu =>
      Bool.noConfusion ((h.others hhold hne).symm.trans hu)
    cases it <;> exact Bool.noConfusion hu
  · refine fits_update ?_ fun u hne => (h.fits u).of_not_holds (h.others hhold hne)
    cases it with
    | notif => exact hfits.2.1 rfl
    | command => trivial

lemma Edge.Inv.publish_misplaced (ht : s.task t = .publishing c it head)
    (hbad : ¬ s.Careful (.next t)) : ¬ (s.publish t c it head).Good := by
  intro hgood
  obtain ⟨hfilling, hfree, hhead⟩ := h.publishing ht
  rw [Edge.Careful, ht] at hbad
  have hlen := Item.length_bytes c it
  have hnew := fill_head_of_carry h.spans.head_lt h.head_word h.words h.spans.small
    (show pad8 _ < _ by rw [← hlen]; omega) hbad
  have hplace : head.toNat = (s.tx_pipe.tail.toNat + extent pad8 (s.unread ++ s.filling)) %
      s.tx_pipe.length := hgood.head_eq
  apply hnew
  rw [← hhead, hplace, hfilling, extent_append, extent_singleton, hlen, h.spans.head_eq,
    mod_add_mod, add_assoc]

end Write

/-! ## Reading -/

section

variable {s : Edge}

lemma Fits.consume {pipe : Pipe} {sent : Bool} {unread filling rest : List (List UInt8)}
    {k : Task} {tail : UInt32} (h : Fits pipe sent unread filling k)
    (hend : (tail.toNat + extent pad8 rest) % pipe.length =
      (pipe.tail.toNat + extent pad8 unread) % pipe.length)
    (hle : extent pad8 rest ≤ extent pad8 unread) :
    Fits { pipe with tail } sent rest filling k := by
  cases k with
  | idle => trivial
  | entering c => trivial
  | returned ret => trivial
  | asleep c => exact h
  | looking c => exact h
  | woken c => exact h
  | copying c it =>
    cases it with
    | notif =>
      obtain ⟨hnone, hpos, hsent, hroom⟩ := h
      exact ⟨hnone, hpos, hsent, le_trans (Nat.add_le_add_right hle _) hroom⟩
    | command =>
      obtain ⟨hnone, hroom⟩ := h
      refine ⟨hnone, hroom.imp_right fun hroom => ?_⟩
      change _ + 16 + _ ≤ pipe.length
      omega
  | publishing c it head =>
    obtain ⟨hfilling, hpos, hhead, hat⟩ := h
    refine ⟨hfilling, hpos, hhead, fun hcarry => ?_⟩
    have := hat hcarry
    rwa [← at_mod, ← hend, at_mod] at this

lemma Edge.Inv.consume (h : s.Inv) : s.consume.Inv := by
  unfold Edge.consume
  split
  · exact h
  next cmd rest hunread =>
  split_ifs
  · exact h
  have hsmall := h.spans.small
  have hin := h.spans.inside
  have hfree := h.free
  have hcmd := pad8_spec cmd.length
  have hocc : extent pad8 s.unread = pad8 cmd.length + extent pad8 rest := by
    rw [hunread, extent_cons]
  have hle : extent pad8 rest ≤ extent pad8 s.unread := by omega
  have hintact := h.intact
  rw [hunread] at hintact
  have htail : (ofNat ((s.tx_pipe.tail.toNat + pad8 cmd.length) %
      s.tx_pipe.length)).toNat = (s.tx_pipe.tail.toNat + pad8 cmd.length) % s.tx_pipe.length := by
    have := mod_lt (s.tx_pipe.tail.toNat + pad8 cmd.length) (zero_lt_of_lt hin)
    rw [toNat_ofNat', mod_eq_of_lt (by omega)]
  have hend : ((ofNat ((s.tx_pipe.tail.toNat + pad8 cmd.length) %
      s.tx_pipe.length)).toNat + extent pad8 rest) % s.tx_pipe.length =
        (s.tx_pipe.tail.toNat + extent pad8 s.unread) % s.tx_pipe.length := by
    rw [htail, mod_add_mod, hocc, add_assoc]
  have hread : glink_smem_rx_peak s.tx_pipe [] 0 cmd.length = cmd := by
    have hload := hintact.1.load (le_rfl)
    rwa [mod_eq_of_lt hin, take_length, ← glink_smem_rx_peak_eq h.spans []] at hload
  refine ⟨h.words, h.eight, ?_, ⟨h.spans.small, ?_, ?_, ?_⟩, ?_, ?_, ?_, ?_, h.holder, h.unlocked,
    fun u => (h.fits u).consume hend hle⟩
  · have haligned := h.aligned
    rw [htail, mod_mod_of_dvd _ (dvd_of_mod_eq_zero h.words)]
    omega
  · rw [htail]
    exact mod_lt _ (zero_lt_of_lt hin)
  · change extent pad8 rest < s.tx_pipe.length
    omega
  · exact h.spans.head_eq.trans hend.symm
  · change extent pad8 rest + extent pad8 s.filling + 8 ≤ s.tx_pipe.length
    omega
  · intro hclear
    have := h.reserve hclear
    change extent pad8 rest + extent pad8 s.filling + min 16 s.tx_pipe.length ≤ s.tx_pipe.length
    omega
  · rw [htail]
    exact records_mod hintact.2
  · rw [hread, ← h.order, hunread, append_assoc, singleton_append]

end

/-! ## Runs -/

theorem Edge.Inv.step {s : Edge} (h : s.Inv) (a : Action) (hok : s.Careful a) : (s.step a).Inv := by
  cases a with
  | call t c =>
    rw [Edge.step]
    split
    · exact h.enter c
    · exact h.enter c
    · exact h
  | reset =>
    exact ⟨h.words, h.eight, h.aligned, h.spans, h.free, h.reserve, h.intact, h.order, h.holder,
      h.unlocked, h.fits⟩
  | consume => exact h.consume
  | next t =>
    rw [Edge.step]
    cases ht : s.task t with
    | idle => exact h
    | returned ret => exact h
    | entering c => exact h.spin_lock fun hnone => hnone
    | looking c => exact h.look ht
    | copying c it => exact h.fill ht hok
    | publishing c it head => exact h.publish ht hok
    | asleep c =>
      have hfits := h.fits t
      rw [ht] at hfits
      exact h.spin_lock fun hnone => ⟨hnone, hfits⟩
    | woken c => exact h.recheck ht

lemma Edge.Inv.not_good_step {s : Edge} (h : s.Inv) (a : Action) (hbad : ¬ s.Careful a) :
    ¬ (s.step a).Good := by
  cases a with
  | call t c => exact absurd trivial hbad
  | reset => exact absurd trivial hbad
  | consume => exact absurd trivial hbad
  | next t =>
    rw [Edge.step]
    cases ht : s.task t with
    | copying c it => exact h.fill_overruns ht hbad
    | publishing c it head => exact h.publish_misplaced ht hbad
    | idle => exact absurd (by rw [Edge.Careful, ht]; trivial) hbad
    | returned ret => exact absurd (by rw [Edge.Careful, ht]; trivial) hbad
    | entering c => exact absurd (by rw [Edge.Careful, ht]; trivial) hbad
    | looking c => exact absurd (by rw [Edge.Careful, ht]; trivial) hbad
    | asleep c => exact absurd (by rw [Edge.Careful, ht]; trivial) hbad
    | woken c => exact absurd (by rw [Edge.Careful, ht]; trivial) hbad

/-- **Whole commands in order.** -/
theorem commands_delivered_iff (length : ℕ) (fifo : Mem) (hwords : length % 8 = 0)
    (hsmall : length < 2 ^ 32) (actions : List Action) :
    (∀ l, l <+: actions → (exec Edge.step (Edge.init length fifo) l).Good) ↔
      8 ≤ length ∧ Ok Edge.step Edge.Careful (Edge.init length fifo) actions := by
  have hrun : 8 ≤ length → ((∀ l, l <+: actions → (exec Edge.step (Edge.init length fifo) l).Good) ↔
        Ok Edge.step Edge.Careful (Edge.init length fifo) actions) := by
    intro height
    exact Run.prefix_good_iff (fun _ h => h.good) (fun _ a h hok => h.step a hok)
      (fun _ a h hbad => h.not_good_step a hbad) actions (Edge.init_inv fifo hwords height hsmall)
  constructor
  · intro hgood
    have height : 8 ≤ length := by
      have hfree : 0 + 8 ≤ length := (hgood [] nil_prefix).free
      omega
    exact ⟨height, (hrun height).1 hgood⟩
  · rintro ⟨height, hok⟩
    exact (hrun height).2 hok

/-- Two callers on a FIFO of 24 bytes. The second has to wait, and is woken when the remote
has read the command of the first. -/
def waiting_run : List Action :=
  [.call 0 ⟨[9, 0, 1, 0, 0, 0, 0, 0], [], false⟩, .next 0, .next 0, .next 0, .next 0,
    .call 1 ⟨[6, 0, 1, 0, 0, 0, 0, 0], [], true⟩, .next 1, .next 1, .next 1, .next 1, .consume]

theorem waiting_run_delivered : 24 % 8 = 0 ∧ 24 < 2 ^ 32 ∧
    ∀ l, l <+: waiting_run → (exec Edge.step (Edge.init 24 fun _ => 0) l).Good :=
  ⟨by decide, by decide, (commands_delivered_iff 24 (fun _ => 0) (by decide) (by decide)
    waiting_run).2 ⟨by decide, by decide +kernel⟩⟩

section

variable {length : ℕ} {c : Call} (fifo : Mem)

lemma exec_first_call (hsmall : length < 2 ^ 32) (hfit : c.tlen.toNat + 16 ≤ length) :
    exec Edge.step (Edge.init length fifo) [.call 0 c, .next 0, .next 0] =
      { Edge.init length fifo with tx_lock := some 0 }.goto 0 (.copying c .command) := by
  have henter : (Edge.init length fifo).step (.call 0 c) =
      (Edge.init length fifo).goto 0 (.entering c) := by
    exact if_neg (show ¬ c.tlen.toNat ≥ length by omega)
  have hlock : ((Edge.init length fifo).goto 0 (.entering c)).step (.next 0) =
      { Edge.init length fifo with tx_lock := some 0 }.goto 0 (.looking c) := by
    rw [Edge.step, Edge.task_goto, if_pos rfl, Edge.next, Edge.spin_lock]
    simp [Edge.goto, Edge.init]
  have hspans : (Edge.init length fifo).tx_pipe.Spans 0 :=
    ⟨hsmall, show 0 < length by omega, show 0 < length by omega, (zero_mod length).symm⟩
  have hroom : ¬ glink_smem_tx_avail (Edge.init length fifo).tx_pipe < c.tlen := by
    rw [lt_iff_toNat_lt, glink_smem_tx_avail_eq hspans]
    change ¬ length - 0 - 16 < c.tlen.toNat
    omega
  rw [exec_cons, henter, exec_cons, hlock, exec_cons, Run.exec_nil, Edge.step,
    Edge.task_goto, if_pos rfl, Edge.next, Edge.look]
  refine (if_neg hroom).trans ?_
  simp [Edge.goto]

lemma wrapped_call_overruns (hsmall : length < 2 ^ 32) (hfit : c.tlen.toNat + 16 ≤ length)
    (hlong : 2 ^ 32 ≤ c.hdr.length + c.data.length) :
    ¬ (exec Edge.step (Edge.init length fifo)
      ([.call 0 c, .next 0, .next 0] ++ [.next 0])).Good := by
  intro hgood
  have hfree := hgood.free
  rw [Run.exec_append, exec_first_call fifo hsmall hfit, exec_cons, Run.exec_nil, Edge.step,
    Edge.task_goto, if_pos rfl] at hfree
  change extent pad8 ([] ++ [Item.command.bytes c]) + 8 ≤ length at hfree
  have hlen : (Item.command.bytes c).length = c.hdr.length + c.data.length := length_append
  have hpad := pad8_spec (Item.command.bytes c).length
  rw [nil_append, extent_singleton] at hfree
  omega

end

/-- Sixteen bytes of header and 2³² bytes of data are checked as sixteen bytes. -/
theorem long_call_overruns : ∃ c : Call, c.hdr.length = 16 ∧ c.data.length = 2 ^ 32 ∧
    ¬ (exec Edge.step (Edge.init 16384 fun _ => 0)
      ([.call 0 c, .next 0, .next 0] ++ [.next 0])).Good := by
  -- the list is never written down: checking its length would build it
  obtain ⟨data, hdata⟩ : ∃ data : List UInt8, data.length = 2 ^ 32 :=
    ⟨replicate _ 0, length_replicate⟩
  have htlen : Call.tlen ⟨replicate 16 0, data, true⟩ = 16 := by
    rw [Call.tlen, length_replicate, hdata]
    rfl
  refine ⟨⟨replicate 16 0, data, true⟩, length_replicate, hdata, ?_⟩
  apply wrapped_call_overruns
  · decide
  · rw [htlen]
    decide
  · rw [length_replicate, hdata]
    omega

end KernelExtra.Glink
