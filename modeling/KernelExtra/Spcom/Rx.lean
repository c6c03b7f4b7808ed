/-
SPCOM: received packets, `drivers/soc/qcom/spcom.c`.

All channels share one list of received packets and one worker. A packet that is dropped ends the
worker, with the rest of the list still to be handled. And on a channel that was aborted the worker
frees the buffer that the channel still has, and leaves it the pointer. Besides headers that are
read from packets without one, these are the only defects.

A step is a section under the lock of a channel, or one under that of the list, which is kept with
the oldest packet first.
-/
import KernelExtra.Lib.Run

namespace KernelExtra.Spcom

open Function List

def SPCOM_RX_BUF_SIZE : ℕ := 300
def INITIAL_TXN_ID : UInt32 := 0x12345678
def HDR_SIZE : ℕ := 8

/-- `struct spcom_channel`. `rx_active` counts the readers that wait for a packet. -/
structure Channel where
  rpdrv : Bool
  comm_role_undefined : Bool
  is_server : Bool
  rpmsg_abort : Bool
  txn_id : UInt32
  rx_buf_txn_id : UInt32
  rpmsg_rx_buf : Option ℕ
  actual_rx_size : ℕ
  num_clients : ℕ
  rx_active : ℕ

/-- `struct rx_buff_list`, with the id in the header of its packet. -/
structure Item where
  ch : ℕ
  rpmsg_rx_buf : ℕ
  rx_buf_size : ℕ
  txn_id : UInt32

/-- How a wait for a packet ends. -/
inductive Wait where
  | timeout
  | interrupted
  | completed
  deriving DecidableEq

namespace Channel

variable (ch : Channel)

def discard : Channel × List ℕ :=
  ({ ch with rpmsg_rx_buf := none, actual_rx_size := 0 }, ch.rpmsg_rx_buf.toList)

def consume : Channel × List ℕ := if ch.rpmsg_rx_buf.isSome then ch.discard else (ch, [])

def rx_begin : Channel × List ℕ :=
  let r := if ch.rx_buf_txn_id ≠ ch.txn_id then ch.consume else (ch, [])
  if r.1.actual_rx_size = 0 then ({ r.1 with rx_active := r.1.rx_active + 1 }, r.2)
  else (r.1.consume.1, r.1.consume.2 ++ r.2)

def rx_end (wait : Wait) : Channel × List ℕ :=
  if ch.rx_active = 0 then (ch, [])
  else
    let ch := { ch with rx_active := ch.rx_active - 1 }
    if wait = .timeout then ({ ch with txn_id := ch.txn_id + 1 }, [])
    else if ch.rpmsg_abort = true ∨ wait = .interrupted ∨ ch.actual_rx_size = 0 then (ch, [])
    else ch.consume

def spcom_device_release : Channel × List ℕ :=
  if !ch.rpdrv then (ch, [])
  else if ch.num_clients > 1 then ({ ch with num_clients := ch.num_clients - 1 }, [])
  else { ch with num_clients := 0 }.discard

def send : Channel :=
  let ch := if ch.comm_role_undefined then
    { ch with comm_role_undefined := false, is_server := false }
    else ch
  if ch.is_server then ch else { ch with txn_id := ch.txn_id + 1 }

def take_role (item : Item) : Channel :=
  if ch.comm_role_undefined then
    { ch with comm_role_undefined := false, is_server := true, txn_id := item.txn_id }
  else ch

/-- Does `spcom_signal_rx_done` drop the packet? -/
def drops (item : Item) : Bool :=
  ch.rpmsg_abort || (!ch.is_server && decide (item.txn_id ≠ ch.txn_id))

def receive (item : Item) : Channel × List ℕ :=
  let ch := ch.take_role item
  if ch.rpmsg_abort then
    ({ ch with actual_rx_size := if ch.rpmsg_rx_buf.isSome then 0 else ch.actual_rx_size },
      item.rpmsg_rx_buf :: ch.rpmsg_rx_buf.toList)
  else
    let r := ch.consume
    if ch.drops item then (r.1, item.rpmsg_rx_buf :: r.2)
    else
      ({ r.1 with
        rpmsg_rx_buf := item.rpmsg_rx_buf
        actual_rx_size := item.rx_buf_size
        rx_buf_txn_id := ch.txn_id }, r.2)

/-- Is the header read? It is logged when the packet is not dropped. -/
def reads_header : Bool := ch.comm_role_undefined || !ch.rpmsg_abort

end Channel

/-- What else happens to a channel. -/
inductive Op where
  | rx_begin
  | rx_end (wait : Wait)
  | spcom_device_release
  | spcom_rpdev_remove
  | spcom_rpdev_probe
  | send
  | read_request (txn_id : UInt32)
  /-- `spcom_handle_read` with `SPCOM_GET_NEXT_REQUEST_SIZE`, before it looks for a request. -/
  | get_req_size

def Channel.op (ch : Channel) : Op → Channel × List ℕ
  | .rx_begin => ch.rx_begin
  | .rx_end wait => ch.rx_end wait
  | .spcom_device_release => ch.spcom_device_release
  | .spcom_rpdev_remove => ({ ch with rpmsg_abort := true, txn_id := 0 }, [])
  | .spcom_rpdev_probe => ({ ch with rpmsg_abort := false, txn_id := INITIAL_TXN_ID }, [])
  | .send => (ch.send, [])
  | .read_request txn_id => (if ch.is_server then { ch with txn_id } else ch, [])
  | .get_req_size => ({ ch with is_server := true }, [])

/-- Where `spcom_signal_rx_done` is: not running, before the list, or with a packet in hand. -/
inductive Worker where
  | idle
  | scanning
  | handling (item : Item)

def Worker.items : Worker → List Item
  | .handling item => [item]
  | _ => []

/-- A packet that was handled, with its channel before and after. -/
structure Handled where
  item : Item
  before : Channel
  after : Channel

/-- `struct spcom_device`, and a trace of buffers, headers and packets. -/
structure Dev where
  channels : ℕ → Channel
  rx_list : List Item
  work_pending : Bool
  worker : Worker
  next : ℕ
  size : ℕ → ℕ
  freed : List ℕ
  short_read : Bool
  arrived : List Item
  handled : List Handled

/-- Channels without packets, in any state otherwise. -/
def Dev.start (channels : ℕ → Channel) : Dev :=
  ⟨fun c => { channels c with rpmsg_rx_buf := none, actual_rx_size := 0, rx_active := 0 },
   [], false,
    .idle, 0, fun _ => 0, [], false, [], []⟩

/-- The steps of the callback, of the worker and of users. -/
inductive Act where
  | spcom_rpdev_cb (c len : ℕ) (txn_id : UInt32) (alloc : Bool)
  | work
  | detach
  | spcom_signal_rx_done
  | op (c : ℕ) (op : Op)

def Dev.step (d : Dev) : Act → Dev
  | .spcom_rpdev_cb c len txn_id alloc =>
    if len > SPCOM_RX_BUF_SIZE ∨ len = 0 ∨ alloc = false then d
    else
      { d with
        rx_list := d.rx_list ++ [⟨c, d.next, len, txn_id⟩]
        work_pending := true
        next := d.next + 1
        size := update d.size d.next len
        arrived := d.arrived ++ [⟨c, d.next, len, txn_id⟩] }
  | .work =>
    match d.work_pending, d.worker with
    | true, .idle => { d with work_pending := false, worker := .scanning }
    | _, _ => d
  | .detach =>
    match d.worker, d.rx_list with
    | .scanning, [] => { d with worker := .idle }
    | .scanning, item :: l => { d with worker := .handling item, rx_list := l }
    | _, _ => d
  | .spcom_signal_rx_done =>
    match d.worker with
    | .handling item =>
      let ch := d.channels item.ch
      let r := ch.receive item
      { d with
        channels := update d.channels item.ch r.1
        worker := if (ch.take_role item).drops item then .idle else .scanning
        freed := r.2 ++ d.freed
        short_read := d.short_read || (ch.reads_header && decide (item.rx_buf_size < HDR_SIZE))
        handled := d.handled ++ [⟨item, ch.take_role item, r.1⟩] }
    | _ => d
  | .op c op =>
    let r := (d.channels c).op op
    { d with channels := update d.channels c r.1, freed := r.2 ++ d.freed }

/-! ## Every packet is delivered or dropped -/

def Handled.Put (e : Handled) : Prop :=
  e.after.rpmsg_rx_buf = some e.item.rpmsg_rx_buf ∧ e.after.actual_rx_size = e.item.rx_buf_size

/-- **Delivery**: packets are handled in order, each is put on its channel or rightly dropped, and
when the worker has nothing more to do no packet is left. -/
structure Delivers (d : Dev) : Prop where
  order : d.arrived = d.handled.map Handled.item ++ d.worker.items ++ d.rx_list
  fate : ∀ e ∈ d.handled, e.Put ∨ e.before.drops e.item = true
  done : d.worker = .idle → d.work_pending = false → d.rx_list = []

/-- A packet is dropped when it is the last one, or when the worker is going to run again. -/
def DropsLast (d : Dev) : Act → Prop
  | .spcom_signal_rx_done => ∀ item, d.worker = .handling item →
    ((d.channels item.ch).take_role item).drops item = true →
      d.rx_list = [] ∨ d.work_pending = true
  | _ => True

lemma Channel.receive_put {ch : Channel} {item : Item}
    (h : (ch.take_role item).drops item = false) :
    (ch.receive item).1.rpmsg_rx_buf = some item.rpmsg_rx_buf ∧
      (ch.receive item).1.actual_rx_size = item.rx_buf_size := by
  have habort : (ch.take_role item).rpmsg_abort = false := by
    unfold Channel.drops at h
    simp_all
  simp [Channel.receive, habort, h]

variable {d : Dev}

lemma Delivers.step (h : Delivers d) (a : Act) (hok : DropsLast d a) : Delivers (d.step a) := by
  cases a with
  | spcom_rpdev_cb c len txn_id alloc =>
    simp only [Dev.step]
    split_ifs
    · exact h
    · exact ⟨by simp [h.order], h.fate, nofun⟩
  | work =>
    simp only [Dev.step]
    split
    · rename_i hworker
      exact ⟨by simpa [hworker, Worker.items] using h.order, h.fate, nofun⟩
    · exact h
  | detach =>
    simp only [Dev.step]
    split
    · rename_i hworker hlist
      exact ⟨by simpa [hworker, hlist, Worker.items] using h.order, h.fate, fun _ _ => hlist⟩
    · rename_i hworker hlist
      exact ⟨by simpa [hworker, hlist, Worker.items] using h.order, h.fate, nofun⟩
    · exact h
  | spcom_signal_rx_done =>
    simp only [Dev.step]
    split
    · rename_i item hworker
      refine ⟨?_, forall_mem_append.2 ⟨h.fate, forall_mem_singleton.2 ?_⟩, fun hidle hpending => ?_⟩
      · rw [h.order, hworker]
        split_ifs <;> simp [Worker.items]
      · by_cases hdrop : ((d.channels item.ch).take_role item).drops item = true
        · exact .inr hdrop
        · exact .inl (Channel.receive_put (by simpa using hdrop))
      · have hdrop : ((d.channels item.ch).take_role item).drops item = true := by
          by_contra hdrop
          simp [hdrop] at hidle
        exact (hok item hworker hdrop).resolve_right (by simpa using hpending)
    · exact h
  | op c op => exact ⟨h.order, h.fate, h.done⟩

lemma Delivers.not_step (a : Act) (hbad : ¬ DropsLast d a) : ¬ Delivers (d.step a) := by
  cases a with
  | spcom_signal_rx_done =>
    simp only [DropsLast, not_forall, not_or] at hbad
    obtain ⟨item, hworker, hdrop, hlist, hpending⟩ := hbad
    intro h
    have hdone := h.done
    simp only [Dev.step, hworker, hdrop, if_true, forall_true_left] at hdone
    exact hlist (hdone (by simpa using hpending))
  | spcom_rpdev_cb | work | detach | op => exact absurd trivial hbad

/-- Of `n` buffers each is in a packet that is still to be handled, or on a channel, or was freed,
and in no two places. -/
structure Owned (n : ℕ) (queue : List ℕ) (bufs : ℕ → Option ℕ) (freed : List ℕ) : Prop where
  queue_nodup : queue.Nodup
  freed_nodup : freed.Nodup
  all : ∀ a, a < n ↔ a ∈ queue ∨ a ∈ freed ∨ ∃ c, bufs c = some a
  apart : ∀ a ∈ queue, a ∉ freed
  channel : ∀ c a, bufs c = some a → a ∉ queue ∧ a ∉ freed ∧ ∀ c', bufs c' = some a → c' = c

def Dev.queue (d : Dev) : List Item := d.worker.items ++ d.rx_list

/-- Every buffer has one owner, a channel knows the size of its buffer, and no header is cut. -/
structure OneOwner (d : Dev) : Prop where
  owned : Owned d.next (d.queue.map Item.rpmsg_rx_buf)
    (fun c => (d.channels c).rpmsg_rx_buf) d.freed
  size : ∀ c, (d.channels c).actual_rx_size ≠ 0 → ∃ a, (d.channels c).rpmsg_rx_buf = some a ∧
    d.size a = (d.channels c).actual_rx_size
  header : d.short_read = false

/-- A packet for an aborted channel finds it without a buffer, and a packet whose header is read has
one. -/
def Clean (d : Dev) : Act → Prop
  | .spcom_signal_rx_done => ∀ item, d.worker = .handling item →
    ((d.channels item.ch).rpmsg_abort = true → (d.channels item.ch).rpmsg_rx_buf = none) ∧
      ((d.channels item.ch).reads_header = true → HDR_SIZE ≤ item.rx_buf_size)
  | _ => True

section

variable {n a c : ℕ} {queue freed : List ℕ} {bufs : ℕ → Option ℕ}

lemma Owned.alloc (h : Owned n queue bufs freed) : Owned (n + 1) (queue ++ [n]) bufs freed := by
  have hnew := h.all n
  refine ⟨nodup_append.2 ⟨h.queue_nodup, nodup_singleton n, ?_⟩, h.freed_nodup, fun b => ?_,
    fun b hb => ?_, fun c b hb => ?_⟩
  · grind
  · grind [h.all b]
  · grind [h.apart b]
  · grind [h.channel c b]

lemma Owned.discard (h : Owned n queue bufs freed) (c : ℕ) :
    Owned n queue (update bufs c none) ((bufs c).toList ++ freed) := by
  cases hc : bufs c with
  | none =>
    rw [← hc, update_eq_self, hc]
    exact h
  | some a =>
    have ha := h.channel c a hc
    refine ⟨h.queue_nodup, nodup_cons.2 ⟨ha.2.1, h.freed_nodup⟩, fun b => ?_, fun b hb => ?_,
      fun c' b hb => ?_⟩
    · rw [h.all, exists_update_iff (p := fun _ x => x = some b)]
      grind
    · grind [h.apart b]
    · grind [h.channel c' b]

lemma Owned.drop (h : Owned n (a :: queue) bufs freed) : Owned n queue bufs (a :: freed) := by
  have hqueue := nodup_cons.1 h.queue_nodup
  refine ⟨hqueue.2, nodup_cons.2 ⟨h.apart a mem_cons_self, h.freed_nodup⟩,
    fun b => ?_, fun b hb => ?_,
    fun c b hb => ?_⟩
  · rw [h.all]
    grind
  · grind [h.apart b]
  · grind [h.channel c b]

lemma Owned.put (h : Owned n (a :: queue) bufs freed) (hc : bufs c = none) :
    Owned n queue (update bufs c (some a)) freed := by
  have hqueue := nodup_cons.1 h.queue_nodup
  refine ⟨hqueue.2, h.freed_nodup, fun b => ?_, fun b hb => h.apart b (mem_cons_of_mem _ hb),
    fun c' b hb => ?_⟩
  · rw [h.all, exists_update_iff (p := fun _ x => x = some b)]
    grind
  · have hlist : ∀ c', bufs c' ≠ some a := fun c' hc' => (h.channel c' a hc').1 mem_cons_self
    grind [h.channel c' b, h.apart a]

end

/-- An operation leaves the buffer alone, or discards it. -/
def Channel.Keeps (ch : Channel) (r : Channel × List ℕ) : Prop :=
  (r.1.rpmsg_rx_buf = ch.rpmsg_rx_buf ∧ r.1.actual_rx_size = ch.actual_rx_size ∧ r.2 = []) ∨
    (r.1.rpmsg_rx_buf = none ∧ r.1.actual_rx_size = 0 ∧ r.2 = ch.rpmsg_rx_buf.toList)

lemma Channel.keeps_consume (ch : Channel) : ch.Keeps ch.consume := by
  unfold Channel.consume
  split_ifs
  · exact .inr ⟨rfl, rfl, rfl⟩
  · exact .inl ⟨rfl, rfl, rfl⟩

lemma Channel.keeps_op (ch : Channel) (op : Op) : ch.Keeps (ch.op op) := by
  cases op with
  | rx_begin =>
    simp only [Channel.op, Channel.rx_begin, Channel.consume, Channel.discard]
    unfold Channel.Keeps
    split_ifs <;> simp_all
  | rx_end wait =>
    simp only [Channel.op, Channel.rx_end]
    split_ifs
    · exact .inl ⟨rfl, rfl, rfl⟩
    · exact .inl ⟨rfl, rfl, rfl⟩
    · exact .inl ⟨rfl, rfl, rfl⟩
    · exact Channel.keeps_consume _
  | spcom_device_release =>
    simp only [Channel.op, Channel.spcom_device_release]
    split_ifs
    · exact .inl ⟨rfl, rfl, rfl⟩
    · exact .inl ⟨rfl, rfl, rfl⟩
    · exact .inr ⟨rfl, rfl, rfl⟩
  | send =>
    simp only [Channel.op, Channel.send]
    split_ifs <;> exact .inl ⟨rfl, rfl, rfl⟩
  | read_request txn_id =>
    simp only [Channel.op]
    split_ifs <;> exact .inl ⟨rfl, rfl, rfl⟩
  | spcom_rpdev_remove | spcom_rpdev_probe | get_req_size => exact .inl ⟨rfl, rfl, rfl⟩

def Channel.Sized (size : ℕ → ℕ) (ch : Channel) : Prop :=
  ch.actual_rx_size = ch.rpmsg_rx_buf.elim 0 size

section

variable {ch : Channel} {r : Channel × List ℕ} {n c : ℕ} {queue freed : List ℕ}
  {bufs : ℕ → Option ℕ} {size : ℕ → ℕ}

lemma Channel.Keeps.sized (h : ch.Keeps r) (hch : ch.Sized size) : r.1.Sized size := by
  unfold Channel.Sized at *
  rcases h with ⟨hbuf, hsize, -⟩ | ⟨hbuf, hsize, -⟩
  · rw [hbuf, hsize, hch]
  · rw [hbuf, hsize]
    rfl

lemma Channel.Keeps.owned (h : ch.Keeps r) (hc : bufs c = ch.rpmsg_rx_buf)
    (howned : Owned n queue bufs freed) :
    Owned n queue (update bufs c r.1.rpmsg_rx_buf) (r.2 ++ freed) := by
  rcases h with ⟨hbuf, -, hfreed⟩ | ⟨hbuf, -, hfreed⟩
  · rwa [hbuf, hfreed, ← hc, update_eq_self]
  · rw [hbuf, hfreed, ← hc]
    exact howned.discard c

/-- **One packet is handled**, on a channel that is not aborted with a buffer. -/
theorem Channel.receive_spec {item : Item} (hc : bufs c = ch.rpmsg_rx_buf)
    (habort : ch.rpmsg_abort = true → ch.rpmsg_rx_buf = none)
    (howned : Owned n (item.rpmsg_rx_buf :: queue) bufs freed) (hsized : ch.Sized size)
    (hitem : size item.rpmsg_rx_buf = item.rx_buf_size) :
    Owned n queue (update bufs c (ch.receive item).1.rpmsg_rx_buf) ((ch.receive item).2 ++ freed) ∧
      (ch.receive item).1.Sized size := by
  have hrole : (ch.take_role item).rpmsg_rx_buf = ch.rpmsg_rx_buf ∧
      (ch.take_role item).actual_rx_size = ch.actual_rx_size ∧
      (ch.take_role item).rpmsg_abort = ch.rpmsg_abort := by
    unfold Channel.take_role
    split_ifs <;> exact ⟨rfl, rfl, rfl⟩
  rw [← hrole.1] at hc habort
  rw [← hrole.2.2] at habort
  have hsized : (ch.take_role item).Sized size := by
    unfold Channel.Sized
    rw [hrole.1, hrole.2.1]
    exact hsized
  unfold Channel.receive
  generalize ch.take_role item = ch at *
  dsimp only
  by_cases haborted : ch.rpmsg_abort = true
  · have hnone := habort haborted
    have hsame : update bufs c none = bufs := by rw [← hnone, ← hc, update_eq_self]
    simp only [haborted, hnone, if_true, Option.isSome_none, Bool.false_eq_true, if_false, hsame]
    refine ⟨howned.drop, ?_⟩
    simpa [Channel.Sized, hnone] using hsized
  · have hkeeps := ch.keeps_consume
    have hconsumed := hkeeps.owned hc howned
    split_ifs
    · exact ⟨hconsumed.drop, hkeeps.sized hsized⟩
    · have hnone : ch.consume.1.rpmsg_rx_buf = none := by
        unfold Channel.consume
        split_ifs with hbuf
        · rfl
        · simpa using hbuf
      rw [hnone] at hconsumed
      have hput := hconsumed.put (update_self ..)
      rw [update_idem] at hput
      exact ⟨hput, hitem.symm⟩

end

/-- The invariant behind `OneOwner`. -/
structure OwnerInv (d : Dev) : Prop where
  owned : Owned d.next (d.queue.map Item.rpmsg_rx_buf)
    (fun c => (d.channels c).rpmsg_rx_buf) d.freed
  sized : ∀ c, (d.channels c).Sized d.size
  items : ∀ item ∈ d.queue, d.size item.rpmsg_rx_buf = item.rx_buf_size
  header : d.short_read = false

lemma OwnerInv.oneOwner (h : OwnerInv d) : OneOwner d := by
  refine ⟨h.owned, fun c hc => ?_, h.header⟩
  have hsized := h.sized c
  unfold Channel.Sized at hsized
  cases hbuf : (d.channels c).rpmsg_rx_buf with
  | none =>
    rw [hbuf] at hsized
    exact absurd hsized hc
  | some a =>
    rw [hbuf] at hsized
    exact ⟨a, rfl, hsized.symm⟩

lemma bufs_update (channels : ℕ → Channel) (c : ℕ) (ch : Channel) :
    (fun c' => (update channels c ch c').rpmsg_rx_buf) =
      update (fun c' => (channels c').rpmsg_rx_buf) c ch.rpmsg_rx_buf :=
  funext fun c' => apply_update (fun _ => Channel.rpmsg_rx_buf) channels c ch c'

lemma sized_update {channels : ℕ → Channel} {size : ℕ → ℕ} (h : ∀ c, (channels c).Sized size)
    {c : ℕ} {ch : Channel} (hch : ch.Sized size) (c' : ℕ) :
      (update channels c ch c').Sized size := by
  rcases eq_or_ne c' c with rfl | hne
  · rwa [update_self]
  · rw [update_of_ne hne]
    exact h c'

/-- Packets change hands. -/
lemma OwnerInv.moved (h : OwnerInv d) {rx_list : List Item} {work_pending : Bool}
    {worker : Worker} (hqueue : worker.items ++ rx_list = d.queue) :
    OwnerInv { d with rx_list, work_pending, worker } := by
  have howned := h.owned
  have hitems := h.items
  rw [← hqueue] at howned hitems
  exact ⟨howned, h.sized, hitems, h.header⟩

lemma OwnerInv.step (h : OwnerInv d) (a : Act) (hok : Clean d a) : OwnerInv (d.step a) := by
  cases a with
  | spcom_rpdev_cb c len txn_id alloc =>
    simp only [Dev.step]
    split_ifs
    · exact h
    · have hall := h.owned.all d.next
      refine ⟨?_, fun c' => ?_, fun item hitem => ?_, h.header⟩
      · simpa [Dev.queue] using h.owned.alloc
      · have hsized := h.sized c'
        unfold Channel.Sized at *
        cases hbuf : (d.channels c').rpmsg_rx_buf with
        | none => simpa [hbuf] using hsized
        | some b =>
          have hne : b ≠ d.next := fun hb => by grind
          simpa [hbuf, update_of_ne hne] using hsized
      · simp only [Dev.queue, ← append_assoc] at hitem
        rcases mem_append.1 hitem with hitem | hitem
        · have hne : item.rpmsg_rx_buf ≠ d.next := fun hb =>
            absurd (hall.2 (.inl (hb ▸ mem_map_of_mem hitem))) (lt_irrefl _)
          exact (update_of_ne hne ..).trans (h.items item hitem)
        · rw [mem_singleton.1 hitem]
          exact update_self ..
  | work =>
    simp only [Dev.step]
    split
    · rename_i hworker
      exact h.moved (by simp [Dev.queue, hworker, Worker.items])
    · exact h
  | detach =>
    simp only [Dev.step]
    split
    · rename_i hworker hlist
      exact h.moved (by simp [Dev.queue, hworker, hlist, Worker.items])
    · rename_i hworker hlist
      exact h.moved (by simp [Dev.queue, hworker, hlist, Worker.items])
    · exact h
  | spcom_signal_rx_done =>
    simp only [Dev.step]
    split
    · rename_i item hworker
      obtain ⟨habort, hheader⟩ := hok item hworker
      have howned := h.owned
      have hitems := h.items
      simp only [Dev.queue, hworker, Worker.items, singleton_append, map_cons,
        forall_mem_cons] at howned hitems
      have hspec := Channel.receive_spec rfl habort howned (h.sized item.ch) hitems.1
      have hnone (b : Bool) : (if b then Worker.idle else Worker.scanning).items = [] := by
        cases b <;> rfl
      refine ⟨?_, sized_update h.sized hspec.2, ?_, ?_⟩
      · simp only [Dev.queue, hnone, nil_append]
        rw [bufs_update]
        exact hspec.1
      · simp only [Dev.queue, hnone, nil_append]
        exact hitems.2
      · by_cases hreads : (d.channels item.ch).reads_header = true
        · simp [h.header, hreads, hheader hreads]
        · simp [h.header, hreads]
    · exact h
  | op c op =>
    have hkeeps := (d.channels c).keeps_op op
    refine ⟨?_, sized_update h.sized (hkeeps.sized (h.sized c)), h.items, h.header⟩
    change Owned _ _ (fun c' => (update d.channels c _ c').rpmsg_rx_buf) _
    rw [bufs_update]
    exact hkeeps.owned rfl h.owned

lemma OneOwner.not_step (a : Act) (hbad : ¬ Clean d a) : ¬ OneOwner (d.step a) := by
  cases a with
  | spcom_signal_rx_done =>
    simp only [Clean, not_forall] at hbad
    obtain ⟨item, hworker, hbad⟩ := hbad
    intro h
    have howned := h.owned
    have hheader := h.header
    simp only [Dev.step, hworker] at howned hheader
    by_cases habort : (d.channels item.ch).rpmsg_abort = true →
        (d.channels item.ch).rpmsg_rx_buf = none
    · -- the header is beyond the packet
      simp_all
    · -- the buffer was freed, and the channel still has it
      obtain ⟨-, hbuf⟩ := Classical.not_imp.1 habort
      obtain ⟨b, hb⟩ := Option.ne_none_iff_exists'.1 hbuf
      have hreceive : ((d.channels item.ch).receive item).1.rpmsg_rx_buf = some b ∧
          b ∈ ((d.channels item.ch).receive item).2 := by
        unfold Channel.receive Channel.take_role
        split_ifs <;> simp_all
      refine (howned.channel item.ch b ?_).2.1 (mem_append_left _ hreceive.2)
      rw [update_self]
      exact hreceive.1
  | spcom_rpdev_cb | work | detach | op => exact absurd trivial hbad

/-- **Every buffer has one owner, and no header is read beyond its packet, exactly when** every
packet is clean. -/
theorem buffers_owned_iff (channels : ℕ → Channel) (l : List Act) :
    (∀ l', l' <+: l → OneOwner (Run.exec Dev.step (.start channels) l')) ↔
      Run.Ok Dev.step Clean (.start channels) l :=
  Run.prefix_good_iff (I := OwnerInv) (fun _ h => h.oneOwner) (fun _ a h hok => h.step a hok)
    (fun _ a _ hbad => OneOwner.not_step a hbad) l
    ⟨⟨nodup_nil, nodup_nil, by simp [Dev.start, Dev.queue, Worker.items], nofun, nofun⟩,
      fun _ => rfl, nofun, rfl⟩

/-- A packet waits on a channel that is removed, and another one comes in: the first one's buffer is
freed twice. -/
theorem buffer_freed_twice : let ch : Channel := ⟨true, false, true, false, 0, 0, none, 0, 1, 0⟩
    let d := Run.exec Dev.step (.start fun _ => ch)
      [.spcom_rpdev_cb 0 16 1 true, .work, .detach, .spcom_signal_rx_done, .detach,
        .op 0 .spcom_rpdev_remove, .spcom_rpdev_cb 0 16 2 true, .work, .detach,
        .spcom_signal_rx_done, .op 0 .spcom_device_release]
    d.freed = [0, 1, 0] ∧ ¬ OneOwner d :=
  ⟨rfl, fun h => absurd h.owned.freed_nodup (by decide)⟩

end KernelExtra.Spcom
