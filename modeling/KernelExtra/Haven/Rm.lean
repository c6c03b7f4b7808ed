/-
The connection to the resource manager, `drivers/virt/haven/hh_rm_core.c`.

Callers of `hh_rm_call` allocate a connection, leave a pointer to it in the idr, and free it when
they are done; a fragmented notification allocates one too. While fragments are expected,
`curr_connection` points to the connection they are for. A reply or a continuation is handled in
several steps, cut where the code looks at its connection again. What goes wrong is recorded as a
`Fault`.
-/
import KernelExtra.Lib.Bytes
import KernelExtra.Lib.Heap

namespace KernelExtra.Haven

/-! ## Messages -/

def HH_MSGQ_MAX_MSG_SIZE_BYTES : ℕ := 240
def sizeof_hdr : ℕ := 8
def sizeof_reply_hdr : ℕ := 12

inductive RpcType where
  | CONT | REQ | RPLY | NOTIF
  deriving DecidableEq

/-- A message that `hh_rm_recv_task_fn` lets through: the header, and at least one byte
after it. -/
structure Msg where
  type : RpcType
  fragments : BitVec 6
  seq : UInt16
  msg_id : UInt32
  body : List UInt8
  accepted : sizeof_hdr < sizeof_hdr + body.length
  fits : sizeof_hdr + body.length ≤ HH_MSGQ_MAX_MSG_SIZE_BYTES

def Msg.size (m : Msg) : ℕ := sizeof_hdr + m.body.length

/-- What follows a header of `hdr_size` bytes. -/
def Msg.after (m : Msg) (hdr_size : ℕ) : List UInt8 := m.body.drop (hdr_size - sizeof_hdr)

def Msg.err_code (m : Msg) : ℕ := Bytes.le (fun i => m.body.getD i 0) 0 4

/-- A difference of `size_t`, which wraps. -/
def size_sub (a b : ℕ) : ℕ := if b ≤ a then a - b else 2 ^ 64 - (b - a)

/-! ## Connections -/

/-- Who frees a connection, and where they are. -/
inductive Owner where
  | sending
  | waiting
  | notif (m : Msg)

def Owner.is_notif : Owner → Bool
  | .notif _ => true
  | _ => false

/-- `struct hh_rm_connection`. `recv_buff` is the size of the buffer it points to, and `received`
are the `recv_buff_size` bytes in it. -/
structure Conn where
  owner : Owner
  msg_id : UInt32
  seq : UInt16
  recv_buff : Option ℕ
  received : List UInt8
  reply_err_code : ℕ
  seq_done : Bool
  num_fragments : BitVec 6
  fragments_received : UInt8

/-- The size of the buffer for a message in fragments. -/
def reserve (hdr_size : ℕ) (fragments : BitVec 6) : ℕ :=
  (HH_MSGQ_MAX_MSG_SIZE_BYTES - hdr_size) * (fragments.toNat + 1)

def hh_rm_alloc_connection (owner : Owner) (msg_id : UInt32) : Conn where
  owner := owner
  msg_id := msg_id
  seq := 0
  recv_buff := none
  received := []
  reply_err_code := 0
  seq_done := false
  num_fragments := 0
  fragments_received := 0

/-- How `hh_rm_init_connection_buff` ends. -/
inductive Init where
  | ok (connection : Conn)
  | enomem (connection : Conn)
  | outside

/-- The buffer for a payload, with the first fragment in it; without a payload there is none. -/
def hh_rm_init_connection_buff (connection : Conn) (m : Msg) (hdr_size payload_size : ℕ)
    (alloc : Bool) : Init :=
  if payload_size = 0 then .ok connection
  else if !alloc then .enomem { connection with recv_buff := none }
  else if payload_size > reserve hdr_size m.fragments then .outside
  else
    .ok { connection with
      recv_buff := some (reserve hdr_size m.fragments)
      received := (m.after hdr_size).take payload_size
      num_fragments := m.fragments }

/-! ## Sequence numbers -/

/-- The numbers that are given out, and what they point to. -/
structure Idr where
  entry : ℕ → Option ℕ
  next : ℕ

def U16_MAX : ℕ := 65535

def ENOMEM : ℕ := 12
def ENOSPC : ℕ := 28

/-- `idr_alloc_cyclic` for the numbers below `U16_MAX`. A negative result is cut to 16 bits. -/
def Idr.alloc_cyclic (idr : Idr) (ptr : ℕ) (alloc : Bool) : Idr × UInt16 :=
  if !alloc then (idr, .ofNat (2 ^ 16 - ENOMEM))
  else
    let free := fun id => (idr.entry id).isNone
    match (List.range' idr.next (U16_MAX - idr.next)).find? free <|>
        (List.range' 0 U16_MAX).find? free with
    | none => (idr, .ofNat (2 ^ 16 - ENOSPC))
    | some id => (⟨fun k => if k = id then some ptr else idr.entry k, id + 1⟩, .ofNat id)

def Idr.remove (idr : Idr) (id : ℕ) : Idr :=
  { idr with entry := fun k => if k = id then none else idr.entry k }

/-! ## The state -/

/-- Where the handler is, with the connection it looks at next. -/
inductive Work where
  | idle
  | found (c : ℕ) (m : Msg)
  | matched (c : ℕ) (m : Msg)
  | filled (c : ℕ) (m : Msg)
  | cont (c : ℕ) (m : Msg)
  | copied (c : ℕ)
  | closing (c : ℕ)

/-- What can go wrong with memory. -/
inductive Fault where
  | underflow
  | outside
  | use_after_free
  deriving DecidableEq

/-- The whole: connections, pointers to them, the handler, and what has come of it. -/
structure Rm where
  conns : Heap Conn
  idr : Idr
  curr_connection : Option ℕ
  work : Work
  /-- The calls of `hh_rm_notifier`: the notification and its payload. -/
  chain : List (UInt32 × List UInt8)
  faults : List Fault

def Rm.start : Rm where
  conns := .empty
  idr := ⟨fun _ => none, 0⟩
  curr_connection := none
  work := .idle
  chain := []
  faults := []

/-- What the surroundings decide: whether a lock is got, and which allocations succeed. -/
structure Luck where
  locked : Bool
  conn_alloc : Bool
  buff_alloc : Bool
  idr_alloc : Bool

def Luck.good : Luck := ⟨true, true, true, true⟩

/-- Something goes wrong, and the handler gives up. -/
def Rm.report (s : Rm) (f : Fault) : Rm := { s with work := .idle, faults := s.faults ++ [f] }

/-- A look at a connection, which may be gone. -/
def Rm.deref (s : Rm) (c : ℕ) (k : Conn → Rm) : Rm :=
  match s.conns.cell c with
  | none => s.report .use_after_free
  | some connection => k connection

/-! ## Notifications -/

def HH_RM_NOTIF_MEM_SHARED : UInt32 := 0x51100011
def HH_RM_NOTIF_MEM_RELEASED : UInt32 := 0x51100012
def HH_RM_NOTIF_MEM_ACCEPTED : UInt32 := 0x51100013
def HH_RM_NOTIF_VM_STATUS : UInt32 := 0x56100008
def HH_RM_NOTIF_VM_IRQ_LENT : UInt32 := 0x56100011
def HH_RM_NOTIF_VM_IRQ_RELEASED : UInt32 := 0x56100012
def HH_RM_NOTIF_VM_IRQ_ACCEPTED : UInt32 := 0x56100013
def HH_RM_NOTIF_VM_CONSOLE_CHARS : UInt32 := 0x56100080

/-- The kinds of size checks. -/
inductive SizeCheck where
  | equal (size : ℕ)
  | at_least (size : ℕ)
  | console (size : ℕ)

/-- The check that each notification gets. -/
def size_check (notification : UInt32) : Option SizeCheck :=
  if notification = HH_RM_NOTIF_VM_STATUS then some (.equal 8)
  else if notification = HH_RM_NOTIF_VM_IRQ_LENT then some (.equal 12)
  else if notification = HH_RM_NOTIF_VM_IRQ_RELEASED then some (.equal 4)
  else if notification = HH_RM_NOTIF_VM_IRQ_ACCEPTED then some (.equal 4)
  else if notification = HH_RM_NOTIF_MEM_SHARED then some (.at_least 20)
  else if notification = HH_RM_NOTIF_MEM_RELEASED then some (.equal 12)
  else if notification = HH_RM_NOTIF_MEM_ACCEPTED then some (.equal 12)
  else if notification = HH_RM_NOTIF_VM_CONSOLE_CHARS then some (.console 4)
  else none

def num_bytes (payload : List UInt8) : ℕ := Bytes.le (fun i => payload.getD i 0) 2 2

/-- A check as it is made, on `recv_buff`, which has the first message only, and `recv_buff_size`.
-/
def SizeCheck.passes (m : Msg) (recv_buff_size : ℕ) : SizeCheck → Bool
  | .equal size => recv_buff_size = sizeof_hdr + size
  | .at_least size => ¬recv_buff_size < sizeof_hdr + size
  | .console size =>
    if recv_buff_size < sizeof_hdr + size then
      sizeof_hdr + size + num_bytes m.body = recv_buff_size
    else true

/-- The notifier chain is called if the size is right. -/
def Rm.check_and_call (s : Rm) (m : Msg) (payload : List UInt8) (recv_buff_size : ℕ) : Rm :=
  match size_check m.msg_id with
  | none => s
  | some check =>
    if check.passes m recv_buff_size then { s with chain := s.chain ++ [(m.msg_id, payload)] }
    else s

def hh_rm_wait_for_notif_fragments (s : Rm) (m : Msg) (luck : Luck) : Rm :=
  if !luck.conn_alloc then s
  else
    let connection := hh_rm_alloc_connection (.notif m) m.msg_id
    let s := { s with curr_connection := some s.conns.next }
    match hh_rm_init_connection_buff connection m sizeof_hdr (size_sub m.size sizeof_hdr)
      luck.buff_alloc with
    | .ok connection => { s with conns := s.conns.alloc connection }
    | .enomem connection => { s with conns := (s.conns.alloc connection).free s.conns.next }
    | .outside => s.report .outside

def hh_rm_process_notif (s : Rm) (m : Msg) (luck : Luck) : Rm :=
  if s.curr_connection.isSome then s
  else if m.fragments ≠ 0 then hh_rm_wait_for_notif_fragments s m luck
  else s.check_and_call m m.body m.size

/-! ## Replies and continuations -/

section

variable (s : Rm)

def hh_rm_process_rply (m : Msg) (luck : Luck) : Rm :=
  if s.curr_connection.isSome then s
  else if !luck.locked then s
  else
    match s.idr.entry m.seq.toNat with
    | none => s
    | some c => { s with work := .found c m }

/-- The reply is for this connection, or is dropped. -/
def rply_match (c : ℕ) (m : Msg) : Rm :=
  s.deref c fun connection =>
    if connection.seq ≠ m.seq ∨ connection.msg_id ≠ m.msg_id then { s with work := .idle }
    else if m.size < sizeof_reply_hdr then s.report .underflow
    else { s with curr_connection := some c, work := .matched c m }

/-- The payload goes into a buffer of the connection. -/
def rply_fill (c : ℕ) (m : Msg) (luck : Luck) : Rm :=
  s.deref c fun connection =>
    match hh_rm_init_connection_buff connection m sizeof_reply_hdr
      (size_sub m.size sizeof_reply_hdr) luck.buff_alloc with
    | .ok connection => { s with conns := s.conns.put c connection, work := .filled c m }
    | .enomem connection => { s with conns := s.conns.put c connection, work := .idle }
    | .outside => s.report .outside

/-- The error code is copied; a reply in one message is complete. -/
def rply_finish (c : ℕ) (m : Msg) : Rm :=
  s.deref c fun connection =>
    { s with
      conns := s.conns.put c { connection with reply_err_code := m.err_code }
      work := if m.fragments = 0 then .closing c else .idle }

def hh_rm_process_cont (m : Msg) : Rm :=
  match s.curr_connection with
  | none => s
  | some c => { s with work := .cont c m }

/-- The payload goes behind what has been received. -/
def cont_copy (c : ℕ) (m : Msg) : Rm :=
  s.deref c fun connection =>
    if connection.num_fragments ≠ m.fragments then { s with work := .idle }
    else
      let payload_size := size_sub m.size sizeof_hdr
      match connection.recv_buff with
      | none => s.report .outside
      | some size =>
        if connection.received.length + payload_size > size then s.report .outside
        else
          { s with
            conns := s.conns.put c { connection with
              received := connection.received ++ (m.after sizeof_hdr).take payload_size }
            work := .copied c }

/-- One more fragment; the last one completes the message. -/
def cont_count (c : ℕ) : Rm :=
  s.deref c fun connection =>
    let connection := { connection with
      fragments_received := connection.fragments_received + 1 }
    { s with
      conns := s.conns.put c connection
      work :=
        if connection.fragments_received.toNat = connection.num_fragments.toNat then .closing c
        else .idle }

/-- The owner is woken up. -/
def complete_connection (c : ℕ) : Rm :=
  s.deref c fun connection =>
    { s with
      conns := s.conns.put c { connection with seq_done := true }
      curr_connection := none
      work := .idle }

def hh_rm_process_recv_work (m : Msg) (luck : Luck) : Rm :=
  match m.type with
  | .NOTIF => hh_rm_process_notif s m luck
  | .RPLY => hh_rm_process_rply s m luck
  | .CONT => hh_rm_process_cont s m
  | .REQ => s

def Rm.go (luck : Luck) : Rm :=
  match s.work with
  | .idle => s
  | .found c m => rply_match s c m
  | .matched c m => rply_fill s c m luck
  | .filled c m => rply_finish s c m
  | .cont c m => cont_copy s c m
  | .copied c => cont_count s c
  | .closing c => complete_connection s c

end

/-! ## Callers -/

def hh_rm_call (s : Rm) (message_id : UInt32) (luck : Luck) : Rm :=
  if message_id = 0 then s
  else if !luck.conn_alloc then s
  else if !luck.locked then s
  else
    let (idr, seq) := s.idr.alloc_cyclic s.conns.next luck.idr_alloc
    { s with
      conns := s.conns.alloc { hh_rm_alloc_connection .sending message_id with seq := seq }
      idr := idr }

/-- `hh_rm_send_request` returns. On an error the connection is freed; it stays in the idr. -/
def Rm.sent (s : Rm) (c : ℕ) (ok : Bool) : Rm :=
  match s.conns.cell c with
  | none => s
  | some connection =>
    match connection.owner with
    | .sending =>
      if ok then { s with conns := s.conns.put c { connection with owner := .waiting } }
      else { s with conns := s.conns.free c }
    | _ => s

/-- The wait in `hh_rm_call` or in `hh_rm_wait_for_notif_fragments` returns 0. A caller that got an
error leaves its number in the idr. -/
def Rm.woken (s : Rm) (c : ℕ) : Rm :=
  match s.conns.cell c with
  | none => s
  | some connection =>
    if !connection.seq_done then s
    else
      match connection.owner with
      | .sending => s
      | .waiting =>
        if connection.reply_err_code ≠ 0 then { s with conns := s.conns.free c }
        else
          { s with
            idr := s.idr.remove connection.seq.toNat
            conns := s.conns.free c }
      | .notif m =>
        let s := { s with conns := s.conns.free c }
        s.check_and_call m connection.received connection.received.length

/-- The wait is interrupted, and the connection freed; it stays in the idr. -/
def Rm.interrupted (s : Rm) (c : ℕ) : Rm :=
  match s.conns.cell c with
  | none => s
  | some connection =>
    if connection.seq_done then s
    else
      match connection.owner with
      | .sending => s
      | _ => { s with conns := s.conns.free c }

/-! ## All threads -/

/-- The steps of callers and of the handler. -/
inductive Act where
  | call (message_id : UInt32) (luck : Luck)
  | sent (c : ℕ) (ok : Bool)
  | woken (c : ℕ)
  | interrupted (c : ℕ)
  | message (m : Msg) (luck : Luck)
  | go (luck : Luck)

/-- One step of one thread. A message waits until the one before it has been handled. -/
def Rm.step (s : Rm) : Act → Rm
  | .call message_id luck => hh_rm_call s message_id luck
  | .sent c ok => s.sent c ok
  | .woken c => s.woken c
  | .interrupted c => s.interrupted c
  | .message m luck =>
    match s.work with
    | .idle => hh_rm_process_recv_work s m luck
    | _ => s
  | .go luck => s.go luck

/-! ## Sizes -/

lemma Msg.body_pos (m : Msg) : 0 < m.body.length := by
  have := m.accepted
  omega

lemma Msg.body_le (m : Msg) : m.body.length ≤ HH_MSGQ_MAX_MSG_SIZE_BYTES - sizeof_hdr := by
  have := m.fits
  omega

lemma Msg.payload_size (m : Msg) : size_sub m.size sizeof_hdr = m.body.length := by
  have hle : sizeof_hdr ≤ m.size := Nat.le_add_right ..
  rw [size_sub, if_pos hle, Msg.size, Nat.add_sub_cancel_left]

lemma Msg.take_after (m : Msg) :
    (m.after sizeof_hdr).take (size_sub m.size sizeof_hdr) = m.body := by
  rw [m.payload_size, Msg.after, Nat.sub_self, List.drop_zero, List.take_length]

lemma room_for_next {length received : ℕ} {fragments : BitVec 6}
    (hmissing : received < fragments.toNat)
    (hlength : length ≤ (HH_MSGQ_MAX_MSG_SIZE_BYTES - sizeof_hdr) * (received + 1)) (m : Msg) :
    length + m.body.length ≤ reserve sizeof_hdr fragments :=
  calc length + m.body.length ≤ (HH_MSGQ_MAX_MSG_SIZE_BYTES - sizeof_hdr) * (received + 1) +
        (HH_MSGQ_MAX_MSG_SIZE_BYTES - sizeof_hdr) := add_le_add hlength m.body_le
    _ = (HH_MSGQ_MAX_MSG_SIZE_BYTES - sizeof_hdr) * (received + 1 + 1) := (Nat.mul_succ ..).symm
    _ ≤ reserve sizeof_hdr fragments :=
        Nat.mul_le_mul_left _ (Nat.succ_le_succ (Nat.succ_le_of_lt hmissing))

lemma init_notif (connection : Conn) (m : Msg) (alloc : Bool) :
    hh_rm_init_connection_buff connection m sizeof_hdr (size_sub m.size sizeof_hdr) alloc =
      if !alloc then .enomem { connection with recv_buff := none }
      else
        .ok { connection with
          recv_buff := some (reserve sizeof_hdr m.fragments)
          received := m.body
          num_fragments := m.fragments } := by
  have hpos : ¬m.body.length = 0 := ne_of_gt m.body_pos
  have hfits : ¬m.body.length > reserve sizeof_hdr m.fragments :=
    not_lt.mpr (m.body_le.trans (Nat.le_mul_of_pos_right _ (Nat.succ_pos _)))
  rw [hh_rm_init_connection_buff, m.take_after, m.payload_size, if_neg hpos, if_neg hfits]

lemma wait_eq (s : Rm) (m : Msg) (luck : Luck) :
    hh_rm_wait_for_notif_fragments s m luck =
      if !luck.conn_alloc then s
      else if !luck.buff_alloc then
        { s with
          conns := (s.conns.alloc { hh_rm_alloc_connection (.notif m) m.msg_id with
            recv_buff := none }).free s.conns.next
          curr_connection := some s.conns.next }
      else
        { s with
          conns := s.conns.alloc { hh_rm_alloc_connection (.notif m) m.msg_id with
            recv_buff := some (reserve sizeof_hdr m.fragments)
            received := m.body
            num_fragments := m.fragments }
          curr_connection := some s.conns.next } := by
  simp only [hh_rm_wait_for_notif_fragments, init_notif]
  cases luck.conn_alloc <;> cases luck.buff_alloc <;> rfl

/-! ## Looking at a connection -/

lemma deref_some {s : Rm} {c : ℕ} {connection : Conn}
    (hcell : s.conns.cell c = some connection) (k : Conn → Rm) :
    s.deref c k = k connection := by
  rw [Rm.deref, hcell]

lemma deref_none {s : Rm} {c : ℕ} (hcell : s.conns.cell c = none) (k : Conn → Rm) :
    s.deref c k = s.report .use_after_free := by
  rw [Rm.deref, hcell]

lemma cont_copy_eq {s : Rm} {c : ℕ} {connection : Conn} {m : Msg} {size : ℕ}
    (hcell : s.conns.cell c = some connection) (hfrag : connection.num_fragments = m.fragments)
    (hbuff : connection.recv_buff = some size)
    (hroom : connection.received.length + m.body.length ≤ size) :
    cont_copy s c m =
      { s with
        conns := s.conns.put c { connection with received := connection.received ++ m.body }
        work := .copied c } := by
  rw [cont_copy, deref_some hcell, if_neg (not_not.mpr hfrag)]
  dsimp only
  rw [m.take_after, m.payload_size]
  split
  · rename_i hnone
    rw [hbuff] at hnone
    cases hnone
  · rename_i size' hsome
    rw [hbuff, Option.some_inj] at hsome
    rw [← hsome, if_neg (not_lt.mpr hroom)]

end KernelExtra.Haven
