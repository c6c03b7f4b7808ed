/-
Messages over a pipe: `physical_channel_send` and `physical_channel_rx_dispatch`, `qvm_comm.c`.

The steps are the accesses to the pipe, in any order: the four of a send, which hold a lock against
other sends, and the two halves of each read. A send that gives up between its header and its commit
leaves the header there; the commit of the next one hands over both.
-/
import KernelExtra.Hab.Pipe
import KernelExtra.Lib.Run

namespace KernelExtra.Hab

open Bytes List

/-! ## The model -/

/-- A message that has been sent. -/
structure Message where
  header : Header
  payload : List UInt8
  deriving DecidableEq

def Message.bytes (m : Message) : List UInt8 := m.header.bytes ++ m.payload

/-- The arguments of `physical_channel_send`. The size and the type are in the header; the
payload may be `NULL`. -/
structure Request where
  header : Header
  payload : Option Mem

/-- Where a send is. -/
inductive Sender where
  | idle
  | checked (req : Request)
  | headed (header : Header) (payload : Option Mem)
  | written (m : Message)
  | oops (header : Header)

/-- Where the reader is. -/
inductive Reader where
  | idle
  | head (c : Copy)
  | wants (header : Header)
  | body (header : Header) (c : Copy)

/-- One direction of a channel, with the trace of both ends. -/
structure World where
  sh_buf : SharedBuf
  tx_info : TxInfo
  rx_index : UInt32
  sequence_tx : UInt32
  xvm_sche_tx_tv_buffer : UInt64 × UInt64
  sender : Sender
  reader : Reader
  ret : Ret
  sent : List Message
  received : List Message
  lost : ℕ

def World.start (size : UInt32) (data : Mem) : World :=
  { sh_buf := ⟨0, 0, size, data⟩
    tx_info := ⟨0, 0⟩
    rx_index := 0
    sequence_tx := 0
    xvm_sche_tx_tv_buffer := (0, 0)
    sender := .idle
    reader := .idle
    ret := .ok
    sent := []
    received := []
    lost := 0 }

/-- The steps of `physical_channel_send` and of the reader. -/
inductive Act where
  | call (req : Request)
  | header (tv_sec tv_nsec : UInt64)
  | payload
  | commit (sclk_ticks : UInt64)
  | look
  | release

/-- What a send writes to the payload: the `tx` half of a `habmm_xing_vm_stat`, or an element of an
array. -/
def stamp (type : PayloadType) (tv_sec tv_nsec : UInt64) (tv : UInt64 × UInt64) (payload : Mem) :
    Mem :=
  match type with
  | .PROFILE =>
    store (store payload 0 (toLe 8 tv_sec.toNat)) 8 (toLe 8 (tv_nsec / NSEC_PER_USEC).toNat)
  | .SCHE_RESULT_REQ => store payload 0 (toLe 8 tv.1.toNat)
  | .SCHE_RESULT_RSP => store payload 16 (toLe 8 tv.2.toNat)
  | _ => payload

def stamped : PayloadType → Bool
  | .PROFILE | .SCHE_RESULT_REQ | .SCHE_RESULT_RSP => true
  | _ => false

section

variable (s : World)

def World.fail (ret : Ret) : World := { s with sender := .idle, ret }

def World.call (req : Request) : World :=
  let total_size := sizeof_header + req.header.sizebytes
  if total_size > s.sh_buf.size.toNat then s.fail .EINVAL
  else if (s.sh_buf.space s.tx_info).toNat < total_size then s.fail .EAGAIN
  else { s with sender := .checked req }

def World.signed (header : Header) : Header :=
  { header with sequence := s.sequence_tx + 1, signature := HAB_HEAD_SIGNATURE }

def World.header_write (header : Header) : UInt32 × TxInfo × SharedBuf :=
  hab_pipe_write s.tx_info s.sh_buf (some fun i => header.bytes.getD i 0) (.ofNat sizeof_header)

/-- The header goes into the pipe, if it has room for the message. -/
def World.write_header (req : Request) (tv_sec tv_nsec : UInt64) : World :=
  let header := s.signed req.header
  let type := header.payload_type
  let w := s.header_write header
  if w.1 ≠ .ofNat sizeof_header then s.fail .EIO_ERROR
  else
    let s := { s with tx_info := w.2.1, sh_buf := w.2.2 }
    match req.payload with
    | some payload =>
      { s with sender := .headed header
                 (some (stamp type tv_sec tv_nsec s.xvm_sche_tx_tv_buffer payload)) }
    | none =>
      if type = .PROFILE then s.fail .EINVAL
      else if stamped type then { s with sender := .oops header }
      else { s with sender := .headed header none }

/-- The payload follows. -/
def World.write_payload (header : Header) (payload : Option Mem) : World :=
  let message : Message := ⟨header, load (payload.getD fun _ => 0) 0 header.sizebytes⟩
  if header.sizebytes = 0 then { s with sender := .written message }
  else
    let w := hab_pipe_write s.tx_info s.sh_buf payload (HAB_HEADER_GET_SIZE header)
    if w.1 ≠ HAB_HEADER_GET_SIZE header then s.fail .EIO_ERROR
    else { s with tx_info := w.2.1, sh_buf := w.2.2, sender := .written message }

/-- The reader may see the message. -/
def World.commit (message : Message) (sclk_ticks : UInt64) : World :=
  { s with
    sh_buf := hab_pipe_write_commit s.tx_info s.sh_buf
    sequence_tx := s.sequence_tx + 1
    xvm_sche_tx_tv_buffer :=
      match message.header.payload_type with
      | .SCHE_MSG => (sclk_ticks, s.xvm_sche_tx_tv_buffer.2)
      | .SCHE_MSG_ACK => (s.xvm_sche_tx_tv_buffer.1, sclk_ticks)
      | _ => s.xvm_sche_tx_tv_buffer
    sender := .idle
    ret := .ok
    sent := s.sent ++ [message] }

/-- The first half of a read. Without anything to read, the loop ends. -/
def World.look : World :=
  match s.reader with
  | .idle =>
    match hab_pipe_read_copy s.rx_index s.sh_buf (.ofNat sizeof_header) with
    | none => s
    | some c => { s with rx_index := c.index, reader := .head c }
  | .wants header =>
    match hab_pipe_read_copy s.rx_index s.sh_buf (HAB_HEADER_GET_SIZE header) with
    | none => { s with reader := .idle, received := s.received ++ [⟨header, []⟩] }
    | some c => { s with rx_index := c.index, reader := .body header c }
  | _ => s

/-- The reader gives the room back. -/
def World.release : World :=
  match s.reader with
  | .head c =>
    let (c, sh_buf) := hab_pipe_read_commit s.sh_buf c true
    let s := { s with sh_buf }
    let header := Header.ofBytes c.p
    if c.count ≠ .ofNat sizeof_header then
      { s with reader := .idle, lost := s.lost + c.count.toNat }
    else if header.sizebytes = 0 then
      { s with reader := .idle, received := s.received ++ [⟨header, []⟩] }
    else { s with reader := .wants header }
  | .body header c =>
    let (c, sh_buf) := hab_pipe_read_commit s.sh_buf c false
    { s with sh_buf, reader := .idle, received := s.received ++ [⟨header, c.p⟩] }
  | _ => s

def World.step : Act → World
  | .call req =>
    match s.sender with
    | .idle => s.call req
    | _ => s
  | .header tv_sec tv_nsec =>
    match s.sender with
    | .checked req => s.write_header req tv_sec tv_nsec
    | _ => s
  | .payload =>
    match s.sender with
    | .headed header payload => s.write_payload header payload
    | _ => s
  | .commit sclk_ticks =>
    match s.sender with
    | .written m => s.commit m sclk_ticks
    | _ => s
  | .look => s.look
  | .release => s.release

end

/-! ## The stream is intact -/

/-- The bytes of the messages. -/
def flat (l : List Message) : List UInt8 := l.flatMap Message.bytes

def Reader.header : Reader → Option Header
  | .wants header | .body header _ => some header
  | _ => none

def World.headers_read (s : World) : List Header :=
  s.received.map (·.header) ++ s.reader.header.toList

/-- What is received is what was sent so far, no byte is lost, and a quiet link has delivered
everything. -/
structure Intact (s : World) : Prop where
  received : s.received <+: s.sent
  headers : s.headers_read <+: s.sent.map (·.header)
  lost : s.lost = 0
  all : s.sender = .idle → s.reader = .idle → s.sh_buf.avail = 0 → s.received = s.sent
  /-- and between two sends the writer has written the bytes of the sends that returned 0, and
  none of another. -/
  written : s.sender = .idle → s.tx_info.wr_count.toNat = (flat s.sent).length % 2 ^ 32

def Sender.has_profile : Sender → Bool
  | .checked req => req.header.payload_type ≠ .PROFILE || req.payload.isSome
  | _ => true

def Sender.has_payload : Sender → Bool
  | .headed header payload => header.sizebytes = 0 || payload.isSome
  | _ => true

/-- A send that goes on has what it needs. -/
def Backed (s : World) : Act → Bool
  | .header .. => s.sender.has_profile
  | .payload => s.sender.has_payload
  | _ => true

/-! ## The invariant -/

/-- The header says what the message is. -/
structure Message.Formed (m : Message) : Prop where
  size : m.header.sizebytes = m.payload.length
  signature : m.header.signature = HAB_HEAD_SIGNATURE

lemma flat_cons (m : Message) (rest : List Message) :
    flat (m :: rest) = m.header.bytes ++ (m.payload ++ flat rest) := by
  rfl

def Sender.pending : Sender → List UInt8
  | .headed header _ | .oops header => header.bytes
  | .written m => m.bytes
  | _ => []

def Sender.left : Sender → ℕ
  | .checked req => sizeof_header + req.header.sizebytes
  | .headed header _ => header.sizebytes
  | _ => 0

def Sender.Formed : Sender → Prop
  | .headed header _ => header.signature = HAB_HEAD_SIGNATURE
  | .written m => m.Formed
  | _ => True

def Reader.taken : Reader → ℕ
  | .head c | .body _ c => c.count.toNat
  | _ => 0

/-- What is still to be read, when the messages `rest` have not been received. -/
inductive Reader.Reads : Reader → List Message → List UInt8 → Prop
  | idle (rest : List Message) : Reads .idle rest (flat rest)
  | head {c : Copy} {m : Message} (rest : List Message) (hp : c.p = m.header.bytes)
      (hcount : c.count = .ofNat sizeof_header) : Reads (.head c) (m :: rest) (flat (m :: rest))
  | wants {m : Message} (rest : List Message) (hsize : m.header.sizebytes ≠ 0) :
      Reads (.wants m.header) (m :: rest) (m.payload ++ flat rest)
  | body {c : Copy} {m : Message} (rest : List Message) (hp : c.p = m.payload)
      (hcount : c.count = HAB_HEADER_GET_SIZE m.header) :
      Reads (.body m.header c) (m :: rest) (m.payload ++ flat rest)

/-- The bytes in the pipe are those of the messages that are not read yet. -/
structure World.Inv (s : World) (pos : ℕ) (unread : List UInt8) (rest : List Message) : Prop where
  pipe : Streams s.sh_buf s.tx_info s.rx_index pos s.reader.taken unread s.sender.pending
  room : (unread ++ s.sender.pending).length + s.sender.left ≤ s.sh_buf.size.toNat
  sender : s.sender.Formed
  reader : s.reader.Reads rest unread
  sent : s.sent = s.received ++ rest
  formed : ∀ m ∈ rest, m.Formed
  total : pos + unread.length = (flat s.sent).length
  lost : s.lost = 0

lemma inv_start (size : UInt32) (data : Mem) : (World.start size data).Inv 0 [] [] where
  pipe := .start size data
  room := zero_le
  sender := trivial
  reader := .idle []
  sent := rfl
  formed := by simp
  total := rfl
  lost := rfl

section Inv

variable {s : World} {pos : ℕ} {unread : List UInt8} {rest : List Message}

lemma flat_eq_nil {l : List Message} (h : flat l = []) : l = [] := by
  cases l with
  | nil => rfl
  | cons m l =>
    rw [flat_cons, append_eq_nil_iff] at h
    have := m.header.length_bytes
    rw [h.1] at this
    exact absurd this (by decide)

lemma World.Inv.intact (h : s.Inv pos unread rest) : Intact s where
  received := ⟨rest, h.sent.symm⟩
  headers := by
    rw [World.headers_read, h.sent, map_append]
    refine prefix_append_right_inj _ |>.mpr ?_
    have hreader := h.reader
    generalize s.reader = reader at hreader
    cases hreader with
    | idle | head => exact nil_prefix
    | wants | body => exact prefix_append [_] _
  lost := h.lost
  all _ hreader havail := by
    have hempty : unread = [] := by
      rw [← length_eq_zero_iff, ← h.pipe.avail_toNat, havail]
      rfl
    have hreads := h.reader
    rw [hreader, hempty] at hreads
    generalize hnil : ([] : List UInt8) = l at hreads
    cases hreads
    rw [h.sent, flat_eq_nil hnil.symm, append_nil]
  written hsender := by
    have hwr := h.pipe.wr_count
    rw [hsender] at hwr
    change _ = (pos + (unread ++ []).length) % _ at hwr
    rwa [append_nil, h.total] at hwr

/-! ## The reader -/

lemma toNat_sizeof_header : (UInt32.ofNat sizeof_header).toNat = sizeof_header := by decide

variable {header : Header} {req : Request}

lemma get_size_ne_zero (h : header.sizebytes ≠ 0) : HAB_HEADER_GET_SIZE header ≠ 0 := by
  intro hzero
  exact h (by rw [Header.sizebytes, hzero]; rfl)

lemma World.Inv.look (h : s.Inv pos unread rest) : s.look.Inv pos unread rest := by
  have hreads := h.reader
  have hpipe := h.pipe
  cases hreader : s.reader with
  | idle =>
    rw [hreader] at hreads hpipe
    cases hreads
    cases rest with
    | nil =>
      have havail : s.sh_buf.avail = 0 := UInt32.toNat_inj.mp hpipe.avail_toNat
      have hlook : s.look = s := by
        simp [World.look, hreader, hab_pipe_read_copy, havail]
      rwa [hlook]
    | cons m rest =>
      obtain ⟨c, hc, hp, hcount, hpipe'⟩ := hpipe.copy (flat_cons m rest)
        (.ofNat sizeof_header) (by decide) (by rw [toNat_sizeof_header, Header.length_bytes])
      have hlook : s.look = { s with rx_index := c.index, reader := .head c } := by
        simp [World.look, hreader, hc]
      rw [hlook]
      refine { h with pipe := ?_, reader := .head rest hp hcount }
      change Streams s.sh_buf s.tx_info c.index pos c.count.toNat _ _
      rwa [hcount, toNat_sizeof_header, ← m.header.length_bytes]
  | wants header =>
    rw [hreader] at hreads hpipe
    cases hreads with
    | @wants m rest hsize =>
      have hlen := (h.formed m mem_cons_self).size
      obtain ⟨c, hc, hp, hcount, hpipe'⟩ := hpipe.copy rfl
        (HAB_HEADER_GET_SIZE m.header) (get_size_ne_zero hsize) hlen
      have hlook : s.look = { s with rx_index := c.index, reader := .body m.header c } := by
        simp [World.look, hreader, hc]
      rw [hlook]
      refine { h with pipe := ?_, reader := .body rest hp hcount }
      change Streams s.sh_buf s.tx_info c.index pos c.count.toNat _ _
      rw [hcount]
      change Streams s.sh_buf s.tx_info c.index pos m.header.sizebytes _ _
      rwa [hlen]
  | head c | body header c =>
    have hlook : s.look = s := by simp only [World.look, hreader]
    rwa [hlook]

lemma World.Inv.sent_append_one {m : Message} (h : s.Inv pos unread (m :: rest)) :
    s.sent = s.received ++ [m] ++ rest := by
  rw [h.sent, append_assoc]
  rfl

section

variable (h : s.Inv pos unread rest)
include h

lemma World.Inv.advance {front back : List UInt8} {count : UInt32}
    {reader : Reader} {received rest' : List Message} (hunread : unread = front ++ back)
    (htaken : s.reader.taken = front.length) (hcount : count.toNat = front.length)
    (hreader : reader.Reads rest' back) (hzero : reader.taken = 0)
    (hsent : s.sent = received ++ rest') (hrest : ∀ m ∈ rest', m ∈ rest) :
    World.Inv
      { s with
        sh_buf := { s.sh_buf with rd_count := s.sh_buf.rd_count + count }
        reader := reader
        received := received }
      (pos + front.length) back rest' where
  pipe := by
    rw [hzero]
    exact h.pipe.release hunread htaken hcount
  room := by
    have hroom := h.room
    rw [hunread, append_assoc, length_append] at hroom
    change (back ++ s.sender.pending).length + s.sender.left ≤ s.sh_buf.size.toNat
    omega
  sender := h.sender
  reader := hreader
  sent := hsent
  formed m hm := h.formed m (hrest m hm)
  total := by
    have htotal := h.total
    rw [hunread, length_append] at htotal
    change _ = (flat s.sent).length
    omega
  lost := h.lost

lemma World.Inv.release : ∃ pos unread rest, s.release.Inv pos unread rest := by
  have hreads := h.reader
  cases hreader : s.reader with
  | head c =>
    rw [hreader] at hreads
    cases hreads with
    | @head _ m rest hp hcount =>
      have hm := h.formed m mem_cons_self
      have hheader : Header.ofBytes c.p = m.header := by rw [hp, Header.ofBytes_bytes]
      have hretry : retry s.sh_buf 1001 c = c :=
        retry_of_signature _ (by rw [hheader, hm.signature])
      have hlen : c.count.toNat = m.header.bytes.length := by
        rw [hcount, toNat_sizeof_header, Header.length_bytes]
      have htaken : s.reader.taken = m.header.bytes.length := by rwa [hreader]
      by_cases hsize : m.header.sizebytes = 0
      · have hpayload : m.payload = [] := by rw [← length_eq_zero_iff, ← hm.size, hsize]
        have hrelease : s.release =
            { s with
              sh_buf := { s.sh_buf with rd_count := s.sh_buf.rd_count + c.count }
              reader := .idle
              received := s.received ++ [m] } := by
          simp only [World.release, hreader, hab_pipe_read_commit, if_true, hretry, hcount, ne_eq,
            not_true_eq_false, if_false, hheader, hsize]
          rw [← hcount, ← hpayload]
          rfl
        rw [hrelease]
        have hunread := flat_cons m rest
        rw [hpayload, nil_append] at hunread
        exact ⟨_, _, _, h.advance hunread htaken hlen (.idle rest) rfl (h.sent_append_one)
          fun m' => mem_cons_of_mem m⟩
      · have hrelease : s.release =
            { s with
              sh_buf := { s.sh_buf with rd_count := s.sh_buf.rd_count + c.count }
              reader := .wants m.header } := by
          simp only [World.release, hreader, hab_pipe_read_commit, if_true, hretry, hcount, ne_eq,
            not_true_eq_false, if_false, hheader, hsize]
          rw [← hcount]
          rfl
        rw [hrelease]
        exact ⟨_, _, _, h.advance (flat_cons m rest) htaken hlen (.wants rest hsize) rfl h.sent
          fun m' => id⟩
  | body header c =>
    rw [hreader] at hreads
    cases hreads with
    | @body _ m rest hp hcount =>
      have hm := h.formed m mem_cons_self
      have hlen : c.count.toNat = m.payload.length := by rw [hcount, ← hm.size]; rfl
      have htaken : s.reader.taken = m.payload.length := by rwa [hreader]
      have hrelease : s.release =
          { s with
            sh_buf := { s.sh_buf with rd_count := s.sh_buf.rd_count + c.count }
            reader := .idle
            received := s.received ++ [m] } := by
        simp only [World.release, hreader, hab_pipe_read_commit, Bool.false_eq_true, if_false, hp]
        rfl
      rw [hrelease]
      exact ⟨_, _, _, h.advance rfl htaken hlen (.idle rest) rfl (h.sent_append_one)
        fun m' => mem_cons_of_mem m⟩
  | idle | wants header =>
    have hrelease : s.release = s := by simp only [World.release, hreader]
    exact ⟨pos, unread, rest, by rwa [hrelease]⟩

/-! ## The sender -/

lemma World.Inv.call (hsender : s.sender = .idle) : (s.call req).Inv pos unread rest := by
  have hpipe := h.pipe
  have hroom := h.room
  rw [hsender] at hpipe hroom
  simp only [World.call]
  split_ifs with hbig hfull
  · exact { h with pipe := hpipe, room := hroom, sender := trivial }
  · exact { h with pipe := hpipe, room := hroom, sender := trivial }
  · refine { h with pipe := hpipe, room := ?_, sender := trivial }
    rw [hpipe.space_toNat] at hfull
    change (unread ++ Sender.idle.pending).length + (sizeof_header + req.header.sizebytes) ≤
      s.sh_buf.size.toNat
    omega

end

lemma World.Inv.header_write (header : Header) (h : s.Inv pos unread rest)
    (hsender : s.sender = .checked req) :
    (s.header_write header).1 = .ofNat sizeof_header ∧
      (s.header_write header).2.2.size = s.sh_buf.size ∧
      Streams (s.header_write header).2.2 (s.header_write header).2.1 s.rx_index pos
        s.reader.taken unread header.bytes ∧
      (unread ++ header.bytes).length + req.header.sizebytes ≤ s.sh_buf.size.toNat := by
  have hpipe := h.pipe
  have hroom := h.room
  rw [hsender] at hpipe hroom
  change (unread ++ []).length + (sizeof_header + req.header.sizebytes) ≤ _ at hroom
  obtain ⟨hret, hsize, hpipe'⟩ := hpipe.write (fun i => header.bytes.getD i 0)
    (.ofNat sizeof_header) (by decide) (by
      change (unread ++ []).length + _ ≤ _
      rw [toNat_sizeof_header]
      omega)
  refine ⟨hret, hsize, hpipe', ?_⟩
  rw [append_nil] at hroom
  rw [length_append, Header.length_bytes]
  omega

def World.with_header (s : World) (header : Header) (sender : Sender) (ret : Ret) : World :=
  { s with
    tx_info := (s.header_write header).2.1
    sh_buf := (s.header_write header).2.2
    sender := sender
    ret := ret }

section

variable (h : s.Inv pos unread rest)
include h

/-- **Writing the header**, whatever comes of it. -/
theorem World.Inv.write_header_eq (hsender : s.sender = .checked req) (tv_sec tv_nsec : UInt64) :
    s.write_header req tv_sec tv_nsec =
      match req.payload with
      | some payload =>
        s.with_header (s.signed req.header) (.headed (s.signed req.header)
          (some (stamp req.header.payload_type tv_sec tv_nsec s.xvm_sche_tx_tv_buffer payload)))
          s.ret
      | none =>
        if req.header.payload_type = .PROFILE then
          s.with_header (s.signed req.header) .idle .EINVAL
        else if stamped req.header.payload_type then
          s.with_header (s.signed req.header) (.oops (s.signed req.header)) s.ret
        else s.with_header (s.signed req.header) (.headed (s.signed req.header) none) s.ret := by
  have hret := (h.header_write (s.signed req.header) hsender).1
  simp only [World.write_header, hret, ne_eq, not_true_eq_false, if_false]
  rfl

lemma World.Inv.with_header {sender : Sender} {ret : Ret} (hsender : s.sender = .checked req)
    (hpending : sender.pending = header.bytes) (hleft : sender.left ≤ req.header.sizebytes)
    (hformed : sender.Formed) : (s.with_header header sender ret).Inv pos unread rest := by
  obtain ⟨-, hsize, hpipe, hroom⟩ := h.header_write header hsender
  refine { h with pipe := ?_, room := ?_, sender := hformed }
  · rwa [← hpending] at hpipe
  · change (unread ++ sender.pending).length + sender.left ≤ (s.header_write header).2.2.size.toNat
    rw [hsize, hpending]
    omega

lemma World.Inv.write_header
    (hsender : s.sender = .checked req) (hbacked : s.sender.has_profile = true)
    (tv_sec tv_nsec : UInt64) : (s.write_header req tv_sec tv_nsec).Inv pos unread rest := by
  rw [h.write_header_eq hsender]
  cases hpayload : req.payload with
  | some payload => exact h.with_header hsender rfl (le_rfl) rfl
  | none =>
    have hprofile : req.header.payload_type ≠ .PROFILE := by
      rw [hsender] at hbacked
      simpa [Sender.has_profile, hpayload] using hbacked
    simp only [if_neg hprofile]
    split_ifs
    · exact h.with_header hsender rfl (zero_le) trivial
    · exact h.with_header hsender rfl (le_rfl) rfl

lemma World.Inv.write_payload {payload : Option Mem} (hsender : s.sender = .headed header payload)
    (hbacked : s.sender.has_payload = true) :
    (s.write_payload header payload).Inv pos unread rest := by
  have hpipe := h.pipe
  have hroom := h.room
  have hformed := h.sender
  rw [hsender] at hpipe hroom hformed hbacked
  change (unread ++ header.bytes).length + header.sizebytes ≤ _ at hroom
  by_cases hsize : header.sizebytes = 0
  · simp only [World.write_payload, if_pos hsize]
    refine { h with pipe := ?_, room := ?_, sender := ⟨?_, hformed⟩ }
    · change Streams _ _ _ _ _ _ (header.bytes ++ load _ 0 header.sizebytes)
      rw [hsize, load_zero, append_nil]
      exact hpipe
    · change (unread ++ (header.bytes ++ load _ 0 header.sizebytes)).length + 0 ≤ _
      rw [hsize, load_zero, append_nil]
      change _ ≤ s.sh_buf.size.toNat
      omega
    · exact (length_load ..).symm
  · cases payload with
    | none => simp [Sender.has_payload, hsize] at hbacked
    | some p =>
      obtain ⟨hret, hsize', hpipe'⟩ := hpipe.write p
        (HAB_HEADER_GET_SIZE header) (get_size_ne_zero hsize) hroom
      simp only [World.write_payload, if_neg hsize, hret, ne_eq, not_true_eq_false, if_false]
      refine { h with pipe := hpipe', room := ?_, sender := ⟨(length_load ..).symm, hformed⟩ }
      change (unread ++ (header.bytes ++ load p 0 header.sizebytes)).length + 0 ≤
        (hab_pipe_write s.tx_info s.sh_buf (some p) (HAB_HEADER_GET_SIZE header)).2.2.size.toNat
      rw [hsize', ← append_assoc, length_append, length_load]
      exact hroom

end

lemma Reader.Reads.append {reader : Reader} (h : reader.Reads rest unread) (m : Message) :
    reader.Reads (rest ++ [m]) (unread ++ m.bytes) := by
  have hflat (l : List Message) : flat l ++ m.bytes = flat (l ++ [m]) := by
    rw [flat, flat, flatMap_append, flatMap_singleton]
  cases h with
  | idle rest =>
    rw [hflat]
    exact .idle _
  | head rest hp hcount =>
    rw [hflat]
    exact .head _ hp hcount
  | wants rest hsize =>
    rw [append_assoc, hflat]
    exact .wants _ hsize
  | body rest hp hcount =>
    rw [append_assoc, hflat]
    exact .body _ hp hcount

variable (h : s.Inv pos unread rest)
include h

lemma World.Inv.commit {m : Message} (hsender : s.sender = .written m) (sclk_ticks : UInt64) :
    (s.commit m sclk_ticks).Inv pos (unread ++ m.bytes) (rest ++ [m]) := by
  have hpipe := h.pipe
  have hroom := h.room
  have hformed := h.sender
  rw [hsender] at hpipe hroom hformed
  refine ⟨hpipe.commit, ?_, trivial, h.reader.append m, ?_, ?_, ?_, h.lost⟩
  · change (unread ++ m.bytes ++ []).length + 0 ≤ _
    rw [append_nil]
    exact hroom
  · change s.sent ++ [m] = s.received ++ (rest ++ [m])
    rw [h.sent, append_assoc]
  · exact forall_mem_append.mpr ⟨h.formed, forall_mem_singleton.mpr hformed⟩
  · change _ = (flat (s.sent ++ [m])).length
    rw [flat, flatMap_append, flatMap_singleton, length_append, length_append, ← add_assoc, h.total]
    rfl

/-! ## Sends that give up -/

theorem not_intact_of_header {s' : World} (hsender : s'.sender = .idle) (hsent : s'.sent = s.sent)
    (hwr : s'.tx_info.wr_count.toNat = (pos + (unread ++ header.bytes).length) % 2 ^ 32) :
    ¬ Intact s' := by
  intro hintact
  have hwritten := hintact.written hsender
  rw [hwr, hsent, ← h.total, length_append, Header.length_bytes, sizeof_header] at hwritten
  omega

lemma not_intact_write_header
    (hsender : s.sender = .checked req) (hbacked : ¬ s.sender.has_profile = true)
    (tv_sec tv_nsec : UInt64) : ¬ Intact (s.write_header req tv_sec tv_nsec) := by
  rw [hsender, Sender.has_profile] at hbacked
  simp only [Bool.or_eq_true, decide_eq_true_eq, not_or, not_not, Bool.not_eq_true,
    Option.isSome_eq_false_iff, Option.isNone_iff_eq_none] at hbacked
  obtain ⟨hprofile, hpayload⟩ := hbacked
  rw [h.write_header_eq hsender, hpayload]
  simp only [if_pos hprofile]
  exact not_intact_of_header h rfl rfl (h.header_write _ hsender).2.2.1.wr_count

lemma not_intact_write_payload {payload : Option Mem} (hsender : s.sender = .headed header payload)
    (hbacked : ¬ s.sender.has_payload = true) : ¬ Intact (s.write_payload header payload) := by
  have hpipe := h.pipe
  rw [hsender] at hpipe hbacked
  simp only [Sender.has_payload, Bool.or_eq_true, decide_eq_true_eq, not_or, Bool.not_eq_true,
    Option.isSome_eq_false_iff, Option.isNone_iff_eq_none] at hbacked
  obtain ⟨hsize, rfl⟩ := hbacked
  have hgive : s.write_payload header none = s.fail .EIO_ERROR := by
    have hret : (hab_pipe_write s.tx_info s.sh_buf none (HAB_HEADER_GET_SIZE header)).1 ≠
        HAB_HEADER_GET_SIZE header := (get_size_ne_zero hsize).symm
    simp only [World.write_payload, if_neg hsize]
    rw [if_pos hret]
  rw [hgive]
  exact not_intact_of_header h rfl rfl hpipe.wr_count

end Inv

/-! ## Runs -/

theorem inv_step {s : World} {a : Act}
    (h : ∃ pos unread rest, s.Inv pos unread rest) (hbacked : Backed s a = true) :
    ∃ pos unread rest, (s.step a).Inv pos unread rest := by
  obtain ⟨pos, unread, rest, h⟩ := h
  cases a with
  | call req =>
    simp only [World.step]
    split
    · next hsender => exact ⟨_, _, _, h.call hsender⟩
    · exact ⟨_, _, _, h⟩
  | header tv_sec tv_nsec =>
    simp only [World.step]
    split
    · next hsender => exact ⟨_, _, _, h.write_header hsender hbacked tv_sec tv_nsec⟩
    · exact ⟨_, _, _, h⟩
  | payload =>
    simp only [World.step]
    split
    · next hsender => exact ⟨_, _, _, h.write_payload hsender hbacked⟩
    · exact ⟨_, _, _, h⟩
  | commit sclk_ticks =>
    simp only [World.step]
    split
    · next hsender => exact ⟨_, _, _, h.commit hsender sclk_ticks⟩
    · exact ⟨_, _, _, h⟩
  | look => exact ⟨_, _, _, h.look⟩
  | release => exact h.release

lemma not_intact_step {s : World} {a : Act}
    (h : ∃ pos unread rest, s.Inv pos unread rest) (hbacked : ¬ Backed s a = true) :
    ¬ Intact (s.step a) := by
  obtain ⟨pos, unread, rest, h⟩ := h
  cases a with
  | header tv_sec tv_nsec =>
    cases hsender : s.sender with
    | checked req =>
      simp only [World.step, hsender]
      exact not_intact_write_header h hsender hbacked tv_sec tv_nsec
    | _ => exact absurd (by simp only [Backed, hsender, Sender.has_profile]) hbacked
  | payload =>
    cases hsender : s.sender with
    | headed header payload =>
      simp only [World.step, hsender]
      exact not_intact_write_payload h hsender hbacked
    | _ => exact absurd (by simp only [Backed, hsender, Sender.has_payload]) hbacked
  | call | commit | look | release => exact absurd rfl hbacked

/-- **Messages cross the pipe intact** exactly as long as no send gives up between its header
and its commit. -/
theorem messages_intact_iff (size : UInt32) (data : Mem) (l : List Act) :
    (∀ l', l' <+: l → Intact (Run.exec World.step (.start size data) l')) ↔
      Run.Ok World.step (fun s a => Backed s a = true) (.start size data) l :=
  Run.prefix_good_iff
    (fun _ ⟨_, _, _, h⟩ => h.intact) (fun _ _ => inv_step) (fun _ _ => not_intact_step) l
    ⟨_, _, _, inv_start size data⟩

def whole (req : Request) : List Act := [.call req, .header 0 0, .payload, .commit 0]

def lone_profile : Request := ⟨⟨0x00160020, 7, 0, 0⟩, none⟩

def short_message : Request := ⟨⟨0x00100004, 7, 0, 0⟩, some fun i => .ofNat (i + 1)⟩

/-- What the reader reads after the second send begins with the header of the first, which failed.
-/
theorem failed_send_read :
    let failed := Run.exec World.step (.start 64 fun _ => 0) (whole lone_profile)
    let s := Run.exec World.step failed (whole short_message ++ [.look, .release])
    failed.ret = .EINVAL ∧ failed.sent = [] ∧ s.ret = .ok ∧
      s.sent = [⟨⟨0x00100004, 7, HAB_HEAD_SIGNATURE, 1⟩, [1, 2, 3, 4]⟩] ∧
      s.headers_read = [⟨0x00160020, 7, HAB_HEAD_SIGNATURE, 1⟩] ∧ ¬ Intact s := by
  refine ⟨by decide +kernel, by decide +kernel, by decide +kernel, by decide +kernel,
    by decide +kernel, fun hintact => ?_⟩
  exact absurd hintact.headers (by decide +kernel)

end KernelExtra.Hab
