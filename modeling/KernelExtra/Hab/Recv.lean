/-
What becomes of a message that arrives, `hab_msg_recv` in `hab_msg.c`.

The header has been read; the bytes it announces are still in the pipe, and everything in both is
the choice of the other machine. The function is modelled with what it reads, what it hands on, and
its accesses to the objects it has allocated.
-/
import KernelExtra.Hab.Pipe

namespace KernelExtra.Hab

open Bytes

/-! ## The receiving side -/

/-- A vchan that messages arrive for. -/
structure Vchan where
  session_id : UInt32
  otherend_id : UInt32
  otherend_closed : Bool
  closed : Bool
  refcount : ℕ
  deriving DecidableEq

/-- The read end of a pipe. -/
structure Rx where
  sh_buf : SharedBuf
  index : UInt32

structure Pchan where
  vchan_idr : UInt32 → Option Vchan
  rx : Rx

/-- What the call meets: allocations, clocks, a device that is being stopped. -/
structure Luck where
  alloc : Bool
  stopped : Bool
  tv_sec : UInt64
  tv_nsec : UInt64
  sclk_ticks : UInt64

/-- The channel with this number, if the session is the same, the two ends are paired and open, and
there is a reference to add to. -/
def hab_vchan_get (pchan : Pchan) (header : Header) : Option Vchan :=
  match pchan.vchan_idr (HAB_VCID_GET_ID (HAB_HEADER_GET_ID header)) with
  | none => none
  | some vchan =>
    if vchan.session_id ≠ header.session_id then none
    else if vchan.otherend_id = 0 then none
    else if vchan.otherend_closed || vchan.closed then none
    else if vchan.refcount = 0 then none
    else some vchan

def physical_channel_read (rx : Rx) (read_size : ℕ) : List UInt8 × Rx :=
  let (bytes, index, sh_buf) := hab_pipe_read rx.index rx.sh_buf (.ofNat read_size) false
  (bytes, ⟨sh_buf, index⟩)

/-! ## Objects -/

/-- An access to an allocated object of a given size. -/
structure Touch where
  object : ℕ
  access : Access
  deriving DecidableEq

def Touch.Inside (t : Touch) : Prop := t.access.Inside t.object

instance (t : Touch) : Decidable t.Inside := inferInstanceAs (Decidable (_ ≤ _))

def sizeof_message : ℕ := 32
def message_data : ℕ := 28

def sizeof_open_send_data : ℕ := 24

def sizeof_open_node : ℕ := 64
def node_xdata : ℕ := 16

def sizeof_export_ack_recvd : ℕ := 40
def sizeof_export_ack : ℕ := 12

def exp_export_id : Access := ⟨0, 4⟩
def exp_import_index : Access := ⟨8, 8⟩
def exp_pchan : Access := ⟨32, 8⟩
def exp_vcid_local : Access := ⟨40, 4⟩
def exp_vcid_remote : Access := ⟨44, 4⟩
def exp_domid_local : Access := ⟨48, 4⟩
def exp_domid_remote : Access := ⟨52, 4⟩
def exp_node : Access := ⟨60, 16⟩
def exp_kva : Access := ⟨76, 8⟩
def exp_payload_count : Access := ⟨84, 4⟩
def exp_payload : ℕ := 88

/-! ## `hab_msg_recv` -/

/-- What becomes of the message. -/
inductive Effect where
  | nothing
  | queue (data : List UInt8)
  | open_request (type : PayloadType) (xdata : List UInt8)
  | cancel (xdata : List UInt8) (alloc : Bool)
  | export_desc (bytes : List UInt8)
  | export_ack (bytes : List UInt8)
  | stop
  deriving DecidableEq

/-- The call as a whole. -/
structure Outcome where
  ret : Ret
  rx : Rx
  effect : Effect
  touches : List Touch

def hab_msg_drop (rx : Rx) (sizebytes : ℕ) (alloc : Bool) : Rx × List Touch :=
  if alloc then
    let (bytes, rx) := physical_channel_read rx sizebytes
    (rx, [⟨sizebytes, 0, bytes.length⟩])
  else (rx, [])

def refuse (rx : Rx) (sizebytes : ℕ) (alloc : Bool) (ret : Ret) : Outcome :=
  if sizebytes ≠ 0 then
    let (rx, touches) := hab_msg_drop rx sizebytes alloc
    ⟨ret, rx, .nothing, touches⟩
  else ⟨ret, rx, .nothing, []⟩

/-- `hab_msg_alloc` and `hab_msg_queue`; `marks` are offsets in `data` and the bytes that go there.
-/
def hab_msg_alloc_queue (rx : Rx) (sizebytes : ℕ) (alloc : Bool) (marks : List (ℕ × List UInt8)) :
    Outcome :=
  if alloc then
    let object := sizeof_message + sizebytes
    let (bytes, rx) := physical_channel_read rx sizebytes
    let data := marks.foldl (fun data mark => store data mark.1 mark.2) (bytes.getD · 0)
    { ret := .ok
      rx := rx
      effect := .queue (load data 0 bytes.length)
      touches := [⟨object, message_data, bytes.length⟩, ⟨object, 16, 12⟩] ++
        marks.map (fun mark => ⟨object, message_data + mark.1, mark.2.length⟩) ++
        [⟨object, 0, 16⟩] }
  else ⟨.ok, rx, .nothing, []⟩

def open_request_add (rx : Rx) (sizebytes : ℕ) (alloc : Bool) (request_type : PayloadType) :
    Outcome :=
  if alloc then
    let (bytes, rx) := physical_channel_read rx sizebytes
    let touch : Touch := ⟨sizeof_open_node, node_xdata, bytes.length⟩
    if bytes.length ≠ sizebytes then ⟨.EIO_ERROR, rx, .nothing, [touch]⟩
    else ⟨.ok, rx, .open_request request_type bytes, [touch, ⟨sizeof_open_node, 0, 16⟩,
      ⟨sizeof_open_node, 40, 24⟩]⟩
  else ⟨.ENOMEM, rx, .nothing, []⟩

def open_receive_cancel (rx : Rx) (sizebytes : ℕ) (alloc : Bool) : Outcome :=
  let (bytes, rx) := physical_channel_read rx sizebytes
  let touch : Touch := ⟨sizeof_open_send_data, 0, bytes.length⟩
  if bytes.length ≠ sizebytes then ⟨.EIO_ERROR, rx, .nothing, [touch]⟩
  else ⟨.ok, rx, .cancel bytes alloc, [touch]⟩

def receive_export (rx : Rx) (sizebytes : ℕ) (alloc : Bool) : Outcome :=
  if alloc then
    let (bytes, rx) := physical_channel_read rx sizebytes
    let touch : Touch := ⟨sizebytes, 0, bytes.length⟩
    if bytes.length ≠ sizebytes then ⟨.ok, rx, .nothing, [touch]⟩
    else
      { ret := .ok
        rx := rx
        effect := .export_desc bytes
        touches := touch ::
          [exp_domid_remote, exp_domid_local, exp_pchan, exp_node, exp_export_id, exp_vcid_local,
            exp_vcid_remote].map (⟨sizebytes, ·⟩) }
  else ⟨.ok, rx, .nothing, []⟩

def hab_receive_create_export_ack (rx : Rx) (sizebytes : ℕ) (alloc : Bool) : Outcome :=
  if alloc then
    if sizebytes > sizeof_export_ack then ⟨.EINVAL, rx, .nothing, []⟩
    else
      let (bytes, rx) := physical_channel_read rx sizebytes
      let touch : Touch := ⟨sizeof_export_ack_recvd, 0, bytes.length⟩
      if bytes.length ≠ sizebytes then ⟨.EIO_ERROR, rx, .nothing, [touch]⟩
      else ⟨.ok, rx, .export_ack bytes, [touch, ⟨sizeof_export_ack_recvd, 16, 16⟩]⟩
  else ⟨.ENOMEM, rx, .nothing, []⟩

def PayloadType.is_open : PayloadType → Bool
  | .INIT | .INIT_ACK | .INIT_DONE | .INIT_CANCEL => true
  | _ => false

def dispatch (rx : Rx) (luck : Luck) (payload_type : PayloadType) (sizebytes : ℕ) : Outcome :=
  match payload_type with
  | .MSG | .SCHE_RESULT_REQ | .SCHE_RESULT_RSP => hab_msg_alloc_queue rx sizebytes luck.alloc []
  | .INIT | .INIT_ACK | .INIT_DONE => open_request_add rx sizebytes luck.alloc payload_type
  | .INIT_CANCEL => open_receive_cancel rx sizebytes luck.alloc
  | .EXPORT => receive_export rx sizebytes luck.alloc
  | .EXPORT_ACK => hab_receive_create_export_ack rx sizebytes luck.alloc
  | .CLOSE => ⟨.ok, rx, .stop, []⟩
  | .PROFILE =>
    -- `rx_sec` and `rx_usec` of a `habmm_xing_vm_stat`
    hab_msg_alloc_queue rx sizebytes luck.alloc
      [(16, toLe 8 luck.tv_sec.toNat), (24, toLe 8 (luck.tv_nsec / NSEC_PER_USEC).toNat)]
  | .SCHE_MSG | .SCHE_MSG_ACK =>
    hab_msg_alloc_queue rx sizebytes luck.alloc [(0, toLe 8 luck.sclk_ticks.toNat)]
  | .unknown => ⟨.ok, rx, .nothing, []⟩

def hab_msg_recv (pchan : Pchan) (luck : Luck) (header : Header) : Outcome :=
  let sizebytes := header.sizebytes
  let payload_type := header.payload_type
  if payload_type.is_open then
    if sizebytes ≠ sizeof_open_send_data then refuse pchan.rx sizebytes luck.alloc .ENODEV
    else dispatch pchan.rx luck payload_type sizebytes
  else
    match hab_vchan_get pchan header with
    | none => refuse pchan.rx sizebytes luck.alloc .EINVAL
    | some _ =>
      if luck.stopped then refuse pchan.rx sizebytes luck.alloc .ENODEV
      else dispatch pchan.rx luck payload_type sizebytes

/-! ## Reading the payload -/

/-- The read end has moved on by `n` bytes. -/
structure Advanced (rx rx' : Rx) (n : ℕ) : Prop where
  rd_count : rx'.sh_buf.rd_count = rx.sh_buf.rd_count + .ofNat n
  index : rx'.index.toNat = (rx.index.toNat + n) % rx.sh_buf.size.toNat

/-- The index is inside the pipe, and no more is there than fits. -/
structure Rx.WellFormed (rx : Rx) : Prop where
  index : rx.index.toNat < rx.sh_buf.size.toNat
  avail : rx.sh_buf.avail.toNat ≤ rx.sh_buf.size.toNat

section

variable {rx : Rx} (hrx : rx.WellFormed) {n : ℕ}

include hrx

lemma advanced_self_iff (hn : n < 2 ^ 32) : Advanced rx rx n ↔ n = 0 := by
  constructor
  · intro h
    have hcount := congrArg UInt32.toNat h.rd_count
    rw [UInt32.toNat_add, UInt32.toNat_ofNat', Nat.mod_eq_of_lt hn] at hcount
    omega
  · rintro rfl
    refine ⟨(UInt32.add_zero _).symm, ?_⟩
    rw [add_zero, Nat.mod_eq_of_lt hrx.index]

lemma physical_channel_read_spec (havail : n ≤ rx.sh_buf.avail.toNat) :
    (physical_channel_read rx n).1.length = n ∧ Advanced rx (physical_channel_read rx n).2 n := by
  have hlt := rx.sh_buf.avail.toNat_lt
  have hn : (UInt32.ofNat n).toNat = n := by rw [UInt32.toNat_ofNat', Nat.mod_eq_of_lt (by omega)]
  by_cases hzero : n = 0
  · subst hzero
    have hnone : hab_pipe_read_copy rx.index rx.sh_buf (.ofNat 0) = none := if_pos (.inr rfl)
    have hread : physical_channel_read rx 0 = ([], rx) := by
      simp only [physical_channel_read, hab_pipe_read, hnone]
    rw [hread]
    exact ⟨rfl, (advanced_self_iff hrx (by omega)).mpr rfl⟩
  · have hpos : UInt32.ofNat n ≠ 0 := by
      intro h
      rw [h] at hn
      exact hzero hn.symm
    have hwf := hrx.avail
    obtain ⟨c, hc, hp, hindex, hcount⟩ := hab_pipe_read_copy_spec hpos hrx.index
      (by rw [hn]; exact havail) (by omega)
    have hread : physical_channel_read rx n =
        (c.p, ⟨{ rx.sh_buf with rd_count := rx.sh_buf.rd_count + c.count }, c.index⟩) := by
      simp only [physical_channel_read, hab_pipe_read, hc, hab_pipe_read_commit, Bool.false_and,
        Bool.false_eq_true, if_false]
      rfl
    rw [hn] at hp hindex
    rw [hread, hcount]
    exact ⟨by rw [hp, length_wrapLoad], rfl, hindex⟩

end

/-! ## Branches

A branch reads the payload or leaves it. Where an allocation fails, where an
acknowledgement is too long, where a message to close a channel has a payload and where the
type is not known, it is left. -/

section

variable {rx : Rx} {n : ℕ} (alloc : Bool)

def branch_reads (payload_type : PayloadType) (n : ℕ) (alloc : Bool) : Bool :=
  match payload_type with
  | .CLOSE | .unknown => false
  | .INIT_CANCEL => true
  | .EXPORT_ACK => alloc && n ≤ sizeof_export_ack
  | _ => alloc

lemma rx_open_request_add (request_type : PayloadType) :
    (open_request_add rx n alloc request_type).rx =
      if alloc = true then (physical_channel_read rx n).2 else rx := by
  cases alloc with
  | true =>
    simp only [open_request_add, if_true]
    split <;> rfl
  | false => rfl

lemma rx_receive_export :
    (receive_export rx n alloc).rx =
      if alloc = true then (physical_channel_read rx n).2 else rx := by
  cases alloc with
  | true =>
    simp only [receive_export, if_true]
    split <;> rfl
  | false => rfl

lemma rx_create_export_ack :
    (hab_receive_create_export_ack rx n alloc).rx =
      if (alloc && n ≤ sizeof_export_ack) = true then (physical_channel_read rx n).2 else rx := by
  cases alloc with
  | true =>
    simp only [hab_receive_create_export_ack, if_true, Bool.true_and, decide_eq_true_eq]
    by_cases hbig : n > sizeof_export_ack
    · rw [if_pos hbig, if_neg (not_le.mpr hbig)]
    · rw [if_neg hbig, if_pos (not_lt.mp hbig)]
      split <;> rfl
  | false => rfl

/-- **What a branch does to the pipe**: it reads the payload or leaves it. -/
theorem rx_dispatch (luck : Luck) (payload_type : PayloadType) :
    (dispatch rx luck payload_type n).rx =
      if branch_reads payload_type n luck.alloc = true then (physical_channel_read rx n).2
      else rx := by
  cases payload_type with
  | MSG | SCHE_RESULT_REQ | SCHE_RESULT_RSP | PROFILE | SCHE_MSG | SCHE_MSG_ACK =>
    cases h : luck.alloc <;> simp [dispatch, branch_reads, hab_msg_alloc_queue, h]
  | INIT | INIT_ACK | INIT_DONE => exact rx_open_request_add ..
  | INIT_CANCEL =>
    simp only [dispatch, open_receive_cancel]
    split <;> rfl
  | EXPORT => exact rx_receive_export ..
  | EXPORT_ACK => exact rx_create_export_ack ..
  | CLOSE | unknown => rfl

end

/-! ## Frames -/

def takes_payload (pchan : Pchan) (luck : Luck) (header : Header) : Bool :=
  let sizebytes := header.sizebytes
  let payload_type := header.payload_type
  if payload_type.is_open then
    if sizebytes ≠ sizeof_open_send_data then luck.alloc
    else branch_reads payload_type sizebytes luck.alloc
  else if (hab_vchan_get pchan header).isNone || luck.stopped then luck.alloc
  else branch_reads payload_type sizebytes luck.alloc

section

variable {rx : Rx} (hrx : rx.WellFormed) {n : ℕ} (hn : n < 2 ^ 16)
  (havail : n ≤ rx.sh_buf.avail.toNat)

include hrx hn havail

lemma advanced_refuse_iff (alloc : Bool) (ret : Ret) :
    Advanced rx (refuse rx n alloc ret).rx n ↔ n = 0 ∨ alloc = true := by
  by_cases hzero : n = 0
  · simp only [refuse, hzero, ne_eq, not_true_eq_false, if_false, true_or, iff_true]
    exact (advanced_self_iff hrx (by omega)).mpr rfl
  · cases alloc with
    | true =>
      simp only [refuse, hzero, ne_eq, not_false_eq_true, if_true, hab_msg_drop, or_true, iff_true]
      exact (physical_channel_read_spec hrx havail).2
    | false =>
      simp only [refuse, hzero, ne_eq, not_false_eq_true, if_true, hab_msg_drop,
        Bool.false_eq_true, if_false, or_false]
      exact (advanced_self_iff hrx (by omega)).trans (iff_false_intro hzero)

lemma advanced_dispatch_iff (luck : Luck) (payload_type : PayloadType) :
    Advanced rx (dispatch rx luck payload_type n).rx n ↔
      n = 0 ∨ branch_reads payload_type n luck.alloc = true := by
  rw [rx_dispatch]
  split_ifs with hreads
  · exact iff_of_true (physical_channel_read_spec hrx havail).2 (.inr hreads)
  · rw [advanced_self_iff hrx (by omega), or_iff_left hreads]

end

/-- **Receiving stays in frame** exactly when the payload is empty, or read or dropped. -/
theorem recv_in_frame_iff (pchan : Pchan) (luck : Luck) (header : Header)
    (hrx : pchan.rx.WellFormed) (havail : header.sizebytes ≤ pchan.rx.sh_buf.avail.toNat) :
    Advanced pchan.rx (hab_msg_recv pchan luck header).rx header.sizebytes ↔
      header.sizebytes = 0 ∨ takes_payload pchan luck header = true := by
  have hn := header.sizebytes_lt
  have hrefuse := advanced_refuse_iff hrx hn havail luck.alloc
  have hdispatch := advanced_dispatch_iff hrx hn havail luck header.payload_type
  simp only [hab_msg_recv, takes_payload]
  by_cases hopen : header.payload_type.is_open = true
  · rw [if_pos hopen, if_pos hopen]
    by_cases hsize : header.sizebytes ≠ sizeof_open_send_data
    · rw [if_pos hsize, if_pos hsize]
      exact hrefuse _
    · rw [if_neg hsize, if_neg hsize]
      exact hdispatch
  · rw [if_neg hopen, if_neg hopen]
    cases hvchan : hab_vchan_get pchan header with
    | none => exact hrefuse _
    | some vchan =>
      cases hstopped : luck.stopped with
      | true => exact hrefuse _
      | false => exact hdispatch

def one_channel : Pchan :=
  { vchan_idr := fun id => if id = 1 then some ⟨7, 2, false, false, 1⟩ else none
    rx := ⟨⟨0, 20, 128, fun _ => 0⟩, 0⟩ }

def in_luck : Luck := ⟨true, false, 0, 0, 0⟩

theorem message_in_frame : let header : Header := ⟨0x00100004, 7, HAB_HEAD_SIGNATURE, 1⟩
    Advanced one_channel.rx (hab_msg_recv one_channel in_luck header).rx header.sizebytes :=
  (recv_in_frame_iff one_channel in_luck _ ⟨by decide, by decide⟩ (by decide)).mpr (by decide)

theorem close_leaves_payload : let header : Header := ⟨0x00170004, 7, HAB_HEAD_SIGNATURE, 1⟩
    header.payload_type = .CLOSE ∧ header.sizebytes = 4 ∧
      header.sizebytes ≤ one_channel.rx.sh_buf.avail.toNat ∧
      (hab_msg_recv one_channel in_luck header).ret = .ok ∧
      ¬ Advanced one_channel.rx (hab_msg_recv one_channel in_luck header).rx
        header.sizebytes := by
  refine ⟨by decide, by decide, by decide, by decide, fun h => ?_⟩
  exact absurd h.rd_count (by decide)

end KernelExtra.Hab
