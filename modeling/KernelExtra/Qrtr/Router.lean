/-
The router, `net/qrtr/qrtr.c`: what becomes of a packet.

A packet is put into a socket buffer and handed to a socket, or to the worker of its node, which
forwards it, resets a flow or hands it to a socket. The state has two ledgers: the reference counts,
and for every buffer what was done with it in the end. What the surroundings decide is in `Luck`.
-/
import KernelExtra.Qrtr.Packet

namespace KernelExtra.Qrtr

open Bytes Function

/-! ## State -/

/-- A buffer with a packet. -/
structure Skb where
  id : ℕ
  cb : Cb
  payload : Mem
  len : ℕ
  sk : Option ℕ

/-- How a buffer ends. -/
inductive Fate where
  | freed
  | received (sk : ℕ)
  | queued (node : ℕ)
  | sent (node : ℕ)
  deriving DecidableEq

/-- A socket that waits for a flow. -/
structure Waiter where
  node : ℕ
  key : UInt64
  sk : ℕ
  deriving DecidableEq

/-- Sockets and nodes are numbered; ports, node ids and flows are looked up in tables. -/
structure Router where
  local_nid : UInt32
  ports : UInt32 → Option ℕ
  us : ℕ → Addr
  net_reset : ℕ → Bool
  rcv_queue : ℕ → List Skb
  epts : List ℕ
  node_ids : UInt32 → Option ℕ
  nid : ℕ → UInt32
  net_id : ℕ → UInt32
  ep : ℕ → Bool
  hello_sent : ℕ → ℕ
  hello_rcvd : ℕ → ℕ
  flows : ℕ → UInt64 → Option TxFlow
  waiters : List Waiter
  rx_queue : ℕ → List Skb
  backup_lo : ℕ
  backup_hi : ℕ
  next_skb : ℕ
  sk_ref : ℕ → ℤ
  node_ref : ℕ → ℤ
  fates : List (ℕ × Fate)

/-- Which allocations succeed, and what sockets and links answer. -/
structure Luck where
  alloc : Bool
  waiter_alloc : ℕ → Bool
  clone : ℕ → Bool
  pad : ℕ → Bool
  xmit : ℕ → Bool
  room : ℕ → ℕ → Bool

inductive Errno where
  | EINVAL
  | ENOMEM
  | ENODEV
  | ENOSPC
  | xmit
  deriving DecidableEq

def QRTR_EP_NID_AUTO : UInt32 := 0xffffffff

/-! ## References and buffers -/

def sock_hold (sk : ℕ) (r : Router) : Router :=
  { r with sk_ref := update r.sk_ref sk (r.sk_ref sk + 1) }

def sock_put (sk : ℕ) (r : Router) : Router :=
  { r with sk_ref := update r.sk_ref sk (r.sk_ref sk - 1) }

def qrtr_node_acquire (node : ℕ) (r : Router) : Router :=
  { r with node_ref := update r.node_ref node (r.node_ref node + 1) }

def qrtr_node_release (node : ℕ) (r : Router) : Router :=
  { r with node_ref := update r.node_ref node (r.node_ref node - 1) }

/-- The buffer ends here; more than one end for a buffer shows in the trace. -/
def settle (skb : Skb) (fate : Fate) (r : Router) : Router :=
  { r with fates := r.fates ++ [(skb.id, fate)] }

def kfree_skb (skb : Skb) (r : Router) : Router := settle skb .freed r

def alloc_skb (r : Router) : Router := { r with next_skb := r.next_skb + 1 }

def sock_queue_rcv_skb (luck : Luck) (sk : ℕ) (skb : Skb) (r : Router) : Bool × Router :=
  if luck.room sk (r.rcv_queue sk).length then
    (true, settle skb (.received sk)
      { r with rcv_queue := update r.rcv_queue sk (r.rcv_queue sk ++ [skb]) })
  else (false, r)

def Router.port (r : Router) (port : UInt32) : Option ℕ :=
  r.ports (if port = QRTR_PORT_CTRL then 0 else port)

def qrtr_port_lookup (port : UInt32) (r : Router) : Option ℕ × Router :=
  match r.port port with
  | none => (none, r)
  | some sk => (some sk, sock_hold sk r)

def qrtr_node_lookup (nid : UInt32) (r : Router) : Option ℕ × Router :=
  match r.node_ids nid with
  | none => (none, r)
  | some node => (some node, qrtr_node_acquire node r)

def qrtr_node_assign (node : ℕ) (nid : UInt32) (r : Router) : Router :=
  if nid = r.nid node ∨ nid = QRTR_EP_NID_AUTO then r
  else
    { r with
      node_ids :=
        if r.node_ids nid = none then update r.node_ids nid (some node) else r.node_ids
      nid :=
        if r.nid node = QRTR_EP_NID_AUTO then update r.nid node nid else r.nid }

/-! ## Local delivery -/

/-- `qrtr_local_enqueue`. The error report of a reset sender takes a reference and returns
it. -/
def qrtr_local_enqueue (luck : Luck) (skb : Skb) (src dst : Addr) (r : Router) :
    Except Errno Unit × Router :=
  match qrtr_port_lookup dst.sq_port r with
  | (none, r) =>
    if dst.sq_port = QRTR_PORT_CTRL then (.ok (), kfree_skb skb r)
    else (.error .ENODEV, kfree_skb skb r)
  | (some ipc, r) =>
    if skb.sk = some ipc then (.error .ENODEV, kfree_skb skb r)
    else
      match skb.sk.filter r.net_reset with
      | some sk => (.ok (), kfree_skb skb (sock_put sk (sock_hold sk r)))
      | none =>
        let skb :=
          { skb with cb := { skb.cb with src_node := src.sq_node, src_port := src.sq_port } }
        match sock_queue_rcv_skb luck ipc skb r with
        | (false, r) => (.error .ENOSPC, kfree_skb skb (sock_put ipc r))
        | (true, r) => (.ok (), sock_put ipc r)

/-! ## Sending to a node -/

def qrtr_tx_flow_failed (node : ℕ) (dst : Addr) (r : Router) : Router :=
  match r.flows node (failed_key dst) with
  | none => r
  | some flow =>
    { r with
      flows := update r.flows node
        (update (r.flows node) (failed_key dst) (some { flow with tx_failed := true })) }

/-- The end of `qrtr_node_enqueue`: a failed send marks the flow. -/
def after_xmit (node : ℕ) (skb : Skb) (type : ℕ) (dst : Addr) (sent : Bool) (r : Router) :
    Except Errno Unit × Router :=
  if sent then
    (.ok (), if type = QRTR_TYPE_HELLO then
      { r with hello_sent := update r.hello_sent node (r.hello_sent node + 1) } else r)
  else (.error .xmit, if skb.cb.confirm_rx then qrtr_tx_flow_failed node dst r else r)

/-- For a buffer without owner, which does not wait for its flow. -/
def qrtr_node_enqueue (luck : Luck) (node : ℕ) (skb : Skb) (type : ℕ) (dst : Addr) (r : Router) :
    Except Errno Unit × Router :=
  if r.hello_sent node = 0 ∧ type ≠ QRTR_TYPE_HELLO then (.error .ENODEV, kfree_skb skb r)
  else if r.hello_sent node ≠ 0 ∧ type = QRTR_TYPE_HELLO then (.ok (), kfree_skb skb r)
  else if !luck.pad node then (.error .ENOMEM, kfree_skb skb r)
  else if r.ep node then after_xmit node skb type dst (luck.xmit node) (settle skb (.sent node) r)
  else after_xmit node skb type dst true (kfree_skb skb r)

/-- `abs` of the difference, an `int`, is more than one. -/
def net_apart (dst src : UInt32) : Bool :=
  let d := (dst - src).toBitVec.toInt
  d ≠ -2 ^ 31 && decide (1 < d.natAbs)

def qrtr_must_forward (r : Router) (src dst : ℕ) (type : ℕ) : Bool :=
  if type = QRTR_TYPE_HELLO ∨ type = QRTR_TYPE_RESUME_TX then false
  else if dst = src ∨ r.nid dst = QRTR_EP_NID_AUTO then false
  else net_apart (r.net_id dst) (r.net_id src)

def fwd_loop (luck : Luck) (src : ℕ) (skb : Skb) : List ℕ → Router → Router
  | [], r => r
  | node :: rest, r =>
    if !qrtr_must_forward r src node skb.cb.type then fwd_loop luck src skb rest r
    else if !luck.clone node then r
    else
      let skbn := { skb with id := r.next_skb, sk := none }
      fwd_loop luck src skb rest
        (qrtr_node_enqueue luck node skbn skb.cb.type ⟨r.nid node, QRTR_PORT_CTRL⟩
          (alloc_skb r)).2

/-- A control packet goes to all nodes that must have it. -/
def qrtr_fwd_ctrl_pkt (luck : Luck) (src : ℕ) (skb : Skb) (r : Router) : Router :=
  fwd_loop luck src skb r.epts r

def qrtr_fwd_pkt (luck : Luck) (skb : Skb) (r : Router) : Router :=
  match qrtr_node_lookup skb.cb.dst_node r with
  | (none, r) => kfree_skb skb r
  | (some node, r) =>
    qrtr_node_release node
      (qrtr_node_enqueue luck node skb skb.cb.type ⟨skb.cb.dst_node, skb.cb.dst_port⟩ r).2

/-! ## Flow control messages -/

def Skb.ctrl_pkt (skb : Skb) : Mem := if skb.len < ctrl_pkt_size then fun _ => 0 else skb.payload

def Skb.client (skb : Skb) : Addr := ⟨le32 skb.ctrl_pkt 4, le32 skb.ctrl_pkt 8⟩

def wake_skb (id : ℕ) : Skb where
  id := id
  cb := ⟨0, 0, 0, 0, 0, false⟩
  payload := fun _ => 0
  len := 0
  sk := none

/-- A socket that waits is woken, if there is memory, and its reference dropped. -/
def resume_waiter (luck : Luck) (src : Addr) (r : Router) (w : Waiter) : Router :=
  sock_put w.sk
    (if luck.waiter_alloc w.sk then
      (qrtr_local_enqueue luck (wake_skb r.next_skb) src (r.us w.sk) (alloc_skb r)).2
    else r)

/-- `qrtr_tx_resume`. The waiters leave their list in one go: it is locked meanwhile. -/
def qrtr_tx_resume (luck : Luck) (node : ℕ) (skb : Skb) (r : Router) : Router :=
  if le skb.ctrl_pkt 0 4 ≠ QRTR_TYPE_RESUME_TX then r
  else
    let key := flow_key skb.client
    match r.flows node key with
    | none => r
    | some flow =>
      let woken := r.waiters.filter fun w => w.node = node ∧ w.key = key
      let r := { r with
        flows := update r.flows node
          (update (r.flows node) key (some { flow with pending := 0 }))
        waiters := r.waiters.filter fun w => ¬ (w.node = node ∧ w.key = key) }
      kfree_skb skb (woken.foldl (resume_waiter luck skb.client) r)

def resume_skb (id : ℕ) (cb : Cb) : Skb where
  id := id
  cb := ⟨0, 0, 0, 0, 0, false⟩
  payload := fun off =>
    if off < 4 then (if off = 0 then UInt8.ofNat QRTR_TYPE_RESUME_TX else 0)
    else if off < 8 then (cb.dst_node >>> UInt32.ofNat (8 * (off - 4))).toUInt8
    else (cb.dst_port >>> UInt32.ofNat (8 * (off - 8))).toUInt8
  len := ctrl_pkt_size
  sk := none

/-- The answer to a packet that asks for confirmation. -/
def qrtr_send_resume_tx (luck : Luck) (cb : Cb) (r : Router) : Except Errno Unit × Router :=
  match qrtr_node_lookup cb.src_node r with
  | (none, r) => (.error .EINVAL, r)
  | (some node, r) =>
    if !luck.alloc then (.error .ENOMEM, r)
    else
      let (ret, r) := qrtr_node_enqueue luck node (resume_skb r.next_skb cb) QRTR_TYPE_RESUME_TX
        ⟨cb.src_node, cb.src_port⟩ (alloc_skb r)
      (ret, qrtr_node_release node r)

/-! ## The worker -/

def qrtr_sock_queue_skb (luck : Luck) (node : ℕ) (skb : Skb) (ipc : ℕ) (r : Router) : Router :=
  if skb.cb.type = QRTR_TYPE_HELLO ∧ r.hello_rcvd node ≠ 0 then kfree_skb skb r
  else
    let r := if skb.cb.type = QRTR_TYPE_HELLO then
      { r with hello_rcvd := update r.hello_rcvd node (r.hello_rcvd node + 1) } else r
    match sock_queue_rcv_skb luck ipc skb r with
    | (true, r) => r
    | (false, r) => kfree_skb skb r

/-- The work on a packet from the queue of its node: it is forwarded, resumes a flow or is
delivered. -/
def qrtr_node_rx_work (luck : Luck) (node : ℕ) (skb : Skb) (r : Router) : Router :=
  let r := if skb.cb.type ≠ QRTR_TYPE_DATA then qrtr_fwd_ctrl_pkt luck node skb r else r
  if skb.cb.type = QRTR_TYPE_RESUME_TX then
    if skb.cb.dst_node ≠ r.local_nid then qrtr_fwd_pkt luck skb r
    else qrtr_tx_resume luck node skb r
  else if skb.cb.dst_node ≠ r.local_nid ∧ skb.cb.type = QRTR_TYPE_DATA then qrtr_fwd_pkt luck skb r
  else
    match qrtr_port_lookup skb.cb.dst_port r with
    | (none, r) => kfree_skb skb r
    | (some ipc, r) => sock_put ipc (qrtr_sock_queue_skb luck node skb ipc r)

/-! ## Arrival -/

def QRTR_BACKUP_LO_SIZE : ℕ := 0x400
def QRTR_BACKUP_HI_SIZE : ℕ := 0x4000

def get_skb (luck : Luck) (len : ℕ) (r : Router) : Option Router :=
  if luck.alloc then some (alloc_skb r)
  else if len < QRTR_BACKUP_LO_SIZE then
    if r.backup_lo = 0 then none else some (alloc_skb { r with backup_lo := r.backup_lo - 1 })
  else if len < QRTR_BACKUP_HI_SIZE then
    if r.backup_hi = 0 then none else some (alloc_skb { r with backup_hi := r.backup_hi - 1 })
  else none

/-- What a call of `qrtr_endpoint_post` does. -/
structure Post where
  ret : Except Errno Unit
  router : Router
  reads : List Access
  stored : Option Parsed

def Parsed.skb (p : Parsed) (data : Mem) (id : ℕ) : Skb where
  id := id
  cb := p.cb
  payload := fun off => data (p.hdrlen + off)
  len := p.size
  sk := none

/-- Where a packet goes that has been parsed. -/
def dispatch (luck : Luck) (node : ℕ) (skb : Skb) (r : Router) : Except Errno Unit × Router :=
  if skb.cb.type ≠ QRTR_TYPE_DATA ∨ skb.cb.dst_node ≠ r.local_nid then
    (.ok (), settle skb (.queued node)
      { r with rx_queue := update r.rx_queue node (r.rx_queue node ++ [skb]) })
  else
    match qrtr_port_lookup skb.cb.dst_port r with
    | (none, r) => (.error .ENODEV, kfree_skb skb r)
    | (some ipc, r) =>
      match sock_queue_rcv_skb luck ipc skb r with
      | (false, r) => (.error .EINVAL, kfree_skb skb r)
      | (true, r) => (.ok (), sock_put ipc r)

/-- The reads of `qrtr_endpoint_post` in an accepted packet. -/
def Parsed.reads (p : Parsed) : List Access :=
  ⟨p.hdrlen, p.size⟩ ::
    if p.cb.type = QRTR_TYPE_NEW_SERVER then [⟨p.hdrlen + server_node_off, 4⟩] else []

/-- A packet from a transport: it is parsed, copied and dispatched. -/
def qrtr_endpoint_post (luck : Luck) (node : ℕ) (data : Mem) (len : ℕ) (r : Router) : Post :=
  if len = 0 ∨ len % 4 ≠ 0 then ⟨.error .EINVAL, r, [], none⟩
  else
    match get_skb luck len r with
    | none => ⟨.error .ENOMEM, r, [], none⟩
    | some r' =>
      match accepted data len with
      | none =>
        let skb : Skb := ⟨r.next_skb, ⟨0, 0, 0, 0, 0, false⟩, fun _ => 0, 0, none⟩
        ⟨.error .EINVAL, kfree_skb skb r', hdr_reads data len, none⟩
      | some p =>
        let r' := qrtr_node_assign node p.cb.src_node r'
        let r' := if p.cb.type = QRTR_TYPE_NEW_SERVER then
          qrtr_node_assign node (le32 data (p.hdrlen + server_node_off)) r' else r'
        let (ret, r') := dispatch luck node (p.skb data r.next_skb) r'
        ⟨ret, r', hdr_reads data len ++ p.reads, some p⟩

/-! ## What arrival reads -/

/-- **A packet of `len` bytes is parsed safely**: only these are read, and if it is accepted, its
payload fits behind the header and `qrtr_peek_pkt_size` knows its length. -/
def ParsedSafely (luck : Luck) (node : ℕ) (data : Mem) (len : ℕ) (r : Router) : Prop :=
  (∀ a ∈ (qrtr_endpoint_post luck node data len r).reads, a.Inside len) ∧
    ∀ p, (qrtr_endpoint_post luck node data len r).stored = some p →
      p.size ≤ len - p.hdrlen ∧ qrtr_peek_pkt_size data = (len : ℤ)

lemma reads_inside_iff {data : Mem} {len : ℕ} {p : Parsed} (h : accepted data len = some p) :
    (∀ a ∈ p.reads, a.Inside len) ↔ (p.cb.type = QRTR_TYPE_NEW_SERVER → 12 < p.size) := by
  obtain ⟨hlen, hle, hup, hmod⟩ := accepted_len h
  have hpayload : (⟨p.hdrlen, p.size⟩ : Access).Inside len := by
    change p.hdrlen + p.size ≤ len
    omega
  have hserver : (⟨p.hdrlen + server_node_off, 4⟩ : Access).Inside len ↔ 12 < p.size := by
    change p.hdrlen + 12 + 4 ≤ len ↔ 12 < p.size
    omega
  rw [Parsed.reads, List.forall_mem_cons, and_iff_right hpayload]
  split
  · rename_i htype
    rw [List.forall_mem_singleton, hserver]
    exact ⟨fun hsize _ => hsize, fun hsize => hsize htype⟩
  · rename_i htype
    simp [htype]

/-- **Packets are parsed safely unless they announce a server they have no room for.** -/
theorem endpoint_post_safe_iff (luck : Luck) (node : ℕ) (data : Mem) (len : ℕ) (r : Router) :
    ParsedSafely luck node data len r ↔
      (len = 0 ∨ len % 4 ≠ 0) ∨ get_skb luck len r = none ∨
        ∀ p, accepted data len = some p →
          len < 2 ^ 31 ∧ (p.cb.type = QRTR_TYPE_NEW_SERVER → 12 < p.size) := by
  unfold ParsedSafely qrtr_endpoint_post
  by_cases hlen : len = 0 ∨ len % 4 ≠ 0
  · simp [hlen]
  have hpos : 0 < len := by omega
  cases hskb : get_skb luck len r with
  | none => simp [hlen]
  | some r' =>
    have hhdr := hdr_reads_inside data hpos
    cases hacc : accepted data len with
    | none =>
      simp only [if_neg hlen]
      refine iff_of_true ⟨hhdr, fun p hp => by cases hp⟩ (.inr (.inr fun p hp => by cases hp))
    | some p =>
      have hreads := reads_inside_iff hacc
      have hpeek := peek_eq_iff_of_parse (accepted_eq_some hacc).1 (accepted_len hacc).1
      obtain ⟨heq, hle, -, -⟩ := accepted_len hacc
      have hfits : p.size ≤ len - p.hdrlen := by omega
      rw [if_neg hlen]
      simp only [hlen, List.forall_mem_append, false_or, reduceCtorEq, Option.some.injEq,
        forall_eq', hreads, hpeek]
      constructor
      · rintro ⟨⟨-, hserver⟩, -, hshort⟩
        exact ⟨hshort, hserver⟩
      · rintro ⟨hshort, hserver⟩
        exact ⟨⟨hhdr, hserver⟩, hfits, hshort⟩

def short_server : Mem := fun off =>
  if off = 0 then 1 else if off = 4 then 4 else if off = 28 then 0xfe
  else if 29 ≤ off ∧ off < 32 then 0xff else 0

def empty_router : Router where
  local_nid := 1
  ports := fun _ => none
  us := fun _ => ⟨0, 0⟩
  net_reset := fun _ => false
  rcv_queue := fun _ => []
  epts := []
  node_ids := fun _ => none
  nid := fun _ => QRTR_EP_NID_AUTO
  net_id := fun _ => 0
  ep := fun _ => true
  hello_sent := fun _ => 1
  hello_rcvd := fun _ => 0
  flows := fun _ _ => none
  waiters := []
  rx_queue := fun _ => []
  backup_lo := 0
  backup_hi := 0
  next_skb := 0
  sk_ref := fun _ => 1
  node_ref := fun _ => 1
  fates := []

def fair_luck : Luck := ⟨true, fun _ => true, fun _ => true, fun _ => true, fun _ => true,
  fun _ _ => true⟩

/-- **A `NEW_SERVER` message of 32 bytes** is accepted, and its node is read from the twelve
to sixteen bytes behind its end. -/
theorem short_server_overread :
    (qrtr_endpoint_post fair_luck 0 short_server 32 empty_router).reads =
        [⟨0, 1⟩, ⟨0, 32⟩, ⟨32, 0⟩, ⟨44, 4⟩] ∧
      ¬ ParsedSafely fair_luck 0 short_server 32 empty_router := by
  have hreads : (qrtr_endpoint_post fair_luck 0 short_server 32 empty_router).reads =
      [⟨0, 1⟩, ⟨0, 32⟩, ⟨32, 0⟩, ⟨44, 4⟩] := by decide +kernel
  refine ⟨hreads, fun h => ?_⟩
  have := h.1
  exact absurd this (by decide)

end KernelExtra.Qrtr
