/-
Flow control of one flow between two nodes, `net/qrtr/qrtr.c`.

`qrtr_tx_wait` lets no more than ten messages go. The one that brings the count to five asks for
confirmation; when the receiver reads it, it sends a resume packet, which resets the count and wakes
whoever waits. When `xmit` fails for that message, `qrtr_tx_flow_failed` marks the flow, and the
next message asks again.

Each atomic section of the code is an action; the link delivers what `xmit` accepted, in order.
-/
import KernelExtra.Lib.Run
import KernelExtra.Qrtr.Packet

namespace KernelExtra.Qrtr.Flow

open Function

/-! ## State -/

/-- Where a sending socket is. -/
inductive Phase where
  | idle
  /-- At the top of the loop in `qrtr_tx_wait`; `ret` says whether it may still wait. -/
  | loop (ret : Bool)
  | waiting
  | asleep
  | sending (confirm_rx : Bool)
  | failing
  deriving DecidableEq

structure Message where
  confirm_rx : Bool
  dst : Addr
  deriving DecidableEq

/-- One destination: its flow, the sockets, and packets under way in both directions. -/
structure Link where
  flows : UInt64 → Option TxFlow
  waiters : UInt64 → List ℕ
  phase : ℕ → Phase
  wire : List Message
  rcv_queue : List Message
  resumes : List Addr

def start : Link where
  flows := fun _ => none
  waiters := fun _ => []
  phase := fun _ => .idle
  wire := []
  rcv_queue := []
  resumes := []

/-! ## Actions -/

/-- The steps of sockets, of the link and of the receiver. -/
inductive Act where
  /-- A socket sends; `timeo` says whether it may wait. -/
  | call (sk : ℕ) (timeo alloc : Bool)
  /-- A turn of the loop in `qrtr_tx_wait`. -/
  | turn (sk : ℕ) (alloc : Bool)
  | check (sk : ℕ)
  | timeout (sk : ℕ)
  | signal (sk : ℕ)
  | transmit (sk : ℕ) (pad xmit : Bool)
  | flow_failed (sk : ℕ)
  /-- `qrtr_endpoint_post` at the receiver; `ok` says whether the message is queued. -/
  | deliver (ok : Bool)
  /-- `qrtr_recvmsg`; `ok` says whether a resume packet goes out. -/
  | read (ok : Bool)
  | resume
  deriving DecidableEq

def Link.set_phase (s : Link) (sk : ℕ) (p : Phase) : Link :=
  { s with phase := update s.phase sk p }

def Link.set_flow (s : Link) (key : UInt64) (flow : TxFlow) : Link :=
  { s with flows := update s.flows key (some flow) }

def TxFlow.may_send (flow : TxFlow) : Bool := flow.tx_failed || flow.pending < QRTR_TX_FLOW_HIGH

section

variable (dst : Addr)

def tx_call (s : Link) (sk : ℕ) (timeo alloc : Bool) : Link :=
  match s.flows (flow_key dst) with
  | some _ => s.set_phase sk (.loop timeo)
  | none =>
    if alloc then (s.set_flow (flow_key dst) ⟨0, false⟩).set_phase sk (.loop timeo)
    else s.set_phase sk (.sending true)

def tx_turn (s : Link) (sk : ℕ) (ret alloc : Bool) : Link :=
  match s.flows (flow_key dst) with
  | none => s
  | some flow =>
    if flow.tx_failed then
      (s.set_flow (flow_key dst) { flow with tx_failed := false }).set_phase sk (.sending true)
    else if flow.pending < QRTR_TX_FLOW_HIGH then
      (s.set_flow (flow_key dst) { flow with pending := flow.pending + 1 }).set_phase sk
        (.sending (flow.pending + 1 = QRTR_TX_FLOW_LOW))
    else if ret then s.set_phase sk .waiting
    else if sk ∈ s.waiters (flow_key dst) ∨ !alloc then s.set_phase sk .idle
    else
      { s.set_phase sk .idle with
        waiters := update s.waiters (flow_key dst) (s.waiters (flow_key dst) ++ [sk]) }

def may_go (s : Link) : Bool :=
  match s.flows (flow_key dst) with
  | none => false
  | some flow => TxFlow.may_send flow

def transmit (s : Link) (sk : ℕ) (confirm_rx pad xmit : Bool) : Link :=
  if !pad then s.set_phase sk .idle
  else if xmit then { s.set_phase sk .idle with wire := s.wire ++ [⟨confirm_rx, dst⟩] }
  else s.set_phase sk (if confirm_rx then .failing else .idle)

def tx_flow_failed (s : Link) (sk : ℕ) : Link :=
  match s.flows (failed_key dst) with
  | none => s.set_phase sk .idle
  | some flow => (s.set_flow (failed_key dst) { flow with tx_failed := true }).set_phase sk .idle

end

def deliver (s : Link) (ok : Bool) : Link :=
  match s.wire with
  | [] => s
  | m :: wire =>
    if ok then
      { s with
        wire
        rcv_queue := s.rcv_queue ++ [{ m with dst := ⟨m.dst.sq_node, legacy_port m.dst.sq_port⟩ }] }
    else { s with wire }

def read (s : Link) (ok : Bool) : Link :=
  match s.rcv_queue with
  | [] => s
  | m :: rcv_queue =>
    if m.confirm_rx && ok then { s with rcv_queue, resumes := s.resumes ++ [m.dst] }
    else { s with rcv_queue }

def wake (p : Phase) : Phase := if p = .asleep then .waiting else p

def resume (s : Link) : Link :=
  match s.resumes with
  | [] => s
  | client :: resumes =>
    match s.flows (flow_key client) with
    | none => { s with resumes }
    | some flow =>
      { s.set_flow (flow_key client) { flow with pending := 0 } with
        resumes
        phase := fun sk => wake (s.phase sk)
        waiters := update s.waiters (flow_key client) [] }

def step (dst : Addr) (s : Link) : Act → Link
  | .call sk timeo alloc => if s.phase sk = .idle then tx_call dst s sk timeo alloc else s
  | .turn sk alloc =>
    match s.phase sk with
    | .loop ret => tx_turn dst s sk ret alloc
    | _ => s
  | .check sk =>
    if s.phase sk = .waiting then s.set_phase sk (if may_go dst s then .loop true else .asleep)
    else s
  | .timeout sk =>
    if s.phase sk = .asleep then s.set_phase sk (.loop (may_go dst s)) else s
  | .signal sk =>
    if s.phase sk = .asleep then s.set_phase sk (if may_go dst s then .loop true else .idle) else s
  | .transmit sk pad xmit =>
    match s.phase sk with
    | .sending confirm_rx => transmit dst s sk confirm_rx pad xmit
    | _ => s
  | .flow_failed sk => if s.phase sk = .failing then tx_flow_failed dst s sk else s
  | .deliver ok => deliver s ok
  | .read ok => read s ok
  | .resume => resume s

/-! ## No flow is stranded -/

def Link.pending (dst : Addr) (s : Link) : ℕ :=
  match s.flows (flow_key dst) with
  | none => 0
  | some flow => flow.pending

def Link.tx_failed (dst : Addr) (s : Link) : Bool :=
  match s.flows (flow_key dst) with
  | none => false
  | some flow => flow.tx_failed

/-- A message that asks for confirmation is under way, or a resume packet for the flow. -/
def Confirming (dst : Addr) (phase : ℕ → Phase) (wire rcv_queue : List Message)
    (resumes : List Addr) : Prop :=
  (∃ sk, phase sk = .sending true ∨ phase sk = .failing) ∨ (∃ m ∈ wire, m.confirm_rx = true) ∨
    (∃ m ∈ rcv_queue, m.confirm_rx = true) ∨ ∃ a ∈ resumes, flow_key a = flow_key dst

def Link.Confirming (dst : Addr) (s : Link) : Prop :=
  Flow.Confirming dst s.phase s.wire s.rcv_queue s.resumes

def Link.NoneAsleep (s : Link) : Prop := ∀ sk, s.phase sk ≠ .asleep

/-- **The flow is live**: with five or more messages pending a confirmation is under way or the flow
is marked as failed, and while a socket sleeps a confirmation is under way. -/
def Live (dst : Addr) (s : Link) : Prop :=
  (QRTR_TX_FLOW_LOW ≤ s.pending dst → s.Confirming dst ∨ s.tx_failed dst = true) ∧
    (s.Confirming dst ∨ s.NoneAsleep)

/-- The action loses a confirmation. -/
def Loses (dst : Addr) (s : Link) : Act → Prop
  | .transmit sk pad _ => s.phase sk = .sending true ∧ pad = false
  | .flow_failed sk => s.phase sk = .failing
  | .deliver ok => ok = false ∧ s.wire.head?.any (·.confirm_rx) = true
  | .read ok =>
    s.rcv_queue.head?.any
      (fun m => m.confirm_rx && (!ok || flow_key m.dst ≠ flow_key dst)) = true
  | _ => False

def Besides (dst : Addr) (s : Link) : Act → Prop
  | .transmit sk _ _ | .flow_failed sk =>
    Flow.Confirming dst (update s.phase sk .idle) s.wire s.rcv_queue s.resumes
  | .deliver _ => Flow.Confirming dst s.phase s.wire.tail s.rcv_queue s.resumes
  | .read _ => Flow.Confirming dst s.phase s.wire s.rcv_queue.tail s.resumes
  | _ => True

def Marks (dst : Addr) (s : Link) : Act → Prop
  | .flow_failed _ => failed_key dst = flow_key dst ∧ s.flows (flow_key dst) ≠ none
  | _ => False

/-- The action loses no confirmation, or another is under way, or nobody sleeps and either fewer
than five messages are pending or the flow is marked. -/
def Kept (dst : Addr) (s : Link) (a : Act) : Prop :=
  Loses dst s a → Besides dst s a ∨
    s.NoneAsleep ∧ (s.pending dst < QRTR_TX_FLOW_LOW ∨ s.tx_failed dst = true ∨ Marks dst s a)

end KernelExtra.Qrtr.Flow
