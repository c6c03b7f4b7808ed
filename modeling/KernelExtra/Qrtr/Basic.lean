/-
QRTR, `net/qrtr/qrtr.c`: packet types, addresses and flows.

The counter of a flow sits in a table under a key of 64 bits, made of the destination's node and
port. `qrtr_tx_flow_failed` takes them as `int`, and a port with its top bit set then fills the
upper half of the key with ones.
-/
import Mathlib

namespace KernelExtra.Qrtr

def QRTR_TYPE_DATA : ℕ := 1
def QRTR_TYPE_HELLO : ℕ := 2
def QRTR_TYPE_BYE : ℕ := 3
def QRTR_TYPE_NEW_SERVER : ℕ := 4
def QRTR_TYPE_DEL_SERVER : ℕ := 5
def QRTR_TYPE_DEL_CLIENT : ℕ := 6
def QRTR_TYPE_RESUME_TX : ℕ := 7
def QRTR_TYPE_EXIT : ℕ := 8
def QRTR_TYPE_PING : ℕ := 9
def QRTR_TYPE_NEW_LOOKUP : ℕ := 10
def QRTR_TYPE_DEL_LOOKUP : ℕ := 11
def QRTR_TYPE_DEL_PROC : ℕ := 13

def QRTR_NODE_BCAST : UInt32 := 0xffffffff
def QRTR_PORT_CTRL : UInt32 := 0xfffffffe
def QRTR_PORT_CTRL_LEGACY : UInt32 := 0xffff

/-- What is kept of a packet's header. -/
structure Cb where
  src_node : UInt32
  src_port : UInt32
  dst_node : UInt32
  dst_port : UInt32
  type : ℕ
  confirm_rx : Bool
  deriving DecidableEq

/-- A socket address. -/
structure Addr where
  sq_node : UInt32
  sq_port : UInt32
  deriving DecidableEq

/-! ## Flows -/

def QRTR_TX_FLOW_HIGH : ℕ := 10
def QRTR_TX_FLOW_LOW : ℕ := 5

/-- The flow control of a destination. -/
structure TxFlow where
  pending : ℕ
  tx_failed : Bool
  deriving DecidableEq

def flow_key (dst : Addr) : UInt64 := (dst.sq_node.toUInt64 <<< 32) ||| dst.sq_port.toUInt64

def failed_key (dst : Addr) : UInt64 :=
  (dst.sq_node.toUInt64 <<< 32) ||| ⟨dst.sq_port.toBitVec.signExtend 64⟩

end KernelExtra.Qrtr
