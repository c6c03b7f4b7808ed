/-
QRTR packets, `net/qrtr/qrtr.c`.

Two functions read the header of a packet, `qrtr_peek_pkt_size` with 32 bits and an `int` result,
and `qrtr_endpoint_post` with `size_t`.
-/
import KernelExtra.Lib.Bytes
import KernelExtra.Qrtr.Basic

namespace KernelExtra.Qrtr

open Bytes

/-! ## Headers -/

def QRTR_PROTO_VER_1 : ℕ := 1
def QRTR_PROTO_VER_2 : ℕ := 3

def hdr_v1_size : ℕ := 32

def hdr_v2_size : ℕ := 16

def ctrl_pkt_size : ℕ := 20

def le32 (mem : Mem) (off : ℕ) : UInt32 := UInt32.ofNat (le mem off 4)

def le16 (mem : Mem) (off : ℕ) : UInt32 := UInt32.ofNat (le mem off 2)

def qrtr_peek_pkt_size (data : Mem) : ℤ :=
  let ver := le data 0 1
  if ver = QRTR_PROTO_VER_1 then
    int32 (align4 32 (le data 20 4) + hdr_v1_size)
  else if ver = QRTR_PROTO_VER_2 then
    int32 (align4 32 (le data 4 4) + (hdr_v2_size + le data 3 1))
  else -22

/-- What the parser takes from a packet. -/
structure Parsed where
  cb : Cb
  hdrlen : ℕ
  size : ℕ
  deriving DecidableEq

def widen_port (port : UInt32) : UInt32 := if port = 0xfffe then QRTR_PORT_CTRL else port

def legacy_port (port : UInt32) : UInt32 :=
  if port = QRTR_PORT_CTRL_LEGACY then QRTR_PORT_CTRL else port

def parse_v1 (data : Mem) : Parsed where
  cb :=
    { type := le data 4 4 % 256
      src_node := le32 data 8
      src_port := le32 data 12
      confirm_rx := le data 16 4 ≠ 0
      dst_node := le32 data 24
      dst_port := legacy_port (le32 data 28) }
  hdrlen := hdr_v1_size
  size := le data 20 4

def parse_v2 (data : Mem) : Parsed where
  cb :=
    { type := le data 1 1
      confirm_rx := le data 2 1 % 2 = 1
      src_node := le16 data 8
      src_port := widen_port (le16 data 10)
      dst_node := le16 data 12
      dst_port := legacy_port (widen_port (le16 data 14)) }
  hdrlen := hdr_v2_size + le data 3 1
  size := le data 4 4

def parse_hdr (data : Mem) (len : ℕ) : Option Parsed :=
  let ver := le data 0 1
  if ver = QRTR_PROTO_VER_1 then
    if len < hdr_v1_size then none else some (parse_v1 data)
  else if ver = QRTR_PROTO_VER_2 then
    if len < hdr_v2_size then none else some (parse_v2 data)
  else none

def hdr_reads (data : Mem) (len : ℕ) : List Access :=
  let ver := le data 0 1
  if ver = QRTR_PROTO_VER_1 ∧ hdr_v1_size ≤ len then [⟨0, 1⟩, ⟨0, hdr_v1_size⟩]
  else if ver = QRTR_PROTO_VER_2 ∧ hdr_v2_size ≤ len then [⟨0, 1⟩, ⟨0, hdr_v2_size⟩]
  else [⟨0, 1⟩]

/-- The checks on the header. -/
def Parsed.valid (p : Parsed) (len : ℕ) : Bool :=
  len = align4 64 p.size + p.hdrlen &&
    !(p.cb.dst_port ≠ QRTR_PORT_CTRL && p.cb.type ≠ QRTR_TYPE_DATA &&
      p.cb.type ≠ QRTR_TYPE_RESUME_TX)

def accepted (data : Mem) (len : ℕ) : Option Parsed :=
  (parse_hdr data len).filter (·.valid len)

def server_node_off : ℕ := 12

/-! ## What an accepted packet looks like -/

variable {data : Mem} {len : ℕ} {p : Parsed}

lemma accepted_eq_some (h : accepted data len = some p) :
    parse_hdr data len = some p ∧ p.valid len = true :=
  Option.filter_eq_some_iff.mp h

lemma parse_hdr_cases (h : parse_hdr data len = some p) :
    (le data 0 1 = QRTR_PROTO_VER_1 ∧ hdr_v1_size ≤ len ∧ p = parse_v1 data) ∨
      (le data 0 1 = QRTR_PROTO_VER_2 ∧ hdr_v2_size ≤ len ∧ p = parse_v2 data) := by
  simp only [parse_hdr] at h
  split at h
  · rename_i hver
    split at h
    · cases h
    · exact .inl ⟨hver, by omega, (Option.some.inj h).symm⟩
  · split at h
    · rename_i hver
      split at h
      · cases h
      · exact .inr ⟨hver, by omega, (Option.some.inj h).symm⟩
    · cases h

lemma parse_hdr_size_lt (h : parse_hdr data len = some p) : p.size < 2 ^ 32 := by
  obtain ⟨-, -, rfl⟩ | ⟨-, -, rfl⟩ := parse_hdr_cases h
  · exact le_lt data 20 4
  · exact le_lt data 4 4

lemma accepted_len (h : accepted data len = some p) :
    len = align4 64 p.size + p.hdrlen ∧ p.size ≤ align4 64 p.size ∧
      align4 64 p.size ≤ p.size + 3 ∧ align4 64 p.size % 4 = 0 := by
  obtain ⟨hparse, hvalid⟩ := accepted_eq_some h
  have hlt := parse_hdr_size_lt hparse
  rw [Parsed.valid, Bool.and_eq_true, decide_eq_true_iff] at hvalid
  exact ⟨hvalid.1, align4_eq (by omega)⟩

lemma align4_mod (x : ℕ) (h : x < 2 ^ 32) : align4 32 x % 2 ^ 32 = align4 64 x % 2 ^ 32 := by
  unfold align4
  omega

lemma peek_eq_iff_of_parse
    (hparse : parse_hdr data len = some p) (hlen : len = align4 64 p.size + p.hdrlen) :
    qrtr_peek_pkt_size data = (len : ℤ) ↔ len < 2 ^ 31 := by
  have hlt := parse_hdr_size_lt hparse
  have hmod := align4_mod p.size hlt
  obtain ⟨hver, -, rfl⟩ | ⟨hver, -, rfl⟩ := parse_hdr_cases hparse
  · rw [qrtr_peek_pkt_size, if_pos hver]
    refine int32_eq_iff _ _ ?_
    rw [hlen, Nat.add_mod, show le data 20 4 = (parse_v1 data).size from rfl, hmod, ← Nat.add_mod]
    rfl
  · have hne : le data 0 1 ≠ QRTR_PROTO_VER_1 := by
      rw [hver]
      decide
    simp only [qrtr_peek_pkt_size]
    rw [if_neg hne, if_pos hver]
    refine int32_eq_iff _ _ ?_
    rw [hlen, Nat.add_mod, show le data 4 4 = (parse_v2 data).size from rfl, hmod, ← Nat.add_mod]
    rfl

lemma peek_congr {data' : Mem} {n : ℕ} (h : ∀ i < n, data i = data' i) (hn : 8 ≤ n)
    (hn1 : le data 0 1 = QRTR_PROTO_VER_1 → 24 ≤ n) :
    qrtr_peek_pkt_size data = qrtr_peek_pkt_size data' := by
  have hle : ∀ off len, off + len ≤ n → le data off len = le data' off len := by
    intro off len hlen
    exact le_congr fun i hi => h _ (by omega)
  have hver := hle 0 1 (by omega)
  simp only [qrtr_peek_pkt_size]
  by_cases h1 : le data 0 1 = QRTR_PROTO_VER_1
  · have h1' : le data' 0 1 = QRTR_PROTO_VER_1 := hver ▸ h1
    rw [if_pos h1, if_pos h1', hle 20 4 (by omega)]
  · have h1' : ¬ le data' 0 1 = QRTR_PROTO_VER_1 := hver ▸ h1
    rw [if_neg h1, if_neg h1', hver, hle 4 4 (by omega), hle 3 1 (by omega)]

lemma hdr_reads_inside (data : Mem) (hlen : 0 < len) : ∀ a ∈ hdr_reads data len, a.Inside len := by
  have hbyte : (⟨0, 1⟩ : Access).Inside len := by
    change 0 + 1 ≤ len
    omega
  simp only [hdr_reads]
  split
  · rename_i h
    simp only [List.mem_cons, List.not_mem_nil, or_false, forall_eq_or_imp, forall_eq]
    exact ⟨hbyte, (zero_add _).trans_le h.2⟩
  · split
    · rename_i h
      simp only [List.mem_cons, List.not_mem_nil, or_false, forall_eq_or_imp, forall_eq]
      exact ⟨hbyte, (zero_add _).trans_le h.2⟩
    · simpa using hbyte

end KernelExtra.Qrtr
