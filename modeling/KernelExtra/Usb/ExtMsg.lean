/-
USB Power Delivery: extended messages in chunks (`drivers/usb/pd/policy_engine.c`).

`pd_send_ext_msg` sends a message of at most 260 bytes in chunks of 26, and waits after each for
the partner to request the next one; `pd_ext_msg_received` puts the chunks together again. How the
writes of the phy, the waits and the allocations end is a parameter.

The chunks are numbered and measured correctly on both sides, but the sender copies each of them
from the start of the message: `queued_eq_sent_iff` says which messages survive that.
-/
import KernelExtra.Lib.Bytes

namespace KernelExtra.Usb

open Bytes List

def PD_MAX_EXT_MSG_LEN : ℕ := 260

def PD_MAX_EXT_MSG_LEGACY_LEN : ℕ := 26

def PD_MSG_HDR (type dr pr id cnt rev : ℕ) : ℕ :=
  type % 32 + dr * 2 ^ 5 + rev * 2 ^ 6 + pr * 2 ^ 8 + id * 2 ^ 9 + cnt * 2 ^ 12

def PD_MSG_HDR_EXTENDED : ℕ := 2 ^ 15

def PD_MSG_EXT_HDR (chunked num req size : ℕ) : ℕ :=
  chunked * 2 ^ 15 + num % 16 * 2 ^ 11 + req * 2 ^ 10 + size % 512

def PD_MSG_EXT_HDR_IS_CHUNKED (ehdr : ℕ) : Bool := ehdr / 2 ^ 15 % 2 = 1

def PD_MSG_EXT_HDR_CHUNK_NUM (ehdr : ℕ) : ℕ := ehdr / 2 ^ 11 % 16

def PD_MSG_EXT_HDR_REQ_CHUNK (ehdr : ℕ) : Bool := ehdr / 2 ^ 10 % 2 = 1

def PD_MSG_EXT_HDR_DATA_SIZE (ehdr : ℕ) : ℕ := ehdr % 512

inductive Sop
  | SOP_MSG
  | SOPI_MSG
  | SOPII_MSG
  deriving DecidableEq

/-- A message that arrives in chunks. -/
structure RxMsg where
  hdr : ℕ
  data_len : ℕ
  payload : Mem

def RxMsg.bytes (m : RxMsg) : List UInt8 := load m.payload 0 m.data_len

/-- A request for the next chunk. -/
structure RequestChunk where
  msg_type : ℕ
  chunk_num : ℕ
  sop : Sop

/-- What the protocol layer keeps. -/
structure Usbpd where
  current_dr : ℕ
  current_pr : ℕ
  spec_rev : ℕ
  tx_msgid : Sop → ℕ
  next_tx_chunk : ℕ
  rx_ext_msg : Option RxMsg

/-- What comes of a received message: nothing, the completion `tx_chunk_request`, work that asks
for the next chunk, or a message for the policy engine. -/
inductive Heard
  | nothing
  | complete
  | request (req : RequestChunk)
  | queue (rx_msg : RxMsg)

/-- The part of `pd_ext_msg_received` after `rx_msg` has been found or allocated. -/
def Usbpd.copy_chunk (pd : Usbpd) (header : ℕ) (buf : Mem) (len : ℕ) (sop : Sop)
    (req_alloc : Bool) (chunk_num : ℕ) (rx_msg : RxMsg) : Usbpd × Heard :=
  let rest : ℤ := rx_msg.data_len - chunk_num * PD_MAX_EXT_MSG_LEGACY_LEN
  let bytes_to_copy := (min rest PD_MAX_EXT_MSG_LEGACY_LEN % 2 ^ 16).toNat
  let room := (len + 2 ^ 64 - 2) % 2 ^ 64
  let bytes_to_copy := if bytes_to_copy > room then room % 2 ^ 16 else bytes_to_copy
  let rx_msg :=
    { rx_msg with
      payload := store rx_msg.payload (chunk_num * PD_MAX_EXT_MSG_LEGACY_LEN)
        (load buf 2 bytes_to_copy) }
  if rest > PD_MAX_EXT_MSG_LEGACY_LEN ∧ req_alloc then
    ({ pd with rx_ext_msg := some rx_msg }, .request ⟨header % 32, chunk_num + 1, sop⟩)
  else ({ pd with rx_ext_msg := none }, .queue rx_msg)

/-- `msg_alloc` and `req_alloc` say whether the two allocations succeed. -/
def Usbpd.pd_ext_msg_received (pd : Usbpd) (header : ℕ) (buf : Mem) (len : ℕ) (sop : Sop)
    (msg_alloc req_alloc : Bool) : Usbpd × Heard :=
  let ext_hdr := le buf 0 2
  let chunk_num := PD_MSG_EXT_HDR_CHUNK_NUM ext_hdr
  let size := PD_MSG_EXT_HDR_DATA_SIZE ext_hdr
  if ¬ PD_MSG_EXT_HDR_IS_CHUNKED ext_hdr then (pd, .nothing)
  else if PD_MSG_EXT_HDR_REQ_CHUNK ext_hdr then
    if size ≠ 0 ∨ chunk_num ≠ pd.next_tx_chunk then (pd, .nothing) else (pd, .complete)
  else if chunk_num = 0 then
    if msg_alloc then
      pd.copy_chunk header buf len sop req_alloc 0 ⟨header, min size PD_MAX_EXT_MSG_LEN, fun _ => 0⟩
    else (pd, .nothing)
  else
    match pd.rx_ext_msg with
    | none => (pd, .nothing)
    | some rx_msg => pd.copy_chunk header buf len sop req_alloc chunk_num rx_msg

structure Packet where
  hdr : ℕ
  data : List UInt8

/-- The buffer of the phy for a chunk. `data` is the start of the message for every chunk. -/
def fill_chunk (chunked_payload : Mem) (ext_hdr : ℕ) (data : List UInt8) (chunk_len : ℕ) : Mem :=
  store (store chunked_payload 0 (toLe 2 ext_hdr)) 2 (data.take chunk_len)

section

variable (write : ℕ → ℤ) (requested : ℕ → Bool) (msg_type : ℕ) (sop : Sop) (data : List UInt8)

/-- The loop of `pd_send_ext_msg`, with the messages it has written: `write` has the results of
the phy, `requested` those of the waits for the next chunk. -/
def send_chunks (data_len : ℕ) : ℕ → Usbpd → Mem → ℕ → ℤ × Usbpd × List Packet
  | 0, pd, _, _ => (0, pd, [])
  | fuel + 1, pd, chunked_payload, len_remain =>
    let chunk := pd.next_tx_chunk
    let chunk_len := min len_remain PD_MAX_EXT_MSG_LEGACY_LEN
    let chunked_payload :=
      fill_chunk chunked_payload (PD_MSG_EXT_HDR 1 chunk 0 data_len) data chunk_len
    let num_objs := (chunk_len + 2 + 3) / 4
    let hdr := PD_MSG_HDR msg_type pd.current_dr pd.current_pr (pd.tx_msgid sop) num_objs
      pd.spec_rev + PD_MSG_HDR_EXTENDED
    let packet := ⟨hdr, load chunked_payload 0 (num_objs * 4)⟩
    let pd := { pd with next_tx_chunk := (chunk + 1) % 256 }
    if write chunk ≠ 0 then (write chunk, pd, [])
    else
      let pd :=
        { pd with tx_msgid := Function.update pd.tx_msgid sop ((pd.tx_msgid sop + 1) % 8) }
      let len_remain := len_remain - chunk_len
      if len_remain = 0 then (0, pd, [packet])
      else if ¬ requested chunk then (-71, pd, [packet])
      else
        let r := send_chunks data_len fuel pd chunked_payload len_remain
        (r.1, r.2.1, packet :: r.2.2)

def Usbpd.pd_send_ext_msg (pd : Usbpd) : ℤ × Usbpd × List Packet :=
  let data_len := min data.length PD_MAX_EXT_MSG_LEN
  send_chunks write requested msg_type sop data data_len (data_len + 1)
    { pd with next_tx_chunk := 0 } (fun _ => 0) data_len

end

/-- The messages that the peer queues when it gets these ones and has the memory it needs. -/
def Usbpd.hear (sop : Sop) (pd : Usbpd) : List Packet → List RxMsg
  | [] => []
  | p :: l =>
    let r := pd.pd_ext_msg_received p.hdr (p.data.getD · 0) p.data.length sop true true
    match r.2 with
    | .queue rx_msg => rx_msg :: r.1.hear sop l
    | _ => r.1.hear sop l

/-! ## One chunk -/

/-- The message made of copies of the first 26 bytes. -/
def echo (data : List UInt8) (n : ℕ) : List UInt8 := (range n).map fun i => data.getD (i % 26) 0

variable {data : List UInt8} {k n c : ℕ}

lemma echo_chunk (hc : c ≤ 26) (hlen : c ≤ data.length) :
    echo data (k * 26 + c) = echo data (k * 26) ++ data.take c := by
  rw [echo, range_add, map_append, echo, append_cancel_left_eq, map_map]
  apply ext_getElem
  · rw [length_map, length_range, length_take, min_eq_left hlen]
  · intro i hi _
    rw [length_map, length_range] at hi
    rw [getElem_map, getElem_range, Function.comp, show (k * 26 + i) % 26 = i by omega,
      getElem_take, getD_eq_getElem]

section

variable {mem : Mem} {ext_hdr : ℕ}

lemma le_fill_chunk : le (fill_chunk mem ext_hdr data c) 0 2 = ext_hdr % 2 ^ 16 := by
  have hfill : ∀ i < 2, fill_chunk mem ext_hdr data c (0 + i) =
      (fun j => ([] ++ (toLe 2 ext_hdr ++ [])).getD j 0) (0 + i) := by
    intro i hi
    rw [fill_chunk, store_of_lt (by omega), store_add (by rwa [length_toLe])]
    simp [hi]
  exact (le_congr hfill).trans (le_getD_toLe [] [] 2 ext_hdr)

lemma load_fill_chunk (hlen : c ≤ data.length) :
    load (fill_chunk mem ext_hdr data c) 2 c = data.take c := by
  have hself := load_store_self (store mem 0 (toLe 2 ext_hdr)) 2 (data.take c)
  rwa [length_take, min_eq_left hlen] at hself

end

/-- The first `k` chunks of a message of `n` bytes have been copied. -/
def RxMsg.Holds (m : RxMsg) (data : List UInt8) (n k : ℕ) : Prop :=
  m.data_len = n ∧ load m.payload 0 k = echo data k

section

variable {pd : Usbpd} {buf : Mem} (header len : ℕ) (sop : Sop) (hn : n ≤ 260) (hkn : k * 26 ≤ n)
include hn hkn

lemma received_eq_copy (hhdr : le buf 0 2 = PD_MSG_EXT_HDR 1 k 0 n)
    (hold : k = 0 ∨ ∃ m ∈ pd.rx_ext_msg, m.Holds data n (k * 26)) :
    ∃ m : RxMsg, m.Holds data n (k * 26) ∧
      pd.pd_ext_msg_received header buf len sop true true =
        pd.copy_chunk header buf len sop true k m := by
  have hchunked : PD_MSG_EXT_HDR_IS_CHUNKED (PD_MSG_EXT_HDR 1 k 0 n) = true := by
    rw [PD_MSG_EXT_HDR_IS_CHUNKED, PD_MSG_EXT_HDR, decide_eq_true_eq]
    omega
  have hreq : PD_MSG_EXT_HDR_REQ_CHUNK (PD_MSG_EXT_HDR 1 k 0 n) = false := by
    rw [PD_MSG_EXT_HDR_REQ_CHUNK, PD_MSG_EXT_HDR, decide_eq_false_iff_not]
    omega
  have hnum : PD_MSG_EXT_HDR_CHUNK_NUM (PD_MSG_EXT_HDR 1 k 0 n) = k := by
    rw [PD_MSG_EXT_HDR_CHUNK_NUM, PD_MSG_EXT_HDR]
    omega
  have hsize : PD_MSG_EXT_HDR_DATA_SIZE (PD_MSG_EXT_HDR 1 k 0 n) = n := by
    rw [PD_MSG_EXT_HDR_DATA_SIZE, PD_MSG_EXT_HDR]
    omega
  simp only [Usbpd.pd_ext_msg_received, hhdr, hchunked, hreq, hnum, hsize]
  by_cases hk : k = 0
  · subst hk
    exact ⟨⟨header, n, fun _ => 0⟩, ⟨rfl, rfl⟩, by simp [PD_MAX_EXT_MSG_LEN, hn]⟩
  · obtain ⟨m, hm, hholds⟩ := hold.resolve_left hk
    exact ⟨m, hholds, by simp [hk, Option.mem_def.mp hm]⟩

/-- **A chunk** is copied behind the ones before it. -/
theorem receive_chunk (hc : c = min (n - k * 26) 26) (hhdr : le buf 0 2 = PD_MSG_EXT_HDR 1 k 0 n)
    (hload : load buf 2 c = data.take c) (hdata : c ≤ data.length) (hlen : c + 2 ≤ len)
    (hmax : len < 2 ^ 64) (hold : k = 0 ∨ ∃ m ∈ pd.rx_ext_msg, m.Holds data n (k * 26)) :
    ∃ m : RxMsg, m.Holds data n (k * 26 + c) ∧
      pd.pd_ext_msg_received header buf len sop true true =
        if k * 26 + c = n then ({ pd with rx_ext_msg := none }, .queue m)
        else ({ pd with rx_ext_msg := some m }, .request ⟨header % 32, k + 1, sop⟩) := by
  obtain ⟨m, ⟨hlen_m, hpre⟩, heq⟩ := received_eq_copy header len sop hn hkn hhdr hold
  have happend := load_store_append m.payload 0 (k * 26) (data.take c)
  rw [length_take, min_eq_left hdata, Nat.zero_add, hpre, ← echo_chunk (by omega) hdata] at happend
  refine ⟨{ m with payload := store m.payload _ _ }, ⟨hlen_m, happend⟩, ?_⟩
  have hbytes : (min ((n : ℤ) - k * (26 : ℕ)) (26 : ℕ) % 2 ^ 16).toNat = c := by omega
  have hroom : (len + 2 ^ 64 - 2) % 2 ^ 64 = len - 2 := by omega
  rw [heq]
  simp only [Usbpd.copy_chunk, hlen_m, PD_MAX_EXT_MSG_LEGACY_LEN, hbytes, hroom,
    if_neg (show ¬ c > len - 2 by omega), hload, and_true]
  by_cases hlast : k * 26 + c = n
  · rw [if_pos hlast, if_neg (by omega)]
  · rw [if_neg hlast, if_pos (by omega)]

end

/-! ## The whole message -/

section

variable {write : ℕ → ℤ} {requested : ℕ → Bool} {msg_type : ℕ} {sop : Sop}
  (hwrite : ∀ i, write i = 0) (hrequested : ∀ i, requested i = true) (hn : data.length ≤ 260)
include hwrite hrequested hn

lemma hear_send_chunks (fuel : ℕ) {r : ℕ} {tx rx : Usbpd} {mem : Mem}
    (hr : k * 26 + r = data.length) (hfuel : r < fuel) (hnext : tx.next_tx_chunk = k)
    (hold : k = 0 ∨ ∃ m ∈ rx.rx_ext_msg, m.Holds data data.length (k * 26)) :
    (rx.hear sop (send_chunks write requested msg_type sop data data.length fuel tx mem
      r).2.2).map RxMsg.bytes = [echo data data.length] := by
  induction fuel generalizing k r tx rx mem with
  | zero => omega
  | succ fuel ih =>
    generalize hc : min r 26 = c
    set buf := fill_chunk mem (PD_MSG_EXT_HDR 1 k 0 data.length) data c with hbuf
    have hpacket (i : ℕ) (hi : i < c + 2) :
        (load buf 0 ((c + 2 + 3) / 4 * 4)).getD i 0 = buf i := by
      rw [getD_load (by omega), Nat.zero_add]
    have hhdr : le ((load buf 0 ((c + 2 + 3) / 4 * 4)).getD · 0) 0 2 =
        PD_MSG_EXT_HDR 1 k 0 data.length := by
      rw [le_congr (fun i hi => hpacket (0 + i) (by omega)), hbuf, le_fill_chunk, PD_MSG_EXT_HDR]
      omega
    have hload : load ((load buf 0 ((c + 2 + 3) / 4 * 4)).getD · 0) 2 c = data.take c := by
      rw [load_congr (fun i hi => hpacket (2 + i) (by omega)), hbuf, load_fill_chunk (by omega)]
    simp only [send_chunks, hnext, PD_MAX_EXT_MSG_LEGACY_LEN, hc, hwrite, hrequested, ne_eq,
      not_true_eq_false, if_false, ← hbuf]
    generalize PD_MSG_HDR _ _ _ _ _ _ + PD_MSG_HDR_EXTENDED = header
    obtain ⟨m, hm, heq⟩ := receive_chunk header ((c + 2 + 3) / 4 * 4) sop hn (by omega) (by omega)
      hhdr hload (by omega) (by omega) (by omega) hold
    by_cases hlast : k * 26 + c = data.length
    · rw [if_pos hlast] at heq
      rw [hlast] at hm
      rw [if_pos (by omega)]
      simp only [Usbpd.hear, length_load, heq, map_cons, map_nil, RxMsg.bytes, hm.1, hm.2]
    · rw [if_neg hlast] at heq
      rw [show k * 26 + c = (k + 1) * 26 by omega] at hm
      rw [if_neg (by omega)]
      simp only [Usbpd.hear, length_load, heq]
      exact ih (by omega) (by omega) (Nat.mod_eq_of_lt (by omega)) (.inr ⟨m, rfl, hm⟩)

/-- **The peer queues the message that was sent** exactly when every byte equals the one 26 places
before it. -/
theorem queued_eq_sent_iff (tx rx : Usbpd) :
    (rx.hear sop (tx.pd_send_ext_msg write requested msg_type sop data).2.2).map RxMsg.bytes =
      [data] ↔ ∀ i < data.length, data[i]? = data[i % 26]? := by
  have hbyte (i : ℕ) (hi : i < data.length) : (echo data data.length)[i]? = data[i % 26]? := by
    have := Nat.mod_le i 26
    simp [echo, hi, getElem?_eq_getElem (show i % 26 < data.length by omega)]
  rw [Usbpd.pd_send_ext_msg, show min data.length PD_MAX_EXT_MSG_LEN = data.length from
    min_eq_left hn, hear_send_chunks hwrite hrequested hn (k := 0) _ (by omega) (by omega) rfl
    (.inl rfl), cons.injEq, and_iff_left rfl]
  constructor
  · intro h i hi
    rw [← hbyte i hi, h]
  · intro h
    apply ext_getElem?
    intro i
    by_cases hi : i < data.length
    · rw [hbyte i hi, h i hi]
    · rw [getElem?_eq_none (by simp [echo]; omega), getElem?_eq_none (by omega)]

end

/-- A port before its first extended message. -/
def Usbpd.idle : Usbpd := ⟨0, 0, 2, fun _ => 0, 0, none⟩

theorem equal_bytes_queued :
    (Usbpd.idle.hear .SOP_MSG (Usbpd.idle.pd_send_ext_msg (fun _ => 0) (fun _ => true) 1 .SOP_MSG
      (replicate 30 7)).2.2).map RxMsg.bytes = [replicate 30 7] :=
  (queued_eq_sent_iff (fun _ => rfl) (fun _ => rfl) (by decide) _ _).mpr (by decide)

/-- **The second chunk** starts with the first byte of the message again. -/
theorem second_chunk_repeats :
    (Usbpd.idle.hear .SOP_MSG (Usbpd.idle.pd_send_ext_msg (fun _ => 0) (fun _ => true) 1 .SOP_MSG
      (replicate 26 0 ++ [1])).2.2).map RxMsg.bytes = [replicate 26 0 ++ [0]] := by
  decide +kernel

end KernelExtra.Usb
