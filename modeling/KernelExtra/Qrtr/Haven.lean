/-
QRTR over shared memory, `net/qrtr/haven.c`.

`qrtr_haven_send` copies a packet into the FIFO in as many chunks as the free space makes necessary.
`qrtr_haven_read` peeks at a header, asks `qrtr_peek_pkt_size` for the length, and collects that
many bytes in a buffer of 64K.

The other side can write the indices and the bytes at any time, so a pass of the loop is a function
of the `Views` it gets, one for each look, and returns also where it has read and written.
-/
import KernelExtra.Qrtr.Packet

namespace KernelExtra.Qrtr.Haven

open Bytes

/-! ## The shared page -/

/-- Sizes of `haven.c`, in bytes. -/
def FIFO_SIZE : ℕ := 0x4000
def FIFO_FULL_RESERVE : ℕ := 8

def MAX_PKT_SZ : ℕ := 0x10000

def hdr_len : ℕ := 32

/-- The shared page: the indices, which the peer may write too, and one of its FIFOs. -/
structure Page where
  head : UInt32
  tail : UInt32
  fifo : Mem

/-- A difference of `size_t`. -/
def size_sub (a b : ℕ) : ℕ := (a + 2 ^ 64 - b) % 2 ^ 64

/-- The bytes between tail and head, or none if the indices make no sense. -/
def haven_rx_avail (pipe : Page) : ℕ :=
  let head := pipe.head.toNat
  let tail := pipe.tail.toNat
  let len := if head < tail then (size_sub FIFO_SIZE tail + head) % 2 ^ 64 else head - tail
  if len > FIFO_SIZE then 0 else len

/-- Where `haven_rx_peak` starts to read: it takes the length off once at most. -/
def peak_start (pipe : Page) (offset : ℕ) : ℕ :=
  let tail := (pipe.tail.toNat + offset) % 2 ^ 32
  if tail ≥ FIFO_SIZE then tail - FIFO_SIZE else tail

/-- What it reads before the end of the FIFO. -/
def peak_len (pipe : Page) (offset count : ℕ) : ℕ :=
  min count (size_sub FIFO_SIZE (peak_start pipe offset))

/-- Copies `count` bytes from behind the tail, and leaves the tail. -/
def haven_rx_peak (pipe : Page) (offset count : ℕ) : List UInt8 :=
  let len := peak_len pipe offset count
  load pipe.fifo (peak_start pipe offset) len ++ load pipe.fifo 0 (count - len)

/-- The accesses of two `memcpy`s, of which an empty one is skipped. -/
def copies (first second len count : ℕ) : List Access :=
  (if len ≠ 0 then [⟨first, len⟩] else []) ++ if len ≠ count then [⟨second, count - len⟩] else []

section

variable (pipe : Page)

def peak_reads (offset count : ℕ) : List Access :=
  copies (peak_start pipe offset) 0 (peak_len pipe offset count) count

def peak_writes (data offset count : ℕ) : List Access :=
  let len := peak_len pipe offset count
  copies data (data + len) len count

/-- The new tail, which is stored without a look at the head. -/
def haven_rx_advance (count : ℕ) : UInt32 :=
  let tail := (pipe.tail.toNat + count) % 2 ^ 32
  .ofNat (if tail ≥ FIFO_SIZE then tail % FIFO_SIZE else tail)

/-- The room for writing, less the reserve. -/
def haven_tx_avail : ℕ :=
  let head := pipe.head.toNat
  let tail := pipe.tail.toNat
  let avail := if tail ≤ head then (size_sub FIFO_SIZE head + tail) % 2 ^ 32 else tail - head
  if avail < FIFO_FULL_RESERVE then 0 else avail - FIFO_FULL_RESERVE

/-- The bytes go in behind the head, which moves on. -/
def haven_tx_write (data : List UInt8) : Page :=
  let count := data.length
  let head := pipe.head.toNat
  let len := min count (size_sub FIFO_SIZE head)
  let fifo := store (store pipe.fifo head (data.take len)) 0 (data.drop len)
  let head := (head + count) % 2 ^ 32
  { pipe with fifo, head := .ofNat (if head ≥ FIFO_SIZE then head - FIFO_SIZE else head) }

end

/-! ## The receiver -/

/-- The packet that is being put together: `len` bytes, of which `offset` have come. -/
structure Ring where
  buf : Mem
  len : ℕ
  offset : ℕ

/-- The page as each look of a pass sees it; between two of them the peer may write. -/
structure Views where
  cond : Page
  hdr : Page
  avail : Page
  data : Page
  adv : Page

/-- What a pass does: the tail it stores, the packet it posts, the bytes it touches. -/
structure Pass where
  ring : Ring
  tail : Option UInt32
  post : Option (List UInt8)
  reads : List Access
  writes : List Access

/-- The length that the header at the tail gives. -/
def peek_len (pipe : Page) : ℤ :=
  let hdr := haven_rx_peak pipe 0 hdr_len
  qrtr_peek_pkt_size fun i => hdr.getD i 0

/-- A pass that starts a packet. -/
def qrtr_haven_read_new (ring : Ring) (v : Views) : Pass :=
  let pkt_len := peek_len v.hdr
  if pkt_len < 0 ∨ (MAX_PKT_SZ : ℤ) < pkt_len then
    ⟨ring, none, none, peak_reads v.hdr 0 hdr_len, []⟩
  else
    let pkt_len := pkt_len.toNat
    let rx_avail := min (haven_rx_avail v.avail) pkt_len
    let buf := store ring.buf 0 (haven_rx_peak v.data 0 rx_avail)
    { ring := if rx_avail = pkt_len then { ring with buf } else ⟨buf, pkt_len, rx_avail⟩
      tail := some (haven_rx_advance v.adv rx_avail)
      post := if rx_avail = pkt_len then some (load buf 0 pkt_len) else none
      reads := peak_reads v.hdr 0 hdr_len ++ peak_reads v.data 0 rx_avail
      writes := peak_writes v.data 0 0 rx_avail }

/-- A pass that goes on with a packet. -/
def qrtr_haven_read_frag (ring : Ring) (v : Views) : Pass :=
  let rx_avail := haven_rx_avail v.avail
  let rx_avail :=
    if rx_avail + ring.offset > ring.len then size_sub ring.len ring.offset else rx_avail
  let buf := store ring.buf ring.offset (haven_rx_peak v.data 0 rx_avail)
  { ring :=
      if rx_avail + ring.offset = ring.len then ⟨buf, 0, 0⟩
      else { ring with buf, offset := ring.offset + rx_avail }
    tail := some (haven_rx_advance v.adv rx_avail)
    post := if rx_avail + ring.offset = ring.len then some (load buf 0 ring.len) else none
    reads := peak_reads v.data 0 rx_avail
    writes := peak_writes v.data ring.offset 0 rx_avail }

/-- One round of the loop. -/
def qrtr_haven_read (ring : Ring) (v : Views) : Pass :=
  if haven_rx_avail v.cond = 0 then ⟨ring, none, none, [], []⟩
  else if ring.offset ≠ 0 then qrtr_haven_read_frag ring v
  else qrtr_haven_read_new ring v

def Ring.empty : Ring := ⟨fun _ => 0, 0, 0⟩

/-- The peer does not write during the pass. -/
def Views.quiet (pipe : Page) : Views := ⟨pipe, pipe, pipe, pipe, pipe⟩

/-- The page after the pass. -/
def Page.stored (pipe : Page) (pass : Pass) : Page :=
  { pipe with tail := pass.tail.getD pipe.tail }

/-! ## Indices -/

lemma size_sub_eq {a b : ℕ} (hb : b ≤ a) (ha : a < 2 ^ 64) : size_sub a b = a - b := by
  unfold size_sub
  omega

lemma peak_start_zero (pipe : Page) :
    peak_start pipe 0 =
      if FIFO_SIZE ≤ pipe.tail.toNat then pipe.tail.toNat - FIFO_SIZE else pipe.tail.toNat := by
  rw [peak_start, add_zero, Nat.mod_eq_of_lt pipe.tail.toNat_lt]

variable {pipe : Page}

/-- With indices inside the FIFO the count is the distance around the ring. -/
lemma rx_avail_of_lt (hhead : pipe.head.toNat < FIFO_SIZE) (htail : pipe.tail.toNat < FIFO_SIZE) :
    haven_rx_avail pipe = (pipe.head.toNat + FIFO_SIZE - pipe.tail.toNat) % FIFO_SIZE := by
  simp only [haven_rx_avail, size_sub]
  unfold FIFO_SIZE at *
  split_ifs <;> omega

/-- The new tail is always inside the FIFO. -/
lemma rx_advance_toNat (pipe : Page) (k : ℕ) :
    (haven_rx_advance pipe k).toNat = (pipe.tail.toNat + k) % FIFO_SIZE := by
  simp only [haven_rx_advance, UInt32.toNat_ofNat']
  unfold FIFO_SIZE
  split_ifs <;> omega

/-! ## What a pass does -/

/-- No packet is being put together, or one that fits the buffer. -/
def Ring.Ok (ring : Ring) : Prop :=
  ring.offset = 0 ∨ ring.offset < ring.len ∧ ring.len ≤ MAX_PKT_SZ

/-- A length that the receiver goes on with. -/
def ValidLen (len : ℤ) : Prop := 0 ≤ len ∧ len ≤ MAX_PKT_SZ

/-- The bytes that a pass takes from the FIFO. -/
def taken (v : Views) (offset len : ℕ) : ℕ := min (haven_rx_avail v.avail) (len - offset)

/-- The buffer with these bytes behind the earlier ones. -/
def collected (buf : Mem) (v : Views) (offset len : ℕ) : Mem :=
  store buf offset (haven_rx_peak v.data 0 (taken v offset len))

/-- The pass goes on with a packet of `len` bytes of which `offset` are in `buf`. -/
structure Collects (pass : Pass) (buf : Mem) (v : Views) (offset len : ℕ) : Prop where
  tail : pass.tail = some (haven_rx_advance v.adv (taken v offset len))
  whole : taken v offset len = len - offset →
    pass.ring.offset = 0 ∧ pass.post = some (load (collected buf v offset len) 0 len)
  part : taken v offset len ≠ len - offset →
    pass.ring = ⟨collected buf v offset len, len, offset + taken v offset len⟩ ∧
      pass.post = none
  writes : pass.writes = peak_writes v.data offset 0 (taken v offset len)

variable {ring : Ring} {v : Views}

lemma read_frag_taken (v : Views) (hlt : ring.offset < ring.len) (hlen : ring.len ≤ MAX_PKT_SZ) :
    (if haven_rx_avail v.avail + ring.offset > ring.len then size_sub ring.len ring.offset
      else haven_rx_avail v.avail) = taken v ring.offset ring.len := by
  unfold MAX_PKT_SZ at hlen
  rw [size_sub_eq (by omega) (by omega), taken]
  split <;> omega

lemma read_frag_reads (v : Views) (hlt : ring.offset < ring.len) (hlen : ring.len ≤ MAX_PKT_SZ) :
    (qrtr_haven_read_frag ring v).reads = peak_reads v.data 0 (taken v ring.offset ring.len) := by
  rw [qrtr_haven_read_frag, read_frag_taken v hlt hlen]

/-- Going on with a packet collects bytes of it. -/
lemma read_frag_collects (v : Views) (hlt : ring.offset < ring.len) (hlen : ring.len ≤ MAX_PKT_SZ) :
    Collects (qrtr_haven_read_frag ring v) ring.buf v ring.offset ring.len := by
  rw [qrtr_haven_read_frag, read_frag_taken v hlt hlen]
  refine ⟨rfl, fun h => ?_, fun h => ?_, rfl⟩
  · have hwhole : taken v ring.offset ring.len + ring.offset = ring.len := by omega
    rw [if_pos hwhole, if_pos hwhole]
    exact ⟨rfl, rfl⟩
  · have hpart : taken v ring.offset ring.len + ring.offset ≠ ring.len := by omega
    rw [if_neg hpart, if_neg hpart]
    exact ⟨rfl, rfl⟩

/-- A length that is of no use ends the pass with nothing taken. -/
lemma read_new_of_not_valid (ring : Ring) (h : ¬ ValidLen (peek_len v.hdr)) :
    qrtr_haven_read_new ring v = ⟨ring, none, none, peak_reads v.hdr 0 hdr_len, []⟩ := by
  unfold ValidLen at h
  exact if_pos (by omega)

lemma read_new_reads (ring : Ring) (h : ValidLen (peek_len v.hdr)) :
    (qrtr_haven_read_new ring v).reads =
      peak_reads v.hdr 0 hdr_len ++ peak_reads v.data 0 (taken v 0 (peek_len v.hdr).toNat) := by
  unfold ValidLen at h
  rw [qrtr_haven_read_new, taken, Nat.sub_zero]
  rw [if_neg (by omega)]

/-- Starting a packet collects bytes of it. -/
lemma read_new_collects (hoff : ring.offset = 0) (h : ValidLen (peek_len v.hdr)) :
    Collects (qrtr_haven_read_new ring v) ring.buf v 0 (peek_len v.hdr).toNat := by
  unfold ValidLen at h
  rw [qrtr_haven_read_new]
  generalize peek_len v.hdr = pkt_len at h ⊢
  obtain ⟨n, rfl⟩ := Int.eq_ofNat_of_zero_le h.1
  rw [if_neg (by omega), Int.toNat_natCast]
  have htaken : min (haven_rx_avail v.avail) n = taken v 0 n := by rw [taken, Nat.sub_zero]
  dsimp only
  rw [htaken]
  refine ⟨rfl, fun hwhole => ?_, fun hpart => ?_, rfl⟩
  · rw [Nat.sub_zero] at hwhole
    rw [if_pos hwhole, if_pos hwhole]
    exact ⟨hoff, rfl⟩
  · rw [Nat.sub_zero] at hpart
    rw [if_neg hpart, if_neg hpart, zero_add]
    exact ⟨rfl, rfl⟩

/-- A pass leaves a state that the next one can go on from. -/
lemma Collects.ok {pass : Pass} {buf : Mem} {offset len : ℕ}
    (h : Collects pass buf v offset len) (hlen : len ≤ MAX_PKT_SZ) : pass.ring.Ok := by
  by_cases hwhole : taken v offset len = len - offset
  · exact .inl (h.whole hwhole).1
  · rw [(h.part hwhole).1]
    refine .inr ⟨?_, hlen⟩
    have : taken v offset len ≤ len - offset := min_le_right ..
    dsimp only
    omega

/-! ## Over a quiet page -/

lemma read_eq_new (hne : haven_rx_avail pipe ≠ 0) (hoff : ring.offset = 0) :
    qrtr_haven_read ring (.quiet pipe) = qrtr_haven_read_new ring (.quiet pipe) := by
  exact (if_neg hne).trans (if_neg (not_not.mpr hoff))

lemma read_eq_frag (hne : haven_rx_avail pipe ≠ 0) (hoff : ring.offset ≠ 0) :
    qrtr_haven_read ring (.quiet pipe) = qrtr_haven_read_frag ring (.quiet pipe) := by
  exact (if_neg hne).trans (if_pos hoff)

lemma read_new_collects_quiet {n : ℕ} (hoff : ring.offset = 0)
    (hlen : peek_len pipe = n) (hmax : n ≤ MAX_PKT_SZ) :
    Collects (qrtr_haven_read_new ring (.quiet pipe)) ring.buf (.quiet pipe) 0 n := by
  have hvalid : ValidLen (peek_len pipe) := by
    rw [hlen]
    exact ⟨Int.natCast_nonneg n, Int.ofNat_le.mpr hmax⟩
  have htoNat : (peek_len (Views.quiet pipe).hdr).toNat = n :=
    (congrArg Int.toNat hlen).trans (Int.toNat_natCast n)
  have h := read_new_collects (v := .quiet pipe) hoff hvalid
  rwa [htoNat] at h

lemma Collects.stored {pass : Pass} {buf : Mem} {offset len : ℕ}
    (h : Collects pass buf (.quiet pipe) offset len) :
    pipe.stored pass =
      { pipe with tail := haven_rx_advance pipe (taken (.quiet pipe) offset len) } := by
  rw [Page.stored, h.tail]
  rfl

end KernelExtra.Qrtr.Haven
