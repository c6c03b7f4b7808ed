/-
The message queues shared with firmware: `__write_queue` and `__read_queue` of `cvp_hfi.c` and
`ipc_queue_read` of `npu_host_ipc.c`.

Indices and the first word of a packet are whatever the firmware left. Each function returns the
accesses it makes; a shift by two is written as a product or quotient by four.
-/
import KernelExtra.Lib.Bytes
import KernelExtra.Lib.Fair
import KernelExtra.Lib.Run

namespace KernelExtra.Cvp

open Fair (trace Recurs LeadsTo)
open Bytes

def CVP_IFACEQ_QUEUE_SIZE : UInt32 := 1024 * 50 * 16

def CVP_IFACEQ_VAR_HUGE_PKT_SIZE : UInt32 := 1024 * 12

def NPU_IPC_BUF_LENGTH : ℕ := 512

/-- The pieces a copy of `len` bytes between `[off, …)` of a ring and a buffer is made in: at the
end of the ring `rest` bytes are left for its beginning. The first list is of the ring, the
second of the buffer. -/
def pieces (off len : UInt32) : Option UInt32 → List Access × List Access
  | none => ([⟨off.toNat, len.toNat⟩], [⟨0, len.toNat⟩])
  | some rest => ([⟨off.toNat, (len - rest).toNat⟩, ⟨0, rest.toNat⟩],
      [⟨0, (len - rest).toNat⟩, ⟨(len - rest).toNat, rest.toNat⟩])

/-- How far an index runs past the end of a ring of `size`, if it does. -/
def past (size idx : UInt32) : Option UInt32 := if idx < size then none else some (idx - size)

def empty_space (read_idx write_idx : UInt32) : UInt32 :=
  if read_idx ≤ write_idx then CVP_IFACEQ_QUEUE_SIZE / 4 - (write_idx - read_idx)
  else read_idx - write_idx

/-- The checks of `__write_queue`; the address just past the queue passes. -/
def write_refused (words read_idx write_idx : UInt32) : Prop :=
  words = 0 ∨ words > CVP_IFACEQ_QUEUE_SIZE / 4 ∨ empty_space read_idx write_idx ≤ words ∨
    write_idx * 4 > CVP_IFACEQ_QUEUE_SIZE

instance (words read_idx write_idx : UInt32) : Decidable (write_refused words read_idx write_idx) :=
  inferInstanceAs (Decidable (_ ∨ _))

def write_queue (word read_idx write_idx : UInt32) : List Access :=
  let words := word / 4
  if write_refused words read_idx write_idx then []
  else (pieces (write_idx * 4) (words * 4)
    ((past (CVP_IFACEQ_QUEUE_SIZE / 4) (write_idx + words)).map (· * 4))).1

/-- The copy of `__read_queue`, once `read_idx` is inside the queue; other packets are dropped. -/
def read_packet (read_idx words : UInt32) : List Access × List Access :=
  if words = 0 then ([], [])
  else if words * 4 ≤ CVP_IFACEQ_VAR_HUGE_PKT_SIZE ∧ read_idx ≤ CVP_IFACEQ_QUEUE_SIZE / 4 then
    pieces (read_idx * 4) (words * 4)
      ((past (CVP_IFACEQ_QUEUE_SIZE / 4) (read_idx + words)).map (· * 4))
  else ([], [])

/-- `write_idx'` is the index read again after `qhdr_rx_req` was set. -/
def read_queue (read_idx write_idx write_idx' word : UInt32) : List Access × List Access :=
  if read_idx = write_idx ∧ write_idx = write_idx' then ([], [])
  else if read_idx * 4 > CVP_IFACEQ_QUEUE_SIZE - 4 then ([], [])
  else (⟨(read_idx * 4).toNat, 4⟩ :: (read_packet read_idx (word / 4)).1,
    (read_packet read_idx (word / 4)).2)

/-- The accesses to the caller's buffer. -/
def ipc_queue_read (q_size read_idx write_idx packet_size : UInt32) : List Access :=
  if read_idx = write_idx then []
  else ⟨0, 4⟩ :: if packet_size = 0 then []
    else (pieces read_idx packet_size (past q_size (read_idx + packet_size))).2

/-- The write is refused, or the index was not cut by its shift, or the packet reaches the end of
the queue from the index that was left of it. -/
def Writes (word read_idx write_idx : UInt32) : Prop :=
  write_refused (word / 4) read_idx write_idx ∨ write_idx < 0x40000000 ∨
    CVP_IFACEQ_QUEUE_SIZE ≤ write_idx * 4 + word / 4 * 4

/-- The packet fits the buffer, and the index is inside the queue or wraps around. -/
def Reads (q_size read_idx write_idx packet_size : UInt32) : Prop :=
  read_idx = write_idx ∨ packet_size.toNat ≤ 4 * NPU_IPC_BUF_LENGTH ∧
    (packet_size = 0 ∨ read_idx ≤ q_size ∨ 2 ^ 32 ≤ read_idx.toNat + packet_size.toNat)

lemma write_inside_iff (word read_idx write_idx : UInt32) :
    (∀ a ∈ write_queue word read_idx write_idx, a.Inside CVP_IFACEQ_QUEUE_SIZE.toNat) ↔
      Writes word read_idx write_idx := by
  unfold write_queue Writes
  by_cases href : write_refused (word / 4) read_idx write_idx
  · simp [href]
  have hidx := write_idx.toNat_lt
  obtain ⟨-, hwords, -, hoff⟩ : _ ∧ ¬word / 4 > _ ∧ _ ∧ ¬write_idx * 4 > _ := by
    simpa only [write_refused, not_or] using href
  simp only [href, if_false, false_or]
  -- in each case the sums below are of numbers under 2 ^ 32, each known up to that modulus
  unfold past
  split <;> rename_i hnew
  all_goals
    simp [pieces, Access.Inside, UInt32.le_iff_toNat_le, UInt32.lt_iff_toNat_lt, UInt32.toNat_sub,
      CVP_IFACEQ_QUEUE_SIZE] at *
    omega

lemma read_inside (read_idx write_idx write_idx' word : UInt32) :
    (∀ a ∈ (read_queue read_idx write_idx write_idx' word).1,
      a.Inside CVP_IFACEQ_QUEUE_SIZE.toNat) ∧
    ∀ a ∈ (read_queue read_idx write_idx write_idx' word).2,
      a.Inside CVP_IFACEQ_VAR_HUGE_PKT_SIZE.toNat := by
  have hword := word.toNat_lt
  unfold read_queue read_packet past
  split_ifs with hempty hrefused hzero hfits hnew
  all_goals
    simp [pieces, Access.Inside, UInt32.le_iff_toNat_le, UInt32.lt_iff_toNat_lt, UInt32.toNat_sub,
      CVP_IFACEQ_QUEUE_SIZE, CVP_IFACEQ_VAR_HUGE_PKT_SIZE] at *
  all_goals omega

lemma ipc_inside_iff (q_size read_idx write_idx packet_size : UInt32) :
    (∀ a ∈ ipc_queue_read q_size read_idx write_idx packet_size,
      a.Inside (4 * NPU_IPC_BUF_LENGTH)) ↔ Reads q_size read_idx write_idx packet_size := by
  have hidx := read_idx.toNat_lt
  have hsize := packet_size.toNat_lt
  unfold ipc_queue_read Reads past
  split_ifs <;>
  simp_all [pieces, Access.Inside, UInt32.le_iff_toNat_le, UInt32.lt_iff_toNat_lt, UInt32.toNat_sub,
      NPU_IPC_BUF_LENGTH] <;>
  omega

/-- **Every access stays inside its memory exactly when the indices are sane**: for the read of
the CVP queue always. -/
theorem queues_safe_iff (word read_idx write_idx write_idx' q_size : UInt32) :
    ((∀ a ∈ write_queue word read_idx write_idx, a.Inside CVP_IFACEQ_QUEUE_SIZE.toNat) ↔
      Writes word read_idx write_idx) ∧
    ((∀ a ∈ (read_queue read_idx write_idx write_idx' word).1,
        a.Inside CVP_IFACEQ_QUEUE_SIZE.toNat) ∧
      ∀ a ∈ (read_queue read_idx write_idx write_idx' word).2,
        a.Inside CVP_IFACEQ_VAR_HUGE_PKT_SIZE.toNat) ∧
    ((∀ a ∈ ipc_queue_read q_size read_idx write_idx word, a.Inside (4 * NPU_IPC_BUF_LENGTH)) ↔
      Reads q_size read_idx write_idx word) :=
  ⟨write_inside_iff .., read_inside .., ipc_inside_iff ..⟩

/-- A write index of 2 ^ 30 passes for the start of the queue and its second copy runs on for
almost 4 GiB; a packet that says 4096 bytes is copied to the 2048 of the NPU's buffer. -/
theorem queue_overrun :
    (∃ a ∈ write_queue 64 0 0x40000000, ¬a.Inside CVP_IFACEQ_QUEUE_SIZE.toNat) ∧
      ∃ a ∈ ipc_queue_read 8192 0 4096 4096, ¬a.Inside (4 * NPU_IPC_BUF_LENGTH) := by
  decide

/-! ## Wake-ups -/

/-- A packet of the firmware that `__read_queue` accepts, word by word. -/
structure Packet where
  data : List UInt32
  pos : data ≠ []
  fits : data.length * 4 ≤ CVP_IFACEQ_VAR_HUGE_PKT_SIZE.toNat
  deriving DecidableEq

/-- The queue's size in words. -/
def queue_words : ℕ := CVP_IFACEQ_QUEUE_SIZE.toNat / 4

lemma queue_words_eq : queue_words = 204800 := rfl

def words (l : List Packet) : ℕ := (l.map (·.data.length)).sum

/-- Where the firmware is: a packet is written, then the index, then it looks at `qhdr_rx_req`. -/
inductive Firmware
  | idle
  | wrote (p : Packet)
  | advanced
  deriving DecidableEq

/-- Where the handler is, with its `packet_count`. The `write_idx` that `__read_queue` compares
again is the `read_idx` it was equal to. -/
inductive Host
  | idle
  | look (n : ℕ)
  | request (n : ℕ)
  | again (n : ℕ)
  | clear (n : ℕ)
  | copy (n : ℕ)
  | store (n : ℕ) (rx_req : Bool)
  | deliver (n : ℕ)
  deriving DecidableEq

/-- The message queue, the two sides, and what has been sent and read so far. -/
structure Msgq where
  read_idx : ℕ
  write_idx : ℕ
  rx_req : Bool
  /-- The packets between the indices. -/
  queue : List Packet
  fw : Firmware
  host : Host
  pending : Bool
  sent : List Packet
  read : List Packet
  deriving DecidableEq

def Msgq.init : Msgq := ⟨0, 0, true, [], .idle, .idle, false, [], []⟩

def cvp_max_packets : ℕ := 32

def wrap (idx : ℕ) : ℕ := if idx < queue_words then idx else idx - queue_words

/-- Whether `__response_handler` breaks off after a packet. -/
def leaves (n : ℕ) (counted sys_error : Bool) : Bool :=
  counted && (cvp_max_packets ≤ n + 1 || sys_error)

/-- `counted` says that the packet fills a response record. -/
def respond (s : Msgq) (counted sys_error : Bool) : Msgq :=
  match s.host with
  | .idle => if s.pending then { s with pending := false, host := .look 0 } else s
  | .look n => { s with host := if s.read_idx = s.write_idx then .request n else .copy n }
  | .request n => { s with rx_req := true, host := .again n }
  | .again n => { s with host := if s.read_idx ≠ s.write_idx then .clear n else .idle }
  | .clear n => { s with rx_req := false, host := .copy n }
  | .copy n =>
    { s with host := .store n (wrap (s.read_idx + words (s.queue.take 1)) = s.write_idx) }
  | .store n b => { s with rx_req := b, host := .deliver n }
  | .deliver n =>
    { s with
      read_idx := wrap (s.read_idx + words (s.queue.take 1))
      queue := s.queue.tail
      read := s.read ++ s.queue.take 1
      host := if leaves n counted sys_error then .idle
        else .look (if counted then n + 1 else n) }

def firmware (s : Msgq) : Msgq :=
  match s.fw with
  | .idle => s
  | .wrote p =>
    { s with
      write_idx := wrap (s.write_idx + p.data.length), fw := .advanced
      queue := s.queue ++ [p], sent := s.sent ++ [p] }
  | .advanced => { s with pending := s.pending || s.rx_req, fw := .idle }

/-- A step of either side. -/
inductive Msg
  | write (p : Packet)
  | fw
  | host (counted sys_error : Bool)
  deriving DecidableEq

/-- The firmware keeps one word free, as `__write_queue` does. -/
def step (s : Msgq) : Msg → Msgq
  | .write p =>
    if s.fw = .idle ∧ words s.queue + p.data.length < queue_words then { s with fw := .wrote p }
    else s
  | .fw => firmware s
  | .host counted sys_error => respond s counted sys_error

/-- The handler reads until the queue reports that it is empty. -/
def Drains (s : Msgq) : Msg → Prop
  | .host counted sys_error => ∀ n, s.host = .deliver n → leaves n counted sys_error = false
  | _ => True

instance (s : Msgq) : (a : Msg) → Decidable (Drains s a)
  | .write _ | .fw => .isTrue trivial
  | .host counted sys_error =>
    match h : s.host with
    | .deliver n => decidable_of_iff (leaves n counted sys_error = false)
        ⟨fun hn _ hm => Host.deliver.inj (h.symm.trans hm) ▸ hn, fun hall => hall n h⟩
    | .idle | .look _ | .request _ | .again _ | .clear _ | .copy _ | .store .. =>
      .isTrue fun _ hm => Host.noConfusion (h.symm.trans hm)

def Firmware.words : Firmware → ℕ
  | .wrote p => p.data.length
  | _ => 0

/-- What holds at each point of the handler. -/
def Msgq.At (s : Msgq) : Host → Prop
  | .idle => s.pending ∨ s.rx_req ∧ (s.queue ≠ [] → s.fw = .advanced)
  | .look _ | .request _ => True
  | .again _ => s.rx_req
  | .clear _ | .copy _ | .store _ _ | .deliver _ => s.queue ≠ []

/-- The indices enclose the packets that are sent and not read, and the handler is where it can
be. -/
structure Msgq.Inv (s : Msgq) : Prop where
  sent : s.read ++ s.queue = s.sent
  read_idx : s.read_idx < queue_words
  write_idx : s.write_idx = (s.read_idx + words s.queue) % queue_words
  room : words s.queue + s.fw.words < queue_words
  host : s.At s.host

lemma wrap_eq {idx : ℕ} (h : idx < queue_words + queue_words) : wrap idx = idx % queue_words := by
  unfold wrap
  rw [queue_words_eq] at *
  split <;> omega

namespace Msgq.Inv

variable {s : Msgq} (h : s.Inv)
include h

lemma read_idx_eq_iff : s.read_idx = s.write_idx ↔ s.queue = [] := by
  have hread := h.read_idx
  have hroom := h.room
  rw [h.write_idx]
  cases hq : s.queue with
  | nil => simp [words, Nat.mod_eq_of_lt hread]
  | cons p l =>
    have hpos : 0 < words (p :: l) := by
      have := List.length_pos_iff.mpr p.pos
      simp only [words, List.map_cons, List.sum_cons]
      omega
    rw [hq] at hroom
    refine iff_of_false ?_ nofun
    rw [queue_words_eq] at *
    omega

lemma firmware : (firmware s).Inv := by
  obtain ⟨hsent, hread, hwrite, hroom, hhost⟩ := h
  unfold Cvp.firmware
  cases hfw : s.fw with
  | idle => exact ⟨hsent, hread, hwrite, hroom, hhost⟩
  | wrote p =>
    have hwords : words (s.queue ++ [p]) = words s.queue + p.data.length := by
      simp [words]
    rw [hfw, Firmware.words] at hroom
    refine ⟨?_, hread, ?_, ?_, ?_⟩
    · change s.read ++ (s.queue ++ [p]) = s.sent ++ [p]
      rw [← hsent, List.append_assoc]
    · change wrap (s.write_idx + _) = (s.read_idx + words (s.queue ++ [p])) % queue_words
      rw [wrap_eq, hwrite, hwords]
      all_goals
        rw [queue_words_eq] at *
        omega
    · rwa [hwords]
    · cases hpc : s.host <;> simp_all [Msgq.At]
      exact hhost.imp_right And.left
  | advanced =>
    refine ⟨hsent, hread, hwrite, by rwa [hfw] at hroom, ?_⟩
    cases hpc : s.host <;> simp_all [Msgq.At]

lemma write (p : Packet) : (step s (.write p)).Inv := by
  rw [Cvp.step]
  split
  · rename_i hroom
    refine ⟨h.sent, h.read_idx, h.write_idx, hroom.2, ?_⟩
    have hhost := h.host
    cases hpc : s.host <;> simp_all [Msgq.At]
  · exact h

lemma respond {counted sys_error : Bool} (hok : Drains s (.host counted sys_error)) :
    (respond s counted sys_error).Inv := by
  have heq := h.read_idx_eq_iff
  obtain ⟨hsent, hread, hwrite, hroom, hhost⟩ := h
  unfold Cvp.respond
  cases hpc : s.host <;> rw [hpc] at hhost <;> dsimp only
  case idle =>
    split_ifs
    · exact ⟨hsent, hread, hwrite, hroom, trivial⟩
    · exact ⟨hsent, hread, hwrite, hroom, by rwa [hpc]⟩
  case look n =>
    refine ⟨hsent, hread, hwrite, hroom, ?_⟩
    split_ifs with hidx
    · trivial
    · exact mt heq.mpr hidx
  case request n => exact ⟨hsent, hread, hwrite, hroom, rfl⟩
  case again n =>
    refine ⟨hsent, hread, hwrite, hroom, ?_⟩
    -- only a queue that is still empty once the request is out lets the handler go
    split_ifs with hidx
    · exact mt heq.mpr hidx
    · exact .inr ⟨hhost, absurd (heq.mp (not_not.mp hidx))⟩
  case clear | copy | store => exact ⟨hsent, hread, hwrite, hroom, hhost⟩
  case deliver n =>
    have hstay : leaves n counted sys_error = false := hok n hpc
    have hsplit : words s.queue = words (s.queue.take 1) + words s.queue.tail := by
      cases s.queue <;> simp [words]
    have hwrap := @wrap_eq (s.read_idx + words (s.queue.take 1)) (by omega)
    simp only [hstay, Bool.false_eq_true, if_false]
    refine ⟨?_, ?_, ?_, ?_, trivial⟩
    · rw [← hsent, List.append_assoc, ← List.drop_one, List.take_append_drop]
    · rw [hwrap]
      exact Nat.mod_lt _ (by decide)
    · rw [hwrap, hwrite, hsplit, Nat.mod_add_mod, add_assoc]
    · exact lt_of_le_of_lt (by simp only; omega) hroom

lemma step {a : Msg} (hok : Drains s a) : (step s a).Inv := by
  cases a with
  | write p => exact h.write p
  | fw => exact h.firmware
  | host counted sys_error => exact h.respond hok

end Msgq.Inv

def Host.rank : Host → ℕ
  | .idle => 7
  | .look _ => 6
  | .request _ => 5
  | .again _ => 4
  | .clear _ => 3
  | .copy _ => 2
  | .store _ _ => 1
  | .deliver _ => 0

/-- A packet waits, and `k` were read before. -/
structure Msgq.Waits (k : ℕ) (s : Msgq) : Prop where
  queue : s.queue ≠ []
  read : s.read.length = k

def Msgq.Awake (s : Msgq) : Prop := s.pending ∨ s.host ≠ .idle

variable {s : Msgq} {k : ℕ}

lemma Msgq.Waits.respond (hs : s.Waits k) (hawake : s.Awake) (h : s.Inv)
    (counted sys_error : Bool) : (respond s counted sys_error).read.length = k + 1 ∨
      (respond s counted sys_error).Waits k ∧ (respond s counted sys_error).Awake ∧
        (respond s counted sys_error).host.rank < s.host.rank := by
  obtain ⟨hne, rfl⟩ := hs
  have hidx := mt h.read_idx_eq_iff.mp hne
  unfold Msgq.Awake at hawake ⊢
  unfold Cvp.respond
  cases hpc : s.host <;> rw [hpc] at hawake <;> dsimp only
  case deliver n =>
    left
    obtain ⟨p, l, hq⟩ := List.exists_cons_of_ne_nil hne
    simp [hq]
  all_goals right
  case idle =>
    rw [if_pos (hawake.resolve_right fun h => h rfl)]
    exact ⟨⟨hne, rfl⟩, .inr nofun, by simp [Host.rank]⟩
  case look n =>
    rw [if_neg hidx]
    exact ⟨⟨hne, rfl⟩, .inr nofun, by simp [Host.rank]⟩
  case again n =>
    rw [if_pos hidx]
    exact ⟨⟨hne, rfl⟩, .inr nofun, by simp [Host.rank]⟩
  all_goals exact ⟨⟨hne, rfl⟩, .inr nofun, by simp [Host.rank]⟩

/-- The firmware's steps leave the handler where it is. -/
lemma Msgq.Waits.other (hs : s.Waits k) {a : Msg} (ha : ¬ ∃ c e, a = .host c e) :
    (step s a).Waits k ∧ (step s a).host = s.host ∧ (s.Awake → (step s a).Awake) := by
  obtain ⟨hne, hread⟩ := hs
  cases a with
  | host c e => exact absurd ⟨c, e, rfl⟩ ha
  | write p =>
    rw [step]
    split_ifs <;> exact ⟨⟨hne, hread⟩, rfl, id⟩
  | fw =>
    rw [step, firmware]
    split
    · exact ⟨⟨hne, hread⟩, rfl, id⟩
    · exact ⟨⟨by simp, hread⟩, rfl, id⟩
    · exact ⟨⟨hne, hread⟩, rfl, Or.imp_left (by simp +contextual)⟩

/-- An idle handler with a packet to read is about to be interrupted. -/
lemma Msgq.Inv.asleep (h : s.Inv) (hs : s.Waits k) (hasleep : ¬ s.Awake) (a : Msg) :
    if a = .fw then (Cvp.step s a).Awake else Cvp.step s a = s := by
  obtain ⟨hpending, hidle⟩ := not_or.mp hasleep
  have hhost := h.host
  rw [not_not.mp hidle] at hhost
  obtain ⟨hreq, hfw⟩ := hhost.resolve_left hpending
  specialize hfw hs.queue
  cases a with
  | host c e => simp_all [Cvp.step, Cvp.respond]
  | write p => simp [Cvp.step, hfw]
  | fw => simp [Cvp.step, Cvp.firmware, hfw, hreq, Msgq.Awake]

lemma length_sent_le (s : Msgq) (a : Msg) : s.sent.length ≤ (step s a).sent.length := by
  cases a <;> simp only [step, respond, firmware] <;> repeat' split
  all_goals simp

abbrev runs (acts : ℕ → Msg) : ℕ → Msgq := trace step .init acts

section

variable {acts : ℕ → Msg} (hok : ∀ t, Drains (runs acts t) (acts t))
include hok

lemma inv_runs (t : ℕ) : (runs acts t).Inv := by
  induction t with
  | zero =>
    change Msgq.init.Inv
    exact ⟨rfl, by decide, by decide, by decide, .inr ⟨rfl, absurd rfl⟩⟩
  | succ t ih => exact ih.step (hok t)

lemma awake_leadsTo (hhost : Recurs acts fun a => ∃ c e, a = .host c e) (n : ℕ) :
    LeadsTo (runs acts) (fun s => s.Waits k ∧ s.Awake ∧ s.host.rank = n)
      fun s => s.read.length = k + 1 := by
  refine Fair.leadsTo_of_rank (P := fun n (s : Msgq) => s.Waits k ∧ s.Awake ∧ s.host.rank = n)
    ?_ ?_ hhost n
  · rintro t n ⟨hwaits, hawake, rfl⟩ hact
    obtain ⟨hwaits', heq, hawake'⟩ := hwaits.other hact
    exact .inr ⟨_, le_rfl, hwaits', hawake' hawake, congrArg _ heq⟩
  · rintro t n ⟨hwaits, hawake, rfl⟩ ⟨c, e, hact⟩
    rw [runs, trace, hact]
    exact (hwaits.respond hawake (inv_runs hok t) c e).imp_right fun ⟨hw, ha, hlt⟩ =>
      ⟨_, hlt, hw, ha, rfl⟩

lemma waits_leadsTo (hhost : Recurs acts fun a => ∃ c e, a = .host c e)
    (hfw : Recurs acts (· = .fw)) :
    LeadsTo (runs acts) (Msgq.Waits k) fun s => s.read.length = k + 1 := by
  have hwakes : LeadsTo (runs acts) (fun s => s.Waits k ∧ ¬ s.Awake)
      fun s => s.Waits k ∧ s.Awake := by
    refine Fair.leadsTo_of_helpful (fun t hs hact => .inr ?_) (fun t hs hact => ?_) hfw
    all_goals have hstep := (inv_runs hok t).asleep hs.1 hs.2 (acts t)
    · rw [if_neg hact] at hstep
      rwa [runs, trace, hstep]
    · rw [if_pos hact] at hstep
      exact ⟨(hs.1.other (by simp [hact])).1, hstep⟩
  intro t hwaits
  by_cases hawake : (runs acts t).Awake
  · exact awake_leadsTo hok hhost _ t ⟨hwaits, hawake, rfl⟩
  · obtain ⟨t₁, hle, h₁⟩ := hwakes t ⟨hwaits, hawake⟩
    obtain ⟨t₂, hle', h₂⟩ := awake_leadsTo hok hhost _ t₁ ⟨h₁.1, h₁.2, rfl⟩
    exact ⟨t₂, hle.trans hle', h₂⟩

/-- **No wake-up is lost** while the handler reads until the queue is empty: what it has read is
the beginning of what was sent, and every packet sent is read, whether or not others follow. -/
theorem packets_read_of_drains :
    (∀ t, (runs acts t).read ++ (runs acts t).queue = (runs acts t).sent) ∧
      (Recurs acts (fun a => ∃ c e, a = .host c e) → Recurs acts (· = .fw) →
        ∀ n, LeadsTo (runs acts) (fun s => n ≤ s.sent.length) fun s => n ≤ s.read.length) := by
  refine ⟨fun t => (inv_runs hok t).sent, fun hhost hfw n => ?_⟩
  induction n with
  | zero => exact fun t _ => ⟨t, le_rfl, zero_le⟩
  | succ n ih =>
    intro t ht
    obtain ⟨t', hle, hn⟩ := ih t (Nat.le_of_succ_le ht)
    rcases lt_or_eq_of_le hn with hlt | hn
    · exact ⟨t', hle, hlt⟩
    have hsent : n + 1 ≤ (runs acts t').sent.length := ht.trans
      (monotone_nat_of_le_succ (f := fun t => (runs acts t).sent.length)
        (fun _ => length_sent_le _ _) hle)
    have hne : (runs acts t').queue ≠ [] := by
      intro hq
      rw [← (inv_runs hok t').sent, hq, List.append_nil] at hsent
      omega
    obtain ⟨t₁, hle₁, h₁⟩ := waits_leadsTo hok hhost hfw t' ⟨hne, hn.symm⟩
    exact ⟨t₁, hle.trans hle₁, h₁.ge⟩

end

def Packet.one : Packet := ⟨[4], by decide, by decide⟩

/-- Three packets are sent, and then firmware and handler take turns. -/
def three_packets (t : ℕ) : Msg :=
  if t < 9 then if t % 3 = 0 then .write .one else .fw
  else if t % 2 = 0 then .fw else .host true false

/-- The handler has read the three packets and has found the queue empty. -/
lemma three_packets_quiet (k : ℕ) : runs three_packets (40 + k) = runs three_packets 40 := by
  induction k with
  | zero => rfl
  | succ k ih =>
    have hacts : three_packets (40 + k) = .fw ∨ three_packets (40 + k) = .host true false := by
      unfold three_packets
      rw [if_neg (by omega)]
      split_ifs <;> simp
    change step (runs three_packets (40 + k)) (three_packets (40 + k)) = _
    rw [ih]
    rcases hacts with hact | hact <;> rw [hact] <;> decide +kernel

theorem three_packets_read :
    (runs three_packets 9).sent.length = 3 ∧
      LeadsTo (runs three_packets) (fun s => 3 ≤ s.sent.length) fun s => 3 ≤ s.read.length := by
  refine ⟨by decide +kernel, (packets_read_of_drains fun t => ?_).2 ?_ ?_ 3⟩
  · rcases lt_or_ge t 40 with ht | ht
    · have hdrains : ∀ t < 40, Drains (runs three_packets t) (three_packets t) := by
        decide +kernel
      exact hdrains t ht
    · obtain ⟨k, rfl⟩ := Nat.exists_eq_add_of_le ht
      have hidle : (runs three_packets (40 + k)).host = .idle := by
        rw [three_packets_quiet]
        decide +kernel
      cases three_packets (40 + k) <;> simp [Drains, hidle]
  · intro t
    exact ⟨2 * t + 9, by omega, true, false, by grind [three_packets]⟩
  · intro t
    exact ⟨2 * t + 10, by omega, by grind [three_packets]⟩

/-- Thirty-three packets are sent before the handler starts. It stops after the thirty-second,
with `qhdr_rx_req` clear; then neither side has anything to do. -/
theorem packet_stranded :
    let s := Run.exec step .init ((List.replicate 33 [.write .one, .fw, .fw]).flatten ++
      List.replicate 129 (.host true false))
    s.queue.length = 1 ∧ s.rx_req = false ∧ step s .fw = s ∧ ∀ c e, step s (.host c e) = s := by
  decide +kernel

end KernelExtra.Cvp
