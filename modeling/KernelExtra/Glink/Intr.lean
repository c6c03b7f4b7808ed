/-
The receive interrupt, `qcom_glink_native_intr`.

The handler goes through the receive FIFO until less than a header is left, or until a function it
calls returns something other than zero. `qcom_glink_handle_intent` returns nothing, and it returns
early when the command is not complete, when its channel does not exist and when there is no memory.
The next pass finds the same command, possibly for ever.

The handler returns, with every pass taking one whole command off, exactly when every INTENT command
it meets is complete, for an open channel, and gets its copy.
-/
import KernelExtra.Glink.Tx
import KernelExtra.Lib.Loop

namespace KernelExtra.Glink

open Loop (whileLoop Taken before)
open Bytes Function Nat

/-! ## Commands -/

def ENOENT : ℤ := 2
def ENXIO : ℤ := 6
def ENOMEM : ℤ := 12
def ENODEV : ℤ := 19

/-- The commands of the protocol. -/
inductive Cmd where
  | VERSION | VERSION_ACK | OPEN | CLOSE | OPEN_ACK | INTENT | RX_DONE | RX_INTENT_REQ
  | RX_INTENT_REQ_ACK | TX_DATA | CLOSE_ACK | TX_DATA_CONT | READ_NOTIF | RX_DONE_W_REUSE
  | SIGNALS
  | unknown
  deriving DecidableEq

def Cmd.of : ℕ → Cmd
  | 0 => .VERSION
  | 1 => .VERSION_ACK
  | 2 => .OPEN
  | 3 => .CLOSE
  | 4 => .OPEN_ACK
  | 5 => .INTENT
  | 6 => .RX_DONE
  | 7 => .RX_INTENT_REQ
  | 8 => .RX_INTENT_REQ_ACK
  | 9 => .TX_DATA
  | 11 => .CLOSE_ACK
  | 12 => .TX_DATA_CONT
  | 13 => .READ_NOTIF
  | 14 => .RX_DONE_W_REUSE
  | 15 => .SIGNALS
  | _ => .unknown

def word (msg : List UInt8) (off n : ℕ) : ℕ := le (fun i => msg.getD i 0) off n

/-! ## The receiving side -/

/-- An intent, with how much of it has been filled. -/
structure Intent where
  id : ℕ
  size : ℕ
  offset : ℕ
  reuse : Bool
  in_use : Bool
  data : Mem

/-- A channel with its intents. -/
structure Channel where
  liids : ℕ → Option Intent
  riids : ℕ → Option Intent
  done_intents : List Intent
  buf : Option Intent
  open_ack : Bool
  intent_req_result : Bool
  intent_req_acked : ℕ
  intent_req_completed : ℕ
  rsigs : ℕ
  has_cb : Bool

/-- What the handler does not decide. -/
structure Fate where
  alloc : ℕ → Bool
  callback : ℕ → ℤ
  send : ℕ → ℤ
  stack : List UInt8

/-- The receiving side of `struct qcom_glink`, with the number of times each of its fates has
been met. -/
structure Receiver where
  rx_pipe : Pipe
  intentless : Bool
  rcids : ℕ → Option ℕ
  lcids : ℕ → Option ℕ
  channel : ℕ → Channel
  rx_queue : List (List UInt8)
  fate : Fate
  allocs : ℕ
  callbacks : ℕ
  sends : ℕ

namespace Receiver

section

variable (g : Receiver)

def modify (ch : ℕ) (f : Channel → Channel) : Receiver :=
  { g with channel := update g.channel ch (f (g.channel ch)) }

def kmalloc : Bool × Receiver := (g.fate.alloc g.allocs, { g with allocs := g.allocs + 1 })

def advance (count : ℕ) : Receiver :=
  { g with rx_pipe := glink_smem_rx_advance g.rx_pipe count }

def qcom_glink_rx_defer (extra : ℕ) : ℤ × Receiver :=
  let extra := align8 64 extra
  if glink_smem_rx_avail g.rx_pipe < 8 + extra then (- ENXIO, g)
  else
    let (ok, g) := g.kmalloc
    if !ok then (-ENOMEM, g)
    else
      let dcmd := glink_smem_rx_peak g.rx_pipe [] 0 (8 + extra)
      (0, { g with rx_queue := g.rx_queue ++ [dcmd] }.advance (8 + extra))

def qcom_glink_rx_open_ack (lcid : ℕ) : ℤ × Receiver :=
  match g.lcids lcid with
  | none => (-EINVAL, g)
  | some ch => (0, g.modify ch fun c => { c with open_ack := true })

end

/-! ### Data -/

def qcom_glink_rx_done (g : Receiver) (ch : ℕ) (intent : Intent) : Receiver :=
  if g.intentless then g
  else
    let g := if intent.reuse then g
      else g.modify ch fun c => { c with liids := update c.liids intent.id none }
    let (ret, g) :=
      if (g.channel ch).done_intents.isEmpty then
        (g.fate.send g.sends, { g with sends := g.sends + 1 })
      else (-EAGAIN, g)
    if ret = 0 then g
    else g.modify ch fun c => { c with done_intents := c.done_intents ++ [intent] }

/-- Where the data of a message goes: nowhere, with the message kept or dropped, or to an intent. -/
inductive Place where
  | keep (ret : ℤ)
  | drop (ret : ℤ)
  | into (intent : Intent)

def rx_data_place (g : Receiver) (ch liid chunk_size left_size : ℕ) : Place × Receiver :=
  if g.intentless then
    match (g.channel ch).buf with
    | some intent => (.into intent, g)
    | none =>
      let (ok, g) := g.kmalloc
      if !ok then (.keep (-ENOMEM), g)
      else
        let (ok, g) := g.kmalloc
        if !ok then (.keep (-ENOMEM), g)
        else
          let intent : Intent :=
            ⟨0xbabababa, (chunk_size + left_size) % 2 ^ 32, 0, false, false, fun _ => 0⟩
          (.into intent, g.modify ch fun c => { c with buf := some intent })
  else
    match (g.channel ch).liids liid with
    | none => (.drop (-ENOENT), g)
    | some intent => (.into intent, g)

def put_intent (g : Receiver) (ch liid : ℕ) (intent : Intent) : Receiver :=
  g.modify ch fun c =>
    if g.intentless then { c with buf := some intent }
    else { c with liids := update c.liids liid (some intent) }

def callback (g : Receiver) (ch : ℕ) : ℤ × Receiver :=
  if (g.channel ch).has_cb then
    let ret := g.fate.callback g.callbacks
    (if ret < 0 ∧ ret ≠ -ENODEV then 0 else ret, { g with callbacks := g.callbacks + 1 })
  else (0, g)

def rx_data_deliver (g : Receiver) (ch liid chunk_size left_size : ℕ) (intent : Intent) :
    ℤ × Receiver :=
  if (intent.size + 2 ^ 64 - intent.offset) % 2 ^ 64 < chunk_size then (0, g)
  else
    let data := glink_smem_rx_peak g.rx_pipe [] 16 chunk_size
    let intent := { intent with
      data := store intent.data intent.offset data
      offset := (intent.offset + chunk_size) % 2 ^ 32 }
    let g := g.put_intent ch liid intent
    if left_size ≠ 0 then (0, g)
    else
      let (ret, g) := g.callback ch
      let intent := { intent with offset := 0 }
      let g := (g.put_intent ch liid intent).modify ch fun c => { c with buf := none }
      (ret, g.qcom_glink_rx_done ch intent)

def rx_data_take (ch liid chunk_size left_size len : ℕ) : Place × Receiver → ℤ × Receiver
  | (.keep ret, g) => (ret, g)
  | (.drop ret, g) => (ret, g.advance len)
  | (.into intent, g) =>
    let r := g.rx_data_deliver ch liid chunk_size left_size intent
    (r.1, r.2.advance len)

def qcom_glink_rx_data (g : Receiver) (avail : ℕ) : ℤ × Receiver :=
  if avail < 16 then (-EAGAIN, g)
  else
    let hdr := glink_smem_rx_peak g.rx_pipe g.fate.stack 0 16
    let chunk_size := word hdr 8 4
    let left_size := word hdr 12 4
    if avail < 16 + chunk_size then (-EAGAIN, g)
    else
      match g.rcids (word hdr 2 2) with
      | none => (0, g.advance (align8 64 (16 + chunk_size)))
      | some ch =>
        rx_data_take ch (word hdr 4 4) chunk_size left_size (align8 64 (16 + chunk_size))
          (g.rx_data_place ch (word hdr 4 4) chunk_size left_size)

/-! ### Intents -/

/-- The loop of `qcom_glink_handle_intent`. An identifier that is taken, or negative as an
`int`, is not stored. -/
def store_intents (ch : ℕ) (msg : List UInt8) : List ℕ → Receiver → Receiver
  | [], g => g
  | i :: rest, g =>
    let (ok, g) := g.kmalloc
    if !ok then g
    else
      let intent : Intent :=
        ⟨word msg (8 + 8 * i + 4) 4, word msg (8 + 8 * i) 4, 0, false, false, fun _ => 0⟩
      let (ok, g) := g.kmalloc
      let fits := ok && ((g.channel ch).riids intent.id).isNone && decide (intent.id < 2 ^ 31)
      store_intents ch msg rest
        (if fits then
          g.modify ch fun c => { c with riids := update c.riids intent.id (some intent) }
        else g)

def qcom_glink_handle_intent (g : Receiver) (cid count avail : ℕ) : Receiver :=
  let msglen := 8 + 8 * count
  if avail < msglen then g
  else
    match g.rcids cid with
    | none => g
    | some ch =>
      let (ok, g) := g.kmalloc
      if !ok then g
      else
        let msg := glink_smem_rx_peak g.rx_pipe [] 0 msglen
        let g := store_intents ch msg (List.range count) g
        let g := g.modify ch fun c => { c with intent_req_completed := c.intent_req_completed + 1 }
        g.advance (align8 64 msglen)

def qcom_glink_handle_rx_done (g : Receiver) (cid iid : ℕ) (reuse : Bool) : Receiver :=
  match g.rcids cid with
  | none => g
  | some ch =>
    match (g.channel ch).riids iid with
    | none => g
    | some intent =>
      let intent := { intent with in_use := false }
      g.modify ch fun c =>
        { c with riids := update c.riids iid (if reuse then some intent else none) }

def qcom_glink_handle_intent_req_ack (g : Receiver) (cid : ℕ) (granted : Bool) : Receiver :=
  match g.rcids cid with
  | none => g
  | some ch => g.modify ch fun c =>
      { c with
        intent_req_result := granted
        intent_req_acked := c.intent_req_acked + 1 }

def native_sigs (signals : ℕ) : ℕ :=
  let signals := if signals.testBit 31 then signals ||| 0x100 else signals
  let signals := if signals.testBit 30 then signals ||| 0x020 else signals
  let signals := if signals.testBit 29 then signals ||| 0x040 else signals
  let signals := if signals.testBit 28 then signals ||| 0x080 else signals
  signals &&& 0x0fff

def qcom_glink_handle_signals (g : Receiver) (rcid signals : ℕ) : Receiver :=
  match g.rcids rcid with
  | none => g
  | some ch => g.modify ch fun c => { c with rsigs := native_sigs signals }

end Receiver

/-! ## The loop -/

/-- A round of the interrupt handler with the eight bytes it has peeked at. -/
structure Intr where
  glink : Receiver
  msg : List UInt8
  ret : ℤ

namespace Intr

section

variable (s : Intr)

def avail : ℕ := glink_smem_rx_avail s.glink.rx_pipe % 2 ^ 32

def more : Bool := decide (8 ≤ s.avail)

def stop : Bool := decide (s.ret ≠ 0)

def head_msg : List UInt8 := glink_smem_rx_peak s.glink.rx_pipe s.msg 0 8

def cmd : Cmd := Cmd.of (word s.head_msg 0 2)
def param1 : ℕ := word s.head_msg 2 2
def param2 : ℕ := word s.head_msg 4 4

def dispatch : ℤ × Receiver :=
  match s.cmd with
  | .VERSION | .VERSION_ACK | .CLOSE | .CLOSE_ACK | .RX_INTENT_REQ =>
    s.glink.qcom_glink_rx_defer 0
  | .OPEN_ACK =>
    let r := s.glink.qcom_glink_rx_open_ack s.param1
    (r.1, r.2.advance 8)
  | .OPEN => s.glink.qcom_glink_rx_defer s.param2
  | .TX_DATA | .TX_DATA_CONT => s.glink.qcom_glink_rx_data s.avail
  | .READ_NOTIF => (s.ret, s.glink.advance 8)
  | .INTENT => (s.ret, s.glink.qcom_glink_handle_intent s.param1 s.param2 s.avail)
  | .RX_DONE => (s.ret, (s.glink.qcom_glink_handle_rx_done s.param1 s.param2 false).advance 8)
  | .RX_DONE_W_REUSE =>
    (s.ret, (s.glink.qcom_glink_handle_rx_done s.param1 s.param2 true).advance 8)
  | .RX_INTENT_REQ_ACK =>
    (s.ret,
      (s.glink.qcom_glink_handle_intent_req_ack s.param1 (decide (s.param2 ≠ 0))).advance 8)
  | .SIGNALS => (s.ret, (s.glink.qcom_glink_handle_signals s.param1 s.param2).advance 8)
  | .unknown => (-EINVAL, s.glink)

def pass : Intr := ⟨s.dispatch.2, s.head_msg, s.dispatch.1⟩

end

def start (glink : Receiver) (msg : List UInt8) : Intr := ⟨glink, msg, 0⟩

def qcom_glink_native_intr (fuel : ℕ) (glink : Receiver) (msg : List UInt8) : Option Intr :=
  whileLoop more stop pass fuel (start glink msg)

/-! ## Commands are consumed whole -/

def chunk (s : Intr) : ℕ := word (glink_smem_rx_peak s.glink.rx_pipe s.glink.fate.stack 0 16) 8 4

def command_len (s : Intr) : ℕ :=
  match s.cmd with
  | .OPEN => 8 + pad8 s.param2
  | .TX_DATA | .TX_DATA_CONT => pad8 (16 + s.chunk)
  | .INTENT => 8 + 8 * s.param2
  | _ => 8

def Good (s : Intr) : Prop :=
  s.pass.stop = true ∨
    (s.pass.glink.rx_pipe.tail.toNat =
        (s.glink.rx_pipe.tail.toNat + s.command_len) % s.glink.rx_pipe.length ∧
      s.command_len ≤ s.avail)

/-- An INTENT command is complete, for an open channel, and gets a copy. -/
def Handled (s : Intr) : Prop :=
  s.cmd = .INTENT → 8 + 8 * s.param2 ≤ s.avail ∧ (s.glink.rcids s.param1).isSome = true ∧
    s.glink.fate.alloc s.glink.allocs = true

def Fits (s : Intr) : Prop :=
  (s.cmd = .TX_DATA ∨ s.cmd = .TX_DATA_CONT) → 16 + s.chunk ≤ s.avail →
    pad8 (16 + s.chunk) ≤ s.avail

/-- The indices are inside a FIFO that is not too long. -/
structure Inside (pipe : Pipe) : Prop where
  short : pipe.length ≤ 2 ^ 31
  tail_lt : pipe.tail.toNat < pipe.length
  head_lt : pipe.head.toNat < pipe.length

/-- Length and indices are multiples of eight. -/
structure Aligned (pipe : Pipe) : Prop where
  words : pipe.length % 8 = 0
  tail_word : pipe.tail.toNat % 8 = 0
  head_word : pipe.head.toNat % 8 = 0

end Intr

/-! ## What the functions do to the FIFO -/

namespace Receiver

variable (g : Receiver)

@[simp] lemma rx_pipe_modify (ch : ℕ) (f : Channel → Channel) :
    (g.modify ch f).rx_pipe = g.rx_pipe := rfl

@[simp] lemma rx_pipe_kmalloc : g.kmalloc.2.rx_pipe = g.rx_pipe := rfl

@[simp] lemma rx_pipe_advance (count : ℕ) :
    (g.advance count).rx_pipe = glink_smem_rx_advance g.rx_pipe count := rfl

@[simp] lemma rx_pipe_callback (ch : ℕ) : (g.callback ch).2.rx_pipe = g.rx_pipe := by
  unfold callback
  split_ifs <;> rfl

@[simp] lemma rx_pipe_rx_done (ch : ℕ) (intent : Intent) :
    (g.qcom_glink_rx_done ch intent).rx_pipe = g.rx_pipe := by
  unfold qcom_glink_rx_done
  split_ifs
  · rfl
  · simp only
    split_ifs <;> rfl
  · simp only
    split_ifs <;> rfl

@[simp] lemma rx_pipe_rx_data_deliver (ch liid chunk_size left_size : ℕ) (intent : Intent) :
    (g.rx_data_deliver ch liid chunk_size left_size intent).2.rx_pipe = g.rx_pipe := by
  unfold rx_data_deliver
  split_ifs
  · rfl
  · rfl
  · rw [rx_pipe_rx_done, rx_pipe_modify]
    exact rx_pipe_callback _ ch

@[simp] lemma rx_pipe_open_ack (lcid : ℕ) :
    (g.qcom_glink_rx_open_ack lcid).2.rx_pipe = g.rx_pipe := by
  unfold qcom_glink_rx_open_ack
  split <;> rfl

@[simp] lemma rx_pipe_handle_rx_done (cid iid : ℕ) (reuse : Bool) :
    (g.qcom_glink_handle_rx_done cid iid reuse).rx_pipe = g.rx_pipe := by
  unfold qcom_glink_handle_rx_done
  split
  · rfl
  · split <;> rfl

@[simp] lemma rx_pipe_handle_intent_req_ack (cid : ℕ) (granted : Bool) :
    (g.qcom_glink_handle_intent_req_ack cid granted).rx_pipe = g.rx_pipe := by
  unfold qcom_glink_handle_intent_req_ack
  split <;> rfl

@[simp] lemma rx_pipe_handle_signals (rcid signals : ℕ) :
    (g.qcom_glink_handle_signals rcid signals).rx_pipe = g.rx_pipe := by
  unfold qcom_glink_handle_signals
  split <;> rfl

@[simp] lemma rx_pipe_store_intents (ch : ℕ) (msg : List UInt8) (l : List ℕ) :
    (store_intents ch msg l g).rx_pipe = g.rx_pipe := by
  induction l generalizing g with
  | nil => rfl
  | cons i rest ih =>
    simp only [store_intents]
    split_ifs
    · rfl
    · rw [ih]
      rfl
    · rw [ih]
      rfl

lemma rx_data_place_spec (ch liid chunk_size left_size : ℕ) :
    (g.rx_data_place ch liid chunk_size left_size).2.rx_pipe = g.rx_pipe ∧
      ∀ ret, (g.rx_data_place ch liid chunk_size left_size).1 = .keep ret → ret ≠ 0 := by
  unfold rx_data_place
  split_ifs
  · split
    · exact ⟨rfl, nofun⟩
    · simp only
      split_ifs
      · refine ⟨rfl, ?_⟩
        rintro _ ⟨⟩
        decide
      · refine ⟨rfl, ?_⟩
        rintro _ ⟨⟩
        decide
      · exact ⟨rfl, nofun⟩
  · split
    · exact ⟨rfl, nofun⟩
    · exact ⟨rfl, nofun⟩

/-- **A deferred command** is taken off whole, or the loop is left. -/
theorem rx_defer_spec (extra : ℕ) :
    (g.qcom_glink_rx_defer extra).1 ≠ 0 ∨
      ((g.qcom_glink_rx_defer extra).2.rx_pipe =
          glink_smem_rx_advance g.rx_pipe (8 + align8 64 extra) ∧
        8 + align8 64 extra ≤ glink_smem_rx_avail g.rx_pipe) := by
  unfold qcom_glink_rx_defer
  simp only
  split_ifs with hless halloc
  · exact .inl (show - ENXIO ≠ 0 by decide)
  · exact .inl (show -ENOMEM ≠ 0 by decide)
  · exact .inr ⟨rfl, Nat.le_of_not_lt hless⟩

lemma rx_data_take_spec (ch liid chunk_size left_size len : ℕ) (placed : Place × Receiver)
    (hkeep : ∀ ret, placed.1 = .keep ret → ret ≠ 0) :
    (rx_data_take ch liid chunk_size left_size len placed).1 ≠ 0 ∨
      (rx_data_take ch liid chunk_size left_size len placed).2.rx_pipe =
        glink_smem_rx_advance placed.2.rx_pipe len := by
  obtain ⟨place, g'⟩ := placed
  cases place with
  | keep ret => exact .inl (hkeep ret rfl)
  | drop ret => exact .inr (rx_pipe_advance g' len)
  | into intent =>
    refine .inr ((rx_pipe_advance _ len).trans ?_)
    rw [rx_pipe_rx_data_deliver]

/-- **A data command** is taken off whole, or the loop is left. -/
theorem rx_data_spec (avail : ℕ) {hdr : List UInt8}
    (hhdr : glink_smem_rx_peak g.rx_pipe g.fate.stack 0 16 = hdr) :
    (g.qcom_glink_rx_data avail).1 ≠ 0 ∨
      ((g.qcom_glink_rx_data avail).2.rx_pipe =
          glink_smem_rx_advance g.rx_pipe (align8 64 (16 + word hdr 8 4)) ∧
        16 + word hdr 8 4 ≤ avail) := by
  unfold qcom_glink_rx_data
  rw [hhdr]
  by_cases hshort : avail < 16
  · rw [if_pos hshort]
    exact .inl (show -EAGAIN ≠ 0 by decide)
  rw [if_neg hshort]
  by_cases hless : avail < 16 + word hdr 8 4
  · rw [if_pos hless]
    exact .inl (show -EAGAIN ≠ 0 by decide)
  rw [if_neg hless]
  have hcomplete := Nat.le_of_not_lt hless
  generalize align8 64 (16 + word hdr 8 4) = len
  cases g.rcids (word hdr 2 2) with
  | none => exact .inr ⟨rx_pipe_advance g len, hcomplete⟩
  | some ch =>
    obtain ⟨hpipe, hkeep⟩ := g.rx_data_place_spec ch (word hdr 4 4) (word hdr 8 4) (word hdr 12 4)
    have htake := rx_data_take_spec ch (word hdr 4 4) (word hdr 8 4) (word hdr 12 4) len _ hkeep
    rw [hpipe] at htake
    exact htake.imp_right fun h => ⟨h, hcomplete⟩

/-- **An INTENT command** is taken off whole, or it stays where it is. -/
theorem handle_intent_spec (cid count avail : ℕ) :
    (8 + 8 * count ≤ avail ∧ (g.rcids cid).isSome = true ∧ g.fate.alloc g.allocs = true ∧
        (g.qcom_glink_handle_intent cid count avail).rx_pipe =
          glink_smem_rx_advance g.rx_pipe (align8 64 (8 + 8 * count))) ∨
      (¬ (8 + 8 * count ≤ avail ∧ (g.rcids cid).isSome = true ∧ g.fate.alloc g.allocs = true) ∧
        (g.qcom_glink_handle_intent cid count avail).rx_pipe = g.rx_pipe) := by
  unfold qcom_glink_handle_intent
  by_cases hless : avail < 8 + 8 * count
  · rw [if_pos hless]
    exact .inr ⟨fun h => absurd h.1 (by omega), rfl⟩
  rw [if_neg hless]
  have hcomplete := Nat.le_of_not_lt hless
  cases hch : g.rcids cid with
  | none => exact .inr ⟨fun h => Bool.noConfusion h.2.1, rfl⟩
  | some ch =>
    simp only
    cases halloc : g.kmalloc.1 with
    | false =>
      refine .inr ⟨fun h => ?_, rfl⟩
      rw [show g.kmalloc.1 = true from h.2.2] at halloc
      exact Bool.noConfusion halloc
    | true =>
      refine .inl ⟨hcomplete, rfl, halloc, ?_⟩
      rw [if_neg (by decide), rx_pipe_advance, rx_pipe_modify, rx_pipe_store_intents,
        rx_pipe_kmalloc]

end Receiver

/-! ## One pass -/

namespace Intr

variable {s : Intr}

lemma word_lt (msg : List UInt8) (off n : ℕ) : word msg off n < 256 ^ n := le_lt ..

lemma align_param (msg : List UInt8) (off k : ℕ) (hk : k ≤ 16) :
    align8 64 (k + word msg off 4) = pad8 (k + word msg off 4) := by
  have := word_lt msg off 4
  exact align8_eq (by omega)

/-- **One pass.** -/
theorem dispatch_takes (hmore : 8 ≤ s.avail)
    (havail : glink_smem_rx_avail s.glink.rx_pipe = s.avail) (hh : s.Handled) :
    s.dispatch.1 ≠ 0 ∨
      (s.dispatch.2.rx_pipe = glink_smem_rx_advance s.glink.rx_pipe s.command_len ∧
        (s.Fits → s.command_len ≤ s.avail)) := by
  have hdata : (s.glink.qcom_glink_rx_data s.avail).1 ≠ 0 ∨
      ((s.glink.qcom_glink_rx_data s.avail).2.rx_pipe =
          glink_smem_rx_advance s.glink.rx_pipe (pad8 (16 + s.chunk)) ∧
        16 + s.chunk ≤ s.avail) := by
    have := s.glink.rx_data_spec s.avail rfl
    rwa [align_param _ _ 16 (le_rfl)] at this
  have hdefer := s.glink.rx_defer_spec
  rw [havail] at hdefer
  cases hcmd : s.cmd with
  | VERSION | VERSION_ACK | CLOSE | CLOSE_ACK | RX_INTENT_REQ =>
    simp only [dispatch, command_len, hcmd]
    have := hdefer 0
    exact this.imp_right fun h => ⟨h.1, fun _ => h.2⟩
  | OPEN =>
    simp only [dispatch, command_len, hcmd]
    have hpad := align_param s.head_msg 4 0 (by omega)
    rw [zero_add, ← param2] at hpad
    have := hdefer s.param2
    rw [hpad] at this
    exact this.imp_right fun h => ⟨h.1, fun _ => h.2⟩
  | OPEN_ACK =>
    simp only [dispatch, command_len, hcmd]
    exact .inr ⟨by rw [Receiver.rx_pipe_advance, Receiver.rx_pipe_open_ack], fun _ => hmore⟩
  | TX_DATA =>
    simp only [dispatch, command_len, hcmd]
    exact hdata.imp_right fun h => ⟨h.1, fun hfit => hfit (.inl hcmd) h.2⟩
  | TX_DATA_CONT =>
    simp only [dispatch, command_len, hcmd]
    exact hdata.imp_right fun h => ⟨h.1, fun hfit => hfit (.inr hcmd) h.2⟩
  | READ_NOTIF =>
    simp only [dispatch, command_len, hcmd]
    exact .inr ⟨rfl, fun _ => hmore⟩
  | INTENT =>
    simp only [dispatch, command_len, hcmd]
    have hlen : align8 64 (8 + 8 * s.param2) = 8 + 8 * s.param2 := by
      have := word_lt s.head_msg 4 4
      rw [← param2] at this
      rw [align8_eq (by omega), pad8]
      omega
    obtain ⟨hcomplete, _, _, htaken⟩ | ⟨hnot, _⟩ :=
      s.glink.handle_intent_spec s.param1 s.param2 s.avail
    · rw [hlen] at htaken
      exact .inr ⟨htaken, fun _ => hcomplete⟩
    · exact absurd (hh hcmd) hnot
  | RX_DONE | RX_DONE_W_REUSE =>
    simp only [dispatch, command_len, hcmd]
    exact .inr ⟨by rw [Receiver.rx_pipe_advance, Receiver.rx_pipe_handle_rx_done], fun _ => hmore⟩
  | RX_INTENT_REQ_ACK =>
    simp only [dispatch, command_len, hcmd]
    exact .inr ⟨by rw [Receiver.rx_pipe_advance, Receiver.rx_pipe_handle_intent_req_ack],
      fun _ => hmore⟩
  | SIGNALS =>
    simp only [dispatch, command_len, hcmd]
    exact .inr ⟨by rw [Receiver.rx_pipe_advance, Receiver.rx_pipe_handle_signals], fun _ => hmore⟩
  | unknown =>
    simp only [dispatch, hcmd]
    exact .inl (by decide)

lemma dispatch_stuck (hh : ¬ s.Handled) :
    s.dispatch.1 = s.ret ∧ s.dispatch.2.rx_pipe = s.glink.rx_pipe := by
  rw [Handled, Classical.not_imp] at hh
  obtain ⟨hcmd, hnot⟩ := hh
  simp only [dispatch, hcmd]
  obtain ⟨hcomplete, hch, halloc, _⟩ | ⟨_, hsame⟩ :=
    s.glink.handle_intent_spec s.param1 s.param2 s.avail
  · exact absurd ⟨hcomplete, hch, halloc⟩ hnot
  · exact ⟨trivial, hsame⟩

lemma command_len_pos (s : Intr) : 0 < s.command_len := by
  have hpad := pad8_spec (16 + s.chunk)
  unfold command_len
  split <;> omega

lemma command_len_words (s : Intr) : s.command_len % 8 = 0 := by
  have hopen := pad8_spec s.param2
  have hdata := pad8_spec (16 + s.chunk)
  unfold command_len
  split <;> omega

lemma Inside.spans {pipe : Pipe} (h : Inside pipe) : ∃ used, pipe.Spans used := by
  have hshort := h.short
  have htail := h.tail_lt
  have hhead := h.head_lt
  rcases lt_or_ge pipe.head.toNat pipe.tail.toNat with hlt | hge
  · refine ⟨pipe.length - pipe.tail.toNat + pipe.head.toNat, by omega, htail, by omega, ?_⟩
    rw [mod_eq_sub_mod (by omega), mod_eq_of_lt (by omega)]
    omega
  · refine ⟨pipe.head.toNat - pipe.tail.toNat, by omega, htail, by omega, ?_⟩
    rw [mod_eq_of_lt (by omega)]
    omega

lemma avail_eq {used : ℕ} (h : s.glink.rx_pipe.Spans used) :
    glink_smem_rx_avail s.glink.rx_pipe = used ∧ s.avail = used := by
  have hsmall := h.small
  have hroom := h.room
  have havail := glink_smem_rx_avail_eq h
  refine ⟨havail, ?_⟩
  rw [avail, havail, mod_eq_of_lt (by omega)]

lemma Aligned.fits (hin : Inside s.glink.rx_pipe) (h : Aligned s.glink.rx_pipe) : s.Fits := by
  intro _ hcomplete
  obtain ⟨used, hspans⟩ := hin.spans
  have hwords := h.words
  have htail := h.tail_word
  have hhead := h.head_word
  rw [(avail_eq hspans).2] at hcomplete ⊢
  have hused : used % 8 = 0 := by
    rcases hspans.head_cases with ⟨_, heq⟩ | ⟨_, heq⟩ <;> omega
  rw [pad8]
  omega

/-- The ends are inside, nothing has failed, and no padding runs past the head from now on. -/
structure Inv (s : Intr) : Prop where
  inside : Inside s.glink.rx_pipe
  ret_zero : s.ret = 0
  fits : Aligned s.glink.rx_pipe ∨
    ∀ n, Taken more stop pass n s → (before pass n s).Fits

lemma Inv.fits_now (h : s.Inv) (hmore : s.more = true) : s.Fits :=
  h.fits.elim (fun haligned => haligned.fits h.inside) fun hfits => hfits 0 hmore

lemma Inv.good_iff (h : s.Inv) (hmore : s.more = true) : s.Good ↔ s.Handled := by
  obtain ⟨used, hspans⟩ := h.inside.spans
  obtain ⟨hraw, havail⟩ := avail_eq hspans
  have hshort := h.inside.short
  have htail := h.inside.tail_lt
  have hroom := hspans.room
  have hpos := s.command_len_pos
  constructor
  · intro hgood
    by_contra hnot
    obtain ⟨hret, hsame⟩ := dispatch_stuck hnot
    rcases hgood with hstop | ⟨hadv, hle⟩
    · rw [stop, decide_eq_true_eq] at hstop
      exact hstop (hret.trans h.ret_zero)
    · -- the tail has not moved, and less than a whole turn would have been right
      rw [show s.pass.glink.rx_pipe = s.glink.rx_pipe from hsame] at hadv
      rcases lt_or_ge (s.glink.rx_pipe.tail.toNat + s.command_len) s.glink.rx_pipe.length
        with hlt | hge
      · rw [mod_eq_of_lt hlt] at hadv
        omega
      · rw [mod_eq_sub_mod hge, mod_eq_of_lt (by omega)] at hadv
        omega
  · intro hh
    have hmore' : 8 ≤ s.avail := of_decide_eq_true hmore
    rcases dispatch_takes hmore' (hraw.trans havail.symm) hh with hstop | ⟨htake, hfit⟩
    · exact .inl (decide_eq_true hstop)
    · have hle := hfit (h.fits_now hmore)
      refine .inr ⟨?_, hle⟩
      rw [show s.pass.glink.rx_pipe = _ from htake]
      exact glink_smem_rx_advance_eq (by omega)

lemma Inv.pass (h : s.Inv) (hmore : s.more = true) (hgood : s.Good)
    (hstop : s.pass.stop = false) : s.pass.Inv ∧ s.pass.avail < s.avail := by
  obtain ⟨used, hspans⟩ := h.inside.spans
  obtain ⟨hraw, havail⟩ := avail_eq hspans
  have hmore' : 8 ≤ s.avail := of_decide_eq_true hmore
  have hret : s.pass.ret = 0 := by simpa [stop] using hstop
  obtain ⟨htake, hfit⟩ := (dispatch_takes hmore' (hraw.trans havail.symm)
    ((h.good_iff hmore).1 hgood)).resolve_left fun hne => hne hret
  have hle := hfit (h.fits_now hmore)
  have hpos := s.command_len_pos
  have hwords := s.command_len_words
  have hshort := h.inside.short
  have htail_lt := h.inside.tail_lt
  have hroom := hspans.room
  have hpipe : s.pass.glink.rx_pipe = glink_smem_rx_advance s.glink.rx_pipe s.command_len := htake
  have htail : (glink_smem_rx_advance s.glink.rx_pipe s.command_len).tail.toNat =
      (s.glink.rx_pipe.tail.toNat + s.command_len) % s.glink.rx_pipe.length :=
    glink_smem_rx_advance_eq (by omega)
  have hnext : s.pass.glink.rx_pipe.Spans (used - s.command_len) := by
    rw [hpipe]
    refine ⟨hspans.small, ?_, ?_, ?_⟩
    · rw [htail]
      exact mod_lt _ (by omega)
    · change used - s.command_len < s.glink.rx_pipe.length
      omega
    · refine hspans.head_eq.trans ?_
      rw [htail]
      change _ = (_ % s.glink.rx_pipe.length + _) % s.glink.rx_pipe.length
      rw [mod_add_mod]
      congr 1
      omega
  refine ⟨⟨⟨?_, hnext.inside, hnext.head_lt⟩, hret, ?_⟩, ?_⟩
  · rw [hpipe]
    exact hshort
  · rcases h.fits with haligned | hfits
    · refine .inl ⟨?_, ?_, ?_⟩
      · rw [hpipe]
        exact haligned.words
      · have hword := haligned.tail_word
        rw [hpipe, htail, mod_mod_of_dvd _ (dvd_of_mod_eq_zero haligned.words)]
        omega
      · rw [hpipe]
        exact haligned.head_word
    · exact .inr fun n hn => hfits (n + 1) ⟨hmore, hstop, hn⟩
  · rw [(avail_eq hnext).2, havail]
    omega

end Intr

/-! ## The handler -/

/-- **The handler makes progress** exactly when it handles every INTENT command it meets. -/
theorem intr_progress_iff (glink : Receiver) (msg : List UInt8) (hin : Intr.Inside glink.rx_pipe)
    (hfit : Intr.Aligned glink.rx_pipe ∨
      ∀ n, Taken Intr.more Intr.stop Intr.pass n (Intr.start glink msg) →
        (before Intr.pass n (Intr.start glink msg)).Fits) :
    ((∃ fuel, (Intr.qcom_glink_native_intr fuel glink msg).isSome) ∧
        ∀ n, Taken Intr.more Intr.stop Intr.pass n (Intr.start glink msg) →
          (before Intr.pass n (Intr.start glink msg)).Good) ↔
      ∀ n, Taken Intr.more Intr.stop Intr.pass n (Intr.start glink msg) →
        (before Intr.pass n (Intr.start glink msg)).Handled := by
  apply Loop.progress_iff (I := Intr.Inv) (μ := Intr.avail)
  · exact fun s hs hmore => hs.good_iff hmore
  · exact fun s hs hmore hgood hstop => hs.pass hmore hgood hstop
  · exact ⟨hin, rfl, hfit⟩

def one_command (cmd : List UInt8) : Receiver where
  rx_pipe := ⟨32, 0, 8, fun i => cmd.getD i 0⟩
  intentless := false
  rcids := fun _ => none
  lcids := fun _ => none
  channel := fun _ => ⟨fun _ => none, fun _ => none, [], none, false, false, 0, 0, 0, false⟩
  rx_queue := []
  fate := ⟨fun _ => true, fun _ => 0, fun _ => 0, []⟩
  allocs := 0
  callbacks := 0
  sends := 0

theorem read_notif_progress :
    Intr.Inside (one_command read_notif).rx_pipe ∧ Intr.Aligned (one_command read_notif).rx_pipe ∧
      (∃ fuel, (Intr.qcom_glink_native_intr fuel (one_command read_notif) []).isSome) ∧
        ∀ n, Taken Intr.more Intr.stop Intr.pass n (Intr.start (one_command read_notif) []) →
          (before Intr.pass n (Intr.start (one_command read_notif) [])).Good := by
  have hin : Intr.Inside (one_command read_notif).rx_pipe := ⟨by decide, by decide, by decide⟩
  have haligned : Intr.Aligned (one_command read_notif).rx_pipe :=
    ⟨by decide, by decide, by decide⟩
  refine ⟨hin, haligned, (intr_progress_iff _ [] hin (.inl haligned)).2 ?_⟩
  intro n hn
  cases n with
  | zero => exact fun hcmd => absurd hcmd (by decide)
  | succ n => exact absurd hn.2.2.more_zero (by decide)

lemma Intr.hangs (fuel : ℕ) {s : Intr} (hin : Inside s.glink.rx_pipe) (hmore : s.more = true)
    (hret : s.ret = 0) (hcmd : s.cmd = .INTENT) (hch : s.glink.rcids s.param1 = none) :
    whileLoop more stop pass fuel s = none := by
  induction fuel generalizing s with
  | zero => rfl
  | succ fuel ih =>
    have hsame : s.glink.qcom_glink_handle_intent s.param1 s.param2 s.avail = s.glink := by
      unfold Receiver.qcom_glink_handle_intent
      simp only [hch]
      split_ifs <;> rfl
    have hpass : s.pass = ⟨s.glink, s.head_msg, 0⟩ := by
      simp [pass, dispatch, hcmd, hsame, hret]
    obtain ⟨used, hspans⟩ := hin.spans
    have hmsg : s.pass.head_msg = s.head_msg := by
      rw [hpass, head_msg, head_msg, glink_smem_rx_peak_eq hspans, glink_smem_rx_peak_eq hspans]
    have hglink : s.pass.glink = s.glink := by rw [hpass]
    have hgo : s.pass.stop = false := by rw [hpass]; rfl
    have havail : s.pass.avail = s.avail := by rw [avail, avail, hglink]
    have hcmd' : s.pass.cmd = s.cmd := by rw [cmd, cmd, hmsg]
    have hparam : s.pass.param1 = s.param1 := by rw [param1, param1, hmsg]
    rw [whileLoop, if_pos hmore, if_neg (by rw [hgo]; exact nofun)]
    apply ih
    · rw [hglink]
      exact hin
    · rw [more, havail]
      exact hmore
    · rw [hpass]
    · rw [hcmd']
      exact hcmd
    · rw [hparam, hglink]
      exact hch

/-- The failing input: one INTENT command for channel 1, without intents, and no channels. -/
theorem intent_for_no_channel_hangs :
    ¬ ∃ fuel, (Intr.qcom_glink_native_intr fuel
      (one_command (toLe 2 5 ++ toLe 2 1 ++ toLe 4 0)) []).isSome = true := by
  rintro ⟨fuel, hsome⟩
  have hnone : Intr.qcom_glink_native_intr fuel
      (one_command (toLe 2 5 ++ toLe 2 1 ++ toLe 4 0)) [] = none :=
    Intr.hangs fuel ⟨by decide, by decide, by decide⟩ (by decide) rfl (by decide) rfl
  rw [hnone] at hsome
  exact Bool.noConfusion hsome

end KernelExtra.Glink
