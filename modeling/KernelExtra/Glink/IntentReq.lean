/-
Waiting for an intent, `qcom_glink_request_intent` and what answers it.

A sender that finds no free intent sends RX_INTENT_REQ and waits twice, for the acknowledgement and
then for an INTENT command. Every request sets the counters of both back to zero, and the mutex
`intent_req_lock` is held over the first wait only. The model has one channel in one direction.

A sender in its second wait is not always answered. The worker grants a request without sending an
INTENT when it finds one that can be used again, or when the channel is not announced yet; and a
request sets the counter back while another sender waits for it. There is no other reason, as long
as no first wait times out.
-/
import KernelExtra.Glink.Intr

namespace KernelExtra.Glink.IntentReq

open Function List

def ECANCELED : ℤ := 125
def ETIMEDOUT : ℤ := 110

def SZ_8K : ℕ := 8192

/-! ## Commands -/

/-- Commands from the sender to the other side. -/
inductive Forth where
  | rx_intent_req (size : ℕ)
  | tx_data (liid chunk_size left_size : ℕ)
  deriving DecidableEq

/-- Commands of the other side. -/
inductive Back where
  | intent (iid size : ℕ)
  | rx_intent_req_ack (granted : Bool)
  | rx_done (iid : ℕ) (reuse : Bool)
  deriving DecidableEq

def Forth.isReq : Forth → Bool
  | .rx_intent_req _ => true
  | .tx_data .. => false

def Back.isIntent : Back → Bool
  | .intent .. => true
  | .rx_intent_req_ack _ | .rx_done .. => false

def Back.isAck : Back → Bool
  | .rx_intent_req_ack _ => true
  | .intent .. | .rx_done .. => false

/-! ## The two ends -/

/-- An intent of the other side, as the sender knows it. -/
structure RemoteIntent where
  id : ℕ
  size : ℕ
  in_use : Bool
  deriving DecidableEq

/-- The same on its own side. -/
structure LocalIntent where
  size : ℕ
  reuse : Bool
  advertised : Bool
  offset : ℕ
  deriving DecidableEq

/-- Where a sender is in `__qcom_glink_send`. -/
inductive Sender where
  | idle
  | looking (len : ℕ)
  | requesting (len : ℕ)
  | locked (len : ℕ)
  | cleared (len : ℕ)
  | asking (len : ℕ)
  | acking (len : ℕ)
  | completing (len : ℕ)
  | sending (iid left : ℕ)
  | returned (ret : ℤ)
  deriving DecidableEq

def Sender.holds : Sender → Bool
  | .locked _ | .cleared _ | .asking _ | .acking _ => true
  | .idle | .looking _ | .requesting _ | .completing _ | .sending .. | .returned _ => false

def Sender.isAcking : Sender → Bool
  | .acking _ => true
  | _ => false

def Sender.isCompleting : Sender → Bool
  | .completing _ => true
  | _ => false

/-- Where the other side is with a request. -/
inductive Worker where
  | idle
  | allocated (iid : ℕ)
  | advertising (iid : ℕ)
  | acking (granted : Bool)
  deriving DecidableEq

/-- Where `qcom_glink_announce_create` is, with the groups of intents still to be allocated. It
walks over the pending intents from a cursor on. -/
inductive Announcer where
  | idle
  | serving (cursor : ℕ) (groups : List (ℕ × ℕ))
  | base (groups : List (ℕ × ℕ))
  | offering (iid : ℕ) (cursor : Option ℕ) (groups : List (ℕ × ℕ))
  | advertising (iid : ℕ) (cursor : Option ℕ) (groups : List (ℕ × ℕ))
  deriving DecidableEq

def Worker.isAdvertising : Worker → Bool
  | .advertising _ => true
  | .idle | .allocated _ | .acking _ => false

def Announcer.isAdvertising : Announcer → Bool
  | .advertising .. => true
  | .idle | .serving .. | .base _ | .offering .. => false

/-- The channel at both ends, and the FIFOs between them. Intents are found by their number also
when they have been freed. -/
structure Link where
  riids : List RemoteIntent
  intent_req_lock : Option ℕ
  intent_req_acked : ℕ
  intent_req_completed : ℕ
  intent_req_result : Bool
  task : List Sender
  forth : List Forth
  back : List Back
  rx_queue : List ℕ
  liids : List ℕ
  next_liid : ℕ
  intent : ℕ → LocalIntent
  done_intents : List (ℕ × Bool)
  channel_ready : Bool
  worker : Worker
  announcer : Announcer

namespace Link

def init (n : ℕ) : Link where
  riids := []
  intent_req_lock := none
  intent_req_acked := 0
  intent_req_completed := 0
  intent_req_result := false
  task := List.replicate n .idle
  forth := []
  back := []
  rx_queue := []
  liids := []
  next_liid := 1
  intent := fun _ => ⟨0, false, false, 0⟩
  done_intents := []
  channel_ready := false
  worker := .idle
  announcer := .idle

/-! ### The senders -/

/-- The loop over `riids`: the smallest free intent that is large enough, and no further than
one that fits exactly. -/
def pick (len : ℕ) : List RemoteIntent → Option RemoteIntent → Option RemoteIntent
  | [], found => found
  | tmp :: rest, found =>
    if tmp.size ≥ len ∧ tmp.in_use = false then
      let found := match found with
        | none => tmp
        | some intent => if intent.size > tmp.size then tmp else intent
      if found.size = len then some found else pick len rest (some found)
    else pick len rest found

section

variable (s : Link)

def goto (t : ℕ) (k : Sender) : Link := { s with task := s.task.set t k }

/-- A sender looks for an intent that is large enough. -/
def look (t len : ℕ) : Link :=
  match pick len s.riids none with
  | some intent =>
    let riids := s.riids.map fun r => if r.id = intent.id then { r with in_use := true } else r
    { s with riids }.goto t (.sending intent.id len)
  | none => s.goto t (.requesting len)

def send_chunk (t iid left : ℕ) : Link :=
  let chunk := min left SZ_8K
  let cmd := Forth.tx_data iid chunk (left - chunk)
  { s with forth := s.forth ++ [cmd] }.goto t
    (if left - chunk = 0 then .returned 0 else .sending iid (left - chunk))

def next (t : ℕ) : Sender → Link
  | .idle | .returned _ => s
  | .looking len => s.look t len
  | .requesting len =>
    match s.intent_req_lock with
    | none => { s with intent_req_lock := some t }.goto t (.locked len)
    | some _ => s
  | .locked len => { s with intent_req_acked := 0 }.goto t (.cleared len)
  | .cleared len => { s with intent_req_completed := 0 }.goto t (.asking len)
  | .asking len => { s with forth := s.forth ++ [Forth.rx_intent_req len] }.goto t (.acking len)
  | .acking len =>
    if s.intent_req_acked = 0 then s
    else { s with intent_req_lock := none }.goto t
      (if s.intent_req_result then .completing len else .returned (-ECANCELED))
  | .completing len =>
    if s.intent_req_completed = 0 then s
    else s.goto t (if s.intent_req_result then .looking len else .returned (-ECANCELED))
  | .sending iid left => s.send_chunk t iid left

def timeout (t : ℕ) : Sender → Link
  | .acking _ =>
    if s.intent_req_acked = 0 then
      { s with intent_req_lock := none }.goto t (.returned (-ETIMEDOUT))
    else s
  | .completing _ => if s.intent_req_completed = 0 then s.goto t (.returned (-ETIMEDOUT)) else s
  | _ => s

/-- A command of the other side is handled. -/
def receive : Link :=
  match s.back with
  | [] => s
  | .intent iid size :: rest =>
    let riids := if s.riids.any (·.id == iid) then s.riids
      else s.riids.orderedInsert (fun a b => a.id ≤ b.id) ⟨iid, size, false⟩
    { s with riids, intent_req_completed := s.intent_req_completed + 1, back := rest }
  | .rx_intent_req_ack granted :: rest =>
    { s with
      intent_req_result := granted
      intent_req_acked := s.intent_req_acked + 1
      back := rest }
  | .rx_done iid reuse :: rest =>
    let riids := if reuse then
        s.riids.map fun r => if r.id = iid then { r with in_use := false } else r
      else s.riids.filter (·.id ≠ iid)
    { s with riids, back := rest }

end

/-! ### The receiver -/

def rx_done (s : Link) (iid : ℕ) (sent : Bool) : Link :=
  let reuse := (s.intent iid).reuse
  let s := if reuse then s else { s with liids := s.liids.erase iid }
  if s.done_intents.isEmpty && sent then { s with back := s.back ++ [.rx_done iid reuse] }
  else { s with done_intents := s.done_intents ++ [(iid, reuse)] }

section

variable (s : Link)

def rx_data (iid chunk_size left_size : ℕ) (sent : Bool) : Link :=
  if iid ∈ s.liids then
    let intent := s.intent iid
    if intent.size - intent.offset < chunk_size then s
    else
      let offset := if left_size = 0 then 0 else intent.offset + chunk_size
      let s := { s with intent := update s.intent iid { intent with offset } }
      if left_size = 0 then s.rx_done iid sent else s
  else s

def intr (sent : Bool) : Link :=
  match s.forth with
  | [] => s
  | .rx_intent_req size :: rest => { s with rx_queue := s.rx_queue ++ [size], forth := rest }
  | .tx_data iid chunk_size left_size :: rest =>
    { s with forth := rest }.rx_data iid chunk_size left_size sent

def done_work : Link :=
  match s.done_intents with
  | [] => s
  | (iid, reuse) :: rest =>
    { s with done_intents := rest, back := s.back ++ [.rx_done iid reuse] }

def alloc_intent (size : ℕ) (reuse : Bool) : Link :=
  { s with
    liids := s.liids ++ [s.next_liid]
    next_liid := s.next_liid + 1
    intent := update s.intent s.next_liid ⟨size, reuse, false, 0⟩ }

def set_advertised (iid : ℕ) : Link :=
  { s with intent := update s.intent iid { s.intent iid with advertised := true } }

def tx_intent (iid : ℕ) : Link :=
  { s with back := s.back ++ [.intent iid (s.intent iid).size] }

def reusable (size : ℕ) : Bool :=
  s.liids.any fun iid => decide ((s.intent iid).size ≥ size) && (s.intent iid).reuse

/-- The request is handled: an intent is allocated, advertised and acknowledged. -/
def work (alloc : Bool) : Link :=
  match s.worker with
  | .idle =>
    match s.rx_queue with
    | [] => s
    | size :: rest =>
      if s.reusable size then { s with rx_queue := rest, worker := .acking true }
      else if alloc then
        { s.alloc_intent size false with rx_queue := rest, worker := .allocated s.next_liid }
      else { s with rx_queue := rest, worker := .acking false }
  | .allocated iid =>
    if s.channel_ready ∧ (s.intent iid).advertised = false then
      { s.set_advertised iid with worker := .advertising iid }
    else { s with worker := .acking true }
  | .advertising iid => { s.tx_intent iid with worker := .acking true }
  | .acking granted => { s with back := s.back ++ [.rx_intent_req_ack granted], worker := .idle }

end

def Announcer.resume (cursor : Option ℕ) (groups : List (ℕ × ℕ)) : Announcer :=
  match cursor with
  | some c => .serving c groups
  | none => .base groups

def announce (s : Link) (alloc : Bool) : Announcer → Link
  | .idle => s
  | .serving cursor groups =>
    match s.liids.find? fun iid =>
        decide (cursor ≤ iid) && !(s.intent iid).reuse && !(s.intent iid).advertised with
    | some iid => { s with announcer := .offering iid (some (iid + 1)) groups }
    | none => { s with announcer := .base groups }
  | .base [] => { s with announcer := .idle }
  | .base ((_, 0) :: groups) => { s with announcer := .base groups }
  | .base ((size, n + 1) :: groups) =>
    if alloc then
      { s.alloc_intent size true with
        announcer := .offering s.next_liid none ((size, n) :: groups) }
    else { s with announcer := .base groups }
  | .offering iid cursor groups =>
    if (s.intent iid).advertised then { s with announcer := Announcer.resume cursor groups }
    else { s.set_advertised iid with announcer := .advertising iid cursor groups }
  | .advertising iid cursor groups =>
    { s.tx_intent iid with announcer := Announcer.resume cursor groups }

end Link

/-- The steps of senders and of the other side. -/
inductive Action where
  | call (t len : ℕ)
  | next (t : ℕ)
  | timeout (t : ℕ)
  | receive
  | intr (sent : Bool)
  | done_work
  | work (alloc : Bool)
  | create (groups : List (ℕ × ℕ))
  | announce (alloc : Bool)

def Link.step (s : Link) : Action → Link
  | .call t len =>
    match s.task[t]? with
    | some .idle | some (.returned _) => s.goto t (.looking len)
    | _ => s
  | .next t =>
    match s.task[t]? with
    | some k => s.next t k
    | none => s
  | .timeout t =>
    match s.task[t]? with
    | some k => s.timeout t k
    | none => s
  | .receive => s.receive
  | .intr sent => s.intr sent
  | .done_work => s.done_work
  | .work alloc => s.work alloc
  | .create groups =>
    match s.announcer with
    | .idle => { s with channel_ready := true, announcer := .serving 0 groups }
    | _ => s
  | .announce alloc => s.announce alloc s.announcer

/-! ## No sender waits in vain -/

/-- An INTENT is under way. -/
def Link.coming (s : Link) : Bool :=
  s.back.any Back.isIntent || s.worker.isAdvertising || s.announcer.isAdvertising

/-- The wait for `intent_req_completed` ends: it has been counted, or it will be. -/
def Link.Answered (s : Link) : Prop := 0 < s.intent_req_completed ∨ s.coming = true

/-- Nobody who waits for an INTENT waits in vain. -/
def Link.Good (s : Link) : Prop := (∃ k ∈ s.task, k.isCompleting = true) → s.Answered

instance (s : Link) : Decidable s.Answered := inferInstanceAs (Decidable (_ ∨ _))

instance (s : Link) : Decidable s.Good := inferInstanceAs (Decidable (_ → _))

/-- A counter is not set back while another sender waits for it, unless an INTENT
command is coming. No wait for an acknowledgement times out. And a request is granted with an INTENT
command only. -/
def Link.careful (s : Link) : Action → Bool
  | .next t =>
    match s.task[t]? with
    | some (.cleared _) => s.task.all (fun k => !k.isCompleting) || s.coming
    | _ => true
  | .timeout t =>
    match s.task[t]? with
    | some k => !k.isAcking
    | none => true
  | .work _ =>
    match s.worker, s.rx_queue with
    | .idle, size :: _ => !s.reusable size
    | .allocated _, _ => s.channel_ready
    | _, _ => true
  | .call .. | .receive | .intr _ | .done_work | .create _ | .announce _ => true

/-! ## The invariant -/

/-- Who has the lock waits for an acknowledgement. -/
def Link.asking (s : Link) : Bool :=
  (s.intent_req_lock.bind fun t => s.task[t]?).elim false Sender.isAcking

def Link.pending (s : Link) : ℕ :=
  s.forth.countP Forth.isReq + s.rx_queue.length + (decide (s.worker ≠ .idle)).toNat +
    s.back.countP Back.isAck

/-- Somebody counts on an INTENT that is still to come. -/
inductive Link.Promised (s : Link) : Prop where
  | completing (k : Sender) (hk : k ∈ s.task) (h : k.isCompleting = true)
  | granting (h : s.worker = .acking true)
  | granted (h : Back.rx_intent_req_ack true ∈ s.back)
  | acked (h : s.asking = true) (hacked : 0 < s.intent_req_acked)
      (hres : s.intent_req_result = true)
  | advertised (iid : ℕ) (h : s.worker = .allocated iid) (hadv : (s.intent iid).advertised = true)

def Sender.isFresh : Sender → Bool
  | .cleared _ | .asking _ => true
  | _ => false

/-- Who has the lock, and that what is promised will come. -/
structure Link.Inv (s : Link) : Prop where
  lock : ∀ (t : ℕ) (k : Sender), s.task[t]? = some k → k.holds = true → s.intent_req_lock = some t
  owner : ∀ t, s.intent_req_lock = some t → ∃ k, s.task[t]? = some k ∧ k.holds = true
  fresh : ∀ (t : ℕ) (k : Sender), s.task[t]? = some k → k.isFresh = true → s.intent_req_acked = 0
  quiet : s.asking = false → s.pending = 0
  asked : s.asking = true → s.pending + s.intent_req_acked = 1
  promised : s.Promised → s.Answered

lemma Link.Inv.good {s : Link} (h : s.Inv) : s.Good := by
  rintro ⟨k, hk, hcomp⟩
  exact h.promised (.completing k hk hcomp)

lemma Link.init_inv (n : ℕ) : (Link.init n).Inv := by
  have htask : ∀ (t : ℕ) (k : Sender), (Link.init n).task[t]? = some k → k = .idle := by
    intro t k ht
    exact eq_of_mem_replicate (mem_of_getElem? ht)
  refine ⟨?_, nofun, ?_, fun _ => rfl, nofun, ?_⟩
  · intro t k ht hk
    rw [htask t k ht] at hk
    exact Bool.noConfusion hk
  · intro t k ht hk
    rw [htask t k ht] at hk
    exact Bool.noConfusion hk
  · rintro (⟨k, hk, hcomp⟩ | h | h | ⟨h, _, _⟩ | ⟨_, h, _⟩)
    · rw [eq_of_mem_replicate hk] at hcomp
      exact Bool.noConfusion hcomp
    · exact Worker.noConfusion h
    · cases h
    · exact Bool.noConfusion h
    · exact Worker.noConfusion h

/-! ## Steps at the receiver's end -/

section Receiver

variable {s s' : Link}

section

variable (h : s.Inv) (htask : s'.task = s.task) (hlock : s'.intent_req_lock = s.intent_req_lock)
  (hacked : s'.intent_req_acked = s.intent_req_acked)
include h htask hlock hacked

lemma Link.Inv.frame (hpending : s'.pending = s.pending)
    (hanswered : s.Answered → s'.Answered) (hpromised : s'.Promised → s.Promised ∨ s'.Answered) :
    s'.Inv := by
  have hasking : s'.asking = s.asking := by rw [Link.asking, Link.asking, htask, hlock]
  refine ⟨?_, ?_, ?_, ?_, ?_,
    fun hp => (hpromised hp).elim (fun hp => hanswered (h.promised hp)) id⟩
  · rw [htask, hlock]
    exact h.lock
  · rw [htask, hlock]
    exact h.owner
  · rw [htask, hacked]
    exact h.fresh
  · rw [hasking, hpending]
    exact h.quiet
  · rw [hasking, hpending, hacked]
    exact h.asked

lemma Link.Inv.worker_step (hpending : s'.pending = s.pending)
    (hresult : s'.intent_req_result = s.intent_req_result) (hanswered : s.Answered → s'.Answered)
    (hgranting : s'.worker = .acking true → s.Promised ∨ s'.Answered)
    (hgranted : Back.rx_intent_req_ack true ∈ s'.back → s.Promised)
    (hadv : ∀ iid, s'.worker = .allocated iid → (s'.intent iid).advertised = true →
      s.Promised ∨ s'.Answered) : s'.Inv := by
  refine h.frame htask hlock hacked hpending hanswered ?_
  rintro (⟨k, hk, hcomp⟩ | hw | hg | ⟨ha, hpos, hres⟩ | ⟨iid, hw, ha⟩)
  · exact .inl (.completing k (htask ▸ hk) hcomp)
  · exact hgranting hw
  · exact .inl (hgranted hg)
  · refine .inl (.acked ?_ (hacked ▸ hpos) (hresult ▸ hres))
    rwa [Link.asking, htask, hlock] at ha
  · exact hadv iid hw ha

lemma Link.Inv.frame_quiet
    (hcompleted : s'.intent_req_completed = s.intent_req_completed)
    (hresult : s'.intent_req_result = s.intent_req_result)
    (hforth : s'.forth.countP Forth.isReq = s.forth.countP Forth.isReq)
    (hqueue : s'.rx_queue = s.rx_queue) (hworker : s'.worker = s.worker)
    (hacks : s'.back.countP Back.isAck = s.back.countP Back.isAck)
    (hgranted : Back.rx_intent_req_ack true ∈ s'.back → Back.rx_intent_req_ack true ∈ s.back)
    (hcoming : s.coming = true → s'.coming = true)
    (hadv : ∀ iid, (s'.intent iid).advertised = true →
      (s.intent iid).advertised = true ∨ s'.coming = true) : s'.Inv := by
  refine h.worker_step htask hlock hacked ?_ hresult ?_ (fun hw => .inl (.granting (hworker ▸ hw)))
    (fun hg => .granted (hgranted hg)) fun iid hw ha => ?_
  · rw [Link.pending, Link.pending, hforth, hqueue, hworker, hacks]
  · rintro (hpos | hcome)
    · exact .inl (hcompleted ▸ hpos)
    · exact .inr (hcoming hcome)
  · rcases hadv iid ha with hold | hcome
    · exact .inl (.advertised iid (hworker ▸ hw) hold)
    · exact .inr (.inr hcome)

end

lemma countP_snoc_of_not {α : Type*} {p : α → Bool} {l : List α} {a : α} (ha : p a = false) :
    (l ++ [a]).countP p = l.countP p := by
  rw [countP_append, countP_singleton, ha]
  rfl

lemma coming_iff : s.coming = true ↔ (s.back.any Back.isIntent = true ∨
    s.worker.isAdvertising = true) ∨ s.announcer.isAdvertising = true := by
  rw [Link.coming, Bool.or_eq_true, Bool.or_eq_true]

lemma any_snoc {l : List Back} {cmd : Back} (h : l.any Back.isIntent = true) :
    (l ++ [cmd]).any Back.isIntent = true := by
  rw [any_append, h, Bool.true_or]

lemma Link.Answered.mono (h : s.Answered) (hnot : s.worker.isAdvertising = false)
    (hcompleted : s'.intent_req_completed = s.intent_req_completed)
    (hback : s.back.any Back.isIntent = true → s'.back.any Back.isIntent = true)
    (hannouncer : s'.announcer = s.announcer) : s'.Answered := by
  rcases h with hpos | hcome
  · exact .inl (hcompleted ▸ hpos)
  · rw [coming_iff, hnot] at hcome
    exact .inr (coming_iff.mpr (hcome.imp (fun h => .inl (hback (h.resolve_right nofun)))
      (hannouncer ▸ id)))

lemma coming_append {cmd : Back} (h : s.coming = true) :
    ({ s with back := s.back ++ [cmd] } : Link).coming = true := by
  rw [coming_iff] at h ⊢
  exact h.imp_left fun h => h.imp_left any_snoc

lemma Link.Inv.back_rx_done (h : s.Inv) (iid : ℕ) (reuse : Bool) :
    ({ s with back := s.back ++ [.rx_done iid reuse] } : Link).Inv := by
  refine h.frame_quiet rfl rfl rfl rfl rfl rfl rfl rfl (countP_snoc_of_not rfl) ?_ coming_append
    fun _ hadv => .inl hadv
  intro hmem
  simpa using hmem

lemma Link.Inv.rx_done (h : s.Inv) (iid : ℕ) (sent : Bool) : (s.rx_done iid sent).Inv := by
  have hliids : ∀ l, ({ s with liids := l } : Link).Inv := fun l =>
    h.frame_quiet rfl rfl rfl rfl rfl rfl rfl rfl rfl id id fun _ hadv => .inl hadv
  have hsame : (if (s.intent iid).reuse then s else { s with liids := s.liids.erase iid }).Inv := by
    split_ifs
    · exact h
    · exact hliids _
  unfold Link.rx_done
  simp only
  generalize (if (s.intent iid).reuse then s else { s with liids := s.liids.erase iid })
    = r at hsame
  split_ifs
  · exact hsame.back_rx_done iid _
  · exact hsame.frame_quiet rfl rfl rfl rfl rfl rfl rfl rfl rfl id id fun _ hadv => .inl hadv

lemma Link.Inv.rx_data (h : s.Inv) (iid chunk_size left_size : ℕ) (sent : Bool) :
    (s.rx_data iid chunk_size left_size sent).Inv := by
  have hoffset : ∀ offset, ({ s with
      intent := update s.intent iid { s.intent iid with offset } } : Link).Inv := by
    intro offset
    refine h.frame_quiet rfl rfl rfl rfl rfl rfl rfl rfl rfl id id fun j hadv => .inl ?_
    change (update s.intent iid _ j).advertised = true at hadv
    rcases eq_or_ne j iid with rfl | hj
    · rwa [update_self] at hadv
    · rwa [update_of_ne hj] at hadv
  unfold Link.rx_data
  by_cases hin : iid ∈ s.liids
  · rw [if_pos hin]
    by_cases hless : (s.intent iid).size - (s.intent iid).offset < chunk_size
    · simp only [if_pos hless]
      exact h
    · simp only [if_neg hless]
      split_ifs
      · exact (hoffset _).rx_done iid sent
      · exact hoffset _
  · rw [if_neg hin]
    exact h

lemma Link.Inv.intr (h : s.Inv) (sent : Bool) : (s.intr sent).Inv := by
  unfold Link.intr
  split
  · exact h
  · next size rest hforth =>
    refine h.frame rfl rfl rfl ?_ id fun hp => .inl ?_
    · simp only [Link.pending, hforth, countP_cons, Forth.isReq, length_append,
        length_singleton, if_true]
      omega
    · exact match hp with
        | .completing k hk hcomp => .completing k hk hcomp
        | .granting hw => .granting hw
        | .granted hg => .granted hg
        | .acked ha hpos hres => .acked ha hpos hres
        | .advertised iid hw ha => .advertised iid hw ha
  · next iid chunk_size left_size rest hforth =>
    apply Link.Inv.rx_data
    refine h.frame_quiet rfl rfl rfl rfl rfl ?_ rfl rfl rfl id id fun _ hadv => .inl hadv
    rw [hforth, countP_cons_of_neg (by exact nofun)]

lemma Link.Inv.done_work (h : s.Inv) : s.done_work.Inv := by
  unfold Link.done_work
  split
  · exact h
  · next iid reuse rest _ =>
    exact (h.back_rx_done iid reuse).frame_quiet rfl rfl rfl rfl rfl rfl rfl rfl rfl id id
      fun _ hadv => .inl hadv

lemma advertised_alloc {size : ℕ} {reuse : Bool} {iid : ℕ}
    (h : ((s.alloc_intent size reuse).intent iid).advertised = true) :
    (s.intent iid).advertised = true ∧ iid ≠ s.next_liid := by
  change (update s.intent s.next_liid _ iid).advertised = true at h
  rcases eq_or_ne iid s.next_liid with rfl | hne
  · rw [update_self] at h
    exact Bool.noConfusion h
  · rw [update_of_ne hne] at h
    exact ⟨h, hne⟩

lemma Link.Inv.work (h : s.Inv) (alloc : Bool) (hok : s.careful (.work alloc) = true) :
    (s.work alloc).Inv := by
  unfold Link.work
  split
  · next hw =>
    split
    · exact h
    next size rest hqueue =>
    have hnone : s.reusable size = false := by
      simpa [Link.careful, hw, hqueue] using hok
    have hpend : ∀ w, w ≠ .idle → s.forth.countP Forth.isReq + rest.length +
        (decide (w ≠ Worker.idle)).toNat + s.back.countP Back.isAck = s.pending := by
      intro w hne
      rw [Link.pending, hqueue, hw, decide_eq_true hne]
      simp only [length_cons, ne_eq, not_true_eq_false, decide_false, Bool.toNat_false,
        Bool.toNat_true]
      omega
    rw [if_neg (show ¬ (s.reusable size = true) by rw [hnone]; exact nofun)]
    split_ifs
    · refine h.worker_step rfl rfl rfl (hpend _ nofun) rfl (·.mono (hw ▸ rfl) rfl id rfl) nofun
        (fun hg => .granted hg) ?_
      rintro iid ⟨⟩ hadv
      exact absurd rfl (advertised_alloc hadv).2
    · exact h.worker_step rfl rfl rfl (hpend _ nofun) rfl (·.mono (hw ▸ rfl) rfl id rfl) nofun
        (fun hg => .granted hg) nofun
  · next iid hw =>
    have hready : s.channel_ready = true := by
      simpa [Link.careful, hw] using hok
    split_ifs with hfirst
    · refine h.worker_step rfl rfl rfl ?_ rfl (fun _ => .inr ?_) nofun (fun hg => .granted hg) nofun
      · simp only [Link.pending, Link.set_advertised, hw]
        rfl
      · simp [Link.coming, Worker.isAdvertising]
    · -- somebody else has sent this intent
      have hadv : (s.intent iid).advertised = true := by
        by_contra hnot
        exact hfirst ⟨hready, by simpa using hnot⟩
      refine h.worker_step rfl rfl rfl ?_ rfl (·.mono (hw ▸ rfl) rfl id rfl)
        (fun _ => .inl (.advertised iid hw hadv)) (fun hg => .granted hg) nofun
      simp only [Link.pending, hw]
      rfl
  · next iid hw =>
    have hcoming : ({ s.tx_intent iid with worker := .acking true } : Link).coming = true := by
      simp [Link.coming, Link.tx_intent, Back.isIntent]
    refine h.worker_step rfl rfl rfl ?_ rfl (fun _ => .inr hcoming) (fun _ => .inr (.inr hcoming))
      (fun hg => .granted ?_) nofun
    · simp only [Link.pending, Link.tx_intent, hw]
      rw [countP_snoc_of_not rfl]
      rfl
    · simpa [Link.tx_intent] using hg
  · next granted hw =>
    refine h.worker_step rfl rfl rfl ?_ rfl (·.mono (hw ▸ rfl) rfl any_snoc rfl) nofun ?_ nofun
    · simp only [Link.pending, hw, countP_append, countP_singleton, Back.isAck, if_true,
        ne_eq, not_true_eq_false, decide_false, Bool.toNat_false]
      have : (decide (¬ Worker.acking granted = .idle)).toNat = 1 := rfl
      omega
    · intro hg
      rw [mem_append, mem_singleton] at hg
      rcases hg with hg | hg
      · exact .granted hg
      · cases hg
        exact .granting hw

lemma coming_announcer {a : Announcer} (h : s.coming = true)
    (hnot : s.announcer.isAdvertising = false) :
    ({ s with announcer := a } : Link).coming = true := by
  rw [coming_iff, hnot] at h
  rw [coming_iff]
  exact .inl (h.resolve_right nofun)

lemma Link.Inv.announcer_goto (h : s.Inv) (hnot : s.announcer.isAdvertising = false)
    (a : Announcer) (ready : Bool) :
    ({ s with announcer := a, channel_ready := ready } : Link).Inv :=
  h.frame_quiet rfl rfl rfl rfl rfl rfl rfl rfl rfl id (fun hcome => coming_announcer hcome hnot)
    fun _ hadv => .inl hadv

lemma Link.Inv.announce (h : s.Inv) (alloc : Bool) : (s.announce alloc s.announcer).Inv := by
  cases ha : s.announcer with
  | idle => exact h
  | serving cursor groups =>
    have hnot : s.announcer.isAdvertising = false := by rw [ha]; rfl
    rw [Link.announce]
    split
    · exact h.announcer_goto hnot _ s.channel_ready
    · exact h.announcer_goto hnot _ s.channel_ready
  | base groups =>
    have hnot : s.announcer.isAdvertising = false := by rw [ha]; rfl
    match groups with
    | [] => exact h.announcer_goto hnot _ s.channel_ready
    | (_, 0) :: groups => exact h.announcer_goto hnot _ s.channel_ready
    | (size, n + 1) :: groups =>
      rw [Link.announce]
      split_ifs
      · exact h.frame_quiet rfl rfl rfl rfl rfl rfl rfl rfl rfl id
          (fun hcome => coming_announcer hcome hnot) fun _ hadv => .inl (advertised_alloc hadv).1
      · exact h.announcer_goto hnot _ s.channel_ready
  | offering iid cursor groups =>
    have hnot : s.announcer.isAdvertising = false := by rw [ha]; rfl
    rw [Link.announce]
    split_ifs
    · exact h.announcer_goto hnot _ s.channel_ready
    · have hcome : ({ s.set_advertised iid with
          announcer := .advertising iid cursor groups } : Link).coming = true := by
        simp [Link.coming, Announcer.isAdvertising]
      exact h.frame_quiet rfl rfl rfl rfl rfl rfl rfl rfl rfl id (fun _ => hcome)
        fun _ _ => .inr hcome
  | advertising iid cursor groups =>
    rw [Link.announce]
    have hcome : ({ s.tx_intent iid with
        announcer := Link.Announcer.resume cursor groups } : Link).coming = true := by
      simp [Link.coming, Link.tx_intent, Back.isIntent]
    refine h.frame_quiet rfl rfl rfl rfl rfl rfl rfl rfl (countP_snoc_of_not rfl) ?_
      (fun _ => hcome) fun _ _ => .inr hcome
    intro hmem
    simpa [Link.tx_intent] using hmem

end Receiver

/-! ## Steps of a sender -/

section Senders

variable {s : Link} {t : ℕ} {k₀ : Sender}

variable {k : Sender} {len : ℕ}

lemma Sender.holds_of_isFresh (h : k.isFresh = true) : k.holds = true := by
  cases k <;> first | rfl | exact Bool.noConfusion h

lemma getElem?_task_set (ht : s.task[t]? = some k₀) (k k' : Sender) (u : ℕ) :
    (s.task.set t k)[u]? = some k' ↔ (u = t ∧ k' = k) ∨ (u ≠ t ∧ s.task[u]? = some k') := by
  have hlt : t < s.task.length := (List.getElem?_eq_some_iff.1 ht).1
  rcases eq_or_ne u t with rfl | hne
  · rw [getElem?_set_self hlt, Option.some_inj]
    exact ⟨fun h => .inl ⟨rfl, h.symm⟩, fun h => h.elim (fun h => h.2.symm) fun h => absurd rfl h.1⟩
  · rw [getElem?_set_ne hne.symm]
    exact ⟨fun h => .inr ⟨hne, h⟩, fun h => h.elim (fun h => absurd h.1 hne) And.right⟩

lemma mem_task_set {k' : Sender} (h : k' ∈ s.task.set t k) : k' = k ∨ k' ∈ s.task :=
  (mem_or_eq_of_mem_set h).symm

lemma asking_of_lock (hlock : s.intent_req_lock = some t) (ht : s.task[t]? = some k₀) :
    s.asking = k₀.isAcking := by
  rw [Link.asking, hlock, Option.bind_some, ht]
  rfl

lemma asking_of_no_lock (hlock : s.intent_req_lock = none) : s.asking = false := by
  rw [Link.asking, hlock]
  rfl

variable (h : s.Inv)
include h

lemma Link.Inv.promised_goto {lock : Option ℕ} (hcomp : k.isCompleting = true → s.Answered)
    (hasking : ({ s with intent_req_lock := lock }.goto t k : Link).asking = true →
      s.asking = true) : ({ s with intent_req_lock := lock }.goto t k : Link).Promised →
      s.Answered := by
  rintro (⟨k', hk', hc⟩ | hw | hg | ⟨ha, hpos, hres⟩ | ⟨iid, hw, ha⟩)
  · rcases mem_task_set hk' with rfl | hmem
    · exact hcomp hc
    · exact h.promised (.completing k' hmem hc)
  · exact h.promised (.granting hw)
  · exact h.promised (.granted hg)
  · exact h.promised (.acked (hasking ha) hpos hres)
  · exact h.promised (.advertised iid hw ha)

lemma Link.Inv.goto_free (ht : s.task[t]? = some k₀) (h₀ : k₀.holds = false)
    (hk : k.holds = false) (hcomp : k.isCompleting = true → s.Answered) :
    (s.goto t k).Inv := by
  have hasking : (s.goto t k).asking = s.asking := by
    cases hlock : s.intent_req_lock with
    | none => rw [asking_of_no_lock hlock, asking_of_no_lock (s := s.goto t k) hlock]
    | some u =>
      obtain ⟨k', hu, hhold⟩ := h.owner u hlock
      have hne : u ≠ t := by
        rintro rfl
        rw [ht, Option.some_inj] at hu
        rw [← hu, h₀] at hhold
        exact Bool.noConfusion hhold
      rw [asking_of_lock hlock hu]
      exact asking_of_lock hlock ((getElem?_task_set ht k k' u).2 (.inr ⟨hne, hu⟩))
  refine ⟨?_, ?_, ?_, ?_, ?_, h.promised_goto hcomp hasking.symm.trans⟩
  · intro u k' hu hhold
    rcases (getElem?_task_set ht k k' u).1 hu with ⟨_, rfl⟩ | ⟨_, hu⟩
    · rw [hk] at hhold
      exact Bool.noConfusion hhold
    · exact h.lock u k' hu hhold
  · intro u hlock
    obtain ⟨k', hu, hhold⟩ := h.owner u hlock
    refine ⟨k', (getElem?_task_set ht k k' u).2 (.inr ⟨?_, hu⟩), hhold⟩
    rintro rfl
    rw [ht, Option.some_inj] at hu
    rw [← hu, h₀] at hhold
    exact Bool.noConfusion hhold
  · intro u k' hu hfresh
    rcases (getElem?_task_set ht k k' u).1 hu with ⟨_, rfl⟩ | ⟨_, hu⟩
    · rw [Sender.holds_of_isFresh hfresh] at hk
      exact Bool.noConfusion hk
    · exact h.fresh u k' hu hfresh
  · rw [hasking]
    exact h.quiet
  · rw [hasking]
    exact h.asked

lemma Link.Inv.nothing_pending (hask : s.asking = false) :
    s.worker = .idle ∧ ∀ granted, Back.rx_intent_req_ack granted ∉ s.back := by
  have hzero := h.quiet hask
  rw [Link.pending] at hzero
  constructor
  · by_contra hne
    rw [decide_eq_true hne, Bool.toNat_true] at hzero
    omega
  · intro granted hmem
    have : 0 < s.back.countP Back.isAck := countP_pos_iff.2 ⟨_, hmem, rfl⟩
    omega

lemma Link.Inv.take_lock (ht : s.task[t]? = some (.requesting len))
    (hfree : s.intent_req_lock = none) :
    ({ s with intent_req_lock := some t }.goto t (.locked len) : Link).Inv := by
  have hnobody : ∀ (u : ℕ) (k' : Sender), s.task[u]? = some k' → k'.holds = false := by
    intro u k' hu
    by_contra hhold
    have := h.lock u k' hu (by simpa using hhold)
    rw [hfree] at this
    exact absurd this.symm (Option.some_ne_none u)
  have hself := (getElem?_task_set ht (.locked len) _ t).2 (.inl ⟨rfl, rfl⟩)
  have hask : ({ s with intent_req_lock := some t }.goto t (.locked len) : Link).asking
      = false := by
    rw [Link.asking]
    exact congrArg (Option.elim · false Sender.isAcking) hself
  refine ⟨?_, ?_, ?_, fun _ => h.quiet (asking_of_no_lock hfree), ?_,
    h.promised_goto nofun fun ha => Bool.noConfusion (hask.symm.trans ha)⟩
  · intro u k' hu hhold
    rcases (getElem?_task_set ht (.locked len) k' u).1 hu with ⟨rfl, _⟩ | ⟨_, hu⟩
    · rfl
    · rw [hnobody u k' hu] at hhold
      exact Bool.noConfusion hhold
  · rintro u ⟨⟩
    exact ⟨.locked len, hself, rfl⟩
  · intro u k' hu hfresh
    rcases (getElem?_task_set ht (.locked len) k' u).1 hu with ⟨_, rfl⟩ | ⟨_, hu⟩
    · exact Bool.noConfusion hfresh
    · have := Sender.holds_of_isFresh hfresh
      rw [hnobody u k' hu] at this
      exact Bool.noConfusion this
  · intro ha
    rw [hask] at ha
    exact Bool.noConfusion ha

/-- **The holder moves on to its request.** -/
theorem Link.Inv.holder_goto {s' : Link} (ht : s.task[t]? = some k₀)
    (h₀ : k₀.holds = true) (hnot : k₀.isAcking = false) (hk : k.holds = true)
    (hcomp : k.isCompleting = false) (htask : s'.task = s.task.set t k)
    (hsame : s'.intent_req_lock = s.intent_req_lock) (hzero : s'.intent_req_acked = 0)
    (hworker : s'.worker = s.worker) (hback : s'.back = s.back)
    (hpend : s'.pending = s.pending + k.isAcking.toNat)
    (hanswered : (∃ k ∈ s.task, k.isCompleting = true) → s'.Answered) : s'.Inv := by
  have hlock := h.lock t _ ht h₀
  have hquiet : s.asking = false := (asking_of_lock hlock ht).trans hnot
  have hask : s'.asking = k.isAcking := by
    apply asking_of_lock (hsame.trans hlock)
    rw [htask]
    exact (getElem?_task_set ht k k t).2 (.inl ⟨rfl, rfl⟩)
  obtain ⟨hidle, hnone⟩ := h.nothing_pending hquiet
  rw [h.quiet hquiet, zero_add] at hpend
  refine ⟨?_, ?_, fun _ _ _ _ => hzero, ?_, ?_, ?_⟩
  · intro u k' hu hhold
    rw [htask] at hu
    rw [hsame]
    rcases (getElem?_task_set ht k k' u).1 hu with ⟨rfl, _⟩ | ⟨_, hu⟩
    · exact hlock
    · exact h.lock u k' hu hhold
  · intro u hu
    rw [hsame, hlock, Option.some_inj] at hu
    rw [htask]
    exact ⟨k, (getElem?_task_set ht k k u).2 (.inl ⟨hu.symm, rfl⟩), hk⟩
  · intro ha
    rw [hpend, ← hask, ha]
    rfl
  · intro ha
    rw [hpend, hzero, ← hask, ha]
    rfl
  · rintro (⟨k', hk', hc⟩ | hw | hg | ⟨_, hpos, _⟩ | ⟨iid, hw, _⟩)
    · rw [htask] at hk'
      rcases mem_task_set hk' with rfl | hmem
      · rw [hcomp] at hc
        exact Bool.noConfusion hc
      · exact hanswered ⟨k', hmem, hc⟩
    · exact Worker.noConfusion (hidle.symm.trans (hworker.symm.trans hw))
    · exact absurd (hback ▸ hg) (hnone true)
    · omega
    · exact Worker.noConfusion (hidle.symm.trans (hworker.symm.trans hw))

/-- **The counter is set back.** -/
theorem Link.Inv.clear_completed (ht : s.task[t]? = some (.cleared len))
    (hok : (∀ k ∈ s.task, k.isCompleting = false) ∨ s.coming = true) :
    ({ s with intent_req_completed := 0 }.goto t (.asking len) : Link).Inv := by
  refine h.holder_goto ht rfl rfl rfl rfl rfl rfl (h.fresh t _ ht rfl) rfl rfl rfl ?_
  rintro ⟨k, hk, hc⟩
  refine .inr (hok.resolve_left fun hall => ?_)
  rw [hall k hk] at hc
  exact Bool.noConfusion hc

lemma Link.Inv.send_req (ht : s.task[t]? = some (.asking len)) :
    ({ s with forth := s.forth ++ [Forth.rx_intent_req len] }.goto t (.acking len) : Link).Inv := by
  refine h.holder_goto ht rfl rfl rfl rfl rfl rfl (h.fresh t _ ht rfl) rfl rfl ?_
    fun ⟨k, hk, hc⟩ => h.promised (.completing k hk hc)
  change (s.forth ++ [Forth.rx_intent_req len]).countP Forth.isReq + s.rx_queue.length +
    (decide (s.worker ≠ .idle)).toNat + s.back.countP Back.isAck = s.pending + 1
  have hone : countP Forth.isReq [Forth.rx_intent_req len] = 1 := rfl
  rw [countP_append, hone, Link.pending]
  omega

/-- The acknowledgement is there: the mutex is given back, and a granted request has been
answered, or will be. -/
lemma Link.Inv.take_ack (ht : s.task[t]? = some (.acking len)) (hacked : 0 < s.intent_req_acked) :
    ({ s with intent_req_lock := none }.goto t
      (if s.intent_req_result then .completing len else .returned (-ECANCELED)) : Link).Inv := by
  have hlock := h.lock t _ ht rfl
  have hasked := h.asked (asking_of_lock hlock ht)
  have hk : (if s.intent_req_result then Sender.completing len
      else .returned (-ECANCELED)).holds = false := by
    split_ifs <;> rfl
  generalize hnew : (if s.intent_req_result then Sender.completing len
    else .returned (-ECANCELED)) = k at hk ⊢
  have hnobody : ∀ (u : ℕ) (k' : Sender), (s.task.set t k)[u]? = some k' → k'.holds = false := by
    intro u k' hu
    rcases (getElem?_task_set ht k k' u).1 hu with ⟨_, rfl⟩ | ⟨hne, hu⟩
    · exact hk
    · by_contra hhold
      have := h.lock u k' hu (by simpa using hhold)
      rw [hlock, Option.some_inj] at this
      exact hne this.symm
  refine ⟨?_, nofun, ?_, fun _ => ?_, nofun, ?_⟩
  · intro u k' hu hhold
    rw [hnobody u k' hu] at hhold
    exact Bool.noConfusion hhold
  · intro u k' hu hfresh
    have := Sender.holds_of_isFresh hfresh
    rw [hnobody u k' hu] at this
    exact Bool.noConfusion this
  · change s.pending = 0
    omega
  · refine h.promised_goto (fun hc => h.promised (.acked (asking_of_lock hlock ht) hacked ?_)) nofun
    by_contra hnot
    rw [if_neg hnot] at hnew
    rw [← hnew] at hc
    exact Bool.noConfusion hc

lemma Link.Inv.forth_data (iid chunk_size left_size : ℕ) :
    ({ s with forth := s.forth ++ [Forth.tx_data iid chunk_size left_size] } : Link).Inv :=
  h.frame_quiet rfl rfl rfl rfl rfl (countP_snoc_of_not rfl) rfl rfl rfl id id
    fun _ hadv => .inl hadv

lemma Link.Inv.set_riids (riids : List RemoteIntent) : ({ s with riids } : Link).Inv :=
  h.frame_quiet rfl rfl rfl rfl rfl rfl rfl rfl rfl id id fun _ hadv => .inl hadv

lemma Link.Inv.next (ht : s.task[t]? = some k)
    (hok : s.careful (.next t) = true) : (s.next t k).Inv := by
  cases k with
  | idle => exact h
  | returned ret => exact h
  | looking len =>
    change (s.look t len).Inv
    unfold Link.look
    split
    · next intent _ =>
      have hused := h.set_riids
        (s.riids.map fun r => if r.id = intent.id then { r with in_use := true } else r)
      exact hused.goto_free ht rfl rfl nofun
    · exact h.goto_free ht rfl rfl nofun
  | requesting len =>
    rw [Link.next]
    split
    · next hfree => exact h.take_lock ht hfree
    · exact h
  | locked len =>
    exact h.holder_goto ht rfl rfl rfl rfl rfl rfl rfl rfl rfl rfl
      fun ⟨k, hk, hc⟩ => h.promised (.completing k hk hc)
  | cleared len =>
    refine h.clear_completed ht ?_
    rw [Link.careful, ht, Bool.or_eq_true, all_eq_true] at hok
    exact hok.imp_left fun hall k hk => by simpa using hall k hk
  | asking len => exact h.send_req ht
  | acking len =>
    rw [Link.next]
    by_cases hzero : s.intent_req_acked = 0
    · rw [if_pos hzero]
      exact h
    · rw [if_neg hzero]
      exact h.take_ack ht (pos_of_ne_zero hzero)
  | completing len =>
    rw [Link.next]
    split_ifs
    · exact h
    · exact h.goto_free ht rfl rfl nofun
    · exact h.goto_free ht rfl rfl nofun
  | sending iid left =>
    change (s.send_chunk t iid left).Inv
    unfold Link.send_chunk
    simp only
    split_ifs
    · exact (h.forth_data ..).goto_free ht rfl rfl nofun
    · exact (h.forth_data ..).goto_free ht rfl rfl nofun

lemma Link.Inv.timeout (ht : s.task[t]? = some k)
    (hok : s.careful (.timeout t) = true) : (s.timeout t k).Inv := by
  cases k with
  | acking len =>
    rw [Link.careful, ht] at hok
    exact Bool.noConfusion hok
  | completing len =>
    rw [Link.timeout]
    split_ifs
    · exact h.goto_free ht rfl rfl nofun
    · exact h
  | idle | looking _ | requesting _ | locked _ | cleared _ | asking _ | sending _ _ | returned _ =>
    exact h

lemma Link.Inv.receive : s.receive.Inv := by
  unfold Link.receive
  split
  · exact h
  · next iid size rest hback =>
    refine h.frame rfl rfl rfl ?_ (fun _ => .inl (Nat.succ_pos _))
      fun _ => .inr (.inl (Nat.succ_pos _))
    rw [Link.pending, Link.pending, hback, countP_cons_of_neg (by exact nofun)]
  · next granted rest hback =>
    have hcount : s.back.countP Back.isAck = rest.countP Back.isAck + 1 := by
      rw [hback, countP_cons_of_pos (by rfl)]
    -- there is an acknowledgement, so somebody waits for it
    have hask : s.asking = true := by
      by_contra hnot
      have := h.quiet (by simpa using hnot)
      rw [Link.pending] at this
      omega
    have hasked := h.asked hask
    have hanswered : s.Answered → ({ s with
        intent_req_result := granted
        intent_req_acked := s.intent_req_acked + 1
        back := rest } : Link).Answered := by
      refine fun ha => ha.imp_right fun hcome => ?_
      rw [coming_iff, hback, any_cons] at hcome
      rw [coming_iff]
      exact hcome
    refine ⟨h.lock, h.owner, ?_, ?_, fun _ => ?_, fun hp => hanswered (h.promised ?_)⟩
    · intro u k hu hfresh
      have hlock := h.lock u k hu (Sender.holds_of_isFresh hfresh)
      rw [asking_of_lock hlock hu] at hask
      cases k <;> first | exact Bool.noConfusion hask | exact Bool.noConfusion hfresh
    · intro hnot
      exact absurd hask (by rw [show s.asking = false from hnot]; exact nofun)
    · rw [Link.pending] at hasked
      change s.forth.countP Forth.isReq + s.rx_queue.length + (decide (s.worker ≠ .idle)).toNat +
        rest.countP Back.isAck + (s.intent_req_acked + 1) = 1
      omega
    · rcases hp with ⟨k', hk', hc⟩ | hw | hg | ⟨_, _, hres⟩ | ⟨iid, hw, ha⟩
      · exact .completing k' hk' hc
      · exact .granting hw
      · exact .granted (hback ▸ mem_cons_of_mem _ hg)
      · refine .granted ?_
        rw [hback, show granted = true from hres]
        exact mem_cons_self
      · exact .advertised iid hw ha
  · next iid reuse rest hback =>
    refine h.frame_quiet rfl rfl rfl rfl rfl rfl rfl rfl ?_ ?_ ?_ fun _ hadv => .inl hadv
    · rw [hback, countP_cons_of_neg (by exact nofun)]
    · exact fun hg => hback ▸ mem_cons_of_mem _ hg
    · intro hcome
      rw [coming_iff, hback, any_cons] at hcome
      rw [coming_iff]
      exact hcome

end Senders

/-! ## Runs -/

lemma Link.Inv.step {s : Link} (h : s.Inv) (a : Action) (hok : s.careful a = true) :
    (s.step a).Inv := by
  cases a with
  | call t len =>
    rw [Link.step]
    split
    · next ht => exact h.goto_free ht rfl rfl nofun
    · next ht => exact h.goto_free ht rfl rfl nofun
    · exact h
  | next t =>
    rw [Link.step]
    split
    · next k ht => exact h.next ht hok
    · exact h
  | timeout t =>
    rw [Link.step]
    split
    · next k ht => exact h.timeout ht hok
    · exact h
  | receive => exact h.receive
  | intr sent => exact h.intr sent
  | done_work => exact h.done_work
  | work alloc => exact h.work alloc hok
  | create groups =>
    rw [Link.step]
    split
    · next hidle => exact h.announcer_goto (by rw [hidle]; rfl) _ true
    · exact h
  | announce alloc => exact h.announce alloc

/-- **A sender that waits is answered.** -/
theorem sender_answered (n : ℕ) (actions : List Action)
    (hok : Run.Ok Link.step (fun s a => s.careful a = true) (Link.init n) actions) :
    ∀ l, l <+: actions → (Run.exec Link.step (Link.init n) l).Good := by
  intro l hl
  exact ((hok.of_prefix hl).inv (fun s a h ha => h.step a ha) (Link.init_inv n)).good

def asking_run : List Action :=
  [.create [], .announce true, .announce true, .call 0 100, .next 0, .next 0, .next 0, .next 0,
    .next 0, .intr true, .work true, .work true, .work true, .work true, .receive, .receive,
    .next 0, .next 0, .next 0, .next 0]

theorem asking_run_answered :
    Run.Ok Link.step (fun s a => s.careful a = true) (Link.init 1) asking_run ∧
      ∀ l, l <+: asking_run → (Run.exec Link.step (Link.init 1) l).Good :=
  ⟨by decide +kernel, sender_answered 1 asking_run (by decide +kernel)⟩

/-- The second sender is granted the intent that the first one uses. -/
theorem granted_without_intent : ¬ (Run.exec Link.step (Link.init 2)
    [.create [(100, 1)], .announce true, .announce true, .announce true, .announce true, .receive,
      .call 0 100, .next 0, .next 0, .call 1 100, .next 1, .next 1, .next 1, .next 1, .next 1,
      .intr true, .intr true, .work true, .work true, .receive, .receive, .next 1]).Good := by
  decide +kernel

end KernelExtra.Glink.IntentReq
