/-
Opening a virtual channel: the queue of open requests in `hab_open.c`, and `frontend_open` and
`backend_listen` in `hab.c`.

The frontend sends `INIT` and waits for `INIT_ACK`; the backend waits for `INIT`, answers, and waits
for `INIT_DONE`. Either side takes its offer back with `INIT_CANCEL`. All of these come into one
queue of the device.

The calls are cut where they wait and where they send. A call keeps a record of the references it
holds, and of the nodes it has taken off the queue and not freed.
-/
import KernelExtra.Hab.Basic

namespace KernelExtra.Hab.Open

/-! ## Requests -/

/-- The payload of an open message. -/
structure Xdata where
  vchan_id : UInt32
  sub_id : UInt32
  open_id : UInt32
  ver_fe : UInt32
  ver_be : UInt32
  deriving DecidableEq

/-- An open message with the channel it came on. -/
structure Request where
  type : PayloadType
  pchan : ℕ
  xdata : Xdata
  deriving DecidableEq

/-- A request in the queue, with its time. -/
structure Node where
  request : Request
  age : ℤ
  deriving DecidableEq

/-- The queue of a device. -/
structure Device where
  openq_list : List Node
  openq_cnt : ℤ
  deriving DecidableEq

def HAB_API_VER : UInt32 := 0x00010000

def major (ver : UInt32) : UInt32 := ver &&& 0xFFFF0000

/-! ## The queue -/

/-- What a wait looks for. -/
structure Listen where
  type : PayloadType
  pchan : Option ℕ
  sub_id : UInt32
  open_id : UInt32
  deriving DecidableEq

/-- The request is of the kind, and for the session, that is waited for. -/
def Listen.wants (listen : Listen) (request : Request) : Bool :=
  (request.type = listen.type || request.type = .INIT_CANCEL) &&
  request.xdata.sub_id = listen.sub_id &&
  (listen.open_id = 0 || request.xdata.open_id = listen.open_id) &&
  (listen.pchan = none || listen.pchan = some request.pchan)

lemma Listen.wants_iff {listen : Listen} {request : Request} :
    listen.wants request = true ↔
      (request.type = listen.type ∨ request.type = .INIT_CANCEL) ∧
      request.xdata.sub_id = listen.sub_id ∧
      (listen.open_id = 0 ∨ request.xdata.open_id = listen.open_id) ∧
      (listen.pchan = none ∨ listen.pchan = some request.pchan) := by
  simp [Listen.wants, and_assoc]

/-- What the loop finds, and the queue it leaves: nodes that have expired are freed. -/
def hab_open_request_find (listen : Listen) (now : ℤ) : List Node → Option Request × List Node
  | [] => (none, [])
  | node :: rest =>
    if listen.wants node.request then (some node.request, rest)
    else
      let r := hab_open_request_find listen now rest
      (r.1, if node.age < now then r.2 else node :: r.2)

/-- The first request that fits; those that are too old are dropped. -/
def Device.find (dev : Device) (listen : Listen) (now : ℤ) : Option Request × Device :=
  let r := hab_open_request_find listen now dev.openq_list
  (r.1, ⟨r.2, if r.1.isSome then dev.openq_cnt - 1 else dev.openq_cnt⟩)

/-- How a wait ends. -/
inductive Wake where
  | woken
  | timeout
  | interrupted
  deriving DecidableEq

/-- One look at the condition of the wait. A timeout or a signal counts only if nothing is found. -/
def hab_open_listen (dev : Device) (closed : Bool) (listen : Listen) (timed : Bool) (wake : Wake)
    (now : ℤ) : Option (Ret × Option Request) × Device :=
  if listen.pchan.isSome && closed then (some (.ok, none), dev)
  else
    let r := dev.find listen now
    match r.1, wake with
    | some request, _ => (some (.ok, some request), r.2)
    | none, .woken => (none, r.2)
    | none, .timeout => (if timed then some (.EAGAIN, none) else none, r.2)
    | none, .interrupted => (some (.EINTR, none), r.2)

def hab_open_request_add (dev : Device) (request : Request) (age : ℤ) (alloc : Bool) : Device :=
  if alloc then ⟨dev.openq_list ++ [⟨request, age⟩], dev.openq_cnt + 1⟩ else dev

def unserved (data : Xdata) (node : Node) : Bool :=
  (node.request.type = .INIT || node.request.type = .INIT_ACK) &&
  node.request.xdata.sub_id = data.sub_id &&
  node.request.xdata.open_id = data.open_id &&
  node.request.xdata.vchan_id = data.vchan_id

/-- A cancel takes its request out, or is queued itself. -/
def hab_open_receive_cancel (dev : Device) (pchan : ℕ) (data : Xdata) (age : ℤ) (alloc : Bool) :
    Device :=
  if dev.openq_list.any (unserved data) then
    ⟨dev.openq_list.eraseP (unserved data), dev.openq_cnt - 1⟩
  else hab_open_request_add dev ⟨.INIT_CANCEL, pchan, data⟩ age alloc

def receive (dev : Device) (request : Request) (age : ℤ) (alloc : Bool) : Device :=
  if request.type = .INIT_CANCEL then
    hab_open_receive_cancel dev request.pchan request.xdata age alloc
  else hab_open_request_add dev request age alloc

/-! ## References -/

/-- References that a call holds, and queue nodes that are lost. -/
structure Refs where
  pchan : ℤ
  vchan : ℤ
  nodes : ℤ
  deriving DecidableEq

namespace Refs

def zero : Refs := ⟨0, 0, 0⟩

variable (r : Refs)

def pchan_get : Refs := { r with pchan := r.pchan + 1 }
def pchan_put : Refs := { r with pchan := r.pchan - 1 }
def vchan_alloc : Refs := { r with vchan := r.vchan + 1 }
def vchan_put : Refs := { r with vchan := r.vchan - 1 }
def take (recv_request : Option Request) : Refs :=
  { r with nodes := if recv_request.isSome then r.nodes + 1 else r.nodes }
def request_free : Refs := { r with nodes := r.nodes - 1 }

end Refs

/-! ## `frontend_open` -/

/-- Where `frontend_open` is. `via` is the request that ended its wait. -/
inductive FeState where
  | waiting
  | acked (otherend_id : UInt32) (via : Request)
  | opened (otherend_id : UInt32) (via : Request)
  | failed (ret : Ret)
  deriving DecidableEq

/-- A call of `frontend_open`. -/
structure FeCall where
  pchan : ℕ
  vchan_id : UInt32
  sub_id : UInt32
  open_id : UInt32
  /-- Nobody initialises `request.xdata.ver_be`. -/
  ver_be : UInt32
  state : FeState
  refs : Refs
  deriving DecidableEq

namespace FeCall

variable (call : FeCall)

def request (type : PayloadType) (vchan_id : UInt32) : Request :=
  ⟨type, call.pchan, ⟨vchan_id, call.sub_id, call.open_id, HAB_API_VER, call.ver_be⟩⟩

def listen : Listen := ⟨.INIT_ACK, some call.pchan, call.sub_id, call.open_id⟩

/-- From the beginning, with the physical channel found, to the first wait. `sent` is what the
send returns. -/
def start (pchan : ℕ) (vchan_id sub_id open_id ver_be : UInt32) (alloc : Bool) (sent : Ret) :
    FeCall × List Request :=
  let call : FeCall := ⟨pchan, vchan_id, sub_id, open_id, ver_be, .waiting, Refs.zero.pchan_get⟩
  if alloc = false then
    ({ call with state := .failed .ENOMEM, refs := call.refs.pchan_put }, [])
  else if sent ≠ .ok then
    ({ call with state := .failed sent, refs := call.refs.vchan_alloc.vchan_put.pchan_put }, [])
  else ({ call with refs := call.refs.vchan_alloc }, [call.request .INIT vchan_id])

def judge (ret : Ret) (recv_request : Option Request) (sent : Ret) : FeCall × List Request :=
  let refs := call.refs.take recv_request
  match ret, recv_request with
  | .ok, some r =>
    if major r.xdata.ver_fe ≠ major r.xdata.ver_be then
      ({ call with state := .failed .EPROTO, refs := refs.vchan_put.pchan_put }, [])
    else ({ call with state := .acked r.xdata.vchan_id r, refs := refs.request_free }, [])
  | ret, _ =>
    ({ call with
        state := .failed (if ret = .EINTR then .EINTR else .EINVAL)
        refs := refs.vchan_put.pchan_put },
      if sent = .ok then [call.request .INIT_CANCEL call.vchan_id] else [])

def look (dev : Device) (closed : Bool) (wake : Wake) (now : ℤ) (sent : Ret) :
    FeCall × Device × List Request :=
  match call.state with
  | .waiting =>
    match hab_open_listen dev closed call.listen false wake now with
    | (none, dev') => (call, dev', [])
    | (some (ret, recv_request), dev') =>
      let j := call.judge ret recv_request sent
      (j.1, dev', j.2)
  | _ => (call, dev, [])

lemma look_cases (dev : Device) (closed : Bool) (wake : Wake) (now : ℤ) (sent : Ret) :
    (call.state ≠ .waiting ∧ call.look dev closed wake now sent = (call, dev, [])) ∨
    call.state = .waiting ∧ ∃ result dev',
      hab_open_listen dev closed call.listen false wake now = (result, dev') ∧
      call.look dev closed wake now sent =
        match result with
        | none => (call, dev', [])
        | some (ret, recv_request) =>
          ((call.judge ret recv_request sent).1, dev', (call.judge ret recv_request sent).2) := by
  unfold look
  cases hstate : call.state with
  | waiting =>
    cases hlisten : hab_open_listen dev closed call.listen false wake now with
    | mk result dev' =>
      refine .inr ⟨rfl, result, dev', rfl, ?_⟩
      cases result <;> rfl
  | acked | opened | failed => exact .inl ⟨by simp, rfl⟩

def send_done (sent : Ret) : FeCall × List Request :=
  match call.state with
  | .acked otherend_id via =>
    if sent = .ok then
      ({ call with state := .opened otherend_id via, refs := call.refs.pchan_put },
        [call.request .INIT_DONE 0])
    else ({ call with state := .failed sent, refs := call.refs.vchan_put.pchan_put }, [])
  | _ => (call, [])

def cancel_notify (sent : Ret) : List Request :=
  match call.state with
  | .waiting => if sent = .ok then [call.request .INIT_CANCEL call.vchan_id] else []
  | _ => []

end FeCall

/-! ## `backend_listen` -/

/-- A vchan, as far as the handshake sets it. -/
structure Chan where
  id : UInt32
  session_id : UInt32
  otherend_id : UInt32
  deriving DecidableEq

/-- Where `backend_listen` is. `via` is the request that ended the first wait, and `done` the
one that ended the second. -/
inductive BeState where
  | listening
  | taken (via : Request)
  | waiting (vchan : Chan) (via : Request)
  | opened (vchan : Chan) (via done : Request)
  | failed (ret : Ret)
  | oops
  deriving DecidableEq

/-- A call of `backend_listen`. -/
structure BeCall where
  sub_id : UInt32
  timed : Bool
  state : BeState
  refs : Refs
  deriving DecidableEq

namespace BeCall

variable (call : BeCall)

def start (sub_id : UInt32) (timed : Bool) : BeCall := ⟨sub_id, timed, .listening, .zero⟩

def request (type : PayloadType) (vchan_id : UInt32) (via : Request) : Request :=
  ⟨type, via.pchan, ⟨vchan_id, call.sub_id, via.xdata.open_id, via.xdata.ver_fe, HAB_API_VER⟩⟩

def listen_init : Listen := ⟨.INIT, none, call.sub_id, 0⟩

def listen_done (via : Request) : Listen :=
  ⟨.INIT_DONE, some via.pchan, call.sub_id, via.xdata.open_id⟩

def judge_init (ret : Ret) (recv_request : Option Request) : BeCall :=
  let refs := call.refs.take recv_request
  match ret, recv_request with
  | .ok, some r =>
    if major r.xdata.ver_fe ≠ major HAB_API_VER then { call with state := .oops, refs }
    else { call with state := .taken r, refs := refs.pchan_get.request_free }
  | ret, _ =>
    { call with
      state := .failed (if ret = .ok then .EINVAL else if ret = .EAGAIN then .ETIMEDOUT else ret)
      refs }

def send_ack (vchan_id : UInt32) (alloc : Bool) (sent : Ret) : BeCall × List Request :=
  match call.state with
  | .taken via =>
    if alloc = false then
      ({ call with state := .failed .ENOMEM, refs := call.refs.pchan_put }, [])
    else if sent ≠ .ok then
      ({ call with state := .failed sent, refs := call.refs.vchan_alloc.vchan_put.pchan_put }, [])
    else
      ({ call with
          state := .waiting ⟨vchan_id, via.xdata.open_id, via.xdata.vchan_id⟩ via
          refs := call.refs.vchan_alloc },
        [call.request .INIT_ACK vchan_id via])
  | _ => (call, [])

def judge_done (vchan : Chan) (via : Request) (ret : Ret) (recv_request : Option Request)
    (sent : Ret) : BeCall × List Request :=
  let refs := call.refs.take recv_request
  let cancel := if sent = .ok then [call.request .INIT_CANCEL vchan.id via] else []
  if ret ≠ .ok ∧ recv_request.any (·.type = .INIT_CANCEL) then
    ({ call with state := .failed .EINVAL, refs := refs.vchan_put.pchan_put }, cancel)
  else if ret ≠ .EAGAIN then
    match ret, recv_request with
    | .ok, some r =>
      ({ call with state := .opened vchan via r, refs := refs.request_free.pchan_put }, [])
    | _, _ => ({ call with state := .failed .EINVAL, refs := refs.vchan_put.pchan_put }, [])
  -- once more from the beginning
  else ({ call with state := .listening, refs := refs.vchan_put.pchan_put }, cancel)

def look (dev : Device) (closed : Bool) (wake : Wake) (now : ℤ) (sent : Ret) :
    BeCall × Device × List Request :=
  match call.state with
  | .listening =>
    match hab_open_listen dev closed call.listen_init call.timed wake now with
    | (none, dev') => (call, dev', [])
    | (some (ret, recv_request), dev') => (call.judge_init ret recv_request, dev', [])
  | .waiting vchan via =>
    match hab_open_listen dev closed (call.listen_done via) true wake now with
    | (none, dev') => (call, dev', [])
    | (some (ret, recv_request), dev') =>
      let j := call.judge_done vchan via ret recv_request sent
      (j.1, dev', j.2)
  | _ => (call, dev, [])

lemma look_cases (dev : Device) (closed : Bool) (wake : Wake) (now : ℤ) (sent : Ret) :
    ((call.state ≠ .listening ∧ ∀ vchan via, call.state ≠ .waiting vchan via) ∧
      call.look dev closed wake now sent = (call, dev, [])) ∨
    (call.state = .listening ∧ ∃ result dev',
      hab_open_listen dev closed call.listen_init call.timed wake now = (result, dev') ∧
      call.look dev closed wake now sent =
        match result with
        | none => (call, dev', [])
        | some (ret, recv_request) => (call.judge_init ret recv_request, dev', [])) ∨
    ∃ vchan via, call.state = .waiting vchan via ∧ ∃ result dev',
      hab_open_listen dev closed (call.listen_done via) true wake now = (result, dev') ∧
      call.look dev closed wake now sent =
        match result with
        | none => (call, dev', [])
        | some (ret, recv_request) =>
          ((call.judge_done vchan via ret recv_request sent).1, dev',
            (call.judge_done vchan via ret recv_request sent).2) := by
  unfold look
  cases hstate : call.state with
  | listening =>
    cases hlisten : hab_open_listen dev closed call.listen_init call.timed wake now with
    | mk result dev' =>
      refine .inr (.inl ⟨rfl, result, dev', rfl, ?_⟩)
      cases result <;> rfl
  | waiting vchan via =>
    cases hlisten : hab_open_listen dev closed (call.listen_done via) true wake now with
    | mk result dev' =>
      refine .inr (.inr ⟨vchan, via, rfl, result, dev', hlisten, ?_⟩)
      cases result <;> simp only [hlisten]
  | taken | opened | failed | oops => exact .inl ⟨⟨by simp, by simp⟩, rfl⟩

def cancel_notify (sent : Ret) : List Request :=
  match call.state with
  | .waiting vchan via =>
    if sent = .ok then [call.request .INIT_CANCEL vchan.id via] else []
  | _ => []

end BeCall

/-! ## What a search finds -/

variable {now : ℤ}

lemma wants_of_find {listen : Listen} {l : List Node} {request : Request}
    (h : (hab_open_request_find listen now l).1 = some request) :
    listen.wants request = true ∧ ∃ node ∈ l, node.request = request := by
  induction l with
  | nil => cases h
  | cons node rest ih =>
    rw [hab_open_request_find] at h
    by_cases hwants : listen.wants node.request = true
    · rw [if_pos hwants] at h
      cases h
      exact ⟨hwants, node, List.mem_cons_self, rfl⟩
    · rw [if_neg hwants] at h
      obtain ⟨hw, node', hmem, hreq⟩ := ih h
      exact ⟨hw, node', List.mem_cons_of_mem node hmem, hreq⟩

lemma find_subset (listen : Listen) (now : ℤ) (l : List Node) :
    (hab_open_request_find listen now l).2 ⊆ l := by
  induction l with
  | nil => exact .refl _
  | cons node rest ih =>
    rw [hab_open_request_find]
    split_ifs
    · exact List.subset_cons_self node rest
    · exact List.subset_cons_of_subset node ih
    · exact List.cons_subset_cons node ih

lemma listen_dev (dev : Device) (closed : Bool) (listen : Listen) (timed : Bool) (wake : Wake)
    (now : ℤ) :
    (hab_open_listen dev closed listen timed wake now).2 =
      if (listen.pchan.isSome && closed) = true then dev else (dev.find listen now).2 := by
  unfold hab_open_listen
  by_cases hclosed : (listen.pchan.isSome && closed) = true
  · rw [if_pos hclosed, if_pos hclosed]
  · rw [if_neg hclosed, if_neg hclosed]
    dsimp only
    split <;> rfl

variable {dev dev' : Device} {closed timed : Bool} {listen : Listen} {wake : Wake}

lemma listen_openq_subset {result : Option (Ret × Option Request)}
    (h : hab_open_listen dev closed listen timed wake now = (result, dev')) :
    dev'.openq_list ⊆ dev.openq_list := by
  obtain rfl : _ = dev' := congrArg Prod.snd h
  rw [listen_dev]
  split_ifs
  · exact .refl _
  · exact find_subset listen now dev.openq_list

lemma listen_found {ret : Ret} {request : Request}
    (h : hab_open_listen dev closed listen timed wake now = (some (ret, some request), dev')) :
    ret = .ok ∧ ¬ (listen.pchan.isSome && closed) = true ∧
      (hab_open_request_find listen now dev.openq_list).1 = some request := by
  unfold hab_open_listen at h
  by_cases hclosed : (listen.pchan.isSome && closed) = true
  · rw [if_pos hclosed] at h
    cases h
  · rw [if_neg hclosed] at h
    dsimp only at h
    split at h
    · rename_i r hr
      cases h
      exact ⟨rfl, hclosed, hr⟩
    · cases h
    · split_ifs at h <;> cases h
    · cases h

def finds (dev : Device) (closed : Bool) (now : ℤ) (listen : Listen) : Option Request :=
  if listen.pchan.isSome && closed then none
  else (hab_open_request_find listen now dev.openq_list).1

lemma listen_of_finds {r : Request} (h : finds dev closed now listen = some r) :
    ∃ dev', hab_open_listen dev closed listen timed wake now = (some (.ok, some r), dev') := by
  unfold finds at h
  unfold hab_open_listen
  by_cases hclosed : (listen.pchan.isSome && closed) = true
  · rw [if_pos hclosed] at h
    cases h
  · rw [if_neg hclosed] at h
    rw [if_neg hclosed]
    have hfind : (dev.find listen now).1 = some r := h
    simp only [hfind]
    exact ⟨_, rfl⟩

lemma mem_of_finds {r : Request}
    (h : finds dev closed now listen = some r) : ∃ node ∈ dev.openq_list, node.request = r := by
  unfold finds at h
  split_ifs at h
  exact (wants_of_find h).2

end KernelExtra.Hab.Open
