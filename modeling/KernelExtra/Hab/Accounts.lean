/-
Do the accounts of HAB balance?

At every moment `openq_cnt` should be the length of the queue, and every call should hold just the
references that the rest of it drops. Five places break this: an expired request is taken off
without counting it; a cancellation forgets the request it matches; a version that does not match
leaves the request unfreed; a profile that is too short keeps the channel; and `hab_vchan_open`
never drops the physical channel that it looks up.
-/
import KernelExtra.Hab.Open
import KernelExtra.Lib.Run

namespace KernelExtra.Hab.Open

open List

/-! ## Operations -/

/-- A physical channel, as `hab_pchan_find_domid` sees it. -/
structure Pchan where
  number : ℕ
  dom_id : ℤ
  refcount : ℕ
  is_be : Bool
  deriving DecidableEq

def HABCFG_VMID_DONT_CARE : ℤ := -2
def LOOPBACK_DOM : ℤ := 0xFF

/-- `hab_pchan_find_domid`. If the loop runs to its end, its cursor is the `head` of the list,
taken for a channel. -/
def hab_pchan_find_domid (pchannels : List Pchan) (head : Pchan) (dom_id : ℤ) : Option Pchan :=
  let pchan := (pchannels.find? fun p => p.dom_id = dom_id || dom_id = HABCFG_VMID_DONT_CARE).getD
    head
  if pchan.dom_id ≠ dom_id ∧ dom_id ≠ HABCFG_VMID_DONT_CARE then none
  else if pchan.refcount = 0 then none
  else some pchan

/-- What `hab_vchan_open` finds. -/
structure Scene where
  loopback : Bool
  lb_be : Bool
  dev : Bool
  pchannels : List Pchan
  pchannels_fe : List Pchan
  head : Pchan
  sub_id : UInt32
  timed : Bool
  vchan_id : UInt32
  open_id : UInt32
  ver_be : UInt32
  alloc : Bool
  sent : Ret

/-- An open, with the references on physical channels that `hab_vchan_open` itself holds, or a call
that has ended. -/
inductive Call where
  | fe (extra : ℤ) (call : FeCall)
  | be (extra : ℤ) (call : BeCall)
  | ended (refs : Refs)
  deriving DecidableEq

def frontend_open (scene : Scene) (extra : ℤ) (dom_id : ℤ) : Call :=
  if scene.dev = false then .ended ⟨extra, 0, 0⟩
  else
    match hab_pchan_find_domid scene.pchannels_fe scene.head dom_id with
    | none => .ended ⟨extra, 0, 0⟩
    | some pchan =>
      .fe extra (FeCall.start pchan.number scene.vchan_id scene.sub_id scene.open_id scene.ver_be
        scene.alloc scene.sent).1

def backend_listen (scene : Scene) (extra : ℤ) : Call :=
  if scene.dev = false then .ended ⟨extra, 0, 0⟩
  else .be extra (BeCall.start scene.sub_id scene.timed)

def hab_vchan_open (scene : Scene) : Call :=
  if scene.loopback then
    if scene.lb_be then backend_listen scene 0 else frontend_open scene 0 LOOPBACK_DOM
  else if scene.dev = false then .ended .zero
  else
    match hab_pchan_find_domid scene.pchannels scene.head HABCFG_VMID_DONT_CARE with
    | none => .ended .zero
    | some pchan =>
      if pchan.is_be then backend_listen scene 1 else frontend_open scene 1 HABCFG_VMID_DONT_CARE

def with_vchan (got : Bool) : Refs := if got then Refs.zero.vchan_alloc.vchan_put else .zero

def hab_vchan_recv (got : Bool) : Refs := with_vchan got

def hab_mem_export (valid got : Bool) : Refs := if valid then with_vchan got else .zero

def hab_vchan_close (found : Bool) : Refs := with_vchan found

/-- It puts the vchan on both ways, with `otherend_closed` and without. -/
def hab_msg_recv_refs (got : Bool) : Refs := with_vchan got

def HAB_HEADER_SIZE_MAX : ℕ := 0xFFFF

def sizeof_xing_vm_stat : ℕ := 32

def hab_vchan_send (sizebytes : ℕ) (got otherend_closed xing : Bool) : Refs :=
  if sizebytes > HAB_HEADER_SIZE_MAX then .zero
  else if got = false then .zero
  else
    let refs := Refs.zero.vchan_alloc
    if otherend_closed then refs.vchan_put
    else if xing && sizebytes < sizeof_xing_vm_stat then refs
    else refs.vchan_put

/-! ## Runs -/

/-- A device with the calls that have been made. -/
structure Books where
  dev : Device
  calls : List Call
  deriving DecidableEq

def Books.start : Books := ⟨⟨[], 0⟩, []⟩

/-- The operations that take references. -/
inductive Op where
  | hab_vchan_open (scene : Scene)
  | look (t : ℕ) (closed : Bool) (wake : Wake) (now : ℤ) (sent : Ret)
  | send_done (t : ℕ) (sent : Ret)
  | send_ack (t : ℕ) (vchan_id : UInt32) (alloc : Bool) (sent : Ret)
  | receive (request : Request) (age : ℤ) (alloc : Bool)
  | hab_msg_recv (got : Bool)
  | hab_vchan_send (sizebytes : ℕ) (got otherend_closed xing : Bool)
  | hab_vchan_recv (got : Bool)
  | hab_mem_export (valid got : Bool)
  | hab_vchan_close (found : Bool)

def lost (dev : Device) (request : Request) : Bool :=
  request.type = .INIT_CANCEL && dev.openq_list.any (unserved request.xdata)

def Books.step (s : Books) : Op → Books
  | .hab_vchan_open scene => { s with calls := s.calls ++ [Open.hab_vchan_open scene] }
  | .look t closed wake now sent =>
    match s.calls[t]? with
    | some (.fe extra call) =>
      let r := call.look s.dev closed wake now sent
      ⟨r.2.1, s.calls.set t (.fe extra r.1)⟩
    | some (.be extra call) =>
      let r := call.look s.dev closed wake now sent
      ⟨r.2.1, s.calls.set t (.be extra r.1)⟩
    | _ => s
  | .send_done t sent =>
    match s.calls[t]? with
    | some (.fe extra call) => { s with calls := s.calls.set t (.fe extra (call.send_done sent).1) }
    | _ => s
  | .send_ack t vchan_id alloc sent =>
    match s.calls[t]? with
    | some (.be extra call) =>
      { s with calls := s.calls.set t (.be extra (call.send_ack vchan_id alloc sent).1) }
    | _ => s
  | .receive request age alloc =>
    ⟨Open.receive s.dev request age alloc,
      s.calls ++ [.ended ⟨0, 0, if lost s.dev request then 1 else 0⟩]⟩
  | .hab_msg_recv got => { s with calls := s.calls ++ [.ended (hab_msg_recv_refs got)] }
  | .hab_vchan_send sizebytes got otherend_closed xing =>
    { s with calls := s.calls ++ [.ended (Open.hab_vchan_send sizebytes got otherend_closed xing)] }
  | .hab_vchan_recv got => { s with calls := s.calls ++ [.ended (Open.hab_vchan_recv got)] }
  | .hab_mem_export valid got =>
    { s with calls := s.calls ++ [.ended (Open.hab_mem_export valid got)] }
  | .hab_vchan_close found => { s with calls := s.calls ++ [.ended (Open.hab_vchan_close found)] }

/-! ## Balanced references -/

def FeState.owed : FeState → Refs
  | .waiting | .acked _ _ => ⟨1, 1, 0⟩
  | .opened _ _ => ⟨0, 1, 0⟩
  | .failed _ => .zero

def BeState.owed : BeState → Refs
  | .taken _ => ⟨1, 0, 0⟩
  | .waiting _ _ => ⟨1, 1, 0⟩
  | .opened _ _ _ => ⟨0, 1, 0⟩
  | .listening | .failed _ | .oops => .zero

def Call.owed : Call → Refs
  | .fe _ call => call.state.owed
  | .be _ call => call.state.owed
  | .ended _ => .zero

def Call.held : Call → Refs
  | .fe extra call => { call.refs with pchan := call.refs.pchan + extra }
  | .be extra call => { call.refs with pchan := call.refs.pchan + extra }
  | .ended refs => refs

/-- The queue is counted, and each call holds the references that its state calls for. -/
structure Balanced (s : Books) : Prop where
  openq_cnt : s.dev.openq_cnt = s.dev.openq_list.length
  calls : ∀ call ∈ s.calls, call.held = call.owed

instance (s : Books) : Decidable (Balanced s) :=
  decidable_of_iff (s.dev.openq_cnt = s.dev.openq_list.length ∧
      ∀ call ∈ s.calls, call.held = call.owed)
    ⟨fun h => ⟨h.1, h.2⟩, fun h => ⟨h.openq_cnt, h.calls⟩⟩

def passed (listen : Listen) (l : List Node) : List Node :=
  l.takeWhile fun node => !listen.wants node.request

/-- What a wait asks of the queue: nothing that it passes has expired, and what it finds has a
version that will do. -/
def Clean (dev : Device) (closed : Bool) (now : ℤ) (listen : Listen) (fits : Request → Prop) :
    Prop :=
  (listen.pchan.isSome && closed) = true ∨
    (∀ node ∈ passed listen dev.openq_list, ¬ node.age < now) ∧
    ∀ r, (hab_open_request_find listen now dev.openq_list).1 = some r → fits r

/-- An operation that keeps the books balanced. -/
def Proper (s : Books) : Op → Prop
  | .hab_vchan_open scene =>
    scene.loopback = true ∨ scene.dev = false ∨
      hab_pchan_find_domid scene.pchannels scene.head HABCFG_VMID_DONT_CARE = none
  | .look t closed _ now _ =>
    match s.calls[t]? with
    | some (.fe _ call) => call.state = .waiting →
      Clean s.dev closed now call.listen fun r => major r.xdata.ver_fe = major r.xdata.ver_be
    | some (.be _ call) =>
      match call.state with
      | .listening => Clean s.dev closed now call.listen_init fun r =>
          major r.xdata.ver_fe = major HAB_API_VER
      | .waiting _ via => Clean s.dev closed now (call.listen_done via) fun _ => True
      | _ => True
    | _ => True
  | .receive request _ _ => lost s.dev request = false
  | .hab_vchan_send sizebytes got otherend_closed xing =>
    got = true → otherend_closed = false → xing = true → sizebytes ≤ HAB_HEADER_SIZE_MAX →
      sizeof_xing_vm_stat ≤ sizebytes
  | _ => True

/-! ## The queue -/

theorem length_find (listen : Listen) (now : ℤ) (l : List Node) :
    (hab_open_request_find listen now l).2.length +
        (hab_open_request_find listen now l).1.isSome.toNat +
      (passed listen l).countP (·.age < now) = l.length := by
  induction l with
  | nil => rfl
  | cons node rest ih =>
    rw [hab_open_request_find, passed]
    by_cases hwants : listen.wants node.request = true
    · rw [if_pos hwants, takeWhile_cons_of_neg (by simp [hwants])]
      rfl
    · rw [if_neg hwants, takeWhile_cons_of_pos (by simp [hwants]), countP_cons, length_cons]
      unfold passed at ih
      dsimp only
      by_cases hage : node.age < now
      · rw [if_pos hage, if_pos (decide_eq_true hage)]
        omega
      · rw [if_neg hage, if_neg (by rwa [decide_eq_true_eq]), length_cons]
        omega

lemma find_cnt_iff {dev : Device} (hcnt : dev.openq_cnt = dev.openq_list.length) (listen : Listen)
    (now : ℤ) :
    (dev.find listen now).2.openq_cnt = (dev.find listen now).2.openq_list.length ↔
      ∀ node ∈ passed listen dev.openq_list, ¬ node.age < now := by
  have hlen := length_find listen now dev.openq_list
  have hexpired : (∀ node ∈ passed listen dev.openq_list, ¬ node.age < now) ↔
      (passed listen dev.openq_list).countP (·.age < now) = 0 := by
    rw [countP_eq_zero]
    simp
  rw [hexpired]
  change (if (hab_open_request_find listen now dev.openq_list).1.isSome = true
    then dev.openq_cnt - 1 else dev.openq_cnt) =
      ((hab_open_request_find listen now dev.openq_list).2.length : ℤ) ↔ _
  cases hfound : (hab_open_request_find listen now dev.openq_list).1.isSome with
  | true =>
    rw [hfound, Bool.toNat_true] at hlen
    rw [if_pos rfl]
    omega
  | false =>
    rw [hfound, Bool.toNat_false] at hlen
    rw [if_neg Bool.false_ne_true]
    omega

lemma receive_cnt {dev : Device} (hcnt : dev.openq_cnt = dev.openq_list.length)
    (request : Request) (age : ℤ) (alloc : Bool) :
    (receive dev request age alloc).openq_cnt =
      (receive dev request age alloc).openq_list.length := by
  have hadd : ∀ request, (hab_open_request_add dev request age alloc).openq_cnt =
      (hab_open_request_add dev request age alloc).openq_list.length := by
    intro request
    unfold hab_open_request_add
    split_ifs
    · rw [length_append, hcnt]
      rfl
    · exact hcnt
  unfold receive hab_open_receive_cancel
  split_ifs with _ hany
  · obtain ⟨node, hnode, hunserved⟩ := any_eq_true.mp hany
    have hlen := length_eraseP_of_mem hnode hunserved
    have hpos := length_pos_of_mem hnode
    change dev.openq_cnt - 1 = ((dev.openq_list.eraseP (unserved request.xdata)).length : ℤ)
    omega
  · exact hadd _
  · exact hadd _

/-! ## Calls -/

theorem FeCall.start_settled (pchan : ℕ) (vchan_id sub_id open_id ver_be : UInt32) (alloc : Bool)
    (sent : Ret) :
    (FeCall.start pchan vchan_id sub_id open_id ver_be alloc sent).1.refs =
      (FeCall.start pchan vchan_id sub_id open_id ver_be alloc sent).1.state.owed := by
  unfold FeCall.start
  split_ifs <;> rfl

variable {recv_request : Option Request}

lemma FeCall.judge_settled_iff {call : FeCall} (hrefs : call.refs = ⟨1, 1, 0⟩) {ret : Ret}
    (hret : ∀ r, recv_request = some r → ret = .ok) (sent : Ret) :
    (call.judge ret recv_request sent).1.refs =
        (call.judge ret recv_request sent).1.state.owed ↔
      ∀ r, recv_request = some r → major r.xdata.ver_fe = major r.xdata.ver_be := by
  cases recv_request with
  | none =>
    refine iff_of_true ?_ (fun r hr => by cases hr)
    cases ret <;> simp only [FeCall.judge, hrefs] <;> rfl
  | some r =>
    rw [hret r rfl]
    simp only [FeCall.judge, hrefs, Option.some.injEq, forall_eq']
    by_cases hver : major r.xdata.ver_fe = major r.xdata.ver_be
    · rw [if_neg (not_not_intro hver)]
      exact iff_of_true rfl hver
    · rw [if_pos hver]
      refine iff_of_false (fun h => ?_) hver
      have hnodes : (0 : ℤ) + 1 = 0 := congrArg Refs.nodes h
      omega

lemma FeCall.send_done_settled {call : FeCall} (hrefs : call.refs = call.state.owed)
    (sent : Ret) : (call.send_done sent).1.refs = (call.send_done sent).1.state.owed := by
  unfold FeCall.send_done
  split
  · rename_i hstate
    rw [hstate] at hrefs
    split_ifs <;> simp only [hrefs] <;> rfl
  · exact hrefs

variable {call : BeCall}

lemma BeCall.judge_init_settled_iff (hrefs : call.refs = .zero) {ret : Ret}
    (hret : ∀ r, recv_request = some r → ret = .ok) :
    (call.judge_init ret recv_request).refs = (call.judge_init ret recv_request).state.owed ↔
      ∀ r, recv_request = some r → major r.xdata.ver_fe = major HAB_API_VER := by
  cases recv_request with
  | none =>
    refine iff_of_true ?_ (fun r hr => by cases hr)
    cases ret <;> simp only [BeCall.judge_init, hrefs] <;> rfl
  | some r =>
    rw [hret r rfl]
    simp only [BeCall.judge_init, hrefs, Option.some.injEq, forall_eq']
    by_cases hver : major r.xdata.ver_fe = major HAB_API_VER
    · rw [if_neg (not_not_intro hver)]
      exact iff_of_true rfl hver
    · rw [if_pos hver]
      refine iff_of_false (fun h => ?_) hver
      have hnodes : (0 : ℤ) + 1 = 0 := congrArg Refs.nodes h
      omega

lemma BeCall.judge_done_settled (hrefs : call.refs = ⟨1, 1, 0⟩) (vchan : Chan)
    (via : Request) {ret : Ret} (hret : ∀ r, recv_request = some r → ret = .ok) (sent : Ret) :
    (call.judge_done vchan via ret recv_request sent).1.refs =
      (call.judge_done vchan via ret recv_request sent).1.state.owed := by
  cases recv_request with
  | none =>
    unfold BeCall.judge_done
    simp only [hrefs, Option.any_none, and_false, if_false, Bool.false_eq_true]
    by_cases hagain : ret ≠ .EAGAIN
    · cases ret <;> rfl
    · rw [if_neg hagain]
      rfl
  | some r =>
    rw [hret r rfl]
    simp only [BeCall.judge_done, hrefs, ne_eq, not_true_eq_false, false_and, if_false]
    rfl

lemma BeCall.send_ack_settled (hrefs : call.refs = call.state.owed)
    (vchan_id : UInt32) (alloc : Bool) (sent : Ret) :
    (call.send_ack vchan_id alloc sent).1.refs =
      (call.send_ack vchan_id alloc sent).1.state.owed := by
  unfold BeCall.send_ack
  split
  · rename_i hstate
    rw [hstate] at hrefs
    split_ifs <;> simp only [hrefs] <;> rfl
  · exact hrefs

/-! ## Runs that balance -/

def Call.Settled : Call → Prop
  | .fe extra call => extra = 0 ∧ call.refs = call.state.owed
  | .be extra call => extra = 0 ∧ call.refs = call.state.owed
  | .ended refs => refs = .zero

/-- The invariant: it also speaks of calls that are under way. -/
structure Settled (s : Books) : Prop where
  openq_cnt : s.dev.openq_cnt = s.dev.openq_list.length
  calls : ∀ call ∈ s.calls, call.Settled

lemma held_zero (refs : Refs) : { refs with pchan := refs.pchan + 0 } = refs := by
  rw [add_zero]

lemma Call.Settled.balanced {call : Call} (h : call.Settled) : call.held = call.owed := by
  cases call with
  | fe extra call | be extra call =>
    obtain ⟨rfl, hrefs⟩ := h
    exact (held_zero call.refs).trans hrefs
  | ended refs => exact h

lemma Settled.balanced {s : Books} (h : Settled s) : Balanced s :=
  ⟨h.openq_cnt, fun call hcall => (h.calls call hcall).balanced⟩

section Steps

variable {s : Books} {t : ℕ} {call : Call}

lemma Settled.append (h : Settled s) (hcall : call.Settled) :
    Settled { s with calls := s.calls ++ [call] } := by
  exact ⟨h.openq_cnt, forall_mem_append.mpr ⟨h.calls, forall_mem_singleton.mpr hcall⟩⟩

variable {dev : Device}

lemma Settled.set (h : Settled s)
    (hcnt : dev.openq_cnt = dev.openq_list.length) (hcall : call.Settled) :
    Settled ⟨dev, s.calls.set t call⟩ := by
  refine ⟨hcnt, fun c hc => ?_⟩
  rcases mem_or_eq_of_mem_set hc with hc | rfl
  · exact h.calls c hc
  · exact hcall

lemma not_balanced_append (hcall : call.held ≠ call.owed) :
    ¬ Balanced { s with calls := s.calls ++ [call] } := fun h =>
  hcall (h.calls call (mem_append_right _ (mem_singleton_self call)))

lemma listen_cnt_iff (hcnt : dev.openq_cnt = dev.openq_list.length)
    (closed : Bool) (listen : Listen) (timed : Bool) (wake : Wake) (now : ℤ) :
    (hab_open_listen dev closed listen timed wake now).2.openq_cnt =
        (hab_open_listen dev closed listen timed wake now).2.openq_list.length ↔
      (listen.pchan.isSome && closed) = true ∨
        ∀ node ∈ passed listen dev.openq_list, ¬ node.age < now := by
  rw [listen_dev]
  by_cases hclosed : (listen.pchan.isSome && closed) = true
  · rw [if_pos hclosed]
    exact iff_of_true hcnt (.inl hclosed)
  · rw [if_neg hclosed, find_cnt_iff hcnt, or_iff_right hclosed]

/-- `settled` says that the call after the look has settled its account. -/
lemma look_iff (hcnt : dev.openq_cnt = dev.openq_list.length) {closed : Bool}
    {listen : Listen} {timed : Bool} {wake : Wake} {now : ℤ} {fits : Request → Prop}
    {result : Option (Ret × Option Request)} {dev' : Device}
    (hlisten : hab_open_listen dev closed listen timed wake now = (result, dev')) {settled : Prop}
    (hsettled : settled ↔ ∀ ret r, result = some (ret, some r) → fits r) :
    (dev'.openq_cnt = dev'.openq_list.length ∧ settled) ↔ Clean dev closed now listen fits := by
  have hdev := listen_cnt_iff hcnt closed listen timed wake now
  rw [hlisten] at hdev
  rw [hdev, hsettled, Clean]
  by_cases hclosed : (listen.pchan.isSome && closed) = true
  · refine iff_of_true ⟨.inl hclosed, fun ret r hresult => ?_⟩ (.inl hclosed)
    rw [hresult] at hlisten
    exact absurd hclosed (listen_found hlisten).2.1
  · rw [or_iff_right hclosed, or_iff_right hclosed]
    refine and_congr_right fun _ => ⟨fun h r hfind => ?_, fun h ret r hresult => ?_⟩
    · obtain ⟨dev'', hreturn⟩ := @listen_of_finds now dev closed timed listen wake r
        (by rw [finds, if_neg hclosed]; exact hfind)
      rw [hreturn] at hlisten
      cases hlisten
      exact h .ok r rfl
    · rw [hresult] at hlisten
      exact h r (listen_found hlisten).2.2

lemma forall_found {ret : Ret} {recv_request : Option Request} {fits : Request → Prop} :
    (∀ r, recv_request = some r → fits r) ↔
      ∀ ret' r, some (ret, recv_request) = some (ret', some r) → fits r := by
  constructor
  · rintro hfits ret' r ⟨⟩
    exact hfits r rfl
  · rintro hfits r rfl
    exact hfits ret r rfl

def LookBalances (dev : Device) (refs owed : Refs) : Prop :=
  dev.openq_cnt = dev.openq_list.length ∧ refs = owed

lemma Settled.fe_look_iff (h : Settled s) {call : FeCall} (ht : s.calls[t]? = some (.fe 0 call))
    (hrefs : call.refs = call.state.owed) (closed : Bool) (wake : Wake) (now : ℤ) (sent : Ret) :
    LookBalances (call.look s.dev closed wake now sent).2.1
        (call.look s.dev closed wake now sent).1.refs
        (call.look s.dev closed wake now sent).1.state.owed ↔
      Proper s (.look t closed wake now sent) := by
  simp only [Proper, ht]
  rcases call.look_cases s.dev closed wake now sent with
    ⟨hstate, hlook⟩ | ⟨hstate, result, dev', hlisten, hlook⟩
  · rw [hlook]
    exact iff_of_true ⟨h.openq_cnt, hrefs⟩ (fun hwaiting => absurd hwaiting hstate)
  · rw [forall_prop_of_true hstate, hlook]
    cases result with
    | none => exact look_iff h.openq_cnt hlisten (iff_of_true hrefs fun _ _ hr => by cases hr)
    | some result =>
      obtain ⟨ret, recv_request⟩ := result
      apply look_iff h.openq_cnt hlisten
      rw [hstate] at hrefs
      rw [← forall_found, FeCall.judge_settled_iff hrefs ?_ sent]
      rintro r rfl
      exact (listen_found hlisten).1

lemma Settled.be_look_iff (h : Settled s) {call : BeCall} (ht : s.calls[t]? = some (.be 0 call))
    (hrefs : call.refs = call.state.owed) (closed : Bool) (wake : Wake) (now : ℤ) (sent : Ret) :
    LookBalances (call.look s.dev closed wake now sent).2.1
        (call.look s.dev closed wake now sent).1.refs
        (call.look s.dev closed wake now sent).1.state.owed ↔
      Proper s (.look t closed wake now sent) := by
  simp only [Proper, ht]
  rcases call.look_cases s.dev closed wake now sent with
    ⟨⟨hlistening, hwaiting⟩, hlook⟩ | ⟨hstate, result, dev', hlisten, hlook⟩ |
      ⟨vchan, via, hstate, result, dev', hlisten, hlook⟩
  · rw [hlook]
    refine iff_of_true ⟨h.openq_cnt, hrefs⟩ ?_
    split
    · rename_i hstate
      exact absurd hstate hlistening
    · rename_i vchan via hstate
      exact absurd hstate (hwaiting vchan via)
    · trivial
  · rw [hlook]
    simp only [hstate]
    cases result with
    | none => exact look_iff h.openq_cnt hlisten (iff_of_true hrefs fun _ _ hr => by cases hr)
    | some result =>
      obtain ⟨ret, recv_request⟩ := result
      apply look_iff h.openq_cnt hlisten
      rw [hstate] at hrefs
      rw [← forall_found, BeCall.judge_init_settled_iff hrefs]
      rintro r rfl
      exact (listen_found hlisten).1
  · rw [hlook]
    simp only [hstate]
    cases result with
    | none => exact look_iff h.openq_cnt hlisten (iff_of_true hrefs fun _ _ _ => trivial)
    | some result =>
      obtain ⟨ret, recv_request⟩ := result
      apply look_iff h.openq_cnt hlisten
      rw [hstate] at hrefs
      refine iff_of_true (BeCall.judge_done_settled hrefs vchan via ?_ sent) fun _ _ _ => trivial
      rintro r rfl
      exact (listen_found hlisten).1

/-! ### The other operations -/

variable (scene : Scene)

lemma frontend_open_settled (dom_id : ℤ) : (frontend_open scene 0 dom_id).Settled := by
  unfold frontend_open
  split_ifs
  · rfl
  · split
    · rfl
    · exact ⟨rfl, FeCall.start_settled ..⟩

lemma backend_listen_settled : (backend_listen scene 0).Settled := by
  unfold backend_listen
  split_ifs
  · rfl
  · exact ⟨rfl, rfl⟩

lemma frontend_open_held (dom_id : ℤ) :
    (frontend_open scene 1 dom_id).held ≠ (frontend_open scene 1 dom_id).owed := by
  intro h
  have hpchan := congrArg Refs.pchan h
  unfold frontend_open at hpchan
  split_ifs at hpchan
  · exact absurd hpchan (by decide)
  · split at hpchan
    · exact absurd hpchan (by decide)
    · simp only [Call.held, Call.owed, FeCall.start_settled] at hpchan
      omega

lemma backend_listen_held : (backend_listen scene 1).held ≠ (backend_listen scene 1).owed := by
  intro h
  have hpchan := congrArg Refs.pchan h
  unfold backend_listen at hpchan
  split_ifs at hpchan
  · exact absurd hpchan (by decide)
  · have hone : (0 : ℤ) + 1 = 0 := hpchan
    omega

lemma hab_vchan_open_settled {scene : Scene} (hproper : Proper s (.hab_vchan_open scene)) :
    (hab_vchan_open scene).Settled := by
  unfold hab_vchan_open
  by_cases hloopback : scene.loopback = true
  · split_ifs
    · exact backend_listen_settled scene
    · exact frontend_open_settled scene _
  · rw [if_neg hloopback]
    by_cases hdev : scene.dev = false
    · rw [if_pos hdev]
      rfl
    · rw [if_neg hdev, (hproper.resolve_left hloopback).resolve_left hdev]
      rfl

lemma hab_vchan_open_held {scene : Scene} (hbad : ¬ Proper s (.hab_vchan_open scene)) :
    (hab_vchan_open scene).held ≠ (hab_vchan_open scene).owed := by
  obtain ⟨hloopback, hrest⟩ := not_or.mp hbad
  obtain ⟨hdev, hfind⟩ := not_or.mp hrest
  obtain ⟨pchan, hpchan⟩ := Option.ne_none_iff_exists'.mp hfind
  unfold hab_vchan_open
  rw [if_neg hloopback, if_neg hdev, hpchan]
  dsimp only
  split_ifs
  · exact backend_listen_held scene
  · exact frontend_open_held scene _

lemma with_vchan_settled (got : Bool) : with_vchan got = .zero := by cases got <;> rfl

lemma hab_vchan_send_iff (sizebytes : ℕ) (got otherend_closed xing : Bool) :
    hab_vchan_send sizebytes got otherend_closed xing = .zero ↔
      Proper s (.hab_vchan_send sizebytes got otherend_closed xing) := by
  unfold hab_vchan_send
  simp only [Proper]
  cases got <;> cases otherend_closed <;> cases xing <;>
    simp [Refs.zero, Refs.vchan_alloc, Refs.vchan_put]

/-- **One operation** keeps the books settled, if it is proper. -/
theorem Settled.step (h : Settled s) (op : Op) (hproper : Proper s op) : Settled (s.step op) := by
  cases op with
  | hab_vchan_open scene => exact h.append (hab_vchan_open_settled hproper)
  | look t closed wake now sent =>
    cases ht : s.calls[t]? with
    | none => simpa only [Books.step, ht] using h
    | some call =>
      have hcall := h.calls call (mem_of_getElem? ht)
      cases call with
      | fe extra call =>
        obtain ⟨rfl, hrefs⟩ := hcall
        obtain ⟨hcnt, hlook⟩ := (h.fe_look_iff ht hrefs closed wake now sent).mpr hproper
        simp only [Books.step, ht]
        exact h.set hcnt ⟨rfl, hlook⟩
      | be extra call =>
        obtain ⟨rfl, hrefs⟩ := hcall
        obtain ⟨hcnt, hlook⟩ := (h.be_look_iff ht hrefs closed wake now sent).mpr hproper
        simp only [Books.step, ht]
        exact h.set hcnt ⟨rfl, hlook⟩
      | ended refs => simpa only [Books.step, ht] using h
  | send_done t sent =>
    simp only [Books.step]
    split
    · rename_i extra call ht
      obtain ⟨rfl, hrefs⟩ := h.calls _ (mem_of_getElem? ht)
      exact h.set h.openq_cnt ⟨rfl, FeCall.send_done_settled hrefs sent⟩
    · exact h
  | send_ack t vchan_id alloc sent =>
    simp only [Books.step]
    split
    · rename_i extra call ht
      obtain ⟨rfl, hrefs⟩ := h.calls _ (mem_of_getElem? ht)
      exact h.set h.openq_cnt ⟨rfl, BeCall.send_ack_settled hrefs vchan_id alloc sent⟩
    · exact h
  | receive request age alloc =>
    have hlost : lost s.dev request = false := hproper
    simp only [Books.step, hlost]
    have happ := h.append (show (Call.ended ⟨0, 0, 0⟩).Settled from rfl)
    exact ⟨receive_cnt h.openq_cnt request age alloc, happ.calls⟩
  | hab_msg_recv got => exact h.append (with_vchan_settled got)
  | hab_vchan_send sizebytes got otherend_closed xing =>
    exact h.append ((hab_vchan_send_iff sizebytes got otherend_closed xing).mpr hproper)
  | hab_vchan_recv got => exact h.append (with_vchan_settled got)
  | hab_mem_export valid got =>
    apply h.append
    cases valid with
    | true => exact with_vchan_settled got
    | false => rfl
  | hab_vchan_close found => exact h.append (with_vchan_settled found)

lemma Settled.not_balanced (h : Settled s) (op : Op) (hbad : ¬ Proper s op) :
    ¬ Balanced (s.step op) := by
  cases op with
  | hab_vchan_open scene => exact not_balanced_append (hab_vchan_open_held hbad)
  | look t closed wake now sent =>
    intro hbalanced
    apply hbad
    cases ht : s.calls[t]? with
    | none => simp only [Proper, ht]
    | some call =>
      have hcall := h.calls call (mem_of_getElem? ht)
      have hlt := (List.getElem?_eq_some_iff.mp ht).1
      cases call with
      | fe extra call =>
        obtain ⟨rfl, hrefs⟩ := hcall
        simp only [Books.step, ht] at hbalanced
        have hheld := hbalanced.calls _ (mem_set hlt _)
        exact (h.fe_look_iff ht hrefs closed wake now sent).mp
          ⟨hbalanced.openq_cnt, (held_zero _).symm.trans hheld⟩
      | be extra call =>
        obtain ⟨rfl, hrefs⟩ := hcall
        simp only [Books.step, ht] at hbalanced
        have hheld := hbalanced.calls _ (mem_set hlt _)
        exact (h.be_look_iff ht hrefs closed wake now sent).mp
          ⟨hbalanced.openq_cnt, (held_zero _).symm.trans hheld⟩
      | ended refs => simp only [Proper, ht]
  | receive request age alloc =>
    have hlost : lost s.dev request = true := Bool.of_not_eq_false hbad
    simp only [Books.step, hlost, if_true]
    exact @not_balanced_append ⟨receive s.dev request age alloc, s.calls⟩ _ (by decide)
  | hab_vchan_send sizebytes got otherend_closed xing =>
    exact not_balanced_append (mt (hab_vchan_send_iff sizebytes got otherend_closed xing).mp hbad)
  | send_done | send_ack | hab_msg_recv | hab_vchan_recv | hab_mem_export | hab_vchan_close =>
    exact absurd trivial hbad

end Steps

/-- **The accounts of HAB.** -/
theorem accounts_balance_iff (l : List Op) :
    (∀ l', l' <+: l → Balanced (Run.exec Books.step .start l')) ↔
      Run.Ok Books.step Proper .start l :=
  Run.prefix_good_iff (I := Settled) (fun _ h => h.balanced) (fun _ op h hp => h.step op hp)
    (fun _ op h hp => h.not_balanced op hp) l ⟨rfl, forall_mem_nil _⟩

def offer (ver_fe : UInt32) : Request := ⟨.INIT, 0, ⟨3, 0, 1, ver_fe, 0⟩⟩

def plain_open : Scene where
  loopback := false
  lb_be := false
  dev := true
  pchannels := [⟨0, 1, 1, true⟩]
  pchannels_fe := [⟨0, 1, 1, true⟩]
  head := ⟨0, 0, 0, false⟩
  sub_id := 0
  timed := true
  vchan_id := 7
  open_id := 1
  ver_be := 0
  alloc := true
  sent := .ok

def loopback_listen (sub_id : UInt32) : Scene :=
  { plain_open with loopback := true, lb_be := true, sub_id := sub_id }

/-- **Where they do not balance.** -/
theorem accounts_off :
    (let s := Run.exec Books.step .start
      [.hab_vchan_open plain_open, .look 0 false .timeout 0 .ok]
     s.calls.map Call.held = [⟨1, 0, 0⟩] ∧ s.calls.map Call.owed = [.zero] ∧ ¬ Balanced s) ∧
    (let s := Run.exec Books.step .start
      [.receive (offer HAB_API_VER) 100 true, .hab_vchan_open (loopback_listen 5),
        .look 1 false .timeout 200 .ok]
     s.dev.openq_cnt = 1 ∧ s.dev.openq_list = [] ∧ ¬ Balanced s) ∧
    (let s := Run.exec Books.step .start
      [.receive (offer HAB_API_VER) 100 true,
        .receive { offer HAB_API_VER with type := .INIT_CANCEL } 100 true]
     s.dev.openq_list = [] ∧ s.calls.map Call.held = [.zero, ⟨0, 0, 1⟩] ∧ ¬ Balanced s) ∧
    (let s := Run.exec Books.step .start
      [.receive (offer 0x00020000) 100 true, .hab_vchan_open (loopback_listen 0),
        .look 1 false .woken 0 .ok]
     s.dev.openq_list = [] ∧ s.calls.map Call.held = [.zero, ⟨0, 0, 1⟩] ∧ ¬ Balanced s) ∧
    (let s := Run.exec Books.step .start [.hab_vchan_send 8 true false true]
     s.calls = [.ended ⟨0, 1, 0⟩] ∧ ¬ Balanced s) := by
  decide +kernel

end KernelExtra.Hab.Open
