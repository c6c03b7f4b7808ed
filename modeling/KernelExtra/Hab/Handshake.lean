/-
The open handshake between two machines, each with any number of calls.

A frontend that returns a channel should have been acknowledged by a channel that points back at it,
a backend that returns one should have been told `INIT_DONE`, and a wait that meets an `INIT_CANCEL`
should fail or start over. The last part fails: `hab_open_request_find` returns a cancellation like
any other request.
-/
import KernelExtra.Hab.Open
import KernelExtra.Lib.Run

namespace KernelExtra.Hab.Open

open Run (exec Ok)
open List

/-! ## Two machines -/

/-- Both sides with their calls, and what is under way between them. -/
structure World where
  fe : List FeCall
  be : List BeCall
  fe_dev : Device
  be_dev : Device
  to_be : List Request
  to_fe : List Request
  fe_closed : Bool
  be_closed : Bool
  vchans : List Chan
  deriving DecidableEq

def World.start : World := ⟨[], [], ⟨[], 0⟩, ⟨[], 0⟩, [], [], false, false, []⟩

/-- The steps of callers on both sides, and the arrival of messages. -/
inductive Act where
  | frontend_open (vchan_id sub_id ver_be : UInt32) (alloc : Bool) (sent : Ret)
  | fe_look (t : ℕ) (wake : Wake) (now : ℤ) (sent : Ret)
  | fe_done (t : ℕ) (sent : Ret)
  | fe_notify (t : ℕ) (sent : Ret)
  | backend_listen (sub_id : UInt32) (timed : Bool)
  | be_look (t : ℕ) (wake : Wake) (now : ℤ) (sent : Ret)
  | be_ack (t : ℕ) (vchan_id : UInt32) (alloc : Bool) (sent : Ret)
  | be_notify (t : ℕ) (sent : Ret)
  | fe_receive (age : ℤ) (alloc : Bool)
  | be_receive (age : ℤ) (alloc : Bool)
  | fe_close
  | be_close
  deriving DecidableEq

def announced (call : BeCall) (sends : List Request) : List Chan :=
  match sends, call.state with
  | _ :: _, .waiting vchan _ => [vchan]
  | _, _ => []

namespace World

variable (s : World)

def with_fe (t : ℕ) (call : FeCall) (dev : Device) (sends : List Request) : World :=
  { s with fe := s.fe.set t call, fe_dev := dev, to_be := s.to_be ++ sends }

def with_be (t : ℕ) (call : BeCall) (dev : Device) (sends : List Request) (vchans : List Chan) :
    World :=
  { s with
    be := s.be.set t call
    be_dev := dev
    to_fe := s.to_fe ++ sends
    vchans := s.vchans ++ vchans }

/-- Each end has one physical channel, number 0. `open_id_counter` has been raised once for
every call. -/
def step : Act → World
  | .frontend_open vchan_id sub_id ver_be alloc sent =>
    let r := FeCall.start 0 vchan_id sub_id (.ofNat (s.fe.length + 1)) ver_be alloc sent
    { s with fe := s.fe ++ [r.1], to_be := s.to_be ++ r.2 }
  | .fe_look t wake now sent =>
    match s.fe[t]? with
    | none => s
    | some call =>
      let r := call.look s.fe_dev s.fe_closed wake now sent
      s.with_fe t r.1 r.2.1 r.2.2
  | .fe_done t sent =>
    match s.fe[t]? with
    | none => s
    | some call =>
      let r := call.send_done sent
      s.with_fe t r.1 s.fe_dev r.2
  | .fe_notify t sent =>
    match s.fe[t]? with
    | none => s
    | some call => s.with_fe t call s.fe_dev (call.cancel_notify sent)
  | .backend_listen sub_id timed => { s with be := s.be ++ [.start sub_id timed] }
  | .be_look t wake now sent =>
    match s.be[t]? with
    | none => s
    | some call =>
      let r := call.look s.be_dev s.be_closed wake now sent
      s.with_be t r.1 r.2.1 r.2.2 []
  | .be_ack t vchan_id alloc sent =>
    match s.be[t]? with
    | none => s
    | some call =>
      let r := call.send_ack vchan_id alloc sent
      s.with_be t r.1 s.be_dev r.2 (announced r.1 r.2)
  | .be_notify t sent =>
    match s.be[t]? with
    | none => s
    | some call => s.with_be t call s.be_dev (call.cancel_notify sent) []
  | .fe_receive age alloc =>
    match s.to_fe with
    | [] => s
    | m :: rest =>
      { s with
        fe_dev := receive s.fe_dev { m with pchan := 0 } age alloc
        to_fe := rest }
  | .be_receive age alloc =>
    match s.to_be with
    | [] => s
    | m :: rest =>
      { s with
        be_dev := receive s.be_dev { m with pchan := 0 } age alloc
        to_be := rest }
  | .fe_close => { s with fe_closed := true }
  | .be_close => { s with be_closed := true }

end World

/-! ## Both ends agree -/

def FeState.took : FeState → List Request
  | .acked _ via | .opened _ via => [via]
  | .waiting | .failed _ => []

def BeState.took : BeState → List Request
  | .taken via | .waiting _ via => [via]
  | .opened _ via done => [via, done]
  | .listening | .failed _ | .oops => []

def Paired (vchans : List Chan) (call : FeCall) (otherend_id : UInt32) : Prop :=
  ∃ w ∈ vchans,
    w.session_id = call.open_id ∧ w.id = otherend_id ∧ w.otherend_id = call.vchan_id

/-- An open returns on the right message, with the vchan of its partner, and never on a cancel. -/
structure Good (s : World) : Prop where
  fe_opened : ∀ call ∈ s.fe, ∀ otherend_id via, call.state = .opened otherend_id via →
    via.type = .INIT_ACK ∧ Paired s.vchans call otherend_id
  be_opened : ∀ call ∈ s.be, ∀ vchan via done, call.state = .opened vchan via done →
    done.type = .INIT_DONE ∧ done.xdata.open_id = vchan.session_id
  fe_cancel : ∀ call ∈ s.fe, ∀ r ∈ call.state.took, r.type ≠ .INIT_CANCEL
  be_cancel : ∀ call ∈ s.be, ∀ r ∈ call.state.took, r.type ≠ .INIT_CANCEL

def FeCall.waits (call : FeCall) : Option Listen :=
  match call.state with
  | .waiting => some call.listen
  | _ => none

def BeCall.waits (call : BeCall) : Option Listen :=
  match call.state with
  | .listening => some call.listen_init
  | .waiting _ via => some (call.listen_done via)
  | _ => none

/-- A wait that looks does not find an `INIT_CANCEL`. -/
def Uncancelled (s : World) : Act → Prop
  | .fe_look t _ now _ =>
    ∀ call ∈ s.fe[t]?, ∀ listen ∈ call.waits, ∀ r ∈ finds s.fe_dev s.fe_closed now listen,
      r.type ≠ .INIT_CANCEL
  | .be_look t _ now _ =>
    ∀ call ∈ s.be[t]?, ∀ listen ∈ call.waits, ∀ r ∈ finds s.be_dev s.be_closed now listen,
      r.type ≠ .INIT_CANCEL
  | _ => True

def Fresh (s : World) : Act → Prop
  | .frontend_open .. => s.fe.length + 1 < 2 ^ 32
  | _ => True

instance (s : World) (a : Act) : Decidable (Uncancelled s a) := by
  cases a <;> unfold Uncancelled <;> infer_instance

instance (s : World) (a : Act) : Decidable (Fresh s a) := by
  cases a <;> unfold Fresh <;> infer_instance

/-! ## The invariant -/

def FeCall.ids (call : FeCall) : UInt32 × UInt32 := (call.open_id, call.vchan_id)

def World.sessions (s : World) : List (UInt32 × UInt32) := s.fe.map FeCall.ids

/-- What every message of the frontend satisfies. -/
structure FromFe (sessions : List (UInt32 × UInt32)) (m : Request) : Prop where
  ver_fe : m.xdata.ver_fe = HAB_API_VER
  init : m.type = .INIT → (m.xdata.open_id, m.xdata.vchan_id) ∈ sessions

/-- What every message of the backend satisfies. -/
structure FromBe (vchans : List Chan) (m : Request) : Prop where
  ver_fe : m.xdata.ver_fe = HAB_API_VER
  ver_be : m.xdata.ver_be = HAB_API_VER
  ack : m.type = .INIT_ACK →
    ∃ w ∈ vchans, w.session_id = m.xdata.open_id ∧ w.id = m.xdata.vchan_id

/-- Sessions are numbered in order, and there are not too many. -/
structure Numbered (sessions : List (UInt32 × UInt32)) : Prop where
  few : sessions.length < 2 ^ 32
  number : ∀ (i : ℕ) (p : UInt32 × UInt32), sessions[i]? = some p → p.1 = .ofNat (i + 1)

def FeOk (vchans : List Chan) (call : FeCall) : Prop :=
  match call.state with
  | .acked otherend_id via | .opened otherend_id via =>
    via.type = .INIT_ACK ∧ Paired vchans call otherend_id
  | .waiting | .failed _ => True

/-- An `INIT` that a backend may take. -/
structure Offer (sessions : List (UInt32 × UInt32)) (via : Request) : Prop
    extends FromFe sessions via where
  type : via.type = .INIT

def BeOk (sessions : List (UInt32 × UInt32)) (call : BeCall) : Prop :=
  match call.state with
  | .taken via => Offer sessions via
  | .waiting vchan via => Offer sessions via ∧ vchan.session_id = via.xdata.open_id
  | .opened vchan via done =>
    Offer sessions via ∧ done.type = .INIT_DONE ∧ done.xdata.open_id = vchan.session_id
  | .listening | .failed _ | .oops => True

/-- Calls, queues and messages under way go together. -/
structure Inv (s : World) : Prop where
  numbered : Numbered s.sessions
  fe : ∀ call ∈ s.fe, FeOk s.vchans call
  be : ∀ call ∈ s.be, BeOk s.sessions call
  to_be : ∀ m ∈ s.to_be, FromFe s.sessions m
  be_queue : ∀ node ∈ s.be_dev.openq_list, FromFe s.sessions node.request
  to_fe : ∀ m ∈ s.to_fe, FromBe s.vchans m
  fe_queue : ∀ node ∈ s.fe_dev.openq_list, FromBe s.vchans node.request
  vchans : ∀ w ∈ s.vchans, (w.session_id, w.otherend_id) ∈ s.sessions

lemma Numbered.ne_zero {sessions : List (UInt32 × UInt32)} (h : Numbered sessions)
    {p : UInt32 × UInt32} (hp : p ∈ sessions) : p.1 ≠ 0 := by
  obtain ⟨i, hi⟩ := getElem?_of_mem hp
  have hlt := (List.getElem?_eq_some_iff.mp hi).1
  have hfew := h.few
  rw [h.number i p hi]
  intro hzero
  have := congrArg UInt32.toNat hzero
  rw [UInt32.toNat_ofNat', Nat.mod_eq_of_lt (by omega)] at this
  exact absurd this (Nat.succ_ne_zero i)

lemma Numbered.inj {sessions : List (UInt32 × UInt32)} (h : Numbered sessions)
    {p q : UInt32 × UInt32} (hp : p ∈ sessions) (hq : q ∈ sessions) (heq : p.1 = q.1) : p = q := by
  obtain ⟨i, hi⟩ := getElem?_of_mem hp
  obtain ⟨j, hj⟩ := getElem?_of_mem hq
  have hilt := (List.getElem?_eq_some_iff.mp hi).1
  have hjlt := (List.getElem?_eq_some_iff.mp hj).1
  have hfew := h.few
  rw [h.number i p hi, h.number j q hj] at heq
  have hnat := congrArg UInt32.toNat heq
  rw [UInt32.toNat_ofNat', UInt32.toNat_ofNat', Nat.mod_eq_of_lt (by omega),
    Nat.mod_eq_of_lt (by omega)] at hnat
  have hij : i = j := by omega
  rw [hij, hj] at hi
  exact (Option.some.inj hi).symm

lemma Inv.good {s : World} (h : Inv s) : Good s where
  fe_opened call hcall otherend_id via hstate := by
    have hok := h.fe call hcall
    rwa [FeOk, hstate] at hok
  be_opened call hcall vchan via done hstate := by
    have hok := h.be call hcall
    rw [BeOk, hstate] at hok
    exact hok.2
  fe_cancel call hcall r hr := by
    have hok := h.fe call hcall
    unfold FeOk at hok
    cases hstate : call.state with
    | acked otherend_id via | opened otherend_id via =>
      rw [hstate] at hr hok
      rw [mem_singleton.mp hr, hok.1]
      decide
    | waiting | failed ret =>
      rw [hstate] at hr
      exact absurd hr not_mem_nil
  be_cancel call hcall r hr := by
    have hok := h.be call hcall
    unfold BeOk at hok
    cases hstate : call.state with
    | taken via =>
      rw [hstate] at hr hok
      rw [mem_singleton.mp hr, hok.type]
      decide
    | waiting vchan via =>
      rw [hstate] at hr hok
      rw [mem_singleton.mp hr, hok.1.type]
      decide
    | opened vchan via done =>
      rw [hstate] at hr hok
      rcases mem_pair.mp hr with rfl | rfl
      · rw [hok.1.type]
        decide
      · rw [hok.2.1]
        decide
    | listening | failed ret | oops =>
      rw [hstate] at hr
      exact absurd hr not_mem_nil

/-! ## Steps -/

section

variable {sessions sessions' : List (UInt32 × UInt32)} {vchans vchans' : List Chan}

lemma FromFe.mono {m : Request} (h : FromFe sessions m) (hsub : sessions ⊆ sessions') :
    FromFe sessions' m :=
  ⟨h.ver_fe, fun htype => hsub (h.init htype)⟩

lemma FromBe.mono {m : Request} (h : FromBe vchans m) (hsub : vchans ⊆ vchans') :
    FromBe vchans' m := by
  refine ⟨h.ver_fe, h.ver_be, fun htype => ?_⟩
  obtain ⟨w, hw, hids⟩ := h.ack htype
  exact ⟨w, hsub hw, hids⟩

lemma FeOk.mono {call : FeCall} (h : FeOk vchans call) (hsub : vchans ⊆ vchans') :
    FeOk vchans' call := by
  unfold FeOk at h ⊢
  split
  · rename_i hstate
    rw [hstate] at h
    obtain ⟨htype, w, hw, hids⟩ := h
    exact ⟨htype, w, hsub hw, hids⟩
  · rename_i hstate
    rw [hstate] at h
    obtain ⟨htype, w, hw, hids⟩ := h
    exact ⟨htype, w, hsub hw, hids⟩
  · trivial
  · trivial

lemma Offer.mono {via : Request} (h : Offer sessions via) (hsub : sessions ⊆ sessions') :
    Offer sessions' via :=
  ⟨h.toFromFe.mono hsub, h.type⟩

lemma BeOk.mono {call : BeCall} (h : BeOk sessions call) (hsub : sessions ⊆ sessions') :
    BeOk sessions' call := by
  unfold BeOk at h ⊢
  split <;> simp_all only
  · exact h.mono hsub
  · exact ⟨h.1.mono hsub, trivial⟩
  · exact ⟨h.1.mono hsub, trivial, trivial⟩

end

section Steps

variable {s : World} {t : ℕ}

variable {call : FeCall} {vchans : List Chan} {recv_request : Option Request} {now : ℤ}
  {sessions : List (UInt32 × UInt32)}

lemma sessions_set {call' : FeCall} (ht : s.fe[t]? = some call)
    (hids : call'.ids = call.ids) : (s.fe.set t call').map FeCall.ids = s.sessions := by
  apply ext_getElem?
  intro i
  rw [World.sessions, getElem?_map, getElem?_map]
  rcases eq_or_ne t i with rfl | hne
  · rw [getElem?_set_self (List.getElem?_eq_some_iff.mp ht).1, ht]
    exact congrArg some hids
  · rw [getElem?_set_ne hne]

variable {dev : Device}

lemma Inv.with_fe (h : Inv s) {call' : FeCall} {sends : List Request}
    (ht : s.fe[t]? = some call) (hids : call'.ids = call.ids) (hok : FeOk s.vchans call')
    (hdev : dev.openq_list ⊆ s.fe_dev.openq_list) (hsends : ∀ m ∈ sends, FromFe s.sessions m) :
    Inv (s.with_fe t call' dev sends) := by
  have hsessions : (s.with_fe t call' dev sends).sessions = s.sessions := sessions_set ht hids
  constructor
  · rw [hsessions]
    exact h.numbered
  · intro c hc
    rcases mem_or_eq_of_mem_set hc with hc | rfl
    · exact h.fe c hc
    · exact hok
  · rw [hsessions]
    exact h.be
  · rw [hsessions]
    exact forall_mem_append.mpr ⟨h.to_be, hsends⟩
  · rw [hsessions]
    exact h.be_queue
  · exact h.to_fe
  · exact fun node hnode => h.fe_queue node (hdev hnode)
  · rw [hsessions]
    exact h.vchans

lemma Inv.with_be (h : Inv s) {call' : BeCall} {sends : List Request} (hok : BeOk s.sessions call')
    (hdev : dev.openq_list ⊆ s.be_dev.openq_list)
    (hsends : ∀ m ∈ sends, FromBe (s.vchans ++ vchans) m)
    (hvchans : ∀ w ∈ vchans, (w.session_id, w.otherend_id) ∈ s.sessions) :
    Inv (s.with_be t call' dev sends vchans) := by
  have hsub : s.vchans ⊆ s.vchans ++ vchans := subset_append_left ..
  constructor
  · exact h.numbered
  · exact fun c hc => (h.fe c hc).mono hsub
  · intro c hc
    rcases mem_or_eq_of_mem_set hc with hc | rfl
    · exact h.be c hc
    · exact hok
  · exact h.to_be
  · exact fun node hnode => h.be_queue node (hdev hnode)
  · exact forall_mem_append.mpr ⟨fun m hm => (h.to_fe m hm).mono hsub, hsends⟩
  · exact fun node hnode => (h.fe_queue node hnode).mono hsub
  · exact forall_mem_append.mpr ⟨h.vchans, hvchans⟩

lemma forall_mem_sent {sent : Ret} {m : Request} {p : Request → Prop} (h : p m) :
    ∀ m' ∈ (if sent = .ok then [m] else []), p m' := by
  split_ifs
  · exact forall_mem_singleton.mpr h
  · exact forall_mem_nil p

/-! ### Frontends -/

theorem FeCall.fromFe_request (call : FeCall) {type : PayloadType} (htype : type ≠ .INIT)
    (vchan_id : UInt32) (sessions : List (UInt32 × UInt32)) :
    FromFe sessions (call.request type vchan_id) :=
  ⟨rfl, fun h => absurd h htype⟩

lemma FeCall.judge_spec (call : FeCall) {ret : Ret} (sent : Ret)
    (hfound : ∀ r, recv_request = some r →
      r.type = .INIT_ACK ∧ Paired vchans call r.xdata.vchan_id)
    (sessions : List (UInt32 × UInt32)) :
    (call.judge ret recv_request sent).1.ids = call.ids ∧
      FeOk vchans (call.judge ret recv_request sent).1 ∧
      ∀ m ∈ (call.judge ret recv_request sent).2, FromFe sessions m := by
  unfold FeCall.judge
  split
  · rename_i r
    split_ifs
    · exact ⟨rfl, trivial, nofun⟩
    · exact ⟨rfl, hfound r rfl, nofun⟩
  · exact ⟨rfl, trivial, forall_mem_sent (call.fromFe_request (by decide) _ _)⟩

variable {r : Request}

/-- An acknowledgement that a wait finds is for its own channel: there is one channel for
every session. -/
lemma Inv.paired (h : Inv s) (hcall : call ∈ s.fe)
    (hfind : (hab_open_request_find call.listen now s.fe_dev.openq_list).1 = some r)
    (hcancel : r.type ≠ .INIT_CANCEL) :
    r.type = .INIT_ACK ∧ Paired s.vchans call r.xdata.vchan_id := by
  obtain ⟨hwants, node, hnode, rfl⟩ := wants_of_find hfind
  have hids : call.ids ∈ s.sessions := mem_map_of_mem hcall
  have hne : call.open_id ≠ 0 := h.numbered.ne_zero hids
  obtain ⟨htype, -, hopen, -⟩ := Listen.wants_iff.mp hwants
  have hack : node.request.type = .INIT_ACK := htype.resolve_right hcancel
  refine ⟨hack, ?_⟩
  obtain ⟨w, hw, hsession, hid⟩ := (h.fe_queue node hnode).ack hack
  have hsame : w.session_id = call.open_id := hsession.trans (hopen.resolve_left hne)
  have heq := h.numbered.inj (h.vchans w hw) hids hsame
  exact ⟨w, hw, hsame, hid, congrArg Prod.snd heq⟩

lemma step_fe_look (ht : s.fe[t]? = some call) (wake : Wake) (now : ℤ) (sent : Ret) :
    s.step (.fe_look t wake now sent) =
      s.with_fe t (call.look s.fe_dev s.fe_closed wake now sent).1
        (call.look s.fe_dev s.fe_closed wake now sent).2.1
        (call.look s.fe_dev s.fe_closed wake now sent).2.2 := by
  simp [World.step, ht]

lemma Inv.fe_look (h : Inv s) (wake : Wake) (now : ℤ) (sent : Ret)
    (hok : Uncancelled s (.fe_look t wake now sent)) : Inv (s.step (.fe_look t wake now sent)) := by
  cases ht : s.fe[t]? with
  | none => simpa only [World.step, ht] using h
  | some call =>
    have hcall := mem_of_getElem? ht
    rw [step_fe_look ht]
    rcases call.look_cases s.fe_dev s.fe_closed wake now sent with
      ⟨-, hlook⟩ | ⟨hstate, result, dev', hlisten, hlook⟩
    · rw [hlook]
      exact h.with_fe ht rfl (h.fe call hcall) (.refl _) nofun
    · have hsub := listen_openq_subset hlisten
      rw [hlook]
      cases result with
      | none =>
        exact h.with_fe ht rfl (h.fe call hcall) hsub nofun
      | some result =>
        obtain ⟨ret, recv_request⟩ := result
        have hfound : ∀ r, recv_request = some r →
            r.type = .INIT_ACK ∧ Paired s.vchans call r.xdata.vchan_id := by
          rintro r rfl
          obtain ⟨-, hopen, hfind⟩ := listen_found hlisten
          apply h.paired hcall hfind
          apply hok call ht call.listen (by rw [FeCall.waits, hstate]; rfl)
          rw [finds, if_neg hopen]
          exact hfind
        obtain ⟨hids, hfe, hsends⟩ := call.judge_spec sent hfound s.sessions
        exact h.with_fe ht hids hfe hsub hsends

lemma FeCall.send_done_spec (call : FeCall) (sent : Ret)
    (hok : FeOk vchans call) (sessions : List (UInt32 × UInt32)) :
    (call.send_done sent).1.ids = call.ids ∧ FeOk vchans (call.send_done sent).1 ∧
      ∀ m ∈ (call.send_done sent).2, FromFe sessions m := by
  unfold FeCall.send_done
  split
  · rename_i otherend_id via hstate
    rw [FeOk, hstate] at hok
    split_ifs
    · exact ⟨rfl, hok, forall_mem_singleton.mpr (call.fromFe_request (by decide) _ _)⟩
    · exact ⟨rfl, trivial, nofun⟩
  · exact ⟨rfl, hok, nofun⟩

lemma Inv.fe_done (h : Inv s) (sent : Ret) : Inv (s.step (.fe_done t sent)) := by
  simp only [World.step]
  cases ht : s.fe[t]? with
  | none => exact h
  | some call =>
    obtain ⟨hids, hok, hsends⟩ :=
      call.send_done_spec sent (h.fe call (mem_of_getElem? ht)) s.sessions
    exact h.with_fe ht hids hok (.refl _) hsends

lemma Inv.fe_notify (h : Inv s) (sent : Ret) : Inv (s.step (.fe_notify t sent)) := by
  simp only [World.step]
  cases ht : s.fe[t]? with
  | none => exact h
  | some call =>
    apply h.with_fe ht rfl (h.fe call (mem_of_getElem? ht)) (.refl _)
    unfold FeCall.cancel_notify
    split
    · exact forall_mem_sent (call.fromFe_request (by decide) _ _)
    · exact forall_mem_nil _

lemma Inv.frontend_open (h : Inv s) (vchan_id sub_id ver_be : UInt32) (alloc : Bool) (sent : Ret)
    (hfresh : s.fe.length + 1 < 2 ^ 32) :
    Inv (s.step (.frontend_open vchan_id sub_id ver_be alloc sent)) := by
  obtain ⟨call, sends, hstart, hids, hok, hsends⟩ : ∃ call sends,
      FeCall.start 0 vchan_id sub_id (.ofNat (s.fe.length + 1)) ver_be alloc sent = (call, sends) ∧
      call.ids = (.ofNat (s.fe.length + 1), vchan_id) ∧ FeOk s.vchans call ∧
      ∀ m ∈ sends, FromFe (s.sessions ++ [call.ids]) m := by
    unfold FeCall.start
    split_ifs
    · exact ⟨_, _, rfl, rfl, trivial, nofun⟩
    · exact ⟨_, _, rfl, rfl, trivial, nofun⟩
    · refine ⟨_, _, rfl, rfl, trivial, fun m hm => ?_⟩
      rw [mem_singleton.mp hm]
      exact ⟨rfl, fun _ => mem_append_right _ (mem_singleton_self _)⟩
  have hsessions : (s.step (.frontend_open vchan_id sub_id ver_be alloc sent)).sessions =
      s.sessions ++ [call.ids] := by
    simp only [World.step, World.sessions, hstart, map_append, map_singleton]
  have hsub : s.sessions ⊆ s.sessions ++ [call.ids] := subset_append_left ..
  have hlen : s.sessions.length = s.fe.length := length_map ..
  constructor
  · rw [hsessions]
    refine ⟨by rw [length_append, length_singleton, hlen]; exact hfresh, ?_⟩
    intro i p hi
    rcases lt_or_ge i s.sessions.length with hlt | hge
    · rw [getElem?_append_left hlt] at hi
      exact h.numbered.number i p hi
    · rw [getElem?_append_right hge] at hi
      obtain ⟨hlt, rfl⟩ := List.getElem?_eq_some_iff.mp hi
      rw [length_singleton] at hlt
      have hi' : i = s.fe.length := by omega
      simp [hids, hi']
  · intro c hc
    simp only [World.step, hstart] at hc
    rcases mem_append.mp hc with hc | hc
    · exact h.fe c hc
    · rw [mem_singleton.mp hc]
      exact hok
  · rw [hsessions]
    exact fun c hc => (h.be c hc).mono hsub
  · rw [hsessions]
    intro m hm
    simp only [World.step, hstart] at hm
    rcases mem_append.mp hm with hm | hm
    · exact (h.to_be m hm).mono hsub
    · exact hsends m hm
  · rw [hsessions]
    exact fun node hnode => (h.be_queue node hnode).mono hsub
  · exact h.to_fe
  · exact h.fe_queue
  · rw [hsessions]
    exact fun w hw => hsub (h.vchans w hw)

/-! ### Backends -/

variable {via : Request}

lemma BeCall.fromBe_request (call : BeCall) {type : PayloadType} (htype : type ≠ .INIT_ACK)
    (vchan_id : UInt32) (hver : via.xdata.ver_fe = HAB_API_VER)
    (vchans : List Chan) : FromBe vchans (call.request type vchan_id via) :=
  ⟨hver, rfl, fun h => absurd h htype⟩

lemma BeCall.judge_init_ok (call : BeCall) {ret : Ret}
    (hfound : ∀ r, recv_request = some r → Offer sessions r) :
    BeOk sessions (call.judge_init ret recv_request) := by
  unfold BeCall.judge_init
  split
  · rename_i r
    split_ifs
    · trivial
    · exact hfound r rfl
  · trivial

lemma BeCall.judge_done_spec (call : BeCall) {vchan : Chan} {ret : Ret} (sent : Ret)
    (hvia : Offer sessions via) (hfound : ∀ r, recv_request = some r →
      r.type = .INIT_DONE ∧ r.xdata.open_id = vchan.session_id) (vchans : List Chan) :
    BeOk sessions (call.judge_done vchan via ret recv_request sent).1 ∧
      ∀ m ∈ (call.judge_done vchan via ret recv_request sent).2, FromBe vchans m := by
  have hcancel : ∀ m ∈ (if sent = .ok then [call.request .INIT_CANCEL vchan.id via] else []),
      FromBe vchans m :=
    forall_mem_sent (call.fromBe_request (by decide) _ hvia.ver_fe _)
  unfold BeCall.judge_done
  by_cases hrefused : ret ≠ .ok ∧ (recv_request.any fun r => r.type = .INIT_CANCEL) = true
  · rw [if_pos hrefused]
    exact ⟨trivial, hcancel⟩
  · rw [if_neg hrefused]
    by_cases hagain : ret ≠ .EAGAIN
    · rw [if_pos hagain]
      split
      · rename_i r
        exact ⟨⟨hvia, hfound r rfl⟩, nofun⟩
      · exact ⟨trivial, nofun⟩
    · rw [if_neg hagain]
      exact ⟨trivial, hcancel⟩

variable {call : BeCall}

lemma Inv.offer (h : Inv s)
    (hfind : (hab_open_request_find call.listen_init now s.be_dev.openq_list).1 = some r)
    (hcancel : r.type ≠ .INIT_CANCEL) : Offer s.sessions r := by
  obtain ⟨hwants, node, hnode, rfl⟩ := wants_of_find hfind
  obtain ⟨htype, -⟩ := Listen.wants_iff.mp hwants
  exact ⟨h.be_queue node hnode, htype.resolve_right hcancel⟩

lemma Inv.done (h : Inv s) (hvia : Offer s.sessions via)
    (hfind : (hab_open_request_find (call.listen_done via) now s.be_dev.openq_list).1 = some r)
    (hcancel : r.type ≠ .INIT_CANCEL) :
    r.type = .INIT_DONE ∧ r.xdata.open_id = via.xdata.open_id := by
  obtain ⟨hwants, node, -, rfl⟩ := wants_of_find hfind
  obtain ⟨htype, -, hopen, -⟩ := Listen.wants_iff.mp hwants
  have hne : via.xdata.open_id ≠ 0 := h.numbered.ne_zero (hvia.init hvia.type)
  exact ⟨htype.resolve_right hcancel, hopen.resolve_left hne⟩

lemma step_be_look (ht : s.be[t]? = some call) (wake : Wake) (now : ℤ) (sent : Ret) :
    s.step (.be_look t wake now sent) =
      s.with_be t (call.look s.be_dev s.be_closed wake now sent).1
        (call.look s.be_dev s.be_closed wake now sent).2.1
        (call.look s.be_dev s.be_closed wake now sent).2.2 [] := by
  simp [World.step, ht]

lemma Inv.be_look (h : Inv s) (wake : Wake) (now : ℤ) (sent : Ret)
    (hok : Uncancelled s (.be_look t wake now sent)) : Inv (s.step (.be_look t wake now sent)) := by
  have hnone : ∀ m ∈ ([] : List Request), FromBe (s.vchans ++ []) m := nofun
  have hno_vchan : ∀ w ∈ ([] : List Chan), (w.session_id, w.otherend_id) ∈ s.sessions :=
    nofun
  cases ht : s.be[t]? with
  | none => simpa only [World.step, ht] using h
  | some call =>
    have hcall := h.be call (mem_of_getElem? ht)
    rw [step_be_look ht]
    rcases call.look_cases s.be_dev s.be_closed wake now sent with
      ⟨-, hlook⟩ | ⟨hstate, result, dev', hlisten, hlook⟩ |
        ⟨vchan, via, hstate, result, dev', hlisten, hlook⟩
    · rw [hlook]
      exact h.with_be hcall (.refl _) hnone hno_vchan
    · have hsub := listen_openq_subset hlisten
      rw [hlook]
      cases result with
      | none => exact h.with_be hcall hsub hnone hno_vchan
      | some result =>
        obtain ⟨ret, recv_request⟩ := result
        refine h.with_be (call.judge_init_ok ?_) hsub hnone hno_vchan
        rintro r rfl
        obtain ⟨-, hopen, hfind⟩ := listen_found hlisten
        apply h.offer hfind
        apply hok call ht call.listen_init (by rw [BeCall.waits, hstate]; rfl)
        exact hfind
    · have hsub := listen_openq_subset hlisten
      have hwaiting := hcall
      rw [BeOk, hstate] at hwaiting
      rw [hlook]
      cases result with
      | none => exact h.with_be hcall hsub hnone hno_vchan
      | some result =>
        obtain ⟨ret, recv_request⟩ := result
        have hfound : ∀ r, recv_request = some r →
            r.type = .INIT_DONE ∧ r.xdata.open_id = vchan.session_id := by
          rintro r rfl
          obtain ⟨-, hopen, hfind⟩ := listen_found hlisten
          rw [hwaiting.2]
          apply h.done hwaiting.1 hfind
          apply hok call ht _ (by rw [BeCall.waits, hstate]; rfl)
          rw [finds, if_neg hopen]
          exact hfind
        obtain ⟨hbe, hsends⟩ := call.judge_done_spec sent hwaiting.1 hfound _
        exact h.with_be hbe hsub hsends hno_vchan

lemma BeCall.send_ack_spec (call : BeCall) (vchan_id : UInt32) (alloc : Bool) (sent : Ret)
    (hok : BeOk sessions call) (vchans : List Chan) :
    BeOk sessions (call.send_ack vchan_id alloc sent).1 ∧
      (∀ w ∈ announced (call.send_ack vchan_id alloc sent).1 (call.send_ack vchan_id alloc sent).2,
        (w.session_id, w.otherend_id) ∈ sessions) ∧
      ∀ m ∈ (call.send_ack vchan_id alloc sent).2,
        FromBe (vchans ++ announced (call.send_ack vchan_id alloc sent).1
          (call.send_ack vchan_id alloc sent).2) m := by
  have hquiet : ∀ call' : BeCall, BeOk sessions call' → BeOk sessions call' ∧
        (∀ w ∈ announced call' [], (w.session_id, w.otherend_id) ∈ sessions) ∧
        ∀ m ∈ ([] : List Request), FromBe (vchans ++ announced call' []) m := fun _ hcall =>
    ⟨hcall, nofun, nofun⟩
  unfold BeCall.send_ack
  split
  · rename_i via hstate
    rw [BeOk, hstate] at hok
    by_cases halloc : alloc = false
    · rw [if_pos halloc]
      exact hquiet _ trivial
    · rw [if_neg halloc]
      by_cases hsent : sent ≠ .ok
      · rw [if_pos hsent]
        exact hquiet _ trivial
      · rw [if_neg hsent]
        refine ⟨⟨hok, rfl⟩, fun w hw => ?_, fun m hm => ?_⟩
        · rw [mem_singleton.mp hw]
          exact hok.init hok.type
        · rw [mem_singleton.mp hm]
          exact ⟨hok.ver_fe, rfl, fun _ => ⟨⟨vchan_id, via.xdata.open_id, via.xdata.vchan_id⟩,
            mem_append_right _ (mem_singleton_self _), rfl, rfl⟩⟩
  · exact hquiet call hok

lemma Inv.be_ack (h : Inv s) (vchan_id : UInt32) (alloc : Bool) (sent : Ret) :
    Inv (s.step (.be_ack t vchan_id alloc sent)) := by
  simp only [World.step]
  cases ht : s.be[t]? with
  | none => exact h
  | some call =>
    obtain ⟨hok, hvchans, hsends⟩ :=
      call.send_ack_spec vchan_id alloc sent (h.be call (mem_of_getElem? ht)) s.vchans
    exact h.with_be hok (.refl _) hsends hvchans

lemma Inv.be_notify (h : Inv s) (sent : Ret) : Inv (s.step (.be_notify t sent)) := by
  simp only [World.step]
  cases ht : s.be[t]? with
  | none => exact h
  | some call =>
    have hcall := h.be call (mem_of_getElem? ht)
    refine h.with_be hcall (.refl _) ?_ nofun
    unfold BeCall.cancel_notify
    split
    · rename_i vchan via hstate
      rw [BeOk, hstate] at hcall
      exact forall_mem_sent (call.fromBe_request (by decide) _ hcall.1.ver_fe _)
    · exact forall_mem_nil _

/-! ### Messages -/

lemma mem_receive {request : Request} {age : ℤ} {alloc : Bool} {node : Node}
    (h : node ∈ (receive dev request age alloc).openq_list) :
    node ∈ dev.openq_list ∨ node.request = request := by
  have hadd : ∀ request', node ∈ (hab_open_request_add dev request' age alloc).openq_list →
      node ∈ dev.openq_list ∨ node.request = request' := by
    intro request' hmem
    unfold hab_open_request_add at hmem
    split_ifs at hmem
    · rcases mem_append.mp hmem with hmem | hmem
      · exact .inl hmem
      · rw [mem_singleton.mp hmem]
        exact .inr rfl
    · exact .inl hmem
  unfold receive at h
  by_cases htype : request.type = .INIT_CANCEL
  · rw [if_pos htype, hab_open_receive_cancel] at h
    split_ifs at h
    · exact .inl (mem_of_mem_eraseP h)
    · rcases hadd _ h with hmem | hreq
      · exact .inl hmem
      · rw [hreq, ← htype]
        exact .inr rfl
  · rw [if_neg htype] at h
    exact hadd _ h

lemma Inv.fe_receive (h : Inv s) (age : ℤ) (alloc : Bool) :
    Inv (s.step (.fe_receive age alloc)) := by
  simp only [World.step]
  split
  · exact h
  · rename_i m rest hto
    have hm : FromBe s.vchans m := h.to_fe m (hto ▸ mem_cons_self)
    refine { h with to_fe := ?_, fe_queue := ?_ }
    · intro m' hm'
      exact h.to_fe m' (hto ▸ mem_cons_of_mem m hm')
    · intro node hnode
      rcases mem_receive hnode with hmem | hreq
      · exact h.fe_queue node hmem
      · rw [hreq]
        exact ⟨hm.ver_fe, hm.ver_be, hm.ack⟩

lemma Inv.be_receive (h : Inv s) (age : ℤ) (alloc : Bool) :
    Inv (s.step (.be_receive age alloc)) := by
  simp only [World.step]
  split
  · exact h
  · rename_i m rest hto
    have hm : FromFe s.sessions m := h.to_be m (hto ▸ mem_cons_self)
    refine { h with to_be := ?_, be_queue := ?_ }
    · intro m' hm'
      exact h.to_be m' (hto ▸ mem_cons_of_mem m hm')
    · intro node hnode
      rcases mem_receive hnode with hmem | hreq
      · exact h.be_queue node hmem
      · rw [hreq]
        exact ⟨hm.ver_fe, hm.init⟩

/-- **One step** keeps the invariant, if it finds no cancel. -/
theorem Inv.step (h : Inv s) (a : Act) (hfresh : Fresh s a) (hok : Uncancelled s a) :
    Inv (s.step a) := by
  cases a with
  | frontend_open vchan_id sub_id ver_be alloc sent =>
    exact h.frontend_open vchan_id sub_id ver_be alloc sent hfresh
  | fe_look t wake now sent => exact h.fe_look wake now sent hok
  | fe_done t sent => exact h.fe_done sent
  | fe_notify t sent => exact h.fe_notify sent
  | backend_listen sub_id timed =>
    exact { h with be := forall_mem_append.mpr ⟨h.be, forall_mem_singleton.mpr trivial⟩ }
  | be_look t wake now sent => exact h.be_look wake now sent hok
  | be_ack t vchan_id alloc sent => exact h.be_ack vchan_id alloc sent
  | be_notify t sent => exact h.be_notify sent
  | fe_receive age alloc => exact h.fe_receive age alloc
  | be_receive age alloc => exact h.be_receive age alloc
  | fe_close | be_close => exact { h with }

/-! ## What a cancellation does -/

theorem Inv.fe_cancelled (h : Inv s) {wake : Wake} {sent : Ret}
    (hbad : ¬ Uncancelled s (.fe_look t wake now sent)) :
    ¬ Good (s.step (.fe_look t wake now sent)) := by
  simp only [Uncancelled, not_forall, not_not] at hbad
  obtain ⟨call, ht, listen, hwaits, r, hfinds, hcancel⟩ := hbad
  have hlt := (List.getElem?_eq_some_iff.mp ht).1
  obtain ⟨node, hnode, rfl⟩ := mem_of_finds hfinds
  have hver := h.fe_queue node hnode
  have hmajor : ¬ major node.request.xdata.ver_fe ≠ major node.request.xdata.ver_be := by
    rw [hver.ver_fe, hver.ver_be]
    exact fun hne => hne rfl
  rw [step_fe_look ht]
  rcases call.look_cases s.fe_dev s.fe_closed wake now sent with
    ⟨hstate, -⟩ | ⟨hstate, result, dev', hlisten, hlook⟩
  · unfold FeCall.waits at hwaits
    split at hwaits
    · rename_i hwaiting
      exact absurd hwaiting hstate
    · cases hwaits
  · rw [FeCall.waits, hstate] at hwaits
    cases hwaits
    obtain ⟨dev'', hreturn⟩ := @listen_of_finds _ _ _ false _ wake _ hfinds
    rw [hreturn] at hlisten
    cases hlisten
    intro hgood
    apply hgood.fe_cancel _ (mem_set hlt _) node.request _ hcancel
    rw [hlook]
    simp only [FeCall.judge, if_neg hmajor]
    exact mem_singleton_self _

lemma Inv.be_cancelled (h : Inv s) {wake : Wake} {sent : Ret}
    (hbad : ¬ Uncancelled s (.be_look t wake now sent)) :
    ¬ Good (s.step (.be_look t wake now sent)) := by
  simp only [Uncancelled, not_forall, not_not] at hbad
  obtain ⟨call, ht, listen, hwaits, r, hfinds, hcancel⟩ := hbad
  have hlt := (List.getElem?_eq_some_iff.mp ht).1
  obtain ⟨node, hnode, rfl⟩ := mem_of_finds hfinds
  have hmajor : ¬ major node.request.xdata.ver_fe ≠ major HAB_API_VER := by
    rw [(h.be_queue node hnode).ver_fe]
    exact fun hne => hne rfl
  rw [step_be_look ht]
  intro hgood
  apply hgood.be_cancel _ (mem_set hlt _) node.request _ hcancel
  unfold BeCall.waits at hwaits
  unfold BeCall.look
  cases hstate : call.state <;> rw [hstate] at hwaits <;> cases hwaits
  case listening =>
    obtain ⟨dev', hreturn⟩ := @listen_of_finds _ _ _ call.timed _ wake _ hfinds
    simp only [hreturn, BeCall.judge_init, if_neg hmajor]
    exact mem_singleton_self _
  case waiting =>
    obtain ⟨dev', hreturn⟩ := @listen_of_finds _ _ _ true _ wake _ hfinds
    simp only [hreturn, BeCall.judge_done, ne_eq, not_true_eq_false, false_and, if_false]
    exact mem_cons_of_mem _ (mem_singleton_self _)

end Steps

lemma inv_start : Inv .start where
  numbered := ⟨by decide, fun i p hi => by cases i <;> cases hi⟩
  fe := forall_mem_nil _
  be := forall_mem_nil _
  to_be := forall_mem_nil _
  be_queue := forall_mem_nil _
  to_fe := forall_mem_nil _
  fe_queue := forall_mem_nil _
  vchans := forall_mem_nil _

/-- **The handshake.** -/
theorem handshake_iff (l : List Act) (hfresh : Ok World.step Fresh .start l) :
    (∀ l', l' <+: l → Good (exec World.step .start l')) ↔
      Ok World.step Uncancelled .start l := by
  refine Run.legal_prefix_good_iff (fun _ h => h.good)
    (fun _ a h hf hok => h.step a hf hok) ?_ hfresh inv_start
  intro s a h _ hbad
  cases a with
  | fe_look t wake now sent => exact h.fe_cancelled hbad
  | be_look t wake now sent => exact h.be_cancelled hbad
  | frontend_open | fe_done | fe_notify | backend_listen | be_ack | be_notify | fe_receive
  | be_receive | fe_close | be_close => exact absurd trivial hbad

def answered : List Act :=
  [.frontend_open 3 0 0 true .ok, .backend_listen 0 true, .be_receive 100 true,
    .be_look 0 .woken 0 .ok, .be_ack 0 7 true .ok]

def completed : List Act :=
  answered ++ [.fe_receive 100 true, .fe_look 0 .woken 0 .ok, .fe_done 0 .ok, .be_receive 100 true,
    .be_look 0 .woken 0 .ok]

theorem completed_good :
    Ok World.step Fresh .start completed ∧
      (∀ l', l' <+: completed → Good (exec World.step .start l')) ∧
      (exec World.step .start completed).fe.map (·.open_id) = [1] :=
  ⟨by decide +kernel, (handshake_iff completed (by decide +kernel)).mpr (by decide +kernel),
    by decide +kernel⟩

def fe_gives_up : List Act :=
  answered ++ [.fe_look 0 .interrupted 0 .ok, .be_receive 100 true, .be_look 0 .woken 0 .ok]

/-- The acknowledgement has expired when another frontend looks through the queue. -/
def be_gives_up : List Act :=
  answered ++ [.fe_receive 100 true, .frontend_open 4 1 0 true .ok, .fe_look 1 .woken 200 .ok,
    .be_look 0 .timeout 0 .ok, .fe_receive 300 true, .fe_look 0 .woken 200 .ok, .fe_done 0 .ok]

/-- **A cancelled session is reported as open**, by the backend and by the frontend. -/
theorem cancelled_opened :
    (let s := exec World.step .start fe_gives_up
     s.fe.map (·.state) = [.failed .EINTR] ∧
      s.be.map (·.state) = [.opened ⟨7, 1, 3⟩ ⟨.INIT, 0, ⟨3, 0, 1, HAB_API_VER, 0⟩⟩
        ⟨.INIT_CANCEL, 0, ⟨3, 0, 1, HAB_API_VER, 0⟩⟩] ∧ ¬ Good s) ∧
    (let s := exec World.step .start be_gives_up
     s.fe.map (·.state) = [.opened 7
        ⟨.INIT_CANCEL, 0, ⟨7, 0, 1, HAB_API_VER, HAB_API_VER⟩⟩, .waiting] ∧
      s.be.map (·.state) = [.listening] ∧ ¬ Good s) := by
  refine ⟨⟨by decide +kernel, by decide +kernel, fun h => ?_⟩,
    by decide +kernel, by decide +kernel, fun h => ?_⟩
  · exact absurd h.be_cancel (by decide +kernel)
  · exact absurd h.fe_cancel (by decide +kernel)

end KernelExtra.Hab.Open
