/-
What the observers of the name service know.

An observer registers a lookup and can put together, from its notifications, which servers there
are. The commands that remove servers tell every observer (`Removes.tracks`). But

* `server_add` frees the server that was on the port before, and nobody hears of it;
* `ctrl_cmd_new_server` leaves before it gets to the lookups if its broadcast fails;
* notifications go to a port, not to a lookup.
-/
import KernelExtra.Lib.Run
import KernelExtra.Qrtr.Ns

namespace KernelExtra.Qrtr.Ns

open Run (exec Ok)
open List

/-! ## What an observer puts together -/

def Out.apply (sq : Addr) (seen : Finset Server) (o : Out) : Finset Server :=
  if o.dst = .one sq then
    match o.pkt with
    | .new_server (some srv) => insert srv seen
    | .del_server (some srv) => seen.erase srv
    | _ => seen
  else seen

def observe (sq : Addr) (seen : Finset Server) (out : List Out) : Finset Server :=
  out.foldl (Out.apply sq) seen

def Lookup.Seeks (l : Lookup) (srv : Server) : Prop := l.wants srv.service srv.inst = true

instance (l : Lookup) (srv : Server) : Decidable (l.Seeks srv) :=
  inferInstanceAs (Decidable (l.wants srv.service srv.inst = true))

def Tracks (s : State) (l : Lookup) (seen : Finset Server) : Prop :=
  ∀ srv, srv ∈ seen ↔ s.Stored srv ∧ l.Seeks srv

def registered (s : State) (m : Msg) (luck : Luck) : Option Lookup :=
  if m.cmd = QRTR_TYPE_NEW_LOOKUP ∧ m.sq.sq_node = s.local_node ∧ luck.lookup_alloc then
    some ⟨m.server.service, m.server.inst, m.sq⟩
  else none

/-! ### Notifications of one kind -/

section

variable {sq : Addr} {out : List Out} {srv : Server}

lemma mem_apply (seen : Finset Server) (o : Out) : srv ∈ o.apply sq seen ↔
    o = lookup_notify sq (some srv) true ∨ srv ∈ seen ∧ o ≠ lookup_notify sq (some srv) false := by
  obtain ⟨dst, pkt⟩ := o
  by_cases hdst : dst = .one sq
  · cases pkt with
    | new_server srv' => cases srv' <;> simp [Out.apply, lookup_notify, hdst, eq_comm]
    | del_server srv' => cases srv' <;> simp [Out.apply, lookup_notify, hdst, eq_comm, and_comm]
    | _ => simp [Out.apply, lookup_notify]
  · simp [Out.apply, lookup_notify, hdst]

lemma mem_observe_of_no_del (seen : Finset Server)
    (h : ∀ o ∈ out, ∀ srv, o.pkt ≠ .del_server (some srv)) :
    srv ∈ observe sq seen out ↔ srv ∈ seen ∨ lookup_notify sq (some srv) true ∈ out := by
  induction out generalizing seen with
  | nil => simp [observe]
  | cons o out ih =>
    rw [forall_mem_cons] at h
    have ho : o ≠ lookup_notify sq (some srv) false := fun ho => h.1 srv (by rw [ho]; rfl)
    rw [observe, foldl_cons, ← observe, ih _ h.2, mem_apply]
    simp only [ho, ne_eq, not_false_eq_true, and_true, mem_cons, eq_comm]
    tauto

lemma mem_observe_of_no_new (seen : Finset Server)
    (h : ∀ o ∈ out, ∀ srv, o.pkt ≠ .new_server (some srv)) :
    srv ∈ observe sq seen out ↔ srv ∈ seen ∧ lookup_notify sq (some srv) false ∉ out := by
  induction out generalizing seen with
  | nil => simp [observe]
  | cons o out ih =>
    rw [forall_mem_cons] at h
    have ho : o ≠ lookup_notify sq (some srv) true := fun ho => h.1 srv (by rw [ho]; rfl)
    rw [observe, foldl_cons, ← observe, ih _ h.2, mem_apply]
    simp [ho, false_or, mem_cons, not_or, and_assoc, ne_eq, eq_comm]

lemma mem_notify {s : State} {srv' : Server} {new : Bool} :
    lookup_notify sq (some srv) new ∈ s.notify srv' new ↔
      srv = srv' ∧ ∃ l ∈ s.lookups, l.sq = sq ∧ l.Seeks srv' := by
  rw [State.notify, mem_map]
  constructor
  · rintro ⟨l, hl, heq⟩
    rw [mem_filter] at hl
    simp only [lookup_notify, Out.mk.injEq, Dest.one.injEq] at heq
    cases new <;> simp at heq <;> exact ⟨heq.2.symm, l, hl.1, heq.1, hl.2⟩
  · rintro ⟨rfl, l, hl, rfl, hseeks⟩
    exact ⟨l, mem_filter.mpr ⟨hl, hseeks⟩, rfl⟩

end

/-! ## The commands that remove servers -/

/-- A handler that removes servers, and tells those who asked for them. -/
structure Removes (s : State) (r : Reply) : Prop where
  lookups : r.state.lookups = s.lookups
  fewer : ∀ srv, r.state.Stored srv → s.Stored srv
  told : ∀ sq srv, lookup_notify sq (some srv) false ∈ r.out ↔
    (s.Stored srv ∧ ¬r.state.Stored srv) ∧ ∃ l ∈ s.lookups, l.sq = sq ∧ l.Seeks srv
  no_new : ∀ o ∈ r.out, ∀ srv, o.pkt ≠ .new_server (some srv)

section Removes

variable {s : State}

variable {r : Reply}

/-- **Observers keep track of what is removed.** -/
theorem Removes.tracks {l : Lookup} {seen : Finset Server} (h : Removes s r)
    (hl : l ∈ s.lookups) (hseen : Tracks s l seen) :
    Tracks r.state l (observe l.sq seen r.out) := by
  intro srv
  rw [mem_observe_of_no_new seen h.no_new, hseen, h.told]
  constructor
  · rintro ⟨⟨hstored, hseeks⟩, htold⟩
    refine ⟨?_, hseeks⟩
    by_contra hgone
    exact htold ⟨⟨hstored, hgone⟩, l, hl, rfl, hseeks⟩
  · rintro ⟨hstored, hseeks⟩
    exact ⟨⟨h.fewer srv hstored, hseeks⟩, fun htold => htold.1.2 hstored⟩

lemma Removes.of_same {s' : State} (h : Same s s') (ret : ℤ) : Removes s ⟨s', [], ret⟩ where
  lookups := h.lookups
  fewer srv hstored := (h.stored_iff srv).mp hstored
  told sq srv := by
    rw [h.stored_iff]
    simp
  no_new _ ho := by cases ho

lemma Removes.append {r' : Reply} (h : Removes s r) (h' : Removes r.state r') (ret : ℤ) :
    Removes s ⟨r'.state, r.out ++ r'.out, ret⟩ where
  lookups := h'.lookups.trans h.lookups
  fewer srv hstored := h.fewer srv (h'.fewer srv hstored)
  told sq srv := by
    rw [mem_append, h.told, h'.told, h.lookups, ← or_and_right]
    apply and_congr_left
    intro _
    have hfewer := h.fewer srv
    have hfewer' := h'.fewer srv
    tauto
  no_new := forall_mem_append.mpr ⟨h.no_new, h'.no_new⟩

lemma Removes.tell_local {luck : Luck} {pkt : CtrlPkt} (h : Removes s r)
    (hpkt : (∀ srv, pkt ≠ .new_server srv) ∧ ∀ srv, pkt ≠ .del_server srv) :
    Removes s (tell_local r luck pkt) := by
  obtain ⟨hsame, to_servers, hout⟩ := tell_local_spec r luck pkt
  refine ⟨hsame.lookups.trans h.lookups, fun srv hstored => h.fewer srv ?_, fun sq srv => ?_, ?_⟩
  · exact (hsame.stored_iff srv).mp hstored
  · rw [hout, mem_append, hsame.stored_iff, ← h.told]
    refine or_iff_left fun hmem => ?_
    obtain ⟨sq', -, heq⟩ := mem_map.mp hmem
    exact hpkt.2 _ (congrArg Out.pkt heq)
  · intro o ho srv
    rw [hout, mem_append] at ho
    rcases ho with ho | ho
    · exact h.no_new o ho srv
    · obtain ⟨sq', -, rfl⟩ := mem_map.mp ho
      exact hpkt.1 _

lemma server_del_removes (s : State) (n p : UInt32) : Removes s (server_del s n p) := by
  obtain ⟨hlookups, -, hentry⟩ := server_del_spec s n p
  have hstored : ∀ srv, (server_del s n p).state.Stored srv ↔
      s.Stored srv ∧ ¬(n = srv.node ∧ p = srv.port) := by
    intro srv
    rw [State.Stored, hentry]
    split <;> simp [State.Stored, *]
  refine ⟨hlookups, fun srv h => ((hstored srv).mp h).1, fun sq srv => ?_, ?_⟩
  · rw [hstored, server_del]
    -- what has gone is what was on the port
    have hgone : (s.Stored srv ∧ ¬(s.Stored srv ∧ ¬(n = srv.node ∧ p = srv.port))) ↔
        s.entry n p = some srv := by
      constructor
      · rintro ⟨hin, hnot⟩
        have hat : n = srv.node ∧ p = srv.port := by
          by_contra hat
          exact hnot ⟨hin, hat⟩
        rw [hat.1, hat.2]
        exact hin
      · intro hin
        obtain ⟨rfl, rfl⟩ := entry_eq_some hin
        exact ⟨hin, fun h => h.2 ⟨rfl, rfl⟩⟩
    rw [hgone]
    split
    · rename_i hnone
      simp [hnone]
    · rename_i srv' hsome
      have hbcast : lookup_notify sq (some srv) false ∉
          (if srv'.node = s.local_node then [⟨.bcast, .del_server (some srv')⟩] else [] :
            List Out) := by
        split <;> simp [lookup_notify]
      rw [mem_append, or_iff_right hbcast, mem_notify, hsome, Option.some_inj, eq_comm]
      apply and_congr_right
      rintro rfl
      rfl
  · intro o ho srv
    rw [server_del] at ho
    split at ho
    · cases ho
    · rcases mem_append.mp ho with ho | ho
      · split at ho
        · rw [mem_singleton] at ho
          subst ho
          simp
        · cases ho
      · obtain ⟨-, -, rfl⟩ := mem_map.mp ho
        simp [lookup_notify]

lemma del_all_removes (s : State) (n : UInt32) (l : List Server) : Removes s (del_all s n l) := by
  induction l generalizing s with
  | nil => exact .of_same (.refl s) 0
  | cons srv l ih => exact (server_del_removes s n srv.port).append (ih _) 0

lemma Removes.after_same {s' : State} (hsame : Same s s') (h : Removes s' r) : Removes s r := by
  have happend := (Removes.of_same hsame 0).append h r.ret
  exact happend

lemma bye_removes (s : State) (sq : Addr) (luck : Luck) : Removes s (ctrl_cmd_bye s sq luck) := by
  rw [ctrl_cmd_bye]
  split
  · rename_i s' hget
    exact .of_same (node_get_same hget) 0
  · rename_i s' node hget
    exact .tell_local (.after_same (node_get_same hget) (del_all_removes s' _ _)) (by simp)

lemma del_server_removes (s : State) (sq : Addr) (node_id port : UInt32) (luck : Luck) :
    Removes s (ctrl_cmd_del_server s sq node_id port luck) := by
  rw [ctrl_cmd_del_server]
  generalize (if sq.sq_node = s.local_node then (sq.sq_node, sq.sq_port) else (node_id, port)) =
    key
  obtain ⟨n, p⟩ := key
  dsimp only
  split_ifs
  · exact .of_same (.refl s) _
  · exact .of_same (.refl s) _
  · split
    · rename_i s' hget
      exact .of_same (node_get_same hget) _
    · rename_i s' node hget
      exact .after_same (node_get_same hget) (server_del_removes s' n p)

def OnlyRemoves (s : State) (r : Reply) : Prop :=
  ∃ s' : State, (∀ n p, s'.entry n p = s.entry n p) ∧
    (∃ p, s'.lookups = s.lookups.filter p) ∧ Removes s' r

lemma Removes.only (h : Removes s r) : OnlyRemoves s r :=
  ⟨s, fun _ _ => rfl, ⟨fun _ => true, by simp⟩, h⟩

lemma del_client_only (s : State) (sq : Addr) (node_id port : UInt32) (luck : Luck) :
    OnlyRemoves s (ctrl_cmd_del_client s sq node_id port luck) := by
  rw [ctrl_cmd_del_client]
  split_ifs
  · exact (Removes.of_same (.refl s) _).only
  · exact (Removes.of_same (.refl s) _).only
  · refine ⟨{ s with lookups := s.lookups.filter fun l => l.sq ≠ ⟨node_id, port⟩ },
      fun _ _ => rfl, ⟨_, rfl⟩, .tell_local ?_ (by simp)⟩
    split
    · rename_i s' hget
      exact .of_same (node_get_same hget) 0
    · rename_i s' node hget
      exact .after_same (node_get_same hget) (server_del_removes s' node_id port)

lemma worker_only_removes (s : State) (m : Msg) (luck : Luck)
    (hhello : m.cmd ≠ QRTR_TYPE_HELLO) (hserver : m.cmd ≠ QRTR_TYPE_NEW_SERVER)
    (hlookup : m.cmd ≠ QRTR_TYPE_NEW_LOOKUP) : OnlyRemoves s (qrtr_ns_worker s m luck) := by
  rw [qrtr_ns_worker, if_neg hhello, if_neg hserver, if_neg hlookup]
  split_ifs
  · exact (bye_removes s m.sq luck).only
  · exact del_client_only s m.sq _ _ luck
  · exact (del_server_removes s m.sq _ _ luck).only
  · exact ⟨(ctrl_cmd_del_lookup s m.sq _ _).state, fun _ _ => rfl, ⟨_, rfl⟩, .of_same (.refl _) 0⟩
  · exact (Removes.of_same (.refl s) 0).only

end Removes

/-! ## The commands that tell of servers -/

def Luck.Memory (luck : Luck) : Prop :=
  luck.node_alloc = true ∧ luck.node_store = true ∧ luck.server_alloc = true ∧
    luck.server_store = true ∧ luck.lookup_alloc = true ∧ luck.local_alloc = true ∧
    luck.local_store = true

instance (luck : Luck) : Decidable luck.Memory := by
  unfold Luck.Memory
  infer_instance

def State.offer (s : State) (m : Msg) : Server :=
  if m.sq.sq_node = s.local_node then { m.server with node := m.sq.sq_node, port := m.sq.sq_port }
  else m.server

def Offers (m : Msg) (srv : Server) : Prop :=
  m.sq.sq_node = srv.node ∧ srv.service ≠ 0 ∧ srv.port ≠ 0

def Announces (s : State) (srv : Server) (luck : Luck) : Prop :=
  srv.node = s.local_node → 0 ≤ luck.bcast

/-- The servers that are announced to a socket that says hello: up to the first error. -/
def State.announced (s : State) (luck : Luck) (sq : Addr) : List Server :=
  ((s.all fun id => id = sq.sq_node).takeWhile fun srv =>
    0 ≤ luck.announce srv ∨ luck.announce srv = -ENODEV).filter fun srv => 0 ≤ luck.announce srv

def FitsListing (s : State) (sq : Addr) (listed : List Server) : Prop :=
  ∀ l ∈ s.lookups, l.sq = sq → ∀ srv ∈ listed, l.Seeks srv

/-- A new server replaces no other, is announced unless it is known already, and no other lookup of
the same socket asks for it. -/
def FitsServer (s : State) (srv : Server) (luck : Luck) (l : Lookup) : Prop :=
  (∀ old ∈ s.entry srv.node srv.port, old ≠ srv → ¬l.Seeks old) ∧
    (l.Seeks srv → Announces s srv luck ∨ s.Stored srv) ∧
    (Announces s srv luck → ∀ l' ∈ s.lookups, l'.sq = l.sq → l'.Seeks srv → l.Seeks srv)

/-- What a message has its observers told fits what it does to the table. -/
def Fits (s : State) (m : Msg) (luck : Luck) : Prop :=
  (m.cmd = QRTR_TYPE_NEW_SERVER → Offers m (s.offer m) →
      ∀ l ∈ s.lookups, FitsServer s (s.offer m) luck l) ∧
    (m.cmd = QRTR_TYPE_NEW_LOOKUP → m.sq.sq_node = s.local_node →
      FitsListing s m.sq ((s.all fun _ => false).filter
        (⟨m.server.service, m.server.inst, m.sq⟩ : Lookup).Seeks)) ∧
    (m.cmd = QRTR_TYPE_HELLO → 0 ≤ luck.hello → FitsListing s m.sq (s.announced luck m.sq))

instance (m : Msg) (srv : Server) : Decidable (Offers m srv) := by
  unfold Offers
  infer_instance

instance (s : State) (srv : Server) (luck : Luck) : Decidable (Announces s srv luck) := by
  unfold Announces
  infer_instance

instance (s : State) (srv : Server) : Decidable (s.Stored srv) := by
  unfold State.Stored
  infer_instance

instance (s : State) (sq : Addr) (listed : List Server) : Decidable (FitsListing s sq listed) := by
  unfold FitsListing
  infer_instance

instance (s : State) (srv : Server) (luck : Luck) (l : Lookup) :
    Decidable (FitsServer s srv luck l) := by
  unfold FitsServer
  infer_instance

instance (s : State) (m : Msg) (luck : Luck) : Decidable (Fits s m luck) := by
  unfold Fits
  infer_instance

lemma server_match_iff (srv : Server) (service inst : UInt32) (sq : Addr) :
    server_match srv ⟨service, inst, 0⟩ = true ↔ (⟨service, inst, sq⟩ : Lookup).Seeks srv := by
  rw [server_match, Lookup.Seeks, Lookup.wants]
  by_cases hservice : service ≠ 0 ∧ srv.service ≠ service
  · have hother : service ≠ 0 ∧ service ≠ srv.service := ⟨hservice.1, hservice.2.symm⟩
    simp [if_pos hservice, if_pos hother]
  · have hother : ¬(service ≠ 0 ∧ service ≠ srv.service) := fun h => hservice ⟨h.1, h.2.symm⟩
    simp only [if_neg hservice, if_neg hother]
    by_cases hinst : inst = 0
    · simp [hinst]
    · by_cases hsame : srv.inst = inst
      · simp [hinst, hsame]
      · simp [hinst, hsame, Ne.symm hsame]

/-! ### A new server -/

variable (s : State)

theorem server_add_zero {service p : UInt32} (inst n : UInt32) (luck : Luck)
    (h : service = 0 ∨ p = 0) : server_add s service inst n p luck = (s, none) := by
  rw [server_add, if_pos h]

variable {luck : Luck}

lemma server_add_ok {service p : UInt32} (inst n : UInt32)
    (hmem : luck.Memory) (hservice : service ≠ 0) (hp : p ≠ 0) :
    ∃ s' : State, server_add s service inst n p luck = (s', some ⟨service, inst, n, p⟩) ∧
      s'.lookups = s.lookups ∧ s'.local_node = s.local_node ∧
      ∀ n' p', s'.entry n' p' =
        if n = n' ∧ p = p' then some ⟨service, inst, n, p⟩ else s.entry n' p' := by
  obtain ⟨halloc, hstore, hserver, hserver_store, -⟩ := hmem
  have hin := node_get_isSome s n
  rw [server_add, if_neg (not_or.mpr ⟨hservice, hp⟩), halloc, hstore, hserver, hserver_store]
  rcases hget : node_get s n true true with ⟨s', _ | node⟩
  · rw [node_get] at hget
    split at hget <;> cases hget
  · rw [hget] at hin
    have hsame := node_get_same hget
    obtain ⟨hid, hservers⟩ := (node_get_spec s n true true).2 node (by rw [hget])
    refine ⟨_, rfl, (update_lookups ..).trans hsame.lookups,
      (update_local_node ..).trans hsame.local_node, fun n' p' => ?_⟩
    rw [entry_update_store hid fun q => by rw [hservers, hsame.entry]]
    simp [hin, hsame.entry]

/-- What a server that is offered leaves behind. -/
structure Adds (s : State) (srv : Server) (luck : Luck) (r : Reply) : Prop where
  lookups : r.state.lookups = s.lookups
  stored : ∀ srv', r.state.Stored srv' ↔
    srv' = srv ∨ (s.Stored srv' ∧ ¬(srv.node = srv'.node ∧ srv.port = srv'.port))
  told : ∀ sq srv', lookup_notify sq (some srv') true ∈ r.out ↔
    Announces s srv luck ∧ srv' = srv ∧ ∃ l ∈ s.lookups, l.sq = sq ∧ l.Seeks srv
  no_del : ∀ o ∈ r.out, ∀ srv', o.pkt ≠ .del_server (some srv')

lemma new_server_eq (m : Msg) (luck : Luck) :
    ctrl_cmd_new_server s m.sq m.server.service m.server.inst m.server.node m.server.port luck =
      if m.sq.sq_node ≠ (s.offer m).node then ⟨s, [], -EINVAL⟩
      else
        match server_add s (s.offer m).service (s.offer m).inst (s.offer m).node (s.offer m).port
          luck with
        | (s, none) => ⟨s, [], -EINVAL⟩
        | (s, some srv) =>
          if srv.node = s.local_node then
            if luck.bcast < 0 then ⟨s, [], luck.bcast⟩
            else ⟨s, ⟨.bcast, .new_server (some srv)⟩ :: s.notify srv true, luck.bcast⟩
          else ⟨s, s.notify srv true, 0⟩ := by
  generalize hkey : (if m.sq.sq_node = s.local_node then (m.sq.sq_node, m.sq.sq_port)
    else (m.server.node, m.server.port)) = key
  have hoffer : s.offer m = { m.server with node := key.1, port := key.2 } := by
    rw [State.offer, ← hkey]
    split_ifs <;> rfl
  rewrite [ctrl_cmd_new_server, hkey, hoffer]
  rfl

lemma new_server_lookups (m : Msg) (luck : Luck) :
    (ctrl_cmd_new_server s m.sq m.server.service m.server.inst m.server.node m.server.port
      luck).state.lookups = s.lookups := by
  rw [new_server_eq]
  split
  · rfl
  · rcases server_add_cases s (s.offer m).service (s.offer m).inst (s.offer m).node
      (s.offer m).port luck with ⟨s', hsame, heq⟩ | ⟨s', node, hsame, -, -, -, -, -, heq⟩
    · rw [heq]
      exact hsame.lookups
    · rw [heq]
      have hlookups : (s'.update (node.store (s.offer m).service (s.offer m).inst
          (s.offer m).port)).lookups = s.lookups := (update_lookups ..).trans hsame.lookups
      dsimp only
      split_ifs <;> exact hlookups

lemma new_server_refused (m : Msg) (luck : Luck) (h : ¬Offers m (s.offer m)) :
    ctrl_cmd_new_server s m.sq m.server.service m.server.inst m.server.node m.server.port luck =
      ⟨s, [], -EINVAL⟩ := by
  rw [new_server_eq]
  by_cases hnode : m.sq.sq_node = (s.offer m).node
  · have hzero : (s.offer m).service = 0 ∨ (s.offer m).port = 0 := by
      by_contra hboth
      rw [not_or] at hboth
      exact h ⟨hnode, hboth⟩
    rw [if_neg (not_not.mpr hnode), server_add_zero s _ _ luck hzero]
  · rw [if_pos hnode]

lemma new_server_adds (m : Msg) (hmem : luck.Memory)
    (h : Offers m (s.offer m)) : Adds s (s.offer m) luck
      (ctrl_cmd_new_server s m.sq m.server.service m.server.inst m.server.node m.server.port
        luck) := by
  rw [new_server_eq, if_neg (not_not.mpr h.1)]
  generalize s.offer m = srv at *
  obtain ⟨service, inst, n, p⟩ := srv
  obtain ⟨s', heq, hlookups, hlocal, hentry⟩ := server_add_ok s inst n hmem h.2.1 h.2.2
  have hstored : ∀ srv', s'.Stored srv' ↔ srv' = ⟨service, inst, n, p⟩ ∨
      (s.Stored srv' ∧ ¬(n = srv'.node ∧ p = srv'.port)) := by
    intro srv'
    rw [State.Stored, hentry]
    by_cases hat : n = srv'.node ∧ p = srv'.port
    · simp [hat, eq_comm]
    · rw [if_neg hat]
      refine ⟨fun hin => .inr ⟨hin, hat⟩, fun hor => ?_⟩
      rcases hor with rfl | ⟨hin, -⟩
      · exact absurd ⟨rfl, rfl⟩ hat
      · exact hin
  have hnotify : ∀ sq srv', lookup_notify sq (some srv') true ∈
      s'.notify ⟨service, inst, n, p⟩ true ↔ srv' = ⟨service, inst, n, p⟩ ∧
          ∃ l ∈ s.lookups, l.sq = sq ∧ l.Seeks ⟨service, inst, n, p⟩ := by
    intro sq srv'
    rw [mem_notify, hlookups]
  have hno_del : ∀ o ∈ s'.notify ⟨service, inst, n, p⟩ true, ∀ srv',
      o.pkt ≠ .del_server (some srv') := by
    intro o ho srv'
    obtain ⟨l, -, rfl⟩ := mem_map.mp ho
    simp [lookup_notify]
  rw [heq]
  dsimp only
  rw [hlocal]
  by_cases hnode : n = s.local_node
  · rw [if_pos hnode]
    by_cases hbcast : luck.bcast < 0
    · rw [if_pos hbcast]
      refine ⟨hlookups, hstored, fun sq srv' => ?_, fun o ho => by cases ho⟩
      have hnot : ¬Announces s ⟨service, inst, n, p⟩ luck := fun ha =>
        absurd (ha hnode) (not_le.mpr hbcast)
      simp [hnot]
    · rw [if_neg hbcast]
      refine ⟨hlookups, hstored, fun sq srv' => ?_, fun o ho => ?_⟩
      · have ha : Announces s ⟨service, inst, n, p⟩ luck := fun _ => not_lt.mp hbcast
        rw [mem_cons, or_iff_right (by simp [lookup_notify]), hnotify]
        exact (and_iff_right ha).symm
      · rcases mem_cons.mp ho with rfl | ho
        · simp
        · exact hno_del o ho
  · rw [if_neg hnode]
    refine ⟨hlookups, hstored, fun sq srv' => ?_, hno_del⟩
    have ha : Announces s ⟨service, inst, n, p⟩ luck := fun h => absurd h hnode
    rw [hnotify]
    exact (and_iff_right ha).symm

/-- **A new server leaves an observer right exactly when it fits its lookup.** -/
theorem Adds.tracks_iff {s : State} {srv : Server} {r : Reply} {l : Lookup}
    {seen : Finset Server} (h : Adds s srv luck r) (hl : l ∈ s.lookups) (hseen : Tracks s l seen) :
    Tracks r.state l (observe l.sq seen r.out) ↔ FitsServer s srv luck l := by
  have hmem : ∀ srv', srv' ∈ observe l.sq seen r.out ↔ (s.Stored srv' ∧ l.Seeks srv') ∨
      (Announces s srv luck ∧ srv' = srv ∧ ∃ l' ∈ s.lookups, l'.sq = l.sq ∧ l'.Seeks srv) := by
    intro srv'
    rw [mem_observe_of_no_del seen h.no_del, hseen, h.told]
  simp only [Tracks, hmem, h.stored]
  constructor
  · intro htracks
    refine ⟨fun old hold hne hseeks => ?_, fun hseeks => ?_, fun ha l' hl' hsq hseeks => ?_⟩
    · -- the observer still believes in the server that was replaced
      obtain ⟨hn, hp⟩ := entry_eq_some hold
      have hin : s.Stored old := by
        rw [State.Stored, hn, hp]
        exact hold
      rcases ((htracks old).mp (.inl ⟨hin, hseeks⟩)).1 with heq | ⟨-, hat⟩
      · exact hne heq
      · exact hat ⟨hn.symm, hp.symm⟩
    · rcases (htracks srv).mpr ⟨.inl rfl, hseeks⟩ with ⟨hin, -⟩ | ⟨ha, -⟩
      · exact .inr hin
      · exact .inl ha
    · exact ((htracks srv).mp (.inr ⟨ha, rfl, l', hl', hsq, hseeks⟩)).2
  · rintro ⟨hold, hnew, hother⟩ srv'
    constructor
    · rintro (⟨hin, hseeks⟩ | ⟨ha, rfl, l', hl', hsq, hseeks⟩)
      · refine ⟨?_, hseeks⟩
        by_contra hnot
        rw [not_or, not_and, not_not] at hnot
        obtain ⟨hn, hp⟩ := hnot.2 hin
        refine hold srv' ?_ hnot.1 hseeks
        rw [hn, hp]
        exact hin
      · exact ⟨.inl rfl, hother ha l' hl' hsq hseeks⟩
    · rintro ⟨rfl | ⟨hin, -⟩, hseeks⟩
      · rcases hnew hseeks with ha | hin
        · exact .inr ⟨ha, rfl, l, hl, rfl, hseeks⟩
        · exact .inl ⟨hin, hseeks⟩
      · exact .inl ⟨hin, hseeks⟩

/-! ### Listings -/

/-- A handler that tells one socket about servers. -/
structure Lists (s : State) (sq : Addr) (listed : List Server) (r : Reply) : Prop where
  entry : ∀ n p, r.state.entry n p = s.entry n p
  stored : ∀ srv ∈ listed, s.Stored srv
  told : ∀ sq' srv, lookup_notify sq' (some srv) true ∈ r.out ↔ sq' = sq ∧ srv ∈ listed
  no_del : ∀ o ∈ r.out, ∀ srv, o.pkt ≠ .del_server (some srv)

/-- **A listing leaves an observer right exactly when it hears only what it asks for.** -/
theorem Lists.tracks_iff {s : State} {sq : Addr} {listed : List Server} {r : Reply} {l : Lookup}
    {seen : Finset Server} (h : Lists s sq listed r) (hseen : Tracks s l seen) :
    Tracks r.state l (observe l.sq seen r.out) ↔
      (l.sq = sq → ∀ srv ∈ listed, l.Seeks srv) := by
  have hmem : ∀ srv, srv ∈ observe l.sq seen r.out ↔
      (s.Stored srv ∧ l.Seeks srv) ∨ (l.sq = sq ∧ srv ∈ listed) := by
    intro srv
    rw [mem_observe_of_no_del seen h.no_del, hseen, h.told]
  simp only [Tracks, hmem, State.Stored, h.entry]
  constructor
  · intro htracks hsq srv hsrv
    exact ((htracks srv).mp (.inr ⟨hsq, hsrv⟩)).2
  · intro hfits srv
    refine ⟨fun hor => ?_, .inl⟩
    rcases hor with hin | ⟨hsq, hsrv⟩
    · exact hin
    · exact ⟨h.stored srv hsrv, hfits hsq srv hsrv⟩

lemma announce_servers_out (luck : Luck) (sq : Addr) (l : List Server) :
    (announce_servers luck sq l).1 =
      ((l.takeWhile fun srv => 0 ≤ luck.announce srv ∨ luck.announce srv = -ENODEV).filter
        fun srv => 0 ≤ luck.announce srv).map fun srv => lookup_notify sq (some srv) true := by
  induction l with
  | nil => rfl
  | cons srv l ih =>
    rw [announce_servers]
    by_cases hneg : luck.announce srv < 0
    · by_cases hdev : luck.announce srv = -ENODEV
      · simp [hdev, ih, ENODEV]
      · simp [hneg, hdev, not_le.mpr hneg]
    · simp [hneg, not_lt.mp hneg, ih, lookup_notify]

lemma mem_map_notify {sq sq' : Addr} {srv : Server} {l : List Server} :
    lookup_notify sq' (some srv) true ∈ l.map (fun srv => lookup_notify sq (some srv) true) ↔
      sq' = sq ∧ srv ∈ l := by
  simp only [mem_map, lookup_notify, Out.mk.injEq, Dest.one.injEq, if_true,
    CtrlPkt.new_server.injEq, Option.some.injEq]
  constructor
  · rintro ⟨srv', hmem, rfl, rfl⟩
    exact ⟨rfl, hmem⟩
  · rintro ⟨rfl, hmem⟩
    exact ⟨srv, hmem, rfl, rfl⟩

lemma hello_lists (sq : Addr) (luck : Luck) (h : 0 ≤ luck.hello) :
    Lists s sq (s.announced luck sq) (ctrl_cmd_hello s sq luck) := by
  rw [ctrl_cmd_hello, if_neg (not_lt.mpr h)]
  dsimp only
  rw [announce_servers_out]
  refine ⟨fun _ _ => rfl, fun srv hsrv => ?_, fun sq' srv => ?_, fun o ho srv => ?_⟩
  · have hall := takeWhile_subset _ (mem_filter.mp hsrv).1
    exact (State.mem_all.mp hall).1
  · rw [mem_cons, or_iff_right (by simp [lookup_notify]), mem_map_notify, State.announced]
  · rcases mem_cons.mp ho with rfl | ho
    · simp
    · obtain ⟨-, -, rfl⟩ := mem_map.mp ho
      simp [lookup_notify]

lemma new_lookup_lists (sq : Addr) (service inst : UInt32)
    (hmem : luck.Memory) (hlocal : sq.sq_node = s.local_node) :
    Lists s sq ((s.all fun _ => false).filter (⟨service, inst, sq⟩ : Lookup).Seeks)
      (ctrl_cmd_new_lookup s sq service inst luck) := by
  have hlookup := hmem.2.2.2.2.1
  rw [ctrl_cmd_new_lookup, if_neg (not_not.mpr hlocal), hlookup]
  have hfilter : (s.all fun _ => false).filter (fun srv => server_match srv ⟨service, inst, 0⟩) =
      (s.all fun _ => false).filter (⟨service, inst, sq⟩ : Lookup).Seeks := by
    congr 1
    funext srv
    rw [Bool.eq_iff_iff, server_match_iff, decide_eq_true_iff]
  simp only [Bool.not_true, Bool.false_eq_true, if_false, hfilter]
  refine ⟨fun _ _ => rfl, fun srv hsrv => ?_, fun sq' srv => ?_, fun o ho srv => ?_⟩
  · exact (State.mem_all.mp (mem_filter.mp hsrv).1).1
  · rw [mem_append, or_iff_left (by simp [lookup_notify]), mem_map_notify]
  · rcases mem_append.mp ho with ho | ho
    · obtain ⟨-, -, rfl⟩ := mem_map.mp ho
      simp [lookup_notify]
    · rw [mem_singleton] at ho
      subst ho
      simp [lookup_notify]

section

variable {m : Msg} (luck : Luck)

lemma registered_eq_none (h : m.cmd ≠ QRTR_TYPE_NEW_LOOKUP) : registered s m luck = none :=
  if_neg fun hreg => h hreg.1

lemma worker_hello (h : m.cmd = QRTR_TYPE_HELLO) :
    qrtr_ns_worker s m luck = ctrl_cmd_hello s m.sq luck ∧
      (Fits s m luck ↔ (0 ≤ luck.hello → FitsListing s m.sq (s.announced luck m.sq))) := by
  rw [qrtr_ns_worker, Fits, h]
  simp [QRTR_TYPE_HELLO, QRTR_TYPE_NEW_SERVER, QRTR_TYPE_NEW_LOOKUP]

lemma worker_new_server (h : m.cmd = QRTR_TYPE_NEW_SERVER) :
    qrtr_ns_worker s m luck =
        ctrl_cmd_new_server s m.sq m.server.service m.server.inst m.server.node m.server.port luck ∧
      (Fits s m luck ↔ (Offers m (s.offer m) →
        ∀ l ∈ s.lookups, FitsServer s (s.offer m) luck l)) := by
  rw [qrtr_ns_worker, Fits, h]
  simp [QRTR_TYPE_HELLO, QRTR_TYPE_BYE, QRTR_TYPE_DEL_CLIENT, QRTR_TYPE_NEW_SERVER,
    QRTR_TYPE_NEW_LOOKUP]

lemma worker_new_lookup (h : m.cmd = QRTR_TYPE_NEW_LOOKUP) :
    qrtr_ns_worker s m luck = ctrl_cmd_new_lookup s m.sq m.server.service m.server.inst luck ∧
      (Fits s m luck ↔ (m.sq.sq_node = s.local_node →
        FitsListing s m.sq ((s.all fun _ => false).filter
          (⟨m.server.service, m.server.inst, m.sq⟩ : Lookup).Seeks))) := by
  rw [qrtr_ns_worker, Fits, h]
  simp [QRTR_TYPE_HELLO, QRTR_TYPE_BYE, QRTR_TYPE_DEL_CLIENT, QRTR_TYPE_NEW_SERVER,
    QRTR_TYPE_DEL_SERVER, QRTR_TYPE_NEW_LOOKUP]

end

/-! ## The world -/

theorem worker_lookups (m : Msg) (luck : Luck) :
    s.lookups.filter (fun l => l ∈ (qrtr_ns_worker s m luck).state.lookups) ++
      (registered s m luck).toList = (qrtr_ns_worker s m luck).state.lookups := by
  have hkept : ∀ {l' : List Lookup} (p : Lookup → Bool), l' = s.lookups.filter p →
      s.lookups.filter (fun l => l ∈ l') ++ [] = l' := by
    rintro l' p rfl
    rw [append_nil]
    apply filter_congr
    intro l hl
    simp [hl]
  have hall : ∀ {l' : List Lookup}, l' = s.lookups →
      s.lookups.filter (fun l => l ∈ l') ++ [] = l' := fun h =>
    hkept (fun _ => true) (by simpa using h)
  by_cases hlookup : m.cmd = QRTR_TYPE_NEW_LOOKUP
  · rw [(worker_new_lookup s luck hlookup).1, ctrl_cmd_new_lookup, registered]
    by_cases hlocal : m.sq.sq_node = s.local_node
    · cases halloc : luck.lookup_alloc with
      | false => simp [hlocal]
      | true =>
        simp only [hlookup, hlocal, ne_eq, not_true_eq_false, if_false, Bool.not_true,
          Bool.false_eq_true, and_self, if_true, Option.toList_some]
        rw [filter_eq_self.mpr]
        intro l hl
        simp [hl]
    · rw [if_pos hlocal, if_neg fun h => hlocal h.2.1]
      exact hall rfl
  · rw [registered_eq_none s luck hlookup]
    by_cases hhello : m.cmd = QRTR_TYPE_HELLO
    · rw [(worker_hello s luck hhello).1, ctrl_cmd_hello]
      split_ifs <;> exact hall rfl
    · by_cases hserver : m.cmd = QRTR_TYPE_NEW_SERVER
      · rw [(worker_new_server s luck hserver).1]
        exact hall (new_server_lookups s m luck)
      · obtain ⟨s', -, ⟨p, hp⟩, hremoves⟩ := worker_only_removes s m luck hhello hserver hlookup
        exact hkept p (hremoves.lookups.trans hp)

/-- The name service, and what has been put together for each lookup from the notifications
to its socket since it was registered. -/
structure World where
  ns : State
  observed : List (Lookup × Finset Server)
  aligned : observed.map Prod.fst = ns.lookups

def World.step (w : World) (e : Msg × Luck) : World where
  ns := (qrtr_ns_worker w.ns e.1 e.2).state
  observed :=
    (w.observed.filter fun v => v.1 ∈ (qrtr_ns_worker w.ns e.1 e.2).state.lookups).map
        (fun v => (v.1, observe v.1.sq v.2 (qrtr_ns_worker w.ns e.1 e.2).out)) ++
      (registered w.ns e.1 e.2).toList.map
        fun l => (l, observe l.sq ∅ (qrtr_ns_worker w.ns e.1 e.2).out)
  aligned := by
    refine Eq.trans ?_ (worker_lookups w.ns e.1 e.2)
    rw [← w.aligned, filter_map]
    simp [Function.comp_def]

def World.start (local_node : UInt32) : World := ⟨.start local_node, [], rfl⟩

/-- Each observer has put together what is in the table. -/
def Truthful (w : World) : Prop := ∀ v ∈ w.observed, Tracks w.ns v.1 v.2

lemma truthful_step_iff_tracks (w : World) (e : Msg × Luck) :
    Truthful (w.step e) ↔
      (∀ v ∈ w.observed, v.1 ∈ (qrtr_ns_worker w.ns e.1 e.2).state.lookups →
        Tracks (qrtr_ns_worker w.ns e.1 e.2).state v.1
          (observe v.1.sq v.2 (qrtr_ns_worker w.ns e.1 e.2).out)) ∧
      ∀ l, registered w.ns e.1 e.2 = some l →
        Tracks (qrtr_ns_worker w.ns e.1 e.2).state l
          (observe l.sq ∅ (qrtr_ns_worker w.ns e.1 e.2).out) := by
  constructor
  · intro h
    refine ⟨fun v hv hl => ?_, fun l hl => ?_⟩
    · exact h _ (mem_append_left _ (mem_map.mpr ⟨v, mem_filter.mpr ⟨hv, decide_eq_true hl⟩, rfl⟩))
    · exact h _ (mem_append_right _ (mem_map.mpr ⟨l, Option.mem_toList.mpr hl, rfl⟩))
  · rintro ⟨hold, hnew⟩ v hv
    rcases mem_append.mp hv with hv | hv
    · obtain ⟨v', hv', rfl⟩ := mem_map.mp hv
      obtain ⟨hv', hl⟩ := mem_filter.mp hv'
      exact hold v' hv' (of_decide_eq_true hl)
    · obtain ⟨l, hl, rfl⟩ := mem_map.mp hv
      exact hnew l (Option.mem_toList.mp hl)

lemma World.mem_lookups {w : World} {v : Lookup × Finset Server} (hv : v ∈ w.observed) :
    v.1 ∈ w.ns.lookups := by
  rw [← w.aligned]
  exact mem_map_of_mem hv

lemma World.forall_lookups (w : World) (p : Lookup → Prop) :
    (∀ v ∈ w.observed, p v.1) ↔ ∀ l ∈ w.ns.lookups, p l := by
  rw [← w.aligned, forall_mem_map]

lemma Lists.tracks_new {s : State} {l : Lookup} {r : Reply}
    (h : Lists s l.sq ((s.all fun _ => false).filter l.Seeks) r) :
    Tracks r.state l (observe l.sq ∅ r.out) := by
  intro srv
  rw [mem_observe_of_no_del ∅ h.no_del, h.told, State.Stored, h.entry, ← State.Stored,
    mem_filter, State.mem_all, decide_eq_true_iff]
  simp

section

variable {w : World} {r : Reply}

def KeepsTrack (w : World) (r : Reply) : Prop :=
  ∀ v ∈ w.observed, v.1 ∈ r.state.lookups → Tracks r.state v.1 (observe v.1.sq v.2 r.out)

variable (hw : Truthful w)
include hw

lemma OnlyRemoves.keeps (h : OnlyRemoves w.ns r) : KeepsTrack w r := by
  obtain ⟨s', hentry, -, hremoves⟩ := h
  intro v hv hl
  rw [hremoves.lookups] at hl
  refine hremoves.tracks hl fun srv => ?_
  rw [hw v hv, State.Stored, State.Stored, hentry]

lemma Lists.keeps_iff {sq : Addr} {listed : List Server}
    (h : Lists w.ns sq listed r) (hlookups : ∀ l ∈ w.ns.lookups, l ∈ r.state.lookups) :
    KeepsTrack w r ↔ FitsListing w.ns sq listed := by
  rw [FitsListing, ← w.forall_lookups fun l => l.sq = sq → ∀ srv ∈ listed, l.Seeks srv]
  refine forall₂_congr fun v hv => ?_
  rw [forall_prop_of_true (hlookups v.1 (w.mem_lookups hv)), h.tracks_iff (hw v hv)]

lemma Adds.keeps_iff {srv : Server} {luck : Luck} (h : Adds w.ns srv luck r) :
    KeepsTrack w r ↔ ∀ l ∈ w.ns.lookups, FitsServer w.ns srv luck l := by
  rw [← w.forall_lookups]
  refine forall₂_congr fun v hv => ?_
  rw [h.lookups, forall_prop_of_true (w.mem_lookups hv), h.tracks_iff (w.mem_lookups hv) (hw v hv)]

lemma keeps_self (ret : ℤ) : KeepsTrack w ⟨w.ns, [], ret⟩ :=
  (Removes.of_same (.refl w.ns) ret).only.keeps hw

end

/-- **One message**, starting from the truth. -/
theorem truthful_step_iff {w : World} (hw : Truthful w) {e : Msg × Luck} (hmem : e.2.Memory) :
    Truthful (w.step e) ↔ Fits w.ns e.1 e.2 := by
  obtain ⟨m, luck⟩ := e
  rw [truthful_step_iff_tracks]
  change KeepsTrack w (qrtr_ns_worker w.ns m luck) ∧ _ ↔ Fits w.ns m luck
  by_cases hlookup : m.cmd = QRTR_TYPE_NEW_LOOKUP
  · obtain ⟨hworker, hfits⟩ := worker_new_lookup w.ns luck hlookup
    rw [hworker, hfits, registered]
    by_cases hlocal : m.sq.sq_node = w.ns.local_node
    · have hlists := new_lookup_lists w.ns m.sq m.server.service m.server.inst hmem hlocal
      rw [if_pos ⟨hlookup, hlocal, hmem.2.2.2.2.1⟩, forall_prop_of_true hlocal,
        hlists.keeps_iff hw fun l hl => ?_]
      · refine and_iff_left fun l hl => ?_
        cases hl
        exact hlists.tracks_new
      · rw [ctrl_cmd_new_lookup, if_neg (not_not.mpr hlocal), hmem.2.2.2.2.1]
        exact mem_append_left _ hl
    · rw [if_neg fun h => hlocal h.2.1, ctrl_cmd_new_lookup, if_pos hlocal]
      exact iff_of_true ⟨keeps_self hw _, fun l hl => by cases hl⟩ fun h => absurd h hlocal
  · rw [registered_eq_none w.ns luck hlookup, and_iff_left fun l hl => by cases hl]
    by_cases hhello : m.cmd = QRTR_TYPE_HELLO
    · obtain ⟨hworker, hfits⟩ := worker_hello w.ns luck hhello
      rw [hworker, hfits]
      by_cases hsent : 0 ≤ luck.hello
      · rw [forall_prop_of_true hsent,
          (hello_lists w.ns m.sq luck hsent).keeps_iff hw fun l hl => ?_]
        rw [ctrl_cmd_hello, if_neg (not_lt.mpr hsent)]
        exact hl
      · rw [ctrl_cmd_hello, if_pos (not_le.mp hsent)]
        exact iff_of_true (keeps_self hw _) fun h => absurd h hsent
    · by_cases hserver : m.cmd = QRTR_TYPE_NEW_SERVER
      · obtain ⟨hworker, hfits⟩ := worker_new_server w.ns luck hserver
        rw [hworker, hfits]
        by_cases hoffers : Offers m (w.ns.offer m)
        · rw [forall_prop_of_true hoffers, (new_server_adds w.ns m hmem hoffers).keeps_iff hw]
        · rw [new_server_refused w.ns m luck hoffers]
          exact iff_of_true (keeps_self hw _) fun h => absurd h hoffers
      · refine iff_of_true ((worker_only_removes w.ns m luck hhello hserver hlookup).keeps hw) ?_
        exact ⟨fun h => absurd h hserver, fun h => absurd h hlookup, fun h => absurd h hhello⟩

/-- **All observers see the truth in every state of a run exactly when all its messages meet
the condition.** -/
theorem ns_observers_iff (local_node : UInt32) (l : List (Msg × Luck))
    (hmem : ∀ e ∈ l, e.2.Memory) :
    (∀ l', l' <+: l → Truthful (exec World.step (.start local_node) l')) ↔
      Ok World.step (fun w e => Fits w.ns e.1 e.2) (.start local_node) l := by
  have hlegal : Ok World.step (fun _ e => e.2.Memory) (.start local_node) l :=
    Ok.of_forall _ hmem
  refine Run.legal_prefix_good_iff (fun _ hw => hw)
    (fun _ _ hw hm hfits => (truthful_step_iff hw hm).mpr hfits)
    (fun _ _ hw hm hnot h => hnot ((truthful_step_iff hw hm).mp h)) hlegal ?_
  intro v hv
  cases hv

def looks_for (service : UInt32) : Msg × Luck :=
  (⟨⟨1, 9⟩, QRTR_TYPE_NEW_LOOKUP, ![service, 0, 0, 0]⟩, .good)

def offers (service : UInt32) (luck : Luck) : Msg × Luck :=
  (⟨⟨1, 5⟩, QRTR_TYPE_NEW_SERVER, ![service, 0, 0, 0]⟩, luck)

theorem server_comes_and_goes :
    Truthful (exec World.step (.start 1)
      [looks_for 7, offers 7 .good, (⟨⟨1, 1⟩, QRTR_TYPE_BYE, fun _ => 0⟩, .good)]) :=
  (ns_observers_iff 1 _ (by decide)).mpr (by decide +kernel) _ (prefix_refl _)

lemma not_truthful {w : World} (srv : Server)
    (h : ∃ v ∈ w.observed, ¬(srv ∈ v.2 ↔ w.ns.Stored srv ∧ v.1.Seeks srv)) : ¬Truthful w := by
  obtain ⟨v, hv, hnot⟩ := h
  exact fun hw => hnot (hw v hv srv)

/-- Four ways to mislead an observer of service 7. -/
theorem ns_observer_misled :
    ¬Truthful (exec World.step (.start 1) [looks_for 7, offers 7 .good, offers 8 .good]) ∧
    ¬Truthful (exec World.step (.start 1)
      [looks_for 7, offers 7 { Luck.good with bcast := -ENOMEM }]) ∧
    ¬Truthful (exec World.step (.start 1) [looks_for 7, looks_for 8, offers 8 .good]) ∧
    ¬Truthful (exec World.step (.start 1)
      [looks_for 7, (⟨⟨2, 1⟩, QRTR_TYPE_NEW_SERVER, ![8, 0, 2, 5]⟩, .good),
        (⟨⟨1, 9⟩, QRTR_TYPE_HELLO, fun _ => 0⟩, .good)]) :=
  ⟨not_truthful ⟨7, 0, 1, 5⟩ (by decide +kernel), not_truthful ⟨7, 0, 1, 5⟩ (by decide +kernel),
    not_truthful ⟨8, 0, 1, 5⟩ (by decide +kernel), not_truthful ⟨8, 0, 2, 5⟩ (by decide +kernel)⟩

end KernelExtra.Qrtr.Ns
