/-
The QRTR name service, `net/qrtr/ns.c`.

It keeps a table of servers, by node and port, and a list of lookups; `qrtr_ns_worker` takes control
messages one after the other. The node and port a message is about are partly taken from its
payload, in which a client and a server overlap, and partly from its sender.
-/
import KernelExtra.Qrtr.Basic

namespace KernelExtra.Qrtr.Ns

open Std

/-! ## The table -/

structure Server where
  service : UInt32
  inst : UInt32
  node : UInt32
  port : UInt32
  deriving DecidableEq

/-- A socket that wants to hear about servers. -/
structure Lookup where
  service : UInt32
  inst : UInt32
  sq : Addr
  deriving DecidableEq

/-- The servers of a node, by port. -/
structure Node where
  id : UInt32
  servers : TreeMap UInt32 Server
  keyed : ∀ (port : UInt32) (srv : Server), servers[port]? = some srv →
    srv.node = id ∧ srv.port = port

/-- The table and the lookups. -/
structure State where
  local_node : UInt32
  nodes : TreeMap UInt32 Node
  lookups : List Lookup
  keyed : ∀ (id : UInt32) (node : Node), nodes[id]? = some node → node.id = id

lemma getElem?_insert {α : Type} (m : TreeMap UInt32 α) (k a : UInt32) (v : α) :
    (m.insert k v)[a]? = if k = a then some v else m[a]? := by
  rw [TreeMap.getElem?_insert]
  simp

lemma getElem?_erase {α : Type} (m : TreeMap UInt32 α) (k a : UInt32) :
    (m.erase k)[a]? = if k = a then none else m[a]? := by
  rw [TreeMap.getElem?_erase]
  simp

def Node.empty (id : UInt32) : Node where
  id := id
  servers := ∅
  keyed _ _ h := by
    cases h

def Node.store (node : Node) (service inst port : UInt32) : Node where
  id := node.id
  servers := node.servers.insert port ⟨service, inst, node.id, port⟩
  keyed p srv h := by
    rw [getElem?_insert] at h
    split at h
    · rename_i hp
      cases h
      exact ⟨rfl, hp⟩
    · exact node.keyed p srv h

def Node.erase (node : Node) (port : UInt32) : Node where
  id := node.id
  servers := node.servers.erase port
  keyed p srv h := by
    rw [getElem?_erase] at h
    split at h
    · cases h
    · exact node.keyed p srv h

def State.set_node (s : State) (node : Node) : State where
  local_node := s.local_node
  nodes := s.nodes.insert node.id node
  lookups := s.lookups
  keyed id node' h := by
    rw [getElem?_insert] at h
    split at h
    · cases h
      assumption
    · exact s.keyed id node' h

def State.update (s : State) (node : Node) : State :=
  if (s.nodes[node.id]?).isSome then s.set_node node else s

/-- The server on a port of a node. -/
def State.entry (s : State) (node port : UInt32) : Option Server :=
  (s.nodes[node]?).bind fun node => node.servers[port]?

def Node.all (node : Node) : List Server := node.servers.toList.map Prod.snd

/-- All servers, except those of nodes to skip. -/
def State.all (s : State) (skip : UInt32 → Bool) : List Server :=
  ((s.nodes.toList.map Prod.snd).filter fun node => !skip node.id).flatMap Node.all

/-! ## Messages -/

/-- A message the name service sends. `none` is the empty notification at the end of a
listing. -/
inductive CtrlPkt where
  | hello
  | new_server (srv : Option Server)
  | del_server (srv : Option Server)
  | bye (node : UInt32)
  | del_client (node port : UInt32)
  deriving DecidableEq

inductive Dest where
  | one (sq : Addr)
  | bcast
  deriving DecidableEq

structure Out where
  dst : Dest
  pkt : CtrlPkt
  deriving DecidableEq

/-- A message it receives: the sender, the command and the four words after it. -/
structure Msg where
  sq : Addr
  cmd : ℕ
  word : Fin 4 → UInt32

/-- The words as `server` of `qrtr_ctrl_pkt`; its `client` is the first two. -/
def Msg.server (m : Msg) : Server := ⟨m.word 0, m.word 1, m.word 2, m.word 3⟩

/-- What the surroundings decide: which allocations succeed, and what `kernel_sendmsg`
returns where the code asks. -/
structure Luck where
  node_alloc : Bool
  node_store : Bool
  server_alloc : Bool
  server_store : Bool
  lookup_alloc : Bool
  local_alloc : Bool
  local_store : Bool
  bcast : ℤ
  hello : ℤ
  announce : Server → ℤ

def Luck.good : Luck := ⟨true, true, true, true, true, true, true, 0, 0, fun _ => 0⟩

/-- What a handler leaves, sends and returns. -/
structure Reply where
  state : State
  out : List Out
  ret : ℤ

def ENOENT : ℤ := 2
def ENOMEM : ℤ := 12
def ENODEV : ℤ := 19
def EINVAL : ℤ := 22

/-! ## Servers and lookups -/

/-- The node's table, a new one if need be. -/
def node_get (s : State) (node_id : UInt32) (alloc store : Bool) : State × Option Node :=
  match s.nodes[node_id]? with
  | some node => (s, some node)
  | none =>
    if !alloc then (s, none)
    else (if store then s.set_node (.empty node_id) else s, some (.empty node_id))

/-- A lookup as `server_match` takes it. -/
structure Filter where
  service : UInt32
  inst : UInt32
  ifilter : UInt32

/-- Does the server fit the filter? -/
def server_match (srv : Server) (f : Filter) : Bool :=
  if f.service ≠ 0 ∧ srv.service ≠ f.service then false
  else
    let ifilter := if f.ifilter = 0 ∧ f.inst ≠ 0 then ~~~0 else f.ifilter
    srv.inst &&& ifilter = f.inst

def Lookup.wants (l : Lookup) (service inst : UInt32) : Bool :=
  if l.service ≠ 0 ∧ l.service ≠ service then false
  else if l.inst ≠ 0 ∧ l.inst ≠ inst then false
  else true

def lookup_notify (sq : Addr) (srv : Option Server) (new : Bool) : Out :=
  ⟨.one sq, if new then .new_server srv else .del_server srv⟩

/-- What those who look for a server are told. -/
def State.notify (s : State) (srv : Server) (new : Bool) : List Out :=
  (s.lookups.filter fun l => l.wants srv.service srv.inst).map fun l =>
    lookup_notify l.sq (some srv) new

def announce_servers (luck : Luck) (sq : Addr) : List Server → List Out × ℤ
  | [] => ([], 0)
  | srv :: l =>
    if luck.announce srv < 0 then
      if luck.announce srv = -ENODEV then announce_servers luck sq l
      else ([], luck.announce srv)
    else
      (⟨.one sq, .new_server (some srv)⟩ :: (announce_servers luck sq l).1,
        (announce_servers luck sq l).2)

/-- A new server replaces the one on its port. -/
def server_add (s : State) (service inst node_id port : UInt32) (luck : Luck) :
    State × Option Server :=
  if service = 0 ∨ port = 0 then (s, none)
  else if !luck.server_alloc then (s, none)
  else
    match node_get s node_id luck.node_alloc luck.node_store with
    | (s, none) => (s, none)
    | (s, some node) =>
      if !luck.server_store then (s, none)
      else (s.update (node.store service inst port), some ⟨service, inst, node_id, port⟩)

def State.erase (s : State) (node port : UInt32) : State :=
  match s.nodes[node]? with
  | none => s
  | some node => s.set_node (node.erase port)

def server_del (s : State) (node_id port : UInt32) : Reply :=
  match s.entry node_id port with
  | none => ⟨s, [], -ENOENT⟩
  | some srv =>
    ⟨s.erase node_id port,
      (if srv.node = s.local_node then [⟨.bcast, .del_server (some srv)⟩] else []) ++
        s.notify srv false, 0⟩

/-! ## Commands -/

/-- A node says hello: it is told about all other servers. -/
def ctrl_cmd_hello (s : State) (sq : Addr) (luck : Luck) : Reply :=
  if luck.hello < 0 then ⟨s, [], luck.hello⟩
  else
    let (out, ret) := announce_servers luck sq (s.all fun id => id = sq.sq_node)
    ⟨s, ⟨.one sq, .hello⟩ :: out, ret⟩

/-- The local servers are told, too. -/
def tell_local (r : Reply) (luck : Luck) (pkt : CtrlPkt) : Reply :=
  match node_get r.state r.state.local_node luck.local_alloc luck.local_store with
  | (s, none) => ⟨s, r.out, 0⟩
  | (s, some node) => ⟨s, r.out ++ node.all.map fun srv => ⟨.one ⟨srv.node, srv.port⟩, pkt⟩, 0⟩

def del_all (s : State) (node_id : UInt32) : List Server → Reply
  | [] => ⟨s, [], 0⟩
  | srv :: l =>
    let r := server_del s node_id srv.port
    let rest := del_all r.state node_id l
    ⟨rest.state, r.out ++ rest.out, 0⟩

section

variable (s : State)

/-- A node says goodbye: its servers go. -/
def ctrl_cmd_bye (sq : Addr) (luck : Luck) : Reply :=
  match node_get s sq.sq_node luck.node_alloc luck.node_store with
  | (s, none) => ⟨s, [], 0⟩
  | (s, some node) => tell_local (del_all s sq.sq_node node.all) luck (.bye sq.sq_node)

/-- A socket is gone, with its server and its lookups. -/
def ctrl_cmd_del_client (sq : Addr) (node_id port : UInt32) (luck : Luck) : Reply :=
  if sq.sq_node ≠ node_id then ⟨s, [], -EINVAL⟩
  else if sq.sq_node = s.local_node ∧ sq.sq_port ≠ port then ⟨s, [], -EINVAL⟩
  else
    let s := { s with lookups := s.lookups.filter fun l => l.sq ≠ ⟨node_id, port⟩ }
    let r :=
      match node_get s node_id luck.node_alloc luck.node_store with
      | (s, none) => ⟨s, [], 0⟩
      | (s, some _) => server_del s node_id port
    tell_local r luck (.del_client node_id port)

def ctrl_cmd_new_server (sq : Addr) (service inst node_id port : UInt32) (luck : Luck) : Reply :=
  -- the payload counts for servers of other nodes only
  let (node_id, port) :=
    if sq.sq_node = s.local_node then (sq.sq_node, sq.sq_port) else (node_id, port)
  if sq.sq_node ≠ node_id then ⟨s, [], -EINVAL⟩
  else
    match server_add s service inst node_id port luck with
    | (s, none) => ⟨s, [], -EINVAL⟩
    | (s, some srv) =>
      if srv.node = s.local_node then
        if luck.bcast < 0 then ⟨s, [], luck.bcast⟩
        else ⟨s, ⟨.bcast, .new_server (some srv)⟩ :: s.notify srv true, luck.bcast⟩
      else ⟨s, s.notify srv true, 0⟩

def ctrl_cmd_del_server (sq : Addr) (node_id port : UInt32) (luck : Luck) : Reply :=
  let (node_id, port) :=
    if sq.sq_node = s.local_node then (sq.sq_node, sq.sq_port) else (node_id, port)
  if sq.sq_node ≠ node_id then ⟨s, [], -EINVAL⟩
  else if sq.sq_node = s.local_node ∧ sq.sq_port ≠ port then ⟨s, [], -EINVAL⟩
  else
    match node_get s node_id luck.node_alloc luck.node_store with
    | (s, none) => ⟨s, [], -ENOENT⟩
    | (s, some _) => server_del s node_id port

def ctrl_cmd_new_lookup (sq : Addr) (service inst : UInt32) (luck : Luck) : Reply :=
  if sq.sq_node ≠ s.local_node then ⟨s, [], -EINVAL⟩
  else if !luck.lookup_alloc then ⟨s, [], -ENOMEM⟩
  else
    ⟨{ s with lookups := s.lookups ++ [⟨service, inst, sq⟩] },
      ((s.all fun _ => false).filter fun srv => server_match srv ⟨service, inst, 0⟩).map
          (fun srv => lookup_notify sq (some srv) true) ++ [lookup_notify sq none true], 0⟩

def ctrl_cmd_del_lookup (sq : Addr) (service inst : UInt32) : Reply :=
  ⟨{ s with
      lookups := s.lookups.filter fun l =>
        l.sq ≠ sq ∨ l.service ≠ service ∨ (l.inst ≠ 0 ∧ l.inst ≠ inst) }, [], 0⟩

/-- One control message. -/
def qrtr_ns_worker (m : Msg) (luck : Luck) : Reply :=
  if m.cmd = QRTR_TYPE_HELLO then ctrl_cmd_hello s m.sq luck
  else if m.cmd = QRTR_TYPE_BYE then ctrl_cmd_bye s m.sq luck
  else if m.cmd = QRTR_TYPE_DEL_CLIENT then
    ctrl_cmd_del_client s m.sq (m.word 0) (m.word 1) luck
  else if m.cmd = QRTR_TYPE_NEW_SERVER then
    ctrl_cmd_new_server s m.sq m.server.service m.server.inst m.server.node m.server.port luck
  else if m.cmd = QRTR_TYPE_DEL_SERVER then
    ctrl_cmd_del_server s m.sq m.server.node m.server.port luck
  else if m.cmd = QRTR_TYPE_NEW_LOOKUP then
    ctrl_cmd_new_lookup s m.sq m.server.service m.server.inst luck
  else if m.cmd = QRTR_TYPE_DEL_LOOKUP then
    ctrl_cmd_del_lookup s m.sq m.server.service m.server.inst
  else ⟨s, [], 0⟩

end

def State.start (local_node : UInt32) : State where
  local_node := local_node
  nodes := ∅
  lookups := []
  keyed _ _ h := by
    cases h

/-! ## Entries -/

lemma entry_set_node (s : State) (node : Node) (n p : UInt32) :
    (s.set_node node).entry n p = if node.id = n then node.servers[p]? else s.entry n p := by
  simp only [State.entry, State.set_node, getElem?_insert]
  split <;> rfl

variable {s : State} {srv : Server}

lemma entry_eq_some {n p : UInt32} (h : s.entry n p = some srv) : srv.node = n ∧ srv.port = p := by
  obtain ⟨node, hnode, hsrv⟩ := Option.bind_eq_some_iff.mp h
  obtain ⟨hid, hport⟩ := node.keyed p srv hsrv
  exact ⟨hid.trans (s.keyed n node hnode), hport⟩

lemma entry_erase (s : State) (n p n' p' : UInt32) :
    (s.erase n p).entry n' p' = if n = n' ∧ p = p' then none else s.entry n' p' := by
  rw [State.erase]
  split
  · rename_i hnone
    split
    · rename_i h
      rw [← h.1, State.entry, hnone]
      rfl
    · rfl
  · rename_i node hnode
    have hid := s.keyed n node hnode
    rw [entry_set_node]
    change (if node.id = n' then (node.servers.erase p)[p']? else _) = _
    rw [hid, getElem?_erase]
    by_cases hn : n = n'
    · subst hn
      simp [State.entry, hnode]
    · simp [hn]

variable {node : Node}

lemma Node.mem_all : srv ∈ node.all ↔ node.servers[srv.port]? = some srv := by
  rw [Node.all, List.mem_map]
  constructor
  · rintro ⟨⟨port, srv'⟩, hmem, rfl⟩
    have h := TreeMap.mem_toList_iff_getElem?_eq_some.mp hmem
    rwa [(node.keyed port srv' h).2]
  · intro h
    exact ⟨(srv.port, srv), TreeMap.mem_toList_iff_getElem?_eq_some.mpr h, rfl⟩

/-- The server is in the table. -/
def State.Stored (s : State) (srv : Server) : Prop := s.entry srv.node srv.port = some srv

lemma State.mem_all {skip : UInt32 → Bool} :
    srv ∈ s.all skip ↔ s.Stored srv ∧ skip srv.node = false := by
  simp only [State.all, List.mem_flatMap, List.mem_filter, List.mem_map, State.Stored]
  constructor
  · rintro ⟨node, ⟨⟨⟨id, node'⟩, hmem, rfl⟩, hskip⟩, hsrv⟩
    have hnode := TreeMap.mem_toList_iff_getElem?_eq_some.mp hmem
    have hentry := Node.mem_all.mp hsrv
    obtain ⟨hid, -⟩ := node'.keyed _ _ hentry
    have hid' := s.keyed id node' hnode
    refine ⟨?_, by simpa [hid] using hskip⟩
    rw [State.entry, hid, hid', hnode]
    exact hentry
  · rintro ⟨hentry, hskip⟩
    obtain ⟨node, hnode, hsrv⟩ := Option.bind_eq_some_iff.mp hentry
    have hid := s.keyed _ _ hnode
    refine ⟨node, ⟨⟨(srv.node, node), TreeMap.mem_toList_iff_getElem?_eq_some.mpr hnode, rfl⟩, ?_⟩,
      Node.mem_all.mpr hsrv⟩
    rw [hid, hskip]
    rfl

/-! ## What the helpers change -/

/-- The table reads the same. -/
structure Same (s s' : State) : Prop where
  entry : ∀ n p, s'.entry n p = s.entry n p
  lookups : s'.lookups = s.lookups
  local_node : s'.local_node = s.local_node

lemma Same.refl (s : State) : Same s s := ⟨fun _ _ => rfl, rfl, rfl⟩

variable {s' : State} {id : UInt32}

lemma Same.stored_iff (h : Same s s') (srv : Server) : s'.Stored srv ↔ s.Stored srv := by
  rw [State.Stored, State.Stored, h.entry]

lemma same_set_empty (h : s.nodes[id]? = none) : Same s (s.set_node (.empty id)) := by
  refine ⟨fun n p => ?_, rfl, rfl⟩
  rw [entry_set_node]
  change (if id = n then (∅ : TreeMap UInt32 Server)[p]? else _) = _
  split
  · rename_i hid
    rw [TreeMap.getElem?_emptyc, State.entry, ← hid, h]
    rfl
  · rfl

lemma empty_servers (h : s.nodes[id]? = none) (p : UInt32) :
    (Node.empty id).servers[p]? = s.entry id p := by
  rw [State.entry, h]
  exact TreeMap.getElem?_emptyc

lemma update_lookups (s : State) (node : Node) : (s.update node).lookups = s.lookups := by
  rw [State.update]
  split <;> rfl

lemma update_local_node (s : State) (node : Node) : (s.update node).local_node = s.local_node := by
  rw [State.update]
  split <;> rfl

lemma node_get_spec (s : State) (id : UInt32) (alloc store : Bool) :
    Same s (node_get s id alloc store).1 ∧
      ∀ node, (node_get s id alloc store).2 = some node →
        node.id = id ∧ ∀ p : UInt32, node.servers[p]? = s.entry id p := by
  rw [node_get]
  split
  · rename_i node hnode
    refine ⟨.refl s, fun node' h => ?_⟩
    cases h
    refine ⟨s.keyed id node hnode, fun p => ?_⟩
    rw [State.entry, hnode]
    rfl
  · rename_i hnone
    split_ifs with halloc hstore
    · exact ⟨.refl s, fun node h => by cases h⟩
    · refine ⟨same_set_empty hnone, fun node h => ?_⟩
      cases h
      exact ⟨rfl, fun p => empty_servers hnone p⟩
    · refine ⟨.refl s, fun node h => ?_⟩
      cases h
      exact ⟨rfl, fun p => empty_servers hnone p⟩

variable {alloc store : Bool}

lemma node_get_same {node : Option Node}
    (h : node_get s id alloc store = (s', node)) : Same s s' := by
  have hsame := (node_get_spec s id alloc store).1
  rwa [h] at hsame

lemma entry_of_node_get_none
    (h : node_get s id alloc store = (s', none)) (p : UInt32) : s.entry id p = none := by
  rw [node_get] at h
  split at h
  · cases h
  · rename_i hnone
    rw [State.entry, hnone]
    rfl

lemma mem_ports_of_node_get (h : node_get s id alloc store = (s', some node)) (p : UInt32) :
    p ∈ node.all.map Server.port ↔ s.entry id p ≠ none := by
  have hservers := ((node_get_spec s id alloc store).2 node (by rw [h])).2
  rw [List.mem_map, ← hservers, Option.ne_none_iff_exists']
  constructor
  · rintro ⟨srv, hmem, rfl⟩
    exact ⟨srv, Node.mem_all.mp hmem⟩
  · rintro ⟨srv, hsrv⟩
    have hport := (node.keyed p srv hsrv).2
    exact ⟨srv, Node.mem_all.mpr (by rwa [hport]), hport⟩

lemma node_get_isSome (s : State) (id : UInt32) :
    ((node_get s id true true).1.nodes[id]?).isSome := by
  rw [node_get]
  split
  · rename_i hnode
    rw [hnode]
    rfl
  · change ((s.nodes.insert id (Node.empty id))[id]?).isSome = true
    rw [getElem?_insert, if_pos rfl]
    rfl

lemma entry_update_store {n : UInt32} (hid : node.id = n)
    (hservers : ∀ q : UInt32, node.servers[q]? = s.entry n q) (service inst p n' p' : UInt32) :
    (s.update (node.store service inst p)).entry n' p' =
      if (n = n' ∧ p = p') ∧ (s.nodes[n]?).isSome then some ⟨service, inst, n, p⟩
      else s.entry n' p' := by
  subst hid
  change (if (s.nodes[node.id]?).isSome then _ else _ : State).entry n' p' = _
  by_cases hin : (s.nodes[node.id]?).isSome
  · rw [if_pos hin, entry_set_node]
    change (if node.id = n' then (node.servers.insert p _)[p']? else _) = _
    rw [getElem?_insert]
    by_cases hn : node.id = n'
    · subst hn
      simp [hin, hservers]
    · simp [hn]
  · rw [if_neg hin, if_neg fun h => hin h.2]

/-- **What `server_add` does.** -/
theorem server_add_cases (s : State) (service inst n p : UInt32) (luck : Luck) :
    (∃ s', Same s s' ∧ server_add s service inst n p luck = (s', none)) ∨
      ∃ (s' : State) (node : Node), Same s s' ∧ node.id = n ∧
        (∀ q : UInt32, node.servers[q]? = s'.entry n q) ∧
        s' = (node_get s n luck.node_alloc luck.node_store).1 ∧ service ≠ 0 ∧ p ≠ 0 ∧
        server_add s service inst n p luck =
          (s'.update (node.store service inst p), some ⟨service, inst, n, p⟩) := by
  obtain ⟨hsame, hnode⟩ := node_get_spec s n luck.node_alloc luck.node_store
  rw [server_add]
  by_cases hzero : service = 0 ∨ p = 0
  · rw [if_pos hzero]
    exact .inl ⟨s, .refl s, rfl⟩
  rw [if_neg hzero, not_or] at *
  cases luck.server_alloc with
  | false => exact .inl ⟨s, .refl s, rfl⟩
  | true =>
    rcases hget : node_get s n luck.node_alloc luck.node_store with ⟨s', _ | node⟩
    · rw [hget] at hsame
      exact .inl ⟨s', hsame, rfl⟩
    · rw [hget] at hsame hnode
      obtain ⟨hid, hservers⟩ := hnode node rfl
      cases luck.server_store with
      | false => exact .inl ⟨s', hsame, rfl⟩
      | true =>
        refine .inr ⟨s', node, hsame, hid, fun q => ?_, rfl, hzero.1, hzero.2, rfl⟩
        rw [hservers, hsame.entry]

lemma server_del_spec (s : State) (n p : UInt32) :
    (server_del s n p).state.lookups = s.lookups ∧
      (server_del s n p).state.local_node = s.local_node ∧
      ∀ n' p', (server_del s n p).state.entry n' p' =
        if n = n' ∧ p = p' then none else s.entry n' p' := by
  rw [server_del]
  split
  · rename_i hnone
    refine ⟨rfl, rfl, fun n' p' => ?_⟩
    split
    · rename_i h
      rw [← h.1, ← h.2]
      exact hnone
    · rfl
  · refine ⟨?_, ?_, entry_erase s n p⟩
    all_goals
      simp only [State.erase]
      split <;> rfl

lemma del_all_spec (s : State) (n : UInt32) (l : List Server) :
    (del_all s n l).state.lookups = s.lookups ∧
      (del_all s n l).state.local_node = s.local_node ∧
      ∀ n' p', (del_all s n l).state.entry n' p' =
        if n = n' ∧ p' ∈ l.map Server.port then none else s.entry n' p' := by
  induction l generalizing s with
  | nil => simp [del_all]
  | cons srv l ih =>
    obtain ⟨hlookups, hlocal, hentry⟩ := server_del_spec s n srv.port
    obtain ⟨ihlookups, ihlocal, ihentry⟩ := ih (server_del s n srv.port).state
    refine ⟨ihlookups.trans hlookups, ihlocal.trans hlocal, fun n' p' => ?_⟩
    rw [del_all]
    rw [ihentry, hentry]
    by_cases hn : n = n'
    · by_cases hp : p' = srv.port
      · simp [hn, hp]
      · simp [hn, hp, Ne.symm hp]
    · simp [hn]

lemma tell_local_spec (r : Reply) (luck : Luck) (pkt : CtrlPkt) :
    Same r.state (tell_local r luck pkt).state ∧
      ∃ to_servers : List Addr, (tell_local r luck pkt).out =
        r.out ++ to_servers.map fun sq => ⟨.one sq, pkt⟩ := by
  rw [tell_local]
  split
  · rename_i s' hget
    exact ⟨node_get_same hget, [], by simp⟩
  · rename_i s' node hget
    refine ⟨node_get_same hget, node.all.map fun srv => ⟨srv.node, srv.port⟩, ?_⟩
    rw [List.map_map]
    rfl

end KernelExtra.Qrtr.Ns
