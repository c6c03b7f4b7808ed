/-
What a message to the name service may change.

Every handler but one changes servers of the sender's own node only, and for a socket of the local
node only its server and its lookups. `ctrl_cmd_bye` has no check: any socket can send one, and it
takes the whole node with it.
-/
import KernelExtra.Qrtr.Ns

namespace KernelExtra.Qrtr.Ns

/-! ## Isolation -/

/-- **Isolation**: no server of a node other than the sender's has changed, and if the sender is a
local socket, no server and no lookup of anybody else. -/
def Isolated (s : State) (m : Msg) (s' : State) : Prop :=
  (∀ n p, n ≠ m.sq.sq_node → s'.entry n p = s.entry n p) ∧
    (m.sq.sq_node = s.local_node → m.sq.sq_port ≠ QRTR_PORT_CTRL →
      (∀ n p, (⟨n, p⟩ : Addr) ≠ m.sq → s'.entry n p = s.entry n p) ∧
        s'.lookups.filter (fun l => l.sq ≠ m.sq) = s.lookups.filter fun l => l.sq ≠ m.sq)

/-- A local socket says goodbye for its node, and there is a server on another port. -/
def SaysByeForOthers (s : State) (m : Msg) : Prop :=
  m.cmd = QRTR_TYPE_BYE ∧ m.sq.sq_node = s.local_node ∧ m.sq.sq_port ≠ QRTR_PORT_CTRL ∧
    ∃ p, p ≠ m.sq.sq_port ∧ s.entry m.sq.sq_node p ≠ none

/-! ## The handlers -/

/-- Only what belongs to the sender may have changed. -/
structure Confined (s : State) (sq : Addr) (s' : State) : Prop where
  entry : ∀ n p, n ≠ sq.sq_node ∨ (sq.sq_node = s.local_node ∧ p ≠ sq.sq_port) →
    s'.entry n p = s.entry n p
  lookups : sq.sq_node = s.local_node →
    s'.lookups.filter (fun l => l.sq ≠ sq) = s.lookups.filter fun l => l.sq ≠ sq

section

variable {s s' : State} {sq : Addr}

lemma Confined.of_same (h : Same s s') : Confined s sq s' :=
  ⟨fun n p _ => h.entry n p, fun _ => by rw [h.lookups]⟩

lemma Confined.trans_same {s'' : State} (h : Confined s sq s') (h' : Same s' s'') :
    Confined s sq s'' :=
  ⟨fun n p hn => (h'.entry n p).trans (h.entry n p hn), fun hl => by
    rw [h'.lookups]
    exact h.lookups hl⟩

lemma Confined.isolated {m : Msg} (h : Confined s m.sq s') : Isolated s m s' := by
  refine ⟨fun n p hn => h.entry n p (.inl hn), fun hlocal _ =>
    ⟨fun n p hne => ?_, h.lookups hlocal⟩⟩
  apply h.entry
  by_contra hboth
  rw [not_or, not_not, not_and, not_not] at hboth
  apply hne
  rw [hboth.1, hboth.2 hlocal]

lemma Confined.of_entry {n p : UInt32} (hlookups : s'.lookups = s.lookups)
    (hn : sq.sq_node = n) (hp : sq.sq_node = s.local_node → sq.sq_port = p)
    (hentry : ∀ n' p', (n, p) ≠ (n', p') → s'.entry n' p' = s.entry n' p') :
    Confined s sq s' := by
  refine ⟨fun n' p' h => hentry n' p' ?_, fun _ => by rw [hlookups]⟩
  rintro heq
  cases heq
  rcases h with hne | ⟨hlocal, hne⟩
  · exact hne hn.symm
  · exact hne (hp hlocal).symm

end

variable (s : State) (sq : Addr)

lemma server_del_confined {n p : UInt32} (hn : sq.sq_node = n)
    (hp : sq.sq_node = s.local_node → sq.sq_port = p) :
    Confined s sq (server_del s n p).state := by
  obtain ⟨hlookups, -, hentry⟩ := server_del_spec s n p
  refine .of_entry hlookups hn hp fun n' p' hne => ?_
  rw [hentry, if_neg]
  rintro ⟨rfl, rfl⟩
  exact hne rfl

lemma server_del_confined_of_same {s : State} {sq : Addr} {s' : State} {n p : UInt32}
    (h : Same s s') (hn : sq.sq_node = n) (hp : sq.sq_node = s.local_node → sq.sq_port = p) :
    Confined s sq (server_del s' n p).state := by
  have hdel := server_del_confined s' sq hn (by rwa [h.local_node])
  refine ⟨fun n p hcase => ?_, fun hlocal => ?_⟩
  · rw [hdel.entry n p (by rwa [h.local_node]), h.entry]
  · rw [hdel.lookups (by rwa [h.local_node]), h.lookups]

lemma hello_confined (luck : Luck) : Confined s sq (ctrl_cmd_hello s sq luck).state := by
  have hstate : (ctrl_cmd_hello s sq luck).state = s := by
    rw [ctrl_cmd_hello]
    split <;> rfl
  rw [hstate]
  exact .of_same (.refl s)

lemma del_client_confined (node_id port : UInt32) (luck : Luck) :
    Confined s sq (ctrl_cmd_del_client s sq node_id port luck).state := by
  rw [ctrl_cmd_del_client]
  split_ifs with hnode hport
  · exact .of_same (.refl s)
  · exact .of_same (.refl s)
  · rw [not_not] at hnode
    rw [not_and, not_not] at hport
    subst hnode
    refine Confined.trans_same ?_ (tell_local_spec _ luck _).1
    -- its lookups go first
    have hkeep : ∀ s' : State,
        Confined { s with lookups := s.lookups.filter fun l => l.sq ≠ ⟨sq.sq_node, port⟩ } sq s' →
        Confined s sq s' := by
      intro s' h
      refine ⟨h.entry, fun hlocal => ?_⟩
      rw [h.lookups hlocal, List.filter_filter]
      congr 1
      funext l
      have hsq : sq = ⟨sq.sq_node, port⟩ := by rw [← hport hlocal]
      rw [← hsq, Bool.and_self]
    apply hkeep
    split
    · rename_i s' hget
      exact .of_same (node_get_same hget)
    · rename_i s' node hget
      exact server_del_confined_of_same (node_get_same hget) rfl hport

lemma sender_or_payload (node_id port : UInt32) :
    sq.sq_node = s.local_node →
      sq.sq_port =
        (if sq.sq_node = s.local_node then (sq.sq_node, sq.sq_port) else (node_id, port)).2 := by
  intro hlocal
  rw [if_pos hlocal]

lemma new_server_confined (service inst node_id port : UInt32) (luck : Luck) :
    Confined s sq (ctrl_cmd_new_server s sq service inst node_id port luck).state := by
  have hport := sender_or_payload s sq node_id port
  rw [ctrl_cmd_new_server]
  generalize (if sq.sq_node = s.local_node then (sq.sq_node, sq.sq_port) else (node_id, port)) =
    key at *
  obtain ⟨n, p⟩ := key
  dsimp only at hport ⊢
  by_cases hnode : sq.sq_node = n
  · rw [if_neg (not_not.mpr hnode)]
    rcases server_add_cases s service inst n p luck with
      ⟨s', hsame, heq⟩ | ⟨s', node, hsame, hid, hservers, -, -, -, heq⟩
    · rw [heq]
      exact .of_same hsame
    · rw [heq]
      have hadd : Confined s sq (s'.update (node.store service inst p)) := by
        refine .of_entry ((update_lookups ..).trans hsame.lookups) hnode hport fun n' p' hne => ?_
        rw [entry_update_store hid hservers, if_neg, hsame.entry]
        rintro ⟨⟨rfl, rfl⟩, -⟩
        exact hne rfl
      dsimp only
      split_ifs <;> exact hadd
  · rw [if_pos hnode]
    exact .of_same (.refl s)

lemma del_server_confined (node_id port : UInt32) (luck : Luck) :
    Confined s sq (ctrl_cmd_del_server s sq node_id port luck).state := by
  have hport := sender_or_payload s sq node_id port
  rw [ctrl_cmd_del_server]
  generalize (if sq.sq_node = s.local_node then (sq.sq_node, sq.sq_port) else (node_id, port)) =
    key at *
  dsimp only at hport ⊢
  split_ifs with hnode
  · exact .of_same (.refl s)
  · exact .of_same (.refl s)
  · rw [not_not] at hnode
    split
    · rename_i s' hget
      exact .of_same (node_get_same hget)
    · rename_i s' node hget
      exact server_del_confined_of_same (node_get_same hget) hnode hport

lemma new_lookup_confined (service inst : UInt32) (luck : Luck) :
    Confined s sq (ctrl_cmd_new_lookup s sq service inst luck).state := by
  rw [ctrl_cmd_new_lookup]
  split_ifs
  · exact .of_same (.refl s)
  · exact .of_same (.refl s)
  · refine ⟨fun _ _ _ => rfl, fun _ => ?_⟩
    simp

lemma del_lookup_confined (service inst : UInt32) :
    Confined s sq (ctrl_cmd_del_lookup s sq service inst).state := by
  refine ⟨fun _ _ _ => rfl, fun _ => ?_⟩
  rw [ctrl_cmd_del_lookup]
  rw [List.filter_filter]
  congr 1
  funext l
  by_cases h : l.sq = sq <;> simp [h]

/-- **`ctrl_cmd_bye` takes all servers of the sender's node**, and nothing else. -/
theorem bye_spec (luck : Luck) :
    (ctrl_cmd_bye s sq luck).state.lookups = s.lookups ∧
      ∀ n p, (ctrl_cmd_bye s sq luck).state.entry n p =
        if sq.sq_node = n then none else s.entry n p := by
  rw [ctrl_cmd_bye]
  split
  · rename_i s' hget
    have hsame := node_get_same hget
    refine ⟨hsame.lookups, fun n p => ?_⟩
    rw [hsame.entry]
    split
    · rename_i hn
      rw [← hn, entry_of_node_get_none hget]
    · rfl
  · rename_i s' node hget
    have hsame := node_get_same hget
    obtain ⟨hlookups, -, hentry⟩ := del_all_spec s' sq.sq_node node.all
    have htell := (tell_local_spec (del_all s' sq.sq_node node.all) luck (.bye sq.sq_node)).1
    refine ⟨htell.lookups.trans (hlookups.trans hsame.lookups), fun n p => ?_⟩
    rw [htell.entry, hentry, hsame.entry]
    simp only [mem_ports_of_node_get hget]
    by_cases hn : sq.sq_node = n
    · subst hn
      by_cases hp : s.entry sq.sq_node p = none <;> simp [hp]
    · rw [if_neg fun h => hn h.1, if_neg hn]

/-! ## All messages -/

theorem worker_confined (m : Msg) (luck : Luck) (hbye : m.cmd ≠ QRTR_TYPE_BYE) :
    Confined s m.sq (qrtr_ns_worker s m luck).state := by
  rw [qrtr_ns_worker, if_neg hbye]
  split_ifs
  · exact hello_confined s m.sq luck
  · exact del_client_confined s m.sq (m.word 0) (m.word 1) luck
  · exact new_server_confined s m.sq _ _ _ _ luck
  · exact del_server_confined s m.sq _ _ luck
  · exact new_lookup_confined s m.sq _ _ luck
  · exact del_lookup_confined s m.sq _ _
  · exact .of_same (.refl s)

lemma bye_isolated_iff (m : Msg) (luck : Luck) (hbye : m.cmd = QRTR_TYPE_BYE) :
    Isolated s m (ctrl_cmd_bye s m.sq luck).state ↔ ¬SaysByeForOthers s m := by
  obtain ⟨hlookups, hentry⟩ := bye_spec s m.sq luck
  simp only [Isolated, hlookups, hentry]
  constructor
  · rintro ⟨-, hlocal⟩ ⟨-, hnode, hport, p, hp, hsome⟩
    have h := (hlocal hnode hport).1 m.sq.sq_node p fun heq => hp (congrArg Addr.sq_port heq)
    rw [if_pos rfl] at h
    exact hsome h.symm
  · intro hnot
    refine ⟨fun n p hn => if_neg hn.symm, fun hnode hport => ⟨fun n p hne => ?_, trivial⟩⟩
    split
    · rename_i hn
      by_contra hsome
      refine hnot ⟨hbye, hnode, hport, p, fun hp => hne ?_, fun h => hsome ?_⟩
      · rw [← hn, hp]
      · rw [← hn, h]
    · rfl

/-- **Handling a message changes only what belongs to its sender, exactly when it is not a
goodbye** that a local socket says for the servers of other sockets. -/
theorem ns_isolated_iff (s : State) (m : Msg) (luck : Luck) :
    Isolated s m (qrtr_ns_worker s m luck).state ↔ ¬SaysByeForOthers s m := by
  by_cases hbye : m.cmd = QRTR_TYPE_BYE
  · have hworker : qrtr_ns_worker s m luck = ctrl_cmd_bye s m.sq luck := by
      rw [qrtr_ns_worker, hbye]
      rfl
    rw [hworker]
    exact bye_isolated_iff s m luck hbye
  · exact iff_of_true (worker_confined s m luck hbye).isolated fun h => hbye h.1

def one_server : State :=
  (qrtr_ns_worker (.start 1) ⟨⟨1, 5⟩, QRTR_TYPE_NEW_SERVER, ![7, 0, 0, 0]⟩ .good).state

theorem ns_not_isolated :
    ¬Isolated one_server ⟨⟨1, 6⟩, QRTR_TYPE_BYE, fun _ => 0⟩
      (qrtr_ns_worker one_server ⟨⟨1, 6⟩, QRTR_TYPE_BYE, fun _ => 0⟩ .good).state := by
  intro h
  have hlost := (h.2 (by decide +kernel) (by decide)).1 1 5 (by decide)
  revert hlost
  decide +kernel

end KernelExtra.Qrtr.Ns
