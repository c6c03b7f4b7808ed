/-
Is reassembly memory safe?

For notifications it is, as long as their handler is there (`Inv.notif`). For replies it is not:
their buffer is sized with the longer header of a reply, their size is checked against the shorter
one, and nothing ties a message to the life of its connection.
-/
import KernelExtra.Haven.Rm
import KernelExtra.Lib.Run

namespace KernelExtra.Haven

open Run (exec Ok)
open Nat

/-! ## Careful steps -/

/-- There is room for a continuation of a reply. -/
def Conn.Room (connection : Conn) (m : Msg) : Prop :=
  connection.recv_buff ≠ none ∧ connection.received.length + m.body.length ≤
    reserve sizeof_reply_hdr connection.num_fragments

/-- The connection has not been freed, a reply is as long as its header, and a continuation of a
reply finds room. What frees a connection that somebody still points to is a step of its owner
(`freed_by_owner`), and a notification that gets no buffer. -/
def Careful (s : Rm) : Act → Prop
  | .go _ =>
    match s.work with
    | .idle => True
    | .found c m => ∃ connection ∈ s.conns.cell c,
        connection.seq = m.seq ∧ connection.msg_id = m.msg_id → sizeof_reply_hdr ≤ m.size
    | .cont c m => ∃ connection ∈ s.conns.cell c,
        connection.owner.is_notif = false → connection.num_fragments = m.fragments →
          connection.Room m
    | .matched c _ => s.conns.cell c ≠ none
    | .filled c _ => s.conns.cell c ≠ none
    | .copied c => s.conns.cell c ≠ none
    | .closing c => s.conns.cell c ≠ none
  | _ => True

section Freed

variable {s : Rm} {c : ℕ} (hcell : s.conns.cell c ≠ none)
include hcell

lemma put_ne_none (a : ℕ) (v : Conn) : (s.conns.put a v).cell c ≠ none := by
  change (if c = a then (s.conns.cell a).map fun _ => v else s.conns.cell c) ≠ none
  split
  · rename_i heq
    simpa [← heq] using hcell
  · exact hcell

lemma go_ne_none (luck : Luck) : (s.go luck).conns.cell c ≠ none := by
  unfold Rm.go
  cases s.work <;> simp only [rply_match, rply_fill, rply_finish, cont_copy, cont_count,
    complete_connection, Rm.deref] <;> repeat' split
  all_goals first | exact hcell | exact put_ne_none hcell _ _

lemma message_ne_none (m : Msg) (luck : Luck) :
    (hh_rm_process_recv_work s m luck).conns.cell c ≠ none := by
  have hnext : c ≠ s.conns.next := by
    rintro rfl
    exact hcell (s.conns.fresh _ le_rfl)
  simp only [hh_rm_process_recv_work, hh_rm_process_notif, hh_rm_wait_for_notif_fragments,
    hh_rm_process_rply, hh_rm_process_cont, Rm.check_and_call, Rm.report]
  repeat' split
  all_goals simp [hcell, hnext]

/-- **Who leaves a stale pointer**: a connection that is there goes away only when its owner
returns, from sending it or from waiting for it. -/
theorem freed_by_owner {a : Act} (hgone : (s.step a).conns.cell c = none) :
    a = .sent c false ∨ a = .woken c ∨ a = .interrupted c := by
  have hnext : c ≠ s.conns.next := by
    rintro rfl
    exact hcell (s.conns.fresh _ le_rfl)
  cases a with
  | call message_id luck =>
    refine absurd hgone ?_
    simp only [Rm.step, hh_rm_call]
    repeat' split
    all_goals simp [hcell, hnext]
  | sent c' ok =>
    by_cases hc : c' = c ∧ ok = false
    · exact .inl (by rw [hc.1, hc.2])
    · refine absurd hgone ?_
      simp only [Rm.step, Rm.sent]
      repeat' split
      · exact hcell
      · exact put_ne_none hcell _ _
      · rename_i hok
        rw [Heap.cell_free, if_neg fun heq => hc ⟨heq.symm, Bool.eq_false_iff.mpr hok⟩]
        exact hcell
      · exact hcell
  | woken c' =>
    by_cases hc : c' = c
    · exact .inr (.inl (congrArg _ hc))
    · refine absurd hgone ?_
      simp only [Rm.step, Rm.woken, Rm.check_and_call]
      repeat' split
      all_goals simp [hcell, Ne.symm hc]
  | interrupted c' =>
    by_cases hc : c' = c
    · exact .inr (.inr (congrArg _ hc))
    · refine absurd hgone ?_
      simp only [Rm.step, Rm.interrupted]
      repeat' split
      all_goals simp [hcell, Ne.symm hc]
  | message m luck =>
    refine absurd hgone ?_
    simp only [Rm.step]
    split
    · exact message_ne_none hcell m luck
    · exact hcell
  | go luck => exact absurd hgone (go_ne_none hcell luck)

end Freed

/-! ## The invariant -/

/-- The buffer of a notification is as large as announced, and fragments are missing. -/
def Conn.Filling (connection : Conn) (n : ℕ) : Prop :=
  connection.recv_buff = some (reserve sizeof_hdr connection.num_fragments) ∧
    connection.fragments_received.toNat < connection.num_fragments.toNat ∧
    connection.received.length ≤
      (HH_MSGQ_MAX_MSG_SIZE_BYTES - sizeof_hdr) * (connection.fragments_received.toNat + n)

def Work.Expects (connection : Conn) : Work → Prop
  | .copied _ => connection.Filling 2
  | .closing _ => True
  | _ => connection.Filling 1

def Rm.OfCaller (s : Rm) (c : ℕ) : Prop :=
  c < s.conns.next ∧
    ∀ connection, s.conns.cell c = some connection → connection.owner.is_notif = false

def Rm.WorkOk (s : Rm) : Prop :=
  match s.work with
  | .idle => True
  | .found c _ => s.OfCaller c
  | .matched c m => s.curr_connection = some c ∧ s.OfCaller c ∧ sizeof_reply_hdr ≤ m.size
  | .filled c _ => s.curr_connection = some c
  | .cont c _ => s.curr_connection = some c
  | .copied c => s.curr_connection = some c
  | .closing c => s.curr_connection = some c

/-- **The invariant.** Connections may be freed at any time; it only speaks of those that
are still there. -/
structure Inv (s : Rm) : Prop where
  safe : s.faults = []
  buff : ∀ c connection size, s.conns.cell c = some connection →
    connection.owner.is_notif = false → connection.recv_buff = some size →
      size = reserve sizeof_reply_hdr connection.num_fragments
  notif : ∀ c connection, s.curr_connection = some c → s.conns.cell c = some connection →
    connection.owner.is_notif = true → s.work.Expects connection
  idr : ∀ id c, s.idr.entry id = some c → s.OfCaller c
  curr_lt : ∀ c, s.curr_connection = some c → c < s.conns.next
  work : s.WorkOk

lemma inv_start : Inv .start where
  safe := rfl
  buff _ _ _ h := by cases h
  notif _ _ h := by cases h
  idr _ _ h := by cases h
  curr_lt _ h := by cases h
  work := trivial

/-! ## Callers -/

/-- What a caller's step leaves alone in a connection. -/
structure Conn.Agrees (connection connection' : Conn) : Prop where
  owner : connection'.owner.is_notif = connection.owner.is_notif
  recv_buff : connection'.recv_buff = connection.recv_buff
  received : connection'.received = connection.received
  num_fragments : connection'.num_fragments = connection.num_fragments
  fragments_received : connection'.fragments_received = connection.fragments_received

lemma Conn.Agrees.refl (connection : Conn) : connection.Agrees connection :=
  ⟨rfl, rfl, rfl, rfl, rfl⟩

/-- What a caller's step leaves alone. -/
structure Evolves (s s' : Rm) : Prop where
  next : s.conns.next ≤ s'.conns.next
  cell : ∀ c connection', s'.conns.cell c = some connection' →
    (∃ connection, s.conns.cell c = some connection ∧ connection.Agrees connection') ∨
      (s.conns.next ≤ c ∧ connection'.owner.is_notif = false ∧ connection'.recv_buff = none)
  idr : ∀ id c, s'.idr.entry id = some c → s.idr.entry id = some c ∨ s'.OfCaller c

section Evolves

variable {s s' : Rm}

lemma Evolves.ofCaller (h : Evolves s s') {c : ℕ} (hc : s.OfCaller c) : s'.OfCaller c := by
  refine ⟨lt_of_lt_of_le hc.1 h.next, fun connection' hcell => ?_⟩
  rcases h.cell c connection' hcell with ⟨connection, hold, hagrees⟩ | ⟨hnew, -⟩
  · rw [hagrees.owner]
    exact hc.2 connection hold
  · exact absurd hc.1 (not_lt.mpr hnew)

variable {connection connection' : Conn}

lemma Conn.Agrees.filling (h : connection.Agrees connection')
    {n : ℕ} (hf : connection.Filling n) : connection'.Filling n := by
  rw [Conn.Filling, h.recv_buff, h.num_fragments, h.fragments_received, h.received]
  exact hf

lemma Conn.Agrees.expects (h : connection.Agrees connection')
    {work : Work} (hf : work.Expects connection) : work.Expects connection' := by
  cases work with
  | closing c => trivial
  | idle => exact h.filling hf
  | found c m => exact h.filling hf
  | matched c m => exact h.filling hf
  | filled c m => exact h.filling hf
  | cont c m => exact h.filling hf
  | copied c => exact h.filling hf

lemma Inv.evolve (h : Inv s) (he : Evolves s s') (hfaults : s'.faults = s.faults)
    (hcurr : s'.curr_connection = s.curr_connection) (hwork : s'.work = s.work) : Inv s' where
  safe := hfaults.trans h.safe
  buff c connection' size hcell howner hbuff := by
    rcases he.cell c connection' hcell with ⟨connection, hold, hagrees⟩ | ⟨-, -, hnone⟩
    · rw [hagrees.num_fragments]
      exact h.buff c connection size hold (hagrees.owner ▸ howner) (hagrees.recv_buff ▸ hbuff)
    · rw [hnone] at hbuff
      cases hbuff
  notif c connection' hc hcell howner := by
    rcases he.cell c connection' hcell with ⟨connection, hold, hagrees⟩ | ⟨-, hcaller, -⟩
    · rw [hwork]
      exact hagrees.expects (h.notif c connection (hcurr ▸ hc) hold (hagrees.owner ▸ howner))
    · rw [hcaller] at howner
      cases howner
  idr id c hentry := by
    rcases he.idr id c hentry with hold | hnew
    · exact he.ofCaller (h.idr id c hold)
    · exact hnew
  curr_lt c hc := lt_of_lt_of_le (h.curr_lt c (hcurr ▸ hc)) he.next
  work := by
    have hold := h.work
    rw [Rm.WorkOk] at hold ⊢
    rw [hwork, hcurr]
    generalize s.work = work at hold ⊢
    cases work with
    | idle => trivial
    | found c m => exact he.ofCaller hold
    | matched c m => exact ⟨hold.1, he.ofCaller hold.2.1, hold.2.2⟩
    | filled c m => exact hold
    | cont c m => exact hold
    | copied c => exact hold
    | closing c => exact hold

lemma evolves_free (s : Rm) (c : ℕ) : Evolves s { s with conns := s.conns.free c } where
  next := le_rfl
  cell _ connection hcell := .inl ⟨connection, Heap.of_cell_free hcell, .refl _⟩
  idr _ _ hentry := .inl hentry

lemma evolves_put {c : ℕ}
    (hcell : s.conns.cell c = some connection) (h : connection.Agrees connection') :
    Evolves s { s with conns := s.conns.put c connection' } where
  next := le_rfl
  cell c' connection'' hcell' := by
    rw [Heap.cell_put hcell] at hcell'
    split at hcell'
    · rename_i heq
      cases hcell'
      exact .inl ⟨connection, heq ▸ hcell, h⟩
    · exact .inl ⟨connection'', hcell', .refl _⟩
  idr _ _ hentry := .inl hentry

lemma alloc_cyclic_entry {idr : Idr} {ptr : ℕ} {alloc : Bool} {id c : ℕ}
    (h : (idr.alloc_cyclic ptr alloc).1.entry id = some c) :
    idr.entry id = some c ∨ c = ptr := by
  rw [Idr.alloc_cyclic] at h
  split at h
  · exact .inl h
  · dsimp only at h
    split at h
    · exact .inl h
    · change (if id = _ then some ptr else idr.entry id) = some c at h
      split at h
      · cases h
        exact .inr rfl
      · exact .inl h

variable (h : Inv s)
include h

lemma call_inv (message_id : UInt32) (luck : Luck) : Inv (hh_rm_call s message_id luck) := by
  rw [hh_rm_call]
  split_ifs
  · exact h
  · exact h
  · exact h
  · refine h.evolve ⟨le_succ _, fun c connection hcell => ?_, fun id c hentry => ?_⟩ rfl rfl rfl
    · change (if c = s.conns.next then _ else _) = some connection at hcell
      split at hcell
      · rename_i heq
        cases hcell
        exact .inr ⟨heq.ge, rfl, rfl⟩
      · exact .inl ⟨connection, hcell, .refl _⟩
    · rcases alloc_cyclic_entry hentry with hold | rfl
      · exact .inl hold
      · refine .inr ⟨lt_succ_self _, fun connection hcell => ?_⟩
        change (if s.conns.next = s.conns.next then _ else _) = some connection at hcell
        rw [if_pos rfl] at hcell
        cases hcell
        rfl

lemma sent_inv (c : ℕ) (ok : Bool) : Inv (s.sent c ok) := by
  rw [Rm.sent]
  split
  · exact h
  · rename_i connection hcell
    split
    · rename_i howner
      split
      · exact h.evolve (evolves_put hcell ⟨by rw [howner]; rfl, rfl, rfl, rfl, rfl⟩) rfl rfl rfl
      · exact h.evolve (evolves_free s c) rfl rfl rfl
    · exact h

lemma interrupted_inv (c : ℕ) : Inv (s.interrupted c) := by
  rw [Rm.interrupted]
  split
  · exact h
  · split
    · exact h
    · split
      · exact h
      · exact h.evolve (evolves_free s c) rfl rfl rfl

lemma check_and_call_inv (m : Msg) (payload : List UInt8) (size : ℕ) :
    Inv (s.check_and_call m payload size) := by
  rw [Rm.check_and_call]
  split
  · exact h
  · split
    · exact ⟨h.safe, h.buff, h.notif, h.idr, h.curr_lt, h.work⟩
    · exact h

lemma woken_inv (c : ℕ) : Inv (s.woken c) := by
  rw [Rm.woken]
  split
  · exact h
  · split
    · exact h
    · split
      · exact h
      · split
        · exact h.evolve (evolves_free s c) rfl rfl rfl
        · refine h.evolve ⟨le_rfl, (evolves_free s c).cell, fun id c' hentry => .inl ?_⟩ rfl rfl rfl
          change (if id = _ then none else s.idr.entry id) = some c' at hentry
          split at hentry
          · cases hentry
          · exact hentry
      · exact check_and_call_inv (h.evolve (evolves_free s c) rfl rfl rfl) ..

end Evolves

/-! ## Messages -/

section Messages

variable {s : Rm} {c : ℕ} {connection : Conn} {m : Msg} {luck : Luck}

lemma report_faults (s : Rm) (f : Fault) : (s.report f).faults ≠ [] :=
  List.append_ne_nil_of_right_ne_nil _ (List.cons_ne_nil f [])

section

variable (h : Inv s)
include h

lemma Inv.set_work (work : Work)
    (hexpects : ∀ connection, s.work.Expects connection → work.Expects connection)
    (hok : Rm.WorkOk { s with work := work }) : Inv { s with work := work } where
  safe := h.safe
  buff := h.buff
  notif c connection hcurr hcell howner := hexpects _ (h.notif c connection hcurr hcell howner)
  idr := h.idr
  curr_lt := h.curr_lt
  work := hok

lemma Inv.put (hcurr : s.curr_connection = some c)
    (hcell : s.conns.cell c = some connection) (connection' : Conn) (curr : Option ℕ)
    (work : Work) (howner : connection'.owner = connection.owner)
    (hbuff : connection.owner.is_notif = false → ∀ size, connection'.recv_buff = some size →
      size = reserve sizeof_reply_hdr connection'.num_fragments)
    (hnext : curr = none ∨ curr = some c)
    (hnotif : curr = some c → connection.owner.is_notif = true → work.Expects connection')
    (hok : Rm.WorkOk { s with
      conns := s.conns.put c connection', curr_connection := curr, work := work }) :
    Inv { s with
      conns := s.conns.put c connection', curr_connection := curr, work := work } where
  safe := h.safe
  buff c' connection'' size hcell' howner' hsize := by
    rw [Heap.cell_put hcell] at hcell'
    split at hcell'
    · cases hcell'
      exact hbuff (howner ▸ howner') size hsize
    · exact h.buff c' connection'' size hcell' howner' hsize
  notif c' connection'' hcurr' hcell' howner' := by
    have heq : curr = some c ∧ c' = c := by
      rcases hnext with hnone | hsame
      · rw [hnone] at hcurr'
        cases hcurr'
      · rw [hsame, Option.some_inj] at hcurr'
        exact ⟨hsame, hcurr'.symm⟩
    rw [Heap.cell_put hcell, if_pos heq.2] at hcell'
    cases hcell'
    exact hnotif heq.1 (howner ▸ howner')
  idr id c' hentry := by
    refine ⟨(h.idr id c' hentry).1, fun connection'' hcell' => ?_⟩
    rw [Heap.cell_put hcell] at hcell'
    split at hcell'
    · rename_i heq
      cases hcell'
      rw [howner]
      exact (h.idr id c' hentry).2 connection (heq ▸ hcell)
    · exact (h.idr id c' hentry).2 connection'' hcell'
  curr_lt c' hc' := by
    rcases hnext with hnone | hsame
    · rw [hnone] at hc'
      cases hc'
    · rw [hsame, Option.some_inj] at hc'
      exact hc' ▸ h.curr_lt c hcurr
  work := hok

section

variable (hidle : s.work = .idle)
include hidle

lemma Inv.add_notif (conns : Heap Conn) (hnext : conns.next = s.conns.next + 1)
    (hcell : ∀ c connection, conns.cell c = some connection → s.conns.cell c = some connection ∨
      (c = s.conns.next ∧ connection.owner.is_notif = true ∧ connection.Filling 1)) :
    Inv { s with conns := conns, curr_connection := some s.conns.next } where
  safe := h.safe
  buff c connection size hc howner := by
    rcases hcell c connection hc with hold | ⟨-, hnotif, -⟩
    · exact h.buff c connection size hold howner
    · rw [hnotif] at howner
      cases howner
  notif c connection hcurr hc howner := by
    rw [hidle]
    cases hcurr
    rcases hcell _ connection hc with hold | ⟨-, -, hfilling⟩
    · exact absurd (Heap.lt_next hold) (lt_irrefl _)
    · exact hfilling
  idr id c hentry := by
    obtain ⟨hlt, hcaller⟩ := h.idr id c hentry
    refine ⟨hnext ▸ lt_succ_of_lt hlt, fun connection hc => ?_⟩
    rcases hcell c connection hc with hold | ⟨hnew, -⟩
    · exact hcaller connection hold
    · exact absurd hnew (Nat.ne_of_lt hlt)
  curr_lt c hcurr := by
    cases hcurr
    rw [hnext]
    exact lt_succ_self _
  work := by
    rw [Rm.WorkOk, hidle]
    trivial

lemma wait_inv (hfrag : m.fragments ≠ 0) (luck : Luck) :
    Inv (hh_rm_wait_for_notif_fragments s m luck) := by
  rw [wait_eq]
  cases luck.conn_alloc with
  | false => exact h
  | true =>
    cases luck.buff_alloc with
    | false =>
      refine h.add_notif hidle _ rfl fun c connection hc => .inl ?_
      rw [Heap.cell_free, Heap.cell_alloc] at hc
      split at hc
      · cases hc
      · exact hc
    | true =>
      refine h.add_notif hidle _ rfl fun c connection hc => ?_
      rw [Heap.cell_alloc] at hc
      split at hc
      · rename_i heq
        cases hc
        refine .inr ⟨heq, rfl, rfl, ?_, ?_⟩
        · exact pos_of_ne_zero fun hzero => hfrag (BitVec.eq_of_toNat_eq hzero)
        · exact m.body_le.trans (Nat.le_mul_of_pos_right _ (succ_pos _))
      · exact .inl hc

lemma notif_inv (m : Msg) (luck : Luck) : Inv (hh_rm_process_notif s m luck) := by
  rw [hh_rm_process_notif]
  split_ifs with hcurr hfrag
  · exact h
  · exact wait_inv h hidle hfrag luck
  · exact check_and_call_inv h m _ _

lemma rply_inv (m : Msg) (luck : Luck) : Inv (hh_rm_process_rply s m luck) := by
  rw [hh_rm_process_rply]
  split_ifs
  · exact h
  · exact h
  · split
    · exact h
    · rename_i c hentry
      exact h.set_work _ (fun connection he => by rwa [hidle] at he) (h.idr _ c hentry)

lemma cont_inv (m : Msg) : Inv (hh_rm_process_cont s m) := by
  rw [hh_rm_process_cont]
  split
  · exact h
  · rename_i c hcurr
    exact h.set_work _ (fun connection he => by rwa [hidle] at he) hcurr

end

lemma message_inv (m : Msg) (luck : Luck) : Inv (s.step (.message m luck)) := by
  rw [Rm.step]
  split
  · rename_i hidle
    rw [hh_rm_process_recv_work]
    split
    · exact notif_inv h hidle m luck
    · exact rply_inv h hidle m luck
    · exact cont_inv h hidle m
    · exact h
  · exact h

end

theorem Conn.Filling.room (h : connection.Filling 1) (m : Msg) :
    connection.received.length + m.body.length ≤ reserve sizeof_hdr connection.num_fragments := by
  exact room_for_next h.2.1 h.2.2 m

/-! ### The steps of a reply -/

section

variable (h : Inv s) (hcell : s.conns.cell c = some connection)
include h hcell

theorem rply_match_inv (hwork : s.work = .found c m)
    (hlong : connection.seq = m.seq ∧ connection.msg_id = m.msg_id → sizeof_reply_hdr ≤ m.size) :
    Inv (rply_match s c m) := by
  have hok := h.work
  rw [Rm.WorkOk, hwork] at hok
  rw [rply_match, deref_some hcell]
  split_ifs with hother hshort
  · exact h.set_work _ (fun connection he => by rwa [hwork] at he) trivial
  · rw [not_or, not_not, not_not] at hother
    exact absurd hshort (not_lt.mpr (hlong hother))
  · refine ⟨h.safe, h.buff, fun c' connection' hcurr hcell' howner => ?_, h.idr, fun c' hcurr => ?_,
      rfl, hok, not_lt.mp hshort⟩
    · cases hcurr
      rw [hok.2 connection' hcell'] at howner
      cases howner
    · cases hcurr
      exact hok.1

lemma rply_fill_inv (hwork : s.work = .matched c m) (luck : Luck) : Inv (rply_fill s c m luck) := by
  have hok := h.work
  rw [Rm.WorkOk, hwork] at hok
  obtain ⟨hcurr, hcaller, hlong⟩ := hok
  have howner := hcaller.2 connection hcell
  have hnotif : ∀ {p : Prop}, connection.owner.is_notif = true → p := fun hn => by
    rw [howner] at hn
    cases hn
  have hsize : size_sub m.size sizeof_reply_hdr = m.size - sizeof_reply_hdr :=
    if_pos hlong
  rw [rply_fill, deref_some hcell, hh_rm_init_connection_buff]
  split_ifs with hzero halloc hbig
  · exact h.put hcurr hcell connection _ _ rfl (fun _ size => h.buff c connection size hcell howner)
      (.inr hcurr) (fun _ hn => hnotif hn) hcurr
  · exact h.put hcurr hcell _ _ _ rfl (fun _ size hsome => by cases hsome) (.inr hcurr)
      (fun _ hn => hnotif hn) trivial
  · -- a message that is long enough fits
    have hle : m.size - sizeof_reply_hdr ≤ reserve sizeof_reply_hdr m.fragments :=
      (Nat.sub_le_sub_right m.fits _).trans (Nat.le_mul_of_pos_right _ (succ_pos _))
    rw [hsize] at hbig
    exact absurd hle (not_le.mpr hbig)
  · exact h.put hcurr hcell _ _ _ rfl (fun _ size hsome => (Option.some_inj.mp hsome).symm)
      (.inr hcurr) (fun _ hn => hnotif hn) hcurr

lemma rply_finish_inv (hwork : s.work = .filled c m) : Inv (rply_finish s c m) := by
  have hcurr := h.work
  rw [Rm.WorkOk, hwork] at hcurr
  rw [rply_finish, deref_some hcell]
  refine h.put hcurr hcell _ _ _ rfl (fun howner size => h.buff c connection size hcell howner)
    (.inr hcurr) (fun _ howner => ?_) ?_
  · have hold := h.notif c connection hcurr hcell howner
    rw [hwork] at hold
    split
    · trivial
    · exact hold
  · split
    · exact hcurr
    · trivial

/-! ### The steps of a continuation -/

lemma cont_copy_inv (hwork : s.work = .cont c m)
    (hroom : connection.owner.is_notif = false → connection.num_fragments = m.fragments →
      connection.Room m) : Inv (cont_copy s c m) := by
  have hcurr := h.work
  rw [Rm.WorkOk, hwork] at hcurr
  have hexpects := h.notif c connection hcurr hcell
  rw [hwork] at hexpects
  by_cases hfrag : connection.num_fragments = m.fragments
  · -- either way there is a buffer, and the fragment fits
    obtain ⟨size, hsize, hle⟩ : ∃ size, connection.recv_buff = some size ∧
        connection.received.length + m.body.length ≤ size := by
      cases howner : connection.owner.is_notif with
      | true => exact ⟨_, (hexpects howner).1, (hexpects howner).room m⟩
      | false =>
        obtain ⟨hsome, hle⟩ := hroom howner hfrag
        obtain ⟨size, hsize⟩ := Option.ne_none_iff_exists'.mp hsome
        exact ⟨size, hsize, h.buff c connection size hcell howner hsize ▸ hle⟩
    rw [cont_copy_eq hcell hfrag hsize hle]
    refine h.put hcurr hcell _ _ _ rfl (fun howner size => h.buff c connection size hcell howner)
      (.inr hcurr) (fun _ howner => ?_) hcurr
    obtain ⟨hbuff, hmissing, hlength⟩ := hexpects howner
    refine ⟨hbuff, hmissing, ?_⟩
    rw [List.length_append, mul_add_one] at *
    exact Nat.add_le_add hlength m.body_le
  · rw [cont_copy, deref_some hcell, if_pos hfrag]
    exact h.set_work _ (fun connection he => by rwa [hwork] at he) trivial

lemma cont_count_inv (hwork : s.work = .copied c) : Inv (cont_count s c) := by
  have hcurr := h.work
  rw [Rm.WorkOk, hwork] at hcurr
  have hexpects := h.notif c connection hcurr hcell
  rw [hwork] at hexpects
  rw [cont_count, deref_some hcell]
  refine h.put hcurr hcell _ _ _ rfl (fun howner size => h.buff c connection size hcell howner)
    (.inr hcurr) (fun _ howner => ?_) ?_
  · obtain ⟨hbuff, hmissing, hlength⟩ := hexpects howner
    -- so few fragments do not make the counter wrap
    have hadd : (connection.fragments_received + 1).toNat =
        connection.fragments_received.toNat + 1 := by
      rw [UInt8.toNat_add]
      exact mod_eq_of_lt (by change _ + 1 < 256; omega)
    split
    · trivial
    · rename_i hne
      refine ⟨hbuff, ?_, ?_⟩
      · rw [hadd] at hne ⊢
        exact lt_of_le_of_ne hmissing hne
      · rw [hadd]
        exact hlength
  · split
    · exact hcurr
    · trivial

lemma complete_inv (hwork : s.work = .closing c) : Inv (complete_connection s c) := by
  have hcurr := h.work
  rw [Rm.WorkOk, hwork] at hcurr
  rw [complete_connection, deref_some hcell]
  exact h.put hcurr hcell _ none _ rfl (fun howner size => h.buff c connection size hcell howner)
    (.inl rfl) (fun hnone => by cases hnone) trivial

end

/-! ## Every run -/

theorem go_inv (h : Inv s) (luck : Luck) (hcareful : Careful s (.go luck)) : Inv (s.go luck) := by
  rw [Careful] at hcareful
  rw [Rm.go]
  cases hwork : s.work with
  | idle => exact h
  | found c m =>
    rw [hwork] at hcareful
    obtain ⟨connection, hcell, hlong⟩ := hcareful
    exact rply_match_inv h hcell hwork hlong
  | cont c m =>
    rw [hwork] at hcareful
    obtain ⟨connection, hcell, hroom⟩ := hcareful
    exact cont_copy_inv h hcell hwork hroom
  | matched c m =>
    rw [hwork] at hcareful
    obtain ⟨connection, hcell⟩ := Option.ne_none_iff_exists'.mp hcareful
    exact rply_fill_inv h hcell hwork luck
  | filled c m =>
    rw [hwork] at hcareful
    obtain ⟨connection, hcell⟩ := Option.ne_none_iff_exists'.mp hcareful
    exact rply_finish_inv h hcell hwork
  | copied c =>
    rw [hwork] at hcareful
    obtain ⟨connection, hcell⟩ := Option.ne_none_iff_exists'.mp hcareful
    exact cont_count_inv h hcell hwork
  | closing c =>
    rw [hwork] at hcareful
    obtain ⟨connection, hcell⟩ := Option.ne_none_iff_exists'.mp hcareful
    exact complete_inv h hcell hwork

lemma step_inv (h : Inv s) (a : Act) (hcareful : Careful s a) : Inv (s.step a) := by
  cases a with
  | call message_id luck => exact call_inv h message_id luck
  | sent c ok => exact sent_inv h c ok
  | woken c => exact woken_inv h c
  | interrupted c => exact interrupted_inv h c
  | message m luck => exact message_inv h m luck
  | go luck => exact go_inv h luck hcareful

lemma deref_none_faults {k : Conn → Rm} (hcell : ¬s.conns.cell c ≠ none) :
    (s.deref c k).faults ≠ [] := by
  rw [deref_none (not_not.mp hcell)]
  exact report_faults s _

lemma go_faults (h : Inv s) (luck : Luck) (hnot : ¬Careful s (.go luck)) :
    (s.go luck).faults ≠ [] := by
  rw [Careful] at hnot
  rw [Rm.go]
  cases hwork : s.work with
  | idle =>
    rw [hwork] at hnot
    exact absurd trivial hnot
  | found c m =>
    rw [hwork] at hnot
    dsimp only
    rw [rply_match]
    cases hcell : s.conns.cell c with
    | none => exact deref_none_faults (not_not.mpr hcell)
    | some connection =>
      rw [deref_some hcell]
      have hshort : ¬(connection.seq = m.seq ∧ connection.msg_id = m.msg_id →
          sizeof_reply_hdr ≤ m.size) := fun hlong => hnot ⟨connection, hcell, hlong⟩
      rw [Classical.not_imp, not_le] at hshort
      obtain ⟨⟨hseq, hid⟩, hshort⟩ := hshort
      rw [if_neg (not_or.mpr ⟨not_not.mpr hseq, not_not.mpr hid⟩), if_pos hshort]
      exact report_faults s _
  | cont c m =>
    rw [hwork] at hnot
    dsimp only
    rw [cont_copy]
    cases hcell : s.conns.cell c with
    | none => exact deref_none_faults (not_not.mpr hcell)
    | some connection =>
      rw [deref_some hcell]
      have hfull : ¬(connection.owner.is_notif = false →
          connection.num_fragments = m.fragments → connection.Room m) :=
        fun hroom => hnot ⟨connection, hcell, hroom⟩
      rw [Classical.not_imp, Classical.not_imp] at hfull
      obtain ⟨howner, hfrag, hfull⟩ := hfull
      rw [if_neg (not_not.mpr hfrag), m.payload_size]
      cases hbuff : connection.recv_buff with
      | none => exact report_faults s _
      | some size =>
        have hsize := h.buff c connection size hcell howner hbuff
        have hover : connection.received.length + m.body.length > size := by
          by_contra hle
          exact hfull ⟨by simp [hbuff], hsize ▸ not_lt.mp hle⟩
        dsimp only
        rw [if_pos hover]
        exact report_faults s _
  | matched c m =>
    rw [hwork] at hnot
    exact deref_none_faults hnot
  | filled c m =>
    rw [hwork] at hnot
    exact deref_none_faults hnot
  | copied c =>
    rw [hwork] at hnot
    exact deref_none_faults hnot
  | closing c =>
    rw [hwork] at hnot
    exact deref_none_faults hnot

end Messages

/-- **Nothing goes wrong in a run exactly when all its steps are careful.** -/
theorem rm_memory_safe_iff (l : List Act) :
    (∀ l', l' <+: l → (exec Rm.step .start l').faults = []) ↔
      Ok Rm.step Careful .start l := by
  refine Run.prefix_good_iff (I := Inv) (fun s h => h.safe) (fun s a h => step_inv h a) ?_ l
    inv_start
  intro s a h hnot
  cases a with
  | go luck => exact go_faults h luck hnot
  | call message_id luck => exact absurd trivial hnot
  | sent c ok => exact absurd trivial hnot
  | woken c => exact absurd trivial hnot
  | interrupted c => exact absurd trivial hnot
  | message m luck => exact absurd trivial hnot

def asked : List Act := [.call 1 .good, .sent 0 true]

def reply (fragments : BitVec 6) (body : List UInt8) (haccepted : 8 < 8 + body.length)
    (hfits : 8 + body.length ≤ 240) : List Act :=
  [.message ⟨.RPLY, fragments, 0, 1, body, haccepted, hfits⟩ .good, .go .good, .go .good,
    .go .good, .go .good]

def continuation (fragments : BitVec 6) (body : List UInt8) (haccepted : 8 < 8 + body.length)
    (hfits : 8 + body.length ≤ 240) : List Act :=
  [.message ⟨.CONT, fragments, 0, 1, body, haccepted, hfits⟩ .good, .go .good]

/-- Six runs with a fault. -/
theorem rm_memory_unsafe :
    (exec Rm.step .start (asked ++ reply 0 [0] (by decide) (by decide))).faults =
      [.underflow] ∧
    (exec Rm.step .start (asked ++
      reply 1 (.replicate 232 0) (by decide +kernel) (by decide +kernel) ++
      continuation 1 (.replicate 232 0) (by decide +kernel) (by decide +kernel))).faults =
        [.outside] ∧
    (exec Rm.step .start (asked ++ reply 1 [0, 0, 0, 0] (by decide) (by decide) ++
      continuation 0 [0] (by decide) (by decide))).faults = [.outside] ∧
    (exec Rm.step .start (asked ++ [.interrupted 0] ++
      reply 0 [0, 0, 0, 0] (by decide) (by decide))).faults = [.use_after_free] ∧
    (exec Rm.step .start (asked ++ reply 0 [1, 0, 0, 0] (by decide) (by decide) ++
      [.woken 0] ++ reply 0 [0, 0, 0, 0] (by decide) (by decide))).faults = [.use_after_free] ∧
    (exec Rm.step .start
      ([.message ⟨.NOTIF, 1, 0, 1, [0], by decide, by decide⟩ ⟨true, true, false, true⟩] ++
        continuation 1 [0] (by decide) (by decide))).faults = [.use_after_free] := by
  decide +kernel

end KernelExtra.Haven
