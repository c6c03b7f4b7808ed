/-
Which notifications are delivered?

`hh_rm_process_notif` compares `recv_buff_size` with the size of the header and the payload's
structure together. For a message in fragments `recv_buff_size` is the size of the payload alone.
The check of `VM_CONSOLE_CHARS` stands behind the opposite of its condition.

`Collecting` follows the fragments of a notification to the point where it is judged.
-/
import KernelExtra.Haven.Rm
import KernelExtra.Lib.Run

namespace KernelExtra.Haven

open Run (exec exec_cons exec_nil)
open List

/-! ## Well-formed notifications -/

def SizeCheck.Requires (payload : List UInt8) : SizeCheck → Prop
  | .equal size => payload.length = size
  | .at_least size => size ≤ payload.length
  | .console size => payload.length = size + num_bytes payload

def WellFormed (notification : UInt32) (payload : List UInt8) : Prop :=
  ∃ check ∈ size_check notification, check.Requires payload

instance (payload : List UInt8) : (check : SizeCheck) → Decidable (check.Requires payload)
  | .equal size => inferInstanceAs (Decidable (payload.length = size))
  | .at_least size => inferInstanceAs (Decidable (size ≤ payload.length))
  | .console size => inferInstanceAs (Decidable (payload.length = size + num_bytes payload))

instance (notification : UInt32) (payload : List UInt8) :
    Decidable (WellFormed notification payload) :=
  inferInstanceAs (Decidable (∃ check ∈ size_check notification, check.Requires payload))

/-- A notification, whole or with the continuations it announces. -/
structure Notification where
  first : Msg
  rest : List Msg
  is_notif : first.type = .NOTIF
  is_cont : ∀ m ∈ rest, m.type = .CONT ∧ m.fragments = first.fragments
  announced : rest.length = first.fragments.toNat

def Notification.payload (n : Notification) : List UInt8 :=
  n.first.body ++ n.rest.flatMap Msg.body

def cont_acts (luck : Luck) (m : Msg) : List Act :=
  [.message m luck, .go luck, .go luck, .go luck]

/-- The steps that handle a notification. The last one is its own handler; `c` is its connection. -/
def Notification.acts (n : Notification) (c : ℕ) (luck : Luck) : List Act :=
  .message n.first luck :: (n.rest.flatMap (cont_acts luck) ++ [.woken c])

/-- The handler gets to the size check: no other message is being put together, and there is
memory for the fragments. -/
def Taken (s : Rm) (n : Notification) (luck : Luck) : Prop :=
  s.curr_connection = none ∧
    (n.first.fragments ≠ 0 → luck.conn_alloc = true ∧ luck.buff_alloc = true)

instance (s : Rm) (n : Notification) (luck : Luck) : Decidable (Taken s n luck) :=
  inferInstanceAs (Decidable (_ ∧ _))

/-- Where a check and the requirement agree. -/
def SizeCheck.Agrees (n : Notification) (check : SizeCheck) : Prop :=
  if n.first.fragments = 0 then
    match check with
    | .equal _ => True
    | .at_least _ => True
    | .console size => size ≤ n.payload.length → n.payload.length = size + num_bytes n.payload
  else
    match check with
    | .equal size => n.payload.length ≠ size ∧ n.payload.length ≠ sizeof_hdr + size
    | .at_least size => n.payload.length < size ∨ sizeof_hdr + size ≤ n.payload.length
    | .console size =>
      sizeof_hdr + size ≤ n.payload.length ↔ n.payload.length = size + num_bytes n.payload

/-- A notification is judged rightly: if it gets to the size check, the check agrees with what is
required, and if not, it is malformed. -/
def Judged (s : Rm) (n : Notification) (luck : Luck) : Prop :=
  (Taken s n luck → ∀ check ∈ size_check n.first.msg_id, check.Agrees n) ∧
    (¬Taken s n luck → ¬WellFormed n.first.msg_id n.payload)

/-! ## Putting the fragments together -/

section Collect

variable {s : Rm} {c : ℕ} {n : Notification} {luck : Luck}

def Notification.conn (n : Notification) (received : List UInt8) (k : ℕ) (done : Bool) : Conn :=
  { hh_rm_alloc_connection (.notif n.first) n.first.msg_id with
    recv_buff := some (reserve sizeof_hdr n.first.fragments)
    received := received
    num_fragments := n.first.fragments
    fragments_received := .ofNat k
    seq_done := done }

/-- After `k` continuations, between two messages. -/
structure Collecting (n : Notification) (c : ℕ) (chain : List (UInt32 × List UInt8))
    (received : List UInt8) (k : ℕ) (s : Rm) : Prop where
  work : s.work = .idle
  chain : s.chain = chain
  curr : s.curr_connection = if k < n.first.fragments.toNat then some c else none
  cell : s.conns.cell c = some (n.conn received k (decide (k = n.first.fragments.toNat)))
  length : received.length ≤ (HH_MSGQ_MAX_MSG_SIZE_BYTES - sizeof_hdr) * (k + 1)

/-- The same within a continuation. -/
structure Handling (n : Notification) (c : ℕ) (chain : List (UInt32 × List UInt8))
    (received : List UInt8) (k : ℕ) (work : Work) (s : Rm) : Prop where
  work : s.work = work
  chain : s.chain = chain
  curr : s.curr_connection = some c
  cell : s.conns.cell c = some (n.conn received k false)

section

variable {chain : List (UInt32 × List UInt8)} {received : List UInt8} {k : ℕ} {m : Msg}

lemma Handling.message (h : Handling n c chain received k .idle s) (htype : m.type = .CONT)
    (luck : Luck) :
    Handling n c chain received k (.cont c m) (s.step (.message m luck)) := by
  rw [Rm.step, h.work]
  rw [hh_rm_process_recv_work, htype]
  rw [hh_rm_process_cont, h.curr]
  exact ⟨rfl, h.chain, rfl, h.cell⟩

lemma Handling.copy (h : Handling n c chain received k (.cont c m) s)
    (hfrag : m.fragments = n.first.fragments) (hk : k < n.first.fragments.toNat)
    (hlength : received.length ≤ (HH_MSGQ_MAX_MSG_SIZE_BYTES - sizeof_hdr) * (k + 1))
    (luck : Luck) :
    Handling n c chain (received ++ m.body) k (.copied c) (s.step (.go luck)) := by
  have hgo : s.step (.go luck) = cont_copy s c m := by
    rw [Rm.step, Rm.go, h.work]
  rw [hgo, cont_copy_eq h.cell hfrag.symm rfl (room_for_next hk hlength m)]
  exact ⟨rfl, h.chain, h.curr, (Heap.cell_put h.cell _ c).trans (if_pos rfl)⟩

lemma Handling.count (h : Handling n c chain received k (.copied c) s)
    (hk : k < n.first.fragments.toNat) (luck : Luck) :
    Handling n c chain received (k + 1)
      (if k + 1 = n.first.fragments.toNat then .closing c else .idle) (s.step (.go luck)) := by
  have hlt : k + 1 < 2 ^ 8 := by
    omega
  have hadd : UInt8.ofNat k + 1 = UInt8.ofNat (k + 1) := (UInt8.ofNat_add k 1).symm
  have hval : (UInt8.ofNat (k + 1)).toNat = k + 1 := UInt8.toNat_ofNat_of_lt hlt
  have hgo : s.step (.go luck) = cont_count s c := by
    rw [Rm.step, Rm.go, h.work]
  rw [hgo, cont_count, deref_some h.cell]
  refine ⟨?_, h.chain, h.curr, (Heap.cell_put h.cell _ c).trans ((if_pos rfl).trans ?_)⟩
  · simp only [Notification.conn, hadd, hval]
  · simp only [Notification.conn, hadd]

end

lemma Collecting.cont {chain : List (UInt32 × List UInt8)} {received : List UInt8} {k : ℕ}
    {m : Msg} (h : Collecting n c chain received k s) (hk : k < n.first.fragments.toNat)
    (htype : m.type = .CONT) (hfrag : m.fragments = n.first.fragments) (luck : Luck) :
    Collecting n c chain (received ++ m.body) (k + 1)
      (exec Rm.step s (cont_acts luck m)) := by
  have hstart : Handling n c chain received k .idle s := by
    have hcurr := h.curr
    have hcell := h.cell
    rw [if_pos hk] at hcurr
    rw [decide_eq_false (ne_of_lt hk)] at hcell
    exact ⟨h.work, h.chain, hcurr, hcell⟩
  have hcount := ((hstart.message htype luck).copy hfrag hk h.length luck).count hk luck
  have hlength : (received ++ m.body).length ≤
      (HH_MSGQ_MAX_MSG_SIZE_BYTES - sizeof_hdr) * (k + 1 + 1) := by
    rw [length_append, mul_add_one]
    exact add_le_add h.length m.body_le
  rw [cont_acts, exec_cons, exec_cons, exec_cons, exec_cons, exec_nil]
  generalize Rm.step (Rm.step (s.step (.message m luck)) (.go luck)) (.go luck) = s' at hcount ⊢
  by_cases hlast : k + 1 = n.first.fragments.toNat
  · rw [if_pos hlast] at hcount
    have hgo : s'.step (.go luck) = complete_connection s' c := by
      rw [Rm.step, Rm.go, hcount.work]
    rw [hgo, complete_connection, deref_some hcount.cell]
    refine ⟨rfl, hcount.chain, (if_neg ?_).symm, ?_, hlength⟩
    · rw [hlast]
      exact lt_irrefl _
    · rw [decide_eq_true hlast]
      exact (Heap.cell_put hcount.cell _ c).trans (if_pos rfl)
  · rw [if_neg hlast] at hcount
    have hgo : s'.step (.go luck) = s' := by
      rw [Rm.step, Rm.go, hcount.work]
    rw [hgo]
    refine ⟨hcount.work, hcount.chain, ?_, ?_, hlength⟩
    · rw [if_pos (lt_of_le_of_ne hk hlast)]
      exact hcount.curr
    · rw [decide_eq_false hlast]
      exact hcount.cell

lemma Collecting.run {chain : List (UInt32 × List UInt8)} {ms : List Msg} (luck : Luck)
    {received : List UInt8} {k : ℕ} (h : Collecting n c chain received k s)
    (hms : ∀ m ∈ ms, m.type = .CONT ∧ m.fragments = n.first.fragments)
    (hlength : k + ms.length = n.first.fragments.toNat) :
    Collecting n c chain (received ++ ms.flatMap Msg.body) n.first.fragments.toNat
      (exec Rm.step s (ms.flatMap (cont_acts luck))) := by
  induction ms generalizing s received k with
  | nil =>
    rw [← hlength, flatMap_nil, append_nil]
    exact h
  | cons m ms ih =>
    rw [forall_mem_cons] at hms
    rw [length_cons] at hlength
    have hk : k < n.first.fragments.toNat := by omega
    rw [flatMap_cons, flatMap_cons, Run.exec_append, ← append_assoc]
    exact ih (h.cont hk hms.1.1 hms.1.2 luck) hms.2 (by omega)

lemma step_first (hidle : s.work = .idle) :
    s.step (.message n.first luck) = hh_rm_process_notif s n.first luck := by
  rw [Rm.step, hidle]
  rw [hh_rm_process_recv_work, n.is_notif]

lemma collecting_first (hidle : s.work = .idle) (hcurr : s.curr_connection = none)
    (hfrag : n.first.fragments ≠ 0) (hconn : luck.conn_alloc = true)
    (hbuff : luck.buff_alloc = true) :
    Collecting n s.conns.next s.chain n.first.body 0 (s.step (.message n.first luck)) := by
  have hpos : 0 < n.first.fragments.toNat :=
    pos_of_ne_zero fun h => hfrag (BitVec.eq_of_toNat_eq h)
  rw [step_first hidle, hh_rm_process_notif, hcurr, if_neg (by simp), if_pos hfrag, wait_eq, hconn,
    hbuff]
  refine ⟨hidle, rfl, (if_pos hpos).symm, ?_, ?_⟩
  · rw [decide_eq_false (ne_of_lt hpos)]
    exact if_pos rfl
  · exact n.first.body_le.trans (Nat.le_mul_of_pos_right _ (Nat.succ_pos _))

/-! ## A notification that is not taken -/

section

variable (hcell : s.conns.cell c = none)
include hcell

theorem deref_still {c' : ℕ} {k : Conn → Rm}
    (hk : ∀ connection, (k connection).chain = s.chain ∧ (k connection).conns.cell c = none) :
    (s.deref c' k).chain = s.chain ∧ (s.deref c' k).conns.cell c = none := by
  rw [Rm.deref]
  split
  · exact ⟨rfl, hcell⟩
  · exact hk _

lemma go_still (luck : Luck) : (s.go luck).chain = s.chain ∧ (s.go luck).conns.cell c = none := by
  have hput : ∀ a v, (s.conns.put a v).cell c = none := fun a v => Heap.cell_put_of_none hcell a v
  rw [Rm.go]
  split
  · exact ⟨rfl, hcell⟩
  · refine deref_still hcell fun connection => ?_
    split_ifs <;> exact ⟨rfl, hcell⟩
  · refine deref_still hcell fun connection => ?_
    split
    · exact ⟨rfl, hput _ _⟩
    · exact ⟨rfl, hput _ _⟩
    · exact ⟨rfl, hcell⟩
  · exact deref_still hcell fun connection => ⟨rfl, hput _ _⟩
  · refine deref_still hcell fun connection => ?_
    dsimp only
    split_ifs
    · exact ⟨rfl, hcell⟩
    · split
      · exact ⟨rfl, hcell⟩
      · split_ifs
        · exact ⟨rfl, hcell⟩
        · exact ⟨rfl, hput _ _⟩
  · exact deref_still hcell fun connection => ⟨rfl, hput _ _⟩
  · exact deref_still hcell fun connection => ⟨rfl, hput _ _⟩

lemma cont_still {m : Msg} (htype : m.type = .CONT) (luck : Luck) :
    (s.step (.message m luck)).chain = s.chain ∧
      (s.step (.message m luck)).conns.cell c = none := by
  rw [Rm.step]
  split
  · rw [hh_rm_process_recv_work, htype]
    dsimp only
    rw [hh_rm_process_cont]
    split <;> exact ⟨rfl, hcell⟩
  · exact ⟨rfl, hcell⟩

end

lemma conts_still {ms : List Msg} (hms : ∀ m ∈ ms, m.type = .CONT) (luck : Luck)
    (hcell : s.conns.cell c = none) :
    (exec Rm.step s (ms.flatMap (cont_acts luck))).chain = s.chain ∧
      (exec Rm.step s (ms.flatMap (cont_acts luck))).conns.cell c = none := by
  induction ms generalizing s with
  | nil => exact ⟨rfl, hcell⟩
  | cons m ms ih =>
    rw [forall_mem_cons] at hms
    obtain ⟨hchain₁, hcell₁⟩ := cont_still hcell hms.1 luck
    obtain ⟨hchain₂, hcell₂⟩ := go_still hcell₁ luck
    obtain ⟨hchain₃, hcell₃⟩ := go_still hcell₂ luck
    obtain ⟨hchain₄, hcell₄⟩ := go_still hcell₃ luck
    obtain ⟨hchain, hnone⟩ := ih hms.2 hcell₄
    exact ⟨hchain.trans (hchain₄.trans (hchain₃.trans (hchain₂.trans hchain₁))), hnone⟩

lemma first_still (hidle : s.work = .idle) (h : ¬Taken s n luck) :
    (s.step (.message n.first luck)).chain = s.chain ∧
      (s.step (.message n.first luck)).conns.cell s.conns.next = none := by
  have hnone : s.conns.cell s.conns.next = none := s.conns.fresh _ le_rfl
  rw [step_first hidle, hh_rm_process_notif]
  cases hcurr : s.curr_connection with
  | some c => exact ⟨rfl, hnone⟩
  | none =>
    have hfrag : n.first.fragments ≠ 0 := fun hzero => h ⟨hcurr, fun hne => absurd hzero hne⟩
    rw [if_neg (by simp), if_pos hfrag, wait_eq]
    split_ifs with hconn hbuff
    · exact ⟨rfl, hnone⟩
    · exact ⟨rfl, if_pos rfl⟩
    · exact absurd ⟨hcurr, fun _ => ⟨by simpa using hconn, by simpa using hbuff⟩⟩ h

lemma woken_none (hcell : s.conns.cell c = none) : s.step (.woken c) = s := by
  rw [Rm.step, Rm.woken, hcell]

end Collect

/-! ## The judgement -/

theorem check_and_call_chain (s : Rm) (m : Msg) (payload : List UInt8) (size : ℕ) :
    (s.check_and_call m payload size).chain =
      if ∃ check ∈ size_check m.msg_id, check.passes m size = true then
        s.chain ++ [(m.msg_id, payload)]
      else s.chain := by
  rw [Rm.check_and_call]
  cases size_check m.msg_id with
  | none => simp
  | some check => by_cases hpass : check.passes m size = true <;> simp [hpass]

lemma check_and_call_conns (s : Rm) (m : Msg) (payload : List UInt8) (size : ℕ) :
    (s.check_and_call m payload size).conns = s.conns := by
  rw [Rm.check_and_call]
  split
  · rfl
  · split <;> rfl

lemma Collecting.woken {s : Rm} {c : ℕ} {n : Notification}
    {chain : List (UInt32 × List UInt8)} {received : List UInt8}
    (h : Collecting n c chain received n.first.fragments.toNat s) :
    (s.step (.woken c)).chain =
      if ∃ check ∈ size_check n.first.msg_id, check.passes n.first received.length = true then
        s.chain ++ [(n.first.msg_id, received)]
      else s.chain := by
  rw [Rm.step, Rm.woken, h.cell]
  rw [decide_eq_true rfl]
  exact check_and_call_chain _ n.first received received.length

def Notification.judged_size (n : Notification) : ℕ :=
  if n.first.fragments = 0 then n.first.size else n.payload.length

lemma Notification.payload_of_whole {n : Notification} (h : n.first.fragments = 0) :
    n.rest = [] ∧ n.payload = n.first.body := by
  have hrest : n.rest = [] := length_eq_zero_iff.mp (by rw [n.announced, h]; rfl)
  exact ⟨hrest, by rw [Notification.payload, hrest, flatMap_nil, append_nil]⟩

/-- **What the code does with a notification.** -/
theorem notif_chain {s : Rm} (hidle : s.work = .idle) (n : Notification) (luck : Luck) :
    (exec Rm.step s (n.acts s.conns.next luck)).chain =
      if Taken s n luck ∧
          ∃ check ∈ size_check n.first.msg_id, check.passes n.first n.judged_size = true then
        s.chain ++ [(n.first.msg_id, n.payload)]
      else s.chain := by
  rw [Notification.acts, exec_cons, Run.exec_append, exec_cons, exec_nil]
  by_cases htaken : Taken s n luck
  · rw [Notification.judged_size]
    simp only [htaken, true_and]
    by_cases hfrag : n.first.fragments = 0
    · obtain ⟨hrest, hpayload⟩ := n.payload_of_whole hfrag
      have hnone : (s.check_and_call n.first n.first.body n.first.size).conns.cell s.conns.next =
          none := by
        rw [check_and_call_conns]
        exact s.conns.fresh _ le_rfl
      rw [step_first hidle, hh_rm_process_notif, htaken.1, if_neg (by simp),
        if_neg (not_not.mpr hfrag), hrest, flatMap_nil, exec_nil, woken_none hnone,
        check_and_call_chain, if_pos hfrag, hpayload]
    · obtain ⟨hconn, hbuff⟩ := htaken.2 hfrag
      have hall := (collecting_first hidle htaken.1 hfrag hconn hbuff).run luck n.is_cont
        (by rw [n.announced, zero_add])
      rw [if_neg hfrag, ← hall.chain]
      exact hall.woken
  · obtain ⟨hchain, hnone⟩ := first_still hidle htaken
    obtain ⟨hchain', hnone'⟩ := conts_still (fun m hm => (n.is_cont m hm).1) luck hnone
    rw [woken_none hnone', if_neg fun h => htaken h.1, hchain', hchain]

lemma passes_iff_requires_iff (n : Notification) (check : SizeCheck) :
    ((check.passes n.first n.judged_size = true) ↔ check.Requires n.payload) ↔
      check.Agrees n := by
  rw [Notification.judged_size, SizeCheck.Agrees.eq_def]
  by_cases hfrag : n.first.fragments = 0
  · obtain ⟨-, hpayload⟩ := n.payload_of_whole hfrag
    rw [if_pos hfrag, if_pos hfrag, hpayload, Msg.size]
    cases check with
    | equal size => simp [SizeCheck.passes, SizeCheck.Requires]
    | at_least size => simp [SizeCheck.passes, SizeCheck.Requires]
    | console size =>
      simp only [SizeCheck.passes, SizeCheck.Requires]
      split_ifs with hshort
      · simp only [decide_eq_true_iff]
        omega
      · simp only [true_iff]
        omega
  · rw [if_neg hfrag, if_neg hfrag]
    cases check with
    | equal size =>
      simp only [SizeCheck.passes, SizeCheck.Requires, decide_eq_true_iff]
      unfold sizeof_hdr
      omega
    | at_least size =>
      simp only [SizeCheck.passes, SizeCheck.Requires, decide_eq_true_iff]
      omega
    | console size =>
      simp only [SizeCheck.passes, SizeCheck.Requires]
      split_ifs with hshort
      · simp only [decide_eq_true_iff]
        omega
      · simp only [true_iff]
        omega

/-- **A notification is delivered exactly when it is well formed, exactly when it meets the
condition.** -/
theorem notif_delivered_iff (s : Rm) (hidle : s.work = .idle) (n : Notification) (luck : Luck) :
    (exec Rm.step s (n.acts s.conns.next luck)).chain =
        (if WellFormed n.first.msg_id n.payload then s.chain ++ [(n.first.msg_id, n.payload)]
        else s.chain) ↔
      Judged s n luck := by
  have hne : s.chain ++ [(n.first.msg_id, n.payload)] ≠ s.chain := by simp
  have hsame : ∀ (p q : Prop) [Decidable p] [Decidable q],
      ((if p then s.chain ++ [(n.first.msg_id, n.payload)] else s.chain) =
        if q then s.chain ++ [(n.first.msg_id, n.payload)] else s.chain) ↔ (p ↔ q) := by
    intro p q _ _
    split_ifs <;> simp_all [hne.symm]
  rw [notif_chain hidle, hsame, Judged]
  by_cases htaken : Taken s n luck
  · simp only [htaken, true_and, true_imp_iff, not_true_eq_false, false_imp_iff, and_true]
    rw [WellFormed]
    cases size_check n.first.msg_id with
    | none => simp
    | some check => simpa using passes_iff_requires_iff n check
  · simp [htaken]

def vm_status : Notification where
  first := ⟨.NOTIF, 0, 0, HH_RM_NOTIF_VM_STATUS, .replicate 8 0, by decide, by decide⟩
  rest := []
  is_notif := rfl
  is_cont _ h := by cases h
  announced := rfl

theorem vm_status_delivered :
    (exec Rm.step .start (vm_status.acts 0 .good)).chain =
      if WellFormed HH_RM_NOTIF_VM_STATUS vm_status.payload then
        [(HH_RM_NOTIF_VM_STATUS, vm_status.payload)]
      else [] := by
  refine (notif_delivered_iff .start rfl vm_status .good).mpr
    ⟨fun _ check hcheck => ?_, fun h => ?_⟩
  · obtain rfl : SizeCheck.equal 8 = check := Option.some_inj.mp hcheck
    trivial
  · exact absurd (by decide) h

def split_vm_status : Notification where
  first := ⟨.NOTIF, 1, 0, HH_RM_NOTIF_VM_STATUS, .replicate 4 0, by decide, by decide⟩
  rest := [⟨.CONT, 1, 0, HH_RM_NOTIF_VM_STATUS, .replicate 4 0, by decide, by decide⟩]
  is_notif := rfl
  is_cont _ h := by
    rw [mem_singleton] at h
    subst h
    exact ⟨rfl, rfl⟩
  announced := rfl

def no_chars : Notification where
  first := ⟨.NOTIF, 0, 0, HH_RM_NOTIF_VM_CONSOLE_CHARS, [0, 0, 5, 0], by decide, by decide⟩
  rest := []
  is_notif := rfl
  is_cont _ h := by cases h
  announced := rfl

theorem notif_misjudged :
    (WellFormed HH_RM_NOTIF_VM_STATUS split_vm_status.payload ∧
      (exec Rm.step .start (split_vm_status.acts 0 .good)).chain = []) ∧
    (¬WellFormed HH_RM_NOTIF_VM_CONSOLE_CHARS no_chars.payload ∧
      (exec Rm.step .start (no_chars.acts 0 .good)).chain =
        [(HH_RM_NOTIF_VM_CONSOLE_CHARS, no_chars.payload)]) := by
  decide +kernel

end KernelExtra.Haven
