/-
The router's ledgers.

`books` is, for every socket, the references that no waiter owns, for every node its references, and
for every buffer the number of its ends, less one if it has been allocated. Each function has one
equation: `books` after it is `books` before it, plus the buffer, plus what it forgets: a socket in
`qrtr_endpoint_post` and `qrtr_local_enqueue`, a node in `qrtr_send_resume_tx`, and the buffer in
`qrtr_tx_resume`.
-/
import KernelExtra.Qrtr.Router

namespace KernelExtra.Qrtr

open Bytes Function List

/-! ## Books -/

abbrev Books := (ℕ → ℤ) × (ℕ → ℤ) × (ℕ → ℤ)

def Router.waiting (r : Router) (sk : ℕ) : ℤ := (r.waiters.countP (·.sk = sk) : ℕ)

def Router.ends (r : Router) (id : ℕ) : ℤ := (r.fates.countP (·.1 = id) : ℕ)

def books (r : Router) : Books :=
  (fun sk => r.sk_ref sk - r.waiting sk, r.node_ref,
    fun id => r.ends id - if id < r.next_skb then 1 else 0)

def sock_entry (sk : ℕ) : Books := (Pi.single sk 1, 0, 0)

def node_entry (node : ℕ) : Books := (0, Pi.single node 1, 0)

def skb_entry (id : ℕ) : Books := (0, 0, Pi.single id 1)

lemma sock_entry_ne_zero (sk : ℕ) : sock_entry sk ≠ 0 := by
  intro h
  have := congrFun (congrArg Prod.fst h) sk
  simp [sock_entry] at this

variable (node : ℕ)

lemma node_entry_ne_zero : node_entry node ≠ 0 := by
  intro h
  have := congrFun (congrArg (fun b : Books => b.2.1) h) node
  simp [node_entry] at this

lemma skb_entry_ne_zero (id : ℕ) : skb_entry id ≠ 0 := by
  intro h
  have := congrFun (congrArg (fun b : Books => b.2.2) h) id
  simp [skb_entry] at this

/-! ## References and buffers -/

lemma update_add_eq (f : ℕ → ℤ) (i : ℕ) (d : ℤ) : update f i (f i + d) = f + Pi.single i d := by
  funext j
  by_cases h : j = i
  · subst h
    rw [update_self, Pi.add_apply, Pi.single_eq_same]
  · rw [update_of_ne h, Pi.add_apply, Pi.single_eq_of_ne h, add_zero]

section

variable (r : Router)

lemma books_sock_hold (sk : ℕ) : books (sock_hold sk r) = books r + sock_entry sk := by
  refine Prod.ext ?_ (add_zero _).symm
  change (fun i => update r.sk_ref sk (r.sk_ref sk + 1) i - r.waiting i) =
    (fun i => r.sk_ref i - r.waiting i) + Pi.single sk 1
  rw [update_add_eq]
  exact funext fun i => add_sub_right_comm ..

lemma books_sock_put (sk : ℕ) : books (sock_put sk r) = books r - sock_entry sk := by
  have hback : sock_hold sk (sock_put sk r) = r := by
    simp [sock_hold, sock_put]
  rw [eq_sub_iff_add_eq, ← books_sock_hold, hback]

lemma books_node_acquire (node : ℕ) :
    books (qrtr_node_acquire node r) = books r + node_entry node :=
  Prod.ext (add_zero _).symm (Prod.ext (update_add_eq r.node_ref node 1) (add_zero _).symm)

lemma books_node_release (node : ℕ) :
    books (qrtr_node_release node r) = books r - node_entry node := by
  have hback : qrtr_node_acquire node (qrtr_node_release node r) = r := by
    simp [qrtr_node_acquire, qrtr_node_release]
  rw [eq_sub_iff_add_eq, ← books_node_acquire, hback]

lemma books_settle (skb : Skb) (fate : Fate) :
    books (settle skb fate r) = books r + skb_entry skb.id := by
  refine Prod.ext (add_zero _).symm (Prod.ext (add_zero _).symm (funext fun i => ?_))
  have hends : (settle skb fate r).ends i = r.ends i + (Pi.single skb.id 1 : ℕ → ℤ) i := by
    simp only [Router.ends, settle, countP_append, countP_singleton, Pi.single_apply]
    by_cases h : i = skb.id
    · subst h
      simp
    · simp [h, Ne.symm h]
  change (settle skb fate r).ends i - (if i < r.next_skb then 1 else 0) =
    r.ends i - (if i < r.next_skb then 1 else 0) + (Pi.single skb.id 1 : ℕ → ℤ) i
  rw [hends, add_sub_right_comm]

lemma books_alloc_skb : books (alloc_skb r) = books r - skb_entry r.next_skb := by
  refine Prod.ext (sub_zero _).symm (Prod.ext (sub_zero _).symm (funext fun i => ?_))
  change r.ends i - (if i < r.next_skb + 1 then 1 else 0) =
    r.ends i - (if i < r.next_skb then 1 else 0) - (Pi.single r.next_skb 1 : ℕ → ℤ) i
  rw [Pi.single_apply]
  split <;> split <;> split <;> omega

end

variable (skb : Skb)

variable (r : Router)

lemma books_kfree_skb : books (kfree_skb skb r) = books r + skb_entry skb.id :=
  books_settle r skb .freed

variable (luck : Luck)

lemma sock_queue_rcv_skb_cases (sk : ℕ) (skb : Skb) (r : Router) :
    (luck.room sk (r.rcv_queue sk).length = true ∧
      ∃ r', sock_queue_rcv_skb luck sk skb r = (true, r') ∧
        books r' = books r + skb_entry skb.id) ∨
    luck.room sk (r.rcv_queue sk).length = false ∧
      sock_queue_rcv_skb luck sk skb r = (false, r) := by
  unfold sock_queue_rcv_skb
  split
  · rename_i hroom
    exact .inl ⟨hroom, _, rfl, books_settle _ skb _⟩
  · rename_i hroom
    exact .inr ⟨Bool.eq_false_iff.mpr hroom, rfl⟩

lemma books_node_assign (nid : UInt32) (r : Router) :
    books (qrtr_node_assign node nid r) = books r := by
  unfold qrtr_node_assign
  split <;> rfl

/-! ## Local delivery -/

/-- The socket that `qrtr_local_enqueue` forgets. -/
def local_leak (skb : Skb) (dst : Addr) (r : Router) : Books :=
  match r.port dst.sq_port with
  | none => 0
  | some ipc => if skb.sk = some ipc ∨ skb.sk.any r.net_reset then sock_entry ipc else 0

lemma qrtr_port_lookup_none {port : UInt32} {r : Router} (h : r.port port = none) :
    qrtr_port_lookup port r = (none, r) := by
  rw [qrtr_port_lookup, h]

lemma qrtr_port_lookup_some {port : UInt32} {r : Router} {sk : ℕ} (h : r.port port = some sk) :
    qrtr_port_lookup port r = (some sk, sock_hold sk r) := by
  rw [qrtr_port_lookup, h]

lemma books_qrtr_local_enqueue (src dst : Addr) (r : Router) :
    books (qrtr_local_enqueue luck skb src dst r).2 =
      books r + skb_entry skb.id + local_leak skb dst r := by
  unfold qrtr_local_enqueue local_leak
  cases hport : r.port dst.sq_port with
  | none =>
    simp only [qrtr_port_lookup_none hport]
    split <;> simp only [books_kfree_skb, add_zero]
  | some ipc =>
    simp only [qrtr_port_lookup_some hport]
    by_cases hself : skb.sk = some ipc
    · -- found and not put back
      simp only [hself, if_true, true_or, books_kfree_skb, books_sock_hold]
      abel
    cases hreset : skb.sk.filter (sock_hold ipc r).net_reset with
    | some sk =>
      have hany : skb.sk.any r.net_reset = true := by
        obtain ⟨hsk, hset⟩ := Option.filter_eq_some_iff.mp hreset
        rw [hsk]
        exact hset
      simp only [hself, hany, if_false, or_true, if_true, books_kfree_skb, books_sock_put,
        books_sock_hold]
      abel
    | none =>
      have hany : skb.sk.any r.net_reset = false := by
        cases hsk : skb.sk with
        | none => rfl
        | some sk =>
          rw [hsk, Option.filter_eq_none_iff] at hreset
          exact Bool.eq_false_iff.mpr (hreset sk rfl)
      simp only [hself, hany, if_false, or_self, Bool.false_eq_true]
      -- taken or refused, the socket is put back
      generalize hcopy : ({ skb with cb := { skb.cb with
        src_node := src.sq_node, src_port := src.sq_port } } : Skb) = copy
      have hid : copy.id = skb.id := by rw [← hcopy]
      rcases sock_queue_rcv_skb_cases luck ipc copy (sock_hold ipc r) with
        ⟨-, r', hq, hqueue⟩ | ⟨-, hq⟩
      · simp only [hq, books_sock_put, hqueue, books_sock_hold, hid]
        abel
      · simp only [hq, books_kfree_skb, books_sock_put, books_sock_hold, hid]
        abel

lemma local_leak_of_no_owner {skb : Skb} (h : skb.sk = none) (dst : Addr) (r : Router) :
    local_leak skb dst r = 0 := by
  unfold local_leak
  split
  · rfl
  · simp [h]

/-! ## Sending to a node -/

lemma books_after_xmit (type : ℕ) (dst : Addr) (sent : Bool)
    (r : Router) : books (after_xmit node skb type dst sent r).2 = books r := by
  unfold after_xmit
  split
  · split <;> rfl
  · split
    · unfold qrtr_tx_flow_failed
      split <;> rfl
    · rfl

lemma books_qrtr_node_enqueue (type : ℕ) (dst : Addr) (r : Router) :
    books (qrtr_node_enqueue luck node skb type dst r).2 = books r + skb_entry skb.id := by
  unfold qrtr_node_enqueue
  split
  · exact books_kfree_skb skb r
  split
  · exact books_kfree_skb skb r
  split
  · exact books_kfree_skb skb r
  split
  · rw [books_after_xmit, books_settle]
  · rw [books_after_xmit, books_kfree_skb]

lemma books_fwd_loop (src : ℕ) (skb : Skb) (nodes : List ℕ) (r : Router) :
    books (fwd_loop luck src skb nodes r) = books r := by
  induction nodes generalizing r with
  | nil => rfl
  | cons node nodes ih =>
    rw [fwd_loop]
    split
    · exact ih r
    split
    · rfl
    · rw [ih, books_qrtr_node_enqueue, books_alloc_skb]
      exact sub_add_cancel _ _

lemma books_qrtr_fwd_pkt : books (qrtr_fwd_pkt luck skb r) = books r + skb_entry skb.id := by
  unfold qrtr_fwd_pkt qrtr_node_lookup
  cases r.node_ids skb.cb.dst_node with
  | none => exact books_kfree_skb skb r
  | some node =>
    simp only [books_node_release, books_qrtr_node_enqueue, books_node_acquire]
    abel

/-! ## Flow control messages -/

lemma books_resume_waiter (src : Addr) (r : Router) (w : Waiter) :
    books (resume_waiter luck src r w) = books r - sock_entry w.sk := by
  unfold resume_waiter
  rw [books_sock_put]
  congr 1
  split
  · rw [books_qrtr_local_enqueue, local_leak_of_no_owner rfl, books_alloc_skb, add_zero]
    exact sub_add_cancel _ _
  · rfl

lemma books_resume_waiters (src : Addr) (l : List Waiter) (r : Router) :
    books (l.foldl (resume_waiter luck src) r) =
      books r - (l.map fun w => sock_entry w.sk).sum := by
  induction l generalizing r with
  | nil => simp
  | cons w l ih =>
    rw [foldl_cons, ih, books_resume_waiter, map_cons, sum_cons, sub_sub]

lemma sum_sock_entry (l : List Waiter) :
    (l.map fun w => sock_entry w.sk).sum =
      (fun sk => ((l.countP (·.sk = sk) : ℕ) : ℤ), 0, 0) := by
  induction l with
  | nil => rfl
  | cons w l ih =>
    rw [map_cons, sum_cons, ih]
    refine Prod.ext (funext fun sk => ?_) (Prod.ext (add_zero _) (add_zero _))
    change (Pi.single w.sk 1 : ℕ → ℤ) sk + ((l.countP (·.sk = sk) : ℕ) : ℤ) =
      (((w :: l).countP (·.sk = sk) : ℕ) : ℤ)
    rw [countP_cons, Pi.single_apply]
    by_cases h : sk = w.sk
    · simp
      omega
    · simp [h, Ne.symm h]

lemma books_filter_waiters (flows : ℕ → UInt64 → Option TxFlow) (p : Waiter → Bool) :
    books { r with flows, waiters := r.waiters.filter fun w => !p w } =
      books r + ((r.waiters.filter p).map fun w => sock_entry w.sk).sum := by
  rw [sum_sock_entry]
  refine Prod.ext (funext fun sk => ?_) (add_zero _).symm
  have hsplit : r.waiters.countP (·.sk = sk) = (r.waiters.filter p).countP (·.sk = sk) +
        (r.waiters.filter fun w => !p w).countP (·.sk = sk) := by
    induction r.waiters with
    | nil => rfl
    | cons w l ih =>
      cases hp : p w <;> simp [hp, countP_cons] <;> omega
  change r.sk_ref sk - (((r.waiters.filter fun w => !p w).countP (·.sk = sk) : ℕ) : ℤ) =
    r.sk_ref sk - ((r.waiters.countP (·.sk = sk) : ℕ) : ℤ) +
      (((r.waiters.filter p).countP (·.sk = sk) : ℕ) : ℤ)
  omega

def resumes (node : ℕ) (skb : Skb) (r : Router) : Prop :=
  le skb.ctrl_pkt 0 4 = QRTR_TYPE_RESUME_TX ∧ r.flows node (flow_key skb.client) ≠ none

instance (node : ℕ) (skb : Skb) (r : Router) : Decidable (resumes node skb r) :=
  inferInstanceAs (Decidable (_ ∧ _))

lemma books_qrtr_tx_resume :
    books (qrtr_tx_resume luck node skb r) =
      books r + if resumes node skb r then skb_entry skb.id else 0 := by
  unfold qrtr_tx_resume resumes
  by_cases hcmd : le skb.ctrl_pkt 0 4 = QRTR_TYPE_RESUME_TX
  · simp only [hcmd, ne_eq, not_true_eq_false, if_false, true_and]
    cases hflow : r.flows node (flow_key skb.client) with
    | none => simp
    | some flow =>
      have hwaiters := books_filter_waiters r
        (update r.flows node (update (r.flows node) (flow_key skb.client)
          (some { flow with pending := 0 })))
        (fun w => w.node = node ∧ w.key = flow_key skb.client)
      simp only [← decide_not] at hwaiters
      simp only [books_kfree_skb, books_resume_waiters, hwaiters, reduceCtorEq,
        not_false_eq_true, if_true]
      abel
  · simp [hcmd]

def send_resume_leak (luck : Luck) (cb : Cb) (r : Router) : Books :=
  match r.node_ids cb.src_node with
  | none => 0
  | some node => if luck.alloc then 0 else node_entry node

lemma books_qrtr_send_resume_tx (cb : Cb) (r : Router) :
    books (qrtr_send_resume_tx luck cb r).2 = books r + send_resume_leak luck cb r := by
  unfold qrtr_send_resume_tx qrtr_node_lookup send_resume_leak
  cases r.node_ids cb.src_node with
  | none => exact (add_zero _).symm
  | some node =>
    cases luck.alloc with
    | false => exact books_node_acquire r node
    | true =>
      simp only [Bool.not_true, Bool.false_eq_true, if_false, if_true, books_node_release,
        books_qrtr_node_enqueue, books_alloc_skb, books_node_acquire]
      rw [show (resume_skb (qrtr_node_acquire node r).next_skb cb).id =
        (qrtr_node_acquire node r).next_skb from rfl]
      abel

/-! ## The worker and arrival -/

lemma books_qrtr_sock_queue_skb (ipc : ℕ) (r : Router) :
    books (qrtr_sock_queue_skb luck node skb ipc r) = books r + skb_entry skb.id := by
  unfold qrtr_sock_queue_skb
  split
  · exact books_kfree_skb skb r
  · generalize hr : (if skb.cb.type = QRTR_TYPE_HELLO then
      { r with hello_rcvd := update r.hello_rcvd node (r.hello_rcvd node + 1) }
      else r) = r₁
    have hsame : books r₁ = books r := by
      rw [← hr]
      split <;> rfl
    rcases sock_queue_rcv_skb_cases luck ipc skb r₁ with ⟨-, r', hq, hqueue⟩ | ⟨-, hq⟩
    · simp [hq, hqueue, hsame]
    · simp [hq, books_kfree_skb, hsame]

def rx_leak (node : ℕ) (skb : Skb) (r : Router) : Books :=
  if skb.cb.type = QRTR_TYPE_RESUME_TX ∧ skb.cb.dst_node = r.local_nid ∧ ¬ resumes node skb r then
    skb_entry skb.id
  else 0

lemma fwd_loop_resume {luck : Luck} {src : ℕ} {skb : Skb} (h : skb.cb.type = QRTR_TYPE_RESUME_TX)
    (nodes : List ℕ) (r : Router) : fwd_loop luck src skb nodes r = r := by
  induction nodes with
  | nil => rfl
  | cons node nodes ih =>
    have hnot : qrtr_must_forward r src node skb.cb.type = false := by
      rw [qrtr_must_forward, if_pos (.inr h)]
    rw [fwd_loop, hnot]
    exact ih

lemma books_qrtr_node_rx_work :
    books (qrtr_node_rx_work luck node skb r) =
      books r + skb_entry skb.id - rx_leak node skb r := by
  unfold qrtr_node_rx_work rx_leak
  by_cases htype : skb.cb.type = QRTR_TYPE_RESUME_TX
  · have hdata : skb.cb.type ≠ QRTR_TYPE_DATA := by
      rw [htype]
      decide
    simp only [if_pos hdata, qrtr_fwd_ctrl_pkt, fwd_loop_resume htype, if_pos htype]
    by_cases hlocal : skb.cb.dst_node = r.local_nid
    · simp only [hlocal, ne_eq, not_true_eq_false, if_false, htype, true_and]
      rw [books_qrtr_tx_resume]
      by_cases hres : resumes node skb r
      · rw [if_pos hres, if_neg (not_not.mpr hres), sub_zero]
      · rw [if_neg hres, if_pos hres]
        abel
    · simp only [hlocal, ne_eq, not_false_eq_true, if_true, false_and, and_false, if_false]
      rw [books_qrtr_fwd_pkt, sub_zero]
  · generalize hr : (if skb.cb.type ≠ QRTR_TYPE_DATA then qrtr_fwd_ctrl_pkt luck node skb r
      else r) = r₁
    have hsame : books r₁ = books r := by
      rw [← hr]
      split
      · exact books_fwd_loop luck node skb r.epts r
      · rfl
    simp only [htype, if_false, false_and, sub_zero]
    split
    · rw [books_qrtr_fwd_pkt, hsame]
    · cases hport : r₁.port skb.cb.dst_port with
      | none =>
        simp [qrtr_port_lookup_none hport, books_kfree_skb, hsame]
      | some ipc =>
        simp only [qrtr_port_lookup_some hport, books_sock_put, books_qrtr_sock_queue_skb,
          books_sock_hold, hsame]
        abel

def dispatch_leak (luck : Luck) (cb : Cb) (r : Router) : Books :=
  if cb.type ≠ QRTR_TYPE_DATA ∨ cb.dst_node ≠ r.local_nid then 0
  else
    match r.port cb.dst_port with
    | none => 0
    | some ipc => if luck.room ipc (r.rcv_queue ipc).length then 0 else sock_entry ipc

lemma books_dispatch :
    books (dispatch luck node skb r).2 =
      books r + skb_entry skb.id + dispatch_leak luck skb.cb r := by
  unfold dispatch dispatch_leak
  split
  · rw [add_zero]
    exact books_settle _ skb _
  · cases hport : r.port skb.cb.dst_port with
    | none => simp only [qrtr_port_lookup_none hport, books_kfree_skb, add_zero]
    | some ipc =>
      simp only [qrtr_port_lookup_some hport]
      rcases sock_queue_rcv_skb_cases luck ipc skb (sock_hold ipc r) with
        ⟨hroom, r', hq, hqueue⟩ | ⟨hroom, hq⟩
      all_goals rw [show (sock_hold ipc r).rcv_queue = r.rcv_queue from rfl] at hroom
      · simp only [hq, hroom, books_sock_put, hqueue, books_sock_hold, if_true]
        abel
      · simp only [hq, hroom, books_kfree_skb, books_sock_hold, Bool.false_eq_true, if_false]
        abel

def post_leak (luck : Luck) (data : Mem) (len : ℕ) (r : Router) : Books :=
  if len = 0 ∨ len % 4 ≠ 0 then 0
  else
    match get_skb luck len r, accepted data len with
    | some _, some p => dispatch_leak luck p.cb r
    | _, _ => 0

lemma get_skb_spec {luck : Luck} {len : ℕ} {r r' : Router} (h : get_skb luck len r = some r') :
    books r' = books r - skb_entry r.next_skb ∧
      ∀ cb, dispatch_leak luck cb r' = dispatch_leak luck cb r := by
  unfold get_skb at h
  split at h
  · cases h
    exact ⟨books_alloc_skb r, fun _ => rfl⟩
  split at h
  · split at h
    · cases h
    · cases h
      exact ⟨books_alloc_skb _, fun _ => rfl⟩
  split at h
  · split at h
    · cases h
    · cases h
      exact ⟨books_alloc_skb _, fun _ => rfl⟩
  · cases h

lemma dispatch_leak_node_assign (cb : Cb) (node : ℕ) (nid : UInt32) (r : Router) :
    dispatch_leak luck cb (qrtr_node_assign node nid r) = dispatch_leak luck cb r := by
  unfold qrtr_node_assign
  split <;> rfl

lemma books_qrtr_endpoint_post (data : Mem) (len : ℕ) (r : Router) :
    books (qrtr_endpoint_post luck node data len r).router =
      books r + post_leak luck data len r := by
  unfold qrtr_endpoint_post post_leak
  split
  · exact (add_zero _).symm
  cases hskb : get_skb luck len r with
  | none => exact (add_zero _).symm
  | some r₁ =>
    obtain ⟨hbooks, hleak⟩ := get_skb_spec hskb
    cases accepted data len with
    | none =>
      simp only [books_kfree_skb, hbooks]
      abel
    | some p =>
      generalize hr : (if p.cb.type = QRTR_TYPE_NEW_SERVER then
        qrtr_node_assign node (le32 data (p.hdrlen + server_node_off))
          (qrtr_node_assign node p.cb.src_node r₁)
        else qrtr_node_assign node p.cb.src_node r₁) = r₂
      have hsame : books r₂ = books r₁ ∧
          dispatch_leak luck p.cb r₂ = dispatch_leak luck p.cb r₁ := by
        rw [← hr]
        split <;> simp only [books_node_assign, dispatch_leak_node_assign, and_self]
      simp only [books_dispatch, hr, hsame.1, hbooks]
      rw [show (p.skb data r.next_skb).cb = p.cb from rfl,
        show (p.skb data r.next_skb).id = r.next_skb from rfl, hsame.2, hleak]
      abel

/-! ## The five functions -/

/-- The calls whose references are counted. -/
inductive Call where
  | endpoint_post (node : ℕ) (data : Mem) (len : ℕ)
  | rx_work (node : ℕ) (skb : Skb)
  | local_enqueue (skb : Skb) (src dst : Addr)
  | tx_resume (node : ℕ) (skb : Skb)
  | send_resume_tx (cb : Cb)

namespace Call

def run (luck : Luck) (r : Router) : Call → Router
  | endpoint_post node data len => (qrtr_endpoint_post luck node data len r).router
  | rx_work node skb => qrtr_node_rx_work luck node skb r
  | local_enqueue skb src dst => (qrtr_local_enqueue luck skb src dst r).2
  | tx_resume node skb => qrtr_tx_resume luck node skb r
  | send_resume_tx cb => (qrtr_send_resume_tx luck cb r).2

def consumed : Call → Option ℕ
  | rx_work _ skb | local_enqueue skb _ _ | tx_resume _ skb => some skb.id
  | endpoint_post _ _ _ | send_resume_tx _ => none

/-- **A call is balanced**: references are as before, and each of its buffers is queued or freed
exactly once, and no other is. -/
def Balanced (luck : Luck) (r : Router) (call : Call) : Prop :=
  (∀ sk, (call.run luck r).sk_ref sk - (call.run luck r).waiting sk =
      r.sk_ref sk - r.waiting sk) ∧
    (∀ node, (call.run luck r).node_ref node = r.node_ref node) ∧
    ∀ id, (call.run luck r).ends id - r.ends id =
      (if call.consumed = some id then 1 else 0) +
        ((if id < (call.run luck r).next_skb then 1 else 0) - if id < r.next_skb then 1 else 0)

/-- A packet finds room; a resume packet names a flow of the node; the
destination is not the sender, which has not been reset; there is memory for the resume packet, or
no node. -/
def Clean (luck : Luck) (r : Router) : Call → Prop
  | endpoint_post _ data len =>
    ∀ p ipc, ¬ (len = 0 ∨ len % 4 ≠ 0) → get_skb luck len r ≠ none → accepted data len = some p →
      p.cb.type = QRTR_TYPE_DATA → p.cb.dst_node = r.local_nid → r.port p.cb.dst_port = some ipc →
      luck.room ipc (r.rcv_queue ipc).length = true
  | rx_work node skb =>
    skb.cb.type = QRTR_TYPE_RESUME_TX → skb.cb.dst_node = r.local_nid → resumes node skb r
  | local_enqueue skb _ dst =>
    ∀ ipc, r.port dst.sq_port = some ipc →
      skb.sk ≠ some ipc ∧ ∀ sk, skb.sk = some sk → r.net_reset sk = false
  | tx_resume node skb => resumes node skb r
  | send_resume_tx cb => r.node_ids cb.src_node = none ∨ luck.alloc = true

def entry : Option ℕ → Books
  | none => 0
  | some id => skb_entry id

variable (luck : Luck)

lemma balanced_iff_books (r : Router) (call : Call) :
    call.Balanced luck r ↔ books (call.run luck r) = books r + entry call.consumed := by
  have hentry : entry call.consumed =
      (0, 0, fun id => if call.consumed = some id then 1 else 0) := by
    cases call.consumed with
    | none => exact Prod.ext rfl (Prod.ext rfl (funext fun id => by simp [entry]))
    | some id =>
      refine Prod.ext rfl (Prod.ext rfl (funext fun i => ?_))
      simp [entry, skb_entry, Pi.single_apply, eq_comm]
  rw [hentry]
  constructor
  · rintro ⟨hsock, hnode, hskb⟩
    refine Prod.ext (funext fun sk => ?_) (Prod.ext (funext fun node => ?_) (funext fun id => ?_))
    · exact (hsock sk).trans (add_zero _).symm
    · exact (hnode node).trans (add_zero _).symm
    · have := hskb id
      change (call.run luck r).ends id - (if id < (call.run luck r).next_skb then 1 else 0) =
        r.ends id - (if id < r.next_skb then 1 else 0) + if call.consumed = some id then 1 else 0
      omega
  · intro h
    refine ⟨fun sk => ?_, fun node => ?_, fun id => ?_⟩
    · exact (congrFun (congrArg Prod.fst h) sk).trans (add_zero _)
    · exact (congrFun (congrArg (fun b : Books => b.2.1) h) node).trans (add_zero _)
    · have := congrFun (congrArg (fun b : Books => b.2.2) h) id
      change (call.run luck r).ends id - (if id < (call.run luck r).next_skb then 1 else 0) =
        r.ends id - (if id < r.next_skb then 1 else 0) +
          if call.consumed = some id then 1 else 0 at this
      omega

lemma dispatch_leak_eq_zero_iff (cb : Cb) (r : Router) :
    dispatch_leak luck cb r = 0 ↔
      ∀ ipc, cb.type = QRTR_TYPE_DATA → cb.dst_node = r.local_nid → r.port cb.dst_port = some ipc →
        luck.room ipc (r.rcv_queue ipc).length = true := by
  unfold dispatch_leak
  split
  · rename_i hother
    refine iff_of_true rfl fun ipc htype hlocal => ?_
    exact absurd hlocal (hother.resolve_left (not_not.mpr htype))
  · rename_i hother
    rw [not_or, not_not, not_not] at hother
    cases r.port cb.dst_port with
    | none => simp
    | some ipc => simp [hother, sock_entry_ne_zero]

lemma post_leak_eq_zero_iff (node : ℕ) (data : Mem) (len : ℕ) (r : Router) :
    post_leak luck data len r = 0 ↔ (endpoint_post node data len).Clean luck r := by
  simp only [post_leak, Clean]
  by_cases hlen : len = 0 ∨ len % 4 ≠ 0
  · simp [hlen]
  rw [if_neg hlen]
  cases get_skb luck len r with
  | none => simp
  | some r₁ =>
    cases accepted data len with
    | none => simp
    | some p =>
      rw [dispatch_leak_eq_zero_iff]
      constructor
      · rintro h _ ipc - - hp
        cases hp
        exact h ipc
      · intro h ipc
        exact h p ipc hlen (by simp) rfl

lemma local_leak_eq_zero_iff (skb : Skb) (src dst : Addr) (r : Router) :
    local_leak skb dst r = 0 ↔ (local_enqueue skb src dst).Clean luck r := by
  simp only [local_leak, Clean]
  have hreset : skb.sk.any r.net_reset = false ↔
      ∀ sk, skb.sk = some sk → r.net_reset sk = false := by
    cases skb.sk <;> simp
  cases r.port dst.sq_port with
  | none => simp
  | some ipc =>
    simp [sock_entry_ne_zero, hreset]

/-- **References balance exactly on the clean paths.** -/
theorem references_balanced_iff (luck : Luck) (r : Router) (call : Call) :
    call.Balanced luck r ↔ call.Clean luck r := by
  rw [balanced_iff_books]
  cases call with
  | endpoint_post node data len =>
    change books (qrtr_endpoint_post luck node data len r).router = books r + 0 ↔ _
    rw [books_qrtr_endpoint_post, add_right_inj]
    exact post_leak_eq_zero_iff luck node data len r
  | rx_work node skb =>
    change books (qrtr_node_rx_work luck node skb r) = books r + skb_entry skb.id ↔ _
    rw [books_qrtr_node_rx_work, sub_eq_self, rx_leak]
    simp only [ite_eq_right_iff, skb_entry_ne_zero, imp_false, not_and, not_not]
    rfl
  | local_enqueue skb src dst =>
    change books (qrtr_local_enqueue luck skb src dst r).2 = books r + skb_entry skb.id ↔ _
    rw [books_qrtr_local_enqueue, add_eq_left]
    exact local_leak_eq_zero_iff luck skb src dst r
  | tx_resume node skb =>
    change books (qrtr_tx_resume luck node skb r) = books r + skb_entry skb.id ↔ resumes node skb r
    rw [books_qrtr_tx_resume, add_right_inj]
    rw [ite_eq_left_iff, imp_iff_not (skb_entry_ne_zero skb.id).symm, not_not]
  | send_resume_tx cb =>
    change books (qrtr_send_resume_tx luck cb r).2 = books r + 0 ↔
      (r.node_ids cb.src_node = none ∨ luck.alloc = true)
    rw [books_qrtr_send_resume_tx, add_right_inj, send_resume_leak]
    cases r.node_ids cb.src_node with
    | none => simp
    | some node => simp [node_entry_ne_zero]

/-! ### The paths that leak -/

def sample_router : Router :=
  { empty_router with
    ports := fun port => if port = 7 then some 0 else none
    node_ids := fun nid => if nid = 5 then some 0 else none
    next_skb := 1 }

def data_packet : Mem := fun off =>
  if off = 0 then 1 else if off = 4 then 1 else if off = 24 then 1 else if off = 28 then 7 else 0

def buffer_of (sk : Option ℕ) : Skb :=
  ⟨0, ⟨5, 0, 1, 7, QRTR_TYPE_RESUME_TX, false⟩, fun _ => 0, 0, sk⟩

/-- **Six calls that lose something.** -/
theorem references_leak :
    ¬ (endpoint_post 0 data_packet 32).Balanced { fair_luck with room := fun _ _ => false }
        sample_router ∧
      ¬ (local_enqueue (buffer_of (some 0)) ⟨1, 7⟩ ⟨1, 7⟩).Balanced fair_luck sample_router ∧
      ¬ (local_enqueue (buffer_of (some 1)) ⟨1, 8⟩ ⟨1, 7⟩).Balanced fair_luck
        { sample_router with net_reset := fun _ => true } ∧
      ¬ (tx_resume 0 (buffer_of none)).Balanced fair_luck sample_router ∧
      ¬ (rx_work 0 (buffer_of none)).Balanced fair_luck sample_router ∧
      ¬ (send_resume_tx ⟨5, 0, 1, 7, 0, true⟩).Balanced { fair_luck with alloc := false }
        sample_router := by
  refine ⟨fun h => ?_, fun h => ?_, fun h => ?_, fun h => ?_, fun h => ?_, fun h => ?_⟩
  · exact absurd (h.1 0) (by decide +kernel)
  · exact absurd (h.1 0) (by decide +kernel)
  · exact absurd (h.1 0) (by decide +kernel)
  · exact absurd (h.2.2 0) (by decide +kernel)
  · exact absurd (h.2.2 0) (by decide +kernel)
  · exact absurd (h.2.1 0) (by decide +kernel)

end Call

end KernelExtra.Qrtr
