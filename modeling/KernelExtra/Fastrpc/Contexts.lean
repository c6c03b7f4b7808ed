/-
FastRPC: the books of the invocation contexts, `drivers/char/adsprpc.c`.

A context has a slot in the table of its channel, and is on a list of its session, which
`num_active_ctxs` counts. `context_free` looks at the node of the list to find out whether the
context was linked; but `context_alloc` begins with `hlist_add_fake`, after which a node looks
linked. An allocation that fails later lowers a count that it has not raised. Nothing else goes
wrong.

The model is one session with any number of calls. A step is a critical section.
-/
import KernelExtra.Lib.Heap
import KernelExtra.Lib.Run

namespace KernelExtra.Fastrpc.Contexts

open Function List Nat

def FASTRPC_CTX_MAX : ℕ := 1024
def NUM_KERNEL_AND_STATIC_ONLY_CONTEXTS : ℕ := 70
def MAX_PENDING_CTX_PER_SESSION : UInt32 := 64
def FASTRPC_STATIC_HANDLE_MAX : ℕ := 20

def GET_TABLE_IDX_FROM_CTXID (ctxid : ℕ) : ℕ := (ctxid &&& (FASTRPC_CTX_MAX - 1) <<< 6) >>> 6

def make_ctxid (jobid ii : ℕ) (isasyncjob : Bool) : ℕ :=
  jobid <<< 16 % 2 ^ 64 ||| ii <<< 6 ||| isasyncjob.toNat <<< 4

/-- How far the call has got that has the context. -/
inductive Stage where
  | building
  | slotted
  | active
  | closing
  | unslotted
  deriving DecidableEq

/-- `struct smq_invoke_ctx`; `hashed` is what `hlist_unhashed` denies. -/
structure Ctx where
  kernel : Bool
  handle : ℕ
  sc : ℕ
  pid : ℕ
  isasyncjob : Bool
  ctxid : ℕ
  hashed : Bool
  is_work_done : Bool
  stage : Stage

def Ctx.zeroed (v : Ctx) : Ctx :=
  { v with ctxid := 0, hashed := true, is_work_done := false, stage := .building }

/-- What is in a slot: perhaps a context of another session of the channel. -/
inductive Slot where
  | free
  | other
  | ctx (c : ℕ)
  deriving DecidableEq

/-- The contexts of one client, its two lists and the table of its channel. -/
structure Session where
  ctxs : Heap Ctx
  ctxtable : ℕ → Slot
  jobid : ℕ
  pending : List ℕ
  interrupted : List ℕ
  num_active_ctxs : UInt32

/-- Which of its requests `context_alloc` is granted; one that is not made is. -/
structure Luck where
  kzalloc : Bool
  lpra : Bool
  fds : Bool
  attrs : Bool
  overlap : Bool
  perf : Bool
  job : Bool

def Luck.built (luck : Luck) : Bool :=
  luck.lpra && luck.fds && luck.attrs && luck.overlap && luck.perf && luck.job

namespace Session

variable (s : Session) (c : ℕ) (v : Ctx)

def start (table : ℕ → Bool) (jobid : ℕ) : Session :=
  ⟨.empty, fun i => if table i then .other else .free, jobid, [], [], 0⟩

def hlist_del_init : Session :=
  { s with pending := s.pending.erase c, interrupted := s.interrupted.erase c }

def free_slot : Session :=
  let i := GET_TABLE_IDX_FROM_CTXID v.ctxid
  let found :=
    if i < FASTRPC_CTX_MAX ∧ s.ctxtable i = .ctx c then some i
    else (List.range FASTRPC_CTX_MAX).find? fun i => s.ctxtable i = .ctx c
  { s with
    ctxtable := found.elim s.ctxtable fun i => update s.ctxtable i .free
    ctxs := s.ctxs.put c { v with stage := .unslotted } }

def free_list : Session :=
  let s := if v.hashed then
      { s.hlist_del_init c with num_active_ctxs := s.num_active_ctxs - 1 }
    else s
  { s with ctxs := s.ctxs.free c }

def context_free : Session := (s.free_slot c v).free_list c v

def refuses : Bool :=
  decide (s.num_active_ctxs > MAX_PENDING_CTX_PER_SESSION) &&
    !(v.kernel || decide (v.handle < FASTRPC_STATIC_HANDLE_MAX))

def context_alloc (luck : Luck) : Session :=
  if s.refuses v || !luck.kzalloc then s
  else
    let s' := { s with ctxs := s.ctxs.alloc v }
    if luck.built then s' else s'.context_free s.ctxs.next v

def find_slot : Option ℕ :=
  let ii := if v.kernel || decide (v.handle < FASTRPC_STATIC_HANDLE_MAX) then 0
    else NUM_KERNEL_AND_STATIC_ONLY_CONTEXTS
  (List.range' ii (FASTRPC_CTX_MAX - ii)).find? fun ii => s.ctxtable ii = .free

def alloc_slot : Session :=
  let jobid := s.jobid + 1
  match s.find_slot v with
  | some ii =>
    { s with
      jobid
      ctxtable := update s.ctxtable ii (.ctx c)
      ctxs := s.ctxs.put c
        { v with ctxid := make_ctxid jobid ii v.isasyncjob, stage := .slotted } }
  | none => { s with jobid }.context_free c v

def alloc_publish : Session :=
  { s with
    pending := c :: s.pending
    num_active_ctxs := s.num_active_ctxs + 1
    ctxs := s.ctxs.put c { v with stage := .active } }

def context_save_interrupted : Session :=
  let s := s.hlist_del_init c
  { s with interrupted := c :: s.interrupted }

def context_restore_interrupted (pid sc : ℕ) : Session :=
  match s.interrupted.find? fun c => (s.ctxs.cell c).any (·.pid = pid) with
  | some c =>
    if (s.ctxs.cell c).any (·.sc ≠ sc) then s
    else
      let s := s.hlist_del_init c
      { s with pending := c :: s.pending }
  | none => s

/-- A response with the number `rsp`. -/
def fastrpc_rpmsg_callback (rsp : ℕ) : Session :=
  match s.ctxtable (GET_TABLE_IDX_FROM_CTXID rsp) with
  | .ctx c =>
    match s.ctxs.cell c with
    | some v =>
      if v.ctxid = rsp / 4 * 4 then { s with ctxs := s.ctxs.put c { v with is_work_done := true } }
      else s
    | none => s
  | .free | .other => s

def dtor_pop : Session :=
  { s.hlist_del_init c with
    num_active_ctxs := s.num_active_ctxs - 1
    ctxs := s.ctxs.put c { v with hashed := false, stage := .closing } }

def at_stage (stages : List Stage) (f : Ctx → Session) : Session :=
  match s.ctxs.cell c with
  | some v => if v.stage ∈ stages then f v else s
  | none => s

end Session

/-- The steps of threads on contexts, cut where locks are given up. -/
inductive Act where
  | context_alloc (v : Ctx) (luck : Luck)
  | alloc_slot (c : ℕ)
  | alloc_publish (c : ℕ)
  | context_save_interrupted (c : ℕ)
  | context_restore_interrupted (pid sc : ℕ)
  | fastrpc_rpmsg_callback (rsp : ℕ)
  | free_slot (c : ℕ)
  | free_list (c : ℕ)
  | list_dtor
  | other (i : ℕ)

def Session.step (s : Session) : Act → Session
  | .context_alloc v luck => s.context_alloc v.zeroed luck
  | .alloc_slot c => s.at_stage c [.building] (s.alloc_slot c)
  | .alloc_publish c => s.at_stage c [.slotted] (s.alloc_publish c)
  | .context_save_interrupted c =>
    s.at_stage c [.active] fun _ => s.context_save_interrupted c
  | .context_restore_interrupted pid sc => s.context_restore_interrupted pid sc
  | .fastrpc_rpmsg_callback rsp => s.fastrpc_rpmsg_callback rsp
  | .free_slot c => s.at_stage c [.active, .closing] (s.free_slot c)
  | .free_list c => s.at_stage c [.unslotted] (s.free_list c)
  | .list_dtor =>
    match s.interrupted ++ s.pending with
    | c :: _ => s.at_stage c [.active] (s.dtor_pop c)
    | [] => s
  | .other i =>
    match s.ctxtable i with
    | .free => { s with ctxtable := update s.ctxtable i .other }
    | .other => { s with ctxtable := update s.ctxtable i .free }
    | .ctx _ => s

/-! ## Lists, table and count agree -/

def Session.listed (s : Session) : List ℕ := s.pending ++ s.interrupted

def Ctx.entered (v : Ctx) : Bool := v.stage ∈ [.slotted, .active, .closing]

/-- The count is that of the lists, and table and lists hold contexts that are alive. -/
structure Good (s : Session) : Prop where
  count : s.num_active_ctxs = .ofNat s.listed.length
  slot : ∀ c v, s.ctxs.cell c = some v → v.entered = true → ∀ i,
    s.ctxtable i = .ctx c ↔ i = GET_TABLE_IDX_FROM_CTXID v.ctxid
  listed : ∀ c ∈ s.listed, (s.ctxs.cell c).isSome
  table : ∀ i c, s.ctxtable i = .ctx c → (s.ctxs.cell c).isSome

/-- An allocation that has its memory does not fail. -/
def Careful (s : Session) : Act → Prop
  | .context_alloc v luck => s.refuses v = true ∨ luck.kzalloc = false ∨ luck.built = true
  | .alloc_slot c => ∀ v ∈ s.ctxs.cell c, v.stage = .building → (s.find_slot v).isSome
  | _ => True

instance (s : Session) (a : Act) : Decidable (Careful s a) := by
  cases a <;> unfold Careful <;> infer_instance

/-! ## The invariant -/

def Ctx.at_slot (i : ℕ) (v : Ctx) : Bool :=
  v.entered && decide (GET_TABLE_IDX_FROM_CTXID v.ctxid = i)

def Ctx.linked (v : Ctx) : Bool := v.hashed && decide (v.stage ∈ [.active, .unslotted])

/-- Lists and table hold the contexts whose stage says so, and no others. -/
structure Inv (s : Session) : Prop where
  nodup : s.listed.Nodup
  listed : ∀ c, c ∈ s.listed ↔ (s.ctxs.cell c).any Ctx.linked = true
  table : ∀ i c, s.ctxtable i = .ctx c ↔ (s.ctxs.cell c).any (Ctx.at_slot i) = true
  hashed : ∀ c, ∀ v ∈ s.ctxs.cell c, v.stage ≠ .unslotted → v.hashed = decide (v.stage ≠ .closing)
  count : s.num_active_ctxs = .ofNat s.listed.length

lemma idx_lt (ctxid : ℕ) : GET_TABLE_IDX_FROM_CTXID ctxid < FASTRPC_CTX_MAX := by
  unfold GET_TABLE_IDX_FROM_CTXID FASTRPC_CTX_MAX
  have : ctxid &&& (1024 - 1) <<< 6 ≤ (1024 - 1) <<< 6 := and_le_right
  omega

lemma idx_make_ctxid (jobid : ℕ) {ii : ℕ} (isasyncjob : Bool) (hii : ii < FASTRPC_CTX_MAX) :
    GET_TABLE_IDX_FROM_CTXID (make_ctxid jobid ii isasyncjob) = ii := by
  unfold FASTRPC_CTX_MAX at hii
  have hjob : jobid <<< 16 % 2 ^ 64 = (jobid % 2 ^ 48) <<< 16 := by
    omega
  have htype : isasyncjob.toNat <<< 4 < 2 ^ 6 := by cases isasyncjob <;> decide
  have hlow : ii <<< 6 + isasyncjob.toNat <<< 4 < 2 ^ 16 := by
    omega
  unfold GET_TABLE_IDX_FROM_CTXID make_ctxid FASTRPC_CTX_MAX
  rw [Nat.or_assoc, ← shiftLeft_add_eq_or_of_lt htype, hjob,
    ← shiftLeft_add_eq_or_of_lt hlow, shiftRight_and_distrib,
    show (1024 - 1) <<< 6 >>> 6 = 2 ^ 10 - 1 from rfl, and_two_pow_sub_one_eq_mod,
    shiftRight_eq_div_pow]
  omega

section Steps

variable {s s' : Session} {c : ℕ} {v : Ctx}

/-- **One record changes**, or is new, or is freed. -/
theorem Inv.change (h : Inv s) (c : ℕ) (o : Option Ctx)
    (hctxs : ∀ d, s'.ctxs.cell d = if d = c then o else s.ctxs.cell d)
    (hnodup : s'.listed.Nodup) (hlisted : ∀ d ≠ c, d ∈ s'.listed ↔ d ∈ s.listed)
    (hlinked : c ∈ s'.listed ↔ o.any Ctx.linked = true)
    (htable : ∀ i, ∀ d ≠ c, s'.ctxtable i = .ctx d ↔ s.ctxtable i = .ctx d)
    (hslot : ∀ i, s'.ctxtable i = .ctx c ↔ o.any (Ctx.at_slot i) = true)
    (hhashed : ∀ v ∈ o, v.stage ≠ .unslotted → v.hashed = decide (v.stage ≠ .closing))
    (hcount : s'.num_active_ctxs = .ofNat s'.listed.length) : Inv s' := by
  refine ⟨hnodup, fun d => ?_, fun i d => ?_, fun d v hv => ?_, hcount⟩
  · rw [hctxs]
    split_ifs with hd
    · rw [hd, hlinked]
    · rw [hlisted d hd, h.listed]
  · rw [hctxs]
    split_ifs with hd
    · rw [hd, hslot]
    · rw [htable i d hd, h.table]
  · rw [hctxs] at hv
    split_ifs at hv
    · exact hhashed v hv
    · exact h.hashed d v hv

lemma at_stage_rule {P : Session → Prop} {stages : List Stage} {f : Ctx → Session} (hs : P s)
    (h : ∀ v, s.ctxs.cell c = some v → v.stage ∈ stages → P (f v)) :
    P (s.at_stage c stages f) := by
  unfold Session.at_stage
  split
  · split_ifs with hstage
    · exact h _ (by assumption) hstage
    · exact hs
  · exact hs

lemma listed_del (h : s.listed.Nodup) (c : ℕ) : (s.hlist_del_init c).listed = s.listed.erase c := by
  change s.pending.erase c ++ s.interrupted.erase c = (s.pending ++ s.interrupted).erase c
  rw [erase_append]
  split_ifs with hc
  · have hnot : c ∉ s.interrupted := fun hi => (nodup_append.1 h).2.2 c hc c hi rfl
    rw [erase_of_not_mem hnot]
  · rw [erase_of_not_mem hc]

variable (h : Inv s)
include h

lemma Inv.mem_listed_iff (hv : s.ctxs.cell c = some v) : c ∈ s.listed ↔ v.linked = true := by
  rw [h.listed, hv, Option.any_some]

/-- Unlinking a context, and counting it. -/
lemma Inv.count_del (hc : c ∈ s.listed) :
    s.num_active_ctxs - 1 = .ofNat (s.listed.erase c).length := by
  have hpos := length_pos_of_mem hc
  obtain ⟨n, hn⟩ := Nat.exists_eq_add_of_lt hpos
  rw [h.count, length_erase_of_mem hc, hn]
  simp

lemma Inv.good : Good s := by
  refine ⟨h.count, fun c v hv hin i => ?_, fun c hc => ?_, fun i c hi => ?_⟩
  · rw [h.table, hv, Option.any_some, Ctx.at_slot, hin, Bool.true_and, decide_eq_true_iff, eq_comm]
  · rw [h.listed] at hc
    exact Option.isSome_of_any hc
  · rw [h.table] at hi
    exact Option.isSome_of_any hi

lemma Inv.alloc (hv : v.stage = .building) (hhashed : v.hashed = true) :
    Inv { s with ctxs := s.ctxs.alloc v } := by
  have hfresh := s.ctxs.fresh s.ctxs.next (le_rfl)
  refine h.change s.ctxs.next _ (s.ctxs.cell_alloc v) h.nodup (fun _ _ => .rfl) ?_
    (fun _ _ _ => .rfl) (fun i => ?_) (by simp [hhashed, hv]) h.count
  · exact (h.listed _).trans (by simp [hfresh, Ctx.linked, hv])
  · simp [h.table, hfresh, Ctx.at_slot, Ctx.entered, hv]

lemma Inv.alloc_slot (hv : s.ctxs.cell c = some v) (hstage : v.stage = .building)
    (hfind : (s.find_slot v).isSome) : Inv (s.alloc_slot c v) := by
  obtain ⟨ii, hii⟩ := Option.isSome_iff_exists.1 hfind
  have hfree : s.ctxtable ii = .free := by simpa using find?_some hii
  have hlt : ii < FASTRPC_CTX_MAX := by
    have := mem_range'_1.1 (mem_of_find?_eq_some hii)
    split_ifs at this <;> unfold NUM_KERNEL_AND_STATIC_ONLY_CONTEXTS FASTRPC_CTX_MAX at * <;> omega
  unfold Session.alloc_slot
  rw [hii]
  refine h.change c _ (Heap.cell_put hv _) h.nodup (fun _ _ => .rfl) ?_ (fun i d hd => ?_)
    (fun i => ?_) (by simpa [hstage] using h.hashed c v hv) h.count
  · exact (h.mem_listed_iff hv).trans (by simp [Ctx.linked, hstage])
  · dsimp only
    rw [update_apply]
    split_ifs with hi
    · simp [hi, hfree, Ne.symm hd]
    · rfl
  · dsimp only
    rw [update_apply]
    split_ifs with hi
    · simp [hi, Ctx.at_slot, Ctx.entered, idx_make_ctxid _ _ hlt]
    · rw [h.table, hv]
      simp [Ctx.at_slot, Ctx.entered, hstage, idx_make_ctxid _ _ hlt, Ne.symm hi]

lemma Inv.alloc_publish (hv : s.ctxs.cell c = some v) (hstage : v.stage = .slotted) :
    Inv (s.alloc_publish c v) := by
  have hnot : c ∉ s.listed := by simp [h.mem_listed_iff hv, Ctx.linked, hstage]
  have hhashed : v.hashed = true := by simpa [hstage] using h.hashed c v hv
  have hlisted : (s.alloc_publish c v).listed = c :: s.listed := rfl
  refine h.change c _ (Heap.cell_put hv _) ?_ (fun d hd => ?_) ?_ (fun _ _ _ => .rfl)
    (fun i => ?_) (by simp [hhashed]) ?_
  · exact nodup_cons.2 ⟨hnot, h.nodup⟩
  · simp [hlisted, hd]
  · simp [hlisted, Ctx.linked, hhashed]
  · exact (h.table i c).trans (by simp [hv, Ctx.at_slot, Ctx.entered, hstage])
  · change s.num_active_ctxs + 1 = _
    rw [h.count, hlisted]
    simp

/-- A context that is linked anew, to either list. -/
lemma Inv.relink (hs' : s'.listed.Perm s.listed)
    (hctxs : s'.ctxs = s.ctxs) (htable : s'.ctxtable = s.ctxtable)
    (hcount : s'.num_active_ctxs = s.num_active_ctxs) : Inv s' := by
  refine ⟨hs'.nodup_iff.2 h.nodup, fun d => ?_, ?_, ?_, ?_⟩
  · rw [hs'.mem_iff, hctxs]
    exact h.listed d
  · rw [htable, hctxs]
    exact h.table
  · rw [hctxs]
    exact h.hashed
  · rw [hcount, hs'.length_eq]
    exact h.count

lemma Inv.context_save_interrupted (hc : c ∈ s.listed) : Inv (s.context_save_interrupted c) := by
  refine h.relink ?_ rfl rfl rfl
  refine perm_middle.trans (List.Perm.trans ?_ (perm_cons_erase hc).symm)
  rw [← listed_del h.nodup]
  rfl

lemma Inv.context_restore_interrupted (pid sc : ℕ) :
    Inv (s.context_restore_interrupted pid sc) := by
  unfold Session.context_restore_interrupted
  split
  · rename_i c hfind
    split_ifs
    · exact h
    · refine h.relink ?_ rfl rfl rfl
      have hc := mem_append_right s.pending (mem_of_find?_eq_some hfind)
      refine List.Perm.trans ?_ (perm_cons_erase hc).symm
      rw [← Session.listed, ← listed_del h.nodup]
      rfl
  · exact h

lemma Inv.fastrpc_rpmsg_callback (rsp : ℕ) : Inv (s.fastrpc_rpmsg_callback rsp) := by
  unfold Session.fastrpc_rpmsg_callback
  split
  · rename_i c _
    split
    · rename_i v hv
      split_ifs
      · refine h.change c _ (Heap.cell_put hv _) h.nodup (fun _ _ => .rfl) ?_
          (fun _ _ _ => .rfl) (fun i => ?_) (fun w hw => ?_) h.count
        · exact (h.mem_listed_iff hv).trans .rfl
        · exact (h.table i c).trans (by rw [hv]; rfl)
        · cases hw
          exact h.hashed c v hv
      · exact h
    · exact h
  · exact h
  · exact h

section

variable (hv : s.ctxs.cell c = some v)
include hv

/-- The slot that `context_free` gives up is that of the context. -/
lemma Inv.ctxtable_free_slot (hin : v.entered = true)
    (i d : ℕ) : (s.free_slot c v).ctxtable i = .ctx d ↔ d ≠ c ∧ s.ctxtable i = .ctx d := by
  have hown : ∀ i, s.ctxtable i = .ctx c ↔ GET_TABLE_IDX_FROM_CTXID v.ctxid = i := by
    intro i
    simp [h.table, hv, Ctx.at_slot, hin]
  have hslot := (hown _).2 rfl
  unfold Session.free_slot
  dsimp only
  rw [if_pos ⟨idx_lt _, hslot⟩, Option.elim_some, update_apply]
  split_ifs with hi
  · rw [hi, hslot]
    simp [eq_comm]
  · refine ⟨fun hd => ⟨?_, hd⟩, fun hd => hd.2⟩
    rintro rfl
    exact hi ((hown i).1 hd).symm

lemma Inv.free_slot (hstage : v.stage ∈ [.active, .closing]) : Inv (s.free_slot c v) := by
  have hstage := mem_pair.1 hstage
  have hin : v.entered = true := by
    rcases hstage with hstage | hstage <;> simp [Ctx.entered, hstage]
  refine h.change c _ (Heap.cell_put hv _) h.nodup (fun _ _ => .rfl) ?_ (fun i d hd => ?_)
    (fun i => ?_) (by simp) h.count
  · have hhashed := h.hashed c v hv
    refine (h.mem_listed_iff hv).trans ?_
    rcases hstage with hstage | hstage <;> simp_all [Ctx.linked]
  · simp [h.ctxtable_free_slot hv hin, hd]
  · simp [h.ctxtable_free_slot hv hin, Ctx.at_slot, Ctx.entered]

/-- Unlinking a context, whatever becomes of its record. -/
lemma Inv.unlink (hlinked : v.linked = true)
    {o : Option Ctx} (hctxs : ∀ d, s'.ctxs.cell d = if d = c then o else s.ctxs.cell d)
    (hlisted : s'.listed = (s.hlist_del_init c).listed) (ho : o.any Ctx.linked = false)
    (htable : s'.ctxtable = s.ctxtable) (hslot : ∀ i, o.any (Ctx.at_slot i) = v.at_slot i)
    (hhashed : ∀ v ∈ o, v.stage ≠ .unslotted → v.hashed = decide (v.stage ≠ .closing))
    (hcount : s'.num_active_ctxs = s.num_active_ctxs - 1) : Inv s' := by
  rw [listed_del h.nodup] at hlisted
  refine h.change c o hctxs ?_ (fun d hd => ?_) ?_ (fun i d _ => ?_) (fun i => ?_) hhashed ?_
  · rw [hlisted]
    exact h.nodup.erase c
  · rw [hlisted, h.nodup.mem_erase_iff, and_iff_right hd]
  · rw [hlisted, h.nodup.mem_erase_iff, ho]
    simp
  · rw [htable]
  · rw [htable, h.table, hv, hslot, Option.any_some]
  · rw [hcount, hlisted]
    exact h.count_del ((h.mem_listed_iff hv).2 hlinked)

lemma Inv.free_list (hstage : v.stage = .unslotted) : Inv (s.free_list c v) := by
  have hslot : ∀ i, v.at_slot i = false := by simp [Ctx.at_slot, Ctx.entered, hstage]
  have hlinked : v.linked = v.hashed := by simp [Ctx.linked, hstage]
  unfold Session.free_list
  split_ifs with hhashed
  · exact h.unlink hv (hlinked.trans hhashed) (s.ctxs.cell_free c) rfl rfl rfl
      (fun i => (hslot i).symm) nofun rfl
  · refine h.change c none (s.ctxs.cell_free c) h.nodup (fun _ _ => .rfl) ?_
      (fun _ _ _ => .rfl) (fun i => ?_) nofun h.count
    · exact (h.mem_listed_iff hv).trans (by simp [hlinked, hhashed])
    · exact (h.table i c).trans (by simp [hv, hslot])

lemma Inv.dtor_pop (hstage : v.stage = .active) : Inv (s.dtor_pop c v) := by
  have hhashed : v.hashed = true := by simpa [hstage] using h.hashed c v hv
  refine h.unlink hv (by simp [Ctx.linked, hhashed, hstage]) (Heap.cell_put hv _) rfl
    (by simp [Ctx.linked]) rfl (fun i => ?_) (by simp) rfl
  simp [Ctx.at_slot, Ctx.entered, hstage]

end

/-- Another session writes to a slot that no context of this one has. -/
lemma Inv.other {i : ℕ} {x : Slot} (hi : ∀ c, s.ctxtable i ≠ .ctx c)
    (hx : ∀ c, x ≠ .ctx c) : Inv { s with ctxtable := update s.ctxtable i x } := by
  refine ⟨h.nodup, h.listed, fun j d => ?_, h.hashed, h.count⟩
  rw [← h.table]
  rcases eq_or_ne j i with rfl | hj
  · simp [hi, hx]
  · simp [hj]

/-- **One careful step** keeps the invariant. -/
theorem Inv.step (a : Act) (hok : Careful s a) : Inv (s.step a) := by
  cases a with
  | context_alloc v luck =>
    change Inv (s.context_alloc v.zeroed luck)
    unfold Session.context_alloc
    split_ifs with hrefused hbuilt
    · exact h
    · exact h.alloc rfl rfl
    · have hrefuses : s.refuses v.zeroed = s.refuses v := rfl
      simp_all [Careful]
  | alloc_slot c =>
    refine at_stage_rule h fun v hv hstage => ?_
    have hstage := mem_singleton.1 hstage
    exact h.alloc_slot hv hstage (hok v hv hstage)
  | alloc_publish c =>
    exact at_stage_rule h fun v hv hstage => h.alloc_publish hv (mem_singleton.1 hstage)
  | context_save_interrupted c =>
    refine at_stage_rule h fun v hv hstage => h.context_save_interrupted ?_
    have hhashed := h.hashed c v hv
    simp_all [h.mem_listed_iff hv, Ctx.linked]
  | context_restore_interrupted pid sc => exact h.context_restore_interrupted pid sc
  | fastrpc_rpmsg_callback rsp => exact h.fastrpc_rpmsg_callback rsp
  | free_slot c => exact at_stage_rule h fun v hv hstage => h.free_slot hv hstage
  | free_list c =>
    exact at_stage_rule h fun v hv hstage => h.free_list hv (mem_singleton.1 hstage)
  | list_dtor =>
    simp only [Session.step]
    split
    · exact at_stage_rule h fun v hv hstage => h.dtor_pop hv (mem_singleton.1 hstage)
    · exact h
  | other i =>
    simp only [Session.step]
    split
    · rename_i hi
      exact h.other (by simp [hi]) (by simp)
    · rename_i hi
      exact h.other (by simp [hi]) (by simp)
    · exact h

/-- A context that is freed with a fake node lowers the count, and no list gets shorter. -/
lemma Inv.not_good_context_free (hc : c ∉ s.listed) (hhashed : v.hashed = true)
    (hlisted : s'.listed = s.listed) (hcount : s'.num_active_ctxs = s.num_active_ctxs) :
    ¬ Good (s'.context_free c v) := by
  intro hgood
  have hsame : ((s'.free_slot c v).hlist_del_init c).listed = s.listed := by
    rw [listed_del (hlisted ▸ h.nodup), ← hlisted]
    exact erase_of_not_mem (hlisted ▸ hc)
  have hnum := hgood.count
  unfold Session.context_free Session.free_list at hnum
  rw [if_pos hhashed] at hnum
  change s'.num_active_ctxs - 1 = .ofNat ((s'.free_slot c v).hlist_del_init c).listed.length at hnum
  rw [hsame, hcount, h.count] at hnum
  grind

lemma Inv.not_good (a : Act) (hbad : ¬ Careful s a) : ¬ Good (s.step a) := by
  cases a with
  | context_alloc v luck =>
    simp only [Careful, not_or, Bool.not_eq_true, Bool.not_eq_false] at hbad
    have hrefuses : s.refuses v.zeroed = false := hbad.1
    have hfresh := s.ctxs.fresh s.ctxs.next (le_rfl)
    change ¬ Good (s.context_alloc v.zeroed luck)
    unfold Session.context_alloc
    rw [if_neg (by simp [hrefuses, hbad.2.1]), if_neg (by simp [hbad.2.2])]
    exact h.not_good_context_free (by simp [h.listed, hfresh]) rfl rfl rfl
  | alloc_slot c =>
    simp only [Careful, not_forall] at hbad
    obtain ⟨v, hv, hstage, hfind⟩ := hbad
    have hhashed : v.hashed = true := by simpa [hstage] using h.hashed c v hv
    have hnot : c ∉ s.listed := by simp [h.mem_listed_iff hv, Ctx.linked, hstage]
    have hstep : s.step (.alloc_slot c) = { s with jobid := s.jobid + 1 }.context_free c v := by
      simp [Session.step, Session.at_stage, show s.ctxs.cell c = some v from hv, hstage,
        Session.alloc_slot, Option.not_isSome_iff_eq_none.1 hfind]
    rw [hstep]
    exact h.not_good_context_free hnot hhashed rfl rfl
  | alloc_publish | context_save_interrupted | context_restore_interrupted
  | fastrpc_rpmsg_callback | free_slot | free_list | list_dtor | other => exact absurd trivial hbad

end Steps

lemma inv_start (table : ℕ → Bool) (jobid : ℕ) : Inv (.start table jobid) := by
  refine ⟨nodup_nil, fun c => ?_, fun i c => ?_, nofun, rfl⟩
  · simp [Session.start, Session.listed, Heap.empty]
  · simp only [Session.start, Heap.empty, Option.any_none, Bool.false_eq_true, iff_false]
    split_ifs <;> simp

/-- **The books of a session are exact** in every state of a run exactly when no allocation of the
run fails once it has its memory. -/
theorem context_books_iff (table : ℕ → Bool) (jobid : ℕ) (l : List Act) :
    (∀ l', l' <+: l → Good (Run.exec Session.step (.start table jobid) l')) ↔
      Run.Ok Session.step Careful (.start table jobid) l :=
  Run.prefix_good_iff (fun _ h => h.good) (fun _ a h hok => h.step a hok)
    (fun _ a h hbad => h.not_good a hbad) l (inv_start table jobid)

/-- The arguments of a call cannot be copied. After that no call of a user is let in. -/
theorem failed_alloc_locks_out : let v : Ctx := ⟨false, 100, 0, 1, false, 0, true, false, .building⟩
    let s := (Session.start (fun _ => false) 1).step
      (.context_alloc v ⟨true, false, true, true, true, true, true⟩)
    s.listed = [] ∧ s.num_active_ctxs = 2 ^ 32 - 1 ∧ ¬ Good s ∧ s.refuses v = true := by
  refine ⟨rfl, rfl, fun h => ?_, rfl⟩
  exact absurd h.count (by decide)

end KernelExtra.Fastrpc.Contexts
