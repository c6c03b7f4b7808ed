/-
Submitting to a context, `adreno_dispatcher_queue_cmds` of `drivers/gpu/msm/adreno_dispatch.c`.

If it returns an error other than `-EPROTO`, its callers in `kgsl.c` destroy all the objects they
passed, so an error must leave none behind. It does not always: an object that cannot have the
timestamp the user supplied is found out only when its turn comes.
-/
import KernelExtra.Kgsl.Drawqueue

namespace KernelExtra.Kgsl

open List

/-- What a submission depends on. -/
structure Device where
  context_drawqueue_size : ℕ
  is_a3xx : Bool
  gpuaddr_in_range : ℕ → Bool

/-- A submission: its objects and what it is called with. -/
structure Submission where
  drawobj : List Drawobj
  timestamp : UInt32
  alloc : Bool
  deriving DecidableEq

def Submission.count (sub : Submission) : ℕ := sub.drawobj.length

/-! ## Before the lock -/

def check_context_state (ctx : Drawctxt) : Except Errno Unit :=
  if ctx.invalid then .error .EDEADLK
  else if ctx.detached then .error .ENOENT
  else .ok ()

lemma check_context_state_ok {ctx : Drawctxt} (h : check_context_state ctx = .ok ()) :
    ctx.invalid = false ∧ ctx.detached = false := by
  unfold check_context_state at h
  split_ifs at h with hi hd
  exact ⟨by simpa using hi, by simpa using hd⟩

def verify_ib (D : Device) (ib : Ib) : Bool :=
  !(ib.size == 0 || decide (ib.size >>> 2 > 0xFFFFF)) &&
    !(!D.gpuaddr_in_range ib.gpuaddr || decide (ib.gpuaddr % 4 ≠ 0))

def verify_cmdobj (D : Device) : List Drawobj → Except Errno Unit
  | [] => .ok ()
  | o :: os =>
    if o.type = .CMDOBJ ∧ ¬ o.cmdlist.all (verify_ib D) then .error .EINVAL
    else if D.is_a3xx && o.profiling then .error .EOPNOTSUPP
    else verify_cmdobj D os

/-- What is checked before the queue is looked at. -/
def early_checks (D : Device) (sub : Submission) (ctx : Drawctxt) : Except Errno Unit :=
  if sub.count = 0 ∨ sub.count > D.context_drawqueue_size - 1 then .error .EINVAL
  else do
    check_context_state ctx
    verify_cmdobj D sub.drawobj
    if sub.alloc then .ok () else .error .ENOMEM

/-- The queue has no room for the submission. -/
def no_room (D : Device) (count : ℕ) (ctx : Drawctxt) : Bool :=
  decide (ctx.queued + count > D.context_drawqueue_size - 1)

def check_context_queue (D : Device) (count : ℕ) (ctx : Drawctxt) : Bool :=
  ctx.invalid || decide (ctx.queued + count < D.context_drawqueue_size)

/-- How a wait for room ends. -/
inductive Wake where
  | condition
  | timeout
  | signal
  deriving DecidableEq

/-- `_wait_for_room_in_context_queue` after the sleep. The room is not looked at again. -/
def after_sleep (wake : Wake) (ctx : Drawctxt) : Except Errno Unit :=
  match wake with
  | .condition => check_context_state ctx
  | .timeout => .error .ETIMEDOUT
  | .signal => .error .ERESTARTSYS

/-! ## Under the lock -/

/-- The objects are queued one after the other, until one fails. -/
def queue_objs (user_ts : UInt32) : Drawctxt → List Drawobj → Drawctxt × Except Errno Bool
  | ctx, [] => (ctx, .ok false)
  | ctx, o :: os =>
    match queue_obj ctx o user_ts with
    | .error e => (ctx, .error e)
    | .ok (ctx, true) => (ctx, .ok true)
    | .ok (ctx, false) => queue_objs user_ts ctx os

def bad_user_ts (sub : Submission) (ctx : Drawctxt) : Bool :=
  !(sub.count == 1 && sub.drawobj.head?.any fun o => o.type = .SYNCOBJ) &&
    ctx.user_generated_ts && decide (timestamp_cmp ctx.timestamp sub.timestamp ≥ 0)

def queue_locked (sub : Submission) (ctx : Drawctxt) : Drawctxt × Except Errno Unit :=
  if bad_user_ts sub ctx then (ctx, .error .ERANGE)
  else
    match queue_objs sub.timestamp ctx sub.drawobj with
    | (ctx, .error e) => (ctx, .error e)
    | (ctx, .ok _) =>
      -- `done`: report an earlier fault once
      ({ ctx with fault := false }, if ctx.fault then .error .EPROTO else .ok ())

/-- The context as the call finds it once it may queue, or why it may not. -/
def enter (D : Device) (sub : Submission) (ctx : Drawctxt) (wake : Wake) (woken : Drawctxt) :
    Drawctxt × Except Errno Unit :=
  match early_checks D sub ctx with
  | .error e => (ctx, .error e)
  | .ok () =>
    if no_room D sub.count ctx then (woken, after_sleep wake woken) else (ctx, .ok ())

/-- A submission from the call to its end. -/
def adreno_dispatcher_queue_cmds (D : Device) (sub : Submission) (ctx : Drawctxt) (wake : Wake)
    (woken : Drawctxt) : Drawctxt × Except Errno Unit :=
  match enter D sub ctx wake woken with
  | (base, .error e) => (base, .error e)
  | (base, .ok ()) => queue_locked sub base

/-! ## What queueing changes -/

variable {D : Device} {sub : Submission} {ctx : Drawctxt} {user_ts : UInt32}

/-- **The objects queued are a prefix of those submitted**, at the end of the queue
and in their order. -/
theorem gains_queue_objs (user_ts : UInt32) (ctx : Drawctxt) (os : List Drawobj) :
    ∃ pre, pre <+: os ∧ ctx.Gains (queue_objs user_ts ctx os).1 (pre.map Drawobj.key) := by
  induction os generalizing ctx with
  | nil => exact ⟨[], prefix_refl _, .nil rfl rfl rfl rfl rfl rfl⟩
  | cons o os ih =>
    rw [queue_objs]
    split
    · exact ⟨[], nil_prefix, .nil rfl rfl rfl rfl rfl rfl⟩
    · rename_i ctx' hq
      exact ⟨[], nil_prefix, gains_queue_obj hq⟩
    · rename_i ctx' hq
      obtain ⟨pre, hpre, hgain⟩ := ih ctx'
      refine ⟨o :: pre, cons_prefix_cons.mpr ⟨rfl, hpre⟩, ?_⟩
      exact (gains_queue_obj hq).trans hgain

lemma gains_queue_locked (sub : Submission) (ctx : Drawctxt) :
    ∃ pre, pre <+: sub.drawobj ∧ ctx.Gains (queue_locked sub ctx).1 (pre.map Drawobj.key) := by
  unfold queue_locked
  split
  · exact ⟨[], nil_prefix, .nil rfl rfl rfl rfl rfl rfl⟩
  · obtain ⟨pre, hpre, hgain⟩ := gains_queue_objs sub.timestamp ctx sub.drawobj
    refine ⟨pre, hpre, ?_⟩
    split
    · rename_i ctx' e hq
      rwa [hq] at hgain
    · rename_i ctx' b hq
      rw [hq] at hgain
      have hdone : ctx'.Gains { ctx' with fault := false } [] := .nil rfl rfl rfl rfl rfl rfl
      have h := hgain.trans hdone
      rwa [append_nil] at h

/-! ## When a timestamp is refused -/

def Drawobj.takes_timestamp (o : Drawobj) : Bool := decide (o.type ≠ .SYNCOBJ)

def retires_at_once (ctx : Drawctxt) (os : List Drawobj) : Bool :=
  (os.head?.any fun o => o.type = .MARKEROBJ) && ctx.queued == 0 &&
    kgsl_check_timestamp ctx ctx.queued_timestamp

section

variable {o : Drawobj} {timestamp : UInt32}

lemma queue_markerobj_of_timestamp (htype : o.type = .MARKEROBJ)
    (hts : get_timestamp ctx o user_ts =
      .ok ({ ctx with timestamp := timestamp }, { o with timestamp := timestamp })) :
    ∃ ctx', drawctxt_queue_markerobj ctx o user_ts = .ok (ctx', retires_at_once ctx [o]) ∧
      ctx'.timestamp = timestamp ∧ ctx'.user_generated_ts = ctx.user_generated_ts ∧
      ctx'.queued = ctx.queued + if retires_at_once ctx [o] then 0 else 1 := by
  have hiff : retires_at_once ctx [o] = true ↔
      ctx.queued = 0 ∧ kgsl_check_timestamp ctx ctx.queued_timestamp = true := by
    simp [retires_at_once, htype]
  unfold drawctxt_queue_markerobj
  rw [hts]
  by_cases hnow : ctx.queued = 0 ∧ kgsl_check_timestamp ctx ctx.queued_timestamp = true
  · rw [hiff.mpr hnow]
    exact ⟨_, if_pos hnow, rfl, rfl, rfl⟩
  · rw [Bool.eq_false_iff.mpr (fun h => hnow (hiff.mp h))]
    exact ⟨_, if_neg hnow, rfl, rfl, rfl⟩

lemma queue_obj_of_timestamp (htakes : o.takes_timestamp = true)
    (hts : get_timestamp ctx o user_ts =
      .ok ({ ctx with timestamp := timestamp }, { o with timestamp := timestamp })) :
    ∃ ctx', queue_obj ctx o user_ts = .ok (ctx', retires_at_once ctx [o]) ∧
      ctx'.timestamp = timestamp ∧ ctx'.user_generated_ts = ctx.user_generated_ts ∧
      ctx'.queued = ctx.queued + if retires_at_once ctx [o] then 0 else 1 := by
  rw [Drawobj.takes_timestamp, decide_eq_true_eq] at htakes
  unfold queue_obj
  split
  · rename_i htype
    exact queue_markerobj_of_timestamp htype hts
  · rename_i htype
    rw [drawctxt_queue_cmdobj, hts,
      show retires_at_once ctx [o] = false by simp [retires_at_once, htype]]
    exact ⟨_, rfl, rfl, rfl, rfl⟩
  · rename_i htype
    exact absurd htype htakes
  · rename_i htype
    rw [drawctxt_queue_auxobj, hts,
      show retires_at_once ctx [o] = false by simp [retires_at_once, htype]]
    exact ⟨_, rfl, rfl, rfl, rfl⟩

lemma queue_obj_of_refused (htakes : o.takes_timestamp = true)
    (hts : get_timestamp ctx o user_ts = .error .ERANGE) :
    queue_obj ctx o user_ts = .error .ERANGE := by
  rw [Drawobj.takes_timestamp, decide_eq_true_eq] at htakes
  unfold queue_obj drawctxt_queue_markerobj drawctxt_queue_cmdobj drawctxt_queue_auxobj
  rw [hts]
  split
  · rfl
  · rfl
  · rename_i htype
    exact absurd htype htakes
  · rfl

lemma queue_obj_of_sync (htakes : o.takes_timestamp = false) :
    queue_obj ctx o user_ts = .ok (drawctxt_queue_syncobj ctx o, false) := by
  have htype : o.type = .SYNCOBJ := by simpa [Drawobj.takes_timestamp] using htakes
  unfold queue_obj
  rw [htype]

end

/-- What a submission leaves in the queue if it is taken: all of it, or nothing if it begins with a
marker that retires on the spot. -/
def Submission.queues (sub : Submission) (ctx : Drawctxt) : List (ℕ × DrawobjType) :=
  if retires_at_once ctx sub.drawobj then [] else sub.drawobj.map Drawobj.key

lemma queue_objs_of_own_ts (h : ctx.user_generated_ts = false) (os : List Drawobj) :
    ∃ done, (queue_objs user_ts ctx os).2 = .ok done := by
  induction os generalizing ctx with
  | nil => exact ⟨false, rfl⟩
  | cons o os ih =>
    obtain ⟨ctx', done, hq, hown⟩ : ∃ ctx' done, queue_obj ctx o user_ts = .ok (ctx', done) ∧
        ctx'.user_generated_ts = false := by
      cases htakes : o.takes_timestamp with
      | false => exact ⟨_, _, queue_obj_of_sync htakes, h⟩
      | true =>
        have hts : get_timestamp ctx o user_ts = .ok ({ ctx with timestamp := ctx.timestamp + 1 },
            { o with timestamp := ctx.timestamp + 1 }) := by simp [get_timestamp, h]
        obtain ⟨ctx', hq, -, hown, -⟩ := queue_obj_of_timestamp htakes hts
        exact ⟨ctx', _, hq, hown.trans h⟩
    rw [queue_objs, hq]
    cases done with
    | true => exact ⟨true, rfl⟩
    | false => exact ih hown

lemma queue_objs_of_used_ts (h : ctx.user_generated_ts = true) (hused : ctx.timestamp = user_ts)
    (os : List Drawobj) :
    if os.any Drawobj.takes_timestamp then
      (queue_objs user_ts ctx os).2 = .error .ERANGE ∧
        ctx.queued ≤ (queue_objs user_ts ctx os).1.queued
    else ∃ done, (queue_objs user_ts ctx os).2 = .ok done := by
  induction os generalizing ctx with
  | nil => exact ⟨false, rfl⟩
  | cons o os ih =>
    cases htakes : o.takes_timestamp with
    | true =>
      have hts : get_timestamp ctx o user_ts = .error .ERANGE := by
        simp [get_timestamp, h, hused]
      rw [queue_objs, queue_obj_of_refused htakes hts, any_cons, htakes, Bool.true_or]
      exact ⟨rfl, le_rfl⟩
    | false =>
      have hrest := @ih (drawctxt_queue_syncobj ctx o) h hused
      rw [queue_objs, queue_obj_of_sync htakes, any_cons, htakes, Bool.false_or]
      split
      · rename_i hany
        rw [if_pos hany] at hrest
        exact ⟨hrest.1, (Nat.le_succ ctx.queued).trans hrest.2⟩
      · rename_i hany
        rwa [if_neg hany] at hrest

lemma queue_objs_of_new_ts (h : ctx.user_generated_ts = true)
    (hnew : timestamp_cmp ctx.timestamp user_ts < 0) (os : List Drawobj) :
    if 2 ≤ os.countP Drawobj.takes_timestamp ∧ retires_at_once ctx os = false then
      (queue_objs user_ts ctx os).2 = .error .ERANGE ∧
        ctx.queued < (queue_objs user_ts ctx os).1.queued
    else ∃ done, (queue_objs user_ts ctx os).2 = .ok done := by
  induction os generalizing ctx with
  | nil => exact ⟨false, rfl⟩
  | cons o os ih =>
    cases htakes : o.takes_timestamp with
    | false =>
      -- a sync object is queued, so no marker behind it can retire at once
      have hrest := @ih (drawctxt_queue_syncobj ctx o) h hnew
      have htype : o.type = .SYNCOBJ := by simpa [Drawobj.takes_timestamp] using htakes
      have hthis : retires_at_once ctx (o :: os) = false := by simp [retires_at_once, htype]
      have hnext : retires_at_once (drawctxt_queue_syncobj ctx o) os = false := by
        simp [retires_at_once, drawctxt_queue_syncobj, queue_drawobj]
      rw [hnext] at hrest
      rw [queue_objs, queue_obj_of_sync htakes, countP_cons_of_neg (by simp [htakes]), hthis]
      split
      · rename_i hcount
        rw [if_pos hcount] at hrest
        exact ⟨hrest.1, (Nat.lt_succ_self ctx.queued).trans hrest.2⟩
      · rename_i hcount
        rwa [if_neg hcount] at hrest
    | true =>
      have hts : get_timestamp ctx o user_ts =
          .ok ({ ctx with timestamp := user_ts }, { o with timestamp := user_ts }) := by
        simp [get_timestamp, h, hnew]
      obtain ⟨ctx', hq, hused, huser, hqueued⟩ := queue_obj_of_timestamp htakes hts
      have hthis : retires_at_once ctx (o :: os) = retires_at_once ctx [o] := rfl
      rw [queue_objs, hq, countP_cons_of_pos htakes, hthis]
      cases hretires : retires_at_once ctx [o] with
      | true =>
        rw [if_neg (by simp)]
        exact ⟨true, rfl⟩
      | false =>
        have hrest := queue_objs_of_used_ts (huser.trans h) hused os
        rw [hretires] at hqueued
        split
        · rw [if_pos (any_eq_true.mpr (countP_pos_iff.mp (by omega)))] at hrest
          refine ⟨hrest.1, ?_⟩
          change ctx.queued < (queue_objs user_ts ctx' os).1.queued
          rw [if_neg Bool.false_ne_true] at hqueued
          omega
        · rename_i hcount
          rw [if_neg] at hrest
          · exact hrest
          · rw [any_eq_true, ← countP_pos_iff]
            intro hpos
            exact hcount ⟨by omega, rfl⟩

/-! ## All or nothing -/

def Drawctxt.queued_ids (ctx : Drawctxt) : List ℕ :=
  (ctx.drawqueue.toList ADRENO_CONTEXT_DRAWQUEUE_SIZE).map Drawobj.id

/-- After an error for which the callers destroy the objects, nothing has changed. -/
def AllOrNothing (sub : Submission) (base : Drawctxt) (r : Drawctxt × Except Errno Unit) : Prop :=
  ∀ e, r.2 = .error e → e ≠ .EPROTO →
    (∀ o ∈ sub.drawobj, o.id ∉ r.1.queued_ids) ∧ r.1.queued = base.queued ∧
      r.1.timestamp = base.timestamp ∧ r.1.queued_timestamp = base.queued_timestamp

/-- The user's timestamp passes the check for the whole submission, but two of the
objects take it. -/
def timestamp_taken_twice (sub : Submission) (base : Drawctxt) : Prop :=
  bad_user_ts sub base = false ∧ base.user_generated_ts = true ∧
    2 ≤ sub.drawobj.countP Drawobj.takes_timestamp ∧ retires_at_once base sub.drawobj = false

instance (sub : Submission) (base : Drawctxt) : Decidable (timestamp_taken_twice sub base) := by
  unfold timestamp_taken_twice
  infer_instance

variable {base : Drawctxt}

lemma allOrNothing_of_unchanged {r : Except Errno Unit}
    (hnew : ∀ o ∈ sub.drawobj, o.id ∉ base.queued_ids) : AllOrNothing sub base (base, r) := by
  intro _ _ _
  exact ⟨hnew, rfl, rfl, rfl⟩

/-- The timestamp that passed the check is new to the context when two objects are
to take it: the exception for a single sync object does not apply. -/
lemma timestamp_new_of_taken_twice (h : timestamp_taken_twice sub base) :
    timestamp_cmp base.timestamp sub.timestamp < 0 := by
  obtain ⟨hgood, huser, htwo, -⟩ := h
  have hlen := countP_le_length (p := Drawobj.takes_timestamp) (l := sub.drawobj)
  have hcount : (sub.count == 1) = false := by
    rw [beq_eq_false_iff_ne, Submission.count]
    omega
  simpa [bad_user_ts, hcount, huser] using hgood

lemma queue_objs_of_not_taken_twice (hgood : bad_user_ts sub base = false)
    (h : ¬ timestamp_taken_twice sub base) :
    ∃ done, (queue_objs sub.timestamp base sub.drawobj).2 = .ok done := by
  cases huser : base.user_generated_ts with
  | false => exact queue_objs_of_own_ts huser sub.drawobj
  | true =>
    have hcases : (∃ o, sub.drawobj = [o] ∧ o.takes_timestamp = false) ∨
        timestamp_cmp base.timestamp sub.timestamp < 0 := by
      simp only [bad_user_ts, huser, Bool.and_true, Bool.and_eq_false_iff, Bool.not_eq_false',
        decide_eq_false_iff_not, not_le, Bool.and_eq_true, beq_iff_eq] at hgood
      refine hgood.imp ?_ id
      rintro ⟨hone, hsync⟩
      obtain ⟨o, ho⟩ := length_eq_one_iff.mp hone
      refine ⟨o, ho, ?_⟩
      simpa [ho, Drawobj.takes_timestamp] using hsync
    rcases hcases with ⟨o, ho, hsync⟩ | hnew
    · rw [ho, queue_objs, queue_obj_of_sync hsync]
      exact ⟨false, rfl⟩
    · have hloop := queue_objs_of_new_ts huser hnew sub.drawobj
      rwa [if_neg] at hloop
      rintro ⟨htwo, hretires⟩
      exact h ⟨hgood, huser, htwo, hretires⟩

/-- **A failed submission leaves nothing behind**, exactly unless two of its objects take the user's
timestamp and no marker in front retires at once. -/
theorem failed_submission_leaves_nothing_iff (D : Device) (sub : Submission) (ctx : Drawctxt)
    (wake : Wake) (woken : Drawctxt)
    (hnew : ∀ o ∈ sub.drawobj, o.id ∉ (enter D sub ctx wake woken).1.queued_ids) :
    AllOrNothing sub (enter D sub ctx wake woken).1
        (adreno_dispatcher_queue_cmds D sub ctx wake woken) ↔
      ¬ ((enter D sub ctx wake woken).2 = .ok () ∧
        timestamp_taken_twice sub (enter D sub ctx wake woken).1) := by
  unfold adreno_dispatcher_queue_cmds
  generalize enter D sub ctx wake woken = admitted at hnew ⊢
  obtain ⟨base, e | ⟨⟩⟩ := admitted
  · simpa using allOrNothing_of_unchanged hnew
  · change AllOrNothing sub base (queue_locked sub base) ↔ _
    unfold queue_locked
    constructor
    · rintro hall ⟨-, htwice⟩
      rw [htwice.1, if_neg Bool.false_ne_true] at hall
      have hloop := queue_objs_of_new_ts htwice.2.1 (timestamp_new_of_taken_twice htwice)
        sub.drawobj
      rw [if_pos htwice.2.2] at hloop
      obtain ⟨herr, hqueued⟩ := hloop
      generalize queue_objs sub.timestamp base sub.drawobj = looped at hall herr hqueued
      obtain ⟨left, r⟩ := looped
      obtain rfl : r = .error .ERANGE := herr
      have hsame := (hall .ERANGE rfl (by decide)).2.1
      exact absurd hsame hqueued.ne'
    · intro hnot
      split
      · exact allOrNothing_of_unchanged hnew
      · rename_i hgood
        obtain ⟨done, hdone⟩ := queue_objs_of_not_taken_twice (by simpa using hgood)
          fun htwice => hnot ⟨rfl, htwice⟩
        generalize queue_objs sub.timestamp base sub.drawobj = looped at hdone
        obtain ⟨queued, r⟩ := looped
        obtain rfl : r = .ok done := hdone
        -- what is returned is success or the report of an old fault
        intro e he hproto
        cases hfault : queued.fault with
        | true => simp [hfault, hproto.symm] at he
        | false => simp [hfault] at he

def user_ts_context : Drawctxt where
  invalid := false
  detached := false
  user_generated_ts := true
  ifh_nop := false
  skip_eof := false
  fault := false
  timestamp := 4
  queued_timestamp := 4
  eoptimestamp := 3
  drawqueue := ⟨fun _ => none, 0, 0⟩
  queued := 0
  enqueued := []
  left := []

def default_device : Device := ⟨50, false, fun _ => true⟩

def drawobj_of (id : ℕ) (type : DrawobjType) : Drawobj :=
  ⟨id, type, decide (type = .MARKEROBJ), false, false, [], 0, 0, false⟩

theorem refused_aux_command :
    (adreno_dispatcher_queue_cmds default_device
        ⟨[drawobj_of 1 .SYNCOBJ, drawobj_of 2 .TIMELINEOBJ], 4, true⟩ user_ts_context .condition
        user_ts_context).2 = .error .ERANGE ∧
      AllOrNothing ⟨[drawobj_of 1 .SYNCOBJ, drawobj_of 2 .TIMELINEOBJ], 4, true⟩ user_ts_context
        (adreno_dispatcher_queue_cmds default_device
          ⟨[drawobj_of 1 .SYNCOBJ, drawobj_of 2 .TIMELINEOBJ], 4, true⟩ user_ts_context .condition
          user_ts_context) := by
  refine ⟨by decide +kernel, ?_⟩
  exact (failed_submission_leaves_nothing_iff default_device
    ⟨[drawobj_of 1 .SYNCOBJ, drawobj_of 2 .TIMELINEOBJ], 4, true⟩ user_ts_context .condition
    user_ts_context (by decide +kernel)).mpr (by decide +kernel)

/-- An aux command with two timelines: the second is refused when the first is already in the queue.
-/
theorem second_timeline_refused :
    ¬ AllOrNothing
      ⟨[drawobj_of 1 .SYNCOBJ, drawobj_of 2 .TIMELINEOBJ, drawobj_of 3 .TIMELINEOBJ], 5, true⟩
      user_ts_context
      (adreno_dispatcher_queue_cmds default_device
        ⟨[drawobj_of 1 .SYNCOBJ, drawobj_of 2 .TIMELINEOBJ, drawobj_of 3 .TIMELINEOBJ], 5, true⟩
        user_ts_context .condition user_ts_context) := by
  intro hall
  have h := (hall .ERANGE (by decide +kernel) (by decide)).1 (drawobj_of 1 .SYNCOBJ) (by decide)
  exact h (by decide +kernel)

end KernelExtra.Kgsl
