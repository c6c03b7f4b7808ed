/-
Submitters and the dispatcher at one context, `drivers/gpu/msm/adreno_dispatch.c`.

Any number of threads call `adreno_dispatcher_queue_cmds` under `drawctxt->lock`, which they give up
where they sleep for room. The one dispatcher retires what can be retired, takes a command out,
gives up the lock to send it, and puts it back if that failed. A thread that slept does not ask for
room again when it has the lock, and the answer was given to every sleeper.
-/
import KernelExtra.Kgsl.Submit
import KernelExtra.Lib.Run

namespace KernelExtra.Kgsl

open Run (exec Ok)
open Function List

/-- Where a submitting thread is. -/
inductive Phase where
  | idle
  | asleep (sub : Submission)
  | ready (sub : Submission)
  deriving DecidableEq

/-- A context, the threads that submit to it, and the dispatcher. -/
structure Dispatch (Tid : Type) where
  ctx : Drawctxt
  phase : Tid → Phase
  popped : Option Drawobj
  pending : ℕ → Bool

namespace Dispatch

variable {Tid : Type}

/-- The steps of threads, of the dispatcher and of the GPU. -/
inductive Step (Tid : Type) where
  | submit (t : Tid) (sub : Submission)
  | check (t : Tid)
  | give_up (t : Tid)
  | resume (t : Tid)
  | retire
  | dispatch
  | sendcmd (ret : Option Errno)
  | sync_signalled (id : ℕ)
  | gpu_retired (timestamp : UInt32)
  | invalidate
  | detach

def after_sendcmd (ctx : Drawctxt) (o : Drawobj) : Option Errno → Drawctxt
  | none => ctx.leave o .sent
  | some .ENOENT => ctx.leave o .destroyed
  | some _ => adreno_dispatcher_requeue_cmdobj ctx o

def step [DecidableEq Tid] (D : Device) (s : Dispatch Tid) : Step Tid → Dispatch Tid
  | .submit t sub =>
    match s.phase t, early_checks D sub s.ctx with
    | .idle, .ok () =>
      if no_room D sub.count s.ctx then
        { s with phase := update s.phase t (.asleep sub) }
      else { s with ctx := (queue_locked sub s.ctx).1 }
    | _, _ => s
  | .check t =>
    match s.phase t with
    | .asleep sub =>
      if check_context_queue D sub.count s.ctx then
        { s with phase := update s.phase t (.ready sub) }
      else s
    | _ => s
  | .give_up t =>
    match s.phase t with
    | .asleep _ => { s with phase := update s.phase t .idle }
    | _ => s
  | .resume t =>
    match s.phase t with
    | .ready sub =>
      let s' := { s with phase := update s.phase t .idle }
      match after_sleep .condition s.ctx with
      | .ok () => { s' with ctx := (queue_locked sub s.ctx).1 }
      | .error _ => s'
    | _ => s
  | .retire =>
    match s.popped with
    | none => { s with ctx := (process_drawqueue_get_next_drawobj s.pending s.ctx).1 }
    | some _ => s
  | .dispatch =>
    match s.popped with
    | none =>
      match process_drawqueue_get_next_drawobj s.pending s.ctx with
      | (ctx, .send o) => { s with ctx := pop_drawobj ctx, popped := some o }
      | (ctx, _) => { s with ctx := ctx }
    | some _ => s
  | .sendcmd ret =>
    match s.popped with
    | none => s
    | some o => { s with ctx := after_sendcmd s.ctx o ret, popped := none }
  | .sync_signalled id => { s with pending := update s.pending id false }
  | .gpu_retired timestamp => { s with ctx := { s.ctx with eoptimestamp := timestamp } }
  | .invalidate =>
    { s with ctx :=
        { drawctxt_detach_drawobjs { s.ctx with invalid := true } with
          eoptimestamp := s.ctx.timestamp } }
  | .detach => { s with ctx := drawctxt_detach_drawobjs { s.ctx with detached := true } }

def in_hand (s : Dispatch Tid) : ℕ := s.popped.toList.length

lemma in_hand_le (s : Dispatch Tid) : s.in_hand ≤ 1 := by
  unfold in_hand
  cases s.popped <;> simp

/-- A thread that goes on after its sleep finds room for its objects and for the command that may be
put back. -/
def Roomy (D : Device) (s : Dispatch Tid) : Step Tid → Prop
  | .resume t =>
    match s.phase t with
    | .ready sub =>
      s.ctx.invalid = false → s.ctx.queued + s.in_hand + sub.count ≤ D.context_drawqueue_size
    | _ => True
  | .invalidate => s.ctx.drawqueue.head = s.ctx.drawqueue.tail
  | .detach => s.ctx.drawqueue.head = s.ctx.drawqueue.tail
  | _ => True

/-- Nothing has happened yet. -/
structure Fresh (s : Dispatch Tid) : Prop where
  empty : s.ctx.Holds []
  enqueued : s.ctx.enqueued = []
  left : s.ctx.left = []
  popped : s.popped = none
  phase : ∀ t, s.phase t = .idle

/-! ## The invariant -/

/-- The queue holds what was queued, less what has left and what the dispatcher
has in hand, and both counters are right. -/
structure Keeps (D : Device) (s : Dispatch Tid) (l : List Drawobj) : Prop where
  holds : s.ctx.Holds l
  bound : l.length + s.in_hand ≤ D.context_drawqueue_size
  order : s.ctx.enqueued =
    s.ctx.left.map Prod.fst ++ s.popped.toList.map Drawobj.key ++ l.map Drawobj.key

variable {D : Device} {s : Dispatch Tid} {l : List Drawobj}

lemma Keeps.queue_locked (hD : D.context_drawqueue_size < ADRENO_CONTEXT_DRAWQUEUE_SIZE)
    (h : s.Keeps D l) (sub : Submission)
    (hroom : s.ctx.queued + s.in_hand + sub.count ≤ D.context_drawqueue_size)
    (phase : Tid → Phase) :
    ∃ l', Keeps D { s with ctx := (Kgsl.queue_locked sub s.ctx).1, phase := phase } l' := by
  obtain ⟨pre, hpre, hgain⟩ := gains_queue_locked sub s.ctx
  have hlen : pre.length ≤ sub.count := hpre.length_le
  have hcount := h.holds.count
  obtain ⟨l', hl', hkeys⟩ := hgain.holds l h.holds (by rw [length_map]; omega)
  have hlen' : l'.length = l.length + pre.length := by
    have := congrArg length hkeys
    simpa using this
  refine ⟨l', hl', ?_, ?_⟩
  · change l'.length + s.in_hand ≤ _
    omega
  · rw [hgain.enqueued, hgain.left, h.order, hkeys]
    simp

lemma Keeps.process (hD : D.context_drawqueue_size < ADRENO_CONTEXT_DRAWQUEUE_SIZE)
    (h : s.Keeps D l) (hnone : s.popped = none) :
    ∃ rest ks, rest.length ≤ l.length ∧ (∀ k ∈ ks, Retired s.pending k) ∧
      s.ctx.Sheds (process_drawqueue_get_next_drawobj s.pending s.ctx).1 ks ∧
      (process_drawqueue_get_next_drawobj s.pending s.ctx).2.Fits rest ∧
      Keeps D { s with ctx := (process_drawqueue_get_next_drawobj s.pending s.ctx).1 } rest := by
  have hlt : l.length < ADRENO_CONTEXT_DRAWQUEUE_SIZE := by
    have := h.bound
    omega
  obtain ⟨gone, rest, ks, hl, hkeys, hks, hsheds, hrest, hfits⟩ :=
    process_from_spec s.pending hlt h.holds
  refine ⟨rest, ks, by simp [hl], hks, hsheds, hfits, hrest, ?_, ?_⟩
  · have := h.bound
    rw [hl, length_append] at this
    change rest.length + s.in_hand ≤ _
    omega
  · have hleft : (process_drawqueue_get_next_drawobj s.pending s.ctx).1.left =
      s.ctx.left ++ ks := hsheds.left
    rw [show (process_drawqueue_get_next_drawobj s.pending s.ctx).1.enqueued = s.ctx.enqueued
      from hsheds.enqueued, h.order, hleft, hl, hnone, map_append, map_append, ← hkeys]
    simp

variable {o : Drawobj}

lemma Keeps.take (h : s.Keeps D (o :: l)) (hnone : s.popped = none) :
    Keeps D { s with ctx := pop_drawobj s.ctx, popped := some o } l where
  holds := h.holds.pop_drawobj
  bound := by
    have := h.bound
    rw [length_cons, in_hand, hnone] at this
    simpa [in_hand] using this
  order := by
    change s.ctx.enqueued = s.ctx.left.map Prod.fst ++ _ ++ _
    rw [h.order, hnone]
    simp

lemma Keeps.leave (h : s.Keeps D l) (hsome : s.popped = some o) (fate : Fate) :
    Keeps D { s with ctx := s.ctx.leave o fate, popped := none } l where
  holds := ⟨h.holds.ring, h.holds.count⟩
  bound := (Nat.le_add_right ..).trans h.bound
  order := by
    change s.ctx.enqueued = (s.ctx.left ++ [(o.key, fate)]).map Prod.fst ++ _ ++ _
    rw [h.order, hsome]
    simp

lemma Keeps.requeue (hD : D.context_drawqueue_size < ADRENO_CONTEXT_DRAWQUEUE_SIZE)
    (h : s.Keeps D l) (hsome : s.popped = some o) :
    ∃ l', Keeps D
      { s with ctx := adreno_dispatcher_requeue_cmdobj s.ctx o, popped := none } l' := by
  have hbound := h.bound
  rw [in_hand, hsome, Option.toList_some, length_singleton] at hbound
  unfold adreno_dispatcher_requeue_cmdobj
  split
  · exact ⟨l, h.leave hsome .destroyed⟩
  · refine ⟨o :: l, ⟨h.holds.ring.unpop (by omega), ?_⟩, by simpa [in_hand] using hbound, ?_⟩
    · rw [h.holds.count, length_cons]
    · rw [h.order, hsome]
      simp

lemma Keeps.detach_drawobjs (h : s.Keeps D l)
    (hempty : s.ctx.drawqueue.head = s.ctx.drawqueue.tail) (ctx : Drawctxt)
    (hring : ctx.drawqueue = s.ctx.drawqueue) (hcount : ctx.queued = s.ctx.queued)
    (henq : ctx.enqueued = s.ctx.enqueued) (hleft : ctx.left = s.ctx.left) :
    Keeps D { s with ctx := drawctxt_detach_drawobjs ctx } [] := by
  obtain rfl : l = [] := h.holds.ring.head_eq_tail_iff.mp hempty
  have hlist : ctx.drawqueue.toList ADRENO_CONTEXT_DRAWQUEUE_SIZE = [] := by
    rw [hring]
    exact h.holds.ring.toList_eq
  have hsame : { ctx.drawqueue with head := ctx.drawqueue.tail } = s.ctx.drawqueue := by
    rw [hring, ← hempty]
  refine ⟨⟨?_, hcount.trans h.holds.count⟩, h.bound, ?_⟩
  · change Ring.Holds _ { ctx.drawqueue with head := ctx.drawqueue.tail } []
    rw [hsame]
    exact h.holds.ring
  · change ctx.enqueued = (ctx.left ++ _).map Prod.fst ++ _ ++ _
    rw [hlist, henq, hleft, h.order]
    simp

/-- **One step** that finds room keeps the queue in order. -/
theorem Keeps.step [DecidableEq Tid] (hD : D.context_drawqueue_size < ADRENO_CONTEXT_DRAWQUEUE_SIZE)
    (hpos : 0 < D.context_drawqueue_size) (h : s.Keeps D l) {a : Step Tid} (hroom : s.Roomy D a) :
    ∃ l', (s.step D a).Keeps D l' := by
  have hphase : ∀ phase : Tid → Phase, Keeps D { s with phase := phase } l :=
    fun _ => ⟨h.holds, h.bound, h.order⟩
  cases a with
  | submit t sub =>
    simp only [Dispatch.step]
    split
    · split
      · exact ⟨l, hphase _⟩
      · -- there is room for the objects and for what may be put back
        rename_i hfits
        apply h.queue_locked hD sub
        have hhand := s.in_hand_le
        simp only [no_room, decide_eq_true_eq, not_lt] at hfits
        omega
    · exact ⟨l, h⟩
  | check t =>
    simp only [Dispatch.step]
    split
    · split
      · exact ⟨l, hphase _⟩
      · exact ⟨l, h⟩
    · exact ⟨l, h⟩
  | give_up t =>
    simp only [Dispatch.step]
    split
    · exact ⟨l, hphase _⟩
    · exact ⟨l, h⟩
  | resume t =>
    simp only [Dispatch.step]
    split
    · rename_i sub hready
      simp only [Roomy, hready] at hroom
      split
      · rename_i hstate
        exact h.queue_locked hD sub (hroom (check_context_state_ok hstate).1) _
      · exact ⟨l, hphase _⟩
    · exact ⟨l, h⟩
  | retire =>
    simp only [Dispatch.step]
    split
    · rename_i hnone
      obtain ⟨rest, -, -, -, -, -, hkeeps⟩ := h.process hD hnone
      exact ⟨rest, hkeeps⟩
    · exact ⟨l, h⟩
  | dispatch =>
    simp only [Dispatch.step]
    split
    · rename_i hnone
      obtain ⟨rest, -, -, -, -, hfits, hkeeps⟩ := h.process hD hnone
      generalize process_drawqueue_get_next_drawobj s.pending s.ctx = looked at hfits hkeeps ⊢
      obtain ⟨ctx, next⟩ := looked
      cases next with
      | null => exact ⟨rest, hkeeps⟩
      | again => exact ⟨rest, hkeeps⟩
      | send o =>
        obtain ⟨-, rest', rfl⟩ := hfits
        exact ⟨rest', hkeeps.take hnone⟩
    · exact ⟨l, h⟩
  | sendcmd ret =>
    simp only [Dispatch.step]
    split
    · exact ⟨l, h⟩
    · rename_i o hsome
      unfold after_sendcmd
      split
      · exact ⟨l, h.leave hsome .sent⟩
      · exact ⟨l, h.leave hsome .destroyed⟩
      · exact h.requeue hD hsome
  | sync_signalled id => exact ⟨l, h.holds, h.bound, h.order⟩
  | gpu_retired timestamp => exact ⟨l, ⟨h.holds.ring, h.holds.count⟩, h.bound, h.order⟩
  | invalidate =>
    have hd := h.detach_drawobjs hroom { s.ctx with invalid := true } rfl rfl rfl rfl
    exact ⟨[], ⟨hd.holds.ring, hd.holds.count⟩, hd.bound, hd.order⟩
  | detach =>
    exact ⟨[], h.detach_drawobjs hroom { s.ctx with detached := true } rfl rfl rfl rfl⟩

lemma Fresh.keeps (h : s.Fresh) : s.Keeps D [] where
  holds := h.empty
  bound := by simp [in_hand, h.popped]
  order := by simp [h.enqueued, h.left, h.popped]

/-! ## The bound -/

/-- The slots from the head to the tail hold exactly what was queued and has not left. -/
structure Sound (D : Device) (s : Dispatch Tid) : Prop where
  bound : s.ctx.queued ≤ D.context_drawqueue_size
  count : s.ctx.queued = (s.ctx.drawqueue.tail + ADRENO_CONTEXT_DRAWQUEUE_SIZE -
    s.ctx.drawqueue.head) % ADRENO_CONTEXT_DRAWQUEUE_SIZE
  live : s.ctx.enqueued = s.ctx.left.map Prod.fst ++ s.popped.toList.map Drawobj.key ++
    (s.ctx.drawqueue.toList ADRENO_CONTEXT_DRAWQUEUE_SIZE).map Drawobj.key

lemma Keeps.sound (h : s.Keeps D l) : s.Sound D where
  bound := by
    have := h.bound
    have := h.holds.count
    omega
  count := h.holds.count.trans h.holds.ring.length_eq.symm
  live := by rw [h.holds.ring.toList_eq]; exact h.order

variable [DecidableEq Tid]

/-- **The draw queue never overruns** as long as every thread that goes on after
its sleep finds room. -/
theorem drawqueue_sound_of_roomy (D : Device) (hpos : 0 < D.context_drawqueue_size)
    (hD : D.context_drawqueue_size < ADRENO_CONTEXT_DRAWQUEUE_SIZE)
    (s : Dispatch Tid) (hs : s.Fresh) (steps : List (Step Tid))
    (hok : Ok (Dispatch.step D) (Roomy D) s steps) :
    (exec (Dispatch.step D) s steps).Sound D := by
  have hkeeps : ∃ l, (exec (Dispatch.step D) s steps).Keeps D l := by
    refine Ok.inv (I := fun s : Dispatch Tid => ∃ l, s.Keeps D l) ?_ ⟨[], hs.keeps⟩ hok
    rintro s a ⟨l, hl⟩ hroom
    exact hl.step hD hpos hroom
  obtain ⟨l, hl⟩ := hkeeps
  exact hl.sound

def idle_context : Dispatch (Fin 4) where
  ctx := { user_ts_context with user_generated_ts := false }
  phase _ := .idle
  popped := none
  pending _ := false

def timelines (first n : ℕ) : Submission :=
  ⟨(List.range n).map fun i => drawobj_of (first + i) .TIMELINEOBJ, 0, true⟩

instance (D : Device) (s : Dispatch Tid) (a : Step Tid) : Decidable (s.Roomy D a) := by
  unfold Roomy
  cases a <;> dsimp only <;> try infer_instance
  split <;> infer_instance

lemma idle_context_fresh : idle_context.Fresh where
  empty := ⟨Ring.Holds.empty (by decide) rfl, rfl⟩
  enqueued := rfl
  left := rfl
  popped := rfl
  phase _ := rfl

theorem drawqueue_sound_of_one_sleeper : let steps : List (Step (Fin 4)) :=
      [.submit 0 (timelines 0 49), .submit 1 (timelines 100 49), .retire, .check 1, .resume 1]
    Ok (Dispatch.step default_device) (Roomy default_device) idle_context steps ∧
      (exec (Dispatch.step default_device) idle_context steps).ctx.queued = 49 ∧
      (exec (Dispatch.step default_device) idle_context steps).Sound default_device := by
  intro steps
  have hok : Ok (Dispatch.step default_device) (Roomy default_device) idle_context steps := by
    decide +kernel
  refine ⟨hok, by decide +kernel, ?_⟩
  exact drawqueue_sound_of_roomy default_device (by decide) (by decide) idle_context
    idle_context_fresh steps hok

/-- Three threads are told that there is room, and queue `147` objects in `128` slots. -/
theorem sleepers_overrun_drawqueue :
    let s := exec (Dispatch.step default_device) idle_context
      [.submit 0 (timelines 0 49), .submit 1 (timelines 100 49), .submit 2 (timelines 200 49),
        .submit 3 (timelines 300 49), .retire, .check 1, .check 2, .check 3,
        .resume 1, .resume 2, .resume 3]
    s.ctx.queued = 147 ∧ default_device.context_drawqueue_size = 50 ∧
      (s.ctx.drawqueue.tail + ADRENO_CONTEXT_DRAWQUEUE_SIZE - s.ctx.drawqueue.head) %
        ADRENO_CONTEXT_DRAWQUEUE_SIZE = 19 ∧
      s.ctx.enqueued.length = 49 + 147 ∧ s.ctx.left.length = 49 ∧ s.popped = none ∧
      (s.ctx.drawqueue.toList ADRENO_CONTEXT_DRAWQUEUE_SIZE).length = 19 := by
  decide +kernel

end Dispatch

end KernelExtra.Kgsl
