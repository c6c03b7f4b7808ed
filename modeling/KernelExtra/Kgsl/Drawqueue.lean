/-
The draw queue of a context, `drivers/gpu/msm/adreno_dispatch.c`.

A ring of `ADRENO_CONTEXT_DRAWQUEUE_SIZE` slots. Submitters put objects at the tail; the dispatcher
retires some at the head, and takes out a command to send it to the GPU. Two traces record the
objects as they were queued, and those that left the queue for good, each with its fate.
-/
import KernelExtra.Kgsl.Basic
import KernelExtra.Lib.Ring

namespace KernelExtra.Kgsl

open List

def ADRENO_CONTEXT_DRAWQUEUE_SIZE : ℕ := 128

inductive DrawobjType where
  | CMDOBJ
  | MARKEROBJ
  | SYNCOBJ
  | TIMELINEOBJ
  deriving DecidableEq

/-- An indirect buffer. -/
structure Ib where
  size : ℕ
  gpuaddr : ℕ
  deriving DecidableEq

/-- `struct kgsl_drawobj` with the parts of `kgsl_drawobj_cmd` that are read here. -/
structure Drawobj where
  id : ℕ
  type : DrawobjType
  marker : Bool
  end_of_frame : Bool
  profiling : Bool
  cmdlist : List Ib
  timestamp : UInt32
  marker_timestamp : UInt32
  skip : Bool
  deriving DecidableEq

def Drawobj.key (o : Drawobj) : ℕ × DrawobjType := (o.id, o.type)

/-- How an object left. An expired marker has the timestamp it waited for and the one that had
retired. -/
inductive Fate where
  | sent
  | expired (marker_timestamp eoptimestamp : UInt32)
  | synced
  | signalled
  | destroyed
  deriving DecidableEq

/-- A context with its queue, and the trace of what went in and out. -/
structure Drawctxt where
  invalid : Bool
  detached : Bool
  user_generated_ts : Bool
  ifh_nop : Bool
  skip_eof : Bool
  fault : Bool
  timestamp : UInt32
  queued_timestamp : UInt32
  eoptimestamp : UInt32
  drawqueue : Ring Drawobj
  queued : ℕ
  /-- Trace: what was queued, oldest first. -/
  enqueued : List (ℕ × DrawobjType)
  /-- Trace: what has left the queue for good, oldest first. -/
  left : List ((ℕ × DrawobjType) × Fate)

/-! ## Putting objects in -/

section

variable (ctx : Drawctxt)

def kgsl_check_timestamp (timestamp : UInt32) : Bool :=
  decide (timestamp_cmp ctx.eoptimestamp timestamp ≥ 0)

def get_timestamp (o : Drawobj) (user_ts : UInt32) :
    Except Errno (Drawctxt × Drawobj) :=
  if ctx.user_generated_ts then
    if timestamp_cmp ctx.timestamp user_ts ≥ 0 then .error .ERANGE
    else .ok ({ ctx with timestamp := user_ts }, { o with timestamp := user_ts })
  else
    .ok ({ ctx with timestamp := ctx.timestamp + 1 }, { o with timestamp := ctx.timestamp + 1 })

def retire_timestamp (o : Drawobj) : Drawctxt :=
  { ctx with eoptimestamp := o.timestamp }

def cmdobj_set_flags (o : Drawobj) : Drawctxt × Drawobj :=
  ({ ctx with skip_eof := ctx.skip_eof && !o.end_of_frame },
    { o with skip := o.skip || ctx.ifh_nop || ctx.skip_eof })

/-- The object goes into the ring. -/
def queue_drawobj (o : Drawobj) : Drawctxt :=
  { ctx with
    drawqueue := ctx.drawqueue.push ADRENO_CONTEXT_DRAWQUEUE_SIZE o
    queued := ctx.queued + 1
    enqueued := ctx.enqueued ++ [o.key] }

def drawctxt_queue_auxobj (o : Drawobj) (user_ts : UInt32) :
    Except Errno Drawctxt := do
  let (ctx, o) ← get_timestamp ctx o user_ts
  let ctx := { ctx with queued_timestamp := o.timestamp }
  return queue_drawobj ctx o

end

/-- `drawctxt_queue_markerobj`; the flag says that the marker was retired on the
spot (the function returns 1). -/
def drawctxt_queue_markerobj (ctx : Drawctxt) (o : Drawobj) (user_ts : UInt32) :
    Except Errno (Drawctxt × Bool) := do
  let (ctx, o) ← get_timestamp ctx o user_ts
  -- nothing is queued and nothing is in flight: do not bother the GPU
  if ctx.queued = 0 ∧ kgsl_check_timestamp ctx ctx.queued_timestamp then
    return (retire_timestamp ctx o, true)
  else
    let o := { o with marker_timestamp := ctx.queued_timestamp }
    let ctx := { ctx with queued_timestamp := o.timestamp }
    let (ctx, o) := cmdobj_set_flags ctx o
    return (queue_drawobj ctx o, false)

def Drawobj.set_skip (o : Drawobj) : Drawobj :=
  if o.type = .MARKEROBJ then { o with skip := true } else o

def drawctxt_queue_cmdobj (ctx : Drawctxt) (o : Drawobj) (user_ts : UInt32) :
    Except Errno Drawctxt := do
  let (ctx, o) ← get_timestamp ctx o user_ts
  let ctx := { ctx with
    drawqueue := ctx.drawqueue.modify ADRENO_CONTEXT_DRAWQUEUE_SIZE Drawobj.set_skip
    queued_timestamp := o.timestamp }
  let (ctx, o) := cmdobj_set_flags ctx o
  return queue_drawobj ctx o

def drawctxt_queue_syncobj (ctx : Drawctxt) (o : Drawobj) : Drawctxt :=
  queue_drawobj ctx { o with timestamp := 0 }

/-- One turn of the loop of `adreno_dispatcher_queue_cmds`; the flag says that the
loop is left for `done`. -/
def queue_obj (ctx : Drawctxt) (o : Drawobj) (user_ts : UInt32) : Except Errno (Drawctxt × Bool) :=
  match o.type with
  | .MARKEROBJ => drawctxt_queue_markerobj ctx o user_ts
  | .CMDOBJ => (drawctxt_queue_cmdobj ctx o user_ts).map fun ctx => (ctx, false)
  | .SYNCOBJ => .ok (drawctxt_queue_syncobj ctx o, false)
  | .TIMELINEOBJ => (drawctxt_queue_auxobj ctx o user_ts).map fun ctx => (ctx, false)

/-! ## Taking objects out -/

def pop_drawobj (ctx : Drawctxt) : Drawctxt :=
  { ctx with
    drawqueue := ctx.drawqueue.pop ADRENO_CONTEXT_DRAWQUEUE_SIZE
    queued := ctx.queued - 1 }

def Drawctxt.leave (ctx : Drawctxt) (o : Drawobj) (fate : Fate) : Drawctxt :=
  { ctx with left := ctx.left ++ [(o.key, fate)] }

def marker_expired (ctx : Drawctxt) (o : Drawobj) : Bool :=
  o.marker && kgsl_check_timestamp ctx o.marker_timestamp

/-- What becomes of an object at the front of the queue. -/
inductive Verdict where
  | retired
  | again
  | dispatch
  deriving DecidableEq

/-- A marker that has not expired blocks the queue, unless a command behind it set its skip bit. -/
def dispatch_retire_markerobj (o : Drawobj) (ctx : Drawctxt) : Drawctxt × Verdict :=
  if marker_expired ctx o then
    ((retire_timestamp (pop_drawobj ctx) o).leave o
      (.expired o.marker_timestamp ctx.eoptimestamp), .retired)
  else if o.skip then (ctx, .dispatch)
  else (ctx, .again)

def dispatch_retire_syncobj (pending : Bool) (o : Drawobj) (ctx : Drawctxt) : Drawctxt × Verdict :=
  if !pending then ((pop_drawobj ctx).leave o .synced, .retired) else (ctx, .again)

def drawqueue_retire_timelineobj (o : Drawobj) (ctx : Drawctxt) : Drawctxt × Verdict :=
  ((retire_timestamp (pop_drawobj ctx) o).leave o .signalled, .retired)

/-- What becomes of the object at the front. -/
def retire_drawobj (pending : ℕ → Bool) (o : Drawobj) (ctx : Drawctxt) : Drawctxt × Verdict :=
  match o.type with
  | .CMDOBJ => (ctx, .dispatch)
  | .MARKEROBJ => dispatch_retire_markerobj o ctx
  | .SYNCOBJ => dispatch_retire_syncobj (pending o.id) o ctx
  | .TIMELINEOBJ => drawqueue_retire_timelineobj o ctx

/-- What `next_drawobj` returns. -/
inductive Next where
  | null
  | again
  | send (o : Drawobj)
  deriving DecidableEq

/-- The loop of `_process_drawqueue_get_next_drawobj`; the fuel is the number of slots. `pending`
tells of each sync object whether it has events pending. -/
def process_from (pending : ℕ → Bool) : ℕ → ℕ → Drawctxt → Drawctxt × Next
  | 0, _, ctx => (ctx, .null)
  | fuel + 1, i, ctx =>
    if i = ctx.drawqueue.tail then (ctx, .null)
    else
      match ctx.drawqueue.slots i with
      | none => (ctx, .null)
      | some o =>
        match retire_drawobj pending o ctx with
        | (ctx, .dispatch) => (ctx, .send o)
        | (ctx, .again) => (ctx, .again)
        | (ctx, .retired) =>
          process_from pending fuel (Ring.next ADRENO_CONTEXT_DRAWQUEUE_SIZE i) ctx

/-- Objects leave the front until one is to be sent. -/
def process_drawqueue_get_next_drawobj (pending : ℕ → Bool) (ctx : Drawctxt) : Drawctxt × Next :=
  process_from pending ADRENO_CONTEXT_DRAWQUEUE_SIZE ctx.drawqueue.head ctx

def adreno_dispatcher_requeue_cmdobj (ctx : Drawctxt) (o : Drawobj) : Drawctxt :=
  -- the context is bad: get rid of the object
  if ctx.detached || ctx.invalid then ctx.leave o .destroyed
  else
    { ctx with
      drawqueue := ctx.drawqueue.unpop ADRENO_CONTEXT_DRAWQUEUE_SIZE o
      queued := ctx.queued + 1 }

/-- All objects leave. -/
def drawctxt_detach_drawobjs (ctx : Drawctxt) : Drawctxt :=
  { ctx with
    drawqueue := { ctx.drawqueue with head := ctx.drawqueue.tail }
    left := ctx.left ++
      (ctx.drawqueue.toList ADRENO_CONTEXT_DRAWQUEUE_SIZE).map fun o => (o.key, .destroyed) }

/-! ## The queue as a list -/

/-- The ring holds `l`, and the count is right. -/
structure Drawctxt.Holds (ctx : Drawctxt) (l : List Drawobj) : Prop where
  ring : ctx.drawqueue.Holds ADRENO_CONTEXT_DRAWQUEUE_SIZE l
  count : ctx.queued = l.length

/-- Only `ks` has gone in. -/
structure Drawctxt.Gains (ctx ctx' : Drawctxt) (ks : List (ℕ × DrawobjType)) : Prop where
  enqueued : ctx'.enqueued = ctx.enqueued ++ ks
  left : ctx'.left = ctx.left
  invalid : ctx'.invalid = ctx.invalid
  detached : ctx'.detached = ctx.detached
  holds : ∀ l, ctx.Holds l → l.length + ks.length < ADRENO_CONTEXT_DRAWQUEUE_SIZE →
    ∃ l', ctx'.Holds l' ∧ l'.map Drawobj.key = l.map Drawobj.key ++ ks

variable {ctx ctx' ctx'' : Drawctxt} {o o' : Drawobj} {user_ts : UInt32}

lemma Drawctxt.Gains.trans {ks ks' : List (ℕ × DrawobjType)} (h : ctx.Gains ctx' ks)
    (h' : ctx'.Gains ctx'' ks') : ctx.Gains ctx'' (ks ++ ks') where
  enqueued := by rw [h'.enqueued, h.enqueued, append_assoc]
  left := h'.left.trans h.left
  invalid := h'.invalid.trans h.invalid
  detached := h'.detached.trans h.detached
  holds l hl hroom := by
    rw [length_append] at hroom
    obtain ⟨l', hl', hkeys⟩ := h.holds l hl (by omega)
    have hlen : l'.length = l.length + ks.length := by
      have := congrArg length hkeys
      simpa using this
    obtain ⟨l'', hl'', hkeys'⟩ := h'.holds l' hl' (by omega)
    exact ⟨l'', hl'', by rw [hkeys', hkeys, append_assoc]⟩

lemma Drawctxt.Gains.nil (hq : ctx'.drawqueue = ctx.drawqueue) (hn : ctx'.queued = ctx.queued)
    (he : ctx'.enqueued = ctx.enqueued) (hl : ctx'.left = ctx.left)
    (hi : ctx'.invalid = ctx.invalid) (hd : ctx'.detached = ctx.detached) :
    ctx.Gains ctx' [] where
  enqueued := by rw [he, append_nil]
  left := hl
  invalid := hi
  detached := hd
  holds l h _ := ⟨l, ⟨hq ▸ h.ring, hn.trans h.count⟩, by rw [append_nil]⟩

lemma gains_queue_drawobj (ctx : Drawctxt) (o : Drawobj) :
    ctx.Gains (queue_drawobj ctx o) [o.key] where
  enqueued := rfl
  left := rfl
  invalid := rfl
  detached := rfl
  holds l h hroom := by
    refine ⟨l ++ [o], ⟨h.ring.push hroom, ?_⟩, by simp⟩
    change ctx.queued + 1 = _
    rw [h.count, length_append, length_singleton]

lemma key_set_skip (o : Drawobj) : o.set_skip.key = o.key := by
  unfold Drawobj.set_skip
  split <;> rfl

lemma gains_get_timestamp (h : get_timestamp ctx o user_ts = .ok (ctx', o')) :
    ctx.Gains ctx' [] ∧ o'.key = o.key ∧ ctx'.queued = ctx.queued := by
  unfold get_timestamp at h
  split at h
  · split at h
    · cases h
    · cases h
      exact ⟨.nil rfl rfl rfl rfl rfl rfl, rfl, rfl⟩
  · cases h
    exact ⟨.nil rfl rfl rfl rfl rfl rfl, rfl, rfl⟩

lemma gains_set_skip (ctx : Drawctxt) (timestamp : UInt32) :
    ctx.Gains { ctx with
      drawqueue := ctx.drawqueue.modify ADRENO_CONTEXT_DRAWQUEUE_SIZE Drawobj.set_skip
      queued_timestamp := timestamp } [] where
  enqueued := by rw [append_nil]
  left := rfl
  invalid := rfl
  detached := rfl
  holds l h _ := by
    refine ⟨l.map Drawobj.set_skip, ⟨h.ring.modify _, by simpa using h.count⟩, ?_⟩
    rw [map_map, append_nil]
    apply map_congr_left
    intro o _
    exact key_set_skip o

lemma gains_queue_flagged (ctx : Drawctxt) (o : Drawobj) :
    ctx.Gains (queue_drawobj (cmdobj_set_flags ctx o).1 (cmdobj_set_flags ctx o).2) [o.key] := by
  have hflags : ctx.Gains (cmdobj_set_flags ctx o).1 [] := .nil rfl rfl rfl rfl rfl rfl
  exact hflags.trans (gains_queue_drawobj (cmdobj_set_flags ctx o).1 (cmdobj_set_flags ctx o).2)

lemma gains_queue_markerobj {done : Bool}
    (h : drawctxt_queue_markerobj ctx o user_ts = .ok (ctx', done)) :
    ctx.Gains ctx' (if done then [] else [o.key]) := by
  obtain ⟨⟨ctx₁, o₁⟩, hts, h⟩ := bind_eq_ok.mp h
  obtain ⟨hgain, hkey, -⟩ := gains_get_timestamp hts
  dsimp only at h
  split at h
  · cases h
    exact hgain.trans (.nil rfl rfl rfl rfl rfl rfl)
  · cases h
    have hmark : ctx₁.Gains { ctx₁ with queued_timestamp := o₁.timestamp } [] :=
      .nil rfl rfl rfl rfl rfl rfl
    have hpush := (hgain.trans hmark).trans (gains_queue_flagged _
      { o₁ with marker_timestamp := ctx₁.queued_timestamp })
    rw [if_neg Bool.false_ne_true, ← hkey]
    exact hpush

lemma gains_queue_cmdobj (h : drawctxt_queue_cmdobj ctx o user_ts = .ok ctx') :
    ctx.Gains ctx' [o.key] := by
  obtain ⟨⟨ctx₁, o₁⟩, hts, h⟩ := bind_eq_ok.mp h
  obtain ⟨hgain, hkey, -⟩ := gains_get_timestamp hts
  cases h
  rw [← hkey]
  exact (hgain.trans (gains_set_skip ctx₁ o₁.timestamp)).trans (gains_queue_flagged _ o₁)

lemma gains_queue_auxobj (h : drawctxt_queue_auxobj ctx o user_ts = .ok ctx') :
    ctx.Gains ctx' [o.key] := by
  obtain ⟨⟨ctx₁, o₁⟩, hts, h⟩ := bind_eq_ok.mp h
  obtain ⟨hgain, hkey, -⟩ := gains_get_timestamp hts
  cases h
  have hmark : ctx₁.Gains { ctx₁ with queued_timestamp := o₁.timestamp } [] :=
    .nil rfl rfl rfl rfl rfl rfl
  rw [← hkey]
  exact (hgain.trans hmark).trans (gains_queue_drawobj _ o₁)

/-- **Queueing one object** puts it at the end, or, for a marker that retires on
the spot, changes nothing in the queue. -/
theorem gains_queue_obj {done : Bool} (h : queue_obj ctx o user_ts = .ok (ctx', done)) :
    ctx.Gains ctx' (if done then [] else [o.key]) := by
  unfold queue_obj at h
  split at h
  · exact gains_queue_markerobj h
  · obtain ⟨ctx₁, hcmd, heq⟩ := map_eq_ok.mp h
    cases heq
    exact gains_queue_cmdobj hcmd
  · cases h
    exact gains_queue_drawobj ctx { o with timestamp := 0 }
  · obtain ⟨ctx₁, haux, heq⟩ := map_eq_ok.mp h
    cases heq
    exact gains_queue_auxobj haux

/-! ## What a look at the head takes out -/

/-- The fate is one that the dispatcher gives an object of this type without sending it. -/
def Retired (pending : ℕ → Bool) (k : (ℕ × DrawobjType) × Fate) : Prop :=
  match k.2 with
  | .expired marker_timestamp eoptimestamp =>
    k.1.2 = .MARKEROBJ ∧ timestamp_cmp eoptimestamp marker_timestamp ≥ 0
  | .synced => k.1.2 = .SYNCOBJ ∧ pending k.1.1 = false
  | .signalled => k.1.2 = .TIMELINEOBJ
  | .sent => False
  | .destroyed => False

/-- Only `ks` has come out. -/
structure Drawctxt.Sheds (ctx ctx' : Drawctxt) (ks : List ((ℕ × DrawobjType) × Fate)) :
    Prop where
  enqueued : ctx'.enqueued = ctx.enqueued
  left : ctx'.left = ctx.left ++ ks
  invalid : ctx'.invalid = ctx.invalid
  detached : ctx'.detached = ctx.detached

lemma Drawctxt.Sheds.refl (ctx : Drawctxt) : ctx.Sheds ctx [] :=
  ⟨rfl, (append_nil _).symm, rfl, rfl⟩

lemma Drawctxt.Sheds.trans {ks ks' : List ((ℕ × DrawobjType) × Fate)} (h : ctx.Sheds ctx' ks)
    (h' : ctx'.Sheds ctx'' ks') : ctx.Sheds ctx'' (ks ++ ks') where
  enqueued := h'.enqueued.trans h.enqueued
  left := by rw [h'.left, h.left, append_assoc]
  invalid := h'.invalid.trans h.invalid
  detached := h'.detached.trans h.detached

lemma Drawctxt.Holds.pop_drawobj {l : List Drawobj} (h : ctx.Holds (o :: l)) :
    (pop_drawobj ctx).Holds l where
  ring := h.ring.pop
  count := by
    change ctx.queued - 1 = l.length
    rw [h.count, length_cons, Nat.add_sub_cancel]

lemma retire_drawobj_cases (pending : ℕ → Bool) (o : Drawobj) (ctx : Drawctxt) :
    (∃ ctx' fate, retire_drawobj pending o ctx = (ctx', .retired) ∧
      ctx.Sheds ctx' [(o.key, fate)] ∧ Retired pending (o.key, fate) ∧
      ∀ l, ctx.Holds (o :: l) → ctx'.Holds l ∧
        ctx'.drawqueue.head = Ring.next ADRENO_CONTEXT_DRAWQUEUE_SIZE ctx.drawqueue.head) ∨
    retire_drawobj pending o ctx = (ctx, .again) ∨
    (o.type = .CMDOBJ ∨ o.type = .MARKEROBJ) ∧ retire_drawobj pending o ctx = (ctx, .dispatch) := by
  -- popping and recording is the same for all three kinds
  have hpop : ∀ (fate : Fate) (ctx' : Drawctxt),
      ctx'.drawqueue = (pop_drawobj ctx).drawqueue → ctx'.queued = (pop_drawobj ctx).queued →
      ∀ l, ctx.Holds (o :: l) →
      (ctx'.leave o fate).Holds l ∧ (ctx'.leave o fate).drawqueue.head =
        Ring.next ADRENO_CONTEXT_DRAWQUEUE_SIZE ctx.drawqueue.head := by
    intro fate ctx' hring hcount l h
    have hp := h.pop_drawobj
    refine ⟨⟨?_, ?_⟩, ?_⟩
    · change ctx'.drawqueue.Holds _ l
      rw [hring]
      exact hp.ring
    · exact hcount.trans hp.count
    · change ctx'.drawqueue.head = _
      rw [hring]
      rfl
  unfold retire_drawobj
  split
  · rename_i htype
    exact .inr (.inr ⟨.inl htype, rfl⟩)
  · rename_i htype
    unfold dispatch_retire_markerobj
    split
    · rename_i hexpired
      rw [marker_expired, Bool.and_eq_true, kgsl_check_timestamp, decide_eq_true_eq] at hexpired
      left
      exact ⟨_, _, rfl, ⟨rfl, rfl, rfl, rfl⟩, ⟨htype, hexpired.2⟩, hpop _ _ rfl rfl⟩
    · split
      · exact .inr (.inr ⟨.inr htype, rfl⟩)
      · exact .inr (.inl rfl)
  · rename_i htype
    unfold dispatch_retire_syncobj
    split
    · rename_i hpending
      left
      exact ⟨_, .synced, rfl, ⟨rfl, rfl, rfl, rfl⟩, ⟨htype, by simpa [Drawobj.key] using hpending⟩,
        hpop .synced _ rfl rfl⟩
    · exact .inr (.inl rfl)
  · rename_i htype
    left
    exact ⟨_, .signalled, rfl, ⟨rfl, rfl, rfl, rfl⟩, htype, hpop .signalled _ rfl rfl⟩

def Next.Fits : Next → List Drawobj → Prop
  | .null, rest => rest = []
  | .again, rest => rest ≠ []
  | .send o, rest => (o.type = .CMDOBJ ∨ o.type = .MARKEROBJ) ∧ ∃ rest', rest = o :: rest'

/-- The walk retires some objects at the front, each for a reason, and stops at
the first one it cannot retire. The induction is on the list in the queue, which
also shows that the fuel is enough. -/
lemma process_from_spec (pending : ℕ → Bool) {l : List Drawobj} {fuel : ℕ}
    (hfuel : l.length < fuel) (h : ctx.Holds l) :
    ∃ gone rest ks, l = gone ++ rest ∧ gone.map Drawobj.key = ks.map Prod.fst ∧
      (∀ k ∈ ks, Retired pending k) ∧
      ctx.Sheds (process_from pending fuel ctx.drawqueue.head ctx).1 ks ∧
      (process_from pending fuel ctx.drawqueue.head ctx).1.Holds rest ∧
      (process_from pending fuel ctx.drawqueue.head ctx).2.Fits rest := by
  induction l generalizing ctx fuel with
  | nil =>
    obtain ⟨fuel, rfl⟩ := Nat.exists_eq_add_of_lt hfuel
    rw [process_from, if_pos (h.ring.head_eq_tail_iff.mpr rfl)]
    exact ⟨[], [], [], rfl, rfl, by simp, .refl ctx, h, rfl⟩
  | cons o l ih =>
    obtain ⟨fuel, rfl⟩ : ∃ f, fuel = f + 1 := ⟨fuel - 1, by omega⟩
    have hne : ctx.drawqueue.head ≠ ctx.drawqueue.tail := by
      intro heq
      exact absurd (h.ring.head_eq_tail_iff.mp heq) (by simp)
    rw [process_from, if_neg hne, h.ring.front]
    dsimp only
    rcases retire_drawobj_cases pending o ctx with
      ⟨ctx', fate, heq, hsheds, hfate, hpop⟩ | heq | ⟨htype, heq⟩
    · obtain ⟨hholds, hhead⟩ := hpop l h
      have hfuel' : l.length < fuel := by simpa using hfuel
      obtain ⟨gone, rest, ks, hl, hkeys, hks, hsheds', hrest, hfits⟩ := ih hfuel' hholds
      rw [heq, ← hhead]
      refine ⟨o :: gone, rest, (o.key, fate) :: ks, by rw [hl, cons_append],
        by simp [hkeys], ?_, hsheds.trans hsheds', hrest, hfits⟩
      rw [forall_mem_cons]
      exact ⟨hfate, hks⟩
    · rw [heq]
      exact ⟨[], o :: l, [], rfl, rfl, by simp, .refl ctx, h, by simp [Next.Fits]⟩
    · rw [heq]
      exact ⟨[], o :: l, [], rfl, rfl, by simp, .refl ctx, h, htype, l, rfl⟩

end KernelExtra.Kgsl
