/-
GPU events, `drivers/gpu/msm/kgsl_events.c`.

An event waits in a group for a timestamp to retire. A signalled event is off the list and its
callback is queued, with its result. The group does nothing if it reads the timestamp it was last
processed at, or one that seems to have slipped back. The model keeps the retired timestamp as a
count that does not wrap, of which the group reads the low 32 bits.
-/
import KernelExtra.Kgsl.Basic
import KernelExtra.Lib.Run

namespace KernelExtra.Kgsl

open Run (exec Ok)
open List

/-- An event with its callback. -/
structure Event where
  timestamp : UInt32
  func : ℕ
  priv : ℕ
  deriving DecidableEq

/-- What the callback is told. -/
inductive EventResult where
  | RETIRED
  | CANCELLED
  deriving DecidableEq

/-- Which function fired the event. -/
inductive Cause where
  | add
  | process
  | flush
  | cancel
  deriving DecidableEq

/-- An event that was fired, and what was known then. -/
structure Fired where
  event : Event
  result : EventResult
  cause : Cause
  retired : UInt32
  deriving DecidableEq

/-- The events of a context. -/
structure EventGroup where
  events : List Event
  processed : UInt32
  total : ℕ
  /-- Trace: the events that `kgsl_add_event` accepted. -/
  added : List Event
  fired : List Fired
  mark : ℕ

def EventGroup.retired (g : EventGroup) : UInt32 := .ofNat g.total

def do_process_group (processed cur : UInt32) : Bool :=
  if processed = cur then false
  -- the timestamp must not have slipped back
  else if cur < processed ∧ processed - cur < KGSL_TIMESTAMP_WINDOW then false
  else true

section

variable (g : EventGroup)

def EventGroup.signal_events (cause : Cause) (result : Event → Option EventResult) : EventGroup :=
  { g with
    events := g.events.filter fun e => (result e).isNone
    fired := g.fired ++ g.events.filterMap fun e =>
      (result e).map fun r => ⟨e, r, cause, g.retired⟩ }

def process_event_group (flush context_get : Bool) : EventGroup :=
  if !context_get then g
  else if !flush && !do_process_group g.processed g.retired then g
  else
    { g.signal_events (if flush then .flush else .process) fun e =>
        if timestamp_cmp e.timestamp g.retired ≤ 0 then some .RETIRED
        else if flush then some .CANCELLED
        else none with
      processed := g.retired
      mark := g.total }

def kgsl_process_event_group (context_get : Bool) : EventGroup :=
  process_event_group g false context_get

def kgsl_flush_event_group (context_get : Bool) : EventGroup :=
  process_event_group g true context_get

def kgsl_cancel_events_timestamp (timestamp : UInt32) : EventGroup :=
  g.signal_events .cancel fun e =>
    if timestamp_cmp timestamp e.timestamp = 0 then some .CANCELLED else none

def kgsl_cancel_events : EventGroup :=
  g.signal_events .cancel fun _ => some .CANCELLED

def kgsl_cancel_event (timestamp : UInt32) (func priv : ℕ) : EventGroup :=
  g.signal_events .cancel fun e =>
    if timestamp = e.timestamp ∧ func = e.func ∧ e.priv = priv then some .CANCELLED else none

end

/-- A call of `kgsl_add_event`. -/
structure AddEvent where
  timestamp : UInt32
  func : Option ℕ
  priv : ℕ
  user_generated_ts : Bool
  queued : UInt32
  alloc : Bool
  context_get : Bool

def kgsl_add_event (g : EventGroup) (a : AddEvent) : EventGroup × Except Errno Unit :=
  match a.func with
  | none => (g, .error .EINVAL)
  | some func =>
    if !a.user_generated_ts && decide (timestamp_cmp a.timestamp a.queued > 0) then
      (g, .error .EINVAL)
    else if !a.alloc then (g, .error .ENOMEM)
    else if !a.context_get then (g, .error .ENOENT)
    else
      let event : Event := ⟨a.timestamp, func, a.priv⟩
      let g := { g with added := g.added ++ [event] }
      -- the timestamp has already retired: schedule the callback right away
      if timestamp_cmp g.retired a.timestamp ≥ 0 then
        ({ g with fired := g.fired ++ [⟨event, .RETIRED, .add, g.retired⟩] }, .ok ())
      else ({ g with events := g.events ++ [event] }, .ok ())

/-- The result that goes with the cause. -/
def Fired.Right (f : Fired) : Prop :=
  if f.cause = .cancel then f.result = .CANCELLED
  else f.result = .RETIRED ↔ timestamp_cmp f.retired f.event.timestamp ≥ 0

/-! ## Runs -/

namespace EventGroup

/-- The calls that the group sees. -/
inductive Call where
  | add (a : AddEvent)
  | process (context_get : Bool)
  | flush (context_get : Bool)
  | cancel_event (timestamp : UInt32) (func priv : ℕ)
  | cancel_events_timestamp (timestamp : UInt32)
  | cancel_events
  | retire (n : ℕ)

def call (g : EventGroup) : Call → EventGroup
  | .add a => (kgsl_add_event g a).1
  | .process context_get => kgsl_process_event_group g context_get
  | .flush context_get => kgsl_flush_event_group g context_get
  | .cancel_event timestamp func priv => kgsl_cancel_event g timestamp func priv
  | .cancel_events_timestamp timestamp => kgsl_cancel_events_timestamp g timestamp
  | .cancel_events => kgsl_cancel_events g
  | .retire n => { g with total := g.total + n }

def Timely (g : EventGroup) : Call → Prop
  | .retire n => g.total + n < g.mark + 2 ^ 31
  | _ => True

/-- A group with no history. -/
structure Fresh (g : EventGroup) : Prop where
  events : g.events = []
  added : g.added = []
  fired : g.fired = []
  processed : g.processed = .ofNat g.mark
  total : g.mark ≤ g.total ∧ g.total < g.mark + 2 ^ 31

/-! ## The invariant -/

/-- Every event is in the group or was fired, once and rightly. -/
structure Inv (g : EventGroup) : Prop where
  once : g.added.Perm (g.fired.map Fired.event ++ g.events)
  right : ∀ f ∈ g.fired, f.Right
  processed : g.processed = .ofNat g.mark
  total : g.mark ≤ g.total ∧ g.total < g.mark + 2 ^ 31
  /-- A pending event was looked at since the last processing, and was not due. -/
  later : ∀ e ∈ g.events, ∃ t, g.mark ≤ t ∧ t ≤ g.total ∧
    timestamp_cmp e.timestamp (.ofNat t) > 0

variable {g : EventGroup}

lemma Fresh.inv (h : g.Fresh) : g.Inv where
  once := by rw [h.added, h.fired, h.events]; exact .nil
  right := by simp [h.fired]
  processed := h.processed
  total := h.total
  later := by simp [h.events]

lemma perm_signal_events (cause : Cause) (result : Event → Option EventResult) :
    (g.fired.map Fired.event ++ g.events).Perm
      ((g.signal_events cause result).fired.map Fired.event ++
        (g.signal_events cause result).events) := by
  have hsplit : ∀ l : List Event, l.Perm ((l.filterMap fun e => (result e).map fun r =>
          (⟨e, r, cause, g.retired⟩ : Fired)).map Fired.event ++
        l.filter fun e => (result e).isNone) := by
    intro l
    induction l with
    | nil => exact .nil
    | cons e l ih =>
      cases he : result e with
      | none =>
        simp only [filterMap_cons, filter_cons, he, Option.map_none, Option.isNone_none, if_true]
        exact (ih.cons e).trans perm_middle.symm
      | some r =>
        simp only [filterMap_cons, filter_cons, he, Option.map_some, map_cons,
          Option.isNone_some, Bool.false_eq_true, if_false, cons_append]
        exact ih.cons e
  simp only [signal_events, map_append, append_assoc]
  exact (hsplit g.events).append_left _

section

variable (h : g.Inv)
include h

lemma Inv.signal_events (cause : Cause) (result : Event → Option EventResult)
    (hright : ∀ e r, result e = some r → Fired.Right ⟨e, r, cause, g.retired⟩) :
    (g.signal_events cause result).Inv where
  once := h.once.trans (perm_signal_events cause result)
  right := by
    intro f hf
    rcases mem_append.mp hf with hf | hf
    · exact h.right f hf
    · obtain ⟨e, -, he⟩ := mem_filterMap.mp hf
      obtain ⟨r, hr, rfl⟩ := Option.map_eq_some_iff.mp he
      exact hright e r hr
  processed := h.processed
  total := h.total
  later e he := h.later e (mem_filter.mp he).1

lemma Inv.cancel (p : Event → Prop) [DecidablePred p] :
    (g.signal_events .cancel fun e => if p e then some .CANCELLED else none).Inv := by
  apply h.signal_events
  intro e r hr
  split at hr
  · exact (Option.some.inj hr).symm
  · cases hr

lemma total_eq_mark_of_skipped
    (hskip : do_process_group g.processed g.retired = false) : g.total = g.mark := by
  have htotal := h.total
  rw [h.processed] at hskip
  simp only [do_process_group, retired, ← UInt32.toNat_inj, UInt32.lt_iff_toNat_lt,
    UInt32.toNat_sub, UInt32.toNat_ofNat'] at hskip
  have hw : KGSL_TIMESTAMP_WINDOW.toNat = 2147483648 := rfl
  split_ifs at hskip <;> omega

lemma Inv.process_event_group (flush context_get : Bool) :
    (process_event_group g flush context_get).Inv := by
  unfold Kgsl.process_event_group
  split
  · exact h
  split
  · exact h
  have hsig := h.signal_events (if flush then .flush else .process)
    (fun e =>
      if timestamp_cmp e.timestamp g.retired ≤ 0 then some .RETIRED
      else if flush then some .CANCELLED
      else none) ?_
  · refine { hsig with processed := rfl, total := ?_, later := ?_ }
    · change g.total ≤ g.total ∧ g.total < g.total + 2 ^ 31
      omega
    · intro e he
      -- what is left was not due at the timestamp that was read
      have hnone := (mem_filter.mp he).2
      refine ⟨g.total, le_rfl, le_rfl, ?_⟩
      by_contra hdue
      have hle : timestamp_cmp e.timestamp g.retired ≤ 0 := Int.not_lt.mp hdue
      simp [hle] at hnone
  · intro e r hr
    have hswap := timestamp_cmp_swap e.timestamp g.retired
    have hcause : (if flush then Cause.flush else Cause.process) ≠ .cancel := by
      split <;> decide
    rw [Fired.Right, if_neg hcause]
    dsimp only at hr ⊢
    split at hr
    · cases hr
      exact ⟨fun _ => by omega, fun _ => rfl⟩
    · split at hr
      · cases hr
        constructor
        · intro hc
          cases hc
        · intro hge
          omega
      · cases hr

lemma Inv.kgsl_add_event (a : AddEvent) : (kgsl_add_event g a).1.Inv := by
  unfold Kgsl.kgsl_add_event
  split
  · exact h
  split
  · exact h
  split
  · exact h
  split
  · exact h
  extract_lets event
  have honce : (g.added ++ [event]).Perm (g.fired.map Fired.event ++ g.events ++ [event]) :=
    h.once.append_right [event]
  split
  · rename_i hdue
    refine { h with once := ?_, right := ?_ }
    · rw [map_append, append_assoc]
      exact honce.trans (by
        rw [append_assoc]
        exact perm_append_comm.append_left _)
    · intro f hf
      rcases mem_append.mp hf with hf | hf
      · exact h.right f hf
      · obtain rfl := mem_singleton.mp hf
        exact ⟨fun _ => hdue, fun _ => rfl⟩
  · rename_i hdue
    refine { h with once := ?_, later := ?_ }
    · rw [← append_assoc]
      exact honce
    · intro e he
      rcases mem_append.mp he with he | he
      · exact h.later e he
      · obtain rfl := mem_singleton.mp he
        have hswap := timestamp_cmp_swap g.retired a.timestamp
        refine ⟨g.total, h.total.1, le_rfl, ?_⟩
        change timestamp_cmp a.timestamp g.retired > 0
        have hlt : ¬ timestamp_cmp g.retired a.timestamp ≥ 0 := hdue
        omega

/-- **One call** keeps the invariant. -/
theorem Inv.call {c : Call} (hc : g.Timely c) : (g.call c).Inv := by
  cases c with
  | add a => exact h.kgsl_add_event a
  | process context_get => exact h.process_event_group false context_get
  | flush context_get => exact h.process_event_group true context_get
  | cancel_event timestamp func priv =>
    exact h.cancel fun e => timestamp = e.timestamp ∧ func = e.func ∧ e.priv = priv
  | cancel_events_timestamp timestamp =>
    exact h.cancel fun e => timestamp_cmp timestamp e.timestamp = 0
  | cancel_events =>
    apply h.signal_events
    intro e r hr
    exact (Option.some.inj hr).symm
  | retire n =>
    have htotal := h.total
    refine { h with total := ⟨?_, hc⟩, later := ?_ }
    · change g.mark ≤ g.total + n
      omega
    · intro e he
      obtain ⟨t, hlo, hhi, ht⟩ := h.later e he
      exact ⟨t, hlo, hhi.trans (Nat.le_add_right ..), ht⟩

lemma Inv.process_clears :
    ∀ e ∈ (kgsl_process_event_group g true).events,
      timestamp_cmp e.timestamp (kgsl_process_event_group g true).retired > 0 := by
  have hinv : (kgsl_process_event_group g true).Inv := h.process_event_group false true
  have hmark : (kgsl_process_event_group g true).total =
      (kgsl_process_event_group g true).mark := by
    unfold kgsl_process_event_group Kgsl.process_event_group
    cases hdo : do_process_group g.processed g.retired with
    | true => rfl
    | false => exact total_eq_mark_of_skipped h hdo
  intro e he
  obtain ⟨t, hlo, hhi, ht⟩ := hinv.later e he
  obtain rfl : t = (kgsl_process_event_group g true).total := by omega
  exact ht

end

lemma flush_clears (g : EventGroup) : (kgsl_flush_event_group g true).events = [] := by
  refine filter_eq_nil_iff.mpr ?_
  intro e _
  by_cases hdue : timestamp_cmp e.timestamp g.retired ≤ 0 <;> simp [hdue]

/-- **Events fire once and on time**, if less than half the range of timestamps retires between two
processings. -/
theorem events_fire_once_on_time {g₀ : EventGroup} (hg₀ : g₀.Fresh) (calls : List Call)
    (hok : Ok call Timely g₀ calls) :
    let g := exec call g₀ calls
    g.added.Perm (g.fired.map Fired.event ++ g.events) ∧
      (∀ f ∈ g.fired, f.Right) ∧
      (∀ e ∈ (g.call (.process true)).events,
        timestamp_cmp e.timestamp (g.call (.process true)).retired > 0) ∧
      (g.call (.flush true)).events = [] := by
  intro g
  have h : g.Inv := Ok.inv (fun _ _ hinv hc => hinv.call hc) hg₀.inv hok
  exact ⟨h.once, h.right, h.process_clears, flush_clears g⟩

def wrapping_group : EventGroup where
  events := []
  processed := 0xfffffff0
  total := 0xfffffff0
  added := []
  fired := []
  mark := 0xfffffff0

lemma wrapping_group_fresh : wrapping_group.Fresh where
  events := rfl
  added := rfl
  fired := rfl
  processed := rfl
  total := by decide

instance (g : EventGroup) (c : Call) : Decidable (g.Timely c) := by
  cases c <;> unfold Timely <;> infer_instance

theorem event_fires_after_wrap : let calls : List Call :=
      [.add ⟨2, some 0, 0, true, 0, true, true⟩, .retire 16, .process true, .retire 4,
        .process true]
    Ok call Timely wrapping_group calls ∧
      (exec call wrapping_group calls).fired =
        [⟨⟨2, 0, 0⟩, .RETIRED, .process, 4⟩] ∧
      (exec call wrapping_group calls).added.Perm
        ((exec call wrapping_group calls).fired.map Fired.event ++
          (exec call wrapping_group calls).events) := by
  intro calls
  have hok : Ok call Timely wrapping_group calls := by decide +kernel
  exact ⟨hok, by decide +kernel, (events_fire_once_on_time wrapping_group_fresh calls hok).1⟩

/-- An event that is cancelled after its timestamp retired, and before the group was
processed, is `CANCELLED`. -/
theorem cancelled_although_retired : let calls : List Call :=
      [.add ⟨2, some 7, 9, true, 0, true, true⟩, .retire 20, .cancel_event 2 7 9]
    Ok call Timely wrapping_group calls ∧
      (exec call wrapping_group calls).fired =
        [⟨⟨2, 7, 9⟩, .CANCELLED, .cancel, 4⟩] ∧
      timestamp_cmp 4 2 ≥ 0 := by
  decide +kernel

end EventGroup

end KernelExtra.Kgsl
