/-
The scheduler as WALT sees it: queues, tasks and a clock, and the calls the core scheduler makes.

Three functions of the source are sequences of calls of `walt_update_task_ravg` followed by work of
their own; the machine takes them apart. What the callers promise is stated once for the clock
(`Timed`) and once for the queues (`Queued`). That a count of windows fits an `int` is nobody's
promise, and stands apart (`Counted`).
-/
import KernelExtra.Lib.Run
import KernelExtra.Sched.Walt.Migrate

namespace KernelExtra.Walt

open Function

/-! ## Steps -/

/-- The calls into WALT, and what the rest of the kernel changes under it. -/
inductive Step (Cpu Tid : Type)
  | ravg (p : Tid) (event : TaskEvent) (wallclock irqtime : ℕ)
  /-- the rest of `fixup_busy_time(p, new_cpu)`, and `p` is on `new_cpu` -/
  | migrate (p : Tid) (new_cpu : Cpu)
  /-- the rest of `transfer_busy_time(p)`, and `p` has joined or left its group -/
  | transfer (p : Tid) (add : Bool)
  | account (i : Cpu)
  | switch (i : Cpu) (next : Tid)
  | history (p : Tid) (runtime samples : ℕ)
  | pred_demand (p : Tid) (event : TaskEvent)
  | enqueue (p : Tid) (high_prio : Bool)
  /-- `p` is dequeued, to sleep or to migrate: `dec_rq_walt_stats` -/
  | dequeue (p : Tid) (migrating : Bool)
  /-- a deadline task runs out of its budget: dequeued with `on_rq` left alone -/
  | throttle (p : Tid)
  /-- a throttled deadline task goes to sleep, or wakes up, without being enqueued -/
  | set_on_rq_throttled (p : Tid) (queued : Bool)
  /-- the scheduling class of a task that is not on a queue changes -/
  | set_policy (p : Tid) (dl throttled : Bool)
  /-- the readings of the environment at a queue change -/
  | set_env (i : Cpu) (nr_iowait cycle_counter cur_freq : ℕ)
  | set_task (p : Tid) (state : TaskState) (last_sleep_ts : ℕ) (misfit : Bool)

section Machine

variable {Cpu Tid : Type} [DecidableEq Cpu] [DecidableEq Tid]

def State.task_rq (s : State Cpu Tid) (p : Tid) : Rq Tid := s.rq (s.task p).acct.cpu

def State.curr (s : State Cpu Tid) (i : Cpu) : Tid := (s.rq i).curr

def State.set_pair (s : State Cpu Tid) (p : Tid) (r : Rq Tid × Task Cpu) : State Cpu Tid :=
  { s with
    rq := update s.rq (s.task p).acct.cpu r.1
    task := update s.task p r.2 }

def State.walt_update_task_ravg (P : Params Cpu) (s : State Cpu Tid) (p : Tid)
    (event : TaskEvent) (wallclock irqtime : ℕ) : State Cpu Tid :=
  let rq := s.task_rq p
  { s.set_pair p (Walt.walt_update_task_ravg P rq (decide (rq.curr = p))
      (s.task rq.curr).acct.is_idle (s.task p) event wallclock irqtime) with clock := wallclock }

def State.migrate_busy_time (P : Params Cpu) (s : State Cpu Tid) (p : Tid) (new_cpu : Cpu) :
    State Cpu Tid :=
  let r := Walt.migrate_busy_time P s.rq (s.task p) new_cpu s.clock
  { s with
    rq := r.1
    task := update s.task p { r.2 with acct := { r.2.acct with cpu := new_cpu } } }

def State.transfer_windows (P : Params Cpu) (s : State Cpu Tid) (p : Tid) (add : Bool) :
    State Cpu Tid :=
  let r := Walt.transfer_windows P (fun i => (s.rq i).busy) (s.task p).acct add
  { s with
    rq := fun i => { s.rq i with busy := r.1 i }
    task := update s.task p { s.task p with acct := { r.2 with grp := add } } }

def State.account_load_subtractions (s : State Cpu Tid) (i : Cpu) : State Cpu Tid :=
  { s with
    rq := update s.rq i
      { s.rq i with busy := Walt.account_load_subtractions (s.rq i).busy } }

def Task.mark_queued (p : Task Cpu) : Task Cpu :=
  { p with on_rq := .queued, dl_throttled := !p.has_dl_policy && p.dl_throttled }

def State.enqueue (P : Params Cpu) (s : State Cpu Tid) (p : Tid) (high_prio : Bool) :
    State Cpu Tid :=
  let r := inc_rq_walt_stats P (s.task_rq p) (s.task p) high_prio
  { s.set_pair p (r.1, r.2.mark_queued) with enqueued := update s.enqueued p true }

def State.take_off (P : Params Cpu) (s : State Cpu Tid) (p : Tid) (t : Task Cpu) : State Cpu Tid :=
  { s.set_pair p (dec_rq_walt_stats P (s.task_rq p) (s.task p), t) with
    enqueued := update s.enqueued p false }

def step (P : Params Cpu) (s : State Cpu Tid) : Step Cpu Tid → State Cpu Tid
  | .ravg p event wallclock irqtime => s.walt_update_task_ravg P p event wallclock irqtime
  | .migrate p new_cpu => s.migrate_busy_time P p new_cpu
  | .transfer p add => s.transfer_windows P p add
  | .account i => s.account_load_subtractions i
  | .switch i next => { s with rq := update s.rq i { s.rq i with curr := next } }
  | .history p runtime samples =>
    s.set_pair p (update_history P (s.task_rq p) (decide ((s.task_rq p).curr = p)) (s.task p)
      runtime samples)
  | .pred_demand p event =>
    s.set_pair p (update_task_pred_demand P (s.task_rq p) (s.task p) event)
  | .enqueue p high_prio => s.enqueue P p high_prio
  | .dequeue p migrating =>
    s.take_off P p { s.task p with on_rq := if migrating then .migrating else .no }
  | .throttle p => s.take_off P p { s.task p with dl_throttled := true }
  | .set_on_rq_throttled p queued =>
    { s with
      task := update s.task p { s.task p with on_rq := if queued then .queued else .no } }
  | .set_policy p dl throttled =>
    { s with
      task := update s.task p
        { s.task p with has_dl_policy := dl, dl_throttled := throttled } }
  | .set_env i nr_iowait cycle_counter cur_freq =>
    { s with rq := update s.rq i { s.rq i with nr_iowait, cycle_counter, cur_freq } }
  | .set_task p state last_sleep_ts misfit =>
    { s with task := update s.task p { s.task p with state, last_sleep_ts, misfit } }

/-! ## What callers promise -/

/-- The clock never goes back, a queue's running task is accounted before any other task of the
queue at the same reading, and what follows inside one function happens at that reading. -/
def Timed (s : State Cpu Tid) : Step Cpu Tid → Prop
  | .ravg p _ wallclock _ => s.clock ≤ wallclock ∧
      ((s.task_rq p).curr = p ∨ (s.task (s.task_rq p).curr).acct.mark_start = wallclock)
  | .migrate p new_cpu =>
      (s.task p).acct.is_idle = false ∧ (s.task_rq p).curr ≠ p ∧ new_cpu ≠ (s.task p).acct.cpu ∧
      (s.task p).acct.mark_start = s.clock ∧ (s.task (s.task_rq p).curr).acct.mark_start = s.clock ∧
      (s.task (s.curr new_cpu)).acct.mark_start = s.clock
  | .transfer p add =>
      (s.task p).acct.is_idle = false ∧ (s.task p).acct.grp = !add ∧
      (s.task p).acct.mark_start = s.clock ∧ (s.task (s.task_rq p).curr).acct.mark_start = s.clock
  | .account i => (s.task (s.curr i)).acct.mark_start = s.clock
  | .switch i next => (s.task next).acct.cpu = i ∧
      (s.task next).acct.mark_start = (s.task (s.curr i)).acct.mark_start
  | _ => True

/-- Fewer than `2 ^ 31` windows have passed since the queue was accounted last. -/
def Counted (P : Params Cpu) (s : State Cpu Tid) : Step Cpu Tid → Prop
  | .ravg p _ wallclock _ => (s.task_rq p).busy.FewWindows P wallclock
  | _ => True

/-- A task is marked queued exactly between its enqueue and its dequeue, but for throttled deadline
tasks, and stays on its CPU and in its scheduling class meanwhile. -/
def Queued (s : State Cpu Tid) : Step Cpu Tid → Prop
  | .migrate p _ => s.enqueued p = false
  | .enqueue p _ => s.enqueued p = false
  | .dequeue p _ => s.enqueued p = true
  | .throttle p => s.enqueued p = true ∧ (s.task p).has_dl_policy = true
  | .set_on_rq_throttled p _ => s.enqueued p = false ∧ (s.task p).has_dl_policy = true ∧
      (s.task p).dl_throttled = true
  | .set_policy p _ _ => s.enqueued p = false ∧ (s.task p).on_rq ≠ .queued
  | _ => True

def Grouped (s : State Cpu Tid) : Step Cpu Tid → Prop
  | .transfer p add => (s.task p).acct.grp = !add
  | _ => True

instance (s : State Cpu Tid) : (a : Step Cpu Tid) → Decidable (Timed s a)
  | .ravg .. => show Decidable (_ ∧ _) from inferInstance
  | .migrate .. => show Decidable (_ ∧ _) from inferInstance
  | .transfer .. => show Decidable (_ ∧ _) from inferInstance
  | .account _ => show Decidable (_ = _) from inferInstance
  | .switch .. => show Decidable (_ ∧ _) from inferInstance
  | .history .. | .pred_demand .. | .enqueue .. | .dequeue .. | .throttle _
  | .set_on_rq_throttled .. | .set_policy .. | .set_env .. | .set_task .. => .isTrue trivial

instance (P : Params Cpu) (s : State Cpu Tid) : (a : Step Cpu Tid) → Decidable (Counted P s a)
  | .ravg .. => show Decidable (_ ∧ _) from inferInstance
  | .migrate .. | .transfer .. | .account _ | .switch .. | .history .. | .pred_demand ..
  | .enqueue .. | .dequeue .. | .throttle _ | .set_on_rq_throttled .. | .set_policy ..
  | .set_env .. | .set_task .. => .isTrue trivial

instance (s : State Cpu Tid) : (a : Step Cpu Tid) → Decidable (Queued s a)
  | .migrate .. => show Decidable (_ = _) from inferInstance
  | .enqueue .. => show Decidable (_ = _) from inferInstance
  | .dequeue .. => show Decidable (_ = _) from inferInstance
  | .throttle _ => show Decidable (_ ∧ _) from inferInstance
  | .set_on_rq_throttled .. => show Decidable (_ ∧ _) from inferInstance
  | .set_policy .. => show Decidable (_ ∧ _) from inferInstance
  | .ravg .. | .transfer .. | .account _ | .switch .. | .history .. | .pred_demand ..
  | .set_env .. | .set_task .. => .isTrue trivial

instance (s : State Cpu Tid) : (a : Step Cpu Tid) → Decidable (Grouped s a)
  | .transfer .. => show Decidable (_ = _) from inferInstance
  | .ravg .. | .migrate .. | .account _ | .switch .. | .history .. | .pred_demand ..
  | .enqueue .. | .dequeue .. | .throttle _ | .set_on_rq_throttled .. | .set_policy ..
  | .set_env .. | .set_task .. => .isTrue trivial

end Machine

/-! ## A platform to run on

Two CPUs, each a cluster of its own, with the default window of 16 ms in 1000 buckets;
tasks `0` and `1` are the idle tasks, `2` and `3` start on the first CPU. A CPU at its
full frequency has the scale 1024, so that busy time is wall time. -/

def platform : Params Bool where
  sched_ravg_window := 16000000
  window_pos := by decide
  sched_load_granule := 16000
  NUM_LOAD_INDICES := 1000
  indices_pos := by decide
  sched_ravg_hist_size := 5
  sched_predl := true
  sched_io_is_busy := true
  use_cycle_counter := false
  sysctl_sched_window_stats_policy := 2
  sysctl_sched_min_task_util_for_colocation := 35
  sysctl_sched_task_unfilter_period := 100000000
  walt_scale_demand_divisor := 15625
  cluster := fun i => i.toNat
  arch_scale_cpu_capacity := fun _ => 1024
  max_possible_freq := fun _ => 1000
  walt_fixup_cum_window_demand := fun c d => max 0 (c + d)

def atBoot : State Bool (Fin 4) where
  rq := fun i =>
    { curr := ⟨i.toNat, (Bool.toNat_lt i).trans (by decide)⟩
      busy :=
        { window_start := 1, prev_window_size := platform.sched_ravg_window, time := .zero,
          grp_time := .zero, load_subs := fun _ => ⟨0, 0, 0⟩, top := .empty platform,
          underflow := false }
      walt_stats := ⟨0, 0, 0, 0, false, false⟩
      cum_window_demand_scaled := 0
      task_exec_scale := 1024
      cycles := 0
      last_cc_update := 0
      nr_iowait := 0
      cycle_counter := 0
      cur_freq := 1000
      notif_pending := false
      in_sched_bug := false }
  task := fun p =>
    { acct :=
        { cpu := decide (p.val = 1), is_idle := decide (p.val < 2), grp := false,
          mark_start := if p.val < 2 then 1 else 0, active_time := 0, win := .zero }
      dem :=
        { sum := 0, sum_history := List.replicate 5 2400000, demand := 2400000,
          demand_scaled := 153, coloc_demand := 2400000, pred_demand := 0,
          pred_demand_scaled := 0, busy_buckets := List.replicate 10 0, unfilter := 100000000 }
      on_rq := .no
      state := .other
      has_dl_policy := false
      dl_throttled := false
      misfit := false
      rtg_high_prio := false
      last_sleep_ts := 0
      cpu_cycles := 0 }
  enqueued := fun _ => false
  clock := 1

lemma atBoot_boot : Boot platform atBoot where
  window_start := fun _ => ⟨0, rfl⟩
  prev_window_size := fun _ => rfl
  time := fun _ => rfl
  grp_time := fun _ => rfl
  load_subs := fun _ _ => rfl
  top := fun _ => rfl
  underflow := fun _ => rfl
  walt_stats := fun _ => rfl
  curr_cpu := by decide
  curr_mark := by decide
  mark := by decide
  clock := by decide
  win := fun _ => rfl
  on_rq := fun _ => rfl
  enqueued := fun _ => rfl

end KernelExtra.Walt
