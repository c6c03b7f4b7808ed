/-
WALT, window assisted load tracking: the data of `kernel/sched/walt/walt.c`.

A task carries its busy time of the current and the previous window, in total and per CPU; a run
queue carries the sums of what its tasks did, once for plain tasks and once for tasks of a related
thread group, and a second pair of counters for new tasks. Windows are rolled over lazily.

The `u32` windows of a task, the `u8` bucket counters and the `u16` demands wrap. The `u64` sums of
a queue are integers, so that a sum that has gone below zero is a negative number.
-/
import Mathlib

namespace KernelExtra.Walt

/-! ## Constants and tunables -/

/-- What is fixed for a whole run. `walt_fixup_cum_window_demand` lies outside this tree;
`same_freq_domain` of two CPUs is equality of `cluster`. -/
structure Params (Cpu : Type) where
  sched_ravg_window : ℕ
  window_pos : 0 < sched_ravg_window
  sched_load_granule : ℕ
  NUM_LOAD_INDICES : ℕ
  indices_pos : 0 < NUM_LOAD_INDICES
  sched_ravg_hist_size : ℕ
  sched_predl : Bool
  sched_io_is_busy : Bool
  use_cycle_counter : Bool
  sysctl_sched_window_stats_policy : ℕ
  sysctl_sched_min_task_util_for_colocation : ℕ
  sysctl_sched_task_unfilter_period : ℕ
  walt_scale_demand_divisor : ℕ
  cluster : Cpu → ℕ
  arch_scale_cpu_capacity : Cpu → ℕ
  max_possible_freq : Cpu → ℕ
  walt_fixup_cum_window_demand : ℤ → ℤ → ℤ

def NEW_TASK_ACTIVE_TIME : ℕ := 100000000

def NUM_BUSY_BUCKETS : ℕ := 10

inductive TaskEvent
  | PUT_PREV_TASK
  | PICK_NEXT_TASK
  | TASK_WAKE
  | TASK_MIGRATE
  | TASK_UPDATE
  | IRQ_UPDATE
  deriving DecidableEq

inductive OnRq
  | no
  | queued
  | migrating
  deriving DecidableEq

inductive TaskState
  | running
  | waking
  | other
  deriving DecidableEq

/-! ## Tasks -/

/-- A task's time in the current and in the last window, in all and by CPU. -/
structure Windows (Cpu : Type) where
  curr_window : ℕ
  prev_window : ℕ
  curr_window_cpu : Cpu → ℕ
  prev_window_cpu : Cpu → ℕ

/-- What is known of a task's demand. -/
structure Demand where
  sum : ℕ
  sum_history : List ℕ
  demand : ℕ
  demand_scaled : ℕ
  coloc_demand : ℕ
  pred_demand : ℕ
  pred_demand_scaled : ℕ
  busy_buckets : List ℕ
  unfilter : ℕ
  deriving DecidableEq

/-- What busy-time accounting knows of a task. `grp`: it is in a related thread group. -/
structure Account (Cpu : Type) where
  cpu : Cpu
  is_idle : Bool
  grp : Bool
  mark_start : ℕ
  active_time : ℕ
  win : Windows Cpu

structure Task (Cpu : Type) where
  acct : Account Cpu
  dem : Demand
  on_rq : OnRq
  state : TaskState
  has_dl_policy : Bool
  dl_throttled : Bool
  misfit : Bool
  rtg_high_prio : Bool
  last_sleep_ts : ℕ
  cpu_cycles : ℕ

/-! ## Run queues -/

/-- The four busy-time counters, for tasks outside any group or for those in one. -/
structure RunnableSums where
  curr_runnable_sum : ℤ
  prev_runnable_sum : ℤ
  nt_curr_runnable_sum : ℤ
  nt_prev_runnable_sum : ℤ
  deriving DecidableEq

/-- Busy time to be taken off the window that starts at `window_start`, noted here
because the queue's own lock was not held. -/
structure LoadSubtractions where
  window_start : ℕ
  subs : ℕ
  new_subs : ℕ
  deriving DecidableEq

/-- A table of task counts per load bucket, and a bitmap of the non-empty buckets, for two windows.
`below_zero` records that a count of zero has been decremented. -/
structure TopTasks where
  top_tasks : Bool → ℕ → ℕ
  top_tasks_bitmap : Bool → ℕ → Bool
  curr_table : Bool
  curr_top : ℕ
  prev_top : ℕ
  below_zero : Bool

/-- `struct walt_sched_stats`. `bug_on` and `bug_on_big` record that a `BUG_ON` has fired. -/
structure WaltStats where
  nr_big_tasks : ℤ
  nr_rtg_high_prio_tasks : ℤ
  cumulative_runnable_avg_scaled : ℤ
  pred_demands_sum_scaled : ℤ
  bug_on : Bool
  bug_on_big : Bool
  deriving DecidableEq

/-- The busy-time part of a run queue. `underflow` records that a check has failed, a
`SCHED_BUG_ON`. -/
structure Busy where
  window_start : ℕ
  prev_window_size : ℕ
  time : RunnableSums
  grp_time : RunnableSums
  load_subs : Bool → LoadSubtractions
  top : TopTasks
  underflow : Bool

/-- A run queue. `nr_iowait`, `cycle_counter` and `cur_freq` are readings of the environment. -/
structure Rq (Tid : Type) where
  curr : Tid
  busy : Busy
  walt_stats : WaltStats
  cum_window_demand_scaled : ℤ
  task_exec_scale : ℕ
  cycles : ℕ
  last_cc_update : ℕ
  nr_iowait : ℕ
  cycle_counter : ℕ
  cur_freq : ℕ
  notif_pending : Bool
  in_sched_bug : Bool

/-- The state of the machine. `enqueued` is not a kernel field: it says which tasks are in the sums.
-/
structure State (Cpu Tid : Type) where
  rq : Cpu → Rq Tid
  task : Tid → Task Cpu
  enqueued : Tid → Bool
  clock : ℕ

/-! ## The start of a run -/

def Windows.zero {Cpu : Type} : Windows Cpu := ⟨0, 0, fun _ => 0, fun _ => 0⟩

def RunnableSums.zero : RunnableSums := ⟨0, 0, 0, 0⟩

def TopTasks.empty {Cpu : Type} (P : Params Cpu) : TopTasks where
  top_tasks := fun _ _ => 0
  top_tasks_bitmap := fun _ b => decide (b = P.NUM_LOAD_INDICES)
  curr_table := false
  curr_top := 0
  prev_top := 0
  below_zero := false

/-- After boot the windows of all queues lie on one grid that starts at `1`, and the running tasks
are marked with the window start of their queue. -/
structure Boot {Cpu Tid : Type} (P : Params Cpu) (s : State Cpu Tid) : Prop where
  window_start : ∀ i, ∃ m, (s.rq i).busy.window_start = 1 + m * P.sched_ravg_window
  prev_window_size : ∀ i, (s.rq i).busy.prev_window_size = P.sched_ravg_window
  time : ∀ i, (s.rq i).busy.time = .zero
  grp_time : ∀ i, (s.rq i).busy.grp_time = .zero
  load_subs : ∀ i j, (s.rq i).busy.load_subs j = ⟨0, 0, 0⟩
  top : ∀ i, (s.rq i).busy.top = .empty P
  underflow : ∀ i, (s.rq i).busy.underflow = false
  walt_stats : ∀ i, (s.rq i).walt_stats = ⟨0, 0, 0, 0, false, false⟩
  curr_cpu : ∀ i, (s.task (s.rq i).curr).acct.cpu = i
  curr_mark : ∀ i, (s.task (s.rq i).curr).acct.mark_start = (s.rq i).busy.window_start
  mark : ∀ p, (s.rq (s.task p).acct.cpu).curr = p ∨ (s.task p).acct.mark_start = 0
  clock : ∀ i, (s.rq i).busy.window_start ≤ s.clock
  win : ∀ p, (s.task p).acct.win = .zero
  on_rq : ∀ p, (s.task p).on_rq = .no
  enqueued : ∀ p, s.enqueued p = false

/-! ## Small helpers -/

def sub64 (a b : ℕ) : ℕ := if b ≤ a then a - b else a + 2 ^ 64 - b

def u32 (n : ℕ) : ℕ := n % 2 ^ 32

def u16 (n : ℕ) : ℕ := n % 2 ^ 16

lemma sub64_of_le {a b : ℕ} (h : b ≤ a) : sub64 a b = a - b := if_pos h

lemma u32_le (n : ℕ) : u32 n ≤ n := Nat.mod_le _ _

def Busy.cpu_time (b : Busy) (grp : Bool) : RunnableSums := if grp then b.grp_time else b.time

def Busy.set_cpu_time (b : Busy) (grp : Bool) (t : RunnableSums) : Busy :=
  if grp then { b with grp_time := t } else { b with time := t }

/-- An underflow is remembered. -/
def Busy.check (b : Busy) (underflow : Bool) : Busy :=
  { b with underflow := b.underflow || underflow }

def SCHED_BUG_ON {Tid : Type} (condition : Bool) (rq : Rq Tid) : Rq Tid :=
  { rq with in_sched_bug := rq.in_sched_bug || condition }

variable {Cpu : Type}

def is_new_task (p : Account Cpu) : Bool := decide (p.active_time < NEW_TASK_ACTIVE_TIME)

def task_on_rq_queued (p : Task Cpu) : Bool := decide (p.on_rq = .queued)

/-- Is the task part of the queue's sums? -/
def counted (p : Task Cpu) : Bool :=
  task_on_rq_queued p && (!p.has_dl_policy || !p.dl_throttled)

end KernelExtra.Walt
