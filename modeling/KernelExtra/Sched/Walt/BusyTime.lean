/-
Windows that roll over and counters that are charged: `walt.c` 888-893, 1304-1460 and 1531-1567.
-/
import KernelExtra.Sched.Walt.State

namespace KernelExtra.Walt

open Function

variable {Cpu : Type}

/-! ## The window of a queue -/

/-- How many windows have passed. The quotient is stored in an `int`. -/
def nr_windows (sched_ravg_window : ℕ) (delta : ℤ) : ℤ :=
  (delta / sched_ravg_window).bmod (2 ^ 32)

/-- The new `rq->wrq.window_start`. The product of the sign-extended count and the window is added
modulo `2 ^ 64`. -/
def rolled_window_start (sched_ravg_window window_start wallclock : ℕ) : ℕ :=
  let delta : ℤ := ((wallclock : ℤ) - window_start).bmod (2 ^ 64)
  if delta < sched_ravg_window then window_start
  else ((window_start + nr_windows sched_ravg_window delta * sched_ravg_window) %
    2 ^ 64).toNat

/-- The time since the window of a queue began, an `s64`. -/
def Busy.delta (b : Busy) (wallclock : ℕ) : ℤ :=
  ((wallclock : ℤ) - b.window_start).bmod (2 ^ 64)

/-- The window of a queue after `update_window_start`. -/
def Busy.advance (P : Params Cpu) (b : Busy) (wallclock : ℕ) : Busy :=
  if b.delta wallclock < P.sched_ravg_window then b
  else
    { b with
      window_start := rolled_window_start P.sched_ravg_window b.window_start wallclock
      prev_window_size := P.sched_ravg_window }

/-- Neither the clock nor the count of windows reaches a sign bit. -/
def Busy.FewWindows (P : Params Cpu) (b : Busy) (wallclock : ℕ) : Prop :=
  wallclock < 2 ^ 63 ∧ (wallclock - b.window_start) / P.sched_ravg_window < 2 ^ 31

lemma delta_eq {ws wallclock : ℕ} (hws : ws ≤ wallclock) (hclk : wallclock < 2 ^ 63) :
    ((wallclock : ℤ) - ws).bmod (2 ^ 64) = ((wallclock - ws : ℕ) : ℤ) := by
  rw [Int.ofNat_sub hws]
  apply Int.bmod_eq_of_le <;> omega

lemma rolled_window_start_eq {w ws wallclock : ℕ} (hws : ws ≤ wallclock)
    (hclk : wallclock < 2 ^ 63) (hcnt : (wallclock - ws) / w < 2 ^ 31) :
    rolled_window_start w ws wallclock =
      if wallclock < ws + w then ws else ws + (wallclock - ws) / w * w := by
  have hnr : nr_windows w ((wallclock - ws : ℕ) : ℤ) = (((wallclock - ws) / w : ℕ) : ℤ) := by
    unfold nr_windows
    rw [← Int.natCast_ediv]
    generalize (wallclock - ws) / w = q at hcnt
    apply Int.bmod_eq_of_le <;> omega
  have hle : (wallclock - ws) / w * w ≤ wallclock - ws := Nat.div_mul_le_self _ _
  unfold rolled_window_start
  simp only [delta_eq hws hclk, hnr, Int.ofNat_lt]
  by_cases hw : wallclock < ws + w
  · rw [if_pos hw, if_pos (by omega)]
  · rw [if_neg hw, if_neg (by omega)]
    omega

/-! ## Top tasks -/

/-- The bucket of a load. -/
def load_to_index (P : Params Cpu) (load : ℕ) : ℕ :=
  min (load / P.sched_load_granule) (P.NUM_LOAD_INDICES - 1)

def TopTasks.dec (top : TopTasks) (t : Bool) (index : ℕ) : TopTasks :=
  { top with
    top_tasks := update top.top_tasks t
      (update (top.top_tasks t) index ((top.top_tasks t index + 255) % 256))
    below_zero := top.below_zero || decide (top.top_tasks t index = 0) }

def TopTasks.inc (top : TopTasks) (t : Bool) (index : ℕ) : TopTasks :=
  { top with
    top_tasks := update top.top_tasks t
      (update (top.top_tasks t) index ((top.top_tasks t index + 1) % 256)) }

def TopTasks.clear_if_empty (P : Params Cpu) (top : TopTasks) (t : Bool) (index : ℕ) : TopTasks :=
  if top.top_tasks t index = 0 then
    { top with
      top_tasks_bitmap := update top.top_tasks_bitmap t
        (update (top.top_tasks_bitmap t) (P.NUM_LOAD_INDICES - index - 1) false) }
  else top

def TopTasks.set_if_one (P : Params Cpu) (top : TopTasks) (t : Bool) (index : ℕ) : TopTasks :=
  if top.top_tasks t index = 1 then
    { top with
      top_tasks_bitmap := update top.top_tasks_bitmap t
        (update (top.top_tasks_bitmap t) (P.NUM_LOAD_INDICES - index - 1) true) }
  else top

def TopTasks.raise_curr (top : TopTasks) (index : ℕ) : TopTasks :=
  if top.curr_top < index then { top with curr_top := index } else top

def TopTasks.raise_prev (top : TopTasks) (index : ℕ) : TopTasks :=
  if top.prev_top < index then { top with prev_top := index } else top

/-- A task changes its bucket in the current table. -/
def update_curr_bucket (P : Params Cpu) (top : TopTasks) (old_curr_window curr_window : ℕ) :
    TopTasks :=
  let curr := top.curr_table
  let old_index := load_to_index P old_curr_window
  let new_index := load_to_index P curr_window
  let zero_index_update := old_curr_window = 0 ∧ curr_window ≠ 0
  let top :=
    if old_index ≠ new_index ∨ zero_index_update then
      let top := if old_curr_window ≠ 0 then top.dec curr old_index else top
      let top := if curr_window ≠ 0 then top.inc curr new_index else top
      top.raise_curr new_index
    else top
  let top := top.clear_if_empty P curr old_index
  top.set_if_one P curr new_index

/-- The part of `update_top_tasks` that settles the previous window of a task that
has rolled over. -/
def update_prev_bucket (P : Params Cpu) (top : TopTasks) (old_curr_window prev_window : ℕ)
    (full_window : Bool) : TopTasks :=
  let prev := !top.curr_table
  let old_index := load_to_index P old_curr_window
  let update_index := load_to_index P prev_window
  if full_window then
    let top := if prev_window ≠ 0 then
        { top.inc prev update_index with prev_top := update_index } else top
    top.set_if_one P prev update_index
  else
    let zero_index_update := old_curr_window = 0 ∧ prev_window ≠ 0
    if old_index ≠ update_index ∨ zero_index_update then
      let top := if old_curr_window ≠ 0 then top.dec prev old_index else top
      let top := top.inc prev update_index
      let top := top.raise_prev update_index
      let top := top.clear_if_empty P prev old_index
      top.set_if_one P prev update_index
    else top

def enter_curr_bucket (P : Params Cpu) (top : TopTasks) (curr_window : ℕ) : TopTasks :=
  if curr_window ≠ 0 then
    let curr := top.curr_table
    let new_index := load_to_index P curr_window
    let top := top.inc curr new_index
    let top := top.raise_curr new_index
    top.set_if_one P curr new_index
  else top

/-- The table of top tasks after a task has been charged. -/
def update_top_tasks (P : Params Cpu) (p : Account Cpu) (top : TopTasks) (old_curr_window : ℕ)
    (new_window full_window : Bool) : TopTasks :=
  let curr_window := p.win.curr_window
  let prev_window := p.win.prev_window
  if old_curr_window = curr_window ∧ new_window = false then top
  else if new_window = false then update_curr_bucket P top old_curr_window curr_window
  else
    enter_curr_bucket P (update_prev_bucket P top old_curr_window prev_window full_window)
      curr_window

/-- `clear_top_tasks_table` and `clear_top_tasks_bitmap`. Bit `NUM_LOAD_INDICES` is
a sentinel. -/
def TopTasks.clear (P : Params Cpu) (top : TopTasks) (t : Bool) : TopTasks :=
  { top with
    top_tasks := update top.top_tasks t (fun _ => 0)
    top_tasks_bitmap := update top.top_tasks_bitmap t
      (fun b => decide (b = P.NUM_LOAD_INDICES)) }

/-- At a new window the tables swap, and one is cleared. -/
def rollover_top_tasks (P : Params Cpu) (top : TopTasks) (full_window : Bool) : TopTasks :=
  let curr_table := top.curr_table
  let prev_table := !top.curr_table
  let curr_top := if full_window then 0 else top.curr_top
  let top := top.clear P prev_table
  let top := if full_window then top.clear P curr_table else top
  { top with curr_table := prev_table, prev_top := curr_top, curr_top := 0 }

/-! ## Rollover -/

/-- At a new window the task's current time becomes its last. -/
def rollover_task_window (window_size : ℕ) (p : Account Cpu) (full_window : Bool) : Account Cpu :=
  { p with
    active_time := if is_new_task p then p.active_time + window_size else p.active_time
    win :=
    { curr_window := 0
      prev_window := if full_window then 0 else p.win.curr_window
      curr_window_cpu := fun _ => 0
      prev_window_cpu := if full_window then fun _ => 0 else p.win.curr_window_cpu } }

def RunnableSums.rollover (t : RunnableSums) (full_window : Bool) : RunnableSums where
  curr_runnable_sum := 0
  prev_runnable_sum := if full_window then 0 else t.curr_runnable_sum
  nt_curr_runnable_sum := 0
  nt_prev_runnable_sum := if full_window then 0 else t.nt_curr_runnable_sum

/-- The same for the sums of a CPU. -/
def rollover_cpu_window (b : Busy) (full_window : Bool) : Busy :=
  { b with
    time := b.time.rollover full_window
    grp_time := b.grp_time.rollover full_window }

/-- A window has begun since the task was last seen. -/
def newWindow (b : Busy) (a : Account Cpu) : Bool := decide (a.mark_start < b.window_start)

/-- And a whole one has passed. -/
def fullWindow (b : Busy) (a : Account Cpu) : Bool :=
  newWindow b a && decide (b.prev_window_size ≤ b.window_start - a.mark_start)

def Account.roll (a : Account Cpu) (window_size : ℕ) (new_window full_window : Bool) :
    Account Cpu :=
  if !a.is_idle && new_window then rollover_task_window window_size a full_window else a

/-- A task rolled over into the window of its queue. -/
def Account.aligned (a : Account Cpu) (b : Busy) : Account Cpu :=
  a.roll b.prev_window_size (newWindow b a) (fullWindow b a)

/-- A queue rolls over with its running task: `rollover_cpu_window` and
`rollover_top_tasks`. -/
def Busy.roll (P : Params Cpu) (b : Busy) (is_curr new_window full_window : Bool) : Busy :=
  if is_curr && new_window then
    { rollover_cpu_window b full_window with top := rollover_top_tasks P b.top full_window }
  else b

variable (a : Account Cpu)

@[simp] lemma Account.roll_cpu (n : ℕ) (x y : Bool) : (a.roll n x y).cpu = a.cpu := by
  unfold Account.roll; split_ifs <;> rfl

@[simp] lemma Account.roll_is_idle (n : ℕ) (x y : Bool) : (a.roll n x y).is_idle = a.is_idle := by
  unfold Account.roll; split_ifs <;> rfl

@[simp] lemma Account.roll_grp (n : ℕ) (x y : Bool) : (a.roll n x y).grp = a.grp := by
  unfold Account.roll; split_ifs <;> rfl

@[simp] lemma Account.roll_mark_start (n : ℕ) (x y : Bool) :
    (a.roll n x y).mark_start = a.mark_start := by
  unfold Account.roll; split_ifs <;> rfl

/-! ## Charges -/

def RunnableSums.add_curr (t : RunnableSums) (new_task : Bool) (delta : ℕ) : RunnableSums :=
  { t with
    curr_runnable_sum := t.curr_runnable_sum + delta
    nt_curr_runnable_sum := t.nt_curr_runnable_sum + if new_task then delta else 0 }

def RunnableSums.add_prev (t : RunnableSums) (new_task : Bool) (delta : ℕ) : RunnableSums :=
  { t with
    prev_runnable_sum := t.prev_runnable_sum + delta
    nt_prev_runnable_sum := t.nt_prev_runnable_sum + if new_task then delta else 0 }

section

variable [DecidableEq Cpu]

section

variable (w : Windows Cpu)

def Windows.add_curr (cpu : Cpu) (delta : ℕ) : Windows Cpu :=
  { w with
    curr_window := u32 (w.curr_window + delta)
    curr_window_cpu :=
      update w.curr_window_cpu cpu (u32 (w.curr_window_cpu cpu + delta)) }

def Windows.add_prev (cpu : Cpu) (delta : ℕ) : Windows Cpu :=
  { w with
    prev_window := u32 (w.prev_window + delta)
    prev_window_cpu :=
      update w.prev_window_cpu cpu (u32 (w.prev_window_cpu cpu + delta)) }

def Windows.set_curr (cpu : Cpu) (delta : ℕ) : Windows Cpu :=
  { w with
    curr_window := u32 delta
    curr_window_cpu := update w.curr_window_cpu cpu (u32 delta) }

def Windows.set_prev (cpu : Cpu) (delta : ℕ) : Windows Cpu :=
  { w with
    prev_window := u32 delta
    prev_window_cpu := update w.prev_window_cpu cpu (u32 delta) }

end

end

end KernelExtra.Walt
