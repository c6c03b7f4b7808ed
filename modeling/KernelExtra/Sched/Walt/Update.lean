/-
Accounting of one event of one task: `walt_update_task_ravg` and what it calls, `walt.c` 372-398,
412-434, 1462-1495, 1569-1801 and 2074-2195.

`rq` is always the queue of the task; `is_curr` is `rq->curr == p` and `curr_is_idle` is `rq->curr
== rq->idle`.
-/
import KernelExtra.Sched.Walt.Demand
import KernelExtra.Sched.Walt.BusyTime

namespace KernelExtra.Walt

variable {Cpu Tid : Type}

/-! ## Windows and cycles -/

/-- The queue moves on to the window of the clock. -/
def update_window_start (P : Params Cpu) (rq : Rq Tid) (wallclock : ℕ) : Rq Tid :=
  let rq := SCHED_BUG_ON (decide (rq.busy.delta wallclock < 0)) rq
  if rq.busy.delta wallclock < P.sched_ravg_window then rq
  else
    { rq with
      busy := rq.busy.advance P wallclock
      cum_window_demand_scaled := rq.walt_stats.cumulative_runnable_avg_scaled }

def read_cycle_counter (rq : Rq Tid) (wallclock : ℕ) : Rq Tid :=
  if rq.last_cc_update ≠ wallclock then
    { rq with cycles := rq.cycle_counter, last_cc_update := wallclock }
  else rq

def update_task_cpu_cycles (P : Params Cpu) (rq : Rq Tid) (p : Task Cpu) (wallclock : ℕ) :
    Rq Tid × Task Cpu :=
  if P.use_cycle_counter then
    let rq := read_cycle_counter rq wallclock
    (rq, { p with cpu_cycles := rq.cycles })
  else (rq, p)

def NSEC_PER_MSEC : ℕ := 1000000

def DIV64_U64_ROUNDUP (x y : ℕ) : ℕ := (x + (y - 1)) % 2 ^ 64 / y

def update_task_rq_cpu_cycles (P : Params Cpu) (rq : Rq Tid) (curr_is_idle : Bool)
    (p : Task Cpu) (event : TaskEvent) (wallclock irqtime : ℕ) : Rq Tid × Task Cpu :=
  let capacity := P.arch_scale_cpu_capacity p.acct.cpu
  let max_freq := P.max_possible_freq p.acct.cpu
  if !P.use_cycle_counter then
    ({ rq with task_exec_scale :=
        DIV64_U64_ROUNDUP (rq.cur_freq * capacity % 2 ^ 64) max_freq }, p)
  else
    let rq := read_cycle_counter rq wallclock
    let rq := if !curr_is_idle || decide (irqtime ≠ 0) then
        let cycles_delta := if rq.cycles < p.cpu_cycles then rq.cycles + (2 ^ 64 - 1 - p.cpu_cycles)
          else rq.cycles - p.cpu_cycles
        let cycles_delta := cycles_delta * NSEC_PER_MSEC % 2 ^ 64
        let time_delta := if event = .IRQ_UPDATE ∧ p.acct.is_idle = true then irqtime
          else sub64 wallclock p.acct.mark_start
        let rq := SCHED_BUG_ON (decide (2 ^ 63 ≤ time_delta)) rq
        { rq with task_exec_scale :=
            DIV64_U64_ROUNDUP (cycles_delta * capacity % 2 ^ 64) (time_delta * max_freq % 2 ^ 64) }
      else rq
    (rq, { p with cpu_cycles := rq.cycles })

/-! ## Busy time -/

def cpu_is_waiting_on_io (P : Params Cpu) (rq : Rq Tid) : Bool :=
  P.sched_io_is_busy && decide (rq.nr_iowait ≠ 0)

/-- Does the CPU count this time as busy? -/
def account_busy_for_cpu_time (P : Params Cpu) (rq : Rq Tid) (is_curr : Bool) (p : Task Cpu)
    (irqtime : ℕ) (event : TaskEvent) : Bool :=
  if p.acct.is_idle then
    if event = .PICK_NEXT_TASK then false
    else decide (irqtime ≠ 0) || cpu_is_waiting_on_io P rq
  else match event with
  | .TASK_WAKE => false
  | .PUT_PREV_TASK | .IRQ_UPDATE => true
  | .TASK_UPDATE => is_curr || (decide (p.on_rq ≠ .no) && SCHED_FREQ_ACCOUNT_WAIT_TIME)
  | .TASK_MIGRATE | .PICK_NEXT_TASK => SCHED_FREQ_ACCOUNT_WAIT_TIME

variable (P : Params Cpu)

lemma update_window_start_spec (rq : Rq Tid) (wallclock : ℕ) :
    (update_window_start P rq wallclock).busy = rq.busy.advance P wallclock ∧
    (update_window_start P rq wallclock).curr = rq.curr ∧
    (update_window_start P rq wallclock).walt_stats = rq.walt_stats := by
  unfold update_window_start Busy.advance
  dsimp only
  split_ifs with h h' h'
  · exact ⟨rfl, rfl, rfl⟩
  · exact absurd h h'
  · exact absurd h' h
  · exact ⟨rfl, rfl, rfl⟩

lemma update_task_cpu_cycles_spec (rq : Rq Tid) (p : Task Cpu)
    (wallclock : ℕ) : ∃ c l d, update_task_cpu_cycles P rq p wallclock =
      ({ rq with cycles := c, last_cc_update := l }, { p with cpu_cycles := d }) := by
  unfold update_task_cpu_cycles read_cycle_counter
  split_ifs <;> exact ⟨_, _, _, rfl⟩

lemma update_task_rq_cpu_cycles_spec (rq : Rq Tid) (curr_is_idle : Bool)
    (p : Task Cpu) (event : TaskEvent) (wallclock irqtime : ℕ) :
    ∃ c l e g d, update_task_rq_cpu_cycles P rq curr_is_idle p event wallclock irqtime =
      ({ rq with cycles := c, last_cc_update := l, task_exec_scale := e, in_sched_bug := g },
       { p with cpu_cycles := d }) := by
  unfold update_task_rq_cpu_cycles read_cycle_counter SCHED_BUG_ON
  split_ifs <;> exact ⟨_, _, _, _, _, rfl⟩

section

variable [DecidableEq Cpu]

def busy_time_done (P : Params Cpu) (b : Busy) (a : Account Cpu) (old_curr_window : ℕ)
    (new_window full_window : Bool) : Busy × Account Cpu :=
  if a.is_idle then (b, a)
  else ({ b with top := update_top_tasks P a b.top old_curr_window new_window full_window }, a)

/-- The last branch of `update_cpu_busy_time`, which is reached for an idle task only. -/
def account_idle_irqtime (scale : ℕ → ℕ) (b : Busy) (grp : Bool) (wallclock irqtime : ℕ) : Busy :=
  let mark_start := sub64 wallclock irqtime
  let t := b.cpu_time grp
  if b.window_start < mark_start then
    b.set_cpu_time grp { t with curr_runnable_sum := scale irqtime }
  else
    let delta := min (b.window_start - mark_start) b.prev_window_size
    let b := b.set_cpu_time grp { t with prev_runnable_sum := t.prev_runnable_sum + scale delta }
    { b with time := { b.time with
        curr_runnable_sum := scale (sub64 wallclock b.window_start) } }

/-- `update_cpu_busy_time`. `account` is the answer of `account_busy_for_cpu_time` and `io` that of
`cpu_is_waiting_on_io`. -/
def busy_time (P : Params Cpu) (scale : ℕ → ℕ) (account io : Bool) (b : Busy) (is_curr : Bool)
    (a : Account Cpu) (wallclock irqtime : ℕ) : Busy × Account Cpu :=
  let mark_start := a.mark_start
  let window_start := b.window_start
  let window_size := b.prev_window_size
  let old_curr_window := a.win.curr_window
  let new_window := newWindow b a
  let full_window := fullWindow b a
  let a := a.roll window_size new_window full_window
  let new_task := is_new_task a
  let b := b.roll P is_curr new_window full_window
  if !account then busy_time_done P b a old_curr_window new_window full_window
  else
    let t := b.cpu_time a.grp
    let not_irq := decide (irqtime = 0) || !a.is_idle || io
    if !new_window then
      let delta := scale (if not_irq then sub64 wallclock mark_start else irqtime)
      busy_time_done P (b.set_cpu_time a.grp (t.add_curr new_task delta))
        (if !a.is_idle then { a with win := a.win.add_curr a.cpu delta } else a)
        old_curr_window new_window full_window
    else if !is_curr || not_irq then
      -- time before the boundary goes to the previous window, the rest to the current one
      let before := scale (if full_window then window_size else window_start - mark_start)
      let after := scale (sub64 wallclock window_start)
      let w := if full_window then a.win.set_prev a.cpu before else a.win.add_prev a.cpu before
      let w := w.set_curr a.cpu after
      busy_time_done P
        (b.set_cpu_time a.grp ((t.add_prev new_task before).add_curr new_task after))
        (if !is_curr || !a.is_idle then { a with win := w } else a)
        old_curr_window new_window full_window
    else (account_idle_irqtime scale b a.grp wallclock irqtime, a)

def update_cpu_busy_time (P : Params Cpu) (rq : Rq Tid) (is_curr : Bool) (p : Task Cpu)
    (event : TaskEvent) (wallclock irqtime : ℕ) : Rq Tid × Task Cpu :=
  let r := busy_time P (scale_exec_time · rq)
    (account_busy_for_cpu_time P rq is_curr p irqtime event)
    (cpu_is_waiting_on_io P rq) rq.busy is_curr p.acct wallclock irqtime
  ({ rq with busy := r.1 }, { p with acct := r.2 })

/-! ## One event -/

/-- The accounting call: window, cycles, demand, busy time. -/
def walt_update_task_ravg (P : Params Cpu) (rq : Rq Tid) (is_curr curr_is_idle : Bool)
    (p : Task Cpu) (event : TaskEvent) (wallclock irqtime : ℕ) : Rq Tid × Task Cpu :=
  if rq.busy.window_start = 0 ∨ p.acct.mark_start = wallclock then (rq, p)
  else
    let rq := update_window_start P rq wallclock
    if p.acct.mark_start = 0 then
      let (rq, p) := update_task_cpu_cycles P rq p wallclock
      (rq, { p with acct := { p.acct with mark_start := wallclock } })
    else
      let (rq, p) := update_task_rq_cpu_cycles P rq curr_is_idle p event wallclock irqtime
      let (rq, p) := update_task_demand P rq is_curr curr_is_idle p event wallclock
      let (rq, p) := update_cpu_busy_time P rq is_curr p event wallclock irqtime
      let (rq, p) := update_task_pred_demand P rq p event
      (rq, { p with acct := { p.acct with mark_start := wallclock } })

/-! ## Frames

What each part leaves alone. Only `busy_time` writes an `Account` before `mark_start`
is set at the end, and it writes `active_time` and the windows only. -/

omit [DecidableEq Cpu] in
lemma busy_time_done_snd (b : Busy) (a : Account Cpu) (n : ℕ) (x y : Bool) :
    (busy_time_done P b a n x y).2 = a := by
  unfold busy_time_done
  split_ifs <;> rfl

lemma busy_time_cpu (scale : ℕ → ℕ) (account io : Bool) (b : Busy)
    (is_curr : Bool) (a : Account Cpu) (wallclock irqtime : ℕ) :
    (busy_time P scale account io b is_curr a wallclock irqtime).2.cpu = a.cpu := by
  unfold busy_time
  dsimp only
  split_ifs <;> simp [busy_time_done_snd]

end

end KernelExtra.Walt
