/-
The busy-time machine: what the machine of `Machine` does to windows and counters.

On a `View`, `walt_update_task_ravg` rolls over what is stale, then charges an amount, a `Charge`,
which `ravg_charge` computes. `step_refines` says that every step of the full machine is an action
here, or leaves the view alone.
-/
import KernelExtra.Sched.Walt.Machine

namespace KernelExtra.Walt

open Function

/-! ## Views and actions -/

/-- What the busy-time accounts are about. -/
structure View (Cpu Tid : Type) where
  busy : Cpu → Busy
  curr : Cpu → Tid
  acct : Tid → Account Cpu
  clock : ℕ

def State.view {Cpu Tid : Type} (s : State Cpu Tid) : View Cpu Tid where
  busy := fun i => (s.rq i).busy
  curr := fun i => (s.rq i).curr
  acct := fun p => (s.task p).acct
  clock := s.clock

def View.mark {Cpu Tid : Type} (v : View Cpu Tid) (i : Cpu) : ℕ := (v.acct (v.curr i)).mark_start

/-- Busy time to be added: nothing, some to the current window, or some before and some after a
window boundary. -/
inductive Charge
  | none
  | curr (delta : ℕ)
  | split (before after : ℕ)

/-- The actions. What accounting the idle task does is left open: `idle` carries the queue
afterwards and the windows. -/
inductive Act (Cpu Tid : Type)
  | stutter
  | tick (p : Tid) (wallclock : ℕ)
  | fresh (p : Tid) (wallclock : ℕ)
  | account (p : Tid) (wallclock : ℕ) (c : Charge)
  | idle (p : Tid) (wallclock : ℕ) (b : Busy) (w : Windows Cpu)
  | migrate (p : Tid) (new_cpu : Cpu)
  | transfer (p : Tid) (add : Bool)
  | subtract (i : Cpu)
  | switch (i : Cpu) (next : Tid)

section Act

variable {Cpu Tid : Type}

def RunnableSums.charge (t : RunnableSums) (new_task : Bool) : Charge → RunnableSums
  | .none => t
  | .curr delta => t.add_curr new_task delta
  | .split before after => (t.add_prev new_task before).add_curr new_task after

variable [DecidableEq Cpu]

def Account.charge (a : Account Cpu) : Charge → Account Cpu
  | .none => a
  | .curr delta => { a with win := a.win.add_curr a.cpu delta }
  | .split before after => { a with win := (a.win.add_prev a.cpu before).add_curr a.cpu after }

def rolled_charge (P : Params Cpu) (b : Busy) (is_curr : Bool) (a : Account Cpu) (c : Charge) :
    Busy × Account Cpu :=
  let new_window := newWindow b a
  let full_window := fullWindow b a
  let old_curr_window := a.win.curr_window
  let a := a.roll b.prev_window_size new_window full_window
  let b := b.roll P is_curr new_window full_window
  let b := b.set_cpu_time a.grp ((b.cpu_time a.grp).charge (is_new_task a) c)
  let a := a.charge c
  ({ b with top := update_top_tasks P a b.top old_curr_window new_window full_window }, a)

variable [DecidableEq Tid]

def View.running (v : View Cpu Tid) (p : Tid) : Bool := decide (v.curr (v.acct p).cpu = p)

def View.set (v : View Cpu Tid) (p : Tid) (wallclock : ℕ) (b : Busy) (a : Account Cpu) :
    View Cpu Tid :=
  { v with
    busy := update v.busy (v.acct p).cpu b
    acct := update v.acct p { a with mark_start := wallclock }
    clock := wallclock }

def act (P : Params Cpu) (v : View Cpu Tid) : Act Cpu Tid → View Cpu Tid
  | .stutter => v
  | .tick _ wallclock => { v with clock := wallclock }
  | .fresh p wallclock =>
    v.set p wallclock ((v.busy (v.acct p).cpu).advance P wallclock) (v.acct p)
  | .account p wallclock c =>
    let r := rolled_charge P ((v.busy (v.acct p).cpu).advance P wallclock) (v.running p)
      (v.acct p) c
    v.set p wallclock r.1 r.2
  | .idle p wallclock b w => v.set p wallclock b { v.acct p with win := w }
  | .migrate p new_cpu =>
    let r := migrate_windows P v.busy (v.acct p) new_cpu
    { v with busy := r.1, acct := update v.acct p { r.2 with cpu := new_cpu } }
  | .transfer p add =>
    let r := transfer_windows P v.busy (v.acct p) add
    { v with busy := r.1, acct := update v.acct p { r.2 with grp := add } }
  | .subtract i =>
    { v with busy := update v.busy i (account_load_subtractions (v.busy i)) }
  | .switch i next => { v with curr := update v.curr i next }

/-! ## How much is charged -/

def busy_charge (scale : ℕ → ℕ) (account : Bool) (b : Busy) (a : Account Cpu) (wallclock : ℕ) :
    Charge :=
  if !account then .none
  else if !newWindow b a then .curr (scale (sub64 wallclock a.mark_start))
  else
    .split (scale (if fullWindow b a then b.prev_window_size else b.window_start - a.mark_start))
      (scale (sub64 wallclock b.window_start))

def ravg_charge (P : Params Cpu) (rq : Rq Tid) (is_curr curr_is_idle : Bool) (p : Task Cpu)
    (event : TaskEvent) (wallclock irqtime : ℕ) : Charge :=
  let (rq, p) := update_task_rq_cpu_cycles P (update_window_start P rq wallclock) curr_is_idle p
    event wallclock irqtime
  busy_charge (scale_exec_time · rq) (account_busy_for_cpu_time P rq is_curr p irqtime event)
    rq.busy p.acct wallclock

def State.charge (P : Params Cpu) (s : State Cpu Tid) (p : Tid) (event : TaskEvent)
    (wallclock irqtime : ℕ) : Charge :=
  let rq := s.task_rq p
  ravg_charge P rq (decide (rq.curr = p)) (s.task rq.curr).acct.is_idle (s.task p) event wallclock
    irqtime

/-! ## Which actions there are -/

/-- A charge fits the window: over a boundary it is split. -/
def Charge.Fits (c : Charge) (b : Busy) (a : Account Cpu) (wallclock : ℕ) : Prop :=
  match c with
  | .none => True
  | .curr _ => newWindow b a = false
  | .split _ after => newWindow b a = true ∧ (wallclock = b.window_start → after = 0)

/-- No sum is smaller. -/
structure RunnableSums.Grown (t' t : RunnableSums) : Prop where
  curr : t'.curr_runnable_sum ≤ t.curr_runnable_sum
  prev : t'.prev_runnable_sum ≤ t.prev_runnable_sum
  nt_curr : t'.nt_curr_runnable_sum ≤ t.nt_curr_runnable_sum
  nt_prev : t'.nt_prev_runnable_sum ≤ t.nt_prev_runnable_sum

/-- Idle time adds to the sums only. -/
structure Busy.IdleGrown (b' b : Busy) : Prop where
  time : b'.time.Grown b.time
  grp_time : b'.grp_time.Grown b.grp_time
  same : b = { b' with time := b.time, grp_time := b.grp_time }

def Legal (P : Params Cpu) (v : View Cpu Tid) : Act Cpu Tid → Prop
  | .stutter | .migrate .. | .transfer .. | .subtract _ | .switch .. => True
  | .tick p wallclock =>
    (v.busy (v.acct p).cpu).window_start = 0 ∨ (v.acct p).mark_start = wallclock
  | .fresh p _ => (v.acct p).mark_start = 0
  | .account p wallclock c =>
    (v.acct p).is_idle = false ∧ (v.acct p).mark_start ≠ 0 ∧ (v.acct p).mark_start ≠ wallclock ∧
      c.Fits ((v.busy (v.acct p).cpu).advance P wallclock) (v.acct p) wallclock
  | .idle p wallclock b _ =>
    (v.acct p).is_idle = true ∧
      let b0 := (v.busy (v.acct p).cpu).advance P wallclock
      (b0.roll P (v.running p) (newWindow b0 (v.acct p)) (fullWindow b0 (v.acct p))).IdleGrown b

/-- A reading of the clock at queue `i`: time has not gone back, and few windows are to be
counted. -/
def View.Reads (P : Params Cpu) (v : View Cpu Tid) (i : Cpu) (wallclock : ℕ) : Prop :=
  v.clock ≤ wallclock ∧ (v.busy i).FewWindows P wallclock

/-- What `Timed` and `Counted` say of an action. -/
def Act.Timed (P : Params Cpu) (v : View Cpu Tid) : Act Cpu Tid → Prop
  | .stutter => True
  | .tick p wallclock | .fresh p wallclock | .account p wallclock _ | .idle p wallclock _ _ =>
    v.Reads P (v.acct p).cpu wallclock ∧
      (v.curr (v.acct p).cpu = p ∨ v.mark (v.acct p).cpu = wallclock)
  | .migrate p new_cpu =>
    (v.acct p).is_idle = false ∧ v.curr (v.acct p).cpu ≠ p ∧ new_cpu ≠ (v.acct p).cpu ∧
      (v.acct p).mark_start = v.clock ∧ v.mark (v.acct p).cpu = v.clock ∧ v.mark new_cpu = v.clock
  | .transfer p add =>
    (v.acct p).is_idle = false ∧ (v.acct p).grp = !add ∧ (v.acct p).mark_start = v.clock ∧
      v.mark (v.acct p).cpu = v.clock
  | .subtract i => v.mark i = v.clock
  | .switch i next => (v.acct next).cpu = i ∧ (v.acct next).mark_start = v.mark i

def Act.Grouped (v : View Cpu Tid) : Act Cpu Tid → Prop
  | .transfer p add => (v.acct p).grp = !add
  | _ => True

end Act

/-! ## One accounting call is an action -/

section Refinement

variable {Cpu Tid : Type}

variable (P : Params Cpu) (b : Busy)

@[simp] lemma Busy.set_cpu_time_cpu_time (grp : Bool) :
    b.set_cpu_time grp (b.cpu_time grp) = b := by
  cases grp <;> rfl

@[simp] lemma Busy.set_cpu_time_top (grp : Bool) (t : RunnableSums) :
    (b.set_cpu_time grp t).top = b.top := by
  cases grp <;> rfl

@[simp] lemma Busy.roll_window_start (x y z : Bool) :
    (b.roll P x y z).window_start = b.window_start := by
  unfold Busy.roll; split_ifs <;> rfl

@[simp] lemma Busy.roll_prev_window_size (x y z : Bool) :
    (b.roll P x y z).prev_window_size = b.prev_window_size := by
  unfold Busy.roll; split_ifs <;> rfl

@[simp] lemma Busy.window_roll (x y z : Bool) : (b.roll P x y z).window = b.window := by
  unfold Busy.roll; split_ifs <;> rfl

@[simp] lemma Busy.load_subs_roll (x y z : Bool) : (b.roll P x y z).load_subs = b.load_subs := by
  unfold Busy.roll; split_ifs <;> rfl

@[simp] lemma Busy.underflow_roll (x y z : Bool) : (b.roll P x y z).underflow = b.underflow := by
  unfold Busy.roll; split_ifs <;> rfl

lemma RunnableSums.Grown.refl (t : RunnableSums) : t.Grown t :=
  ⟨le_rfl, le_rfl, le_rfl, le_rfl⟩

lemma RunnableSums.Grown.add_curr (t : RunnableSums) (new_task : Bool) (delta : ℕ) :
    t.Grown (t.add_curr new_task delta) := by
  refine ⟨?_, le_rfl, ?_, le_rfl⟩ <;> simp only [RunnableSums.add_curr]
  · omega
  · split_ifs <;> omega

lemma RunnableSums.Grown.add_prev (t : RunnableSums) (new_task : Bool) (delta : ℕ) :
    t.Grown (t.add_prev new_task delta) := by
  refine ⟨le_rfl, ?_, le_rfl, ?_⟩ <;> simp only [RunnableSums.add_prev]
  · omega
  · split_ifs <;> omega

lemma RunnableSums.Grown.trans {t u w : RunnableSums} (h : t.Grown u) (h' : u.Grown w) :
    t.Grown w :=
  ⟨h.curr.trans h'.curr, h.prev.trans h'.prev, h.nt_curr.trans h'.nt_curr,
    h.nt_prev.trans h'.nt_prev⟩

lemma Busy.IdleGrown.refl : b.IdleGrown b := ⟨.refl _, .refl _, rfl⟩

lemma Busy.IdleGrown.set_cpu_time {b : Busy} {grp : Bool} {t : RunnableSums}
    (h : (b.cpu_time grp).Grown t) : b.IdleGrown (b.set_cpu_time grp t) := by
  cases grp
  · exact ⟨h, .refl _, rfl⟩
  · exact ⟨.refl _, h, rfl⟩

lemma busy_charge_fits {scale : ℕ → ℕ} (hscale : scale 0 = 0) (account : Bool) (b : Busy)
    (a : Account Cpu) (wallclock : ℕ) :
    (busy_charge scale account b a wallclock).Fits b a wallclock := by
  cases account with
  | false => trivial
  | true =>
    cases hnew : newWindow b a with
    | false => simp [busy_charge, hnew, Charge.Fits]
    | true =>
      have hafter : wallclock = b.window_start → scale (sub64 wallclock b.window_start) = 0 := by
        rintro rfl
        rw [sub64_of_le (le_rfl), Nat.sub_self, hscale]
      simpa [busy_charge, hnew, Charge.Fits] using hafter

lemma account_idle_irqtime_grown (scale : ℕ → ℕ) {b : Busy}
    (ht : b.time.curr_runnable_sum = 0) (hg : b.grp_time.curr_runnable_sum = 0) (grp : Bool)
    (wallclock irqtime : ℕ) : b.IdleGrown (account_idle_irqtime scale b grp wallclock irqtime) := by
  unfold account_idle_irqtime
  dsimp only
  split_ifs
  · cases grp <;> refine .set_cpu_time ⟨?_, le_rfl, le_rfl, le_rfl⟩ <;>
      simp [Busy.cpu_time, ht, hg]
  · cases grp <;> refine ⟨⟨?_, ?_, le_rfl, le_rfl⟩, ⟨?_, ?_, le_rfl, le_rfl⟩, rfl⟩ <;>
      simp [Busy.cpu_time, Busy.set_cpu_time, ht]

lemma busy_time_done_idle {a : Account Cpu} (ha : a.is_idle = true)
    (n : ℕ) (x y : Bool) : busy_time_done P b a n x y = (b, a) := by
  simp [busy_time_done, ha]

variable [DecidableEq Cpu]

variable (is_curr : Bool)

variable (a : Account Cpu)

variable (c : Charge)

lemma window_rolled_charge : (rolled_charge P b is_curr a c).1.window = b.window :=
  (Busy.window_set_cpu_time ..).trans (Busy.window_roll ..)

@[simp] lemma Account.charge_cpu : (a.charge c).cpu = a.cpu := by
  cases c <;> rfl

lemma cpu_rolled_charge : (rolled_charge P b is_curr a c).2.cpu = a.cpu := by
  simp [rolled_charge]

lemma is_idle_rolled_charge : (rolled_charge P b is_curr a c).2.is_idle = a.is_idle := by
  cases c <;> exact Account.roll_is_idle ..

lemma grp_rolled_charge : (rolled_charge P b is_curr a c).2.grp = a.grp := by
  cases c <;> exact Account.roll_grp ..

lemma load_subs_rolled_charge : (rolled_charge P b is_curr a c).1.load_subs = b.load_subs := by
  simp only [rolled_charge, Busy.set_cpu_time]
  split_ifs <;> exact Busy.load_subs_roll ..

lemma underflow_rolled_charge : (rolled_charge P b is_curr a c).1.underflow = b.underflow := by
  simp only [rolled_charge, Busy.set_cpu_time]
  split_ifs <;> exact Busy.underflow_roll ..

lemma rollover_set_eq_add (n : ℕ) (a : Account Cpu) (full : Bool) (before after : ℕ) :
    ((if full then (rollover_task_window n a full).win.set_prev a.cpu before
      else (rollover_task_window n a full).win.add_prev a.cpu before).set_curr a.cpu after)
    = ((rollover_task_window n a full).win.add_prev a.cpu before).add_curr a.cpu after := by
  cases full <;>
    simp [rollover_task_window, Windows.set_prev, Windows.add_prev, Windows.set_curr,
      Windows.add_curr]

lemma busy_time_eq_rolled_charge (scale : ℕ → ℕ) (account io : Bool) (b : Busy)
    (is_curr : Bool) {a : Account Cpu} (ha : a.is_idle = false) (wallclock irqtime : ℕ) :
    busy_time P scale account io b is_curr a wallclock irqtime
      = rolled_charge P b is_curr a (busy_charge scale account b a wallclock) := by
  cases account with
  | false =>
    simp [busy_time, busy_time_done, rolled_charge, RunnableSums.charge, Account.charge, ha,
      busy_charge]
  | true =>
    cases hnew : newWindow b a with
    | false =>
      simp [busy_time, busy_time_done, rolled_charge, RunnableSums.charge, Account.charge, ha,
        hnew, fullWindow, busy_charge]
    | true =>
      · have hroll : a.roll b.prev_window_size true (fullWindow b a)
            = rollover_task_window b.prev_window_size a (fullWindow b a) := by
          simp [Account.roll, ha]
        have hset := rollover_set_eq_add b.prev_window_size a (fullWindow b a)
          (scale (if fullWindow b a then b.prev_window_size else b.window_start - a.mark_start))
          (scale (sub64 wallclock b.window_start))
        have hcpu : (rollover_task_window b.prev_window_size a (fullWindow b a)).cpu = a.cpu := rfl
        have hidle : (rollover_task_window b.prev_window_size a (fullWindow b a)).is_idle = false :=
          ha
        simp [busy_time, busy_time_done, rolled_charge, RunnableSums.charge, Account.charge,
          busy_charge, hnew, hroll, hcpu, hidle, hset, Busy.set_cpu_time_top]

lemma busy_time_idle (scale : ℕ → ℕ) (account io : Bool) (b : Busy)
    (is_curr : Bool) {a : Account Cpu} (ha : a.is_idle = true) (wallclock irqtime : ℕ) :
    ∃ w, (busy_time P scale account io b is_curr a wallclock irqtime).2 = { a with win := w } ∧
      (b.roll P is_curr (newWindow b a) (fullWindow b a)).IdleGrown
        (busy_time P scale account io b is_curr a wallclock irqtime).1 := by
  have hroll : ∀ n x y, a.roll n x y = a := by simp [Account.roll, ha]
  have hskip : ¬ (!a.is_idle) = true := by simp [ha]
  simp only [busy_time, hroll]
  cases account with
  | false =>
    rw [if_pos (by rfl), busy_time_done_idle P _ ha]
    exact ⟨a.win, rfl, .refl _⟩
  | true =>
    rw [if_neg (by simp)]
    cases hn : newWindow b a with
    | false =>
      rw [if_pos (by rfl), if_neg hskip, busy_time_done_idle P _ ha]
      exact ⟨a.win, rfl, .set_cpu_time (.add_curr ..)⟩
    | true =>
      rw [if_neg (by simp)]
      by_cases hin : (!is_curr || (decide (irqtime = 0) || !a.is_idle || io)) = true
      · have hgrown : ∀ x y, (b.roll P is_curr true (fullWindow b a)).IdleGrown
            ((b.roll P is_curr true (fullWindow b a)).set_cpu_time a.grp
              ((((b.roll P is_curr true (fullWindow b a)).cpu_time a.grp).add_prev
                (is_new_task a) x).add_curr (is_new_task a) y)) := fun x y =>
          .set_cpu_time ((RunnableSums.Grown.add_prev ..).trans (.add_curr ..))
        rw [if_pos hin]
        by_cases hw : (!is_curr || !a.is_idle) = true
        · rw [if_pos hw, busy_time_done_idle P _ (by exact ha)]
          exact ⟨_, rfl, hgrown _ _⟩
        · rw [if_neg hw, busy_time_done_idle P _ ha]
          exact ⟨a.win, rfl, hgrown _ _⟩
      · rw [if_neg hin]
        have hcurr : is_curr = true := by cases is_curr <;> simp_all
        subst hcurr
        refine ⟨a.win, rfl, account_idle_irqtime_grown scale ?_ ?_ a.grp wallclock irqtime⟩ <;>
          simp [Busy.roll, rollover_cpu_window, RunnableSums.rollover]

lemma scale_exec_time_zero (rq : Rq Tid) : scale_exec_time 0 rq = 0 := by
  simp [scale_exec_time]

/-- **One accounting call**, read off the busy part of the queue and the account of the task. -/
theorem walt_update_task_ravg_cases (rq : Rq Tid) (is_curr curr_is_idle : Bool)
    (p : Task Cpu) (event : TaskEvent) (wallclock irqtime : ℕ) :
    let r := walt_update_task_ravg P rq is_curr curr_is_idle p event wallclock irqtime
    let b := rq.busy.advance P wallclock
    r.1.curr = rq.curr ∧
    (((rq.busy.window_start = 0 ∨ p.acct.mark_start = wallclock) ∧ r = (rq, p)) ∨
     (p.acct.mark_start = 0 ∧ r.1.busy = b ∧ r.2.acct = { p.acct with mark_start := wallclock }) ∨
     (p.acct.is_idle = false ∧ p.acct.mark_start ≠ 0 ∧ p.acct.mark_start ≠ wallclock ∧
      let c := ravg_charge P rq is_curr curr_is_idle p event wallclock irqtime
      c.Fits b p.acct wallclock ∧
        r.1.busy = (rolled_charge P b is_curr p.acct c).1 ∧
        r.2.acct = { (rolled_charge P b is_curr p.acct c).2 with mark_start := wallclock }) ∨
     (p.acct.is_idle = true ∧
      (b.roll P is_curr (newWindow b p.acct) (fullWindow b p.acct)).IdleGrown r.1.busy ∧
      ∃ w, r.2.acct = { p.acct with win := w, mark_start := wallclock })) := by
  unfold walt_update_task_ravg
  obtain ⟨hbusy, hcurr, -⟩ := update_window_start_spec P rq wallclock
  split_ifs with hskip hfirst
  · exact ⟨rfl, .inl ⟨hskip, rfl⟩⟩
  · obtain ⟨c, l, d, hcyc⟩ :=
      update_task_cpu_cycles_spec P (update_window_start P rq wallclock) p wallclock
    simp only [hcyc]
    exact ⟨hcurr, .inr (.inl ⟨hfirst, hbusy, trivial⟩)⟩
  · set rq1 := update_window_start P rq wallclock
    obtain ⟨c, l, e, g, d, hcyc⟩ :=
      update_task_rq_cpu_cycles_spec P rq1 curr_is_idle p event wallclock irqtime
    simp only [hcyc]
    set rq2 :=
      { rq1 with cycles := c, last_cc_update := l, task_exec_scale := e, in_sched_bug := g }
    set p2 := { p with cpu_cycles := d }
    obtain ⟨st3, c3, d3, h3⟩ :=
      (update_task_demand_mirrors P rq2 is_curr curr_is_idle p2 event wallclock).frame
    simp only [h3]
    set rq3 := { rq2 with walt_stats := st3, cum_window_demand_scaled := c3 }
    set p3 := { p2 with dem := d3 }
    set r4 := update_cpu_busy_time P rq3 is_curr p3 event wallclock irqtime with hr4
    obtain ⟨st5, c5, d5, h5⟩ := (update_task_pred_demand_mirrors P r4.1 r4.2 event).frame
    simp only [h5]
    -- up to here only `busy_time` has touched the busy part and the account
    set acc := account_busy_for_cpu_time P rq3 is_curr p3 irqtime event
    set io := cpu_is_waiting_on_io P rq3
    have hb4 : r4.1.busy = (busy_time P (scale_exec_time · rq3) acc io (rq.busy.advance P wallclock)
        is_curr p.acct wallclock irqtime).1 := by rw [← hbusy]; rfl
    have ha4 : r4.2.acct = (busy_time P (scale_exec_time · rq3) acc io (rq.busy.advance P wallclock)
        is_curr p.acct wallclock irqtime).2 := by rw [← hbusy]; rfl
    refine ⟨hcurr, .inr (.inr ?_)⟩
    rw [not_or] at hskip
    by_cases hidle : p.acct.is_idle = true
    · obtain ⟨w, hw, hgrown⟩ := busy_time_idle P _ acc io
        (rq.busy.advance P wallclock) is_curr hidle wallclock irqtime
      exact .inr ⟨hidle, by rw [hb4]; exact hgrown, w, by rw [ha4, hw]⟩
    · have hidle' : p.acct.is_idle = false := by simpa using hidle
      have hcharge : ravg_charge P rq is_curr curr_is_idle p event wallclock irqtime
          = busy_charge (scale_exec_time · rq3) acc (rq.busy.advance P wallclock) p.acct
              wallclock := by
        rw [← hbusy, ravg_charge, show update_window_start P rq wallclock = rq1 from rfl, hcyc]
        rfl
      have heq := busy_time_eq_rolled_charge P (scale_exec_time · rq3) acc io
        (rq.busy.advance P wallclock) is_curr hidle' wallclock irqtime
      rw [← hcharge] at heq
      refine .inl ⟨hidle', hfirst, hskip.2, ?_, by rw [hb4, heq], by rw [ha4, heq]⟩
      rw [hcharge]
      exact busy_charge_fits (scale_exec_time_zero rq3) ..

/-! ## Every step is an action -/

lemma busy_update (rq : Cpu → Rq Tid) (i : Cpu) (r : Rq Tid) :
    (fun j => (update rq i r j).busy) = update (fun j => (rq j).busy) i r.busy :=
  funext (apply_update (fun _ (q : Rq Tid) => q.busy) rq i r)

lemma curr_update (rq : Cpu → Rq Tid) (i : Cpu) (r : Rq Tid) :
    (fun j => (update rq i r j).curr) = update (fun j => (rq j).curr) i r.curr :=
  funext (apply_update (fun _ (q : Rq Tid) => q.curr) rq i r)

variable [DecidableEq Tid]

omit [DecidableEq Cpu] in
lemma acct_update (task : Tid → Task Cpu) (p : Tid) (t : Task Cpu) :
    (fun q => (update task p t q).acct) = update (fun q => (task q).acct) p t.acct :=
  funext (apply_update (fun _ (t : Task Cpu) => t.acct) task p t)

variable (s : State Cpu Tid)

lemma view_set_pair (p : Tid) (r : Rq Tid × Task Cpu)
    (hcurr : r.1.curr = (s.task_rq p).curr) (clock : ℕ) (enq : Tid → Bool) :
    ({ s.set_pair p r with clock, enqueued := enq } : State Cpu Tid).view =
      { s.view with
        busy := update s.view.busy (s.task p).acct.cpu r.1.busy
        acct := update s.view.acct p r.2.acct
        clock } := by
  simp [State.view, State.set_pair, busy_update, curr_update, acct_update, hcurr, State.task_rq]

lemma view_set_pair_self (p : Tid) (r : Rq Tid × Task Cpu)
    (hbusy : r.1.busy = (s.task_rq p).busy) (hcurr : r.1.curr = (s.task_rq p).curr)
    (hacct : r.2.acct = (s.task p).acct) (enq : Tid → Bool) :
    ({ s.set_pair p r with enqueued := enq } : State Cpu Tid).view = s.view := by
  have h := view_set_pair s p r hcurr s.clock enq
  rw [hbusy, hacct] at h
  refine h.trans ?_
  simp [State.view, State.task_rq]

omit [DecidableEq Cpu] in
lemma view_set_task_self (p : Tid) (t : Task Cpu) (hacct : t.acct = (s.task p).acct) :
    ({ s with task := update s.task p t } : State Cpu Tid).view = s.view := by
  simp [State.view, acct_update, hacct]

/-- A step of the scheduler is an action on the accounts. -/
structure Refines (P : Params Cpu) (s : State Cpu Tid) (a : Step Cpu Tid) (x : Act Cpu Tid) :
    Prop where
  view : (step P s a).view = act P s.view x
  legal : Legal P s.view x
  timed : Timed s a ∧ Counted P s a → x.Timed P s.view
  grouped : Grouped s a → x.Grouped s.view
  charge : ∀ {p wallclock c}, x = .account p wallclock c → ∃ event irqtime,
    a = .ravg p event wallclock irqtime ∧ c = s.charge P p event wallclock irqtime
  migrate : ∀ {p new_cpu}, x = .migrate p new_cpu → a = .migrate p new_cpu

lemma ravg_refines (p : Tid) (event : TaskEvent)
    (wallclock irqtime : ℕ) : ∃ x, Refines P s (.ravg p event wallclock irqtime) x := by
  have hcases := walt_update_task_ravg_cases P (s.task_rq p) (decide ((s.task_rq p).curr = p))
    (s.task (s.task_rq p).curr).acct.is_idle (s.task p) event wallclock irqtime
  obtain ⟨hcurr, hcases⟩ := hcases
  have hview := view_set_pair s p _ hcurr wallclock s.enqueued
  have htimed : Timed s (.ravg p event wallclock irqtime) ∧
      Counted P s (.ravg p event wallclock irqtime) →
      (Act.tick p wallclock).Timed P s.view := fun h => ⟨⟨h.1.1, h.2⟩, h.1.2⟩
  rcases hcases with ⟨hskip, hr⟩ | ⟨hfirst, hb, ha⟩ | ⟨hidle, hms, hne, hfits, hb, ha⟩ |
      ⟨hidle, hgrown, w, ha⟩
  · refine ⟨.tick p wallclock, hview.trans ?_, hskip, htimed, fun h => h, nofun, nofun⟩
    rw [hr]
    simp [act, State.view, State.task_rq]
  · refine ⟨.fresh p wallclock, hview.trans ?_, hfirst, htimed, fun h => h, nofun, nofun⟩
    rw [hb, ha]
    rfl
  · refine ⟨.account p wallclock _, hview.trans ?_,
      ⟨hidle, hms, hne, hfits⟩, htimed, fun h => h, ?_, nofun⟩
    · rw [hb, ha]
      rfl
    · rintro _ _ _ ⟨⟩
      exact ⟨event, irqtime, rfl, rfl⟩
  · refine ⟨.idle p wallclock _ w, hview.trans ?_, ⟨hidle, hgrown⟩, htimed, fun h => h, nofun,
      nofun⟩
    rw [ha]
    rfl

lemma stutter_refines {P : Params Cpu} {s : State Cpu Tid} {a : Step Cpu Tid}
    (h : (step P s a).view = s.view) : ∃ x, Refines P s a x :=
  ⟨.stutter, h, trivial, fun _ => trivial, fun _ => trivial, nofun, nofun⟩

/-- **The refinement.** -/
theorem step_refines (a : Step Cpu Tid) : ∃ x, Refines P s a x := by
  cases a with
  | ravg p event wallclock irqtime => exact ravg_refines P s p event wallclock irqtime
  | migrate p new_cpu =>
    obtain ⟨hcore, d, hp⟩ := migrate_busy_time_spec P s.rq (s.task p) new_cpu s.clock
    refine ⟨.migrate p new_cpu, ?_, trivial, And.left, fun h => h, nofun, by rintro _ _ ⟨⟩; rfl⟩
    have hb : (fun i => ((migrate_busy_time P s.rq (s.task p) new_cpu s.clock).1 i).busy)
        = (migrate_windows P s.view.busy (s.view.acct p) new_cpu).1 :=
      funext fun i => congrArg Prod.fst (hcore i)
    have hc : (fun i => ((migrate_busy_time P s.rq (s.task p) new_cpu s.clock).1 i).curr)
        = s.view.curr := funext fun i => congrArg (fun c => c.2.1) (hcore i)
    simp only [step, State.migrate_busy_time, State.view, act, acct_update] at hb hc ⊢
    rw [hb, hc, hp]
  | transfer p add =>
    refine ⟨.transfer p add, ?_, trivial, And.left, fun h => h, nofun, nofun⟩
    simp [step, State.transfer_windows, State.view, act, acct_update]
  | account i =>
    refine ⟨.subtract i, ?_, trivial, And.left, fun h => h, nofun, nofun⟩
    simp [step, State.account_load_subtractions, State.view, act, busy_update, curr_update]
  | switch i next =>
    refine ⟨.switch i next, ?_, trivial, And.left, fun h => h, nofun, nofun⟩
    simp [step, State.view, act, busy_update, curr_update]
  | history p runtime samples =>
    obtain ⟨st, c, d, hr⟩ := (update_history_mirrors P (s.task_rq p)
      (decide ((s.task_rq p).curr = p)) (s.task p) runtime samples).frame
    refine stutter_refines (view_set_pair_self s p _ ?_ ?_ ?_ s.enqueued) <;> rw [hr]
  | pred_demand p event =>
    obtain ⟨st, c, d, hr⟩ :=
      (update_task_pred_demand_mirrors P _ _ event).frame
    refine stutter_refines (view_set_pair_self s p _ ?_ ?_ ?_ s.enqueued) <;> rw [hr]
  | enqueue p high_prio =>
    obtain ⟨htask, hbusy, hcurr, -⟩ :=
      inc_rq_walt_stats_spec P _ _ high_prio
    refine stutter_refines (view_set_pair_self s p
      ((inc_rq_walt_stats P (s.task_rq p) (s.task p) high_prio).1,
        (inc_rq_walt_stats P (s.task_rq p) (s.task p) high_prio).2.mark_queued) hbusy hcurr ?_ _)
    simp [htask, Task.mark_queued]
  | dequeue p migrating =>
    obtain ⟨hbusy, hcurr, -⟩ := dec_rq_walt_stats_spec P _ _
    exact stutter_refines (view_set_pair_self s p _ hbusy hcurr rfl _)
  | throttle p =>
    obtain ⟨hbusy, hcurr, -⟩ := dec_rq_walt_stats_spec P _ _
    exact stutter_refines (view_set_pair_self s p _ hbusy hcurr rfl _)
  | set_on_rq_throttled p queued => exact stutter_refines (view_set_task_self s p _ rfl)
  | set_policy p dl throttled => exact stutter_refines (view_set_task_self s p _ rfl)
  | set_env i nr_iowait cycle_counter cur_freq =>
    refine stutter_refines ?_
    simp [step, State.view, busy_update, curr_update]
  | set_task p state last_sleep_ts misfit => exact stutter_refines (view_set_task_self s p _ rfl)

end Refinement

end KernelExtra.Walt
