/-
The demand sums of a queue: `cumulative_runnable_avg_scaled` is the sum of `demand_scaled`, and
`pred_demands_sum_scaled` that of `pred_demand_scaled`, over the tasks enqueued on the queue.

`QueueSums` says that the tests of `on_rq` and the deadline flags are right and that the sums are
what they should be; the rest is `Tally.tally_update_add`.
-/
import KernelExtra.Sched.Walt.Machine

open KernelExtra.Tally

namespace KernelExtra.Walt

open Run (exec Ok)
open Function

variable {Cpu Tid : Type} [DecidableEq Cpu] [DecidableEq Tid]

/-! ## One accounting call -/

omit [DecidableEq Tid] in
lemma walt_update_task_ravg_sumsKept (P : Params Cpu) (rq : Rq Tid)
    (is_curr curr_is_idle : Bool) (p : Task Cpu) (event : TaskEvent) (wallclock irqtime : ℕ) :
    SumsKept rq p (walt_update_task_ravg P rq is_curr curr_is_idle p event wallclock irqtime) := by
  unfold walt_update_task_ravg
  split_ifs with hskip hfirst
  · exact SumsKept.refl rq p
  · obtain ⟨-, -, hst⟩ := update_window_start_spec P rq wallclock
    obtain ⟨c, l, d, hcyc⟩ :=
      update_task_cpu_cycles_spec P (update_window_start P rq wallclock) p wallclock
    simp only [hcyc]
    exact SumsKept.of_eq hst rfl rfl rfl
  · obtain ⟨-, -, hst⟩ := update_window_start_spec P rq wallclock
    set rq1 := update_window_start P rq wallclock
    obtain ⟨c, l, e, g, d, hcyc⟩ :=
      update_task_rq_cpu_cycles_spec P rq1 curr_is_idle p event wallclock irqtime
    simp only [hcyc]
    -- the cycles, the demand, the busy time, the prediction, and `mark_start`
    set rq2 :=
      { rq1 with cycles := c, last_cc_update := l, task_exec_scale := e, in_sched_bug := g }
    set p2 := { p with cpu_cycles := d }
    have h2 : SumsKept rq p (rq2, p2) := SumsKept.of_eq hst rfl rfl rfl
    have h3 := h2.trans
      (update_task_demand_mirrors P rq2 is_curr curr_is_idle p2 event wallclock).kept
    set r3 := update_task_demand P rq2 is_curr curr_is_idle p2 event wallclock
    set r4 := update_cpu_busy_time P r3.1 is_curr r3.2 event wallclock irqtime
    have hbusy : SumsKept r3.1 r3.2 r4 := SumsKept.of_eq rfl rfl (busy_time_cpu ..) rfl
    have h4 := h3.trans hbusy
    have h5 := h4.trans (update_task_pred_demand_mirrors P r4.1 r4.2 event).kept
    exact h5.trans (SumsKept.of_eq rfl rfl rfl rfl)

/-! ## The invariant -/

def State.entry (s : State Cpu Tid) (p : Tid) : Bool × Task Cpu := (s.enqueued p, s.task p)

def shareAt (f : Demand → ℕ) (i : Cpu) (e : Bool × Task Cpu) : ℤ :=
  if e.1 = true ∧ e.2.acct.cpu = i then f e.2.dem else 0

lemma shareAt_nonneg (f : Demand → ℕ) (i : Cpu) (e : Bool × Task Cpu) : 0 ≤ shareAt f i e := by
  unfold shareAt
  split_ifs <;> omega

lemma shareAt_congr (f : Demand → ℕ) (i : Cpu) {e e' : Bool × Task Cpu} (h : e'.1 = e.1)
    (hdem : e'.2.dem = e.2.dem) (hcpu : e.1 = true → e'.2.acct.cpu = e.2.acct.cpu) :
    shareAt f i e' = shareAt f i e := by
  unfold shareAt
  by_cases he : e.1 = true
  · simp [h, he, hdem, hcpu he]
  · simp [h, he]

variable [Fintype Tid]

def State.sumAt (s : State Cpu Tid) (f : Demand → ℕ) (i : Cpu) : ℤ := tally (shareAt f i) s.entry

/-- The two sums of every queue are right, the test for being in them is right, and no
`BUG_ON` has fired. -/
structure QueueSums (s : State Cpu Tid) : Prop where
  counted_eq : ∀ p, counted (s.task p) = s.enqueued p
  demand : ∀ i, (s.rq i).walt_stats.cumulative_runnable_avg_scaled
    = s.sumAt Demand.demand_scaled i
  pred : ∀ i, (s.rq i).walt_stats.pred_demands_sum_scaled = s.sumAt Demand.pred_demand_scaled i
  no_bug : ∀ i, (s.rq i).walt_stats.bug_on = false

variable {s s' : State Cpu Tid} {p : Tid} {t : Task Cpu} {P : Params Cpu}

omit [DecidableEq Tid] in
lemma rest_sumAt_nonneg (hc : ∀ p, counted (s.task p) = s.enqueued p)
    (f : Demand → ℕ) (p : Tid) : 0 ≤ rest f (s.sumAt f (s.task p).acct.cpu) (s.task p) := by
  have hle := le_tally (fun q => shareAt_nonneg f (s.task p).acct.cpu (s.entry q)) p
  have hshare : shareAt f (s.task p).acct.cpu (s.entry p)
      = if s.enqueued p = true then (f (s.task p).dem : ℤ) else 0 := by
    simp [shareAt, State.entry]
  rw [rest, hc p, State.sumAt]
  linarith

lemma sumAt_set_pair {e : Bool} (f : Demand → ℕ) (htask : s'.task = update s.task p t)
    (henq : s'.enqueued = update s.enqueued p e)
    (hcpu : t.acct.cpu = (s.task p).acct.cpu) (hc : counted t = e)
    (hcs : counted (s.task p) = s.enqueued p) :
    (∀ i, i ≠ (s.task p).acct.cpu → s'.sumAt f i = s.sumAt f i) ∧
    rest f (s'.sumAt f (s.task p).acct.cpu) t
      = rest f (s.sumAt f (s.task p).acct.cpu) (s.task p) := by
  have hentry : s'.entry = update s.entry p (e, t) := by
    funext q
    rcases eq_or_ne q p with rfl | hq
    · simp [State.entry, henq, htask]
    · simp [State.entry, henq, htask, hq]
  have htally := fun i => tally_update_add (shareAt f i) s.entry p (e, t)
  constructor
  · intro i hi
    have h0 : shareAt f i (s.entry p) = 0 := by simp [shareAt, State.entry, Ne.symm hi]
    have h1 : shareAt f i (e, t) = 0 := by simp [shareAt, hcpu, Ne.symm hi]
    have := htally i
    rw [h0, h1, add_zero, add_zero] at this
    rw [State.sumAt, hentry, this, State.sumAt]
  · have h0 : shareAt f (s.task p).acct.cpu (s.entry p)
        = if s.enqueued p = true then (f (s.task p).dem : ℤ) else 0 := by
      simp [shareAt, State.entry]
    have h1 : shareAt f (s.task p).acct.cpu (e, t) = if e = true then (f t.dem : ℤ) else 0 := by
      simp [shareAt, hcpu]
    have := htally (s.task p).acct.cpu
    rw [rest, rest, hc, hcs, State.sumAt, hentry, State.sumAt]
    linarith

omit [DecidableEq Tid] in
lemma QueueSums.congr (h : QueueSums s)
    (hst : ∀ i, (s'.rq i).walt_stats = (s.rq i).walt_stats) (henq : s'.enqueued = s.enqueued)
    (hc : ∀ p, counted (s'.task p) = counted (s.task p))
    (hdem : ∀ p, (s'.task p).dem = (s.task p).dem)
    (hcpu : ∀ p, s.enqueued p = true → (s'.task p).acct.cpu = (s.task p).acct.cpu) :
    QueueSums s' := by
  have hsum : ∀ f i, s'.sumAt f i = s.sumAt f i := fun f i =>
    tally_congr fun p => shareAt_congr f i (congrFun henq p) (hdem p) (hcpu p)
  refine ⟨fun p => ?_, fun i => ?_, fun i => ?_, fun i => ?_⟩
  · rw [hc, henq, h.counted_eq]
  · rw [hst, h.demand, hsum]
  · rw [hst, h.pred, hsum]
  · rw [hst, h.no_bug]

lemma QueueSums.set_pair (h : QueueSums s) {rq : Rq Tid} {e : Bool}
    (hrq : s'.rq = update s.rq (s.task p).acct.cpu rq)
    (htask : s'.task = update s.task p t)
    (henq : s'.enqueued = update s.enqueued p e)
    (hcpu : t.acct.cpu = (s.task p).acct.cpu) (hc : counted t = e)
    (hd : restDemand rq t = restDemand (s.task_rq p) (s.task p))
    (hp : restPred rq t = restPred (s.task_rq p) (s.task p))
    (hbug : rq.walt_stats.bug_on = false) : QueueSums s' := by
  have hdsum := sumAt_set_pair Demand.demand_scaled htask henq hcpu hc (h.counted_eq p)
  have hpsum := sumAt_set_pair Demand.pred_demand_scaled htask henq hcpu hc (h.counted_eq p)
  rw [restDemand, restDemand, State.task_rq, h.demand, ← hdsum.2] at hd
  rw [restPred, restPred, State.task_rq, h.pred, ← hpsum.2] at hp
  refine ⟨fun q => ?_, fun i => ?_, fun i => ?_, fun i => ?_⟩
  · rw [htask, henq]
    rcases eq_or_ne q p with rfl | hq
    · simp [hc]
    · simp [hq, h.counted_eq]
  · rcases eq_or_ne i (s.task p).acct.cpu with rfl | hi
    · rw [hrq, update_self]
      simpa [rest] using hd
    · rw [hrq, update_of_ne hi, h.demand, hdsum.1 i hi]
  · rcases eq_or_ne i (s.task p).acct.cpu with rfl | hi
    · rw [hrq, update_self]
      simpa [rest] using hp
    · rw [hrq, update_of_ne hi, h.pred, hpsum.1 i hi]
  · rcases eq_or_ne i (s.task p).acct.cpu with rfl | hi
    · rw [hrq, update_self, hbug]
    · rw [hrq, update_of_ne hi, h.no_bug]

omit [DecidableEq Tid] in
lemma QueueSums.rest_nonneg (h : QueueSums s) (p : Tid) :
    0 ≤ restDemand (s.task_rq p) (s.task p) ∧ 0 ≤ restPred (s.task_rq p) (s.task p) := by
  rw [restDemand, restPred, State.task_rq, h.demand, h.pred]
  exact ⟨rest_sumAt_nonneg h.counted_eq _ p, rest_sumAt_nonneg h.counted_eq _ p⟩

lemma QueueSums.of_kept (h : QueueSums s)
    {r : Rq Tid × Task Cpu} (hk : SumsKept (s.task_rq p) (s.task p) r)
    (hrq : s'.rq = (s.set_pair p r).rq) (htask : s'.task = (s.set_pair p r).task)
    (henq : s'.enqueued = s.enqueued) : QueueSums s' := by
  have hcount : counted r.2 = s.enqueued p := hk.counted.trans (h.counted_eq p)
  obtain ⟨hd, hp⟩ := h.rest_nonneg p
  have hbug : r.1.walt_stats.bug_on = false := (hk.safe hd hp).trans (h.no_bug _)
  exact h.set_pair hrq htask (by rw [henq, update_eq_self]) hk.cpu hcount hk.demand hk.pred hbug

/-! ## Steps and runs -/

omit [DecidableEq Tid] in
lemma QueueSums.of_boot (h : Boot P s) : QueueSums s := by
  have hsum : ∀ f i, s.sumAt f i = 0 := fun f i =>
    Finset.sum_eq_zero fun p _ => by simp [shareAt, State.entry, h.enqueued]
  refine ⟨fun p => ?_, fun i => ?_, fun i => ?_, fun i => ?_⟩
  · simp [counted, task_on_rq_queued, h.on_rq, h.enqueued]
  · rw [h.walt_stats, hsum]
  · rw [h.walt_stats, hsum]
  · rw [h.walt_stats]

section

variable (h : QueueSums s)
include h

lemma QueueSums.enqueue
    (hp : s.enqueued p = false) (high_prio : Bool) : QueueSums (s.enqueue P p high_prio) := by
  obtain ⟨htask, -, -, hcum, hpred, hbug⟩ :=
    inc_rq_walt_stats_spec P (s.task_rq p) (s.task p) high_prio
  have hoff : counted (s.task p) = false := (h.counted_eq p).trans hp
  obtain ⟨hd0, hp0⟩ := h.rest_nonneg p
  simp only [restDemand, restPred, rest, hoff, Bool.false_eq_true, if_false, sub_zero] at hd0 hp0
  have hon : counted (inc_rq_walt_stats P (s.task_rq p) (s.task p) high_prio).2.mark_queued
      = true := by
    cases hdl : (s.task p).has_dl_policy <;>
      simp [counted, task_on_rq_queued, Task.mark_queued, htask, hdl]
  refine h.set_pair rfl rfl rfl ?_ hon ?_ ?_ ((hbug hd0 hp0).trans (h.no_bug _))
  · simp [htask, Task.mark_queued]
  · rw [restDemand, restDemand, rest, rest, hon, hoff, hcum]
    simp [htask, Task.mark_queued]
  · rw [restPred, restPred, rest, rest, hon, hoff, hpred]
    simp [htask, Task.mark_queued]

lemma QueueSums.take_off (hp : s.enqueued p = true) (hcpu : t.acct.cpu = (s.task p).acct.cpu)
    (hc : counted t = false) : QueueSums (s.take_off P p t) := by
  obtain ⟨-, -, hcum, hpred, hbug⟩ := dec_rq_walt_stats_spec P _ _
  have hon : counted (s.task p) = true := (h.counted_eq p).trans hp
  obtain ⟨hd0, hp0⟩ := h.rest_nonneg p
  simp only [restDemand, restPred, rest, hon, if_true, sub_nonneg] at hd0 hp0
  refine h.set_pair rfl rfl rfl hcpu hc ?_ ?_ ((hbug hd0 hp0).trans (h.no_bug _))
  · simp [restDemand, rest, hcum, hon, hc]
  · simp [restPred, rest, hpred, hon, hc]

omit [DecidableEq Tid] in
lemma QueueSums.set_rq {i : Cpu} {rq : Rq Tid} (hst : rq.walt_stats = (s.rq i).walt_stats) :
    QueueSums { s with rq := update s.rq i rq } := by
  refine h.congr (fun j => ?_) rfl (fun _ => rfl) (fun _ => rfl) (fun _ _ => rfl)
  rcases eq_or_ne j i with rfl | hj
  · simp [hst]
  · simp [hj]

lemma QueueSums.set_task
    (hst : ∀ i, (s'.rq i).walt_stats = (s.rq i).walt_stats) (henq : s'.enqueued = s.enqueued)
    (htask : s'.task = update s.task p t) (hc : counted t = counted (s.task p))
    (hdem : t.dem = (s.task p).dem)
    (hcpu : s.enqueued p = true → t.acct.cpu = (s.task p).acct.cpu) : QueueSums s' := by
  refine h.congr hst henq (fun q => ?_) (fun q => ?_) (fun q hq => ?_) <;> rw [htask] <;>
    rcases eq_or_ne q p with rfl | hne
  · rw [update_self, hc]
  · rw [update_of_ne hne]
  · rw [update_self, hdem]
  · rw [update_of_ne hne]
  · rw [update_self, hcpu hq]
  · rw [update_of_ne hne]

/-- **Every step keeps the sums.** -/
theorem QueueSums.step {a : Step Cpu Tid} (ha : Queued s a) : QueueSums (step P s a) := by
  cases a with
  | ravg p event wallclock irqtime =>
    exact h.of_kept (walt_update_task_ravg_sumsKept ..) rfl rfl rfl
  | migrate p new_cpu =>
    obtain ⟨hcore, d, hp⟩ := migrate_busy_time_spec P s.rq _ new_cpu s.clock
    have hoff : ¬ s.enqueued p = true := by simp [show s.enqueued p = false from ha]
    refine h.set_task (fun i => ?_) rfl rfl ?_ ?_ (fun he => absurd he hoff)
    · exact congrArg (fun c => c.2.2) (hcore i)
    · simp [hp, counted, task_on_rq_queued]
    · simp [hp]
  | transfer p add => exact h.set_task (fun _ => rfl) rfl rfl rfl rfl (fun _ => by
      simp only [transfer_windows, update_cluster_load_subtractions]; split_ifs <;> rfl)
  | account i => exact h.set_rq rfl
  | switch i next => exact h.set_rq rfl
  | history p runtime samples =>
    exact h.of_kept (update_history_mirrors ..).kept rfl rfl rfl
  | pred_demand p event =>
    exact h.of_kept (update_task_pred_demand_mirrors ..).kept rfl rfl rfl
  | enqueue p high_prio => exact h.enqueue ha high_prio
  | dequeue p migrating =>
    exact h.take_off ha rfl (by cases migrating <;> simp [counted, task_on_rq_queued])
  | throttle p =>
    exact h.take_off ha.1 rfl (by simp [counted, ha.2])
  | set_on_rq_throttled p queued =>
    exact h.set_task (fun _ => rfl) rfl rfl (by simp [counted, ha.2.1, ha.2.2]) rfl (fun _ => rfl)
  | set_policy p dl throttled =>
    exact h.set_task (fun _ => rfl) rfl rfl (by simp [counted, task_on_rq_queued, ha.2]) rfl
      (fun _ => rfl)
  | set_env i nr_iowait cycle_counter cur_freq => exact h.set_rq rfl
  | set_task p state last_sleep_ts misfit =>
    exact h.set_task (fun _ => rfl) rfl rfl rfl rfl (fun _ => rfl)

end

/-- **Demand sums of the queues, over every run.** -/
theorem demand_sums_of_run (P : Params Cpu) (s : State Cpu Tid) (hboot : Boot P s)
    (l : List (Step Cpu Tid)) (hl : Ok (Walt.step P) Queued s l) (i : Cpu) :
    ((exec (Walt.step P) s l).rq i).walt_stats.cumulative_runnable_avg_scaled
        = (exec (Walt.step P) s l).sumAt Demand.demand_scaled i ∧
      ((exec (Walt.step P) s l).rq i).walt_stats.pred_demands_sum_scaled
        = (exec (Walt.step P) s l).sumAt Demand.pred_demand_scaled i ∧
      ((exec (Walt.step P) s l).rq i).walt_stats.bug_on = false := by
  have hstep : ∀ (s : State Cpu Tid) (a : Step Cpu Tid),
      QueueSums s → Queued s a → QueueSums (Walt.step P s a) :=
    fun _ _ hs ha => hs.step ha
  have h := Ok.inv hstep (QueueSums.of_boot hboot) hl
  exact ⟨h.demand i, h.pred i, h.no_bug i⟩

/-- Two tasks on one CPU are enqueued; one gets a new demand and leaves. -/
theorem demand_sums_of_two_tasks :
    Ok (Walt.step platform) Queued atBoot
        [.enqueue 2 false, .enqueue 3 false, .history 3 8000000 1, .dequeue 3 false] ∧
      ((exec (Walt.step platform) atBoot
          [.enqueue 2 false, .enqueue 3 false, .history 3 8000000 1, .dequeue 3 false]).rq
            false).walt_stats.cumulative_runnable_avg_scaled
        = (exec (Walt.step platform) atBoot
          [.enqueue 2 false, .enqueue 3 false, .history 3 8000000 1, .dequeue 3 false]).sumAt
            Demand.demand_scaled false :=
  ⟨by decide, (demand_sums_of_run platform atBoot atBoot_boot _ (by decide) false).1⟩

end KernelExtra.Walt
