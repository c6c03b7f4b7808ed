/-
Task demand and its mirror in the run queue: `walt.h` 23-99 and `walt.c` 312-325, 1104-1302,
1803-1950, 1952-2072.

Whoever changes a task's demand has to change the sums of the queue as well, but only for a task
that is counted in them. `SumsKept`: the part that belongs to the *other* tasks stays as it was.
-/
import KernelExtra.Sched.Walt.State

namespace KernelExtra.Walt

variable {Cpu Tid : Type}

/-! ## The sums of a queue -/

def fixup_cumulative_runnable_avg (stats : WaltStats) (demand_scaled_delta : ℤ)
    (pred_demand_scaled_delta : ℤ) : WaltStats :=
  let c := stats.cumulative_runnable_avg_scaled + demand_scaled_delta
  let d := stats.pred_demands_sum_scaled + pred_demand_scaled_delta
  { stats with
    cumulative_runnable_avg_scaled := c
    pred_demands_sum_scaled := d
    bug_on := stats.bug_on || decide (c < 0) || decide (d < 0) }

def walt_fixup_cum_window_demand (P : Params Cpu) (rq : Rq Tid) (scaled_delta : ℤ) : Rq Tid :=
  { rq with cum_window_demand_scaled :=
      P.walt_fixup_cum_window_demand rq.cum_window_demand_scaled scaled_delta }

def walt_inc_cumulative_runnable_avg (P : Params Cpu) (rq : Rq Tid) (p : Task Cpu) : Rq Tid :=
  let rq := { rq with
    walt_stats := fixup_cumulative_runnable_avg rq.walt_stats
      p.dem.demand_scaled p.dem.pred_demand_scaled }
  if p.on_rq ≠ .no ∨ p.last_sleep_ts < rq.busy.window_start then
    walt_fixup_cum_window_demand P rq p.dem.demand_scaled
  else rq

def walt_dec_cumulative_runnable_avg (P : Params Cpu) (rq : Rq Tid) (p : Task Cpu) : Rq Tid :=
  let rq := { rq with
    walt_stats := fixup_cumulative_runnable_avg rq.walt_stats
      (-p.dem.demand_scaled) (-p.dem.pred_demand_scaled) }
  if p.on_rq = .migrating ∨ p.state = .running then
    walt_fixup_cum_window_demand P rq (-p.dem.demand_scaled)
  else rq

/-- `inc_rq_walt_stats`. The argument `high_prio` is the answer of
`task_rtg_high_prio(p)`. -/
def inc_rq_walt_stats (P : Params Cpu) (rq : Rq Tid) (p : Task Cpu) (high_prio : Bool) :
    Rq Tid × Task Cpu :=
  let st := rq.walt_stats
  let st := if p.misfit then { st with nr_big_tasks := st.nr_big_tasks + 1 } else st
  let p := { p with rtg_high_prio := high_prio }
  let st := if p.rtg_high_prio then
      { st with nr_rtg_high_prio_tasks := st.nr_rtg_high_prio_tasks + 1 } else st
  (walt_inc_cumulative_runnable_avg P { rq with walt_stats := st } p, p)

def dec_rq_walt_stats (P : Params Cpu) (rq : Rq Tid) (p : Task Cpu) : Rq Tid :=
  let st := rq.walt_stats
  let st := if p.misfit then { st with nr_big_tasks := st.nr_big_tasks - 1 } else st
  let st := if p.rtg_high_prio then
      { st with nr_rtg_high_prio_tasks := st.nr_rtg_high_prio_tasks - 1 } else st
  let st := { st with bug_on_big := st.bug_on_big || decide (st.nr_big_tasks < 0) }
  walt_dec_cumulative_runnable_avg P { rq with walt_stats := st } p

def fixup_walt_sched_stats_common (P : Params Cpu) (rq : Rq Tid) (p : Task Cpu)
    (updated_demand_scaled updated_pred_demand_scaled : ℕ) : Rq Tid :=
  let task_load_delta : ℤ := updated_demand_scaled - p.dem.demand_scaled
  let pred_demand_delta : ℤ := updated_pred_demand_scaled - p.dem.pred_demand_scaled
  let rq := { rq with
    walt_stats := fixup_cumulative_runnable_avg rq.walt_stats task_load_delta pred_demand_delta }
  walt_fixup_cum_window_demand P rq task_load_delta

/-! ## Prediction -/

def INC_STEP : ℕ := 8
def DEC_STEP : ℕ := 2
def CONSISTENT_THRES : ℕ := 16
def INC_STEP_BIG : ℕ := 16
def U8_MAX : ℕ := 255

/-- The bucket that is hit grows, the others decay. -/
def bucket_increase (buckets : List ℕ) (idx : ℕ) : List ℕ :=
  buckets.mapIdx fun i b =>
    if idx ≠ i then (if DEC_STEP < b then b - DEC_STEP else 0)
    else
      let step := if CONSISTENT_THRES ≤ b then INC_STEP_BIG else INC_STEP
      if U8_MAX - step < b then U8_MAX else b + step

def mult_frac (x numer denom : ℕ) : ℕ :=
  u32 (u32 (x / denom * numer) + u32 (x % denom * numer) / denom)

section

variable (P : Params Cpu)

def max_task_load : ℕ := P.sched_ravg_window

def busy_to_bucket (normalized_rt : ℕ) : ℕ :=
  let bidx := mult_frac normalized_rt NUM_BUSY_BUCKETS (max_task_load P)
  let bidx := min bidx (NUM_BUSY_BUCKETS - 1)
  if bidx = 0 then bidx + 1 else bidx

/-- The load that a task is likely to reach, from its buckets. -/
def get_pred_busy (p : Task Cpu) (start runtime : ℕ) : ℕ :=
  if is_new_task p.acct then runtime
  else
    match (List.range' start (NUM_BUSY_BUCKETS - start)).find?
        (fun i => p.dem.busy_buckets.getD i 0 ≠ 0) with
    | none => runtime
    | some first =>
      let final := if first < 2 then 1 else first
      let dmin := if first < 2 then 0 else mult_frac final (max_task_load P) NUM_BUSY_BUCKETS
      let dmax := mult_frac (final + 1) (max_task_load P) NUM_BUSY_BUCKETS
      let ret := ((p.dem.sum_history.take P.sched_ravg_hist_size).find?
        (fun h => dmin ≤ h ∧ h < dmax)).getD runtime
      let ret := if ret < dmin then u32 (dmin + dmax) / 2 else ret
      max runtime ret

def calc_pred_demand (p : Task Cpu) : ℕ :=
  if p.acct.win.curr_window ≤ p.dem.pred_demand then p.dem.pred_demand
  else get_pred_busy P p (busy_to_bucket P p.acct.win.curr_window) p.acct.win.curr_window

end

def SCHED_FREQ_ACCOUNT_WAIT_TIME : Bool := false
def SCHED_ACCOUNT_WAIT_TIME : Bool := true

def scale_demand (P : Params Cpu) (d : ℕ) : ℕ := u16 (d / P.walt_scale_demand_divisor)

def pred_demand_event (p : Task Cpu) (event : TaskEvent) : Bool :=
  match event with
  | .PUT_PREV_TASK => true
  | .TASK_UPDATE => decide (p.on_rq ≠ .no) || SCHED_FREQ_ACCOUNT_WAIT_TIME
  | .TASK_MIGRATE | .PICK_NEXT_TASK => SCHED_FREQ_ACCOUNT_WAIT_TIME
  | .TASK_WAKE | .IRQ_UPDATE => false

def update_task_pred_demand (P : Params Cpu) (rq : Rq Tid) (p : Task Cpu) (event : TaskEvent) :
    Rq Tid × Task Cpu :=
  if !P.sched_predl || p.acct.is_idle || !pred_demand_event p event then (rq, p)
  else
    let new := calc_pred_demand P p
    if new ≤ p.dem.pred_demand then (rq, p)
    else
      let new_scaled := scale_demand P new
      let rq := if counted p then
          fixup_walt_sched_stats_common P rq p p.dem.demand_scaled new_scaled else rq
      (rq, { p with dem := { p.dem with pred_demand := new, pred_demand_scaled := new_scaled } })

def predict_and_update_buckets (P : Params Cpu) (p : Task Cpu) (runtime : ℕ) : ℕ × List ℕ :=
  if !P.sched_predl then (0, p.dem.busy_buckets)
  else
    let bidx := busy_to_bucket P runtime
    (get_pred_busy P p bidx runtime, bucket_increase p.dem.busy_buckets bidx)

/-! ## History -/

def WINDOW_STATS_RECENT : ℕ := 0
def WINDOW_STATS_MAX : ℕ := 1
def WINDOW_STATS_AVG : ℕ := 3

/-- The demand by the window policy. -/
def demand_of_history (P : Params Cpu) (hist : List ℕ) (runtime : ℕ) : ℕ :=
  let policy := P.sysctl_sched_window_stats_policy
  let avg := u32 (hist.sum / P.sched_ravg_hist_size)
  if policy = WINDOW_STATS_RECENT then runtime
  else if policy = WINDOW_STATS_MAX then hist.foldl max 0
  else if policy = WINDOW_STATS_AVG then avg
  else max avg runtime

def pushed_demand (P : Params Cpu) (rq : Rq Tid) (p : Task Cpu) (runtime samples : ℕ) : Demand :=
  let n := P.sched_ravg_hist_size
  -- `samples` copies of `runtime` pushed in front, the oldest ones falling out
  let hist := (List.replicate (min samples n) runtime ++ p.dem.sum_history).take n
  let demand := demand_of_history P hist runtime
  let (pred_demand, busy_buckets) := predict_and_update_buckets P
    { p with dem := { p.dem with sum := 0, sum_history := hist } } runtime
  let demand_scaled := scale_demand P demand
  { sum := 0, sum_history := hist, demand, demand_scaled, coloc_demand := u32 (hist.sum / n),
    pred_demand, pred_demand_scaled := scale_demand P pred_demand, busy_buckets,
    unfilter :=
      if P.sysctl_sched_min_task_util_for_colocation < demand_scaled then
        P.sysctl_sched_task_unfilter_period
      else p.dem.unfilter - rq.busy.prev_window_size }

/-- A task's history after windows have passed. -/
def update_history (P : Params Cpu) (rq : Rq Tid) (is_curr : Bool) (p : Task Cpu)
    (runtime samples : ℕ) : Rq Tid × Task Cpu :=
  if runtime = 0 ∨ p.acct.is_idle = true ∨ samples = 0 then (rq, p)
  else
    let d := pushed_demand P rq p runtime samples
    let rq := if !p.has_dl_policy || !p.dl_throttled then
        if task_on_rq_queued p then
          fixup_walt_sched_stats_common P rq p d.demand_scaled d.pred_demand_scaled
        else if is_curr then walt_fixup_cum_window_demand P rq d.demand_scaled
        else rq
      else rq
    (rq, { p with dem := d })

/-- Time at the speed of the CPU. -/
def scale_exec_time (delta : ℕ) (rq : Rq Tid) : ℕ :=
  (delta * rq.task_exec_scale) % 2 ^ 64 / 2 ^ 10

/-- Time is added to the running sum, up to a window. -/
def add_to_task_demand (P : Params Cpu) (rq : Rq Tid) (p : Task Cpu) (delta : ℕ) : Task Cpu :=
  let sum := u32 (p.dem.sum + scale_exec_time delta rq)
  { p with dem := { p.dem with
      sum := if P.sched_ravg_window < sum then P.sched_ravg_window else sum } }

def account_busy_for_task_demand (is_curr curr_is_idle : Bool) (p : Task Cpu)
    (event : TaskEvent) : Bool :=
  if p.acct.is_idle then false
  else match event with
  | .TASK_WAKE => false
  | .PICK_NEXT_TASK => SCHED_ACCOUNT_WAIT_TIME && !curr_is_idle
  | .TASK_MIGRATE => SCHED_ACCOUNT_WAIT_TIME
  | .TASK_UPDATE => is_curr || (decide (p.on_rq ≠ .no) && SCHED_ACCOUNT_WAIT_TIME)
  | .PUT_PREV_TASK | .IRQ_UPDATE => true

/-- The three cases: no new window, one, or several. -/
def update_task_demand (P : Params Cpu) (rq : Rq Tid) (is_curr curr_is_idle : Bool)
    (p : Task Cpu) (event : TaskEvent) (wallclock : ℕ) : Rq Tid × Task Cpu :=
  let mark_start := p.acct.mark_start
  let window_start := rq.busy.window_start
  let window_size := P.sched_ravg_window
  if !account_busy_for_task_demand is_curr curr_is_idle p event then
    if mark_start < window_start then update_history P rq is_curr p p.dem.sum 1 else (rq, p)
  else if window_start ≤ mark_start then
    (rq, add_to_task_demand P rq p (sub64 wallclock mark_start))
  else
    let nr_full_windows := (window_start - mark_start) / window_size
    let first_start := window_start - nr_full_windows * window_size
    let p := add_to_task_demand P rq p (first_start - mark_start)
    let (rq, p) := update_history P rq is_curr p p.dem.sum 1
    let (rq, p) := if nr_full_windows ≠ 0 then
        update_history P rq is_curr p (u32 (scale_exec_time window_size rq)) nr_full_windows
      else (rq, p)
    (rq, add_to_task_demand P rq p (sub64 wallclock window_start))

/-! ## What a change of demand does to the sums -/

/-- What is left of `sum` for the other tasks, when `p` has its reading `f` in it as
long as it is counted. -/
def rest (f : Demand → ℕ) (sum : ℤ) (p : Task Cpu) : ℤ :=
  sum - if counted p then (f p.dem : ℤ) else 0

def restDemand (rq : Rq Tid) (p : Task Cpu) : ℤ :=
  rest Demand.demand_scaled rq.walt_stats.cumulative_runnable_avg_scaled p

def restPred (rq : Rq Tid) (p : Task Cpu) : ℤ :=
  rest Demand.pred_demand_scaled rq.walt_stats.pred_demands_sum_scaled p

/-- The sums of `rq` still fit `p`, and no `BUG_ON` has fired. -/
structure SumsKept (rq : Rq Tid) (p : Task Cpu) (r : Rq Tid × Task Cpu) : Prop where
  cpu : r.2.acct.cpu = p.acct.cpu
  counted : counted r.2 = counted p
  demand : restDemand r.1 r.2 = restDemand rq p
  pred : restPred r.1 r.2 = restPred rq p
  safe : 0 ≤ restDemand rq p → 0 ≤ restPred rq p → r.1.walt_stats.bug_on = rq.walt_stats.bug_on

lemma SumsKept.refl (rq : Rq Tid) (p : Task Cpu) : SumsKept rq p (rq, p) :=
  ⟨rfl, rfl, rfl, rfl, fun _ _ => rfl⟩

variable {rq : Rq Tid} {p : Task Cpu} {r : Rq Tid × Task Cpu}

lemma SumsKept.trans {r' : Rq Tid × Task Cpu}
    (h : SumsKept rq p r) (h' : SumsKept r.1 r.2 r') : SumsKept rq p r' := by
  refine ⟨h'.cpu.trans h.cpu, h'.counted.trans h.counted, h'.demand.trans h.demand,
    h'.pred.trans h.pred, fun hd hp => ?_⟩
  rw [h'.safe (by rw [h.demand]; exact hd) (by rw [h.pred]; exact hp), h.safe hd hp]

lemma SumsKept.of_eq (hst : r.1.walt_stats = rq.walt_stats) (hdem : r.2.dem = p.dem)
    (hcpu : r.2.acct.cpu = p.acct.cpu) (hc : Walt.counted r.2 = Walt.counted p) :
    SumsKept rq p r := by
  refine ⟨hcpu, hc, ?_, ?_, fun _ _ => by rw [hst]⟩
  · rw [restDemand, restDemand, rest, rest, hst, hdem, hc]
  · rw [restPred, restPred, rest, rest, hst, hdem, hc]

/-- `r` came from `(rq, p)` by changes of `p`'s demand, each mirrored in the sums of
`rq`, and by nothing else. -/
structure Mirrors (rq : Rq Tid) (p : Task Cpu) (r : Rq Tid × Task Cpu) : Prop where
  frame : ∃ st c d, r =
    ({ rq with walt_stats := st, cum_window_demand_scaled := c }, { p with dem := d })
  kept : SumsKept rq p r

lemma Mirrors.refl (rq : Rq Tid) (p : Task Cpu) : Mirrors rq p (rq, p) :=
  ⟨⟨_, _, _, rfl⟩, SumsKept.refl rq p⟩

lemma Mirrors.trans {r' : Rq Tid × Task Cpu}
    (h : Mirrors rq p r) (h' : Mirrors r.1 r.2 r') : Mirrors rq p r' := by
  refine ⟨?_, h.kept.trans h'.kept⟩
  obtain ⟨st, c, d, rfl⟩ := h.frame
  obtain ⟨st', c', d', rfl⟩ := h'.frame
  exact ⟨st', c', d', rfl⟩

variable (P : Params Cpu)

lemma inc_rq_walt_stats_spec (rq : Rq Tid) (p : Task Cpu) (high_prio : Bool) :
    (inc_rq_walt_stats P rq p high_prio).2 = { p with rtg_high_prio := high_prio } ∧
    (inc_rq_walt_stats P rq p high_prio).1.busy = rq.busy ∧
    (inc_rq_walt_stats P rq p high_prio).1.curr = rq.curr ∧
    (inc_rq_walt_stats P rq p high_prio).1.walt_stats.cumulative_runnable_avg_scaled
      = rq.walt_stats.cumulative_runnable_avg_scaled + p.dem.demand_scaled ∧
    (inc_rq_walt_stats P rq p high_prio).1.walt_stats.pred_demands_sum_scaled
      = rq.walt_stats.pred_demands_sum_scaled + p.dem.pred_demand_scaled ∧
    (0 ≤ rq.walt_stats.cumulative_runnable_avg_scaled →
      0 ≤ rq.walt_stats.pred_demands_sum_scaled →
      (inc_rq_walt_stats P rq p high_prio).1.walt_stats.bug_on = rq.walt_stats.bug_on) := by
  unfold inc_rq_walt_stats walt_inc_cumulative_runnable_avg walt_fixup_cum_window_demand
    fixup_cumulative_runnable_avg
  dsimp only
  split_ifs <;> refine ⟨rfl, rfl, rfl, rfl, rfl, fun hc hp => ?_⟩ <;>
    simp only [Bool.or_eq_left_iff_imp, Bool.or_assoc, Bool.or_eq_true, decide_eq_true_eq] <;>
    omega

lemma dec_rq_walt_stats_spec (rq : Rq Tid) (p : Task Cpu) :
    (dec_rq_walt_stats P rq p).busy = rq.busy ∧ (dec_rq_walt_stats P rq p).curr = rq.curr ∧
    (dec_rq_walt_stats P rq p).walt_stats.cumulative_runnable_avg_scaled
      = rq.walt_stats.cumulative_runnable_avg_scaled - p.dem.demand_scaled ∧
    (dec_rq_walt_stats P rq p).walt_stats.pred_demands_sum_scaled
      = rq.walt_stats.pred_demands_sum_scaled - p.dem.pred_demand_scaled ∧
    (p.dem.demand_scaled ≤ rq.walt_stats.cumulative_runnable_avg_scaled →
      p.dem.pred_demand_scaled ≤ rq.walt_stats.pred_demands_sum_scaled →
      (dec_rq_walt_stats P rq p).walt_stats.bug_on = rq.walt_stats.bug_on) := by
  unfold dec_rq_walt_stats walt_dec_cumulative_runnable_avg walt_fixup_cum_window_demand
    fixup_cumulative_runnable_avg
  split_ifs <;> refine ⟨rfl, rfl, rfl, rfl, fun hc hp => ?_⟩ <;>
    simp only [Bool.or_eq_left_iff_imp, Bool.or_assoc, Bool.or_eq_true, decide_eq_true_eq] <;>
    omega

lemma Mirrors.fixup (rq : Rq Tid) (hc : counted p = true) (d : Demand) :
    Mirrors rq p (fixup_walt_sched_stats_common P rq p d.demand_scaled d.pred_demand_scaled,
      { p with dem := d }) := by
  have hc' : counted { p with dem := d } = true := hc
  refine ⟨⟨_, _, d, rfl⟩, rfl, rfl, ?_, ?_, ?_⟩
  · simp only [restDemand, rest, hc, hc', if_true, fixup_walt_sched_stats_common,
      fixup_cumulative_runnable_avg, walt_fixup_cum_window_demand]
    ring
  · simp only [restPred, rest, hc, hc', if_true, fixup_walt_sched_stats_common,
      fixup_cumulative_runnable_avg, walt_fixup_cum_window_demand]
    ring
  · intro hd hp
    simp only [restDemand, restPred, rest, hc, if_true] at hd hp
    simp only [fixup_walt_sched_stats_common, fixup_cumulative_runnable_avg,
      walt_fixup_cum_window_demand, Bool.or_eq_left_iff_imp, Bool.or_assoc, Bool.or_eq_true,
      decide_eq_true_eq]
    omega

lemma Mirrors.uncounted (rq : Rq Tid) (hc : counted p = false) (c : ℤ) (d : Demand) :
    Mirrors rq p ({ rq with cum_window_demand_scaled := c }, { p with dem := d }) := by
  have hc' : counted { p with dem := d } = false := hc
  refine ⟨⟨_, c, d, rfl⟩, rfl, rfl, ?_, ?_, fun _ _ => rfl⟩
  · simp [restDemand, rest, hc, hc']
  · simp [restPred, rest, hc, hc']

lemma update_task_pred_demand_mirrors (rq : Rq Tid) (p : Task Cpu)
    (event : TaskEvent) : Mirrors rq p (update_task_pred_demand P rq p event) := by
  unfold update_task_pred_demand
  dsimp only
  split_ifs with hskip hle hc
  · exact Mirrors.refl rq p
  · exact Mirrors.refl rq p
  · exact Mirrors.fixup P rq hc { p.dem with
      pred_demand := calc_pred_demand P p
      pred_demand_scaled := scale_demand P _ }
  · exact Mirrors.uncounted rq (by simpa using hc) rq.cum_window_demand_scaled _

lemma update_history_mirrors (rq : Rq Tid) (is_curr : Bool) (p : Task Cpu)
    (runtime samples : ℕ) : Mirrors rq p (update_history P rq is_curr p runtime samples) := by
  unfold update_history
  -- the two tests of the source, taken together, are `counted`
  split_ifs with hskip hdl hq hcurr
  · exact Mirrors.refl rq p
  · exact Mirrors.fixup P rq (by simp only [counted, hdl, hq, Bool.and_self]) _
  · exact Mirrors.uncounted rq (by simp [counted, hq]) _ _
  · exact Mirrors.uncounted rq (by simp [counted, hq]) rq.cum_window_demand_scaled _
  · exact Mirrors.uncounted rq (by simp only [counted, hdl, Bool.and_false])
      rq.cum_window_demand_scaled _

lemma Mirrors.history {P : Params Cpu} (h : Mirrors rq p r) (is_curr : Bool) (runtime samples : ℕ) :
    Mirrors rq p (update_history P r.1 is_curr r.2 runtime samples) :=
  h.trans (update_history_mirrors P r.1 is_curr r.2 runtime samples)

lemma Mirrors.add {P : Params Cpu} (h : Mirrors rq p r) (delta : ℕ) :
    Mirrors rq p (r.1, add_to_task_demand P r.1 r.2 delta) :=
  h.trans ⟨⟨_, _, _, rfl⟩, rfl, rfl, rfl, rfl, fun _ _ => rfl⟩

lemma update_task_demand_mirrors (rq : Rq Tid) (is_curr curr_is_idle : Bool)
    (p : Task Cpu) (event : TaskEvent) (wallclock : ℕ) :
    Mirrors rq p (update_task_demand P rq is_curr curr_is_idle p event wallclock) := by
  unfold update_task_demand
  dsimp only
  have hrefl := Mirrors.refl rq p
  split_ifs with hacc hnew hold hfull
  · exact hrefl.history ..
  · exact hrefl
  · exact hrefl.add ..
  · exact ((hrefl.add _).history ..).history _ _ _ |>.add _
  · exact ((hrefl.add _).history ..).add _

end KernelExtra.Walt
