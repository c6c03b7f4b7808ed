/-
Moving busy time between queues, and between a queue and its group counters: `walt.c` 706-956,
963-1078 and 3211-3383.

What is subtracted is first compared with the counter, and an underflow is a `SCHED_BUG_ON`. Time a
task spent on a third CPU of its cluster is noted in `load_subs` of that queue and taken off by
`account_load_subtractions` later.
-/
import KernelExtra.Lib.Tally
import KernelExtra.Sched.Walt.Update

namespace KernelExtra.Walt

open Function

variable {Cpu Tid : Type}

/-! ## Deferred subtractions -/

def apply_subtraction (b : Busy) (i : Bool) : Busy :=
  let ws := b.window_start
  let prev_ws := sub64 ws b.prev_window_size
  let ls := b.load_subs i
  let t := b.time
  let t :=
    if ls.window_start = ws then
      { t with
        curr_runnable_sum := t.curr_runnable_sum - ls.subs
        nt_curr_runnable_sum := t.nt_curr_runnable_sum - ls.new_subs }
    else if ls.window_start = prev_ws then
      { t with
        prev_runnable_sum := t.prev_runnable_sum - ls.subs
        nt_prev_runnable_sum := t.nt_prev_runnable_sum - ls.new_subs }
    else t
  { b with
    time := t
    load_subs := update b.load_subs i { ls with subs := 0, new_subs := 0 } }

/-- What is owed for tasks that have left is taken out. -/
def account_load_subtractions (b : Busy) : Busy :=
  let b := apply_subtraction (apply_subtraction b false) true
  b.check (decide (b.time.prev_runnable_sum < 0) || decide (b.time.curr_runnable_sum < 0) ||
    decide (b.time.nt_prev_runnable_sum < 0) || decide (b.time.nt_curr_runnable_sum < 0))

def create_subtraction_entry (b : Busy) (ws : ℕ) (index : Bool) : Busy :=
  { b with load_subs := update b.load_subs index ⟨ws, 0, 0⟩ }

/-- `get_subtraction_index`: the entry for `ws`, which replaces the older of the two
when neither is for `ws`. -/
def get_subtraction_index (b : Busy) (ws : ℕ) : Bool × Busy :=
  if ws = (b.load_subs false).window_start then (false, b)
  else if ws = (b.load_subs true).window_start then (true, b)
  else
    let oldest_index :=
      decide ((b.load_subs true).window_start < (b.load_subs false).window_start)
    (oldest_index, create_subtraction_entry b ws oldest_index)

def update_rq_load_subtractions (index : Bool) (b : Busy) (sub_load : ℕ) (new_task : Bool) : Busy :=
  let ls := b.load_subs index
  { b with
    load_subs := update b.load_subs index
      { ls with
        subs := ls.subs + sub_load
        new_subs := ls.new_subs + if new_task then sub_load else 0 } }

def note_subtraction (b : Busy) (ws sub_load : ℕ) (new_task : Bool) : Busy :=
  if sub_load = 0 then b
  else
    let (index, b) := get_subtraction_index b ws
    update_rq_load_subtractions index b sub_load new_task

section

variable [DecidableEq Cpu]

def same_freq_domain (P : Params Cpu) (i j : Cpu) : Bool := decide (P.cluster i = P.cluster j)

def cluster_sibling (P : Params Cpu) (cpu i : Cpu) : Bool :=
  decide (i ≠ cpu) && same_freq_domain P i cpu

/-- Each round touches the queue and the entries of its own CPU only, so the loop is one map. -/
def update_cluster_load_subtractions (P : Params Cpu) (bs : Cpu → Busy) (p : Account Cpu)
    (cpu : Cpu) (ws : ℕ) (new_task : Bool) : (Cpu → Busy) × Account Cpu :=
  let prev_ws := sub64 ws (bs cpu).prev_window_size
  (fun i =>
    if cluster_sibling P cpu i then
      note_subtraction (note_subtraction (bs i) ws (p.win.curr_window_cpu i) new_task)
        prev_ws (p.win.prev_window_cpu i) new_task
    else bs i,
   { p with win := { p.win with
      curr_window_cpu := fun i => if cluster_sibling P cpu i then 0 else p.win.curr_window_cpu i
      prev_window_cpu := fun i => if cluster_sibling P cpu i then 0
        else p.win.prev_window_cpu i } })

end

/-! ## Transfers -/

def RunnableSums.underflows (t : RunnableSums) (new_task : Bool) (curr prev : ℕ) : Bool :=
  decide (t.curr_runnable_sum < curr) || decide (t.prev_runnable_sum < prev) ||
    (new_task && (decide (t.nt_curr_runnable_sum < curr) || decide (t.nt_prev_runnable_sum < prev)))

def RunnableSums.take (t : RunnableSums) (new_task : Bool) (curr prev : ℕ) : RunnableSums where
  curr_runnable_sum := t.curr_runnable_sum - curr
  prev_runnable_sum := t.prev_runnable_sum - prev
  nt_curr_runnable_sum := t.nt_curr_runnable_sum - if new_task then curr else 0
  nt_prev_runnable_sum := t.nt_prev_runnable_sum - if new_task then prev else 0

def RunnableSums.give (t : RunnableSums) (new_task : Bool) (curr prev : ℕ) : RunnableSums :=
  (t.add_curr new_task curr).add_prev new_task prev

section Migration

variable [DecidableEq Cpu]

/-- The task's time leaves one CPU and goes to the other. -/
def inter_cluster_migration_fixup (P : Params Cpu) (bs : Cpu → Busy) (p : Account Cpu)
    (new_cpu task_cpu : Cpu) (new_task : Bool) : (Cpu → Busy) × Account Cpu :=
  if same_freq_domain P new_cpu task_cpu then (bs, p)
  else
    let dest := bs new_cpu
    let dest := { dest with
      time := dest.time.give new_task p.win.curr_window p.win.prev_window }
    let src := bs task_cpu
    let curr := p.win.curr_window_cpu task_cpu
    let prev := p.win.prev_window_cpu task_cpu
    let src := src.check (src.time.underflows new_task curr prev)
    let src := { src with time := src.time.take new_task curr prev }
    let p := { p with win := { p.win with
      curr_window_cpu := update
        (update p.win.curr_window_cpu new_cpu p.win.curr_window) task_cpu 0
      prev_window_cpu := update
        (update p.win.prev_window_cpu new_cpu p.win.prev_window) task_cpu 0 } }
    let bs := update (update bs new_cpu dest) task_cpu src
    update_cluster_load_subtractions P bs p task_cpu src.window_start new_task

def find_next_bit (bitmap : ℕ → Bool) (size start : ℕ) : ℕ :=
  ((List.range' start (size - start)).find? bitmap).getD size

/-- The highest bucket with a task, from the bitmap. -/
def get_top_index (P : Params Cpu) (bitmap : ℕ → Bool) (old_top : ℕ) : ℕ :=
  let index := find_next_bit bitmap P.NUM_LOAD_INDICES old_top
  if index = P.NUM_LOAD_INDICES then 0 else P.NUM_LOAD_INDICES - 1 - index

/-- Which of the two tables is the current one, and which the last. -/
def TopTasks.table (top : TopTasks) (prev : Bool) : Bool := xor prev top.curr_table

def TopTasks.top_index (top : TopTasks) (prev : Bool) : ℕ :=
  if prev then top.prev_top else top.curr_top

def TopTasks.set_top_index (top : TopTasks) (prev : Bool) (index : ℕ) : TopTasks :=
  if prev then { top with prev_top := index } else { top with curr_top := index }

/-- The source half of `migrate_top_tasks` for one window. -/
def leave_bucket (P : Params Cpu) (src : TopTasks) (prev : Bool) (load : ℕ) : TopTasks :=
  if load = 0 then src
  else
    let t := src.table prev
    let index := load_to_index P load
    let src := src.dec t index
    let src := src.clear_if_empty P t index
    let top_index := src.top_index prev
    if index = top_index ∧ src.top_tasks t index = 0 then
      src.set_top_index prev (get_top_index P (src.top_tasks_bitmap t) top_index)
    else src

def join_bucket (P : Params Cpu) (dst : TopTasks) (prev : Bool) (load : ℕ) : TopTasks :=
  if load = 0 then dst
  else
    let t := dst.table prev
    let index := load_to_index P load
    let dst := dst.inc t index
    let dst := dst.set_if_one P t index
    if dst.top_index prev < index then dst.set_top_index prev index else dst

/-- The two queues are distinct, so each half is written over its own queue. -/
def migrate_top_tasks (P : Params Cpu) (p : Account Cpu) (src dst : TopTasks) :
    TopTasks × TopTasks :=
  (leave_bucket P (leave_bucket P src false p.win.curr_window) true p.win.prev_window,
   join_bucket P (join_bucket P dst false p.win.curr_window) true p.win.prev_window)

/-- The branch of `fixup_busy_time` for a task in a group. -/
def group_migration_fixup (bs : Cpu → Busy) (p : Account Cpu) (new_cpu task_cpu : Cpu)
    (new_task : Bool) : Cpu → Busy :=
  let src := bs task_cpu
  let src := { src with
    grp_time := src.grp_time.take new_task p.win.curr_window p.win.prev_window }
  let dest := bs new_cpu
  let dest := { dest with
    grp_time := dest.grp_time.give new_task p.win.curr_window p.win.prev_window }
  update (update bs new_cpu dest) task_cpu src

/-- What `fixup_busy_time` does to the windows and counters: the branch on `p->wts.grp`
and `migrate_top_tasks`. -/
def migrate_windows (P : Params Cpu) (bs : Cpu → Busy) (p : Account Cpu) (new_cpu : Cpu) :
    (Cpu → Busy) × Account Cpu :=
  let task_cpu := p.cpu
  let new_task := is_new_task p
  let (bs, p) :=
    if p.grp then (group_migration_fixup bs p new_cpu task_cpu new_task, p)
    else inter_cluster_migration_fixup P bs p new_cpu task_cpu new_task
  let (src_top, dst_top) := migrate_top_tasks P p (bs task_cpu).top (bs new_cpu).top
  let src := { bs task_cpu with top := src_top }
  let dest := { bs new_cpu with top := dst_top }
  (update (update bs task_cpu src) new_cpu dest, p)

/-- The first part of what `fixup_busy_time` does after its calls of `walt_update_task_ravg`. -/
def migrate_cycles (P : Params Cpu) (rqs : Cpu → Rq Tid) (p : Task Cpu) (new_cpu : Cpu)
    (wallclock : ℕ) : (Cpu → Rq Tid) × Task Cpu :=
  let task_cpu := p.acct.cpu
  let (dest, p) := update_task_cpu_cycles P (rqs new_cpu) p wallclock
  let rqs := update rqs new_cpu dest
  if p.state = .waking ∧ (rqs task_cpu).busy.window_start ≤ p.last_sleep_ts then
    let rqs := update rqs task_cpu
      (walt_fixup_cum_window_demand P (rqs task_cpu) (-p.dem.demand_scaled))
    (update rqs new_cpu
      (walt_fixup_cum_window_demand P (rqs new_cpu) p.dem.demand_scaled), p)
  else (rqs, p)

/-- What `fixup_busy_time` does after the three calls of `walt_update_task_ravg`,
all at the same `wallclock`. -/
def migrate_busy_time (P : Params Cpu) (rqs : Cpu → Rq Tid) (p : Task Cpu) (new_cpu : Cpu)
    (wallclock : ℕ) : (Cpu → Rq Tid) × Task Cpu :=
  let task_cpu := p.acct.cpu
  let (rqs, p) := migrate_cycles P rqs p new_cpu wallclock
  let r := migrate_windows P (fun i => (rqs i).busy) p.acct new_cpu
  let notify := !same_freq_domain P new_cpu task_cpu
  (fun i =>
    { rqs i with
      busy := r.1 i
      notif_pending := (rqs i).notif_pending ||
        (notify && (decide (i = task_cpu) || decide (i = new_cpu))) },
   { p with acct := r.2 })

/-- What `transfer_busy_time` does after its two calls of `walt_update_task_ravg`.
`add` is `event == ADD_TASK`. -/
def transfer_windows (P : Params Cpu) (bs : Cpu → Busy) (p : Account Cpu) (add : Bool) :
    (Cpu → Busy) × Account Cpu :=
  let cpu := p.cpu
  let b := bs cpu
  let new_task := is_new_task p
  let curr := if add then p.win.curr_window_cpu cpu else p.win.curr_window
  let prev := if add then p.win.prev_window_cpu cpu else p.win.prev_window
  let src := b.cpu_time (!add)
  let b := b.check (src.underflows new_task curr prev)
  let b := b.set_cpu_time (!add) (src.take new_task curr prev)
  let bs := update bs cpu b
  let (bs, p) :=
    if add then update_cluster_load_subtractions P bs p cpu b.window_start new_task
    else (bs, { p with win := { p.win with
            curr_window_cpu := fun _ => 0, prev_window_cpu := fun _ => 0 } })
  let b := bs cpu
  let b := b.set_cpu_time add
    ((b.cpu_time add).give new_task p.win.curr_window p.win.prev_window)
  (update bs cpu b,
   { p with win := { p.win with
      curr_window_cpu := update p.win.curr_window_cpu cpu p.win.curr_window
      prev_window_cpu := update p.win.prev_window_cpu cpu p.win.prev_window } })

/-! ## What moves do to the account of the task -/

variable {p : Account Cpu} {new_cpu : Cpu}

variable (P : Params Cpu)

variable (bs : Cpu → Busy)

lemma migrate_windows_acct_of_stay (h : p.grp = true ∨ same_freq_domain P new_cpu p.cpu = true) :
    (migrate_windows P bs p new_cpu).2 = p := by
  unfold migrate_windows
  by_cases hgrp : p.grp = true
  · simp [if_pos hgrp]
  · simp [if_neg hgrp, inter_cluster_migration_fixup, if_pos (h.resolve_left hgrp)]

lemma migrate_windows_acct_of_leave (hgrp : p.grp = false)
    (hdomain : same_freq_domain P new_cpu p.cpu = false) :
    (migrate_windows P bs p new_cpu).2 = { p with win := { p.win with
      curr_window_cpu := fun i => if cluster_sibling P p.cpu i then 0 else
        update (update p.win.curr_window_cpu new_cpu p.win.curr_window) p.cpu 0 i
      prev_window_cpu := fun i => if cluster_sibling P p.cpu i then 0 else
        update (update p.win.prev_window_cpu new_cpu p.win.prev_window) p.cpu 0 i
      } } := by
  have hgrp' : ¬ p.grp = true := by rw [hgrp]; decide
  have hdomain' : ¬ same_freq_domain P new_cpu p.cpu = true := by rw [hdomain]; decide
  unfold migrate_windows
  simp [if_neg hgrp', inter_cluster_migration_fixup, if_neg hdomain',
    update_cluster_load_subtractions]

lemma migrate_windows_acct (p : Account Cpu) (new_cpu : Cpu) :
    ∃ c d, (migrate_windows P bs p new_cpu).2
      = { p with win := { p.win with curr_window_cpu := c, prev_window_cpu := d } } := by
  by_cases hstay : p.grp = true ∨ same_freq_domain P new_cpu p.cpu = true
  · exact ⟨_, _, migrate_windows_acct_of_stay P bs hstay⟩
  · rw [not_or, Bool.not_eq_true, Bool.not_eq_true] at hstay
    exact ⟨_, _, migrate_windows_acct_of_leave P bs hstay.1 hstay.2⟩

lemma transfer_windows_acct (p : Account Cpu) (add : Bool) :
    ∃ c d, (transfer_windows P bs p add).2
      = { p with win := { p.win with curr_window_cpu := c, prev_window_cpu := d } } := by
  cases add with
  | false => exact ⟨_, _, rfl⟩
  | true => exact ⟨_, _, rfl⟩

def Windows.total (w : Windows Cpu) (prev : Bool) : ℕ :=
  if prev then w.prev_window else w.curr_window

def Windows.entry (w : Windows Cpu) (prev : Bool) : Cpu → ℕ :=
  if prev then w.prev_window_cpu else w.curr_window_cpu

def Windows.Empty (w : Windows Cpu) (prev : Bool) : Prop :=
  w.total prev = 0 ∧ ∀ i, w.entry prev i = 0

lemma empty_migrate_windows
    {prev : Bool} (h : p.win.Empty prev) : (migrate_windows P bs p new_cpu).2.win.Empty prev := by
  by_cases hstay : p.grp = true ∨ same_freq_domain P new_cpu p.cpu = true
  · rwa [migrate_windows_acct_of_stay P bs hstay]
  · rw [not_or, Bool.not_eq_true, Bool.not_eq_true] at hstay
    rw [migrate_windows_acct_of_leave P bs hstay.1 hstay.2]
    cases prev <;> simp_all [Windows.Empty, Windows.total, Windows.entry, update_apply]

lemma empty_transfer_windows {add : Bool}
    {prev : Bool} (h : p.win.Empty prev) : (transfer_windows P bs p add).2.win.Empty prev := by
  cases add with
  | false =>
    cases prev <;> simp_all [transfer_windows, Windows.Empty, Windows.total, Windows.entry]
  | true =>
    cases prev <;> simp_all [transfer_windows, update_cluster_load_subtractions, Windows.Empty,
      Windows.total, Windows.entry, update_apply]

/-! ## What moves leave alone in the queues -/

def Busy.window (b : Busy) : ℕ × ℕ := (b.window_start, b.prev_window_size)

@[simp] lemma Busy.window_check (b : Busy) (x : Bool) : (b.check x).window = b.window := rfl

@[simp] lemma Busy.window_set_cpu_time (b : Busy) (grp : Bool) (t : RunnableSums) :
    (b.set_cpu_time grp t).window = b.window := by
  cases grp <;> rfl

@[simp] lemma window_note_subtraction (b : Busy) (ws sub_load : ℕ) (new_task : Bool) :
    (note_subtraction b ws sub_load new_task).window = b.window := by
  unfold note_subtraction get_subtraction_index
  split_ifs <;> rfl

lemma window_update_cluster_load_subtractions
    (p : Account Cpu) (cpu : Cpu) (ws : ℕ) (new_task : Bool) (i : Cpu) :
    ((update_cluster_load_subtractions P bs p cpu ws new_task).1 i).window = (bs i).window := by
  unfold update_cluster_load_subtractions
  dsimp only
  split_ifs <;> simp

open Tally in
lemma window_inter_cluster_migration_fixup (p : Account Cpu)
    (new_cpu task_cpu : Cpu) (new_task : Bool) (i : Cpu) :
    ((inter_cluster_migration_fixup P bs p new_cpu task_cpu new_task).1 i).window
      = (bs i).window := by
  unfold inter_cluster_migration_fixup
  split_ifs with hdomain
  · rfl
  · have hne : task_cpu ≠ new_cpu := fun h => hdomain (by simp [same_freq_domain, h])
    refine (window_update_cluster_load_subtractions ..).trans ?_
    refine (reading_update_of_eq (φ := Busy.window) ?_ i).trans (reading_update_of_eq ?_ i)
    · rw [update_of_ne hne]; rfl
    · rfl

open Tally in
lemma window_migrate_windows (p : Account Cpu) (new_cpu : Cpu) (hne : new_cpu ≠ p.cpu) (i : Cpu) :
    ((migrate_windows P bs p new_cpu).1 i).window = (bs i).window := by
  unfold migrate_windows
  refine (reading_update_of_eq (φ := Busy.window) ?_ i).trans ((reading_update_of_eq ?_ i).trans ?_)
  · rw [update_of_ne hne]; rfl
  · rfl
  · split_ifs
    · refine (reading_update_of_eq (φ := Busy.window) ?_ i).trans (reading_update_of_eq ?_ i)
      · rw [update_of_ne hne.symm]; rfl
      · rfl
    · exact window_inter_cluster_migration_fixup ..

open Tally in
lemma window_transfer_windows (p : Account Cpu) (add : Bool)
    (i : Cpu) : ((transfer_windows P bs p add).1 i).window = (bs i).window := by
  refine (reading_update_of_eq (φ := Busy.window) ?_ i).trans ?_
  · simp
  · cases add
    · exact reading_update_of_eq (φ := Busy.window) (by simp) i
    · refine (window_update_cluster_load_subtractions ..).trans ?_
      exact reading_update_of_eq (φ := Busy.window) (by simp) i

/-! ## What moves do to counters and debts -/

lemma migrate_windows_busy (p : Account Cpu) (new_cpu i : Cpu) :
    ∃ top, (migrate_windows P bs p new_cpu).1 i = { (if p.grp then
        group_migration_fixup bs p new_cpu p.cpu (is_new_task p)
      else (inter_cluster_migration_fixup P bs p new_cpu p.cpu (is_new_task p)).1) i with
      top := top } := by
  have hmoved : ∀ (bs : Cpu → Busy) (src dst : TopTasks), ∃ top,
      update (update bs p.cpu { bs p.cpu with top := src }) new_cpu
        { bs new_cpu with top := dst } i = { bs i with top := top } := by
    intro bs src dst
    rcases eq_or_ne i new_cpu with rfl | hnew
    · exact ⟨_, update_self ..⟩
    · rw [update_of_ne hnew]
      rcases eq_or_ne i p.cpu with rfl | hcpu
      · exact ⟨_, update_self ..⟩
      · exact ⟨_, update_of_ne hcpu ..⟩
  unfold migrate_windows
  split_ifs <;> exact hmoved ..

lemma group_migration_fixup_busy (p : Account Cpu) {task_cpu : Cpu}
    (hne : new_cpu ≠ task_cpu) (new_task : Bool) (i : Cpu) :
    group_migration_fixup bs p new_cpu task_cpu new_task i =
      if i = task_cpu then
        (bs i).set_cpu_time true
          (((bs i).cpu_time true).take new_task (p.win.total false) (p.win.total true))
      else if i = new_cpu then
        (bs i).set_cpu_time true
          (((bs i).cpu_time true).give new_task (p.win.total false) (p.win.total true))
      else bs i := by
  unfold group_migration_fixup
  by_cases hi : i = task_cpu
  · subst hi
    simp [Busy.set_cpu_time, Busy.cpu_time, Windows.total]
  · by_cases hnew : i = new_cpu
    · subst hnew
      simp [hne, Busy.set_cpu_time, Busy.cpu_time, Windows.total]
    · simp [hi, hnew]

lemma inter_cluster_migration_fixup_busy (p : Account Cpu) {task_cpu : Cpu} (new_task : Bool)
    (hdomain : same_freq_domain P new_cpu task_cpu = false) (i : Cpu) :
    (inter_cluster_migration_fixup P bs p new_cpu task_cpu new_task).1 i =
      if i = task_cpu then
        ((bs i).set_cpu_time false
          (((bs i).cpu_time false).take new_task (p.win.entry false i) (p.win.entry true i))).check
          (((bs i).cpu_time false).underflows new_task (p.win.entry false i) (p.win.entry true i))
      else if i = new_cpu then
        (bs i).set_cpu_time false
          (((bs i).cpu_time false).give new_task (p.win.total false) (p.win.total true))
      else if cluster_sibling P task_cpu i then
        note_subtraction
          (note_subtraction (bs i) (bs task_cpu).window_start (p.win.entry false i) new_task)
          (sub64 (bs task_cpu).window_start (bs task_cpu).prev_window_size) (p.win.entry true i)
          new_task
      else bs i := by
  have hdomain' : ¬ same_freq_domain P new_cpu task_cpu = true := by rw [hdomain]; decide
  unfold inter_cluster_migration_fixup
  rw [if_neg hdomain']
  simp only [update_cluster_load_subtractions, update_self]
  by_cases hi : i = task_cpu
  · subst hi
    simp [cluster_sibling, Busy.set_cpu_time, Busy.cpu_time, Busy.check, Windows.entry]
  · by_cases hnew : i = new_cpu
    · subst hnew
      simp [cluster_sibling, hdomain, hi, Busy.set_cpu_time, Busy.cpu_time, Windows.total]
    · split_ifs with hsib
      · simp [hi, hnew, Windows.entry, Busy.check]
      · simp [hi, hnew]

/-- What a change of group takes off: the entry of the CPU when the task joins, its whole
time when it leaves. -/
def Account.taken (p : Account Cpu) (add prev : Bool) : ℕ :=
  if add then p.win.entry prev p.cpu else p.win.total prev

lemma transfer_windows_busy (p : Account Cpu) (add : Bool) (i : Cpu) :
    (transfer_windows P bs p add).1 i =
      if i = p.cpu then
        let b := ((bs i).set_cpu_time (!add) (((bs i).cpu_time (!add)).take (is_new_task p)
          (p.taken add false) (p.taken add true))).check (((bs i).cpu_time (!add)).underflows
          (is_new_task p) (p.taken add false) (p.taken add true))
        b.set_cpu_time add
          ((b.cpu_time add).give (is_new_task p) (p.win.total false) (p.win.total true))
      else if add && cluster_sibling P p.cpu i then
        note_subtraction
          (note_subtraction (bs i) (bs p.cpu).window_start (p.win.entry false i) (is_new_task p))
          (sub64 (bs p.cpu).window_start (bs p.cpu).prev_window_size) (p.win.entry true i)
          (is_new_task p)
      else bs i := by
  unfold transfer_windows
  by_cases hi : i = p.cpu
  · subst hi
    cases add <;>
      simp [update_cluster_load_subtractions, cluster_sibling, Busy.set_cpu_time, Busy.cpu_time,
        Busy.check, Account.taken, Windows.total, Windows.entry]
  · cases add <;>
      simp [update_cluster_load_subtractions, hi, Busy.set_cpu_time, Busy.check, Windows.entry]

def Rq.core (rq : Rq Tid) : Busy × Tid × WaltStats := (rq.busy, rq.curr, rq.walt_stats)

lemma migrate_cycles_spec (rqs : Cpu → Rq Tid) (p : Task Cpu) (new_cpu : Cpu) (wallclock : ℕ) :
    (∀ i, ((migrate_cycles P rqs p new_cpu wallclock).1 i).core = (rqs i).core) ∧
    ∃ d, (migrate_cycles P rqs p new_cpu wallclock).2 = { p with cpu_cycles := d } := by
  obtain ⟨c, l, d, hcyc⟩ := update_task_cpu_cycles_spec P (rqs new_cpu) p wallclock
  simp only [migrate_cycles, hcyc]
  split_ifs with hw
  · refine ⟨fun i => ?_, d, rfl⟩
    refine (Tally.reading_update_of_eq (φ := Rq.core) ?_ i).trans
      ((Tally.reading_update_of_eq ?_ i).trans (Tally.reading_update_of_eq ?_ i)) <;> rfl
  · exact ⟨fun i => Tally.reading_update_of_eq (φ := Rq.core) (by rfl) i, d, rfl⟩

lemma migrate_busy_time_spec (rqs : Cpu → Rq Tid) (p : Task Cpu) (new_cpu : Cpu) (wallclock : ℕ) :
    (∀ i, ((migrate_busy_time P rqs p new_cpu wallclock).1 i).core
      = ((migrate_windows P (fun i => (rqs i).busy) p.acct new_cpu).1 i,
          (rqs i).curr, (rqs i).walt_stats)) ∧
    ∃ d, (migrate_busy_time P rqs p new_cpu wallclock).2 = { p with
      acct := (migrate_windows P (fun i => (rqs i).busy) p.acct new_cpu).2, cpu_cycles := d } := by
  obtain ⟨hcore, d, hp⟩ := migrate_cycles_spec P rqs p new_cpu wallclock
  have hbusy : (fun i => ((migrate_cycles P rqs p new_cpu wallclock).1 i).busy)
      = fun i => (rqs i).busy := funext fun i => congrArg Prod.fst (hcore i)
  simp only [migrate_busy_time, hp, hbusy]
  refine ⟨fun i => ?_, d, rfl⟩
  have hrest := congrArg Prod.snd (hcore i)
  exact Prod.ext rfl hrest

end Migration

end KernelExtra.Walt
