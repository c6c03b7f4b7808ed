/-
Clocks and windows: where the marks of tasks and queues can be.

A queue's window is the one that holds the mark of its running task, and no task of the queue is
marked later. A task marked exactly at the beginning of a window has nothing in it yet; that is why
`full_window`, true one nanosecond too early for such a task, does no harm.
-/
import KernelExtra.Sched.Walt.BusyMachine

namespace KernelExtra.Walt

open Function

variable {Cpu Tid : Type}

/-! ## Windows by number -/

def windowOf (P : Params Cpu) (t : ℕ) : ℕ := (t - 1) / P.sched_ravg_window

def windowStart (P : Params Cpu) (k : ℕ) : ℕ := 1 + k * P.sched_ravg_window

section

variable (P : Params Cpu)

lemma windowOf_mono {t u : ℕ} (h : t ≤ u) : windowOf P t ≤ windowOf P u :=
  Nat.div_le_div_right (Nat.sub_le_sub_right h 1)

@[simp] lemma windowOf_windowStart (k : ℕ) : windowOf P (windowStart P k) = k := by
  rw [windowOf, windowStart, Nat.add_sub_cancel_left, Nat.mul_div_cancel _ P.window_pos]

lemma windowStart_succ (k : ℕ) : windowStart P (k + 1) = windowStart P k + P.sched_ravg_window := by
  unfold windowStart; ring

lemma windowStart_lt {k k' : ℕ} : windowStart P k < windowStart P k' ↔ k < k' := by
  unfold windowStart
  rw [add_lt_add_iff_left, Nat.mul_lt_mul_right P.window_pos]

lemma windowStart_inj {k k' : ℕ} : windowStart P k = windowStart P k' ↔ k = k' := by
  unfold windowStart
  rw [add_left_cancel_iff, Nat.mul_left_inj P.window_pos.ne']

lemma windowStart_windowOf_le {t : ℕ} (ht : 0 < t) : windowStart P (windowOf P t) ≤ t := by
  have h := Nat.div_mul_le_self (t - 1) P.sched_ravg_window
  unfold windowStart windowOf
  omega

lemma lt_windowStart_iff {t k : ℕ} (ht : 0 < t) : t < windowStart P k ↔ windowOf P t < k := by
  rw [windowOf, windowStart, Nat.div_lt_iff_lt_mul P.window_pos]
  omega

lemma Busy.advance_eq {b : Busy} {k wallclock : ℕ} (hws : b.window_start = windowStart P k)
    (hsize : b.prev_window_size = P.sched_ravg_window) (hk : windowStart P k ≤ wallclock)
    (hfew : b.FewWindows P wallclock) :
    b.advance P wallclock = { b with window_start := windowStart P (windowOf P wallclock) } := by
  have hpos : 0 < wallclock := by unfold windowStart at hk; omega
  rw [Busy.advance, Busy.delta, delta_eq (hws ▸ hk) hfew.1,
    rolled_window_start_eq (hws ▸ hk) hfew.1 hfew.2]
  split_ifs with hlt hlt'
  · have hkk : windowOf P wallclock = k := by
      have h1 := (lt_windowStart_iff P (k := k + 1) hpos).mp (by rw [windowStart_succ]; omega)
      have h2 := windowOf_mono P hk
      rw [windowOf_windowStart] at h2
      omega
    rw [hkk, ← hws]
  · omega
  · have hnr : (wallclock - b.window_start) / P.sched_ravg_window = windowOf P wallclock - k := by
      rw [hws, windowOf, windowStart, Nat.sub_add_eq, mul_comm k, Nat.sub_mul_div]
    have hle : k ≤ windowOf P wallclock := by
      simpa using windowOf_mono P hk
    have hmove : b.window_start + (windowOf P wallclock - k) * P.sched_ravg_window
        = windowStart P (windowOf P wallclock) := by
      rw [hws, windowStart, windowStart, add_assoc, ← add_mul, Nat.add_sub_cancel' hle]
    simp [hnr, hmove, hsize]

variable {P} {b : Busy} {a : Account Cpu} {k : ℕ}

variable (hb : b.window = (windowStart P k, P.sched_ravg_window))
include hb

lemma newWindow_eq
    (ha : 0 < a.mark_start) : newWindow b a = decide (windowOf P a.mark_start < k) := by
  have hws : b.window_start = windowStart P k := congrArg Prod.fst hb
  rw [newWindow, hws, decide_eq_decide]
  exact lt_windowStart_iff P ha

lemma fullWindow_eq :
    fullWindow b a = decide (a.mark_start + P.sched_ravg_window ≤ windowStart P k) := by
  have hws : b.window_start = windowStart P k := congrArg Prod.fst hb
  have hsize : b.prev_window_size = P.sched_ravg_window := congrArg Prod.snd hb
  have hpos := P.window_pos
  rw [fullWindow, newWindow, hws, hsize, ← Bool.decide_and, decide_eq_decide]
  omega

lemma eq_succ_of_not_fullWindow
    (ha : 0 < a.mark_start) (hlt : windowOf P a.mark_start < k) (hfull : fullWindow b a = false) :
    k = windowOf P a.mark_start + 1 := by
  by_contra hne
  rw [fullWindow_eq hb, decide_eq_false_iff_not, not_le] at hfull
  have hms : a.mark_start < windowStart P (k - 1) := (lt_windowStart_iff P ha).mpr (by omega)
  have hsucc := windowStart_succ P (k - 1)
  rw [Nat.sub_add_cancel (by omega)] at hsucc
  omega

end

/-! ## The invariant -/

/-- Every queue is in the window of its clock. -/
structure Clocked (P : Params Cpu) (v : View Cpu Tid) : Prop where
  window : ∀ i, (v.busy i).window_start = windowStart P (windowOf P (v.mark i))
  size : ∀ i, (v.busy i).prev_window_size = P.sched_ravg_window
  curr_cpu : ∀ i, (v.acct (v.curr i)).cpu = i
  mark_pos : ∀ i, 0 < v.mark i
  mark_le : ∀ p, (v.acct p).mark_start ≤ v.mark (v.acct p).cpu
  clock : ∀ i, v.mark i ≤ v.clock
  /-- marked before or at the beginning of its window, a task has nothing in it -/
  edge : ∀ p, (v.acct p).is_idle = false →
    (v.acct p).mark_start ≤ windowStart P (windowOf P (v.acct p).mark_start) →
    (v.acct p).win.Empty false
  first : ∀ p, (v.acct p).is_idle = false → windowOf P (v.acct p).mark_start = 0 →
    (v.acct p).win.Empty true

namespace Clocked

variable {P : Params Cpu} {v : View Cpu Tid}

lemma of_boot {s : State Cpu Tid} (hboot : Boot P s) : Clocked P s.view := by
  have hmark : ∀ i, s.view.mark i = (s.rq i).busy.window_start := hboot.curr_mark
  have hgrid : ∀ i, ∃ k, (s.rq i).busy.window_start = windowStart P k := hboot.window_start
  refine ⟨fun i => ?_, hboot.prev_window_size, hboot.curr_cpu, fun i => ?_, fun p => ?_,
    fun i => ?_, fun p _ _ => ?_, fun p _ _ => ?_⟩
  · obtain ⟨k, hk⟩ := hgrid i
    rw [hmark, hk, windowOf_windowStart]
    exact hk
  · obtain ⟨k, hk⟩ := hgrid i
    rw [hmark, hk, windowStart]
    omega
  · rcases hboot.mark p with hcurr | hzero
    · have hp : s.view.mark (s.task p).acct.cpu = (s.task p).acct.mark_start := by
        simp [View.mark, State.view, hcurr]
      exact hp.ge
    · exact hzero.trans_le (zero_le)
  · rw [hmark]
    exact hboot.clock i
  · simp [State.view, hboot.win p, Windows.Empty, Windows.total, Windows.entry, Windows.zero]
  · simp [State.view, hboot.win p, Windows.Empty, Windows.total, Windows.entry, Windows.zero]

variable (h : Clocked P v)
include h

variable {p : Tid}

lemma emptyCurr_of_fresh (hidle : (v.acct p).is_idle = false)
    (hp : (v.acct p).mark_start = 0) : (v.acct p).win.Empty false :=
  h.edge p hidle (by rw [hp]; exact zero_le)

lemma emptyPrev_of_fresh (hidle : (v.acct p).is_idle = false)
    (hp : (v.acct p).mark_start = 0) : (v.acct p).win.Empty true :=
  h.first p hidle (by rw [hp]; simp [windowOf])

lemma not_running_of_fresh (hp : (v.acct p).mark_start = 0) : v.curr (v.acct p).cpu ≠ p := by
  intro hcurr
  have hpos := h.mark_pos (v.acct p).cpu
  rw [View.mark, hcurr, hp] at hpos
  exact lt_irrefl 0 hpos

lemma curr_eq {i : Cpu} (hp : v.curr i = p) : i = (v.acct p).cpu := by
  rw [← hp, h.curr_cpu i]

lemma window_le_mark (i : Cpu) : (v.busy i).window_start ≤ v.mark i := by
  rw [h.window i]
  exact windowStart_windowOf_le P (h.mark_pos i)

section

variable {wallclock : ℕ} {i : Cpu} (hclock : v.Reads P i wallclock)
include hclock

/-- A reading that counts few windows puts the queue into the window of the reading. -/
lemma advance : (v.busy i).advance P wallclock
    = { v.busy i with window_start := windowStart P (windowOf P wallclock) } := by
  refine Busy.advance_eq P (h.window i) (h.size i) ?_ hclock.2
  rw [← h.window i]
  exact (h.window_le_mark i).trans ((h.clock i).trans hclock.1)

lemma window_advance : ((v.busy i).advance P wallclock).window
    = (windowStart P (windowOf P wallclock), P.sched_ravg_window) := by
  rw [h.advance hclock, Busy.window, h.size i]

end

lemma mark_start_le_clock (p : Tid) : (v.acct p).mark_start ≤ v.clock :=
  (h.mark_le p).trans (h.clock _)

end Clocked

/-! ## What actions do to marks -/

section Marks

variable [DecidableEq Cpu] [DecidableEq Tid]

lemma View.mark_set_self {v : View Cpu Tid} {p : Tid} {wallclock : ℕ}
    (hcurr : v.curr (v.acct p).cpu = p ∨ v.mark (v.acct p).cpu = wallclock) (b : Busy)
    (a : Account Cpu) : (v.set p wallclock b a).mark (v.acct p).cpu = wallclock := by
  by_cases hp : v.curr (v.acct p).cpu = p
  · simp [View.mark, View.set, hp]
  · simpa [View.mark, View.set, hp] using hcurr.resolve_left hp

omit [DecidableEq Cpu] in
lemma View.mark_move {v : View Cpu Tid} {p : Tid} {a : Account Cpu}
    (hms : a.mark_start = (v.acct p).mark_start) (busy : Cpu → Busy) (i : Cpu) :
    View.mark { v with busy, acct := update v.acct p a } i = v.mark i :=
  Tally.reading_update_of_eq (φ := Account.mark_start) hms _

namespace Clocked

variable {P : Params Cpu} {v : View Cpu Tid}

variable {p : Tid} {wallclock : ℕ}

section

variable (h : Clocked P v)
include h

lemma mark_set_of_ne (wallclock : ℕ) (b : Busy) (a : Account Cpu)
    {j : Cpu} (hj : j ≠ (v.acct p).cpu) : (v.set p wallclock b a).mark j = v.mark j := by
  have hne : v.curr j ≠ p := fun hp => hj (h.curr_eq hp)
  simp [View.mark, View.set, hne]

lemma set (hclock : v.clock ≤ wallclock)
    (hcurr : v.curr (v.acct p).cpu = p ∨ v.mark (v.acct p).cpu = wallclock)
    {b : Busy} {a : Account Cpu}
    (hb : b.window = (windowStart P (windowOf P wallclock), P.sched_ravg_window))
    (hcpu : a.cpu = (v.acct p).cpu)
    (hedge : a.is_idle = false → wallclock ≤ windowStart P (windowOf P wallclock) →
      a.win.Empty false)
    (hfirst : a.is_idle = false → windowOf P wallclock = 0 → a.win.Empty true) :
    Clocked P (v.set p wallclock b a) := by
  have hself := View.mark_set_self hcurr b a
  have hmark : ∀ j, v.mark j ≤ (v.set p wallclock b a).mark j ∧
      (v.set p wallclock b a).mark j ≤ wallclock := by
    intro j
    have hj := (h.clock j).trans hclock
    rcases eq_or_ne j (v.acct p).cpu with rfl | hne
    · exact ⟨hj.trans hself.ge, hself.le⟩
    · rw [h.mark_set_of_ne wallclock b a hne]
      exact ⟨le_rfl, hj⟩
  refine ⟨fun i => ?_, fun i => ?_, fun i => ?_, fun i => ?_, fun q => ?_, fun i => (hmark i).2,
    fun q => ?_, fun q => ?_⟩
  · rcases eq_or_ne i (v.acct p).cpu with rfl | hne
    · rw [hself]
      simpa [View.set, Busy.window] using congrArg Prod.fst hb
    · rw [h.mark_set_of_ne wallclock b a hne]
      simpa [View.set, hne] using h.window i
  · rcases eq_or_ne i (v.acct p).cpu with rfl | hne
    · simpa [View.set, Busy.window] using congrArg Prod.snd hb
    · simpa [View.set, hne] using h.size i
  · by_cases hp : v.curr i = p
    · simpa [View.set, hp, hcpu] using (h.curr_eq hp).symm
    · simpa [View.set, hp] using h.curr_cpu i
  · exact (h.mark_pos i).trans_le (hmark i).1
  · rcases eq_or_ne q p with rfl | hne
    · have hq : ((v.set q wallclock b a).acct q).cpu = (v.acct q).cpu := by simp [View.set, hcpu]
      rw [hq, hself]
      simp [View.set]
    · have hq : (v.set p wallclock b a).acct q = v.acct q := by simp [View.set, hne]
      rw [hq]
      exact (h.mark_le q).trans (hmark _).1
  · rcases eq_or_ne q p with rfl | hne
    · simpa [View.set] using hedge
    · simpa [View.set, hne] using h.edge q
  · rcases eq_or_ne q p with rfl | hne
    · simpa [View.set] using hfirst
    · simpa [View.set, hne] using h.first q

section

variable (hclock : v.Reads P (v.acct p).cpu wallclock)
include hclock

lemma emptyCurr_rolled_charge {c : Charge} (hlegal : Legal P v (.account p wallclock c))
    (hedge : wallclock ≤ windowStart P (windowOf P wallclock)) (is_curr : Bool) :
    (rolled_charge P ((v.busy (v.acct p).cpu).advance P wallclock) is_curr (v.acct p)
      c).2.win.Empty false := by
  obtain ⟨hidle, -, hne, hfits⟩ := hlegal
  have hms := (h.mark_start_le_clock p).trans hclock.1
  have hws := windowStart_windowOf_le P (t := wallclock) (by omega)
  have hnew : newWindow ((v.busy (v.acct p).cpu).advance P wallclock) (v.acct p) = true := by
    rw [h.advance hclock, newWindow, decide_eq_true_eq]
    exact lt_of_lt_of_le (lt_of_le_of_ne hms hne) hedge
  cases c with
  | none =>
    simp [rolled_charge, Account.roll, hidle, hnew, Account.charge, rollover_task_window,
      Windows.Empty, Windows.total, Windows.entry]
  | curr delta => exact absurd (hnew.symm.trans hfits) (by decide)
  | split before after =>
    have hafter : after = 0 := hfits.2 (by rw [h.advance hclock]; exact le_antisymm hedge hws)
    simp [rolled_charge, Account.roll, hidle, hnew, Account.charge, rollover_task_window,
      Windows.add_curr, Windows.add_prev, Windows.Empty, Windows.total, Windows.entry, hafter, u32]

lemma emptyPrev_rolled_charge {c : Charge} (hlegal : Legal P v (.account p wallclock c))
    (hfirst : windowOf P wallclock = 0) (is_curr : Bool) :
    (rolled_charge P ((v.busy (v.acct p).cpu).advance P wallclock) is_curr (v.acct p)
      c).2.win.Empty true := by
  obtain ⟨hidle, hne0, -, hfits⟩ := hlegal
  have hnew := newWindow_eq (h.window_advance hclock) (pos_of_ne_zero hne0)
  rw [hfirst, decide_eq_false (Nat.not_lt_zero _)] at hnew
  have hprev := h.first p hidle (Nat.eq_zero_of_le_zero
    (hfirst ▸ windowOf_mono P ((h.mark_start_le_clock p).trans hclock.1)))
  cases c with
  | none => simpa [rolled_charge, Account.roll, hnew, Account.charge] using hprev
  | curr delta =>
    simpa [rolled_charge, Account.roll, hnew, Account.charge, Windows.add_curr, Windows.Empty,
      Windows.total, Windows.entry]
      using hprev
  | split before after => exact absurd (hnew.symm.trans hfits.1) (by decide)

end

omit [DecidableEq Cpu] in
lemma move {a : Account Cpu} {busy : Cpu → Busy}
    (hbusy : ∀ i, (busy i).window = (v.busy i).window) (hcpu : v.curr (v.acct p).cpu = p →
      a.cpu = (v.acct p).cpu) (hms : a.mark_start = (v.acct p).mark_start)
    (hle : a.mark_start ≤ v.mark a.cpu) (hidle : a.is_idle = (v.acct p).is_idle)
    (hcurr : (v.acct p).win.Empty false → a.win.Empty false)
    (hprev : (v.acct p).win.Empty true → a.win.Empty true) :
    Clocked P { v with busy, acct := update v.acct p a } := by
  have hmark := View.mark_move hms busy
  refine ⟨fun i => ?_, fun i => ?_, fun i => ?_, fun i => ?_, fun q => ?_, fun i => ?_, fun q => ?_,
    fun q => ?_⟩
  · rw [hmark]
    exact (congrArg Prod.fst (hbusy i)).trans (h.window i)
  · exact (congrArg Prod.snd (hbusy i)).trans (h.size i)
  · by_cases hp : v.curr i = p
    · have hi := h.curr_eq hp
      show (update v.acct p a (v.curr i)).cpu = i
      rw [hp, update_self, hcpu (hi ▸ hp), ← hi]
    · simpa [hp] using h.curr_cpu i
  · rw [hmark]
    exact h.mark_pos i
  · rw [hmark]
    rcases eq_or_ne q p with rfl | hne
    · simpa using hle
    · simpa [hne] using h.mark_le q
  · rw [hmark]
    exact h.clock i
  · rcases eq_or_ne q p with rfl | hne
    · simpa [hms, hidle] using fun hi he => hcurr (h.edge q hi he)
    · simpa [hne] using h.edge q
  · rcases eq_or_ne q p with rfl | hne
    · simpa [hms, hidle] using fun hi he => hprev (h.first q hi he)
    · simpa [hne] using h.first q

omit [DecidableEq Tid] in
lemma switch {i : Cpu} {next : Tid} (hcpu : (v.acct next).cpu = i)
    (hms : (v.acct next).mark_start = v.mark i) :
    Clocked P { v with curr := update v.curr i next } := by
  have hmark : ∀ j, View.mark { v with curr := update v.curr i next } j = v.mark j :=
    Tally.reading_update_of_eq (φ := fun p => (v.acct p).mark_start) hms
  refine ⟨fun j => ?_, h.size, fun j => ?_, fun j => ?_, fun q => ?_, fun j => ?_, h.edge, h.first⟩
  · rw [hmark]
    exact h.window j
  · rcases eq_or_ne j i with rfl | hne
    · simpa using hcpu
    · simpa [hne] using h.curr_cpu j
  · rw [hmark]
    exact h.mark_pos j
  · rw [hmark]
    exact h.mark_le q
  · rw [hmark]
    exact h.clock j

/-- **Every action that keeps its promises keeps the clocks.** -/
theorem act {x : Act Cpu Tid} (hlegal : Legal P v x) (hx : x.Timed P v) :
    Clocked P (act P v x) := by
  cases x with
  | stutter => exact h
  | tick p wallclock => exact { h with clock := fun i => (h.clock i).trans hx.1.1 }
  | fresh p wallclock =>
    refine h.set hx.1.1 hx.2 (h.window_advance hx.1) rfl (fun hidle _ => ?_) (fun hidle _ => ?_)
    · exact h.emptyCurr_of_fresh hidle hlegal
    · exact h.emptyPrev_of_fresh hidle hlegal
  | account p wallclock c =>
    refine h.set hx.1.1 hx.2 ?_ ?_ (fun _ he => ?_) (fun _ hf => ?_)
    · exact (window_rolled_charge ..).trans (h.window_advance hx.1)
    · exact cpu_rolled_charge ..
    · exact h.emptyCurr_rolled_charge hx.1 hlegal he _
    · exact h.emptyPrev_rolled_charge hx.1 hlegal hf _
  | idle p wallclock b w =>
    have hidle : ¬ (v.acct p).is_idle = false := by simp [hlegal.1]
    refine h.set hx.1.1 hx.2 ?_ rfl (fun hi _ => absurd hi hidle) (fun hi _ => absurd hi hidle)
    rw [hlegal.2.same, ← h.window_advance hx.1]
    exact Busy.window_roll ..
  | migrate p new_cpu =>
    obtain ⟨-, hrun, hne, hms, -, hnew⟩ := hx
    obtain ⟨c, d, hacct⟩ := migrate_windows_acct P v.busy _ new_cpu
    refine h.move (window_migrate_windows P v.busy (v.acct p) new_cpu hne)
      (fun hp => absurd hp hrun) ?_ ?_ ?_ (empty_migrate_windows P v.busy)
      (empty_migrate_windows P v.busy)
    · rw [hacct]
    · rw [hacct]
      exact (hms.trans hnew.symm).le
    · rw [hacct]
  | transfer p add =>
    obtain ⟨c, d, hacct⟩ := transfer_windows_acct P v.busy _ add
    refine h.move (window_transfer_windows P v.busy (v.acct p) add) (fun _ => ?_) ?_ ?_ ?_
      (empty_transfer_windows P v.busy) (empty_transfer_windows P v.busy)
    · rw [hacct]
    · rw [hacct]
    · rw [hacct]
      exact h.mark_le p
    · rw [hacct]
  | subtract i =>
    have hbusy : ∀ j, (update v.busy i (account_load_subtractions (v.busy i)) j).window
        = (v.busy j).window := Tally.reading_update_of_eq (by rfl)
    exact { h with
      window := fun j => (congrArg Prod.fst (hbusy j)).trans (h.window j)
      size := fun j => (congrArg Prod.snd (hbusy j)).trans (h.size j) }
  | switch i next => exact h.switch hx.1 hx.2

end

lemma step {s : State Cpu Tid} (h : Clocked P s.view) {a : Step Cpu Tid}
    (ha : Timed s a ∧ Counted P s a) : Clocked P (Walt.step P s a).view := by
  obtain ⟨x, hx⟩ := step_refines P s a
  rw [hx.view]
  exact h.act hx.legal (hx.timed ha)

end Clocked

end Marks

end KernelExtra.Walt
