/-
The books of busy time.

Window `k` is the one that ends at `windowStart P k`. To whoever is in window number `m`, window `m
+ 1` is the current one and window `m` the previous one (`place`). For each window, each CPU, and
each of the four kinds of counter there is

* `Account.share`, what a task has spent there and may take away,
* `Busy.owed`, what has been noted in `load_subs` and is still to be taken off,
* `Busy.balance`, what the counter says.
-/
import KernelExtra.Sched.Walt.Clocked

namespace KernelExtra.Walt

variable {Cpu Tid : Type}

/-! ## Windows by their end -/

/-- Which window `k` is to someone in window number `m`: the current one (`some false`),
the previous one (`some true`), or neither. -/
def place (m k : ℕ) : Option Bool :=
  if k = m + 1 then some false else if k = m then some true else none

@[simp] lemma place_curr (m : ℕ) : place m (m + 1) = some false := if_pos rfl

@[simp] lemma place_prev (m : ℕ) : place m m = some true := by
  simp [place]

variable {m k : ℕ}

lemma place_eq_none (h : k < m ∨ m + 1 < k) : place m k = none := by
  unfold place
  rw [if_neg (by omega), if_neg (by omega)]

lemma place_cases (h : m ≤ k) : k = m + 1 ∨ k = m ∨ m + 1 < k := by
  omega

/-- Windows by number: the current one and the one before. -/
def label (m : ℕ) (prev : Bool) : ℕ := if prev then m else m + 1

@[simp] lemma place_label (m : ℕ) (prev : Bool) : place m (label m prev) = some prev := by
  cases prev
  · exact place_curr m
  · exact place_prev m

lemma place_eq_some {prev : Bool} (h : place m k = some prev) : k = label m prev := by
  unfold place at h
  split_ifs at h with h1 h2
  · obtain rfl : prev = false := by simpa using h.symm
    exact h1
  · obtain rfl : prev = true := by simpa using h.symm
    exact h2

lemma le_label (m : ℕ) (prev : Bool) : m ≤ label m prev := by
  cases prev <;> simp [label]

variable {P : Params Cpu}

lemma Clocked.empty_of_ahead {v : View Cpu Tid} (hc : Clocked P v) {p : Tid}
    (hidle : (v.acct p).is_idle = false) {prev : Bool}
    (hk : (v.acct p).mark_start + P.sched_ravg_window
      ≤ windowStart P (label (windowOf P (v.acct p).mark_start) prev)) :
    (v.acct p).win.Empty prev := by
  have hpos := P.window_pos
  by_cases hms : (v.acct p).mark_start = 0
  · cases prev
    · exact hc.emptyCurr_of_fresh hidle hms
    · exact hc.emptyPrev_of_fresh hidle hms
  cases prev with
  | false =>
    change _ ≤ windowStart P (_ + 1) at hk
    rw [windowStart_succ] at hk
    exact hc.edge p hidle (by omega)
  | true =>
    have hle := windowStart_windowOf_le P (pos_of_ne_zero hms)
    change _ ≤ windowStart P (windowOf P _) at hk
    omega

def inPlace (o : Option Bool) (w : Bool → ℕ) : ℕ := (o.map w).getD 0

/-! ## Counters -/

def RunnableSums.counter (t : RunnableSums) : Bool → Bool → ℤ
  | false, false => t.curr_runnable_sum
  | false, true => t.prev_runnable_sum
  | true, false => t.nt_curr_runnable_sum
  | true, true => t.nt_prev_runnable_sum

/-- What an amount charged for a task comes to at a counter: the counters of new tasks
(`nt`) see new tasks only. -/
def due (nt new_task : Bool) (amount : ℕ) : ℕ := if nt && !new_task then 0 else amount

lemma due_le {nt new_task new_task' : Bool} {x y z : ℕ} (hnew : new_task' = true → new_task = true)
    (h : x ≤ y + z) : due nt new_task' x ≤ due nt new_task y + due nt new_task' z := by
  cases nt <;> cases new_task <;> cases new_task' <;> simp_all [due]

@[simp] lemma due_zero (nt new_task : Bool) : due nt new_task 0 = 0 := by
  simp [due]

def Charge.amount : Charge → Bool → ℕ
  | .none, _ => 0
  | .curr delta, prev => if prev then 0 else delta
  | .split before after, prev => if prev then before else after

variable (t : RunnableSums)

lemma counter_charge (new_task : Bool) (c : Charge) (nt prev : Bool) :
    (t.charge new_task c).counter nt prev = t.counter nt prev + due nt new_task
    (c.amount prev) := by
  cases c <;> cases nt <;> cases prev <;> cases new_task <;>
    simp [RunnableSums.charge, RunnableSums.add_curr, RunnableSums.add_prev, RunnableSums.counter,
      Charge.amount, due]

lemma counter_give (new_task : Bool) (w : Bool → ℕ) (nt prev : Bool) :
    (t.give new_task (w false) (w true)).counter nt prev
      = t.counter nt prev + due nt new_task (w prev) := by
  cases nt <;> cases prev <;> cases new_task <;>
    simp [RunnableSums.give, RunnableSums.add_curr, RunnableSums.add_prev, RunnableSums.counter,
      due]

lemma counter_take (new_task : Bool) (w : Bool → ℕ) (nt prev : Bool) :
    (t.take new_task (w false) (w true)).counter nt prev
      = t.counter nt prev - due nt new_task (w prev) := by
  cases nt <;> cases prev <;> cases new_task <;>
    simp [RunnableSums.take, RunnableSums.counter, due]

lemma counter_rollover (full nt prev : Bool) :
    (t.rollover full).counter nt prev = if prev && !full then t.counter nt false else 0 := by
  cases nt <;> cases prev <;> cases full <;> simp [RunnableSums.rollover, RunnableSums.counter]

lemma counter_grown {t t' : RunnableSums} (h : t.Grown t') (nt prev : Bool) :
    t.counter nt prev ≤ t'.counter nt prev := by
  cases nt <;> cases prev
  · exact h.curr
  · exact h.prev
  · exact h.nt_curr
  · exact h.nt_prev

lemma underflows_eq_false {t : RunnableSums} {new_task : Bool} {w : Bool → ℕ}
    (h : ∀ nt prev, (due nt new_task (w prev) : ℤ) ≤ t.counter nt prev) :
    t.underflows new_task (w false) (w true) = false := by
  cases new_task <;> simp_all [RunnableSums.underflows, RunnableSums.counter, due]

/-! ## Balances -/

/-- A counter of the CPU, by the window it stands for. -/
def Busy.balance (P : Params Cpu) (grp nt : Bool) (k : ℕ) (b : Busy) : ℤ :=
  match place (windowOf P b.window_start) k with
  | none => 0
  | some prev => (b.cpu_time grp).counter nt prev

variable (P) {b : Busy}

lemma balance_congr {grp nt : Bool} {b' : Busy}
    (hws : b'.window = b.window) (ht : b'.cpu_time grp = b.cpu_time grp) :
    b'.balance P grp nt k = b.balance P grp nt k := by
  have h : b'.window_start = b.window_start := congrArg Prod.fst hws
  unfold Busy.balance
  rw [h, ht]

section

variable {b : Busy} {m : ℕ} (hb : b.window_start = windowStart P m)

include hb

lemma balance_eq {grp nt prev : Bool} {k : ℕ} (hk : place m k = some prev) :
    b.balance P grp nt k = (b.cpu_time grp).counter nt prev := by
  rw [Busy.balance, hb, windowOf_windowStart, hk]

lemma balance_eq_zero {grp nt : Bool} {k : ℕ} (hk : place m k = none) :
    b.balance P grp nt k = 0 := by
  rw [Busy.balance, hb, windowOf_windowStart, hk]

end

lemma balance_idleGrown {b' : Busy} (h : b'.IdleGrown b) (grp nt : Bool)
    (k : ℕ) : b'.balance P grp nt k ≤ b.balance P grp nt k := by
  have hws : b.window_start = b'.window_start := by rw [h.same]
  unfold Busy.balance
  rw [hws]
  split
  · exact le_rfl
  · cases grp
    · exact counter_grown h.time nt _
    · exact counter_grown h.grp_time nt _

@[simp] lemma Busy.cpu_time_set_cpu_time (b : Busy) (grp : Bool) (t : RunnableSums) :
    (b.set_cpu_time grp t).cpu_time grp = t := by
  cases grp <;> rfl

lemma Busy.cpu_time_set_cpu_time_of_ne (b : Busy) {grp grp' : Bool} (h : grp' ≠ grp)
    (t : RunnableSums) : (b.set_cpu_time grp t).cpu_time grp' = b.cpu_time grp' := by
  cases grp <;> cases grp' <;> first | rfl | exact absurd rfl h

/-- **Rolling a queue over.** -/
theorem balance_roll {a : Account Cpu} {m' : ℕ}
    (hb : b.window = (windowStart P m, P.sched_ravg_window)) (ha : 0 < a.mark_start)
    (hm : windowOf P a.mark_start = m) (hmm : m ≤ m') (grp nt : Bool) (hk : m' ≤ k) :
    let b1 := { b with window_start := windowStart P m' }
    let b2 := b1.roll P true (newWindow b1 a) (fullWindow b1 a)
    b2.balance P grp nt k = b.balance P grp nt k ∨
      b2.balance P grp nt k = 0 ∧ a.mark_start + P.sched_ravg_window ≤ windowStart P k := by
  intro b1 b2
  have hws : b.window_start = windowStart P m := congrArg Prod.fst hb
  have hsize : b.prev_window_size = P.sched_ravg_window := congrArg Prod.snd hb
  have hb1 : b1.window = (windowStart P m', P.sched_ravg_window) := Prod.ext rfl hsize
  have hnew : newWindow b1 a = decide (m < m') := hm ▸ newWindow_eq hb1 ha
  rcases hmm.eq_or_lt with rfl | hlt
  · left
    have hb2 : b2 = b1 := by simp [b2, hnew, Busy.roll]
    rw [hb2]
    exact balance_congr P (Prod.ext hws.symm rfl) rfl
  · have hb2 : b2.window_start = windowStart P m' := Busy.roll_window_start ..
    have htime : b2.cpu_time grp = (b.cpu_time grp).rollover (fullWindow b1 a) := by
      simp only [b2, hnew, decide_eq_true hlt]
      cases grp <;> rfl
    rcases place_cases hk with rfl | rfl | hfar
    · left
      rw [balance_eq P hb2 (place_curr m'), htime, counter_rollover,
        balance_eq_zero P hws (place_eq_none (by omega))]
      rfl
    · cases hfull : fullWindow b1 a with
      | true =>
        right
        refine ⟨?_, of_decide_eq_true ((fullWindow_eq hb1).symm.trans hfull)⟩
        rw [balance_eq P hb2 (place_prev k), htime, counter_rollover, hfull]
        rfl
      | false =>
        left
        obtain rfl : k = m + 1 := hm ▸ eq_succ_of_not_fullWindow hb1 ha (hm ▸ hlt) hfull
        rw [balance_eq P hb2 (place_prev (m + 1)), htime, counter_rollover, hfull,
          balance_eq P hws (place_curr m)]
        rfl
    · left
      rw [balance_eq_zero P hb2 (place_eq_none (.inr hfar)),
        balance_eq_zero P hws (place_eq_none (by omega))]

/-! ## Shares -/

section Share

variable [DecidableEq Cpu]

/-- What `a` holds in window `k` on CPU `i`. In a group all of it is held on the CPU the
task is on. -/
def Account.held (P : Params Cpu) (k : ℕ) (i : Cpu) (a : Account Cpu) : ℕ :=
  match place (windowOf P a.mark_start) k with
  | none => 0
  | some prev =>
    if a.grp then if i = a.cpu then a.win.total prev else 0 else a.win.entry prev i

def Account.counted (grp nt : Bool) (a : Account Cpu) : Bool :=
  !a.is_idle && decide (a.grp = grp) && (!nt || is_new_task a)

/-- What a task has in a window on a CPU. -/
def Account.share (P : Params Cpu) (grp nt : Bool) (k : ℕ) (i : Cpu) (a : Account Cpu) : ℕ :=
  if a.counted grp nt then a.held P k i else 0

variable {a : Account Cpu}

lemma share_eq_due (hidle : a.is_idle = false) {grp : Bool}
    (hgrp : a.grp = grp) (nt : Bool) (k : ℕ) (i : Cpu) :
    a.share P grp nt k i = due nt (is_new_task a) (a.held P k i) := by
  cases nt <;> cases hnew : is_new_task a <;>
    simp [Account.share, Account.counted, due, hidle, hgrp, hnew]

lemma share_eq_zero {grp : Bool} (hgrp : a.grp ≠ grp)
    (nt : Bool) (k : ℕ) (i : Cpu) : a.share P grp nt k i = 0 := by
  simp [Account.share, Account.counted, hgrp]

lemma share_eq_zero_of_idle (hidle : a.is_idle = true)
    (grp nt : Bool) (k : ℕ) (i : Cpu) : a.share P grp nt k i = 0 := by
  simp [Account.share, Account.counted, hidle]

variable {k : ℕ}

lemma share_eq_zero_of_held {i : Cpu}
    (h : a.held P k i = 0) (grp nt : Bool) : a.share P grp nt k i = 0 := by
  simp [Account.share, h]

lemma share_le {a' : Account Cpu} (hidle : a'.is_idle = a.is_idle)
    (hgrp : a'.grp = a.grp) (hnew : is_new_task a' = true → is_new_task a = true) {i : Cpu}
    (hheld : a'.held P k i ≤ a.held P k i) (grp nt : Bool) :
    a'.share P grp nt k i ≤ a.share P grp nt k i := by
  cases h' : is_new_task a' <;> cases h : is_new_task a <;> cases nt <;>
    simp_all [Account.share, Account.counted] <;> split_ifs <;> omega

lemma held_eq_zero_of_empty (i : Cpu)
    (h : ∀ prev, place (windowOf P a.mark_start) k = some prev → a.win.Empty prev) :
    a.held P k i = 0 := by
  unfold Account.held
  split
  · rfl
  · rename_i prev hprev
    simp [(h prev hprev).1, (h prev hprev).2]

lemma held_roll_le {b : Busy} {m wallclock : ℕ}
    (hb : b.window = (windowStart P m, P.sched_ravg_window)) (hidle : a.is_idle = false)
    (ha : 0 < a.mark_start) (hle : windowOf P a.mark_start ≤ m) (hm : windowOf P wallclock = m)
    (k : ℕ) (i : Cpu) :
    Account.held P k i { a.roll b.prev_window_size (newWindow b a) (fullWindow b a) with
      mark_start := wallclock } ≤ a.held P k i := by
  have hnew := newWindow_eq hb ha
  rcases hle.eq_or_lt with heq | hlt
  · have hroll : a.roll b.prev_window_size (newWindow b a) (fullWindow b a) = a := by
      simp [Account.roll, hnew, heq]
    rw [hroll]
    simp [Account.held, hm, heq]
  · have hroll : a.roll b.prev_window_size (newWindow b a) (fullWindow b a)
        = rollover_task_window b.prev_window_size a (fullWindow b a) := by
      simp [Account.roll, hidle, hnew, hlt]
    rw [hroll]
    rcases lt_or_ge k m with hold | hk
    · simp [Account.held, hm, place_eq_none (.inl hold)]
    rcases place_cases hk with rfl | rfl | hfar
    · simp [Account.held, hm, rollover_task_window, Windows.total, Windows.entry]
    · cases hfull : fullWindow b a with
      | true => simp [Account.held, hm, rollover_task_window, Windows.total, Windows.entry]
      | false =>
        have hsucc := eq_succ_of_not_fullWindow hb ha hlt hfull
        simp [Account.held, hm, rollover_task_window, Windows.total, Windows.entry, hsucc]
    · simp [Account.held, hm, place_eq_none (.inr hfar)]

lemma held_charge_le (a : Account Cpu) (c : Charge) (i : Cpu)
    {prev : Bool} (hk : place (windowOf P a.mark_start) k = some prev) :
    (a.charge c).held P k i ≤ a.held P k i + if i = a.cpu then c.amount prev else 0 := by
  have hms : (a.charge c).mark_start = a.mark_start := by cases c <;> rfl
  have hgrp : (a.charge c).grp = a.grp := by cases c <;> rfl
  have htotal : (a.charge c).win.total prev ≤ a.win.total prev + c.amount prev := by
    cases c <;> cases prev <;>
      simp [Account.charge, Windows.total, Windows.add_curr, Windows.add_prev, Charge.amount,
        u32_le]
  have hentry : (a.charge c).win.entry prev i
      ≤ a.win.entry prev i + if i = a.cpu then c.amount prev else 0 := by
    by_cases hi : i = a.cpu
    · subst hi
      cases c <;> cases prev <;>
        simp [Account.charge, Windows.entry, Windows.add_curr, Windows.add_prev, Charge.amount,
          u32_le]
    · cases c <;> cases prev <;>
        simp [Account.charge, Windows.entry, Windows.add_curr, Windows.add_prev, hi]
  simp only [Account.held, hms, hk, hgrp, Account.charge_cpu]
  split_ifs with h1 h2 h2
  · exact htotal
  · exact zero_le
  · simpa [h2] using hentry
  · simpa [h2] using hentry

end Share

/-! ## Accounting -/

lemma is_new_task_of_roll {a : Account Cpu} {n : ℕ} {new full : Bool}
    (h : is_new_task (a.roll n new full) = true) : is_new_task a = true := by
  unfold Account.roll at h
  split_ifs at h
  · by_contra hold
    simp only [is_new_task, rollover_task_window, decide_eq_true_eq] at h hold
    split_ifs at h
    omega
  · exact h

section

variable [DecidableEq Cpu]

lemma is_new_task_charge (a : Account Cpu) (c : Charge) :
    is_new_task (a.charge c) = is_new_task a := by
  cases c <;> rfl

lemma balance_rolled_charge {b : Busy} {m : ℕ}
    (hb : b.window_start = windowStart P m) (is_curr : Bool) (a : Account Cpu) (c : Charge)
    (grp nt : Bool) {k : ℕ} {prev : Bool} (hk : place m k = some prev) :
    (rolled_charge P b is_curr a c).1.balance P grp nt k
      = (b.roll P is_curr (newWindow b a) (fullWindow b a)).balance P grp nt k +
        if a.grp = grp then due nt (is_new_task (rolled_charge P b is_curr a c).2) (c.amount prev)
        else 0 := by
  have hb1 : (b.roll P is_curr (newWindow b a) (fullWindow b a)).window_start = windowStart P m :=
    (Busy.roll_window_start ..).trans hb
  have hb2 : (rolled_charge P b is_curr a c).1.window_start = windowStart P m :=
    (congrArg Prod.fst (window_rolled_charge P b is_curr a c)).trans hb
  rw [balance_eq P hb1 hk, balance_eq P hb2 hk]
  have hnew : is_new_task (rolled_charge P b is_curr a c).2
      = is_new_task (a.roll b.prev_window_size (newWindow b a) (fullWindow b a)) :=
    is_new_task_charge _ c
  rw [hnew]
  have hcount := counter_charge ((b.roll P is_curr (newWindow b a) (fullWindow b a)).cpu_time a.grp)
    (is_new_task (a.roll b.prev_window_size (newWindow b a) (fullWindow b a))) c nt prev
  by_cases hgrp : a.grp = grp
  · subst hgrp
    rw [if_pos rfl, ← hcount]
    simp only [rolled_charge, Account.roll_grp, Busy.set_cpu_time, Busy.cpu_time]
    split_ifs <;> rfl
  · cases hg : a.grp <;> cases grp <;>
      simp_all [rolled_charge, Busy.set_cpu_time, Busy.cpu_time]

lemma held_rolled_charge_le {b : Busy} {a : Account Cpu} {m wallclock : ℕ}
    (hb : b.window = (windowStart P m, P.sched_ravg_window)) (hidle : a.is_idle = false)
    (ha : 0 < a.mark_start) (hle : windowOf P a.mark_start ≤ m) (hm : windowOf P wallclock = m)
    (is_curr : Bool) (c : Charge) (k : ℕ) (i : Cpu) :
    Account.held P k i { (rolled_charge P b is_curr a c).2 with mark_start := wallclock }
      ≤ a.held P k i + if i = a.cpu then inPlace (place m k) c.amount else 0 := by
  set a1 := { a.roll b.prev_window_size _ _ with
    mark_start := wallclock } with ha1
  have hcharge : { (rolled_charge P b is_curr a c).2 with mark_start := wallclock }
      = a1.charge c := by cases c <;> rfl
  have hcpu : a1.cpu = a.cpu := Account.roll_cpu ..
  have hroll : a1.held P k i ≤ a.held P k i := held_roll_le P hb hidle ha hle hm k i
  rw [hcharge]
  cases hk : place m k with
  | none =>
    have hzero : (a1.charge c).held P k i = 0 := by
      have hms : (a1.charge c).mark_start = wallclock := by cases c <;> rfl
      simp [Account.held, hms, hm, hk]
    rw [hzero]
    exact zero_le
  | some prev =>
    have hplace : place (windowOf P a1.mark_start) k = some prev := by rw [ha1, ← hk, ← hm]
    have h := held_charge_le P a1 c i hplace
    rw [hcpu] at h
    exact h.trans (Nat.add_le_add_right hroll _)

end

/-! ## Debts -/

def LoadSubtractions.amount (ls : LoadSubtractions) (nt : Bool) : ℕ :=
  if nt then ls.new_subs else ls.subs

/-- What is still to be taken out. -/
def LoadSubtractions.owed (P : Params Cpu) (nt : Bool) (k : ℕ) (ls : LoadSubtractions) : ℕ :=
  if ls.window_start + P.sched_ravg_window = windowStart P k then ls.amount nt else 0

/-- What is still to be taken off the counters of a queue. Group counters are never
subtracted from later. -/
def Busy.owed (P : Params Cpu) (grp nt : Bool) (k : ℕ) (b : Busy) : ℕ :=
  if grp then 0 else (b.load_subs false).owed P nt k + (b.load_subs true).owed P nt k

def Busy.SubsWithin (P : Params Cpu) (t : ℕ) (b : Busy) : Prop :=
  ∀ j nt, (b.load_subs j).amount nt ≠ 0 →
    ∃ k, (b.load_subs j).window_start = windowStart P k ∧ windowStart P k < t

variable {P} {t : ℕ}

lemma Busy.SubsWithin.mono {t' : ℕ} (h : b.SubsWithin P t)
    (ht : t ≤ t') : b.SubsWithin P t' := fun j nt hj =>
  let ⟨k, hk, hlt⟩ := h j nt hj
  ⟨k, hk, hlt.trans_le ht⟩

lemma Busy.SubsWithin.congr {b' : Busy} (h : b.SubsWithin P t)
    (hload : b'.load_subs = b.load_subs) : b'.SubsWithin P t := by
  intro j nt hj
  rw [hload] at hj ⊢
  exact h j nt hj

lemma note_subtraction_spec (b : Busy) (ws : ℕ) {load : ℕ} (hload : load ≠ 0) (new_task : Bool) :
    ∃ j subs new_subs,
      (b.load_subs j = ⟨ws, subs, new_subs⟩ ∨ subs = 0 ∧ new_subs = 0) ∧
      note_subtraction b ws load new_task = { b with
        load_subs := Function.update b.load_subs j
          ⟨ws, subs + load, new_subs + if new_task then load else 0⟩ } := by
  unfold note_subtraction get_subtraction_index
  rw [if_neg hload]
  by_cases h1 : ws = (b.load_subs false).window_start
  · rw [if_pos h1]
    exact ⟨false, (b.load_subs false).subs, (b.load_subs false).new_subs, .inl (by rw [h1]),
      by rw [h1]; rfl⟩
  rw [if_neg h1]
  by_cases h2 : ws = (b.load_subs true).window_start
  · rw [if_pos h2]
    exact ⟨true, (b.load_subs true).subs, (b.load_subs true).new_subs, .inl (by rw [h2]),
      by rw [h2]; rfl⟩
  rw [if_neg h2]
  refine ⟨decide ((b.load_subs true).window_start < (b.load_subs false).window_start), 0, 0,
    .inr ⟨rfl, rfl⟩, ?_⟩
  simp [update_rq_load_subtractions, create_subtraction_entry]

lemma subsWithin_note_subtraction (h : b.SubsWithin P t) (ws load : ℕ) (new_task : Bool)
    (hws : load ≠ 0 → ∃ k, ws = windowStart P k ∧ windowStart P k < t) :
    (note_subtraction b ws load new_task).SubsWithin P t := by
  by_cases hload : load = 0
  · simpa [note_subtraction, hload] using h
  · obtain ⟨j, subs, new_subs, -, hnote⟩ := note_subtraction_spec b ws hload new_task
    rw [hnote]
    intro j' nt hj
    rcases eq_or_ne j' j with rfl | hne
    · simpa using hws hload
    · simpa [hne] using h j' nt (by simpa [hne] using hj)

lemma subsWithin_apply_subtraction (h : b.SubsWithin P t)
    (j : Bool) : (apply_subtraction b j).SubsWithin P t := by
  intro j' nt hj
  rcases eq_or_ne j' j with rfl | hne
  · cases nt <;> simp [apply_subtraction, LoadSubtractions.amount] at hj
  · simpa [apply_subtraction, hne] using h j' nt (by simpa [apply_subtraction, hne] using hj)

variable (P)

lemma owed_update (b : Busy) (j : Bool) (ls : LoadSubtractions) (nt : Bool) (k : ℕ) :
    Busy.owed P false nt k { b with load_subs := Function.update b.load_subs j ls }
      + (b.load_subs j).owed P nt k = b.owed P false nt k + ls.owed P nt k := by
  cases j <;> simp [Busy.owed] <;> omega

lemma owed_note_subtraction_le (b : Busy) (ws load : ℕ) (new_task nt : Bool)
    (k : ℕ) : (note_subtraction b ws load new_task).owed P false nt k ≤ b.owed P false nt k +
      if ws + P.sched_ravg_window = windowStart P k then due nt new_task load else 0 := by
  by_cases hload : load = 0
  · simp [note_subtraction, hload]
  · obtain ⟨j, subs, new_subs, hold, hnote⟩ := note_subtraction_spec b ws hload new_task
    have hupdate := owed_update P b j
      ⟨ws, subs + load, new_subs + if new_task then load else 0⟩ nt k
    have hentry : LoadSubtractions.owed P nt k
          ⟨ws, subs + load, new_subs + if new_task then load else 0⟩
        = LoadSubtractions.owed P nt k ⟨ws, subs, new_subs⟩ +
          if ws + P.sched_ravg_window = windowStart P k then due nt new_task load else 0 := by
      unfold LoadSubtractions.owed
      split_ifs <;> cases nt <;> cases new_task <;> simp_all [LoadSubtractions.amount, due]
    rw [hnote]
    rcases hold with hold | ⟨rfl, rfl⟩
    · rw [hold, hentry] at hupdate
      omega
    · have hzero : LoadSubtractions.owed P nt k ⟨ws, 0, 0⟩ = 0 := by
        cases nt <;> simp [LoadSubtractions.owed, LoadSubtractions.amount]
      omega

/-- **Taking a noted amount off.** -/
theorem balance_apply_subtraction
    (hb : b.window = (windowStart P m, P.sched_ravg_window)) (ht : t ≤ windowStart P (m + 1))
    (hsubs : b.SubsWithin P t) (j nt : Bool) (hk : m ≤ k) :
    b.balance P false nt k - (b.load_subs j).owed P nt k
      ≤ (apply_subtraction b j).balance P false nt k := by
  have hws : b.window_start = windowStart P m := congrArg Prod.fst hb
  have hsize : b.prev_window_size = P.sched_ravg_window := congrArg Prod.snd hb
  have hws' : (apply_subtraction b j).window_start = windowStart P m := hws
  have hcount : ∀ prev, (b.cpu_time false).counter nt prev
      - ((apply_subtraction b j).cpu_time false).counter nt prev
      = if (b.load_subs j).window_start = windowStart P m then
          if prev then 0 else ((b.load_subs j).amount nt : ℤ)
        else if (b.load_subs j).window_start
            = sub64 (windowStart P m) P.sched_ravg_window then
          if prev then ((b.load_subs j).amount nt : ℤ) else 0
        else 0 := by
    intro prev
    simp only [apply_subtraction, Busy.cpu_time, hws, hsize]
    split_ifs <;> cases nt <;> cases prev <;>
      simp_all [RunnableSums.counter, LoadSubtractions.amount]
  rcases place_cases hk with rfl | rfl | hfar
  · rw [balance_eq P hws (place_curr m), balance_eq P hws' (place_curr m)]
    have h := hcount false
    have hlabel : (b.load_subs j).window_start + P.sched_ravg_window = windowStart P (m + 1) ↔
        (b.load_subs j).window_start = windowStart P m := by rw [windowStart_succ]; omega
    simp only [LoadSubtractions.owed, hlabel]
    split_ifs at h ⊢ <;> simp_all <;> omega
  · rw [balance_eq P hws (place_prev k), balance_eq P hws' (place_prev k)]
    have h := hcount true
    simp only [↓reduceIte] at h
    -- what is applied here has been noted against the window that has just ended
    have hlabel : (b.load_subs j).window_start ≠ windowStart P k →
        (b.load_subs j).window_start = sub64 (windowStart P k) P.sched_ravg_window →
        (b.load_subs j).amount nt ≠ 0 →
        (b.load_subs j).window_start + P.sched_ravg_window = windowStart P k := by
      intro hne hsub hamount
      obtain ⟨k', hk', hlt⟩ := hsubs j nt hamount
      have hkk : k' < k := lt_of_le_of_ne
        (Nat.lt_succ_iff.mp ((windowStart_lt P).mp (hlt.trans_le ht)))
        (by rintro rfl; exact hne hk')
      have hle : P.sched_ravg_window ≤ windowStart P k := by
        have h1 : windowStart P 0 + P.sched_ravg_window ≤ windowStart P k := by
          rw [← windowStart_succ, ← not_lt, windowStart_lt]
          omega
        omega
      rw [hsub, sub64_of_le hle]
      omega
    unfold LoadSubtractions.owed
    by_cases hl : (b.load_subs j).window_start + P.sched_ravg_window = windowStart P k
    · rw [if_pos hl]
      split_ifs at h <;> omega
    · split_ifs at h with h1 h2
      · omega
      · omega
      · omega
  · rw [balance_eq_zero P hws (place_eq_none (.inr hfar)),
      balance_eq_zero P hws' (place_eq_none (.inr hfar))]
    omega

lemma owed_apply_subtraction (b : Busy) (j nt : Bool) (k : ℕ) :
    (apply_subtraction b j).owed P false nt k + (b.load_subs j).owed P nt k
      = b.owed P false nt k := by
  have hupdate := owed_update P b j { b.load_subs j with subs := 0, new_subs := 0 } nt k
  have hzero : LoadSubtractions.owed P nt k
      { b.load_subs j with subs := 0, new_subs := 0 } = 0 := by
    cases nt <;> simp [LoadSubtractions.owed, LoadSubtractions.amount]
  rw [hzero] at hupdate
  exact hupdate

/-- **Paying debts.** -/
theorem account_load_subtractions_spec
    (hb : b.window = (windowStart P m, P.sched_ravg_window)) (ht : t ≤ windowStart P (m + 1))
    (hsubs : b.SubsWithin P t) (S : Bool → ℕ → ℤ) (hS : ∀ nt k, 0 ≤ S nt k)
    (hcov : ∀ nt k, m ≤ k → S nt k + b.owed P false nt k ≤ b.balance P false nt k) :
    (∀ nt k, m ≤ k → S nt k + (account_load_subtractions b).owed P false nt k
      ≤ (account_load_subtractions b).balance P false nt k) ∧
    (account_load_subtractions b).SubsWithin P t ∧
    (account_load_subtractions b).underflow = b.underflow := by
  set b1 := apply_subtraction b false with hb1
  set b2 := apply_subtraction b1 true with hb2
  have hsubs1 : b1.SubsWithin P t := subsWithin_apply_subtraction hsubs false
  have hcov2 : ∀ nt k, m ≤ k → S nt k + b2.owed P false nt k ≤ b2.balance P false nt k := by
    intro nt k hk
    have h1 := balance_apply_subtraction P hb ht hsubs false nt hk
    have h2 := balance_apply_subtraction P (b := b1) hb ht hsubs1 true nt hk
    have h3 := owed_apply_subtraction P b false nt k
    have h4 := owed_apply_subtraction P b1 true nt k
    have := hcov nt k hk
    rw [← hb1] at h1 h3
    rw [← hb2] at h2 h4
    omega
  have hpos : ∀ nt prev, 0 ≤ b2.time.counter nt prev := by
    intro nt prev
    have hws : b2.window_start = windowStart P m := congrArg Prod.fst hb
    obtain ⟨k, hk, hmk⟩ : ∃ k, place m k = some prev ∧ m ≤ k := by
      cases prev
      · exact ⟨m + 1, place_curr m, Nat.le_succ m⟩
      · exact ⟨m, place_prev m, le_refl m⟩
    have hcov := hcov2 nt k hmk
    rw [balance_eq P hws hk] at hcov
    have := hS nt k
    change 0 ≤ (b2.cpu_time false).counter nt prev
    omega
  refine ⟨hcov2, subsWithin_apply_subtraction hsubs1 true, ?_⟩
  have hcheck : (decide (b2.time.prev_runnable_sum < 0) || decide (b2.time.curr_runnable_sum < 0) ||
      decide (b2.time.nt_prev_runnable_sum < 0) || decide (b2.time.nt_curr_runnable_sum < 0))
      = false := by
    have h1 := hpos false false
    have h2 := hpos false true
    have h3 := hpos true false
    have h4 := hpos true true
    simp only [RunnableSums.counter] at h1 h2 h3 h4
    simp [h1, h2, h3, h4]
  have hunder : (account_load_subtractions b).underflow = (b2.underflow || _) := rfl
  rw [hunder, hcheck, Bool.or_false]
  rfl

/-! ## Moves -/

lemma note_subtraction_eq (b : Busy) (ws load : ℕ) (new_task : Bool) :
    ∃ subs, note_subtraction b ws load new_task = { b with load_subs := subs } := by
  by_cases hload : load = 0
  · exact ⟨b.load_subs, if_pos hload⟩
  · obtain ⟨j, subs, new_subs, -, hnote⟩ := note_subtraction_spec b ws hload new_task
    exact ⟨_, hnote⟩

lemma balance_set_of_ne (b : Busy) {grp grp' : Bool} (h : grp' ≠ grp)
    (t : RunnableSums) (nt : Bool) (k : ℕ) :
    (b.set_cpu_time grp t).balance P grp' nt k = b.balance P grp' nt k :=
  balance_congr P (Busy.window_set_cpu_time ..) (b.cpu_time_set_cpu_time_of_ne h t)

@[simp] lemma owed_set_cpu_time (b : Busy) (grp grp' : Bool)
    (t : RunnableSums) (nt : Bool) (k : ℕ) :
    (b.set_cpu_time grp t).owed P grp' nt k = b.owed P grp' nt k := by
  cases grp <;> rfl

@[simp] lemma Busy.load_subs_set_cpu_time (b : Busy) (grp : Bool) (t : RunnableSums) :
    (b.set_cpu_time grp t).load_subs = b.load_subs := by
  cases grp <;> rfl

@[simp] lemma Busy.underflow_set_cpu_time (b : Busy) (grp : Bool) (t : RunnableSums) :
    (b.set_cpu_time grp t).underflow = b.underflow := by
  cases grp <;> rfl

variable {b : Busy} {m : ℕ}

section

variable (hb : b.window_start = windowStart P m)
include hb

lemma balance_set {grp nt : Bool} {t : RunnableSums} {w : Bool → ℕ} {c : ℕ → ℤ} (hc : c 0 = 0)
    (ht : ∀ prev, t.counter nt prev = (b.cpu_time grp).counter nt prev + c (w prev)) (k : ℕ) :
    (b.set_cpu_time grp t).balance P grp nt k
      = b.balance P grp nt k + c (inPlace (place m k) w) := by
  have hb' : (b.set_cpu_time grp t).window_start = windowStart P m :=
    (congrArg Prod.fst (Busy.window_set_cpu_time ..)).trans hb
  cases hk : place m k with
  | none => simp [balance_eq_zero P hb hk, balance_eq_zero P hb' hk, inPlace, hc]
  | some prev =>
    rw [balance_eq P hb hk, balance_eq P hb' hk, Busy.cpu_time_set_cpu_time, ht]
    rfl

lemma balance_take (grp new_task : Bool) (w : Bool → ℕ) (nt : Bool) (k : ℕ) :
    (b.set_cpu_time grp ((b.cpu_time grp).take new_task (w false) (w true))).balance P grp nt k
      = b.balance P grp nt k - due nt new_task (inPlace (place m k) w) :=
  balance_set P hb (c := fun n => -(due nt new_task n : ℤ)) (by simp) (counter_take _ _ w nt) k

lemma balance_give (grp new_task : Bool) (w : Bool → ℕ) (nt : Bool) (k : ℕ) :
    (b.set_cpu_time grp ((b.cpu_time grp).give new_task (w false) (w true))).balance P grp nt k
      = b.balance P grp nt k + due nt new_task (inPlace (place m k) w) :=
  balance_set P hb (c := fun n => due nt new_task n) (by simp) (counter_give _ _ w nt) k

end

/-- **Turning a share into a debt**, at a CPU whose lock is not held: what is noted against
the two windows of a task in window number `m`. -/
theorem owed_note_both_le (b : Busy) (w : Bool → ℕ)
    (hfirst : m = 0 → w true = 0) (new_task nt : Bool) (k : ℕ) :
    (note_subtraction (note_subtraction b (windowStart P m) (w false) new_task)
        (sub64 (windowStart P m) P.sched_ravg_window) (w true) new_task).owed P false nt k
      ≤ b.owed P false nt k + due nt new_task (inPlace (place m k) w) := by
  set b1 := note_subtraction b _ _ new_task with hb1
  have hcurr : windowStart P m + P.sched_ravg_window = windowStart P k ↔ k = m + 1 := by
    rw [← windowStart_succ, windowStart_inj, eq_comm]
  have h1 : b1.owed P false nt k
      ≤ b.owed P false nt k + if k = m + 1 then due nt new_task (w false) else 0 := by
    simpa only [hcurr] using owed_note_subtraction_le P b (windowStart P m) _ new_task nt k
  have h2 : (note_subtraction b1 (sub64 (windowStart P m) P.sched_ravg_window) (w true)
      new_task).owed P false nt k
      ≤ b1.owed P false nt k + if k = m then due nt new_task (w true) else 0 := by
    rcases eq_zero_or_pos m with hm | hpos
    · -- in the first window there is nothing to note against the one before
      simp [hfirst hm, note_subtraction]
    · obtain ⟨m', rfl⟩ : ∃ m', m = m' + 1 := ⟨m - 1, by omega⟩
      have hprev : sub64 (windowStart P (m' + 1)) P.sched_ravg_window + P.sched_ravg_window
          = windowStart P k ↔ k = m' + 1 := by
        rw [windowStart_succ, sub64_of_le (Nat.le_add_left _ _), Nat.add_sub_cancel,
          ← windowStart_succ, windowStart_inj, eq_comm]
      simpa only [hprev] using owed_note_subtraction_le P b1
        (sub64 (windowStart P (m' + 1)) P.sched_ravg_window) _ new_task nt k
  have hplace : due nt new_task (inPlace (place m k) w)
      = (if k = m + 1 then due nt new_task (w false) else 0)
        + if k = m then due nt new_task (w true) else 0 := by
    unfold inPlace place
    split_ifs with h h'
    · omega
    all_goals simp
  omega

lemma subsWithin_note_both {m t : ℕ} (h : b.SubsWithin P t)
    (w : Bool → ℕ) (hfirst : m = 0 → w true = 0)
    (hw : ∀ prev k, place m k = some prev → w prev ≠ 0 →
      windowStart P k < t + P.sched_ravg_window) (new_task : Bool) :
    (note_subtraction (note_subtraction b (windowStart P m) (w false) new_task)
      (sub64 (windowStart P m) P.sched_ravg_window) (w true) new_task).SubsWithin P t := by
  refine subsWithin_note_subtraction (subsWithin_note_subtraction h _ _ _ fun h0 => ?_) _ _ _
    fun h0 => ?_
  · have hlt := hw false _ (place_curr m) h0
    rw [windowStart_succ] at hlt
    exact ⟨m, rfl, by omega⟩
  · obtain ⟨m', rfl⟩ : ∃ m', m = m' + 1 :=
      ⟨m - 1, by have : m ≠ 0 := fun hm => h0 (hfirst hm); omega⟩
    have hlt := hw true _ (place_prev _) h0
    rw [windowStart_succ] at hlt ⊢
    exact ⟨m', by rw [sub64_of_le (Nat.le_add_left _ _), Nat.add_sub_cancel], by omega⟩

@[simp] lemma balance_note_subtraction (b : Busy) (ws load : ℕ) (new_task grp nt : Bool) (k : ℕ) :
    (note_subtraction b ws load new_task).balance P grp nt k = b.balance P grp nt k := by
  obtain ⟨f, hnote⟩ := note_subtraction_eq b ws load new_task
  rw [hnote]
  rfl

@[simp] lemma underflow_note_subtraction (b : Busy) (ws load : ℕ) (new_task : Bool) :
    (note_subtraction b ws load new_task).underflow = b.underflow := by
  obtain ⟨f, hnote⟩ := note_subtraction_eq b ws load new_task
  rw [hnote]

@[simp] lemma balance_check (b : Busy) (x grp nt : Bool) (k : ℕ) :
    (b.check x).balance P grp nt k = b.balance P grp nt k := rfl

@[simp] lemma owed_check (b : Busy) (x grp nt : Bool) (k : ℕ) :
    (b.check x).owed P grp nt k = b.owed P grp nt k := rfl

@[simp] lemma owed_grp (b : Busy) (nt : Bool) (k : ℕ) : b.owed P true nt k = 0 := rfl

section

variable [DecidableEq Cpu] {a : Account Cpu}

lemma held_of_rq (hgrp : a.grp = false) (k : ℕ) (i : Cpu) :
    a.held P k i = inPlace (place (windowOf P a.mark_start) k) fun prev => a.win.entry prev i := by
  unfold Account.held inPlace
  cases place (windowOf P a.mark_start) k <;> simp [hgrp]

lemma held_of_grp (hgrp : a.grp = true) (k : ℕ) (i : Cpu) :
    a.held P k i = if i = a.cpu then inPlace (place (windowOf P a.mark_start) k) a.win.total
      else 0 := by
  unfold Account.held inPlace
  cases place (windowOf P a.mark_start) k <;> simp [hgrp]

lemma held_leave (bs : Cpu → Busy) {new_cpu : Cpu}
    (hgrp : a.grp = false) (hdomain : same_freq_domain P new_cpu a.cpu = false) (k : ℕ) (i : Cpu) :
    Account.held P k i { (migrate_windows P bs a new_cpu).2 with cpu := new_cpu } =
      if i = a.cpu then 0
      else if i = new_cpu then inPlace (place (windowOf P a.mark_start) k) a.win.total
      else if cluster_sibling P a.cpu i then 0
      else a.held P k i := by
  rw [migrate_windows_acct_of_leave P bs hgrp hdomain, held_of_rq P hgrp,
    held_of_rq P (by exact hgrp)]
  cases place (windowOf P a.mark_start) k with
  | none => simp [inPlace]
  | some prev =>
    by_cases hi : i = a.cpu
    · cases prev <;> simp [inPlace, Windows.entry, hi]
    · by_cases hnew : i = new_cpu
      · subst hnew
        cases prev <;>
          simp [inPlace, Windows.entry, Windows.total, hi, cluster_sibling, hdomain]
      · cases prev <;> simp [inPlace, Windows.entry, hi, hnew]

lemma held_transfer (bs : Cpu → Busy) (a : Account Cpu) (add : Bool) (k : ℕ)
    (i : Cpu) : Account.held P k i { (transfer_windows P bs a add).2 with grp := add } =
      if i = a.cpu then inPlace (place (windowOf P a.mark_start) k) a.win.total else 0 := by
  cases add with
  | true =>
    rw [held_of_grp P (by rfl)]
    rfl
  | false =>
    rw [held_of_rq P (by rfl)]
    change inPlace (place (windowOf P a.mark_start) k) _ = _
    cases place (windowOf P a.mark_start) k with
    | none => simp [inPlace]
    | some prev =>
      cases prev <;> by_cases hi : i = a.cpu <;>
        simp [transfer_windows, inPlace, Windows.entry, Windows.total, hi]

end

end KernelExtra.Walt
