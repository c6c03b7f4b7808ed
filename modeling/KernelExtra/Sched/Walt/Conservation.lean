/-
Busy time is conserved: no underflow check of WALT ever fires.

`Conserved` says that for every CPU, every window that is still kept and each of the four kinds of
counter, what the tasks may take away and what is noted for later is covered by the counter.
Rollovers are the one place where a balance can be dropped, and there timing has to say that nobody
has a share in it.
-/
import KernelExtra.Sched.Walt.Ledger

open KernelExtra.Tally

namespace KernelExtra.Walt

open Function

variable {Cpu Tid : Type} [Fintype Tid] [DecidableEq Cpu]

/-! ## The invariant -/

def View.shares (P : Params Cpu) (v : View Cpu Tid) (grp nt : Bool) (k : ℕ) (i : Cpu) : ℤ :=
  tally (fun a => (a.share P grp nt k i : ℤ)) v.acct

structure Conserved (P : Params Cpu) (v : View Cpu Tid) : Prop where
  covered : ∀ grp nt i k, windowOf P (v.mark i) ≤ k →
    v.shares P grp nt k i + (v.busy i).owed P grp nt k ≤ (v.busy i).balance P grp nt k
  /-- who holds part of a window has been accounted on that CPU after the window began -/
  time : ∀ p, (v.acct p).is_idle = false → ∀ k i, (v.acct p).held P k i ≠ 0 →
    windowStart P k < v.mark i + P.sched_ravg_window
  subs : ∀ i, (v.busy i).SubsWithin P (v.mark i)
  no_underflow : ∀ i, (v.busy i).underflow = false

omit [Fintype Tid] in
lemma Clocked.lt_of_held {P : Params Cpu} {v : View Cpu Tid} (hc : Clocked P v) {p : Tid}
    (hidle : (v.acct p).is_idle = false) {k : ℕ} {i : Cpu} (h : (v.acct p).held P k i ≠ 0) :
    windowStart P k < (v.acct p).mark_start + P.sched_ravg_window := by
  by_contra hlt
  refine h (held_eq_zero_of_empty P i fun prev hprev => hc.empty_of_ahead hidle ?_)
  rw [← place_eq_some hprev]
  omega

namespace Conserved

variable {P : Params Cpu} {v : View Cpu Tid}

lemma of_boot {s : State Cpu Tid} (hboot : Boot P s) : Conserved P s.view := by
  have hheld : ∀ p k i, (s.view.acct p).held P k i = 0 := fun p k i =>
    held_eq_zero_of_empty P i fun prev _ => by
      cases prev <;> simp [State.view, hboot.win p, Windows.Empty, Windows.total, Windows.entry,
        Windows.zero]
  have hamount : ∀ i j nt, ((s.view.busy i).load_subs j).amount nt = 0 := by
    intro i j nt
    cases nt <;> simp [State.view, hboot.load_subs, LoadSubtractions.amount]
  refine ⟨fun grp nt i k _ => ?_, fun p _ k i h => absurd (hheld p k i) h,
    fun i j nt h => absurd (hamount i j nt) h, hboot.underflow⟩
  have hshares : s.view.shares P grp nt k i = 0 :=
    Finset.sum_eq_zero fun p _ => by simp [share_eq_zero_of_held P (hheld p k i)]
  have howed : (s.view.busy i).owed P grp nt k = 0 := by
    simp [Busy.owed, LoadSubtractions.owed, hamount]
  have hbalance : (s.view.busy i).balance P grp nt k = 0 := by
    unfold Busy.balance
    split
    · rfl
    · cases grp <;> cases nt <;> rename_i prev _ <;> cases prev <;>
        simp [Busy.cpu_time, State.view, hboot.time, hboot.grp_time, RunnableSums.zero,
          RunnableSums.counter]
  rw [hshares, howed, hbalance]
  rfl

lemma nothing_ahead (h : Conserved P v) (grp nt : Bool) {i : Cpu} {k : ℕ}
    (hk : v.mark i + P.sched_ravg_window ≤ windowStart P k) :
    v.shares P grp nt k i + (v.busy i).owed P grp nt k = 0 := by
  have hshare : ∀ p, (v.acct p).share P grp nt k i = 0 := by
    intro p
    by_cases hidle : (v.acct p).is_idle = false
    · by_contra hne
      have hheld := fun h0 => hne (share_eq_zero_of_held P h0 grp nt)
      have := h.time p hidle k i hheld
      omega
    · exact share_eq_zero_of_idle P (by simpa using hidle) grp nt k i
  have howed : ∀ j, ((v.busy i).load_subs j).owed P nt k = 0 := by
    intro j
    by_contra hne
    unfold LoadSubtractions.owed at hne
    split_ifs at hne with hlabel
    · obtain ⟨k', hk', hlt⟩ := h.subs i j nt hne
      omega
    · exact hne rfl
  have hshares : v.shares P grp nt k i = 0 :=
    Finset.sum_eq_zero fun p _ => by simp [hshare p]
  simp [hshares, Busy.owed, howed]

lemma share_le_counter (hc : Clocked P v) (h : Conserved P v) (p : Tid) (grp nt : Bool) {i : Cpu}
    {k : ℕ} {prev : Bool} (hk : place (windowOf P (v.mark i)) k = some prev) :
    ((v.acct p).share P grp nt k i : ℤ) ≤ ((v.busy i).cpu_time grp).counter nt prev := by
  have hle : windowOf P (v.mark i) ≤ k := by
    unfold place at hk
    split_ifs at hk <;> omega
  have hcov := h.covered grp nt i k hle
  have hshare : _ ≤ v.shares P grp nt k i :=
    le_tally (φ := fun a : Account Cpu => (a.share P grp nt k i : ℤ))
      (fun _ => Int.natCast_nonneg _) p
  rw [balance_eq P (hc.window i) hk] at hcov
  omega

variable {p : Tid} {a : Account Cpu} {wallclock : ℕ}

/-- **No check fires** when a task's time is taken off a queue in the same window. -/
theorem underflows_of_held (hc : Clocked P v) (h : Conserved P v) {i : Cpu}
    (hidle : (v.acct p).is_idle = false)
    (hmark : windowOf P (v.mark i) = windowOf P (v.acct p).mark_start) (w : Bool → ℕ)
    (hw : ∀ k, (v.acct p).held P k i = inPlace (place (windowOf P (v.acct p).mark_start) k) w) :
    ((v.busy i).cpu_time (v.acct p).grp).underflows (is_new_task (v.acct p)) (w false) (w true)
      = false := by
  refine underflows_eq_false fun nt prev => ?_
  obtain ⟨k, hk⟩ : ∃ k, place (windowOf P (v.mark i)) k = some prev := by
    cases prev
    · exact ⟨_, place_curr _⟩
    · exact ⟨_, place_prev _⟩
  have hle := share_le_counter hc h p (v.acct p).grp nt hk
  rw [share_eq_due P hidle rfl, hw, ← hmark, hk] at hle
  exact hle

variable [DecidableEq Tid]

/-- **The rule for changes of one task.** `B` is what covers the shares and debts so far, on each
CPU. -/
theorem of_update (h : Conserved P v) {v' : View Cpu Tid}
    (hacct : v'.acct = update v.acct p a) (hmark : ∀ i, v.mark i ≤ v'.mark i)
    (hcover : ∀ grp nt i k, windowOf P (v'.mark i) ≤ k → ∃ B : ℤ,
      v.shares P grp nt k i + (v.busy i).owed P grp nt k ≤ B ∧
      (a.share P grp nt k i : ℤ) + (v'.busy i).owed P grp nt k + B
        ≤ (v.acct p).share P grp nt k i + (v.busy i).owed P grp nt k
          + (v'.busy i).balance P grp nt k) (htime : a.is_idle = false → ∀ k i, a.held P k i ≠ 0 →
      windowStart P k < v'.mark i + P.sched_ravg_window)
    (hsubs : ∀ i, (v'.busy i).SubsWithin P (v'.mark i))
    (hunder : ∀ i, (v'.busy i).underflow = false) : Conserved P v' := by
  refine ⟨fun grp nt i k hk => ?_, fun q hidle k i hne => ?_, hsubs, hunder⟩
  · obtain ⟨B, hB, hle⟩ := hcover grp nt i k hk
    have hsum := tally_update_add (fun a => (a.share P grp nt k i : ℤ)) v.acct p a
    rw [← hacct] at hsum
    change v'.shares P grp nt k i + _ = v.shares P grp nt k i + _ at hsum
    omega
  · rw [hacct] at hidle hne
    rcases eq_or_ne q p with rfl | hqp
    · rw [update_self] at hidle hne
      exact htime hidle k i hne
    · rw [update_of_ne hqp] at hidle hne
      have := h.time q hidle k i hne
      have := hmark i
      omega

/-! ## Accounting -/

section

variable (hc : Clocked P v) (h : Conserved P v)
include hc h

/-- **The rollover.** -/
theorem covered_roll (hclock : v.Reads P (v.acct p).cpu wallclock)
    (hcurr : v.curr (v.acct p).cpu = p ∨ v.mark (v.acct p).cpu = wallclock) (grp nt : Bool)
    {k : ℕ} (hk : windowOf P wallclock ≤ k) :
    let b := (v.busy (v.acct p).cpu).advance P wallclock
    v.shares P grp nt k (v.acct p).cpu + (v.busy (v.acct p).cpu).owed P grp nt k
      ≤ (b.roll P (v.running p) (newWindow b (v.acct p)) (fullWindow b (v.acct p))).balance
          P grp nt k := by
  intro b
  set i := (v.acct p).cpu
  have hmm : windowOf P (v.mark i) ≤ windowOf P wallclock :=
    windowOf_mono P ((hc.clock i).trans hclock.1)
  have hcov := h.covered grp nt i k (hmm.trans hk)
  have hb : b = { v.busy i with window_start := windowStart P (windowOf P wallclock) } :=
    hc.advance hclock
  by_cases hp : v.curr i = p
  · have hrun : v.running p = true := decide_eq_true hp
    have hms : v.mark i = (v.acct p).mark_start := by rw [View.mark, hp]
    have hroll := balance_roll P (Prod.ext (hc.window i) (hc.size i))
      (hms ▸ hc.mark_pos i) (congrArg (windowOf P) hms.symm) hmm grp nt hk
    rw [hrun, hb]
    rcases hroll with heq | ⟨heq, hahead⟩
    · rw [heq]
      exact hcov
    · rw [heq, h.nothing_ahead grp nt (hms ▸ hahead)]
  · have hrun : v.running p = false := decide_eq_false hp
    have hwindow : b.window = (v.busy i).window := by
      rw [hb, Busy.window, Busy.window, hc.window i, hcurr.resolve_left hp]
    have hbal : (b.roll P (v.running p) (newWindow b (v.acct p)) (fullWindow b (v.acct p))).balance
        P grp nt k = (v.busy i).balance P grp nt k := by
      rw [hrun]
      exact balance_congr P hwindow (by rw [hb]; rfl)
    rw [hbal]
    exact hcov

lemma set (hclock : v.Reads P (v.acct p).cpu wallclock)
    (hcurr : v.curr (v.acct p).cpu = p ∨ v.mark (v.acct p).cpu = wallclock)
    {b : Busy} (hc' : Clocked P (v.set p wallclock b a))
    (hload : b.load_subs = (v.busy (v.acct p).cpu).load_subs)
    (hunder : b.underflow = (v.busy (v.acct p).cpu).underflow)
    (hidle : a.is_idle = (v.acct p).is_idle) (hgrp : a.grp = (v.acct p).grp)
    (hnew : is_new_task a = true → is_new_task (v.acct p) = true)
    (hheld : a.is_idle = false → ∀ k i, i ≠ (v.acct p).cpu →
      Account.held P k i { a with mark_start := wallclock } ≤ (v.acct p).held P k i)
    (hself : ∀ grp nt k, windowOf P wallclock ≤ k →
      let b0 := (v.busy (v.acct p).cpu).advance P wallclock
      (Account.share P grp nt k (v.acct p).cpu { a with mark_start := wallclock } : ℤ) +
          (b0.roll P (v.running p) (newWindow b0 (v.acct p)) (fullWindow b0 (v.acct p))).balance
            P grp nt k
        ≤ (v.acct p).share P grp nt k (v.acct p).cpu + b.balance P grp nt k) :
    Conserved P (v.set p wallclock b a) := by
  have hmself := View.mark_set_self hcurr b a
  have hbself : (v.set p wallclock b a).busy (v.acct p).cpu = b := update_self ..
  have hbother : ∀ i, i ≠ (v.acct p).cpu → (v.set p wallclock b a).busy i = v.busy i :=
    fun i hi => update_of_ne hi ..
  have hmark : ∀ i, v.mark i ≤ (v.set p wallclock b a).mark i := by
    intro i
    rcases eq_or_ne i (v.acct p).cpu with rfl | hi
    · rw [hmself]
      exact (hc.clock _).trans hclock.1
    · rw [hc.mark_set_of_ne wallclock b a hi]
  have howed : ∀ grp nt k, b.owed P grp nt k = (v.busy (v.acct p).cpu).owed P grp nt k := by
    intro grp nt k
    simp only [Busy.owed, hload]
  refine h.of_update rfl hmark (fun grp nt i k hk => ?_) (fun hi k i hne => ?_)
    (fun i => ?_) (fun i => ?_)
  · rcases eq_or_ne i (v.acct p).cpu with rfl | hi
    · rw [hmself] at hk
      refine ⟨_, covered_roll hc h hclock hcurr grp nt hk, ?_⟩
      have := hself grp nt k hk
      rw [hbself, howed]
      omega
    · rw [hc.mark_set_of_ne wallclock b a hi] at hk
      refine ⟨_, h.covered grp nt i k hk, ?_⟩
      have hle : Account.share P grp nt k i { a with mark_start := wallclock }
          ≤ (v.acct p).share P grp nt k i := by
        by_cases hi' : a.is_idle = false
        · refine share_le P ?_ ?_ ?_ (hheld hi' k i hi) grp nt
          exacts [hidle, hgrp, hnew]
        · rw [share_eq_zero_of_idle P (by simpa using hi')]
          exact Nat.zero_le _
      rw [hbother i hi]
      omega
  · rcases eq_or_ne i (v.acct p).cpu with rfl | hi'
    · have hacct : (v.set p wallclock b a).acct p = { a with mark_start := wallclock } :=
        update_self ..
      have hlt := hc'.lt_of_held (by rw [hacct]; exact hi) (by rw [hacct]; exact hne)
      rw [hacct] at hlt
      rwa [hmself]
    · rw [hc.mark_set_of_ne wallclock b a hi']
      refine h.time p (hidle ▸ hi) k i fun h0 => hne ?_
      exact Nat.eq_zero_of_le_zero (h0 ▸ hheld hi k i hi')
  · rcases eq_or_ne i (v.acct p).cpu with rfl | hi
    · rw [hbself]
      exact ((h.subs (v.acct p).cpu).mono (hmark _)).congr hload
    · rw [hbother i hi]
      exact (h.subs i).mono (hmark i)
  · rcases eq_or_ne i (v.acct p).cpu with rfl | hi
    · rw [hbself, hunder]
      exact h.no_underflow _
    · rw [hbother i hi]
      exact h.no_underflow i

lemma account {c : Charge}
    (hlegal : Legal P v (.account p wallclock c)) (hx : (Act.account p wallclock c).Timed P v) :
    Conserved P (act P v (.account p wallclock c)) := by
  have hidle := hlegal.1
  have hne0 := hlegal.2.1
  set b := (v.busy (v.acct p).cpu).advance P wallclock with hb
  have hbase : b = { v.busy (v.acct p).cpu with
      window_start := windowStart P (windowOf P wallclock) } := hc.advance hx.1
  have hwindow : b.window = (windowStart P (windowOf P wallclock), P.sched_ravg_window) :=
    hc.window_advance hx.1
  have hws : b.window_start = windowStart P (windowOf P wallclock) := congrArg Prod.fst hwindow
  set r := rolled_charge P b (v.running p) _ c with hr
  have hheld := held_rolled_charge_le P hwindow hidle (pos_of_ne_zero hne0)
    (windowOf_mono P ((hc.mark_start_le_clock p).trans hx.1.1)) rfl (v.running p) c
  have hidle' : r.2.is_idle = (v.acct p).is_idle := is_idle_rolled_charge ..
  have hgrp' : r.2.grp = (v.acct p).grp := grp_rolled_charge ..
  have hnew' : is_new_task r.2 = true → is_new_task (v.acct p) = true := fun hnew =>
    is_new_task_of_roll ((is_new_task_charge _ c).symm.trans hnew)
  refine set hc h hx.1 hx.2 (hc.act hlegal hx) ?_ ?_ hidle' hgrp' hnew' (fun _ k i hi => ?_)
    (fun grp nt k hk => ?_)
  · rw [load_subs_rolled_charge, ← hb, hbase]
  · rw [underflow_rolled_charge, ← hb, hbase]
  · simpa [hi] using hheld k i
  · dsimp only
    rw [← hb, ← hr]
    set a : Account Cpu := { r.2 with mark_start := wallclock } with ha
    have hk' := hheld k (v.acct p).cpu
    rw [if_pos rfl] at hk'
    cases hplace : place (windowOf P wallclock) k with
    | none =>
      have hzero : a.held P k (v.acct p).cpu = 0 := by simp [Account.held, ha, hplace]
      have hr1 : r.1.window_start = windowStart P (windowOf P wallclock) :=
        (congrArg Prod.fst (window_rolled_charge ..)).trans hws
      rw [share_eq_zero_of_held P hzero, balance_eq_zero P hr1 hplace,
        balance_eq_zero P ((Busy.roll_window_start ..).trans hws) hplace]
      omega
    | some prev =>
      rw [hplace] at hk'
      rw [balance_rolled_charge P hws (v.running p) (v.acct p) c grp nt hplace]
      by_cases hgrp : (v.acct p).grp = grp
      · have hdue : due nt (is_new_task a) (a.held P k (v.acct p).cpu)
            ≤ due nt (is_new_task (v.acct p)) ((v.acct p).held P k (v.acct p).cpu)
              + due nt (is_new_task a) (c.amount prev) := due_le hnew' hk'
        rw [if_pos hgrp, share_eq_due P (a := a) (hidle'.trans hidle) (hgrp'.trans hgrp),
          share_eq_due P hidle hgrp, ← hr, show is_new_task r.2 = is_new_task a from rfl]
        omega
      · rw [if_neg hgrp, share_eq_zero P (a := a) (hgrp'.trans_ne hgrp)]
        omega

lemma idle {b : Busy} {w : Windows Cpu} (hlegal : Legal P v (.idle p wallclock b w))
    (hx : (Act.idle p wallclock b w).Timed P v) :
    Conserved P (act P v (.idle p wallclock b w)) := by
  obtain ⟨hidle, hgrown⟩ := id hlegal
  have hbase := hc.advance hx.1
  have hnoshare : ∀ (a : Account Cpu), a.is_idle = (v.acct p).is_idle → ¬ a.is_idle = false :=
    fun a ha => by simp [ha, hidle]
  refine set hc h hx.1 hx.2 (hc.act hlegal hx) ?_ ?_ rfl rfl (fun hnew => hnew)
    (fun hi => absurd hi (hnoshare _ rfl)) (fun grp nt k _ => ?_)
  · rw [hgrown.same, Busy.load_subs_roll, hbase]
  · rw [hgrown.same, Busy.underflow_roll, hbase]
  · rw [share_eq_zero_of_idle P (by exact hidle)]
    have := balance_idleGrown P hgrown grp nt k
    omega

/-- A task is marked for the first time. -/
lemma fresh (hlegal : Legal P v (.fresh p wallclock)) (hx : (Act.fresh p wallclock).Timed P v) :
    Conserved P (act P v (.fresh p wallclock)) := by
  have hbase := hc.advance hx.1
  have hheld : (v.acct p).is_idle = false → ∀ k i,
      Account.held P k i { v.acct p with mark_start := wallclock } = 0 := by
    intro hidle k i
    refine held_eq_zero_of_empty P i fun prev _ => ?_
    cases prev
    · exact hc.emptyCurr_of_fresh hidle hlegal
    · exact hc.emptyPrev_of_fresh hidle hlegal
  have hrun : v.running p = false := decide_eq_false (hc.not_running_of_fresh hlegal)
  refine set hc h hx.1 hx.2 (hc.act hlegal hx) ?_ ?_ rfl rfl (fun hnew => hnew)
    (fun hi k i _ => (hheld hi k i).trans_le (Nat.zero_le _)) (fun grp nt k _ => ?_)
  · rw [hbase]
  · rw [hbase]
  · have hzero : Account.share P grp nt k (v.acct p).cpu
        { v.acct p with mark_start := wallclock } = 0 := by
      by_cases hidle : (v.acct p).is_idle = false
      · exact share_eq_zero_of_held P (hheld hidle k _) grp nt
      · exact share_eq_zero_of_idle P (by simpa using hidle) grp nt k _
    rw [hzero, hrun]
    simp [Busy.roll]

end

/-! ## Moves -/

/-- **The rule for moves**, which change no mark. `mid` are the queues afterwards, up to
their top tasks. -/
theorem of_move (h : Conserved P v) {busy : Cpu → Busy} (mid : Cpu → Busy)
    (hc' : Clocked P { v with busy, acct := update v.acct p a })
    (hbusy : ∀ i, ∃ top, busy i = { mid i with top := top })
    (hms : a.mark_start = (v.acct p).mark_start) (hidle : a.is_idle = (v.acct p).is_idle)
    (hcover : ∀ grp nt i k, (a.share P grp nt k i : ℤ) + (mid i).owed P grp nt k
        + (v.busy i).balance P grp nt k
      ≤ (v.acct p).share P grp nt k i + (v.busy i).owed P grp nt k + (mid i).balance P grp nt k)
    (hheld : ∀ k i, i ≠ a.cpu → a.held P k i ≤ (v.acct p).held P k i)
    (hsubs : ∀ i, (mid i).SubsWithin P (v.mark i))
    (hunder : ∀ i, (mid i).underflow = false) :
    Conserved P { v with busy, acct := update v.acct p a } := by
  have hmark := View.mark_move hms busy
  refine h.of_update rfl (fun i => (hmark i).ge) (fun grp nt i k hk => ?_)
    (fun hi k i hne => ?_) (fun i => ?_) (fun i => ?_)
  · rw [hmark] at hk
    obtain ⟨top, htop⟩ := hbusy i
    refine ⟨_, h.covered grp nt i k hk, ?_⟩
    dsimp only
    rw [htop]
    exact hcover grp nt i k
  · rcases eq_or_ne i a.cpu with rfl | hia
    · have hlt := hc'.lt_of_held (p := p)
      have hle := hc'.mark_le p
      simp only [update_self] at hlt hle
      exact (hlt hi hne).trans_le (Nat.add_le_add_right hle _)
    · rw [hmark]
      refine h.time p (hidle ▸ hi) k i fun h0 => hne ?_
      exact Nat.eq_zero_of_le_zero (h0 ▸ hheld k i hia)
  · obtain ⟨top, htop⟩ := hbusy i
    rw [hmark]
    dsimp only
    rw [htop]
    exact hsubs i
  · obtain ⟨top, htop⟩ := hbusy i
    dsimp only
    rw [htop]
    exact hunder i

variable (hc : Clocked P v) (h : Conserved P v)
include hc h

variable {new_cpu : Cpu}

section

variable (hx : (Act.migrate p new_cpu).Timed P v)
include hx

lemma migrate_grp (hgrp : (v.acct p).grp = true) : Conserved P (act P v (.migrate p new_cpu)) := by
  have hc' := hc.act (x := .migrate p new_cpu) trivial hx
  obtain ⟨hidle, -, hne, hms, hmark, hmark'⟩ := hx
  simp only [act] at hc' ⊢
  rw [migrate_windows_acct_of_stay P v.busy (Or.inl hgrp)] at hc' ⊢
  have hheld : ∀ k i, Account.held P k i { v.acct p with cpu := new_cpu } = if i = new_cpu then
      inPlace (place (windowOf P v.clock) k) (v.acct p).win.total else 0 := by
    intro k i
    rw [held_of_grp P (by exact hgrp), ← hms]
  have hheld' : ∀ k i, (v.acct p).held P k i = if i = (v.acct p).cpu then
      inPlace (place (windowOf P v.clock) k) (v.acct p).win.total else 0 := by
    intro k i
    rw [held_of_grp P hgrp, ← hms]
  have hsrc := hc.window (v.acct p).cpu
  have hdst := hc.window new_cpu
  rw [hmark] at hsrc
  rw [hmark'] at hdst
  have hmid := group_migration_fixup_busy v.busy (v.acct p) hne (is_new_task (v.acct p))
  refine h.of_move (group_migration_fixup v.busy (v.acct p) new_cpu (v.acct p).cpu
    (is_new_task (v.acct p))) hc' (fun i => ?_) rfl rfl (fun grp nt i k => ?_) (fun k i hi => ?_)
    (fun i => ?_) (fun i => ?_)
  · obtain ⟨top, htop⟩ := migrate_windows_busy P v.busy _ new_cpu i
    rw [if_pos hgrp] at htop
    exact ⟨top, htop⟩
  · rw [hmid]
    cases grp with
    | false =>
      rw [share_eq_zero P (by simp [hgrp]), share_eq_zero P (by simp [hgrp])]
      split_ifs <;> simp [balance_set_of_ne]
    | true =>
      rw [share_eq_due P (by exact hidle) (by exact hgrp), share_eq_due P hidle hgrp, hheld, hheld']
      change (due nt (is_new_task (v.acct p)) _ : ℤ) + _ + _ ≤ _
      by_cases hi : i = (v.acct p).cpu
      · subst hi
        rw [if_neg hne.symm, if_pos rfl, if_pos rfl, owed_set_cpu_time, due_zero,
          balance_take P hsrc]
        omega
      · rw [if_neg hi, if_neg hi, due_zero]
        by_cases hnew : i = new_cpu
        · subst hnew
          rw [if_pos rfl, if_pos rfl, owed_set_cpu_time, balance_give P hdst]
          omega
        · rw [if_neg hnew, if_neg hnew, due_zero]
  · rw [hheld, if_neg hi]
    exact Nat.zero_le _
  · rw [hmid]
    split_ifs
    · exact (h.subs i).congr (Busy.load_subs_set_cpu_time ..)
    · exact (h.subs i).congr (Busy.load_subs_set_cpu_time ..)
    · exact h.subs i
  · rw [hmid]
    split_ifs <;> simp [h.no_underflow]

lemma migrate_stay (hgrp : (v.acct p).grp = false)
    (hdomain : same_freq_domain P new_cpu (v.acct p).cpu = true) :
    Conserved P (act P v (.migrate p new_cpu)) := by
  have hc' := hc.act (x := .migrate p new_cpu) trivial hx
  simp only [act] at hc' ⊢
  rw [migrate_windows_acct_of_stay P v.busy (Or.inr hdomain)] at hc' ⊢
  have hheld : ∀ k i, Account.held P k i { v.acct p with cpu := new_cpu } =
      (v.acct p).held P k i := by
    intro k i
    rw [held_of_rq P hgrp, held_of_rq P (by exact hgrp)]
  refine h.of_move v.busy hc' (fun i => ?_) rfl rfl (fun grp nt i k => ?_)
    (fun k i _ => (hheld k i).le) h.subs h.no_underflow
  · obtain ⟨top, htop⟩ := migrate_windows_busy P v.busy (v.acct p) new_cpu i
    simp only [hgrp, Bool.false_eq_true, if_false, inter_cluster_migration_fixup, hdomain,
      if_true] at htop
    exact ⟨top, htop⟩
  · have hshare : Account.share P grp nt k i { v.acct p with cpu := new_cpu }
        = (v.acct p).share P grp nt k i := by
      simp only [Account.share, hheld]
      rfl
    rw [hshare]

/-- Leaving its cluster a task takes its total along. -/
lemma migrate_leave (hgrp : (v.acct p).grp = false)
    (hdomain : same_freq_domain P new_cpu (v.acct p).cpu = false) :
    Conserved P (act P v (.migrate p new_cpu)) := by
  have hc' := hc.act (x := .migrate p new_cpu) trivial hx
  obtain ⟨hidle, -, -, hms, hmark, hmark'⟩ := hx
  obtain ⟨c, d, hacct⟩ := migrate_windows_acct P v.busy (v.acct p) new_cpu
  have hheld := held_leave P v.busy hgrp hdomain
  set m := windowOf P (v.acct p).mark_start with hm
  have hsrc : (v.busy (v.acct p).cpu).window_start = windowStart P m := by
    rw [hc.window, hmark, hm, hms]
  have hdst : (v.busy new_cpu).window_start = windowStart P m := by
    rw [hc.window, hmark', hm, hms]
  have hfirst : ∀ i, m = 0 → (v.acct p).win.entry true i = 0 := fun i h0 =>
    (hc.first p hidle h0).2 i
  have hunder := underflows_of_held hc h hidle (by rw [hmark, ← hms])
    (fun prev => (v.acct p).win.entry prev (v.acct p).cpu) (fun k => held_of_rq P hgrp k _)
  rw [hgrp] at hunder
  have hmid := inter_cluster_migration_fixup_busy P v.busy (v.acct p) (is_new_task (v.acct p))
    hdomain
  rw [hsrc, hc.size] at hmid
  refine h.of_move (inter_cluster_migration_fixup P v.busy (v.acct p) new_cpu (v.acct p).cpu
    (is_new_task (v.acct p))).1 hc' (fun i => ?_) (by rw [hacct]) (by rw [hacct])
    (fun grp nt i k => ?_) (fun k i hi => ?_) (fun i => ?_) (fun i => ?_)
  · obtain ⟨top, htop⟩ := migrate_windows_busy P v.busy (v.acct p) new_cpu i
    rw [if_neg (by simp [hgrp])] at htop
    exact ⟨top, htop⟩
  · rw [hmid]
    cases grp with
    | true =>
      rw [share_eq_zero P (by simp [hacct, hgrp]), share_eq_zero P (by simp [hgrp])]
      split_ifs <;> simp [balance_set_of_ne]
    | false =>
      rw [share_eq_due P (by rw [hacct]; exact hidle) (by rw [hacct]; exact hgrp),
        share_eq_due P hidle hgrp, hheld, hacct]
      change (due nt (is_new_task (v.acct p)) _ : ℤ) + _ + _ ≤ _
      by_cases hi : i = (v.acct p).cpu
      · subst hi
        rw [if_pos rfl, if_pos rfl, due_zero, owed_check, owed_set_cpu_time, balance_check,
          balance_take P hsrc _ _ fun prev => (v.acct p).win.entry prev (v.acct p).cpu,
          held_of_rq P hgrp, ← hm]
        omega
      rw [if_neg hi, if_neg hi]
      by_cases hnew : i = new_cpu
      · subst hnew
        rw [if_pos rfl, if_pos rfl, owed_set_cpu_time, balance_give P hdst]
        omega
      rw [if_neg hnew, if_neg hnew]
      by_cases hsib : cluster_sibling P (v.acct p).cpu i = true
      · rw [if_pos hsib, if_pos hsib, due_zero, balance_note_subtraction, balance_note_subtraction,
          held_of_rq P hgrp, ← hm]
        have := owed_note_both_le P (v.busy i) (fun prev => (v.acct p).win.entry prev i) (hfirst i)
          (is_new_task (v.acct p)) nt k
        omega
      · rw [if_neg hsib, if_neg hsib]
  · rw [hheld]
    split_ifs
    · exact Nat.zero_le _
    · exact Nat.zero_le _
    · exact le_refl _
  · rw [hmid]
    split_ifs
    · exact (h.subs i).congr (Busy.load_subs_set_cpu_time ..)
    · exact (h.subs i).congr (Busy.load_subs_set_cpu_time ..)
    · refine subsWithin_note_both P (h.subs i) (fun prev => (v.acct p).win.entry prev i) (hfirst i)
        (fun prev k hk hne0 => h.time p hidle k i ?_) _
      rw [held_of_rq P hgrp, hk]
      exact hne0
    · exact h.subs i
  · rw [hmid]
    split_ifs with hi
    · subst hi
      simp [Busy.check, Busy.underflow_set_cpu_time, h.no_underflow, hunder]
    all_goals simp [h.no_underflow]

end

/-- **A change of group** moves a task's time between the two kinds of counter on its CPU. -/
theorem transfer {add : Bool}
    (hx : (Act.transfer p add).Timed P v) : Conserved P (act P v (.transfer p add)) := by
  have hc' := hc.act (x := .transfer p add) trivial hx
  obtain ⟨hidle, hgrp, hms, hmark⟩ := hx
  obtain ⟨c, d, hacct⟩ := transfer_windows_acct P v.busy (v.acct p) add
  have hheld := held_transfer P v.busy (v.acct p) add
  set m := windowOf P (v.acct p).mark_start with hm
  have hsrc : (v.busy (v.acct p).cpu).window_start = windowStart P m := by
    rw [hc.window, hmark, hm, hms]
  have hfirst : ∀ i, m = 0 → (v.acct p).win.entry true i = 0 := fun i h0 =>
    (hc.first p hidle h0).2 i
  have htaken : ∀ k, (v.acct p).held P k (v.acct p).cpu
      = inPlace (place m k) ((v.acct p).taken add) := by
    intro k
    cases add with
    | true => rw [held_of_rq P hgrp]; rfl
    | false => rw [held_of_grp P hgrp, if_pos rfl]; rfl
  have hunder := underflows_of_held hc h hidle (by rw [hmark, ← hms]) _ htaken
  rw [hgrp] at hunder
  have hother : add ≠ !add := by cases add <;> decide
  have hmid := transfer_windows_busy P v.busy (v.acct p) add
  rw [hsrc, hc.size] at hmid
  refine h.of_move (transfer_windows P v.busy (v.acct p) add).1 hc' (fun i => ⟨_, rfl⟩)
    (by rw [hacct]) (by rw [hacct]) (fun grp nt i k => ?_) (fun k i hi => ?_) (fun i => ?_)
    (fun i => ?_)
  · rw [hmid]
    rcases eq_or_ne grp add with rfl | hfam
    · -- what the task gets
      rw [share_eq_due P (by rw [hacct]; exact hidle) (by rfl),
        share_eq_zero P (by rw [hgrp]; exact hother.symm), hheld, hacct]
      change (due nt (is_new_task (v.acct p)) _ : ℤ) + _ + _ ≤ _
      by_cases hi : i = (v.acct p).cpu
      · subst hi
        rw [if_pos rfl, if_pos rfl, owed_set_cpu_time, owed_check, owed_set_cpu_time,
          balance_give P (m := m), balance_check, balance_set_of_ne P _ hother]
        · omega
        · exact (congrArg Prod.fst (Busy.window_set_cpu_time ..)).trans hsrc
      · rw [if_neg hi, if_neg hi, due_zero]
        split_ifs with hsib
        · obtain rfl : grp = true := by simp_all
          simp
        · exact le_refl _
    · -- what the task gives up
      obtain rfl : grp = !add := by cases grp <;> cases add <;> simp_all
      rw [share_eq_zero P (by exact hother), share_eq_due P hidle hgrp]
      by_cases hi : i = (v.acct p).cpu
      · subst hi
        rw [if_pos rfl, owed_set_cpu_time, owed_check, owed_set_cpu_time,
          balance_set_of_ne P _ hother.symm, balance_check, balance_take P hsrc, htaken]
        omega
      · split_ifs with hsib
        · obtain rfl : add = true := by simp_all
          have := owed_note_both_le P (v.busy i) (fun prev => (v.acct p).win.entry prev i)
            (hfirst i) (is_new_task (v.acct p)) nt k
          rw [balance_note_subtraction, balance_note_subtraction, held_of_rq P hgrp, ← hm]
          simp only [Bool.not_true]
          omega
        · omega
  · have hi' : i ≠ (v.acct p).cpu := by simpa [hacct] using hi
    rw [hheld, if_neg hi']
    exact Nat.zero_le _
  · rw [hmid]
    split_ifs with h1 h2
    · exact (h.subs i).congr (by simp [Busy.check])
    · refine subsWithin_note_both P (h.subs i) (fun prev => (v.acct p).win.entry prev i) (hfirst i)
        (fun prev k hk hne0 => h.time p hidle k i ?_) _
      rw [held_of_rq P (by simp_all), hk]
      exact hne0
    · exact h.subs i
  · rw [hmid]
    split_ifs with hi
    · subst hi
      simp [Busy.check, Busy.underflow_set_cpu_time, h.no_underflow, hunder]
    all_goals simp [h.no_underflow]

/-! ## Whole runs -/

omit [DecidableEq Tid] in
lemma subtract (i : Cpu) :
    Conserved P { v with busy := update v.busy i (account_load_subtractions (v.busy i)) } := by
  have ht : v.mark i ≤ windowStart P (windowOf P (v.mark i) + 1) :=
    ((lt_windowStart_iff P (hc.mark_pos i)).mpr (Nat.lt_succ_self _)).le
  obtain ⟨hcov, hsubs, hunder⟩ := account_load_subtractions_spec P
    (Prod.ext (hc.window i) (hc.size i)) ht (h.subs i)
    (fun nt k => v.shares P false nt k i)
    (fun nt k => Finset.sum_nonneg fun _ _ => Int.natCast_nonneg _)
    (fun nt k hk => h.covered false nt i k hk)
  refine ⟨fun grp nt j k hk => ?_, h.time, fun j => ?_, fun j => ?_⟩
  · have hcov' := h.covered grp nt j k hk
    rcases eq_or_ne j i with rfl | hj
    · simp only [update_self]
      cases grp with
      | false => exact hcov nt k hk
      | true => exact hcov'
    · simp only [update_of_ne hj]
      exact hcov'
  · change Busy.SubsWithin P (v.mark j) _
    rcases eq_or_ne j i with rfl | hj
    · simpa using hsubs
    · simpa [hj] using h.subs j
  · rcases eq_or_ne j i with rfl | hj
    · simpa [hunder] using h.no_underflow j
    · simpa [hj] using h.no_underflow j

/-- **Every action that keeps its promises keeps the books.** -/
theorem act {x : Act Cpu Tid} (hlegal : Legal P v x)
    (hx : x.Timed P v) : Conserved P (act P v x) := by
  cases x with
  | stutter => exact h
  | tick p wallclock => exact ⟨h.covered, h.time, h.subs, h.no_underflow⟩
  | fresh p wallclock => exact fresh hc h hlegal hx
  | account p wallclock c => exact account hc h hlegal hx
  | idle p wallclock b w => exact idle hc h hlegal hx
  | migrate p new_cpu =>
    by_cases hgrp : (v.acct p).grp = true
    · exact migrate_grp hc h hx hgrp
    · rw [Bool.not_eq_true] at hgrp
      by_cases hdomain : same_freq_domain P new_cpu (v.acct p).cpu = true
      · exact migrate_stay hc h hx hgrp hdomain
      · exact migrate_leave hc h hx hgrp (by simpa using hdomain)
  | transfer p add => exact transfer hc h hx
  | subtract i => exact subtract hc h i
  | switch i next =>
    have hmark : ∀ j, View.mark { v with curr := update v.curr i next } j = v.mark j :=
      reading_update_of_eq (φ := fun p => (v.acct p).mark_start) hx.2
    refine ⟨fun grp nt j k hk => ?_, fun p hidle k j hne => ?_, fun j => ?_, h.no_underflow⟩
    · exact h.covered grp nt j k (hmark j ▸ hk)
    · exact (h.time p hidle k j hne).trans_eq (by rw [← hmark j]; rfl)
    · exact (h.subs j).mono (hmark j).ge

end Conserved

variable [DecidableEq Tid]

end KernelExtra.Walt
