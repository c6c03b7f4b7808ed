/-
How the windows of a task split over the CPUs.

Four pieces of code write a window and its share on each CPU, and none of them recomputes the sum.
Two are right only because a task outside any group has entries in its own cluster only, so the
invariant is about both. The fields are `u32`: a charge that carries a window past `2 ^ 32` is lost
to the window and not to the entries, and `NoWrap` keeps such charges out.
-/
import KernelExtra.Sched.Walt.BusyMachine

open KernelExtra.Tally

namespace KernelExtra.Walt

open Function

variable {Cpu Tid : Type} [Fintype Cpu]

/-! ## One window -/

/-- The entries of one window add up to `total`, and outside any group they lie in the cluster of
`cpu`. -/
structure SplitOf (P : Params Cpu) (grp : Bool) (cpu : Cpu) (total : ℕ) (entry : Cpu → ℕ) :
    Prop where
  sum : total = ∑ i, entry i
  total_lt : total < 2 ^ 32
  within : grp = false → ∀ j, entry j ≠ 0 → P.cluster j = P.cluster cpu

namespace SplitOf

variable {P : Params Cpu} {grp : Bool} {cpu : Cpu} {total : ℕ} {entry : Cpu → ℕ}

lemma zero : SplitOf P grp cpu 0 (fun _ => 0) :=
  ⟨by simp, by decide, fun _ _ hj => absurd rfl hj⟩

lemma sole (htotal : total < 2 ^ 32) (hcpu : entry cpu = total)
    (hother : ∀ j, j ≠ cpu → entry j = 0) : SplitOf P grp cpu total entry := by
  refine ⟨?_, htotal, fun _ j hj => ?_⟩
  · rw [Finset.sum_eq_single cpu (fun j _ hj => hother j hj) (by simp), hcpu]
  · rw [show j = cpu from by_contra fun hne => hj (hother j hne)]

variable (h : SplitOf P grp cpu total entry)
include h

lemma move {new_cpu : Cpu} (hdomain : grp = false → P.cluster cpu = P.cluster new_cpu) :
    SplitOf P grp new_cpu total entry :=
  ⟨h.sum, h.total_lt, fun hgrp j hj => (h.within hgrp j hj).trans (hdomain hgrp)⟩

lemma eq_zero_of_outside (hgrp : grp = false) {j : Cpu}
    (hj : P.cluster j ≠ P.cluster cpu) : entry j = 0 :=
  by_contra fun h0 => hj (h.within hgrp j h0)

/-- The total and one entry grow alike, as long as the total does not wrap. -/
lemma add [DecidableEq Cpu] {delta : ℕ} (hdelta : total + delta < 2 ^ 32) :
    SplitOf P grp cpu (u32 (total + delta))
      (update entry cpu (u32 (entry cpu + delta))) := by
  have hentry : entry cpu ≤ total := by
    rw [h.sum]
    exact Finset.single_le_sum (fun _ _ => Nat.zero_le _) (Finset.mem_univ cpu)
  rw [u32, Nat.mod_eq_of_lt hdelta, u32, Nat.mod_eq_of_lt (by omega)]
  refine ⟨?_, hdelta, fun hgrp j hj => ?_⟩
  · have hsum := tally_update_add id entry cpu (entry cpu + delta)
    have htotal := h.sum
    simp only [tally, id_eq] at hsum
    omega
  · rcases eq_or_ne j cpu with rfl | hne
    · rfl
    · rw [update_of_ne hne] at hj
      exact h.within hgrp j hj

end SplitOf

/-! ## Both windows of a task -/

/-- The windows have room for a charge. -/
def Windows.Takes (w : Windows Cpu) : Charge → Prop
  | .none => True
  | .curr delta => w.curr_window + delta < 2 ^ 32
  | .split before after =>
    w.prev_window + before < 2 ^ 32 ∧ w.curr_window + after < 2 ^ 32

instance (w : Windows Cpu) : (c : Charge) → Decidable (w.Takes c)
  | .none => .isTrue trivial
  | .curr _ => show Decidable (_ < _) from inferInstance
  | .split .. => show Decidable (_ ∧ _) from inferInstance

structure Account.Split (P : Params Cpu) (a : Account Cpu) : Prop where
  curr : SplitOf P a.grp a.cpu a.win.curr_window a.win.curr_window_cpu
  prev : SplitOf P a.grp a.cpu a.win.prev_window a.win.prev_window_cpu

namespace Account.Split

variable {P : Params Cpu} {a : Account Cpu}

lemma roll (h : a.Split P) (n : ℕ) (new full : Bool) : (a.roll n new full).Split P := by
  unfold Account.roll
  split_ifs
  · cases full
    · exact ⟨.zero, h.curr⟩
    · exact ⟨.zero, .zero⟩
  · exact h

variable [DecidableEq Cpu]

variable (h : a.Split P)
include h

lemma charge {c : Charge} (hc : a.win.Takes c) : (a.charge c).Split P := by
  cases c with
  | none => exact h
  | curr delta => exact ⟨h.curr.add hc, h.prev⟩
  | split before after => exact ⟨h.curr.add hc.2, h.prev.add hc.1⟩

/-- **Migration.** -/
theorem migrate_windows (bs : Cpu → Busy) (new_cpu : Cpu) :
    Account.Split P { (migrate_windows P bs a new_cpu).2 with cpu := new_cpu } := by
  by_cases hstay : a.grp = true ∨ same_freq_domain P new_cpu a.cpu = true
  · rw [migrate_windows_acct_of_stay P bs hstay]
    have hdomain : a.grp = false → P.cluster a.cpu = P.cluster new_cpu := fun hgrp =>
      (of_decide_eq_true (hstay.resolve_left (by simp [hgrp]))).symm
    exact ⟨h.curr.move hdomain, h.prev.move hdomain⟩
  · obtain ⟨hgrp, hleave⟩ : a.grp = false ∧ same_freq_domain P new_cpu a.cpu = false := by
      simpa using hstay
    rw [migrate_windows_acct_of_leave P bs hgrp hleave]
    have hdomain : P.cluster new_cpu ≠ P.cluster a.cpu := of_decide_eq_false hleave
    have hkeep : cluster_sibling P a.cpu new_cpu = false := by simp [cluster_sibling, hleave]
    have hne : new_cpu ≠ a.cpu := fun heq => hdomain (by rw [heq])
    -- the siblings and the old CPU are cleared, the rest was zero
    have hsole : ∀ (total : ℕ) (entry : Cpu → ℕ), SplitOf P a.grp a.cpu total entry →
        SplitOf P a.grp new_cpu total fun i => if cluster_sibling P a.cpu i then 0
          else update (update entry new_cpu total) a.cpu 0 i := by
      intro total entry hs
      refine .sole hs.total_lt (by simp [hkeep, hne]) fun j hj => ?_
      by_cases hja : j = a.cpu
      · simp [hja]
      · by_cases hsib : P.cluster j = P.cluster a.cpu
        · simp [cluster_sibling, same_freq_domain, hja, hsib]
        · simp [cluster_sibling, same_freq_domain, hja, hsib, hj, hs.eq_zero_of_outside hgrp hsib]
    exact ⟨hsole _ _ h.curr, hsole _ _ h.prev⟩

/-- **A change of group** leaves one entry, the one of the CPU the task is on. -/
theorem transfer_windows (bs : Cpu → Busy) {add : Bool} (hgrp : a.grp = !add) :
    Account.Split P { (transfer_windows P bs a add).2 with grp := add } := by
  cases add with
  | false =>
    have hsole : ∀ total, total < 2 ^ 32 →
        SplitOf P false a.cpu total (update (fun _ => 0) a.cpu total) := fun total ht =>
      .sole ht (update_self ..) fun j hj => update_of_ne hj ..
    exact ⟨hsole _ h.curr.total_lt, hsole _ h.prev.total_lt⟩
  | true =>
    -- who joins a group was outside any, so the siblings' entries and its own were all
    have hsole : ∀ (total : ℕ) (entry : Cpu → ℕ), SplitOf P a.grp a.cpu total entry →
        SplitOf P true a.cpu total (update
          (fun i => if cluster_sibling P a.cpu i then 0 else entry i) a.cpu total) := by
      intro total entry hs
      refine .sole hs.total_lt (update_self ..) fun j hj => ?_
      rw [update_of_ne hj]
      by_cases hsib : P.cluster j = P.cluster a.cpu
      · simp [cluster_sibling, same_freq_domain, hj, hsib]
      · simp [cluster_sibling, same_freq_domain, hsib, hs.eq_zero_of_outside hgrp hsib]
    exact ⟨hsole _ _ h.curr, hsole _ _ h.prev⟩

end Account.Split

/-! ## All tasks -/

def View.Split (P : Params Cpu) (v : View Cpu Tid) : Prop :=
  ∀ p, (v.acct p).is_idle = false → (v.acct p).Split P

/-- What is charged to a task fits its windows. -/
def Act.NoWrap (P : Params Cpu) (v : View Cpu Tid) : Act Cpu Tid → Prop
  | .account p wallclock c => (v.acct p).is_idle = false → (v.acct p).mark_start ≠ 0 →
    ((v.acct p).aligned ((v.busy (v.acct p).cpu).advance P wallclock)).win.Takes c
  | _ => True

namespace View.Split

variable {P : Params Cpu} {v : View Cpu Tid}

lemma of_boot {s : State Cpu Tid} (hboot : Boot P s) : s.view.Split P := by
  intro p _
  have hwin := hboot.win p
  constructor <;> (simp only [State.view, hwin]; exact .zero)

variable [DecidableEq Tid]

lemma update (h : v.Split P) (p : Tid) (a : Account Cpu)
    (ha : a.is_idle = false → a.Split P) {busy : Cpu → Busy} {curr : Cpu → Tid} {clock : ℕ} :
    View.Split P ⟨busy, curr, update v.acct p a, clock⟩ := by
  intro q hq
  dsimp only at hq ⊢
  rcases eq_or_ne q p with rfl | hne
  · rw [update_self] at hq ⊢
    exact ha hq
  · rw [update_of_ne hne] at hq ⊢
    exact h q hq

lemma act [DecidableEq Cpu] (h : v.Split P) {x : Act Cpu Tid} (hlegal : Legal P v x)
    (hx : x.Grouped v) (hroom : x.NoWrap P v) : (act P v x).Split P := by
  cases x with
  | stutter | tick | subtract | switch => exact h
  | fresh p wallclock =>
    refine h.update p _ fun hp => ?_
    exact ⟨(h p hp).curr, (h p hp).prev⟩
  | account p wallclock c =>
    have hsplit := ((h p hlegal.1).roll ..).charge (hroom hlegal.1 hlegal.2.1)
    refine h.update p _ fun _ => ?_
    exact ⟨hsplit.curr, hsplit.prev⟩
  | idle p wallclock b w =>
    refine h.update p _ fun hp => ?_
    exact absurd (hlegal.1.symm.trans hp) (by decide)
  | migrate p new_cpu =>
    refine h.update p _ fun hp => ?_
    obtain ⟨c, d, hacct⟩ := migrate_windows_acct P v.busy _ new_cpu
    rw [hacct] at hp
    exact (h p hp).migrate_windows v.busy new_cpu
  | transfer p add =>
    refine h.update p _ fun hp => ?_
    obtain ⟨c, d, hacct⟩ := transfer_windows_acct P v.busy _ add
    rw [hacct] at hp
    exact (h p hp).transfer_windows v.busy hx

end View.Split

variable [DecidableEq Cpu] [DecidableEq Tid]

/-- The time an accounting call charges to a task that has a mark does not
carry a window of the task past `2 ^ 32`. -/
def NoWrap (P : Params Cpu) (s : State Cpu Tid) : Step Cpu Tid → Prop
  | .ravg p event wallclock irqtime =>
    (s.task p).acct.is_idle = false → (s.task p).acct.mark_start ≠ 0 →
      ((s.task p).acct.aligned ((s.task_rq p).busy.advance P wallclock)).win.Takes
        (s.charge P p event wallclock irqtime)
  | _ => True

instance (P : Params Cpu) (s : State Cpu Tid) : (a : Step Cpu Tid) → Decidable (NoWrap P s a)
  | .ravg .. => show Decidable (_ → _) from inferInstance
  | .migrate .. | .transfer .. | .account _ | .switch .. | .history .. | .pred_demand ..
  | .enqueue .. | .dequeue .. | .throttle _ | .set_on_rq_throttled .. | .set_policy ..
  | .set_env .. | .set_task .. => .isTrue trivial

omit [Fintype Cpu] in
lemma Refines.noWrap {P : Params Cpu} {s : State Cpu Tid} {a : Step Cpu Tid} {x : Act Cpu Tid}
    (hx : Refines P s a x) (h : NoWrap P s a) : x.NoWrap P s.view := by
  cases x with
  | account p wallclock c =>
    obtain ⟨event, irqtime, rfl, rfl⟩ := hx.charge rfl
    exact h
  | _ => trivial

/-- **Windows are the sums of their entries, over every run** in which no charge wraps a window, for
every task that is not idle. -/
theorem window_split_of_run (P : Params Cpu) (s : State Cpu Tid) (hboot : Boot P s)
    (l : List (Step Cpu Tid)) (hl : Run.Ok (step P) (fun s a => Grouped s a ∧ NoWrap P s a) s l)
    (p : Tid) (hp : ((Run.exec (step P) s l).task p).acct.is_idle = false) :
    let a := ((Run.exec (step P) s l).task p).acct
    a.win.curr_window = ∑ i, a.win.curr_window_cpu i ∧
      a.win.prev_window = ∑ i, a.win.prev_window_cpu i ∧
      (a.grp = false → ∀ i, a.win.curr_window_cpu i ≠ 0 ∨ a.win.prev_window_cpu i ≠ 0 →
        P.cluster i = P.cluster a.cpu) := by
  have hstep : ∀ (s : State Cpu Tid) (a : Step Cpu Tid),
      s.view.Split P → Grouped s a ∧ NoWrap P s a → (step P s a).view.Split P := by
    intro s a hs ha
    obtain ⟨x, hx⟩ := step_refines P s a
    rw [hx.view]
    exact hs.act hx.legal (hx.grouped ha.1) (hx.noWrap ha.2)
  have h := Run.Ok.inv hstep (View.Split.of_boot hboot) hl p hp
  exact ⟨h.curr.sum, h.prev.sum, fun hgrp i hi =>
    hi.elim (h.curr.within hgrp i) (h.prev.within hgrp i)⟩

theorem window_split_of_moved_task : let l : List (Step Bool (Fin 4)) :=
      [.ravg 0 .PUT_PREV_TASK 1 0, .ravg 2 .PICK_NEXT_TASK 1 0, .switch false 2,
        .ravg 2 .TASK_UPDATE 3000001 0, .switch false 0, .migrate 2 true, .transfer 2 true]
    let a := ((Run.exec (step platform) atBoot l).task 2).acct
    a.is_idle = false ∧
      Run.Ok (step platform) (fun s a => Grouped s a ∧ NoWrap platform s a) atBoot l ∧
      a.win.curr_window = 3000000 ∧ a.win.curr_window = ∑ i, a.win.curr_window_cpu i := by
  refine ⟨by decide, by decide, by decide, ?_⟩
  exact (window_split_of_run platform atBoot atBoot_boot _ (by decide) 2 (by decide)).1

/-- A task of a group is charged `2 ^ 31` on each of two CPUs, which are 2048 times as fast as their
scale allows for: the window is back at zero, and the entries are not. -/
theorem wrapped_window_not_sum : let l : List (Step Bool (Fin 4)) :=
      [.set_env false 0 0 2048000, .set_env true 0 0 2048000, .ravg 2 .PICK_NEXT_TASK 1 0,
        .transfer 2 true, .switch false 2, .ravg 2 .TASK_UPDATE (1 + 2 ^ 20) 0, .switch false 0,
        .migrate 2 true, .switch true 2, .ravg 2 .TASK_UPDATE (1 + 2 ^ 21) 0]
    let a := ((Run.exec (step platform) atBoot l).task 2).acct
    Run.Ok (step platform) Grouped atBoot l ∧ a.is_idle = false ∧ a.win.curr_window = 0 ∧
      ∑ i, a.win.curr_window_cpu i = 2 ^ 32 := by
  refine ⟨by decide, by decide, by decide, by decide⟩

end KernelExtra.Walt
