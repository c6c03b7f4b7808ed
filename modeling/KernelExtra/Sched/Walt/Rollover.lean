/-
The rollover work of WALT, `kernel/sched/walt/walt.c`.

`update_window_start` moves the `window_start` of a CPU forward and hands the old value to
`run_walt_irq_work`, which tries to move the global `walt_irq_work_lastq_ws` from that value to the
new one with a compare-exchange, and queues the work if that succeeds. Between the two calls every
other CPU may take steps.
-/
import KernelExtra.Lib.Run
import KernelExtra.Sched.Walt.BusyTime

namespace KernelExtra.Walt

open Run (exec Ok)
open Function List

/-! ## The two halves of a rollover -/

/-- The clocks of the CPUs, and who rolls the windows over. -/
structure Rollover (Cpu : Type) where
  /-- `rq->wrq.window_start`; `0` until the CPU has come up. -/
  window_start : Cpu → ℕ
  old_window_start : Cpu → Option ℕ
  walt_irq_work_lastq_ws : ℕ
  stored : List ℕ
  queued : List ℕ
  wallclock : ℕ

namespace Rollover

variable {Cpu : Type} [DecidableEq Cpu]

/-- The calls that move a window. -/
inductive Step (Cpu : Type) where
  | set_window_start (c sync : Cpu)
  | update_window_start (c : Cpu) (wallclock : ℕ)
  | run_walt_irq_work (c : Cpu)

def cmpxchg (s : Rollover Cpu) (old new : ℕ) : Rollover Cpu × ℕ :=
  if s.walt_irq_work_lastq_ws = old then
    ({ s with walt_irq_work_lastq_ws := new, stored := s.stored ++ [new] }, old)
  else (s, s.walt_irq_work_lastq_ws)

def irq_work (s : Rollover Cpu) (c : Cpu) (old : ℕ) : Rollover Cpu :=
  if old = s.window_start c then s
  else
    let (s', result) := s.cmpxchg old (s.window_start c)
    if result = old then { s' with queued := s'.queued ++ [s.window_start c] } else s'

def step (sched_ravg_window : ℕ) (s : Rollover Cpu) : Step Cpu → Rollover Cpu
  | .set_window_start c sync =>
    -- a CPU that is up is left alone
    if s.window_start c ≠ 0 then s
    else { s with window_start := update s.window_start c (s.window_start sync) }
  | .update_window_start c wallclock =>
    -- `walt_update_task_ravg` does nothing for a CPU that is not up
    if s.window_start c = 0 then { s with wallclock := wallclock }
    else
      { s with
        window_start := update s.window_start c
          (rolled_window_start sched_ravg_window (s.window_start c) wallclock)
        old_window_start := update s.old_window_start c (some (s.window_start c))
        wallclock := wallclock }
  | .run_walt_irq_work c =>
    match s.old_window_start c with
    | none => s
    | some old =>
      { s.irq_work c old with
        old_window_start := update s.old_window_start c none }

/-- A CPU starts an update only when the exchange of its last one is done, and the clock does not go
back. -/
def InTurn (s : Rollover Cpu) : Step Cpu → Prop
  | .set_window_start _ _ => True
  | .update_window_start c wallclock =>
    s.old_window_start c = none ∧ s.wallclock ≤ wallclock ∧ wallclock < 2 ^ 63
  | .run_walt_irq_work _ => True

def Counted (sched_ravg_window : ℕ) (s : Rollover Cpu) : Step Cpu → Prop
  | .update_window_start c wallclock =>
    (wallclock - s.window_start c) / sched_ravg_window < 2 ^ 31
  | _ => True

instance (s : Rollover Cpu) (a : Step Cpu) : Decidable (s.InTurn a) := by
  cases a <;> unfold InTurn <;> infer_instance

instance (w : ℕ) (s : Rollover Cpu) (a : Step Cpu) : Decidable (s.Counted w a) := by
  cases a <;> unfold Counted <;> infer_instance

/-- After the first `set_window_start`: one CPU stands at the value of the global, no other is
anywhere. -/
structure Boot (s : Rollover Cpu) : Prop where
  first : ∃ c, s.window_start c = s.walt_irq_work_lastq_ws
  others : ∀ c, s.window_start c = 0 ∨ s.window_start c = s.walt_irq_work_lastq_ws
  idle : ∀ c, s.old_window_start c = none
  up : 0 < s.walt_irq_work_lastq_ws
  clock : s.walt_irq_work_lastq_ws ≤ s.wallclock ∧ s.wallclock < 2 ^ 63
  stored : s.stored = []
  queued : s.queued = []

def Holds (s : Rollover Cpu) (c : Cpu) : Prop :=
  s.window_start c = s.walt_irq_work_lastq_ws ∨
    s.old_window_start c = some s.walt_irq_work_lastq_ws

instance (s : Rollover Cpu) (c : Cpu) : Decidable (s.Holds c) := by
  unfold Holds
  infer_instance

/-! ## The count of windows -/

lemma rolled_window_start_mem {w ws wallclock : ℕ} (hws : ws ≤ wallclock)
    (hclk : wallclock < 2 ^ 63) (hcnt : (wallclock - ws) / w < 2 ^ 31) :
    ws ≤ rolled_window_start w ws wallclock ∧
      rolled_window_start w ws wallclock ≤ wallclock := by
  have hle : (wallclock - ws) / w * w ≤ wallclock - ws := Nat.div_mul_le_self _ _
  rw [rolled_window_start_eq hws hclk hcnt]
  split <;> omega

/-! ## What one step does -/

variable {w : ℕ} {s : Rollover Cpu} {a : Step Cpu}

omit [DecidableEq Cpu] in
lemma irq_work_cases (s : Rollover Cpu) (c : Cpu) (old : ℕ) :
    (s.walt_irq_work_lastq_ws = old ∧ old ≠ s.window_start c ∧
      s.irq_work c old = { s with
        walt_irq_work_lastq_ws := s.window_start c
        stored := s.stored ++ [s.window_start c]
        queued := s.queued ++ [s.window_start c] }) ∨
    ((s.walt_irq_work_lastq_ws = old → old = s.window_start c) ∧ s.irq_work c old = s) := by
  unfold irq_work cmpxchg
  by_cases hroll : old = s.window_start c
  · exact .inr ⟨fun _ => hroll, by rw [if_pos hroll]⟩
  by_cases hlast : s.walt_irq_work_lastq_ws = old
  · refine .inl ⟨hlast, hroll, ?_⟩
    simp [hroll, hlast]
  · refine .inr ⟨fun h => absurd h hlast, ?_⟩
    simp [hroll, hlast]

/-- The clock runs forward and does not wrap. -/
structure Timed (s : Rollover Cpu) : Prop where
  clock : ∀ c, s.window_start c ≤ s.wallclock
  bound : s.wallclock < 2 ^ 63
  forward : ∀ c old, s.old_window_start c = some old → old ≤ s.window_start c

lemma Timed.set_window_start (hs : s.Timed) (c sync : Cpu) :
    (s.step w (.set_window_start c sync)).Timed := by
  simp only [step]
  split
  · exact hs
  rename_i h0
  rw [not_not] at h0
  refine { hs with clock := ?_, forward := ?_ }
  · intro d
    by_cases hd : d = c
    · simpa [hd] using hs.clock sync
    · simpa [hd] using hs.clock d
  · intro d old hold
    by_cases hd : d = c
    · -- the CPU was at `0`, so nothing is below what it copies
      have h := hs.forward d old hold
      rw [hd, h0] at h
      omega
    · simpa [hd] using hs.forward d old hold

lemma Timed.update_window_start (hs : s.Timed) (c : Cpu) (wallclock : ℕ)
    (hturn : s.InTurn (.update_window_start c wallclock))
    (hcnt : s.Counted w (.update_window_start c wallclock)) :
    (s.step w (.update_window_start c wallclock)).Timed := by
  obtain ⟨-, hclk, hbound⟩ := hturn
  simp only [step]
  split
  · exact { hs with clock := fun d => (hs.clock d).trans hclk, bound := hbound }
  obtain ⟨hge, hle⟩ := rolled_window_start_mem ((hs.clock c).trans hclk) hbound hcnt
  refine ⟨?_, hbound, ?_⟩
  · intro d
    by_cases hd : d = c
    · simpa [hd] using hle
    · simpa [hd] using (hs.clock d).trans hclk
  · intro d old hold
    by_cases hd : d = c
    · subst hd
      simp only [update_self, Option.some.injEq] at hold ⊢
      omega
    · simp only [update_of_ne hd] at hold ⊢
      exact hs.forward d old hold

lemma Timed.run_walt_irq_work (hs : s.Timed) (c : Cpu) :
    (s.step w (.run_walt_irq_work c)).Timed := by
  simp only [step]
  split
  · exact hs
  rename_i old hold
  have hforward : ∀ d old', update s.old_window_start c none d = some old' →
      old' ≤ s.window_start d := by
    intro d old' h
    by_cases hd : d = c
    · simp [hd] at h
    · exact hs.forward d old' (by simpa [hd] using h)
  rcases s.irq_work_cases c old with ⟨-, -, heq⟩ | ⟨-, heq⟩
  · rw [heq]
    exact { hs with forward := hforward }
  · rw [heq]
    exact { hs with forward := hforward }

lemma Timed.keeps (hs : s.Timed) (hok : s.InTurn a ∧ s.Counted w a) : (s.step w a).Timed := by
  cases a with
  | set_window_start c sync => exact hs.set_window_start c sync
  | update_window_start c wallclock => exact hs.update_window_start c wallclock hok.1 hok.2
  | run_walt_irq_work c => exact hs.run_walt_irq_work c

/-- A step leaves the global alone, or takes it forward and queues the work. -/
inductive Moves (s t : Rollover Cpu) : Prop where
  | stays (last : t.walt_irq_work_lastq_ws = s.walt_irq_work_lastq_ws)
      (stored : t.stored = s.stored) (queued : t.queued = s.queued)
      (holds : ∀ c, s.Holds c → t.Holds c)
  | queues (c : Cpu) (rises : s.walt_irq_work_lastq_ws < t.walt_irq_work_lastq_ws)
      (stored : t.stored = s.stored ++ [t.walt_irq_work_lastq_ws])
      (queued : t.queued = s.queued ++ [t.walt_irq_work_lastq_ws])
      (holds : t.Holds c)

lemma moves_set_window_start (hup : 0 < s.walt_irq_work_lastq_ws) (c sync : Cpu) :
    s.Moves (s.step w (.set_window_start c sync)) := by
  simp only [step]
  split
  · exact .stays rfl rfl rfl fun _ h => h
  refine .stays rfl rfl rfl ?_
  intro d hd
  refine hd.imp_left ?_
  intro hws
  have hdc : d ≠ c := by
    rintro rfl
    omega
  simpa [hdc] using hws

lemma moves_update_window_start (c : Cpu) (wallclock : ℕ)
    (hturn : s.InTurn (.update_window_start c wallclock)) :
    s.Moves (s.step w (.update_window_start c wallclock)) := by
  simp only [step]
  split
  · exact .stays rfl rfl rfl fun _ h => h
  refine .stays rfl rfl rfl ?_
  intro d hd
  by_cases hdc : d = c
  · -- a CPU that stood at the value is now about to exchange it
    subst hdc
    rcases hd with hws | hold
    · exact .inr (by simp [hws])
    · rw [hturn.1] at hold
      cases hold
  · simpa [Holds, hdc] using hd

lemma moves_run_walt_irq_work (ht : s.Timed) (c : Cpu) :
    s.Moves (s.step w (.run_walt_irq_work c)) := by
  simp only [step]
  split
  · exact .stays rfl rfl rfl fun _ h => h
  rename_i old hold
  rcases s.irq_work_cases c old with ⟨hlast, hroll, heq⟩ | ⟨hkeep, heq⟩
  · rw [heq]
    refine .queues c ?_ rfl rfl (.inl rfl)
    have := ht.forward c old hold
    change s.walt_irq_work_lastq_ws < s.window_start c
    omega
  · rw [heq]
    refine .stays rfl rfl rfl ?_
    intro d hd
    by_cases hdc : d = c
    · -- the exchange was not tried: the window start has not left the value
      subst hdc
      rcases hd with hws | hpend
      · exact .inl hws
      · rw [hold, Option.some.injEq] at hpend
        exact .inl ((hkeep hpend.symm).symm.trans hpend)
    · simpa [Holds, hdc] using hd

lemma Timed.moves (ht : s.Timed) (hup : 0 < s.walt_irq_work_lastq_ws) (hturn : s.InTurn a) :
    s.Moves (s.step w a) := by
  cases a with
  | set_window_start c sync => exact moves_set_window_start hup c sync
  | update_window_start c wallclock => exact moves_update_window_start c wallclock hturn
  | run_walt_irq_work c => exact moves_run_walt_irq_work ht c

/-! ## The chain of exchanges -/

/-- Each window is rolled over once, in order. -/
structure Inv (v : ℕ) (s : Rollover Cpu) : Prop extends s.Timed where
  up : 0 < s.walt_irq_work_lastq_ws
  last : (v :: s.stored).getLast? = some s.walt_irq_work_lastq_ws
  rising : (v :: s.stored).IsChain (· < ·)
  once : s.queued = s.stored
  holder : ∃ c, s.Holds c

omit [DecidableEq Cpu] in
lemma Boot.inv (hs : s.Boot) : s.Inv s.walt_irq_work_lastq_ws where
  clock c := by
    have := hs.others c
    have := hs.clock.1
    omega
  bound := hs.clock.2
  forward c old h := by simp [hs.idle c] at h
  up := hs.up
  last := by simp [hs.stored]
  rising := by simp [hs.stored]
  once := by rw [hs.stored, hs.queued]
  holder := hs.first.imp fun _ h => .inl h

lemma Inv.keeps {v : ℕ} (hs : s.Inv v) (hok : s.InTurn a ∧ s.Counted w a) : (s.step w a).Inv v := by
  have ht := hs.toTimed.keeps hok
  rcases hs.toTimed.moves hs.up hok.1 with
    ⟨hlast, hstored, hqueued, hholds⟩ | ⟨c, hrises, hstored, hqueued, hholds⟩
  · refine ⟨ht, ?_, ?_, ?_, ?_, hs.holder.imp hholds⟩
    · rw [hlast]
      exact hs.up
    · rw [hlast, hstored]
      exact hs.last
    · rw [hstored]
      exact hs.rising
    · rw [hqueued, hstored]
      exact hs.once
  · refine ⟨ht, hs.up.trans hrises, ?_, ?_, ?_, ⟨c, hholds⟩⟩
    · rw [hstored, ← cons_append, getLast?_append]
      rfl
    · rw [hstored, ← cons_append, isChain_append]
      refine ⟨hs.rising, by simp, ?_⟩
      intro x hx y hy
      rw [hs.last] at hx
      simp only [Option.mem_def, Option.some.injEq, head?_cons] at hx hy
      rwa [← hx, ← hy]
    · rw [hqueued, hstored, hs.once]

def Admitted (w : ℕ) : Rollover Cpu → List (Step Cpu) → Prop :=
  Ok (step w) fun s a => s.InTurn a ∧ s.Counted w a

instance (w : ℕ) (s : Rollover Cpu) (l : List (Step Cpu)) : Decidable (Admitted w s l) := by
  unfold Admitted
  infer_instance

lemma Inv.holds_until_queued {v : ℕ} (hs : s.Inv v) {l : List (Step Cpu)}
    (hok : Admitted w s l) {c : Cpu} (hc : s.Holds c) :
    ((exec (step w) s l).Holds c ∧
        (exec (step w) s l).walt_irq_work_lastq_ws = s.walt_irq_work_lastq_ws ∧
        (exec (step w) s l).queued = s.queued) ∨
      ∃ x r, (exec (step w) s l).queued = s.queued ++ x :: r := by
  have key := Ok.inv (I := fun t : Rollover Cpu => t.Inv v ∧
      ((t.Holds c ∧ t.walt_irq_work_lastq_ws = s.walt_irq_work_lastq_ws ∧
        t.queued = s.queued) ∨ ∃ x r, t.queued = s.queued ++ x :: r))
    ?_ ⟨hs, .inl ⟨hc, rfl, rfl⟩⟩ hok
  · exact key.2
  rintro t a ⟨ht, hheld⟩ hok
  refine ⟨ht.keeps hok, ?_⟩
  rcases ht.toTimed.moves ht.up hok.1 with
    ⟨hlast, -, hqueued, hholds⟩ | ⟨d, -, -, hqueued, -⟩
  · rw [hlast, hqueued]
    exact hheld.imp_left fun ⟨h, hrest⟩ => ⟨hholds c h, hrest⟩
  · right
    rw [hqueued]
    rcases hheld with ⟨-, -, hq⟩ | ⟨x, r, hq⟩
    · exact ⟨_, [], by rw [hq]⟩
    · exact ⟨x, _, by rw [hq, append_assoc, cons_append]⟩

lemma run_walt_irq_work_queues {c : Cpu}
    (hpend : s.old_window_start c = some s.walt_irq_work_lastq_ws)
    (hroll : s.window_start c ≠ s.walt_irq_work_lastq_ws) :
    (s.step w (.run_walt_irq_work c)).queued = s.queued ++ [s.window_start c] ∧
      (s.step w (.run_walt_irq_work c)).walt_irq_work_lastq_ws = s.window_start c := by
  simp only [step, hpend]
  rcases s.irq_work_cases c s.walt_irq_work_lastq_ws with ⟨-, -, heq⟩ | ⟨hkeep, -⟩
  · rw [heq]
    exact ⟨rfl, rfl⟩
  · exact absurd (hkeep rfl).symm hroll

/-- **The rollover work is queued once for each value and the chain of exchanges never breaks off.**
-/
theorem rollover_work_queued_once {s₀ : Rollover Cpu} (hboot : s₀.Boot)
    (l : List (Step Cpu)) (hok : Admitted w s₀ l) :
    let s := exec (step w) s₀ l
    (s₀.walt_irq_work_lastq_ws :: s.stored).IsChain (· < ·) ∧
      (s₀.walt_irq_work_lastq_ws :: s.stored).getLast? = some s.walt_irq_work_lastq_ws ∧
      (∀ x, s.queued.count x = if x ∈ s.stored then 1 else 0) ∧
      (∃ c, s.window_start c = s.walt_irq_work_lastq_ws ∨
        s.old_window_start c = some s.walt_irq_work_lastq_ws ∧
          s.window_start c ≠ s.walt_irq_work_lastq_ws) ∧
      ∀ c, s.Holds c → ∀ l', Admitted w s l' →
        let t := exec (step w) s l'
        (∃ x r, t.queued = s.queued ++ x :: r) ∨
          t.queued = s.queued ∧ t.walt_irq_work_lastq_ws = s.walt_irq_work_lastq_ws ∧
            t.Holds c ∧
            (t.old_window_start c = some t.walt_irq_work_lastq_ws →
              t.window_start c ≠ t.walt_irq_work_lastq_ws →
              (t.step w (.run_walt_irq_work c)).queued = t.queued ++ [t.window_start c]) := by
  intro s
  have hs : s.Inv s₀.walt_irq_work_lastq_ws :=
    Ok.inv (fun _ _ hinv hstep => hinv.keeps hstep) hboot.inv hok
  refine ⟨hs.rising, hs.last, ?_, ?_, ?_⟩
  · intro x
    have hnodup : s.stored.Nodup :=
      ((isChain_iff_pairwise.mp hs.rising).of_cons).imp fun h => h.ne
    rw [hs.once]
    by_cases hx : x ∈ s.stored
    · rw [if_pos hx, count_eq_one_of_mem hnodup hx]
    · rw [if_neg hx, count_eq_zero_of_not_mem hx]
  · obtain ⟨c, hc⟩ := hs.holder
    refine ⟨c, ?_⟩
    by_cases hws : s.window_start c = s.walt_irq_work_lastq_ws
    · exact .inl hws
    · exact .inr ⟨hc.resolve_left hws, hws⟩
  · intro c hc l' hok' t
    rcases hs.holds_until_queued hok' hc with ⟨hholds, hlast, hqueued⟩ | hmore
    · right
      exact ⟨hqueued, hlast, hholds, fun hpend hroll => (run_walt_irq_work_queues hpend hroll).1⟩
    · exact .inl hmore

def two_cpus : Rollover (Fin 2) where
  window_start _ := 1
  old_window_start _ := none
  walt_irq_work_lastq_ws := 1
  stored := []
  queued := []
  wallclock := 5

lemma two_cpus_boot : two_cpus.Boot where
  first := ⟨0, rfl⟩
  others _ := .inr rfl
  idle _ := rfl
  up := by decide
  clock := by decide
  stored := rfl
  queued := rfl

theorem rollover_work_of_race :
    two_cpus.Boot ∧
      (exec (step 10) two_cpus
        [.update_window_start 0 12, .update_window_start 1 35, .run_walt_irq_work 1,
          .run_walt_irq_work 0]).queued = [31] ∧
      (∃ c, (exec (step 10) two_cpus
        [.update_window_start 0 12, .update_window_start 1 35, .run_walt_irq_work 1,
          .run_walt_irq_work 0]).Holds c) := by
  refine ⟨two_cpus_boot, by decide +kernel, ?_⟩
  have h := (rollover_work_queued_once (w := 10) two_cpus_boot
    [.update_window_start 0 12, .update_window_start 1 35, .run_walt_irq_work 1,
      .run_walt_irq_work 0] (by decide +kernel)).2.2.2.1
  exact h.imp fun c hc => hc.imp_right And.left

/-- CPU 1 exchanges the value before CPU 0 does; and a count of windows that is negative as an `int`
moves a window start backwards. -/
theorem next_rollover_overtaken :
    (let l : List (Step (Fin 2)) := [.update_window_start 0 11, .run_walt_irq_work 0]
     let l' : List (Step (Fin 2)) :=
      [.update_window_start 1 11, .run_walt_irq_work 1,
        .update_window_start 1 21, .run_walt_irq_work 1]
     let next : List (Step (Fin 2)) := [.update_window_start 0 21, .run_walt_irq_work 0]
     let s := exec (step 10) two_cpus l
     let t := exec (step 10) s l'
     let u := exec (step 10) t next
     Ok (step 10) InTurn two_cpus (l ++ l' ++ next) ∧
      (∀ c, s.Holds c ↔ c = 0) ∧ s.old_window_start 0 = none ∧
      t.window_start 0 = s.window_start 0 ∧ t.window_start 0 < u.window_start 0 ∧
      u.queued = t.queued) ∧
    (let l : List (Step (Fin 2)) :=
      [.update_window_start 0 101, .run_walt_irq_work 0,
        .update_window_start 0 (101 + 10 * (2 ^ 32 - 5)), .run_walt_irq_work 0]
     Ok (step 10) InTurn two_cpus l ∧
      (exec (step 10) two_cpus l).stored = [101, 51]) := by
  decide +kernel

end Rollover

end KernelExtra.Walt
