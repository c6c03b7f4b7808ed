/-
Top tasks: the tables count the tasks.

For each of the two windows a queue keeps a table of, the table counts the tasks of the queue by
what they have in *that* window, whether they hold it as their current or as their previous one
(`Tabled`). A charge that carries a `u32` window past 2^32 to exactly zero leaves the task counted;
`KeepsNonzero` excludes that, and nothing more.
-/
import KernelExtra.Sched.Walt.Ledger
import KernelExtra.Sched.Walt.TopTables

open KernelExtra.Tally

namespace KernelExtra.Walt

open Run (exec Ok)
open Function

variable {Cpu Tid : Type}

/-! ## Tasks by window -/

def Account.inWindow (P : Params Cpu) (k : ℕ) (a : Account Cpu) : ℕ :=
  inPlace (place (windowOf P a.mark_start) k) a.win.total

lemma inWindow_label (P : Params Cpu) (a : Account Cpu) (prev : Bool) :
    a.inWindow P (label (windowOf P a.mark_start) prev) = a.win.total prev := by
  rw [Account.inWindow, place_label]
  rfl

variable {P : Params Cpu} {v : View Cpu Tid}

/-- **Rolling over is a matter of names.** -/
theorem Clocked.inWindow_eq_aligned (hc : Clocked P v) {p : Tid}
    (hidle : (v.acct p).is_idle = false) {b : Busy} {m : ℕ}
    (hb : b.window = (windowStart P m, P.sched_ravg_window))
    (hle : windowOf P (v.acct p).mark_start ≤ m) (prev : Bool) :
    (v.acct p).inWindow P (label m prev) = ((v.acct p).aligned b).win.total prev := by
  set a := v.acct p with ha
  by_cases hms : a.mark_start = 0
  · have hempty : ∀ prev, a.win.total prev = 0 := by
      intro prev
      cases prev
      · exact (hc.emptyCurr_of_fresh hidle hms).1
      · exact (hc.emptyPrev_of_fresh hidle hms).1
    have hw : a.inWindow P (label m prev) = 0 := by
      unfold Account.inWindow inPlace
      cases place (windowOf P a.mark_start) (label m prev) <;> simp [hempty]
    rw [hw, Account.aligned, Account.roll]
    split_ifs
    · cases prev
      · rfl
      · have hcurr : a.win.curr_window = 0 := hempty false
        simp [Windows.total, rollover_task_window, hcurr]
    · exact (hempty prev).symm
  have hpos := pos_of_ne_zero hms
  have hnew := newWindow_eq hb hpos
  rcases hle.eq_or_lt with rfl | hlt
  · have hstay : a.aligned b = a := by simp [Account.aligned, Account.roll, hnew]
    rw [hstay, inWindow_label]
  have hroll : a.aligned b = rollover_task_window b.prev_window_size a (fullWindow b a) := by
    simp [Account.aligned, Account.roll, hnew, hlt, hidle]
  rw [hroll]
  cases prev with
  | false =>
    have hnone : windowOf P a.mark_start + 1 < label m false := by
      change _ < m + 1
      omega
    rw [Account.inWindow, place_eq_none (.inr hnone)]
    rfl
  | true =>
    change a.inWindow P m = if fullWindow b a then 0 else a.win.curr_window
    cases hfull : fullWindow b a with
    | false =>
      rw [eq_succ_of_not_fullWindow hb hpos hlt hfull]
      exact inWindow_label P a false
    | true =>
      rw [fullWindow_eq hb, decide_eq_true_eq] at hfull
      unfold Account.inWindow
      cases hk : place (windowOf P a.mark_start) m with
      | none => rfl
      | some prev =>
        -- a whole window has passed since the mark, which is therefore at the very
        -- beginning of its window
        rw [place_eq_some hk] at hfull
        exact (hc.empty_of_ahead hidle hfull).1

def Account.bucket [DecidableEq Cpu] (P : Params Cpu) (c : Cpu) (k i : ℕ) (a : Account Cpu) : ℕ :=
  if a.is_idle = false ∧ a.cpu = c then inBucket P (a.inWindow P k) i else 0

lemma Clocked.roll_top_cases [DecidableEq Tid]
    (hc : Clocked P v) {p : Tid} {wallclock : ℕ} (hclock : v.Reads P (v.acct p).cpu wallclock)
    (hcurr : v.curr (v.acct p).cpu = p ∨ v.mark (v.acct p).cpu = wallclock) :
    let c := (v.acct p).cpu
    let b := (v.busy c).advance P wallclock
    let top := (b.roll P (v.running p) (newWindow b (v.acct p)) (fullWindow b (v.acct p))).top
    (windowOf P (v.mark c) = windowOf P wallclock ∧ top = (v.busy c).top) ∨
    ∃ full, windowOf P (v.mark c) < windowOf P wallclock ∧
      top = rollover_top_tasks P (v.busy c).top full ∧
      (full = false → windowOf P wallclock = windowOf P (v.mark c) + 1) ∧
      (full = true → v.mark c + P.sched_ravg_window ≤ windowStart P (windowOf P wallclock)) := by
  intro c b top
  have hbtop : b.top = (v.busy c).top := by
    rw [show b = _ from hc.advance hclock]
  by_cases hp : v.curr c = p
  · have hrun : v.running p = true := decide_eq_true hp
    have hms : v.mark c = (v.acct p).mark_start := by rw [View.mark, hp]
    have hb : b.window = _ := hc.window_advance hclock
    have hpos := hms ▸ hc.mark_pos c
    have hnew := newWindow_eq hb hpos
    rw [← hms] at hnew
    rcases (windowOf_mono P ((hc.clock c).trans hclock.1)).eq_or_lt with heq | hlt
    · left
      rw [heq, decide_eq_false (lt_irrefl _)] at hnew
      exact ⟨heq, by simp [top, Busy.roll, hnew, hbtop]⟩
    · right
      rw [decide_eq_true hlt] at hnew
      refine ⟨fullWindow b (v.acct p), hlt, by simp [top, Busy.roll, hrun, hnew, hbtop], ?_, ?_⟩
      · intro hfull
        rw [hms]
        exact eq_succ_of_not_fullWindow hb hpos (hms ▸ hlt) hfull
      · intro hfull
        rwa [fullWindow_eq hb, decide_eq_true_eq, ← hms] at hfull
  · left
    have hrun : v.running p = false := decide_eq_false hp
    exact ⟨congrArg _ (hcurr.resolve_left hp), by simp [top, Busy.roll, hrun, hbtop]⟩

variable [DecidableEq Cpu]

variable {c : Cpu} {a : Account Cpu}

lemma bucket_eq (hidle : a.is_idle = false)
    (hcpu : a.cpu = c) (k i : ℕ) : a.bucket P c k i = inBucket P (a.inWindow P k) i :=
  if_pos ⟨hidle, hcpu⟩

lemma bucket_of_ne (hcpu : a.cpu ≠ c) (k i : ℕ) : a.bucket P c k i = 0 :=
  if_neg fun h => hcpu h.2

lemma bucket_of_idle (hidle : a.is_idle = true) (k i : ℕ) : a.bucket P c k i = 0 :=
  if_neg (by simp [hidle])

lemma bucket_of_empty {k : ℕ}
    (h : a.is_idle = false → a.cpu = c → a.inWindow P k = 0) (i : ℕ) : a.bucket P c k i = 0 := by
  unfold Account.bucket
  split_ifs with hc
  · rw [h hc.1 hc.2, inBucket_zero]
  · rfl

/-! ## What moves do to the tables -/

@[simp] theorem top_note_subtraction (b : Busy) (ws sub_load : ℕ) (new_task : Bool) :
    (note_subtraction b ws sub_load new_task).top = b.top := by
  unfold note_subtraction get_subtraction_index
  split_ifs <;> rfl

lemma top_transfer_windows (P : Params Cpu) (bs : Cpu → Busy) (p : Account Cpu) (add : Bool)
    (i : Cpu) : ((transfer_windows P bs p add).1 i).top = (bs i).top := by
  rw [transfer_windows_busy]
  split_ifs <;> simp [Busy.check]

lemma top_fixup (P : Params Cpu) (bs : Cpu → Busy) (p : Account Cpu) {new_cpu : Cpu}
    (hne : new_cpu ≠ p.cpu) (new_task : Bool) (i : Cpu) :
    ((if p.grp then (group_migration_fixup bs p new_cpu p.cpu new_task, p)
      else inter_cluster_migration_fixup P bs p new_cpu p.cpu new_task).1 i).top = (bs i).top := by
  split_ifs
  · change (group_migration_fixup bs p new_cpu p.cpu new_task i).top = _
    rw [group_migration_fixup_busy bs p hne]
    split_ifs <;> simp
  · cases hdomain : same_freq_domain P new_cpu p.cpu with
    | true => simp [inter_cluster_migration_fixup, hdomain]
    | false =>
      rw [inter_cluster_migration_fixup_busy P bs p new_task hdomain]
      split_ifs <;> simp [Busy.check]

lemma top_migrate_windows (P : Params Cpu) (bs : Cpu → Busy) (p : Account Cpu) {new_cpu : Cpu}
    (hne : new_cpu ≠ p.cpu) (i : Cpu) :
    ((migrate_windows P bs p new_cpu).1 i).top =
      if i = new_cpu then (migrate_top_tasks P p (bs p.cpu).top (bs new_cpu).top).2
      else if i = p.cpu then (migrate_top_tasks P p (bs p.cpu).top (bs new_cpu).top).1
      else (bs i).top := by
  obtain ⟨c, d, hacct⟩ := migrate_windows_acct P bs p new_cpu
  have hfixup := top_fixup P bs p hne (is_new_task p)
  have hmove : ∀ src dst, migrate_top_tasks P (migrate_windows P bs p new_cpu).2 src dst
      = migrate_top_tasks P p src dst := fun src dst => by rw [hacct]; rfl
  unfold migrate_windows at hmove ⊢
  dsimp only at hmove ⊢
  rw [hfixup, hfixup, hmove]
  rcases eq_or_ne i new_cpu with rfl | hnew
  · simp
  · rcases eq_or_ne i p.cpu with rfl | hcpu
    · simp [hnew]
    · rw [update_of_ne hnew, update_of_ne hcpu, if_neg hnew, if_neg hcpu, hfixup]

lemma top_rolled_charge (P : Params Cpu) (b : Busy) (is_curr : Bool) (a : Account Cpu)
    (c : Charge) : (rolled_charge P b is_curr a c).1.top
      = update_top_tasks P ((a.aligned b).charge c)
        (b.roll P is_curr (newWindow b a) (fullWindow b a)).top a.win.curr_window (newWindow b a)
        (fullWindow b a) := by
  simp [rolled_charge, Busy.set_cpu_time_top, Account.aligned]

lemma prev_window_charge {b : Busy} {c : Charge} {wallclock : ℕ}
    (hcharge : c.Fits b a wallclock) (hnew : newWindow b a = false) :
    ((a.aligned b).charge c).win.prev_window = a.win.prev_window := by
  have hsame : a.aligned b = a := by simp [Account.aligned, Account.roll, hnew]
  rw [hsame]
  cases c with
  | none => rfl
  | curr delta => rfl
  | split before after => exact absurd (hcharge.1.symm.trans hnew) (by decide)

lemma mark_migrate [DecidableEq Tid] (P : Params Cpu) (v : View Cpu Tid) (p : Tid)
    (new_cpu i : Cpu) :
    (act P v (.migrate p new_cpu)).mark i = v.mark i := by
  obtain ⟨e, d, hacct⟩ := migrate_windows_acct P v.busy _ new_cpu
  exact View.mark_move (by rw [hacct]) _ i

variable [Fintype Tid]

def View.bucket (P : Params Cpu) (v : View Cpu Tid) (c : Cpu) (k i : ℕ) : ℕ :=
  tally (Account.bucket P c k i) v.acct

lemma Clocked.bucket_eq_zero_of_ahead (hc : Clocked P v) {k : ℕ}
    (hk : v.mark c + P.sched_ravg_window ≤ windowStart P k) (i : ℕ) :
    v.bucket P c k i = 0 := by
  refine Finset.sum_eq_zero fun p _ => bucket_of_empty (fun hidle hcpu => ?_) i
  have hle := hc.mark_le p
  rw [hcpu] at hle
  unfold Account.inWindow
  cases hplace : place (windowOf P (v.acct p).mark_start) k with
  | none => rfl
  | some prev =>
    rw [place_eq_some hplace] at hk
    exact (hc.empty_of_ahead hidle (by omega)).1

lemma Clocked.bucket_eq_zero_of_lt (hc : Clocked P v) {k : ℕ}
    (hk : windowOf P (v.mark c) + 1 < k) (i : ℕ) : v.bucket P c k i = 0 := by
  refine hc.bucket_eq_zero_of_ahead ?_ i
  have hlt : v.mark c < windowStart P (windowOf P (v.mark c) + 1) :=
    (lt_windowStart_iff P (hc.mark_pos c)).mpr (by omega)
  have hle : windowStart P (windowOf P (v.mark c) + 1 + 1) ≤ windowStart P k := by
    rcases lt_or_ge (windowOf P (v.mark c) + 1 + 1) k with h | h
    · exact ((windowStart_lt P).mpr h).le
    · rw [show k = windowOf P (v.mark c) + 1 + 1 by omega]
  rw [windowStart_succ] at hle
  omega

/-! ## How the counts move -/

section

variable [DecidableEq Tid] {P : Params Cpu} {v : View Cpu Tid} {p : Tid}

/-- **An accounting call** takes the task from where it is after the rollover to where it
has been charged. -/
theorem bucket_account (hc : Clocked P v) {wallclock : ℕ} {c : Charge}
    (hlegal : Legal P v (.account p wallclock c)) (hx : (Act.account p wallclock c).Timed P v)
    (prev : Bool) (i : ℕ) :
    let a := (v.acct p).aligned ((v.busy (v.acct p).cpu).advance P wallclock)
    let k := label (windowOf P wallclock) prev
    (act P v (.account p wallclock c)).bucket P (v.acct p).cpu k i + inBucket P (a.win.total prev) i
      = v.bucket P (v.acct p).cpu k i + inBucket P ((a.charge c).win.total prev) i := by
  intro a k
  have hidle := hlegal.1
  have hb := hc.window_advance hx.1
  have hle := windowOf_mono P ((hc.mark_start_le_clock p).trans hx.1.1)
  set a' : Account Cpu := { a.charge c with mark_start := wallclock } with ha'
  have hidle' : a'.is_idle = false :=
    (is_idle_rolled_charge P _ (v.running p) _
      c).trans hidle
  have hcpu' : a'.cpu = (v.acct p).cpu :=
    cpu_rolled_charge P _ (v.running p) _ c
  have hsum := tally_update_add (Account.bucket P (v.acct p).cpu k i) v.acct p a'
  rw [bucket_eq hidle rfl, hc.inWindow_eq_aligned hidle hb hle, bucket_eq hidle' hcpu',
    show a'.inWindow P k = a'.win.total prev from inWindow_label P a' prev] at hsum
  exact hsum

lemma bucket_fresh (hc : Clocked P v) (hms : (v.acct p).mark_start = 0) {wallclock : ℕ}
    {b : Busy} {c : Cpu} {k : ℕ} (i : ℕ) :
    (v.set p wallclock b (v.acct p)).bucket P c k i = v.bucket P c k i := by
  have hempty : (v.acct p).is_idle = false → ∀ o, inPlace o (v.acct p).win.total = 0 := by
    intro hidle o
    rcases o with _ | _ | _
    · rfl
    · exact (hc.emptyCurr_of_fresh hidle hms).1
    · exact (hc.emptyPrev_of_fresh hidle hms).1
  refine tally_update_of_eq ?_
  refine Eq.trans (bucket_of_empty (fun hi _ => ?_) i) (bucket_of_empty (fun hi _ => ?_) i).symm
  · exact hempty hi _
  · exact hempty hi _

variable {new_cpu : Cpu}

lemma bucket_migrate (P : Params Cpu) (v : View Cpu Tid) (p : Tid) (new_cpu c : Cpu) (k i : ℕ) :
    (act P v (.migrate p new_cpu)).bucket P c k i + (v.acct p).bucket P c k i
      = v.bucket P c k i + Account.bucket P c k i { v.acct p with cpu := new_cpu } := by
  obtain ⟨e, d, hacct⟩ := migrate_windows_acct P v.busy _ new_cpu
  refine (tally_update_add _ v.acct p _).trans ?_
  rw [hacct]
  rfl

lemma bucket_migrate_dst (hx : (Act.migrate p new_cpu).Timed P v) (prev : Bool) (i : ℕ) :
    let k := label (windowOf P (v.mark new_cpu)) prev
    (act P v (.migrate p new_cpu)).bucket P new_cpu k i
      = v.bucket P new_cpu k i + inBucket P ((v.acct p).win.total prev) i := by
  obtain ⟨hidle, -, hne, hms, -, hmark⟩ := hx
  have hsum := bucket_migrate P v p new_cpu new_cpu (label (windowOf P (v.mark new_cpu)) prev) i
  set a : Account Cpu := { v.acct p with cpu := new_cpu }
  rw [bucket_of_ne hne.symm, bucket_eq (a := a) hidle rfl, hmark, ← hms] at hsum
  rw [hmark, ← hms]
  rw [show a.inWindow P _ = a.win.total prev from inWindow_label P a prev] at hsum
  exact hsum

lemma bucket_migrate_src (hx : (Act.migrate p new_cpu).Timed P v) (prev : Bool) (i : ℕ) :
    let k := label (windowOf P (v.mark (v.acct p).cpu)) prev
    (act P v (.migrate p new_cpu)).bucket P (v.acct p).cpu k i
        + inBucket P ((v.acct p).win.total prev) i = v.bucket P (v.acct p).cpu k i := by
  obtain ⟨hidle, -, hne, hms, hmark, -⟩ := hx
  have hsum := bucket_migrate P v p new_cpu (v.acct p).cpu
    (label (windowOf P (v.mark (v.acct p).cpu)) prev) i
  rw [bucket_eq hidle rfl, bucket_of_ne (hne), hmark, ← hms, inWindow_label] at hsum
  rw [hmark, ← hms]
  exact hsum

lemma bucket_migrate_other {c : Cpu} (hnew : c ≠ new_cpu) (hold : c ≠ (v.acct p).cpu) {k : ℕ}
    (i : ℕ) : (act P v (.migrate p new_cpu)).bucket P c k i = v.bucket P c k i := by
  have hsum := bucket_migrate P v p new_cpu c k i
  rwa [bucket_of_ne hold.symm, bucket_of_ne (hnew.symm)] at hsum

end

/-! ## The invariant -/

/-- `R` holds between the tables of every queue and the counts of its two windows. -/
def Ranked (R : TopTasks → (Bool → ℕ → ℕ) → Prop) (P : Params Cpu) (v : View Cpu Tid) : Prop :=
  ∀ c, R (v.busy c).top fun prev => v.bucket P c (label (windowOf P (v.mark c)) prev)

/-- A rollover of the tables keeps `R`. -/
def Rolls (R : TopTasks → (Bool → ℕ → ℕ) → Prop) (P : Params Cpu) : Prop :=
  ∀ top cnt full, R top cnt →
    R (rollover_top_tasks P top full) fun prev => if prev && !full then cnt false else fun _ => 0

namespace Ranked

variable {R : TopTasks → (Bool → ℕ → ℕ) → Prop} {P : Params Cpu} {v : View Cpu Tid}

lemma congr (h : Ranked R P v) {v' : View Cpu Tid} (htop : ∀ c, (v'.busy c).top = (v.busy c).top)
    (hcnt : ∀ c prev i, v'.bucket P c (label (windowOf P (v'.mark c)) prev) i
      = v.bucket P c (label (windowOf P (v.mark c)) prev) i) : Ranked R P v' := by
  intro c
  rw [htop, funext fun prev => funext (hcnt c prev)]
  exact h c

variable [DecidableEq Tid] {p : Tid} {wallclock : ℕ}

section

variable (hc : Clocked P v) (h : Ranked R P v)
include hc h

/-- **The rollover.** -/
theorem roll (hR : Rolls R P) (hclock : v.Reads P (v.acct p).cpu wallclock)
    (hcurr : v.curr (v.acct p).cpu = p ∨ v.mark (v.acct p).cpu = wallclock) :
    let b := (v.busy (v.acct p).cpu).advance P wallclock
    let top := (b.roll P (v.running p) (newWindow b (v.acct p)) (fullWindow b (v.acct p))).top
    R top fun prev => v.bucket P (v.acct p).cpu (label (windowOf P wallclock) prev) := by
  rcases hc.roll_top_cases hclock hcurr with ⟨heq, htop⟩ | ⟨full, hlt, htop, hsucc, hfull⟩
  · dsimp only
    rw [htop, ← heq]
    exact h _
  · dsimp only
    rw [htop]
    convert hR _ _ full (h _) using 1
    funext prev
    cases prev with
    | false => exact funext (hc.bucket_eq_zero_of_lt (by change _ < _ + 1; omega))
    | true =>
      cases full with
      | false =>
        rw [hsucc rfl]
        rfl
      | true => exact funext (hc.bucket_eq_zero_of_ahead (hfull rfl))

lemma set (hcurr : v.curr (v.acct p).cpu = p ∨ v.mark (v.acct p).cpu = wallclock)
    {b : Busy} {a : Account Cpu} (hcpu : a.cpu = (v.acct p).cpu)
    (hself : R b.top fun prev =>
      (v.set p wallclock b a).bucket P (v.acct p).cpu (label (windowOf P wallclock) prev)) :
    Ranked R P (v.set p wallclock b a) := by
  intro j
  rcases eq_or_ne j (v.acct p).cpu with rfl | hj
  · rw [show (v.set p wallclock b a).busy _ = b from update_self .., View.mark_set_self hcurr]
    exact hself
  · rw [show (v.set p wallclock b a).busy j = v.busy j from update_of_ne hj ..,
      hc.mark_set_of_ne wallclock b a hj]
    convert h j using 1
    funext prev i
    refine tally_update_of_eq ?_
    rw [bucket_of_ne hj.symm, bucket_of_ne (by exact hcpu.trans_ne hj.symm)]

/-- **The actions that move no task and charge none** keep every such relation. -/
theorem act (hR : Rolls R P) {x : Act Cpu Tid} (hlegal : Legal P v x) (hx : x.Timed P v)
    (haccount : ∀ p wallclock c, x = .account p wallclock c → Ranked R P (act P v x))
    (hmigrate : ∀ p new_cpu, x = .migrate p new_cpu → Ranked R P (act P v x)) :
    Ranked R P (act P v x) := by
  cases x with
  | stutter => exact h
  | tick p wallclock => exact h
  | account p wallclock c => exact haccount p wallclock c rfl
  | migrate p new_cpu => exact hmigrate p new_cpu rfl
  | fresh p wallclock =>
    refine h.set hc hx.2 rfl ?_
    rw [show ((v.busy (v.acct p).cpu).advance P wallclock).top = (v.busy (v.acct p).cpu).top by
        rw [hc.advance hx.1],
      ← hx.2.resolve_left (hc.not_running_of_fresh hlegal)]
    convert h _ using 1
    funext prev i
    exact bucket_fresh hc hlegal i
  | idle p wallclock b w =>
    obtain ⟨hidle, hgrown⟩ := hlegal
    refine h.set hc hx.2 rfl ?_
    rw [hgrown.same]
    convert h.roll hc hR hx.1 hx.2 using 1
    funext prev i
    refine tally_update_of_eq ?_
    rw [bucket_of_idle hidle, bucket_of_idle (by exact hidle)]
  | transfer p add =>
    obtain ⟨c, d, hacct⟩ := transfer_windows_acct P v.busy (v.acct p) add
    simp only [Walt.act]
    rw [hacct]
    refine h.congr (top_transfer_windows P v.busy (v.acct p) add) fun c prev i => ?_
    rw [View.mark_move (by rfl)]
    exact tally_update_of_eq rfl
  | subtract i =>
    exact h.congr (reading_update_of_eq (φ := Busy.top) rfl) fun _ _ _ => rfl
  | switch i next =>
    have hmark : ∀ j, View.mark { v with curr := update v.curr i next } j = v.mark j :=
      reading_update_of_eq (φ := fun p => (v.acct p).mark_start) hx.2
    refine h.congr (fun _ => rfl) fun c prev i => ?_
    simp only [Walt.act]
    rw [hmark]
    rfl

end

lemma migrate (h : Ranked R P v) {new_cpu : Cpu} (hx : (Act.migrate p new_cpu).Timed P v)
    (hR : let top := migrate_top_tasks P (v.acct p) (v.busy (v.acct p).cpu).top (v.busy new_cpu).top
      let cnt c prev :=
        (Walt.act P v (.migrate p new_cpu)).bucket P c (label (windowOf P (v.mark c)) prev)
      R top.1 (cnt (v.acct p).cpu) ∧ R top.2 (cnt new_cpu)) :
    Ranked R P (Walt.act P v (.migrate p new_cpu)) := by
  intro c
  rw [mark_migrate, show ((Walt.act P v (.migrate p new_cpu)).busy c).top = _ from
    top_migrate_windows P v.busy _ hx.2.2.1 c]
  by_cases hnew : c = new_cpu
  · subst hnew
    rw [if_pos rfl]
    exact hR.2
  by_cases hold : c = (v.acct p).cpu
  · subst hold
    rw [if_neg hnew, if_pos rfl]
    exact hR.1
  · rw [if_neg hnew, if_neg hold, funext fun prev => funext (bucket_migrate_other hnew hold)]
    exact h c

end Ranked

/-- The tables count the tasks of each window. -/
structure Tabled (P : Params Cpu) (v : View Cpu Tid) : Prop where
  counts : ∀ c prev, (v.busy c).top.Counts P ((v.busy c).top.table prev)
    (v.bucket P c (label (windowOf P (v.mark c)) prev))
  below_zero : ∀ c, (v.busy c).top.below_zero = false

def View.Fits (P : Params Cpu) (v : View Cpu Tid) : Prop :=
  ∀ c prev i, v.bucket P c (label (windowOf P (v.mark c)) prev) i ≤ 255

def Act.KeepsNonzero [DecidableEq Tid] (P : Params Cpu) (v : View Cpu Tid) : Act Cpu Tid → Prop
  | .account p wallclock c =>
    let a := (v.acct p).aligned ((v.busy (v.acct p).cpu).advance P wallclock)
    ∀ prev, a.win.total prev ≠ 0 → (a.charge c).win.total prev ≠ 0
  | _ => True

namespace Tabled

variable {P : Params Cpu} {v : View Cpu Tid}

lemma of_boot {s : State Cpu Tid} (hboot : Boot P s) : Tabled P s.view := by
  have hbucket : ∀ c k i, s.view.bucket P c k i = 0 := by
    refine fun c k i => Finset.sum_eq_zero fun p _ => bucket_of_empty (fun _ _ => ?_) i
    unfold Account.inWindow inPlace
    cases place (windowOf P (s.view.acct p).mark_start) k with
    | none => rfl
    | some prev => cases prev <;> simp [State.view, hboot.win p, Windows.total, Windows.zero]
  have htop : ∀ c, (s.view.busy c).top = TopTasks.empty P := hboot.top
  refine ⟨fun c prev => ⟨fun i => ?_, fun i hi => ?_⟩, fun c => by rw [htop]; rfl⟩
  · rw [htop, hbucket]
    rfl
  · rw [htop, hbucket]
    simp only [TopTasks.empty, decide_eq_true_eq]
    omega

lemma bucket_le (hc : Clocked P v) (hfits : v.Fits P) {c : Cpu} {m : ℕ}
    (hm : windowOf P (v.mark c) ≤ m) (prev : Bool) (i : ℕ) :
    v.bucket P c (label m prev) i ≤ 255 := by
  rcases hm.eq_or_lt with rfl | hlt
  · exact hfits c prev i
  by_cases hnext : label m prev = windowOf P (v.mark c) + 1
  · rw [hnext]
    exact hfits c false i
  · have := le_label m prev
    rw [hc.bucket_eq_zero_of_lt (by omega)]
    exact zero_le

lemma iff_ranked : Tabled P v ↔ Ranked (fun top cnt =>
    (∀ prev, top.Counts P (top.table prev) (cnt prev)) ∧ top.below_zero = false) P v :=
  ⟨fun h c => ⟨h.counts c, h.below_zero c⟩, fun h => ⟨fun c => (h c).1, fun c => (h c).2⟩⟩

omit [DecidableEq Cpu] in
lemma rolls (P : Params Cpu) : Rolls (fun top cnt =>
    (∀ prev, top.Counts P (top.table prev) (cnt prev)) ∧ top.below_zero = false) P := by
  rintro top cnt full ⟨hcounts, hbelow⟩
  refine ⟨fun prev => ?_, by cases full <;> exact hbelow⟩
  cases prev with
  | false => exact counts_rollover_curr ..
  | true => exact counts_rollover_prev (fun hf => by simpa [hf] using hcounts false) (by simp_all)

variable [DecidableEq Tid] {p : Tid} {wallclock : ℕ}

lemma account (hc : Clocked P v) (h : Tabled P v) {c : Charge}
    (hlegal : Legal P v (.account p wallclock c)) (hx : (Act.account p wallclock c).Timed P v)
    (hkeep : (Act.account p wallclock c).KeepsNonzero P v) (hfits : v.Fits P)
    (hfits' : (act P v (.account p wallclock c)).Fits P) :
    Tabled P (act P v (.account p wallclock c)) := by
  rw [iff_ranked] at h ⊢
  obtain ⟨hroll, hbelow⟩ := h.roll hc (rolls P) hx.1 hx.2
  have hmove := bucket_account hc hlegal hx
  have hfits1 := hfits' (v.acct p).cpu
  simp only [act] at hmove hfits1 ⊢
  rw [View.mark_set_self hx.2] at hfits1
  have hmoved := fun top => moved_update_top_tasks (P := P) top hlegal.1 _
    (prev_window_charge hlegal.2.2.2) hkeep
  obtain ⟨hcounts, hzero⟩ := (hmoved _).counts hroll hmove
    (bucket_le hc hfits (windowOf_mono P ((hc.clock _).trans hx.1.1))) hfits1
  refine h.set hc hx.2 (cpu_rolled_charge ..) ?_
  rw [top_rolled_charge]
  exact ⟨hcounts, hzero.trans hbelow⟩

lemma migrate (h : Tabled P v) {new_cpu : Cpu} (hx : (Act.migrate p new_cpu).Timed P v)
    (hfits : v.Fits P) (hfits' : (act P v (.migrate p new_cpu)).Fits P) :
    Tabled P (act P v (.migrate p new_cpu)) := by
  have hfits1 (c : Cpu) := hfits' c
  simp only [mark_migrate] at hfits1
  obtain ⟨hsrc, hsrc0⟩ := (moved_migrate_src (v.acct p) (v.busy (v.acct p).cpu).top
    (v.busy new_cpu).top).counts (h.counts _)
    (fun prev i => by rw [inBucket_zero]; exact bucket_migrate_src hx prev i) (hfits _) (hfits1 _)
  obtain ⟨hdst, hdst0⟩ := (moved_migrate_dst (v.acct p) (v.busy (v.acct p).cpu).top
    (v.busy new_cpu).top).counts (h.counts _)
    (fun prev i => by rw [inBucket_zero]; exact bucket_migrate_dst hx prev i) (hfits _) (hfits1 _)
  rw [iff_ranked] at h ⊢
  exact h.migrate hx ⟨⟨hsrc, hsrc0.trans (h _).2⟩, hdst, hdst0.trans (h _).2⟩

/-- **Every action keeps the tables**, as long as the counts fit. -/
theorem act (hc : Clocked P v) (h : Tabled P v) {x : Act Cpu Tid} (hlegal : Legal P v x)
    (hx : x.Timed P v) (hkeep : x.KeepsNonzero P v) (hfits : v.Fits P)
    (hfits' : (act P v x).Fits P) : Tabled P (act P v x) := by
  refine iff_ranked.mpr ((iff_ranked.mp h).act hc (rolls P) hlegal hx ?_ ?_)
  · rintro p wallclock c rfl
    exact iff_ranked.mp (h.account hc hlegal hx hkeep hfits hfits')
  · rintro p new_cpu rfl
    exact iff_ranked.mp (h.migrate hx hfits hfits')

end Tabled

/-! ## Over runs of the machine -/

section Runs

def State.aligned_window (s : State Cpu Tid) (p : Tid) (prev : Bool) : ℕ :=
  ((s.task p).acct.aligned (s.task_rq p).busy).win.total prev

/-- How many tasks accounted to a queue are in bucket `i` by what they have in its current
or previous window. -/
def State.bucket_count (P : Params Cpu) (s : State Cpu Tid) (c : Cpu) (prev : Bool) (i : ℕ) : ℕ :=
  (Finset.univ.filter fun p => (s.task p).acct.is_idle = false ∧ (s.task p).acct.cpu = c ∧
    s.aligned_window p prev ≠ 0 ∧ load_to_index P (s.aligned_window p prev) = i).card

def State.tasks_on (s : State Cpu Tid) (c : Cpu) : ℕ :=
  (Finset.univ.filter fun p => (s.task p).acct.is_idle = false ∧ (s.task p).acct.cpu = c).card

def State.TopTablesExact (P : Params Cpu) (s : State Cpu Tid) : Prop :=
  ∀ c prev,
    let top := (s.rq c).busy.top
    (∀ i, top.top_tasks (top.table prev) i = s.bucket_count P c prev i) ∧
    ∀ i, i < P.NUM_LOAD_INDICES →
      (top.top_tasks_bitmap (top.table prev) (P.NUM_LOAD_INDICES - 1 - i) = true ↔
        s.bucket_count P c prev i ≠ 0)

variable {P : Params Cpu} {s : State Cpu Tid}

lemma Clocked.bucket_eq_count (hc : Clocked P s.view) (c : Cpu) (prev : Bool) (i : ℕ) :
    s.view.bucket P c (label (windowOf P (s.view.mark c)) prev) i = s.bucket_count P c prev i := by
  rw [State.bucket_count, Finset.card_filter]
  refine Finset.sum_congr rfl fun p _ => ?_
  by_cases hp : (s.task p).acct.is_idle = false ∧ (s.task p).acct.cpu = c
  · obtain ⟨hidle, rfl⟩ := hp
    have hal : (s.view.acct p).inWindow P
      (label (windowOf P (s.view.mark (s.task p).acct.cpu)) prev)
        = s.aligned_window p prev := hc.inWindow_eq_aligned hidle
      (Prod.ext (hc.window _) (hc.size _))
      (windowOf_mono P (hc.mark_le p)) prev
    refine (bucket_eq (a := s.view.acct p) hidle rfl _ _).trans ?_
    rw [hal, inBucket]
    simp [hidle]
  · rw [if_neg (fun h => hp ⟨h.1, h.2.1⟩)]
    exact if_neg hp

lemma bucket_count_le (P : Params Cpu) (s : State Cpu Tid) (c : Cpu) (prev : Bool) (i : ℕ) :
    s.bucket_count P c prev i ≤ s.tasks_on c := by
  refine Finset.card_le_card fun p hp => ?_
  simp only [Finset.mem_filter, Finset.mem_univ, true_and] at hp ⊢
  exact ⟨hp.1, hp.2.1⟩

lemma Clocked.fits_of_count (hc : Clocked P s.view)
    (h : ∀ c prev i, s.bucket_count P c prev i ≤ 255) : s.view.Fits P := by
  intro c prev i
  rw [hc.bucket_eq_count]
  exact h c prev i

variable [DecidableEq Tid]

def KeepsNonzero (P : Params Cpu) (s : State Cpu Tid) : Step Cpu Tid → Prop
  | .ravg p event wallclock irqtime =>
    let a := (s.task p).acct.aligned ((s.task_rq p).busy.advance P wallclock)
    ∀ prev, a.win.total prev ≠ 0 →
      (a.charge (s.charge P p event wallclock irqtime)).win.total prev ≠ 0
  | _ => True

omit [Fintype Tid] in
instance (P : Params Cpu) (s : State Cpu Tid) (a : Step Cpu Tid) :
    Decidable (KeepsNonzero P s a) := by
  cases a <;> simp only [KeepsNonzero] <;> infer_instance

omit [Fintype Tid] in
lemma Refines.keepsNonzero {a : Step Cpu Tid} {x : Act Cpu Tid} (hx : Refines P s a x)
    (h : KeepsNonzero P s a) : x.KeepsNonzero P s.view := by
  cases x with
  | account p wallclock c =>
    obtain ⟨event, irqtime, rfl, rfl⟩ := hx.charge rfl
    exact h
  | _ => trivial

lemma Tabled.step (hc : Clocked P s.view)
    (h : Tabled P s.view) {a : Step Cpu Tid} (hkeep : KeepsNonzero P s a)
    (hc' : Clocked P (step P s a).view) (htimed : Timed s a ∧ Counted P s a)
    (hbefore : ∀ c prev i, s.bucket_count P c prev i ≤ 255)
    (hafter : ∀ c prev i, (step P s a).bucket_count P c prev i ≤ 255) :
    Tabled P (step P s a).view := by
  obtain ⟨x, hx⟩ := step_refines P s a
  have hfits := hc'.fits_of_count hafter
  rw [hx.view] at hfits ⊢
  exact h.act hc hx.legal (hx.timed htimed) (hx.keepsNonzero hkeep) (hc.fits_of_count hbefore) hfits

/-- **The tables count the tasks, over every run** from boot in which fewer than 256 tasks are on a
queue, no update passes `2 ^ 31` windows and no window wraps to zero. -/
theorem top_tables_of_run (P : Params Cpu) (s : State Cpu Tid) (hboot : Boot P s)
    (l : List (Step Cpu Tid))
    (hl : Ok (step P) (fun s a => (Timed s a ∧ Counted P s a) ∧ KeepsNonzero P s a) s l)
    (hfew : ∀ l', l' <+: l → ∀ c, (exec (step P) s l').tasks_on c < 256) :
    (exec (step P) s l).TopTablesExact P ∧
      ∀ c, ((exec (step P) s l).rq c).busy.top.below_zero = false := by
  have hfits : ∀ l', l' <+: l → ∀ c prev i,
      (exec (step P) s l').bucket_count P c prev i ≤ 255 := fun l' hl' c prev i =>
    Nat.le_of_lt_succ ((bucket_count_le P _ c prev i).trans_lt (hfew l' hl' c))
  obtain ⟨hc, h⟩ := Ok.inv (I := fun s : State Cpu Tid => Clocked P s.view ∧ Tabled P s.view)
    (fun s a ⟨hc, h⟩ ⟨⟨htimed, hkeep⟩, hbefore, hafter⟩ =>
      have hc' := hc.step htimed
      ⟨hc', h.step hc hkeep hc' htimed hbefore hafter⟩)
    ⟨.of_boot hboot, .of_boot hboot⟩
    (hl.with_states hfits)
  refine ⟨fun c prev => ⟨fun i => ?_, fun i hi => ?_⟩, h.below_zero⟩
  · rw [← hc.bucket_eq_count]
    exact (h.counts c prev).table i
  · rw [← hc.bucket_eq_count]
    exact (h.counts c prev).bit i hi

end Runs

theorem top_tables_of_moved_task : let l : List (Step Bool (Fin 4)) :=
      [.ravg 2 .PICK_NEXT_TASK 1 0, .switch false 2, .ravg 2 .TASK_UPDATE 3000001 0,
        .ravg 3 .PICK_NEXT_TASK 3000001 0, .switch false 3, .ravg 3 .TASK_UPDATE 4000001 0,
        .ravg 1 .TASK_UPDATE 4000001 0, .ravg 2 .TASK_MIGRATE 4000001 0, .migrate 2 true]
    let s := exec (step platform) atBoot l
    s.TopTablesExact platform ∧ s.bucket_count platform true false 187 = 1 ∧
      s.bucket_count platform false false 62 = 1 := by
  refine ⟨?_, by decide, by decide⟩
  refine (top_tables_of_run platform atBoot atBoot_boot _ (by decide) fun l' _ c => ?_).1
  exact (Finset.card_le_univ _).trans_lt (by decide)

/-- A task is charged a whole 2^32, in two steps, and stays counted. -/
theorem wrapped_window_stays_counted : let l : List (Step Bool (Fin 4)) :=
      [.set_env false 0 0 2048000, .ravg 2 .PICK_NEXT_TASK 1 0, .switch false 2,
        .ravg 2 .TASK_UPDATE 2 0, .ravg 2 .TASK_UPDATE 2097153 0]
    let s := exec (step platform) atBoot l
    Ok (step platform) Timed atBoot l ∧ (∀ l', l' <+: l → ∀ c,
      (exec (step platform) atBoot l').tasks_on c < 256) ∧ ¬ s.TopTablesExact platform := by
  refine ⟨by decide, fun l' _ c => (Finset.card_le_univ _).trans_lt (by decide), fun h => ?_⟩
  have hcount := (h false false).1 0
  revert hcount
  decide

end KernelExtra.Walt
