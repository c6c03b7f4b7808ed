/-
Top tasks: the index of the greatest bucket.

A migration may empty the top bucket, and then `get_top_index` looks for the next one. It scans the
bitmap, in which bucket `i` is bit `NUM_LOAD_INDICES - 1 - i`, but starts from the old index and not
from its bit, and so misses the buckets between the mirror image of the old top and the old top
itself. The index is right as long as no such bucket has a task then (`TopSafe`).
-/
import KernelExtra.Sched.Walt.TopTasks

open KernelExtra.Tally

namespace KernelExtra.Walt

variable {Cpu Tid : Type} {P : Params Cpu}

/-! ## The greatest bucket -/

/-- `idx` is the last bucket that is not empty. -/
structure IsTop (cnt : ℕ → ℕ) (idx : ℕ) : Prop where
  le : ∀ i, cnt i ≠ 0 → i ≤ idx
  occupied : idx ≠ 0 → cnt idx ≠ 0

variable {cnt cnt' : ℕ → ℕ}

lemma IsTop.congr {idx : ℕ} (h : IsTop cnt idx) (hcnt : ∀ i, cnt' i = cnt i) : IsTop cnt' idx :=
  ⟨fun i hi => h.le i (hcnt i ▸ hi), fun hidx => hcnt idx ▸ h.occupied hidx⟩

lemma isGreatest_of_isTop {idx : ℕ} (h : IsTop cnt idx) :
    IsGreatest { i | cnt i ≠ 0 } idx ∨ (∀ i, cnt i = 0) ∧ idx = 0 := by
  by_cases hidx : cnt idx = 0
  · right
    have h0 : idx = 0 := by_contra fun hne => h.occupied hne hidx
    refine ⟨fun i => by_contra fun hi => hi ?_, h0⟩
    have hle := h.le i hi
    rwa [show i = idx by omega]
  · exact .inl ⟨hidx, fun i hi => h.le i hi⟩

lemma IsTop.of_zero (h : ∀ i, cnt i = 0) : IsTop cnt 0 :=
  ⟨fun i hi => absurd (h i) hi, fun h0 => absurd rfl h0⟩

section

variable {x y idx : ℕ} {cnt cnt' : ℕ → ℕ}

lemma IsTop.raise (h : IsTop cnt idx)
    (hmove : ∀ i, cnt' i + inBucket P x i = cnt i + inBucket P y i)
    (hle : load_to_index P x ≤ load_to_index P y)
    (hdiff : load_to_index P x ≠ load_to_index P y ∨ x = 0) (hy : y ≠ 0) :
    IsTop cnt' (max idx (load_to_index P y)) := by
  refine ⟨fun i hi => ?_, fun _ => ?_⟩
  · have hcases := (move_cases hmove i).2
    by_cases hold : cnt i = 0
    · omega
    · have := h.le i hold
      omega
  · rcases lt_or_ge (load_to_index P y) idx with hlt | hge
    · -- the old top bucket is neither of the two
      rw [max_eq_left hlt.le]
      have hold := h.occupied (by omega)
      have hi := hmove idx
      rw [inBucket_of_ne P (by omega), inBucket_of_ne P (by omega)] at hi
      omega
    · rw [max_eq_right hge]
      have hi := hmove (load_to_index P y)
      rw [inBucket_self P hy] at hi
      have hx : inBucket P x (load_to_index P y) = 0 := by
        rcases hdiff with hne | rfl
        · exact inBucket_of_ne P hne
        · exact inBucket_zero P _
      omega

lemma IsTop.leave (h : IsTop cnt idx) (hmove : ∀ i, cnt' i + inBucket P x i = cnt i)
    (hstay : cnt idx ≠ 0 → cnt' idx ≠ 0) : IsTop cnt' idx := by
  refine ⟨fun i hi => h.le i ?_, fun hidx => hstay (h.occupied hidx)⟩
  have := hmove i
  omega

end

/-! ## The search for the next one -/

lemma get_top_index_spec {bitmap : ℕ → Bool} (hbit : ∀ i, i < P.NUM_LOAD_INDICES →
      (bitmap (P.NUM_LOAD_INDICES - 1 - i) = true ↔ cnt i ≠ 0)) (old_top : ℕ) :
    (∀ i, cnt i ≠ 0 → i < P.NUM_LOAD_INDICES → old_top ≤ P.NUM_LOAD_INDICES - 1 - i →
      i ≤ get_top_index P bitmap old_top) ∧
    (get_top_index P bitmap old_top ≠ 0 → cnt (get_top_index P bitmap old_top) ≠ 0) := by
  unfold get_top_index find_next_bit
  cases hfind : (List.range' old_top (P.NUM_LOAD_INDICES - old_top)).find? bitmap with
  | none =>
    rw [List.find?_range'_eq_none] at hfind
    simp only [Option.getD_none, if_true]
    refine ⟨fun i hi hlt hge => ?_, fun h0 => absurd rfl h0⟩
    have hclear := hfind _ hge (by omega)
    rw [(hbit i hlt).mpr hi] at hclear
    exact absurd hclear (by decide)
  | some pos =>
    obtain ⟨hset, hmem, hfirst⟩ := List.find?_range'_eq_some.mp hfind
    rw [List.mem_range'_1] at hmem
    simp only [Option.getD_some]
    rw [if_neg (by omega)]
    refine ⟨fun i hi hlt hge => ?_, fun _ => ?_⟩
    · by_contra hnle
      have hclear := hfirst _ hge (by omega)
      rw [(hbit i hlt).mpr hi] at hclear
      exact absurd hclear (by decide)
    · rw [← hbit _ (by omega), show P.NUM_LOAD_INDICES - 1 - (P.NUM_LOAD_INDICES - 1 - pos) = pos by
        omega]
      exact hset

/-! ## What the operations do to the indices -/

section

variable (top : TopTasks) (prev : Bool) (n : ℕ) (t : Bool)

@[simp] lemma top_index_dec : (top.dec t n).top_index prev = top.top_index prev := rfl

@[simp] lemma top_index_inc : (top.inc t n).top_index prev = top.top_index prev := rfl

@[simp] lemma top_index_clear_if_empty :
    (top.clear_if_empty P t n).top_index prev = top.top_index prev := by
  unfold TopTasks.clear_if_empty; split_ifs <;> rfl

@[simp] lemma top_index_set_if_one :
    (top.set_if_one P t n).top_index prev = top.top_index prev := by
  unfold TopTasks.set_if_one; split_ifs <;> rfl

@[simp] lemma top_index_set_top_index : (top.set_top_index prev n).top_index prev = n := by
  cases prev <;> rfl

@[simp] lemma top_index_set_top_index_not :
    (top.set_top_index prev n).top_index (!prev) = top.top_index (!prev) := by
  cases prev <;> rfl

end

lemma ne_zero_of_moves {x y : ℕ} (hxy : x ≤ y)
    (hgo : load_to_index P x ≠ load_to_index P y ∨ x = 0 ∧ y ≠ 0) : y ≠ 0 := by
  rintro rfl
  obtain rfl : x = 0 := by omega
  simp at hgo

section

variable (top : TopTasks) {x y : ℕ} {cnt cnt' : ℕ → ℕ}

lemma IsTop.update {idx : ℕ} (h : IsTop cnt idx) (hxy : x ≤ y)
    (hmove : ∀ i, cnt' i + inBucket P x i = cnt i + inBucket P y i) :
    IsTop cnt' (if load_to_index P x ≠ load_to_index P y ∨ x = 0 ∧ y ≠ 0
      then max idx (load_to_index P y) else idx) := by
  split_ifs with hgo
  · exact h.raise hmove (min_le_min_right _ (Nat.div_le_div_right hxy)) (hgo.imp_right And.left)
      (ne_zero_of_moves hxy hgo)
  · exact h.congr (move_same_bucket (by omega) hgo hmove)

lemma isTop_update_curr_bucket (hxy : x ≤ y)
    (hmove : ∀ i, cnt' i + inBucket P x i = cnt i + inBucket P y i)
    (h : IsTop cnt (top.top_index false)) :
    IsTop cnt' ((update_curr_bucket P top x y).top_index false) := by
  have hnext := h.update hxy hmove
  unfold update_curr_bucket
  simp only [top_index_set_if_one, top_index_clear_if_empty, TopTasks.raise_curr_eq]
  split_ifs at hnext ⊢ <;> exact hnext

lemma top_index_update_curr_bucket :
    (update_curr_bucket P top x y).top_index true = top.top_index true := by
  unfold update_curr_bucket
  simp only [top_index_set_if_one, top_index_clear_if_empty, TopTasks.raise_curr_eq]
  split_ifs <;> rfl

lemma isTop_update_prev_bucket (hxy : x ≤ y)
    (hmove : ∀ i, cnt' i + inBucket P x i = cnt i + inBucket P y i)
    (h : IsTop cnt (top.top_index true)) :
    IsTop cnt' ((update_prev_bucket P top x y false).top_index true) := by
  have hnext := h.update hxy hmove
  unfold update_prev_bucket
  simp only [Bool.false_eq_true, if_false, TopTasks.raise_prev_eq]
  split_ifs at hnext ⊢ <;> simpa using hnext

lemma isTop_update_prev_bucket_full (x : ℕ) (hempty : y ≠ 0 → ∀ i, cnt i = 0)
    (hmove : ∀ i, cnt' i = cnt i + inBucket P y i) (h : IsTop cnt (top.top_index true)) :
    IsTop cnt' ((update_prev_bucket P top x y true).top_index true) := by
  unfold update_prev_bucket
  rw [if_pos rfl, top_index_set_if_one]
  by_cases hy : y = 0
  · subst hy
    exact h.congr fun i => by simpa using hmove i
  · rw [if_pos hy]
    have hraise := (IsTop.of_zero (hempty hy)).raise (by simpa using hmove) (by simp) (.inr rfl) hy
    rwa [zero_max] at hraise

lemma top_index_update_prev_bucket (full : Bool) :
    (update_prev_bucket P top x y full).top_index false = top.top_index false := by
  unfold update_prev_bucket
  simp only [TopTasks.raise_prev_eq]
  split_ifs <;> simp only [top_index_set_if_one, top_index_clear_if_empty] <;> rfl

lemma isTop_enter_curr_bucket (hmove : ∀ i, cnt' i = cnt i + inBucket P y i)
    (h : IsTop cnt (top.top_index false)) :
    IsTop cnt' ((enter_curr_bucket P top y).top_index false) := by
  unfold enter_curr_bucket
  by_cases hy : y = 0
  · subst hy
    exact h.congr fun i => by simpa using hmove i
  · rw [if_pos hy, top_index_set_if_one, TopTasks.raise_curr_eq, top_index_set_top_index]
    exact h.raise (by simpa using hmove) (by simp) (.inr rfl) hy

lemma top_index_enter_curr_bucket :
    (enter_curr_bucket P top y).top_index true = top.top_index true := by
  unfold enter_curr_bucket
  split_ifs
  · exact (top_index_set_if_one ..).trans (by rw [TopTasks.raise_curr_eq]; rfl)
  · rfl

end

variable (top : TopTasks)

/-- **`update_top_tasks`** keeps both indices, if loads only grow and a whole window is
charged only where the table is empty. -/
theorem isTop_update_top_tasks {a : Account Cpu} (hidle : a.is_idle = false)
    {new full : Bool} (n : ℕ) {p : Account Cpu}
    (hstay : new = false → p.win.prev_window = a.win.prev_window)
    (hgrow : ∀ prev, (a.roll n new full).win.total prev ≤ p.win.total prev)
    {cnt cnt' : Bool → ℕ → ℕ}
    (hmove : ∀ prev i, cnt' prev i + inBucket P ((a.roll n new full).win.total prev) i
      = cnt prev i + inBucket P (p.win.total prev) i)
    (hempty : new = true → full = true → p.win.prev_window ≠ 0 → ∀ i, cnt true i = 0)
    (h : ∀ prev, IsTop (cnt prev) (top.top_index prev)) (prev : Bool) :
    IsTop (cnt' prev) ((update_top_tasks P p top a.win.curr_window new full).top_index prev) := by
  unfold update_top_tasks
  cases new with
  | false =>
    have hroll : a.roll n false full = a := by simp [Account.roll]
    rw [hroll] at hgrow hmove
    have hprev : ∀ i, cnt' true i = cnt true i := by
      intro i
      have := hmove true i
      rw [show p.win.total true = a.win.total true from hstay rfl] at this
      omega
    by_cases heq : a.win.curr_window = p.win.curr_window
    · rw [if_pos ⟨heq, rfl⟩]
      refine (h prev).congr fun i => ?_
      cases prev with
      | false =>
        have := hmove false i
        rw [show a.win.total false = p.win.total false from heq] at this
        omega
      | true => exact hprev i
    · rw [if_neg (fun h => heq h.1), if_pos rfl]
      cases prev with
      | false => exact isTop_update_curr_bucket top (hgrow false) (hmove false) (h false)
      | true =>
        rw [top_index_update_curr_bucket]
        exact (h true).congr hprev
  | true =>
    have hroll : a.roll n true full = rollover_task_window n a full := by
      simp [Account.roll, hidle]
    rw [hroll] at hgrow hmove
    rw [if_neg (by simp), if_neg (by simp)]
    cases prev with
    | false =>
      have hcurr : ∀ i, cnt' false i = cnt false i + inBucket P (p.win.total false) i := by
        intro i
        have := hmove false i
        rwa [show (rollover_task_window n a full).win.total false = 0 from rfl, inBucket_zero,
          add_zero] at this
      refine isTop_enter_curr_bucket _ hcurr ?_
      rw [top_index_update_prev_bucket]
      exact h false
    | true =>
      rw [top_index_enter_curr_bucket]
      cases full with
      | false => exact isTop_update_prev_bucket top (hgrow true) (hmove true) (h true)
      | true =>
        refine isTop_update_prev_bucket_full top _ (hempty rfl rfl) (fun i => ?_) (h true)
        have := hmove true i
        rwa [show (rollover_task_window n a true).win.total true = 0 from rfl, inBucket_zero,
          add_zero] at this

/-! ## Migrations -/

theorem top_index_leave_bucket (prev : Bool) (load : ℕ) :
    (leave_bucket P top prev load).top_index (!prev) = top.top_index (!prev) := by
  unfold leave_bucket
  dsimp only
  split_ifs <;> simp

lemma top_index_join_bucket (prev : Bool) (load : ℕ) :
    (join_bucket P top prev load).top_index (!prev) = top.top_index (!prev) := by
  unfold join_bucket
  dsimp only
  split_ifs <;> simp

lemma isTop_join_bucket (prev : Bool) (load : ℕ)
    (hmove : ∀ i, cnt' i = cnt i + inBucket P load i) (h : IsTop cnt (top.top_index prev)) :
    IsTop cnt' ((join_bucket P top prev load).top_index prev) := by
  unfold join_bucket
  by_cases hload : load = 0
  · subst hload
    exact h.congr fun i => by simpa using hmove i
  dsimp only
  have hraise := h.raise (by simpa using hmove) (by simp) (.inr rfl) hload
  rw [top_index_set_if_one, top_index_inc]
  split_ifs with hlt
  · rwa [max_eq_right hlt.le, ← top_index_set_top_index _ prev (load_to_index P load)] at hraise
  · rw [max_eq_left (not_lt.mp hlt)] at hraise
    rwa [top_index_set_if_one, top_index_inc]

/-- There is no task in a bucket between the mirror image of the top bucket and the top bucket
itself, or the scan is not needed. -/
def Scanned (P : Params Cpu) (top : TopTasks) (prev : Bool) (load : ℕ) : Prop :=
  load ≠ 0 → load_to_index P load = top.top_index prev →
    top.top_tasks (top.table prev) (load_to_index P load) = 1 →
    ∀ j, j < load_to_index P load → P.NUM_LOAD_INDICES - 1 - load_to_index P load < j →
      top.top_tasks (top.table prev) j = 0

lemma isTop_leave_bucket {top : TopTasks} {prev : Bool} {load : ℕ}
    (hcounts : top.Counts P (top.table prev) cnt)
    (hcounts' : (leave_bucket P top prev load).Counts P (top.table prev) cnt')
    (hmove : ∀ i, cnt' i + inBucket P load i = cnt i) (hscan : Scanned P top prev load)
    (h : IsTop cnt (top.top_index prev)) :
    IsTop cnt' ((leave_bucket P top prev load).top_index prev) := by
  by_cases hload : load = 0
  · subst hload
    exact h.congr fun i => by simpa using hmove i
  unfold leave_bucket at hcounts' ⊢
  unfold Scanned at hscan
  rw [if_neg hload] at hcounts' ⊢
  dsimp only at hcounts' ⊢
  set idx := load_to_index P load with hidx
  set src := (top.dec _ idx).clear_if_empty P _ idx with hsrc
  have hindex : src.top_index prev = top.top_index prev := by simp [hsrc]
  rw [hindex] at hcounts' ⊢
  have hself := hmove idx
  rw [hidx, inBucket_self P hload, ← hidx] at hself
  by_cases hlast : idx = top.top_index prev ∧ src.top_tasks (top.table prev) idx = 0
  · rw [if_pos hlast] at hcounts' ⊢
    rw [top_index_set_top_index, ← hlast.1]
    have hcount : cnt' idx = 0 := by
      rw [← hcounts'.table, table_set_top_index]
      exact hlast.2
    have hbit := hcounts'.bit
    rw [bitmap_set_top_index] at hbit
    obtain ⟨hgreatest, hoccupied⟩ := get_top_index_spec hbit idx
    refine ⟨fun i hi => ?_, hoccupied⟩
    have hlt : idx < P.NUM_LOAD_INDICES := load_to_index_lt P load
    have hle : i ≤ idx := by
      rw [hlast.1]
      exact h.le i (by have := hmove i; omega)
    have hne : i ≠ idx := fun h0 => hi (h0 ▸ hcount)
    -- what the scan does not look at is empty
    have hseen : i ≤ P.NUM_LOAD_INDICES - 1 - idx := by
      by_contra hnot
      have hfree := hscan hload hlast.1 (by rw [hcounts.table]; omega) i (by omega) (by omega)
      rw [hcounts.table] at hfree
      have := hmove i
      omega
    exact hgreatest i hi (by omega) (by omega)
  · rw [if_neg hlast] at hcounts' ⊢
    rw [hindex]
    refine h.leave hmove fun hocc => ?_
    by_cases htop : idx = top.top_index prev
    · rw [← htop, ← hcounts'.table]
      exact fun h0 => hlast ⟨htop, h0⟩
    · have := hmove (top.top_index prev)
      rw [inBucket_of_ne P htop] at this
      omega

lemma isTop_migrate_src (p : Account Cpu) (src dst : TopTasks) {cnt cnt' : Bool → ℕ → ℕ}
    (hcounts : ∀ prev, src.Counts P (src.table prev) (cnt prev))
    (hmove : ∀ prev i, cnt' prev i + inBucket P (p.win.total prev) i = cnt prev i)
    (hle : ∀ prev i, cnt prev i ≤ 255)
    (hscan : ∀ prev, Scanned P src prev (p.win.total prev))
    (h : ∀ prev, IsTop (cnt prev) (src.top_index prev)) (prev : Bool) :
    IsTop (cnt' prev) ((migrate_top_tasks P p src dst).1.top_index prev) := by
  have hle' : ∀ prev i, cnt' prev i ≤ 255 := fun prev i =>
    (hmove prev i ▸ Nat.le_add_right ..).trans (hle prev i)
  have hmove0 : ∀ prev i, cnt' prev i + inBucket P (p.win.total prev) i
      = cnt prev i + inBucket P 0 i := fun prev i => by
    exact hmove prev i
  -- the current window first
  have hfirst := moved_leave_bucket (P := P) src false (p.win.total false)
  have hcounts1 := (hfirst.counts _ _ (hcounts false) (hmove0 false) (hle false) (hle' false)).1
  have htop1 := isTop_leave_bucket (hcounts false) hcounts1 (hmove false) (hscan false) (h false)
  have hindex1 : (leave_bucket P src false (p.win.total false)).top_index true =
      src.top_index true :=
    top_index_leave_bucket src false _
  have htable1 : (leave_bucket P src false (p.win.total false)).table true = !src.table false := by
    rw [TopTasks.table_congr hfirst.touches.curr_table, ← TopTasks.table_not]
    rfl
  have hsrc1 : src.table true = !src.table false := by
    rw [← TopTasks.table_not]
    rfl
  change IsTop (cnt' prev) ((leave_bucket P (leave_bucket P src false (p.win.total false)) true
    (p.win.total true)).top_index prev)
  generalize leave_bucket P src false (p.win.total false) = mid at *
  cases prev with
  | false =>
    rw [show (leave_bucket P mid true (p.win.total true)).top_index false = mid.top_index false from
      top_index_leave_bucket mid true _]
    exact htop1
  | true =>
    have hmid : mid.Counts P (mid.table true) (cnt true) := by
      rw [htable1]
      refine TopTasks.Counts.congr ?_ hfirst.touches.table hfirst.touches.bitmap fun _ => rfl
      rw [← hsrc1]
      exact hcounts true
    have hscan1 : Scanned P mid true (p.win.total true) := by
      have := hscan true
      unfold Scanned at this ⊢
      rwa [hindex1, htable1, hfirst.touches.table, ← hsrc1]
    refine isTop_leave_bucket hmid ?_ (hmove true) hscan1 (hindex1 ▸ h true)
    exact ((moved_leave_bucket mid true _).counts _ _ hmid (hmove0 true) (hle true) (hle' true)).1

lemma isTop_migrate_dst (p : Account Cpu) (src dst : TopTasks) {cnt cnt' : Bool → ℕ → ℕ}
    (hmove : ∀ prev i, cnt' prev i = cnt prev i + inBucket P (p.win.total prev) i)
    (h : ∀ prev, IsTop (cnt prev) (dst.top_index prev)) (prev : Bool) :
    IsTop (cnt' prev) ((migrate_top_tasks P p src dst).2.top_index prev) := by
  have htop1 := isTop_join_bucket dst false _ (hmove false) (h false)
  have hindex1 : (join_bucket P dst false (p.win.total false)).top_index true =
      dst.top_index true :=
    top_index_join_bucket dst false _
  change IsTop (cnt' prev) ((join_bucket P (join_bucket P dst false (p.win.total false)) true
    (p.win.total true)).top_index prev)
  cases prev with
  | false =>
    rw [show (join_bucket P (join_bucket P dst false (p.win.total false)) true
      (p.win.total true)).top_index false = _ from top_index_join_bucket _ true _]
    exact htop1
  | true => exact isTop_join_bucket _ true _ (hmove true) (hindex1 ▸ h true)

/-! ## The invariant -/

section Invariant

variable [DecidableEq Cpu] [Fintype Tid]

def Topped (P : Params Cpu) (v : View Cpu Tid) : Prop :=
  ∀ c prev, IsTop (v.bucket P c (label (windowOf P (v.mark c)) prev))
    ((v.busy c).top.top_index prev)

/-- No window is made smaller by a charge, tasks are charged while they run, and no migration makes
`get_top_index` miss a bucket. -/
def Act.TopSafe [DecidableEq Tid] (P : Params Cpu) (v : View Cpu Tid) : Act Cpu Tid → Prop
  | .account p wallclock c =>
    let a := (v.acct p).aligned ((v.busy (v.acct p).cpu).advance P wallclock)
    (∀ prev, a.win.total prev ≤ (a.charge c).win.total prev) ∧ (v.running p = true ∨ c = .none)
  | .migrate p _ => ∀ prev,
    Scanned P (v.busy (v.acct p).cpu).top prev ((v.acct p).win.total prev)
  | _ => True

namespace Topped

variable {v : View Cpu Tid}

lemma of_boot {s : State Cpu Tid} (hboot : Boot P s) : Topped P s.view := by
  have htop : ∀ c, (s.view.busy c).top = TopTasks.empty P := hboot.top
  intro c prev
  have hcounts := (Tabled.of_boot hboot).counts c prev
  have hzero : ((s.view.busy c).top.top_index prev) = 0 := by
    rw [htop]
    cases prev <;> rfl
  rw [hzero]
  refine .of_zero fun i => ?_
  rw [← hcounts.table i, htop]
  rfl

lemma iff_ranked :
    Topped P v ↔ Ranked (fun top cnt => ∀ prev, IsTop (cnt prev) (top.top_index prev)) P v :=
  .rfl

omit [DecidableEq Cpu] in
lemma rolls (P : Params Cpu) :
    Rolls (fun top cnt => ∀ prev, IsTop (cnt prev) (top.top_index prev)) P := by
  intro top cnt full h prev
  cases prev with
  | false => exact .of_zero fun _ => rfl
  | true =>
    cases full with
    | false => exact h false
    | true => exact .of_zero fun _ => rfl

variable [DecidableEq Tid] {p : Tid} {wallclock : ℕ}

lemma account (hc : Clocked P v) (h : Topped P v) {c : Charge}
    (hlegal : Legal P v (.account p wallclock c)) (hx : (Act.account p wallclock c).Timed P v)
    (hsafe : (Act.account p wallclock c).TopSafe P v) :
    Topped P (act P v (.account p wallclock c)) := by
  obtain ⟨hgrow, hrun⟩ := hsafe
  have hmove := bucket_account hc hlegal hx
  have hroll := (iff_ranked.mp h).roll hc (rolls P) hx.1 hx.2
  refine (iff_ranked.mp h).set hc hx.2 (cpu_rolled_charge ..) fun prev => ?_
  rw [top_rolled_charge]
  refine isTop_update_top_tasks _ hlegal.1 _ (prev_window_charge hlegal.2.2.2) hgrow hmove
    (fun hnew hfull hne => ?_) hroll prev
  rcases hrun with hrun | rfl
  · -- the running task: a whole window has passed for the queue as well
    have hms : v.mark (v.acct p).cpu = (v.acct p).mark_start := by
      rw [View.mark, of_decide_eq_true hrun]
    rw [fullWindow_eq (hc.window_advance hx.1), decide_eq_true_eq, ← hms] at hfull
    exact hc.bucket_eq_zero_of_ahead hfull
  · -- nothing is charged, and nothing is left of the window
    refine absurd ?_ hne
    change ((v.acct p).aligned _).win.prev_window = 0
    simp [Account.aligned, Account.roll, hlegal.1, hnew, hfull, rollover_task_window]

lemma migrate (h : Topped P v) (htab : Tabled P v) {new_cpu : Cpu}
    (hx : (Act.migrate p new_cpu).Timed P v) (hsafe : (Act.migrate p new_cpu).TopSafe P v)
    (hfits : v.Fits P) : Topped P (act P v (.migrate p new_cpu)) :=
  (iff_ranked.mp h).migrate hx
    ⟨isTop_migrate_src _ _ _ (htab.counts _) (bucket_migrate_src hx) (hfits _) hsafe (h _),
      isTop_migrate_dst _ _ _ (bucket_migrate_dst hx) (h _)⟩

/-- **Every action that misleads no index keeps them.** -/
theorem act (hc : Clocked P v) (htab : Tabled P v) (h : Topped P v) {x : Act Cpu Tid}
    (hlegal : Legal P v x) (hx : x.Timed P v) (hsafe : x.TopSafe P v) (hfits : v.Fits P) :
    Topped P (act P v x) := by
  refine (iff_ranked.mp h).act hc (rolls P) hlegal hx ?_ ?_
  · rintro p wallclock c rfl
    exact h.account hc hlegal hx hsafe
  · rintro p new_cpu rfl
    exact h.migrate htab hx hsafe hfits

end Topped

/-! ## Over runs of the machine -/

variable [DecidableEq Tid]

/-- `curr_top` and `prev_top` of every queue are the greatest indices with a count. -/
def State.TopIndexExact (s : State Cpu Tid) : Prop :=
  ∀ c prev,
    let top := (s.rq c).busy.top
    IsGreatest { i | top.top_tasks (top.table prev) i ≠ 0 } (top.top_index prev) ∨
      (∀ i, top.top_tasks (top.table prev) i = 0) ∧ top.top_index prev = 0

/-- The same of single steps. -/
def TopSafe (P : Params Cpu) (s : State Cpu Tid) : Step Cpu Tid → Prop
  | .ravg p event wallclock irqtime =>
    let a := (s.task p).acct.aligned ((s.task_rq p).busy.advance P wallclock)
    (∀ prev, a.win.total prev
      ≤ (a.charge (s.charge P p event wallclock irqtime)).win.total prev) ∧
    (event = .PUT_PREV_TASK ∨ event = .IRQ_UPDATE → (s.task_rq p).curr = p)
  | .migrate p _ => ∀ prev, Scanned P (s.task_rq p).busy.top prev ((s.task p).acct.win.total prev)
  | _ => True

omit [DecidableEq Cpu] [Fintype Tid] [DecidableEq Tid] in
instance (P : Params Cpu) (top : TopTasks) (prev : Bool) (load : ℕ) :
    Decidable (Scanned P top prev load) := by
  unfold Scanned; infer_instance

omit [Fintype Tid] in
instance (P : Params Cpu) (s : State Cpu Tid) (a : Step Cpu Tid) : Decidable (TopSafe P s a) := by
  refine Step.casesOn a ?_ ?_ ?_ ?_ ?_ ?_ ?_ ?_ ?_ ?_ ?_ ?_ ?_ ?_
  all_goals
    intros
    dsimp only [TopSafe]
    infer_instance

variable {s : State Cpu Tid} {a : Step Cpu Tid}

omit [DecidableEq Cpu] [Fintype Tid] in
lemma charge_eq_none {P : Params Cpu} {p : Tid} {event : TaskEvent}
    (hidle : (s.task p).acct.is_idle = false) (hcurr : (s.task_rq p).curr ≠ p)
    (hput : event ≠ .PUT_PREV_TASK) (hirq : event ≠ .IRQ_UPDATE) (wallclock irqtime : ℕ) :
    s.charge P p event wallclock irqtime = .none := by
  unfold State.charge ravg_charge
  obtain ⟨c, l, e, g, d, hcycles⟩ := update_task_rq_cpu_cycles_spec P
    (update_window_start P (s.task_rq p) wallclock) (s.task (s.task_rq p).curr).acct.is_idle
    (s.task p) event wallclock irqtime
  unfold busy_charge account_busy_for_cpu_time
  cases event <;> simp_all [SCHED_FREQ_ACCOUNT_WAIT_TIME]

omit [Fintype Tid] in
lemma Refines.topSafe {x : Act Cpu Tid}
    (hx : Refines P s a x) (h : TopSafe P s a) : x.TopSafe P s.view := by
  cases x with
  | account p wallclock c =>
    obtain ⟨event, irqtime, rfl, rfl⟩ := hx.charge rfl
    refine ⟨h.1, ?_⟩
    by_cases hcurr : (s.task_rq p).curr = p
    · exact .inl (decide_eq_true hcurr)
    · refine .inr (charge_eq_none hx.legal.1 hcurr ?_ ?_ wallclock irqtime)
      · exact fun he => hcurr (h.2 (.inl he))
      · exact fun he => hcurr (h.2 (.inr he))
  | migrate p new_cpu =>
    obtain rfl := hx.migrate rfl
    exact h
  | _ => trivial

lemma Topped.step (hc : Clocked P s.view) (htab : Tabled P s.view)
    (h : Topped P s.view) (htimed : Timed s a ∧ Counted P s a) (hsafe : TopSafe P s a)
    (hbefore : ∀ c prev i, s.bucket_count P c prev i ≤ 255) : Topped P (step P s a).view := by
  obtain ⟨x, hx⟩ := step_refines P s a
  rw [hx.view]
  exact h.act hc htab hx.legal (hx.timed htimed) (hx.topSafe hsafe) (hc.fits_of_count hbefore)

omit [Fintype Tid] in
lemma TopSafe.keepsNonzero (h : TopSafe P s a) : KeepsNonzero P s a := by
  cases a with
  | ravg p event wallclock irqtime =>
    exact fun prev hne h0 => hne (Nat.eq_zero_of_le_zero (h0 ▸ h.1 prev))
  | _ => trivial

/-- **The indices are right, over every run** from boot in which no bucket holds more than 255
tasks, no update passes `2 ^ 31` windows and every step is `TopSafe`. -/
theorem top_index_of_run (P : Params Cpu) (s : State Cpu Tid) (hboot : Boot P s)
    (l : List (Step Cpu Tid))
    (hl : Run.Ok (step P) (fun s a => (Timed s a ∧ Counted P s a) ∧ TopSafe P s a) s l)
    (hfits : ∀ l', l' <+: l → ∀ c prev i,
      (Run.exec (step P) s l').bucket_count P c prev i ≤ 255) :
    (Run.exec (step P) s l).TopIndexExact := by
  obtain ⟨-, htab, htop⟩ := Run.Ok.inv
    (I := fun s : State Cpu Tid => Clocked P s.view ∧ Tabled P s.view ∧ Topped P s.view)
    (fun s a ⟨hc, htab, htop⟩ ⟨⟨htimed, hsafe⟩, hbefore, hafter⟩ =>
      have hc' := hc.step htimed
      ⟨hc', htab.step hc hsafe.keepsNonzero hc' htimed hbefore hafter,
        htop.step hc htab htimed hsafe hbefore⟩)
    ⟨.of_boot hboot, .of_boot hboot, .of_boot hboot⟩
    (hl.with_states hfits)
  intro c prev
  exact isGreatest_of_isTop ((htop c prev).congr ((htab.counts c prev).table))

end Invariant

theorem top_index_of_moved_task : let l : List (Step Bool (Fin 4)) :=
      [.ravg 2 .PICK_NEXT_TASK 1 0, .switch false 2, .ravg 2 .TASK_UPDATE 100001 0,
        .ravg 0 .PICK_NEXT_TASK 100001 0, .switch false 0, .ravg 1 .TASK_UPDATE 100001 0,
        .migrate 2 true]
    let s := Run.exec (step platform) atBoot l
    (s.rq true).busy.top.curr_top = 6 ∧ (s.rq false).busy.top.curr_top = 0 ∧ s.TopIndexExact := by
  refine ⟨by decide +kernel, by decide +kernel, ?_⟩
  refine top_index_of_run platform atBoot atBoot_boot _ (by decide +kernel) fun l' _ c prev i => ?_
  exact (Finset.card_le_univ _).trans (by decide +kernel)

/-- Two tasks are in buckets 900 and 600. The scan begins at bit 900, and bucket 600 is bit 399. -/
theorem top_index_lost_by_migration : let l : List (Step Bool (Fin 4)) :=
      [.ravg 2 .PICK_NEXT_TASK 1 0, .switch false 2, .ravg 3 .TASK_MIGRATE 1 0, .migrate 3 true,
        .switch true 3, .ravg 3 .PUT_PREV_TASK 9600001 0, .ravg 1 .PICK_NEXT_TASK 9600001 0,
        .switch true 1, .ravg 2 .TASK_UPDATE 9600001 0, .migrate 3 false,
        .ravg 2 .PUT_PREV_TASK 14400001 0, .ravg 0 .PICK_NEXT_TASK 14400001 0, .switch false 0,
        .ravg 1 .TASK_UPDATE 14400001 0, .migrate 2 true]
    let s := Run.exec (step platform) atBoot l
    Run.Ok (step platform) Timed atBoot l ∧
      (∀ l', l' <+: l → ∀ c prev i,
        (Run.exec (step platform) atBoot l').bucket_count platform c prev i ≤ 255) ∧
      (s.rq false).busy.top.top_tasks (s.rq false).busy.top.curr_table 600 = 1 ∧
      (s.rq false).busy.top.curr_top = 0 ∧ ¬ s.TopIndexExact := by
  refine ⟨by decide +kernel, fun l' _ c prev i => (Finset.card_le_univ _).trans (by decide +kernel),
    by decide +kernel,
    by decide +kernel, fun h => ?_⟩
  rcases h false false with h | h
  · have hle := h.2 (show 600 ∈ _ by decide +kernel)
    revert hle
    decide +kernel
  · have hzero := h.1 600
    revert hzero
    decide +kernel

end KernelExtra.Walt
