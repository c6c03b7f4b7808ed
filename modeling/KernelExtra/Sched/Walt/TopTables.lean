/-
Top tasks: what the operations on the bucket tables do.

Seven places of the source write them, each with its own mix of operations; what they are all for is
to take one task from the bucket of one load to that of another, where a load of zero is no bucket
at all. `Moved` says that, for counts that fit.
-/
import KernelExtra.Sched.Walt.Migrate

namespace KernelExtra.Walt

variable {Cpu : Type} {P : Params Cpu}

/-! ## One table -/

def inBucket (P : Params Cpu) (load i : ℕ) : ℕ :=
  if load ≠ 0 ∧ load_to_index P load = i then 1 else 0

lemma load_to_index_lt (P : Params Cpu) (load : ℕ) : load_to_index P load < P.NUM_LOAD_INDICES := by
  have := P.indices_pos
  unfold load_to_index
  omega

@[simp] lemma load_to_index_zero (P : Params Cpu) : load_to_index P 0 = 0 := by
  simp [load_to_index]

@[simp] lemma inBucket_zero (P : Params Cpu) (i : ℕ) : inBucket P 0 i = 0 := by
  simp [inBucket]

lemma inBucket_self (P : Params Cpu) {load : ℕ} (h : load ≠ 0) :
    inBucket P load (load_to_index P load) = 1 := by
  simp [inBucket, h]

lemma inBucket_of_ne (P : Params Cpu) {load i : ℕ} (h : load_to_index P load ≠ i) :
    inBucket P load i = 0 := by
  simp [inBucket, h]

/-- Table and bitmap hold the counts. -/
structure TopTasks.Counts (P : Params Cpu) (top : TopTasks) (t : Bool) (cnt : ℕ → ℕ) : Prop where
  table : ∀ i, top.top_tasks t i = cnt i
  bit : ∀ i, i < P.NUM_LOAD_INDICES →
    (top.top_tasks_bitmap t (P.NUM_LOAD_INDICES - 1 - i) = true ↔ cnt i ≠ 0)

variable {top top' : TopTasks} {t : Bool} {cnt cnt' : ℕ → ℕ}

lemma TopTasks.Counts.congr (h : top.Counts P t cnt) (htable : top'.top_tasks t = top.top_tasks t)
    (hbit : top'.top_tasks_bitmap t = top.top_tasks_bitmap t) (hcnt : ∀ i, cnt' i = cnt i) :
    top'.Counts P t cnt' := by
  refine ⟨fun i => ?_, fun i hi => ?_⟩
  · rw [htable, hcnt, h.table]
  · rw [hbit, hcnt, h.bit i hi]

/-! ## The pieces -/

section

variable (top : TopTasks) (t : Bool) (index : ℕ)

lemma table_dec (i : ℕ) : (top.dec t index).top_tasks t i
    = if i = index then (top.top_tasks t index + 255) % 256 else top.top_tasks t i := by
  simp [TopTasks.dec, Function.update_apply]

lemma table_inc (i : ℕ) : (top.inc t index).top_tasks t i
    = if i = index then (top.top_tasks t index + 1) % 256 else top.top_tasks t i := by
  simp [TopTasks.inc, Function.update_apply]

@[simp] lemma table_clear_if_empty : (top.clear_if_empty P t index).top_tasks = top.top_tasks := by
  unfold TopTasks.clear_if_empty; split_ifs <;> rfl

@[simp] lemma table_set_if_one : (top.set_if_one P t index).top_tasks = top.top_tasks := by
  unfold TopTasks.set_if_one; split_ifs <;> rfl

@[simp] lemma bitmap_dec : (top.dec t index).top_tasks_bitmap = top.top_tasks_bitmap := rfl

@[simp] lemma bitmap_inc : (top.inc t index).top_tasks_bitmap = top.top_tasks_bitmap := rfl

@[simp] lemma below_zero_inc : (top.inc t index).below_zero = top.below_zero := rfl

lemma below_zero_dec (h : top.top_tasks t index ≠ 0) :
    (top.dec t index).below_zero = top.below_zero := by
  simp [TopTasks.dec, h]

@[simp] lemma below_zero_clear_if_empty :
    (top.clear_if_empty P t index).below_zero = top.below_zero := by
  unfold TopTasks.clear_if_empty; split_ifs <;> rfl

@[simp] lemma below_zero_set_if_one : (top.set_if_one P t index).below_zero = top.below_zero := by
  unfold TopTasks.set_if_one; split_ifs <;> rfl

/-! Top indices are beside the tables. -/

variable (prev : Bool) (n : ℕ)

lemma TopTasks.raise_curr_eq :
    top.raise_curr n = top.set_top_index false (max (top.top_index false) n) := by
  rcases lt_or_ge top.curr_top n with h | h
  · exact (if_pos h).trans (congrArg (top.set_top_index false) (max_eq_right h.le)).symm
  · exact (if_neg h.not_gt).trans (congrArg (top.set_top_index false) (max_eq_left h)).symm

lemma TopTasks.raise_prev_eq :
    top.raise_prev n = top.set_top_index true (max (top.top_index true) n) := by
  rcases lt_or_ge top.prev_top n with h | h
  · exact (if_pos h).trans (congrArg (top.set_top_index true) (max_eq_right h.le)).symm
  · exact (if_neg h.not_gt).trans (congrArg (top.set_top_index true) (max_eq_left h)).symm

@[simp] lemma table_set_top_index : (top.set_top_index prev n).top_tasks = top.top_tasks := by
  cases prev <;> rfl

@[simp] lemma bitmap_set_top_index :
    (top.set_top_index prev n).top_tasks_bitmap = top.top_tasks_bitmap := by
  cases prev <;> rfl

@[simp] lemma below_zero_set_top_index :
    (top.set_top_index prev n).below_zero = top.below_zero := by
  cases prev <;> rfl

variable {top t index} {f : ℕ → Prop}

section

variable (hx : index < P.NUM_LOAD_INDICES) (h : ∀ i, i < P.NUM_LOAD_INDICES →
  (top.top_tasks_bitmap t (P.NUM_LOAD_INDICES - 1 - i) = true ↔ f i))
  (i : ℕ) (hi : i < P.NUM_LOAD_INDICES)
include hx h hi

lemma bit_clear_if_empty :
    (top.clear_if_empty P t index).top_tasks_bitmap t (P.NUM_LOAD_INDICES - 1 - i) = true ↔
      f i ∧ ¬ (i = index ∧ top.top_tasks t index = 0) := by
  unfold TopTasks.clear_if_empty
  by_cases h0 : top.top_tasks t index = 0
  · rcases eq_or_ne i index with rfl | hix
    · simp [h0, show P.NUM_LOAD_INDICES - 1 - i = P.NUM_LOAD_INDICES - i - 1 by omega]
    · have hpos : P.NUM_LOAD_INDICES - 1 - i ≠ P.NUM_LOAD_INDICES - index - 1 := by omega
      simp [h0, hpos, hix, h i hi]
  · simp [h0, h i hi]

lemma bit_set_if_one :
    (top.set_if_one P t index).top_tasks_bitmap t (P.NUM_LOAD_INDICES - 1 - i) = true ↔
      f i ∨ i = index ∧ top.top_tasks t index = 1 := by
  unfold TopTasks.set_if_one
  by_cases h1 : top.top_tasks t index = 1
  · rcases eq_or_ne i index with rfl | hix
    · simp [h1, show P.NUM_LOAD_INDICES - 1 - i = P.NUM_LOAD_INDICES - i - 1 by omega]
    · have hpos : P.NUM_LOAD_INDICES - 1 - i ≠ P.NUM_LOAD_INDICES - index - 1 := by omega
      simp [h1, hpos, hix, h i hi]
  · simp [h1, h i hi]

end

end

/-! ## What is left alone -/

/-- Only table `t` has changed. -/
structure Touches (t : Bool) (top top' : TopTasks) : Prop where
  curr_table : top'.curr_table = top.curr_table
  table : top'.top_tasks (!t) = top.top_tasks (!t)
  bitmap : top'.top_tasks_bitmap (!t) = top.top_tasks_bitmap (!t)

namespace Touches

variable {top'' : TopTasks}

lemma refl : Touches t top top := ⟨rfl, rfl, rfl⟩

variable (h : Touches t top top')
include h

lemma trans (h' : Touches t top' top'') : Touches t top top'' :=
  ⟨h'.curr_table.trans h.curr_table, h'.table.trans h.table, h'.bitmap.trans h.bitmap⟩

lemma dec (index : ℕ) : Touches t top (top'.dec t index) :=
  h.trans ⟨rfl, by simp [TopTasks.dec], rfl⟩

lemma inc (index : ℕ) : Touches t top (top'.inc t index) :=
  h.trans ⟨rfl, by simp [TopTasks.inc], rfl⟩

lemma clear_if_empty (index : ℕ) : Touches t top (top'.clear_if_empty P t index) := by
  refine h.trans ?_
  unfold TopTasks.clear_if_empty
  split_ifs
  · exact ⟨rfl, rfl, by simp⟩
  · exact refl

lemma set_if_one (index : ℕ) : Touches t top (top'.set_if_one P t index) := by
  refine h.trans ?_
  unfold TopTasks.set_if_one
  split_ifs
  · exact ⟨rfl, rfl, by simp⟩
  · exact refl

lemma set_top_index (prev : Bool) (index : ℕ) : Touches t top (top'.set_top_index prev index) := by
  unfold TopTasks.set_top_index
  split_ifs <;> exact ⟨h.curr_table, h.table, h.bitmap⟩

end Touches

/-! ## Moves -/

/-- One task goes from the bucket of load `x` to the bucket of load `y` in table `t`. -/
structure Moved (P : Params Cpu) (t : Bool) (x y : ℕ) (top top' : TopTasks) : Prop where
  touches : Touches t top top'
  counts : ∀ cnt cnt' : ℕ → ℕ, top.Counts P t cnt →
    (∀ i, cnt' i + inBucket P x i = cnt i + inBucket P y i) → (∀ i, cnt i ≤ 255) →
    (∀ i, cnt' i ≤ 255) → top'.Counts P t cnt' ∧ top'.below_zero = top.below_zero

variable {x y : ℕ}

lemma Moved.refl : Moved P t x x top top :=
  ⟨.refl, fun cnt cnt' h hmove _ _ =>
    ⟨h.congr rfl rfl fun i => by have := hmove i; omega, rfl⟩⟩

lemma move_cases (hmove : ∀ i, cnt' i + inBucket P x i = cnt i + inBucket P y i) (i : ℕ) :
    (cnt' i < cnt i → x ≠ 0 ∧ i = load_to_index P x ∧ cnt i = cnt' i + 1) ∧
    (cnt i < cnt' i → y ≠ 0 ∧ i = load_to_index P y ∧ cnt' i = cnt i + 1) := by
  have h := hmove i
  unfold inBucket at h
  constructor <;> intro hlt <;> split_ifs at h <;> omega

lemma table_of_dec (h : top.Counts P t cnt)
    (hx : x ≠ 0) (hmove : ∀ i, cnt' i + inBucket P x i = cnt i) (hcnt : ∀ i, cnt i ≤ 255) :
    (∀ i, (top.dec t (load_to_index P x)).top_tasks t i = cnt' i) ∧
      (top.dec t (load_to_index P x)).below_zero = top.below_zero := by
  have hself := hmove (load_to_index P x)
  rw [inBucket_self P hx] at hself
  have hle := hcnt (load_to_index P x)
  refine ⟨fun i => ?_, below_zero_dec _ _ _ (by rw [h.table]; omega)⟩
  rw [table_dec, h.table]
  split_ifs with hi
  · subst hi
    omega
  · have := hmove i
    rw [inBucket_of_ne P (Ne.symm hi)] at this
    rw [h.table]
    omega

lemma table_of_inc (htable : ∀ i, top.top_tasks t i = cnt i) (hy : y ≠ 0)
    (hmove : ∀ i, cnt' i = cnt i + inBucket P y i) (hcnt : ∀ i, cnt' i ≤ 255) :
    ∀ i, (top.inc t (load_to_index P y)).top_tasks t i = cnt' i := by
  intro i
  have hself := hmove (load_to_index P y)
  rw [inBucket_self P hy] at hself
  have hle := hcnt (load_to_index P y)
  rw [table_inc, htable]
  split_ifs with hi
  · subst hi
    omega
  · have := hmove i
    rw [inBucket_of_ne P (Ne.symm hi)] at this
    rw [htable]
    omega

section

variable (cnt)

variable (htable : ∀ i, top.top_tasks t i = cnt' i)
  (hbit : ∀ i, i < P.NUM_LOAD_INDICES →
    (top.top_tasks_bitmap t (P.NUM_LOAD_INDICES - 1 - i) = true ↔ cnt i ≠ 0))
include htable hbit

lemma counts_clear_set (hmove : ∀ i, cnt' i + inBucket P x i = cnt i + inBucket P y i) :
    ((top.clear_if_empty P t (load_to_index P x)).set_if_one P t (load_to_index P y)).Counts
      P t cnt' := by
  refine ⟨by simpa using htable, fun i hi => ?_⟩
  refine (bit_set_if_one (load_to_index_lt P y)
    (bit_clear_if_empty (load_to_index_lt P x) hbit) i hi).trans ?_
  rw [table_clear_if_empty, htable, htable]
  obtain ⟨hdown, hup⟩ := move_cases hmove i
  rcases lt_trichotomy (cnt' i) (cnt i) with hlt | heq | hgt
  · obtain ⟨-, hi', -⟩ := hdown hlt
    rw [← hi']
    constructor
    · rintro (⟨-, h⟩ | ⟨rfl, h⟩)
      · simpa using h
      · omega
    · intro h
      exact .inl ⟨by omega, by simpa using h⟩
  · rw [heq]
    constructor
    · rintro (⟨h, -⟩ | ⟨rfl, h⟩) <;> omega
    · intro h
      exact .inl ⟨h, fun ⟨hx, h0⟩ => h (by rw [← heq, hx, h0])⟩
  · obtain ⟨-, hi', -⟩ := hup hgt
    rw [← hi']
    constructor
    · omega
    · intro h
      by_cases h1 : cnt' i = 1
      · exact .inr ⟨rfl, h1⟩
      · exact .inl ⟨by omega, fun ⟨hx, h0⟩ => h (by rw [hx, h0])⟩

lemma counts_clear (hmove : ∀ i, cnt' i + inBucket P x i = cnt i) :
    (top.clear_if_empty P t (load_to_index P x)).Counts P t cnt' := by
  refine ⟨by simpa using htable, fun i hi => ?_⟩
  refine (bit_clear_if_empty (load_to_index_lt P x) hbit i hi).trans ?_
  rw [htable]
  have hdown := (move_cases (y := 0) (by simpa using hmove) i).1
  have := hmove i
  constructor
  · rintro ⟨h1, h2⟩ h0
    exact h2 ⟨(hdown (by omega)).2.1, (hdown (by omega)).2.1 ▸ h0⟩
  · intro h0
    exact ⟨by omega, fun h2 => h0 (h2.1 ▸ h2.2)⟩

lemma counts_set (hmove : ∀ i, cnt' i = cnt i + inBucket P y i) :
    (top.set_if_one P t (load_to_index P y)).Counts P t cnt' := by
  refine ⟨by simpa using htable, fun i hi => ?_⟩
  refine (bit_set_if_one (load_to_index_lt P y) hbit i hi).trans ?_
  rw [htable]
  have hup := (move_cases (x := 0) (by simpa using hmove) i).2
  have := hmove i
  constructor
  · rintro (h1 | ⟨rfl, h1⟩) <;> omega
  · intro h0
    by_cases h1 : cnt i = 0
    · obtain ⟨-, hi', -⟩ := hup (by omega)
      exact .inr ⟨hi', by rw [← hi']; omega⟩
    · exact .inl h1

end

lemma moved_leave_bucket (top : TopTasks) (prev : Bool) (load : ℕ) :
    Moved P (top.table prev) load 0 top (leave_bucket P top prev load) := by
  by_cases hload : load = 0
  · subst hload
    exact Moved.refl
  unfold leave_bucket
  dsimp only
  refine ⟨?_, fun cnt cnt' h hmove hcnt _ => ?_⟩
  · split_ifs
    · exact ((Touches.refl.dec _).clear_if_empty _).set_top_index prev _
    · exact (Touches.refl.dec _).clear_if_empty _
  · obtain ⟨htable, hbelow⟩ := table_of_dec h hload hmove hcnt
    have hcounts := counts_clear cnt htable h.bit hmove
    split_ifs
    · exact ⟨hcounts.congr (by simp) (by simp) fun _ => rfl, by simpa using hbelow⟩
    · exact ⟨hcounts, by simpa using hbelow⟩

lemma moved_join_bucket (top : TopTasks) (prev : Bool) (load : ℕ) :
    Moved P (top.table prev) 0 load top (join_bucket P top prev load) := by
  by_cases hload : load = 0
  · subst hload
    exact Moved.refl
  unfold join_bucket
  dsimp only
  refine ⟨?_, fun cnt cnt' h hmove _ hcnt => ?_⟩
  · split_ifs
    · exact ((Touches.refl.inc _).set_if_one _).set_top_index prev _
    · exact (Touches.refl.inc _).set_if_one _
  · have htable := table_of_inc h.table hload hmove hcnt
    have hcounts := counts_set cnt htable h.bit hmove
    split_ifs
    · exact ⟨hcounts.congr (by simp) (by simp) fun _ => rfl, by simp⟩
    · exact ⟨hcounts, by simp⟩

lemma table_of_dec_inc
    (h : top.Counts P t cnt) (hmove : ∀ i, cnt' i + inBucket P x i = cnt i + inBucket P y i)
    (hdiff : load_to_index P x ≠ load_to_index P y ∨ x = 0) (hcnt : ∀ i, cnt i ≤ 255)
    (hcnt' : ∀ i, cnt' i ≤ 255) :
    let top1 := if x ≠ 0 then top.dec t (load_to_index P x) else top
    let top2 := if y ≠ 0 then top1.inc t (load_to_index P y) else top1
    (∀ i, top2.top_tasks t i = cnt' i) ∧ top2.below_zero = top.below_zero ∧
      top2.top_tasks_bitmap = top.top_tasks_bitmap := by
  intro top1 top2
  have hle : ∀ i, inBucket P x i ≤ cnt i := by
    intro i
    rcases hdiff with hne | rfl
    · have := hmove i
      by_cases hi : load_to_index P x = i
      · have hy : inBucket P y i = 0 := inBucket_of_ne P (by omega)
        omega
      · rw [inBucket_of_ne P hi]
        exact zero_le
    · simp
  have h1 : (∀ i, top1.top_tasks t i = cnt i - inBucket P x i) ∧
      top1.below_zero = top.below_zero ∧ top1.top_tasks_bitmap = top.top_tasks_bitmap := by
    by_cases hx : x = 0
    · subst hx
      simp [top1, h.table]
    · have := @table_of_dec _ P top t cnt (fun i => cnt i - inBucket P x i) x h hx
        (fun i => Nat.sub_add_cancel (hle i)) hcnt
      simpa [top1, hx] using this
  obtain ⟨htable1, hbelow1, hbit1⟩ := h1
  by_cases hy : y = 0
  · subst hy
    refine ⟨fun i => ?_, by simpa [top2] using hbelow1, by simpa [top2] using hbit1⟩
    have := hmove i
    rw [inBucket_zero] at this
    simp only [top2, ne_eq, not_true_eq_false, if_false]
    rw [htable1]
    omega
  · have hmove1 : ∀ i, cnt' i = cnt i - inBucket P x i + inBucket P y i := by
      intro i
      have := hmove i
      have := hle i
      omega
    have := table_of_inc htable1 hy hmove1 hcnt'
    refine ⟨by simpa [top2, hy] using this, by simpa [top2, hy] using hbelow1,
      by simpa [top2, hy] using hbit1⟩

lemma move_same_bucket (hxy : x ≠ 0 → y ≠ 0)
    (hsame : ¬ (load_to_index P x ≠ load_to_index P y ∨ x = 0 ∧ y ≠ 0))
    (hmove : ∀ i, cnt' i + inBucket P x i = cnt i + inBucket P y i) (i : ℕ) : cnt' i = cnt i := by
  have := hmove i
  have hb : inBucket P x i = inBucket P y i := by
    unfold inBucket
    have h1 : load_to_index P x = load_to_index P y := by tauto
    have h2 : x ≠ 0 ↔ y ≠ 0 := by tauto
    simp [h1, h2]
  omega

lemma TopTasks.table_false (top : TopTasks) : top.table false = top.curr_table := Bool.false_xor _

lemma TopTasks.table_true (top : TopTasks) : top.table true = !top.curr_table := Bool.true_xor _

lemma moved_update_curr_bucket (top : TopTasks) (hxy : x ≠ 0 → y ≠ 0) :
    Moved P (top.table false) x y top (update_curr_bucket P top x y) := by
  rw [TopTasks.table_false]
  unfold update_curr_bucket
  dsimp only
  rw [TopTasks.raise_curr_eq]
  refine ⟨.set_if_one (.clear_if_empty ?_ _) _, fun cnt cnt' h hmove hcnt hcnt' => ?_⟩
  · split_ifs
    · exact ((Touches.refl.dec _).inc _).set_top_index _ _
    · exact (Touches.refl.inc _).set_top_index _ _
    · exact (Touches.refl.dec _).set_top_index _ _
    · exact Touches.refl.set_top_index _ _
    · exact .refl
  · by_cases hgo : load_to_index P x ≠ load_to_index P y ∨ x = 0 ∧ y ≠ 0
    · obtain ⟨htable, hbelow, hbit⟩ := table_of_dec_inc h hmove (hgo.imp_right And.left) hcnt hcnt'
      rw [if_pos hgo]
      refine ⟨counts_clear_set cnt ?_ ?_ hmove, by simpa using hbelow⟩
      · simpa using htable
      · rw [bitmap_set_top_index, hbit]
        exact h.bit
    · have hsame := move_same_bucket hxy hgo hmove
      rw [if_neg hgo]
      exact ⟨counts_clear_set cnt (fun i => (h.table i).trans (hsame i).symm) h.bit hmove, by simp⟩

lemma moved_update_prev_bucket (top : TopTasks) (hxy : x ≠ 0 → y ≠ 0) :
    Moved P (top.table true) x y top (update_prev_bucket P top x y false) := by
  rw [TopTasks.table_true]
  unfold update_prev_bucket
  dsimp only
  by_cases hgo : load_to_index P x ≠ load_to_index P y ∨ x = 0 ∧ y ≠ 0
  · have hy : y ≠ 0 := by
      rintro rfl
      rcases hgo with hne | ⟨-, h0⟩
      · refine hne ?_
        rw [show x = 0 by tauto]
      · exact h0 rfl
    rw [if_pos hgo, TopTasks.raise_prev_eq]
    refine ⟨.set_if_one (.clear_if_empty (.set_top_index (.inc ?_ _) _ _) _) _,
      fun cnt cnt' h hmove hcnt hcnt' => ?_⟩
    · split_ifs
      · exact Touches.refl.dec _
      · exact .refl
    · obtain ⟨htable, hbelow, hbit⟩ := table_of_dec_inc h hmove (hgo.imp_right And.left) hcnt hcnt'
      rw [if_pos hy] at htable hbelow hbit
      refine ⟨counts_clear_set cnt ?_ ?_ hmove, by simpa using hbelow⟩
      · simpa using htable
      · rw [bitmap_set_top_index, hbit]
        exact h.bit
  · rw [if_neg hgo]
    exact ⟨.refl, fun cnt cnt' h hmove _ _ =>
      ⟨h.congr rfl rfl (move_same_bucket hxy hgo hmove), rfl⟩⟩

lemma moved_update_prev_bucket_full (top : TopTasks) (x y : ℕ) :
    Moved P (top.table true) 0 y top (update_prev_bucket P top x y true) := by
  rw [TopTasks.table_true]
  unfold update_prev_bucket
  dsimp only
  refine ⟨.set_if_one ?_ _, fun cnt cnt' h hmove _ hcnt' => ?_⟩
  · split_ifs
    · have htouch : Touches (!top.curr_table) top (top.inc (!top.curr_table) (load_to_index P y)) :=
        Touches.refl.inc _
      exact ⟨htouch.curr_table, htouch.table, htouch.bitmap⟩
    · exact .refl
  · by_cases hy : y = 0
    · subst hy
      exact ⟨counts_set cnt (fun i => by simpa [h.table] using (hmove i).symm) h.bit hmove, by simp⟩
    · rw [if_pos hy]
      exact ⟨counts_set cnt (table_of_inc h.table hy hmove hcnt') h.bit hmove, by simp⟩

lemma moved_enter_curr_bucket (top : TopTasks) (y : ℕ) :
    Moved P (top.table false) 0 y top (enter_curr_bucket P top y) := by
  rw [TopTasks.table_false]
  unfold enter_curr_bucket
  by_cases hy : y = 0
  · subst hy
    exact Moved.refl
  rw [if_pos hy]
  dsimp only
  rw [TopTasks.raise_curr_eq]
  refine ⟨((Touches.refl.inc _).set_top_index _ _).set_if_one _, fun cnt cnt' h hmove _ hcnt' => ?_⟩
  refine ⟨counts_set cnt ?_ ?_ hmove, by simp⟩
  · simpa using table_of_inc h.table hy hmove hcnt'
  · simpa using h.bit

/-! ## Both tables -/

/-- The windows of a task, as the tables know them, change from `w` to `w'`. -/
def MovedWindows (P : Params Cpu) (w w' : Bool → ℕ) (top top' : TopTasks) : Prop :=
  ∃ first mid, Moved P (top.table first) (w first) (w' first) top mid ∧
    Moved P (mid.table (!first)) (w (!first)) (w' (!first)) mid top'

lemma TopTasks.table_not (top : TopTasks) (prev : Bool) : top.table (!prev) = !top.table prev := by
  cases prev <;> simp [TopTasks.table]

lemma TopTasks.table_congr (h : top'.curr_table = top.curr_table)
    (prev : Bool) : top'.table prev = top.table prev := by
  rw [TopTasks.table, TopTasks.table, h]

/-- **Both tables follow the task.** -/
theorem MovedWindows.counts {w w' : Bool → ℕ}
    (h : MovedWindows P w w' top top') {cnt cnt' : Bool → ℕ → ℕ}
    (hcounts : ∀ prev, top.Counts P (top.table prev) (cnt prev))
    (hmove : ∀ prev i, cnt' prev i + inBucket P (w prev) i = cnt prev i + inBucket P (w' prev) i)
    (hcnt : ∀ prev i, cnt prev i ≤ 255) (hcnt' : ∀ prev i, cnt' prev i ≤ 255) :
    (∀ prev, top'.Counts P (top'.table prev) (cnt' prev)) ∧ top'.below_zero = top.below_zero := by
  obtain ⟨first, mid, h1, h2⟩ := h
  have ht1 := TopTasks.table_congr h1.touches.curr_table
  have ht2 := TopTasks.table_congr h2.touches.curr_table
  obtain ⟨hc1, hz1⟩ := h1.counts _ _ (hcounts first) (hmove first) (hcnt first) (hcnt' first)
  -- the second table is untouched so far
  have hother : mid.Counts P (mid.table (!first)) (cnt (!first)) := by
    rw [ht1, TopTasks.table_not]
    refine TopTasks.Counts.congr ?_ h1.touches.table h1.touches.bitmap fun _ => rfl
    rw [← TopTasks.table_not]
    exact hcounts _
  obtain ⟨hc2, hz2⟩ := h2.counts _ _ hother (hmove _) (hcnt _) (hcnt' _)
  refine ⟨fun prev => ?_, hz2.trans hz1⟩
  rw [ht2]
  rcases Bool.eq_or_eq_not prev first with rfl | rfl
  · have hback : mid.table prev = !mid.table (!prev) := by simp [TopTasks.table_not]
    rw [hback]
    refine TopTasks.Counts.congr ?_ h2.touches.table h2.touches.bitmap fun _ => rfl
    rw [← hback, ht1]
    exact hc1
  · exact hc2

/-- **`update_top_tasks`**, with the current window before the rollover. -/
theorem moved_update_top_tasks [DecidableEq Cpu] (top : TopTasks) {a : Account Cpu}
    (hidle : a.is_idle = false) {new full : Bool} (n : ℕ) {p : Account Cpu}
    (hstay : new = false → p.win.prev_window = a.win.prev_window)
    (hkeep : ∀ prev, (a.roll n new full).win.total prev ≠ 0 → p.win.total prev ≠ 0) :
    MovedWindows P (a.roll n new full).win.total p.win.total top
      (update_top_tasks P p top a.win.curr_window new full) := by
  cases new with
  | false =>
    have hroll : a.roll n false full = a := by simp [Account.roll]
    rw [hroll] at hkeep ⊢
    have hprev : a.win.total true = p.win.total true := (hstay rfl).symm
    refine ⟨true, top, hprev ▸ Moved.refl, ?_⟩
    unfold update_top_tasks
    by_cases heq : a.win.curr_window = p.win.curr_window
    · rw [if_pos ⟨heq, rfl⟩]
      have hcurr : a.win.total false = p.win.total false := heq
      exact hcurr ▸ Moved.refl
    · rw [if_neg (fun h => heq h.1), if_pos rfl]
      exact moved_update_curr_bucket top (hkeep false)
  | true =>
    have hroll : a.roll n true full = rollover_task_window n a full := by
      simp [Account.roll, hidle]
    rw [hroll] at hkeep ⊢
    unfold update_top_tasks
    rw [if_neg (by simp), if_neg (by simp)]
    refine ⟨true, update_prev_bucket P top a.win.curr_window p.win.prev_window full, ?_,
      moved_enter_curr_bucket _ _⟩
    cases full with
    | false => exact moved_update_prev_bucket top (hkeep true)
    | true => exact moved_update_prev_bucket_full top _ _

lemma moved_migrate_src (p : Account Cpu) (src dst : TopTasks) :
    MovedWindows P p.win.total (fun _ => 0) src (migrate_top_tasks P p src dst).1 :=
  ⟨false, _, moved_leave_bucket .., moved_leave_bucket ..⟩

lemma moved_migrate_dst (p : Account Cpu) (src dst : TopTasks) :
    MovedWindows P (fun _ => 0) p.win.total dst (migrate_top_tasks P p src dst).2 :=
  ⟨false, _, moved_join_bucket .., moved_join_bucket ..⟩

/-! ## Rollover -/

theorem counts_clear_table (top : TopTasks) (t : Bool) : (top.clear P t).Counts P t fun _ => 0 := by
  refine ⟨fun i => by simp [TopTasks.clear], fun i hi => ?_⟩
  simp only [TopTasks.clear, Function.update_self, decide_eq_true_eq]
  omega

lemma table_rollover (top : TopTasks) (full prev : Bool) :
    (rollover_top_tasks P top full).table prev = top.table (!prev) := by
  cases prev <;> cases full <;> simp [rollover_top_tasks, TopTasks.table]

lemma counts_rollover_curr (top : TopTasks) (full : Bool) :
    (rollover_top_tasks P top full).Counts P ((rollover_top_tasks P top full).table false)
      fun _ => 0 := by
  rw [table_rollover, Bool.not_false, TopTasks.table_true]
  refine (counts_clear_table top _).congr ?_ ?_ fun _ => rfl
  all_goals cases full <;> simp [rollover_top_tasks, TopTasks.clear]

lemma counts_rollover_prev {full : Bool}
    (h : full = false → top.Counts P (top.table false) cnt) (hfull : full = true → ∀ i, cnt i = 0) :
    (rollover_top_tasks P top full).Counts P ((rollover_top_tasks P top full).table true) cnt := by
  rw [table_rollover, Bool.not_true, TopTasks.table_false]
  cases full with
  | false =>
    rw [TopTasks.table_false] at h
    refine (h rfl).congr ?_ ?_ fun _ => rfl
    all_goals simp [rollover_top_tasks, TopTasks.clear]
  | true =>
    refine (counts_clear_table top _).congr ?_ ?_ (hfull rfl)
    all_goals simp [rollover_top_tasks, TopTasks.clear]

end KernelExtra.Walt
