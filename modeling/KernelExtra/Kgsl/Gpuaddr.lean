/-
The GPU address allocator, `drivers/gpu/msm/kgsl_iommu.c`.

A pagetable keeps the address blocks in use in a red-black tree, ordered by base.
`_get_unmapped_area` takes the first gap that holds an aligned block; `_get_unmapped_area_topdown`
takes the last, and its caller has to ask `kgsl_iommu_set_svm_region` for the block.

Addresses are natural numbers; only `top - bottom` is taken modulo `2 ^ 64`.
-/
import KernelExtra.Kgsl.Basic
import KernelExtra.Lib.SearchTree
import KernelExtra.Lib.Run

namespace KernelExtra.Kgsl

open List

/-! ## Alignment -/

def ALIGN (x a : ℕ) : ℕ := (x + (a - 1)) / a * a

def align_down (x a : ℕ) : ℕ := x / a * a

section

variable {x y a : ℕ}

lemma dvd_ALIGN (x a : ℕ) : a ∣ ALIGN x a := Nat.dvd_mul_left _ _

lemma dvd_align_down (x a : ℕ) : a ∣ align_down x a := Nat.dvd_mul_left _ _

lemma ALIGN_le_iff (ha : 0 < a) (hy : a ∣ y) : ALIGN x a ≤ y ↔ x ≤ y := by
  obtain ⟨k, rfl⟩ := hy
  rw [ALIGN, Nat.mul_comm a k, Nat.mul_le_mul_right_iff ha, ← Nat.lt_succ_iff,
    Nat.div_lt_iff_lt_mul ha, Nat.succ_mul]
  omega

lemma le_align_down_iff (ha : 0 < a) (hy : a ∣ y) : y ≤ align_down x a ↔ y ≤ x := by
  obtain ⟨k, rfl⟩ := hy
  rw [align_down, Nat.mul_comm, Nat.mul_le_mul_right_iff ha, Nat.le_div_iff_mul_le ha]

lemma le_ALIGN (ha : 0 < a) : x ≤ ALIGN x a := (ALIGN_le_iff ha (dvd_ALIGN x a)).mp le_rfl

lemma align_down_le : align_down x a ≤ x := Nat.div_mul_le_self x a

end

/-! ## The pagetable -/

/-- A region of the pagetable. -/
structure AddrEntry where
  base : ℕ
  size : ℕ
  deriving DecidableEq

def AddrEntry.top (e : AddrEntry) : ℕ := e.base + e.size

/-- `struct kgsl_iommu_pt`, with the name of its `kgsl_pagetable` as far as it is
read. -/
structure Pagetable where
  secure : Bool
  va_start : ℕ
  va_end : ℕ
  svm_start : ℕ
  svm_end : ℕ
  compat_va_start : ℕ
  compat_va_end : ℕ
  rbtree : SearchTree AddrEntry

def Pagetable.entries (pt : Pagetable) : List AddrEntry := pt.rbtree.toList

def by_base (gpuaddr : ℕ) (entry : AddrEntry) : Ordering :=
  if gpuaddr < entry.base then .lt else if gpuaddr > entry.base then .gt else .eq

def find_gpuaddr (pt : Pagetable) (gpuaddr : ℕ) : Option AddrEntry :=
  pt.rbtree.find (by_base gpuaddr)

section

variable (B : SearchTree.Balance AddrEntry)

def remove_gpuaddr (pt : Pagetable) (gpuaddr : ℕ) : Pagetable × Except Errno Unit :=
  match find_gpuaddr pt gpuaddr with
  | none => (pt, .error .ENOMEM)
  | some entry => ({ pt with rbtree := B.erase entry pt.rbtree }, .ok ())

def insert_gpuaddr (pt : Pagetable) (gpuaddr size : ℕ) (alloc : Bool) :
    Pagetable × Except Errno Unit :=
  if alloc = false then (pt, .error .ENOMEM)
  else
    match pt.rbtree.link (by_base gpuaddr) ⟨gpuaddr, size⟩ with
    | none => (pt, .error .EEXIST)
    | some rbtree => ({ pt with rbtree := B.insert_color rbtree }, .ok ())

end

/-- The first gap from `bottom` on that is large enough. -/
def unmapped_from (bottom top size align : ℕ) : ℕ → List AddrEntry → Except Errno ℕ
  | start, [] => if start + size ≤ top then .ok start else .error .ENOMEM
  | start, entry :: rest =>
    -- entries below the range, of which one may straddle its lower bound
    if entry.base < bottom then
      unmapped_from bottom top size align
        (if entry.top > bottom then ALIGN entry.top align else start) rest
    -- the walk went over the top
    else if entry.base ≥ top then
      if start + size ≤ top then .ok start else .error .ENOMEM
    else if start < entry.base ∧ entry.base - start ≥ size then .ok start
    else if entry.top ≥ top then .error .ENOMEM
    else unmapped_from bottom top size align (ALIGN entry.top align) rest

/-- A search from below. -/
def get_unmapped_area (pt : Pagetable) (bottom top size align : ℕ) : Except Errno ℕ :=
  unmapped_from (ALIGN bottom align) top size align (ALIGN bottom align) pt.entries

def topdown_last (bottom size align stop : ℕ) : Except Errno ℕ :=
  if stop > size ∧ align_down (stop - size) align ≥ bottom then
    .ok (align_down (stop - size) align)
  else .error .ENOMEM

/-- The walk of `_get_unmapped_area_topdown`. `stop` is the variable `end`. -/
def topdown_from (bottom size align : ℕ) : ℕ → List AddrEntry → Except Errno ℕ
  | stop, [] => topdown_last bottom size align stop
  | stop, entry :: rest =>
    -- the entire entry is below the range
    if entry.top < bottom then topdown_last bottom size align stop
    else if (stop > size ∧ ALIGN entry.top align < stop) ∧
        align_down (stop - size) align ≥ ALIGN entry.top align then
      .ok (align_down (stop - size) align)
    else if entry.base < bottom then .error .ENOMEM
    else topdown_from bottom size align entry.base rest

/-- A search from above. -/
def get_unmapped_area_topdown (pt : Pagetable) (bottom top size align : ℕ) : Except Errno ℕ :=
  -- both are 64-bit: a bottom above the top gives a large difference
  if size > (top + (2 ^ 64 - ALIGN bottom align)) % 2 ^ 64 then .error .ENOMEM
  else
    topdown_from (ALIGN bottom align) size align top
      (pt.entries.reverse.dropWhile fun entry => decide (entry.base ≥ top))

def kgsl_iommu_find_svm_region (pt : Pagetable) (start stop size alignment : ℕ) : Except Errno ℕ :=
  if stop ≤ start then .error .EINVAL
  else get_unmapped_area_topdown pt start stop size alignment

def addr_in_range (lo hi gpuaddr size : ℕ) : Bool :=
  decide ((gpuaddr ≥ lo ∧ gpuaddr < hi) ∧ (gpuaddr + size > lo ∧ gpuaddr + size ≤ hi))

def iommu_addr_in_svm_ranges (pt : Pagetable) (gpuaddr size : ℕ) : Bool :=
  addr_in_range pt.compat_va_start pt.compat_va_end gpuaddr size ||
    addr_in_range pt.svm_start pt.svm_end gpuaddr size

def by_block (gpuaddr size : ℕ) (entry : AddrEntry) : Ordering :=
  if gpuaddr + size ≤ entry.base then .lt
  else if entry.top ≤ gpuaddr then .gt
  else .eq

def kgsl_iommu_set_svm_region (B : SearchTree.Balance AddrEntry) (pt : Pagetable)
    (gpuaddr size : ℕ) (alloc : Bool) : Pagetable × Except Errno Unit :=
  if !iommu_addr_in_svm_ranges pt gpuaddr size then (pt, .error .ENOMEM)
  else
    match pt.rbtree.find (by_block gpuaddr size) with
    | some _ => (pt, .error .ENOMEM)
    | none => insert_gpuaddr B pt gpuaddr size alloc

def PAGE_SIZE : ℕ := 4096

/-- What a memory descriptor asks of its address. -/
structure Memdesc where
  use_cpu_map : Bool
  secure : Bool
  force_32bit : Bool
  guard_page : Bool
  align : ℕ
  size : ℕ

def kgsl_memdesc_guard_page_size (m : Memdesc) : ℕ := if m.guard_page then PAGE_SIZE else 0

def kgsl_memdesc_footprint (m : Memdesc) : ℕ :=
  ALIGN (m.size + kgsl_memdesc_guard_page_size m) PAGE_SIZE

def kgsl_iommu_get_gpuaddr (B : SearchTree.Balance AddrEntry) (pt : Pagetable)
    (m : Memdesc) (alloc : Bool) : Pagetable × Except Errno ℕ :=
  if m.use_cpu_map then (pt, .error .EINVAL)
  else if m.secure && !pt.secure then (pt, .error .EINVAL)
  else
    let size := kgsl_memdesc_footprint m
    let align := max (1 <<< m.align) PAGE_SIZE
    let (start, stop) :=
      if m.force_32bit then (pt.compat_va_start, pt.compat_va_end)
      else (pt.va_start, pt.va_end)
    match get_unmapped_area pt start stop size align with
    | .error _ => (pt, .error .ENOMEM)
    | .ok addr =>
      match insert_gpuaddr B pt addr size alloc with
      | (pt', .ok ()) => (pt', .ok addr)
      | (pt', .error e) => (pt', .error e)

def kgsl_iommu_put_gpuaddr (B : SearchTree.Balance AddrEntry) (pt : Pagetable)
    (gpuaddr : ℕ) : Pagetable :=
  (remove_gpuaddr B pt gpuaddr).1

/-! ## Free blocks -/

def AddrEntry.Apart (e : AddrEntry) (x size : ℕ) : Prop := x + size ≤ e.base ∨ e.top ≤ x

/-- The addresses where a block of this size and alignment is free. -/
def FreeBlocks (es : List AddrEntry) (bottom top size align : ℕ) : Set ℕ :=
  {x | align ∣ x ∧ bottom ≤ x ∧ x + size ≤ top ∧ ∀ e ∈ es, e.Apart x size}

variable {es : List AddrEntry}

lemma mem_freeBlocks {bottom top size align x : ℕ} :
    x ∈ FreeBlocks es bottom top size align ↔
      align ∣ x ∧ bottom ≤ x ∧ x + size ≤ top ∧ ∀ e ∈ es, e.Apart x size := .rfl

lemma freeBlocks_ALIGN {bottom top size align : ℕ} (ha : 0 < align) :
    FreeBlocks es (ALIGN bottom align) top size align = FreeBlocks es bottom top size align := by
  ext x
  refine and_congr_right ?_
  intro hx
  rw [ALIGN_le_iff ha hx]

/-- The regions are sorted and do not overlap. -/
structure Separate (es : List AddrEntry) : Prop where
  rising : es.Pairwise fun a b => a.top ≤ b.base
  pos : ∀ e ∈ es, 0 < e.size

lemma Separate.cons {e : AddrEntry} (h : Separate (e :: es)) :
    (∀ b ∈ es, e.top ≤ b.base) ∧ 0 < e.size ∧ Separate es := by
  obtain ⟨hr, hp⟩ := h
  rw [pairwise_cons] at hr
  exact ⟨hr.1, hp e mem_cons_self, hr.2, fun b hb => hp b (mem_cons_of_mem e hb)⟩

/-! ## The search upwards -/

/-- The search finds the least, or fails because there is none. -/
def FindsLowest (S : Set ℕ) : Except Errno ℕ → Prop
  | .ok x => IsLeast S x
  | .error e => e = .ENOMEM ∧ S = ∅

section

variable {bottom top size align start : ℕ} {e : AddrEntry} {es : List AddrEntry}

lemma findsLowest_last (hs : align ∣ start) (hes : ∀ e ∈ es, top ≤ e.base) :
    FindsLowest (FreeBlocks es start top size align)
      (if start + size ≤ top then .ok start else .error .ENOMEM) := by
  split
  · rename_i hfit
    refine ⟨⟨hs, le_rfl, hfit, ?_⟩, fun x hx => hx.2.1⟩
    intro e he
    exact .inl (hfit.trans (hes e he))
  · refine ⟨rfl, Set.eq_empty_of_forall_notMem ?_⟩
    rintro x ⟨-, hx, hxt, -⟩
    omega

lemma freeBlocks_cons_of_le (h : e.top ≤ start) :
    FreeBlocks (e :: es) start top size align = FreeBlocks es start top size align := by
  ext x
  simp only [mem_freeBlocks, forall_mem_cons]
  constructor
  · rintro ⟨hx, hle, hfit, -, hes⟩
    exact ⟨hx, hle, hfit, hes⟩
  · rintro ⟨hx, hle, hfit, hes⟩
    exact ⟨hx, hle, hfit, .inr (h.trans hle), hes⟩

lemma freeBlocks_cons_of_full (ha : 0 < align)
    (hbelow : ∀ x, start ≤ x → ¬ x + size ≤ e.base) (hstart : start ≤ ALIGN e.top align) :
    FreeBlocks (e :: es) start top size align =
      FreeBlocks es (ALIGN e.top align) top size align := by
  ext x
  simp only [mem_freeBlocks, forall_mem_cons]
  constructor
  · rintro ⟨hx, hle, hfit, hapart, hes⟩
    refine ⟨hx, ?_, hfit, hes⟩
    rw [ALIGN_le_iff ha hx]
    exact hapart.resolve_left (hbelow x hle)
  · rintro ⟨hx, hle, hfit, hes⟩
    exact ⟨hx, hstart.trans hle, hfit, .inr ((le_ALIGN ha).trans hle), hes⟩

/-- The induction is on the entries that are left; `hmono` says that `start` is no further than any
of them will push it, which is why moving it there loses no block. -/
lemma unmapped_from_findsLowest (ha : 0 < align) (hsize : 0 < size)
    (hes : Separate es) (hs : align ∣ start) (hbs : bottom ≤ start)
    (hmono : ∀ e ∈ es, bottom < e.top → start ≤ ALIGN e.top align) :
    FindsLowest (FreeBlocks es start top size align)
      (unmapped_from bottom top size align start es) := by
  induction es generalizing start with
  | nil => exact findsLowest_last hs (by simp)
  | cons e es ih =>
    obtain ⟨hafter, hpos, hes'⟩ := hes.cons
    have hmono' : ∀ e ∈ es, bottom < e.top → start ≤ ALIGN e.top align :=
      fun b hb => hmono b (mem_cons_of_mem e hb)
    have hself := hmono e mem_cons_self
    -- moving on to the aligned end of `e` keeps the invariant
    have hnext : ∀ b ∈ es, bottom < b.top → ALIGN e.top align ≤ ALIGN b.top align := by
      intro b hb _
      rw [ALIGN_le_iff ha (dvd_ALIGN _ _)]
      have hbe := hafter b hb
      have hbt : b.base ≤ b.top := Nat.le_add_right ..
      exact hbe.trans (hbt.trans (le_ALIGN ha))
    have htop : e.top = e.base + e.size := rfl
    unfold unmapped_from
    split
    · split
      · -- the entry straddles the lower bound
        rename_i hstraddle
        rw [freeBlocks_cons_of_full ha (by omega) (hself hstraddle)]
        exact ih hes' (dvd_ALIGN _ _) (hbs.trans (hself hstraddle)) hnext
      · rw [freeBlocks_cons_of_le (by omega)]
        exact ih hes' hs hbs hmono'
    · split
      · -- this entry and all that follow start at the top or above
        rename_i hover
        apply findsLowest_last hs
        rw [forall_mem_cons]
        refine ⟨hover, ?_⟩
        intro b hb
        have := hafter b hb
        omega
      · split
        · -- the gap before the entry holds the block
          refine ⟨⟨hs, le_rfl, by omega, ?_⟩, fun x hx => hx.2.1⟩
          rw [forall_mem_cons]
          refine ⟨.inl (by omega), ?_⟩
          intro b hb
          have := hafter b hb
          exact .inl (by omega)
        · have hfull : ∀ x, start ≤ x → ¬ x + size ≤ e.base := by omega
          split
          · refine ⟨rfl, Set.eq_empty_of_forall_notMem ?_⟩
            rintro x ⟨-, hx, hxt, hapart⟩
            rcases hapart e mem_cons_self with hbelow | habove
            · exact hfull x hx hbelow
            · omega
          · rw [freeBlocks_cons_of_full ha hfull (hself (by omega))]
            exact ih hes' (dvd_ALIGN _ _) (hbs.trans (hself (by omega))) hnext

/-- **The search upwards** returns the lowest aligned free block, and fails only
if there is none. -/
theorem get_unmapped_area_findsLowest {pt : Pagetable} (hpt : Separate pt.entries)
    (ha : 0 < align) (hsize : 0 < size) :
    FindsLowest (FreeBlocks pt.entries bottom top size align)
      (get_unmapped_area pt bottom top size align) := by
  rw [← freeBlocks_ALIGN ha]
  apply unmapped_from_findsLowest ha hsize hpt (dvd_ALIGN _ _) le_rfl
  intro e _ he
  exact he.le.trans (le_ALIGN ha)

end

/-! ## The search downwards -/

/-- A search for the highest non-zero element of a set. It may also return `0`, if
that is the only one. -/
def FindsHighest (S : Set ℕ) : Except Errno ℕ → Prop
  | .ok x => IsGreatest {y ∈ S | y ≠ 0} x ∨ x = 0 ∧ S = {0}
  | .error e => e = .ENOMEM ∧ S ⊆ {0}

section

variable {bottom top size align stop : ℕ} {e : AddrEntry} {es : List AddrEntry}

lemma le_chunk (ha : 0 < align) {x : ℕ} (hx : align ∣ x) (h0 : x ≠ 0) (hfit : x + size ≤ stop) :
    size < stop ∧ x ≤ align_down (stop - size) align := by
  refine ⟨by omega, ?_⟩
  rw [le_align_down_iff ha hx]
  omega

lemma findsHighest_last (ha : 0 < align) (hes : ∀ e ∈ es, e.top ≤ bottom) :
    FindsHighest (FreeBlocks es bottom stop size align)
      (topdown_last bottom size align stop) := by
  unfold topdown_last
  split
  · rename_i h
    obtain ⟨hlt, hge⟩ := h
    have hle : align_down (stop - size) align ≤ stop - size := align_down_le
    have hmem : align_down (stop - size) align ∈ FreeBlocks es bottom stop size align := by
      refine ⟨dvd_align_down _ _, hge, by omega, ?_⟩
      intro e he
      exact .inr ((hes e he).trans hge)
    by_cases h0 : align_down (stop - size) align = 0
    · right
      refine ⟨h0, ?_⟩
      ext x
      rw [Set.mem_singleton_iff]
      constructor
      · intro hx
        by_contra hne
        have := (le_chunk ha hx.1 hne hx.2.2.1).2
        omega
      · rintro rfl
        rwa [h0] at hmem
    · left
      refine ⟨⟨hmem, h0⟩, ?_⟩
      rintro x ⟨hx, hne⟩
      exact (le_chunk ha hx.1 hne hx.2.2.1).2
  · rename_i h
    refine ⟨rfl, ?_⟩
    intro x hx
    by_contra hne
    obtain ⟨hlt, hle⟩ := le_chunk ha hx.1 hne hx.2.2.1
    exact h ⟨hlt, hx.2.1.trans hle⟩

def Falling (es : List AddrEntry) : Prop := es.Pairwise fun a b => b.top ≤ a.base

/-- The walk finds the highest free block below `stop`. The induction is on the
entries that are left, which all start below `stop`. -/
lemma topdown_from_findsHighest (ha : 0 < align) (hsize : 0 < size)
    (hfall : Falling es) (hpos : ∀ e ∈ es, 0 < e.size) (hstop : ∀ e ∈ es, e.base ≤ stop) :
    FindsHighest (FreeBlocks es bottom stop size align)
      (topdown_from bottom size align stop es) := by
  induction es generalizing stop with
  | nil => exact findsHighest_last ha (by simp)
  | cons e es ih =>
    rw [Falling, pairwise_cons] at hfall
    obtain ⟨hbefore, hfall'⟩ := hfall
    have hepos := hpos e mem_cons_self
    have htop : e.top = e.base + e.size := rfl
    have hestop := hstop e mem_cons_self
    unfold topdown_from
    split
    · rename_i hlow
      apply findsHighest_last ha
      rw [forall_mem_cons]
      refine ⟨hlow.le, ?_⟩
      intro b hb
      have := hbefore b hb
      omega
    · have hoff : bottom ≤ ALIGN e.top align := by
        have := le_ALIGN ha (x := e.top)
        omega
      split
      · -- the top of the gap above the entry holds the block
        rename_i hgap
        obtain ⟨⟨hlt, -⟩, hge⟩ := hgap
        have hle : align_down (stop - size) align ≤ stop - size := align_down_le
        have hover : e.top ≤ align_down (stop - size) align := (le_ALIGN ha).trans hge
        left
        refine ⟨⟨⟨dvd_align_down _ _, hoff.trans hge, by omega, ?_⟩, by omega⟩, ?_⟩
        · rw [forall_mem_cons]
          refine ⟨.inr hover, ?_⟩
          intro b hb
          have := hbefore b hb
          exact .inr (by omega)
        · rintro x ⟨hx, hne⟩
          exact (le_chunk ha hx.1 hne hx.2.2.1).2
      · rename_i hgap
        -- no block lies in the gap above the entry
        have hnone : ∀ x, align ∣ x → x + size ≤ stop → e.top ≤ x → False := by
          intro x hx hfit habove
          obtain ⟨hlt, hle⟩ := le_chunk ha hx (by omega) hfit
          have hoffx : ALIGN e.top align ≤ x := (ALIGN_le_iff ha hx).mpr habove
          exact hgap ⟨⟨hlt, by omega⟩, by omega⟩
        split
        · refine ⟨rfl, ?_⟩
          rintro x ⟨hx, hbx, hfit, hapart⟩
          rcases hapart e mem_cons_self with hbelow | habove
          · omega
          · exact (hnone x hx hfit habove).elim
        · have heq : FreeBlocks (e :: es) bottom stop size align =
              FreeBlocks es bottom e.base size align := by
            ext x
            simp only [mem_freeBlocks, forall_mem_cons]
            constructor
            · rintro ⟨hx, hbx, hfit, hapart, hes⟩
              exact ⟨hx, hbx, hapart.resolve_right (hnone x hx hfit), hes⟩
            · rintro ⟨hx, hbx, hfit, hes⟩
              exact ⟨hx, hbx, hfit.trans hestop, .inl hfit, hes⟩
          rw [heq]
          apply ih hfall' (fun b hb => hpos b (mem_cons_of_mem e hb))
          intro b hb
          have := hbefore b hb
          have hbt : b.base ≤ b.top := Nat.le_add_right ..
          omega

lemma freeBlocks_dropWhile (es : List AddrEntry) :
    FreeBlocks (es.dropWhile fun entry => decide (entry.base ≥ top)) bottom top size align =
      FreeBlocks es bottom top size align := by
  induction es with
  | nil => rfl
  | cons e es ih =>
    by_cases he : e.base ≥ top
    · rw [dropWhile_cons_of_pos (by simpa using he), ih]
      ext x
      simp only [mem_freeBlocks, forall_mem_cons]
      constructor
      · rintro ⟨hx, hbx, hfit, hes⟩
        exact ⟨hx, hbx, hfit, .inl (hfit.trans he), hes⟩
      · rintro ⟨hx, hbx, hfit, -, hes⟩
        exact ⟨hx, hbx, hfit, hes⟩
    · rw [dropWhile_cons_of_neg (by simpa using he)]

lemma freeBlocks_reverse (es : List AddrEntry) :
    FreeBlocks es.reverse bottom top size align = FreeBlocks es bottom top size align := by
  simp [FreeBlocks]

lemma base_le_of_mem_dropWhile (hfall : Falling es) :
    ∀ e ∈ es.dropWhile fun entry => decide (entry.base ≥ top), e.base ≤ top := by
  induction es with
  | nil => simp
  | cons e es ih =>
    rw [Falling, pairwise_cons] at hfall
    by_cases he : e.base ≥ top
    · rw [dropWhile_cons_of_pos (by simpa using he)]
      exact ih hfall.2
    · rw [dropWhile_cons_of_neg (by simpa using he), forall_mem_cons]
      refine ⟨by omega, ?_⟩
      intro b hb
      have hbe := hfall.1 b hb
      have hbt : b.base ≤ b.top := Nat.le_add_right ..
      omega

/-- **The search downwards** returns the highest aligned free block, and fails only
if there is none but `0`. -/
theorem get_unmapped_area_topdown_findsHighest {pt : Pagetable} (hpt : Separate pt.entries)
    (ha : 0 < align) (hsize : 0 < size) (htop : top < 2 ^ 64) :
    FindsHighest (FreeBlocks pt.entries bottom top size align)
      (get_unmapped_area_topdown pt bottom top size align) := by
  rw [← freeBlocks_ALIGN ha]
  unfold get_unmapped_area_topdown
  split
  · -- a block would make the difference at least its size
    refine ⟨rfl, ?_⟩
    rintro x ⟨-, hbx, hfit, -⟩
    omega
  · rw [← freeBlocks_reverse, ← freeBlocks_dropWhile]
    have hfall : Falling pt.entries.reverse := pairwise_reverse.mpr hpt.rising
    apply topdown_from_findsHighest ha hsize
    · exact List.Pairwise.sublist (dropWhile_sublist _) hfall
    · intro e he
      exact hpt.pos e (mem_reverse.mp ((dropWhile_sublist _).subset he))
    · exact base_le_of_mem_dropWhile hfall

end

end KernelExtra.Kgsl
