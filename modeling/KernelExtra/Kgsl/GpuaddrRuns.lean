/-
Every history of a pagetable's address space.

The entries stay disjoint, sorted and inside the ranges of the pagetable, so in every state reached
both searches do what they are for, and a block that was shown can be taken.
-/
import KernelExtra.Kgsl.Gpuaddr

namespace KernelExtra.Kgsl

open List

/-! ## Descents -/

lemma Separate.directs_by_base {es : List AddrEntry} (h : Separate es) (gpuaddr : ℕ) :
    SearchTree.Directs (by_base gpuaddr) es := by
  refine h.rising.imp ?_
  intro a b hab
  have hat : a.base ≤ a.top := Nat.le_add_right ..
  unfold by_base
  constructor <;> intro <;> split_ifs at * <;> first | rfl | omega

lemma Separate.directs_by_block {es : List AddrEntry} (h : Separate es) (gpuaddr size : ℕ) :
    SearchTree.Directs (by_block gpuaddr size) es := by
  refine h.rising.imp ?_
  intro a b hab
  have hat : a.base ≤ a.top := Nat.le_add_right ..
  have hbt : b.base ≤ b.top := Nat.le_add_right ..
  unfold by_block
  constructor <;> intro <;> split_ifs at * <;> first | rfl | omega

variable {pt : Pagetable}

lemma find_by_block_eq_none_iff (hpt : Separate pt.entries) {x size : ℕ} :
    pt.rbtree.find (by_block x size) = none ↔ ∀ e ∈ pt.entries, e.Apart x size := by
  rw [SearchTree.find_eq_none_iff (hpt.directs_by_block x size)]
  refine forall₂_congr ?_
  intro e _
  unfold by_block AddrEntry.Apart
  split_ifs <;> simp_all

/-! ## Inserting and removing -/

section

variable {B : SearchTree.Balance AddrEntry} {pt : Pagetable} {x size : ℕ}

lemma Separate.insert {l r : List AddrEntry} {e : AddrEntry} (h : Separate (l ++ r))
    (hpos : 0 < e.size) (hl : ∀ a ∈ l, a.top ≤ e.base) (hr : ∀ b ∈ r, e.top ≤ b.base) :
    Separate (l ++ e :: r) := by
  obtain ⟨hrise, hpos'⟩ := h
  rw [pairwise_append] at hrise
  obtain ⟨hll, hrr, hlr⟩ := hrise
  constructor
  · rw [pairwise_append, pairwise_cons]
    refine ⟨hll, ⟨hr, hrr⟩, ?_⟩
    intro a ha b hb
    rcases mem_cons.mp hb with rfl | hb
    · exact hl a ha
    · exact hlr a ha b hb
  · intro a ha
    simp only [mem_append, mem_cons] at ha hpos'
    rcases ha with ha | rfl | ha
    · exact hpos' a (.inl ha)
    · exact hpos
    · exact hpos' a (.inr ha)

lemma insert_gpuaddr_ok (hpt : Separate pt.entries) (hsize : 0 < size)
    (hfree : ∀ e ∈ pt.entries, e.Apart x size) :
    ∃ t, insert_gpuaddr B pt x size true = ({ pt with rbtree := t }, .ok ()) ∧
      Separate t.toList ∧ ∀ e, e ∈ t.toList ↔ e = ⟨x, size⟩ ∨ e ∈ pt.entries := by
  have hdir := hpt.directs_by_base x
  -- where the descent goes, the whole block lies
  have hgt : ∀ e ∈ pt.entries, by_base x e = .gt → e.top ≤ x := by
    intro e he hdir
    unfold by_base at hdir
    split_ifs at hdir
    exact (hfree e he).resolve_left (by omega)
  have hlt : ∀ e ∈ pt.entries, by_base x e = .lt → x + size ≤ e.base := by
    intro e he hdir
    unfold by_base at hdir
    split_ifs at hdir
    have het : e.base ≤ e.top := Nat.le_add_right ..
    exact (hfree e he).resolve_right (by omega)
  have hnone : pt.rbtree.find (by_base x) = none := by
    rw [SearchTree.find_eq_none_iff hdir]
    intro e he heq
    have hpos := hpt.pos e he
    have het : e.top = e.base + e.size := rfl
    unfold by_base at heq
    split_ifs at heq
    rcases hfree e he with h | h <;> omega
  obtain ⟨t, ht⟩ := Option.isSome_iff_exists.mp
    ((SearchTree.link_isSome_iff (a := ⟨x, size⟩)).mpr hnone)
  obtain ⟨l, r, hlr, htl, hl, hr⟩ := SearchTree.link_eq_some hdir ht
  have hmeml : ∀ e ∈ l, e ∈ pt.entries := fun e he => by
    rw [Pagetable.entries, hlr]
    exact mem_append_left _ he
  have hmemr : ∀ e ∈ r, e ∈ pt.entries := fun e he => by
    rw [Pagetable.entries, hlr]
    exact mem_append_right _ he
  refine ⟨B.insert_color t, by simp [insert_gpuaddr, ht], ?_, ?_⟩
  · rw [B.toList_insert_color, htl]
    rw [Pagetable.entries, hlr] at hpt
    apply hpt.insert hsize
    · intro a ha
      exact hgt a (hmeml a ha) (hl a ha)
    · intro b hb
      exact hlt b (hmemr b hb) (hr b hb)
  · intro e
    rw [B.toList_insert_color, htl, Pagetable.entries, hlr]
    simp only [mem_append, mem_cons]
    tauto

lemma remove_gpuaddr_sublist (gpuaddr : ℕ) :
    ∃ t, (remove_gpuaddr B pt gpuaddr).1 = { pt with rbtree := t } ∧
      t.toList.Sublist pt.entries := by
  unfold remove_gpuaddr
  split
  · exact ⟨pt.rbtree, rfl, List.Sublist.refl _⟩
  · refine ⟨_, rfl, ?_⟩
    rw [B.toList_erase]
    exact erase_sublist

/-! ## The invariant -/

def Pagetable.Allows (pt : Pagetable) (e : AddrEntry) : Prop :=
  pt.va_start ≤ e.base ∧ e.top ≤ pt.va_end ∨
    pt.compat_va_start ≤ e.base ∧ e.top ≤ pt.compat_va_end ∨
    pt.svm_start ≤ e.base ∧ e.top ≤ pt.svm_end

/-- The regions are separate, and each is where it may be. -/
structure Pagetable.Inv (pt : Pagetable) : Prop where
  separate : Separate pt.entries
  allowed : ∀ e ∈ pt.entries, pt.Allows e

lemma Pagetable.Inv.insert_gpuaddr (hpt : pt.Inv) (hsize : 0 < size) (alloc : Bool)
    (hfree : ∀ e ∈ pt.entries, e.Apart x size) (hallow : pt.Allows ⟨x, size⟩) :
    (insert_gpuaddr B pt x size alloc).1.Inv := by
  cases alloc with
  | false => exact hpt
  | true =>
    obtain ⟨t, ht, hsep, hmem⟩ := insert_gpuaddr_ok hpt.separate hsize hfree
    rw [ht]
    refine ⟨hsep, ?_⟩
    intro e he
    rcases (hmem e).mp he with rfl | he
    · exact hallow
    · exact hpt.allowed e he

lemma kgsl_memdesc_footprint_pos {m : Memdesc} (hm : 0 < m.size) :
    0 < kgsl_memdesc_footprint m := by
  have h : m.size + kgsl_memdesc_guard_page_size m ≤ kgsl_memdesc_footprint m :=
    le_ALIGN (by decide)
  omega

lemma Pagetable.Inv.kgsl_iommu_get_gpuaddr (hpt : pt.Inv) {m : Memdesc} (hm : 0 < m.size)
    (alloc : Bool) : (kgsl_iommu_get_gpuaddr B pt m alloc).1.Inv := by
  unfold Kgsl.kgsl_iommu_get_gpuaddr
  extract_lets size align
  have hsize : 0 < size := kgsl_memdesc_footprint_pos hm
  have halign : 0 < align := lt_of_lt_of_le (by decide) (le_max_right _ _)
  -- both ranges that the search may be given are allowed
  have key : ∀ start stop, (∀ e : AddrEntry, start ≤ e.base → e.top ≤ stop → pt.Allows e) →
      ∀ addr, get_unmapped_area pt start stop size align = .ok addr →
        (Kgsl.insert_gpuaddr B pt addr size alloc).1.Inv := by
    intro start stop hrange addr haddr
    have h : FindsLowest (FreeBlocks pt.entries start stop size align)
        (get_unmapped_area pt start stop size align) :=
      get_unmapped_area_findsLowest hpt.separate halign hsize
    rw [haddr] at h
    obtain ⟨-, hlo, hhi, hfree⟩ := h.1
    exact hpt.insert_gpuaddr hsize alloc hfree (hrange ⟨addr, size⟩ hlo hhi)
  split
  · exact hpt
  split
  · exact hpt
  split
  rename_i start stop hrange
  split
  · exact hpt
  · rename_i addr haddr
    have hinv : (Kgsl.insert_gpuaddr B pt addr size alloc).1.Inv := by
      apply key start stop ?_ addr haddr
      intro e hlo hhi
      split at hrange <;> cases hrange
      · exact .inr (.inl ⟨hlo, hhi⟩)
      · exact .inl ⟨hlo, hhi⟩
    split <;> rename_i hins <;> rwa [hins] at hinv

lemma iommu_addr_in_svm_ranges_allows (h : iommu_addr_in_svm_ranges pt x size = true) :
    pt.Allows ⟨x, size⟩ := by
  simp only [iommu_addr_in_svm_ranges, addr_in_range, Bool.or_eq_true, decide_eq_true_eq] at h
  rcases h with ⟨⟨hlo, -⟩, -, hhi⟩ | ⟨⟨hlo, -⟩, -, hhi⟩
  · exact .inr (.inl ⟨hlo, hhi⟩)
  · exact .inr (.inr ⟨hlo, hhi⟩)

lemma Pagetable.Inv.kgsl_iommu_set_svm_region (hpt : pt.Inv) (hsize : 0 < size)
    (alloc : Bool) : (kgsl_iommu_set_svm_region B pt x size alloc).1.Inv := by
  unfold Kgsl.kgsl_iommu_set_svm_region
  split
  · exact hpt
  rename_i hrange
  split
  · exact hpt
  · rename_i hnone
    apply hpt.insert_gpuaddr hsize alloc
    · exact (find_by_block_eq_none_iff hpt.separate).mp hnone
    · exact iommu_addr_in_svm_ranges_allows (by simpa using hrange)

lemma Pagetable.Inv.kgsl_iommu_put_gpuaddr (hpt : pt.Inv) (gpuaddr : ℕ) :
    (kgsl_iommu_put_gpuaddr B pt gpuaddr).Inv := by
  obtain ⟨t, ht, hsub⟩ : ∃ t, (remove_gpuaddr B pt gpuaddr).1 = { pt with rbtree := t } ∧
      t.toList.Sublist pt.entries := remove_gpuaddr_sublist gpuaddr
  rw [Kgsl.kgsl_iommu_put_gpuaddr, ht]
  refine ⟨⟨hpt.separate.rising.sublist hsub, ?_⟩, ?_⟩
  · intro e he
    exact hpt.separate.pos e (hsub.subset he)
  · intro e he
    exact hpt.allowed e (hsub.subset he)

end

/-! ## Runs -/

inductive Call where
  | get_gpuaddr (m : Memdesc) (alloc : Bool)
  | set_svm_region (gpuaddr size : ℕ) (alloc : Bool)
  | find_svm_region (start stop size alignment : ℕ)
  | put_gpuaddr (gpuaddr : ℕ)

def Pagetable.call (B : SearchTree.Balance AddrEntry) (pt : Pagetable) : Call → Pagetable
  | .get_gpuaddr m alloc => (kgsl_iommu_get_gpuaddr B pt m alloc).1
  | .set_svm_region gpuaddr size alloc => (kgsl_iommu_set_svm_region B pt gpuaddr size alloc).1
  -- the search only reads the tree
  | .find_svm_region _ _ _ _ => pt
  | .put_gpuaddr gpuaddr => kgsl_iommu_put_gpuaddr B pt gpuaddr

def Call.Sized : Call → Prop
  | .get_gpuaddr m _ => 0 < m.size
  | .set_svm_region _ size _ => 0 < size
  | .find_svm_region _ _ size _ => 0 < size
  | .put_gpuaddr _ => True

instance (c : Call) : Decidable c.Sized := by
  cases c <;> unfold Call.Sized <;> infer_instance

lemma Pagetable.Inv.call {B : SearchTree.Balance AddrEntry} (hpt : pt.Inv)
    {c : Call} (hc : c.Sized) : (pt.call B c).Inv := by
  cases c with
  | get_gpuaddr m alloc => exact hpt.kgsl_iommu_get_gpuaddr hc alloc
  | set_svm_region gpuaddr size alloc => exact hpt.kgsl_iommu_set_svm_region hc alloc
  | find_svm_region start stop size alignment => exact hpt
  | put_gpuaddr gpuaddr => exact hpt.kgsl_iommu_put_gpuaddr gpuaddr

/-- The search range lies inside one of the ranges that
`iommu_addr_in_svm_ranges` accepts. -/
def Pagetable.SvmRange (pt : Pagetable) (start stop : ℕ) : Prop :=
  pt.compat_va_start ≤ start ∧ stop ≤ pt.compat_va_end ∨
    pt.svm_start ≤ start ∧ stop ≤ pt.svm_end

instance (pt : Pagetable) (start stop : ℕ) : Decidable (pt.SvmRange start stop) := by
  unfold Pagetable.SvmRange
  infer_instance

lemma kgsl_iommu_set_svm_region_ok {B : SearchTree.Balance AddrEntry}
    (hpt : pt.Inv) {start stop size x : ℕ} (hsize : 0 < size) (hrange : pt.SvmRange start stop)
    (hlo : start ≤ x) (hhi : x + size ≤ stop) (hfree : ∀ e ∈ pt.entries, e.Apart x size) :
    (kgsl_iommu_set_svm_region B pt x size true).2 = .ok () ∧
      ⟨x, size⟩ ∈ (kgsl_iommu_set_svm_region B pt x size true).1.entries := by
  have hin : iommu_addr_in_svm_ranges pt x size = true := by
    simp only [iommu_addr_in_svm_ranges, addr_in_range, Bool.or_eq_true, decide_eq_true_eq]
    rcases hrange with hrange | hrange
    · left
      omega
    · right
      omega
  obtain ⟨t, ht, -, hmem⟩ := insert_gpuaddr_ok (B := B) hpt.separate hsize hfree
  have hnone := (find_by_block_eq_none_iff hpt.separate).mpr hfree
  have heq : kgsl_iommu_set_svm_region B pt x size true = ({ pt with rbtree := t }, .ok ()) := by
    simp [kgsl_iommu_set_svm_region, hin, hnone, ht]
  rw [heq]
  exact ⟨rfl, (hmem _).mpr (.inl rfl)⟩

/-- **The allocator is safe and complete.** -/
theorem gpuaddr_allocator_safe_complete (B : SearchTree.Balance AddrEntry) (pt : Pagetable)
    (hfresh : pt.rbtree = .nil) (l : List Call) (hl : ∀ c ∈ l, c.Sized) :
    let pt' := Run.exec (Pagetable.call B) pt l
    pt'.Inv ∧
      (∀ bottom top size align, 0 < size → align.isPowerOfTwo →
        FindsLowest (FreeBlocks pt'.entries bottom top size align)
          (get_unmapped_area pt' bottom top size align)) ∧
      (∀ bottom top size align, 0 < size → align.isPowerOfTwo → top < 2 ^ 64 →
        FindsHighest (FreeBlocks pt'.entries bottom top size align)
          (get_unmapped_area_topdown pt' bottom top size align)) ∧
      (∀ start stop size alignment x, 0 < size → alignment.isPowerOfTwo → stop < 2 ^ 64 →
        pt'.SvmRange start stop →
        kgsl_iommu_find_svm_region pt' start stop size alignment = .ok x →
        (kgsl_iommu_set_svm_region B pt' x size true).2 = .ok () ∧
          ⟨x, size⟩ ∈ (kgsl_iommu_set_svm_region B pt' x size true).1.entries) := by
  intro pt'
  have hinv : pt'.Inv := by
    refine Run.Ok.inv (fun _ _ hpt hc => hpt.call hc) ?_ (Run.Ok.of_forall pt hl)
    constructor <;> simp [Pagetable.entries, hfresh, Separate.mk]
  refine ⟨hinv, ?_, ?_, ?_⟩
  · intro bottom top size align hsize halign
    exact get_unmapped_area_findsLowest hinv.separate (Nat.pos_of_isPowerOfTwo halign) hsize
  · intro bottom top size align hsize halign htop
    exact get_unmapped_area_topdown_findsHighest hinv.separate (Nat.pos_of_isPowerOfTwo halign)
      hsize htop
  · intro start stop size alignment x hsize halign hstop hrange hfind
    unfold kgsl_iommu_find_svm_region at hfind
    split at hfind
    · cases hfind
    have h : FindsHighest (FreeBlocks pt'.entries start stop size alignment)
        (get_unmapped_area_topdown pt' start stop size alignment) :=
      get_unmapped_area_topdown_findsHighest hinv.separate (Nat.pos_of_isPowerOfTwo halign) hsize
        hstop
    rw [hfind] at h
    have hmem : x ∈ FreeBlocks pt'.entries start stop size alignment := by
      rcases h with hmax | ⟨rfl, hzero⟩
      · exact hmax.1.1
      · rw [hzero]
        exact rfl
    obtain ⟨-, hlo, hhi, hfree⟩ := hmem
    exact kgsl_iommu_set_svm_region_ok hinv hsize hrange hlo hhi hfree

def process_pagetable : Pagetable where
  secure := false
  va_start := 0x4000000000
  va_end := 0x8000000000
  svm_start := 0x100000000
  svm_end := 0x4000000000
  compat_va_start := 0x200000
  compat_va_end := 0xec000000
  rbtree := .nil

theorem gpuaddr_allocator_of_history : let l : List Call :=
      [.get_gpuaddr ⟨false, false, false, true, 16, 5000⟩ true,
        .set_svm_region 0x3ffffff000 0x1000 true, .put_gpuaddr 0x4000000000]
    (∀ c ∈ l, c.Sized) ∧
      kgsl_iommu_find_svm_region
          (Run.exec (Pagetable.call SearchTree.Balance.none) process_pagetable l)
          0x100000000 0x4000000000 0x2000 0x1000 = .ok 0x3fffffd000 ∧
      (kgsl_iommu_set_svm_region SearchTree.Balance.none
          (Run.exec (Pagetable.call SearchTree.Balance.none) process_pagetable l)
          0x3fffffd000 0x2000 true).2 = .ok () := by
  intro l
  have hl : ∀ c ∈ l, c.Sized := by decide
  have hfind : kgsl_iommu_find_svm_region
      (Run.exec (Pagetable.call SearchTree.Balance.none) process_pagetable l)
      0x100000000 0x4000000000 0x2000 0x1000 = .ok 0x3fffffd000 := by decide +kernel
  refine ⟨hl, hfind, ?_⟩
  exact ((gpuaddr_allocator_safe_complete SearchTree.Balance.none process_pagetable rfl l hl).2.2.2
    _ _ _ _ _ (by decide) ⟨12, rfl⟩ (by decide) (by decide +kernel) hfind).1

/-- Outside the SVM ranges what the search shows is not accepted; and a range that starts at `0` may
be answered with the block at `0`. -/
theorem find_svm_region_not_accepted :
    (kgsl_iommu_find_svm_region process_pagetable 0x4000000000 0x8000000000 0x1000 0x1000
        = .ok 0x7ffffff000 ∧
      (kgsl_iommu_set_svm_region SearchTree.Balance.none process_pagetable 0x7ffffff000 0x1000
        true).2 = .error .ENOMEM) ∧
    get_unmapped_area_topdown process_pagetable 0 5000 0x1000 0x1000 = .ok 0 := by
  decide +kernel

end KernelExtra.Kgsl
