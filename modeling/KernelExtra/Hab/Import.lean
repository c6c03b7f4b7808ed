/-
Importing a buffer: `hab_mem_import` in `hab_mimex.c`, and `pages_list_create` and what lies between
them in `hab_mem_linux.c`.

The other machine has sent a descriptor with a table of regions. `pages_list_create` allocates an
array of as many pages as one field says and fills it with as many as the regions have.
-/
import KernelExtra.Hab.Recv

namespace KernelExtra.Hab

open Bytes List

/-! ## Descriptors -/

/-- An export descriptor: its object, and the memory from there on. -/
structure Desc where
  size : ℕ
  mem : Mem

def Desc.of (bytes : List UInt8) (behind : Mem) : Desc :=
  ⟨bytes.length, fun i => if i < bytes.length then bytes.getD i 0 else behind i⟩

def PAGE_SHIFT : ℕ := 12

def sizeof_ptr : ℕ := 8

namespace Desc

variable (exp : Desc)

def payload_count : ℕ := le exp.mem exp_payload_count.off 4

def first_pfn : ℕ := le exp.mem exp_payload 8

def nregions : ℤ := int32 (le exp.mem (exp_payload + 8) 4)

def region (i : ℕ) : ℕ := exp_payload + 12 + 8 * i

def region_size (i : ℕ) : ℤ := int32 (le exp.mem (region i) 4)
def region_space (i : ℕ) : ℤ := int32 (le exp.mem (region i + 4) 4)

def pages_size : ℤ := int32 (exp.payload_count * sizeof_ptr)

def touch (a : Access) : Touch := ⟨exp.size, a⟩

end Desc

def move_pfn (pfn : ℕ) (d : ℤ) : ℕ := (((pfn : ℤ) + d) % 2 ^ 64).toNat

def int_add (a b : ℤ) : ℤ := int32 ((a + b) % 2 ^ 32).toNat

def run (pfn : ℕ) (n : ℕ) : List ℕ := (List.range n).map fun j => (pfn + j) % 2 ^ 64

/-- The loop of `pages_list_create`, from region `i` on with `n` to go: the pages it writes from
`pages[k]` on, and the accesses. -/
def pages_loop (exp : Desc) : ℕ → ℕ → ℕ → ℕ → List ℕ × List Touch
  | 0, _, _, _ => ([], [exp.touch ⟨exp_payload + 8, 4⟩])
  | n + 1, i, pfn, k =>
    let size := exp.region_size i
    let rest := pages_loop exp n (i + 1) (move_pfn pfn (int_add size (exp.region_space i)))
      (k + size.toNat)
    (run pfn size.toNat ++ rest.1,
      exp.touch ⟨exp_payload + 8, 4⟩ :: exp.touch ⟨Desc.region i, 4⟩ ::
      (if size.toNat = 0 then []
        else [⟨exp.pages_size.toNat, sizeof_ptr * k, sizeof_ptr * size.toNat⟩]) ++
      exp.touch ⟨Desc.region i + 4, 4⟩ :: rest.2)

/-- What an import depends on besides the descriptor. -/
structure Circumstances where
  sizebytes : ℕ
  imported : Bool
  pfn_ok : ℕ → Bool
  alloc_pages : Bool
  alloc_pglist : Bool
  dma_buf : Bool

def smooth_import : Circumstances where
  sizebytes := 0
  imported := false
  pfn_ok _ := true
  alloc_pages := true
  alloc_pglist := true
  dma_buf := true

def pages_list_create (exp : Desc) (c : Circumstances) : Except Ret (List ℕ) × List Touch :=
  let first := exp.touch ⟨exp_payload, 8⟩
  if c.pfn_ok exp.first_pfn = false then (.error .EINVAL, [first, exp.touch exp_pchan])
  -- a negative size is more than can be allocated
  else if exp.pages_size < 0 ∨ c.alloc_pages = false then
    (.error .ENOMEM, [first, exp.touch exp_payload_count])
  else if c.alloc_pglist = false then (.error .ENOMEM, [first, exp.touch exp_payload_count])
  else
    let loop := pages_loop exp exp.nregions.toNat 0 exp.first_pfn 0
    (.ok loop.1, first :: exp.touch exp_payload_count :: loop.2 ++
      [exp_payload_count, exp_export_id, exp_vcid_remote, exp_pchan].map exp.touch)

def habmem_imp_hyp_map (exp : Desc) (c : Circumstances) : Bool × List Touch :=
  let lookup := [exp_pchan, exp_export_id].map exp.touch
  if c.imported then (c.dma_buf, lookup)
  else
    match pages_list_create exp c with
    | (.error _, touches) => (false, lookup ++ touches)
    | (.ok _, touches) => (c.dma_buf, lookup ++ touches)

def hab_mem_import (exp : Desc) (c : Circumstances) : Ret × List Touch :=
  let found := [exp_export_id, exp_pchan, exp_payload_count].map exp.touch
  if exp.payload_count * 2 ^ PAGE_SHIFT % 2 ^ 32 ≠ c.sizebytes then
    (.EINVAL, found ++ [exp.touch exp_payload_count])
  else
    let map := habmem_imp_hyp_map exp c
    if map.1 then (.ok, found ++ map.2 ++ [exp_import_index, exp_kva].map exp.touch)
    else (.EINVAL, found ++ map.2 ++
      [exp_payload_count, exp_domid_local, ⟨exp_payload, 4⟩].map exp.touch)

/-! ## Which descriptors are safe to import -/

def Desc.total (exp : Desc) (i n : ℕ) : ℕ :=
  ((List.range n).map fun j => (exp.region_size (i + j)).toNat).sum

/-- A descriptor that can be imported: its fields are there, the table of regions ends inside it and
its pages fit in the array. -/
structure Desc.Importable (exp : Desc) : Prop where
  fields : exp_payload + 8 ≤ exp.size
  table : 0 ≤ exp.pages_size → Desc.region exp.nregions.toNat ≤ exp.size
  pages : 0 ≤ exp.pages_size → sizeof_ptr * exp.total 0 exp.nregions.toNat ≤ exp.pages_size.toNat

def Safe (l : List Touch) : Prop := ∀ t ∈ l, t.Inside

instance (l : List Touch) : Decidable (Safe l) := inferInstanceAs (Decidable (∀ t ∈ l, t.Inside))

lemma safe_append {l l' : List Touch} : Safe (l ++ l') ↔ Safe l ∧ Safe l' :=
  forall_mem_append

lemma safe_cons {t : Touch} {l : List Touch} : Safe (t :: l) ↔ t.Inside ∧ Safe l :=
  forall_mem_cons

lemma safe_nil : Safe [] := nofun

lemma Desc.total_succ (exp : Desc) (i n : ℕ) :
    exp.total i (n + 1) = (exp.region_size i).toNat + exp.total (i + 1) n := by
  rw [Desc.total, range_succ_eq_map, map_cons, sum_cons, map_map, Desc.total, add_zero]
  congr 2
  apply map_congr_left
  intro j _
  rw [Function.comp, Nat.succ_eq_add_one, add_assoc, add_comm 1 j]

/-- **The loop is safe** exactly when the table and the pages fit. The induction is on the regions
to go. -/
theorem safe_pages_loop_iff (exp : Desc) (n i pfn k : ℕ)
    (hfields : exp_payload + 12 ≤ exp.size) (hk : sizeof_ptr * k ≤ exp.pages_size.toNat) :
    Safe (pages_loop exp n i pfn k).2 ↔
      (n = 0 ∨ Desc.region (i + n) ≤ exp.size) ∧
        sizeof_ptr * (k + exp.total i n) ≤ exp.pages_size.toNat := by
  induction n generalizing i pfn k with
  | zero =>
    have htotal : exp.total i 0 = 0 := rfl
    rw [htotal, add_zero, pages_loop, safe_cons]
    exact iff_of_true ⟨hfields, safe_nil⟩ ⟨.inl rfl, hk⟩
  | succ n ih =>
    have hregion : Desc.region i + 4 + 4 = Desc.region (i + 1) := by
      unfold Desc.region
      omega
    have hmono : Desc.region (i + 1) ≤ Desc.region (i + (n + 1)) := by
      unfold Desc.region
      omega
    rw [pages_loop, exp.total_succ]
    set size := (exp.region_size i).toNat with hsize
    simp only [cons_append, safe_cons, safe_append, Desc.touch, Touch.Inside, Access.Inside]
    by_cases hfit : sizeof_ptr * (k + size) ≤ exp.pages_size.toNat
    · have hwrite : Safe (if size = 0 then []
          else [⟨exp.pages_size.toNat, sizeof_ptr * k, sizeof_ptr * size⟩]) := by
        split_ifs
        · exact safe_nil
        · refine safe_cons.mpr ⟨?_, safe_nil⟩
          change sizeof_ptr * k + sizeof_ptr * size ≤ _
          rwa [← mul_add]
      rw [ih (i + 1) _ (k + size) hfit, show i + 1 + n = i + (n + 1) by omega, add_assoc k]
      constructor
      · rintro ⟨-, -, -, htable, hrest, hpages⟩
        refine ⟨.inr ?_, hpages⟩
        rcases hrest with rfl | hrest
        · exact hregion ▸ htable
        · exact hrest
      · rintro ⟨htable, hpages⟩
        have htable : Desc.region (i + (n + 1)) ≤ exp.size := htable.resolve_left (by omega)
        exact ⟨hfields, by omega, hwrite, by omega, .inr htable, hpages⟩
    · -- the pages of this region do not fit
      refine iff_of_false ?_ ?_
      · rintro ⟨-, -, hwrite, -⟩
        have hne : size ≠ 0 := by
          rintro hzero
          rw [hzero, add_zero] at hfit
          exact hfit hk
        rw [if_neg hne, safe_cons] at hwrite
        have := hwrite.1
        change sizeof_ptr * k + sizeof_ptr * size ≤ _ at this
        rw [← mul_add] at this
        exact hfit this
      · rintro ⟨-, hpages⟩
        refine hfit (le_trans (Nat.mul_le_mul_left _ ?_) hpages)
        omega

section Import

variable {exp : Desc}

lemma safe_fields (hfields : exp_payload + 8 ≤ exp.size) {l : List Access}
    (hl : ∀ a ∈ l, a.Inside (exp_payload + 8)) : Safe (l.map exp.touch) := by
  intro t ht
  obtain ⟨a, ha, rfl⟩ := mem_map.mp ht
  exact le_trans (hl a ha) hfields

lemma Desc.Importable.safe_create (h : exp.Importable) (c : Circumstances) :
    Safe (pages_list_create exp c).2 := by
  have hfields {l : List Access} := safe_fields (l := l) h.fields
  rw [pages_list_create]
  split_ifs with hpfn hsize hlist
  · exact hfields (l := [⟨exp_payload, 8⟩, exp_pchan]) (by decide)
  · exact hfields (l := [⟨exp_payload, 8⟩, exp_payload_count]) (by decide)
  · exact hfields (l := [⟨exp_payload, 8⟩, exp_payload_count]) (by decide)
  · have hnonneg : 0 ≤ exp.pages_size := not_lt.mp fun hneg => hsize (.inl hneg)
    have htable := h.table hnonneg
    have hloop : Safe (pages_loop exp exp.nregions.toNat 0 exp.first_pfn 0).2 := by
      refine (safe_pages_loop_iff exp _ _ _ 0 ?_ (zero_le)).mpr ⟨.inr ?_, ?_⟩
      · exact le_trans (Nat.le_add_right ..) htable
      · rwa [zero_add]
      · rw [zero_add]
        exact h.pages hnonneg
    have hbefore := hfields (l := [⟨exp_payload, 8⟩, exp_payload_count]) (by decide)
    have hafter := hfields (l := [exp_payload_count, exp_export_id, exp_vcid_remote, exp_pchan])
      (by decide)
    exact safe_append.mpr ⟨safe_append.mpr ⟨hbefore, hloop⟩, hafter⟩

lemma Desc.Importable.safe_map (h : exp.Importable) (c : Circumstances) :
    Safe (habmem_imp_hyp_map exp c).2 := by
  have hlookup : Safe ([exp_pchan, exp_export_id].map exp.touch) :=
    safe_fields h.fields (by decide)
  have hcreate := h.safe_create c
  rw [habmem_imp_hyp_map]
  split_ifs
  · exact hlookup
  · split <;> rename_i heq <;> rw [heq] at hcreate <;> exact safe_append.mpr ⟨hlookup, hcreate⟩

lemma Desc.Importable.safe (h : exp.Importable) (c : Circumstances) :
    Safe (hab_mem_import exp c).2 := by
  have hfields {l : List Access} := safe_fields (l := l) h.fields
  have hmap := h.safe_map c
  have hfound := hfields (l := [exp_export_id, exp_pchan, exp_payload_count]) (by decide)
  simp only [hab_mem_import]
  split_ifs
  · exact safe_append.mpr ⟨hfound, hfields (l := [exp_payload_count]) (by decide)⟩
  · exact safe_append.mpr ⟨safe_append.mpr ⟨hfound, hmap⟩, hfields (by decide)⟩
  · exact safe_append.mpr ⟨safe_append.mpr ⟨hfound, hmap⟩, hfields (by decide)⟩

def Desc.smooth (exp : Desc) : Circumstances :=
  { smooth_import with sizebytes := exp.payload_count * 2 ^ PAGE_SHIFT % 2 ^ 32 }

lemma safe_create_of_import (h : Safe (hab_mem_import exp exp.smooth).2) :
    Safe (pages_list_create exp exp.smooth).2 := by
  have hmap : Safe (habmem_imp_hyp_map exp exp.smooth).2 := by
    have hsize : ¬ exp.payload_count * 2 ^ PAGE_SHIFT % 2 ^ 32 ≠ exp.smooth.sizebytes :=
      fun hne => hne rfl
    simp only [hab_mem_import, if_neg hsize] at h
    split_ifs at h
    · exact (safe_append.mp (safe_append.mp h).1).2
    · exact (safe_append.mp (safe_append.mp h).1).2
  have himported : ¬ exp.smooth.imported = true := fun h => Bool.noConfusion h
  rw [habmem_imp_hyp_map, if_neg himported] at hmap
  split at hmap <;> rename_i heq <;> rw [heq] <;> exact (safe_append.mp hmap).2

/-- **A descriptor can be imported safely**, whatever the import meets, exactly when it is
importable. -/
theorem safe_import_iff : (∀ c, Safe (hab_mem_import exp c).2) ↔ exp.Importable := by
  refine ⟨fun h => ?_, fun h c => h.safe c⟩
  have hcreate := safe_create_of_import (h exp.smooth)
  have hpfn : ¬ exp.smooth.pfn_ok exp.first_pfn = false := (fun h => Bool.noConfusion h)
  rw [pages_list_create, if_neg hpfn] at hcreate
  by_cases hneg : exp.pages_size < 0
  · rw [if_pos (.inl hneg), safe_cons] at hcreate
    exact ⟨hcreate.1, fun h => absurd h (not_le.mpr hneg), fun h => absurd h (not_le.mpr hneg)⟩
  · have hsize : ¬ (exp.pages_size < 0 ∨ exp.smooth.alloc_pages = false) :=
      fun h => h.elim hneg (fun h => Bool.noConfusion h)
    have hlist : ¬ exp.smooth.alloc_pglist = false := (fun h => Bool.noConfusion h)
    rw [if_neg hsize, if_neg hlist] at hcreate
    simp only [cons_append, safe_cons, safe_append] at hcreate
    obtain ⟨hfirst, -, hloop, -⟩ := hcreate
    have hnregions : exp_payload + 12 ≤ exp.size := by
      cases hn : exp.nregions.toNat with
      | zero =>
        rw [hn, pages_loop, safe_cons] at hloop
        exact hloop.1
      | succ n =>
        rw [hn, pages_loop, cons_append, safe_cons] at hloop
        exact hloop.1
    obtain ⟨htable, hpages⟩ :=
      (safe_pages_loop_iff exp _ _ _ 0 hnregions (zero_le)).mp hloop
    rw [zero_add] at htable hpages
    refine ⟨hfirst, fun _ => ?_, fun _ => hpages⟩
    rcases htable with hzero | htable
    · rw [hzero]
      exact hnregions
    · exact htable

end Import

end KernelExtra.Hab
