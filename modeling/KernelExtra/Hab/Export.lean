/-
Exporting a buffer and importing it on the other machine, `hab_mem_linux.c` and `hab_mimex.c`.

`habmem_compress_pfns` writes the pages of a buffer as runs, with the gap to the next run, from an
array of pages or from a scatter list. `habmem_export_vchan` sends the table, with the size in 16
bits, and `pages_list_create` makes an array of pages of it again. What comes back are the right
pages exactly when each gap leads from its segment to the next one: an `int` has to hold it, and for
the first segment of a scatter list it is counted from the wrong page, if the offset is not at the
beginning of an entry.
-/
import KernelExtra.Hab.Import

namespace KernelExtra.Hab

open Option (map_some getD_some)
open Bytes List Nat

/-! ## Sources -/

def PFN_END : ℕ := 2 ^ 52

/-- An entry of a scatter list, inside the memory there is. -/
structure Sg where
  pfn : ℕ
  length : UInt32
  frames : pfn + length.toNat / 2 ^ PAGE_SHIFT ≤ PFN_END

def Sg.pages (s : Sg) : ℕ := s.length.toNat / 2 ^ PAGE_SHIFT

lemma Sg.pages_lt (s : Sg) : s.pages < 2 ^ 20 := by
  have := s.length.toNat_lt
  unfold Sg.pages PAGE_SHIFT
  omega

/-- What a `dma_buf` stands for: the pages of a `pages_list`, or a scatter list and the
offset into it in pages. -/
inductive Buffer where
  | pages (l : List (Fin PFN_END))
  | sg (sgl : List Sg) (page_offset : ℕ)

def sg_pfns (sgl : List Sg) : List ℕ := sgl.flatMap fun s => List.range' s.pfn s.pages

def Buffer.all : Buffer → List ℕ
  | .pages l => l.map (·.val)
  | .sg sgl page_offset => (sg_pfns sgl).drop page_offset

/-! ## `habmem_compress_pfns` -/

/-- An entry of the table: a run of pages and the gap behind it. -/
structure Region where
  size : ℕ
  space : ℕ
  deriving DecidableEq

/-- The table that is sent. -/
structure CompressedPfns where
  first_pfn : ℕ
  region : List Region
  deriving DecidableEq

def space_word (b a : ℤ) : ℕ := ((b - a - 1) % 2 ^ 32).toNat

def page_loop : ℕ → ℕ → List ℕ → List Region
  | _, region_size, [] => [⟨region_size, 0⟩]
  | pre, region_size, page :: pages =>
    if ((page : ℤ) - 1) % 2 ^ 64 = pre then page_loop page (region_size + 1) pages
    else ⟨region_size, space_word page pre⟩ :: page_loop page 1 pages

/-- The variables of the loop over a scatter list. -/
structure SgLoop where
  first_pfn : ℕ
  region : List Region
  page_offset : ℕ
  page_count : ℕ
  pre : ℤ

def set_space (region : List Region) (space : ℕ) : List Region :=
  region.modify (region.length - 1) fun r => { r with space }

def sg_loop : List Sg → SgLoop → CompressedPfns
  | [], st => ⟨st.first_pfn, st.region ++ [⟨0, 0⟩]⟩
  | s :: sgl, st =>
    if st.page_offset ≥ s.pages then sg_loop sgl { st with page_offset := st.page_offset - s.pages }
    else
      let first_pfn := if st.region = [] then s.pfn + st.page_offset else st.first_pfn
      let region :=
        if st.region = [] then [] else set_space st.region (space_word s.pfn st.pre)
      let size := s.pages - st.page_offset
      if size ≥ st.page_count then ⟨first_pfn, region ++ [⟨st.page_count, 0⟩]⟩
      else
        sg_loop sgl
          { first_pfn := first_pfn
            region := region ++ [⟨size, 0⟩]
            page_offset := 0
            page_count := st.page_count - size
            pre := s.pfn + size - 1 }

def habmem_compress_pfns (page_count : ℕ) : Buffer → CompressedPfns
  | .pages l =>
    match l.take page_count with
    | [] => ⟨0, [⟨1, 0⟩]⟩
    | page :: pages => ⟨page, page_loop page 1 (pages.map (·.val))⟩
  | .sg sgl page_offset => sg_loop sgl ⟨0, [], page_offset, page_count, 0⟩

/-! ## The message -/

def export_page_count (sizebytes : UInt32) : Option ℕ :=
  if sizebytes = 0 ∨ sizebytes.toNat % 2 ^ PAGE_SHIFT ≠ 0 then none
  else some (sizebytes.toNat / 2 ^ PAGE_SHIFT)

abbrev Fields : Type := { l : List UInt8 // l.length = exp_payload_count.off }

def Region.bytes (r : Region) : List UInt8 := toLe 4 r.size ++ toLe 4 r.space

def image (front : Fields) (page_count : ℕ) (t : CompressedPfns) : List UInt8 :=
  front.1 ++ (toLe 4 page_count ++ (toLe 8 t.first_pfn ++
    (toLe 4 t.region.length ++ t.region.flatMap Region.bytes)))

def sizeof_export_desc : ℕ := 89

/-- `sizeof(struct compressed_pfns)` and `sizeof(struct region)`: the size of the payload. -/
def data_size (t : CompressedPfns) : ℕ := 16 + 8 * t.region.length

def export_header (t : CompressedPfns) : Header :=
  HAB_HEADER_SET_SIZE .zero (.ofNat (sizeof_export_desc + data_size t))

/-- **What is sent**: as many bytes of the descriptor as the header says. Behind the table the
object is zero. -/
def export_message (front : Fields) (page_count : ℕ) (t : CompressedPfns) : List UInt8 :=
  load ((image front page_count t).getD · 0) 0 (export_header t).sizebytes

/-! ## Segments -/

/-- `size` pages from `start` on. The gap is counted from the last of them, if `off` is 0; otherwise
from `off` pages before. -/
structure Seg where
  start : ℕ
  size : ℕ
  off : ℕ
  deriving DecidableEq

def Seg.pre (s : Seg) : ℤ := s.start - s.off + s.size - 1

def Seg.pfns (s : Seg) : List ℕ := List.range' s.start s.size

def table_of : List Seg → List Region
  | [] => []
  | s :: rest =>
    ⟨s.size, (rest.head?.map fun t => space_word t.start s.pre).getD 0⟩ :: table_of rest

@[simp] lemma length_table_of (segs : List Seg) : (table_of segs).length = segs.length := by
  induction segs with
  | nil => rfl
  | cons s rest ih => rw [table_of, length_cons, length_cons, ih]

/-- A run of pages whose numbers fit their words. -/
structure Seg.Good (s : Seg) : Prop where
  pos : 0 < s.size
  size_lt : s.size < 2 ^ 20
  off_lt : s.off < 2 ^ 20
  frames : s.start + s.size ≤ PFN_END

def page_segs : ℕ → ℕ → List ℕ → List Seg
  | start, size, [] => [⟨start, size, 0⟩]
  | start, size, page :: pages =>
    if page = start + size then page_segs start (size + 1) pages
    else ⟨start, size, 0⟩ :: page_segs page 1 pages

def sg_segs : List Sg → ℕ → ℕ → List Seg
  | [], _, _ => []
  | s :: sgl, page_offset, page_count =>
    if page_offset ≥ s.pages then sg_segs sgl (page_offset - s.pages) page_count
    else if s.pages - page_offset ≥ page_count then [⟨s.pfn + page_offset, page_count, page_offset⟩]
    else ⟨s.pfn + page_offset, s.pages - page_offset, page_offset⟩ ::
      sg_segs sgl 0 (page_count - (s.pages - page_offset))

def Buffer.segs (page_count : ℕ) : Buffer → List Seg
  | .pages l =>
    match l.take page_count with
    | [] => []
    | page :: rest => page_segs page 1 (rest.map (·.val))
  | .sg sgl page_offset => sg_segs sgl page_offset page_count

/-! ### Arrays of pages -/

lemma page_segs_head (start size : ℕ) (pages : List ℕ) :
    ∃ s rest, page_segs start size pages = s :: rest ∧ s.start = start := by
  induction pages generalizing size with
  | nil => exact ⟨_, _, rfl, rfl⟩
  | cons page pages ih =>
    rw [page_segs]
    split_ifs
    · exact ih _
    · exact ⟨_, _, rfl, rfl⟩

lemma page_loop_eq {start size : ℕ} {pages : List ℕ} (hsize : 0 < size)
    (hpre : start + size ≤ PFN_END) (hpages : ∀ page ∈ pages, page < PFN_END) :
    page_loop (start + size - 1) size pages = table_of (page_segs start size pages) := by
  induction pages generalizing start size with
  | nil => rfl
  | cons page pages ih =>
    rw [forall_mem_cons] at hpages
    obtain ⟨hpage, hpages⟩ := hpages
    unfold PFN_END at hpre hpage
    have hcond : (((page : ℤ) - 1) % 2 ^ 64 = (start + size - 1 : ℕ)) ↔ page = start + size := by
      omega
    rw [page_loop, page_segs]
    by_cases hnext : page = start + size
    · rw [if_pos (hcond.mpr hnext), if_pos hnext]
      have := @ih start _ (succ_pos size) (by unfold PFN_END; omega) hpages
      rwa [show start + (size + 1) - 1 = page by omega] at this
    · rw [if_neg (mt hcond.mp hnext), if_neg hnext]
      obtain ⟨t, rest, hsegs, hstart⟩ := page_segs_head page 1 pages
      have hrest := @ih page 1 one_pos (by unfold PFN_END; omega) hpages
      rw [Nat.add_sub_cancel] at hrest
      rw [table_of, hrest, hsegs]
      simp only [head?_cons, map_some, getD_some, hstart, Seg.pre]
      congr 2
      congr 2
      omega

lemma page_segs_good {start size : ℕ} {pages : List ℕ} (hsize : 0 < size)
    (hlen : size + pages.length < 2 ^ 20) (hpre : start + size ≤ PFN_END)
    (hpages : ∀ page ∈ pages, page < PFN_END) :
    ∀ s ∈ page_segs start size pages, s.Good ∧ s.off = 0 := by
  induction pages generalizing start size with
  | nil =>
    intro s hs
    rw [page_segs, mem_singleton] at hs
    subst hs
    exact ⟨⟨hsize, by simpa using hlen, by norm_num, hpre⟩, rfl⟩
  | cons page pages ih =>
    rw [forall_mem_cons] at hpages
    rw [length_cons] at hlen
    rw [page_segs]
    split_ifs with hnext
    · refine ih (succ_pos size) (by omega) ?_ hpages.2
      omega
    · intro s hs
      rcases mem_cons.mp hs with rfl | hs
      · exact ⟨⟨hsize, by change size < _; omega, by norm_num, hpre⟩, rfl⟩
      · exact ih one_pos (by omega) hpages.1 hpages.2 s hs

lemma flatMap_page_segs (start size : ℕ) (pages : List ℕ) :
    (page_segs start size pages).flatMap Seg.pfns = List.range' start size ++ pages := by
  induction pages generalizing start size with
  | nil => rw [page_segs, flatMap_singleton, append_nil, Seg.pfns]
  | cons page pages ih =>
    rw [page_segs]
    split_ifs with hnext
    · rw [ih, range'_1_concat, ← hnext, append_assoc]
      rfl
    · rw [flatMap_cons, ih]
      rfl

/-! ### Scatter lists -/

lemma length_sg_pfns_cons (s : Sg) (sgl : List Sg) :
    (sg_pfns (s :: sgl)).length = s.pages + (sg_pfns sgl).length := by
  rw [sg_pfns, flatMap_cons, length_append, length_range']
  rfl

lemma set_space_append (region : List Region) (r : Region) (space : ℕ) :
    set_space (region ++ [r]) space = region ++ [{ r with space }] := by
  rw [set_space, length_append, length_singleton, Nat.add_sub_cancel]
  induction region with
  | nil => rfl
  | cons r' region ih =>
    rw [cons_append, length_cons, modify_succ_cons, ih, cons_append]

variable {sgl : List Sg}

lemma sg_loop_next {first_pfn size page_count : ℕ} {region : List Region}
    {pre : ℤ} (hcount : 0 < page_count) (hlen : page_count ≤ (sg_pfns sgl).length) :
    sg_loop sgl ⟨first_pfn, region ++ [⟨size, 0⟩], 0, page_count, pre⟩ =
      ⟨first_pfn, region ++
        ⟨size, ((sg_segs sgl 0 page_count).head?.map fun t => space_word t.start pre).getD 0⟩ ::
          table_of (sg_segs sgl 0 page_count)⟩ := by
  induction sgl generalizing region size page_count pre with
  | nil =>
    rw [show sg_pfns [] = [] from rfl, length_nil] at hlen
    omega
  | cons s sgl ih =>
    rw [length_sg_pfns_cons] at hlen
    by_cases hskip : 0 ≥ s.pages
    · have hrest := @ih size page_count region pre hcount (by omega)
      rwa [sg_loop, if_pos hskip, sg_segs, if_pos hskip, Nat.zero_sub]
    · have hregion : region ++ [⟨size, 0⟩] ≠ [] := append_ne_nil_of_right_ne_nil _ (by simp)
      rw [sg_loop, if_neg hskip, sg_segs, if_neg hskip]
      simp only [if_neg hregion, set_space_append, Nat.sub_zero, add_zero]
      by_cases hlast : s.pages ≥ page_count
      · simp only [if_pos hlast, append_assoc]
        rfl
      · simp only [if_neg hlast]
        rw [ih (by omega) (by omega), append_assoc]
        simp [table_of, Seg.pre]

lemma sg_loop_eq {first_pfn page_offset page_count : ℕ} {pre : ℤ}
    (hcount : 0 < page_count) (hlen : page_offset + page_count ≤ (sg_pfns sgl).length) :
    sg_loop sgl ⟨first_pfn, [], page_offset, page_count, pre⟩ =
      ⟨((sg_segs sgl page_offset page_count).head?.map Seg.start).getD 0,
        table_of (sg_segs sgl page_offset page_count)⟩ := by
  induction sgl generalizing page_offset with
  | nil =>
    rw [show sg_pfns [] = [] from rfl, length_nil] at hlen
    omega
  | cons s sgl ih =>
    rw [length_sg_pfns_cons] at hlen
    by_cases hskip : page_offset ≥ s.pages
    · have hrest := @ih (page_offset - s.pages) (by omega)
      rwa [sg_loop, if_pos hskip, sg_segs, if_pos hskip]
    · rw [sg_loop, if_neg hskip, sg_segs, if_neg hskip]
      simp only [if_true]
      by_cases hlast : s.pages - page_offset ≥ page_count
      · simp only [if_pos hlast]
        rfl
      · simp only [if_neg hlast]
        rw [sg_loop_next (by omega) (by omega)]
        simp [table_of, Seg.pre]

lemma sg_segs_good {page_offset page_count : ℕ} (hcount : 0 < page_count) :
    ∀ s ∈ sg_segs sgl page_offset page_count, s.Good := by
  induction sgl generalizing page_offset page_count with
  | nil => exact nofun
  | cons s sgl ih =>
    have hpages := s.pages_lt
    have hframes : s.pfn + s.pages ≤ PFN_END := s.frames
    rw [sg_segs]
    split_ifs with hskip hlast
    · exact ih hcount
    · intro t ht
      rw [mem_singleton] at ht
      subst ht
      exact ⟨hcount, by change page_count < _; omega, by change page_offset < _; omega,
        by change s.pfn + page_offset + page_count ≤ _; omega⟩
    · intro t ht
      rcases mem_cons.mp ht with rfl | ht
      · exact ⟨by change 0 < s.pages - page_offset; omega,
          by change s.pages - page_offset < _; omega, by change page_offset < _; omega,
          by change s.pfn + page_offset + (s.pages - page_offset) ≤ _; omega⟩
      · exact ih (by omega) t ht

lemma flatMap_sg_segs (sgl : List Sg) (page_offset page_count : ℕ) :
    (sg_segs sgl page_offset page_count).flatMap Seg.pfns =
      ((sg_pfns sgl).drop page_offset).take page_count := by
  induction sgl generalizing page_offset page_count with
  | nil =>
    rw [show sg_pfns [] = [] from rfl, drop_nil, take_nil]
    rfl
  | cons s sgl ih =>
    have hcons : sg_pfns (s :: sgl) = range' s.pfn s.pages ++ sg_pfns sgl := rfl
    rw [sg_segs, hcons, drop_append, length_range']
    split_ifs with hskip hlast
    · have hnone : (range' s.pfn s.pages).drop page_offset = [] := by
        rw [drop_range', Nat.sub_eq_zero_of_le hskip, range'_zero]
      rw [ih, hnone, nil_append]
    · rw [drop_range', mul_one, flatMap_singleton, Seg.pfns,
        take_append_of_le_length (by rwa [length_range'])]
      exact (take_range'_of_length_ge hlast).symm
    · rw [flatMap_cons, ih, drop_range', mul_one, take_append,
        take_range'_of_length_le (by omega), length_range',
        Nat.sub_eq_zero_of_le (le_of_not_ge hskip)]
      rfl

/-! ### Both sources -/

/-- **The table is that of the segments**, whatever the source. -/
theorem habmem_compress_pfns_eq {b : Buffer} {page_count : ℕ} (hcount : 0 < page_count)
    (hremaining : page_count ≤ b.all.length) :
    habmem_compress_pfns page_count b =
      ⟨((b.segs page_count).head?.map Seg.start).getD 0, table_of (b.segs page_count)⟩ := by
  cases b with
  | pages l =>
    obtain ⟨page, rest, htake⟩ : ∃ page rest, l.take page_count = page :: rest := by
      apply exists_cons_of_length_pos
      rw [Buffer.all, length_map] at hremaining
      rw [length_take]
      omega
    obtain ⟨s, segs, hsegs, hstart⟩ := page_segs_head page 1 (rest.map (·.val))
    have hloop : page_loop page 1 (rest.map (·.val)) =
        table_of (page_segs page 1 (rest.map (·.val))) := by
      apply page_loop_eq one_pos page.2
      intro p hp
      obtain ⟨q, -, rfl⟩ := mem_map.mp hp
      exact q.2
    simp only [habmem_compress_pfns, Buffer.segs, htake, hloop, hsegs, head?_cons,
      map_some, getD_some, hstart]
  | sg sgl page_offset =>
    rw [Buffer.all, length_drop] at hremaining
    exact sg_loop_eq hcount (by omega)

lemma segs_good {b : Buffer} {page_count : ℕ} (hcount : 0 < page_count)
    (hlt : page_count < 2 ^ 20) : ∀ s ∈ b.segs page_count, s.Good := by
  cases b with
  | pages l =>
    rw [Buffer.segs]
    split
    · exact nofun
    · rename_i page rest htake
      have hlen : (l.take page_count).length ≤ page_count := length_take_le ..
      rw [htake, length_cons] at hlen
      intro s hs
      refine (page_segs_good one_pos ?_ page.2 ?_ s hs).1
      · rw [length_map]
        omega
      · intro p hp
        obtain ⟨q, _, rfl⟩ := mem_map.mp hp
        exact q.2
  | sg sgl page_offset => exact sg_segs_good hcount

lemma flatMap_segs (b : Buffer) (page_count : ℕ) :
    (b.segs page_count).flatMap Seg.pfns = b.all.take page_count := by
  cases b with
  | pages l =>
    rw [Buffer.segs, Buffer.all, ← map_take]
    split
    · rename_i htake
      rw [htake]
      rfl
    · rename_i page rest htake
      rw [htake, flatMap_page_segs]
      rfl
  | sg sgl page_offset => exact flatMap_sg_segs sgl page_offset page_count

/-! ## What comes back -/

def decode : ℕ → List Region → List ℕ
  | _, [] => []
  | pfn, r :: rest =>
    run pfn (int32 r.size).toNat ++
      decode (move_pfn pfn (int_add (int32 r.size) (int32 r.space))) rest

/-- The gap between two neighbours is counted from the last page of the first one, and
an `int` holds what the loop adds. -/
def Linked (a b : Seg) : Prop :=
  a.off = 0 ∧ -2 ^ 31 ≤ (b.start : ℤ) - a.start ∧ (b.start : ℤ) - a.start < 2 ^ 31

instance (a b : Seg) : Decidable (Linked a b) := inferInstanceAs (Decidable (_ ∧ _ ∧ _))

lemma length_run (pfn n : ℕ) : (run pfn n).length = n := by
  rw [run, length_map, length_range]

lemma run_eq_range' {pfn n : ℕ} (h : pfn + n ≤ 2 ^ 64) : run pfn n = List.range' pfn n := by
  rw [run, range'_eq_map_range]
  apply map_congr_left
  intro j hj
  rw [mem_range] at hj
  exact mod_eq_of_lt (by omega)

lemma Seg.Good.int32_size {s : Seg} (hs : s.Good) : int32 s.size = s.size := by
  have := hs.size_lt
  exact (int32_eq_iff s.size s.size rfl).mpr (by omega)

/-- **The step from segment to segment** arrives exactly if they are linked. -/
theorem move_pfn_iff {s t : Seg} (hs : s.Good) (ht : t.Good) :
    move_pfn s.start (int_add (int32 s.size) (int32 (space_word t.start s.pre))) = t.start ↔
      Linked s t := by
  have hsframes := hs.frames
  have htframes := ht.frames
  have hoff := hs.off_lt
  unfold PFN_END at hsframes htframes
  have hspace := int32_range (space_word t.start s.pre)
  have hspace_mod := int32_emod (space_word t.start s.pre)
  have hadd := int32_range ((((s.size : ℤ) + int32 (space_word t.start s.pre)) % 2 ^ 32).toNat)
  have hadd_mod := int32_emod ((((s.size : ℤ) + int32 (space_word t.start s.pre)) % 2 ^ 32).toNat)
  rw [hs.int32_size, move_pfn, int_add, Linked]
  generalize int32 (((s.size : ℤ) + int32 (space_word t.start s.pre)) % 2 ^ 32).toNat = d
    at hadd hadd_mod ⊢
  generalize int32 (space_word t.start s.pre) = sp at hspace hspace_mod hadd_mod
  unfold space_word Seg.pre at hspace_mod
  omega

lemma decode_cons_of_good {s : Seg} {rest : List Seg} {pfn : ℕ} (hs : s.Good)
    (hpfn : pfn < 2 ^ 64) :
    ∃ l, decode pfn (table_of (s :: rest)) = pfn :: l := by
  obtain ⟨n, hn⟩ : ∃ n, s.size = n + 1 := exists_eq_succ_of_ne_zero (ne_of_gt hs.pos)
  rw [table_of, decode, hs.int32_size, Int.toNat_natCast, hn, run, range_succ_eq_map,
    map_cons, add_zero, mod_eq_of_lt hpfn]
  exact ⟨_, rfl⟩

/-- **The pages come back** exactly when every segment is linked to the next. -/
theorem decode_table_of_iff {s : Seg} {rest : List Seg} (hgood : ∀ t ∈ s :: rest, t.Good) :
    decode s.start (table_of (s :: rest)) = (s :: rest).flatMap Seg.pfns ↔
      List.IsChain Linked (s :: rest) := by
  induction rest generalizing s with
  | nil =>
    have hs := hgood s (mem_singleton_self s)
    have hframes := hs.frames
    unfold PFN_END at hframes
    refine iff_of_true ?_ (.singleton s)
    rw [table_of, decode, hs.int32_size, Int.toNat_natCast, run_eq_range' (by omega)]
    rfl
  | cons t rest ih =>
    obtain ⟨hs, hrest⟩ := forall_mem_cons.mp hgood
    have ht := hrest t mem_cons_self
    have hframes := hs.frames
    unfold PFN_END at hframes
    rw [table_of, decode, flatMap_cons, hs.int32_size, Int.toNat_natCast,
      run_eq_range' (by omega), Seg.pfns, append_cancel_left_eq, isChain_cons_cons,
      ← move_pfn_iff hs ht, ← ih hrest, hs.int32_size]
    simp only [head?_cons, map_some, getD_some]
    by_cases hmove : move_pfn s.start (int_add s.size (int32 (space_word t.start s.pre))) = t.start
    · rw [hmove]
      exact (and_iff_right rfl).symm
    · -- the first page after the gap is the wrong one
      refine iff_of_false ?_ (fun h => hmove h.1)
      intro heq
      have hlt : move_pfn s.start (int_add s.size (int32 (space_word t.start s.pre))) < 2 ^ 64 := by
        unfold move_pfn
        omega
      obtain ⟨l, hl⟩ := @decode_cons_of_good t rest _ ht hlt
      obtain ⟨n, hn⟩ : ∃ n, t.size = n + 1 := exists_eq_succ_of_ne_zero (ne_of_gt ht.pos)
      rw [hl, flatMap_cons, Seg.pfns, hn, range'_succ, cons_append] at heq
      exact hmove (cons.inj heq).1

lemma length_decode (pfn : ℕ) (region : List Region) :
    (decode pfn region).length = (region.map fun r => (int32 r.size).toNat).sum := by
  induction region generalizing pfn with
  | nil => rfl
  | cons r rest ih => rw [decode, length_append, length_run, ih, map_cons, sum_cons]

variable {segs : List Seg}

lemma sum_table_of (hgood : ∀ s ∈ segs, s.Good) :
    ((table_of segs).map fun r => (int32 r.size).toNat).sum = (segs.flatMap Seg.pfns).length := by
  induction segs with
  | nil => rfl
  | cons s rest ih =>
    obtain ⟨hs, hrest⟩ := forall_mem_cons.mp hgood
    rw [table_of, map_cons, sum_cons, ih hrest, flatMap_cons, length_append,
      Seg.pfns, length_range', hs.int32_size, Int.toNat_natCast]

/-! ## The descriptor as it is read -/

def Holds (exp : Desc) (front : Fields) (page_count : ℕ) (t : CompressedPfns) : Prop :=
  ∀ i < (image front page_count t).length, exp.mem i = (image front page_count t).getD i 0

lemma Region.length_bytes (r : Region) : r.bytes.length = 8 := by
  rw [Region.bytes, length_append, length_toLe, length_toLe]

lemma length_flatMap_bytes (region : List Region) :
    (region.flatMap Region.bytes).length = 8 * region.length := by
  induction region with
  | nil => rfl
  | cons r rest ih =>
    rw [flatMap_cons, length_append, ih, Region.length_bytes, length_cons]
    omega

lemma length_image (front : Fields) (page_count : ℕ) (t : CompressedPfns) :
    (image front page_count t).length = 100 + 8 * t.region.length := by
  rw [image, length_append, length_append, length_append, length_append,
    length_toLe, length_toLe, length_toLe, length_flatMap_bytes, front.2]
  change 84 + _ = _
  omega

section

variable {exp : Desc} {front : Fields} {page_count : ℕ} {t : CompressedPfns}
  (h : Holds exp front page_count t)

include h

lemma Holds.le_eq {l back : List UInt8} {n x : ℕ}
    (himage : image front page_count t = l ++ (toLe n x ++ back)) :
    le exp.mem l.length n = x % 256 ^ n := by
  rw [← le_getD_toLe, ← himage]
  apply le_congr
  intro i hi
  apply h
  rw [himage, length_append, length_append, length_toLe]
  omega

lemma Holds.payload_count (hcount : page_count < 2 ^ 32) : exp.payload_count = page_count := by
  have hle : le exp.mem front.1.length 4 = page_count % 256 ^ 4 := h.le_eq rfl
  rw [front.2] at hle
  exact hle.trans (mod_eq_of_lt hcount)

lemma Holds.first_pfn (hpfn : t.first_pfn < 2 ^ 64) : exp.first_pfn = t.first_pfn := by
  have hle : le exp.mem (front.1 ++ toLe 4 page_count).length 8 = t.first_pfn % 256 ^ 8 :=
    h.le_eq (append_assoc ..).symm
  rw [length_append, length_toLe, front.2] at hle
  exact hle.trans (mod_eq_of_lt hpfn)

lemma Holds.nregions (hlen : t.region.length < 2 ^ 31) : exp.nregions = t.region.length := by
  have hle : le exp.mem (front.1 ++ (toLe 4 page_count ++ toLe 8 t.first_pfn)).length 4 =
      t.region.length % 256 ^ 4 :=
    h.le_eq (by rw [image, append_assoc, append_assoc])
  rw [length_append, length_append, length_toLe, length_toLe, front.2] at hle
  have hint : exp.nregions = int32 (t.region.length % 256 ^ 4) := congrArg int32 hle
  rw [hint]
  exact (int32_eq_iff _ _ (mod_mod ..)).mpr hlen

lemma Holds.region {l l' : List Region} {r : Region} (hregion : t.region = l ++ r :: l') :
    exp.region_size l.length = int32 r.size ∧ exp.region_space l.length = int32 r.space := by
  have himage : image front page_count t = (front.1 ++ (toLe 4 page_count ++ (toLe 8 t.first_pfn ++
        (toLe 4 t.region.length ++ l.flatMap Region.bytes)))) ++
          (toLe 4 r.size ++ (toLe 4 r.space ++ l'.flatMap Region.bytes)) := by
    rw [image, hregion, flatMap_append, flatMap_cons, Region.bytes]
    simp
  have hlen : (front.1 ++ (toLe 4 page_count ++ (toLe 8 t.first_pfn ++
      (toLe 4 t.region.length ++ l.flatMap Region.bytes)))).length = Desc.region l.length := by
    simp only [length_append, length_toLe, length_flatMap_bytes, front.2]
    unfold Desc.region exp_payload exp_payload_count
    change 84 + _ = _
    omega
  generalize front.1 ++ (toLe 4 page_count ++ (toLe 8 t.first_pfn ++
    (toLe 4 t.region.length ++ l.flatMap Region.bytes))) = before at himage hlen
  have hsize : le exp.mem before.length 4 = r.size % 256 ^ 4 := h.le_eq himage
  have hspace : le exp.mem (before ++ toLe 4 r.size).length 4 = r.space % 256 ^ 4 :=
    h.le_eq (by rw [himage, append_assoc])
  rw [length_append, length_toLe, hlen] at hspace
  rw [hlen] at hsize
  constructor
  · rw [Desc.region_size, hsize]
    exact int32_mod r.size
  · rw [Desc.region_space, hspace]
    exact int32_mod r.space

/-- **The loop decodes the table.** -/
theorem Holds.pages_loop {l l' : List Region} (hregion : t.region = l ++ l') (pfn k : ℕ) :
    (pages_loop exp l'.length l.length pfn k).1 = decode pfn l' := by
  induction l' generalizing l pfn k with
  | nil => rfl
  | cons r rest ih =>
    obtain ⟨hsize, hspace⟩ := h.region hregion
    have hrest := @ih (l ++ [r]) (by rw [hregion, append_assoc, singleton_append])
    rw [length_append, length_singleton] at hrest
    rw [length_cons, Hab.pages_loop, decode, hsize, hspace, hrest]

lemma Holds.pages_list_create (hpfn : t.first_pfn < 2 ^ 64) (hlen : t.region.length < 2 ^ 31)
    {c : Circumstances} {list : List ℕ} (hok : (pages_list_create exp c).1 = .ok list) :
    list = decode t.first_pfn t.region := by
  unfold Hab.pages_list_create at hok
  split_ifs at hok
  simp only [Except.ok.injEq] at hok
  rw [← hok, h.first_pfn hpfn, h.nregions hlen, Int.toNat_natCast]
  exact h.pages_loop (nil_append _).symm t.first_pfn 0

lemma Holds.pages_list_create_smooth (hcount : page_count < 2 ^ 20)
    (hpfn : t.first_pfn < 2 ^ 64) (hlen : t.region.length < 2 ^ 31) :
    (Hab.pages_list_create exp smooth_import).1 = .ok (decode t.first_pfn t.region) := by
  have hsize : exp.pages_size = (page_count * sizeof_ptr : ℕ) := by
    rw [Desc.pages_size, h.payload_count (by omega)]
    exact (int32_eq_iff _ _ rfl).mpr (by unfold sizeof_ptr; omega)
  obtain ⟨list, hlist⟩ : ∃ list, (Hab.pages_list_create exp smooth_import).1 = .ok list := by
    unfold Hab.pages_list_create
    rw [if_neg (fun hno => Bool.noConfusion hno), if_neg, if_neg (by decide)]
    · exact ⟨_, rfl⟩
    · rintro (hneg | hno)
      · omega
      · exact absurd hno (by decide)
  rw [hlist, h.pages_list_create hpfn hlen hlist]

end

/-! ## The round trip -/

theorem sizebytes_export_header (t : CompressedPfns) :
    (export_header t).sizebytes = (105 + 8 * t.region.length) % 2 ^ 16 := by
  rw [export_header, sizebytes_set_size, UInt32.toNat_ofNat', sizeof_export_desc, data_size]
  omega

variable {front : Fields}

lemma holds_export_message {page_count : ℕ} {t t' : CompressedPfns} {behind : Mem}
    (hsent : ∀ i < (image front page_count t').length, i < (export_header t).sizebytes →
      (image front page_count t).getD i 0 = (image front page_count t').getD i 0)
    (hbehind : ∀ i < (image front page_count t').length, (export_header t).sizebytes ≤ i →
      behind i = (image front page_count t').getD i 0) :
    Holds (Desc.of (export_message front page_count t) behind) front page_count t' := by
  intro i hi
  have hlen : (export_message front page_count t).length = (export_header t).sizebytes :=
    length_load ..
  simp only [Desc.of]
  by_cases hin : i < (export_message front page_count t).length
  · rw [hlen] at hin
    rw [hlen, if_pos hin, export_message, getD_load hin, zero_add]
    exact hsent i hi hin
  · rw [if_neg hin]
    exact hbehind i hi (by omega)

lemma holds_of_fits {page_count : ℕ} {t : CompressedPfns}
    (hfits : 105 + 8 * t.region.length < 2 ^ 16) (behind : Mem) :
    Holds (Desc.of (export_message front page_count t) behind) front page_count t := by
  apply holds_export_message
  · exact fun _ _ _ => rfl
  · intro i hi hge
    rw [length_image] at hi
    rw [sizebytes_export_header] at hge
    omega

/-- **A truncated message** says nothing about the last entry of the table. -/
theorem holds_of_truncated {page_count first_pfn : ℕ} {l : List Region}
    {r r' : Region} (hlong : 2 ^ 16 ≤ 105 + 8 * (l ++ [r]).length) :
    Holds (Desc.of (export_message front page_count ⟨first_pfn, l ++ [r]⟩)
        fun i => (image front page_count ⟨first_pfn, l ++ [r']⟩).getD i 0)
      front page_count ⟨first_pfn, l ++ [r']⟩ := by
  obtain ⟨before, hbefore⟩ : ∃ before, ∀ r : Region,
      image front page_count ⟨first_pfn, l ++ [r]⟩ = before ++ r.bytes := by
    refine ⟨front.1 ++ (toLe 4 page_count ++ (toLe 8 first_pfn ++
      (toLe 4 (l.length + 1) ++ l.flatMap Region.bytes))), fun r => ?_⟩
    rw [image, flatMap_append, flatMap_singleton, length_append, length_singleton]
    simp
  have hlen := length_image front page_count ⟨first_pfn, l ++ [r]⟩
  rw [hbefore, length_append, Region.length_bytes] at hlen
  change before.length + 8 = 100 + 8 * (l ++ [r]).length at hlen
  apply holds_export_message
  · intro i _ hi
    rw [sizebytes_export_header] at hi
    change i < (105 + 8 * (l ++ [r]).length) % 2 ^ 16 at hi
    have hin : i < before.length := by omega
    rw [hbefore, hbefore, getD_append _ _ _ _ hin, getD_append _ _ _ _ hin]
  · exact fun _ _ _ => rfl

/-- The size of the message fits in its 16 bits, and every segment is linked
to the next. -/
def Survives (page_count : ℕ) (b : Buffer) : Prop :=
  sizeof_export_desc + (16 + 8 * (b.segs page_count).length) < 2 ^ 16 ∧
    List.IsChain Linked (b.segs page_count)

instance (page_count : ℕ) (b : Buffer) : Decidable (Survives page_count b) :=
  inferInstanceAs (Decidable (_ ∧ _))

lemma export_page_count_eq_some {sizebytes : UInt32} {page_count : ℕ}
    (h : export_page_count sizebytes = some page_count) : 0 < page_count ∧ page_count < 2 ^ 20 := by
  have hlt := sizebytes.toNat_lt
  unfold export_page_count PAGE_SHIFT at h
  split_ifs at h with hbad
  rw [not_or] at hbad
  have hne : sizebytes.toNat ≠ 0 := fun h0 => hbad.1 (UInt32.toNat_inj.mp h0)
  have heq := Option.some.inj h
  omega

lemma exists_seg_of_mem_table_of {r : Region} (hr : r ∈ table_of segs) :
    ∃ s ∈ segs, r.size = s.size := by
  induction segs with
  | nil => exact absurd hr not_mem_nil
  | cons s rest ih =>
    rcases mem_cons.mp hr with rfl | hr
    · exact ⟨s, mem_cons_self, rfl⟩
    · obtain ⟨t, ht, hsize⟩ := ih hr
      exact ⟨t, mem_cons_of_mem s ht, hsize⟩

lemma length_le_length_flatMap (hgood : ∀ s ∈ segs, s.Good) :
    segs.length ≤ (segs.flatMap Seg.pfns).length := by
  induction segs with
  | nil => exact le_rfl
  | cons s rest ih =>
    obtain ⟨hs, hrest⟩ := forall_mem_cons.mp hgood
    have hpos := hs.pos
    have := ih hrest
    rw [flatMap_cons, length_append, length_cons, Seg.pfns, length_range']
    omega

lemma decode_truncated_ne (hgood : ∀ s ∈ segs, s.Good) {l : List Region}
    {r : Region} (htable : table_of segs = l ++ [r]) (pfn : ℕ) :
    decode pfn (l ++ [⟨0, 0⟩]) ≠ segs.flatMap Seg.pfns := by
  intro heq
  obtain ⟨s, hs, hsize⟩ := exists_seg_of_mem_table_of
    (show r ∈ table_of segs by rw [htable]; exact mem_append_right l mem_cons_self)
  have hpos := (hgood s hs).pos
  have hsum := sum_table_of hgood
  rw [← heq, length_decode, htable, map_append, map_append, sum_append_nat,
    sum_append_nat, map_singleton, map_singleton, sum_singleton, sum_singleton, hsize,
    (hgood s hs).int32_size] at hsum
  rw [show (int32 0).toNat = 0 from rfl] at hsum
  omega

/-- **The round trip of an exported buffer.** -/
theorem export_round_trip_iff (front : Fields) (b : Buffer) (sizebytes : UInt32) (page_count : ℕ)
    (hcount : export_page_count sizebytes = some page_count)
    (hremaining : page_count ≤ b.all.length) :
    (∀ behind c list,
      (pages_list_create (Desc.of (export_message front page_count
        (habmem_compress_pfns page_count b)) behind) c).1 = .ok list →
      list = b.all.take page_count) ↔
    Survives page_count b := by
  obtain ⟨hpos, hlt⟩ := export_page_count_eq_some hcount
  have hgood := @segs_good b page_count hpos hlt
  have htable := habmem_compress_pfns_eq hpos hremaining
  have hlen := length_le_length_flatMap hgood
  rw [flatMap_segs, length_take, min_eq_left hremaining] at hlen
  rw [htable, ← flatMap_segs, Survives]
  obtain ⟨s, rest, hsegs⟩ : ∃ s rest, b.segs page_count = s :: rest := by
    apply exists_cons_of_ne_nil
    intro hnil
    have hall := congrArg length (flatMap_segs b page_count)
    rw [hnil, length_take, min_eq_left hremaining] at hall
    exact absurd hall (Nat.ne_of_lt hpos)
  rw [hsegs] at hgood hlen ⊢
  simp only [head?_cons, map_some, getD_some]
  have hframes := (hgood s mem_cons_self).frames
  unfold PFN_END at hframes
  have hpfn : s.start < 2 ^ 64 := by omega
  have hregions : (table_of (s :: rest)).length < 2 ^ 31 := by
    rw [length_table_of]
    omega
  by_cases hfits : 105 + 8 * (table_of (s :: rest)).length < 2 ^ 16
  · have hsize : sizeof_export_desc + (16 + 8 * (s :: rest).length) < 2 ^ 16 := by
      rw [length_table_of] at hfits
      unfold sizeof_export_desc
      omega
    rw [and_iff_right hsize, ← decode_table_of_iff hgood]
    constructor
    · intro hall
      exact hall (fun _ => 0) smooth_import _
        ((holds_of_fits hfits _).pages_list_create_smooth hlt hpfn hregions)
    · intro hdecode behind c list hok
      rw [(holds_of_fits hfits behind).pages_list_create hpfn hregions hok, hdecode]
  · refine iff_of_false ?_ (fun hsurvives => hfits ?_)
    · -- the last entry has been cut off, so let the memory behind the message say 0
      obtain ⟨l, r, hlast⟩ : ∃ l r, table_of (s :: rest) = l ++ [r] :=
        ⟨_, _, (dropLast_append_getLast (cons_ne_nil _ _)).symm⟩
      intro hall
      rw [hlast] at hfits hregions hall
      rw [length_append, length_singleton] at hregions
      apply decode_truncated_ne hgood hlast s.start
      apply hall _ smooth_import
      apply (holds_of_truncated (Nat.le_of_not_lt hfits)).pages_list_create_smooth hlt hpfn
      rw [length_append, length_singleton]
      exact hregions
    · have hsize := hsurvives.1
      unfold sizeof_export_desc at hsize
      rw [length_table_of]
      omega

def no_fields : Fields := ⟨List.replicate 84 0, rfl⟩

def three_pages : Buffer := .pages [⟨5, by decide⟩, ⟨6, by decide⟩, ⟨9, by decide⟩]

theorem three_pages_come_back : (export_page_count 12288 = some 3 ∧ 3 ≤ three_pages.all.length) ∧
    ∀ behind c list,
      (pages_list_create (Desc.of (export_message no_fields 3
        (habmem_compress_pfns 3 three_pages)) behind) c).1 = .ok list →
      list = three_pages.all.take 3 :=
  ⟨⟨by decide, by decide⟩,
    (export_round_trip_iff no_fields three_pages 12288 3 (by decide) (by decide)).mpr (by decide)⟩

def offset_into_entry : Buffer :=
  .sg [⟨100, 8192, by decide⟩, ⟨200, 4096, by decide⟩] 1

/-- **A page that was not exported is mapped**: the gap is counted from page 100, and the importer
is given page 201 in place of 200. -/
theorem offset_shifts_gap : export_page_count 8192 = some 2 ∧
    offset_into_entry.all.take 2 = [101, 200] ∧
    (pages_list_create (Desc.of (export_message no_fields 2
      (habmem_compress_pfns 2 offset_into_entry)) fun _ => 0) smooth_import).1 =
        .ok [101, 201] := by
  decide +kernel

end KernelExtra.Hab
