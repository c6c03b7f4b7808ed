/-
The pipe in shared memory, `hab_pipe.c`.

Two counters of bytes run freely in 32 bits; their difference says how many bytes are in the buffer.
Each end has an index of its own, and the writer's bytes are not there for the reader until
`hab_pipe_write_commit`. A read copies before it moves the reader's counter; the writer can act in
between, so the two halves are two functions here.
-/
import KernelExtra.Hab.Basic
import KernelExtra.Lib.Circular

namespace KernelExtra.Hab

open Bytes List Nat UInt32

/-- The pipe in shared memory. -/
structure SharedBuf where
  rd_count : UInt32
  wr_count : UInt32
  size : UInt32
  data : Mem

/-- What the writer keeps to itself until it commits. -/
structure TxInfo where
  wr_count : UInt32
  index : UInt32

/-! ## Writing -/

/-- The room that the writer sees. -/
def SharedBuf.space (sh_buf : SharedBuf) (ep : TxInfo) : UInt32 :=
  sh_buf.size - (ep.wr_count - sh_buf.rd_count)

def pipe_copy (ep : TxInfo) (sh_buf : SharedBuf) (bytes : List UInt8) : TxInfo × SharedBuf :=
  let count := ofNat bytes.length
  if bytes = [] then (ep, sh_buf)
  else
    ({ wr_count := ep.wr_count + count
       index := if ep.index + count ≥ sh_buf.size then 0 else ep.index + count },
      { sh_buf with data := store sh_buf.data ep.index.toNat bytes })

def hab_pipe_write (ep : TxInfo) (sh_buf : SharedBuf) (p : Option Mem) (num_bytes : UInt32) :
    UInt32 × TxInfo × SharedBuf :=
  match p with
  | none => (0, ep, sh_buf)
  | some p =>
    if num_bytes > sh_buf.space ep ∨ num_bytes = 0 then (0, ep, sh_buf)
    else
      let count1 := if num_bytes ≤ sh_buf.size - ep.index then num_bytes
        else sh_buf.size - ep.index
      let count2 := num_bytes - count1
      let (ep, sh_buf) := pipe_copy ep sh_buf (load p 0 count1.toNat)
      let (ep, sh_buf) := pipe_copy ep sh_buf (load p count1.toNat count2.toNat)
      (num_bytes, ep, sh_buf)

/-- The count of the writer becomes visible. -/
def hab_pipe_write_commit (ep : TxInfo) (sh_buf : SharedBuf) : SharedBuf :=
  { sh_buf with wr_count := ep.wr_count }

section Write

variable {ep : TxInfo} {sh_buf : SharedBuf}

lemma pipe_copy_spec (bytes : List UInt8) (hidx : ep.index.toNat < sh_buf.size.toNat)
    (hend : ep.index.toNat + bytes.length ≤ sh_buf.size.toNat) :
    (pipe_copy ep sh_buf bytes).1.wr_count.toNat =
        (ep.wr_count.toNat + bytes.length) % 2 ^ 32 ∧
      (pipe_copy ep sh_buf bytes).1.index.toNat =
        (ep.index.toNat + bytes.length) % sh_buf.size.toNat ∧
      (pipe_copy ep sh_buf bytes).2 =
        { sh_buf with data := store sh_buf.data ep.index.toNat bytes } := by
  have hsize := sh_buf.size.toNat_lt
  have hwr := ep.wr_count.toNat_lt
  by_cases hnil : bytes = []
  · rw [pipe_copy, if_pos hnil, hnil, length_nil, add_zero, add_zero, store_nil,
      mod_eq_of_lt hidx, mod_eq_of_lt hwr]
    exact ⟨rfl, rfl, rfl⟩
  · have hcount : (ofNat bytes.length).toNat = bytes.length := by
      rw [toNat_ofNat', mod_eq_of_lt (by omega)]
    rw [pipe_copy, if_neg hnil]
    refine ⟨?_, ?_, rfl⟩
    · rw [UInt32.toNat_add, hcount]
    · have hsum : (ep.index + ofNat bytes.length).toNat = ep.index.toNat + bytes.length := by
        rw [UInt32.toNat_add, hcount, mod_eq_of_lt (by omega)]
      by_cases hwrap : ep.index + ofNat bytes.length ≥ sh_buf.size
      · have hge := le_iff_toNat_le.mp hwrap
        rw [if_pos hwrap, show ep.index.toNat + bytes.length = sh_buf.size.toNat by omega, mod_self]
        rfl
      · have hlt := lt_iff_toNat_lt.mp (UInt32.not_le.mp hwrap)
        rw [hsum] at hlt
        rw [if_neg hwrap, hsum, mod_eq_of_lt hlt]

/-- **A write** that fits goes around the end of the buffer. -/
theorem hab_pipe_write_spec {p : Mem} {num_bytes : UInt32} (hpos : num_bytes ≠ 0)
    (hidx : ep.index.toNat < sh_buf.size.toNat) (hspace : num_bytes.toNat ≤ (sh_buf.space ep).toNat)
    (hfit : num_bytes.toNat ≤ sh_buf.size.toNat) :
    (hab_pipe_write ep sh_buf (some p) num_bytes).1 = num_bytes ∧
      (hab_pipe_write ep sh_buf (some p) num_bytes).2.1.wr_count.toNat =
        (ep.wr_count.toNat + num_bytes.toNat) % 2 ^ 32 ∧
      (hab_pipe_write ep sh_buf (some p) num_bytes).2.1.index.toNat =
        (ep.index.toNat + num_bytes.toNat) % sh_buf.size.toNat ∧
      (hab_pipe_write ep sh_buf (some p) num_bytes).2.2 =
        { sh_buf with
          data := wrapStore sh_buf.size.toNat sh_buf.data ep.index.toNat
            (load p 0 num_bytes.toNat) } := by
  have hno : ¬ (num_bytes > sh_buf.space ep ∨ num_bytes = 0) := by
    rintro (hgt | hzero)
    · exact absurd (lt_iff_toNat_lt.mp hgt) (by omega)
    · exact hpos hzero
  have hsub : (sh_buf.size - ep.index).toNat = sh_buf.size.toNat - ep.index.toNat :=
    UInt32.toNat_sub_of_le _ _ (le_iff_toNat_le.mpr hidx.le)
  set n := sh_buf.size.toNat with hn
  set count1 : UInt32 := if num_bytes ≤ sh_buf.size - ep.index then num_bytes
    else sh_buf.size - ep.index with hc1
  have hcount1 : count1.toNat = min num_bytes.toNat (n - ep.index.toNat) := by
    rw [hc1]
    by_cases hle : num_bytes ≤ sh_buf.size - ep.index
    · have := le_iff_toNat_le.mp hle
      rw [if_pos hle]
      omega
    · have := lt_iff_toNat_lt.mp (UInt32.not_le.mp hle)
      rw [if_neg hle]
      omega
  have hcount2 : (num_bytes - count1).toNat = num_bytes.toNat - count1.toNat :=
    UInt32.toNat_sub_of_le _ _ (le_iff_toNat_le.mpr (by omega))
  -- the index after the first copy: where it stopped, or the front
  have hfirst : (ep.index.toNat + count1.toNat) % n + (num_bytes.toNat - count1.toNat) ≤ n ∧
      (num_bytes.toNat ≤ n - ep.index.toNat ∨ (ep.index.toNat + count1.toNat) % n = 0) := by
    rcases le_total num_bytes.toNat (n - ep.index.toNat) with hle | hge
    · have hlt : (ep.index.toNat + count1.toNat) % n < n := mod_lt _ (by omega)
      exact ⟨by omega, .inl hle⟩
    · rw [show ep.index.toNat + count1.toNat = n by omega, mod_self]
      exact ⟨by omega, .inr rfl⟩
  obtain ⟨hwr1, hidx1, hsh1⟩ := pipe_copy_spec (load p 0 count1.toNat) hidx
    (by rw [length_load]; omega)
  rw [length_load] at hwr1 hidx1
  generalize hcopy : pipe_copy ep sh_buf (load p 0 count1.toNat) = first at hwr1 hidx1 hsh1
  have hsize1 : first.2.size = sh_buf.size := by rw [hsh1]
  obtain ⟨hwr2, hidx2, hsh2⟩ := @pipe_copy_spec first.1 first.2 (load p count1.toNat _)
    (by rw [hidx1, hsize1]; exact mod_lt _ (by omega))
    (by rw [length_load, hidx1, hsize1]; exact hfirst.1)
  rw [length_load] at hwr2 hidx2
  have heq : hab_pipe_write ep sh_buf (some p) num_bytes = (num_bytes,
        pipe_copy first.1 first.2 (load p count1.toNat (num_bytes.toNat - count1.toNat))) := by
    rw [hab_pipe_write, if_neg hno]
    simp [← hc1, hcopy, hcount2]
  rw [heq]
  refine ⟨rfl, hwr2.trans ?_, hidx2.trans ?_, hsh2.trans ?_⟩
  · rw [hwr1, mod_add_mod]
    congr 1
    omega
  · rw [hidx1, hsize1, ← hn, mod_add_mod]
    congr 1
    omega
  · have hall : load p 0 num_bytes.toNat =
        load p 0 count1.toNat ++ load p count1.toNat (num_bytes.toNat - count1.toNat) := by
      have := load_add p 0 count1.toNat (num_bytes.toNat - count1.toNat)
      rwa [zero_add, show count1.toNat + (num_bytes.toNat - count1.toNat) = num_bytes.toNat
        by omega] at this
    rw [hsh1, hidx1, ← hn, wrapStore, length_load, ← hcount1, hall,
      take_left' (length_load ..), drop_left' (length_load ..)]
    rcases hfirst.2 with hle | hzero
    · rw [show num_bytes.toNat - count1.toNat = 0 by omega, load_zero, store_nil, store_nil]
    · rw [hzero]

end Write

/-! ## Reading -/

/-- The bytes that the reader sees. -/
def SharedBuf.avail (sh_buf : SharedBuf) : UInt32 := sh_buf.wr_count - sh_buf.rd_count

/-- A read that has copied its bytes and not yet moved the index. -/
structure Copy where
  p : List UInt8
  index_saved : UInt32
  index : UInt32
  count1 : UInt32
  count2 : UInt32

/-- Bytes are copied, and the index is not moved yet. -/
def hab_pipe_read_copy (index : UInt32) (sh_buf : SharedBuf) (size : UInt32) : Option Copy :=
  let avail := sh_buf.avail
  if avail = 0 ∨ size = 0 then none
  else
    let to_read := if avail < size then avail else size
    let count1 := if to_read ≤ sh_buf.size - index then to_read else sh_buf.size - index
    let count2 := to_read - count1
    let index1 :=
      if count1 > 0 then if index + count1 ≥ sh_buf.size then 0 else index + count1 else index
    some
      { p := load sh_buf.data index.toNat count1.toNat ++
          load sh_buf.data index1.toNat count2.toNat
        index_saved := index
        index := if count2 > 0 then index1 + count2 else index1
        count1 := count1
        count2 := count2 }

def retry (sh_buf : SharedBuf) : ℕ → Copy → Copy
  | 0, c => c
  | n + 1, c =>
    if (Header.ofBytes c.p).signature = HAB_HEAD_SIGNATURE then c
    else retry sh_buf n
      { c with
        p := load sh_buf.data c.index_saved.toNat c.count1.toNat ++
          load sh_buf.data (c.index - c.count2).toNat c.count2.toNat }

def hab_pipe_read_commit (sh_buf : SharedBuf) (c : Copy) (is_head : Bool) : Copy × SharedBuf :=
  (if is_head then retry sh_buf 1001 c else c,
    { sh_buf with rd_count := sh_buf.rd_count + (c.count1 + c.count2) })

def Copy.count (c : Copy) : UInt32 := c.count1 + c.count2

def hab_pipe_read (index : UInt32) (sh_buf : SharedBuf) (size : UInt32) (clear : Bool) :
    List UInt8 × UInt32 × SharedBuf :=
  match hab_pipe_read_copy index sh_buf size with
  | none => ([], index, sh_buf)
  | some c =>
    let (c, sh_buf) := hab_pipe_read_commit sh_buf c (clear && size.toNat = sizeof_header)
    (c.p, c.index, sh_buf)

variable {index size : UInt32} {sh_buf : SharedBuf}

/-- **A read** of what is there goes around the end of the buffer. -/
theorem hab_pipe_read_copy_spec (hpos : size ≠ 0)
    (hidx : index.toNat < sh_buf.size.toNat) (havail : size.toNat ≤ sh_buf.avail.toNat)
    (hfit : size.toNat ≤ sh_buf.size.toNat) :
    ∃ c, hab_pipe_read_copy index sh_buf size = some c ∧
      c.p = wrapLoad sh_buf.size.toNat sh_buf.data index.toNat size.toNat ∧
      c.index.toNat = (index.toNat + size.toNat) % sh_buf.size.toNat ∧ c.count = size := by
  have hsize : 0 < size.toNat := by
    rw [pos_iff_ne_zero]
    intro hzero
    exact hpos (UInt32.toNat_inj.mp hzero)
  have hno : ¬ (sh_buf.avail = 0 ∨ size = 0) := by
    rintro (hzero | hzero)
    · rw [hzero] at havail
      exact absurd havail (not_le.mpr hsize)
    · exact hpos hzero
  have hread : ¬ sh_buf.avail < size := by
    rw [lt_iff_toNat_lt]
    omega
  have hsub : (sh_buf.size - index).toNat = sh_buf.size.toNat - index.toNat :=
    UInt32.toNat_sub_of_le _ _ (le_iff_toNat_le.mpr hidx.le)
  have hlt := sh_buf.size.toNat_lt
  have hcount (count1 : UInt32) : count1 + (size - count1) = size := by
    rw [UInt32.add_comm, UInt32.sub_add_cancel]
  simp only [hab_pipe_read_copy, if_neg hno, if_neg hread, Option.some.injEq, exists_eq_left',
    Copy.count, hcount, and_true]
  by_cases hle : size ≤ sh_buf.size - index
  · -- up to the end of the buffer at most
    have hend := le_iff_toNat_le.mp hle
    have hsum : (index + size).toNat = index.toNat + size.toNat := by
      rw [UInt32.toNat_add, mod_eq_of_lt (by omega)]
    have hone : size > 0 := lt_iff_toNat_lt.mpr hsize
    simp only [if_pos hle, UInt32.sub_self, UInt32.toNat_zero, load_zero, append_nil,
      if_pos hone, UInt32.lt_irrefl, gt_iff_lt, if_false]
    constructor
    · rw [wrapLoad, min_eq_left (by omega), Nat.sub_self, load_zero, append_nil]
    · by_cases hwrap : index + size ≥ sh_buf.size
      · have hge := le_iff_toNat_le.mp hwrap
        rw [if_pos hwrap, show index.toNat + size.toNat = sh_buf.size.toNat by omega, mod_self]
        rfl
      · have hless := lt_iff_toNat_lt.mp (UInt32.not_le.mp hwrap)
        rw [if_neg hwrap, hsum, mod_eq_of_lt (by omega)]
  · -- the rest from the front
    have hbeyond := lt_iff_toNat_lt.mp (UInt32.not_le.mp hle)
    have hone : sh_buf.size - index > 0 :=
      lt_iff_toNat_lt.mpr (by rw [hsub]; exact Nat.sub_pos_of_lt hidx)
    have hsum : index + (sh_buf.size - index) = sh_buf.size := by
      rw [UInt32.add_comm, UInt32.sub_add_cancel]
    have hcount2 : (size - (sh_buf.size - index)).toNat =
        size.toNat - (sh_buf.size.toNat - index.toNat) := by
      rw [UInt32.toNat_sub_of_le _ _ (le_iff_toNat_le.mpr (by omega)), hsub]
    have htwo : size - (sh_buf.size - index) > 0 :=
      lt_iff_toNat_lt.mpr (by rw [hcount2, UInt32.toNat_zero]; omega)
    simp only [if_neg hle, if_pos hone, hsum, ge_iff_le, UInt32.le_refl, if_true, if_pos htwo,
      UInt32.zero_add, UInt32.toNat_zero, hcount2, hsub]
    constructor
    · rw [wrapLoad, min_eq_right (by omega)]
    · rw [mod_eq_sub_mod (by omega), mod_eq_of_lt (by omega)]
      omega

lemma length_hab_pipe_read_copy_le {c : Copy}
    (h : hab_pipe_read_copy index sh_buf size = some c) : c.p.length ≤ size.toNat := by
  simp only [hab_pipe_read_copy] at h
  split at h
  · exact absurd h (Option.some_ne_none c).symm
  · rw [Option.some.injEq] at h
    subst h
    set to_read := if sh_buf.avail < size then sh_buf.avail else size with hread
    have hle : to_read ≤ size := by
      rw [hread]
      split_ifs with hlt
      · exact UInt32.le_of_lt hlt
      · exact UInt32.le_refl size
    set count1 := if to_read ≤ sh_buf.size - index then to_read else sh_buf.size - index with hc
    have hcount : count1 ≤ to_read := by
      rw [hc]
      split_ifs with hend
      · exact UInt32.le_refl to_read
      · exact UInt32.le_of_lt (UInt32.not_le.mp hend)
    have hnat := le_iff_toNat_le.mp hcount
    rw [length_append, length_load, length_load, UInt32.toNat_sub_of_le _ _ hcount]
    have := le_iff_toNat_le.mp hle
    omega

/-! ## The pipe as a stream

`pos` bytes have been read and given up since the beginning. The bytes `unread` have been
committed since, `pending` have been written behind them, and the reader has copied the
first `taken` of `unread`. -/

/-- **The invariant of a pipe.** The four counters are four positions of one stream. -/
structure Streams (sh_buf : SharedBuf) (ep : TxInfo) (rx_index : UInt32) (pos taken : ℕ)
    (unread pending : List UInt8) : Prop where
  rd_count : sh_buf.rd_count.toNat = pos % 2 ^ 32
  sh_wr_count : sh_buf.wr_count.toNat = (pos + unread.length) % 2 ^ 32
  wr_count : ep.wr_count.toNat = (pos + (unread ++ pending).length) % 2 ^ 32
  tx_index : ep.index.toNat = (pos + (unread ++ pending).length) % sh_buf.size.toNat
  rx_index : rx_index.toNat = (pos + taken) % sh_buf.size.toNat
  data : At sh_buf.size.toNat sh_buf.data pos (unread ++ pending)

namespace Streams

variable {sh_buf : SharedBuf} {ep : TxInfo} {rx_index : UInt32} {pos taken : ℕ}
  {unread pending : List UInt8}

lemma start (size : UInt32) (data : Mem) : Streams ⟨0, 0, size, data⟩ ⟨0, 0⟩ 0 0 0 [] [] where
  rd_count := rfl
  sh_wr_count := rfl
  wr_count := rfl
  tx_index := (zero_mod _).symm
  rx_index := (zero_mod _).symm
  data := .nil ..

section

variable (h : Streams sh_buf ep rx_index pos taken unread pending)

include h

lemma length_le : unread.length + pending.length ≤ sh_buf.size.toNat := by
  rw [← length_append]
  exact h.data.room

lemma avail_toNat : sh_buf.avail.toNat = unread.length := by
  have hlen := h.length_le
  have hsize := sh_buf.size.toNat_lt
  rw [SharedBuf.avail, toNat_sub_of_count h.sh_wr_count h.rd_count (by omega) (by omega)]
  omega

lemma space_toNat : (sh_buf.space ep).toNat = sh_buf.size.toNat - (unread ++ pending).length := by
  have hlen := h.data.room
  have hsize := sh_buf.size.toNat_lt
  have hused := toNat_sub_of_count h.wr_count h.rd_count (by omega) (by omega)
  rw [SharedBuf.space, UInt32.toNat_sub_of_le _ _ (le_iff_toNat_le.mpr (by omega)), hused]
  omega

lemma write (p : Mem) (num_bytes : UInt32) (hpos : num_bytes ≠ 0)
    (hroom : (unread ++ pending).length + num_bytes.toNat ≤ sh_buf.size.toNat) :
    (hab_pipe_write ep sh_buf (some p) num_bytes).1 = num_bytes ∧
      (hab_pipe_write ep sh_buf (some p) num_bytes).2.2.size = sh_buf.size ∧
      Streams (hab_pipe_write ep sh_buf (some p) num_bytes).2.2
        (hab_pipe_write ep sh_buf (some p) num_bytes).2.1 rx_index pos taken unread
        (pending ++ load p 0 num_bytes.toNat) := by
  have hpos' : 0 < num_bytes.toNat :=
    pos_of_ne_zero fun hzero => hpos (UInt32.toNat_inj.mp hzero)
  have hidx : ep.index.toNat < sh_buf.size.toNat := by
    rw [h.tx_index]
    exact mod_lt _ (by omega)
  obtain ⟨hret, hwr, hindex, hsh⟩ := hab_pipe_write_spec hpos hidx
    (by rw [h.space_toNat]; omega) (by omega)
  refine ⟨hret, ?_⟩
  have happ : (unread ++ (pending ++ load p 0 num_bytes.toNat)).length =
      (unread ++ pending).length + num_bytes.toNat := by
    rw [← append_assoc, @length_append _ _, length_load]
  rw [hsh]
  refine ⟨rfl, h.rd_count, h.sh_wr_count, ?_, ?_, h.rx_index, ?_⟩
  · rw [hwr, h.wr_count, happ, mod_add_mod, add_assoc]
  · rw [hindex, h.tx_index, happ, mod_add_mod, add_assoc]
  · rw [h.tx_index, ← append_assoc]
    exact h.data.store (by rwa [length_load])

lemma commit : Streams (hab_pipe_write_commit ep sh_buf) ep rx_index pos taken
    (unread ++ pending) [] where
  rd_count := h.rd_count
  sh_wr_count := h.wr_count
  wr_count := by rw [append_nil]; exact h.wr_count
  tx_index := by rw [append_nil]; exact h.tx_index
  rx_index := h.rx_index
  data := by rw [append_nil]; exact h.data

lemma release {front back : List UInt8} (hunread : unread = front ++ back)
    (htaken : taken = front.length) {count : UInt32} (hcount : count.toNat = front.length) :
    Streams { sh_buf with rd_count := sh_buf.rd_count + count } ep rx_index
      (pos + front.length) 0 back pending := by
  subst hunread htaken
  have hlen : pos + front.length + back.length = pos + (front ++ back).length := by
    rw [length_append, add_assoc]
  have hall : pos + front.length + (back ++ pending).length =
      pos + (front ++ back ++ pending).length := by
    rw [append_assoc, @length_append _ front, add_assoc]
  refine ⟨?_, ?_, ?_, ?_, h.rx_index, ?_⟩
  · exact toNat_add_of_count h.rd_count hcount
  · rw [hlen]
    exact h.sh_wr_count
  · rw [hall]
    exact h.wr_count
  · rw [hall]
    exact h.tx_index
  · exact (append_assoc front back pending ▸ h.data).drop

end

lemma copy (h : Streams sh_buf ep rx_index pos 0 unread pending) {front back : List UInt8}
    (hunread : unread = front ++ back) (size : UInt32) (hpos : size ≠ 0)
    (hsize : size.toNat = front.length) :
    ∃ c, hab_pipe_read_copy rx_index sh_buf size = some c ∧ c.p = front ∧ c.count = size ∧
      Streams sh_buf ep c.index pos front.length unread pending := by
  have hlen := h.length_le
  have hpos' : 0 < size.toNat := pos_of_ne_zero fun hzero => hpos (UInt32.toNat_inj.mp hzero)
  have hfront : front.length ≤ unread.length := by
    rw [hunread, length_append]
    omega
  have hidx : rx_index.toNat < sh_buf.size.toNat := by
    rw [h.rx_index]
    exact mod_lt _ (by omega)
  obtain ⟨c, hc, hp, hindex, hcount⟩ := hab_pipe_read_copy_spec hpos hidx
    (by rw [h.avail_toNat]; omega) (by omega)
  refine ⟨c, hc, ?_, hcount, { h with rx_index := ?_ }⟩
  · rw [hp, h.rx_index, add_zero, h.data.load (by rw [length_append]; omega), hunread,
      append_assoc, hsize, take_left]
  · rw [hindex, h.rx_index, add_zero, mod_add_mod, hsize]

end Streams

lemma retry_of_signature {c : Copy} (n : ℕ)
    (h : (Header.ofBytes c.p).signature = HAB_HEAD_SIGNATURE) : retry sh_buf n c = c := by
  cases n with
  | zero => rfl
  | succ n => rw [retry, if_pos h]

end KernelExtra.Hab
