/-
Scatter-list buffers of the secure-world driver (`drivers/misc/qseecom.c`).

A 64-bit modfd command runs `__qseecom_update_cmd_buf_64` twice over its descriptors. The pass
before the secure call allocates a buffer for each descriptor with more than 4096 entries, the pass
after it frees them, and either of them frees all buffers of the handle when it fails. Nothing
clears the handle's table `sec_buf_fd`, and a secure call that fails skips the second pass.

How mapping, allocation and cache maintenance end is a parameter, for each pass and descriptor.
-/
import KernelExtra.Lib.Run

namespace KernelExtra.Qseecom

open List

def MAX_ION_FD : ℕ := 4
def QSEECOM_MAX_SG_ENTRY : ℕ := 4096
def SG_ENTRY_SZ_64BIT : ℕ := 12

structure IonFd where
  fd : ℤ
  cmd_buf_offset : ℕ

structure ModfdReq where
  cmd_req_len : ℕ
  ifd_data : ℕ → IonFd

/-- What a pass meets at a descriptor; `nents` is `none` if it cannot be mapped. -/
structure Sight where
  nents : Option ℕ
  dma_alloc : Bool
  cache_op : Bool

/-- The table of a client handle. Buffers are numbered as they are allocated. -/
structure Handle where
  sec_buf_fd : ℕ → Option ℕ
  allocated : ℕ
  freed : List ℕ

def Handle.fresh : Handle := ⟨fun _ => none, 0, []⟩

def Handle.allocate_sg_list_buffer (h : Handle) (i : ℕ) : Handle :=
  ⟨Function.update h.sec_buf_fd i (some h.allocated), h.allocated + 1, h.freed⟩

def Handle.dma_free (h : Handle) (i : ℕ) : Handle :=
  { h with freed := h.freed ++ (h.sec_buf_fd i).toList }

section Pass

variable (cleanup : Bool) (req : ModfdReq) (see : ℕ → Sight)

/-- Whether `__boundary_checks_offset` lets the field of descriptor `i` pass. -/
def boundary_checks_offset (i size : ℕ) : Bool :=
  let curr := (req.ifd_data i).cmd_buf_offset
  size ≤ req.cmd_req_len ∧ curr ≤ req.cmd_req_len - size ∧
    ∀ j < MAX_ION_FD, (req.ifd_data j).fd > 0 → i ≠ j →
      ¬ (curr ≤ (req.ifd_data j).cmd_buf_offset ∧ (req.ifd_data j).cmd_buf_offset < curr + size)

/-- One round of the loop, and whether it went well. -/
def update_fd (h : Handle) (i : ℕ) : Handle × Bool :=
  if (req.ifd_data i).fd ≤ 0 then (h, true)
  else
    match (see i).nents with
    | none => (h, false)
    | some nents =>
      if nents = 0 then (h, false)
      else if nents > QSEECOM_MAX_SG_ENTRY then
        if cleanup then (h.dma_free i, (see i).cache_op)
        else if (see i).dma_alloc then (h.allocate_sg_list_buffer i, (see i).cache_op)
        else (h, false)
      else
        (h, boundary_checks_offset req i (if nents = 1 then 8 else SG_ENTRY_SZ_64BIT * nents) &&
          (see i).cache_op)

def update_fds : List ℕ → Handle → Handle × Bool
  | [], h => (h, true)
  | i :: l, h =>
    let r := update_fd cleanup req see h i
    if r.2 then update_fds l r.1 else r

def qseecom_update_cmd_buf_64 (h : Handle) : Handle × Bool :=
  let r := update_fds cleanup req see (range MAX_ION_FD) h
  if r.2 then r else ((range MAX_ION_FD).foldl Handle.dma_free r.1, false)

end Pass

/-- A command: whether it passes the checks of its buffers, what the two passes meet, and whether
the secure call succeeds. -/
structure Command where
  valid : Bool
  req : ModfdReq
  first : ℕ → Sight
  send_cmd : Bool
  second : ℕ → Sight

def Command.accepted (c : Command) : Bool :=
  c.valid && decide (∀ i < MAX_ION_FD, (c.req.ifd_data i).cmd_buf_offset < c.req.cmd_req_len)

def Handle.send_modfd_cmd (h : Handle) (c : Command) : Handle :=
  if c.accepted then
    let r := qseecom_update_cmd_buf_64 false c.req c.first h
    if r.2 && c.send_cmd then (qseecom_update_cmd_buf_64 true c.req c.second r.1).1 else r.1
  else h

/-! ## The passes -/

section Passes

variable (cleanup : Bool) (req : ModfdReq) (see : ℕ → Sight)

/-- The descriptor needs a buffer of its own. -/
def big (i : ℕ) : Bool :=
  (req.ifd_data i).fd > 0 && (see i).nents.any (· > QSEECOM_MAX_SG_ENTRY)

/-- Nothing fails at the descriptor. -/
def fine (i : ℕ) : Bool :=
  (req.ifd_data i).fd ≤ 0 || (see i).nents.any fun nents =>
    nents ≠ 0 && (see i).cache_op &&
      if nents > QSEECOM_MAX_SG_ENTRY then cleanup || (see i).dma_alloc
      else boundary_checks_offset req i (if nents = 1 then 8 else SG_ENTRY_SZ_64BIT * nents)

/-- The buffers in the table for the big descriptors. -/
def held (t : ℕ → Option ℕ) (l : List ℕ) : List ℕ :=
  l.filterMap fun i => if big req see i then t i else none

variable {cleanup req see} {h : Handle} {l : List ℕ} {i : ℕ}

lemma update_fd_eq :
    update_fd cleanup req see h i =
      (if big req see i then
        if cleanup then h.dma_free i
        else if (see i).dma_alloc then h.allocate_sg_list_buffer i else h
      else h, fine cleanup req see i) := by
  rw [fine, update_fd, big]
  by_cases hfd : (req.ifd_data i).fd ≤ 0
  · simp [hfd, Int.not_lt.mpr hfd]
  · cases hn : (see i).nents with
    | none => simp [hfd]
    | some nents =>
      by_cases hbig : nents > QSEECOM_MAX_SG_ENTRY
      · cases cleanup <;> cases (see i).dma_alloc <;>
          simp [hfd, Int.not_le.mp hfd, hbig, Nat.ne_zero_of_lt hbig]
      · by_cases hzero : nents = 0 <;> simp [hfd, hbig, hzero, Bool.and_comm]

lemma dma_alloc_of_fine (hbig : big req see i = true) (hfine : fine false req see i = true) :
    (see i).dma_alloc = true := by
  cases hn : (see i).nents with
  | none => simp [big, hn] at hbig
  | some nents =>
    simp [big, hn] at hbig
    simp [fine, hn, hbig, Int.not_le.mpr hbig.1] at hfine
    exact hfine.2

lemma update_fds_snd : (update_fds cleanup req see l h).2 = l.all (fine cleanup req see) := by
  induction l generalizing h with
  | nil => rfl
  | cons i l ih =>
    rw [update_fds, update_fd_eq, all_cons]
    cases fine cleanup req see i
    · rfl
    · exact ih

lemma update_fds_small (hsmall : ∀ i ∈ l, big req see i = false) :
    (update_fds cleanup req see l h).1 = h := by
  induction l with
  | nil => rfl
  | cons i l ih =>
    rw [forall_mem_cons] at hsmall
    rw [update_fds, update_fd_eq, hsmall.1, if_neg Bool.false_ne_true]
    split_ifs
    · exact ih hsmall.2
    · rfl

lemma update_fd_first (hold : fine false req see i = true ∨ h.sec_buf_fd i = none) :
    let r := (update_fd false req see h i).1
    (∀ j, (j = i → big req see i = false) → r.sec_buf_fd j = h.sec_buf_fd j) ∧
      r.freed = h.freed ∧
      ∃ n, r.allocated = h.allocated + n ∧
        held req see r.sec_buf_fd [i] = range' h.allocated n := by
  rw [update_fd_eq, if_neg Bool.false_ne_true]
  cases hbig : big req see i with
  | false => exact ⟨fun _ _ => rfl, rfl, 0, rfl, by simp [held, hbig]⟩
  | true =>
    cases halloc : (see i).dma_alloc with
    | false =>
      have hnone := hold.resolve_left fun hfine => by simp [dma_alloc_of_fine hbig hfine] at halloc
      exact ⟨fun _ _ => rfl, rfl, 0, rfl, by simp [held, hbig, hnone]⟩
    | true =>
      refine ⟨fun j hj => Function.update_of_ne (fun heq => ?_) .., rfl, 1, rfl, ?_⟩
      · exact Bool.noConfusion (hj heq)
      · simp [held, hbig, Handle.allocate_sg_list_buffer]

/-- **The first pass** numbers the buffers it allocates in the order of their descriptors. -/
theorem update_fds_first (hnodup : l.Nodup)
    (hold : (∀ i ∈ l, fine false req see i = true) ∨ ∀ i ∈ l, h.sec_buf_fd i = none) :
    let r := (update_fds false req see l h).1
    (∀ i, (i ∈ l → big req see i = false) → r.sec_buf_fd i = h.sec_buf_fd i) ∧
      r.freed = h.freed ∧
      ∃ n, r.allocated = h.allocated + n ∧ held req see r.sec_buf_fd l = range' h.allocated n := by
  induction l generalizing h with
  | nil => exact ⟨fun _ _ => rfl, rfl, 0, rfl, rfl⟩
  | cons i l ih =>
    rw [nodup_cons] at hnodup
    simp only [forall_mem_cons] at hold
    obtain ⟨hother, hfreed, m, hm, hheld⟩ := update_fd_first (hold.imp And.left And.left)
    have hsnd : (update_fd false req see h i).2 = fine false req see i := by rw [update_fd_eq]
    have hcons (t : ℕ → Option ℕ) :
        held req see t (i :: l) = held req see t [i] ++ held req see t l :=
      filterMap_append (l := [i]) ..
    unfold update_fds
    generalize update_fd false req see h i = r1 at hother hfreed hm hheld hsnd ⊢
    have hnone (hn : ∀ j ∈ l, h.sec_buf_fd j = none) (j : ℕ) (hj : j ∈ l) :
        r1.1.sec_buf_fd j = none :=
      (hother j fun heq => absurd (heq ▸ hj) hnodup.1).trans (hn j hj)
    dsimp only
    rw [hsnd]
    cases hfine : fine false req see i with
    | true =>
      rw [if_pos rfl]
      obtain ⟨hrest, hfreed', n, hn, hheld'⟩ := ih (h := r1.1) hnodup.2
        (hold.imp And.right fun hn => hnone hn.2)
      refine ⟨fun j hj => ?_, hfreed'.trans hfreed, m + n, by omega, ?_⟩
      · exact (hrest j fun hjl => hj (mem_cons_of_mem _ hjl)).trans
          (hother j fun heq => heq ▸ hj (heq ▸ mem_cons_self))
      · rw [hm] at hheld'
        rw [hcons, hheld', ← range'_append_1, ← hheld]
        simp only [held, filterMap_cons, filterMap_nil, hrest i fun hi => absurd hi hnodup.1]
    | false =>
      rw [hfine] at hold
      have hn := hnone (hold.resolve_left fun hf => Bool.false_ne_true hf.1).2
      refine ⟨fun j hj => hother j fun heq => heq ▸ hj (heq ▸ mem_cons_self), hfreed, m, hm, ?_⟩
      rw [if_neg Bool.false_ne_true, hcons, hheld]
      simpa [held, filterMap_eq_nil_iff] using fun j hj _ => hn j hj

/-- **The second pass**, when nothing fails, frees what the table has for the big descriptors. -/
theorem update_fds_cleanup (hfine : ∀ i ∈ l, fine true req see i = true) :
    (update_fds true req see l h).1 =
      { h with freed := h.freed ++ held req see h.sec_buf_fd l } := by
  induction l generalizing h with
  | nil => simp [update_fds, held]
  | cons i l ih =>
    rw [forall_mem_cons] at hfine
    rw [update_fds, update_fd_eq, hfine.1, if_pos rfl, ih hfine.2]
    cases hi : h.sec_buf_fd i <;> cases hbig : big req see i <;>
      simp [Handle.dma_free, held, hi, hbig]

lemma foldl_dma_free (l : List ℕ) (h : Handle) :
    l.foldl Handle.dma_free h = { h with freed := h.freed ++ l.filterMap h.sec_buf_fd } := by
  induction l generalizing h with
  | nil => simp
  | cons i l ih =>
    rw [foldl_cons, ih]
    cases hi : h.sec_buf_fd i <;> simp [Handle.dma_free, hi]

/-- A pass without big descriptors over an empty table. -/
lemma update_small (cleanup : Bool)
    (hempty : ∀ i ∈ range MAX_ION_FD, h.sec_buf_fd i = none)
    (hsmall : ∀ i ∈ range MAX_ION_FD, big req see i = false) :
    (qseecom_update_cmd_buf_64 cleanup req see h).1 = h := by
  unfold qseecom_update_cmd_buf_64
  dsimp only
  split_ifs
  · exact update_fds_small hsmall
  · rw [update_fds_small hsmall, foldl_dma_free, filterMap_eq_nil_iff.mpr hempty, append_nil]

end Passes

/-! ## Histories -/

/-- A command that leaves nothing behind: it is refused at once; or nothing fails in it, and the
second pass finds the same descriptors big; or only the secure call fails, with no big descriptor;
or the table is empty, and it fails in the first pass or has no big descriptor. -/
def Clean (h : Handle) (c : Command) : Prop :=
  c.accepted = false ∨
    c.send_cmd = true ∧ (∀ i < MAX_ION_FD, fine false c.req c.first i = true ∧
      fine true c.req c.second i = true ∧ big c.req c.second i = big c.req c.first i) ∨
    c.send_cmd = false ∧ (∀ i < MAX_ION_FD, fine false c.req c.first i = true ∧
      big c.req c.first i = false) ∨
    (∀ i < MAX_ION_FD, h.sec_buf_fd i = none) ∧
      ((∃ i < MAX_ION_FD, fine false c.req c.first i = false) ∨
        ∀ i < MAX_ION_FD, big c.req c.first i = false ∧ big c.req c.second i = false)

instance (h : Handle) (c : Command) : Decidable (Clean h c) := inferInstanceAs (Decidable (_ ∨ _))

lemma range_append_range' (a n : ℕ) : range a ++ range' a n = range (a + n) := by
  rw [range_eq_range', range_eq_range', ← range'_append_1, Nat.zero_add]

lemma freed_send_modfd_cmd (h : Handle) (c : Command) (hfreed : h.freed = range h.allocated)
    (hclean : Clean h c) :
    (h.send_modfd_cmd c).freed = range (h.send_modfd_cmd c).allocated := by
  rw [Handle.send_modfd_cmd]
  split_ifs with hvalid
  · simp only [Clean, hvalid, Bool.true_eq_false, false_or, ← mem_range] at hclean
    rcases hclean with ⟨hsend, hall⟩ | ⟨hsend, hall⟩ | ⟨hempty, ⟨i, hi, hfails⟩ | hsmall⟩
    · -- both passes go through
      have hfine : ∀ i ∈ range MAX_ION_FD, fine false c.req c.first i = true :=
        fun i hi => (hall i hi).1
      obtain ⟨-, hfreed1, n, hn, hheld⟩ := update_fds_first (h := h) nodup_range (.inl hfine)
      have hsnd : (update_fds false c.req c.first (range MAX_ION_FD) h).2 = true :=
        update_fds_snd.trans (all_eq_true.mpr hfine)
      have hsame (t : ℕ → Option ℕ) : held c.req c.second t (range MAX_ION_FD) =
          held c.req c.first t (range MAX_ION_FD) :=
        filterMap_congr fun i hi => by rw [(hall i hi).2.2]
      have hsnd' (h : Handle) : (update_fds true c.req c.second (range MAX_ION_FD) h).2 = true :=
        update_fds_snd.trans (all_eq_true.mpr fun i hi => (hall i hi).2.1)
      simp only [qseecom_update_cmd_buf_64, hsnd, hsnd', hsend, if_true, Bool.and_self,
        update_fds_cleanup fun i hi => (hall i hi).2.1, hsame, hheld, hfreed1, hfreed, hn,
        range_append_range']
    · -- the secure call fails, and the table is as it was
      have hsnd : (update_fds false c.req c.first (range MAX_ION_FD) h).2 = true :=
        update_fds_snd.trans (all_eq_true.mpr fun i hi => (hall i hi).1)
      have hfst : (update_fds false c.req c.first (range MAX_ION_FD) h).1 = h :=
        update_fds_small fun i hi => (hall i hi).2
      simp only [qseecom_update_cmd_buf_64, hsnd, hfst, hsend, if_true, Bool.and_false,
        Bool.false_eq_true, if_false, hfreed]
    · -- the first pass fails, and its own buffers are all that the table has
      obtain ⟨hother, hfreed1, n, hn, hheld⟩ := @update_fds_first c.req c.first h _ nodup_range
        (.inr hempty)
      have hsnd : (update_fds false c.req c.first (range MAX_ION_FD) h).2 = false :=
        update_fds_snd.trans (all_eq_false.mpr ⟨i, hi, by simp [hfails]⟩)
      have hall : (range MAX_ION_FD).filterMap
          (update_fds false c.req c.first (range MAX_ION_FD) h).1.sec_buf_fd =
          range' h.allocated n := by
        rw [← hheld]
        refine filterMap_congr fun j hj => ?_
        cases hbig : big c.req c.first j
        · exact (hother j fun _ => hbig).trans (hempty j hj)
        · rfl
      simp only [qseecom_update_cmd_buf_64, hsnd, Bool.false_eq_true, if_false, Bool.false_and,
        foldl_dma_free, hall, hfreed1, hfreed, hn, range_append_range']
    · dsimp only
      rw [update_small false hempty fun i hi => (hsmall i hi).1,
        update_small true hempty fun i hi => (hsmall i hi).2, ite_self]
      exact hfreed
  · exact hfreed

/-- **Every buffer is freed once** after every part of a history of such commands. -/
theorem freed_once_of_clean (l l' : List Command) (hl : l' <+: l)
    (hok : Run.Ok Handle.send_modfd_cmd Clean Handle.fresh l) (b : ℕ) :
    let h := Run.exec Handle.send_modfd_cmd Handle.fresh l'
    h.freed.count b = if b < h.allocated then 1 else 0 := by
  intro h
  have hfreed : h.freed = range h.allocated :=
    (hok.of_prefix hl).inv (I := fun h => h.freed = range h.allocated) freed_send_modfd_cmd rfl
  rw [hfreed, count_range]

/-- A command whose descriptors all have 5000 entries. -/
def big_cmd (map send_cmd : Bool) : Command :=
  ⟨true, ⟨64, fun _ => ⟨3, 0⟩⟩, fun _ => ⟨if map then some 5000 else none, true, true⟩, send_cmd,
    fun _ => ⟨some 5000, true, true⟩⟩

theorem big_buffer_freed_once :
    (Run.exec Handle.send_modfd_cmd Handle.fresh [big_cmd true true]).freed.count 0 = 1 :=
  freed_once_of_clean [big_cmd true true] _ (prefix_refl _) ⟨by decide, trivial⟩ 0

/-- **Freed twice, and never**: a command that cannot map its descriptors frees the buffers of the
command before it again, and a secure call that fails leaves its buffers behind. -/
theorem stale_buffer_freed_again :
    (Run.exec Handle.send_modfd_cmd Handle.fresh
      [big_cmd true true, big_cmd false true]).freed.count 0 = 2 ∧
    (Run.exec Handle.send_modfd_cmd Handle.fresh [big_cmd true false]).allocated = 4 ∧
    (Run.exec Handle.send_modfd_cmd Handle.fresh [big_cmd true false]).freed = [] := by
  decide

end KernelExtra.Qseecom
