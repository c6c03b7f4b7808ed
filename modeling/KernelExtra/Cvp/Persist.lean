/-
CVP: persistent buffers of a session, `drivers/media/platform/msm/cvp/msm_cvp_buf.c`.

For each descriptor of a packet `msm_cvp_mark_user_persist` is to tag the client's buffer with that
descriptor and size. But the search ends at the first buffer of the client: marking is right exactly
when every descriptor names that one, but for buffers that carry the id already. The cache of
mappings is left out.
-/
import KernelExtra.Lib.Bytes

namespace KernelExtra.Cvp

open Bytes List

def FENCE_BIT : ℕ := 2 ^ 63
def EFAULT : ℤ := 14

inductive BufferOwner where
  | DRIVER
  | FIRMWARE
  | CLIENT
  deriving DecidableEq

/-- A persist buffer, with the transaction that has it in use. -/
structure InternalBuf where
  fd : ℤ
  size : ℕ
  ktid : ℕ
  ownership : BufferOwner
  device_addr : ℕ
  deriving DecidableEq

structure BufType where
  fd : ℤ
  size : ℕ
  deriving DecidableEq

def InternalBuf.client (b : InternalBuf) : Bool := decide (b.ownership = .CLIENT)

def InternalBuf.fits (b : InternalBuf) (buf : BufType) : Bool :=
  decide (b.fd = buf.fd) && decide (b.size = buf.size)

def BufType.skipped (buf : BufType) : Bool := decide (buf.fd < 0) || decide (buf.size = 0)

def search (ktid : ℕ) : List InternalBuf → Option (InternalBuf × List InternalBuf)
  | [] => none
  | pbuf :: l =>
    if pbuf.client then some (pbuf, { pbuf with ktid } :: l)
    else (search ktid l).map fun r => (r.1, pbuf :: r.2)

/-- What a call leaves behind: its result, the descriptors of the packet, the list. -/
structure Outcome where
  rc : ℤ
  bufs : List BufType
  persistbufs : List InternalBuf

def mark_loop (ktid : ℕ) : List BufType → List InternalBuf → Outcome
  | [], l => ⟨0, [], l⟩
  | buf :: bufs, l =>
    if buf.skipped then
      let r := mark_loop ktid bufs l
      { r with bufs := buf :: r.bufs }
    else
      match search ktid l with
      | none => ⟨-EFAULT, buf :: bufs, l⟩
      | some (pbuf, l) =>
        let buf' := if pbuf.fits buf then { buf with fd := int32 pbuf.device_addr } else buf
        let r := mark_loop ktid bufs l
        { r with bufs := buf' :: r.bufs }

def new_ktid (trans : ℕ) : ℕ := (trans + 1) % FENCE_BIT

/-- `bufs` are the `buf_num` descriptors at `offset`: none, if one of the two is zero. -/
def msm_cvp_mark_user_persist (trans : ℕ) (bufs : List BufType) (l : List InternalBuf) : Outcome :=
  mark_loop (new_ktid trans) bufs l

def InternalBuf.released (ktid : ℕ) (pbuf : InternalBuf) : Bool :=
  decide (pbuf.ktid = ktid) && pbuf.client

def msm_cvp_unmap_user_persist (ktid : ℕ) (l : List InternalBuf) : List InternalBuf :=
  l.filter (!·.released ktid)

/-! ## Marking the right buffers -/

/-- Buffer `i` is named by a descriptor of the packet, where `f` says which buffer each one
names. -/
def Named (bufs : List BufType) (f : ℕ → ℕ) (i : ℕ) : Prop :=
  ∃ (j : ℕ) (buf : BufType), bufs[j]? = some buf ∧ buf.skipped = false ∧ f j = i

/-- What a successful call has to do, with `f` for the buffers that the descriptors name. -/
structure Marks (ktid : ℕ) (bufs : List BufType) (l : List InternalBuf) (r : Outcome)
    (f : ℕ → ℕ) : Prop where
  named : ∀ (j : ℕ) (buf : BufType), bufs[j]? = some buf → buf.skipped = false →
    ∃ pbuf, l[f j]? = some pbuf ∧ pbuf.client = true ∧ pbuf.fits buf = true ∧
      r.bufs[j]? = some { buf with fd := int32 pbuf.device_addr }
  skipped : ∀ (j : ℕ) (buf : BufType), bufs[j]? = some buf → buf.skipped = true →
    r.bufs[j]? = some buf
  tagged : ∀ (i : ℕ) pbuf, l[i]? = some pbuf → Named bufs f i →
    r.persistbufs[i]? = some { pbuf with ktid }
  others : ∀ (i : ℕ) pbuf, l[i]? = some pbuf → ¬ Named bufs f i → r.persistbufs[i]? = some pbuf
  /-- What `msm_cvp_unmap_user_persist` removes. -/
  released : ∀ (i : ℕ) pbuf, r.persistbufs[i]? = some pbuf →
    (pbuf.released ktid = true ↔ Named bufs f i)

/-- A descriptor names no buffer of the client. -/
def Missing (bufs : List BufType) (l : List InternalBuf) : Prop :=
  ∃ buf ∈ bufs, buf.skipped = false ∧ ∀ pbuf ∈ l, pbuf.client = true → pbuf.fits buf = false

/-- A call fails if a descriptor names nothing, and else marks what the descriptors name. -/
def RightlyMarked (ktid : ℕ) (bufs : List BufType) (l : List InternalBuf) (r : Outcome) : Prop :=
  (Missing bufs l → r.rc ≠ 0) ∧ (¬ Missing bufs l → r.rc = 0 ∧ ∃ f, Marks ktid bufs l r f)

/-- What becomes of a descriptor when `c` is the first buffer of the client. -/
def replaced (c : InternalBuf) (buf : BufType) : BufType :=
  if !buf.skipped && c.fits buf then { buf with fd := int32 c.device_addr } else buf

/-- Every descriptor names the first buffer `c` of the client, at `n`. The exception is a buffer
that carries the id before the call, for which the descriptor is right as `c` leaves it. And no
buffer that is not named carries the id. -/
structure NamesFirst (ktid : ℕ) (bufs : List BufType) (l : List InternalBuf) (n : ℕ)
    (c : InternalBuf) (f : ℕ → ℕ) : Prop where
  named : ∀ (j : ℕ) (buf : BufType), bufs[j]? = some buf → buf.skipped = false →
    ∃ pbuf, l[f j]? = some pbuf ∧ pbuf.client = true ∧ pbuf.fits buf = true ∧
      (f j ≠ n → pbuf.ktid = ktid ∧ replaced c buf = { buf with fd := int32 pbuf.device_addr })
  first : ∀ buf ∈ bufs, buf.skipped = false → Named bufs f n
  carried : ∀ (i : ℕ) pbuf, l[i]? = some pbuf → pbuf.released ktid = true → Named bufs f i

/-- When marking is right: the client has no buffer, or its first one is named throughout. -/
def FirstOnly (ktid : ℕ) (bufs : List BufType) (l : List InternalBuf) : Prop :=
  match l.find? InternalBuf.client with
  | none => True
  | some c => ∃ f, NamesFirst ktid bufs l (l.findIdx InternalBuf.client) c f

/-! ## What the loop does -/

section

variable {ktid : ℕ} {pre post : List InternalBuf} {c : InternalBuf} {l : List InternalBuf}

lemma search_append (hpre : ∀ pbuf ∈ pre, pbuf.client = false) (hc : c.client = true) :
    search ktid (pre ++ c :: post) = some (c, pre ++ { c with ktid } :: post) := by
  induction pre with
  | nil => simp [search, hc]
  | cons pbuf pre ih =>
    rw [forall_mem_cons] at hpre
    simp [search, hpre.1, ih hpre.2]

lemma search_eq_none (h : ∀ pbuf ∈ l, pbuf.client = false) : search ktid l = none := by
  induction l with
  | nil => rfl
  | cons pbuf l ih =>
    rw [forall_mem_cons] at h
    simp [search, h.1, ih h.2]

/-- The list after a call: the first buffer of the client is tagged, if anything is asked for. -/
def marked (ktid : ℕ) (bufs : List BufType) (pre : List InternalBuf) (c : InternalBuf)
    (post : List InternalBuf) : List InternalBuf :=
  if bufs.all BufType.skipped then pre ++ c :: post else pre ++ { c with ktid } :: post

/-- **The client has a buffer**: no call fails, and only the first buffer is ever tagged. -/
theorem mark_loop_append (hpre : ∀ pbuf ∈ pre, pbuf.client = false) (hc : c.client = true)
    (bufs : List BufType) :
    mark_loop ktid bufs (pre ++ c :: post) = ⟨0, bufs.map (replaced c),
      marked ktid bufs pre c post⟩ := by
  induction bufs generalizing c with
  | nil => rfl
  | cons buf bufs ih =>
    have hsame : replaced { c with ktid } = replaced c := rfl
    unfold mark_loop
    cases hskip : buf.skipped with
    | true => simp [ih hc, replaced, marked, hskip]
    | false =>
      rw [if_neg (by simp), search_append hpre hc]
      dsimp only
      rw [ih (c := { c with ktid }) hc]
      simp [replaced, marked, hskip, hsame]

/-- **The client has none.** -/
theorem mark_loop_none (h : ∀ pbuf ∈ l, pbuf.client = false) (bufs : List BufType) :
    mark_loop ktid bufs l = ⟨if bufs.all BufType.skipped then 0 else -EFAULT, bufs, l⟩ := by
  induction bufs with
  | nil => rfl
  | cons buf bufs ih =>
    unfold mark_loop
    rw [ih, search_eq_none h]
    cases hskip : buf.skipped <;> simp [hskip]

end

lemma getElem?_middle {α : Type*} {pre post : List α} {c c' : α} {i : ℕ} (hi : i ≠ pre.length) :
    (pre ++ c' :: post)[i]? = (pre ++ c :: post)[i]? := by
  rw [getElem?_append, getElem?_append]
  split_ifs
  · rfl
  · obtain ⟨n, hn⟩ : ∃ n, i - pre.length = n + 1 := Nat.exists_eq_succ_of_ne_zero (by omega)
    rw [hn]
    rfl

lemma all_skipped_of_named {bufs : List BufType} {buf : BufType} (hbuf : buf ∈ bufs)
    (hskip : buf.skipped = false) : bufs.all BufType.skipped = false :=
  all_eq_false.2 ⟨buf, hbuf, by simp [hskip]⟩

section

variable {ktid : ℕ} {bufs : List BufType} {pre post : List InternalBuf} {c : InternalBuf}
  {f : ℕ → ℕ}

lemma marked_of_ne {i : ℕ} (hi : i ≠ pre.length) :
    (marked ktid bufs pre c post)[i]? = (pre ++ c :: post)[i]? := by
  unfold marked
  split_ifs
  · rfl
  · exact getElem?_middle hi

lemma marked_of_named {buf : BufType} (hbuf : buf ∈ bufs) (hskip : buf.skipped = false) :
    (marked ktid bufs pre c post)[pre.length]? = some { c with ktid } := by
  simp [marked, all_skipped_of_named hbuf hskip]

lemma marked_of_skipped (hall : ∀ buf ∈ bufs, buf.skipped = true) :
    marked ktid bufs pre c post = pre ++ c :: post :=
  if_pos (all_eq_true.2 hall)

lemma released_tagged (hc : c.client = true) :
    ({ c with ktid } : InternalBuf).released ktid = true := by
  simpa [InternalBuf.released, InternalBuf.client] using hc

/-- **Where the first buffer is named throughout, the right buffers are marked.** -/
theorem NamesFirst.marks (hc : c.client = true)
    (h : NamesFirst ktid bufs (pre ++ c :: post) pre.length c f) :
    Marks ktid bufs (pre ++ c :: post) ⟨0, bufs.map (replaced c), marked ktid bufs pre c post⟩
      f := by
  have hat : (pre ++ c :: post)[pre.length]? = some c := by simp
  refine ⟨fun j buf hj hskip => ?_, fun j buf hj hskip => ?_, ?_, fun i pbuf hi hnot => ?_,
    fun i pbuf hi => ?_⟩
  · obtain ⟨pbuf, hi, hclient, hfits, hother⟩ := h.named j buf hj hskip
    refine ⟨pbuf, hi, hclient, hfits, ?_⟩
    simp only [getElem?_map, hj, Option.map_some]
    by_cases hn : f j = pre.length
    · rw [hn, hat] at hi
      rw [← Option.some.inj hi] at hfits ⊢
      simp [replaced, hskip, hfits]
    · rw [(hother hn).2]
  · simp [hj, replaced, hskip]
  · rintro i pbuf hi ⟨j, buf, hj, hskip, rfl⟩
    by_cases hn : f j = pre.length
    · rw [hn, hat] at hi
      rw [hn, marked_of_named (mem_of_getElem? hj) hskip, ← Option.some.inj hi]
    · obtain ⟨pbuf', hi', -, -, hother⟩ := h.named j buf hj hskip
      rw [hi] at hi'
      rw [marked_of_ne hn, hi, Option.some.inj hi', ← (hother hn).1]
  · by_cases hn : i = pre.length
    · have hall : ∀ buf ∈ bufs, buf.skipped = true := by
        intro buf hbuf
        by_contra hskip
        exact hnot (hn ▸ h.first buf hbuf (by simpa using hskip))
      rwa [marked_of_skipped hall]
    · rwa [marked_of_ne hn]
  · constructor
    · intro hrel
      by_cases hall : ∀ buf ∈ bufs, buf.skipped = true
      · rw [marked_of_skipped hall] at hi
        exact h.carried i pbuf hi hrel
      · obtain ⟨buf, hbuf, hskip⟩ : ∃ buf ∈ bufs, buf.skipped = false := by simpa using hall
        by_cases hn : i = pre.length
        · exact hn ▸ h.first buf hbuf hskip
        · rw [marked_of_ne hn] at hi
          exact h.carried i pbuf hi hrel
    · rintro ⟨j, buf, hj, hskip, rfl⟩
      by_cases hn : f j = pre.length
      · rw [hn, marked_of_named (mem_of_getElem? hj) hskip] at hi
        rw [← Option.some.inj hi]
        exact released_tagged hc
      · obtain ⟨pbuf', hi', hclient, -, hother⟩ := h.named j buf hj hskip
        rw [marked_of_ne hn, hi'] at hi
        rw [← Option.some.inj hi]
        simp [InternalBuf.released, hclient, (hother hn).1]

/-- **And where the right buffers are marked, the first one is named throughout.** -/
theorem Marks.namesFirst (hc : c.client = true)
    (h : Marks ktid bufs (pre ++ c :: post) ⟨0, bufs.map (replaced c), marked ktid bufs pre c post⟩
      f) : NamesFirst ktid bufs (pre ++ c :: post) pre.length c f := by
  refine ⟨fun j buf hj hskip => ?_, fun buf hbuf hskip => ?_, fun i pbuf hi hrel => ?_⟩
  · obtain ⟨pbuf, hi, hclient, hfits, hbuf⟩ := h.named j buf hj hskip
    refine ⟨pbuf, hi, hclient, hfits, fun hn => ⟨?_, by simpa [hj] using hbuf⟩⟩
    -- it carries the tag and the call has not tagged it
    have htag := h.tagged (f j) pbuf hi ⟨j, buf, hj, hskip, rfl⟩
    rw [marked_of_ne hn, hi] at htag
    exact congrArg InternalBuf.ktid (Option.some.inj htag)
  · exact (h.released _ _ (marked_of_named hbuf hskip)).1 (released_tagged hc)
  · by_cases hall : ∀ buf ∈ bufs, buf.skipped = true
    · exact (h.released i pbuf (by rwa [marked_of_skipped hall])).1 hrel
    · obtain ⟨buf, hbuf, hskip⟩ : ∃ buf ∈ bufs, buf.skipped = false := by simpa using hall
      by_cases hn : i = pre.length
      · exact hn ▸ (h.released _ _ (marked_of_named hbuf hskip)).1 (released_tagged hc)
      · exact (h.released i pbuf (by rwa [marked_of_ne hn])).1 hrel

end

/-- **Marking is right exactly when every descriptor names the first buffer of the client**, but for
buffers that carry the id before, or the client has no buffer. -/
theorem mark_user_persist_iff (trans : ℕ) (bufs : List BufType) (l : List InternalBuf) :
    RightlyMarked (new_ktid trans) bufs l (msm_cvp_mark_user_persist trans bufs l) ↔
      FirstOnly (new_ktid trans) bufs l := by
  unfold msm_cvp_mark_user_persist FirstOnly
  cases hfind : l.find? InternalBuf.client with
  | none =>
    have hnone : ∀ pbuf ∈ l, pbuf.client = false := by simpa using hfind
    refine iff_of_true ?_ trivial
    rw [mark_loop_none hnone]
    refine ⟨fun ⟨buf, hbuf, hskip, _⟩ => ?_, fun hmissing => ?_⟩
    · simp [all_skipped_of_named hbuf hskip, EFAULT]
    · have hall : ∀ buf ∈ bufs, buf.skipped = true := by
        intro buf hbuf
        by_contra hskip
        exact hmissing ⟨buf, hbuf, by simpa using hskip, fun pbuf hp hc => by simp_all⟩
      have hnot : ∀ f i, ¬ Named bufs f i := fun f i ⟨j, buf, hj, hskip, _⟩ => by
        simp [hall buf (mem_of_getElem? hj)] at hskip
      refine ⟨if_pos (all_eq_true.2 hall), id, fun j buf hj hskip => ?_, fun _ _ hj _ => hj,
        fun i _ _ hn => absurd hn (hnot _ i), fun _ _ hi _ => hi, fun i pbuf hi => ?_⟩
      · simp [hall buf (mem_of_getElem? hj)] at hskip
      · simp [hnot, InternalBuf.released, hnone pbuf (mem_of_getElem? hi)]
  | some c =>
    obtain ⟨hc, pre, post, rfl, hpre⟩ := find?_eq_some_iff_append.1 hfind
    have hpre : ∀ pbuf ∈ pre, pbuf.client = false := by simpa using hpre
    rw [mark_loop_append hpre hc]
    have hidx : (pre ++ c :: post).findIdx InternalBuf.client = pre.length := by
      rw [findIdx_append, findIdx_eq_length_of_false hpre, findIdx_cons, hc]
      simp
    rw [hidx]
    constructor
    · rintro ⟨hfails, hmarks⟩
      obtain ⟨-, f, hf⟩ := hmarks fun h => hfails h rfl
      exact ⟨f, hf.namesFirst hc⟩
    · rintro ⟨f, hf⟩
      refine ⟨fun ⟨buf, hbuf, hskip, hno⟩ => ?_, fun _ => ⟨rfl, f, hf.marks hc⟩⟩
      obtain ⟨j, hj⟩ := getElem?_of_mem hbuf
      obtain ⟨pbuf, hi, hclient, hfits, -⟩ := hf.named j buf hj hskip
      rw [hno pbuf (mem_of_getElem? hi) hclient] at hfits
      cases hfits

/-- The packet asks for the second buffer, and the first one is tagged. -/
theorem second_buffer_not_marked :
    let l : List InternalBuf := [⟨3, 64, 0, .CLIENT, 4096⟩, ⟨4, 64, 0, .CLIENT, 8192⟩]
    let r := msm_cvp_mark_user_persist 0 [⟨4, 64⟩] l
    r.rc = 0 ∧ r.bufs = [⟨4, 64⟩] ∧
      msm_cvp_unmap_user_persist (new_ktid 0) r.persistbufs = [⟨4, 64, 0, .CLIENT, 8192⟩] ∧
      ¬ RightlyMarked (new_ktid 0) [⟨4, 64⟩] l r := by
  refine ⟨rfl, rfl, rfl, fun h => ?_⟩
  obtain ⟨-, f, hf⟩ := h.2 fun ⟨buf, hbuf, _, hno⟩ => by
    rw [mem_singleton.1 hbuf] at hno
    exact absurd (hno ⟨4, 64, 0, .CLIENT, 8192⟩ (by simp) rfl) (by decide)
  obtain ⟨pbuf, hi, -, -, hbuf⟩ := hf.named 0 _ rfl rfl
  obtain rfl | rfl : pbuf = _ ∨ pbuf = _ := by simpa using mem_of_getElem? hi
  · exact absurd hbuf (by decide)
  · exact absurd hbuf (by decide)

end KernelExtra.Cvp
