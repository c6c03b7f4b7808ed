/-
The haven receiver and a hostile peer.

The receiver writes inside its own buffer whatever the page holds. It does not always read inside
the FIFO: `haven_rx_peak` subtracts the length of the FIFO from the tail at most once. When the peer
stops writing, the loop ends exactly if every header it meets says a length between one and 64K.
-/
import KernelExtra.Lib.Run
import KernelExtra.Qrtr.Haven

namespace KernelExtra.Qrtr.Haven

open Bytes

/-! ## Accesses -/

lemma copies_inside_iff (first second len count n : ℕ) :
    (∀ a ∈ copies first second len count, a.Inside n) ↔
      (len ≠ 0 → first + len ≤ n) ∧ (len ≠ count → second + (count - len) ≤ n) := by
  simp only [copies, List.mem_append]
  constructor
  · intro h
    constructor
    · intro hlen
      exact h ⟨first, len⟩ (.inl (by simp [hlen]))
    · intro hlen
      exact h ⟨second, count - len⟩ (.inr (by simp [hlen]))
  · rintro ⟨hfirst, hsecond⟩ a (ha | ha)
    · split at ha
      · rename_i hlen
        rw [List.mem_singleton.mp ha]
        exact hfirst hlen
      · cases ha
    · split at ha
      · rename_i hlen
        rw [List.mem_singleton.mp ha]
        exact hsecond hlen
      · cases ha

lemma peak_len_le (pipe : Page) (offset count : ℕ) : peak_len pipe offset count ≤ count :=
  min_le_left ..

def Page.Fits (pipe : Page) : Prop := pipe.tail.toNat ≤ 2 * FIFO_SIZE

instance (pipe : Page) : Decidable pipe.Fits := inferInstanceAs (Decidable (_ ≤ _))

/-- **A peek stays inside the FIFO** exactly when it copies nothing or the tail fits. -/
theorem peak_reads_inside_iff (pipe : Page) {count : ℕ} (hcount : count ≤ FIFO_SIZE) :
    (∀ a ∈ peak_reads pipe 0 count, a.Inside FIFO_SIZE) ↔ count = 0 ∨ pipe.Fits := by
  have htail := pipe.tail.toNat_lt
  have hstart := peak_start_zero pipe
  rw [peak_reads, copies_inside_iff, peak_len, Page.Fits]
  generalize peak_start pipe 0 = start at *
  have hfits : start ≤ FIFO_SIZE ↔ pipe.tail.toNat ≤ 2 * FIFO_SIZE := by
    split_ifs at hstart <;> omega
  have hsize : FIFO_SIZE < 2 ^ 32 := by decide
  rcases lt_or_ge FIFO_SIZE start with hout | hin
  · -- the number of bytes up to the end has wrapped around
    have hwrap : count ≤ size_sub FIFO_SIZE start := by
      unfold size_sub
      split_ifs at hstart <;> omega
    omega
  · rw [size_sub_eq hin (by omega)]
    omega

lemma peak_writes_inside (pipe : Page) {data count n : ℕ} (h : data + count ≤ n) :
    ∀ a ∈ peak_writes pipe data 0 count, a.Inside n := by
  have hlen := peak_len_le pipe 0 count
  rw [peak_writes, copies_inside_iff]
  omega

lemma haven_rx_avail_le (pipe : Page) : haven_rx_avail pipe ≤ FIFO_SIZE := by
  simp only [haven_rx_avail]
  split_ifs <;> omega

/-! ## A pass -/

/-- A pass reads inside the FIFO and writes inside the packet buffer. -/
def Pass.Safe (pass : Pass) : Prop :=
  (∀ a ∈ pass.reads, a.Inside FIFO_SIZE) ∧ ∀ a ∈ pass.writes, a.Inside MAX_PKT_SZ

/-- Whenever bytes are copied from the FIFO, the tail that is seen fits. -/
def TailsFit (ring : Ring) (v : Views) : Prop :=
  haven_rx_avail v.cond ≠ 0 →
    (ring.offset = 0 → v.hdr.Fits) ∧
      ((ring.offset = 0 → 0 < peek_len v.hdr ∧ peek_len v.hdr ≤ MAX_PKT_SZ) →
        haven_rx_avail v.avail ≠ 0 → v.data.Fits)

lemma Collects.safe_iff {pass : Pass} {buf : Mem} {v : Views} {offset len : ℕ}
    (h : Collects pass buf v offset len) (hlen : len ≤ MAX_PKT_SZ) :
    ((∀ a ∈ peak_reads v.data 0 (taken v offset len), a.Inside FIFO_SIZE) ∧
        ∀ a ∈ pass.writes, a.Inside MAX_PKT_SZ) ↔
      (offset < len → haven_rx_avail v.avail ≠ 0 → v.data.Fits) := by
  have hle := haven_rx_avail_le v.avail
  have htaken : taken v offset len = min (haven_rx_avail v.avail) (len - offset) := rfl
  have hwrites : ∀ a ∈ pass.writes, a.Inside MAX_PKT_SZ := by
    rw [h.writes]
    rcases lt_or_ge offset len with hlt | hge
    · exact peak_writes_inside _ (by omega)
    · -- nothing is missing, and nothing is copied
      rw [show taken v offset len = 0 by omega, peak_writes, copies_inside_iff]
      have := peak_len_le v.data 0 0
      omega
  rw [and_iff_left hwrites, peak_reads_inside_iff _ (by omega)]
  constructor
  · rintro (hzero | hfits) hlt hne
    · omega
    · exact hfits
  · intro hfits
    by_cases hlt : offset < len ∧ haven_rx_avail v.avail ≠ 0
    · exact .inr (hfits hlt.1 hlt.2)
    · exact .inl (by omega)

lemma read_frag_safe_iff {ring : Ring} (v : Views) (hlt : ring.offset < ring.len)
    (hlen : ring.len ≤ MAX_PKT_SZ) :
    (qrtr_haven_read_frag ring v).Safe ↔ haven_rx_avail v.avail ≠ 0 → v.data.Fits := by
  rw [Pass.Safe, read_frag_reads v hlt hlen, (read_frag_collects v hlt hlen).safe_iff hlen,
    imp_iff_right hlt]

lemma read_new_safe_iff {ring : Ring} (v : Views) (hoff : ring.offset = 0) :
    (qrtr_haven_read_new ring v).Safe ↔
      v.hdr.Fits ∧ (0 < peek_len v.hdr ∧ peek_len v.hdr ≤ MAX_PKT_SZ →
        haven_rx_avail v.avail ≠ 0 → v.data.Fits) := by
  have hhdr := peak_reads_inside_iff v.hdr (show hdr_len ≤ FIFO_SIZE by decide)
  rw [or_iff_right (by decide)] at hhdr
  by_cases hvalid : ValidLen (peek_len v.hdr)
  · have hmax : (peek_len v.hdr).toNat ≤ MAX_PKT_SZ := Int.toNat_le.mpr hvalid.2
    rw [Pass.Safe, read_new_reads ring hvalid, List.forall_mem_append, hhdr, and_assoc,
      (read_new_collects hoff hvalid).safe_iff hmax, Int.lt_toNat]
    simp [and_iff_left hvalid.2]
  · rw [read_new_of_not_valid ring hvalid, Pass.Safe, hhdr]
    refine and_congr_right fun _ => iff_of_true (by simp) fun hlen => ?_
    exact absurd ⟨hlen.1.le, hlen.2⟩ hvalid

lemma read_new_ok {ring : Ring} (v : Views) (hoff : ring.offset = 0) :
    (qrtr_haven_read_new ring v).ring.Ok := by
  by_cases hvalid : ValidLen (peek_len v.hdr)
  · exact (read_new_collects hoff hvalid).ok (Int.toNat_le.mpr hvalid.2)
  · rw [read_new_of_not_valid ring hvalid]
    exact .inl hoff

/-- **A pass is safe exactly when the tails it sees fit**, and it keeps the ring in order. -/
theorem read_spec {ring : Ring} (h : ring.Ok) (v : Views) :
    (qrtr_haven_read ring v).ring.Ok ∧ ((qrtr_haven_read ring v).Safe ↔ TailsFit ring v) := by
  unfold qrtr_haven_read TailsFit
  split
  · rename_i hcond
    refine ⟨h, ?_⟩
    simp [Pass.Safe, hcond]
  · rename_i hcond
    rw [imp_iff_right hcond]
    split
    · rename_i hoff
      obtain ⟨hlt, hlen⟩ := h.resolve_left hoff
      refine ⟨(read_frag_collects v hlt hlen).ok hlen, ?_⟩
      rw [read_frag_safe_iff v hlt hlen]
      simp [hoff]
    · rename_i hoff
      rw [not_not] at hoff
      refine ⟨read_new_ok v hoff, ?_⟩
      rw [read_new_safe_iff v hoff]
      simp [hoff]

/-! ## A quiet page -/

def quiet_pass (s : Page × Ring) : Page × Ring :=
  let pass := qrtr_haven_read s.2 (.quiet s.1)
  (s.1.stored pass, pass.ring)

def Terminates (pipe : Page) (ring : Ring) : Prop :=
  ∃ n, haven_rx_avail (quiet_pass^[n] (pipe, ring)).1 = 0

def len_at (fifo : Mem) (pos : ℕ) : ℤ := peek_len ⟨0, .ofNat pos, fifo⟩

/-- The `n` bytes from `pos` on are packets whose headers say a length the receiver can use. -/
def Framed (fifo : Mem) (pos n : ℕ) : Prop :=
  if n = 0 then True
  else if 0 < len_at fifo pos ∧ len_at fifo pos ≤ MAX_PKT_SZ then
    Framed fifo ((pos + (len_at fifo pos).toNat) % FIFO_SIZE) (n - (len_at fifo pos).toNat)
  else False
termination_by n

/-- What is in the FIFO from the next header on is a sequence of packets. -/
def FramedFrom (pipe : Page) (ring : Ring) : Prop :=
  let rest := if ring.offset = 0 then 0 else ring.len - ring.offset
  Framed pipe.fifo ((pipe.tail.toNat + rest) % FIFO_SIZE) (haven_rx_avail pipe - rest)

lemma framed_zero (fifo : Mem) (pos : ℕ) : Framed fifo pos 0 := by
  rw [Framed]
  simp

lemma framed_of_valid {fifo : Mem} {pos n : ℕ} (hpos : 0 < len_at fifo pos)
    (hmax : len_at fifo pos ≤ MAX_PKT_SZ) :
    Framed fifo pos n ↔
      Framed fifo ((pos + (len_at fifo pos).toNat) % FIFO_SIZE)
        (n - (len_at fifo pos).toNat) := by
  rcases eq_or_ne n 0 with rfl | hn
  · rw [Nat.zero_sub]
    exact iff_of_true (framed_zero ..) (framed_zero ..)
  · rw [Framed, if_neg hn, if_pos ⟨hpos, hmax⟩]

lemma not_framed {fifo : Mem} {pos n : ℕ} (hn : n ≠ 0)
    (h : ¬ (0 < len_at fifo pos ∧ len_at fifo pos ≤ MAX_PKT_SZ)) : ¬ Framed fifo pos n := by
  rw [Framed, if_neg hn, if_neg h]
  exact id

variable {pipe : Page}

section Quiet

variable (hhead : pipe.head.toNat < FIFO_SIZE)
include hhead

section

variable (hne : haven_rx_avail pipe ≠ 0)
include hne

lemma rx_avail_spec :
    pipe.tail.toNat < 2 * FIFO_SIZE ∧ haven_rx_avail pipe < FIFO_SIZE ∧
      (pipe.tail.toNat + haven_rx_avail pipe) % FIFO_SIZE = pipe.head.toNat := by
  have htail := pipe.tail.toNat_lt
  obtain ⟨n, hn⟩ : ∃ n, haven_rx_avail pipe = n := ⟨_, rfl⟩
  rw [hn] at hne ⊢
  simp only [haven_rx_avail, size_sub] at hn
  unfold FIFO_SIZE at *
  split_ifs at hn <;> omega

lemma rx_avail_advance {k : ℕ} (hk : k ≤ haven_rx_avail pipe) :
    haven_rx_avail { pipe with tail := haven_rx_advance pipe k } = haven_rx_avail pipe - k := by
  obtain ⟨-, hlt, heq⟩ := rx_avail_spec hhead hne
  have hnew := rx_advance_toNat pipe k
  have hpos : 0 < FIFO_SIZE := by decide
  have hafter : haven_rx_avail { pipe with tail := haven_rx_advance pipe k } =
      (pipe.head.toNat + FIFO_SIZE - (haven_rx_advance pipe k).toNat) % FIFO_SIZE :=
    rx_avail_of_lt hhead (by rw [hnew]; exact Nat.mod_lt _ hpos)
  unfold FIFO_SIZE at *
  omega

lemma peek_len_eq : peek_len pipe = len_at pipe.fifo (pipe.tail.toNat % FIFO_SIZE) := by
  have htail := (rx_avail_spec hhead hne).1
  have hstart : peak_start pipe 0 =
      peak_start ⟨0, .ofNat (pipe.tail.toNat % FIFO_SIZE), pipe.fifo⟩ 0 := by
    rw [peak_start_zero, peak_start_zero]
    simp only [UInt32.toNat_ofNat']
    unfold FIFO_SIZE at *
    split_ifs <;> omega
  simp [len_at, peek_len, haven_rx_peak, peak_len, hstart]

end

lemma Collects.framedFrom_iff {pass : Pass} {buf : Mem} {offset len : ℕ}
    (h : Collects pass buf (.quiet pipe) offset len) (hne : haven_rx_avail pipe ≠ 0) :
    (FramedFrom (pipe.stored pass) pass.ring ↔
      Framed pipe.fifo ((pipe.tail.toNat + (len - offset)) % FIFO_SIZE)
        (haven_rx_avail pipe - (len - offset))) ∧
      haven_rx_avail (pipe.stored pass) =
        haven_rx_avail pipe - taken (.quiet pipe) offset len := by
  have htaken : taken (.quiet pipe) offset len = min (haven_rx_avail pipe) (len - offset) := rfl
  have hadv := rx_avail_advance hhead hne
    (show taken (.quiet pipe) offset len ≤ haven_rx_avail pipe by omega)
  rw [h.stored, hadv]
  refine ⟨?_, rfl⟩
  rw [FramedFrom, hadv, rx_advance_toNat]
  by_cases hwhole : taken (.quiet pipe) offset len = len - offset
  · rw [(h.whole hwhole).1, hwhole]
    simp
  · -- the packet is not complete, and nothing is left
    have hnow : haven_rx_avail pipe - taken (.quiet pipe) offset len = 0 := by omega
    have hthen : haven_rx_avail pipe - (len - offset) = 0 := by omega
    rw [hnow, hthen, Nat.zero_sub]
    exact iff_of_true (framed_zero ..) (framed_zero ..)

/-- **A pass keeps the bytes framed or not**, and takes some if they are. -/
theorem quiet_pass_spec {ring : Ring} (hring : ring.Ok) (hne : haven_rx_avail pipe ≠ 0) :
    (FramedFrom (quiet_pass (pipe, ring)).1 (quiet_pass (pipe, ring)).2 ↔
        FramedFrom pipe ring) ∧
      (FramedFrom pipe ring →
        haven_rx_avail (quiet_pass (pipe, ring)).1 < haven_rx_avail pipe) := by
  by_cases hoff : ring.offset = 0
  · have hfrom : FramedFrom pipe ring ↔
        Framed pipe.fifo (pipe.tail.toNat % FIFO_SIZE) (haven_rx_avail pipe) := by
      simp [FramedFrom, hoff]
    have hpeek := peek_len_eq hhead hne
    rw [quiet_pass, read_eq_new hne hoff, hfrom]
    by_cases hvalid : ValidLen (peek_len pipe)
    · obtain ⟨n, hn⟩ : ∃ n : ℕ, peek_len pipe = n := Int.eq_ofNat_of_zero_le hvalid.1
      rw [hn] at hpeek hvalid
      obtain ⟨hframed, havail⟩ :=
        (read_new_collects_quiet hoff hn (Int.ofNat_le.mp hvalid.2)).framedFrom_iff hhead hne
      rw [hframed, havail, Nat.sub_zero]
      rcases eq_zero_or_pos n with rfl | hpos
      · -- a packet of no bytes leaves everything as it is
        refine ⟨.rfl, fun h => absurd h (not_framed hne ?_)⟩
        rw [← hpeek]
        simp
      · rw [framed_of_valid (n := haven_rx_avail pipe) (by omega) (hpeek ▸ hvalid.2), ← hpeek,
          Nat.mod_add_mod, Int.toNat_natCast]
        refine ⟨.rfl, fun _ => ?_⟩
        have htaken : taken (.quiet pipe) 0 n = min (haven_rx_avail pipe) (n - 0) := rfl
        omega
    · have hnot : ¬ Framed pipe.fifo (pipe.tail.toNat % FIFO_SIZE) (haven_rx_avail pipe) :=
        not_framed hne fun hlen => hvalid (hpeek ▸ ⟨hlen.1.le, hlen.2⟩)
      rw [read_new_of_not_valid (v := .quiet pipe) ring hvalid]
      refine ⟨?_, fun h => absurd h hnot⟩
      exact hfrom
  · obtain ⟨hlt, hlen⟩ := hring.resolve_left hoff
    obtain ⟨hframed, havail⟩ :=
      (read_frag_collects _ hlt hlen).framedFrom_iff hhead hne
    rw [quiet_pass, read_eq_frag hne hoff]
    rw [hframed, havail, FramedFrom, if_neg hoff]
    refine ⟨.rfl, fun _ => ?_⟩
    have htaken : taken (.quiet pipe) ring.offset ring.len =
      min (haven_rx_avail pipe) (ring.len - ring.offset) := rfl
    omega

end Quiet

lemma quiet_pass_ok {s : Page × Ring} (h : s.2.Ok) : (quiet_pass s).2.Ok := (read_spec h _).1

lemma framedFrom_of_empty (ring : Ring) (h : haven_rx_avail pipe = 0) : FramedFrom pipe ring := by
  rw [FramedFrom, h, Nat.zero_sub]
  exact framed_zero ..

lemma terminates_of_framed {ring : Ring} (hhead : pipe.head.toNat < FIFO_SIZE)
    (hring : ring.Ok) (h : FramedFrom pipe ring) : Terminates pipe ring := by
  induction hn : haven_rx_avail pipe using Nat.strongRecOn generalizing pipe ring with
  | ind n ih =>
    subst hn
    by_cases hne : haven_rx_avail pipe = 0
    · exact ⟨0, hne⟩
    · obtain ⟨hiff, hless⟩ := quiet_pass_spec hhead hring hne
      obtain ⟨k, hk⟩ := @ih _ (hless h) (quiet_pass (pipe, ring)).1 (quiet_pass (pipe, ring)).2
        hhead (quiet_pass_ok hring) (hiff.mpr h) rfl
      exact ⟨k + 1, hk⟩

lemma framed_of_terminates {ring : Ring} (hhead : pipe.head.toNat < FIFO_SIZE)
    (hring : ring.Ok) (h : Terminates pipe ring) : FramedFrom pipe ring := by
  obtain ⟨n, hn⟩ := h
  induction n generalizing pipe ring with
  | zero => exact framedFrom_of_empty ring hn
  | succ n ih =>
    by_cases hne : haven_rx_avail pipe = 0
    · exact framedFrom_of_empty ring hne
    · rw [← (quiet_pass_spec hhead hring hne).1]
      exact @ih (quiet_pass (pipe, ring)).1 (quiet_pass (pipe, ring)).2 hhead
        (quiet_pass_ok hring) hn

/-! ## Every peer -/

def havenStep (ring : Ring) (v : Views) : Ring := (qrtr_haven_read ring v).ring

/-- **The haven receiver and its peer.** -/
theorem haven_read_safe_iff (vs : List Views) :
    (Run.Ok havenStep (fun ring v => (qrtr_haven_read ring v).Safe) .empty vs ↔
        Run.Ok havenStep TailsFit .empty vs) ∧
      ∀ pipe : Page, pipe.head.toNat < FIFO_SIZE →
        (Terminates pipe (Run.exec havenStep .empty vs) ↔
          FramedFrom pipe (Run.exec havenStep .empty vs)) := by
  have hempty : Ring.empty.Ok := .inl rfl
  have hstep : ∀ (ring : Ring) (v : Views), ring.Ok → (havenStep ring v).Ok :=
    fun ring v h => (read_spec h v).1
  constructor
  · exact Run.ok_congr hstep (fun ring v h => (read_spec h v).2) hempty vs
  · intro pipe hhead
    have hring := Run.exec_inv hstep hempty vs
    exact ⟨framed_of_terminates hhead hring, terminates_of_framed hhead hring⟩

theorem one_packet_ends : Terminates ⟨32, 0, fun i => if i = 0 then 1 else 0⟩ .empty := by
  refine ((haven_read_safe_iff []).2 _ (by decide)).mpr ?_
  have hlen : len_at (fun i => if i = 0 then 1 else 0) 0 = 32 := by decide +kernel
  change Framed _ 0 32
  rw [framed_of_valid (by rw [hlen]; decide) (by rw [hlen]; decide), hlen]
  exact framed_zero ..

def four_zeros : Page := ⟨4, 0, fun _ => 0⟩

/-- A tail that is set far out meanwhile makes the receiver read behind the FIFO. -/
theorem haven_read_unsafe :
    (⟨0x4001, 32⟩ ∈ (qrtr_haven_read .empty ⟨four_zeros, { four_zeros with tail := 0x8001 },
        four_zeros, four_zeros, four_zeros⟩).reads ∧
      ¬ (⟨0x4001, 32⟩ : Access).Inside FIFO_SIZE) ∧
      ¬ Terminates four_zeros .empty := by
  refine ⟨by decide +kernel, ?_⟩
  rintro ⟨n, hn⟩
  have hstay : quiet_pass (four_zeros, .empty) = (four_zeros, .empty) := by
    rfl
  rw [Function.iterate_fixed hstay] at hn
  exact absurd hn (by decide +kernel)

end KernelExtra.Qrtr.Haven
