/-
The host firmware interface queues, `drivers/gpu/msm/adreno_a6xx_hfi.c`.

Rings of dwords in shared memory, in which a message says its length in its header. From major
version 2 on, the writer fills a message up to four dwords with a cookie and the reader skips that.
In both cases the writer keeps at least one dword free.
-/
import KernelExtra.Kgsl.Basic
import KernelExtra.Lib.Ring
import KernelExtra.Lib.Run

namespace KernelExtra.Kgsl.Hfi

open List Nat

/-! ## The source -/

def MSG_HDR_GET_SIZE (hdr : UInt32) : ℕ := ((hdr >>> 8) &&& 0xFF).toNat

def GMU_VER_MAJOR (ver : UInt32) : ℕ := ((ver >>> 28) &&& 0xF).toNat

def ALIGN4 (x : ℕ) : ℕ := (x + 3) / 4 * 4

inductive QueueStatus where
  | DISABLED
  | ENABLED
  deriving DecidableEq

/-- A queue in shared memory. -/
structure Queue where
  status : QueueStatus
  queue_size : ℕ
  read_index : ℕ
  write_index : ℕ
  queue : ℕ → UInt32

def store (queue_size : ℕ) : List UInt32 → (ℕ → UInt32) × ℕ → (ℕ → UInt32) × ℕ
  | [], (queue, write) => (queue, write)
  | dword :: dwords, (queue, write) =>
    store queue_size dwords (Function.update queue write dword, (write + 1) % queue_size)

def load (queue_size : ℕ) (queue : ℕ → UInt32) : ℕ → ℕ → List UInt32 × ℕ
  | 0, read => ([], read)
  | size + 1, read =>
    let (output, read') := load queue_size queue size ((read + 1) % queue_size)
    (queue read :: output, read')

def cookie : UInt32 := 0xFAFAFAFA

/-- A message goes behind the others, if there is room. -/
def a6xx_hfi_queue_write (ver : UInt32) (hdr : Queue) (msg : List UInt32) : Except Errno Queue :=
  let size := MSG_HDR_GET_SIZE (msg.getD 0 0)
  let align_size := ALIGN4 size
  if hdr.status = .DISABLED then .error .EINVAL
  else
    let empty_space :=
      if hdr.write_index ≥ hdr.read_index then
        hdr.queue_size - (hdr.write_index - hdr.read_index)
      else hdr.read_index - hdr.write_index
    if empty_space ≤ align_size then .error .ENOSPC
    else
      let dwords := (List.range size).map fun i => msg.getD i 0
      let (queue, write) := store hdr.queue_size dwords (hdr.queue, hdr.write_index)
      let (queue, write) :=
        if GMU_VER_MAJOR ver ≥ 2 then
          store hdr.queue_size (List.replicate (align_size - size) cookie) (queue, write)
        else (queue, write)
      .ok { hdr with queue := queue, write_index := write }

/-- The first message comes out, if the buffer holds it. -/
def a6xx_hfi_queue_read (ver : UInt32) (hdr : Queue) (max_size : ℕ) :
    Except Errno (ℕ × List UInt32) × Queue :=
  if hdr.status = .DISABLED then (.error .EINVAL, hdr)
  else if hdr.read_index = hdr.write_index then (.error .ENODATA, hdr)
  else
    let size := MSG_HDR_GET_SIZE (hdr.queue hdr.read_index)
    if size > max_size / 4 then (.error .EMSGSIZE, hdr)
    else
      let (result, read) :=
        if hdr.read_index < hdr.queue_size then
          let (output, read) :=
            load hdr.queue_size hdr.queue (min size (max_size / 4)) hdr.read_index
          -- the buffer was cleared before
          (.ok (size, output ++ List.replicate (max_size / 4 - output.length) 0), read)
        else (.error .ENODATA, hdr.read_index)
      let read := if GMU_VER_MAJOR ver ≥ 2 then ALIGN4 read % hdr.queue_size else read
      (result, { hdr with read_index := read })

def init_queue (queue_size : ℕ) (queue : ℕ → UInt32) : Queue where
  status := .ENABLED
  queue_size := queue_size
  read_index := 0
  write_index := 0
  queue := queue

/-! ## Messages -/

def WellFormed (msg : List UInt32) : Prop :=
  msg ≠ [] ∧ MSG_HDR_GET_SIZE (msg.getD 0 0) = msg.length

instance (msg : List UInt32) : Decidable (WellFormed msg) := inferInstanceAs (Decidable (_ ∧ _))

/-- The message as it lies in the queue. -/
def padded (ver : UInt32) (msg : List UInt32) : List UInt32 :=
  if GMU_VER_MAJOR ver ≥ 2 then msg ++ List.replicate (ALIGN4 msg.length - msg.length) cookie
  else msg

lemma le_align4 (x : ℕ) : x ≤ ALIGN4 x := by
  unfold ALIGN4
  omega

lemma padded_length (ver : UInt32) (msg : List UInt32) :
    (padded ver msg).length = if GMU_VER_MAJOR ver ≥ 2 then ALIGN4 msg.length else msg.length := by
  unfold padded
  split
  · rw [length_append, length_replicate]
    have := le_align4 msg.length
    omega
  · rfl

lemma padded_length_le (ver : UInt32) (msg : List UInt32) :
    (padded ver msg).length ≤ ALIGN4 msg.length := by
  rw [padded_length]
  split
  · exact le_rfl
  · exact le_align4 _

def ring (queue : ℕ → UInt32) (read write : ℕ) : Ring UInt32 :=
  ⟨fun i => some (queue i), read, write⟩

/-- **The abstraction.** The queue holds the messages `l`, oldest first. -/
structure Refines (ver : UInt32) (q : Queue) (l : List (List UInt32)) : Prop where
  enabled : q.status = .ENABLED
  aligned : GMU_VER_MAJOR ver ≥ 2 → 4 ∣ q.read_index
  holds : Ring.Holds q.queue_size (ring q.queue q.read_index q.write_index) (l.flatMap (padded ver))
  formed : ∀ msg ∈ l, WellFormed msg

def Queue.used (q : Queue) : ℕ := Ring.length q.queue_size (ring q.queue q.read_index q.write_index)

/-- What is free of the dwords that may be used: one of them keeps a full queue from
looking empty. -/
def Queue.free_space (q : Queue) : ℕ := q.queue_size - 1 - q.used

/-! ## Dwords -/

lemma store_append (n : ℕ) (m m' : List UInt32) (p : (ℕ → UInt32) × ℕ) :
    store n (m ++ m') p = store n m' (store n m p) := by
  induction m generalizing p with
  | nil => rfl
  | cons d m ih => exact ih _

variable {n : ℕ} {ver : UInt32} {q : Queue} {l : List (List UInt32)} {msg : List UInt32}

lemma holds_store {h : ℕ} {queue : ℕ → UInt32} {write : ℕ} {l : List UInt32}
    (hholds : Ring.Holds n (ring queue h write) l) (m : List UInt32)
    (hroom : l.length + m.length < n) :
    Ring.Holds n (ring (store n m (queue, write)).1 h (store n m (queue, write)).2) (l ++ m) := by
  induction m generalizing queue write l with
  | nil => simpa [store] using hholds
  | cons d m ih =>
    rw [length_cons] at hroom
    have hpush := hholds.push (a := d) (by omega)
    have heq : (ring queue h write).push n d =
        ring (Function.update queue write d) h ((write + 1) % n) := by
      simp only [Ring.push, ring, Ring.next, Ring.mk.injEq, and_true]
      funext i
      simp only [Function.update_apply]
      split <;> rfl
    rw [heq] at hpush
    have hrest := ih hpush (by simp only [length_append, length_singleton]; omega)
    rw [append_assoc] at hrest
    exact hrest

lemma load_eq {read write : ℕ} {queue : ℕ → UInt32} {m l : List UInt32}
    (hholds : Ring.Holds n (ring queue read write) (m ++ l)) :
    load n queue m.length read = (m, (read + m.length) % n) := by
  induction m generalizing read with
  | nil =>
    have hread : read < n := hholds.head_lt
    rw [length_nil, add_zero, mod_eq_of_lt hread]
    rfl
  | cons d m ih =>
    have hfront : queue read = d := Option.some.inj hholds.front
    have hrest : load n queue m.length ((read + 1) % n) = _ := ih hholds.pop
    rw [length_cons, load, hrest, hfront, mod_add_mod]
    simp only [Prod.mk.injEq, true_and]
    congr 1
    omega

lemma align4_mod {h s : ℕ} (hn : 4 ∣ n) (hh : 4 ∣ h) :
    ALIGN4 ((h + s) % n) % n = (h + ALIGN4 s) % n := by
  obtain ⟨a, rfl⟩ := hh
  have hsplit : (4 * a + s) % n + n * ((4 * a + s) / n) = 4 * a + s := mod_add_div ..
  obtain ⟨b, hb⟩ : 4 ∣ n * ((4 * a + s) / n) := Dvd.dvd.mul_right hn _
  have halign : 4 * a + ALIGN4 s = ALIGN4 ((4 * a + s) % n) + n * ((4 * a + s) / n) := by
    unfold ALIGN4
    omega
  rw [halign, add_mul_mod_self_left]

/-! ## The refinement -/

lemma map_getD_range (msg : List UInt32) :
    (List.range msg.length).map (fun i => msg.getD i 0) = msg := by
  apply ext_getElem
  · simp
  · intro i h1 h2
    simp [h2]

section

variable (h : Refines ver q l)
include h

lemma empty_space_eq :
    (if q.write_index ≥ q.read_index then q.queue_size - (q.write_index - q.read_index)
      else q.read_index - q.write_index) = q.queue_size - q.used := by
  have hhead : q.read_index < q.queue_size := h.holds.head_lt
  have htail : q.write_index < q.queue_size := by
    have := h.holds.tail_eq
    change q.write_index = _ at this
    rw [this]
    exact mod_lt _ (zero_lt_of_lt hhead)
  have hused : q.used = (q.write_index + q.queue_size - q.read_index) % q.queue_size := rfl
  rw [hused]
  split
  · rw [show q.write_index + q.queue_size - q.read_index =
        q.write_index - q.read_index + q.queue_size by omega, add_mod_right,
      mod_eq_of_lt (by omega)]
  · rw [mod_eq_of_lt (by omega)]
    omega

lemma write_eq (hmsg : WellFormed msg) :
    a6xx_hfi_queue_write ver q msg =
      if q.queue_size - q.used ≤ ALIGN4 msg.length then .error .ENOSPC
      else .ok { q with
        queue := (store q.queue_size (padded ver msg) (q.queue, q.write_index)).1
        write_index := (store q.queue_size (padded ver msg) (q.queue, q.write_index)).2 } := by
  have henabled : ¬ q.status = .DISABLED := by simp [h.enabled]
  have hstore : store q.queue_size (padded ver msg) (q.queue, q.write_index) =
      if GMU_VER_MAJOR ver ≥ 2 then
        store q.queue_size (replicate (ALIGN4 msg.length - msg.length) cookie)
          (store q.queue_size msg (q.queue, q.write_index))
      else store q.queue_size msg (q.queue, q.write_index) := by
    unfold padded
    split
    · exact store_append ..
    · rfl
  simp only [a6xx_hfi_queue_write, if_neg henabled, hmsg.2, map_getD_range, empty_space_eq h,
    hstore]

lemma write_refines (hmsg : WellFormed msg) :
    (q.free_space < ALIGN4 msg.length ∧ a6xx_hfi_queue_write ver q msg = .error .ENOSPC) ∨
    (ALIGN4 msg.length ≤ q.free_space ∧ ∃ q', a6xx_hfi_queue_write ver q msg = .ok q' ∧
      q'.queue_size = q.queue_size ∧ Refines ver q' (l ++ [msg])) := by
  have hused : q.used = _ := h.holds.length_eq
  have hroom := h.holds.room
  rw [write_eq h hmsg, Queue.free_space]
  split
  · exact .inl ⟨by omega, rfl⟩
  · refine .inr ⟨by omega, _, rfl, rfl, h.enabled, h.aligned, ?_, ?_⟩
    · have hpad := padded_length_le ver msg
      rw [flatMap_append, flatMap_singleton]
      exact holds_store h.holds _ (by omega)
    · intro m hm
      obtain hm | hm := mem_append.mp hm
      · exact h.formed m hm
      · rw [mem_singleton.mp hm]
        exact hmsg

end

def Fits (q : Queue) (max_size : ℕ) : Prop :=
  q.read_index ≠ q.write_index → MSG_HDR_GET_SIZE (q.queue q.read_index) ≤ max_size / 4

instance (q : Queue) (max_size : ℕ) : Decidable (Fits q max_size) :=
  inferInstanceAs (Decidable (_ → _))

lemma index_eq_iff (h : Refines ver q l) : q.read_index = q.write_index ↔ l = [] := by
  have hiff := h.holds.head_eq_tail_iff
  change q.read_index = q.write_index ↔ _ at hiff
  rw [hiff]
  constructor
  · intro hnil
    by_contra hne
    obtain ⟨msg, l', rfl⟩ := exists_cons_of_ne_nil hne
    -- a message is not empty, padded or not
    have hlen : (padded ver msg).length = 0 := by
      rw [flatMap_cons, append_eq_nil_iff] at hnil
      rw [hnil.1, length_nil]
    have hpos : 0 < msg.length := length_pos_iff.mpr (h.formed msg (by simp)).1
    have := le_align4 msg.length
    rw [padded_length] at hlen
    split at hlen <;> omega
  · rintro rfl
    rfl

lemma read_empty (h : Refines ver q []) (max_size : ℕ) :
    a6xx_hfi_queue_read ver q max_size = (.error .ENODATA, q) := by
  unfold a6xx_hfi_queue_read
  rw [if_neg (by simp [h.enabled]), if_pos ((index_eq_iff h).mpr rfl)]

lemma read_refines {max_size : ℕ} (hsize : 4 ∣ q.queue_size) (h : Refines ver q (msg :: l))
    (hfits : Fits q max_size) :
    ∃ q', a6xx_hfi_queue_read ver q max_size =
        (.ok (msg.length, msg ++ List.replicate (max_size / 4 - msg.length) 0), q') ∧
      q'.queue_size = q.queue_size ∧ Refines ver q' l := by
  have hne : q.read_index ≠ q.write_index := by
    rw [ne_eq, index_eq_iff h]
    exact cons_ne_nil _ _
  have hmsg := h.formed msg (by simp)
  have hholds := h.holds
  rw [flatMap_cons] at hholds
  -- what follows the message, the cookies included
  obtain ⟨tail, htail⟩ : ∃ tail, padded ver msg = msg ++ tail := by
    unfold padded
    split
    · exact ⟨_, rfl⟩
    · exact ⟨[], (append_nil _).symm⟩
  have hload := hholds
  rw [htail, append_assoc] at hload
  have hhdr : MSG_HDR_GET_SIZE (q.queue q.read_index) = msg.length := by
    obtain ⟨d, m, rfl⟩ := exists_cons_of_ne_nil hmsg.1
    rw [← hmsg.2]
    exact congrArg MSG_HDR_GET_SIZE (Option.some.inj hload.front)
  have hle : msg.length ≤ max_size / 4 := hhdr ▸ hfits hne
  unfold a6xx_hfi_queue_read
  rw [if_neg (by simp [h.enabled]), if_neg hne]
  simp only [hhdr]
  rw [if_neg (by omega), if_pos (show q.read_index < q.queue_size from h.holds.head_lt),
    min_eq_left hle, load_eq hload]
  refine ⟨_, rfl, rfl, h.enabled, ?_, ?_, ?_⟩
  · intro hver
    rw [if_pos hver, align4_mod hsize (h.aligned hver)]
    exact (dvd_mod_iff hsize).mpr (Nat.dvd_add (h.aligned hver) (Dvd.intro_left _ rfl))
  · have hdrop := hholds.drop
    rw [padded_length] at hdrop
    split
    · rename_i hver
      rw [if_pos hver] at hdrop
      rw [align4_mod hsize (h.aligned hver)]
      exact hdrop
    · rename_i hver
      rw [if_neg hver] at hdrop
      exact hdrop
  · intro m hm
    exact h.formed m (mem_cons_of_mem _ hm)

/-! ## Runs -/

inductive Call where
  | write (msg : List UInt32)
  | read (max_size : ℕ)
  deriving DecidableEq

/-- A queue with what has been written to it and got from it. -/
structure Channel where
  q : Queue
  written : List (List UInt32)
  got : List (List UInt32)

def step (ver : UInt32) (s : Channel) : Call → Channel
  | .write msg =>
    match a6xx_hfi_queue_write ver s.q msg with
    | .ok q => { s with q := q, written := s.written ++ [msg] }
    | .error _ => s
  | .read max_size =>
    match a6xx_hfi_queue_read ver s.q max_size with
    | (.ok (size, output), q) => { s with q := q, got := s.got ++ [output.take size] }
    | (.error _, q) => { s with q := q }

def start (queue_size : ℕ) (queue : ℕ → UInt32) : Channel := ⟨init_queue queue_size queue, [], []⟩

def Proper (s : Channel) : Call → Prop
  | .write msg => WellFormed msg
  | .read max_size => Fits s.q max_size

instance : ∀ (s : Channel) (c : Call), Decidable (Proper s c)
  | _, .write msg => inferInstanceAs (Decidable (WellFormed msg))
  | s, .read max_size => inferInstanceAs (Decidable (Fits s.q max_size))

def expected (max_size : ℕ) : List (List UInt32) → Except Errno (ℕ × List UInt32)
  | [] => .error .ENODATA
  | msg :: _ => .ok (msg.length, msg ++ List.replicate (max_size / 4 - msg.length) 0)

/-- What was written is what was got and what is pending. -/
structure Fifo (ver : UInt32) (n : ℕ) (s : Channel) (pending : List (List UInt32)) : Prop where
  size : s.q.queue_size = n
  refines : Refines ver s.q pending
  trace : s.written = s.got ++ pending

lemma Fifo.keeps {s : Channel} {pending : List (List UInt32)} {c : Call}
    (hn : 4 ∣ n) (h : Fifo ver n s pending) (hc : Proper s c) :
    ∃ pending', Fifo ver n (step ver s c) pending' := by
  cases c with
  | write msg =>
    obtain ⟨-, heq⟩ | ⟨-, q', heq, hsize, hrefines⟩ := write_refines h.refines hc
    · exact ⟨pending, by simpa only [step, heq] using h⟩
    · refine ⟨pending ++ [msg], ?_⟩
      simp only [step, heq]
      refine ⟨hsize.trans h.size, hrefines, ?_⟩
      rw [h.trace, append_assoc]
  | read max_size =>
    cases pending with
    | nil =>
      refine ⟨[], ?_⟩
      simpa only [step, read_empty h.refines] using h
    | cons msg pending =>
      obtain ⟨q', heq, hsize, hrefines⟩ := read_refines (h.size ▸ hn) h.refines hc
      refine ⟨pending, ?_⟩
      simp only [step, heq]
      refine ⟨hsize.trans h.size, hrefines, ?_⟩
      rw [h.trace, take_left, append_assoc]
      rfl

lemma fifo_start (ver : UInt32) (hn : 0 < n) (queue : ℕ → UInt32) :
    Fifo ver n (start n queue) [] where
  size := rfl
  refines := {
    enabled := rfl
    aligned := fun _ => Dvd.intro 0 rfl
    holds := Ring.Holds.empty hn rfl
    formed := nofun }
  trace := rfl

lemma step_start_zero (ver : UInt32) (queue : ℕ → UInt32) (c : Call) :
    step ver (start 0 queue) c = start 0 queue := by
  cases c with
  | write msg => simp [step, start, init_queue, a6xx_hfi_queue_write]
  | read max_size => simp [step, start, init_queue, a6xx_hfi_queue_read]

/-- **HFI queues are lossless FIFOs.** -/
theorem hfi_queue_is_lossless_fifo (ver : UInt32) (n : ℕ) (hn : 4 ∣ n) (queue : ℕ → UInt32)
    (l : List Call) (hok : Run.Ok (step ver) Proper (start n queue) l) :
    let s := Run.exec (step ver) (start n queue) l
    (∃ pending, s.written = s.got ++ pending ∧
      (s.q.read_index = s.q.write_index ↔ pending = []) ∧
      ∀ max_size, Fits s.q max_size →
        (a6xx_hfi_queue_read ver s.q max_size).1 = expected max_size pending) ∧
    (∀ msg e, WellFormed msg → a6xx_hfi_queue_write ver s.q msg = .error e →
      s.q.free_space < ALIGN4 msg.length) ∧
    (0 < n → s.q.read_index < n ∧ s.q.write_index < n) := by
  intro s
  obtain rfl | hpos := Nat.eq_zero_or_pos n
  · have hs : s = start 0 queue := by
      refine hok.inv (I := fun s => s = start 0 queue) ?_ rfl
      rintro s c rfl -
      exact step_start_zero ver queue c
    rw [hs]
    refine ⟨⟨[], rfl, ⟨fun _ => rfl, fun _ => rfl⟩, ?_⟩, ?_, fun h => absurd h (lt_irrefl 0)⟩
    · intro max_size _
      simp [start, init_queue, a6xx_hfi_queue_read, expected]
    · intro msg e hmsg _
      have : 0 < msg.length := length_pos_iff.mpr hmsg.1
      have := le_align4 msg.length
      simp only [start, init_queue, Queue.free_space]
      omega
  · obtain ⟨pending, hfifo⟩ : ∃ pending, Fifo ver n s pending := by
      refine hok.inv (I := fun s => ∃ pending, Fifo ver n s pending) ?_
        ⟨[], fifo_start ver hpos queue⟩
      rintro s c ⟨pending, h⟩ hc
      exact h.keeps hn hc
    have hread : s.q.read_index < n := hfifo.size ▸ hfifo.refines.holds.head_lt
    refine ⟨⟨pending, hfifo.trace, index_eq_iff hfifo.refines, ?_⟩, ?_, fun _ => ⟨hread, ?_⟩⟩
    · intro max_size hfits
      cases hp : pending with
      | nil => rw [read_empty (hp ▸ hfifo.refines), expected]
      | cons msg rest =>
        obtain ⟨q', heq, -⟩ := read_refines (hfifo.size ▸ hn) (hp ▸ hfifo.refines) hfits
        rw [heq, expected]
    · intro msg e hmsg he
      obtain ⟨hfull, -⟩ | ⟨-, q', heq, -⟩ := write_refines hfifo.refines hmsg
      · exact hfull
      · rw [heq] at he
        cases he
    · have htail : s.q.write_index = _ := hfifo.refines.holds.tail_eq
      rw [htail, hfifo.size]
      exact mod_lt _ hpos

def wrapping_calls : List Call :=
  [.write [0x300, 1, 2], .write [0x501, 3, 4, 5, 6], .read 1024, .read 1024,
    .write [0x602, 7, 8, 9, 10, 11], .read 1024]

theorem wrapped_message_intact :
    let s := Run.exec (step 0x20000000) (start 16 fun _ => 0) wrapping_calls
    s.q.write_index = 4 ∧ s.got = [[0x300, 1, 2], [0x501, 3, 4, 5, 6], [0x602, 7, 8, 9, 10, 11]] ∧
      ∃ pending, s.written = s.got ++ pending ∧
        (s.q.read_index = s.q.write_index ↔ pending = []) := by
  have h := hfi_queue_is_lossless_fifo 0x20000000 16 (by decide) (fun _ => 0) wrapping_calls
    (by decide +kernel)
  obtain ⟨pending, htrace, hindex, -⟩ := h.1
  exact ⟨by decide +kernel, by decide +kernel, pending, htrace, hindex⟩

end KernelExtra.Kgsl.Hfi
