/-
The haven transport as a stream of packets. A chunk and a pass are the steps, in any order.

What the receiver has in its buffer, what is in the FIFO and what is not written yet are together
the packets that have not been posted. The receiver peeks at 32 bytes before it knows how many have
arrived; if the chunk ends within the header it reads the length from bytes of an earlier lap. That
does no harm as long as it is the right length, or no length at all.
-/
import KernelExtra.Lib.Circular
import KernelExtra.Lib.Fair
import KernelExtra.Lib.Run
import KernelExtra.Qrtr.Haven

namespace KernelExtra.Qrtr.Haven

open Run (exec exec_cons exec_nil)
open Fair (trace Recurs LeadsTo)
open Bytes List

/-! ## Steps -/

def WellFormed (pkt : List UInt8) : Prop :=
  ((parse_hdr (fun i => pkt.getD i 0) pkt.length).any fun p =>
      pkt.length = align4 64 p.size + p.hdrlen) = true ∧
    pkt.length ≤ MAX_PKT_SZ

instance (pkt : List UInt8) : Decidable (WellFormed pkt) := inferInstanceAs (Decidable (_ ∧ _))

abbrev Packet : Type := { pkt : List UInt8 // WellFormed pkt }

/-- A FIFO with its writer and its reader, and the trace of both. -/
structure Stream where
  pipe : Page
  left : List UInt8
  ring : Ring
  sent : List (List UInt8)
  posted : List (List UInt8)

def Stream.start (fifo : Mem) : Stream := ⟨⟨0, 0, fifo⟩, [], .empty, [], []⟩

/-- The steps of the two sides. -/
inductive Act where
  | send (pkt : Packet)
  | write
  | read

section

variable (s : Stream)

def Stream.write : Stream :=
  let chunk_size := min (haven_tx_avail s.pipe) s.left.length
  if haven_tx_avail s.pipe = 0 then s
  else { s with pipe := haven_tx_write s.pipe (s.left.take chunk_size)
                left := s.left.drop chunk_size }

def Stream.received (pass : Pass) : Stream :=
  { s with pipe := s.pipe.stored pass, ring := pass.ring, posted := s.posted ++ pass.post.toList }

def step : Act → Stream
  | .send pkt => if s.left = [] then { s with left := pkt.1, sent := s.sent ++ [pkt.1] } else s
  | .write => if s.left = [] then s else s.write
  | .read => s.received (qrtr_haven_read s.ring (.quiet s.pipe))

/-- Packets are posted whole, in order and once, and in the end all of them. -/
def Faithful : Prop :=
  s.posted <+: s.sent ∧
    (s.left = [] → haven_rx_avail s.pipe = 0 → s.posted = s.sent)

def Stream.next : List UInt8 := (s.sent.drop s.posted.length).headD []

end

/-- A pass that looks for a new packet peeks at its length, or at no length. -/
def Known (s : Stream) : Act → Prop
  | .read => haven_rx_avail s.pipe ≠ 0 → s.ring.offset = 0 →
      peek_len s.pipe = s.next.length ∨ ¬ ValidLen (peek_len s.pipe)
  | _ => True

/-! ## Packets -/

variable {pkt : List UInt8}

lemma WellFormed.peek (h : WellFormed pkt) :
    qrtr_peek_pkt_size (fun i => pkt.getD i 0) = (pkt.length : ℤ) := by
  obtain ⟨hany, hmax⟩ := h
  rw [Option.any_eq_true] at hany
  obtain ⟨p, hparse, hlen⟩ := hany
  refine (peek_eq_iff_of_parse hparse (of_decide_eq_true hlen)).mpr ?_
  unfold MAX_PKT_SZ at hmax
  omega

lemma WellFormed.length (h : WellFormed pkt) :
    hdr_v2_size ≤ pkt.length ∧
      (le (fun i => pkt.getD i 0) 0 1 = QRTR_PROTO_VER_1 → hdr_v1_size ≤ pkt.length) := by
  obtain ⟨hany, -⟩ := h
  rw [Option.any_eq_true] at hany
  obtain ⟨p, hparse, -⟩ := hany
  obtain ⟨-, hlen, -⟩ | ⟨hver, hlen, -⟩ := parse_hdr_cases hparse
  · exact ⟨le_trans (by decide) hlen, fun _ => hlen⟩
  · refine ⟨hlen, fun hver' => ?_⟩
    rw [hver] at hver'
    exact absurd hver' (by decide)

/-! ## The FIFO -/

def Page.Holds (pipe : Page) (l : List UInt8) : Prop :=
  KernelExtra.Ring.Holds FIFO_SIZE (cells pipe.fifo pipe.tail.toNat pipe.head.toNat) l

section

variable {pipe : Page} {l : List UInt8} (h : pipe.Holds l)

include h

lemma Page.Holds.indices : pipe.head.toNat < FIFO_SIZE ∧ pipe.tail.toNat < FIFO_SIZE := by
  refine ⟨?_, h.head_lt⟩
  rw [show pipe.head.toNat = _ from h.tail_eq]
  exact Nat.mod_lt _ (by decide)

lemma Page.Holds.rx_avail : haven_rx_avail pipe = l.length := by
  obtain ⟨hhead, htail⟩ := h.indices
  rw [rx_avail_of_lt hhead htail]
  exact h.length_eq

lemma Page.Holds.tx_avail (hroom : l.length + FIFO_FULL_RESERVE ≤ FIFO_SIZE) :
    haven_tx_avail pipe = FIFO_SIZE - FIFO_FULL_RESERVE - l.length := by
  obtain ⟨hhead, htail⟩ := h.indices
  have havail := h.rx_avail
  rw [rx_avail_of_lt hhead htail] at havail
  simp only [haven_tx_avail, size_sub]
  unfold FIFO_SIZE FIFO_FULL_RESERVE at *
  split_ifs <;> omega

lemma Page.Holds.peak_start : peak_start pipe 0 = pipe.tail.toNat := by
  rw [peak_start_zero, if_neg (not_le.mpr h.indices.2)]

lemma Page.Holds.peak (count : ℕ) :
    haven_rx_peak pipe 0 count = wrapLoad FIFO_SIZE pipe.fifo pipe.tail.toNat count := by
  have hsize : size_sub FIFO_SIZE pipe.tail.toNat = FIFO_SIZE - pipe.tail.toNat :=
    size_sub_eq h.indices.2.le (by decide)
  simp [haven_rx_peak, peak_len, h.peak_start, hsize, wrapLoad]

lemma Page.Holds.advance {k : ℕ} (hk : k ≤ l.length) :
    Page.Holds { pipe with tail := haven_rx_advance pipe k } (l.drop k) := by
  have hsplit : KernelExtra.Ring.Holds FIFO_SIZE
      (cells pipe.fifo pipe.tail.toNat pipe.head.toNat) (l.take k ++ l.drop k) := by
    rw [take_append_drop]
    exact h
  have hdrop := hsplit.drop
  rw [length_take, min_eq_left hk] at hdrop
  rw [Page.Holds, rx_advance_toNat]
  exact hdrop

lemma Page.Holds.tx_write {data : List UInt8} (hroom : l.length + data.length < FIFO_SIZE) :
    (haven_tx_write pipe data).Holds (l ++ data) := by
  obtain ⟨hhead, -⟩ := h.indices
  have hsize : size_sub FIFO_SIZE pipe.head.toNat = FIFO_SIZE - pipe.head.toNat :=
    size_sub_eq hhead.le (by decide)
  have hfifo : (haven_tx_write pipe data).fifo =
      wrapStore FIFO_SIZE pipe.fifo pipe.head.toNat data := by
    simp [haven_tx_write, hsize, wrapStore]
  have hnext : (haven_tx_write pipe data).head.toNat =
      (pipe.head.toNat + data.length) % FIFO_SIZE := by
    simp only [haven_tx_write, UInt32.toNat_ofNat']
    unfold FIFO_SIZE at *
    split_ifs <;> omega
  rw [Page.Holds, hfifo, hnext]
  exact holds_wrapStore h hroom

end

variable {s : Stream} {l : List UInt8}

lemma Stream.write_spec (h : s.pipe.Holds l) (hroom : l.length + FIFO_FULL_RESERVE ≤ FIFO_SIZE) :
    s.write = { s with pipe := s.write.pipe, left := s.left.drop (haven_tx_avail s.pipe) } ∧
      s.write.pipe.Holds (l ++ s.left.take (haven_tx_avail s.pipe)) ∧
      (l ++ s.left.take (haven_tx_avail s.pipe)).length + FIFO_FULL_RESERVE ≤ FIFO_SIZE := by
  by_cases havail : haven_tx_avail s.pipe = 0
  · rw [Stream.write, if_pos havail, havail, take_zero, append_nil]
    exact ⟨rfl, h, hroom⟩
  · have hspace := h.tx_avail hroom
    have hreserve : 0 < FIFO_FULL_RESERVE := by decide
    have htake : s.left.take (min (haven_tx_avail s.pipe) s.left.length) =
        s.left.take (haven_tx_avail s.pipe) := by
      rw [← take_take, take_length]
    have hdrop : s.left.drop (min (haven_tx_avail s.pipe) s.left.length) =
        s.left.drop (haven_tx_avail s.pipe) := by
      rw [drop_eq_drop_iff]
      omega
    have hlen : (s.left.take (haven_tx_avail s.pipe)).length ≤ haven_tx_avail s.pipe :=
      length_take_le ..
    rw [Stream.write, if_neg havail, htake, hdrop]
    refine ⟨rfl, h.tx_write (by omega), ?_⟩
    rw [length_append]
    omega

/-! ## The invariant -/

/-- The FIFO holds `l`, and `rest` has not been posted. -/
structure Stream.Inv (s : Stream) (l : List UInt8) (rest : List (List UInt8)) : Prop where
  sent : s.sent = s.posted ++ rest
  formed : ∀ pkt ∈ rest, WellFormed pkt
  holds : s.pipe.Holds l
  room : l.length + FIFO_FULL_RESERVE ≤ FIFO_SIZE
  bytes : load s.ring.buf 0 s.ring.offset ++ (l ++ s.left) = rest.flatten
  frag : s.ring.offset ≠ 0 → s.ring.offset < s.ring.len ∧ s.ring.len = (rest.headD []).length

lemma inv_start (fifo : Mem) : (Stream.start fifo).Inv [] [] where
  sent := rfl
  formed := by simp
  holds := .empty (show 0 < FIFO_SIZE by decide) rfl
  room := by decide
  bytes := rfl
  frag h := absurd rfl h

section Inv

variable {s : Stream} {l : List UInt8} {rest : List (List UInt8)}

section

variable (h : s.Inv l rest)
include h

lemma Stream.Inv.offset_lt (hrest : rest ≠ []) : s.ring.offset < (rest.headD []).length := by
  cases rest with
  | nil => exact absurd rfl hrest
  | cons pkt rest =>
    have hlen := (h.formed pkt mem_cons_self).length.1
    rw [hdr_v2_size] at hlen
    by_cases hoff : s.ring.offset = 0
    · change s.ring.offset < pkt.length
      omega
    · obtain ⟨hlt, heq⟩ := h.frag hoff
      rwa [heq] at hlt

lemma Stream.Inv.rest_ne_nil (hl : l ≠ []) : rest ≠ [] := by
  rintro rfl
  have hbytes := h.bytes
  rw [flatten_nil, append_eq_nil_iff, append_eq_nil_iff] at hbytes
  exact hl hbytes.2.1

lemma Stream.Inv.next_eq : s.next = rest.headD [] := by
  rw [Stream.next, h.sent, drop_left]

lemma Stream.Inv.faithful : Faithful s := by
  refine ⟨⟨rest, h.sent.symm⟩, fun hleft havail => ?_⟩
  rw [h.holds.rx_avail, length_eq_zero_iff] at havail
  subst havail
  have hbytes := h.bytes
  rw [hleft, append_nil, append_nil] at hbytes
  have hrest : rest = [] := by
    by_contra hne
    have hlt := h.offset_lt hne
    have hlen := congrArg length hbytes
    rw [length_load] at hlen
    cases rest with
    | nil => exact hne rfl
    | cons pkt rest =>
      rw [flatten_cons, length_append] at hlen
      change s.ring.offset < pkt.length at hlt
      omega
  rw [h.sent, hrest, append_nil]

lemma Stream.Inv.send (pkt : Packet) (hleft : s.left = []) :
    Stream.Inv { s with left := pkt.1, sent := s.sent ++ [pkt.1] } l (rest ++ [pkt.1]) where
  sent := by
    rw [h.sent, append_assoc]
  formed := forall_mem_append.mpr ⟨h.formed, forall_mem_singleton.mpr pkt.2⟩
  holds := h.holds
  room := h.room
  bytes := by
    have hbytes := h.bytes
    rw [hleft, append_nil] at hbytes
    rw [← append_assoc, hbytes, flatten_append, flatten_singleton]
  frag hoff := by
    obtain ⟨hlt, heq⟩ := h.frag hoff
    refine ⟨hlt, heq.trans ?_⟩
    cases rest with
    | nil =>
      -- nothing is being collected
      rw [heq] at hlt
      exact absurd hlt (Nat.not_lt_zero _)
    | cons pkt' rest => rfl

lemma Stream.Inv.write : s.write.Inv (l ++ s.left.take (haven_tx_avail s.pipe)) rest := by
  obtain ⟨heq, hholds, hroom⟩ := Stream.write_spec h.holds h.room
  rw [heq]
  refine ⟨h.sent, h.formed, hholds, hroom, ?_, h.frag⟩
  rw [append_assoc, take_append_drop]
  exact h.bytes

end

section

variable {pass : Pass} {pkt : List UInt8} (h : s.Inv l (pkt :: rest))
  (hpass : Collects pass s.ring.buf (.quiet s.pipe) s.ring.offset pkt.length)

include h

lemma Stream.Inv.taken_eq :
    taken (.quiet s.pipe) s.ring.offset pkt.length = min l.length (pkt.length - s.ring.offset) :=
  congrArg (min · _) h.holds.rx_avail

lemma Stream.Inv.load_collected {k : ℕ} (hk : taken (.quiet s.pipe) s.ring.offset pkt.length = k) :
    load (collected s.ring.buf (.quiet s.pipe) s.ring.offset pkt.length) 0 (s.ring.offset + k) =
      load s.ring.buf 0 s.ring.offset ++ l.take k := by
  have hle : k ≤ l.length := by
    rw [← hk, h.taken_eq]
    exact min_le_left ..
  have hpeak : haven_rx_peak s.pipe 0 k = l.take k := by
    rw [h.holds.peak, wrapLoad_eq_take h.holds hle]
  have hbuf : collected s.ring.buf (.quiet s.pipe) s.ring.offset pkt.length =
      store s.ring.buf s.ring.offset (l.take k) := by
    rw [← hpeak, ← hk]
    rfl
  have := load_store_append s.ring.buf 0 s.ring.offset (l.take k)
  rwa [zero_add, length_take, min_eq_left hle, ← hbuf] at this

lemma Stream.Inv.bytes_split (k : ℕ) :
    (load s.ring.buf 0 s.ring.offset ++ l.take k) ++ (l.drop k ++ s.left) =
      pkt ++ rest.flatten := by
  rw [append_assoc, ← append_assoc (l.take k), take_append_drop]
  exact h.bytes

include hpass

lemma Stream.Inv.stored_holds {k : ℕ} (hk : taken (.quiet s.pipe) s.ring.offset pkt.length = k) :
    (s.pipe.stored pass).Holds (l.drop k) ∧
      (l.drop k).length + FIFO_FULL_RESERVE ≤ FIFO_SIZE := by
  have hroom := h.room
  rw [hpass.stored, hk]
  refine ⟨h.holds.advance ?_, ?_⟩
  · rw [← hk, h.taken_eq]
    exact min_le_left ..
  · rw [length_drop]
    omega

lemma Stream.Inv.received_whole (hle : pkt.length ≤ s.ring.offset + l.length) :
    (s.received pass).Inv (l.drop (pkt.length - s.ring.offset)) rest ∧
      pass.ring.offset = 0 ∧ pass.post = some pkt := by
  have hlt : s.ring.offset < pkt.length := h.offset_lt (by simp)
  have hk : taken (.quiet s.pipe) s.ring.offset pkt.length = pkt.length - s.ring.offset := by
    rw [h.taken_eq]
    omega
  obtain ⟨hoff, hpost⟩ := hpass.whole hk
  obtain ⟨hholds, hroom⟩ := h.stored_holds hpass hk
  have hload := h.load_collected hk
  rw [Nat.add_sub_cancel' hlt.le] at hload
  obtain ⟨hpkt, hrest⟩ := append_inj (h.bytes_split (pkt.length - s.ring.offset)) (by
    rw [length_append, length_load, length_take]
    omega)
  rw [hload, hpkt] at hpost
  refine ⟨⟨?_, fun p hp => h.formed p (.tail _ hp), hholds, hroom, ?_, ?_⟩, hoff, hpost⟩
  · change s.sent = (s.posted ++ pass.post.toList) ++ rest
    rw [hpost, h.sent, Option.toList_some, append_assoc, singleton_append]
  · change load pass.ring.buf 0 pass.ring.offset ++ _ = _
    rw [hoff, load_zero, nil_append]
    exact hrest
  · exact fun hne => absurd hoff hne

lemma Stream.Inv.received_part (hlt : s.ring.offset + l.length < pkt.length) :
    (s.received pass).Inv (l.drop l.length) (pkt :: rest) := by
  have hk : taken (.quiet s.pipe) s.ring.offset pkt.length = l.length := by
    rw [h.taken_eq]
    omega
  obtain ⟨hring, hpost⟩ := hpass.part (by omega)
  rw [hk] at hring
  obtain ⟨hholds, hroom⟩ := h.stored_holds hpass hk
  refine ⟨?_, h.formed, hholds, hroom, ?_, fun _ => ?_⟩
  · change s.sent = (s.posted ++ pass.post.toList) ++ _
    rw [hpost, Option.toList_none, append_nil]
    exact h.sent
  · change load pass.ring.buf 0 pass.ring.offset ++ _ = _
    rw [hring]
    rw [h.load_collected hk]
    exact h.bytes_split l.length
  · change pass.ring.offset < pass.ring.len ∧ pass.ring.len = pkt.length
    rw [hring]
    exact ⟨hlt, rfl⟩

/-- **A pass that goes on with the right packet** moves bytes from the FIFO to the buffer,
and posts the packet if that makes it whole. -/
theorem Stream.Inv.received (hl : l ≠ []) :
    ∃ k rest', 0 < k ∧ (s.received pass).Inv (l.drop k) rest' := by
  have hlt : s.ring.offset < pkt.length := h.offset_lt (by simp)
  rcases lt_or_ge (s.ring.offset + l.length) pkt.length with hpart | hwhole
  · exact ⟨_, _, length_pos_iff.mpr hl, h.received_part hpass hpart⟩
  · exact ⟨_, _, Nat.sub_pos_of_lt hlt, (h.received_whole hpass hwhole).1⟩

end

lemma received_nothing (s : Stream) (reads : List Access) :
    s.received ⟨s.ring, none, none, reads, []⟩ = s := by
  simp [Stream.received, Page.stored]

/-- A pass that knows its packet takes bytes of the right packet, or does nothing for
there are none or the header says no length. -/
lemma Stream.Inv.read (h : s.Inv l rest) (hknown : Known s .read) :
    (Haven.step s .read = s ∧
        (l ≠ [] → s.ring.offset = 0 ∧ ¬ ValidLen (peek_len s.pipe))) ∨
      ∃ k rest', 0 < k ∧ l ≠ [] ∧ (Haven.step s .read).Inv (l.drop k) rest' := by
  have havail : haven_rx_avail s.pipe = l.length := h.holds.rx_avail
  rw [Haven.step]
  by_cases hl : l = []
  · left
    have hzero : haven_rx_avail (Views.quiet s.pipe).cond = 0 := by
      rw [hl] at havail
      exact havail
    rw [qrtr_haven_read, if_pos hzero]
    exact ⟨received_nothing s [], fun hne => absurd hl hne⟩
  · have hpos : 0 < l.length := length_pos_iff.mpr hl
    have hne : haven_rx_avail s.pipe ≠ 0 := by omega
    -- the packet the bytes belong to
    obtain ⟨pkt, rest, rfl⟩ : ∃ pkt rest', rest = pkt :: rest' :=
      exists_cons_of_ne_nil (h.rest_ne_nil hl)
    have hlt : s.ring.offset < pkt.length := h.offset_lt (by simp)
    have hmax : pkt.length ≤ MAX_PKT_SZ := (h.formed pkt mem_cons_self).2
    by_cases hoff : s.ring.offset = 0
    · rw [read_eq_new hne hoff]
      by_cases hvalid : ValidLen (peek_len s.pipe)
      · right
        have hpeek := (hknown hne hoff).resolve_right (not_not.mpr hvalid)
        rw [h.next_eq] at hpeek
        have hcollects := read_new_collects_quiet hoff hpeek hmax
        rw [← hoff] at hcollects
        obtain ⟨k, rest', hk, hinv⟩ := h.received hcollects hl
        exact ⟨k, rest', hk, hl, hinv⟩
      · left
        rw [read_new_of_not_valid (v := .quiet s.pipe) _ hvalid]
        exact ⟨received_nothing s _, fun _ => ⟨hoff, hvalid⟩⟩
    · right
      have hlen : s.ring.len = pkt.length := (h.frag hoff).2
      have hcollects := read_frag_collects (.quiet s.pipe) (hlen ▸ hlt) (hlen ▸ hmax)
      rw [hlen] at hcollects
      rw [read_eq_frag hne hoff]
      obtain ⟨k, rest', hk, hinv⟩ := h.received hcollects hl
      exact ⟨k, rest', hk, hl, hinv⟩

lemma Stream.Inv.step (h : s.Inv l rest) (a : Act) (hknown : Known s a) :
    ∃ l' rest', (step s a).Inv l' rest' := by
  cases a with
  | send pkt =>
    rw [Haven.step]
    split
    · rename_i hleft
      exact ⟨_, _, h.send pkt hleft⟩
    · exact ⟨_, _, h⟩
  | write =>
    rw [Haven.step]
    split
    · exact ⟨_, _, h⟩
    · exact ⟨_, _, h.write⟩
  | read =>
    rcases h.read hknown with ⟨heq, -⟩ | ⟨k, rest', -, -, hinv⟩
    · rw [heq]
      exact ⟨_, _, h⟩
    · exact ⟨_, _, hinv⟩

/-! ## Progress -/

lemma Stream.Inv.peek_len_eq {pkt : List UInt8} (h : s.Inv l (pkt :: rest))
    (hoff : s.ring.offset = 0) (hlen : 8 ≤ l.length)
    (hlen1 : le (fun i => pkt.getD i 0) 0 1 = QRTR_PROTO_VER_1 → 24 ≤ l.length) :
    peek_len s.pipe = (pkt.length : ℤ) := by
  have hformed := h.formed pkt mem_cons_self
  obtain ⟨hpkt, hpkt1⟩ := hformed.length
  rw [hdr_v2_size] at hpkt
  rw [hdr_v1_size] at hpkt1
  have hbytes : l ++ s.left = pkt ++ rest.flatten := by
    have := h.bytes
    rwa [hoff, load_zero, nil_append] at this
  rw [← hformed.peek, peek_len, h.holds.peak]
  symm
  refine peek_congr (n := min (min l.length pkt.length) hdr_len) (fun i hi => ?_) ?_ ?_
  · have hi' : i < l.length ∧ i < pkt.length ∧ i < hdr_len := by omega
    obtain ⟨hil, hip, hih⟩ := hi'
    have hih' : i < (wrapLoad FIFO_SIZE s.pipe.fifo s.pipe.tail.toNat hdr_len).length := by
      rwa [length_wrapLoad]
    have hfirst : (wrapLoad FIFO_SIZE s.pipe.fifo s.pipe.tail.toNat hdr_len)[i] = l[i] := by
      rw [getElem_wrapLoad h.holds.indices.2 (by decide)]
      exact Option.some.inj (h.holds.slot i hil)
    rw [← getD_append pkt rest.flatten 0 i hip, ← hbytes, getD_append _ _ _ _ hil,
      getD_eq_getElem _ _ hih', getD_eq_getElem _ _ hil, hfirst]
  · rw [hdr_len]
    omega
  · intro hver
    rw [hdr_len]
    omega

def Stream.work (s : Stream) : ℕ := 2 * s.left.length + haven_rx_avail s.pipe

def Stream.CanWrite (s : Stream) : Prop := s.left ≠ [] ∧ haven_tx_avail s.pipe ≠ 0

variable (h : s.Inv l rest)
include h

lemma Stream.Inv.work_eq : s.work = 2 * s.left.length + l.length := by
  rw [Stream.work, h.holds.rx_avail]

lemma Stream.Inv.arrived (hl : l ≠ []) (hwrite : ¬ s.CanWrite)
    (hoff : s.ring.offset = 0) : ValidLen (peek_len s.pipe) := by
  obtain ⟨pkt, rest, rfl⟩ : ∃ pkt rest', rest = pkt :: rest' :=
    exists_cons_of_ne_nil (h.rest_ne_nil hl)
  have hformed := h.formed pkt mem_cons_self
  obtain ⟨hpkt, hpkt1⟩ := hformed.length
  rw [hdr_v2_size] at hpkt
  rw [hdr_v1_size] at hpkt1
  have hlong : pkt.length ≤ l.length ∨ 24 ≤ l.length := by
    by_cases hleft : s.left = []
    · left
      have := congrArg length h.bytes
      rw [hoff, load_zero, hleft, nil_append, append_nil, flatten_cons, length_append] at this
      omega
    · right
      have hzero : haven_tx_avail s.pipe = 0 := by
        by_contra hne
        exact hwrite ⟨hleft, hne⟩
      rw [h.holds.tx_avail h.room] at hzero
      have hspace : 24 + FIFO_FULL_RESERVE ≤ FIFO_SIZE := by decide
      omega
  have hpeek := h.peek_len_eq hoff (by omega) fun hver => by
    omega
  rw [hpeek]
  exact ⟨Int.natCast_nonneg _, Int.ofNat_le.mpr hformed.2⟩

lemma Stream.Inv.work_write :
    (s.CanWrite → (Haven.step s .write).work < s.work) ∧
      (¬ s.CanWrite → Haven.step s .write = s) := by
  constructor
  · rintro ⟨hleft, havail⟩
    have hpos : 0 < s.left.length := length_pos_iff.mpr hleft
    have hrest : s.write.left = s.left.drop (haven_tx_avail s.pipe) := by
      rw [(Stream.write_spec h.holds h.room).1]
    rw [Haven.step, if_neg hleft, h.write.work_eq, h.work_eq, hrest, length_append,
      length_take, length_drop]
    omega
  · intro hnot
    rw [Haven.step]
    split
    · rfl
    · rename_i hleft
      rw [Stream.write, if_pos]
      by_contra hne
      exact hnot ⟨hleft, hne⟩

lemma Stream.Inv.work_read (hknown : Known s .read) :
    (Haven.step s .read).work ≤ s.work ∧ (s.CanWrite → (Haven.step s .read).CanWrite) ∧
      (¬ s.CanWrite → s.work ≠ 0 → (Haven.step s .read).work < s.work) := by
  have hleft : (Haven.step s .read).left = s.left := rfl
  have hroom := h.room
  rcases h.read hknown with ⟨heq, hstuck⟩ | ⟨k, rest', hk, hl, hinv⟩
  · rw [heq]
    refine ⟨le_rfl, id, fun hwrite hwork => ?_⟩
    by_cases hl : l = []
    · -- an empty FIFO has room
      rw [h.work_eq, hl, length_nil] at hwork
      have hne : s.left ≠ [] := by
        intro hnil
        rw [hnil] at hwork
        exact hwork rfl
      have havail := h.holds.tx_avail h.room
      rw [hl] at havail
      exact absurd ⟨hne, havail ▸ (by decide)⟩ hwrite
    · obtain ⟨hoff, hnot⟩ := hstuck hl
      exact absurd (h.arrived hl hwrite hoff) hnot
  · have hpos : 0 < l.length := length_pos_iff.mpr hl
    have hless : (Haven.step s .read).work < s.work := by
      rw [hinv.work_eq, h.work_eq, hleft, length_drop]
      omega
    refine ⟨hless.le, fun hwrite => ⟨hleft ▸ hwrite.1, ?_⟩, fun _ _ => hless⟩
    have havail := hwrite.2
    rw [hinv.holds.tx_avail hinv.room, length_drop]
    omega

end Inv

lemma step_write_sent (s : Stream) : (step s .write).sent = s.sent := by
  rw [step, Stream.write]
  split_ifs <;> rfl

lemma step_read_sent (s : Stream) : (step s .read).sent = s.sent := rfl

section

variable {s : Stream} {acts : ℕ → Act}
  (hinv : ∀ t, ∃ l rest, (trace step s acts t).Inv l rest)
  (hacts : ∀ t, acts t = .write ∨ acts t = .read)
  (hknown : ∀ t, Known (trace step s acts t) (acts t))

include hinv hacts hknown

lemma canWrite_leadsTo (hwrite : Recurs acts (· = .write)) (n : ℕ) :
    LeadsTo (trace step s acts) (fun s => s.work = n ∧ s.CanWrite)
      (fun s => s.work < n) := by
  refine Fair.leadsTo_of_helpful ?_ ?_ hwrite
  · intro t hp hact
    obtain ⟨l, rest, hi⟩ := hinv t
    have hact := (hacts t).resolve_left hact
    obtain ⟨hle, hstill, -⟩ := hi.work_read (hact ▸ hknown t)
    have hnext : trace step s acts (t + 1) = step (trace step s acts t) .read := by
      rw [trace, hact]
    rw [hnext]
    rcases lt_or_eq_of_le hle with hlt | heq
    · exact .inl (hp.1 ▸ hlt)
    · exact .inr ⟨heq.trans hp.1, hstill hp.2⟩
  · rintro t ⟨rfl, hcan⟩ hact
    obtain ⟨l, rest, hi⟩ := hinv t
    rw [trace, hact]
    exact hi.work_write.1 hcan

lemma waiting_leadsTo (hread : Recurs acts (· = .read)) {n : ℕ} (hn : n ≠ 0) :
    LeadsTo (trace step s acts) (fun s => s.work = n ∧ ¬ s.CanWrite)
      (fun s => s.work < n) := by
  refine Fair.leadsTo_of_helpful ?_ ?_ hread
  · intro t hp hact
    obtain ⟨l, rest, hi⟩ := hinv t
    rw [trace, (hacts t).resolve_right hact, hi.work_write.2 hp.2]
    exact .inr hp
  · rintro t ⟨rfl, hcan⟩ hact
    obtain ⟨l, rest, hi⟩ := hinv t
    rw [trace, hact]
    exact (hi.work_read (hact ▸ hknown t)).2.2 hcan hn

lemma work_leadsTo_zero (hwrite : Recurs acts (· = .write))
    (hread : Recurs acts (· = .read)) (n : ℕ) :
    LeadsTo (trace step s acts) (fun s => s.work = n) (fun s => s.work = 0) := by
  induction n using Nat.strongRecOn with
  | ind n ih =>
    rcases eq_or_ne n 0 with rfl | hn
    · exact .refl _ _
    · intro t ht
      have hless : ∃ t' ≥ t, (trace step s acts t').work < n := by
        by_cases hcan : (trace step s acts t).CanWrite
        · exact canWrite_leadsTo hinv hacts hknown hwrite n t ⟨ht, hcan⟩
        · exact waiting_leadsTo hinv hacts hknown hread hn t ⟨ht, hcan⟩
      obtain ⟨t', hle, hlt⟩ := hless
      obtain ⟨t'', hle', hzero⟩ := ih _ hlt t' rfl
      exact ⟨t'', hle.trans hle', hzero⟩

omit hinv hknown in
lemma sent_trace (t : ℕ) : (trace step s acts t).sent = s.sent := by
  induction t with
  | zero => rfl
  | succ t ih =>
    rw [← ih, trace]
    rcases hacts t with hact | hact
    · rw [hact, step_write_sent]
    · rw [hact, step_read_sent]

end

/-- **Everything is posted** in every run in which sender and receiver both keep going and
each pass knows its packet. -/
theorem all_posted {acts : ℕ → Act} (h : ∃ l rest, s.Inv l rest)
    (hacts : ∀ t, acts t = .write ∨ acts t = .read)
    (hknown : ∀ t, Known (trace step s acts t) (acts t))
    (hwrite : Recurs acts (· = .write)) (hread : Recurs acts (· = .read)) :
    ∃ t, (trace step s acts t).posted = s.sent := by
  have hinv : ∀ t, ∃ l rest, (trace step s acts t).Inv l rest := by
    intro t
    induction t with
    | zero => exact h
    | succ t ih =>
      obtain ⟨l, rest, hi⟩ := ih
      exact hi.step _ (hknown t)
  obtain ⟨t, -, hzero⟩ := work_leadsTo_zero hinv hacts hknown hwrite hread _ 0 rfl
  obtain ⟨l, rest, hi⟩ := hinv t
  rw [Stream.work] at hzero
  have hleft : (trace step s acts t).left = [] := length_eq_zero_iff.mp (by omega)
  have hdone := hi.faithful.2 hleft (by omega)
  exact ⟨t, hdone.trans (sent_trace hacts t)⟩

/-! ## Every run -/

/-- **The haven transport is faithful** in every run of such passes; and if both sides
then keep going, all packets are posted. -/
theorem haven_stream_faithful (fifo : Mem) (acts : List Act)
    (hok : Run.Ok step Known (Stream.start fifo) acts) :
    (∀ pre, pre <+: acts → Faithful (exec step (Stream.start fifo) pre)) ∧
      ∀ more : ℕ → Act, (∀ t, more t = .write ∨ more t = .read) →
        (∀ t, Known (trace step (exec step (Stream.start fifo) acts) more t) (more t)) →
        Recurs more (· = .write) → Recurs more (· = .read) →
        ∃ t, (trace step (exec step (Stream.start fifo) acts) more t).posted =
          (exec step (Stream.start fifo) acts).sent := by
  have hreach : ∀ pre, pre <+: acts → ∃ l rest, (exec step (Stream.start fifo) pre).Inv l rest := by
    intro pre hpre
    refine Run.Ok.inv (I := fun s => ∃ l rest, Stream.Inv s l rest) ?_ ⟨_, _, inv_start fifo⟩
      (hok.of_prefix hpre)
    rintro s a ⟨l, rest, hi⟩ hknown
    exact hi.step a hknown
  constructor
  · intro pre hpre
    obtain ⟨l, rest, hi⟩ := hreach pre hpre
    exact hi.faithful
  · intro more hmore hknown hwrite hread
    exact all_posted (hreach acts prefix_rfl) hmore hknown hwrite hread

def data_packet (src_node size : ℕ) : List UInt8 :=
  [1, 0, 0, 0, 1, 0, 0, 0, .ofNat src_node, 0, 0, 0, 1, 0, 0, 0, 0, 0, 0, 0,
    .ofNat size, .ofNat (size / 256), 0, 0, 0, 0, 0, 0, 1, 0, 0, 0] ++ List.replicate size 0

lemma data_packet_length (src_node size : ℕ) : (data_packet src_node size).length = size + 32 := by
  simp [data_packet]

def short_packet : Packet := ⟨data_packet 1 8, by decide +kernel⟩

theorem short_packet_posted :
    (exec step (Stream.start fun _ => 0) [.send short_packet, .write, .read]).posted =
        [short_packet.1] ∧
      Faithful (exec step (Stream.start fun _ => 0) [.send short_packet, .write, .read]) := by
  refine ⟨by decide +kernel, (haven_stream_faithful _ _ ?_).1 _ prefix_rfl⟩
  exact ⟨trivial, trivial, fun _ _ => .inl (by decide +kernel), trivial⟩

/-! ## A packet cut in its header -/

theorem long_packet_formed : WellFormed (data_packet 4 16340) := by
  have hparse : parse_hdr (fun i => (data_packet 4 16340).getD i 0) (16340 + 32) =
      some (parse_v1 fun i => (data_packet 4 16340).getD i 0) := by
    have hver : le (fun i => (data_packet 4 16340).getD i 0) 0 1 = QRTR_PROTO_VER_1 := by
      decide +kernel
    simp only [parse_hdr]
    rw [if_pos hver, if_neg (by decide)]
  have hsize : (parse_v1 fun i => (data_packet 4 16340).getD i 0).size = 16340 := by
    decide +kernel
  rw [WellFormed, data_packet_length, hparse, Option.any_some, hsize]
  exact ⟨by decide, by decide⟩

def long_packet : Packet := ⟨data_packet 4 16340, long_packet_formed⟩

lemma Stream.Inv.read_whole {rest : List (List UInt8)}
    (h : s.Inv l (pkt :: rest)) (hoff : s.ring.offset = 0) (hle : pkt.length ≤ l.length) :
    (Haven.step s .read).Inv (l.drop pkt.length) rest ∧
      (Haven.step s .read).ring.offset = 0 ∧
      (Haven.step s .read).pipe.fifo = s.pipe.fifo ∧
      (Haven.step s .read).pipe.tail.toNat = (s.pipe.tail.toNat + pkt.length) % FIFO_SIZE := by
  have hformed := h.formed pkt mem_cons_self
  obtain ⟨hpkt, hpkt1⟩ := hformed.length
  rw [hdr_v2_size] at hpkt
  rw [hdr_v1_size] at hpkt1
  have hpeek := h.peek_len_eq hoff (by omega) fun hver => by
    omega
  have hcollects := read_new_collects_quiet hoff hpeek hformed.2
  have hne : haven_rx_avail s.pipe ≠ 0 := by
    rw [h.holds.rx_avail]
    omega
  have htail : (s.pipe.stored (qrtr_haven_read_new s.ring (.quiet s.pipe))).tail.toNat =
      (s.pipe.tail.toNat + pkt.length) % FIFO_SIZE := by
    rw [hcollects.stored, rx_advance_toNat, taken,
      show haven_rx_avail (Views.quiet s.pipe).avail = l.length from h.holds.rx_avail,
      Nat.sub_zero, min_eq_right hle]
  rw [← hoff] at hcollects
  obtain ⟨hinv, hring, -⟩ := h.received_whole hcollects (by omega)
  rw [hoff, Nat.sub_zero] at hinv
  rw [Haven.step, read_eq_new hne hoff]
  generalize qrtr_haven_read_new s.ring (.quiet s.pipe) = pass at *
  exact ⟨hinv, hring, rfl, htail⟩

lemma write_tail (s : Stream) : s.write.pipe.tail = s.pipe.tail := by
  rw [Stream.write]
  split <;> rfl

lemma Stream.Inv.send_write {rest : List (List UInt8)}
    (h : s.Inv l rest) (hleft : s.left = []) (pkt : Packet) {c : ℕ}
    (hc : l.length + c + FIFO_FULL_RESERVE = FIFO_SIZE) :
    ∃ s', exec Haven.step s [.send pkt, .write] = s' ∧
      s'.Inv (l ++ pkt.1.take c) (rest ++ [pkt.1]) ∧ s'.left = pkt.1.drop c ∧
      s'.ring = s.ring ∧ s'.pipe.tail = s.pipe.tail := by
  have hne : pkt.1 ≠ [] := by
    have := pkt.2.length.1
    rw [hdr_v2_size] at this
    rw [← length_pos_iff]
    omega
  have hsend := h.send pkt hleft
  have havail := hsend.holds.tx_avail hsend.room
  rw [show FIFO_SIZE - FIFO_FULL_RESERVE - l.length = c by omega] at havail
  have hwrite := hsend.write
  have heq := (Stream.write_spec hsend.holds hsend.room).1
  have htail := write_tail { s with left := pkt.1, sent := s.sent ++ [pkt.1] }
  rw [havail] at hwrite heq
  refine ⟨_, rfl, ?_⟩
  rw [exec_cons, exec_cons, exec_nil, Haven.step, if_pos hleft, Haven.step, if_neg hne]
  refine ⟨hwrite, ?_, ?_, htail⟩
  · rw [heq]
  · rw [heq]

/-- The sender of two packets, the second of which is cut after `c` bytes, when the first
has been read. -/
lemma exec_cut (fifo : Mem) (pkt pkt' : Packet) {c : ℕ}
    (hlen : pkt.1.length + c + FIFO_FULL_RESERVE = FIFO_SIZE) :
    ∃ s, exec step (Stream.start fifo) [.send pkt, .write, .send pkt', .write, .read] = s ∧
      s.Inv (pkt'.1.take c) [pkt'.1] ∧ s.ring.offset = 0 ∧ s.left = pkt'.1.drop c ∧
      s.pipe.tail.toNat = pkt.1.length ∧
      ∀ i (hi : i < pkt.1.length), s.pipe.fifo i = pkt.1[i] := by
  have hreserve : 0 < FIFO_FULL_RESERVE := by decide
  obtain ⟨s₁, hs₁, h₁, hleft₁, hring₁, htail₁⟩ :=
    (inv_start fifo).send_write rfl pkt (c := FIFO_SIZE - FIFO_FULL_RESERVE) (by decide)
  rw [take_of_length_le (by omega), nil_append, nil_append] at h₁
  rw [drop_of_length_le (by omega)] at hleft₁
  obtain ⟨s₂, hs₂, h₂, hleft₂, hring₂, htail₂⟩ := h₁.send_write hleft₁ pkt' hlen
  have hoff : s₂.ring.offset = 0 := by
    rw [hring₂, hring₁]
    rfl
  have htail : s₂.pipe.tail.toNat = 0 := by
    rw [htail₂, htail₁]
    rfl
  obtain ⟨h₃, hoff₃, hfifo₃, htail₃⟩ := h₂.read_whole hoff (by simp)
  rw [drop_left] at h₃
  refine ⟨step s₂ .read, ?_, h₃, hoff₃, hleft₂, ?_, fun i hi => ?_⟩
  · rw [show ([.send pkt, .write, .send pkt', .write, .read] : List Act) =
      [.send pkt, .write] ++ ([.send pkt', .write] ++ [.read]) from rfl,
      Run.exec_append, Run.exec_append, hs₁, hs₂]
    rfl
  · rw [htail₃, htail, zero_add, Nat.mod_eq_of_lt (by omega)]
  · have hi' : i < (pkt.1 ++ pkt'.1.take c).length := by
      rw [length_append]
      omega
    have hbyte : s₂.pipe.fifo ((s₂.pipe.tail.toNat + i) % FIFO_SIZE) =
        (pkt.1 ++ pkt'.1.take c)[i] := Option.some.inj (h₂.holds.slot i hi')
    rw [htail, zero_add, Nat.mod_eq_of_lt (by omega), getElem_append_left hi] at hbyte
    rw [hfifo₃, hbyte]

section

variable {s : Stream} {l : List UInt8} (h : s.pipe.Holds l)

include h

lemma read_of_long {n : ℕ} (hoff : s.ring.offset = 0) (hl : l.length ≠ 0)
    (hn : peek_len s.pipe = n) (hlt : l.length < n) (hmax : n ≤ MAX_PKT_SZ) :
    ∃ pipe buf, pipe.Holds [] ∧
      step s .read = { s with pipe, ring := ⟨buf, n, l.length⟩ } := by
  have hcollects := read_new_collects_quiet hoff hn hmax
  have htaken : taken (.quiet s.pipe) 0 n = l.length := by
    rw [taken, show haven_rx_avail (Views.quiet s.pipe).avail = l.length from h.rx_avail]
    omega
  obtain ⟨hring, hpost⟩ := hcollects.part (by omega)
  rw [htaken, zero_add] at hring
  refine ⟨s.pipe.stored (qrtr_haven_read_new s.ring (.quiet s.pipe)),
    collected s.ring.buf (.quiet s.pipe) 0 n, ?_, ?_⟩
  · rw [hcollects.stored, htaken, ← drop_length]
    exact h.advance (le_rfl)
  · rw [step, read_eq_new (by rwa [h.rx_avail]) hoff, Stream.received, hring, hpost,
      Option.toList_none, append_nil]

lemma read_of_short (hoff : s.ring.offset ≠ 0) (hlt : s.ring.offset < s.ring.len)
    (hmax : s.ring.len ≤ MAX_PKT_SZ) (hle : s.ring.len ≤ s.ring.offset + l.length) :
    ∃ pkt : List UInt8, pkt.length = s.ring.len ∧
      (step s .read).posted = s.posted ++ [pkt] := by
  have hcollects := read_frag_collects (.quiet s.pipe) hlt hmax
  have htaken : taken (.quiet s.pipe) s.ring.offset s.ring.len = s.ring.len - s.ring.offset := by
    rw [taken, show haven_rx_avail (Views.quiet s.pipe).avail = l.length from h.rx_avail]
    omega
  obtain ⟨-, hpost⟩ := hcollects.whole htaken
  refine ⟨_, length_load (collected s.ring.buf (.quiet s.pipe) s.ring.offset s.ring.len) 0 _, ?_⟩
  have hne : haven_rx_avail s.pipe ≠ 0 := by
    rw [h.rx_avail]
    omega
  rw [step, read_eq_frag hne hoff, Stream.received, hpost, Option.toList_some]

/-- **What follows from a wrong length** that is longer than what has arrived. -/
theorem posted_of_wrong_len {n : ℕ} (hoff : s.ring.offset = 0) (hl : l.length ≠ 0)
    (hn : peek_len s.pipe = n) (hlt : l.length < n) (hmax : n ≤ MAX_PKT_SZ)
    (hle : n ≤ l.length + s.left.length) (hfits : s.left.length + FIFO_FULL_RESERVE ≤ FIFO_SIZE) :
    ∃ pkt : List UInt8, pkt.length = n ∧
      (exec step s [.read, .write, .read]).posted = s.posted ++ [pkt] := by
  obtain ⟨pipe, buf, hpipe, hread⟩ := read_of_long h hoff hl hn hlt hmax
  rw [exec_cons, exec_cons, exec_cons, exec_nil, hread]
  -- the sender writes the rest
  have hleft : s.left ≠ [] := by
    rw [← length_pos_iff]
    omega
  have havail : haven_tx_avail pipe = FIFO_SIZE - FIFO_FULL_RESERVE := hpipe.tx_avail (by decide)
  obtain ⟨hwrite, hholds, -⟩ :=
    Stream.write_spec (s := { s with pipe, ring := ⟨buf, n, l.length⟩ }) hpipe (by decide)
  rw [nil_append, take_of_length_le (by dsimp only; omega)] at hholds
  rw [step, if_neg hleft, hwrite]
  exact read_of_short (s := ⟨_, _, ⟨buf, n, l.length⟩, _, _⟩) hholds hl hlt hmax hle

end

/-- **A packet cut in its header.** The receiver finds four bytes, peeks at 32, and takes the sender
of the first packet for the size of the second. -/
theorem haven_stream_misframed :
    ¬ Faithful (exec step (Stream.start fun _ => 0)
      [.send long_packet, .write, .send short_packet, .write, .read, .read, .write, .read]) := by
  have hlong : long_packet.1.length = 16372 := data_packet_length 4 16340
  have hshort : short_packet.1.length = 40 := data_packet_length 1 8
  obtain ⟨s, hs, h, hoff, hleft, htail, hfifo⟩ :=
    exec_cut (fun _ => 0) long_packet short_packet (c := 4) (by rw [hlong]; decide)
  have hl : (short_packet.1.take 4).length = 4 := by
    rfl
  have hdata : ∀ i < 32, (wrapLoad FIFO_SIZE s.pipe.fifo s.pipe.tail.toNat hdr_len).getD i 0 =
      s.pipe.fifo ((16372 + i) % FIFO_SIZE) := by
    intro i hi
    have hi' : i < (wrapLoad FIFO_SIZE s.pipe.fifo s.pipe.tail.toNat hdr_len).length := by
      rwa [length_wrapLoad]
    rw [getD_eq_getElem _ _ hi', getElem_wrapLoad h.holds.indices.2 (by decide), htail, hlong]
  -- the version is its own, the size is bytes 8 to 11 of the first packet
  have hver : s.pipe.fifo 16372 = 1 := by
    have := Option.some.inj (h.holds.slot 0 (by rw [hl]; decide))
    rwa [htail, hlong] at this
  have hsize : ∀ i < 4, s.pipe.fifo (8 + i) = [4, 0, 0, 0].getD (0 + i) 0 := by
    intro i hi
    rw [hfifo (8 + i) (by rw [hlong]; omega)]
    rcases i with _ | _ | _ | _ | i
    all_goals first | rfl | omega
  have hpeek : peek_len s.pipe = (36 : ℕ) := by
    rw [peek_len, h.holds.peak]
    generalize wrapLoad FIFO_SIZE s.pipe.fifo s.pipe.tail.toNat hdr_len = hdr at hdata
    have hle0 : le (fun i => hdr.getD i 0) 0 1 = QRTR_PROTO_VER_1 := by
      rw [le, le, hdata 0 (by decide), show (16372 + 0) % FIFO_SIZE = 16372 by decide, hver]
      rfl
    have hle20 : le (fun i => hdr.getD i 0) 20 4 = le (fun i => [4, 0, 0, 0].getD i 0) 0 4 := by
      refine le_congr fun i hi => ?_
      rw [← hsize i hi, hdata (20 + i) (by omega)]
      congr 1
      rw [FIFO_SIZE]
      omega
    simp only [qrtr_peek_pkt_size]
    rw [if_pos hle0, hle20]
    decide
  obtain ⟨pkt, hpkt, hposted⟩ := posted_of_wrong_len h.holds hoff (by rw [hl]; decide) hpeek
    (by rw [hl]; decide) (by decide) (by rw [hl, hleft, length_drop, hshort]; decide)
    (by rw [hleft, length_drop, hshort]; decide)
  rw [show ([.send long_packet, .write, .send short_packet, .write, .read, .read, .write, .read] :
      List Act) = [.send long_packet, .write, .send short_packet, .write, .read] ++
        [.read, .write, .read] from rfl, Run.exec_append, hs]
  rintro ⟨hposted_of, -⟩
  have hsent : (exec step s [.read, .write, .read]).sent = s.posted ++ [short_packet.1] := by
    rw [← h.sent, exec_cons, exec_cons, exec_cons, exec_nil, step_read_sent,
      step_write_sent, step_read_sent]
  rw [hposted, hsent, prefix_append_right_inj] at hposted_of
  obtain ⟨hcons, -⟩ := cons_prefix_cons.mp hposted_of
  rw [hcons, hshort] at hpkt
  exact absurd hpkt (by decide)

end KernelExtra.Qrtr.Haven
