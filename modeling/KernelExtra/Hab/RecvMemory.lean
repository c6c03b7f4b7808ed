/-
Memory safety of receiving and importing, against the machine at the other end.

`hab_msg_recv` allocates what the size in the header asks for, and three branches use the fields of
a struct in it, however small the object is.
-/
import KernelExtra.Hab.Import

namespace KernelExtra.Hab

open Bytes List

/-! ## Objects of the receiving side -/

variable {n : ℕ}

lemma length_read_le (rx : Rx) (hn : n < 2 ^ 32) : (physical_channel_read rx n).1.length ≤ n := by
  have hsize : (UInt32.ofNat n).toNat = n := by rw [UInt32.toNat_ofNat', Nat.mod_eq_of_lt hn]
  simp only [physical_channel_read, hab_pipe_read]
  cases hc : hab_pipe_read_copy rx.index rx.sh_buf (.ofNat n) with
  | none => exact Nat.zero_le n
  | some c =>
    have hlen := length_hab_pipe_read_copy_le hc
    rwa [hsize] at hlen

lemma read_inside (rx : Rx) {object off n : ℕ} (hn : n < 2 ^ 32) (hroom : off + n ≤ object) :
    (⟨object, off, (physical_channel_read rx n).1.length⟩ : Touch).Inside :=
  le_trans (Nat.add_le_add_left (length_read_le rx hn) off) hroom

section

variable {rx : Rx} {n : ℕ} (hn : n < 2 ^ 16) (alloc : Bool)

include hn

lemma safe_refuse (ret : Ret) : Safe (refuse rx n alloc ret).touches := by
  rw [refuse]
  split_ifs
  · cases alloc with
    | true => exact safe_cons.mpr ⟨read_inside rx (by omega) (by omega), safe_nil⟩
    | false => exact safe_nil
  · exact safe_nil

lemma safe_msg_alloc_queue_iff (marks : List (ℕ × List UInt8)) :
    Safe (hab_msg_alloc_queue rx n alloc marks).touches ↔
      (alloc = true → ∀ mark ∈ marks, mark.1 + mark.2.length ≤ n + 4) := by
  cases alloc with
  | false => exact iff_of_true safe_nil fun h => absurd h Bool.false_ne_true
  | true =>
    have hdata : (⟨sizeof_message + n, message_data, (physical_channel_read rx n).1.length⟩ :
        Touch).Inside := by
      refine read_inside rx (by omega) ?_
      unfold message_data sizeof_message
      omega
    have hhead (a : Access) (ha : a.Inside sizeof_message) :
        (⟨sizeof_message + n, a⟩ : Touch).Inside := le_trans ha (Nat.le_add_right ..)
    simp only [hab_msg_alloc_queue, if_true, safe_append, safe_cons, true_implies]
    constructor
    · rintro ⟨⟨-, hmarks⟩, -⟩ mark hmark
      have := hmarks _ (mem_map.mpr ⟨mark, hmark, rfl⟩)
      change message_data + mark.1 + mark.2.length ≤ sizeof_message + n at this
      unfold message_data sizeof_message at this
      omega
    · intro hmarks
      refine ⟨⟨⟨hdata, hhead ⟨16, 12⟩ (by decide), safe_nil⟩, ?_⟩, hhead ⟨0, 16⟩ (by decide),
        safe_nil⟩
      intro t ht
      obtain ⟨mark, hmark, rfl⟩ := mem_map.mp ht
      have := hmarks mark hmark
      change message_data + mark.1 + mark.2.length ≤ sizeof_message + n
      unfold message_data sizeof_message
      omega

lemma safe_create_export_ack : Safe (hab_receive_create_export_ack rx n alloc).touches := by
  cases alloc with
  | false => exact safe_nil
  | true =>
    rw [hab_receive_create_export_ack, if_pos rfl]
    by_cases hbig : n > sizeof_export_ack
    · rw [if_pos hbig]
      exact safe_nil
    · have hack : (⟨sizeof_export_ack_recvd, 0, (physical_channel_read rx n).1.length⟩ :
          Touch).Inside := by
        refine read_inside rx (by omega) ?_
        unfold sizeof_export_ack_recvd
        unfold sizeof_export_ack at hbig
        omega
      dsimp only
      split_ifs
      · exact safe_cons.mpr ⟨hack, safe_nil⟩
      · exact safe_cons.mpr ⟨hack, by decide⟩

end

lemma safe_open_request_add (rx : Rx) (alloc : Bool) (request_type : PayloadType) :
    Safe (open_request_add rx sizeof_open_send_data alloc request_type).touches := by
  cases alloc with
  | false => exact safe_nil
  | true =>
    have hxdata : (⟨sizeof_open_node, node_xdata,
        (physical_channel_read rx sizeof_open_send_data).1.length⟩ : Touch).Inside :=
      read_inside rx (by decide) (by decide)
    rw [open_request_add, if_pos rfl]
    dsimp only
    split_ifs
    · exact safe_cons.mpr ⟨hxdata, safe_nil⟩
    · exact safe_cons.mpr ⟨hxdata, by decide⟩

lemma safe_open_receive_cancel (rx : Rx) (alloc : Bool) :
    Safe (open_receive_cancel rx sizeof_open_send_data alloc).touches := by
  have hdata : (⟨sizeof_open_send_data, 0,
      (physical_channel_read rx sizeof_open_send_data).1.length⟩ : Touch).Inside :=
    read_inside rx (by decide) (by decide)
  rw [open_receive_cancel]
  dsimp only
  split_ifs <;> exact safe_cons.mpr ⟨hdata, safe_nil⟩

/-! ## Descriptors -/

lemma Desc.Importable.behind {bytes : List UInt8} {behind behind' : Mem}
    (h : (Desc.of bytes behind).Importable) : (Desc.of bytes behind').Importable := by
  have hmem {off n : ℕ} (hoff : off + n ≤ bytes.length) :
      le (Desc.of bytes behind').mem off n = le (Desc.of bytes behind).mem off n := by
    apply le_congr
    intro i hi
    have hlt : off + i < bytes.length := by omega
    simp [Desc.of, if_pos hlt]
  have hfields : exp_payload + 8 ≤ bytes.length := h.fields
  have hsize : (Desc.of bytes behind').pages_size = (Desc.of bytes behind).pages_size := by
    have hoff : exp_payload_count.off + 4 ≤ bytes.length := le_trans (by decide) hfields
    rw [Desc.pages_size, Desc.payload_count, hmem hoff]
    rfl
  have htable (hnonneg : 0 ≤ (Desc.of bytes behind).pages_size) :
      Desc.region (Desc.of bytes behind).nregions.toNat ≤ bytes.length := h.table hnonneg
  have hnregions (hnonneg : 0 ≤ (Desc.of bytes behind).pages_size) :
      (Desc.of bytes behind').nregions = (Desc.of bytes behind).nregions := by
    have hoff : exp_payload + 8 + 4 ≤ bytes.length :=
      le_trans (Nat.le_add_right ..) (htable hnonneg)
    rw [Desc.nregions, hmem hoff]
    rfl
  refine ⟨hfields, fun hnonneg => ?_, fun hnonneg => ?_⟩
  · rw [hsize] at hnonneg
    rw [hnregions hnonneg]
    exact htable hnonneg
  · rw [hsize] at hnonneg ⊢
    have hpages := h.pages hnonneg
    have htotal : (Desc.of bytes behind').total 0 (Desc.of bytes behind).nregions.toNat =
        (Desc.of bytes behind).total 0 (Desc.of bytes behind).nregions.toNat := by
      refine congrArg sum (map_congr_left fun j hj => ?_)
      rw [mem_range] at hj
      have hregion : Desc.region (0 + j) + 4 ≤ bytes.length := by
        refine le_trans ?_ (htable hnonneg)
        unfold Desc.region
        omega
      rw [Desc.region_size, hmem hregion]
      rfl
    rw [hnregions hnonneg, htotal]
    exact hpages

/-! ## Receiving and importing -/

/-- The call stays inside the objects it allocates, and so does an import of
the descriptor it hands on. -/
structure Outcome.MemorySafe (o : Outcome) : Prop where
  touches : Safe o.touches
  imports : ∀ bytes, o.effect = .export_desc bytes →
    ∀ behind c, Safe (hab_mem_import (Desc.of bytes behind) c).2

def delivered (pchan : Pchan) (luck : Luck) (header : Header) : Bool :=
  !header.payload_type.is_open && (hab_vchan_get pchan header).isSome && !luck.stopped && luck.alloc

/-- The objects are large enough for what is written into them, and the
descriptor can be imported. A message has four bytes of padding behind its payload. -/
def Harmless (rx : Rx) (header : Header) : Prop :=
  match header.payload_type with
  | .PROFILE => 32 ≤ header.sizebytes + 4
  | .SCHE_MSG | .SCHE_MSG_ACK => 8 ≤ header.sizebytes + 4
  | .EXPORT =>
    let bytes := (physical_channel_read rx header.sizebytes).1
    bytes.length = header.sizebytes → (Desc.of bytes fun _ => 0).Importable
  | _ => True

lemma memorySafe_of_touches {o : Outcome} (heffect : ∀ bytes, o.effect ≠ .export_desc bytes) :
    o.MemorySafe ↔ Safe o.touches :=
  ⟨fun h => h.touches, fun h => ⟨h, fun bytes hbytes => absurd hbytes (heffect bytes)⟩⟩

variable {rx : Rx}

lemma memorySafe_export_iff (hn : n < 2 ^ 16) (alloc : Bool) :
    (receive_export rx n alloc).MemorySafe ↔
      (alloc = true → (physical_channel_read rx n).1.length = n →
        (Desc.of (physical_channel_read rx n).1 fun _ => 0).Importable) := by
  cases alloc with
  | false =>
    refine iff_of_true ⟨safe_nil, fun bytes hbytes => ?_⟩ fun h => absurd h Bool.false_ne_true
    exact absurd hbytes (by intro h; cases h)
  | true =>
    have hread := @read_inside rx n 0 n (by omega) (by omega)
    generalize hbytes : (physical_channel_read rx n).1 = bytes at hread
    by_cases hlen : bytes.length = n
    · have heq : receive_export rx n true =
          { ret := .ok
            rx := (physical_channel_read rx n).2
            effect := .export_desc bytes
            touches := ⟨n, 0, bytes.length⟩ ::
              [exp_domid_remote, exp_domid_local, exp_pchan, exp_node, exp_export_id,
                exp_vcid_local, exp_vcid_remote].map (⟨n, ·⟩) } := by
        simp [receive_export, hbytes, hlen]
      rw [heq]
      constructor
      · rintro ⟨-, himports⟩ - -
        exact safe_import_iff.mp (himports bytes rfl _)
      · intro himportable
        have hdesc := himportable rfl hlen
        have hfields : exp_payload + 8 ≤ n := hlen ▸ hdesc.fields
        refine ⟨safe_cons.mpr ⟨hread, ?_⟩, fun bytes' hbytes' behind => ?_⟩
        · exact @safe_fields ⟨n, fun _ => 0⟩ hfields _ (by decide)
        · cases hbytes'
          exact safe_import_iff.mpr hdesc.behind
    · have heq : receive_export rx n true =
          ⟨.ok, (physical_channel_read rx n).2, .nothing, [⟨n, 0, bytes.length⟩]⟩ := by
        simp [receive_export, hbytes, hlen]
      rw [heq]
      refine iff_of_true ⟨safe_cons.mpr ⟨hread, safe_nil⟩, fun bytes' hbytes' => ?_⟩
        fun _ h => absurd h hlen
      cases hbytes'

lemma memorySafe_refuse (rx : Rx) (hn : n < 2 ^ 16) (alloc : Bool) (ret : Ret) :
    (refuse rx n alloc ret).MemorySafe := by
  refine (memorySafe_of_touches fun bytes hbytes => ?_).mpr (safe_refuse hn alloc ret)
  rw [refuse] at hbytes
  split_ifs at hbytes

lemma memorySafe_queue_iff (hn : n < 2 ^ 16) (alloc : Bool) (marks : List (ℕ × List UInt8)) :
    (hab_msg_alloc_queue rx n alloc marks).MemorySafe ↔
      (alloc = true → ∀ mark ∈ marks, mark.1 + mark.2.length ≤ n + 4) := by
  rw [memorySafe_of_touches, safe_msg_alloc_queue_iff hn]
  intro bytes hbytes
  cases alloc <;> cases hbytes

lemma memorySafe_dispatch_iff {luck : Luck} {header : Header}
    (hopen : header.payload_type.is_open = false) :
    (dispatch rx luck header.payload_type header.sizebytes).MemorySafe ↔
      (luck.alloc = true → Harmless rx header) := by
  have hn := header.sizebytes_lt
  rw [Harmless]
  generalize header.payload_type = payload_type at hopen
  cases payload_type with
  | MSG | SCHE_RESULT_REQ | SCHE_RESULT_RSP =>
    refine (memorySafe_queue_iff hn _ _).trans (iff_of_true ?_ fun _ => trivial)
    simp
  | PROFILE =>
    refine (memorySafe_queue_iff hn _ _).trans (imp_congr_right fun _ => ?_)
    simp only [mem_cons, not_mem_nil, or_false, forall_eq_or_imp, forall_eq, length_toLe]
    omega
  | SCHE_MSG | SCHE_MSG_ACK =>
    refine (memorySafe_queue_iff hn _ _).trans (imp_congr_right fun _ => ?_)
    simp only [mem_cons, not_mem_nil, or_false, forall_eq, length_toLe, zero_add]
  | EXPORT => exact memorySafe_export_iff hn luck.alloc
  | EXPORT_ACK =>
    refine iff_of_true ((memorySafe_of_touches ?_).mpr (safe_create_export_ack hn luck.alloc))
      fun _ => trivial
    intro bytes hbytes
    simp only [dispatch, hab_receive_create_export_ack] at hbytes
    split_ifs at hbytes
  | CLOSE | unknown =>
    refine iff_of_true ⟨safe_nil, fun bytes hbytes => ?_⟩ fun _ => trivial
    cases hbytes
  | INIT | INIT_ACK | INIT_DONE | INIT_CANCEL => exact absurd hopen (by decide)

lemma memorySafe_dispatch_open {luck : Luck} {payload_type : PayloadType}
    (hopen : payload_type.is_open = true) :
    (dispatch rx luck payload_type sizeof_open_send_data).MemorySafe := by
  cases payload_type with
  | INIT | INIT_ACK | INIT_DONE =>
    refine (memorySafe_of_touches ?_).mpr (safe_open_request_add rx luck.alloc _)
    intro bytes hbytes
    simp only [dispatch, open_request_add] at hbytes
    split_ifs at hbytes
  | INIT_CANCEL =>
    refine (memorySafe_of_touches ?_).mpr (safe_open_receive_cancel rx luck.alloc)
    intro bytes hbytes
    simp only [dispatch, open_receive_cancel] at hbytes
    split_ifs at hbytes
  | MSG | SCHE_RESULT_REQ | SCHE_RESULT_RSP | EXPORT | EXPORT_ACK | PROFILE | CLOSE | SCHE_MSG
  | SCHE_MSG_ACK | unknown => exact absurd hopen (by decide)

/-- **Receiving is memory safe**, and importing after it, exactly when a message that is
delivered is harmless. -/
theorem recv_memory_safe_iff (pchan : Pchan) (luck : Luck) (header : Header) :
    (hab_msg_recv pchan luck header).MemorySafe ↔
      (delivered pchan luck header = true → Harmless pchan.rx header) := by
  have hrefuse := memorySafe_refuse pchan.rx header.sizebytes_lt luck.alloc
  simp only [hab_msg_recv, delivered]
  cases hopen : header.payload_type.is_open with
  | true =>
    refine iff_of_true ?_ fun h => absurd h Bool.false_ne_true
    by_cases hsize : header.sizebytes ≠ sizeof_open_send_data
    · rw [if_pos rfl, if_pos hsize]
      exact hrefuse _
    · rw [if_pos rfl, if_neg hsize, not_not.mp hsize]
      exact memorySafe_dispatch_open hopen
  | false =>
    cases hvchan : hab_vchan_get pchan header with
    | none => exact iff_of_true (hrefuse _) fun h => absurd h Bool.false_ne_true
    | some vchan =>
      cases hstopped : luck.stopped with
      | true => exact iff_of_true (hrefuse _) fun h => absurd h Bool.false_ne_true
      | false => exact memorySafe_dispatch_iff hopen

theorem profile_written_outside : let header : Header := ⟨0x00160000, 7, HAB_HEAD_SIGNATURE, 1⟩
    header.payload_type = .PROFILE ∧ header.sizebytes = 0 ∧
      (⟨32, 52, 8⟩ : Touch) ∈ (hab_msg_recv one_channel in_luck header).touches ∧
      ¬ (hab_msg_recv one_channel in_luck header).MemorySafe := by
  refine ⟨by decide, by decide, by decide, fun h => ?_⟩
  exact absurd h.touches (by decide)

end KernelExtra.Hab
