/-
The hypervisor abstraction, `drivers/soc/qcom/hab`: messages.

A message is a header of four 32-bit words and as many bytes of payload as the header says. The
first word packs 16 bits of size, 4 of type, and 12 with the number of the virtual channel.
-/
import KernelExtra.Lib.Bytes

namespace KernelExtra.Hab

open Bytes List

/-! ## Types -/

/-- `enum hab_payload_type`. Four bits have room for three more values. -/
inductive PayloadType where
  | MSG | INIT | INIT_ACK | INIT_DONE | EXPORT | EXPORT_ACK | PROFILE | CLOSE | INIT_CANCEL
  | SCHE_MSG | SCHE_MSG_ACK | SCHE_RESULT_REQ | SCHE_RESULT_RSP
  | unknown
  deriving DecidableEq

def PayloadType.of : ℕ → PayloadType
  | 0 => .MSG
  | 1 => .INIT
  | 2 => .INIT_ACK
  | 3 => .INIT_DONE
  | 4 => .EXPORT
  | 5 => .EXPORT_ACK
  | 6 => .PROFILE
  | 7 => .CLOSE
  | 8 => .INIT_CANCEL
  | 9 => .SCHE_MSG
  | 10 => .SCHE_MSG_ACK
  | 11 => .SCHE_RESULT_REQ
  | 12 => .SCHE_RESULT_RSP
  | _ => .unknown

/-- The return values that matter. -/
inductive Ret where
  | ok | EINVAL | EAGAIN | EIO_ERROR | ENODEV | ENOMEM | EPROTO | EINTR | ETIMEDOUT
  deriving DecidableEq

def NSEC_PER_USEC : UInt64 := 1000

/-! ## Headers -/

def HAB_HEADER_SIZE_MASK : UInt32 := 0x0000FFFF
def HAB_HEADER_TYPE_MASK : UInt32 := 0x000F0000
def HAB_HEADER_ID_MASK : UInt32 := 0xFFF00000
def HAB_HEADER_TYPE_SHIFT : UInt32 := 16
def HAB_HEADER_ID_SHIFT : UInt32 := 20
def HAB_VCID_ID_MASK : UInt32 := 0x00000FFF

def HAB_HEAD_SIGNATURE : UInt32 := 0xBEE1BEE1

/-- The header of a message, as it lies in the pipe. -/
structure Header where
  id_type_size : UInt32
  session_id : UInt32
  signature : UInt32
  sequence : UInt32
  deriving DecidableEq

def Header.zero : Header := ⟨0, 0, 0, 0⟩

def sizeof_header : ℕ := 16

def HAB_VCID_GET_ID (vcid : UInt32) : UInt32 := vcid &&& HAB_VCID_ID_MASK

section

variable (header : Header)

def HAB_HEADER_SET_SIZE (size : UInt32) : Header :=
  { header with id_type_size :=
      (header.id_type_size &&& ~~~HAB_HEADER_SIZE_MASK) ||| (size &&& HAB_HEADER_SIZE_MASK) }

def HAB_HEADER_GET_SIZE : UInt32 :=
  header.id_type_size &&& HAB_HEADER_SIZE_MASK

def HAB_HEADER_GET_TYPE : UInt32 :=
  (header.id_type_size &&& HAB_HEADER_TYPE_MASK) >>> HAB_HEADER_TYPE_SHIFT

def HAB_HEADER_GET_ID : UInt32 :=
  ((header.id_type_size &&& HAB_HEADER_ID_MASK) >>> HAB_HEADER_ID_SHIFT) &&& HAB_VCID_ID_MASK

def Header.sizebytes : ℕ := (HAB_HEADER_GET_SIZE header).toNat

def Header.payload_type : PayloadType :=
  .of (HAB_HEADER_GET_TYPE header).toNat

end

variable (header : Header)

lemma Header.sizebytes_eq : header.sizebytes = header.id_type_size.toNat % 2 ^ 16 := by
  exact Nat.and_two_pow_sub_one_eq_mod _ 16

lemma Header.sizebytes_lt : header.sizebytes < 2 ^ 16 := by
  rw [Header.sizebytes_eq]
  omega

lemma sizebytes_set_size (size : UInt32) :
    (HAB_HEADER_SET_SIZE header size).sizebytes = size.toNat % 2 ^ 16 := by
  have hword : HAB_HEADER_GET_SIZE (HAB_HEADER_SET_SIZE header size) =
      size &&& HAB_HEADER_SIZE_MASK := by
    rw [HAB_HEADER_GET_SIZE, HAB_HEADER_SET_SIZE, ← UInt32.toBitVec_inj]
    apply BitVec.eq_of_getElem_eq
    intro i hi
    simp only [UInt32.toBitVec_and, UInt32.toBitVec_or, UInt32.toBitVec_not, BitVec.getElem_and,
      BitVec.getElem_or, BitVec.getElem_not]
    cases HAB_HEADER_SIZE_MASK.toBitVec[i] <;> simp
  rw [Header.sizebytes, hword, UInt32.toNat_and]
  exact Nat.and_two_pow_sub_one_eq_mod _ 16

/-! ## Bytes -/

def Header.bytes (header : Header) : List UInt8 :=
  toLe 4 header.id_type_size.toNat ++ toLe 4 header.session_id.toNat ++
    toLe 4 header.signature.toNat ++ toLe 4 header.sequence.toNat

def word (l : List UInt8) (off : ℕ) : UInt32 := .ofNat (le (fun i => l.getD i 0) off 4)

def Header.ofBytes (l : List UInt8) : Header := ⟨word l 0, word l 4, word l 8, word l 12⟩

@[simp] lemma Header.length_bytes : header.bytes.length = sizeof_header := by
  rfl

lemma word_toLe {l : List UInt8} (front : List UInt8) {back : List UInt8} {x : UInt32}
    (hl : l = front ++ (toLe 4 x.toNat ++ back)) :
    word l front.length = x := by
  have hlt : x.toNat < 256 ^ 4 := lt_of_lt_of_le x.toNat_lt (by norm_num)
  rw [word, hl, le_getD_toLe, Nat.mod_eq_of_lt hlt, UInt32.ofNat_toNat]

/-- **A header is read as it was written.** -/
theorem Header.ofBytes_bytes : Header.ofBytes header.bytes = header := by
  set id := toLe 4 header.id_type_size.toNat with hid
  set session := toLe 4 header.session_id.toNat with hsession
  set sign := toLe 4 header.signature.toNat with hsign
  set seq := toLe 4 header.sequence.toNat with hseq
  have hbytes : header.bytes = id ++ (session ++ (sign ++ seq)) := by
    rw [Header.bytes, append_assoc, append_assoc]
  have h0 := word_toLe [] hbytes
  have h4 := word_toLe id hbytes
  have h8 : word header.bytes (id ++ session).length = header.signature :=
    @word_toLe _ _ seq _ (by rw [hbytes, append_assoc])
  have h12 : word header.bytes (id ++ session ++ sign).length = header.sequence :=
    @word_toLe _ _ [] _ (by rw [hbytes, append_assoc, append_assoc, append_nil])
  simp only [length_append, length_nil, hid, hsession, hsign, length_toLe] at h0 h4 h8 h12
  rw [Header.ofBytes, h0, h4, h8, h12]

end KernelExtra.Hab
