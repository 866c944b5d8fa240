import Contest.Crystal

/-!
# STUN headers

`Stun::StunHeader`: the twenty bytes in front of the attributes of a STUN message.
-/

namespace Contest
namespace Stun

/-- `Stun::StunHeader`. -/
structure StunHeader where
  /-- The type of the message. -/
  msgType : UInt16
  /-- The number of bytes after the header. -/
  length : UInt16
  /-- The magic cookie. -/
  magicCookie : UInt32
  /-- The transaction id. -/
  transactionId : Bytes
  /-- A transaction id has 96 bits. -/
  sized : transactionId.length = 12

namespace StunHeader

/-- `BINDING_REQ_VALUE`. -/
def bindingReqValue : UInt16 := 0x0001

/-- `MAGIC_COOKIE`. -/
def magicCookieValue : UInt32 := 0x2112a442

/-- `StunHeader.new`. -/
def new (data : Bytes) : Fallible StunHeader := do
  let msgType ← slice data 0 2 >>= decodeUInt16
  let length ← slice data 2 2 >>= decodeUInt16
  let magicCookie ← slice data 4 4 >>= decodeUInt32
  let transactionId ← sizedSlice data 8 12
  if magicCookie ≠ magicCookieValue ∨ msgType ≠ bindingReqValue ∨
      length.toNat ≠ data.length - 20 then
    .error .invalidStunMessage
  else .ok ⟨msgType, length, magicCookie, transactionId.val, transactionId.property⟩

/-- `serialize`. -/
def serialize (header : StunHeader) : Memory :=
  (((Memory.new.write (encodeUInt16 header.msgType)).write (encodeUInt16 header.length)).write
    (encodeUInt32 header.magicCookie)).write header.transactionId

theorem bytes_serialize (header : StunHeader) :
    header.serialize.bytes = encodeUInt16 header.msgType ++ (encodeUInt16 header.length ++
      (encodeUInt32 header.magicCookie ++ header.transactionId)) := by
  have empty : Memory.new = .ofBytes [] := rfl
  simp only [serialize, empty, Memory.write_ofBytes, List.nil_append, List.append_assoc]
  rfl

/-- The twenty bytes of a header, field by field. -/
theorem take_header (data : Bytes) :
    data.take 20 = (data.drop 0).take 2 ++ ((data.drop 2).take 2 ++
      ((data.drop 4).take 4 ++ (data.drop 8).take 12)) := by
  have fields : 20 = 2 + (2 + (4 + 12)) := rfl
  rw [fields, List.take_add, List.take_add, List.take_add]
  simp only [List.drop_drop, List.drop_zero]

/-- A header is accepted when it is that of a binding request with the length of what follows it,
and it is written as the bytes that it was read from. -/
theorem new_eq_ok_iff {data : Bytes} {header : StunHeader} :
    new data = .ok header ↔ 20 ≤ data.length ∧ header.msgType = bindingReqValue ∧
      header.magicCookie = magicCookieValue ∧ header.length.toNat = data.length - 20 ∧
        header.serialize.bytes = data.take 20 := by
  constructor
  · intro accepted
    obtain ⟨msgType, read_type, accepted⟩ := bind_eq_ok.mp accepted
    obtain ⟨length, read_length, accepted⟩ := bind_eq_ok.mp accepted
    obtain ⟨magicCookie, read_cookie, accepted⟩ := bind_eq_ok.mp accepted
    obtain ⟨transactionId, read_id, accepted⟩ := bind_eq_ok.mp accepted
    obtain ⟨enough, id_bytes⟩ := sizedSlice_eq_ok.mp read_id
    split at accepted
    · simp at accepted
    · rename_i valid
      obtain rfl : _ = header := Except.ok.inj accepted
      simp only [not_or, not_not] at valid
      obtain ⟨cookie, kind, counted⟩ := valid
      refine ⟨enough, kind, cookie, counted, ?_⟩
      rw [bytes_serialize, take_header, ← id_bytes, (readUInt16_eq_ok.mp read_type).2,
        (readUInt16_eq_ok.mp read_length).2, (readUInt32_eq_ok.mp read_cookie).2]
  · rintro ⟨enough, kind, cookie, counted, bytes⟩
    obtain ⟨msgType, length, magicCookie, transactionId, sized⟩ := header
    rw [bytes_serialize, take_header] at bytes
    have two : ∀ start, start ≤ 18 → ((data.drop start).take 2).length = 2 := by
      intro start inside
      rw [List.length_take, List.length_drop]
      omega
    have four : ((data.drop 4).take 4).length = 4 := by
      rw [List.length_take, List.length_drop]
      omega
    obtain ⟨type_bytes, bytes⟩ := List.append_inj bytes (two 0 (by omega)).symm
    obtain ⟨length_bytes, bytes⟩ := List.append_inj bytes (two 2 (by omega)).symm
    obtain ⟨cookie_bytes, id_bytes⟩ := List.append_inj bytes four.symm
    have read_id : sizedSlice data 8 12 = .ok ⟨transactionId, sized⟩ :=
      sizedSlice_eq_ok.mpr ⟨enough, id_bytes⟩
    refine bind_eq_ok.mpr ⟨msgType, readUInt16_eq_ok.mpr ⟨by omega, type_bytes.symm⟩, ?_⟩
    refine bind_eq_ok.mpr ⟨length, readUInt16_eq_ok.mpr ⟨by omega, length_bytes.symm⟩, ?_⟩
    refine bind_eq_ok.mpr ⟨magicCookie, readUInt32_eq_ok.mpr ⟨by omega, cookie_bytes.symm⟩, ?_⟩
    refine bind_eq_ok.mpr ⟨_, read_id, if_neg ?_⟩
    rintro (other | other | other)
    · exact other cookie
    · exact other kind
    · exact other counted

/-- A header is accepted with the magic cookie and with the length of what follows it. -/
theorem new_eq_ok {data : Bytes} {header : StunHeader} (accepted : new data = .ok header) :
    20 ≤ data.length ∧ header.length.toNat = data.length - 20 ∧
      header.magicCookie = magicCookieValue := by
  obtain ⟨enough, -, cookie, counted, -⟩ := new_eq_ok_iff.mp accepted
  exact ⟨enough, counted, cookie⟩

end StunHeader
end Stun
end Contest
