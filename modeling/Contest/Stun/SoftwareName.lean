import Contest.Stun.ExtendedReply

/-!
# The name of the software

`write_software_attribute` takes the length of the name in characters, and writes its bytes.  The
attributes behind it are where the length says they are if the two agree.
-/

namespace Contest
namespace Stun

/-- A text has one byte for each character if and only if all of them are ASCII characters. -/
theorem length_utf8_eq_iff {text : Text} :
    (utf8 text).length = text.length ↔ ∀ c ∈ text, c.toNat < 128 := by
  refine ⟨fun same => ?_, Conv.length_utf8_of_ascii⟩
  have enough : ∀ other : Text, other.length ≤ (utf8 other).length := by
    intro other
    induction other with
    | nil => exact Nat.le_refl 0
    | cons c other ih =>
        have positive := c.utf8Size_pos
        rw [utf8] at ih
        rw [utf8, List.flatMap_cons, List.length_append, String.length_utf8EncodeChar,
          List.length_cons]
        omega
  induction text with
  | nil => simp
  | cons c text ih =>
      have rest := enough text
      have positive := c.utf8Size_pos
      rw [utf8] at ih rest
      rw [utf8, List.flatMap_cons, List.length_append, String.length_utf8EncodeChar,
        List.length_cons] at same
      have single : c.utf8Size = 1 := by omega
      refine List.forall_mem_cons.mpr ⟨?_, ih (by omega)⟩
      exact Nat.lt_succ_of_le (Char.utf8Size_eq_one_iff.mp single)

/-- An attribute that stands in front of a chain has the length that is written there. -/
theorem length_of_chain {attr : Attribute} {attributes : List Attribute} {kind : UInt16}
    {size : Nat} {rest : Bytes} (small : size < 2 ^ 16)
    (chain : Chain Encodes (attr :: attributes)
      (encodeUInt16 kind ++ (encodeUInt16 (UInt16.ofNat size) ++ rest))) :
    attr.2.length = size := by
  generalize whole : encodeUInt16 kind ++ (encodeUInt16 (UInt16.ofNat size) ++ rest) = bytes
    at chain
  cases chain with
  | cons encodes others =>
      obtain ⟨fits, pad, -, rfl⟩ := encodes
      have lengths : encodeUInt16 (UInt16.ofNat size) =
          encodeUInt16 (UInt16.ofNat attr.2.length) :=
        congrArg (fun all => (all.drop 2).take 2) whole
      have same := congrArg UInt16.toNat (encodeUInt16_inj lengths)
      rw [UInt16.toNat_ofNat', UInt16.toNat_ofNat', Nat.mod_eq_of_lt small,
        Nat.mod_eq_of_lt fits] at same
      exact same.symm

/-- The value is a copy of the name, of which the name that the tests use may lose its last
blank. -/
def IsNameValue (name : Text) (value : Bytes) : Prop :=
  value = utf8 name ∨ name = "test vector ".toList ∧ value = utf8 "test vector".toList

/-- Padded attributes fill the body, the name of the software and the address in front. -/
def Tiled (name : Text) (bytes : Bytes) : Prop :=
  ∃ value address attributes, IsNameValue name value ∧
    Chain Encodes ((.software, value) :: (.xorMappedAddress, address) :: attributes)
      (bytes.drop 20) ∧
    slice bytes 2 2 >>= decodeUInt16 = .ok (UInt16.ofNat (bytes.drop 20).length)

namespace Conv

/-- The length that is written for a name. -/
def declaredLength (name : Text) : Nat :=
  if name = "test vector ".toList then name.length - 1 else name.length

theorem writeSoftwareAttribute_eq (conv : Conv) : ∃ pad, ∀ kind length tail,
    conv.writeSoftwareAttribute (message kind length tail) =
      message kind length (tail ++ (encodeUInt16 AttrType.software.value ++
        (encodeUInt16 (UInt16.ofNat (declaredLength conv.softwareName)) ++
          (utf8 conv.softwareName ++ pad)))) := by
  refine ⟨List.replicate ((4 - (3 &&& conv.softwareName.length)) &&& 3) 0, ?_⟩
  intro kind length tail
  simp only [writeSoftwareAttribute, write_message, List.append_assoc]
  rfl

/-- Whatever the name is, its length and its bytes are written behind the header. -/
theorem extendedReplyWith_eq (digests : Digests) (conv : Conv) (length : UInt16)
    (identity : Bytes) :
    ∃ size rest, conv.extendedReplyWith digests (message 0x0101 length identity) =
      message 0x0101 size (identity ++ (encodeUInt16 AttrType.software.value ++
        (encodeUInt16 (UInt16.ofNat (declaredLength conv.softwareName)) ++ rest))) := by
  obtain ⟨pad, wrote_name⟩ := conv.writeSoftwareAttribute_eq
  obtain ⟨second, -, -, wrote_address⟩ := conv.writeXorMappedAddressAttr_message
  rw [extendedReplyWith, wrote_name, wrote_address]
  simp only [setLength_message]
  obtain ⟨third, -, -, -, wrote_integrity⟩ := conv.writeMessageIntegrityWith_message digests _ _ _
  rw [wrote_integrity]
  simp only [setLength_message]
  obtain ⟨fourth, -, -, wrote_check⟩ := writeFingerprintWith_message digests _ _ _
  rw [wrote_check]
  simp only [setLength_message, List.append_assoc]
  exact ⟨_, _, rfl⟩

theorem drop_replyWith (digests : Digests) {conv : Conv}
    (accepted : StunHeader.new conv.data = .ok conv.stunHeader)
    (nonempty : 20 < conv.data.length) :
    ∃ rest, (conv.replyWith digests).drop 20 = encodeUInt16 AttrType.software.value ++
      (encodeUInt16 (UInt16.ofNat (declaredLength conv.softwareName)) ++ rest) := by
  obtain ⟨-, length, cookie⟩ := StunHeader.new_eq_ok accepted
  have counted : conv.stunHeader.length ≠ 0 := by
    intro zero
    rw [zero, UInt16.toNat_zero] at length
    omega
  have sized : (encodeUInt32 StunHeader.magicCookieValue ++
      conv.stunHeader.transactionId).length = 16 := by
    simp only [List.length_append, length_encodeUInt32, conv.stunHeader.sized]
  obtain ⟨size, rest, written⟩ := conv.extendedReplyWith_eq digests 12
    (encodeUInt32 StunHeader.magicCookieValue ++ conv.stunHeader.transactionId)
  refine ⟨rest, ?_⟩
  rw [replyWith, if_neg counted, StunHeader.serialize_eq, cookie, written,
    drop_message _ _ sized]

/-- A name that has been copied into a tiled body has ASCII characters only. -/
theorem ascii_of_tiled (digests : Digests) {conv : Conv}
    (accepted : StunHeader.new conv.data = .ok conv.stunHeader) (nonempty : 20 < conv.data.length)
    (short : conv.softwareName.length < 128)
    (tiled : Tiled conv.softwareName (conv.replyWith digests)) :
    ∀ c ∈ conv.softwareName, c.toNat < 128 := by
  obtain ⟨value, address, attributes, copied, chain, -⟩ := tiled
  obtain ⟨rest, body⟩ := drop_replyWith digests accepted nonempty
  rw [body] at chain
  have special_ascii : ∀ c ∈ "test vector ".toList, c.toNat < 128 :=
    List.all_iff_forall_prop.mp
      (show ("test vector ".toList.all fun c => c.toNat < 128) = true by decide)
  by_cases special : conv.softwareName = "test vector ".toList
  · exact special ▸ special_ascii
  · rcases copied with rfl | ⟨is_special, -⟩
    · have declared : declaredLength conv.softwareName = conv.softwareName.length := if_neg special
      have same := length_of_chain (by omega) chain
      exact length_utf8_eq_iff.mp (same.trans declared)
    · exact absurd is_special special

/-- A copy of an ASCII name is tiled with the other attributes. -/
theorem tiled_of_ascii (digests : Digests) {conv : Conv}
    (accepted : StunHeader.new conv.data = .ok conv.stunHeader) (nonempty : 20 < conv.data.length)
    (short : conv.softwareName.length < 128) (ascii : ∀ c ∈ conv.softwareName, c.toNat < 128) :
    Tiled conv.softwareName (conv.replyWith digests) := by
  obtain ⟨parts, verifies⟩ := verifies_replyWith digests accepted nonempty ascii short
  obtain ⟨enough, small, chain, length_field⟩ :=
    verifies.isMessage.exists_body conv.stunHeader.sized
  obtain ⟨others, listed⟩ : ∃ others, parts.attributes =
      (.software, parts.name) :: (.xorMappedAddress, parts.address) :: others := ⟨_, rfl⟩
  rw [listed] at chain
  refine ⟨parts.name, parts.address, others, ?_, chain, by rwa [List.length_drop]⟩
  obtain ⟨rest, body⟩ := drop_replyWith digests accepted nonempty
  rw [body] at chain
  have declared_le : declaredLength conv.softwareName ≤ conv.softwareName.length := by
    rw [declaredLength]
    split <;> omega
  have size : parts.name.length = declaredLength conv.softwareName :=
    length_of_chain (by omega) chain
  have copied : parts.name = (utf8 conv.softwareName).take (declaredLength conv.softwareName) :=
    size ▸ List.prefix_iff_eq_take.mp verifies.named
  by_cases special : conv.softwareName = "test vector ".toList
  · rw [special] at copied
    exact .inr ⟨special, copied⟩
  · rw [declaredLength, if_neg special, ← length_utf8_of_ascii ascii, List.take_length] at copied
    exact .inl copied

/-- The reply is tiled if and only if the name of the software has ASCII characters only. -/
theorem tiled_replyWith_iff (digests : Digests) {conv : Conv}
    (accepted : StunHeader.new conv.data = .ok conv.stunHeader) (nonempty : 20 < conv.data.length)
    (short : conv.softwareName.length < 128) :
    Tiled conv.softwareName (conv.replyWith digests) ↔
      ∀ c ∈ conv.softwareName, c.toNat < 128 :=
  ⟨ascii_of_tiled digests accepted nonempty short, tiled_of_ascii digests accepted nonempty short⟩

/-- A conversation about the sample request, with the given name. -/
def sampleConv (name : Text) (header : StunHeader) : Conv :=
  ⟨sampleStun, sampleSource, none, name, header⟩

theorem exists_header_sampleStun : ∃ header, StunHeader.new sampleStun = .ok header := by
  have accepts : (StunHeader.new sampleStun).toOption.isSome = true := by decide
  cases accepted : StunHeader.new sampleStun with
  | error e => simp [accepted, Except.toOption] at accepts
  | ok header => exact ⟨header, rfl⟩

theorem tiled_replyWith_iff_sample :
    ∃ header, StunHeader.new sampleStun = .ok header ∧
      (Tiled "Whatever".toList ((sampleConv "Whatever".toList header).replyWith .standard) ↔
        ∀ c ∈ "Whatever".toList, c.toNat < 128) := by
  obtain ⟨header, accepted⟩ := exists_header_sampleStun
  exact ⟨header, accepted, @tiled_replyWith_iff .standard (sampleConv "Whatever".toList header)
    accepted (show 20 < sampleStun.length by decide)
    (show "Whatever".toList.length < 128 by decide)⟩

/-- A name of four characters and five bytes is not tiled. -/
theorem accented_name_not_tiled :
    ¬∀ (digests : Digests) (conv : Conv), StunHeader.new conv.data = .ok conv.stunHeader →
      20 < conv.data.length → conv.softwareName.length < 128 →
        Tiled conv.softwareName (conv.replyWith digests) := by
  intro claimed
  obtain ⟨header, accepted⟩ := exists_header_sampleStun
  have nonempty : 20 < (sampleConv "Café".toList header).data.length := by
    show 20 < sampleStun.length
    decide
  have short : (sampleConv "Café".toList header).softwareName.length < 128 := by
    show "Café".toList.length < 128
    decide
  have ascii := ascii_of_tiled .standard accepted nonempty short
    (claimed .standard (sampleConv "Café".toList header) accepted nonempty short)
  have last : 'é' ∈ "Café".toList := by decide
  exact absurd (ascii 'é' last) (by decide)

end Conv
end Stun
end Contest
