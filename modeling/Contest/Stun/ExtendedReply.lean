import Contest.Stun.Attributes

/-!
# Extended STUN replies

The reply to a request with attributes is checked by the client: its address behind the magic
cookie, the keyed hash of everything before MESSAGE-INTEGRITY and the checksum of everything before
FINGERPRINT.  The length field is written anew before each of them, so that each covers the length
that the client puts there.  The hash and the checksum are parameters here.
-/

namespace Contest
namespace Stun

/-- The bytes are a message of the given kind with the given attributes. -/
def IsMessage (kind : UInt16) (transactionId : Bytes) (attributes : List Attribute)
    (bytes : Bytes) : Prop :=
  ∃ body, body.length < 2 ^ 16 ∧ Chain Encodes attributes body ∧
    bytes = encodeUInt16 kind ++ (encodeUInt16 (UInt16.ofNat body.length) ++
      (encodeUInt32 StunHeader.magicCookieValue ++ transactionId ++ body))

/-- The start of a message, with the position at its end. -/
def message (kind length : UInt16) (tail : Bytes) : Memory :=
  .ofBytes (encodeUInt16 kind ++ (encodeUInt16 length ++ tail))

@[simp]
theorem write_message (kind length : UInt16) (tail part : Bytes) :
    (message kind length tail).write part = message kind length (tail ++ part) := by
  simp only [message, Memory.write_ofBytes, List.append_assoc]

@[simp]
theorem size_message (kind length : UInt16) (tail : Bytes) :
    (message kind length tail).size = 4 + tail.length := by
  simp only [message, Memory.size_ofBytes, List.length_append, length_encodeUInt16]
  omega

theorem StunHeader.serialize_eq (header : StunHeader) :
    header.serialize = message header.msgType header.length
      (encodeUInt32 header.magicCookie ++ header.transactionId) := by
  have empty : Memory.new = .ofBytes [] := rfl
  simp only [StunHeader.serialize, empty, Memory.write_ofBytes, message, List.nil_append,
    List.append_assoc]

/-- The digests that a reply rests on. -/
structure Digests where
  /-- HMAC-SHA1 of a message with a key. -/
  hmacSha1 : Bytes → Bytes → Bytes
  /-- It has 20 bytes. -/
  length_hmacSha1 : ∀ key message, (hmacSha1 key message).length = 20
  /-- CRC-32. -/
  crc32 : Bytes → UInt32

/-- The digests of the libraries in use. -/
def Digests.standard : Digests where
  hmacSha1 := Digest.hmac Digest.sha1
  length_hmacSha1 := Digest.length_hmac_sha1
  crc32 := Digest.crc32

namespace Conv

section With

variable (digests : Digests)

/-- `write_message_integrity`, with the given hash. -/
def writeMessageIntegrityWith (conv : Conv) (io : Memory) : Memory :=
  match conv.password with
  | none => io
  | some password =>
      let msgIntegrityBytes := digests.hmacSha1 (utf8 password) io.bytes
      let io := io.write (encodeUInt16 AttrType.messageIntegrity.value)
      let io := io.write (encodeUInt16 20)
      io.write msgIntegrityBytes

/-- `write_fingerprint`, with the given checksum. -/
def writeFingerprintWith (io : Memory) : Memory :=
  let xorCrc32 := digests.crc32 io.bytes ^^^ 0x5354554e
  let io := io.write (encodeUInt16 AttrType.fingerprint.value)
  let io := io.write (encodeUInt16 4)
  io.write (encodeUInt32 xorCrc32)

/-- The extended reply, with the given digests. -/
def extendedReplyWith (conv : Conv) (dataIo : Memory) : Memory :=
  let dataIo := conv.writeXorMappedAddressAttr (conv.writeSoftwareAttribute dataIo)
  let dataIo := conv.writeMessageIntegrityWith digests (setLength dataIo (dataIo.size + 4))
  let dataIo := writeFingerprintWith digests (setLength dataIo (dataIo.size - 0x0c))
  setLength dataIo (dataIo.size - 0x14)

/-- `reply`, with the given digests. -/
def replyWith (conv : Conv) : Bytes :=
  let replyHeader := { conv.stunHeader with msgType := 0x0101, length := 12 }
  let dataIo := replyHeader.serialize
  if conv.stunHeader.length = 0 then (conv.basicReply dataIo).bytes
  else (conv.extendedReplyWith digests dataIo).bytes

end With

/-- What is sent uses the digests of the libraries. -/
theorem replyWith_standard (conv : Conv) : conv.replyWith .standard = conv.reply := rfl

@[simp]
theorem setLength_message (kind length : UInt16) (tail : Bytes) (size : Nat) :
    setLength (message kind length tail) size = message kind (UInt16.ofNat size) tail := rfl

end Conv

/-- One byte of a word. -/
def octet (shift : Nat) (word : UInt32) : UInt8 := UInt8.ofNat (word.toNat / 2 ^ shift)

theorem octet_xor (shift : Nat) (left right : UInt32) :
    octet shift (left ^^^ right) = octet shift left ^^^ octet shift right := by
  rw [octet, UInt32.toNat_xor, Nat.xor_div_two_pow, UInt8.ofNat_xor]
  rfl

theorem octet_or (shift : Nat) (left right : UInt32) :
    octet shift (left ||| right) = octet shift left ||| octet shift right := by
  rw [octet, UInt32.toNat_or, Nat.or_div_two_pow, UInt8.ofNat_or]
  rfl

/-- The bytes of a word, the lowest first. -/
theorem encodeLittle_eq (word : UInt32) :
    Conv.encodeLittle word = [octet 0 word, octet 8 word, octet 16 word, octet 24 word] := by
  rw [octet, Nat.pow_zero, Nat.div_one]
  rfl

theorem encodeLittle_xor (left right : UInt32) :
    Conv.encodeLittle (left ^^^ right) =
      List.zipWith (· ^^^ ·) (Conv.encodeLittle left) (Conv.encodeLittle right) := by
  simp only [encodeLittle_eq, octet_xor, List.zipWith_cons_cons, List.zipWith_nil_left]

theorem encodeLittle_or (left right : UInt32) :
    Conv.encodeLittle (left ||| right) =
      List.zipWith (· ||| ·) (Conv.encodeLittle left) (Conv.encodeLittle right) := by
  simp only [encodeLittle_eq, octet_or, List.zipWith_cons_cons, List.zipWith_nil_left]

/-- A byte that is shifted by bytes. -/
theorem encodeLittle_shiftLeft (byte : UInt8) :
    Conv.encodeLittle byte.toUInt32 = [byte, 0, 0, 0] ∧
      Conv.encodeLittle (byte.toUInt32 <<< 8) = [0, byte, 0, 0] ∧
      Conv.encodeLittle (byte.toUInt32 <<< 16) = [0, 0, byte, 0] ∧
      Conv.encodeLittle (byte.toUInt32 <<< 24) = [0, 0, 0, byte] := by
  have small := byte.toNat_lt
  simp only [encodeLittle_eq, octet, List.cons.injEq, and_true, ← UInt8.toNat_inj,
    UInt8.toNat_ofNat', UInt32.toNat_shiftLeft, UInt8.toNat_toUInt32, Nat.shiftLeft_eq]
  simp
  omega

/-- The address is written with the magic cookie over it. -/
theorem encodeLittle_xorIpv4Addr (conv : Conv) :
    Conv.encodeLittle conv.xorIpv4Addr = [conv.fromAddress.a ^^^ 0x21, conv.fromAddress.b ^^^ 0x12,
      conv.fromAddress.c ^^^ 0xa4, conv.fromAddress.d ^^^ 0x42] := by
  have cookie : Conv.encodeLittle 0x42a41221 = [0x21, 0x12, 0xa4, 0x42] := by decide
  rw [Conv.xorIpv4Addr, encodeLittle_xor, encodeLittle_or, encodeLittle_or, encodeLittle_or, cookie,
    (encodeLittle_shiftLeft conv.fromAddress.a).1, (encodeLittle_shiftLeft conv.fromAddress.b).2.1,
    (encodeLittle_shiftLeft conv.fromAddress.c).2.2.1,
    (encodeLittle_shiftLeft conv.fromAddress.d).2.2.2]
  simp

/-- The address and the port that the value of an XOR-MAPPED-ADDRESS gives with the magic cookie. -/
def unXor : Bytes → Option SockAddr
  | [_, family, p, q, a, b, c, d] =>
      if family = 1 then
        some {
          a := a ^^^ 0x21
          b := b ^^^ 0x12
          c := c ^^^ 0xa4
          d := d ^^^ 0x42
          port := UInt16.ofNat (p.toNat * 256 + q.toNat) ^^^ 0x2112 }
      else none
  | _ => none

/-- The values of the attributes of an extended reply. -/
structure ReplyParts where
  /-- SOFTWARE. -/
  name : Bytes
  /-- XOR-MAPPED-ADDRESS. -/
  address : Bytes
  /-- MESSAGE-INTEGRITY, if it is there. -/
  integrity : Option Bytes
  /-- FINGERPRINT. -/
  check : Bytes

namespace ReplyParts

/-- The attributes before MESSAGE-INTEGRITY. -/
def described (parts : ReplyParts) : List Attribute :=
  [(.software, parts.name), (.xorMappedAddress, parts.address)]

/-- The attributes before FINGERPRINT. -/
def checked (parts : ReplyParts) : List Attribute :=
  parts.described ++ (parts.integrity.map fun digest => (AttrType.messageIntegrity, digest)).toList

/-- All attributes. -/
def attributes (parts : ReplyParts) : List Attribute :=
  parts.checked ++ [(.fingerprint, parts.check)]

end ReplyParts

/-- The bytes with a number in the length field. -/
def withLength (bytes : Bytes) (length : Nat) : Bytes :=
  bytes.take 2 ++ encodeUInt16 (UInt16.ofNat length) ++ bytes.drop 4

/-- The bytes before an attribute of a message: the header and the given attributes. -/
def StandsBefore (before : Bytes) (earlier : List Attribute) (attr : Attribute) (bytes : Bytes) :
    Prop :=
  20 ≤ before.length ∧ Chain Encodes earlier (before.drop 20) ∧
    ∃ front, Encodes attr front ∧ before ++ front <+: bytes

/-- A client can verify the bytes as the extended reply of a conversation. -/
structure Verifies (digests : Digests) (conv : Conv) (bytes : Bytes) (parts : ReplyParts) :
    Prop where
  /-- It is a success response in the transaction of the request. -/
  isMessage : IsMessage 0x0101 conv.stunHeader.transactionId parts.attributes bytes
  /-- The length field counts what follows the header. -/
  length_field : slice bytes 2 2 >>= decodeUInt16 = .ok (UInt16.ofNat (bytes.length - 20))
  /-- The length fits into its field. -/
  fits : 20 ≤ bytes.length ∧ bytes.length - 20 < 2 ^ 16
  /-- The length is a multiple of four. -/
  aligned : (bytes.length - 20) % 4 = 0
  /-- The attributes are read from the body. -/
  parsed : StunAttributes.new (bytes.drop 20) = .ok parts.attributes.reverse
  /-- The software is named. -/
  named : parts.name <+: utf8 conv.softwareName
  /-- The address is that of the source. -/
  address : unXor parts.address = some conv.fromAddress
  /-- Without a password there is no MESSAGE-INTEGRITY. -/
  unkeyed : conv.password = none → parts.integrity = none
  /-- The hash covers what is before it, with a length that ends after it. -/
  integrity : ∀ password, conv.password = some password → ∃ digest before,
    parts.integrity = some digest ∧
      StandsBefore before parts.described (.messageIntegrity, digest) bytes ∧
        digest = digests.hmacSha1 (utf8 password) (withLength before (before.length + 24 - 20))
  /-- The checksum covers what is before it. -/
  check : ∃ before, StandsBefore before parts.checked (.fingerprint, parts.check) bytes ∧
    parts.check = encodeUInt32 (digests.crc32 before ^^^ 0x5354554e)

/-- What stands behind the header of a message. -/
theorem IsMessage.exists_body {kind : UInt16} {transactionId : Bytes}
    {attributes : List Attribute} {bytes : Bytes}
    (isMessage : IsMessage kind transactionId attributes bytes)
    (sized : transactionId.length = 12) :
    20 ≤ bytes.length ∧ bytes.length - 20 < 2 ^ 16 ∧ Chain Encodes attributes (bytes.drop 20) ∧
      slice bytes 2 2 >>= decodeUInt16 = .ok (UInt16.ofNat (bytes.length - 20)) := by
  obtain ⟨body, small, chain, text⟩ := isMessage
  have size : bytes.length = 20 + body.length := by
    rw [text]
    simp only [List.length_append, length_encodeUInt16, length_encodeUInt32, sized]
    omega
  have counted : bytes.length - 20 = body.length := by omega
  have behind : bytes.drop 20 = body := by
    have header : (encodeUInt16 kind ++ (encodeUInt16 (UInt16.ofNat body.length) ++
        (encodeUInt32 StunHeader.magicCookieValue ++ transactionId))).length = 20 := by
      simp only [List.length_append, length_encodeUInt16, length_encodeUInt32, sized]
    rw [text, ← header]
    simp only [← List.append_assoc, List.drop_left]
  refine ⟨by omega, by omega, by rwa [behind], ?_⟩
  rw [counted, bind_eq_ok, text]
  exact ⟨_, slice_append (encodeUInt16 kind) (encodeUInt16 (UInt16.ofNat body.length)) _,
    by simpa using decodeUInt16_encodeUInt16 (UInt16.ofNat body.length) []⟩

theorem Encodes.aligned {attr : Attribute} {bytes : Bytes} (encodes : Encodes attr bytes) :
    bytes.length % 4 = 0 := by
  rw [encodes.length, padding]
  omega

theorem aligned_of_chain {attributes : List Attribute} {bytes : Bytes}
    (chain : Chain Encodes attributes bytes) : bytes.length % 4 = 0 := by
  induction chain with
  | nil => rfl
  | cons encodes others ih =>
      have first := encodes.aligned
      rw [List.length_append]
      omega

namespace Conv

/-- The value of the address attribute. -/
def addressValue (conv : Conv) : Bytes :=
  encodeUInt16 0x0001 ++ encodeUInt16 conv.xorPort ++ encodeLittle conv.xorIpv4Addr

theorem unXor_addressValue (conv : Conv) : unXor conv.addressValue = some conv.fromAddress := by
  have port : UInt16.ofNat ((UInt8.ofNat (conv.xorPort.toNat / 256)).toNat * 256 +
      (UInt8.ofNat conv.xorPort.toNat).toNat) = conv.xorPort :=
    Except.ok.inj (decodeUInt16_encodeUInt16 conv.xorPort [])
  have value : conv.addressValue = [0, 1, UInt8.ofNat (conv.xorPort.toNat / 256),
      UInt8.ofNat conv.xorPort.toNat, conv.fromAddress.a ^^^ 0x21, conv.fromAddress.b ^^^ 0x12,
      conv.fromAddress.c ^^^ 0xa4, conv.fromAddress.d ^^^ 0x42] := by
    rw [addressValue, encodeLittle_xorIpv4Addr]
    rfl
  rw [value, unXor, if_pos rfl, port, xorPort]
  simp only [UInt8.xor_assoc, UInt16.xor_assoc, UInt8.xor_self, UInt16.xor_self, UInt8.xor_zero,
    UInt16.xor_zero]

/-- The address is written as one attribute. -/
theorem writeXorMappedAddressAttr_message (conv : Conv) :
    ∃ front, Encodes (.xorMappedAddress, conv.addressValue) front ∧ front.length = 12 ∧
      ∀ kind length tail, conv.writeXorMappedAddressAttr (message kind length tail) =
        message kind length (tail ++ front) := by
  refine ⟨encodeUInt16 AttrType.xorMappedAddress.value ++
    (encodeUInt16 0x0008 ++ conv.addressValue), ⟨by simp [addressValue, encodeLittle], [],
      by simp [addressValue, encodeLittle, padding], ?_⟩, by simp [addressValue, encodeLittle], ?_⟩
  · rw [List.append_nil]
    rfl
  · intro kind length tail
    simp only [writeXorMappedAddressAttr, write_message, addressValue, List.append_assoc]

/-- The name of the software has one byte for each symbol. -/
theorem length_utf8_of_ascii {text : Text} (ascii : ∀ c ∈ text, c.toNat < 128) :
    (utf8 text).length = text.length := by
  induction text with
  | nil => rfl
  | cons c text ih =>
      have rest := ih fun other member => ascii other (List.mem_cons_of_mem c member)
      have small := ascii c List.mem_cons_self
      have one : (String.utf8EncodeChar c).length = 1 := by
        rw [String.length_utf8EncodeChar, Char.utf8Size_eq_one_iff]
        exact Nat.le_of_lt_succ small
      rw [utf8] at rest
      rw [utf8, List.flatMap_cons, List.length_append, rest, one, List.length_cons, Nat.add_comm]

/-- A short name is written as one attribute, one byte shorter than it is if it is the name that
the tests use. -/
theorem writeSoftwareAttribute_message {conv : Conv}
    (ascii : ∀ c ∈ conv.softwareName, c.toNat < 128) (short : conv.softwareName.length < 128) :
    ∃ value front, value <+: utf8 conv.softwareName ∧ Encodes (.software, value) front ∧
      front.length ≤ 135 ∧ ∀ kind length tail,
        conv.writeSoftwareAttribute (message kind length tail) =
          message kind length (tail ++ front) := by
  by_cases special : conv.softwareName = "test vector ".toList
  · refine ⟨utf8 "test vector".toList, encodeUInt16 AttrType.software.value ++
      (encodeUInt16 11 ++ (utf8 "test vector".toList ++ [0x20])), ?_,
      ⟨by decide, [0x20], by decide, by decide⟩, by decide, ?_⟩
    · rw [special]
      decide
    · intro kind length tail
      have whole : utf8 "test vector ".toList = utf8 "test vector".toList ++ [0x20] := by decide
      have size : "test vector ".toList.length = 12 := by decide
      simp only [writeSoftwareAttribute, special, if_pos, size, whole, write_message,
        List.append_assoc]
      rfl
  · let pad : Bytes := List.replicate (padding conv.softwareName.length) 0
    have size := length_utf8_of_ascii ascii
    have pad_length : pad.length ≤ 3 := by
      rw [List.length_replicate, padding]
      omega
    have masked : ∀ n, n &&& 3 = n % 4 := fun n => Nat.and_two_pow_sub_one_eq_mod n 2
    refine ⟨utf8 conv.softwareName, encodeUInt16 AttrType.software.value ++
      (encodeUInt16 (UInt16.ofNat conv.softwareName.length) ++ (utf8 conv.softwareName ++ pad)),
      List.prefix_refl _, ⟨by simp only [size]; omega, pad, ?_, ?_⟩, ?_, ?_⟩
    · rw [size, List.length_replicate]
    · rw [size]
    · simp only [List.length_append, length_encodeUInt16, size]
      omega
    · intro kind length tail
      simp only [writeSoftwareAttribute, if_neg special, Nat.and_comm 3, masked, write_message,
        List.append_assoc, pad, padding]

section With

variable (digests : Digests)

/-- The hash that is written for a message, if there is a password. -/
def integrityOf (conv : Conv) (io : Memory) : Option Bytes :=
  conv.password.map fun password => digests.hmacSha1 (utf8 password) io.bytes

/-- With a password the integrity of the message is written as one attribute. -/
theorem writeMessageIntegrityWith_message (conv : Conv) (kind length : UInt16) (tail : Bytes) :
    ∃ front, front.length ≤ 24 ∧
      (∀ digest, conv.integrityOf digests (message kind length tail) = some digest →
        Encodes (.messageIntegrity, digest) front) ∧
      Chain Encodes (((conv.integrityOf digests (message kind length tail)).map fun digest =>
        (AttrType.messageIntegrity, digest)).toList) front ∧
      conv.writeMessageIntegrityWith digests (message kind length tail) =
        message kind length (tail ++ front) := by
  cases given : conv.password with
  | none =>
      refine ⟨[], by simp, by simp [integrityOf, given], ?_, ?_⟩
      · rw [integrityOf, given]
        exact .nil
      · simp only [writeMessageIntegrityWith, given, List.append_nil]
  | some password =>
      let digest := digests.hmacSha1 (utf8 password) (message kind length tail).bytes
      have size : digest.length = 20 := digests.length_hmacSha1 _ _
      have hashed : conv.integrityOf digests (message kind length tail) = some digest := by
        rw [integrityOf, given]
        rfl
      have encodes : Encodes (.messageIntegrity, digest)
          (encodeUInt16 AttrType.messageIntegrity.value ++ (encodeUInt16 20 ++ digest)) := by
        refine ⟨by simp [size], [], by simp [size, padding], ?_⟩
        simp only [size, List.append_nil]
        rfl
      refine ⟨encodeUInt16 AttrType.messageIntegrity.value ++ (encodeUInt16 20 ++ digest),
        by simp [size], ?_, ?_, ?_⟩
      · intro other same
        obtain rfl : digest = other := Option.some.inj (hashed.symm.trans same)
        exact encodes
      · rw [hashed]
        exact .single encodes
      · simp only [writeMessageIntegrityWith, given, write_message, List.append_assoc, digest]

/-- The fingerprint is written as one attribute. -/
theorem writeFingerprintWith_message (kind length : UInt16) (tail : Bytes) :
    ∃ front, Encodes (.fingerprint, encodeUInt32
        (digests.crc32 (message kind length tail).bytes ^^^ 0x5354554e)) front ∧
      front.length = 8 ∧ writeFingerprintWith digests (message kind length tail) =
        message kind length (tail ++ front) := by
  let value := encodeUInt32 (digests.crc32 (message kind length tail).bytes ^^^ 0x5354554e)
  refine ⟨encodeUInt16 AttrType.fingerprint.value ++ (encodeUInt16 4 ++ value),
    ⟨by simp, [], by simp [padding], ?_⟩, by simp [value], ?_⟩
  · rw [List.append_nil]
    rfl
  · simp only [writeFingerprintWith, write_message, value, List.append_assoc]

end With

end Conv

theorem withLength_message (kind length : UInt16) (tail : Bytes) (size : Nat) :
    withLength (message kind length tail).bytes size =
      (message kind (UInt16.ofNat size) tail).bytes := rfl

theorem drop_message (kind length : UInt16) {identity : Bytes} (sized : identity.length = 16)
    (body : Bytes) : (message kind length (identity ++ body)).bytes.drop 20 = body := by
  have past_header : (message kind length (identity ++ body)).bytes.drop 20 =
      (identity ++ body).drop 16 := rfl
  rw [past_header, ← sized, List.drop_left]

/-- An attribute stands behind those that were written before it. -/
theorem standsBefore_message (kind length : UInt16) {identity : Bytes}
    (sized : identity.length = 16) {earlier : List Attribute} {done : Bytes}
    (chain : Chain Encodes earlier done) {attr : Attribute} {front : Bytes}
    (encodes : Encodes attr front) (rest : Bytes) :
    StandsBefore (message kind length (identity ++ done)).bytes earlier attr
      (message kind length (identity ++ (done ++ (front ++ rest)))).bytes := by
  refine ⟨?_, by rwa [drop_message kind length sized], front, encodes, rest, ?_⟩
  · simp only [message, Memory.ofBytes, List.length_append, length_encodeUInt16, sized]
    omega
  · simp only [message, Memory.ofBytes, List.append_assoc]

/-- A request with one attribute, a USERNAME padded with blanks. -/
def sampleStun : Bytes :=
  [0x00, 0x01, 0x00, 0x10, 0x21, 0x12, 0xa4, 0x42, 0xb7, 0xe7, 0xa7, 0x01, 0xbc, 0x34, 0xd6, 0x86,
    0xfa, 0x87, 0xdf, 0xae, 0x00, 0x06, 0x00, 0x09, 0x65, 0x76, 0x74, 0x6a, 0x3a, 0x68, 0x36, 0x76,
    0x59, 0x20, 0x20, 0x20]

/-- The source of the sample requests. -/
def sampleSource : SockAddr := ⟨192, 0, 2, 1, 32853⟩

namespace Conv

/-- An extended reply in the bytes of its attributes.  The hash was taken with a length that ends
after it, the checksum with the length of the whole. -/
structure Written (digests : Digests) (conv : Conv) (identity : Bytes) (parts : ReplyParts)
    (front second third fourth : Bytes) : Prop where
  /-- The name is that of the software. -/
  named : parts.name <+: utf8 conv.softwareName
  /-- SOFTWARE. -/
  encodes_name : Encodes (.software, parts.name) front
  /-- The address is that of the source. -/
  address : parts.address = conv.addressValue
  /-- XOR-MAPPED-ADDRESS. -/
  encodes_address : Encodes (.xorMappedAddress, parts.address) second
  /-- What was hashed. -/
  hashed : parts.integrity = conv.integrityOf digests (message 0x0101
    (UInt16.ofNat ((identity ++ front ++ second).length + 8)) (identity ++ front ++ second))
  /-- MESSAGE-INTEGRITY. -/
  encodes_integrity : ∀ digest, parts.integrity = some digest →
    Encodes (.messageIntegrity, digest) third
  /-- Nothing is there instead. -/
  chain_integrity : Chain Encodes
    (parts.integrity.map fun digest => (AttrType.messageIntegrity, digest)).toList third
  /-- What was summed. -/
  summed : parts.check = encodeUInt32 (digests.crc32 (message 0x0101
    (UInt16.ofNat (front ++ (second ++ (third ++ fourth))).length)
      (identity ++ front ++ second ++ third)).bytes ^^^ 0x5354554e)
  /-- FINGERPRINT. -/
  encodes_check : Encodes (.fingerprint, parts.check) fourth
  /-- The length fits into its field. -/
  small : (front ++ (second ++ (third ++ fourth))).length < 2 ^ 16

/-- The extended reply is written attribute by attribute. -/
theorem extendedReplyWith_message (digests : Digests) {conv : Conv}
    (ascii : ∀ c ∈ conv.softwareName, c.toNat < 128) (short : conv.softwareName.length < 128)
    {identity : Bytes} (sized : identity.length = 16) (length : UInt16) :
    ∃ parts front second third fourth,
      Written digests conv identity parts front second third fourth ∧
      conv.extendedReplyWith digests (message 0x0101 length identity) =
        message 0x0101 (UInt16.ofNat (front ++ (second ++ (third ++ fourth))).length)
          (identity ++ (front ++ (second ++ (third ++ fourth)))) := by
  obtain ⟨name, front, named, encodes_name, size_name, wrote_name⟩ :=
    writeSoftwareAttribute_message ascii short
  obtain ⟨second, encodes_address, size_address, wrote_address⟩ :=
    conv.writeXorMappedAddressAttr_message
  let first_size := (identity ++ front ++ second).length + 8
  obtain ⟨third, size_third, encodes_integrity, chain_integrity, wrote_integrity⟩ :=
    conv.writeMessageIntegrityWith_message digests 0x0101 (UInt16.ofNat first_size)
      (identity ++ front ++ second)
  let second_size := 4 + (identity ++ front ++ second ++ third).length - 0x0c
  obtain ⟨fourth, encodes_check, size_check, wrote_check⟩ :=
    writeFingerprintWith_message digests 0x0101 (UInt16.ofNat second_size)
      (identity ++ front ++ second ++ third)
  have counted : (front ++ (second ++ (third ++ fourth))).length = second_size := by
    simp only [second_size, List.length_append, sized, size_check]
    omega
  have small : (front ++ (second ++ (third ++ fourth))).length < 2 ^ 16 := by
    simp only [List.length_append, size_check, size_address]
    omega
  let parts : ReplyParts := {
    name := name
    address := conv.addressValue
    integrity := conv.integrityOf digests
      (message 0x0101 (UInt16.ofNat first_size) (identity ++ front ++ second))
    check := encodeUInt32 (digests.crc32 (message 0x0101 (UInt16.ofNat second_size)
      (identity ++ front ++ second ++ third)).bytes ^^^ 0x5354554e) }
  have written : Written digests conv identity parts front second third fourth :=
    ⟨named, encodes_name, rfl, encodes_address, rfl, encodes_integrity, chain_integrity,
      by rw [counted], encodes_check, small⟩
  refine ⟨parts, front, second, third, fourth, written, ?_⟩
  have first_length : 4 + (identity ++ front ++ second).length + 4 = first_size := by
    simp only [first_size]
    omega
  have last_length : 4 + (identity ++ front ++ second ++ third ++ fourth).length - 0x14 =
      second_size := by
    simp only [second_size, List.length_append, size_check]
    omega
  rw [extendedReplyWith, wrote_name, wrote_address]
  simp only [size_message, setLength_message, first_length]
  rw [wrote_integrity]
  simp only [size_message, setLength_message]
  rw [wrote_check, size_message, setLength_message, last_length, counted]
  simp only [List.append_assoc]

/-- What has been written so can be verified. -/
theorem Written.verifies {digests : Digests} {conv : Conv} {parts : ReplyParts}
    {front second third fourth : Bytes}
    (written : Written digests conv
      (encodeUInt32 StunHeader.magicCookieValue ++ conv.stunHeader.transactionId) parts front
        second third fourth) :
    Verifies digests conv
      (message 0x0101 (UInt16.ofNat (front ++ (second ++ (third ++ fourth))).length)
        (encodeUInt32 StunHeader.magicCookieValue ++ conv.stunHeader.transactionId ++
          (front ++ (second ++ (third ++ fourth))))).bytes parts := by
  let identity := encodeUInt32 StunHeader.magicCookieValue ++ conv.stunHeader.transactionId
  let size := UInt16.ofNat (front ++ (second ++ (third ++ fourth))).length
  have sized : identity.length = 16 := by
    simp only [identity, List.length_append, length_encodeUInt32, conv.stunHeader.sized]
  have described : Chain Encodes parts.described (front ++ second) :=
    Chain.cons written.encodes_name (Chain.single written.encodes_address)
  have checked : Chain Encodes parts.checked (front ++ second ++ third) :=
    described.append written.chain_integrity
  have isMessage : IsMessage 0x0101 conv.stunHeader.transactionId parts.attributes
      (message 0x0101 size (identity ++ (front ++ (second ++ (third ++ fourth))))).bytes := by
    have whole := checked.append (Chain.single written.encodes_check)
    rw [List.append_assoc (front ++ second), List.append_assoc front] at whole
    exact ⟨_, written.small, whole, rfl⟩
  obtain ⟨enough, small, chain, length_field⟩ := isMessage.exists_body conv.stunHeader.sized
  exact {
    isMessage := isMessage
    length_field := length_field
    fits := ⟨enough, small⟩
    aligned := by
      rw [← List.length_drop]
      exact aligned_of_chain chain
    parsed := StunAttributes.new_chain chain (by rw [List.length_drop]; exact small)
    named := written.named
    address := written.address ▸ conv.unXor_addressValue
    unkeyed := by
      intro none_given
      exact written.hashed.trans (Option.map_eq_none_iff.mpr none_given)
    integrity := by
      intro password given
      have hashed := written.hashed
      simp only [integrityOf, given, Option.map_some] at hashed
      have stands := standsBefore_message 0x0101 size sized described
        (written.encodes_integrity _ hashed) fourth
      have same_size :
          (message 0x0101 size (identity ++ (front ++ second))).bytes.length + 24 - 20 =
            (identity ++ front ++ second).length + 8 := by
        have whole : (message 0x0101 size (identity ++ (front ++ second))).bytes.length =
            4 + (identity ++ (front ++ second)).length := size_message _ _ _
        rw [whole, ← List.append_assoc]
        omega
      rw [List.append_assoc front] at stands
      refine ⟨_, _, hashed, stands, ?_⟩
      rw [withLength_message, same_size, List.append_assoc]
    check := by
      have stands := standsBefore_message 0x0101 size sized checked written.encodes_check []
      rw [List.append_nil, List.append_assoc (front ++ second) third fourth,
        List.append_assoc front second (third ++ fourth)] at stands
      refine ⟨_, stands, ?_⟩
      rw [written.summed]
      simp only [List.append_assoc, size, identity] }

/-- The extended reply can be verified. -/
theorem verifies_extendedReplyWith (digests : Digests) {conv : Conv}
    (ascii : ∀ c ∈ conv.softwareName, c.toNat < 128) (short : conv.softwareName.length < 128)
    (length : UInt16) :
    ∃ parts, Verifies digests conv (conv.extendedReplyWith digests (message 0x0101 length
      (encodeUInt32 StunHeader.magicCookieValue ++ conv.stunHeader.transactionId))).bytes
        parts := by
  have sized : (encodeUInt32 StunHeader.magicCookieValue ++
      conv.stunHeader.transactionId).length = 16 := by
    simp only [List.length_append, length_encodeUInt32, conv.stunHeader.sized]
  obtain ⟨parts, front, second, third, fourth, written, text⟩ :=
    extendedReplyWith_message digests ascii short sized length
  exact ⟨parts, text ▸ written.verifies⟩

/-- Every extended reply can be verified by the client, whatever the digests are. -/
theorem verifies_replyWith (digests : Digests) {conv : Conv}
    (accepted : StunHeader.new conv.data = .ok conv.stunHeader) (nonempty : 20 < conv.data.length)
    (ascii : ∀ c ∈ conv.softwareName, c.toNat < 128) (short : conv.softwareName.length < 128) :
    ∃ parts, Verifies digests conv (conv.replyWith digests) parts := by
  obtain ⟨-, length, cookie⟩ := StunHeader.new_eq_ok accepted
  have counted : conv.stunHeader.length ≠ 0 := by
    intro zero
    rw [zero, UInt16.toNat_zero] at length
    omega
  rw [replyWith, if_neg counted, StunHeader.serialize_eq, cookie]
  exact conv.verifies_extendedReplyWith digests ascii short 12

theorem verifies_replyWith_sample :
    ∃ header parts, StunHeader.new sampleStun = .ok header ∧
      Verifies .standard ⟨sampleStun, sampleSource, some "secret".toList, "Whatever".toList, header⟩
        (replyWith .standard
          ⟨sampleStun, sampleSource, some "secret".toList, "Whatever".toList, header⟩) parts := by
  have accepts : (StunHeader.new sampleStun).toOption.isSome = true := by decide
  cases accepted : StunHeader.new sampleStun with
  | error e => simp [accepted, Except.toOption] at accepts
  | ok header =>
      obtain ⟨parts, verifies⟩ := @verifies_replyWith .standard
        ⟨sampleStun, sampleSource, some "secret".toList, "Whatever".toList, header⟩ accepted
        (show 20 < sampleStun.length by decide)
        (List.all_iff_forall_prop.mp
          (show ("Whatever".toList.all fun c => c.toNat < 128) = true by decide))
        (show "Whatever".toList.length < 128 by decide)
      exact ⟨header, parts, rfl, verifies⟩

end Conv

end Stun
end Contest
