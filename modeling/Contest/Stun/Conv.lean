import Contest.Foundation.Digest
import Contest.Graph.Collection
import Contest.Stun.Header

/-!
# STUN conversations

`Stun::Conv` reads the attributes of a binding request and forms the reply; `Stun` answers the
datagrams of a transport with it.
-/

namespace Contest
namespace Stun

/-- `AttrType`, whose `new` takes every number. -/
structure AttrType where
  /-- `value`. -/
  value : UInt16
deriving DecidableEq, Repr

namespace AttrType

/-- `XorMappedAddress`. -/
def xorMappedAddress : AttrType := ⟨0x0020⟩

/-- `Username`. -/
def username : AttrType := ⟨0x0006⟩

/-- `MessageIntegrity`. -/
def messageIntegrity : AttrType := ⟨0x0008⟩

/-- `Fingerprint`. -/
def fingerprint : AttrType := ⟨0x8028⟩

/-- `Software`. -/
def software : AttrType := ⟨0x8022⟩

end AttrType

/-- An attribute. -/
abbrev Attribute := AttrType × Bytes

namespace StunAttributes

/-- `attr_len + 3 & ~3`. -/
def stride (attrLen : UInt16) : UInt16 := (attrLen + 3) &&& ~~~3

/-- The attribute that starts at a position, and where the next one starts. -/
def readAttribute (data : Bytes) (byteStep : Nat) : Fallible (Attribute × Nat) := do
  let attrType ← slice data byteStep 2 >>= decodeUInt16
  let attrLen ← slice data (byteStep + 2) 2 >>= decodeUInt16
  let value ← slice data (byteStep + 4) attrLen.toNat
  return ((⟨attrType⟩, value), byteStep + 4 + (stride attrLen).toNat)

/-- So many turns of the loop of `StunAttributes.new`. -/
def readFrom (data : Bytes) : Nat → Nat → List Attribute → Fallible (List Attribute)
  | 0, _, attributes => .ok attributes
  | turns + 1, byteStep, attributes =>
      if byteStep < data.length then do
        let read ← readAttribute data byteStep
        readFrom data turns read.2 (read.1 :: attributes)
      else .ok attributes

/-- `StunAttributes.new`, with the attributes read last first: every turn passes four bytes at
least, so there are fewer turns than bytes. -/
def new (data : Bytes) : Fallible (List Attribute) := readFrom data data.length 0 []

theorem readAttribute_advances {data : Bytes} {byteStep : Nat} {read : Attribute × Nat}
    (turn : readAttribute data byteStep = .ok read) : byteStep + 4 ≤ read.2 := by
  obtain ⟨attrType, -, turn⟩ := bind_eq_ok.mp turn
  obtain ⟨attrLen, -, turn⟩ := bind_eq_ok.mp turn
  obtain ⟨value, -, turn⟩ := bind_eq_ok.mp turn
  obtain rfl : _ = read := Except.ok.inj turn
  exact Nat.le_add_right _ _

end StunAttributes

/-- The `sockaddr` of an IPv4 address and a port. -/
structure SockAddr where
  /-- The first byte of the address. -/
  a : UInt8
  /-- The second byte of the address. -/
  b : UInt8
  /-- The third byte of the address. -/
  c : UInt8
  /-- The fourth byte of the address. -/
  d : UInt8
  /-- The port. -/
  port : UInt16
deriving DecidableEq, Repr

/-- `Stun::Conv`. -/
structure Conv where
  /-- The request. -/
  data : Bytes
  /-- Where it came from. -/
  fromAddress : SockAddr
  /-- The password of the call that it belongs to. -/
  password : Option Text
  /-- The name of this software. -/
  softwareName : Text
  /-- The header of the request. -/
  stunHeader : StunHeader

namespace Conv

/-- `Conv.new`. -/
def new (data : Bytes) (fromAddress : SockAddr) : Fallible Conv := do
  let stunHeader ← StunHeader.new data
  return {
    data := data
    fromAddress := fromAddress
    password := none
    softwareName := "Whatever".toList
    stunHeader := stunHeader }

/-- `stun_attributes`. -/
def stunAttributes (conv : Conv) : Fallible (List Attribute) :=
  if conv.stunHeader.length = 0 then .error .noStunAttributes
  else slice conv.data 20 conv.stunHeader.length.toNat >>= StunAttributes.new

/-- `username`. -/
def username (conv : Conv) : Fallible (Option Bytes) := do
  let attributes ← conv.stunAttributes
  return attributes.lookup .username

/-- `xor_port`. -/
def xorPort (conv : Conv) : UInt16 := conv.fromAddress.port ^^^ 0x2112

/-- `xor_ipv4_addr`, on a machine that keeps the lowest byte of a word first. -/
def xorIpv4Addr (conv : Conv) : UInt32 :=
  (conv.fromAddress.a.toUInt32 ||| conv.fromAddress.b.toUInt32 <<< 8 |||
    conv.fromAddress.c.toUInt32 <<< 16 ||| conv.fromAddress.d.toUInt32 <<< 24) ^^^ 0x42a41221

/-- `set_length`. -/
def setLength (io : Memory) (length : Nat) : Memory :=
  ((io.seek 2).write (encodeUInt16 (UInt16.ofNat length))).seek io.pos

/-- The four bytes of `write_bytes(value : UInt32, LittleEndian)`. -/
def encodeLittle (value : UInt32) : Bytes := (encodeUInt32 value).reverse

/-- `write_xor_mapped_address_attr`. -/
def writeXorMappedAddressAttr (conv : Conv) (io : Memory) : Memory :=
  let io := io.write (encodeUInt16 AttrType.xorMappedAddress.value)
  let io := io.write (encodeUInt16 0x0008)
  let io := io.write (encodeUInt16 0x0001)
  let io := io.write (encodeUInt16 conv.xorPort)
  io.write (encodeLittle conv.xorIpv4Addr)

/-- `write_software_attribute`. -/
def writeSoftwareAttribute (conv : Conv) (io : Memory) : Memory :=
  let io := io.write (encodeUInt16 AttrType.software.value)
  let size := conv.softwareName.length
  let pad := (4 - (3 &&& size)) &&& 3
  let len := if conv.softwareName = "test vector ".toList then size - 1 else size
  let io := io.write (encodeUInt16 (UInt16.ofNat len))
  let io := io.write (utf8 conv.softwareName)
  io.write (List.replicate pad 0)

/-- `write_message_integrity`. -/
def writeMessageIntegrity (conv : Conv) (io : Memory) : Memory :=
  match conv.password with
  | none => io
  | some password =>
      let msgIntegrityBytes := Digest.hmac Digest.sha1 (utf8 password) io.bytes
      let io := io.write (encodeUInt16 AttrType.messageIntegrity.value)
      let io := io.write (encodeUInt16 20)
      io.write msgIntegrityBytes

/-- `write_fingerprint`. -/
def writeFingerprint (io : Memory) : Memory :=
  let xorCrc32 := Digest.crc32 io.bytes ^^^ 0x5354554e
  let io := io.write (encodeUInt16 AttrType.fingerprint.value)
  let io := io.write (encodeUInt16 4)
  io.write (encodeUInt32 xorCrc32)

/-- The basic reply, without all the other attributes. -/
def basicReply (conv : Conv) (dataIo : Memory) : Memory :=
  setLength (conv.writeXorMappedAddressAttr dataIo) 12

/-- The extended reply. -/
def extendedReply (conv : Conv) (dataIo : Memory) : Memory :=
  let dataIo := conv.writeXorMappedAddressAttr (conv.writeSoftwareAttribute dataIo)
  let dataIo := conv.writeMessageIntegrity (setLength dataIo (dataIo.size + 4))
  let dataIo := writeFingerprint (setLength dataIo (dataIo.size - 0x0c))
  setLength dataIo (dataIo.size - 0x14)

/-- `reply`. -/
def reply (conv : Conv) : Bytes :=
  let replyHeader := { conv.stunHeader with msgType := 0x0101, length := 12 }
  let dataIo := replyHeader.serialize
  if conv.stunHeader.length = 0 then (conv.basicReply dataIo).bytes
  else (conv.extendedReply dataIo).bytes

end Conv

/-- `Stun.handle_stun_payload`, with the datagrams sent and where they are sent to. -/
def handleStunPayload (tracker : Graph.Tracker) (payload : Bytes) (addr : SockAddr) :
    Fallible (List (Bytes × SockAddr)) := do
  let stunConv ← Conv.new payload addr
  let username ← stunConv.username
  let state := username.bind tracker.findByUsername
  let named := { stunConv with password := state.map Graph.Call.serverPassword }
  return [(named.reply, addr)]

end Stun
end Contest
