import Contest.Crystal
import Contest.Foundation.Aes
import Contest.Foundation.CounterMode
import Contest.Foundation.Digest

/-!
# Sessions of the SRTP library

The sessions of `libsrtp_decrypt`: how they are created and given their keys, and how a packet is
protected and unprotected in place.  Nothing is sent or received with a session that has no keys,
for which libgcrypt would fail.  Its block cipher and its keyed hash are supplied by the environment,
and so are shifts by a count that the language leaves undefined.
-/

namespace Contest
namespace LibSrtp

/-- The primitives of libgcrypt. -/
structure Gcrypt where
  /-- `GCRY_CIPHER_AES` on one block. -/
  aes : (key block : Bytes) → Bytes
  /-- A block has sixteen bytes. -/
  length_aes : ∀ key block, (aes key block).length = 16
  /-- The sizes of a key that the cipher takes. -/
  takesKey : Nat → Bool
  /-- Sixteen bytes are a key. -/
  takesKey_sixteen : takesKey 16 = true
  /-- `GCRY_MD_SHA1` with `GCRY_MD_FLAG_HMAC`. -/
  sha1Hmac : (key data : Bytes) → Bytes
  /-- A digest has twenty bytes. -/
  length_sha1Hmac : ∀ key data, (sha1Hmac key data).length = 20

/-- The primitives as the standards define them. -/
def Gcrypt.standard : Gcrypt where
  aes := Aes.encipher
  length_aes := Aes.length_encipher
  takesKey size := size ∈ [16, 24, 32]
  takesKey_sixteen := rfl
  sha1Hmac := Digest.hmac Digest.sha1
  length_sha1Hmac := Digest.length_hmac_sha1

/-- Shifts of a word of 64 bits by an `int`. -/
structure Shifts where
  /-- `word << count`. -/
  left : BitVec 64 → Int → BitVec 64
  /-- `word >> count`. -/
  right : BitVec 64 → Int → BitVec 64
  /-- Other counts are undefined behaviour. -/
  left_eq : ∀ word, ∀ count < 64, left word (count : Nat) = word <<< count
  /-- Other counts are undefined behaviour. -/
  right_eq : ∀ word, ∀ count < 64, right word (count : Nat) = word >>> count

/-- The shift instructions of a processor of 64 bits take the count modulo 64. -/
def Shifts.modular : Shifts where
  left word count := word <<< (count % 64).toNat
  right word count := word >>> (count % 64).toNat
  left_eq := by
    intro word count small
    rw [show ((count : Int) % 64).toNat = count by omega]
  right_eq := by
    intro word count small
    rw [show ((count : Int) % 64).toNat = count by omega]

/-- `EINVAL`. -/
def einval : Int := 22

/-- `EACCES`. -/
def eacces : Int := 13

/-- `ENOSPC`. -/
def enospc : Int := 28

/-- A `srtp_proto_t` whose keys have been set. -/
structure Proto where
  /-- The key of the cipher. -/
  cipher : Bytes
  /-- `srtp_setkey` derives sixteen bytes. -/
  length_cipher : cipher.length = 16
  /-- The key of the message authentication code. -/
  mac : Bytes
  /-- `srtp_setkey` derives twenty bytes. -/
  length_mac : mac.length = 20
  /-- Which numbers have been taken. -/
  window : BitVec 64
  /-- Four words: fourteen bytes, and two zero bytes. -/
  salt : {salt : Bytes // salt.length = 16 ∧ salt.drop 14 = [0, 0]}
deriving DecidableEq

/-- `rcc_mode`, of the flags. -/
def rccMode (flags : UInt32) : UInt32 := (flags >>> 4) &&& 3

/-- A `srtp_session_t` without its keys. -/
structure Unkeyed where
  /-- The flags. -/
  flags : UInt32
  /-- The last index of RTCP. -/
  rtcpIndex : UInt32
  /-- The rollover counter. -/
  rtpRoc : UInt32
  /-- The highest sequence number. -/
  rtpSeq : UInt16
  /-- How often the rollover counter is carried. -/
  rtpRcc : UInt16
  /-- The length of a tag. -/
  tagLen : Nat
  /-- A tag is a part of a digest. -/
  tagLen_le : tagLen ≤ 20
  /-- A tag can give way to a rollover counter. -/
  le_tagLen : rccMode flags ≠ 0 → 4 ≤ tagLen
  /-- `srtp_setrcc_rate` asserts it. -/
  rtpRcc_ne_zero : rtpRcc ≠ 0
deriving DecidableEq

/-- A `srtp_session_t` whose keys have been set. -/
structure Session extends Unkeyed where
  /-- For RTP. -/
  rtp : Proto
  /-- For RTCP. -/
  rtcp : Proto
deriving DecidableEq

/-- What a call leaves. -/
structure Result where
  /-- What it returns. -/
  ret : Int
  /-- The session. -/
  session : Session
  /-- The buffer. -/
  buf : Bytes
  /-- The length behind `lenp`. -/
  len : Nat
deriving DecidableEq

/-! ### Creating a session -/

/-- `SRTP_UNENCRYPTED`. -/
def srtpUnencrypted : UInt32 := 0x1

/-- `SRTP_UNAUTHENTICATED`. -/
def srtpUnauthenticated : UInt32 := 0x4

/-- `SRTP_FLAGS_MASK`. -/
def srtpFlagsMask : UInt32 := 0x37

/-- `srtp_create` for `SRTP_ENCR_AES_CM`, `SRTP_AUTH_HMAC_SHA1` and `SRTP_PRF_AES_CM`. -/
def srtpCreate (tagLen : Nat) (flags : UInt32) : Option Unkeyed :=
  if flags &&& ~~~srtpFlagsMask ≠ 0 then none
  else if fits : tagLen ≤ 20 then
    if carries : rccMode flags ≠ 0 → 4 ≤ tagLen then
      some {
        flags := flags
        rtcpIndex := 0
        rtpRoc := 0
        rtpSeq := 0
        rtpRcc := 1
        tagLen := tagLen
        tagLen_le := fits
        le_tagLen := carries
        rtpRcc_ne_zero := by decide }
    else none
  else none

/-- `gcry_cipher_encrypt` on so many whole blocks, and the counter block that it leaves. -/
def gcryCipherEncrypt (gcrypt : Gcrypt) (key : Bytes) : Nat → Bytes → Bytes → Bytes × Bytes
  | 0, ctr, _ => ([], ctr)
  | count + 1, ctr, data =>
      let rest := gcryCipherEncrypt gcrypt key count (CounterMode.increment ctr) (data.drop 16)
      (CounterMode.mask (data.take 16) (gcrypt.aes key ctr) ++ rest.1, rest.2)

/-- `do_ctr_crypt`. -/
def doCtrCrypt (gcrypt : Gcrypt) (key ctr data : Bytes) : Bytes :=
  let quot := data.length / 16
  let rem := data.length % 16
  let whole := gcryCipherEncrypt gcrypt key quot ctr data
  if rem ≠ 0 then
    -- the last block is filled up with zeros
    let dummy := data.drop (16 * quot) ++ List.replicate (16 - rem) 0
    whole.1 ++ (gcryCipherEncrypt gcrypt key 1 whole.2 dummy).1.take rem
  else whole.1

/-- The counter block of `do_derive`: the label stands before the index, and two bytes are left out
between them. -/
def derivationBlock (salt r : Bytes) (label : UInt8) : Bytes :=
  CounterMode.mask (salt.take 14 ++ [0, 0])
    (List.replicate (13 - r.length) 0 ++ label :: 0 :: 0 :: r)

/-- `do_derive`. -/
def doDerive (gcrypt : Gcrypt) (prf salt r : Bytes) (label : UInt8) (outlen : Nat) : Bytes :=
  doCtrCrypt gcrypt prf (derivationBlock salt r label) (List.replicate outlen 0)

/-! ### Counter mode -/

variable (gcrypt : Gcrypt)

theorem gcryCipherEncrypt_fst (key ctr : Bytes) {count : Nat} {data : Bytes}
    (long : 16 * count ≤ data.length) :
    (gcryCipherEncrypt gcrypt key count ctr data).1 =
      CounterMode.mask (data.take (16 * count))
        (CounterMode.keystream (gcrypt.aes key) ctr count) := by
  induction count generalizing ctr data with
  | zero => rfl
  | succ count ih =>
      have room : 16 * count ≤ (data.drop 16).length := by
        rw [List.length_drop]
        omega
      have cut : data.take (16 * (count + 1)) =
          data.take 16 ++ (data.drop 16).take (16 * count) := by
        rw [Nat.mul_succ, Nat.add_comm, List.take_add]
      have block : (data.take 16).length = (gcrypt.aes key ctr).length := by
        rw [List.length_take, gcrypt.length_aes]
        omega
      rw [gcryCipherEncrypt, ih (CounterMode.increment ctr) room, cut, CounterMode.keystream]
      unfold CounterMode.mask
      rw [List.zipWith_append block]

theorem gcryCipherEncrypt_snd (key ctr : Bytes) (count : Nat) (data : Bytes) :
    (gcryCipherEncrypt gcrypt key count ctr data).2 = CounterMode.increment^[count] ctr := by
  induction count generalizing ctr data with
  | zero => rfl
  | succ count ih => rw [gcryCipherEncrypt, ih, Function.iterate_succ_apply]

/-- Truncated text is masked with a truncated stream. -/
theorem doCtrCrypt_eq (key ctr data : Bytes) :
    doCtrCrypt gcrypt key ctr data =
      CounterMode.mask data
        (CounterMode.keystream (gcrypt.aes key) ctr (data.length / 16 + 1)) := by
  let quot := data.length / 16
  let next := CounterMode.increment^[quot] ctr
  have inside : 16 * quot ≤ data.length := Nat.mul_div_le data.length 16
  have front : (gcryCipherEncrypt gcrypt key quot ctr data).1 = CounterMode.mask
      (data.take (16 * quot)) (CounterMode.keystream (gcrypt.aes key) ctr quot) :=
    gcryCipherEncrypt_fst gcrypt key ctr inside
  have block : (gcrypt.aes key next).length = 16 := gcrypt.length_aes key next
  have remainder : (data.drop (16 * quot)).length = data.length % 16 := by
    rw [List.length_drop, Nat.mod_eq_sub_mul_div]
  have goal : CounterMode.mask data (CounterMode.keystream (gcrypt.aes key) ctr (quot + 1)) =
      (gcryCipherEncrypt gcrypt key quot ctr data).1 ++
        CounterMode.mask (data.drop (16 * quot)) (gcrypt.aes key next) := by
    have length : (data.take (16 * quot)).length =
        (CounterMode.keystream (gcrypt.aes key) ctr quot).length := by
      rw [CounterMode.length_keystream (gcrypt.length_aes key), List.length_take]
      omega
    rw [front, ← CounterMode.mask_append length, List.take_append_drop,
      CounterMode.keystream_succ]
  rw [goal, doCtrCrypt]
  by_cases whole : data.length % 16 = 0
  · have empty : data.drop (16 * quot) = [] := List.length_eq_zero_iff.mp (remainder.trans whole)
    rw [if_neg (not_not.mpr whole), empty]
    exact (List.append_nil _).symm
  · let dummy := data.drop (16 * quot) ++ List.replicate (16 - data.length % 16) 0
    have filled : dummy.length = 16 := by
      rw [List.length_append, remainder, List.length_replicate]
      have small := Nat.mod_lt data.length (show 0 < 16 by decide)
      omega
    have last : (gcryCipherEncrypt gcrypt key 1 next dummy).1 =
        CounterMode.mask dummy (gcrypt.aes key next) := by
      rw [gcryCipherEncrypt, gcryCipherEncrypt, List.append_nil,
        List.take_of_length_le (Nat.le_of_eq filled)]
    have short : (data.drop (16 * quot)).length ≤ (gcrypt.aes key next).length := by
      rw [block, remainder]
      exact (Nat.mod_lt _ (by decide)).le
    rw [if_pos whole, gcryCipherEncrypt_snd]
    show _ ++ (gcryCipherEncrypt gcrypt key 1 next dummy).1.take (data.length % 16) = _
    rw [last, ← remainder, CounterMode.take_mask_append _ _ short]

/-- Decryption is encryption. -/
theorem doCtrCrypt_doCtrCrypt (key ctr data : Bytes) :
    doCtrCrypt gcrypt key ctr (doCtrCrypt gcrypt key ctr data) = data := by
  have long : data.length ≤
      (CounterMode.keystream (gcrypt.aes key) ctr (data.length / 16 + 1)).length := by
    rw [CounterMode.length_keystream (gcrypt.length_aes key)]
    omega
  rw [doCtrCrypt_eq gcrypt key ctr data, doCtrCrypt_eq, CounterMode.length_mask long,
    CounterMode.mask_mask long]

@[simp]
theorem length_doCtrCrypt (key ctr data : Bytes) :
    (doCtrCrypt gcrypt key ctr data).length = data.length := by
  rw [doCtrCrypt_eq, CounterMode.length_mask]
  rw [CounterMode.length_keystream (gcrypt.length_aes key)]
  omega

/-! ### Keys -/

@[simp]
theorem length_doDerive (prf salt r : Bytes) (label : UInt8) (outlen : Nat) :
    (doDerive gcrypt prf salt r label outlen).length = outlen := by
  rw [doDerive, length_doCtrCrypt, List.length_replicate]

/-- The keys and the salt of a `srtp_proto_t` are derived with three labels in a row; the rest is
zero, as `srtp_create` leaves it. -/
def Proto.derive (prf salt r : Bytes) (label : UInt8) : Proto where
  cipher := doDerive gcrypt prf salt r label 16
  length_cipher := length_doDerive ..
  mac := doDerive gcrypt prf salt r (label + 1) 20
  length_mac := length_doDerive ..
  window := 0
  salt := ⟨doDerive gcrypt prf salt r (label + 2) 14 ++ [0, 0], by simp, by
    rw [List.drop_left' (length_doDerive gcrypt prf salt r (label + 2) 14)]⟩

/-- `srtp_setkey` on a new session; the error is what it returns. -/
def srtpSetkey (created : Unkeyed) (key salt : Bytes) : Except Int Session :=
  if salt.length ≠ 14 then .error einval
  else if !gcrypt.takesKey key.length then .error einval
  else
    -- the key derivation rate is zero
    .ok {
      toUnkeyed := created
      rtp := Proto.derive gcrypt key salt (List.replicate 6 0) 0
      rtcp := Proto.derive gcrypt key salt (encodeUInt32 created.rtcpIndex) 3 }

/-- Keys of the right sizes are set. -/
theorem srtpSetkey_eq_ok (created : Unkeyed) {key salt : Bytes} (sixteen : key.length = 16)
    (fourteen : salt.length = 14) :
    ∃ session, srtpSetkey gcrypt created key salt = .ok session ∧
      session.toUnkeyed = created ∧ session.rtp.window = 0 := by
  rw [srtpSetkey, if_neg (not_not.mpr fourteen), sixteen, gcrypt.takesKey_sixteen]
  exact ⟨_, rfl, rfl, rfl⟩

/-! ### Packets -/

/-- The counter of `rtp_crypt`. -/
def counterBlock (ssrc : Bytes) (roc : UInt32) (seq : UInt16) (salt : Bytes) : Bytes :=
  CounterMode.mask salt ([0, 0, 0, 0] ++ ssrc ++ encodeUInt32 roc ++ encodeUInt16 seq ++ [0, 0])

/-- `rtp_crypt`. -/
def rtpCrypt (key ssrc : Bytes) (roc : UInt32) (seq : UInt16) (salt data : Bytes) : Bytes :=
  doCtrCrypt gcrypt key (counterBlock ssrc roc seq salt) data

/-- `srtp_compute_roc`. -/
def srtpComputeRoc (session : Session) (seq : UInt16) : UInt32 :=
  if seq - session.rtpSeq < 0x8000 then
    if seq < session.rtpSeq then session.rtpRoc + 1 else session.rtpRoc
  else
    if session.rtpSeq < seq then session.rtpRoc - 1 else session.rtpRoc

/-- `rtp_seq`. -/
def rtpSeq (buf : Bytes) : UInt16 :=
  UInt16.ofNat ((buf.getD 2 0).toNat * 256 + (buf.getD 3 0).toNat)

/-- `rtp_digest`. -/
def rtpDigest (key data : Bytes) (roc : UInt32) : Bytes :=
  gcrypt.sha1Hmac key (data ++ encodeUInt32 roc)

/-- Where the encrypted part of a packet starts, if the header is complete. -/
def encryptionOffset (buf : Bytes) : Option UInt16 :=
  let first := buf.getD 0 0
  -- contributing sources are skipped
  let offset := 12 + (first &&& 0xf).toUInt16 * 4
  if first &&& 0x10 ≠ 0 then
    let offset := offset + 4
    if buf.length < offset.toNat then none
    else
      -- the length of the extension is taken for one in bytes, and the sum may wrap
      let extlen := rtpSeq (buf.drop (offset.toNat - 4))
      let offset := offset + extlen
      if buf.length < offset.toNat then none else some offset
  else if buf.length < offset.toNat then none
  else some offset

/-- The window, the sequence number and the rollover counter of `srtp_crypt`; `none` is `EACCES`. -/
def Session.accept (shifts : Shifts) (session : Session) (seq : UInt16) (roc : UInt32) :
    Option Session :=
  let diff := (seq - session.rtpSeq).toInt16
  if 0 < diff then
    some { session with
      rtp := { session.rtp with window := shifts.left session.rtp.window diff.toInt ||| 1 }
      rtpSeq := seq
      rtpRoc := roc }
  else
    let diff := -diff
    if 64 ≤ diff ∨ (shifts.right session.rtp.window diff.toInt).getLsbD 0 = true then none
    else
      some { session with
        rtp := { session.rtp with window := session.rtp.window ||| shifts.left 1 diff.toInt } }

/-- The last part of `srtp_crypt`. -/
def cryptFrom (session : Session) (roc : UInt32) (offset : Nat) (buf : Bytes) : Bytes :=
  if session.flags &&& srtpUnencrypted ≠ 0 then buf
  else
    let ssrc := (buf.drop 8).take 4
    buf.take offset ++ rtpCrypt gcrypt session.rtp.cipher ssrc roc (rtpSeq buf)
      session.rtp.salt.val (buf.drop offset)

/-- `srtp_crypt`. -/
def srtpCrypt (shifts : Shifts) (session : Session) (buf : Bytes) : Int × Session × Bytes :=
  if buf.getD 0 0 >>> 6 ≠ 2 then (einval, session, buf)
  else
    match encryptionOffset buf with
    | none => (einval, session, buf)
    | some offset =>
        let roc := srtpComputeRoc session (rtpSeq buf)
        match session.accept shifts (rtpSeq buf) roc with
        | none => (eacces, session, buf)
        | some session => (0, session, cryptFrom gcrypt session roc offset.toNat buf)

/-- The lengths of the rollover counter and of the tag behind a packet. -/
def Session.trailer (session : Session) (seq : UInt16) : Nat × Nat :=
  if session.flags &&& srtpUnauthenticated ≠ 0 then (0, 0)
  else if rccMode session.flags ≠ 0 then
    if seq % session.rtpRcc = 0 then
      (4, if rccMode session.flags = 3 then 0 else session.tagLen - 4)
    else
      (0, if rccMode session.flags &&& 1 ≠ 0 then 0 else session.tagLen)
  else (0, session.tagLen)

/-- `srtp_send` for the first `len` bytes of a buffer. -/
def srtpSend (shifts : Shifts) (session : Session) (buf : Bytes) (len : Nat) : Result :=
  if len < 12 then ⟨einval, session, buf, len⟩
  else
    let (rocLen, tagLen) := session.trailer (rtpSeq buf)
    let needed := len + rocLen + tagLen
    if buf.length < needed then ⟨enospc, session, buf, needed⟩
    else
      let (val, session, packet) := srtpCrypt gcrypt shifts session (buf.take len)
      if val ≠ 0 then ⟨val, session, packet ++ buf.drop len, needed⟩
      else
        let roc := srtpComputeRoc session (rtpSeq packet)
        let tag := rtpDigest gcrypt session.rtp.mac packet roc
        let carried := if rocLen ≠ 0 then encodeUInt32 session.rtpRoc else []
        ⟨0, session, packet ++ (carried ++ tag.take tagLen) ++ buf.drop needed, needed⟩

/-- `srtp_recv` for a buffer. -/
def srtpRecv (shifts : Shifts) (session : Session) (buf : Bytes) : Result :=
  if buf.length < 12 then ⟨einval, session, buf, buf.length⟩
  else if session.flags &&& srtpUnauthenticated ≠ 0 then
    let (val, session, packet) := srtpCrypt gcrypt shifts session buf
    ⟨val, session, packet, buf.length⟩
  else
    let (rocLen, tagLen) := session.trailer (rtpSeq buf)
    if buf.length < 12 + rocLen + tagLen then ⟨einval, session, buf, buf.length⟩
    else
      let len := buf.length - (rocLen + tagLen)
      let roc := srtpComputeRoc session (rtpSeq buf)
      let rcc := if rocLen ≠ 0 then
          ((decodeUInt32 (buf.drop len)).toOption).getD 0
        else roc
      let tag := rtpDigest gcrypt session.rtp.mac (buf.take len) rcc
      if (buf.drop (len + rocLen)).take tagLen ≠ tag.take tagLen then
        ⟨eacces, session, buf, buf.length⟩
      else
        let session := if rocLen ≠ 0 then
            { session with rtpRoc := session.rtpRoc + (rcc - roc) }
          else session
        let (val, session, packet) := srtpCrypt gcrypt shifts session (buf.take len)
        ⟨val, session, packet ++ buf.drop len, len⟩

/-- A session with a key and a salt. -/
def keyed (created : Unkeyed) : Session :=
  (srtpSetkey .standard created (List.replicate 16 7) (List.replicate 14 9)).toOption.get rfl

/-- A session with short tags. -/
def sample : Session := keyed ((srtpCreate 4 0).get rfl)

/-! ### What a call does -/

variable {gcrypt} {shifts : Shifts} {session : Session}

/-- The session takes a packet that is ahead. -/
def Session.ahead (shifts : Shifts) (session : Session) (distance : Int) (seq : UInt16)
    (roc : UInt32) : Session :=
  { session with
    rtp := { session.rtp with window := shifts.left session.rtp.window distance ||| 1 }
    rtpSeq := seq
    rtpRoc := roc }

/-- The session takes a packet that is not ahead. -/
def Session.mark (shifts : Shifts) (session : Session) (distance : Int) : Session :=
  { session with
    rtp := { session.rtp with window := session.rtp.window ||| shifts.left 1 distance } }

/-- A session takes over a rollover counter that a packet carries. -/
def Session.resume (session : Session) (seq : UInt16) (rcc : UInt32) : Session :=
  { session with rtpRoc := session.rtpRoc + (rcc - srtpComputeRoc session seq) }

/-- Sessions that protect alike. -/
structure SameKeys (left right : Session) : Prop where
  /-- The key of the cipher. -/
  cipher : left.rtp.cipher = right.rtp.cipher
  /-- The key of the message authentication code. -/
  mac : left.rtp.mac = right.rtp.mac
  /-- The salt. -/
  salt : left.rtp.salt = right.rtp.salt
  /-- The flags. -/
  flags : left.flags = right.flags
  /-- How often the rollover counter is carried. -/
  rtpRcc : left.rtpRcc = right.rtpRcc
  /-- The length of a tag. -/
  tagLen : left.tagLen = right.tagLen

theorem SameKeys.refl (session : Session) : SameKeys session session :=
  ⟨rfl, rfl, rfl, rfl, rfl, rfl⟩

theorem SameKeys.symm {left right : Session} (same : SameKeys left right) : SameKeys right left :=
  ⟨same.cipher.symm, same.mac.symm, same.salt.symm, same.flags.symm, same.rtpRcc.symm,
    same.tagLen.symm⟩

theorem SameKeys.trans {left middle right : Session} (first : SameKeys left middle)
    (second : SameKeys middle right) : SameKeys left right :=
  ⟨first.cipher.trans second.cipher, first.mac.trans second.mac, first.salt.trans second.salt,
    first.flags.trans second.flags, first.rtpRcc.trans second.rtpRcc,
    first.tagLen.trans second.tagLen⟩

theorem SameKeys.trailer {left right : Session} (same : SameKeys left right) (seq : UInt16) :
    left.trailer seq = right.trailer seq := by
  rw [Session.trailer, Session.trailer, same.flags, same.rtpRcc, same.tagLen]

theorem SameKeys.cryptFrom {left right : Session} (same : SameKeys left right) (roc : UInt32)
    (offset : Nat) (buf : Bytes) :
    LibSrtp.cryptFrom gcrypt left roc offset buf =
      LibSrtp.cryptFrom gcrypt right roc offset buf := by
  rw [LibSrtp.cryptFrom, LibSrtp.cryptFrom, same.flags, same.cipher, same.salt]

/-- Taking a packet leaves the keys. -/
theorem SameKeys.of_accept {seq : UInt16} {roc : UInt32} {after : Session}
    (accepted : session.accept shifts seq roc = some after) : SameKeys session after := by
  simp only [Session.accept] at accepted
  split at accepted
  · obtain rfl := Option.some.inj accepted
    exact ⟨rfl, rfl, rfl, rfl, rfl, rfl⟩
  · split at accepted
    · exact absurd accepted (by simp)
    · obtain rfl := Option.some.inj accepted
      exact ⟨rfl, rfl, rfl, rfl, rfl, rfl⟩

/-- A packet is refused and nothing is done, or it is taken and crypted. -/
theorem srtpCrypt_cases (gcrypt : Gcrypt) (shifts : Shifts) (session : Session) (buf : Bytes) :
    (∃ ret ≠ 0, srtpCrypt gcrypt shifts session buf = (ret, session, buf)) ∨
      ∃ offset after, encryptionOffset buf = some offset ∧
        session.accept shifts (rtpSeq buf) (srtpComputeRoc session (rtpSeq buf)) = some after ∧
        srtpCrypt gcrypt shifts session buf =
          (0, after, cryptFrom gcrypt after (srtpComputeRoc session (rtpSeq buf)) offset.toNat
            buf) := by
  unfold srtpCrypt
  split
  · exact .inl ⟨einval, by decide, rfl⟩
  · cases header : encryptionOffset buf with
    | none => exact .inl ⟨einval, by decide, rfl⟩
    | some offset =>
        cases accepted : session.accept shifts (rtpSeq buf)
            (srtpComputeRoc session (rtpSeq buf)) with
        | none => exact .inl ⟨eacces, by decide, by simp only [accepted]⟩
        | some after => exact .inr ⟨offset, after, rfl, rfl, by simp only [accepted]⟩

/-- The sequence number is in the first four bytes. -/
theorem rtpSeq_take {buf : Bytes} {len : Nat} (long : 4 ≤ len) :
    rtpSeq (buf.take len) = rtpSeq buf := by
  simp only [rtpSeq, List.getD_eq_getElem?_getD]
  rw [List.getElem?_take_of_lt (by omega), List.getElem?_take_of_lt (by omega)]

theorem take_cryptFrom (gcrypt : Gcrypt) (session : Session) (roc : UInt32) {n : Nat} {buf : Bytes}
    (inside : n ≤ buf.length) : (cryptFrom gcrypt session roc n buf).take n = buf.take n := by
  unfold cryptFrom
  split
  · rfl
  · exact List.take_left' (by rw [List.length_take, Nat.min_eq_left inside])

theorem length_cryptFrom (session : Session) (roc : UInt32) {n : Nat} {buf : Bytes}
    (inside : n ≤ buf.length) : (cryptFrom gcrypt session roc n buf).length = buf.length := by
  unfold cryptFrom
  split
  · rfl
  · rw [List.length_append, rtpCrypt, length_doCtrCrypt, List.length_take, List.length_drop]
    omega

/-- The encrypted part starts within the packet. -/
theorem encryptionOffset_le {buf : Bytes} {offset : UInt16}
    (found : encryptionOffset buf = some offset) : offset.toNat ≤ buf.length := by
  unfold encryptionOffset at found
  dsimp only at found
  split at found
  · split at found
    · exact absurd found (by simp)
    · split at found
      · exact absurd found (by simp)
      · obtain rfl := Option.some.inj found
        omega
  · split at found
    · exact absurd found (by simp)
    · obtain rfl := Option.some.inj found
      omega

/-! ### Without a carried rollover counter -/

/-- The length of the tag behind a packet, if no rollover counter is carried. -/
def Session.tagSize (session : Session) : Nat :=
  if session.flags &&& srtpUnauthenticated ≠ 0 then 0 else session.tagLen

theorem SameKeys.tagSize {left right : Session} (same : SameKeys left right) :
    left.tagSize = right.tagSize := by
  rw [Session.tagSize, Session.tagSize, same.flags, same.tagLen]

theorem trailer_eq (plain : rccMode session.flags = 0) (seq : UInt16) :
    session.trailer seq = (0, session.tagSize) := by
  unfold Session.trailer Session.tagSize
  split
  · rfl
  · rw [if_neg (not_not.mpr plain)]

theorem srtpSend_eq (gcrypt : Gcrypt) (shifts : Shifts) (plain : rccMode session.flags = 0)
    (buf : Bytes) (len : Nat) :
    srtpSend gcrypt shifts session buf len =
      let needed := len + session.tagSize
      let crypted := srtpCrypt gcrypt shifts session (buf.take len)
      if len < 12 then ⟨einval, session, buf, len⟩
      else if buf.length < needed then ⟨enospc, session, buf, needed⟩
      else if crypted.1 ≠ 0 then ⟨crypted.1, crypted.2.1, crypted.2.2 ++ buf.drop len, needed⟩
      else
        let roc := srtpComputeRoc crypted.2.1 (rtpSeq crypted.2.2)
        let tag := rtpDigest gcrypt crypted.2.1.rtp.mac crypted.2.2 roc
        ⟨0, crypted.2.1, crypted.2.2 ++ tag.take session.tagSize ++ buf.drop needed, needed⟩ := by
  simp only [srtpSend, trailer_eq plain, Nat.add_zero, ne_eq, not_true_eq_false, if_false,
    List.nil_append]

theorem srtpRecv_eq (gcrypt : Gcrypt) (shifts : Shifts) (plain : rccMode session.flags = 0)
    (buf : Bytes) :
    srtpRecv gcrypt shifts session buf =
      let len := buf.length - session.tagSize
      let roc := srtpComputeRoc session (rtpSeq buf)
      let tag := rtpDigest gcrypt session.rtp.mac (buf.take len) roc
      let crypted := srtpCrypt gcrypt shifts session (buf.take len)
      if buf.length < 12 + session.tagSize then ⟨einval, session, buf, buf.length⟩
      else if (buf.drop len).take session.tagSize ≠ tag.take session.tagSize then
        ⟨eacces, session, buf, buf.length⟩
      else ⟨crypted.1, crypted.2.1, crypted.2.2 ++ buf.drop len, len⟩ := by
  have trailer := trailer_eq plain (rtpSeq buf)
  simp only [srtpRecv, trailer, Nat.add_zero, Nat.zero_add, ne_eq, not_true_eq_false, if_false]
  by_cases short : buf.length < 12
  · have shorter : buf.length < 12 + session.tagSize := by omega
    rw [if_pos short, if_pos shorter]
  · rw [if_neg short]
    by_cases unauthenticated : session.flags &&& srtpUnauthenticated = 0
    · rw [if_neg (not_not.mpr unauthenticated)]
    · have none : session.tagSize = 0 := if_pos unauthenticated
      simp [none, short, unauthenticated]

end LibSrtp
end Contest
