import Contest.LibSrtp.Index

/-!
# From sender to receiver

What a session makes of a packet depends on the keys and on its packet index only, and a session
with the same keys restores the packet, if its head is less than half a turn away.
-/

namespace Contest
namespace LibSrtp

open ReplayWindow

variable {gcrypt : Gcrypt} {shifts : Shifts} {session : Session} {head : Int}

/-! ### Headers -/

/-- The length of the header: contributing sources, and an extension with its length in bytes. -/
def headerLength (buf : Bytes) : Nat :=
  let sources := 12 + 4 * (buf.getD 0 0 &&& 0xf).toNat
  if buf.getD 0 0 &&& 0x10 ≠ 0 then sources + 4 + (rtpSeq (buf.drop sources)).toNat else sources

theorem le_headerLength (buf : Bytes) : 12 ≤ headerLength buf := by
  unfold headerLength
  dsimp only
  split <;> omega

/-- A packet of RTP with a whole header, which fits into a datagram. -/
structure WellFormed (plain : Bytes) : Prop where
  /-- The version is 2. -/
  version : plain.getD 0 0 >>> 6 = 2
  /-- The header is whole. -/
  whole : headerLength plain ≤ plain.length
  /-- The length has sixteen bits. -/
  small : plain.length < 2 ^ 16

/-- A packet without contributing sources and without an extension. -/
theorem wellFormed_cons {rest : Bytes} (long : 11 ≤ rest.length) (small : rest.length < 65535) :
    WellFormed (0x80 :: rest) := by
  have header : headerLength (0x80 :: rest) = 12 := by
    have plain : ¬(0x80 : UInt8) &&& 0x10 ≠ 0 := by decide
    rw [headerLength, List.getD_cons_zero, if_neg plain]
    rfl
  refine ⟨?_, ?_, ?_⟩
  · rw [List.getD_cons_zero]
    rfl
  · rw [header, List.length_cons]
    omega
  · rw [List.length_cons]
    omega

theorem toNat_sources (first : UInt8) :
    (12 + (first &&& 0xf).toUInt16 * 4).toNat = 12 + 4 * (first &&& 0xf).toNat := by
  have few : (first &&& 0xf).toNat ≤ 15 := by
    rw [UInt8.toNat_and]
    exact Nat.and_le_right
  rw [UInt16.toNat_add, UInt16.toNat_mul, UInt8.toNat_toUInt16]
  show (12 + (first &&& 0xf).toNat * 4 % 2 ^ 16) % 2 ^ 16 = _
  omega

/-- No sum of lengths wraps. -/
theorem encryptionOffset_eq {plain : Bytes} (whole : headerLength plain ≤ plain.length)
    (small : plain.length < 2 ^ 16) :
    ∃ offset, encryptionOffset plain = some offset ∧ offset.toNat = headerLength plain := by
  have sources := toNat_sources (plain.getD 0 0)
  unfold headerLength at whole ⊢
  unfold encryptionOffset
  dsimp only at whole ⊢
  split at whole
  · rename_i extended
    have fixed : (12 + (plain.getD 0 0 &&& 0xf).toUInt16 * 4 + 4).toNat =
        12 + 4 * (plain.getD 0 0 &&& 0xf).toNat + 4 := by
      rw [UInt16.toNat_add, sources]
      show (_ + 4) % 2 ^ 16 = _
      omega
    have start : 12 + 4 * (plain.getD 0 0 &&& 0xf).toNat + 4 - 4 =
        12 + 4 * (plain.getD 0 0 &&& 0xf).toNat := by omega
    have whole_offset : (12 + (plain.getD 0 0 &&& 0xf).toUInt16 * 4 + 4 +
        rtpSeq (plain.drop (12 + 4 * (plain.getD 0 0 &&& 0xf).toNat))).toNat =
          12 + 4 * (plain.getD 0 0 &&& 0xf).toNat + 4 +
            (rtpSeq (plain.drop (12 + 4 * (plain.getD 0 0 &&& 0xf).toNat))).toNat := by
      rw [UInt16.toNat_add, fixed, Nat.mod_eq_of_lt (by omega)]
    rw [if_pos extended, if_pos extended, fixed, start, whole_offset, if_neg (by omega),
      if_neg (by omega)]
    exact ⟨_, rfl, whole_offset⟩
  · rename_i plain_header
    rw [if_neg plain_header, if_neg plain_header, sources, if_neg (by omega)]
    exact ⟨_, rfl, sources⟩

/-- What is read from the first bytes of a buffer. -/
theorem getD_of_take {left right : Bytes} {n i : Nat} (same : left.take n = right.take n)
    (inside : i < n) : left.getD i 0 = right.getD i 0 := by
  rw [List.getD_eq_getElem?_getD, List.getD_eq_getElem?_getD,
    ← List.getElem?_take_of_lt inside, same, List.getElem?_take_of_lt inside]

theorem rtpSeq_drop_of_take {left right : Bytes} {n start : Nat}
    (same : left.take n = right.take n) (inside : start + 4 ≤ n) :
    rtpSeq (left.drop start) = rtpSeq (right.drop start) := by
  have dropped : (left.drop start).take 4 = (right.drop start).take 4 := by
    have shorter := congrArg (List.take (start + 4)) same
    rw [List.take_take, List.take_take, Nat.min_eq_left inside] at shorter
    have later := congrArg (List.drop start) shorter
    rwa [List.drop_take, List.drop_take, Nat.add_sub_cancel_left] at later
  rw [← rtpSeq_take (le_refl 4), dropped, rtpSeq_take (le_refl 4)]

/-- The length of the header is read from the header. -/
theorem headerLength_of_take {left right : Bytes}
    (same : left.take (headerLength left) = right.take (headerLength left)) :
    headerLength right = headerLength left := by
  have long := le_headerLength left
  have first := getD_of_take same (i := 0) (by omega)
  unfold headerLength at same ⊢
  dsimp only at same ⊢
  rw [← first]
  split
  · rename_i extended
    rw [if_pos extended] at same
    rw [rtpSeq_drop_of_take same (by omega)]
  · rfl

/-! ### Protected packets -/

theorem rtpSeq_encodeUInt16 (first second : UInt8) (seq : UInt16) (rest : Bytes) :
    rtpSeq (first :: second :: (encodeUInt16 seq ++ rest)) = seq := by
  have small := seq.toNat_lt
  apply UInt16.toNat_inj.mp
  show (UInt16.ofNat ((UInt8.ofNat (seq.toNat / 256)).toNat * 256 +
    (UInt8.ofNat seq.toNat).toNat)).toNat = seq.toNat
  rw [UInt8.toNat_ofNat', UInt8.toNat_ofNat', UInt16.toNat_ofNat']
  omega

theorem rtpSeq_of_take {left right : Bytes} {n : Nat} (same : left.take n = right.take n)
    (four : 4 ≤ n) : rtpSeq left = rtpSeq right := by
  rw [← rtpSeq_take four, same, rtpSeq_take four]

/-- A packet that is crypted twice is as it was. -/
theorem cryptFrom_cryptFrom (session : Session) (roc : UInt32) {n : Nat} {buf : Bytes}
    (twelve : 12 ≤ n) (inside : n ≤ buf.length) :
    cryptFrom gcrypt session roc n (cryptFrom gcrypt session roc n buf) = buf := by
  have front := take_cryptFrom gcrypt session roc inside
  have seq := rtpSeq_of_take front (by omega)
  have ssrc : ((cryptFrom gcrypt session roc n buf).drop 8).take 4 = (buf.drop 8).take 4 := by
    have shorter := congrArg (fun bytes : Bytes => (bytes.drop 8).take 4) front
    simpa only [List.drop_take, List.take_take, Nat.min_eq_left (show 4 ≤ n - 8 by omega)]
      using shorter
  rcases em (session.flags &&& srtpUnencrypted ≠ 0) with plain | encrypted
  · rw [cryptFrom, if_pos plain, cryptFrom, if_pos plain]
  · have rest : (cryptFrom gcrypt session roc n buf).drop n =
        rtpCrypt gcrypt session.rtp.cipher ((buf.drop 8).take 4) roc (rtpSeq buf)
          session.rtp.salt.val (buf.drop n) := by
      rw [cryptFrom, if_neg encrypted]
      exact List.drop_left' (by rw [List.length_take, Nat.min_eq_left inside])
    rw [cryptFrom, if_neg encrypted]
    dsimp only
    rw [front, seq, ssrc, rest, rtpCrypt, rtpCrypt, doCtrCrypt_doCtrCrypt, List.take_append_drop]

/-- The rollover counter of a packet index. -/
def rocOf (index : Int) : UInt32 := UInt32.ofNat (index / 65536 % 2 ^ 32).toNat

/-- The encrypted packet with a given index. -/
def textOf (gcrypt : Gcrypt) (session : Session) (index : Int) (plain : Bytes) : Bytes :=
  cryptFrom gcrypt session (rocOf index) (headerLength plain) plain

/-- The tag of the packet with a given index. -/
def tagOf (gcrypt : Gcrypt) (session : Session) (index : Int) (plain : Bytes) : Bytes :=
  (rtpDigest gcrypt session.rtp.mac (textOf gcrypt session index plain) (rocOf index)).take
    session.tagSize

/-- What the keys of a session make of the packet with a given index. -/
def protect (gcrypt : Gcrypt) (session : Session) (index : Int) (plain : Bytes) : Bytes :=
  textOf gcrypt session index plain ++ tagOf gcrypt session index plain

theorem SameKeys.textOf {left right : Session} (same : SameKeys left right) (index : Int)
    (plain : Bytes) :
    LibSrtp.textOf gcrypt left index plain = LibSrtp.textOf gcrypt right index plain := by
  rw [LibSrtp.textOf, LibSrtp.textOf, same.cryptFrom]

theorem SameKeys.tagOf {left right : Session} (same : SameKeys left right) (index : Int)
    (plain : Bytes) :
    LibSrtp.tagOf gcrypt left index plain = LibSrtp.tagOf gcrypt right index plain := by
  rw [LibSrtp.tagOf, LibSrtp.tagOf, same.textOf, same.mac, same.tagSize]

theorem SameKeys.protect {left right : Session} (same : SameKeys left right) (index : Int)
    (plain : Bytes) :
    LibSrtp.protect gcrypt left index plain = LibSrtp.protect gcrypt right index plain := by
  rw [LibSrtp.protect, LibSrtp.protect, same.textOf, same.tagOf]

/-- The rollover counter that is computed, as a word. -/
theorem srtpComputeRoc_eq (counted : session.At head) (seq : UInt16) :
    srtpComputeRoc session seq = rocOf (packetIndex head seq) := by
  have roc := toNat_srtpComputeRoc counted seq
  apply UInt32.toNat_inj.mp
  rw [rocOf, UInt32.toNat_ofNat']
  omega

theorem tagSize_le (session : Session) : session.tagSize ≤ 20 := by
  unfold Session.tagSize
  split
  · omega
  · exact session.tagLen_le

@[simp]
theorem length_tagOf (session : Session) (index : Int) (plain : Bytes) :
    (tagOf gcrypt session index plain).length = session.tagSize := by
  rw [tagOf, List.length_take, rtpDigest, gcrypt.length_sha1Hmac,
    Nat.min_eq_left (tagSize_le session)]

/-- An encrypted packet has the header of the packet. -/
structure SameHeader (text plain : Bytes) : Prop where
  /-- The version. -/
  version : text.getD 0 0 = plain.getD 0 0
  /-- The length of the header. -/
  header : headerLength text = headerLength plain
  /-- The sequence number. -/
  seq : rtpSeq text = rtpSeq plain
  /-- The length. -/
  length : text.length = plain.length

theorem sameHeader_cryptFrom (gcrypt : Gcrypt) (session : Session) (roc : UInt32) {plain : Bytes}
    (formed : WellFormed plain) :
    SameHeader (cryptFrom gcrypt session roc (headerLength plain) plain) plain := by
  have long := le_headerLength plain
  have front := take_cryptFrom gcrypt session roc formed.whole
  exact {
    version := getD_of_take front (by omega)
    header := headerLength_of_take front.symm
    seq := rtpSeq_of_take front (by omega)
    length := length_cryptFrom session roc formed.whole }

theorem sameHeader_textOf (gcrypt : Gcrypt) (session : Session) (index : Int) {plain : Bytes}
    (formed : WellFormed plain) : SameHeader (textOf gcrypt session index plain) plain :=
  sameHeader_cryptFrom gcrypt session (rocOf index) formed

/-- `srtp_crypt` of a packet with a whole header. -/
theorem srtpCrypt_eq (counted : session.At head) {buf : Bytes}
    (version : buf.getD 0 0 >>> 6 = 2) (whole : headerLength buf ≤ buf.length)
    (small : buf.length < 2 ^ 16) :
    srtpCrypt gcrypt shifts session buf =
      match session.accept shifts (rtpSeq buf) (srtpComputeRoc session (rtpSeq buf)) with
      | none => (eacces, session, buf)
      | some after => (0, after, cryptFrom gcrypt session
          (rocOf (packetIndex head (rtpSeq buf))) (headerLength buf) buf) := by
  obtain ⟨offset, header, length⟩ := encryptionOffset_eq whole small
  unfold srtpCrypt
  rw [if_neg (not_not.mpr version), header]
  dsimp only
  cases accepted : session.accept shifts (rtpSeq buf) (srtpComputeRoc session (rtpSeq buf)) with
  | none => rfl
  | some after =>
      rw [length, srtpComputeRoc_eq counted, (SameKeys.of_accept accepted).cryptFrom]

/-- A session that has taken a packet computes the same rollover counter for it. -/
theorem srtpComputeRoc_after {seq : UInt16} {after : Session} (counted : session.At head)
    (accepted : session.accept shifts seq (srtpComputeRoc session seq) = some after) :
    srtpComputeRoc after seq = srtpComputeRoc session seq := by
  obtain ⟨residue, lower, upper⟩ := packetIndex_spec head seq
  rcases Int.lt_or_le head (packetIndex head seq) with later | late
  · rw [accept_of_lt shifts _ counted later] at accepted
    obtain rfl := Option.some.inj accepted
    rw [srtpComputeRoc_eq (at_ahead shifts _ counted seq), srtpComputeRoc_eq counted,
      packetIndex_eq residue (by omega) (by omega)]
  · rw [accept_of_le counted late] at accepted
    split at accepted
    · exact absurd accepted (by simp)
    · obtain rfl := Option.some.inj accepted
      rfl

/-- A packet is refused, or it is protected. -/
theorem srtpSend_spec (gcrypt : Gcrypt) (shifts : Shifts)
    (unmarked : rccMode session.flags = 0) (counted : session.At head)
    {plain room : Bytes} (formed : WellFormed plain) (enough : session.tagSize ≤ room.length) :
    srtpSend gcrypt shifts session (plain ++ room) plain.length =
      match session.accept shifts (rtpSeq plain) (srtpComputeRoc session (rtpSeq plain)) with
      | none => ⟨eacces, session, plain ++ room, plain.length + session.tagSize⟩
      | some after =>
          ⟨0, after, protect gcrypt session (packetIndex head (rtpSeq plain)) plain ++
            room.drop session.tagSize, plain.length + session.tagSize⟩ := by
  have twelve := (le_headerLength plain).trans formed.whole
  have fits : ¬(plain ++ room).length < plain.length + session.tagSize := by
    rw [List.length_append]
    omega
  have rest : (plain ++ room).drop (plain.length + session.tagSize) =
      room.drop session.tagSize := by
    rw [List.drop_append, List.drop_of_length_le (by omega), List.nil_append,
      Nat.add_sub_cancel_left]
  have refused : eacces ≠ 0 := by decide
  rw [srtpSend_eq gcrypt shifts unmarked]
  dsimp only
  rw [if_neg (by omega), if_neg fits, List.take_left, List.drop_left, rest,
    srtpCrypt_eq counted formed.version formed.whole formed.small]
  cases accepted : session.accept shifts (rtpSeq plain) (srtpComputeRoc session (rtpSeq plain)) with
  | none => exact if_pos refused
  | some after =>
      have same := SameKeys.of_accept accepted
      have header := sameHeader_textOf gcrypt session
        (packetIndex head (rtpSeq plain)) formed
      have seq : rtpSeq (cryptFrom gcrypt session (rocOf (packetIndex head (rtpSeq plain)))
          (headerLength plain) plain) = rtpSeq plain := header.seq
      dsimp only
      rw [if_neg (not_not.mpr rfl), seq, srtpComputeRoc_after counted accepted,
        srtpComputeRoc_eq counted, ← same.mac]
      rfl

/-- A protected packet is taken apart. -/
theorem protect_parts (gcrypt : Gcrypt) (session : Session) (index : Int) {plain : Bytes}
    (formed : WellFormed plain) :
    (protect gcrypt session index plain).length = plain.length + session.tagSize ∧
      (protect gcrypt session index plain).take plain.length = textOf gcrypt session index plain ∧
      (protect gcrypt session index plain).drop plain.length = tagOf gcrypt session index plain ∧
      rtpSeq (protect gcrypt session index plain) = rtpSeq plain := by
  have header := sameHeader_textOf gcrypt session index formed
  have twelve := (le_headerLength plain).trans formed.whole
  have text : (protect gcrypt session index plain).take plain.length =
      textOf gcrypt session index plain := List.take_left' header.length
  refine ⟨?_, text, List.drop_left' header.length, ?_⟩
  · rw [protect, List.length_append, header.length, length_tagOf]
  · rw [← header.seq, ← text, rtpSeq_take (by omega)]

/-- A protected packet is refused, or it is restored in front of its tag. -/
theorem srtpRecv_spec (gcrypt : Gcrypt) (shifts : Shifts)
    (unmarked : rccMode session.flags = 0) (counted : session.At head)
    {plain : Bytes} (formed : WellFormed plain) {index : Int}
    (found : packetIndex head (rtpSeq plain) = index) :
    srtpRecv gcrypt shifts session (protect gcrypt session index plain) =
      match session.accept shifts (rtpSeq plain) (srtpComputeRoc session (rtpSeq plain)) with
      | none => ⟨eacces, session, protect gcrypt session index plain, plain.length⟩
      | some after => ⟨0, after, plain ++ tagOf gcrypt session index plain, plain.length⟩ := by
  obtain ⟨length, text, tag, seq⟩ := protect_parts gcrypt session index formed
  have header := sameHeader_textOf gcrypt session index formed
  have twelve := (le_headerLength plain).trans formed.whole
  have verified : (tagOf gcrypt session index plain).take session.tagSize =
      (rtpDigest gcrypt session.rtp.mac (textOf gcrypt session index plain)
        (rocOf index)).take session.tagSize :=
    List.take_of_length_le (Nat.le_of_eq (length_tagOf session index plain))
  rw [srtpRecv_eq gcrypt shifts unmarked]
  dsimp only
  rw [length, Nat.add_sub_cancel, text, tag, seq, if_neg (by omega),
    srtpComputeRoc_eq counted, found, if_neg (not_not.mpr verified),
    srtpCrypt_eq counted (header.version ▸ formed.version)
      (by rw [header.header, header.length]; exact formed.whole)
      (by rw [header.length]; exact formed.small), header.seq, header.header,
    srtpComputeRoc_eq counted, found]
  cases session.accept shifts (rtpSeq plain) (rocOf index) with
  | none =>
      show (⟨eacces, session, textOf gcrypt session index plain ++ _, _⟩ : Result) = _
      rfl
  | some after =>
      have restored : cryptFrom gcrypt session (rocOf index) (headerLength plain)
          (textOf gcrypt session index plain) = plain :=
        cryptFrom_cryptFrom session (rocOf index) (le_headerLength plain) formed.whole
      simp only [restored]

/-- A packet whose tag is not the one under the rollover counter that is computed is refused. -/
theorem srtpRecv_forged (gcrypt : Gcrypt) (shifts : Shifts)
    (unmarked : rccMode session.flags = 0) {index : Int} {plain : Bytes} (formed : WellFormed plain)
    (differs : tagOf gcrypt session index plain ≠
      (rtpDigest gcrypt session.rtp.mac (textOf gcrypt session index plain)
        (srtpComputeRoc session (rtpSeq plain))).take session.tagSize) :
    srtpRecv gcrypt shifts session (protect gcrypt session index plain) =
      ⟨eacces, session, protect gcrypt session index plain, plain.length + session.tagSize⟩ := by
  have received := srtpRecv_eq gcrypt shifts unmarked (protect gcrypt session index plain)
  obtain ⟨length, text, tag, seq⟩ := protect_parts gcrypt session index formed
  have twelve := (le_headerLength plain).trans formed.whole
  have whole : (tagOf gcrypt session index plain).take session.tagSize =
      tagOf gcrypt session index plain :=
    List.take_of_length_le (Nat.le_of_eq (length_tagOf session index plain))
  dsimp only at received
  rw [length, Nat.add_sub_cancel, text, tag, seq, if_neg (by omega), whole,
    if_pos differs] at received
  exact received

end LibSrtp
end Contest
