import Contest.LibSrtp.Calls
import Contest.LibSrtp.Channel

/-!
# Carried rollover counters

With one of the modes of rollover counter carry, some packets carry the rollover counter.  Whatever
the two ends have made of the stream before, they agree on its packet index after such a packet.
-/

namespace Contest
namespace LibSrtp

variable {gcrypt : Gcrypt} {shifts : Shifts} {session sender receiver : Session}

/-- The assertion of `srtp_recv` holds. -/
theorem srtpComputeRoc_resume (session : Session) (seq : UInt16) (rcc : UInt32) :
    srtpComputeRoc (session.resume seq rcc) seq = rcc := by
  have roc_lt := session.rtpRoc.toNat_lt
  have rcc_lt := rcc.toNat_lt
  apply UInt32.toNat_inj.mp
  unfold Session.resume srtpComputeRoc
  dsimp only
  split
  · split
    · simp only [UInt32.toNat_add, UInt32.toNat_sub, UInt32.toNat_one]
      omega
    · simp only [UInt32.toNat_add, UInt32.toNat_sub]
      omega
  · split
    · simp only [UInt32.toNat_add, UInt32.toNat_sub, UInt32.toNat_one]
      omega
    · simp only [UInt32.toNat_add, UInt32.toNat_sub]
      omega

theorem rtpSeq_append {front : Bytes} (four : 4 ≤ front.length) (rest : Bytes) :
    rtpSeq (front ++ rest) = rtpSeq front := by
  rw [← rtpSeq_take four, List.take_left]

/-- A packet is ahead of a session, as far as sequence numbers tell. -/
def Session.Behind (session : Session) (seq : UInt16) : Prop :=
  0 < (seq - session.rtpSeq).toInt16

/-- A packet that is ahead is taken. -/
theorem Session.Behind.accept (shifts : Shifts) {seq : UInt16} (behind : session.Behind seq)
    (roc : UInt32) : ∃ after, session.accept shifts seq roc = some after ∧ after.rtpRoc = roc ∧
      after.rtpSeq = seq :=
  ⟨_, if_pos behind, rfl, rfl⟩

/-- `srtp_crypt` of a packet that is ahead. -/
theorem srtpCrypt_of_behind (gcrypt : Gcrypt) (shifts : Shifts) {buf : Bytes}
    (behind : session.Behind (rtpSeq buf)) (version : buf.getD 0 0 >>> 6 = 2)
    (whole : headerLength buf ≤ buf.length) (small : buf.length < 2 ^ 16) :
    ∃ after, srtpCrypt gcrypt shifts session buf = (0, after,
        cryptFrom gcrypt session (srtpComputeRoc session (rtpSeq buf)) (headerLength buf) buf) ∧
      SameKeys session after ∧ after.rtpRoc = srtpComputeRoc session (rtpSeq buf) ∧
      after.rtpSeq = rtpSeq buf ∧
      srtpComputeRoc after (rtpSeq buf) = srtpComputeRoc session (rtpSeq buf) := by
  obtain ⟨after, accepted, roc, seq⟩ :=
    behind.accept shifts (srtpComputeRoc session (rtpSeq buf))
  refine ⟨after, ?_, SameKeys.of_accept accepted, roc, seq,
    srtpComputeRoc_after session.at_self accepted⟩
  rw [srtpCrypt_eq session.at_self version whole small, accepted,
    ← srtpComputeRoc_eq session.at_self]

/-- The wire format of a packet with its rollover counter. -/
def carry (gcrypt : Gcrypt) (session : Session) (roc : UInt32) (tagLen : Nat) (plain : Bytes) :
    Bytes :=
  let text := cryptFrom gcrypt session roc (headerLength plain) plain
  text ++ (encodeUInt32 roc ++ (rtpDigest gcrypt session.rtp.mac text roc).take tagLen)

/-- A packet is sent with its rollover counter. -/
theorem srtpSend_carrying (gcrypt : Gcrypt) (shifts : Shifts) {plain room : Bytes}
    (formed : WellFormed plain) {tagLen : Nat}
    (carries : sender.trailer (rtpSeq plain) = (4, tagLen)) (enough : 4 + tagLen ≤ room.length)
    (behind : sender.Behind (rtpSeq plain)) :
    ∃ after, srtpSend gcrypt shifts sender (plain ++ room) plain.length =
        ⟨0, after, carry gcrypt sender (srtpComputeRoc sender (rtpSeq plain)) tagLen plain ++
          room.drop (4 + tagLen), plain.length + 4 + tagLen⟩ ∧
      after.rtpRoc = srtpComputeRoc sender (rtpSeq plain) ∧ after.rtpSeq = rtpSeq plain := by
  have twelve := (le_headerLength plain).trans formed.whole
  obtain ⟨after, crypted, same, roc, seq, again⟩ := srtpCrypt_of_behind gcrypt shifts behind
    formed.version formed.whole formed.small
  have header := sameHeader_cryptFrom gcrypt sender (srtpComputeRoc sender (rtpSeq plain)) formed
  have fits : ¬(plain ++ room).length < plain.length + 4 + tagLen := by
    rw [List.length_append]
    omega
  have rest : (plain ++ room).drop (plain.length + 4 + tagLen) = room.drop (4 + tagLen) := by
    rw [List.drop_append, List.drop_of_length_le (by omega), List.nil_append]
    congr 1
    omega
  refine ⟨after, ?_, roc, seq⟩
  rw [srtpSend, if_neg (by omega), rtpSeq_append (by omega), carries]
  dsimp only
  rw [if_neg fits, List.take_left, crypted]
  dsimp only
  rw [if_neg (not_not.mpr rfl), if_pos (by decide), header.seq, again, roc, rest, ← same.mac]
  rfl

/-- A packet with its rollover counter is taken apart. -/
theorem carry_parts (gcrypt : Gcrypt) (session : Session) (roc : UInt32) {tagLen : Nat}
    (short : tagLen ≤ 20) {plain : Bytes} (formed : WellFormed plain) :
    let text := cryptFrom gcrypt session roc (headerLength plain) plain
    let tag := (rtpDigest gcrypt session.rtp.mac text roc).take tagLen
    (carry gcrypt session roc tagLen plain).length = plain.length + (4 + tagLen) ∧
      (carry gcrypt session roc tagLen plain).take plain.length = text ∧
      (carry gcrypt session roc tagLen plain).drop plain.length = encodeUInt32 roc ++ tag ∧
      (carry gcrypt session roc tagLen plain).drop (plain.length + 4) = tag ∧
      tag.length = tagLen := by
  intro text tag
  have header := sameHeader_cryptFrom gcrypt session roc formed
  have size : tag.length = tagLen := by
    rw [List.length_take, rtpDigest, gcrypt.length_sha1Hmac, Nat.min_eq_left short]
  refine ⟨?_, List.take_left' header.length, List.drop_left' header.length, ?_, size⟩
  · show (text ++ (encodeUInt32 roc ++ tag)).length = _
    rw [List.length_append, List.length_append, size, header.length, length_encodeUInt32]
  · show (text ++ (encodeUInt32 roc ++ tag)).drop (plain.length + 4) = _
    rw [← List.append_assoc]
    exact List.drop_left' (by rw [List.length_append, header.length, length_encodeUInt32])

/-- A packet that carries its rollover counter is restored by a session that is behind, whatever its
own rollover counter is. -/
theorem srtpRecv_carrying (gcrypt : Gcrypt) (shifts : Shifts) {plain : Bytes}
    (formed : WellFormed plain) {tagLen : Nat} (roc : UInt32)
    (carries : receiver.trailer (rtpSeq plain) = (4, tagLen))
    (behind : receiver.Behind (rtpSeq plain)) :
    ∃ after, srtpRecv gcrypt shifts receiver (carry gcrypt receiver roc tagLen plain) =
        ⟨0, after, plain ++ (carry gcrypt receiver roc tagLen plain).drop plain.length,
          plain.length⟩ ∧
      after.rtpRoc = roc ∧ after.rtpSeq = rtpSeq plain := by
  have twelve := (le_headerLength plain).trans formed.whole
  have short : tagLen ≤ 20 := by
    have bound := (trailer_le receiver (rtpSeq plain)).2.1
    rwa [carries] at bound
  have authenticated : ¬receiver.flags &&& srtpUnauthenticated ≠ 0 := by
    intro unauthenticated
    rw [Session.trailer, if_pos unauthenticated] at carries
    exact absurd (Prod.mk.inj carries).1 (by decide)
  let text := cryptFrom gcrypt receiver roc (headerLength plain) plain
  have header : SameHeader text plain := sameHeader_cryptFrom gcrypt receiver roc formed
  obtain ⟨length, front, behind_text, tag, size⟩ :=
    carry_parts gcrypt receiver roc short formed
  have seq : rtpSeq (carry gcrypt receiver roc tagLen plain) = rtpSeq plain := by
    rw [← header.seq, ← rtpSeq_take (show 4 ≤ plain.length by omega), front]
  let resumed := receiver.resume (rtpSeq plain) roc
  have found : srtpComputeRoc resumed (rtpSeq text) = roc := by
    rw [header.seq]
    exact srtpComputeRoc_resume receiver (rtpSeq plain) roc
  obtain ⟨after, crypted, -, after_roc, after_seq, -⟩ := srtpCrypt_of_behind gcrypt shifts
    (show resumed.Behind (rtpSeq text) from header.seq.symm ▸ behind)
    (header.version ▸ formed.version)
    (by rw [header.header, header.length]; exact formed.whole)
    (by rw [header.length]; exact formed.small)
  rw [found, header.header] at crypted
  have restored : cryptFrom gcrypt resumed roc (headerLength plain) text = plain :=
    cryptFrom_cryptFrom receiver roc (le_headerLength plain) formed.whole
  have whole : ((rtpDigest gcrypt receiver.rtp.mac text roc).take tagLen).take tagLen =
      (rtpDigest gcrypt receiver.rtp.mac text roc).take tagLen :=
    List.take_of_length_le (Nat.le_of_eq size)
  refine ⟨after, ?_, after_roc.trans found, after_seq.trans header.seq⟩
  rw [srtpRecv, if_neg (by omega), if_neg authenticated, seq, carries]
  dsimp only
  have four : (4 : Nat) ≠ 0 := by decide
  rw [length, if_neg (by omega), Nat.add_sub_cancel, behind_text, decodeUInt32_encodeUInt32, front,
    tag]
  simp only [if_pos four, Except.toOption, Option.getD_some]
  rw [if_neg (not_not.mpr whole)]
  show (⟨(srtpCrypt gcrypt shifts resumed text).1, (srtpCrypt gcrypt shifts resumed text).2.1,
    (srtpCrypt gcrypt shifts resumed text).2.2 ++ _, _⟩ : Result) = _
  rw [crypted, restored]

/-- Whatever the states of the two ends are: a packet that carries the rollover counter and is ahead
of both comes through, and after it the two ends count alike. -/
theorem rollover_carried (gcrypt : Gcrypt) (shifts : Shifts) (keys : SameKeys sender receiver)
    {plain room : Bytes} (formed : WellFormed plain) {tagLen : Nat}
    (carries : sender.trailer (rtpSeq plain) = (4, tagLen)) (enough : 4 + tagLen ≤ room.length)
    (sender_behind : sender.Behind (rtpSeq plain))
    (receiver_behind : receiver.Behind (rtpSeq plain)) :
    let sent := srtpSend gcrypt shifts sender (plain ++ room) plain.length
    let received := srtpRecv gcrypt shifts receiver (sent.buf.take sent.len)
    sent.ret = 0 ∧ received.ret = 0 ∧ received.buf.take received.len = plain ∧
      received.session.rtpRoc = sent.session.rtpRoc ∧
      received.session.rtpSeq = sent.session.rtpSeq := by
  have short : tagLen ≤ 20 := by
    have bound := (trailer_le sender (rtpSeq plain)).2.1
    rwa [carries] at bound
  obtain ⟨sent, sent_eq, sent_roc, sent_seq⟩ := srtpSend_carrying gcrypt shifts formed carries
    enough sender_behind
  let roc := srtpComputeRoc sender (rtpSeq plain)
  obtain ⟨length, -⟩ := carry_parts gcrypt sender roc short formed
  have wire : (carry gcrypt sender roc tagLen plain ++ room.drop (4 + tagLen)).take
      (plain.length + 4 + tagLen) = carry gcrypt receiver roc tagLen plain := by
    rw [List.take_left' (by omega), carry, carry, keys.cryptFrom, keys.mac]
  obtain ⟨received, received_eq, received_roc, received_seq⟩ := srtpRecv_carrying
    gcrypt shifts formed roc (keys.trailer (rtpSeq plain) ▸ carries)
      receiver_behind
  dsimp only
  rw [sent_eq]
  dsimp only
  rw [wire, received_eq]
  exact ⟨rfl, rfl, List.take_left, received_roc.trans sent_roc.symm,
    received_seq.trans sent_seq.symm⟩

/-- A session whose packets all carry the rollover counter, in the middle of a stream. -/
def carrying (roc : UInt32) : Session :=
  { keyed ((srtpCreate 10 0x10).get rfl) with
    rtpRoc := roc
    rtpSeq := 60000 }

/-- A packet at the end of a turn. -/
def lastOfTurn : Bytes := 0x80 :: [96, 0xff, 0xff, 0, 0, 0, 0, 1, 2, 3, 4, 5, 6]

/-- Ten bytes of room. -/
def spare : Bytes := List.replicate 10 0

/-- The other end has lost three turns. -/
theorem rollover_carried_sample :
    let sent := srtpSend .standard .modular (carrying 3)
      (lastOfTurn ++ spare) lastOfTurn.length
    let received := srtpRecv .standard .modular (carrying 0) (sent.buf.take sent.len)
    sent.ret = 0 ∧ received.ret = 0 ∧ received.buf.take received.len = lastOfTurn ∧
      received.session.rtpRoc = sent.session.rtpRoc ∧
      received.session.rtpSeq = sent.session.rtpSeq := by
  have keys : SameKeys (carrying 3) (carrying 0) := ⟨rfl, rfl, rfl, rfl, rfl, rfl⟩
  have formed : WellFormed lastOfTurn := wellFormed_cons (by decide) (by decide)
  have carries : (carrying 3).trailer (rtpSeq lastOfTurn) = (4, 6) := rfl
  have ahead : (0 : Int16) < (rtpSeq lastOfTurn - 60000).toInt16 := by decide
  have sender_behind : (carrying 3).Behind (rtpSeq lastOfTurn) := ahead
  have receiver_behind : (carrying 0).Behind (rtpSeq lastOfTurn) := ahead
  exact rollover_carried .standard .modular keys formed carries (by decide) sender_behind
    receiver_behind

end LibSrtp
end Contest
