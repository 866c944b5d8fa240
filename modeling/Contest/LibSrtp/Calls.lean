import Contest.LibSrtp.Session

/-!
# Calls of the SRTP library

Whatever the keys and the flags of a session are and whatever is in a buffer, a call stays within the
buffer, and a call that fails leaves the buffer and the session as they are, save for a rollover
counter that the packet has carried.
-/

namespace Contest
namespace LibSrtp

variable {gcrypt : Gcrypt} {shifts : Shifts} {session : Session}

/-- A call on a session. -/
inductive Call
  /-- `srtp_send`. -/
  | send (buf : Bytes) (len : Nat)
  /-- `srtp_recv`. -/
  | recv (buf : Bytes)
deriving DecidableEq

namespace Call

/-- Make a call. -/
def run (gcrypt : Gcrypt) (shifts : Shifts) (session : Session) : Call → Result
  | send buf len => srtpSend gcrypt shifts session buf len
  | recv buf => srtpRecv gcrypt shifts session buf

/-- What `srtp_crypt` is called with. -/
def packet (session : Session) : Call → Bytes
  | send buf len => buf.take len
  | recv buf =>
      let trailer := session.trailer (rtpSeq buf)
      buf.take (buf.length - (trailer.1 + trailer.2))

end Call

/-- The buffer of a call. -/
def Call.buf : Call → Bytes
  | send buf _ => buf
  | recv buf => buf

theorem Call.length_packet_le (session : Session) (call : Call) :
    (call.packet session).length ≤ call.buf.length := by
  cases call with
  | send buf len => exact List.length_take_le' len buf
  | recv buf => exact List.length_take_le' _ buf

/-! ### What a call leaves -/

/-- A result lies within the buffer of the call, and if the call has failed, it has changed nothing
but the rollover counter. -/
structure Contained (session : Session) (buf : Bytes) (result : Result) : Prop where
  /-- The buffer keeps its size. -/
  size : result.buf.length = buf.length
  /-- On success there is a whole header, and the packet lies in the buffer. -/
  len : result.ret = 0 → 12 ≤ result.len ∧ result.len ≤ buf.length
  /-- On failure the buffer is as it was. -/
  restored : result.ret ≠ 0 → result.buf = buf
  /-- On failure the session is as it was, save for its rollover counter. -/
  kept : result.ret ≠ 0 → ∃ roc, result.session = { session with rtpRoc := roc }
  /-- Without a carried rollover counter, it is as it was. -/
  unmarked : result.ret ≠ 0 → rccMode session.flags = 0 → result.session = session

theorem contained_of_failure {ret : Int} {buf : Bytes} {len : Nat} (failed : ret ≠ 0) :
    Contained session buf ⟨ret, session, buf, len⟩ where
  size := rfl
  len := fun success => absurd success failed
  restored := fun _ => rfl
  kept := fun _ => ⟨session.rtpRoc, rfl⟩
  unmarked := fun _ _ => rfl

/-- `srtp_crypt` keeps the length of a packet, and a packet that is refused stays as it is. -/
theorem srtpCrypt_contained (gcrypt : Gcrypt) (shifts : Shifts) (session : Session)
    (buf : Bytes) :
    (srtpCrypt gcrypt shifts session buf).2.2.length = buf.length ∧
      ((srtpCrypt gcrypt shifts session buf).1 ≠ 0 →
        (srtpCrypt gcrypt shifts session buf).2 = (session, buf)) := by
  rcases srtpCrypt_cases gcrypt shifts session buf with
    ⟨ret, failed, crypted⟩ | ⟨offset, after, header, -, crypted⟩
  · rw [crypted]
    exact ⟨rfl, fun _ => rfl⟩
  · rw [crypted]
    exact ⟨length_cryptFrom after _ (encryptionOffset_le header), fun failed => absurd rfl failed⟩

/-- A call ends with `srtp_crypt` for the first bytes of its buffer. -/
theorem contained_of_crypt (gcrypt : Gcrypt) (shifts : Shifts) {resumed : Session} (roc : UInt32)
    (same : resumed = { session with rtpRoc := roc })
    (unmarked : rccMode session.flags = 0 → resumed = session) {buf : Bytes} {len : Nat}
    (twelve : 12 ≤ len) (inside : len ≤ buf.length) :
    let crypted := srtpCrypt gcrypt shifts resumed (buf.take len)
    Contained session buf ⟨crypted.1, crypted.2.1, crypted.2.2 ++ buf.drop len, len⟩ := by
  obtain ⟨length, refused⟩ := srtpCrypt_contained gcrypt shifts resumed (buf.take len)
  refine ⟨?_, fun _ => ⟨twelve, inside⟩, fun failed => ?_, fun failed => ⟨roc, ?_⟩,
    fun failed plain => ?_⟩
  · rw [List.length_append, length, ← List.length_append, List.take_append_drop]
  · dsimp only at failed ⊢
    rw [refused failed, List.take_append_drop]
  · dsimp only at failed ⊢
    rw [refused failed, same]
  · dsimp only at failed ⊢
    rw [refused failed, unmarked plain]

/-- The rollover counter and the tag behind a packet. -/
theorem trailer_le (session : Session) (seq : UInt16) :
    ((session.trailer seq).1 = 0 ∨ (session.trailer seq).1 = 4) ∧
      (session.trailer seq).2 ≤ 20 ∧ (session.trailer seq).1 + (session.trailer seq).2 ≤ 24 := by
  have short := session.tagLen_le
  unfold Session.trailer
  split
  · simp
  · split
    · split
      · refine ⟨.inr rfl, ?_, ?_⟩
        · dsimp only
          split <;> omega
        · dsimp only
          split <;> omega
      · refine ⟨.inl rfl, ?_, ?_⟩
        · dsimp only
          split <;> omega
        · dsimp only
          split <;> omega
    · refine ⟨.inl rfl, ?_, ?_⟩ <;> dsimp only <;> omega

theorem srtpSend_contained (gcrypt : Gcrypt) (shifts : Shifts) (session : Session) (buf : Bytes)
    (len : Nat) : Contained session buf (srtpSend gcrypt shifts session buf len) := by
  obtain ⟨carried, short, -⟩ := trailer_le session (rtpSeq buf)
  obtain ⟨length, refused⟩ := srtpCrypt_contained gcrypt shifts session (buf.take len)
  unfold srtpSend
  split
  · exact contained_of_failure (by decide)
  · rename_i whole
    dsimp only
    split
    · exact contained_of_failure (by decide)
    · rename_i room
      split
      · rename_i failed
        obtain ⟨same, text⟩ := Prod.ext_iff.mp (refused failed)
        rw [same, text, List.take_append_drop]
        exact contained_of_failure failed
      · have text : (srtpCrypt gcrypt shifts session (buf.take len)).2.2.length = len := by
          rw [length, List.length_take]
          omega
        have counter : (if (session.trailer (rtpSeq buf)).1 ≠ 0 then
            encodeUInt32 (srtpCrypt gcrypt shifts session (buf.take len)).2.1.rtpRoc
              else []).length = (session.trailer (rtpSeq buf)).1 := by
          rcases carried with none | four
          · rw [none]
            rfl
          · rw [four]
            rfl
        refine ⟨?_, fun _ => ?_, fun failed => absurd rfl failed, fun failed => absurd rfl failed,
          fun failed => absurd rfl failed⟩
        · simp only [List.length_append, text, counter, List.length_take, List.length_drop,
            rtpDigest, gcrypt.length_sha1Hmac]
          omega
        · dsimp only
          omega

theorem srtpRecv_contained (gcrypt : Gcrypt) (shifts : Shifts) (session : Session)
    (buf : Bytes) : Contained session buf (srtpRecv gcrypt shifts session buf) := by
  unfold srtpRecv
  split
  · exact contained_of_failure (by decide)
  · rename_i whole
    split
    · have ended := contained_of_crypt gcrypt shifts session.rtpRoc (rfl : session = _)
        (fun _ => rfl) (show 12 ≤ buf.length by omega) (le_refl buf.length)
      dsimp only at ended
      rwa [List.take_length, List.drop_length, List.append_nil] at ended
    · dsimp only
      split
      · exact contained_of_failure (by decide)
      · rename_i room
        by_cases carried : (session.trailer (rtpSeq buf)).1 = 0
        · simp only [carried, ne_eq, not_true_eq_false, if_false] at room ⊢
          split
          · exact contained_of_failure (by decide)
          · exact contained_of_crypt gcrypt shifts _ rfl (fun _ => rfl) (by omega) (by omega)
        · simp only [carried, ne_eq, not_false_eq_true, if_true]
          split
          · exact contained_of_failure (by decide)
          · refine contained_of_crypt gcrypt shifts _ rfl (fun plain => ?_) (by omega) (by omega)
            exact absurd (congrArg Prod.fst (trailer_eq plain (rtpSeq buf))) carried

/-- A packet is taken, and crypted in place. -/
structure Crypts (gcrypt : Gcrypt) (shifts : Shifts) (session : Session) (packet : Bytes)
    (result : Result) : Prop where
  /-- The call succeeds. -/
  ret : result.ret = 0
  /-- The fixed part of the header is there. -/
  twelve : 12 ≤ packet.length
  /-- The number is fresh. -/
  accepted : session.accept shifts (rtpSeq packet) (srtpComputeRoc session (rtpSeq packet)) =
    some result.session
  /-- The packet is crypted from its offset on. -/
  text : ∃ offset, encryptionOffset packet = some offset ∧
    result.buf.take packet.length =
      cryptFrom gcrypt session (srtpComputeRoc session (rtpSeq packet)) offset.toNat packet

theorem crypts_of_crypt {packet rest : Bytes} {len : Nat} (twelve : 12 ≤ packet.length)
    {offset : UInt16} {after : Session} (header : encryptionOffset packet = some offset)
    (accepted : session.accept shifts (rtpSeq packet) (srtpComputeRoc session (rtpSeq packet)) =
      some after) :
    Crypts gcrypt shifts session packet ⟨0, after, cryptFrom gcrypt after
      (srtpComputeRoc session (rtpSeq packet)) offset.toNat packet ++ rest, len⟩ := by
  refine ⟨rfl, twelve, accepted, offset, header, ?_⟩
  have length : (cryptFrom gcrypt after (srtpComputeRoc session (rtpSeq packet)) offset.toNat
      packet).length = packet.length := length_cryptFrom after _ (encryptionOffset_le header)
  rw [List.take_left' length, (SameKeys.of_accept accepted).cryptFrom]

/-- Without a carried rollover counter, a call fails and leaves everything as it is, or its packet
is taken. -/
theorem Call.run_cases (gcrypt : Gcrypt) (shifts : Shifts) (plain : rccMode session.flags = 0)
    (call : Call) :
    ((call.run gcrypt shifts session).ret ≠ 0 ∧
        (call.run gcrypt shifts session).session = session ∧
        (call.run gcrypt shifts session).buf = call.buf) ∨
      Crypts gcrypt shifts session (call.packet session) (call.run gcrypt shifts session) := by
  have einval_ne : einval ≠ 0 := by decide
  have enospc_ne : enospc ≠ 0 := by decide
  have eacces_ne : eacces ≠ 0 := by decide
  cases call with
  | send buf len =>
      simp only [run, packet, Call.buf, srtpSend_eq gcrypt shifts plain]
      split
      · exact .inl ⟨einval_ne, rfl, rfl⟩
      · rename_i whole
        split
        · exact .inl ⟨enospc_ne, rfl, rfl⟩
        · rename_i room
          have long : 12 ≤ (buf.take len).length := by
            rw [List.length_take]
            omega
          rcases srtpCrypt_cases gcrypt shifts session (buf.take len) with
            ⟨ret, failed, crypted⟩ | ⟨offset, after, header, accepted, crypted⟩
          · rw [crypted, if_pos failed]
            exact .inl ⟨failed, rfl, List.take_append_drop len buf⟩
          · rw [crypted, if_neg (not_not.mpr rfl), List.append_assoc]
            exact .inr (crypts_of_crypt long header accepted)
  | recv buf =>
      simp only [run, packet, Call.buf, trailer_eq plain, Nat.zero_add,
        srtpRecv_eq gcrypt shifts plain]
      split
      · exact .inl ⟨einval_ne, rfl, rfl⟩
      · rename_i whole
        split
        · exact .inl ⟨eacces_ne, rfl, rfl⟩
        · have long : 12 ≤ (buf.take (buf.length - session.tagSize)).length := by
            rw [List.length_take]
            omega
          rcases srtpCrypt_cases gcrypt shifts session
              (buf.take (buf.length - session.tagSize)) with
            ⟨ret, failed, crypted⟩ | ⟨offset, after, header, accepted, crypted⟩
          · rw [crypted]
            exact .inl ⟨failed, rfl, List.take_append_drop _ buf⟩
          · rw [crypted]
            exact .inr (crypts_of_crypt long header accepted)

end LibSrtp
end Contest
