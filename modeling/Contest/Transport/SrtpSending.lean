import Contest.Transport.Srtp

/-!
# Sending over SRTP

`send_audio` puts the plain packet into the buffer that `srtp_send` encrypts in place, and sends
what is in the buffer afterwards.  A status that says that nothing has been encrypted is only
logged.
-/

namespace Contest
namespace Transport
namespace Srtp

open Logged

/-- What `send_audio` hands to the socket in an act. -/
def Act.sent : Act → Option Bytes
  | .sendAudio datagram _ => some datagram
  | _ => none

/-- What `send_audio` hands to the socket in a log. -/
def sent (acts : List Act) : List Bytes := acts.filterMap Act.sent

/-- Every datagram that `send_audio` hands to the socket in a run is the part of its buffer up to
the returned length, and `srtp_send` has succeeded for that buffer. -/
def Confidential (srtp : Srtp) (operations : List Operation) : Prop :=
  ∀ visit ∈ visits perform srtp operations, ∀ datagram ∈ sent (written perform visit),
    ∃ rtpData sending, visit.2 = .sendAudio rtpData sending ∧
      (sending.srtpSend (withRoom rtpData)).ret = 0 ∧
        datagram = (sending.srtpSend (withRoom rtpData)).buffer.take
          (sending.srtpSend (withRoom rtpData)).len

/-- Whether there is a session to encrypt with and an address to send to. -/
def canSend (srtp : Srtp) : Bool := !srtp.srtpOutgoing.all (· = 0) && srtp.clientAddr.isSome

/-- A packet is sent whenever that is possible, whatever the status is. -/
theorem sent_sendAudio (rtpData : Bytes) (sending : Sending) (srtp : Srtp) :
    sent (written perform (srtp, .sendAudio rtpData sending)) =
      if canSend srtp then
        [(sending.srtpSend (withRoom rtpData)).buffer.take
          (sending.srtpSend (withRoom rtpData)).len]
      else [] := by
  have cut : slice (sending.srtpSend (withRoom rtpData)).buffer 0
      (sending.srtpSend (withRoom rtpData)).len =
        .ok ((sending.srtpSend (withRoom rtpData)).buffer.take
          (sending.srtpSend (withRoom rtpData)).len) :=
    slice_of_le (by have inside := (sending.srtpSend (withRoom rtpData)).bounds; omega)
  show sent ((sendAudio rtpData sending).run srtp).2.2 = _
  unfold sendAudio canSend
  cases missing : srtp.srtpOutgoing.all (· = 0) with
  | true => simp [missing, sent]
  | false =>
      cases address : srtp.clientAddr with
      | none => simp [missing, address, cut, sent]
      | some addr =>
          cases taken : sending.delivered with
          | false => simp [missing, address, cut, sent, Act.sent]
          | true => simp [missing, address, cut, sent, Act.sent]

/-- Nothing else is sent as audio. -/
theorem sent_of_ne {visit : Srtp × Operation}
    (other : ∀ rtpData sending, visit.2 ≠ .sendAudio rtpData sending) :
    sent (written perform visit) = [] := by
  obtain ⟨srtp, operation⟩ := visit
  cases operation with
  | process datagram =>
      rw [sent, filterMap_written_process datagram srtp (fun _ _ => rfl) (by simp [Act.sent])]
      exact List.filterMap_eq_nil_iff.mpr fun _ _ => rfl
  | sendAudio rtpData sending => exact absurd rfl (other rtpData sending)
  | sendFrame encoded => cases encoded <;> rfl
  | setClientAddr address => rfl
  | observeSilence => rfl
  | finalize => rfl

/-- A run is confidential, exactly if `srtp_send` succeeds whenever a packet can be sent. -/
theorem confidential_iff (srtp : Srtp) (operations : List Operation) :
    Confidential srtp operations ↔
      ∀ visit ∈ visits perform srtp operations, ∀ rtpData sending,
        visit.2 = .sendAudio rtpData sending → canSend visit.1 = true →
          (sending.srtpSend (withRoom rtpData)).ret = 0 := by
  constructor
  · rintro confidential ⟨before, operation⟩ member rtpData sending rfl possible
    have handed := sent_sendAudio rtpData sending before
    rw [if_pos possible] at handed
    obtain ⟨otherData, other, same, success, -⟩ :=
      confidential _ member _ (handed ▸ List.mem_singleton_self _)
    obtain ⟨rfl, rfl⟩ := Operation.sendAudio.inj same
    exact success
  · rintro success ⟨before, operation⟩ member datagram handed
    by_cases sends : ∃ rtpData sending, operation = .sendAudio rtpData sending
    · obtain ⟨rtpData, sending, rfl⟩ := sends
      rw [sent_sendAudio] at handed
      split at handed
      · rename_i possible
        exact ⟨rtpData, sending, rfl, success _ member rtpData sending rfl possible,
          List.mem_singleton.mp handed⟩
      · simp at handed
    · rw [sent_of_ne fun rtpData sending same => sends ⟨rtpData, sending, same⟩] at handed
      simp at handed

/-- A connection is established, an address is set, and a packet is to be sent. -/
def failedSending : List Operation :=
  [.process (sampleDatagram [22]), .setClientAddr ⟨"10.0.0.1".toList, 4000⟩,
    .sendAudio [0x80] ⟨failing, true⟩]

/-- The packet is sent as it is. -/
theorem plaintext_sent : ¬∀ srtp operations, Confidential srtp operations := by
  intro claimed
  let before := final perform sample (failedSending.take 2)
  have member : (before, .sendAudio [0x80] ⟨failing, true⟩) ∈
      visits perform sample failedSending := by
    rw [← List.take_append_drop 2 failedSending, visits_append]
    exact List.mem_append_right _ List.mem_cons_self
  have handed : sent (written perform (before, .sendAudio [0x80] ⟨failing, true⟩)) =
      [[0x80]] := by
    rw [sent_sendAudio]
    rfl
  obtain ⟨rtpData, sending, same, success, -⟩ :=
    claimed _ _ _ member _ (handed ▸ List.mem_singleton_self _)
  obtain ⟨rfl, rfl⟩ := Operation.sendAudio.inj same
  exact absurd success (by decide)

end Srtp
end Transport
end Contest
