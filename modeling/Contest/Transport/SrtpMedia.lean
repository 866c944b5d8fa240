import Contest.Transport.Listening
import Contest.Transport.Srtp

/-!
# Media over SRTP

`handle_srtp` logs the status of `srtp_recv` and goes on with the whole rewritten buffer, whatever
the status and the new length are.  So the jitter buffer is fed with what could not be
authenticated, and with the tag behind what could.
-/

namespace Contest
namespace Transport
namespace Srtp

open Logged

/-! ### The log and the jitter buffer -/

/-- What the jitter buffer is fed with in an act. -/
def Act.fed : Act → Option (Int × Bytes)
  | .feed seqNo data => some (seqNo, data)
  | _ => none

/-- What the jitter buffer is fed with in a log. -/
def fed (acts : List Act) : List (Int × Bytes) := acts.filterMap Act.fed

theorem fed_append (left right : List Act) : fed (left ++ right) = fed left ++ fed right :=
  List.filterMap_append

theorem fed_eq_nil {acts : List Act} (silent : ∀ act ∈ acts, Act.fed act = none) :
    fed acts = [] := List.filterMap_eq_nil_iff.mpr silent

/-- What is fed in an operation. -/
theorem fed_written_process (datagram : Datagram) (srtp : Srtp) :
    fed (written perform (srtp, .process datagram)) = feeds datagram :=
  (filterMap_written_process datagram srtp (fun _ _ => rfl) (by simp [Act.fed])).trans
    List.filterMap_some

/-- Only `process` feeds. -/
theorem fed_written_of_ne {visit : Srtp × Operation}
    (other : ∀ datagram, visit.2 ≠ .process datagram) : fed (written perform visit) = [] := by
  rcases written_cases visit with ⟨datagram, processes⟩ | sends
  · exact absurd processes (other datagram)
  · apply fed_eq_nil
    intro act member
    obtain ⟨datagram, addr, rfl⟩ := sends act member
    rfl

/-- The jitter buffer is fed with what the log says, and what the receive loop depends on besides
stays as it is. -/
structure Attends (before after : Srtp) (acts : List Act) : Prop where
  /-- The codec. -/
  encoder : after.encoder = before.encoder
  /-- The flag that stops the loop. -/
  teardown : after.teardown = before.teardown
  /-- The jitter buffer. -/
  jitterBuffer : ∃ pumped,
    before.jitterBuffer.feedAll (fed acts) = .ok (after.jitterBuffer, pumped)

/-- Where the transport is left alone, nothing must be fed. -/
theorem attends_of_same {before after : Srtp} (same : after.toTransport = before.toTransport)
    {acts : List Act} (silent : fed acts = []) : Attends before after acts where
  encoder := congrArg Transport.encoder same
  teardown := congrArg Transport.teardown same
  jitterBuffer := by
    rw [silent, show after.jitterBuffer = before.jitterBuffer from
      congrArg Transport.jitterBuffer same]
    exact ⟨[], rfl⟩

/-- A transport attends to its jitter buffer. -/
def attending : Law Srtp Act where
  holds := Attends
  refl srtp := attends_of_same rfl rfl
  trans := by
    rintro before middle after left right first second
    obtain ⟨early, fed_first⟩ := first.jitterBuffer
    obtain ⟨late, fed_second⟩ := second.jitterBuffer
    refine ⟨second.encoder.trans first.encoder, second.teardown.trans first.teardown,
      early ++ late, ?_⟩
    rw [fed_append]
    exact JitterBuffer.feedAll_append fed_first fed_second

section Attends

variable {α : Type}

theorem attends_ofResult (result : Fallible α) : Obeys attending (ofResult result : Turn α) :=
  fun _ => attends_of_same rfl rfl

theorem attends_emit {act : Act} (other : Act.fed act = none) :
    Obeys attending (emit act : Turn Unit) :=
  fun _ => attends_of_same rfl (List.filterMap_cons_none other)

theorem attends_handleRtp (payload : Bytes) : Obeys attending (handleRtp payload) := by
  intro srtp
  unfold handleRtp
  cases parseRtp payload with
  | error e => exact attends_of_same rfl rfl
  | ok packet =>
      obtain ⟨⟨jitterBuffer, pumped⟩, taken⟩ := srtp.jitterBuffer.feed_ok packet.2 packet.1
      have after : (feedJitter srtp.encoder.decode srtp.toTransport packet.1 packet.2).2 =
          { srtp.toTransport with jitterBuffer := jitterBuffer } := by
        rw [feedJitter, taken]
        cases pumped <;> rfl
      simp only [ofResult_ok_bind, run_emit_bind, run_current_bind, run_update_bind, run_ofResult,
        after]
      refine ⟨rfl, rfl, pumped.toList, ?_⟩
      show srtp.jitterBuffer.feedAll [(packet.1, packet.2)] = _
      rw [JitterBuffer.feedAll, taken]
      simp [JitterBuffer.feedAll, bind, Except.bind, pure, Except.pure]

theorem attends_handleSrtp (srtpRecv : (payload : Bytes) → Unprotected payload)
    (payload : Bytes) : Obeys attending (handleSrtp srtpRecv payload) := by
  refine (attends_ofResult _).bind fun second => ?_
  split
  · exact obeys_pure _
  · exact (attends_handleRtp _).bind fun _ => obeys_pure _

theorem attends_handleStunPayload (datagram : Datagram) :
    Obeys attending (handleStunPayload datagram) := by
  refine (attends_ofResult _).bind fun replies => ?_
  have answers : Obeys attending (replies.forM fun reply => emit (.stunReply reply.1 reply.2) :
      Turn Unit) := by
    induction replies with
    | nil => exact obeys_pure ()
    | cons reply replies ih => exact (attends_emit rfl).bind fun _ => ih
  refine answers.bind fun _ => ?_
  split
  · exact attends_ofResult _
  · exact obeys_pure ()

theorem attends_processRecord (reply : DtlsReply) (payload : Bytes) :
    Obeys attending (processRecord reply payload) := by
  refine (attends_ofResult _).bind fun first => ?_
  split
  · intro srtp
    obtain ⟨result, after, ran, same⟩ := run_handleDtls reply srtp
    rw [ran]
    exact attends_of_same same (reply.filterMap_acts (by simp [Act.fed]))
  · exact obeys_pure ()

/-- The log of a datagram tells how the jitter buffer is fed. -/
theorem attends_process (datagram : Datagram) : Obeys attending (process datagram) := by
  rw [process_eq]
  refine (attends_ofResult _).bind fun first => ?_
  split
  · exact (attends_handleStunPayload datagram).bind fun _ => attends_processRecord _ _
  · split
    · exact (attends_handleSrtp _ _).bind (attends_processRecord _)
    · exact attends_processRecord _ _

end Attends

/-! ### What should be fed -/

/-- Media that `srtp_recv` accepts, without its header and its tag. -/
def accepted (datagram : Datagram) : List Bytes :=
  let received := datagram.srtpRecv datagram.payload
  if isMedia datagram ∧ received.ret = 0 then [(received.buffer.take received.len).drop 12] else []

/-- What should be fed in an operation. -/
def authenticated : Operation → List Bytes
  | .process datagram => accepted datagram
  | _ => []

/-- In each operation the jitter buffer is fed with authenticated media, and with nothing else. -/
def OnlyMedia (srtp : Srtp) (operations : List Operation) : Prop :=
  (logs perform srtp operations).map (fun acts => (fed acts).map Prod.snd) =
    operations.map authenticated

/-- A packet that is accepted has no tag behind it, and one that is rejected has no whole header. -/
def Harmless (datagram : Datagram) : Prop :=
  let received := datagram.srtpRecv datagram.payload
  (received.ret = 0 ∧ received.len = datagram.payload.length) ∨
    (received.ret ≠ 0 ∧ datagram.payload.length < 12)

/-- What is fed for a datagram is what should be, exactly if it is harmless. -/
theorem feeds_eq_iff (datagram : Datagram) :
    (feeds datagram).map Prod.snd = accepted datagram ↔
      (isMedia datagram = true → Harmless datagram) := by
  unfold feeds accepted Harmless
  cases isMedia datagram with
  | false => simp
  | true =>
      have size := (datagram.srtpRecv datagram.payload).buffer_length
      have bounds := (datagram.srtpRecv datagram.payload).bounds
      simp only [if_true, true_and, forall_const]
      rcases Nat.lt_or_ge datagram.payload.length 12 with short | long
      · rw [parseRtp_short (by omega)]
        by_cases success : (datagram.srtpRecv datagram.payload).ret = 0
        · have whole := bounds success
          omega
        · simp [success, short, Except.toOption]
      · obtain ⟨seqNo, parsed⟩ := parseRtp_ok (Nat.le_trans long (Nat.le_of_eq size.symm))
        have rejected : ¬datagram.payload.length < 12 := by omega
        rw [parsed]
        by_cases success : (datagram.srtpRecv datagram.payload).ret = 0
        · have whole := bounds success
          have same_iff : (datagram.srtpRecv datagram.payload).buffer.drop 12 =
              ((datagram.srtpRecv datagram.payload).buffer.take
                (datagram.srtpRecv datagram.payload).len).drop 12 ↔
              (datagram.srtpRecv datagram.payload).len = datagram.payload.length := by
            constructor
            · intro same
              have lengths := congrArg List.length same
              simp only [List.length_drop, List.length_take] at lengths
              omega
            · intro same
              rw [List.take_of_length_le (by omega)]
          simp [success, Except.toOption, same_iff]
        · simp [success, Except.toOption, rejected]

/-- Only authenticated media is fed in a run, exactly if every datagram that is handed to
`srtp_recv` is harmless. -/
theorem onlyMedia_iff (srtp : Srtp) (operations : List Operation) :
    OnlyMedia srtp operations ↔
      ∀ operation ∈ operations, ∀ datagram, operation = .process datagram →
        isMedia datagram = true → Harmless datagram := by
  refine map_logs_eq_iff perform ?_ srtp operations
  intro operation before
  by_cases processes : ∃ datagram, operation = .process datagram
  · obtain ⟨datagram, rfl⟩ := processes
    rw [fed_written_process, authenticated, feeds_eq_iff]
    simp
  · have other : ∀ datagram, operation ≠ .process datagram := fun datagram same =>
      processes ⟨datagram, same⟩
    have expected : authenticated operation = [] := by
      cases operation with
      | process datagram => exact absurd rfl (other datagram)
      | _ => rfl
    rw [fed_written_of_ne other, expected]
    simp [other]

/-- A connection is established, and then a packet comes whose tag is wrong. -/
def forgery : List Operation :=
  [.process (sampleDatagram [22]), .process (sampleDatagram (0x80 :: List.replicate 12 0))]

/-- A forged packet is fed with its one byte of audio. -/
theorem forged_packet_fed : ¬∀ srtp operations, OnlyMedia srtp operations := by
  intro claimed
  have fed_none : (logs perform sample forgery).map (fun acts => (fed acts).map Prod.snd) =
      [[], []] := claimed _ _
  exact absurd fed_none (by decide)

end Srtp
end Transport
end Contest
