import Contest.Transport.Sending

/-!
# The continuity of a stream

A silence advances the counter of a transport as a packet does.  That keeps the clock of the stream
right, but it also skips a sequence number, which the receiver takes for a lost packet, and the
marker bit goes onto the first packet only if no silence comes before it.
-/

namespace Contest
namespace Transport

/-- The packets of a stream, as a receiver reads them. -/
def wires (sender : Sender) (operations : List Operation) : List (Option RtpPacket) :=
  (sender.run operations).map fun packet => packet.bind RtpPacket.decode

/-- The operation at a place sends. -/
def Sends (operations : List Operation) (n : Nat) : Prop :=
  ∃ audio, operations[n]? = some (.sendAudio audio)

/-- A stream looks complete to its receiver. -/
structure Unbroken (sender : Sender) (operations : List Operation) : Prop where
  /-- A packet has the sequence number after that of the packet sent before it. -/
  consecutive : ∀ (i j : Nat) (first second : RtpPacket), i < j →
    (wires sender operations)[i]? = some (some first) →
      (wires sender operations)[j]? = some (some second) →
        (∀ k, i < k → k < j → (wires sender operations)[k]? = some none) →
          second.sequenceNumber = (first.sequenceNumber + 1) % 2 ^ 16
  /-- Between two packets the clock advances by one frame for each operation. -/
  clock : ∀ (i j : Nat) (first second : RtpPacket), i < j →
    (wires sender operations)[i]? = some (some first) →
      (wires sender operations)[j]? = some (some second) →
        (second.timestamp : Int) =
          (first.timestamp + (j - i : Nat) * sender.samplesPerFrame.toInt) % 2 ^ 32
  /-- The first packet has the marker bit. -/
  marked : ∀ (i : Nat) (wire : RtpPacket), (wires sender operations)[i]? = some (some wire) →
    (∀ k < i, (wires sender operations)[k]? = some none) → wire.marker = true

/-- No silence, up to whole turns of the counters, comes before the first packet or between two
packets.  The marker bit is also there when it is a part of the payload type. -/
structure WithoutGaps (mediaProfilePt : Int) (operations : List Operation) : Prop where
  /-- Between two packets. -/
  between : ∀ i j, i < j → Sends operations i → Sends operations j →
    (∀ k, i < k → k < j → operations[k]? = some .observeSilence) → (j - i - 1) % 2 ^ 16 = 0
  /-- Before the first packet. -/
  before : ∀ i, Sends operations i → (∀ k < i, operations[k]? = some .observeSilence) →
    i % 2 ^ 32 = 0 ∨ 128 ≤ mediaProfilePt % 256

section Stream

variable {encode : List Int16 → Bytes} {samplesPerFrame : BitVec 32} {mediaProfilePt : Int}
variable {operations : List Operation}

theorem exists_wire {n : Nat} (sends : Sends operations n) :
    ∃ wire,
      (wires (.new encode samplesPerFrame mediaProfilePt) operations)[n]? = some (some wire) ∧
      wire.sequenceNumber = (n + 1) % 2 ^ 16 ∧
      (wire.timestamp : Int) = (n + 1 : Nat) * samplesPerFrame.toInt % 2 ^ 32 ∧
      (wire.marker = true ↔ (n + 1) % 2 ^ 32 = 1 ∨ 128 ≤ mediaProfilePt % 256) := by
  obtain ⟨audio, sends⟩ := sends
  obtain ⟨wire, decoded, -, marked, -, number, clock, -⟩ :=
    decode_formRtp mediaProfilePt samplesPerFrame (BitVec.ofNat 32 (n + 1)) (encode audio)
  refine ⟨wire, ?_, ?_, ?_, ?_⟩
  · rw [wires, List.getElem?_map, Sender.getElem?_run_new encode _ _ sends]
    exact congrArg some decoded
  · rw [number, BitVec.toNat_ofNat]
    omega
  · rw [clock]
    exact timestamp_eq (n + 1) samplesPerFrame
  · rw [marked, ofNat_eq_one_iff]

theorem wires_eq_none_iff {n : Nat} :
    (wires (.new encode samplesPerFrame mediaProfilePt) operations)[n]? = some none ↔
      operations[n]? = some .observeSilence := by
  constructor
  · intro silent
    cases performed : operations[n]? with
    | none => simp [wires, Sender.getElem?_run, performed] at silent
    | some operation =>
        cases operation with
        | observeSilence => rfl
        | sendAudio audio =>
            obtain ⟨wire, sent, -⟩ :=
              @exists_wire encode samplesPerFrame mediaProfilePt operations n ⟨audio, performed⟩
            rw [sent] at silent
            simp at silent
  · intro silent
    rw [wires, List.getElem?_map, Sender.getElem?_run_eq_none silent]
    rfl

theorem sends_of_wire {n : Nat} {wire : RtpPacket}
    (sent : (wires (.new encode samplesPerFrame mediaProfilePt) operations)[n]? =
      some (some wire)) : Sends operations n := by
  cases performed : operations[n]? with
  | none => simp [wires, Sender.getElem?_run, performed] at sent
  | some operation =>
      cases operation with
      | observeSilence => simp [wires, Sender.getElem?_run_eq_none performed] at sent
      | sendAudio audio => exact ⟨audio, performed⟩

/-- A stream looks complete if and only if there are no gaps in it. -/
theorem unbroken_iff (encode : List Int16 → Bytes) (samplesPerFrame : BitVec 32)
    (mediaProfilePt : Int) (operations : List Operation) :
    Unbroken (.new encode samplesPerFrame mediaProfilePt) operations ↔
      WithoutGaps mediaProfilePt operations := by
  have wire_of : ∀ {n : Nat}, Sends operations n → _ := fun {n} sends =>
    @exists_wire encode samplesPerFrame mediaProfilePt operations n sends
  constructor
  · intro unbroken
    refine ⟨?_, ?_⟩
    · intro i j later first_sends second_sends silent
      obtain ⟨first, first_wire, first_number, -, -⟩ := wire_of first_sends
      obtain ⟨second, second_wire, second_number, -, -⟩ := wire_of second_sends
      have next := unbroken.consecutive i j first second later first_wire second_wire
        fun k after before => wires_eq_none_iff.mpr (silent k after before)
      omega
    · intro i sends silent
      obtain ⟨wire, sent, -, -, marked⟩ := wire_of sends
      have marker := marked.mp (unbroken.marked i wire sent
        fun k before => wires_eq_none_iff.mpr (silent k before))
      omega
  · intro without
    refine ⟨?_, ?_, ?_⟩
    · intro i j first second later first_wire second_wire silent
      have gap := without.between i j later (sends_of_wire first_wire) (sends_of_wire second_wire)
        fun k after before => wires_eq_none_iff.mp (silent k after before)
      obtain ⟨wire, sent, first_number, -, -⟩ := wire_of (sends_of_wire first_wire)
      obtain rfl : wire = first := by simpa [sent] using first_wire
      obtain ⟨other, other_sent, second_number, -, -⟩ := wire_of (sends_of_wire second_wire)
      obtain rfl : other = second := by simpa [other_sent] using second_wire
      omega
    · intro i j first second later first_wire second_wire
      obtain ⟨wire, sent, -, first_clock, -⟩ := wire_of (sends_of_wire first_wire)
      obtain rfl : wire = first := by simpa [sent] using first_wire
      obtain ⟨other, other_sent, -, second_clock, -⟩ := wire_of (sends_of_wire second_wire)
      obtain rfl : other = second := by simpa [other_sent] using second_wire
      have advanced : ((j + 1 : Nat) : Int) = (i + 1 : Nat) + (j - i : Nat) := by omega
      rw [second_clock, first_clock, Int.emod_add_emod, advanced, Int.add_mul]
      rfl
    · intro i wire sent silent
      have first := without.before i (sends_of_wire sent)
        fun k before => wires_eq_none_iff.mp (silent k before)
      obtain ⟨other, other_sent, -, -, marked⟩ := wire_of (sends_of_wire sent)
      obtain rfl : other = wire := by simpa [other_sent] using sent
      rw [marked]
      omega

end Stream

/-- A silence before the first packet takes the marker bit away from it. -/
theorem silence_takes_marker :
    ¬∀ encode samplesPerFrame mediaProfilePt operations, 0 ≤ mediaProfilePt →
      mediaProfilePt ≤ 127 →
        Unbroken (.new encode samplesPerFrame mediaProfilePt) operations := by
  intro claimed
  have unbroken := claimed (fun _ => [0xff]) 160 0 [.observeSilence, .sendAudio []] (by decide)
    (by decide)
  obtain ⟨wire, sent, -, -, marked⟩ :=
    @exists_wire (fun _ => [0xff]) 160 0 [.observeSilence, .sendAudio []] 1 ⟨[], rfl⟩
  have marker := marked.mp <| unbroken.marked 1 wire sent <| by
    intro k before
    obtain rfl : k = 0 := by omega
    exact wires_eq_none_iff.mpr rfl
  exact absurd marker (by decide)

end Transport
end Contest
