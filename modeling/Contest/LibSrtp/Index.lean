import Contest.Foundation.ReplayWindow
import Contest.Foundation.SerialNumber
import Contest.LibSrtp.Session

/-!
# Packet indexes

A session counts packets with 48 bits, of which a packet carries sixteen.  The rollover counter that
is computed for a packet is that of the nearest packet index, and the window is a replay window on
packet indexes.
-/

namespace Contest
namespace LibSrtp

open ReplayWindow

/-- The packet index for a sequence number: the one nearest to the head. -/
def packetIndex (head : Int) (seq : UInt16) : Int := SerialNumber.nearest 65536 head seq.toNat

/-- The highest packet index that a session has taken, as far as it keeps it. -/
def Session.At (session : Session) (head : Int) : Prop :=
  head % 2 ^ 48 = session.rtpRoc.toNat * 65536 + session.rtpSeq.toNat

variable {session : Session} {head : Int}

/-- Every session is somewhere. -/
theorem Session.at_self (session : Session) :
    session.At (session.rtpRoc.toNat * 65536 + session.rtpSeq.toNat) := by
  have roc_lt := session.rtpRoc.toNat_lt
  have seq_lt := session.rtpSeq.toNat_lt
  unfold Session.At
  omega

theorem packetIndex_spec (head : Int) (seq : UInt16) :
    packetIndex head seq % 65536 = seq.toNat ∧ head - 32768 ≤ packetIndex head seq ∧
      packetIndex head seq < head + 32768 := by
  have small := seq.toNat_lt
  have residue := @SerialNumber.nearest_emod 65536 head seq.toNat (by decide)
  have lower := @SerialNumber.le_nearest 65536 head seq.toNat (by decide)
  have upper := @SerialNumber.nearest_lt 65536 head seq.toNat (by decide)
  unfold packetIndex
  omega

/-- A packet index is recovered from its last bits. -/
theorem packetIndex_eq {index : Int} {seq : UInt16} (carried : index % 65536 = seq.toNat)
    (lower : head - 32768 ≤ index) (upper : index < head + 32768) :
    packetIndex head seq = index := by
  have small := seq.toNat_lt
  exact SerialNumber.nearest_eq (by decide) (by omega) (by omega) (by omega)

/-- The rollover counter that is computed is that of the packet index. -/
theorem toNat_srtpComputeRoc (counted : session.At head) (seq : UInt16) :
    ((srtpComputeRoc session seq).toNat : Int) = packetIndex head seq / 65536 % 2 ^ 32 := by
  obtain ⟨residue, lower, upper⟩ := packetIndex_spec head seq
  have seq_lt := seq.toNat_lt
  have last_lt := session.rtpSeq.toNat_lt
  have roc_lt := session.rtpRoc.toNat_lt
  have difference : (seq - session.rtpSeq).toNat =
      (2 ^ 16 - session.rtpSeq.toNat + seq.toNat) % 2 ^ 16 := UInt16.toNat_sub _ _
  unfold Session.At at counted
  rw [srtpComputeRoc]
  split
  · rename_i ahead
    have near : (seq - session.rtpSeq).toNat < 32768 := ahead
    split
    · rename_i wrapped
      have less : seq.toNat < session.rtpSeq.toNat := wrapped
      rw [UInt32.toNat_add, UInt32.toNat_one]
      omega
    · rename_i plain
      have le : ¬seq.toNat < session.rtpSeq.toNat := plain
      omega
  · rename_i late
    have far : ¬(seq - session.rtpSeq).toNat < 32768 := late
    split
    · rename_i wrapped
      have less : session.rtpSeq.toNat < seq.toNat := wrapped
      rw [UInt32.toNat_sub, UInt32.toNat_one]
      omega
    · rename_i plain
      have le : ¬session.rtpSeq.toNat < seq.toNat := plain
      omega

/-- The difference of sequence numbers in sixteen bits is that of the packet indexes. -/
theorem toInt_toInt16_sub (counted : session.At head) (seq : UInt16) :
    (seq - session.rtpSeq).toInt16.toInt = packetIndex head seq - head := by
  obtain ⟨residue, lower, upper⟩ := packetIndex_spec head seq
  have seq_lt := seq.toNat_lt
  have last_lt := session.rtpSeq.toNat_lt
  have difference : (seq - session.rtpSeq).toNat =
      (2 ^ 16 - session.rtpSeq.toNat + seq.toNat) % 2 ^ 16 := UInt16.toNat_sub _ _
  have signed : (seq - session.rtpSeq).toInt16.toInt =
      ((seq - session.rtpSeq).toNat : Int).bmod (2 ^ 16) :=
    BitVec.toInt_eq_toNat_bmod (seq - session.rtpSeq).toBitVec
  have roc := session.rtpRoc.toNat_lt
  unfold Session.At at counted
  rw [signed, Int.bmod_eq_iff (by decide), Int.dvd_iff_emod_eq_zero]
  omega

/-- How far a packet is behind the head, in sixteen bits. -/
def lag (head index : Int) : Int := (head - index).bmod 65536

/-- A packet that is ahead is taken. -/
theorem accept_of_lt (shifts : Shifts) {seq : UInt16} (roc : UInt32) (counted : session.At head)
    (ahead : head < packetIndex head seq) :
    session.accept shifts seq roc =
      some (session.ahead shifts (packetIndex head seq - head) seq roc) := by
  have diff := toInt_toInt16_sub counted seq
  have positive : 0 < (seq - session.rtpSeq).toInt16 := by
    rw [Int16.lt_iff_toInt_lt, diff, Int16.toInt_zero]
    omega
  rw [Session.accept, if_pos positive, diff]
  rfl

/-- Of the others, one is taken if it is in the window and its bit is clear. -/
theorem accept_of_le {shifts : Shifts} {seq : UInt16} {roc : UInt32} (counted : session.At head)
    (late : packetIndex head seq ≤ head) :
    session.accept shifts seq roc =
      if 64 ≤ lag head (packetIndex head seq) ∨
          (shifts.right session.rtp.window (lag head (packetIndex head seq))).getLsbD 0 = true then
        none
      else some (session.mark shifts (lag head (packetIndex head seq))) := by
  have diff := toInt_toInt16_sub counted seq
  have not_positive : ¬0 < (seq - session.rtpSeq).toInt16 := by
    rw [Int16.lt_iff_toInt_lt, diff, Int16.toInt_zero]
    omega
  have negated : (-(seq - session.rtpSeq).toInt16).toInt = lag head (packetIndex head seq) := by
    rw [Int16.toInt_neg, diff, Int.neg_sub]
    rfl
  have outside : 64 ≤ -(seq - session.rtpSeq).toInt16 ↔ 64 ≤ lag head (packetIndex head seq) := by
    rw [Int16.le_iff_toInt_le, negated]
    rfl
  rw [Session.accept, if_neg not_positive]
  simp only [outside, negated]
  rfl

/-- The lag is the distance, save for a packet half a turn behind. -/
theorem lag_eq {index : Int} (lower : head - 32768 < index) (upper : index ≤ head) :
    lag head index = ((head - index).toNat : Int) := by
  rw [lag, Int.bmod_eq_iff (by decide), Int.dvd_iff_emod_eq_zero]
  omega

theorem lag_half (head : Int) : lag head (head - 32768) = -32768 := by
  have distance : head - (head - 32768) = 32768 := by omega
  rw [lag, distance]
  rfl

theorem getLsbD_right (shifts : Shifts) (word : BitVec 64) {count : Nat} (small : count < 64) :
    (shifts.right word count).getLsbD 0 = word.getLsbD count := by
  rw [shifts.right_eq word count small, BitVec.getLsbD_ushiftRight, Nat.add_zero]

theorem getLsbD_left (shifts : Shifts) (word : BitVec 64) {count i : Nat} (small : count < 64)
    (inside : i < 64) :
    (shifts.left word count).getLsbD i = (decide (count ≤ i) && word.getLsbD (i - count)) := by
  rw [shifts.left_eq word count small, BitVec.getLsbD_shiftLeft]
  by_cases low : i < count
  · have not_le : ¬count ≤ i := by omega
    simp [low, not_le]
  · have le : count ≤ i := by omega
    simp [low, le, inside]

/-! ### The window after a packet -/

/-- The head after a packet. -/
theorem at_ahead (shifts : Shifts) (distance : Int) (counted : session.At head) (seq : UInt16) :
    (session.ahead shifts distance seq (srtpComputeRoc session seq)).At
      (packetIndex head seq) := by
  have roc := toNat_srtpComputeRoc counted seq
  obtain ⟨residue, -, -⟩ := packetIndex_spec head seq
  show packetIndex head seq % 2 ^ 48 =
    (srtpComputeRoc session seq).toNat * 65536 + seq.toNat
  omega

theorem covers_ahead (shifts : Shifts) {filter : Filter} (covers : Covers session.rtp.window filter)
    {distance : Nat} (positive : 0 < distance) (absent : filter.head + distance ∉ filter.taken)
    (seq : UInt16) (roc : UInt32) :
    Covers (session.ahead shifts distance seq roc).rtp.window
      (filter.take (filter.head + distance) absent) := by
  refine covers.advance positive (fun i inside behind set => ?_) absent
  rw [getLsbD_left shifts _ (by omega) inside, set]
  simpa using behind

theorem covers_mark (shifts : Shifts) {filter : Filter} (covers : Covers session.rtp.window filter)
    {distance : Nat} (absent : filter.head - distance ∉ filter.taken) :
    Covers (session.mark shifts distance).rtp.window
      (filter.take (filter.head - distance) absent) := by
  refine covers.mark (fun inside => ?_) absent
  rw [getLsbD_left shifts _ inside inside]
  simp

/-! ### Nothing is taken twice -/

/-- Shifts by a multiple of 64 are none, also by a negative one. -/
structure Shifts.Wraps (shifts : Shifts) : Prop where
  /-- To the left. -/
  left : ∀ word, shifts.left word (-32768) = word
  /-- To the right. -/
  right : ∀ word, shifts.right word (-32768) = word

theorem Shifts.wraps_modular : Shifts.modular.Wraps where
  left word := BitVec.shiftLeft_zero word
  right word := BitVec.ushiftRight_zero word

/-- What a session has taken is known to it, as far as it can be offered again. -/
structure Safe (session : Session) (filter : Filter) : Prop where
  /-- The head. -/
  counted : session.At filter.head
  /-- The window. -/
  covers : Covers session.rtp.window filter
  /-- A packet half a turn behind the head is looked up in the bit of the head. -/
  half : filter.head - 32768 ∈ filter.taken → session.rtp.window.getLsbD 0 = true

theorem Safe.ahead (shifts : Shifts) {filter : Filter} (safe : Safe session filter) (seq : UInt16)
    (later : filter.head < packetIndex filter.head seq) :
    ∃ absent, Safe (session.ahead shifts (packetIndex filter.head seq - filter.head) seq
      (srtpComputeRoc session seq)) (filter.take (packetIndex filter.head seq) absent) := by
  have counted := at_ahead shifts (packetIndex filter.head seq - filter.head) safe.counted seq
  have absent : packetIndex filter.head seq ∉ filter.taken := fun member =>
    absurd (filter.bounded _ member) (not_le.mpr later)
  obtain ⟨distance, sum⟩ : ∃ distance : Nat,
      packetIndex filter.head seq = filter.head + distance :=
    ⟨(packetIndex filter.head seq - filter.head).toNat, by omega⟩
  have difference : filter.head + distance - filter.head = (distance : Int) := by omega
  refine ⟨absent, ⟨?_, ?_, ?_⟩⟩
  · rwa [Filter.head_take_of_lt later]
  · simp only [sum, difference] at later absent ⊢
    exact covers_ahead shifts safe.covers (by omega) absent seq _
  · intro member
    simp [Session.ahead]

theorem Safe.mark (shifts : Shifts) {filter : Filter} (safe : Safe session filter)
    {distance : Nat} (inside : distance < 64)
    (clear : session.rtp.window.getLsbD distance = false) :
    ∃ absent, Safe (session.mark shifts distance)
      (filter.take (filter.head - distance) absent) := by
  have absent : filter.head - distance ∉ filter.taken :=
    (safe.covers.fresh_of_clear inside clear).not_mem
  have head := Filter.head_take_of_le (show filter.head - distance ≤ filter.head by omega) absent
  refine ⟨absent, ⟨?_, covers_mark shifts safe.covers absent, fun member => ?_⟩⟩
  · rw [head]
    exact safe.counted
  · rw [head, Filter.take, List.mem_cons] at member
    have old : filter.head - 32768 ∈ filter.taken := member.resolve_left (by omega)
    rw [Session.mark, BitVec.getLsbD_or, safe.half old, Bool.true_or]

theorem Safe.markHalf {shifts : Shifts} (wraps : shifts.Wraps) {filter : Filter}
    (safe : Safe session filter) (clear : session.rtp.window.getLsbD 0 = false) :
    ∃ absent, Safe (session.mark shifts (-32768))
      (filter.take (filter.head - 32768) absent) := by
  have absent : filter.head - 32768 ∉ filter.taken := by
    intro member
    rw [safe.half member] at clear
    exact absurd clear (by decide)
  have head := Filter.head_take_of_le (show filter.head - 32768 ≤ filter.head by omega) absent
  have far : filter.head - 32768 = filter.head - (32768 : Nat) := by norm_num
  refine ⟨absent, ⟨?_, ?_, ?_⟩⟩
  · rw [head]
    exact safe.counted
  · simp only [far]
    exact safe.covers.mark (fun small => absurd small (by decide)) (far ▸ absent)
  · intro member
    rw [Session.mark, wraps.left, BitVec.getLsbD_or]
    simp

/-- A packet that is taken has not been taken before. -/
theorem Safe.accept {shifts : Shifts} (wraps : shifts.Wraps) {filter : Filter}
    (safe : Safe session filter) {seq : UInt16} {after : Session}
    (accepted : session.accept shifts seq (srtpComputeRoc session seq) = some after) :
    ∃ absent, Safe after (filter.take (packetIndex filter.head seq) absent) := by
  obtain ⟨-, lower, upper⟩ := packetIndex_spec filter.head seq
  rcases Int.lt_or_le filter.head (packetIndex filter.head seq) with later | late
  · rw [accept_of_lt shifts _ safe.counted later] at accepted
    obtain rfl := Option.some.inj accepted
    exact safe.ahead shifts seq later
  · rw [accept_of_le safe.counted late] at accepted
    split at accepted
    · exact absurd accepted (by simp)
    · rename_i clear
      obtain rfl := Option.some.inj accepted
      rw [not_or, Bool.not_eq_true] at clear
      rcases eq_or_lt_of_le lower with half | inside
      · rw [← half, lag_half] at clear ⊢
        rw [wraps.right] at clear
        exact safe.markHalf wraps clear.2
      · obtain ⟨distance, sum⟩ : ∃ distance : Nat,
            packetIndex filter.head seq = filter.head - distance :=
          ⟨(filter.head - packetIndex filter.head seq).toNat, by omega⟩
        have counts : lag filter.head (packetIndex filter.head seq) = (distance : Int) := by
          rw [lag_eq inside late]
          omega
        rw [counts] at clear ⊢
        have small : distance < 64 := by omega
        rw [getLsbD_right shifts _ small] at clear
        rw [sum]
        exact safe.mark shifts small clear.2

end LibSrtp
end Contest
