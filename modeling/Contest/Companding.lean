import Contest.Codec
import Contest.Foundation.Segments
import Mathlib.Tactic.IntervalCases

/-!
# Companding

`encode_sample` keeps a sample by its sign, its segment and its cell in the segment.  The least
sample has no magnitude among sixteen bits, and `decode_sample` shifts the number of the cell within
a byte, so that in the upper segments it is lost.
-/

namespace Contest
namespace Codec

open Segments

/-- The byte for a sign, an exponent and a mantissa. -/
def codeByte (negative : Bool) (exponent : Fin 8) (mantissa : Fin 16) : UInt8 :=
  ~~~UInt8.ofNat ((if negative then 128 else 0) + 16 * exponent.val + mantissa.val)

/-- The number with the magnitude and the sign. -/
def signed (negative : Bool) (magnitude : Int) : Int := if negative then -magnitude else magnitude

/-- The value of a byte in G.711. -/
def g711Value (byte : UInt8) : Int :=
  let word := (~~~byte).toNat
  signed (128 ≤ word) ((33 + 2 * (word % 16)) * 2 ^ (word / 16 % 8 + 2) - 132)

/-- A sample within the range that is told apart. -/
def clamp (sample : Int16) : Int := max (-32635) (min 32635 sample.toInt)

/-- The clamped magnitude of a sample, with the bias. -/
def biasedMagnitude (sample : Int16) : Nat := (clamp sample).natAbs + 132

/-- The segment of a sample. -/
def segment (sample : Int16) : Nat := (biasedMagnitude sample).log2 - 7

theorem abs_signed_sub (negative : Bool) (left right : Int) :
    |signed negative left - signed negative right| = |left - right| := by
  cases negative
  · rfl
  · rw [signed, signed, if_pos rfl, if_pos rfl, neg_sub_neg, abs_sub_comm]

theorem clamp_eq_signed (sample : Int16) :
    clamp sample = signed (sample.toInt < 0) ((biasedMagnitude sample : Int) - 132) := by
  rw [signed, biasedMagnitude, clamp]
  split
  · rename_i negative
    have below := of_decide_eq_true negative
    omega
  · rename_i positive
    have above := of_decide_eq_false (Bool.eq_false_iff.mpr positive)
    omega

theorem biasedMagnitude_bounds (sample : Int16) :
    132 ≤ biasedMagnitude sample ∧ biasedMagnitude sample ≤ 32767 := by
  rw [biasedMagnitude, clamp]
  omega

/-- The segment and the width of its cells. -/
theorem segment_bounds (sample : Int16) :
    segment sample < 8 ∧ (biasedMagnitude sample).log2 = segment sample + 7 ∧
      width 4 (biasedMagnitude sample) = 2 ^ (segment sample + 3) := by
  obtain ⟨large, small⟩ := biasedMagnitude_bounds sample
  have above : 7 ≤ (biasedMagnitude sample).log2 := (Nat.le_log2 (by omega)).mpr (by omega)
  have below : (biasedMagnitude sample).log2 < 15 := (Nat.log2_lt (by omega)).mpr (by omega)
  rw [width, segment]
  refine ⟨by omega, by omega, ?_⟩
  congr 1
  omega

theorem half_width (sample : Int16) :
    width 4 (biasedMagnitude sample) / 2 = 2 ^ (segment sample + 2) := by
  obtain ⟨-, -, width_eq⟩ := segment_bounds sample
  rw [width_eq, pow_succ 2 (segment sample + 2), Nat.mul_div_cancel _ (by omega)]

section Bits

theorem sign_eq (sample : Int16) :
    sample.toBitVec.sshiftRight 8 &&& 0x80 = if sample.toInt < 0 then 0x80 else 0 := by
  have single : (0x80 : BitVec 16) = BitVec.twoPow 16 7 := by decide
  have top : (sample.toBitVec.sshiftRight 8).getLsbD 7 = sample.toBitVec.msb := by
    rw [BitVec.getLsbD_sshiftRight]
    simp [BitVec.msb_eq_getLsbD_last]
  rw [single, BitVec.and_twoPow, top, BitVec.msb_eq_toInt]
  simp

theorem toNat_magnitude {sample : Int16} (not_least : sample ≠ -32768) :
    (if sample.toInt < 0 then -sample.toBitVec else sample.toBitVec).toNat =
      sample.toInt.natAbs ∧ sample.toInt.natAbs < 32768 := by
  have least : sample.toInt ≠ -32768 := fun same => not_least (Int16.toInt_inj.mp same)
  have lower := sample.le_toInt
  have upper := sample.toInt_lt
  have value : sample.toInt = sample.toBitVec.toInt := rfl
  rw [BitVec.toInt_eq_toNat_cond] at value
  have size := sample.toBitVec.isLt
  split
  · rw [BitVec.toNat_neg]
    split at value <;> omega
  · split at value <;> omega

theorem toNat_biased {magnitude : BitVec 16} (small : magnitude.toNat < 32768) :
    ((if 32635 < magnitude.toInt then 32635 else magnitude) + 0x84).toNat =
      min magnitude.toNat 32635 + 132 := by
  have value : magnitude.toInt = magnitude.toNat := BitVec.toInt_eq_toNat_of_lt (by omega)
  rw [BitVec.toNat_add, value]
  split
  · have clip : (32635 : BitVec 16).toNat = 32635 := rfl
    have bias : (0x84 : BitVec 16).toNat = 132 := rfl
    omega
  · have bias : (0x84 : BitVec 16).toNat = 132 := rfl
    omega

/-- The bits of a word that is not negative. -/
theorem toNat_field {word mask : BitVec 16} (small : word.toNat < 32768) (count : Nat) {bits : Nat}
    (ones : mask.toNat = 2 ^ bits - 1) :
    (word.sshiftRight count &&& mask).toNat = word.toNat / 2 ^ count % 2 ^ bits := by
  have positive : word.msb = false := BitVec.msb_eq_false_iff_two_mul_lt.mpr (by omega)
  rw [BitVec.sshiftRight_eq_of_msb_false positive, BitVec.toNat_and, BitVec.toNat_ushiftRight,
    Nat.shiftRight_eq_div_pow, ones, Nat.and_two_pow_sub_one_eq_mod]

/-- The table has the logarithms. -/
theorem table_eq : ∀ index : Fin 256, (table.getD index 0).toNat = index.val.log2 := by
  decide +kernel

theorem toNat_exponent {word : BitVec 16} (large : 128 ≤ word.toNat)
    (small : word.toNat < 32768) :
    (table.getD (word.sshiftRight 7 &&& 0xff).toNat 0).toNat = word.toNat.log2 - 7 := by
  have index : (word.sshiftRight 7 &&& 0xff).toNat = word.toNat / 128 := by
    rw [@toNat_field word 0xff small 7 8 rfl]
    omega
  have entry : (table.getD (word.toNat / 128) 0).toNat = (word.toNat / 128).log2 :=
    table_eq ⟨word.toNat / 128, by omega⟩
  rw [index, entry]
  have seven : 7 ≤ word.toNat.log2 := (Nat.le_log2 (by omega)).mpr large
  obtain ⟨offset, log⟩ := Nat.exists_eq_add_of_le seven
  have first := Nat.log2_self_le (show word.toNat ≠ 0 by omega)
  have last := @Nat.lt_log2_self word.toNat
  rw [log, pow_add] at first
  rw [log, Nat.add_assoc, pow_add] at last
  rw [log, Nat.add_sub_cancel_left, Nat.log2_eq_iff (by omega)]
  omega

/-- The last line of `encode_sample`. -/
theorem codeByte_eq : ∀ (negative : Bool) (exponent : Fin 8) (mantissa : Fin 16),
    UInt8.ofBitVec ((~~~((if negative then (0x80 : BitVec 16) else 0) |||
      (UInt8.ofNat exponent <<< 4).toBitVec.setWidth 16 |||
        (UInt8.ofNat mantissa).toBitVec.setWidth 16)).setWidth 8) =
      codeByte negative exponent mantissa := by
  decide +kernel

/-- The byte for a biased magnitude. -/
theorem byte_of_word {word : BitVec 16} (large : 128 ≤ word.toNat) (small : word.toNat < 32768)
    (negative : Bool) :
    ∃ (exponent : Fin 8) (mantissa : Fin 16), exponent.val = word.toNat.log2 - 7 ∧
      16 + mantissa.val = cell 4 word.toNat ∧
      UInt8.ofBitVec ((~~~((if negative then (0x80 : BitVec 16) else 0) |||
        (table.getD (word.sshiftRight 7 &&& 0xff).toNat 0 <<< 4).toBitVec.setWidth 16 |||
          (UInt8.ofBitVec ((word.sshiftRight
            ((table.getD (word.sshiftRight 7 &&& 0xff).toNat 0).toNat + 3) &&& 0x0f).setWidth
              8)).toBitVec.setWidth 16)).setWidth 8) =
        codeByte negative exponent mantissa := by
  have exponent := toNat_exponent large small
  have log_lt : word.toNat.log2 < 15 := (Nat.log2_lt (by omega)).mpr small
  have log_ge : 7 ≤ word.toNat.log2 := (Nat.le_log2 (by omega)).mpr large
  obtain ⟨first, last⟩ := @cell_bounds 4 word.toNat (by omega)
  generalize table.getD (word.sshiftRight 7 &&& 0xff).toNat 0 = entry at exponent ⊢
  have count : width 4 word.toNat = 2 ^ (entry.toNat + 3) := by
    rw [width, exponent]
    congr 1
    omega
  have field := @toNat_field word 0x0f small (entry.toNat + 3) 4 rfl
  rw [← count, ← cell] at field
  refine ⟨⟨entry.toNat, by omega⟩, ⟨cell 4 word.toNat - 16, by omega⟩, exponent, by
    simp only
    omega, ?_⟩
  have mantissa : UInt8.ofBitVec ((word.sshiftRight (entry.toNat + 3) &&& 0x0f).setWidth 8) =
      UInt8.ofNat (cell 4 word.toNat - 16) := by
    apply UInt8.toNat_inj.mp
    rw [UInt8.toNat_ofBitVec, BitVec.toNat_setWidth, field, UInt8.toNat_ofNat']
    omega
  rw [mantissa, ← codeByte_eq]
  simp only [UInt8.ofNat_toNat]

end Bits

/-- A sample other than the least is kept by its sign, its segment and its cell. -/
theorem encodeSample_eq {sample : Int16} (not_least : sample ≠ -32768) :
    ∃ (exponent : Fin 8) (mantissa : Fin 16), exponent.val = segment sample ∧
      16 + mantissa.val = cell 4 (biasedMagnitude sample) ∧
        encodeSample sample = codeByte (sample.toInt < 0) exponent mantissa := by
  obtain ⟨magnitude, fits⟩ := toNat_magnitude not_least
  obtain ⟨large, small⟩ := biasedMagnitude_bounds sample
  have chosen : (if (if sample.toInt < 0 then (0x80 : BitVec 16) else 0) ≠ 0 then
      -sample.toBitVec else sample.toBitVec) =
        if sample.toInt < 0 then -sample.toBitVec else sample.toBitVec := by
    split <;> simp
  have biased := toNat_biased (magnitude ▸ fits)
  have value : min sample.toInt.natAbs 32635 + 132 = biasedMagnitude sample := by
    rw [biasedMagnitude, clamp]
    omega
  rw [magnitude, value] at biased
  obtain ⟨exponent, mantissa, exponent_eq, mantissa_eq, byte⟩ :=
    byte_of_word (by rw [biased]; omega) (by rw [biased]; omega) (decide (sample.toInt < 0))
  rw [biased] at exponent_eq mantissa_eq
  refine ⟨exponent, mantissa, exponent_eq, mantissa_eq, ?_⟩
  unfold encodeSample
  simp only [sign_eq, chosen]
  simp only [decide_eq_true_iff] at byte
  exact byte

theorem g711Value_codeByte : ∀ (negative : Bool) (exponent : Fin 8) (mantissa : Fin 16),
    g711Value (codeByte negative exponent mantissa) =
      signed negative ((33 + 2 * mantissa.val) * 2 ^ (exponent.val + 2) - 132) := by
  decide +kernel

theorem decodeSample_codeByte : ∀ (negative : Bool) (exponent : Fin 8) (mantissa : Fin 16),
    (decodeSample (codeByte negative exponent mantissa)).toInt =
      signed negative (33 * 2 ^ (exponent.val + 2) - 132 +
        (mantissa.val * 2 ^ (exponent.val + 3) % 256 : Nat)) := by
  decide +kernel

theorem g711Value_encodeSample {sample : Int16} (not_least : sample ≠ -32768) :
    g711Value (encodeSample sample) =
      signed (sample.toInt < 0) ((middle 4 (biasedMagnitude sample) : Int) - 132) := by
  obtain ⟨exponent, mantissa, exponent_eq, mantissa_eq, byte⟩ := encodeSample_eq not_least
  obtain ⟨-, -, width_eq⟩ := segment_bounds sample
  have double : width 4 (biasedMagnitude sample) = 2 * 2 ^ (segment sample + 2) := by
    rw [width_eq, pow_succ, Nat.mul_comm]
  rw [byte, g711Value_codeByte, middle, half_width, double, ← mantissa_eq, exponent_eq]
  congr 1
  push_cast
  ring

/-- The magnitude of a value is not negative, and zero for the four smallest magnitudes. -/
theorem le_middle (sample : Int16) :
    132 ≤ middle 4 (biasedMagnitude sample) ∧
      (middle 4 (biasedMagnitude sample) = 132 ↔ biasedMagnitude sample ≤ 135) := by
  obtain ⟨large, -⟩ := biasedMagnitude_bounds sample
  have first : middle 4 132 = 132 := by decide
  have last : middle 4 135 = 132 := by decide
  have next : middle 4 136 = 140 := by decide
  have least := @middle_mono 4 132 _ (by omega) large
  refine ⟨by omega, ?_⟩
  by_cases small : biasedMagnitude sample ≤ 135
  · have below := @middle_mono 4 _ 135 (by omega) small
    omega
  · have above := @middle_mono 4 136 (biasedMagnitude sample) (by omega) (by omega)
    omega

/-- The encoder keeps the order of samples, the least one set aside. -/
theorem g711Value_mono {sample other : Int16} (sample_ne : sample ≠ -32768)
    (other_ne : other ≠ -32768) (ordered : sample.toInt ≤ other.toInt) :
    g711Value (encodeSample sample) ≤ g711Value (encodeSample other) := by
  obtain ⟨large, -⟩ := biasedMagnitude_bounds sample
  obtain ⟨other_large, -⟩ := biasedMagnitude_bounds other
  obtain ⟨above, -⟩ := le_middle sample
  obtain ⟨other_above, -⟩ := le_middle other
  rw [g711Value_encodeSample sample_ne, g711Value_encodeSample other_ne, signed, signed]
  by_cases negative : sample.toInt < 0
  · by_cases other_negative : other.toInt < 0
    · have smaller : biasedMagnitude other ≤ biasedMagnitude sample := by
        rw [biasedMagnitude, biasedMagnitude, clamp, clamp]
        omega
      have middles := @middle_mono 4 _ _ (by omega) smaller
      rw [if_pos (by simpa using negative), if_pos (by simpa using other_negative)]
      omega
    · rw [if_pos (by simpa using negative), if_neg (by simpa using other_negative)]
      omega
  · have larger : biasedMagnitude sample ≤ biasedMagnitude other := by
      rw [biasedMagnitude, biasedMagnitude, clamp, clamp]
      omega
    have middles := @middle_mono 4 _ _ (by omega) larger
    rw [if_neg (by simpa using negative), if_neg (by
      simp only [decide_eq_true_iff]
      omega)]
    omega

/-- The least sample has the value zero. -/
theorem g711Value_least : g711Value (encodeSample (-32768)) = 0 := by decide

theorem g711Value_nonneg_iff (sample : Int16) :
    0 ≤ g711Value (encodeSample sample) ↔ sample = -32768 ∨ -3 ≤ sample.toInt := by
  by_cases least : sample = -32768
  · rw [least, g711Value_least]
    simp
  · rw [or_iff_right least, g711Value_encodeSample least, signed]
    obtain ⟨above, zero⟩ := le_middle sample
    rw [biasedMagnitude, clamp] at above zero
    rw [biasedMagnitude, clamp]
    split
    · rename_i negative
      have below := of_decide_eq_true negative
      omega
    · rename_i positive
      have beyond := of_decide_eq_false (Bool.eq_false_iff.mpr positive)
      omega

/-- Two samples in order have values in order if and only if the smaller one is not the least
sample, or the larger one has no negative value. -/
theorem ordered_iff (sample other : Int16) :
    (sample.toInt ≤ other.toInt →
      g711Value (encodeSample sample) ≤ g711Value (encodeSample other)) ↔
      sample ≠ -32768 ∨ other = -32768 ∨ -3 ≤ other.toInt := by
  by_cases least : sample = -32768
  · subst least
    have lowest : (-32768 : Int16).toInt ≤ other.toInt := other.le_toInt
    rw [g711Value_least, g711Value_nonneg_iff]
    constructor
    · exact fun claimed => .inr (claimed lowest)
    · rintro (differs | condition) _
      · exact absurd rfl differs
      · exact condition
  · refine iff_of_true (fun ordered => ?_) (.inl least)
    have other_ne : other ≠ -32768 := by
      rintro rfl
      have lowest : (-32768 : Int16).toInt ≤ sample.toInt := sample.le_toInt
      exact least (Int16.toInt_inj.mp (le_antisymm ordered lowest))
    exact g711Value_mono least other_ne ordered

/-- The least sample has a greater value than the next one. -/
theorem least_sample_out_of_order :
    ¬∀ sample other : Int16, sample.toInt ≤ other.toInt →
      g711Value (encodeSample sample) ≤ g711Value (encodeSample other) := by
  intro claimed
  exact absurd (claimed (-32768) (-32767) (by decide)) (by decide)

/-- A sample is not the least one, and `decode_sample` loses nothing of the number of its cell, or
the sample lies in the first cell of its segment or where the second one starts. -/
def Kept (sample : Int16) : Prop :=
  sample ≠ -32768 ∧
    (segment sample ≤ 4 ∧ biasedMagnitude sample < 2 ^ (segment sample + 7) + 256 ∨
      5 ≤ segment sample ∧
        biasedMagnitude sample ≤ 2 ^ (segment sample + 7) + 2 ^ (segment sample + 3))

/-- A sample comes back as near as its segment allows. -/
def Near (sample : Int16) : Prop :=
  |(decodeSample (encodeSample sample)).toInt - clamp sample| ≤ 2 ^ (segment sample + 2)

/-- A cell, of whose number only what fits into a byte is left, is near when nothing is lost, or
when what is lost leads no farther than to the next cell. -/
theorem near_cell_iff {value e m r : Nat} (small : e < 8) (mantissa_lt : m < 16)
    (inside : r < 2 ^ (e + 3)) (whole : (16 + m) * 2 ^ (e + 3) + r = value) :
    |(33 * 2 ^ (e + 2) - 132 + (m * 2 ^ (e + 3) % 256 : Nat) : Int) - (value - 132)| ≤
        2 ^ (e + 2) ↔
      e ≤ 4 ∧ value < 2 ^ (e + 7) + 256 ∨ 5 ≤ e ∧ value ≤ 2 ^ (e + 7) + 2 ^ (e + 3) := by
  rw [abs_le]
  -- the shift by `e + 3` is either within a byte or takes every bit out of it
  interval_cases e <;> omega

/-- The samples that come back as near as their segments allow. -/
theorem near_iff (sample : Int16) : Near sample ↔ Kept sample := by
  by_cases least : sample = -32768
  · subst least
    exact iff_of_false (by unfold Near; decide) fun kept => kept.1 rfl
  · rw [Kept, and_iff_right least, Near]
    obtain ⟨exponent, mantissa, exponent_eq, mantissa_eq, byte⟩ := encodeSample_eq least
    obtain ⟨small, -, width_eq⟩ := segment_bounds sample
    have whole := cell_mul_width_add 4 (biasedMagnitude sample)
    have inside := Nat.mod_lt (biasedMagnitude sample) (width_pos 4 (biasedMagnitude sample))
    rw [← mantissa_eq, width_eq] at whole
    rw [width_eq] at inside
    rw [byte, decodeSample_codeByte, clamp_eq_signed, exponent_eq, abs_signed_sub]
    exact near_cell_iff small mantissa.isLt inside whole

/-- The samples come back, each as near as its segment allows. -/
def ComesBack (samples : List Int16) : Prop :=
  ∃ decoded, muLaw.decode (samples.map encodeSample) = .ok decoded ∧
    decoded.length = samples.length ∧
      ∀ (n : Nat) (sample result : Int16), samples[n]? = some sample →
        decoded[n]? = some result → |result.toInt - clamp sample| ≤ 2 ^ (segment sample + 2)

theorem comesBack_iff_near (samples : List Int16) :
    ComesBack samples ↔ ∀ sample ∈ samples, Near sample := by
  have position : ∀ n : Nat, ((samples.map encodeSample).map decodeSample)[n]? =
      samples[n]?.map fun sample => decodeSample (encodeSample sample) := by
    intro n
    rw [List.map_map, List.getElem?_map]
    rfl
  constructor
  · rintro ⟨decoded, read, -, near⟩ sample member
    obtain rfl := Except.ok.inj read
    obtain ⟨n, here⟩ := List.mem_iff_getElem?.mp member
    exact near n sample _ here (by rw [position, here]; rfl)
  · intro near
    refine ⟨_, rfl, by rw [List.length_map, List.length_map], ?_⟩
    intro n sample result here there
    rw [position, here] at there
    obtain rfl := Option.some.inj there
    exact near sample (List.mem_of_getElem? here)

/-- Samples come back within half a width of their cells if and only if each of them is kept. -/
theorem comesBack_iff (samples : List Int16) :
    ComesBack samples ↔ ∀ sample ∈ samples, Kept sample := by
  rw [comesBack_iff_near]
  exact forall₂_congr fun sample _ => near_iff sample

/-- A sample of the tests loses its place in the segment. -/
theorem mantissa_lost : ¬∀ samples : List Int16, ComesBack samples := by
  intro claimed
  have near := (comesBack_iff_near [-4283]).mp (claimed [-4283]) _ List.mem_cons_self
  unfold Near at near
  exact absurd near (by decide)

end Codec
end Contest
