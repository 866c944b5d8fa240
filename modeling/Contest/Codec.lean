import Contest.Crystal

/-!
# The codecs

`Codec::Generic` and its two subclasses.  Encoding goes through libopus and libsamplerate and is
supplied by the environment of a run; decoding is the program's own.
-/

namespace Contest

/-- The subclasses of `Codec::Generic`. -/
inductive Codec
  /-- `Codec::Opus`. -/
  | opus
  /-- `Codec::MuLaw`. -/
  | muLaw
deriving DecidableEq, Repr

namespace Codec

/-- `EXP_LUT`. -/
def expLut : List Int := [0, 132, 396, 924, 1980, 4092, 8316, 16764]

/-- `TABLE`. -/
def table : List UInt8 :=
  List.replicate 2 0 ++ List.replicate 2 1 ++ List.replicate 4 2 ++ List.replicate 8 3 ++
    List.replicate 16 4 ++ List.replicate 32 5 ++ List.replicate 64 6 ++ List.replicate 128 7

/-- `encode_sample`. -/
def encodeSample (sample : Int16) : UInt8 :=
  let sign := sample.toBitVec.sshiftRight 8 &&& 0x80
  let magnitude := if sign ≠ 0 then -sample.toBitVec else sample.toBitVec
  -- a clipped sample is an UInt16 from here on, and its shifts give the same
  let clipped : BitVec 16 := if 32635 < magnitude.toInt then 32635 else magnitude
  let biased := clipped + 0x84
  let exponent := table.getD (biased.sshiftRight 7 &&& 0xff).toNat 0
  let mantissa := UInt8.ofBitVec
    ((biased.sshiftRight (exponent.toNat + 3) &&& 0x0f).setWidth 8)
  UInt8.ofBitVec ((~~~(sign ||| (exponent <<< 4).toBitVec.setWidth 16 |||
    mantissa.toBitVec.setWidth 16)).setWidth 8)

/-- `decode_sample`; the mantissa is a byte and is shifted as one. -/
def decodeSample (encoded : UInt8) : Int16 :=
  let ulawbyte := ~~~encoded
  let sign := ulawbyte &&& 0x80
  let exponent := (ulawbyte >>> 4) &&& 0x07
  let mantissa := ulawbyte &&& 0x0f
  let shifted := shiftLeftByte mantissa (exponent.toNat + 3)
  let sample := Int16.ofInt (expLut.getD exponent.toNat 0 + shifted.toNat)
  if sign ≠ 0 then -sample else sample

/-- `decode`, which `Codec::Opus` inherits from `Codec::Generic`. -/
def decode : Codec → Bytes → Fallible (List Int16)
  | opus, _ => .error (.raised "to be implemented by subclass...")
  | muLaw, encoded => .ok (encoded.map decodeSample)

/-- `samples_per_frame`. -/
def samplesPerFrame : Codec → BitVec 32
  | opus => 960
  | muLaw => 160

/-- The name and clock rate under which session descriptions list the codec. -/
def encodingName : Codec → Text
  | opus => "opus/48000/2".toList
  | muLaw => "PCMU/8000".toList

end Codec
end Contest
