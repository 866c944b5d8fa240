import Contest.Crystal

/-!
# Audio streams

`Audio::SixteenBitStream` hands out its samples in frames of twenty milliseconds, the last of which
may be short.  `Audio::WatsonStream` reads the samples from the body of an HTTP response.
-/

namespace Contest
namespace Audio

/-- `SAMPLES_PER_FRAME`. -/
def samplesPerFrame : Nat := 48000 / 50

/-- `SixteenBitStream`. -/
structure SixteenBitStream where
  /-- The samples. -/
  audio : List Int16
  /-- How many samples have been handed out. -/
  position : Nat
deriving DecidableEq, Repr

namespace SixteenBitStream

/-- `SixteenBitStream.new`. -/
def new (audio : List Int16) : SixteenBitStream := ⟨audio, 0⟩

/-- `_next`, and `next` as long as no block has been registered. -/
def next (stream : SixteenBitStream) : Option (List Int16) × SixteenBitStream :=
  if stream.audio.length ≤ stream.position then (none, stream)
  else
    let remain := stream.audio.length - stream.position
    let grab := min samplesPerFrame remain
    (some ((stream.audio.drop stream.position).take grab),
      { stream with position := stream.position + grab })

end SixteenBitStream

/-- The samples in a response body, a pair of bytes for each; an odd byte at the end is left. -/
def watsonSamples : Bytes → List Int16
  | low :: high :: later =>
      Int16.ofNat (high.toNat * 256 + low.toNat) :: watsonSamples later
  | _ => []

end Audio
end Contest
