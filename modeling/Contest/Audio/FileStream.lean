import Contest.Audio.Stream

/-!
# Streams over files

`SixteenBitStream.new(path)` allocates as many bytes as the file has, rounds the number of samples
up to whole frames and takes the rounded number for the size of its slice.  The bytes are not
padded, so the last frame reaches behind them.  A size is an `Int32`, and one that does not fit is
cut down to 32 bits without an exception.
-/

namespace Contest
namespace Audio

/-- `Int#to_i32` of a size. -/
def sizeInt32 (size : Nat) : Int := (BitVec.ofNat 32 size).toInt

theorem sizeInt32_of_lt {size : Nat} (small : size < 2 ^ 31) : sizeInt32 size = size := by
  rw [sizeInt32, BitVec.toInt_eq_toNat_cond, BitVec.toNat_ofNat]
  split <;> omega

/-- A size that does not fit comes out smaller by 4294967296 at the least. -/
theorem sizeInt32_of_ge {size : Nat} (large : 2 ^ 31 ≤ size) :
    sizeInt32 size ≤ size - 2 ^ 32 := by
  rw [sizeInt32, BitVec.toInt_eq_toNat_cond, BitVec.toNat_ofNat]
  split <;> omega

/-- `pad_audio_size`, for the size of a file. -/
def padAudioSize (audioSize : Nat) : Nat :=
  let padAudioSize := audioSize / 2
  let remain := padAudioSize % samplesPerFrame
  if remain ≠ 0 then padAudioSize + (samplesPerFrame - remain) else padAudioSize

theorem padAudioSize_of_whole {audioSize : Nat} (whole : audioSize / 2 % samplesPerFrame = 0) :
    padAudioSize audioSize = audioSize / 2 := by
  simp [padAudioSize, whole]

theorem lt_padAudioSize {audioSize : Nat} (rest : audioSize / 2 % samplesPerFrame ≠ 0) :
    audioSize / 2 < padAudioSize audioSize := by
  have below := Nat.mod_lt (audioSize / 2) SixteenBitStream.samplesPerFrame_pos
  unfold padAudioSize
  simp only
  rw [if_pos rest]
  omega

theorem padAudioSize_lt (audioSize : Nat) :
    padAudioSize audioSize < audioSize / 2 + samplesPerFrame := by
  have positive := SixteenBitStream.samplesPerFrame_pos
  unfold padAudioSize
  simp only
  split <;> omega

/-- A `Slice(Int16)` over memory, whose size is not compared with what has been allocated. -/
structure SampleSlice where
  /-- The bytes that have been allocated at its pointer. -/
  memory : Bytes
  /-- The number of samples. -/
  size : Int
deriving DecidableEq, Repr

/-- `SixteenBitStream`, over memory. -/
structure FileStream where
  /-- The samples. -/
  audio : SampleSlice
  /-- How many samples have been handed out. -/
  position : Nat
deriving DecidableEq, Repr

namespace FileStream

/-- `Bytes.new(audio_size)` after `read_fully`, which fills it as far as the size of the slice
goes. -/
def audioBytes (contents : Bytes) : Bytes :=
  let read := (sizeInt32 contents.length).toNat
  contents.take read ++ List.replicate (contents.length - read) 0

/-- `SixteenBitStream.new(path)`, for a file with the given contents. -/
def new (contents : Bytes) : FileStream where
  audio := { memory := audioBytes contents, size := sizeInt32 (padAudioSize contents.length) }
  position := 0

/-- `_next`, with the indices of the samples in the slice that it hands out. -/
def next (stream : FileStream) : Option (List Nat) × FileStream :=
  if stream.audio.size ≤ stream.position then (none, stream)
  else
    let remain := (stream.audio.size - stream.position).toNat
    let grab := min samplesPerFrame remain
    (some (List.range' stream.position grab), { stream with position := stream.position + grab })

/-- What so many calls of `next` and one more hand out in the last. -/
def frame (stream : FileStream) (n : Nat) : Option (List Nat) :=
  (next ((fun stream => (next stream).2)^[n] stream)).1

/-- As many bytes are allocated as the file has. -/
theorem length_audioBytes (contents : Bytes) : (audioBytes contents).length = contents.length := by
  have read : (sizeInt32 contents.length).toNat ≤ contents.length := by
    rcases Nat.lt_or_ge contents.length (2 ^ 31) with small | large
    · rw [sizeInt32_of_lt small]
      omega
    · have wrapped := sizeInt32_of_ge large
      omega
  rw [audioBytes, List.length_append, List.length_take, List.length_replicate]
  omega

/-- Where a new stream is after so many calls. -/
theorem iterate_next (audio : SampleSlice) (n : Nat) :
    (fun stream => (next stream).2)^[n] ⟨audio, 0⟩ =
      ⟨audio, min (n * samplesPerFrame) audio.size.toNat⟩ := by
  induction n with
  | zero => simp
  | succ n induction =>
      rw [Function.iterate_succ_apply', induction]
      simp only [next, Nat.succ_mul]
      split
      · rename_i done
        simp only [FileStream.mk.injEq, true_and]
        omega
      · rename_i more
        simp only [FileStream.mk.injEq, true_and]
        omega

/-- The frame that comes after so many others. -/
theorem frame_eq (audio : SampleSlice) (n : Nat) :
    frame ⟨audio, 0⟩ n =
      if n * samplesPerFrame < audio.size.toNat then
        some (List.range' (n * samplesPerFrame)
          (min samplesPerFrame (audio.size.toNat - n * samplesPerFrame)))
      else none := by
  rw [frame, iterate_next]
  simp only [next]
  by_cases more : n * samplesPerFrame < audio.size.toNat
  · have position : min (n * samplesPerFrame) audio.size.toNat = n * samplesPerFrame := by omega
    have left : (audio.size - ((n * samplesPerFrame : Nat) : Int)).toNat =
        audio.size.toNat - n * samplesPerFrame := by omega
    rw [position, left, if_pos more, if_neg (by omega)]
  · have position : min (n * samplesPerFrame) audio.size.toNat = audio.size.toNat := by omega
    rw [position, if_neg more, if_pos (by omega)]

/-- The samples that are handed out are those below the size of the slice, each in its frame. -/
theorem mem_frame_iff {audio : SampleSlice} {n i : Nat} :
    (∃ part, frame ⟨audio, 0⟩ n = some part ∧ i ∈ part) ↔
      (i : Int) < audio.size ∧ i / samplesPerFrame = n := by
  have size : samplesPerFrame = 960 := rfl
  rw [frame_eq, size]
  split
  · simp only [Option.some.injEq, exists_eq_left', List.mem_range'_1]
    omega
  · simp only [reduceCtorEq, false_and, exists_false, false_iff, not_and]
    omega

/-! ### What the file has -/

/-- What is handed out lies in memory, and is zero where the file has nothing. -/
structure Present (contents : Bytes) : Prop where
  /-- The two bytes of each sample have been allocated. -/
  inside : ∀ n part, (new contents).frame n = some part → ∀ i ∈ part,
    2 * i + 2 ≤ (new contents).audio.memory.length
  /-- A byte that is not one of the file is there and is zero. -/
  padding : ∀ n part, (new contents).frame n = some part → ∀ i ∈ part, ∀ k ∈ [2 * i, 2 * i + 1],
    contents.length ≤ k → (new contents).audio.memory[k]? = some 0

/-- The slice has no sample behind the file, exactly if none is added or its size is cut down. -/
theorem size_new_le_iff (contents : Bytes) :
    (new contents).audio.size ≤ ((contents.length / 2 : Nat) : Int) ↔
      contents.length / 2 % samplesPerFrame = 0 ∨ 2 ^ 31 ≤ padAudioSize contents.length := by
  have size : (new contents).audio.size = sizeInt32 (padAudioSize contents.length) := rfl
  rw [size]
  rcases Nat.lt_or_ge (padAudioSize contents.length) (2 ^ 31) with small | large
  · rw [sizeInt32_of_lt small, or_iff_left (Nat.not_le_of_lt small), Int.ofNat_le]
    constructor
    · intro within
      by_contra rest
      exact absurd (lt_padAudioSize rest) (Nat.not_lt_of_le within)
    · intro whole
      exact Nat.le_of_eq (padAudioSize_of_whole whole)
  · refine iff_of_true ?_ (.inr large)
    have wrapped := sizeInt32_of_ge large
    have padded := padAudioSize_lt contents.length
    have frame : samplesPerFrame = 960 := rfl
    omega

/-- What is handed out is there, exactly if the slice has no sample behind the file. -/
theorem present_iff_size_le (contents : Bytes) :
    Present contents ↔ (new contents).audio.size ≤ ((contents.length / 2 : Nat) : Int) := by
  have allocated : (new contents).audio.memory.length = contents.length :=
    length_audioBytes contents
  constructor
  · intro present
    by_contra behind
    -- the first sample that the file does not have is in the slice
    obtain ⟨part, handed, member⟩ := mem_frame_iff.mpr ⟨Int.lt_of_not_ge behind, rfl⟩
    have inside := present.inside _ part handed _ member
    omega
  · intro within
    have inside : ∀ n part, (new contents).frame n = some part → ∀ i ∈ part,
        2 * i + 2 ≤ contents.length := by
      intro n part handed i member
      obtain ⟨below, -⟩ := mem_frame_iff.mp ⟨part, handed, member⟩
      have lower : (i : Int) < ((contents.length / 2 : Nat) : Int) :=
        Int.lt_of_lt_of_le below within
      omega
    refine ⟨?_, ?_⟩
    · intro n part handed i member
      rw [allocated]
      exact inside n part handed i member
    · intro n part handed i member k byte missing
      have bytes := inside n part handed i member
      simp only [List.mem_cons, List.not_mem_nil, or_false] at byte
      omega

/-- Only samples that are there are handed out, exactly if the samples of the file are a whole
number of frames or are too many for the size of a slice. -/
theorem present_iff (contents : Bytes) :
    Present contents ↔
      contents.length / 2 % samplesPerFrame = 0 ∨ 2 ^ 31 ≤ padAudioSize contents.length :=
  (present_iff_size_le contents).trans (size_new_le_iff contents)

/-- The stream over a file of one sample hands out 960. -/
theorem absent_samples_handed_out : ¬∀ contents, Present contents := by
  intro claimed
  obtain ⟨part, handed, member⟩ :=
    (@mem_frame_iff (new [0, 1]).audio 0 1).mpr ⟨by decide, by decide⟩
  exact absurd ((claimed [0, 1]).inside 0 part handed 1 member) (by decide)

end FileStream
end Audio
end Contest
