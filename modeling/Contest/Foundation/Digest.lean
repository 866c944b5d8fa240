import Mathlib.Data.List.Basic
import Mathlib.Logic.Function.Iterate

/-!
# Message digests

SHA-1, keyed hashing, and the 32-bit cyclic redundancy check in its reflected form, over lists of
bytes.
-/

namespace Contest
namespace Digest

/-- The four bytes of a word, the highest first. -/
def wordBytes (word : UInt32) : List UInt8 :=
  [(word >>> 24).toUInt8, (word >>> 16).toUInt8, (word >>> 8).toUInt8, word.toUInt8]

/-- The words of a list of bytes, the highest byte of each first. -/
def words : List UInt8 → List UInt32
  | a :: b :: c :: d :: rest =>
      (a.toUInt32 <<< 24 ||| b.toUInt32 <<< 16 ||| c.toUInt32 <<< 8 ||| d.toUInt32) :: words rest
  | _ => []

/-- Rotate a word to the left. -/
def rotateLeft (word count : UInt32) : UInt32 := word <<< count ||| word >>> (32 - count)

namespace Sha1

/-- The five words that are carried from one block to the next. -/
structure State where
  /-- The first word. -/
  a : UInt32
  /-- The second word. -/
  b : UInt32
  /-- The third word. -/
  c : UInt32
  /-- The fourth word. -/
  d : UInt32
  /-- The fifth word. -/
  e : UInt32
deriving DecidableEq, Repr

/-- The state before the first block. -/
def initial : State := ⟨0x67452301, 0xefcdab89, 0x98badcfe, 0x10325476, 0xc3d2e1f0⟩

/-- The function of a round, with its constant added. -/
def mix (t : Nat) (b c d : UInt32) : UInt32 :=
  if t < 20 then (b &&& c ||| ~~~b &&& d) + 0x5a827999
  else if t < 40 then (b ^^^ c ^^^ d) + 0x6ed9eba1
  else if t < 60 then (b &&& c ||| b &&& d ||| c &&& d) + 0x8f1bbcdc
  else (b ^^^ c ^^^ d) + 0xca62c1d6

/-- One round. -/
def round (t : Nat) (word : UInt32) (state : State) : State where
  a := rotateLeft state.a 5 + mix t state.b state.c state.d + state.e + word
  b := state.a
  c := rotateLeft state.b 30
  d := state.c
  e := state.d

/-- So many rounds, on a window of the sixteen words that come next. -/
def rounds : Nat → Nat → List UInt32 → State → State
  | count + 1, t, word :: window, state =>
      let next := rotateLeft
        (word ^^^ window.getD 1 0 ^^^ window.getD 7 0 ^^^ window.getD 12 0) 1
      rounds count (t + 1) (window ++ [next]) (round t word state)
  | _, _, _, state => state

/-- Take in one block of 64 bytes. -/
def compress (state : State) (block : List UInt8) : State :=
  let after := rounds 80 0 (words block) state
  ⟨state.a + after.a, state.b + after.b, state.c + after.c, state.d + after.d,
    state.e + after.e⟩

/-- Take in so many blocks. -/
def absorb : Nat → List UInt8 → State → State
  | 0, _, state => state
  | count + 1, blocks, state => absorb count (blocks.drop 64) (compress state (blocks.take 64))

/-- The number of bits of so many bytes, in eight bytes. -/
def bitLength (size : Nat) : List UInt8 :=
  (List.range 8).map fun k => UInt8.ofNat ((8 * size) >>> (56 - 8 * k))

/-- A one bit, zero bits and the number of bits fill up the last block. -/
def pad (message : List UInt8) : List UInt8 :=
  message ++ 0x80 :: List.replicate ((119 - message.length % 64) % 64) 0 ++
    bitLength message.length

end Sha1

/-- SHA-1. -/
def sha1 (message : List UInt8) : List UInt8 :=
  let padded := Sha1.pad message
  let state := Sha1.absorb (padded.length / 64) padded Sha1.initial
  [state.a, state.b, state.c, state.d, state.e].flatMap wordBytes

@[simp]
theorem length_sha1 (message : List UInt8) : (sha1 message).length = 20 := rfl

example : sha1 [0x61, 0x62, 0x63] =
    [0xa9, 0x99, 0x3e, 0x36, 0x47, 0x06, 0x81, 0x6a, 0xba, 0x3e, 0x25, 0x71, 0x78, 0x50, 0xc2,
      0x6c, 0x9c, 0xd0, 0xd8, 0x9d] := by decide +kernel

/-- Keyed hashing with a hash function that works on blocks of 64 bytes. -/
def hmac (hash : List UInt8 → List UInt8) (key message : List UInt8) : List UInt8 :=
  let short := if key.length ≤ 64 then key else hash key
  let block := short ++ List.replicate (64 - short.length) 0
  hash (block.map (· ^^^ 0x5c) ++ hash (block.map (· ^^^ 0x36) ++ message))

@[simp]
theorem length_hmac_sha1 (key message : List UInt8) : (hmac sha1 key message).length = 20 := rfl

/-- One bit of the cyclic redundancy check. -/
def crcBit (crc : UInt32) : UInt32 :=
  if crc &&& 1 = 1 then crc >>> 1 ^^^ 0xedb88320 else crc >>> 1

/-- One byte of the cyclic redundancy check. -/
def crcByte (crc : UInt32) (byte : UInt8) : UInt32 := crcBit^[8] (crc ^^^ byte.toUInt32)

/-- The cyclic redundancy check. -/
def crc32 (message : List UInt8) : UInt32 := message.foldl crcByte 0xffffffff ^^^ 0xffffffff

example : crc32 [0x31, 0x32, 0x33, 0x34, 0x35, 0x36, 0x37, 0x38, 0x39] = 0xcbf43926 := by
  decide +kernel

end Digest
end Contest
