import Mathlib.Data.List.Basic

/-!
# The block cipher AES

AES with keys of sixteen, 24 and 32 bytes, over lists of bytes.  A block is kept column by column.
-/

namespace Contest
namespace Aes

/-- The substitution of bytes, sixteen to a row. -/
def rows : List Nat :=
  [0x637c777bf26b6fc53001672bfed7ab76, 0xca82c97dfa5947f0add4a2af9ca472c0,
    0xb7fd9326363ff7cc34a5e5f171d83115, 0x04c723c31896059a071280e2eb27b275,
    0x09832c1a1b6e5aa0523bd6b329e32f84, 0x53d100ed20fcb15b6acbbe394a4c58cf,
    0xd0efaafb434d338545f9027f503c9fa8, 0x51a3408f929d38f5bcb6da2110fff3d2,
    0xcd0c13ec5f974417c4a77e3d645d1973, 0x60814fdc222a908846eeb814de5e0bdb,
    0xe0323a0a4906245cc2d3ac629195e479, 0xe7c8376d8dd54ea96c56f4ea657aae08,
    0xba78252e1ca6b4c6e8dd741f4bbd8b8a, 0x703eb5664803f60e613557b986c11d9e,
    0xe1f8981169d98e949b1e87e9ce5528df, 0x8ca1890dbfe6426841992d0fb054bb16]

/-- The substitution of a byte. -/
def subByte (byte : UInt8) : UInt8 :=
  UInt8.ofNat (rows.getD (byte.toNat / 16) 0 >>> (8 * (15 - byte.toNat % 16)))

/-- Multiply by the indeterminate. -/
def double (byte : UInt8) : UInt8 :=
  if byte &&& 0x80 = 0 then byte <<< 1 else byte <<< 1 ^^^ 0x1b

/-- Exclusive or. -/
def add (left right : List UInt8) : List UInt8 := List.zipWith (· ^^^ ·) left right

/-- The rows of a block are rotated, each by one more than the row above. -/
def shiftRows (block : List UInt8) : List UInt8 :=
  (List.range 16).map fun i => block.getD (5 * i % 16) 0

/-- The columns of a block are multiplied by a matrix. -/
def mixColumns : List UInt8 → List UInt8
  | a :: b :: c :: d :: rest =>
      (double a ^^^ double b ^^^ b ^^^ c ^^^ d) :: (a ^^^ double b ^^^ double c ^^^ c ^^^ d) ::
        (a ^^^ b ^^^ double c ^^^ double d ^^^ d) ::
          (double a ^^^ a ^^^ b ^^^ c ^^^ double d) :: mixColumns rest
  | _ => []

/-- Words of four bytes. -/
def words : List UInt8 → List (List UInt8)
  | a :: b :: c :: d :: rest => [a, b, c, d] :: words rest
  | _ => []

/-- The words that follow the given ones in the schedule of a key of so many words. -/
def schedule (size : Nat) : Nat → Nat → UInt8 → List (List UInt8) → List (List UInt8)
  | 0, _, _, _ => []
  | count + 1, place, constant, recent =>
      let last := recent.getLastD []
      let turned :=
        if place = 0 then
          add ((last.drop 1 ++ last.take 1).map subByte) [constant, 0, 0, 0]
        else if 6 < size ∧ place = 4 then last.map subByte
        else last
      let next := add (recent.headD []) turned
      next :: schedule size count (if place + 1 = size then 0 else place + 1)
        (if place = 0 then double constant else constant) (recent.tail ++ [next])

/-- Four words in a row are the key of a round. -/
def roundKeys : List (List UInt8) → List (List UInt8)
  | a :: b :: c :: d :: rest => (a ++ b ++ c ++ d) :: roundKeys rest
  | _ => []

/-- The rounds with the given keys; the last one does not mix the columns. -/
def rounds : List (List UInt8) → List UInt8 → List UInt8
  | [], block => block
  | [key], block => add (shiftRows (block.map subByte)) key
  | key :: keys, block => rounds keys (add (mixColumns (shiftRows (block.map subByte))) key)

/-- Encipher a block. -/
def encipher (key block : List UInt8) : List UInt8 :=
  let first := words key
  let later := schedule first.length (3 * first.length + 28) 0 1 first
  let ciphered :=
    match roundKeys (first ++ later) with
    | [] => block
    | key :: keys => rounds keys (add block key)
  (List.range 16).map fun i => ciphered.getD i 0

@[simp]
theorem length_encipher (key block : List UInt8) : (encipher key block).length = 16 := by
  rw [encipher, List.length_map, List.length_range]

/-- A block that is enciphered with keys of all three sizes. -/
example : [16, 24, 32].map (fun size => encipher ((List.range size).map UInt8.ofNat)
    ((List.range 16).map fun i => UInt8.ofNat (0x11 * i))) =
      [[0x69, 0xc4, 0xe0, 0xd8, 0x6a, 0x7b, 0x04, 0x30, 0xd8, 0xcd, 0xb7, 0x80, 0x70, 0xb4, 0xc5,
        0x5a],
      [0xdd, 0xa9, 0x7c, 0xa4, 0x86, 0x4c, 0xdf, 0xe0, 0x6e, 0xaf, 0x70, 0xa0, 0xec, 0x0d, 0x71,
        0x91],
      [0x8e, 0xa2, 0xb7, 0xca, 0x51, 0x67, 0x45, 0xbf, 0xea, 0xfc, 0x49, 0x90, 0x4b, 0x49, 0x60,
        0x89]] := by decide +kernel

end Aes
end Contest
