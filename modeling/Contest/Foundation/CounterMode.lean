import Mathlib.Data.List.Basic
import Mathlib.Data.Nat.Digits.Defs
import Mathlib.Logic.Function.Iterate

/-!
# Counter mode

A cipher of blocks is made into one of streams: a counter block is counted up as a number with its
highest byte first, every counter block is enciphered, and the result is exclusive-ored with the
text.  Doing it twice gives back the text.  Texts that start from different blocks with enough zero
bytes at their end never share a counter block.
-/

namespace Contest
namespace CounterMode

/-- Add one to a number whose lowest byte comes first, and forget the last carry. -/
def successor : List UInt8 → List UInt8
  | [] => []
  | byte :: higher => if byte = 255 then 0 :: successor higher else (byte + 1) :: higher

/-- Add one to a number whose highest byte comes first. -/
def increment (block : List UInt8) : List UInt8 := (successor block.reverse).reverse

/-- The number that a block stands for. -/
def value (block : List UInt8) : Nat := Nat.ofDigits 256 (block.reverse.map UInt8.toNat)

/-- So many blocks of the stream from a counter block on. -/
def keystream (cipher : List UInt8 → List UInt8) : List UInt8 → Nat → List UInt8
  | _, 0 => []
  | block, count + 1 => cipher block ++ keystream cipher (increment block) count

/-- Exclusive or with a stream. -/
def mask (text stream : List UInt8) : List UInt8 := List.zipWith (· ^^^ ·) text stream

@[simp]
theorem length_mask {text stream : List UInt8} (long : text.length ≤ stream.length) :
    (mask text stream).length = text.length := by
  rw [mask, List.length_zipWith, Nat.min_eq_left long]

/-- Two parts are masked with two parts of the stream. -/
theorem mask_append {first second left right : List UInt8} (same : first.length = left.length) :
    mask (first ++ second) (left ++ right) = mask first left ++ mask second right :=
  List.zipWith_append same

/-- A text can be filled up before it is masked. -/
theorem take_mask_append (text more : List UInt8) {stream : List UInt8}
    (long : text.length ≤ stream.length) :
    (mask (text ++ more) stream).take text.length = mask text stream := by
  unfold mask
  induction text generalizing stream with
  | nil => simp
  | cons byte text ih =>
      cases stream with
      | nil => simp at long
      | cons other stream =>
          rw [List.cons_append, List.zipWith_cons_cons, List.length_cons, List.take_succ_cons,
            ih (by simpa using long), List.zipWith_cons_cons]

/-- What is masked twice is as it was. -/
theorem mask_mask {text stream : List UInt8} (long : text.length ≤ stream.length) :
    mask (mask text stream) stream = text := by
  unfold mask
  induction text generalizing stream with
  | nil => simp
  | cons byte text ih =>
      cases stream with
      | nil => simp at long
      | cons other stream =>
          have rest : text.length ≤ stream.length := by simpa using long
          simp only [List.zipWith_cons_cons, ih rest, UInt8.xor_assoc, UInt8.xor_self,
            UInt8.xor_zero]

/-- Different texts are masked to different texts. -/
theorem mask_inj {stream left right : List UInt8} (left_long : stream.length ≤ left.length)
    (right_long : stream.length ≤ right.length) (same_length : left.length = right.length)
    (same : mask stream left = mask stream right) :
    left.take stream.length = right.take stream.length := by
  unfold mask at same
  induction stream generalizing left right with
  | nil => rfl
  | cons byte stream ih =>
      cases left with
      | nil => simp at left_long
      | cons first left =>
          cases right with
          | nil => simp at right_long
          | cons second right =>
              rw [List.zipWith_cons_cons, List.zipWith_cons_cons] at same
              obtain ⟨head, tail⟩ := List.cons.inj same
              have heads : first = second := by
                have masked := congrArg (byte ^^^ ·) head
                simpa [← UInt8.xor_assoc] using masked
              rw [heads, List.length_cons, List.take_succ_cons, List.take_succ_cons,
                ih (by simpa using left_long) (by simpa using right_long)
                  (by simpa using same_length) tail]

theorem length_keystream {cipher : List UInt8 → List UInt8} {size : Nat}
    (sized : ∀ block, (cipher block).length = size) (block : List UInt8) (count : Nat) :
    (keystream cipher block count).length = count * size := by
  induction count generalizing block with
  | zero => simp [keystream]
  | succ count ih => rw [keystream, List.length_append, sized, ih, Nat.succ_mul, Nat.add_comm]

/-- A stream goes on from the counter block where a part of it stops. -/
theorem keystream_succ (cipher : List UInt8 → List UInt8) (block : List UInt8) (count : Nat) :
    keystream cipher block (count + 1) =
      keystream cipher block count ++ cipher (increment^[count] block) := by
  induction count generalizing block with
  | zero => simp [keystream]
  | succ count ih =>
      rw [keystream, ih, keystream, List.append_assoc, Function.iterate_succ_apply]

/-- A stream is that of its counter blocks. -/
theorem keystream_eq (cipher : List UInt8 → List UInt8) (block : List UInt8) (count : Nat) :
    keystream cipher block count =
      ((List.range count).map fun i => increment^[i] block).flatMap cipher := by
  induction count with
  | zero => rfl
  | succ count ih =>
      rw [keystream_succ, ih, List.range_succ, List.map_append, List.flatMap_append]
      simp

/-! ### Counter blocks -/

@[simp]
theorem length_successor (block : List UInt8) : (successor block).length = block.length := by
  fun_induction successor block with
  | case1 => rfl
  | case2 higher ih => simp [ih]
  | case3 => rfl

@[simp]
theorem length_increment (block : List UInt8) : (increment block).length = block.length := by
  simp [increment]

theorem ofDigits_lt (block : List UInt8) :
    Nat.ofDigits 256 (block.map UInt8.toNat) < 256 ^ block.length := by
  have small : ∀ digit ∈ block.map UInt8.toNat, digit < 256 := by
    intro digit member
    obtain ⟨byte, -, rfl⟩ := List.mem_map.mp member
    exact byte.toNat_lt
  have bound := Nat.ofDigits_lt_base_pow_length (by decide) small
  rwa [List.length_map] at bound

/-- Counting up adds one, as long as there is no carry at the end. -/
theorem ofDigits_successor (block : List UInt8)
    (room : Nat.ofDigits 256 (block.map UInt8.toNat) + 1 < 256 ^ block.length) :
    Nat.ofDigits 256 ((successor block).map UInt8.toNat) =
      Nat.ofDigits 256 (block.map UInt8.toNat) + 1 := by
  fun_induction successor block with
  | case1 => simp at room
  | case2 higher ih =>
      have last : (255 : UInt8).toNat = 255 := rfl
      simp only [List.map_cons, Nat.ofDigits_cons, List.length_cons, Nat.pow_succ, last] at room ⊢
      rw [ih (by omega)]
      simp only [UInt8.toNat_zero]
      omega
  | case3 byte higher differs =>
      have small := byte.toNat_lt
      have below : byte.toNat ≠ 255 := fun same => differs (UInt8.toNat_inj.mp same)
      have next : (byte + 1).toNat = byte.toNat + 1 := by
        rw [UInt8.toNat_add, UInt8.toNat_one]
        omega
      simp only [List.map_cons, Nat.ofDigits_cons, next]
      omega

theorem value_lt (block : List UInt8) : value block < 256 ^ block.length := by
  have bound := ofDigits_lt block.reverse
  rwa [List.length_reverse] at bound

theorem value_increment {block : List UInt8} (room : value block + 1 < 256 ^ block.length) :
    value (increment block) = value block + 1 := by
  rw [value, increment, List.reverse_reverse]
  exact ofDigits_successor block.reverse (by rwa [List.length_reverse])

theorem value_iterate {block : List UInt8} {count : Nat}
    (room : value block + count < 256 ^ block.length) :
    value (increment^[count] block) = value block + count ∧
      (increment^[count] block).length = block.length := by
  induction count with
  | zero => exact ⟨rfl, rfl⟩
  | succ count ih =>
      obtain ⟨counted, length⟩ := ih (by omega)
      have more : value (increment^[count] block) + 1 <
          256 ^ (increment^[count] block).length := by
        rw [counted, length]
        omega
      rw [Function.iterate_succ_apply', length_increment, value_increment more, counted]
      exact ⟨by omega, length⟩

theorem value_append (high low : List UInt8) :
    value (high ++ low) = value high * 256 ^ low.length + value low := by
  rw [value, List.reverse_append, List.map_append, Nat.ofDigits_append, List.length_map,
    List.length_reverse, Nat.add_comm, Nat.mul_comm]
  rfl

theorem value_inj {left right : List UInt8} (length : left.length = right.length)
    (same : value left = value right) : left = right := by
  have small : ∀ block : List UInt8, ∀ digit ∈ block.reverse.map UInt8.toNat, digit < 256 := by
    intro block digit member
    obtain ⟨byte, -, rfl⟩ := List.mem_map.mp member
    exact byte.toNat_lt
  have digits : left.reverse.map UInt8.toNat = right.reverse.map UInt8.toNat :=
    Nat.ofDigits_inj_of_len_eq (by decide) (by simpa using length) (small left) (small right) same
  exact List.reverse_inj.mp
    (List.map_injective_iff.mpr (fun _ _ => UInt8.toNat_inj.mp) digits)

/-- Texts never share a counter block, if they start from different blocks with zero bytes for
their own counts. -/
theorem iterate_increment_inj {left right : List UInt8} {zeros i j : Nat}
    (length : left.length = right.length) (small : i < 256 ^ zeros) (small' : j < 256 ^ zeros)
    (same : increment^[i] (left ++ List.replicate zeros 0) =
      increment^[j] (right ++ List.replicate zeros 0)) : left = right ∧ i = j := by
  have blank : value (List.replicate zeros 0) = 0 := by
    rw [value, List.reverse_replicate, List.map_replicate]
    exact Nat.ofDigits_replicate_zero
  have counted : ∀ (front : List UInt8) (k : Nat), k < 256 ^ zeros →
      value (increment^[k] (front ++ List.replicate zeros 0)) =
        value front * 256 ^ zeros + k := by
    intro front k inside
    have start : value (front ++ List.replicate zeros 0) = value front * 256 ^ zeros := by
      rw [value_append, blank, List.length_replicate, Nat.add_zero]
    have bound := value_lt front
    have room : value (front ++ List.replicate zeros 0) + k <
        256 ^ (front ++ List.replicate zeros 0).length := by
      rw [start, List.length_append, List.length_replicate, Nat.pow_add]
      calc value front * 256 ^ zeros + k < value front * 256 ^ zeros + 256 ^ zeros := by omega
        _ = (value front + 1) * 256 ^ zeros := by rw [Nat.succ_mul]
        _ ≤ 256 ^ front.length * 256 ^ zeros := Nat.mul_le_mul_right _ bound
    rw [(value_iterate room).1, start]
  have values := congrArg value same
  rw [counted left i small, counted right j small'] at values
  have positive : 0 < 256 ^ zeros := Nat.pow_pos (by decide)
  have counts : i = j := by
    have remainders := congrArg (· % 256 ^ zeros) values
    simpa [Nat.mul_add_mod_of_lt, Nat.mod_eq_of_lt small, Nat.mod_eq_of_lt small',
      Nat.add_comm, Nat.add_mul_mod_self_right] using remainders
  subst counts
  have fronts : value left = value right :=
    Nat.eq_of_mul_eq_mul_right positive (Nat.add_right_cancel values)
  exact ⟨value_inj length fronts, rfl⟩

end CounterMode
end Contest
