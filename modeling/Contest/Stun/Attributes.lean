import Contest.Foundation.Chain
import Contest.Stun.Conv

/-!
# STUN attributes

An attribute is a type, the length of its value, the value, and padding up to a multiple of four
bytes.  The loop of `StunAttributes.new` accepts the concatenations of attributes in which at most
the padding at the very end is cut short.  It steps over an attribute in 16-bit arithmetic, which
does not wrap around for a value that lies within a message.
-/

namespace Contest
namespace Stun

/-- The number of padding bytes after a value. -/
def padding (size : Nat) : Nat := (4 - size % 4) % 4

/-- The bytes are an encoding of the attribute, whatever the padding is. -/
def Encodes (attr : Attribute) (bytes : Bytes) : Prop :=
  attr.2.length < 2 ^ 16 ∧ ∃ pad : Bytes, pad.length = padding attr.2.length ∧
    bytes = encodeUInt16 attr.1.value ++
      (encodeUInt16 (UInt16.ofNat attr.2.length) ++ (attr.2 ++ pad))

theorem Encodes.length {attr : Attribute} {bytes : Bytes} (encodes : Encodes attr bytes) :
    bytes.length = 4 + attr.2.length + padding attr.2.length := by
  obtain ⟨-, pad, pad_length, rfl⟩ := encodes
  simp only [List.length_append, length_encodeUInt16, pad_length]
  omega

theorem Encodes.ne_nil {attr : Attribute} {bytes : Bytes}
    (encodes : Encodes attr bytes) : bytes ≠ [] := by
  rintro rfl
  have impossible := encodes.length
  rw [List.length_nil] at impossible
  omega

/-- A concatenation of attributes, of which the last one may lack padding. -/
inductive Body : List Attribute → Bytes → Prop
  | nil : Body [] []
  | last {attr : Attribute} {pad : Bytes} (small : attr.2.length < 2 ^ 16)
      (short : pad.length ≤ padding attr.2.length) :
      Body [attr] (encodeUInt16 attr.1.value ++
        (encodeUInt16 (UInt16.ofNat attr.2.length) ++ (attr.2 ++ pad)))
  | cons {attr : Attribute} {attributes : List Attribute} {front rest : Bytes}
      (encodes : Encodes attr front) (others : Body attributes rest) :
      Body (attr :: attributes) (front ++ rest)

theorem body_of_chain {attributes : List Attribute} {data : Bytes}
    (chain : Chain Encodes attributes data) : Body attributes data := by
  induction chain with
  | nil => exact .nil
  | cons encodes others ih => exact .cons encodes ih

theorem eq_nil_of_body_nil {attributes : List Attribute} (body : Body attributes []) :
    attributes = [] := by
  generalize empty : ([] : Bytes) = data at body
  cases body with
  | nil => rfl
  | last small short => simp [encodeUInt16] at empty
  | cons encodes others => exact absurd (List.append_eq_nil_iff.mp empty.symm).1 encodes.ne_nil

namespace StunAttributes

/-- Clearing the two lowest bits of a 16-bit number. -/
theorem and_clear {n : Nat} (small : n < 2 ^ 16) : n &&& 65532 = n - n % 4 := by
  have quotient : (n &&& 65532) / 2 ^ 2 = n / 2 ^ 2 := by
    rw [Nat.and_div_two_pow]
    calc
      n / 2 ^ 2 &&& 65532 / 2 ^ 2 = n / 2 ^ 2 &&& (2 ^ 14 - 1) := rfl
      _ = n / 2 ^ 2 % 2 ^ 14 := Nat.and_two_pow_sub_one_eq_mod _ 14
      _ = n / 2 ^ 2 := Nat.mod_eq_of_lt (by omega)
  have remainder : (n &&& 65532) % 2 ^ 2 = 0 := by
    rw [Nat.and_mod_two_pow]
    exact Nat.and_zero _
  omega

/-- The stride of a value that ends within a message is its size with padding. -/
theorem toNat_stride {size : Nat} (small : size + 3 < 2 ^ 16) :
    (stride (UInt16.ofNat size)).toNat = size + padding size := by
  have mask : (~~~3 : UInt16).toNat = 65532 := by decide
  rw [stride, UInt16.toNat_and, mask, UInt16.toNat_add, UInt16.toNat_ofNat',
    Nat.mod_eq_of_lt (show size < 2 ^ 16 by omega)]
  change (size + 3) % 2 ^ 16 &&& 65532 = _
  rw [Nat.mod_eq_of_lt small, and_clear small, padding]
  omega

/-- One turn of the loop reads a type, a size and a value, and goes on behind the padding. -/
theorem readAttribute_eq_ok {data : Bytes} (fits : data.length < 2 ^ 16) {start next : Nat}
    {attr : Attribute} :
    readAttribute data start = .ok (attr, next) ↔
      start ≤ data.length ∧ attr.2.length < 2 ^ 16 ∧
        next = start + 4 + attr.2.length + padding attr.2.length ∧
        ∃ rest, data.drop start = encodeUInt16 attr.1.value ++
          (encodeUInt16 (UInt16.ofNat attr.2.length) ++ (attr.2 ++ rest)) := by
  constructor
  · intro turn
    obtain ⟨kind, kind_read, turn⟩ := bind_eq_ok.mp turn
    obtain ⟨size, size_read, turn⟩ := bind_eq_ok.mp turn
    obtain ⟨value, value_read, turn⟩ := bind_eq_ok.mp turn
    obtain ⟨rfl, rfl⟩ := Prod.mk.inj (Except.ok.inj turn)
    obtain ⟨-, kind_bytes⟩ := readUInt16_eq_ok.mp kind_read
    obtain ⟨-, size_bytes⟩ := readUInt16_eq_ok.mp size_read
    obtain ⟨inside, value_eq⟩ := slice_eq_ok.mp value_read
    have counted : value.length = size.toNat := by
      rw [value_eq, List.length_take, List.length_drop]
      omega
    have size_eq : UInt16.ofNat value.length = size := by rw [counted, UInt16.ofNat_toNat]
    have cut : ∀ position count, data.drop position =
        (data.drop position).take count ++ data.drop (position + count) := by
      intro position count
      rw [← List.drop_drop, List.take_append_drop]
    have behind : data.drop (start + 2 + 2) = value ++ data.drop (start + 4 + size.toNat) := by
      rw [value_eq]
      exact cut (start + 4) size.toNat
    refine ⟨by omega, show value.length < 2 ^ 16 by omega, ?_,
      data.drop (start + 4 + size.toNat), ?_⟩
    · change _ = start + 4 + value.length + padding value.length
      rw [← size_eq, toNat_stride (by omega)]
      omega
    · change _ = encodeUInt16 kind ++ (encodeUInt16 (UInt16.ofNat value.length) ++ (value ++ _))
      rw [cut start 2, cut (start + 2) 2, kind_bytes, size_bytes, behind, size_eq]
  · rintro ⟨started, small, rfl, rest, bytes⟩
    obtain ⟨⟨kind⟩, value⟩ := attr
    simp only at small bytes ⊢
    have reaches : data.length = start + (4 + value.length + rest.length) := by
      have sizes := congrArg List.length bytes
      simp only [List.length_drop, List.length_append, length_encodeUInt16] at sizes
      omega
    have size : (UInt16.ofNat value.length).toNat = value.length := by
      rw [UInt16.toNat_ofNat', Nat.mod_eq_of_lt small]
    have kind_read : slice data start 2 >>= decodeUInt16 = .ok kind := by
      refine readUInt16_eq_ok.mpr ⟨by omega, ?_⟩
      rw [bytes]
      rfl
    have size_read : slice data (start + 2) 2 >>= decodeUInt16 =
        .ok (UInt16.ofNat value.length) := by
      refine readUInt16_eq_ok.mpr ⟨by omega, ?_⟩
      rw [← List.drop_drop, bytes]
      rfl
    have value_read : slice data (start + 4) value.length = .ok value := by
      refine slice_eq_ok.mpr ⟨by omega, ?_⟩
      rw [← List.drop_drop, bytes]
      exact (List.take_left).symm
    rw [readAttribute, kind_read, size_read]
    simp only [bind, Except.bind, size, value_read, pure, Except.pure]
    rw [toNat_stride (by omega)]
    simp only [Nat.add_assoc]

/-- What is read in a turn, and what the loop goes on with. -/
theorem body_cons_of_turn {data : Bytes} (fits : data.length < 2 ^ 16) {start next : Nat}
    {attr : Attribute} (turn : readAttribute data start = .ok (attr, next))
    {attributes : List Attribute} (body : Body attributes (data.drop next)) :
    Body (attr :: attributes) (data.drop start) := by
  obtain ⟨-, small, rfl, rest, bytes⟩ := (readAttribute_eq_ok fits).mp turn
  have later : data.drop (start + 4 + attr.2.length + padding attr.2.length) =
      rest.drop (padding attr.2.length) := by
    have front : (encodeUInt16 attr.1.value ++
        (encodeUInt16 (UInt16.ofNat attr.2.length) ++ attr.2)).length = 4 + attr.2.length := by
      simp only [List.length_append, length_encodeUInt16]
      omega
    rw [← List.drop_drop, Nat.add_assoc, ← List.drop_drop, bytes, ← front]
    simp only [← List.append_assoc, List.drop_left]
  rw [later] at body
  by_cases short : rest.length ≤ padding attr.2.length
  · rw [List.drop_of_length_le short] at body
    obtain rfl := eq_nil_of_body_nil body
    rw [bytes]
    exact .last small short
  · have encodes : Encodes attr (encodeUInt16 attr.1.value ++
        (encodeUInt16 (UInt16.ofNat attr.2.length) ++
          (attr.2 ++ rest.take (padding attr.2.length)))) :=
      ⟨small, _, List.length_take_of_le (by omega), rfl⟩
    have whole := Body.cons encodes body
    simp only [List.append_assoc, List.take_append_drop] at whole
    rwa [bytes]

theorem readFrom_of_le {data : Bytes} {turns start : Nat} (settled : data.length ≤ start)
    (found : List Attribute) : readFrom data turns start found = .ok found := by
  cases turns with
  | zero => rfl
  | succ turns => exact if_neg (by omega)

/-- The loop ends with the attributes of a body before those that were found. -/
theorem exists_body_of_readFrom {data : Bytes} (fits : data.length < 2 ^ 16) {turns start : Nat}
    (enough : data.length ≤ start + turns) {found table : List Attribute}
    (read : readFrom data turns start found = .ok table) :
    ∃ attributes, Body attributes (data.drop start) ∧ table = attributes.reverse ++ found := by
  induction turns generalizing start found with
  | zero =>
      obtain rfl : found = table := Except.ok.inj read
      refine ⟨[], ?_, rfl⟩
      rw [List.drop_of_length_le (by omega)]
      exact .nil
  | succ turns ih =>
      by_cases inside : start < data.length
      · rw [readFrom, if_pos inside] at read
        obtain ⟨⟨attr, next⟩, turn, later⟩ := bind_eq_ok.mp read
        have advanced := readAttribute_advances turn
        obtain ⟨attributes, body, rfl⟩ := ih (by omega) later
        exact ⟨attr :: attributes, body_cons_of_turn fits turn body, by simp⟩
      · rw [readFrom_of_le (by omega)] at read
        obtain rfl : found = table := Except.ok.inj read
        refine ⟨[], ?_, rfl⟩
        rw [List.drop_of_length_le (by omega)]
        exact .nil

/-- The loop reads a body to its end. -/
theorem readFrom_of_body {attributes : List Attribute} {rest : Bytes}
    (body : Body attributes rest) {data : Bytes} (fits : data.length < 2 ^ 16)
    {turns start : Nat} (enough : data.length ≤ start + turns) (left : data.drop start = rest)
    (found : List Attribute) :
    readFrom data turns start found = .ok (attributes.reverse ++ found) := by
  induction body generalizing turns start found with
  | nil => exact readFrom_of_le (List.drop_eq_nil_iff.mp left) found
  | @last attr pad small short =>
      have size := congrArg List.length left
      simp only [List.length_drop, List.length_append, length_encodeUInt16] at size
      obtain ⟨turns, rfl⟩ : ∃ fewer, turns = fewer + 1 := ⟨turns - 1, by omega⟩
      have turn := (readAttribute_eq_ok fits).mpr ⟨by omega, small, rfl, pad, left⟩
      have settled : data.length ≤ start + 4 + attr.2.length + padding attr.2.length := by omega
      rw [readFrom, if_pos (by omega), turn]
      exact readFrom_of_le settled _
  | @cons attr attributes front rest encodes others ih =>
      have front_size := encodes.length
      obtain ⟨small, pad, pad_size, bytes⟩ := encodes
      have size := congrArg List.length left
      rw [List.length_drop, List.length_append] at size
      obtain ⟨turns, rfl⟩ : ∃ fewer, turns = fewer + 1 := ⟨turns - 1, by omega⟩
      have cut : data.drop start = encodeUInt16 attr.1.value ++
          (encodeUInt16 (UInt16.ofNat attr.2.length) ++ (attr.2 ++ (pad ++ rest))) := by
        rw [left, bytes]
        simp only [List.append_assoc]
      have turn := (readAttribute_eq_ok fits).mpr ⟨by omega, small, rfl, pad ++ rest, cut⟩
      have behind : data.drop (start + 4 + attr.2.length + padding attr.2.length) = rest := by
        have next : start + 4 + attr.2.length + padding attr.2.length = start + front.length := by
          omega
        rw [next, ← List.drop_drop, left, List.drop_left]
      have later : readFrom data turns (start + 4 + attr.2.length + padding attr.2.length)
          (attr :: found) = .ok (attributes.reverse ++ attr :: found) :=
        ih (by omega) behind (attr :: found)
      rw [readFrom, if_pos (by omega), turn, List.reverse_cons, List.append_assoc]
      exact later

/-- `StunAttributes.new` accepts the bodies, and gives their attributes, the last one first. -/
theorem new_eq_ok_iff {data : Bytes} (fits : data.length < 2 ^ 16) {table : List Attribute} :
    new data = .ok table ↔ ∃ attributes, Body attributes data ∧ table = attributes.reverse := by
  constructor
  · intro read
    obtain ⟨attributes, body, rfl⟩ := exists_body_of_readFrom fits (by omega) read
    exact ⟨attributes, body, List.append_nil _⟩
  · rintro ⟨attributes, body, rfl⟩
    have read := @readFrom_of_body attributes data body data fits data.length 0 (by omega) rfl []
    rwa [List.append_nil] at read

/-- `StunAttributes.new` accepts every chain of attributes that fits into a message. -/
theorem new_chain {attributes : List Attribute} {data : Bytes}
    (chain : Chain Encodes attributes data) (fits : data.length < 2 ^ 16) :
    new data = .ok attributes.reverse :=
  (new_eq_ok_iff fits).mpr ⟨attributes, body_of_chain chain, rfl⟩

end StunAttributes
end Stun
end Contest
