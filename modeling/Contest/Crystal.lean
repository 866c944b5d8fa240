import Contest.Foundation.Splitting
import Mathlib.Data.Bool.AllAny
import Mathlib.Data.List.TakeWhile
import Mathlib.Data.Nat.Digits.Defs

/-!
# The Crystal runtime

The parts of Crystal 0.23.1 and its standard library on which the server is built: the exceptions
that its code raises or rescues, strings as lists of characters, byte slices as lists of bytes,
array and slice accesses that raise `IndexError`, `String#split`, `String#each_line`,
`String#to_i`, the network byte order and `IO::Memory`.
-/

namespace Contest

open Splitting

/-- A Crystal string, by its characters. -/
abbrev Text := List Char

/-- A Crystal `Bytes`. -/
abbrev Bytes := List UInt8

/-- The exceptions told apart by the handlers of the server. -/
inductive Exn
  /-- An access outside an array or a slice. -/
  | indexError
  /-- A hash lookup of a key that is absent. -/
  | keyError (key : Text)
  /-- Text that is not a number, or a number outside `Int32`. -/
  | argumentError
  /-- A failed system call. -/
  | errno
  /-- A read timeout of a socket. -/
  | ioTimeout
  /-- A socket address that is not an IP literal. -/
  | socketError
  /-- A `property!` read while it is nil. -/
  | nilAssertion
  /-- `Stun::InvalidStunMessage`. -/
  | invalidStunMessage
  /-- `Stun::NoStunAttributes`. -/
  | noStunAttributes
  /-- A `raise` with a message. -/
  | raised (message : String)
deriving DecidableEq, Repr

/-- An expression that returns or raises. -/
abbrev Fallible := Except Exn

theorem bind_eq_ok {α β : Type} {first : Fallible α} {next : α → Fallible β} {result : β} :
    first >>= next = .ok result ↔ ∃ value, first = .ok value ∧ next value = .ok result := by
  cases first <;> simp [bind, Except.bind]

/-- The bytes of a string. -/
def utf8 (text : Text) : Bytes := text.flatMap String.utf8EncodeChar

/-- `array[index]`. -/
def fetch {α : Type*} (array : List α) (index : Nat) : Fallible α :=
  match array[index]? with
  | some element => .ok element
  | none => .error .indexError

theorem mem_of_fetch {α : Type*} {array : List α} {index : Nat} {element : α}
    (fetched : fetch array index = .ok element) : element ∈ array := by
  cases found : array[index]? with
  | none => simp [fetch, found] at fetched
  | some other =>
      obtain rfl : other = element := by simpa [fetch, found] using fetched
      exact List.mem_of_getElem? found

/-- A hash is kept as its assignments, the latest first, so it gives the last one for a key. -/
theorem lookup_reverse {κ β : Type*} [BEq κ] [LawfulBEq κ] [DecidableEq κ]
    (entries : List (κ × β)) (key : κ) :
    entries.reverse.lookup key =
      ((entries.filter fun entry => entry.1 = key).map Prod.snd).getLast? := by
  induction entries with
  | nil => rfl
  | cons entry entries ih =>
      obtain ⟨name, value⟩ := entry
      rw [List.reverse_cons, List.lookup_append, ih]
      by_cases same : name = key
      · subst same
        rw [List.filter_cons_of_pos (by simp), List.map_cons, List.getLast?_cons,
          List.lookup_cons_self]
        cases ((entries.filter fun entry => entry.1 = name).map Prod.snd).getLast? <;> rfl
      · have absent : [(name, value)].lookup key = none :=
          List.lookup_eq_none_iff.mpr (by simpa using Ne.symm same)
        rw [List.filter_cons_of_neg (by simpa using same), absent, Option.or_none]
/-- `slice[start, count]`. -/
def slice {α : Type*} (data : List α) (start count : Nat) : Fallible (List α) :=
  if start + count ≤ data.length then .ok ((data.drop start).take count) else .error .indexError

theorem slice_eq_ok {α : Type*} {data part : List α} {start count : Nat} :
    slice data start count = .ok part ↔
      start + count ≤ data.length ∧ part = (data.drop start).take count := by
  unfold slice
  split
  · rename_i inside
    simp [inside, eq_comm]
  · rename_i outside
    simp [outside]

theorem slice_of_le {α : Type*} {data : List α} {start count : Nat}
    (inside : start + count ≤ data.length) :
    slice data start count = .ok ((data.drop start).take count) :=
  slice_eq_ok.mpr ⟨inside, rfl⟩

theorem slice_of_lt {α : Type*} {data : List α} {start count : Nat}
    (outside : data.length < start + count) : slice data start count = .error .indexError := by
  rw [slice, if_neg (by omega)]

/-- The slice that lies between two others. -/
theorem slice_append {α : Type*} (before part after : List α) :
    slice (before ++ (part ++ after)) before.length part.length = .ok part := by
  rw [slice_of_le (by simp), List.drop_left, List.take_left]

/-- `slice[start, count]`, with its size. -/
def sizedSlice {α : Type*} (data : List α) (start count : Nat) :
    Fallible {part : List α // part.length = count} :=
  if inside : start + count ≤ data.length then
    .ok ⟨(data.drop start).take count, by rw [List.length_take, List.length_drop]; omega⟩
  else .error .indexError

theorem sizedSlice_eq_ok {α : Type*} {data : List α} {start count : Nat}
    {part : {part : List α // part.length = count}} :
    sizedSlice data start count = .ok part ↔
      start + count ≤ data.length ∧ part.val = (data.drop start).take count := by
  rw [sizedSlice]
  split
  · rename_i inside
    simp [inside, Subtype.ext_iff, eq_comm]
  · rename_i outside
    simp [outside]

/-- `IO::ByteFormat::NetworkEndian.decode(UInt16, bytes)`. -/
def decodeUInt16 : Bytes → Fallible UInt16
  | high :: low :: _ => .ok (UInt16.ofNat (high.toNat * 256 + low.toNat))
  | _ => .error .indexError

/-- `IO::ByteFormat::NetworkEndian.decode(UInt32, bytes)`. -/
def decodeUInt32 : Bytes → Fallible UInt32
  | b₀ :: b₁ :: b₂ :: b₃ :: _ =>
      .ok (UInt32.ofNat
        (((b₀.toNat * 256 + b₁.toNat) * 256 + b₂.toNat) * 256 + b₃.toNat))
  | _ => .error .indexError

/-- The two bytes of `write_bytes(value : UInt16, NetworkEndian)`. -/
def encodeUInt16 (value : UInt16) : Bytes :=
  [UInt8.ofNat (value.toNat / 256), UInt8.ofNat value.toNat]

/-- The four bytes of `write_bytes(value : UInt32, NetworkEndian)`. -/
def encodeUInt32 (value : UInt32) : Bytes :=
  [UInt8.ofNat (value.toNat / 256 ^ 3), UInt8.ofNat (value.toNat / 256 ^ 2),
    UInt8.ofNat (value.toNat / 256), UInt8.ofNat value.toNat]

@[simp]
theorem length_encodeUInt16 (value : UInt16) : (encodeUInt16 value).length = 2 := rfl

@[simp]
theorem length_encodeUInt32 (value : UInt32) : (encodeUInt32 value).length = 4 := rfl

theorem decodeUInt16_encodeUInt16 (value : UInt16) (rest : Bytes) :
    decodeUInt16 (encodeUInt16 value ++ rest) = .ok value := by
  have bound := value.toNat_lt
  simp only [encodeUInt16, List.cons_append, List.nil_append, decodeUInt16]
  congr 1
  apply UInt16.toNat_inj.mp
  simp only [UInt8.toNat_ofNat', UInt16.toNat_ofNat']
  omega

theorem decodeUInt32_encodeUInt32 (value : UInt32) (rest : Bytes) :
    decodeUInt32 (encodeUInt32 value ++ rest) = .ok value := by
  have bound := value.toNat_lt
  simp only [encodeUInt32, List.cons_append, List.nil_append, decodeUInt32]
  congr 1
  apply UInt32.toNat_inj.mp
  simp only [UInt8.toNat_ofNat', UInt32.toNat_ofNat']
  omega

theorem encodeUInt16_inj {left right : UInt16} (same : encodeUInt16 left = encodeUInt16 right) :
    left = right := by
  have read := decodeUInt16_encodeUInt16 left []
  rw [same, decodeUInt16_encodeUInt16] at read
  exact (Except.ok.inj read).symm

theorem encodeUInt32_inj {left right : UInt32} (same : encodeUInt32 left = encodeUInt32 right) :
    left = right := by
  have read := decodeUInt32_encodeUInt32 left []
  rw [same, decodeUInt32_encodeUInt32] at read
  exact (Except.ok.inj read).symm

/-- What is decoded from a part of the right size is encoded as that part. -/
theorem read_eq_ok {α : Type} {decode : Bytes → Fallible α} {encode : α → Bytes} {size : Nat}
    (decoded_iff : ∀ {part value}, part.length = size →
      (decode part = .ok value ↔ part = encode value))
    {data : Bytes} {start : Nat} {value : α} :
    slice data start size >>= decode = .ok value ↔
      start + size ≤ data.length ∧ (data.drop start).take size = encode value := by
  have length : start + size ≤ data.length → ((data.drop start).take size).length = size := by
    intro inside
    rw [List.length_take, List.length_drop]
    omega
  constructor
  · intro read
    obtain ⟨part, sliced, decoded⟩ := bind_eq_ok.mp read
    obtain ⟨inside, rfl⟩ := slice_eq_ok.mp sliced
    exact ⟨inside, (decoded_iff (length inside)).mp decoded⟩
  · rintro ⟨inside, bytes⟩
    exact bind_eq_ok.mpr ⟨_, slice_of_le inside, (decoded_iff (length inside)).mpr bytes⟩

theorem decodeUInt16_eq_ok {part : Bytes} {value : UInt16} (two : part.length = 2) :
    decodeUInt16 part = .ok value ↔ part = encodeUInt16 value := by
  constructor
  · intro decoded
    obtain ⟨high, low, rfl⟩ := List.length_eq_two.mp two
    have small := low.toNat_lt
    have large := high.toNat_lt
    obtain rfl : _ = value := Except.ok.inj decoded
    simp only [encodeUInt16, List.cons.injEq, and_true, ← UInt8.toNat_inj, UInt8.toNat_ofNat',
      UInt16.toNat_ofNat']
    omega
  · rintro rfl
    exact decodeUInt16_encodeUInt16 value []

theorem decodeUInt32_eq_ok {part : Bytes} {value : UInt32} (four : part.length = 4) :
    decodeUInt32 part = .ok value ↔ part = encodeUInt32 value := by
  constructor
  · intro decoded
    obtain ⟨b₀, rest, rfl⟩ := List.exists_of_length_succ part four
    obtain ⟨b₁, b₂, b₃, rfl⟩ := List.length_eq_three.mp (Nat.succ.inj four)
    have bounds := And.intro b₀.toNat_lt (And.intro b₁.toNat_lt (And.intro b₂.toNat_lt
      b₃.toNat_lt))
    obtain rfl : _ = value := Except.ok.inj decoded
    simp only [encodeUInt32, List.cons.injEq, and_true, ← UInt8.toNat_inj, UInt8.toNat_ofNat',
      UInt32.toNat_ofNat']
    omega
  · rintro rfl
    exact decodeUInt32_encodeUInt32 value []

/-- A number of 16 bits that is read from two bytes is written as these bytes. -/
theorem readUInt16_eq_ok {data : Bytes} {start : Nat} {value : UInt16} :
    slice data start 2 >>= decodeUInt16 = .ok value ↔
      start + 2 ≤ data.length ∧ (data.drop start).take 2 = encodeUInt16 value :=
  read_eq_ok decodeUInt16_eq_ok

/-- A number of 32 bits that is read from four bytes is written as these bytes. -/
theorem readUInt32_eq_ok {data : Bytes} {start : Nat} {value : UInt32} :
    slice data start 4 >>= decodeUInt32 = .ok value ↔
      start + 4 ≤ data.length ∧ (data.drop start).take 4 = encodeUInt32 value :=
  read_eq_ok decodeUInt32_eq_ok

/-- `value << count` for a byte: bits shifted out are lost, and a large count gives zero. -/
def shiftLeftByte (value : UInt8) (count : Nat) : UInt8 :=
  if count < 8 then UInt8.ofNat (value.toNat * 2 ^ count) else 0

/-- `Char#ascii_whitespace?`, which is also the character class `\s`. -/
def isAsciiWhitespace (c : Char) : Bool :=
  c == ' ' || (9 ≤ c.toNat && c.toNat ≤ 13)

/-- `text.split(separator)` for a string or a character. -/
def splitString (separator : String) (text : Text) : List Text :=
  split (word separator.toList) text

theorem splitString_blank {front : Text} (clean : ' ' ∉ front) (rest : Text) :
    splitString " " (front ++ ' ' :: rest) = front :: splitString " " rest :=
  split_word_singleton clean rest

/-- `text.split(/\s/)`. -/
def splitWhitespace (text : Text) : List Text :=
  split (fun rest => match rest with
    | c :: _ => if isAsciiWhitespace c then 1 else 0
    | [] => 0) text

/-- The line ends: a line feed with or without a carriage return before it. -/
def lineEnd : Delimiter Char
  | '\r' :: '\n' :: _ => 2
  | '\n' :: _ => 1
  | _ => 0

/-- `String#each_line`: as a split at line ends, save that nothing follows a last line end. -/
def eachLine (text : Text) : List Text :=
  let pieces := split lineEnd text
  if pieces.getLast? = some [] then pieces.dropLast else pieces

/-- `text.split(separator, 2)` for a character, when the separator occurs. -/
def splitPair (separator : Char) (text : Text) : Option (Text × Text) :=
  match text.dropWhile (· ≠ separator) with
  | [] => none
  | _ :: rest => some (text.takeWhile (· ≠ separator), rest)

/-- The value of a string of decimal digits. -/
def digitsValue (digits : Text) : Nat :=
  digits.foldl (fun value digit => 10 * value + (digit.toNat - '0'.toNat)) 0

/-- `String#to_i`: surrounding white space, a sign, digits, and a result within `Int32`. -/
def toI32 (text : Text) : Fallible Int :=
  -- the parser reads a C string, so it stops at a null character
  let body := (text.takeWhile (· ≠ '\x00')).dropWhile isAsciiWhitespace
  let negative := body.head? = some '-'
  let unsigned := if negative ∨ body.head? = some '+' then body.tail else body
  let digits := unsigned.takeWhile Char.isDigit
  let rest := (unsigned.dropWhile Char.isDigit).dropWhile isAsciiWhitespace
  let value := digitsValue digits
  if digits = [] ∨ rest ≠ [] then .error .argumentError
  else if negative then
    if value ≤ 2 ^ 31 then .ok (-(value : Int)) else .error .argumentError
  else
    if value < 2 ^ 31 then .ok value else .error .argumentError

/-- `Int#to_s` of a number that is not negative. -/
def natText (n : Nat) : Text := Nat.toDigits 10 n

/-- `Int#to_s`. -/
def intText (n : Int) : Text :=
  if n < 0 then '-' :: natText n.natAbs else natText n.natAbs

theorem natText_isDigit {n : Nat} {c : Char} (member : c ∈ natText n) : c.isDigit :=
  Nat.isDigit_of_mem_toDigits (by decide) (by decide) member

theorem natText_ne_nil (n : Nat) : natText n ≠ [] := Nat.toDigits_ne_nil

theorem digitsValue_natText (n : Nat) : digitsValue (natText n) = n := by
  rw [digitsValue, ← Nat.ofDigitChars_eq_foldl]
  exact Nat.ofDigitChars_ten_toDigits

/-- A digit is neither a null character nor white space nor a sign. -/
theorem plain_of_isDigit {c : Char} (digit : c.isDigit = true) :
    (c ≠ '\x00' ∧ isAsciiWhitespace c = false) ∧ c ≠ '-' ∧ c ≠ '+' := by
  have large : 48 ≤ c.toNat := by
    simp only [Char.isDigit, Bool.and_eq_true, decide_eq_true_iff] at digit
    exact digit.1
  refine ⟨⟨?_, ?_⟩, ?_, ?_⟩
  · rintro rfl
    exact absurd digit (by decide)
  · rw [Bool.eq_false_iff]
    intro space
    simp only [isAsciiWhitespace, Bool.or_eq_true, beq_iff_eq, Bool.and_eq_true,
      decide_eq_true_iff] at space
    rcases space with rfl | space
    · exact absurd digit (by decide)
    · omega
  · rintro rfl
    exact absurd digit (by decide)
  · rintro rfl
    exact absurd digit (by decide)

/-- Text that starts with a digit has nothing in front of the number. -/
theorem toI32_of_head {text : Text} {first : Char} (starts : text.head? = some first)
    (digit : first.isDigit = true) :
    toI32 text =
      if ((text.takeWhile (· ≠ '\x00')).dropWhile Char.isDigit).dropWhile
          isAsciiWhitespace ≠ [] then .error .argumentError
      else if digitsValue ((text.takeWhile (· ≠ '\x00')).takeWhile Char.isDigit) < 2 ^ 31 then
        .ok (digitsValue ((text.takeWhile (· ≠ '\x00')).takeWhile Char.isDigit) : Int)
      else .error .argumentError := by
  obtain ⟨⟨no_null, no_space⟩, no_minus, no_plus⟩ := plain_of_isDigit digit
  cases text with
  | nil => simp at starts
  | cons c others =>
      obtain rfl : c = first := Option.some.inj starts
      have kept : (c :: others).takeWhile (· ≠ '\x00') = c :: others.takeWhile (· ≠ '\x00') :=
        List.takeWhile_cons_of_pos (by simpa using no_null)
      have body : (c :: others.takeWhile (· ≠ '\x00')).dropWhile isAsciiWhitespace =
          c :: others.takeWhile (· ≠ '\x00') :=
        List.dropWhile_cons_of_neg (by simp [no_space])
      have number : (c :: others.takeWhile (· ≠ '\x00')).takeWhile Char.isDigit ≠ [] := by
        rw [List.takeWhile_cons_of_pos digit]
        simp
      simp only [toI32, kept, body, List.head?_cons, Option.some.injEq, no_minus, no_plus,
        or_self, if_false, number, false_or]

/-- Digits are read as a number when the number fits into 31 bits. -/
theorem toI32_of_isDigit {digits : Text} (digits_ne : digits ≠ [])
    (are_digits : ∀ c ∈ digits, c.isDigit = true) :
    toI32 digits =
      if digitsValue digits < 2 ^ 31 then .ok (digitsValue digits : Int)
      else .error .argumentError := by
  have no_null : digits.takeWhile (· ≠ '\x00') = digits := by
    rw [List.takeWhile_eq_self_iff]
    intro c member
    simpa using (plain_of_isDigit (are_digits c member)).1.1
  obtain ⟨first, others, rfl⟩ := List.exists_cons_of_ne_nil digits_ne
  rw [toI32_of_head rfl (are_digits first List.mem_cons_self), no_null,
    List.takeWhile_eq_self_iff.mpr are_digits, List.dropWhile_eq_nil_iff.mpr are_digits]
  rfl

/-- Digits with a character behind them that belongs neither to a number nor to white space are not
read. -/
theorem toI32_of_isDigit_append {digits rest : Text} {behind : Char} (digits_ne : digits ≠ [])
    (are_digits : ∀ c ∈ digits, c.isDigit = true)
    (strange : behind ≠ '\x00' ∧ behind.isDigit = false ∧ isAsciiWhitespace behind = false) :
    toI32 (digits ++ behind :: rest) = .error .argumentError := by
  obtain ⟨no_null, no_digit, no_space⟩ := strange
  have kept : (digits ++ behind :: rest).takeWhile (· ≠ '\x00') =
      digits ++ behind :: rest.takeWhile (· ≠ '\x00') := by
    rw [List.takeWhile_append_of_pos fun c member => by
        simpa using (plain_of_isDigit (are_digits c member)).1.1,
      List.takeWhile_cons_of_pos (by simpa using no_null)]
  obtain ⟨first, others, rfl⟩ := List.exists_cons_of_ne_nil digits_ne
  rw [toI32_of_head rfl (are_digits first List.mem_cons_self), kept, if_pos]
  rw [List.dropWhile_append_of_pos are_digits, List.dropWhile_cons_of_neg (by simp [no_digit]),
    List.dropWhile_cons_of_neg (by simp [no_space])]
  simp

theorem toI32_natText {n : Nat} (small : n < 2 ^ 31) : toI32 (natText n) = .ok (n : Int) := by
  rw [toI32_of_isDigit (natText_ne_nil n) fun c member => natText_isDigit member,
    digitsValue_natText, if_pos small]

theorem no_newline_of_mem_split_lineEnd {text line : Text} (member : line ∈ split lineEnd text) :
    '\n' ∉ line := by
  intro inside
  obtain ⟨before, after, rfl⟩ := List.append_of_mem inside
  obtain ⟨tail, silent⟩ := quiet_of_mem_split member (k := before.length) (by simp)
  simp [lineEnd] at silent

/-- A line without line feeds is quiet before a line end. -/
theorem quiet_lineEnd {line : Text} (clean : '\n' ∉ line) (tail : Text)
    (tail_head : tail.head? ≠ some '\n') : Quiet lineEnd line tail := by
  induction line with
  | nil => intro k inside; simp at inside
  | cons c line ih =>
      have c_ne : c ≠ '\n' := fun equal => clean (equal ▸ List.mem_cons_self)
      have rest_clean : '\n' ∉ line := fun inside => clean (List.mem_cons_of_mem c inside)
      intro k inside
      cases k with
      | succ k => simpa using ih rest_clean k (by simpa using inside)
      | zero =>
          have next_ne : (line ++ tail).head? ≠ some '\n' := by
            cases line with
            | nil => simpa using tail_head
            | cons d line =>
                have d_ne : d ≠ '\n' :=
                  fun equal => rest_clean (equal ▸ List.mem_cons_self)
                simpa using d_ne
          simp only [List.drop_zero, List.cons_append]
          unfold lineEnd
          split
          · rename_i second later equal
            obtain ⟨-, rest_eq⟩ := List.cons.inj equal
            simp [rest_eq] at next_ne
          · rename_i later _ equal
            exact absurd (List.cons.inj equal).1 c_ne
          · rfl

/-- Lines that each end in a line end are read back. -/
theorem eachLine_flatMap {lines : List Text} (clean : ∀ line ∈ lines, '\n' ∉ line) :
    eachLine (lines.flatMap fun line => line ++ "\r\n".toList) = lines := by
  have pieces :
      split lineEnd (lines.flatMap fun line => line ++ "\r\n".toList) = lines ++ [[]] := by
    induction lines with
    | nil => rfl
    | cons line lines ih =>
        have rest := ih fun other member => clean other (List.mem_cons_of_mem line member)
        rw [List.flatMap_cons, List.append_assoc]
        rw [split_append (quiet_lineEnd (clean line List.mem_cons_self) _ (by simp)) (by decide)
          rfl]
        rw [List.cons_append, ← rest]
  simp only [eachLine, pieces, List.getLast?_concat, List.dropLast_concat, if_true]

/-- `IO::Memory`. -/
structure Memory where
  /-- Everything that has been written. -/
  bytes : Bytes
  /-- Where the next byte goes. -/
  pos : Nat
deriving DecidableEq, Repr

namespace Memory

/-- `IO::Memory.new`. -/
def new : Memory := ⟨[], 0⟩

/-- `size`. -/
def size (io : Memory) : Nat := io.bytes.length

/-- `seek`. -/
def seek (io : Memory) (pos : Nat) : Memory := { io with pos := pos }

/-- `write`, over what is there and then at the end. -/
def write (io : Memory) (part : Bytes) : Memory where
  bytes := io.bytes.take io.pos ++ part ++ io.bytes.drop (io.pos + part.length)
  pos := io.pos + part.length

/-- An `IO::Memory` with the position at its end. -/
def ofBytes (bytes : Bytes) : Memory := ⟨bytes, bytes.length⟩

@[simp]
theorem size_ofBytes (bytes : Bytes) : (ofBytes bytes).size = bytes.length := rfl

@[simp]
theorem write_ofBytes (bytes part : Bytes) :
    (ofBytes bytes).write part = ofBytes (bytes ++ part) := by
  simp [write, ofBytes]

end Memory

end Contest
