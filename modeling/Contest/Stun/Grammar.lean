import Contest.Stun.Attributes

/-!
# The grammar of STUN requests

What `StunHeader.new` and, on the bytes behind the header, `StunAttributes.new` accept: the header
of a binding request that counts these bytes, and attributes one behind the other.  The loop over
the attributes comes to an end on all bytes.
-/

namespace Contest
namespace Stun

namespace StunAttributes

/-- The loop of `StunAttributes.new` comes to an end with the given outcome. -/
inductive LoopEnds (data : Bytes) : Nat → List Attribute → Fallible (List Attribute) → Prop
  | done {byteStep : Nat} {attributes : List Attribute} (settled : ¬byteStep < data.length) :
      LoopEnds data byteStep attributes (.ok attributes)
  | raised {byteStep : Nat} {attributes : List Attribute} {e : Exn}
      (inside : byteStep < data.length) (turn : readAttribute data byteStep = .error e) :
      LoopEnds data byteStep attributes (.error e)
  | turned {byteStep : Nat} {attributes : List Attribute} {read : Attribute × Nat}
      {outcome : Fallible (List Attribute)} (inside : byteStep < data.length)
      (turn : readAttribute data byteStep = .ok read)
      (later : LoopEnds data read.2 (read.1 :: attributes) outcome) :
      LoopEnds data byteStep attributes outcome

/-- As every turn passes four bytes at least, there are enough turns for the loop to end. -/
theorem loopEnds_readFrom {data : Bytes} {turns byteStep : Nat} {attributes : List Attribute}
    (enough : data.length ≤ byteStep + turns) :
    LoopEnds data byteStep attributes (readFrom data turns byteStep attributes) := by
  induction turns generalizing byteStep attributes with
  | zero => exact .done (by omega)
  | succ turns ih =>
      by_cases inside : byteStep < data.length
      · rw [readFrom, if_pos inside]
        cases turn : readAttribute data byteStep with
        | error e => exact .raised inside turn
        | ok read =>
            have advanced := readAttribute_advances turn
            exact .turned inside turn (ih (by omega))
      · rw [readFrom, if_neg inside]
        exact .done inside

end StunAttributes

/-- `StunHeader.new`, and `StunAttributes.new` on what follows the header. -/
def parse (data : Bytes) : Fallible (StunHeader × List Attribute) := do
  let header ← StunHeader.new data
  let attributes ← slice data 20 header.length.toNat >>= StunAttributes.new
  return (header, attributes)

/-- The bytes are a binding request with the given attributes. -/
def IsRequest (attributes : List Attribute) (data : Bytes) : Prop :=
  ∃ transactionId body, transactionId.length = 12 ∧ body.length < 2 ^ 16 ∧ Body attributes body ∧
    data = encodeUInt16 0x0001 ++ (encodeUInt16 (UInt16.ofNat body.length) ++
      (encodeUInt32 StunHeader.magicCookieValue ++ transactionId)) ++ body

/-- The bytes before the body of a request are those of a header. -/
theorem IsRequest.exists_header {attributes : List Attribute} {data : Bytes}
    (request : IsRequest attributes data) :
    ∃ header : StunHeader, header.serialize.bytes = data.take 20 := by
  obtain ⟨transactionId, body, sized, -, -, rfl⟩ := request
  let header : StunHeader := ⟨0x0001, UInt16.ofNat body.length, StunHeader.magicCookieValue,
    transactionId, sized⟩
  have size : header.serialize.bytes.length = 20 := by
    rw [header.bytes_serialize]
    simp only [header, List.length_append, length_encodeUInt16, length_encodeUInt32, sized]
  refine ⟨header, ?_⟩
  rw [← size, header.bytes_serialize, List.take_left]

/-- A request is parsed into its header and its attributes, the last one first. -/
theorem parse_eq_ok_iff {data : Bytes} {header : StunHeader} {table : List Attribute} :
    parse data = .ok (header, table) ↔ header.serialize.bytes = data.take 20 ∧
      ∃ attributes, IsRequest attributes data ∧ table = attributes.reverse := by
  constructor
  · intro parsed
    obtain ⟨other, accepted, parsed⟩ := bind_eq_ok.mp parsed
    obtain ⟨read, body_read, parsed⟩ := bind_eq_ok.mp parsed
    obtain ⟨rfl, rfl⟩ := Prod.mk.inj (Except.ok.inj parsed)
    obtain ⟨enough, kind, cookie, counted, bytes⟩ := StunHeader.new_eq_ok_iff.mp accepted
    obtain ⟨body, sliced, body_read⟩ := bind_eq_ok.mp body_read
    have size : (data.drop 20).length = other.length.toNat := by rw [List.length_drop, counted]
    have whole : body = data.drop 20 := by
      rw [(slice_eq_ok.mp sliced).2, ← size, List.take_length]
    have fits : body.length < 2 ^ 16 := by
      rw [whole, size]
      exact other.length.toNat_lt
    have length : other.length = UInt16.ofNat body.length := by
      rw [whole, size, UInt16.ofNat_toNat]
    obtain ⟨attributes, parts, rfl⟩ := (StunAttributes.new_eq_ok_iff fits).mp body_read
    refine ⟨bytes, attributes, ⟨other.transactionId, body, other.sized, fits, parts, ?_⟩, rfl⟩
    rw [← length, ← cookie, whole]
    have written := other.bytes_serialize
    rw [kind] at written
    exact (List.take_append_drop 20 data).symm.trans
      (congrArg (· ++ data.drop 20) (bytes.symm.trans written))
  · rintro ⟨bytes, attributes, ⟨transactionId, body, sized, fits, parts, rfl⟩, rfl⟩
    have size : (encodeUInt16 0x0001 ++ (encodeUInt16 (UInt16.ofNat body.length) ++
        (encodeUInt32 StunHeader.magicCookieValue ++ transactionId))).length = 20 := by
      simp only [List.length_append, length_encodeUInt16, length_encodeUInt32, sized]
    have front : (encodeUInt16 0x0001 ++ (encodeUInt16 (UInt16.ofNat body.length) ++
        (encodeUInt32 StunHeader.magicCookieValue ++ transactionId)) ++ body).take 20 =
          encodeUInt16 0x0001 ++ (encodeUInt16 (UInt16.ofNat body.length) ++
            (encodeUInt32 StunHeader.magicCookieValue ++ transactionId)) := by
      rw [← size, List.take_left]
    have behind : (encodeUInt16 0x0001 ++ (encodeUInt16 (UInt16.ofNat body.length) ++
        (encodeUInt32 StunHeader.magicCookieValue ++ transactionId)) ++ body).drop 20 = body := by
      rw [← size, List.drop_left]
    have fields := bytes
    rw [front, header.bytes_serialize] at fields
    obtain ⟨kind, fields⟩ := List.append_inj fields rfl
    obtain ⟨length, fields⟩ := List.append_inj fields rfl
    obtain ⟨cookie, -⟩ := List.append_inj fields rfl
    have counted : header.length.toNat = body.length := by
      rw [encodeUInt16_inj length, UInt16.toNat_ofNat', Nat.mod_eq_of_lt fits]
    have total := @List.length_append _ (encodeUInt16 0x0001 ++
      (encodeUInt16 (UInt16.ofNat body.length) ++
        (encodeUInt32 StunHeader.magicCookieValue ++ transactionId))) body
    rw [size] at total
    have accepted := StunHeader.new_eq_ok_iff.mpr ⟨by omega, encodeUInt16_inj kind,
      encodeUInt32_inj cookie, by omega, bytes⟩
    have read := (StunAttributes.new_eq_ok_iff fits).mpr ⟨attributes, parts, rfl⟩
    refine bind_eq_ok.mpr ⟨header, accepted, ?_⟩
    refine bind_eq_ok.mpr ⟨_, bind_eq_ok.mpr ⟨body, ?_, read⟩, rfl⟩
    refine slice_eq_ok.mpr ⟨by omega, ?_⟩
    rw [behind, counted, List.take_length]

/-- The attributes of a conversation are those of the parser. -/
theorem Conv.stunAttributes_eq {conv : Conv}
    (accepted : StunHeader.new conv.data = .ok conv.stunHeader)
    (counted : conv.stunHeader.length ≠ 0) :
    conv.stunAttributes = (parse conv.data).map Prod.snd := by
  rw [stunAttributes, if_neg counted, parse, accepted]
  simp only [bind, Except.bind]
  cases slice conv.data 20 conv.stunHeader.length.toNat with
  | error e => rfl
  | ok body =>
      simp only
      cases StunAttributes.new body <;> rfl

/-- The parser accepts the requests of the grammar and gives what they say. -/
structure AcceptsGrammar (data : Bytes) : Prop where
  /-- The loop over the attributes ends. -/
  terminates : StunAttributes.LoopEnds (data.drop 20) 0 [] (StunAttributes.new (data.drop 20))
  /-- What is accepted is a request. -/
  accepts : (∃ header table, parse data = .ok (header, table)) ↔
    ∃ attributes, IsRequest attributes data
  /-- The table has the value of the last attribute of a type. -/
  last : ∀ header table attributes, parse data = .ok (header, table) →
    IsRequest attributes data → ∀ kind, table.lookup kind =
      ((attributes.filter fun attr => attr.1 = kind).map Prod.snd).getLast?
  /-- The header is written as it was read. -/
  serialize : ∀ header table, parse data = .ok (header, table) →
    header.serialize.bytes = data.take 20

/-- The parser accepts the grammar, on all bytes. -/
theorem acceptsGrammar (data : Bytes) : AcceptsGrammar data where
  terminates := StunAttributes.loopEnds_readFrom (by omega)
  accepts := by
    constructor
    · rintro ⟨header, table, parsed⟩
      obtain ⟨-, attributes, request, -⟩ := parse_eq_ok_iff.mp parsed
      exact ⟨attributes, request⟩
    · rintro ⟨attributes, request⟩
      obtain ⟨header, bytes⟩ := request.exists_header
      exact ⟨header, _, parse_eq_ok_iff.mpr ⟨bytes, attributes, request, rfl⟩⟩
  last header table attributes parsed request kind := by
    have bytes := (parse_eq_ok_iff.mp parsed).1
    have same := parse_eq_ok_iff.mpr ⟨bytes, attributes, request, rfl⟩
    obtain ⟨-, rfl⟩ := Prod.mk.inj (Except.ok.inj (parsed.symm.trans same))
    exact lookup_reverse attributes kind
  serialize header table parsed := (parse_eq_ok_iff.mp parsed).1

end Stun
end Contest
