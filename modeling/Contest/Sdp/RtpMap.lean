import Contest.Sdp.Header

/-!
# The numbers of codecs

`rtp_map` reads the numbers on all attributes `rtpmap:number codec` and keeps the last one for each
codec.
-/

namespace Contest

namespace Sdp
namespace Header

/-- The numbers that the attributes give to a codec, as they are written. -/
def numbersFor (codec : Text) (attributeLines : List Text) : List Text :=
  ((attributeLines.filterMap scanRtpMap).filter fun entry => entry.2 = codec).map Prod.fst

theorem isDigit_of_scanRtpMap {line id codec : Text}
    (scanned : scanRtpMap line = some (id, codec)) :
    id ≠ [] ∧ ∀ c ∈ id, c.isDigit = true := by
  obtain ⟨numbered, -, scanned⟩ := Option.bind_eq_some_iff.mp scanned
  obtain ⟨⟨digits, rest⟩, read, scanned⟩ := Option.bind_eq_some_iff.mp scanned
  obtain ⟨name, -, scanned⟩ := Option.bind_eq_some_iff.mp scanned
  split at scanned
  · simp at scanned
  · obtain ⟨rfl, -⟩ := Prod.mk.inj (Option.some.inj scanned)
    unfold digits? at read
    split at read
    · simp at read
    · rename_i digits_ne
      obtain ⟨rfl, -⟩ := Prod.mk.inj (Option.some.inj read)
      exact ⟨digits_ne, fun c member => List.mem_takeWhile_imp member⟩

theorem isDigit_of_numbersFor {attributeLines : List Text} {codec id : Text}
    (member : id ∈ numbersFor codec attributeLines) : id ≠ [] ∧ ∀ c ∈ id, c.isDigit = true := by
  obtain ⟨⟨digits, name⟩, filtered, rfl⟩ := List.mem_map.mp member
  obtain ⟨line, -, scanned⟩ := List.mem_filterMap.mp (List.mem_of_mem_filter filtered)
  exact isDigit_of_scanRtpMap scanned

/-- The numbers that have been read for a codec are those that the lines give. -/
theorem map_toI32_numbersFor {attributeLines : List Text} {read : List (Int × Text)}
    (codec : Text) (read_eq : rtpMapLines attributeLines = .ok read) :
    (numbersFor codec attributeLines).map toI32 =
      ((read.filter fun entry => entry.2 = codec).map Prod.fst).map .ok := by
  induction attributeLines generalizing read with
  | nil =>
      obtain rfl : [] = read := Except.ok.inj read_eq
      rfl
  | cons line attributeLines ih =>
      unfold rtpMapLines at read_eq
      split at read_eq
      · rename_i silent
        rw [← ih read_eq, numbersFor, List.filterMap_cons_none silent]
        rfl
      · rename_i id name scanned
        obtain ⟨number, number_eq, read_eq⟩ := bind_eq_ok.mp read_eq
        obtain ⟨later, later_eq, read_eq⟩ := bind_eq_ok.mp read_eq
        obtain rfl : (number, name) :: later = read := Except.ok.inj read_eq
        have rest := ih later_eq
        rw [numbersFor] at rest
        rw [numbersFor, List.filterMap_cons_some scanned]
        by_cases same : name = codec
        · rw [List.filter_cons_of_pos (by simpa using same),
            List.filter_cons_of_pos (by simpa using same)]
          simp only [List.map_cons, number_eq, rest]
        · rw [List.filter_cons_of_neg (by simpa using same),
            List.filter_cons_of_neg (by simpa using same)]
          exact rest

/-- Every number on the attributes fits into 31 bits. -/
def Numbered (attributeLines : List Text) : Prop :=
  ∀ entry ∈ attributeLines.filterMap scanRtpMap, digitsValue entry.1 < 2 ^ 31

/-- The last number that the attributes give to a codec. -/
def numberOf (codec : Text) (attributeLines : List Text) : Option Int :=
  ((numbersFor codec attributeLines).map fun id => (digitsValue id : Int)).getLast?

theorem numbered_cons_of_some {line id codec : Text} (scanned : scanRtpMap line = some (id, codec))
    (attributeLines : List Text) :
    Numbered (line :: attributeLines) ↔ digitsValue id < 2 ^ 31 ∧ Numbered attributeLines := by
  rw [Numbered, List.filterMap_cons_some scanned, List.forall_mem_cons]
  rfl

theorem exists_rtpMapLines_iff {attributeLines : List Text} :
    (∃ read, rtpMapLines attributeLines = .ok read) ↔ Numbered attributeLines := by
  induction attributeLines with
  | nil => exact iff_of_true ⟨[], rfl⟩ (by simp [Numbered])
  | cons line attributeLines ih =>
      cases scanned : scanRtpMap line with
      | none =>
          rw [rtpMapLines, scanned, Numbered, List.filterMap_cons_none scanned]
          exact ih
      | some entry =>
          obtain ⟨id, codec⟩ := entry
          obtain ⟨id_ne, digits⟩ := isDigit_of_scanRtpMap scanned
          rw [rtpMapLines, scanned, numbered_cons_of_some scanned, ← ih]
          simp only [toI32_of_isDigit id_ne digits]
          by_cases small : digitsValue id < 2 ^ 31
          · rw [if_pos small]
            refine ⟨?_, ?_⟩
            · rintro ⟨read, read_eq⟩
              obtain ⟨number, -, read_eq⟩ := bind_eq_ok.mp read_eq
              obtain ⟨later, later_eq, -⟩ := bind_eq_ok.mp read_eq
              exact ⟨small, later, later_eq⟩
            · rintro ⟨-, later, later_eq⟩
              exact ⟨_, bind_eq_ok.mpr ⟨_, rfl, bind_eq_ok.mpr ⟨later, later_eq, rfl⟩⟩⟩
          · rw [if_neg small]
            refine iff_of_false ?_ fun both => small both.1
            rintro ⟨read, read_eq⟩
            obtain ⟨number, number_eq, -⟩ := bind_eq_ok.mp read_eq
            simp at number_eq

/-- The map can be read when the numbers fit. -/
theorem exists_rtpMap_iff {header : Header} :
    (∃ rtpMap, header.rtpMap = .ok rtpMap) ↔ Numbered header.sessionAttributes := by
  rw [← exists_rtpMapLines_iff]
  constructor
  · rintro ⟨rtpMap, read⟩
    obtain ⟨lines, read_lines, -⟩ := bind_eq_ok.mp read
    exact ⟨lines, read_lines⟩
  · rintro ⟨lines, read_lines⟩
    exact ⟨_, bind_eq_ok.mpr ⟨lines, read_lines, rfl⟩⟩

/-- Under a codec the map has the last number that the attributes give to it. -/
theorem lookup_rtpMap {header : Header} {rtpMap : List (Text × Int)}
    (read : header.rtpMap = .ok rtpMap) (codec : Text) :
    rtpMap.lookup codec = numberOf codec header.sessionAttributes := by
  obtain ⟨lines, read_lines, read⟩ := bind_eq_ok.mp read
  obtain rfl : _ = rtpMap := Except.ok.inj read
  have numbers := map_toI32_numbersFor codec read_lines
  have values : (numbersFor codec header.sessionAttributes).map toI32 =
      ((numbersFor codec header.sessionAttributes).map fun id => (digitsValue id : Int)).map
        .ok := by
    rw [List.map_map]
    apply List.map_congr_left
    intro id member
    obtain ⟨id_ne, digits⟩ := isDigit_of_numbersFor member
    have listed : toI32 id ∈ (numbersFor codec header.sessionAttributes).map toI32 :=
      List.mem_map_of_mem member
    rw [numbers] at listed
    obtain ⟨number, -, number_eq⟩ := List.mem_map.mp listed
    rw [toI32_of_isDigit id_ne digits] at number_eq ⊢
    split at number_eq
    · rename_i small
      exact if_pos small
    · simp at number_eq
  have same : (lines.filter fun entry => entry.2 = codec).map Prod.fst =
      (numbersFor codec header.sessionAttributes).map fun id => (digitsValue id : Int) :=
    List.map_injective_iff.mpr (fun _ _ => Except.ok.inj) (numbers.symm.trans values)
  have looked_up : (lines.reverse.map Prod.swap).lookup codec =
      ((lines.filter fun entry => entry.2 = codec).map Prod.fst).getLast? := by
    rw [List.map_reverse, lookup_reverse, List.filter_map, List.map_map]
    rfl
  rw [looked_up, same]
  rfl

end Header
end Sdp

end Contest
