import Contest.Sip.ReadBack

/-!
# Framing of SIP messages

`SIP::Msg` splits the whole text of a message at every empty line and accepts it only when there is
one.  A header block and a body with an empty line between them are therefore told apart exactly
when the body has no empty line of its own after its first line.
-/

namespace Contest

open Splitting Sip.Responder

namespace Sip

/-- The three delimiters of sections. -/
theorem sectionDelimiter_eq_zero_iff {text : Text} : sectionDelimiter text = 0 ↔
    ¬"\r\n\r\n".toList <+: text ∧ ¬"\r\r".toList <+: text ∧ ¬"\n\n".toList <+: text := by
  have first : "\r\n\r\n".toList = ['\r', '\n', '\r', '\n'] := rfl
  have second : "\r\r".toList = ['\r', '\r'] := rfl
  have third : "\n\n".toList = ['\n', '\n'] := rfl
  rw [first, second, third]
  unfold sectionDelimiter
  split
  · simp
  · simp
  · simp
  · rename_i not_first not_second not_third
    refine ⟨fun _ => ⟨?_, ?_, ?_⟩, fun _ => rfl⟩
    · rintro ⟨rest, rfl⟩
      exact not_first rest rfl
    · rintro ⟨rest, rfl⟩
      exact not_second rest rfl
    · rintro ⟨rest, rfl⟩
      exact not_third rest rfl

/-- No section delimiter starts at an ordinary symbol. -/
theorem sectionDelimiter_cons {c : Char} (cr : c ≠ '\r') (lf : c ≠ '\n') (rest : Text) :
    sectionDelimiter (c :: rest) = 0 := by
  simp [sectionDelimiter_eq_zero_iff, List.cons_prefix_cons, cr.symm, lf.symm]

/-- No section delimiter starts at a carriage return before an ordinary symbol. -/
theorem sectionDelimiter_cr {c : Char} (cr : c ≠ '\r') (lf : c ≠ '\n') (rest : Text) :
    sectionDelimiter ('\r' :: c :: rest) = 0 := by
  simp [sectionDelimiter_eq_zero_iff, List.cons_prefix_cons, cr.symm, lf.symm]

/-- A delimiter of sections consists of line ends only. -/
theorem sectionDelimiter_le {c : Char} (cr : c ≠ '\r') (lf : c ≠ '\n') (front rest : Text) :
    sectionDelimiter (front ++ c :: rest) ≤ front.length := by
  have reaches : ∀ {width : Nat} {tail : Text} (ends : Text),
      (∀ symbol ∈ ends, symbol = '\r' ∨ symbol = '\n') → ends.length = width →
        front ++ c :: rest = ends ++ tail → width ≤ front.length := by
    intro width tail ends only counted same
    by_contra short
    have member : c ∈ ends := by
      have here : (front ++ c :: rest)[front.length]? = some c := by simp
      rw [same, List.getElem?_append_left (by omega)] at here
      exact List.mem_of_getElem? here
    rcases only c member with equal | equal
    · exact cr equal
    · exact lf equal
  unfold sectionDelimiter
  split
  · rename_i tail same
    exact reaches ['\r', '\n', '\r', '\n'] (by simp) rfl same
  · rename_i tail same
    exact reaches ['\r', '\r'] (by simp) rfl same
  · rename_i tail same
    exact reaches ['\n', '\n'] (by simp) rfl same
  · exact Nat.zero_le _

/-- A delimiter after an ordinary symbol cuts a text, whatever comes before. -/
theorem length_split_cut {c : Char} (cr : c ≠ '\r') (lf : c ≠ '\n') (front : Text)
    {separator rest : Text} (nonempty : separator ≠ [])
    (recognized : sectionDelimiter (separator ++ rest) = separator.length) :
    (split sectionDelimiter rest).length + 1 ≤
      (split sectionDelimiter (front ++ c :: (separator ++ rest))).length := by
  have here : split sectionDelimiter (c :: (separator ++ rest)) =
      [c] :: split sectionDelimiter rest := by
    have quiet : Quiet sectionDelimiter [c] (separator ++ rest) := by
      intro k inside
      obtain rfl : k = 0 := by simpa using inside
      exact sectionDelimiter_cons cr lf _
    exact split_append quiet nonempty recognized
  rw [← List.length_cons (a := [c]), ← here]
  refine length_split_append_le ?_
  intro k inside
  have reach := sectionDelimiter_le cr lf (front.drop k) (separator ++ rest)
  rw [List.length_drop] at reach
  omega

/-- The text does not go on with a line end. -/
def StartsCalm (text : Text) : Prop := text.head? ≠ some '\r' ∧ text.head? ≠ some '\n'

/-- No section delimiter starts in a line end, unless another one follows it. -/
theorem quiet_line_end {tail : Text} (calm : StartsCalm tail) :
    Quiet sectionDelimiter "\r\n".toList tail := by
  obtain ⟨no_cr, no_lf⟩ := calm
  intro k inside
  rw [sectionDelimiter_eq_zero_iff]
  cases tail with
  | nil =>
      match k, inside with
      | 0, _ => simp
      | 1, _ => simp
  | cons c tail =>
      have cr : '\r' ≠ c := fun equal => no_cr (congrArg some equal.symm)
      have lf : '\n' ≠ c := fun equal => no_lf (congrArg some equal.symm)
      match k, inside with
      | 0, _ => simp [List.cons_prefix_cons, cr]
      | 1, _ => simp [List.cons_prefix_cons, lf]

/-- A line in which no delimiter of sections starts, whatever lines stand around it. -/
structure Calm (line : Text) : Prop where
  /-- It is not empty. -/
  nonempty : line ≠ []
  /-- It is one line. -/
  no_newline : '\n' ∉ line
  /-- It contains no two carriage returns in a row. -/
  no_pair : ¬"\r\r".toList <:+: line
  /-- It does not end in a carriage return. -/
  last : line.getLast? ≠ some '\r'
  /-- It does not start with a carriage return. -/
  first : line.head? ≠ some '\r'

theorem Calm.startsCalm {line : Text} (calm : Calm line) (tail : Text) :
    StartsCalm (line ++ tail) := by
  have first := calm.first
  have no_newline := calm.no_newline
  obtain ⟨c, others, rfl⟩ := List.exists_cons_of_ne_nil calm.nonempty
  have differs : c ≠ '\n' := fun equal => no_newline (equal ▸ List.mem_cons_self)
  exact ⟨by simpa using first, by simpa using differs⟩

theorem Calm.quiet {line : Text} (calm : Calm line) (tail : Text) :
    Quiet sectionDelimiter line tail := by
  intro k inside
  have later : line.drop k <:+ line := List.drop_suffix k line
  have ordinary : ∀ c ∈ line.drop k, c ≠ '\n' :=
    fun c member equal => calm.no_newline (equal ▸ later.subset member)
  obtain ⟨c, others, rest⟩ := List.exists_cons_of_ne_nil (l := line.drop k) (by simpa using inside)
  rw [rest] at later ordinary ⊢
  by_cases cr : c = '\r'
  · subst cr
    cases others with
    | nil =>
        obtain ⟨front, whole⟩ := later
        exact absurd (by simp [← whole]) calm.last
    | cons d others =>
        have not_cr : d ≠ '\r' := by
          rintro rfl
          exact calm.no_pair (List.IsInfix.trans ⟨[], others, rfl⟩ later.isInfix)
        exact sectionDelimiter_cr not_cr (ordinary d (by simp)) _
  · exact sectionDelimiter_cons cr (ordinary c List.mem_cons_self) _

/-- Calm lines joined by line ends are quiet before a line end. -/
theorem quiet_joined {lines : List Text} (calm : ∀ line ∈ lines, Calm line) (tail : Text) :
    Quiet sectionDelimiter ("\r\n".toList.intercalate lines) tail := by
  induction lines with
  | nil => intro k inside; simp at inside
  | cons line lines ih =>
      have here := calm line List.mem_cons_self
      have rest := ih fun other member => calm other (List.mem_cons_of_mem line member)
      cases lines with
      | nil => simpa using here.quiet tail
      | cons next lines =>
          have next_calm := calm next (by simp)
          have starts : StartsCalm ("\r\n".toList.intercalate (next :: lines) ++ tail) := by
            cases lines with
            | nil => simpa using next_calm.startsCalm tail
            | cons other lines =>
                rw [List.intercalate_cons_cons, List.append_assoc, List.append_assoc]
                exact next_calm.startsCalm _
          rw [List.intercalate_cons_cons, List.append_assoc]
          exact (here.quiet _).append ((quiet_line_end starts).append rest)

/-- A header block of calm lines ends at the first empty line. -/
theorem split_block {lines : List Text} (calm : ∀ line ∈ lines, Calm line) (rest : Text) :
    split sectionDelimiter ("\r\n".toList.intercalate lines ++ ("\r\n\r\n".toList ++ rest)) =
      "\r\n".toList.intercalate lines :: split sectionDelimiter rest :=
  split_append (quiet_joined calm _) (by decide) rfl

/-- A line of text. -/
structure IsLine (line : Text) : Prop where
  /-- No carriage return. -/
  no_cr : '\r' ∉ line
  /-- No line feed. -/
  no_lf : '\n' ∉ line

theorem IsLine.calm {line : Text} (is_line : IsLine line) (nonempty : line ≠ []) :
    Calm line where
  nonempty := nonempty
  no_newline := is_line.no_lf
  no_pair := fun inside => is_line.no_cr (inside.subset (by decide))
  last := fun last => is_line.no_cr (List.mem_of_getLast? last)
  first := fun first => is_line.no_cr (List.mem_of_head? first)

/-- A body of lines that each end in a line end. -/
def bodyOf (lines : List Text) : Text := lines.flatMap fun line => line ++ "\r\n".toList

theorem startsCalm_bodyOf {lines : List Text} (calm : ∀ line ∈ lines, Calm line) :
    StartsCalm (bodyOf lines) := by
  cases lines with
  | nil => exact ⟨by simp [bodyOf], by simp [bodyOf]⟩
  | cons line lines =>
      rw [bodyOf, List.flatMap_cons, List.append_assoc]
      exact (calm line List.mem_cons_self).startsCalm _

theorem quiet_bodyOf {lines : List Text} (calm : ∀ line ∈ lines, Calm line) :
    Quiet sectionDelimiter (bodyOf lines) [] := by
  induction lines with
  | nil => intro k inside; simp [bodyOf] at inside
  | cons line lines ih =>
      have later : ∀ other ∈ lines, Calm other :=
        fun other member => calm other (List.mem_cons_of_mem line member)
      have starts : StartsCalm (bodyOf lines ++ []) := by
        rw [List.append_nil]
        exact startsCalm_bodyOf later
      rw [bodyOf, List.flatMap_cons, List.append_assoc]
      exact ((calm line List.mem_cons_self).quiet _).append
        ((quiet_line_end starts).append (ih later))

/-- A body has no section delimiter exactly when no line after its first is empty. -/
theorem split_bodyOf_iff {lines : List Text} (is_line : ∀ line ∈ lines, IsLine line) :
    split sectionDelimiter (bodyOf lines) = [bodyOf lines] ↔ [] ∉ lines.tail := by
  rw [split_eq_singleton_iff]
  cases lines with
  | nil =>
      refine ⟨fun _ => by simp, fun _ => ⟨rfl, ?_⟩⟩
      intro k inside
      simp [bodyOf] at inside
  | cons first others =>
      constructor
      · rintro ⟨-, quiet⟩ empty
        obtain ⟨before, after, split_at⟩ := List.append_of_mem empty
        simp only [List.tail_cons] at split_at
        have two : "\r\n".toList ++ "\r\n".toList = "\r\n\r\n".toList := rfl
        have text : bodyOf (first :: others) =
            "\r\n".toList.intercalate (first :: before) ++
              ("\r\n\r\n".toList ++ bodyOf after) := by
          rw [← two, ← List.append_assoc, ← List.append_assoc, ← flatMap_line_end, split_at]
          simp [bodyOf]
        rw [text] at quiet
        have starts := quiet ("\r\n".toList.intercalate (first :: before)).length (by simp)
        rw [List.drop_left, List.append_nil, sectionDelimiter_eq_zero_iff] at starts
        exact starts.1 (List.prefix_append _ _)
      · intro none_empty
        refine ⟨rfl, ?_⟩
        have later : ∀ line ∈ others, Calm line := by
          intro line member
          exact (is_line line (List.mem_cons_of_mem first member)).calm
            fun equal => none_empty (equal ▸ member)
        have starts : StartsCalm (bodyOf others ++ []) := by
          rw [List.append_nil]
          exact startsCalm_bodyOf later
        rw [bodyOf, List.flatMap_cons, List.append_assoc]
        refine Quiet.append ?_ ((quiet_line_end starts).append (quiet_bodyOf later))
        by_cases empty : first = []
        · subst empty
          intro k inside
          simp at inside
        · exact ((is_line first List.mem_cons_self).calm empty).quiet _

namespace Header

theorem readLine_of_infix {line : Text} (inside : ": ".toList <:+: line) :
    ∃ read, readLine line = .ok read := by
  obtain ⟨piece, next, pieces, cut⟩ := exists_split_of_infix (by decide) inside
  refine ⟨(piece, next), ?_⟩
  rw [readLine, splitString, cut]
  rfl

theorem readLines_of_infix {lines : List Text} (inside : ∀ line ∈ lines, ": ".toList <:+: line) :
    ∃ fields, readLines lines = .ok fields := by
  induction lines with
  | nil => exact ⟨_, rfl⟩
  | cons line lines ih =>
      obtain ⟨first, read⟩ := readLine_of_infix (inside line List.mem_cons_self)
      obtain ⟨later, read_later⟩ :=
        ih fun other member => inside other (List.mem_cons_of_mem line member)
      exact ⟨_, readLines_cons_eq_ok.mpr ⟨first, later, read, read_later, rfl⟩⟩

/-- A block of lines `Name: value` is a header block. -/
theorem new_of_lines {commandLine : Text} {lines : List (Text × Text)}
    (clean : ∀ line ∈ commandLine :: lines.map printLine, '\n' ∉ line) :
    ∃ header, new ("\r\n".toList.intercalate (commandLine :: lines.map printLine)) =
      .ok header := by
  have inside : ∀ line ∈ lines.map printLine, ": ".toList <:+: line := by
    intro line member
    obtain ⟨pair, -, rfl⟩ := List.mem_map.mp member
    exact ⟨pair.1, pair.2, rfl⟩
  obtain ⟨fields, read⟩ := readLines_of_infix inside
  obtain ⟨header, parsed, -⟩ := new_of_split (split_joined_lines (by simp) clean) read
  exact ⟨header, parsed⟩

end Header
end Sip

namespace Sdp

/-- A line of a session description, which may be empty. -/
def IsSdpLine (line : Text) : Prop := line = [] ∨ ∃ key value, line = key :: '=' :: value

namespace Header

theorem readLine_of_isSdpLine {line : Text} (is_line : IsSdpLine line) (header : Header) :
    ∃ next, header.readLine line = .ok next := by
  rcases is_line with rfl | ⟨key, value, rfl⟩
  · exact ⟨header, rfl⟩
  · have cut : splitPair '=' (key :: '=' :: value) =
        some (if key = '=' then ([], '=' :: value) else ([key], value)) := by
      by_cases same : key = '='
      · simp [splitPair, same]
      · simp [splitPair, same]
    have short : ∀ pair : Text × Text,
        pair = (if key = '=' then ([], '=' :: value) else ([key], value)) →
          ¬1 < pair.1.length := by
      rintro pair rfl
      split <;> simp
    rw [readLine, if_neg (by simp), cut]
    exact ⟨_, if_neg (short _ rfl)⟩

theorem readLines_of_isSdpLine {lines : List Text} (are_lines : ∀ line ∈ lines, IsSdpLine line)
    (header : Header) : ∃ last, header.readLines lines = .ok last := by
  induction lines generalizing header with
  | nil => exact ⟨header, rfl⟩
  | cons line lines ih =>
      obtain ⟨next, read⟩ := readLine_of_isSdpLine (are_lines line List.mem_cons_self) header
      obtain ⟨last, later⟩ :=
        ih (fun other member => are_lines other (List.mem_cons_of_mem line member)) next
      exact ⟨last, bind_eq_ok.mpr ⟨next, read, later⟩⟩

/-- Lines `x=value` and empty lines are a session description. -/
theorem new_bodyOf {lines : List Text} (clean : ∀ line ∈ lines, '\n' ∉ line)
    (are_lines : ∀ line ∈ lines, IsSdpLine line) :
    ∃ header, new (Sip.bodyOf lines) = .ok header := by
  obtain ⟨last, read⟩ := readLines_of_isSdpLine are_lines blank
  rw [new, Sip.bodyOf, eachLine_flatMap clean]
  exact ⟨_, bind_eq_ok.mpr ⟨last, read, rfl⟩⟩

end Header
end Sdp

namespace Sip

/-- A header block and a body with an empty line between them are told apart as they are. -/
def Framed (block body : Text) : Prop :=
  ∃ msg, Msg.new (block ++ "\r\n\r\n".toList ++ body) = .ok msg ∧
    Header.new block = .ok msg.sipHeader ∧ Sdp.Header.new body = .ok msg.sdpHeader

theorem framed_iff_of_calm {commandLine : Text} {lines : List (Text × Text)} {body : List Text}
    (calm : ∀ line ∈ commandLine :: lines.map printLine, Calm line)
    (is_line : ∀ line ∈ body, IsLine line) (described : ∀ line ∈ body, Sdp.IsSdpLine line) :
    Framed ("\r\n".toList.intercalate (commandLine :: lines.map printLine)) (bodyOf body) ↔
      [] ∉ body.tail := by
  have cut := split_block calm (bodyOf body)
  rw [← List.append_assoc] at cut
  rw [← split_bodyOf_iff is_line]
  constructor
  · rintro ⟨msg, accepted, -⟩
    obtain ⟨header, rest, pieces, -⟩ := Msg.new_eq_ok.mp accepted
    have same := (List.cons.inj (cut.symm.trans pieces)).2
    obtain rfl := (split_eq_singleton_iff.mp same).1
    exact same
  · intro whole
    obtain ⟨sipHeader, read_header⟩ :=
      Header.new_of_lines fun line member => (calm line member).no_newline
    obtain ⟨sdpHeader, read_body⟩ :=
      Sdp.Header.new_bodyOf (fun line member => (is_line line member).no_lf) described
    refine ⟨⟨sipHeader, sdpHeader⟩, ?_, read_header, read_body⟩
    exact Msg.new_eq_ok.mpr ⟨_, _, by rw [cut, whole], read_header, read_body⟩

/-- A header block of lines and a body of session description lines, each ended by a line end, are
told apart if and only if no line of the body after its first is empty. -/
theorem framed_iff {commandLine : Text} {lines : List (Text × Text)} {body : List Text}
    (command : IsLine commandLine) (present : commandLine ≠ [])
    (headers : ∀ line ∈ lines, IsLine (printLine line))
    (is_line : ∀ line ∈ body, IsLine line) (described : ∀ line ∈ body, Sdp.IsSdpLine line) :
    Framed ("\r\n".toList.intercalate (commandLine :: lines.map printLine)) (bodyOf body) ↔
      [] ∉ body.tail := by
  refine framed_iff_of_calm ?_ is_line described
  intro line member
  rcases List.mem_cons.mp member with rfl | member
  · exact command.calm present
  · obtain ⟨pair, listed, rfl⟩ := List.mem_map.mp member
    exact (headers pair listed).calm (by simp [printLine])

/-- The lines of a session description, with an empty one among them. -/
def sampleBody : List Text :=
  ["v=0".toList, "m=audio 4000 RTP/AVP 0".toList, [], "a=sendrecv".toList]

theorem framed_iff_sample :
    Framed ("\r\n".toList.intercalate ("INVITE sip:a@b SIP/2.0".toList ::
        [("Call-ID".toList, "k1".toList), ("CSeq".toList, "1 INVITE".toList)].map printLine))
          (bodyOf sampleBody) ↔ [] ∉ sampleBody.tail := by
  have is_line : ∀ line ∈ sampleBody, IsLine line := by
    intro line member
    exact ⟨by revert line; decide, by revert line; decide⟩
  have described : ∀ line ∈ sampleBody, Sdp.IsSdpLine line := by
    simp only [sampleBody, List.forall_mem_cons]
    exact ⟨.inr ⟨'v', _, rfl⟩, .inr ⟨'m', _, rfl⟩, .inl rfl, .inr ⟨'a', _, rfl⟩,
      fun _ none => absurd none List.not_mem_nil⟩
  have headers : ∀ line ∈ [("Call-ID".toList, "k1".toList), ("CSeq".toList, "1 INVITE".toList)],
      IsLine (printLine line) := by
    intro line member
    exact ⟨by revert line; decide, by revert line; decide⟩
  exact framed_iff ⟨by decide, by decide⟩ (by decide) headers is_line described

/-- A body that an empty line follows is not accepted. -/
theorem empty_line_after_body_refused :
    ¬∀ (commandLine : Text) (lines : List (Text × Text)) (body : List Text), IsLine commandLine →
      commandLine ≠ [] → (∀ line ∈ lines, IsLine (printLine line)) →
        (∀ line ∈ body, IsLine line) → (∀ line ∈ body, Sdp.IsSdpLine line) →
          Framed ("\r\n".toList.intercalate (commandLine :: lines.map printLine))
            (bodyOf body) := by
  intro claimed
  have described : ∀ line ∈ ["v=0".toList, []], IsLine line ∧ Sdp.IsSdpLine line := by
    intro line member
    simp only [List.mem_cons, List.not_mem_nil, or_false] at member
    rcases member with rfl | rfl
    · exact ⟨⟨by decide, by decide⟩, .inr ⟨'v', ['0'], rfl⟩⟩
    · exact ⟨⟨by simp, by simp⟩, .inl rfl⟩
  have command : IsLine "INVITE sip:a@b SIP/2.0".toList := ⟨by decide, by decide⟩
  have calm : ∀ line ∈ "INVITE sip:a@b SIP/2.0".toList :: [].map printLine, Calm line := by
    rw [List.map_nil]
    rintro line (_ | ⟨_, ⟨⟩⟩)
    exact command.calm (by decide)
  have framed := claimed "INVITE sip:a@b SIP/2.0".toList [] ["v=0".toList, []] command
    (by decide) (by simp) (fun line member => (described line member).1)
    (fun line member => (described line member).2)
  exact (framed_iff_of_calm calm (fun line member => (described line member).1)
    (fun line member => (described line member).2)).mp framed (by decide)

end Sip
end Contest
