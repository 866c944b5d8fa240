import Mathlib.Data.List.Infix
import Mathlib.Data.List.Basic

/-!
# Splitting lists at recognized delimiters

A delimiter is a function giving the width of the delimiter at the head of a list, and zero where
no delimiter starts.  `split` scans from the left, cuts at every recognized delimiter and keeps
empty pieces, the last one included.  The two central facts are that no delimiter starts inside a
piece, and that pieces in which no delimiter starts are read back from their concatenation.
-/

namespace Contest
namespace Splitting

variable {α : Type*}

/-- The width of the delimiter at the head of a list, zero where none starts. -/
abbrev Delimiter (α : Type*) := List α → Nat

/-- Put one element in front of the first piece. -/
def consPiece (head : α) : List (List α) → List (List α)
  | [] => [[head]]
  | piece :: pieces => (head :: piece) :: pieces

/-- Split a list of which the first `skip` elements still belong to a delimiter. -/
def splitFrom (delimiter : Delimiter α) : Nat → List α → List (List α)
  | _, [] => [[]]
  | skip + 1, _ :: rest => splitFrom delimiter skip rest
  | 0, head :: rest =>
      match delimiter (head :: rest) with
      | 0 => consPiece head (splitFrom delimiter 0 rest)
      | width + 1 => [] :: splitFrom delimiter width rest

/-- Cut a list at every delimiter, from the left. -/
def split (delimiter : Delimiter α) (whole : List α) : List (List α) :=
  splitFrom delimiter 0 whole

/-- No delimiter starts inside `front` when `tail` follows it. -/
def Quiet (delimiter : Delimiter α) (front tail : List α) : Prop :=
  ∀ k < front.length, delimiter (front.drop k ++ tail) = 0

theorem Quiet.tail {delimiter : Delimiter α} {head : α} {front tail : List α}
    (quiet : Quiet delimiter (head :: front) tail) : Quiet delimiter front tail := by
  intro k inside
  exact quiet (k + 1) (by simpa using inside)

theorem Quiet.head {delimiter : Delimiter α} {head : α} {front tail : List α}
    (quiet : Quiet delimiter (head :: front) tail) :
    delimiter (head :: (front ++ tail)) = 0 :=
  quiet 0 (by simp)

theorem Quiet.append {delimiter : Delimiter α} {front middle tail : List α}
    (first : Quiet delimiter front (middle ++ tail)) (second : Quiet delimiter middle tail) :
    Quiet delimiter (front ++ middle) tail := by
  intro k inside
  rw [List.length_append] at inside
  rcases Nat.lt_or_ge k front.length with early | late
  · rw [List.drop_append_of_le_length (Nat.le_of_lt early), List.append_assoc]
    exact first k early
  · obtain ⟨offset, rfl⟩ := Nat.exists_eq_add_of_le late
    rw [List.drop_append, List.drop_of_length_le (by omega), List.nil_append,
      Nat.add_sub_cancel_left]
    exact second offset (by omega)

@[simp]
theorem split_nil (delimiter : Delimiter α) : split delimiter [] = [[]] := rfl

theorem split_cons_of_quiet {delimiter : Delimiter α} {head : α} {rest : List α}
    (none_starts : delimiter (head :: rest) = 0) :
    split delimiter (head :: rest) = consPiece head (split delimiter rest) := by
  simp [split, splitFrom, none_starts]

theorem splitFrom_ne_nil (delimiter : Delimiter α) (skip : Nat) (whole : List α) :
    splitFrom delimiter skip whole ≠ [] := by
  fun_induction splitFrom delimiter skip whole with
  | case1 => simp
  | case2 _ _ _ ih => exact ih
  | case3 head rest _ _ =>
      cases splitFrom delimiter 0 rest <;> simp [consPiece]
  | case4 => simp

theorem split_ne_nil (delimiter : Delimiter α) (whole : List α) : split delimiter whole ≠ [] :=
  splitFrom_ne_nil delimiter 0 whole

/-- Skipping exactly the rest of a delimiter resumes ordinary splitting. -/
theorem splitFrom_length_append (delimiter : Delimiter α) (front rest : List α) :
    splitFrom delimiter front.length (front ++ rest) = split delimiter rest := by
  induction front with
  | nil => rfl
  | cons head front ih => simpa [splitFrom] using ih

/-- A list in which no delimiter starts is one piece. -/
theorem split_of_quiet {delimiter : Delimiter α} {front : List α}
    (quiet : Quiet delimiter front []) : split delimiter front = [front] := by
  induction front with
  | nil => rfl
  | cons head front ih =>
      rw [split_cons_of_quiet (by simpa using quiet.head), ih quiet.tail]
      rfl

/-- A list is one piece exactly when no delimiter starts in it. -/
theorem split_eq_singleton_iff {delimiter : Delimiter α} {whole piece : List α} :
    split delimiter whole = [piece] ↔ piece = whole ∧ Quiet delimiter whole [] := by
  constructor
  · intro single
    induction whole generalizing piece with
    | nil =>
        obtain rfl : [] = piece := by simpa using single
        exact ⟨rfl, fun k inside => by simp at inside⟩
    | cons head rest ih =>
        cases width : delimiter (head :: rest) with
        | zero =>
            rw [split_cons_of_quiet width] at single
            obtain ⟨first, others, later⟩ :=
              List.exists_cons_of_ne_nil (split_ne_nil delimiter rest)
            rw [later, consPiece] at single
            obtain ⟨rfl, rfl⟩ : head :: first = piece ∧ others = [] := by simpa using single
            obtain ⟨rfl, quiet⟩ := ih later
            refine ⟨rfl, ?_⟩
            intro k inside
            cases k with
            | zero => simpa using width
            | succ k => exact quiet k (by simpa using inside)
        | succ width' =>
            simp only [split, splitFrom, width] at single
            exact absurd (List.cons.inj single).2 (splitFrom_ne_nil delimiter width' rest)
  · rintro ⟨rfl, quiet⟩
    exact split_of_quiet quiet

/-- What stands before the first delimiter goes in front of the first piece of the rest. -/
theorem exists_split_append {delimiter : Delimiter α} {front tail : List α}
    (quiet : Quiet delimiter front tail) :
    ∃ piece pieces, split delimiter tail = piece :: pieces ∧
      split delimiter (front ++ tail) = (front ++ piece) :: pieces := by
  induction front with
  | nil =>
      obtain ⟨piece, pieces, cut⟩ := List.exists_cons_of_ne_nil (split_ne_nil delimiter tail)
      exact ⟨piece, pieces, cut, cut⟩
  | cons head front ih =>
      obtain ⟨piece, pieces, cut, joined⟩ := ih quiet.tail
      refine ⟨piece, pieces, cut, ?_⟩
      rw [List.cons_append, split_cons_of_quiet quiet.head, joined]
      rfl

/-- A quiet piece, its delimiter, and whatever follows. -/
theorem split_append {delimiter : Delimiter α} {front separator rest : List α}
    (quiet : Quiet delimiter front (separator ++ rest))
    (nonempty : separator ≠ [])
    (recognized : delimiter (separator ++ rest) = separator.length) :
    split delimiter (front ++ (separator ++ rest)) = front :: split delimiter rest := by
  induction front with
  | nil =>
      obtain ⟨head, others, rfl⟩ := List.exists_cons_of_ne_nil nonempty
      have width : delimiter (head :: (others ++ rest)) = others.length + 1 := by
        simpa using recognized
      simp [split, splitFrom, width, splitFrom_length_append]
  | cons head front ih =>
      rw [List.cons_append, split_cons_of_quiet quiet.head, ih quiet.tail]
      rfl

/-- Reading back pieces that were joined with one separator. -/
theorem split_intercalate {delimiter : Delimiter α} {separator : List α}
    (nonempty : separator ≠ [])
    (recognized : ∀ rest, delimiter (separator ++ rest) = separator.length)
    {pieces : List (List α)} (pieces_ne : pieces ≠ [])
    (quiet : ∀ piece ∈ pieces, Quiet delimiter piece [] ∧
      ∀ rest, Quiet delimiter piece (separator ++ rest)) :
    split delimiter (separator.intercalate pieces) = pieces := by
  induction pieces with
  | nil => exact absurd rfl pieces_ne
  | cons piece pieces ih =>
      have piece_quiet := quiet piece List.mem_cons_self
      cases pieces with
      | nil => simpa using split_of_quiet piece_quiet.1
      | cons next pieces =>
          have later : split delimiter (separator.intercalate (next :: pieces)) =
              next :: pieces :=
            ih (by simp) fun other member => quiet other (List.mem_cons_of_mem piece member)
          rw [List.intercalate_cons_cons, List.append_assoc,
            split_append (piece_quiet.2 _) nonempty (recognized _), later]

/-- The first piece is a prefix of the whole. -/
theorem prefix_of_split_eq {delimiter : Delimiter α} {whole piece : List α}
    {pieces : List (List α)} (cut : split delimiter whole = piece :: pieces) :
    piece <+: whole := by
  induction whole generalizing piece pieces with
  | nil =>
      obtain ⟨rfl, -⟩ : [] = piece ∧ [] = pieces := by simpa using cut
      exact List.prefix_refl _
  | cons head rest ih =>
      cases width : delimiter (head :: rest) with
      | zero =>
          rw [split_cons_of_quiet width] at cut
          obtain ⟨first, others, later⟩ :=
            List.exists_cons_of_ne_nil (split_ne_nil delimiter rest)
          rw [later] at cut
          obtain ⟨rfl, -⟩ : head :: first = piece ∧ others = pieces := by
            simpa [consPiece] using cut
          simpa using ih later
      | succ width' =>
          have first_empty : [] = piece := by
            simp only [split, splitFrom, width] at cut
            exact (List.cons.inj cut).1
          simp [← first_empty]

private theorem quiet_of_mem_splitFrom (delimiter : Delimiter α) (skip : Nat) (whole : List α) :
    ∀ piece ∈ splitFrom delimiter skip whole,
      ∀ k < piece.length, ∃ tail, delimiter (piece.drop k ++ tail) = 0 := by
  fun_induction splitFrom delimiter skip whole with
  | case1 => simp
  | case2 _ _ _ ih => exact ih
  | case3 head rest none_starts ih =>
      intro piece member k inside
      obtain ⟨first, others, later⟩ :=
        List.exists_cons_of_ne_nil (splitFrom_ne_nil delimiter 0 rest)
      rw [later] at member ih
      rcases List.mem_cons.mp member with rfl | member
      · cases k with
        | zero =>
            obtain ⟨tail, rest_eq⟩ := @prefix_of_split_eq _ delimiter rest first others later
            exact ⟨tail, by simpa [rest_eq] using none_starts⟩
        | succ k =>
            exact ih first List.mem_cons_self k (by simpa using inside)
      · exact ih piece (List.mem_cons_of_mem first member) k inside
  | case4 _ _ _ _ ih =>
      intro piece member
      rcases List.mem_cons.mp member with rfl | member
      · simp
      · exact ih piece member

/-- No delimiter is recognized at any position inside a piece. -/
theorem quiet_of_mem_split {delimiter : Delimiter α} {whole piece : List α}
    (member : piece ∈ split delimiter whole) {k : Nat} (inside : k < piece.length) :
    ∃ tail, delimiter (piece.drop k ++ tail) = 0 :=
  quiet_of_mem_splitFrom delimiter 0 whole piece member k inside

private theorem infix_of_mem_splitFrom (delimiter : Delimiter α) (skip : Nat) (whole : List α) :
    ∀ piece ∈ splitFrom delimiter skip whole, piece <:+: whole := by
  fun_induction splitFrom delimiter skip whole with
  | case1 => simp
  | case2 _ head rest ih =>
      intro piece member
      exact (ih piece member).trans (List.suffix_cons head rest).isInfix
  | case3 head rest _ ih =>
      intro piece member
      obtain ⟨first, others, later⟩ :=
        List.exists_cons_of_ne_nil (splitFrom_ne_nil delimiter 0 rest)
      rw [later] at member ih
      rcases List.mem_cons.mp member with rfl | member
      · have starts := @prefix_of_split_eq _ delimiter rest first others later
        exact (List.cons_prefix_cons.mpr ⟨rfl, starts⟩).isInfix
      · exact (ih piece (List.mem_cons_of_mem first member)).trans
          (List.suffix_cons head rest).isInfix
  | case4 head rest _ _ ih =>
      intro piece member
      rcases List.mem_cons.mp member with rfl | member
      · exact List.nil_infix
      · exact (ih piece member).trans (List.suffix_cons head rest).isInfix

/-- A piece is a part of the whole. -/
theorem infix_of_mem_split {delimiter : Delimiter α} {whole piece : List α}
    (member : piece ∈ split delimiter whole) : piece <:+: whole :=
  infix_of_mem_splitFrom delimiter 0 whole piece member

/-- Every element of a piece comes from the whole. -/
theorem mem_of_mem_split {delimiter : Delimiter α} {whole piece : List α} {element : α}
    (member : piece ∈ split delimiter whole) (inside : element ∈ piece) : element ∈ whole :=
  (infix_of_mem_split member).subset inside

theorem length_consPiece (head : α) {pieces : List (List α)} (nonempty : pieces ≠ []) :
    (consPiece head pieces).length = pieces.length := by
  cases pieces with
  | nil => exact absurd rfl nonempty
  | cons piece pieces => rfl

private theorem length_splitFrom_append_le {delimiter : Delimiter α} {front rest : List α}
    (inside : ∀ k < front.length, k + delimiter (front.drop k ++ rest) ≤ front.length)
    {skip : Nat} (within : skip ≤ front.length) :
    (split delimiter rest).length ≤ (splitFrom delimiter skip (front ++ rest)).length := by
  induction front generalizing skip with
  | nil =>
      obtain rfl : skip = 0 := Nat.le_zero.mp within
      exact le_rfl
  | cons head front ih =>
      have later : ∀ k < front.length, k + delimiter (front.drop k ++ rest) ≤ front.length := by
        intro k bound
        have next := inside (k + 1) (by simpa using bound)
        simp only [List.drop_succ_cons, List.length_cons] at next
        omega
      cases skip with
      | succ skip => exact ih later (by simpa using within)
      | zero =>
          have here := inside 0 (by simp)
          rw [List.drop_zero, Nat.zero_add] at here
          rw [List.cons_append, splitFrom]
          cases width : delimiter (head :: (front ++ rest)) with
          | zero =>
              simp only
              rw [length_consPiece head (splitFrom_ne_nil delimiter 0 _)]
              exact ih later (Nat.zero_le _)
          | succ width' =>
              simp only [List.length_cons]
              rw [List.cons_append, width, List.length_cons] at here
              exact (ih later (by omega)).trans (Nat.le_succ _)

/-- Where no delimiter reaches over its end, a front part does not take pieces away. -/
theorem length_split_append_le {delimiter : Delimiter α} {front rest : List α}
    (inside : ∀ k < front.length, k + delimiter (front.drop k ++ rest) ≤ front.length) :
    (split delimiter rest).length ≤ (split delimiter (front ++ rest)).length :=
  length_splitFrom_append_le inside (Nat.zero_le _)

theorem intercalate_consPiece (separator : List α) (head : α) {pieces : List (List α)}
    (nonempty : pieces ≠ []) :
    separator.intercalate (consPiece head pieces) = head :: separator.intercalate pieces := by
  cases pieces with
  | nil => exact absurd rfl nonempty
  | cons piece pieces =>
      cases pieces with
      | nil => simp [consPiece]
      | cons next pieces =>
          rw [consPiece, List.intercalate_cons_cons, List.intercalate_cons_cons]
          rfl

/-- Two symbols that do not follow each other in a list still do not when a list without the first
one is appended. -/
theorem not_infix_pair_append {first second : α} {front tail : List α}
    (absent : ¬[first, second] <:+: front) (none_after : first ∉ tail)
    (tail_head : tail.head? ≠ some second) : ¬[first, second] <:+: front ++ tail := by
  induction front with
  | nil =>
      intro inside
      exact none_after (inside.subset List.mem_cons_self)
  | cons symbol front ih =>
      have later : ¬[first, second] <:+: front := fun inside =>
        absent (inside.trans (List.suffix_cons symbol front).isInfix)
      rw [List.cons_append, List.infix_cons_iff]
      rintro (starts | inside)
      · obtain ⟨rfl, rest⟩ := List.cons_prefix_cons.mp starts
        cases front with
        | nil =>
            cases tail with
            | nil => simp at rest
            | cons next tail =>
                obtain ⟨rfl, -⟩ := List.cons_prefix_cons.mp rest
                exact tail_head rfl
        | cons next front =>
            obtain ⟨rfl, -⟩ := List.cons_prefix_cons.mp rest
            exact absent ⟨[], front, rfl⟩
      · exact ih later inside

/-- A pair of symbols in a join is in the second list if the first symbol is not in the first. -/
theorem infix_pair_of_append {first second : α} {front tail : List α} (absent : first ∉ front)
    (inside : [first, second] <:+: front ++ tail) : [first, second] <:+: tail := by
  induction front with
  | nil => exact inside
  | cons symbol front ih =>
      rw [List.cons_append, List.infix_cons_iff] at inside
      rcases inside with starts | inside
      · exact absurd ((List.cons_prefix_cons.mp starts).1 ▸ List.mem_cons_self) absent
      · exact ih (fun member => absent (List.mem_cons_of_mem symbol member)) inside

section Word

variable [DecidableEq α]

/-- The delimiter consisting of one fixed word. -/
def word (separator : List α) : Delimiter α := fun whole =>
  if separator <+: whole then separator.length else 0

theorem word_append (separator rest : List α) :
    word separator (separator ++ rest) = separator.length := by
  simp [word]

/-- A piece between occurrences of a word does not contain the word. -/
theorem not_infix_of_mem_split_word {separator whole piece : List α} (nonempty : separator ≠ [])
    (member : piece ∈ split (word separator) whole) : ¬separator <:+: piece := by
  rintro ⟨before, after, rfl⟩
  have positive : 0 < separator.length := List.length_pos_of_ne_nil nonempty
  obtain ⟨tail, silent⟩ := quiet_of_mem_split member (k := before.length) (by simp; omega)
  have found : word separator (separator ++ (after ++ tail)) = separator.length :=
    word_append separator (after ++ tail)
  simp only [List.append_assoc, List.drop_left] at silent
  omega

/-- A word in which the separator's first symbol does not occur is quiet before everything. -/
theorem quiet_word_of_head_not_mem {first : α} {others front : List α} (absent : first ∉ front)
    (tail : List α) : Quiet (word (first :: others)) front tail := by
  intro k inside
  obtain ⟨symbol, rest, dropped⟩ :=
    List.exists_cons_of_ne_nil (l := front.drop k) (by simpa using inside)
  have symbol_mem : symbol ∈ front := List.mem_of_mem_drop (dropped ▸ List.mem_cons_self)
  have differs : first ≠ symbol := fun equal => absent (equal ▸ symbol_mem)
  simp [word, dropped, differs]

/-- What comes before the first occurrence of a symbol is the first piece. -/
theorem split_word_singleton {symbol : α} {front : List α} (absent : symbol ∉ front)
    (rest : List α) :
    split (word [symbol]) (front ++ symbol :: rest) = front :: split (word [symbol]) rest :=
  @split_append _ (word [symbol]) front [symbol] rest (quiet_word_of_head_not_mem absent _)
    (by simp) (word_append [symbol] rest)

/-- Nothing stands before a word at the start. -/
theorem split_word_append {separator : List α} (nonempty : separator ≠ []) (rest : List α) :
    split (word separator) (separator ++ rest) = [] :: split (word separator) rest :=
  @split_append _ (word separator) [] separator rest (fun k inside => by simp at inside) nonempty
    (word_append separator rest)

/-- A list without the symbol is one piece. -/
theorem split_word_of_not_mem {symbol : α} {front : List α} (absent : symbol ∉ front) :
    split (word [symbol]) front = [front] :=
  split_of_quiet (quiet_word_of_head_not_mem absent [])

/-- A list that does not contain the word is quiet. -/
theorem quiet_word_of_absent {separator front : List α} (absent : ¬separator <:+: front) :
    Quiet (word separator) front [] := by
  intro k _
  have not_prefix : ¬separator <+: front.drop k := fun starts =>
    absent (starts.isInfix.trans (List.drop_suffix k front).isInfix)
  simp [word, not_prefix]

/-- A list without a pair of symbols is quiet before a list that does not complete the pair. -/
theorem quiet_word_pair {first second : α} {front tail : List α}
    (absent : ¬[first, second] <:+: front) (tail_head : tail.head? ≠ some second) :
    Quiet (word [first, second]) front tail := by
  intro k inside
  have not_prefix : ¬[first, second] <+: front.drop k ++ tail := by
    intro starts
    have within : front.drop k <:+: front := (List.drop_suffix k front).isInfix
    match rest : front.drop k with
    | [] =>
        have short := congrArg List.length rest
        simp only [List.length_drop, List.length_nil] at short
        omega
    | [symbol] =>
        rw [rest] at starts
        cases tail with
        | nil => simp at starts
        | cons next tail =>
            obtain ⟨-, starts⟩ := List.cons_prefix_cons.mp starts
            obtain ⟨rfl, -⟩ := List.cons_prefix_cons.mp starts
            exact tail_head rfl
    | symbol :: next :: others =>
        rw [rest] at starts within
        obtain ⟨rfl, later⟩ := List.cons_prefix_cons.mp starts
        obtain ⟨rfl, -⟩ := List.cons_prefix_cons.mp later
        exact absent (((List.prefix_append [first, second] others).isInfix).trans within)
  simp [word, not_prefix]

/-- A list without the word is quiet before the word's first symbol, if that does not occur in the
word again. -/
theorem quiet_word_of_fresh_head {first : α} {others front : List α} (fresh : first ∉ others)
    (absent : ¬first :: others <:+: front) (tail : List α) :
    Quiet (word (first :: others)) front (first :: tail) := by
  intro k inside
  have not_prefix : ¬first :: others <+: front.drop k ++ first :: tail := by
    intro starts
    have within : front.drop k <:+: front := (List.drop_suffix k front).isInfix
    rcases List.prefix_or_prefix_of_prefix starts (List.prefix_append _ _) with short | long
    · exact absent (short.isInfix.trans within)
    · -- the word goes on behind the list, with its own first symbol
      obtain ⟨more, word_eq⟩ := long
      obtain ⟨symbol, piece, dropped⟩ :=
        List.exists_cons_of_ne_nil (l := front.drop k) (by simpa using inside)
      rw [dropped, List.cons_append] at word_eq
      obtain ⟨rfl, others_eq⟩ := List.cons.inj word_eq
      cases more with
      | nil =>
          refine absent (List.IsInfix.trans ?_ within)
          rw [dropped, ← word_eq, List.append_nil]
      | cons next more =>
          rw [dropped, List.cons_append, ← others_eq, List.cons_prefix_cons,
            List.prefix_append_right_inj, List.cons_prefix_cons] at starts
          apply fresh
          rw [← others_eq, starts.2.1]
          simp
  simp [word, not_prefix]

private theorem intercalate_splitFrom_word (separator : List α) (skip : Nat) (whole : List α) :
    separator.intercalate (splitFrom (word separator) skip whole) = whole.drop skip := by
  fun_induction splitFrom (word separator) skip whole with
  | case1 => simp
  | case2 skip head rest ih => simpa using ih
  | case3 head rest none_starts ih =>
      rw [intercalate_consPiece separator head (splitFrom_ne_nil _ 0 rest), ih]
      rfl
  | case4 head rest width starts ih =>
      have found : separator <+: head :: rest := by
        by_contra absent
        simp [word, absent] at starts
      have length_eq : separator.length = width + 1 := by simpa [word, found] using starts
      obtain ⟨tail, whole_eq⟩ := found
      obtain ⟨piece, pieces, later⟩ :=
        List.exists_cons_of_ne_nil (splitFrom_ne_nil (word separator) width rest)
      rw [later] at ih ⊢
      have tail_eq : rest.drop width = tail := by
        have dropped : (head :: rest).drop separator.length = tail := by
          rw [← whole_eq, List.drop_left]
        simpa [length_eq] using dropped
      rw [List.intercalate_cons_cons, ih, tail_eq, List.nil_append, whole_eq]
      rfl

/-- Joining the pieces with the word gives the whole back. -/
theorem intercalate_split_word (separator whole : List α) :
    separator.intercalate (split (word separator) whole) = whole :=
  intercalate_splitFrom_word separator 0 whole

/-- What comes before the first occurrence of the word, and the word after it. -/
theorem append_word_prefix_of_split {separator whole piece next : List α} {pieces : List (List α)}
    (cut : split (word separator) whole = piece :: next :: pieces) :
    piece ++ separator <+: whole := by
  have joined := intercalate_split_word separator whole
  rw [cut, List.intercalate_cons_cons] at joined
  exact ⟨_, joined⟩

/-- A list that contains the word is cut. -/
theorem exists_split_of_infix {separator whole : List α} (nonempty : separator ≠ [])
    (inside : separator <:+: whole) :
    ∃ piece next pieces, split (word separator) whole = piece :: next :: pieces := by
  cases cut : split (word separator) whole with
  | nil => exact absurd cut (split_ne_nil _ _)
  | cons piece others =>
      cases others with
      | cons next pieces => exact ⟨piece, next, pieces, rfl⟩
      | nil =>
          have whole_eq : piece = whole := (split_eq_singleton_iff.mp cut).1
          have absent := not_infix_of_mem_split_word nonempty (cut ▸ List.mem_cons_self)
          exact absurd (whole_eq ▸ inside) absent

end Word

end Splitting
end Contest
