import Mathlib.Data.List.Nodup
import Mathlib.Order.Lattice

/-!
# Replay windows

A receiver takes every number at most once.  Numbers that lie `width` or more behind the highest
one are refused unseen, and whether one of the others has been taken is kept in a word of `width`
bits, the lowest of which stands for the highest number.  A word that has a bit for everything that
has been taken is safe; if it has no other bit, nothing fresh is refused.
-/

namespace Contest
namespace ReplayWindow

/-- What has been taken so far. -/
structure Filter where
  /-- No number above it has been taken. -/
  head : Int
  /-- The numbers that have been taken, the last one first. -/
  taken : List Int
  /-- The head is not passed. -/
  bounded : ∀ number ∈ taken, number ≤ head
  /-- Each number is taken once. -/
  nodup : taken.Nodup

namespace Filter

/-- Nothing has been taken. -/
def new (head : Int) : Filter := ⟨head, [], by simp, List.nodup_nil⟩

/-- Whether a number is taken by a window of a given width. -/
def Fresh (width : Nat) (filter : Filter) (number : Int) : Prop :=
  filter.head < number ∨ filter.head - width < number ∧ number ∉ filter.taken

instance (width : Nat) (filter : Filter) (number : Int) : Decidable (filter.Fresh width number) :=
  inferInstanceAs (Decidable (_ ∨ _))

variable {width : Nat} {filter : Filter} {number : Int}

theorem Fresh.not_mem (fresh : filter.Fresh width number) : number ∉ filter.taken := by
  intro member
  have below := filter.bounded number member
  rcases fresh with above | ⟨-, absent⟩
  · omega
  · exact absent member

/-- Take a number. -/
def take (filter : Filter) (number : Int) (absent : number ∉ filter.taken) : Filter where
  head := max filter.head number
  taken := number :: filter.taken
  bounded := by
    intro other member
    rcases List.mem_cons.mp member with rfl | old
    · exact le_max_right _ _
    · exact (filter.bounded other old).trans (le_max_left _ _)
  nodup := List.nodup_cons.mpr ⟨absent, filter.nodup⟩

theorem head_take_of_lt (later : filter.head < number) (absent : number ∉ filter.taken) :
    (filter.take number absent).head = number := max_eq_right later.le

theorem head_take_of_le (late : number ≤ filter.head) (absent : number ∉ filter.taken) :
    (filter.take number absent).head = filter.head := max_eq_left late

/-- A number is offered. -/
def offer (width : Nat) (filter : Filter) (number : Int) : Filter :=
  if fresh : filter.Fresh width number then filter.take number fresh.not_mem else filter

theorem offer_of_fresh (fresh : filter.Fresh width number) :
    filter.offer width number = filter.take number fresh.not_mem := dif_pos fresh

theorem offer_of_not_fresh (stale : ¬filter.Fresh width number) :
    filter.offer width number = filter := dif_neg stale

end Filter

variable {width : Nat} {bits shifted mask : BitVec width} {filter : Filter}

/-- There is a bit for every number of the window that has been taken. -/
def Covers (bits : BitVec width) (filter : Filter) : Prop :=
  ∀ i < width, filter.head - i ∈ filter.taken → bits.getLsbD i = true

/-- There is no bit for any other number. -/
def Reports (bits : BitVec width) (filter : Filter) : Prop :=
  ∀ i < width, bits.getLsbD i = true → filter.head - i ∈ filter.taken

theorem covers_new (bits : BitVec width) (head : Int) : Covers bits (.new head) := by
  intro i _ member
  simp [Filter.new] at member

theorem reports_new (head : Int) : Reports (0 : BitVec width) (.new head) := by
  intro i _ set
  simp at set

/-- The head moves up, and the bits that stay in the window are moved along. -/
theorem Covers.advance {distance : Nat} (covers : Covers bits filter) (positive : 0 < distance)
    (moved : ∀ i < width, distance ≤ i → bits.getLsbD (i - distance) = true →
      shifted.getLsbD i = true)
    (absent : filter.head + distance ∉ filter.taken) :
    Covers (shifted ||| BitVec.ofNat width 1) (filter.take (filter.head + distance) absent) := by
  intro i inside member
  have head : max filter.head (filter.head + distance) = filter.head + distance := by omega
  simp only [Filter.take, head, List.mem_cons] at member
  rw [BitVec.getLsbD_or, BitVec.getLsbD_one, Bool.or_eq_true]
  rcases member with top | old
  · right
    have zero : i = 0 := by omega
    simp only [zero, decide_true, Bool.and_true, decide_eq_true_eq]
    omega
  · left
    have below := filter.bounded _ old
    have number : filter.head + distance - i = filter.head - ((i - distance : Nat) : Int) := by
      omega
    exact moved i inside (by omega) (covers _ (by omega) (number ▸ old))

theorem Reports.advance {distance : Nat} (reports : Reports bits filter) (positive : 0 < distance)
    (moved : ∀ i < width, shifted.getLsbD i = true →
      distance ≤ i ∧ bits.getLsbD (i - distance) = true)
    (absent : filter.head + distance ∉ filter.taken) :
    Reports (shifted ||| BitVec.ofNat width 1) (filter.take (filter.head + distance) absent) := by
  intro i inside set
  have head : max filter.head (filter.head + distance) = filter.head + distance := by omega
  simp only [Filter.take, head, List.mem_cons]
  rw [BitVec.getLsbD_or, BitVec.getLsbD_one, Bool.or_eq_true, Bool.and_eq_true,
    decide_eq_true_iff, decide_eq_true_iff] at set
  rcases set with kept | ⟨-, rfl⟩
  · right
    obtain ⟨behind, old⟩ := moved i inside kept
    have number : filter.head + distance - i = filter.head - ((i - distance : Nat) : Int) := by
      omega
    rw [number]
    exact reports _ (by omega) old
  · left
    omega

/-- A number of the window is taken and marked. -/
theorem Covers.mark {distance : Nat} (covers : Covers bits filter)
    (marked : distance < width → mask.getLsbD distance = true)
    (absent : filter.head - distance ∉ filter.taken) :
    Covers (bits ||| mask) (filter.take (filter.head - distance) absent) := by
  intro i inside member
  have head : max filter.head (filter.head - distance) = filter.head := by omega
  simp only [Filter.take, head, List.mem_cons] at member
  rw [BitVec.getLsbD_or, Bool.or_eq_true]
  rcases member with new | old
  · right
    obtain rfl : i = distance := by omega
    exact marked inside
  · exact .inl (covers i inside old)

theorem Reports.mark {distance : Nat} (reports : Reports bits filter)
    (marked : ∀ i < width, mask.getLsbD i = true → i = distance)
    (absent : filter.head - distance ∉ filter.taken) :
    Reports (bits ||| mask) (filter.take (filter.head - distance) absent) := by
  intro i inside set
  have head : max filter.head (filter.head - distance) = filter.head := by omega
  simp only [Filter.take, head, List.mem_cons]
  rw [BitVec.getLsbD_or, Bool.or_eq_true] at set
  rcases set with old | new
  · exact .inr (reports i inside old)
  · rw [marked i inside new]
    exact .inl rfl

/-- With a safe word, a clear bit is that of a fresh number. -/
theorem Covers.fresh_of_clear {distance : Nat} (covers : Covers bits filter)
    (inside : distance < width) (clear : bits.getLsbD distance = false) :
    filter.Fresh width (filter.head - distance) := by
  refine .inr ⟨by omega, fun member => ?_⟩
  rw [covers distance inside member] at clear
  exact absurd clear (by decide)

/-- With an exact word, a set bit is that of a number that is not fresh. -/
theorem Reports.not_fresh_of_set {distance : Nat} (reports : Reports bits filter)
    (inside : distance < width) (set : bits.getLsbD distance = true) :
    ¬filter.Fresh width (filter.head - distance) := by
  rintro (above | ⟨-, absent⟩)
  · omega
  · exact absent (reports distance inside set)

end ReplayWindow
end Contest
