import Mathlib.Data.List.Basic

/-!
# Exclusive holders of keys

A family of holders, each of which holds at most one key.  `Exclusive` says that no key has two
holders; `Ledger` adds that every held key stands in the list of keys in use.  The rules cover the
ways in which a step can change who holds what: a fresh key is taken, a key changes hands, keys are
given up, and a key is struck off the list by its value.
-/

namespace Contest
namespace Allocation

variable {ι κ : Type*} {held next : ι → Option κ}

/-- No key has two holders. -/
def Exclusive (held : ι → Option κ) : Prop :=
  ∀ ⦃left right key⦄, held left = some key → held right = some key → left = right

/-- Everything held afterwards was held before by the same holder. -/
def Shrinks (held next : ι → Option κ) : Prop :=
  ∀ holder key, next holder = some key → held holder = some key

theorem Exclusive.shrink (exclusive : Exclusive held) (shrinks : Shrinks held next) :
    Exclusive next := by
  intro left right key left_holds right_holds
  exact exclusive (shrinks left key left_holds) (shrinks right key right_holds)

/-- A holder takes a key that nobody holds. -/
theorem Exclusive.take (exclusive : Exclusive held) (taker : ι)
    (free : ∀ key holder, next taker = some key → held holder ≠ some key)
    (others : ∀ holder, holder ≠ taker → ∀ key, next holder = some key → held holder = some key) :
    Exclusive next := by
  intro left right key left_holds right_holds
  by_cases left_takes : left = taker
  · subst left_takes
    by_contra differ
    exact free key right left_holds (others right (Ne.symm differ) key right_holds)
  · have left_held := others left left_takes key left_holds
    by_cases right_takes : right = taker
    · subst right_takes
      exact absurd left_held (free key left right_holds)
    · exact exclusive left_held (others right right_takes key right_holds)

/-- A holder hands its key to another. -/
theorem Exclusive.transfer (exclusive : Exclusive held) (giver taker : ι)
    (given : next giver = none) (moved : ∀ key, next taker = some key → held giver = some key)
    (others : ∀ holder, holder ≠ taker → ∀ key, next holder = some key → held holder = some key) :
    Exclusive next := by
  have stays : ∀ holder key, holder ≠ taker → next holder = some key → next taker ≠ some key := by
    intro holder key differ holds taken
    obtain rfl := exclusive (others holder differ key holds) (moved key taken)
    simp [given] at holds
  intro left right key left_holds right_holds
  by_cases left_takes : left = taker
  · subst left_takes
    by_contra differ
    exact stays right key (Ne.symm differ) right_holds left_holds
  · by_cases right_takes : right = taker
    · subst right_takes
      exact absurd right_holds (stays left key left_takes left_holds)
    · exact exclusive (others left left_takes key left_holds)
        (others right right_takes key right_holds)

/-- No key has two holders, and every held key is in use. -/
structure Ledger (held : ι → Option κ) (used : List κ) : Prop where
  /-- No key has two holders. -/
  exclusive : Exclusive held
  /-- Every held key is in use. -/
  listed : ∀ holder key, held holder = some key → key ∈ used

namespace Ledger

variable {used : List κ}

theorem empty : Ledger (fun _ : ι => none) ([] : List κ) where
  exclusive := by
    intro left right key left_holds
    simp at left_holds
  listed := by simp

theorem shrink (ledger : Ledger held used) (shrinks : Shrinks held next) : Ledger next used where
  exclusive := ledger.exclusive.shrink shrinks
  listed := fun holder key holds => ledger.listed holder key (shrinks holder key holds)

/-- A key is put on the list, and nobody takes it. -/
theorem lose (ledger : Ledger held used) (shrinks : Shrinks held next) (key : κ) :
    Ledger next (used ++ [key]) where
  exclusive := ledger.exclusive.shrink shrinks
  listed := fun holder other holds =>
    List.mem_append_left _ (ledger.listed holder other (shrinks holder other holds))

/-- A key that is not on the list is put there and taken by a holder. -/
theorem take (ledger : Ledger held used) (taker : ι) {key : κ} (fresh : key ∉ used)
    (taken : next taker = some key)
    (others : ∀ holder, holder ≠ taker → ∀ other, next holder = some other →
      held holder = some other) :
    Ledger next (used ++ [key]) where
  exclusive := by
    refine ledger.exclusive.take taker ?_ others
    intro other holder holds held_other
    obtain rfl : key = other := by simpa [taken] using holds
    exact fresh (ledger.listed holder key held_other)
  listed := by
    intro holder other holds
    by_cases takes : holder = taker
    · subst takes
      obtain rfl : key = other := by simpa [taken] using holds
      simp
    · exact List.mem_append_left _ (ledger.listed holder other (others holder takes other holds))

theorem transfer (ledger : Ledger held used) (giver taker : ι) (given : next giver = none)
    (moved : ∀ key, next taker = some key → held giver = some key)
    (others : ∀ holder, holder ≠ taker → ∀ key, next holder = some key → held holder = some key) :
    Ledger next used where
  exclusive := ledger.exclusive.transfer giver taker given moved others
  listed := by
    intro holder key holds
    by_cases takes : holder = taker
    · subst takes
      exact ledger.listed giver key (moved key holds)
    · exact ledger.listed holder key (others holder takes key holds)

/-- A key that nobody holds afterwards is struck off the list. -/
theorem strike [DecidableEq κ] (ledger : Ledger held used) (shrinks : Shrinks held next) {key : κ}
    (unheld : ∀ holder, next holder ≠ some key) : Ledger next (used.filter (· ≠ key)) where
  exclusive := ledger.exclusive.shrink shrinks
  listed := by
    intro holder other holds
    have differ : other ≠ key := fun equal => unheld holder (equal ▸ holds)
    simpa [differ] using ledger.listed holder other (shrinks holder other holds)

end Ledger
end Allocation
end Contest
