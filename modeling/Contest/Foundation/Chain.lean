import Mathlib.Data.List.Basic

/-!
# Chains of encodings

A list made of the encodings of some items, one after another, where each item may have several
encodings.
-/

namespace Contest

variable {α ι : Type*}

/-- The list is made of one encoding of each item, in order. -/
inductive Chain (encodes : ι → List α → Prop) : List ι → List α → Prop
  | nil : Chain encodes [] []
  | cons {item : ι} {items : List ι} {front rest : List α} (first : encodes item front)
      (others : Chain encodes items rest) : Chain encodes (item :: items) (front ++ rest)

namespace Chain

variable {encodes : ι → List α → Prop}

theorem single {item : ι} {front : List α} (encoded : encodes item front) :
    Chain encodes [item] front := by
  simpa using Chain.cons encoded .nil

theorem append {left right : List ι} {front rest : List α} (first : Chain encodes left front)
    (others : Chain encodes right rest) : Chain encodes (left ++ right) (front ++ rest) := by
  induction first with
  | nil => exact others
  | cons encoded _ ih =>
      rw [List.cons_append, List.append_assoc]
      exact .cons encoded ih

/-- Items with encodings that are not empty: there are none exactly when there is nothing. -/
theorem eq_nil_iff (nonempty : ∀ item front, encodes item front → front ≠ [])
    {items : List ι} {whole : List α} (chain : Chain encodes items whole) :
    items = [] ↔ whole = [] := by
  cases chain with
  | nil => exact ⟨fun _ => rfl, fun _ => rfl⟩
  | cons encoded others =>
      refine ⟨fun absurd => by simp at absurd, fun empty => ?_⟩
      exact absurd (List.append_eq_nil_iff.mp empty).1 (nonempty _ _ encoded)

end Chain
end Contest
