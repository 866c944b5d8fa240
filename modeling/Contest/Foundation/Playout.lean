import Mathlib.Data.List.Basic

/-!
# Playing out

Items are handed out one after another, one at each request that asks for one, until there are none
left.  Each comes with the number of its request, counted from one.
-/

namespace Contest
namespace Playout

variable {α β : Type*}

/-- The items handed out by requests, when some requests have been made and some items handed out
before. -/
def playout (items : List α) (asks : β → Bool) : Nat → Nat → List β → List (α × Nat × β)
  | _, _, [] => []
  | made, played, request :: later =>
      match if asks request then items[played]? else none with
      | some item => (item, made + 1, request) :: playout items asks (made + 1) (played + 1) later
      | none => playout items asks (made + 1) played later

variable {items : List α} {asks : β → Bool} {made played : Nat} {requests : List β}

theorem playout_append (left right : List β) :
    playout items asks made played (left ++ right) =
      playout items asks made played left ++
        playout items asks (made + left.length)
          (played + (playout items asks made played left).length) right := by
  induction left generalizing made played with
  | nil => rfl
  | cons request left ih =>
      rw [List.cons_append, playout, playout]
      split
      · rw [ih, List.cons_append]
        simp only [List.length_cons, Nat.add_assoc, Nat.add_comm 1]
      · rw [ih]
        simp only [List.length_cons, Nat.add_assoc, Nat.add_comm 1]

/-- The items come in their order, and none is left out or handed out twice. -/
theorem map_fst_playout :
    (playout items asks made played requests).map Prod.fst =
      (items.drop played).take (playout items asks made played requests).length := by
  induction requests generalizing made played with
  | nil => rfl
  | cons request requests ih =>
      rw [playout]
      split
      · rename_i item next
        have found : items[played]? = some item := by
          split at next
          · exact next
          · simp at next
        obtain ⟨inside, same⟩ := List.getElem?_eq_some_iff.mp found
        rw [List.map_cons, ih, List.length_cons, List.drop_eq_getElem_cons inside, same,
          List.take_succ_cons]
      · exact ih

/-- Every request that asks gets an item as long as there is one. -/
theorem length_playout :
    (playout items asks made played requests).length =
      min (requests.countP asks) (items.length - played) := by
  induction requests generalizing made played with
  | nil => simp [playout]
  | cons request requests ih =>
      rw [playout, List.countP_cons]
      cases asks request with
      | false =>
          rw [if_neg Bool.false_ne_true, if_neg Bool.false_ne_true]
          exact ih
      | true =>
          rw [if_pos rfl, if_pos rfl]
          by_cases inside : played < items.length
          · rw [List.getElem?_eq_getElem inside]
            dsimp only
            rw [List.length_cons, ih]
            omega
          · rw [List.getElem?_eq_none (Nat.le_of_not_lt inside)]
            dsimp only
            rw [ih]
            omega

/-- What is handed out at a last request. -/
theorem playout_concat (request : β) :
    playout items asks 0 0 (requests ++ [request]) = playout items asks 0 0 requests ++
      ((if asks request then items[requests.countP asks]? else none).map fun item =>
        (item, requests.length + 1, request)).toList := by
  have next : items[(playout items asks 0 0 requests).length]? = items[requests.countP asks]? := by
    rw [length_playout, Nat.sub_zero]
    by_cases inside : requests.countP asks ≤ items.length
    · rw [Nat.min_eq_left inside]
    · have beyond : items.length ≤ requests.countP asks := Nat.le_of_not_le inside
      rw [Nat.min_eq_right beyond, List.getElem?_eq_none (Nat.le_refl _),
        List.getElem?_eq_none beyond]
  rw [playout_append, Nat.zero_add, Nat.zero_add, playout, next]
  cases (if asks request then items[requests.countP asks]? else none) <;> rfl

/-- An item is handed out at a request that asks, and comes with the number of this request. -/
theorem mem_playout {entry : α × Nat × β}
    (member : entry ∈ playout items asks made played requests) :
    made < entry.2.1 ∧ requests[entry.2.1 - (made + 1)]? = some entry.2.2 ∧
      asks entry.2.2 = true := by
  induction requests generalizing made played with
  | nil => simp [playout] at member
  | cons request requests ih =>
      have later : ∀ {n}, entry ∈ playout items asks (made + 1) n requests →
          made < entry.2.1 ∧ (request :: requests)[entry.2.1 - (made + 1)]? = some entry.2.2 ∧
            asks entry.2.2 = true := by
        intro n inside
        obtain ⟨lower, found, asked⟩ := ih inside
        have behind : entry.2.1 - (made + 1) = entry.2.1 - (made + 1 + 1) + 1 := by omega
        exact ⟨by omega, by rw [behind, List.getElem?_cons_succ, found], asked⟩
      rw [playout] at member
      split at member
      · rename_i item next
        rcases List.mem_cons.mp member with rfl | inside
        · refine ⟨Nat.lt_succ_self made, by rw [Nat.sub_self]; rfl, ?_⟩
          by_contra silent
          rw [if_neg silent] at next
          simp at next
        · exact later inside
      · exact later member

/-- The numbers of the requests. -/
def numbers (handed : List (α × Nat × β)) : List Nat := handed.map fun entry => entry.2.1

/-- No request is counted twice. -/
theorem pairwise_numbers : (numbers (playout items asks made played requests)).Pairwise (· < ·) := by
  induction requests generalizing made played with
  | nil => exact List.Pairwise.nil
  | cons request requests ih =>
      rw [playout]
      split
      · refine List.Pairwise.cons ?_ ih
        intro number later
        obtain ⟨entry, member, rfl⟩ := List.mem_map.mp later
        exact (mem_playout member).1
      · exact ih

/-- As long as every request asks, the numbers are consecutive. -/
theorem numbers_of_all (all : ∀ request ∈ requests, asks request = true) :
    numbers (playout items asks made played requests) =
      List.range' (made + 1) (playout items asks made played requests).length := by
  induction requests generalizing made played with
  | nil => rfl
  | cons request requests ih =>
      obtain ⟨first, others⟩ := List.forall_mem_cons.mp all
      rw [playout, if_pos first]
      cases found : items[played]? with
      | some item =>
          simp only [numbers, List.map_cons, List.length_cons, List.range'_succ]
          exact congrArg _ (ih others)
      | none =>
          -- nothing is left for the later requests either
          have spent : ∀ n, playout items asks n played requests = [] := by
            intro n
            clear ih all
            induction requests generalizing n with
            | nil => rfl
            | cons next requests rest =>
                rw [playout, found, ite_self]
                exact rest (List.forall_mem_cons.mp others).2 (n + 1)
          simp only [spent]
          rfl

/-- The numbers are consecutive, if every request asks from the first one that does. -/
theorem exists_numbers_eq (lasting : requests.Pairwise fun early late =>
      asks early = true → asks late = true) :
    ∃ first, numbers (playout items asks made played requests) =
      List.range' first (playout items asks made played requests).length := by
  induction requests generalizing made played with
  | nil => exact ⟨0, rfl⟩
  | cons request requests ih =>
      obtain ⟨here, later⟩ := List.pairwise_cons.mp lasting
      cases asked : asks request with
      | true =>
          exact ⟨made + 1, numbers_of_all (List.forall_mem_cons.mpr
            ⟨asked, fun other member => here other member asked⟩)⟩
      | false =>
          have waits : playout items asks made played (request :: requests) =
              playout items asks (made + 1) played requests := by
            rw [playout, asked]
            rfl
          rw [waits]
          exact ih later

end Playout
end Contest
