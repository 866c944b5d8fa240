import Contest.Transport.JitterBuffer
import Mathlib.Data.List.Sort

/-!
# Reordering in the jitter buffer

A sender numbers its packets consecutively modulo `2 ^ 16` and the network delivers every packet
once, with bounded overtaking.  The buffer never reorders: it pumps in the order of arrival, so
the payloads come out in the order of sending exactly when all packets but the last `room` arrived
in that order.
-/

namespace Contest
namespace JitterBuffer

/-- How many packets sent after packet `index` arrive before it. -/
def overtakers (order : List Nat) (index : Nat) : Nat :=
  (order.takeWhile (· ≠ index)).countP (index < ·)

/-- An order of arrival of `count` packets in which at most `room` packets overtake any packet. -/
structure Arrival (room count : Nat) where
  /-- The packets, by their position in the sending order, as they arrive. -/
  order : List Nat
  /-- Every packet arrives exactly once. -/
  perm : order.Perm (List.range count)
  /-- No packet is overtaken by more than `room` packets. -/
  displacement : ∀ index < count, overtakers order index ≤ room

/-- The packets as they arrive, when the sender numbered the first one `first`. -/
def Arrival.packets {room count : Nat} (arrival : Arrival room count) (first : Nat)
    (payload : Nat → Bytes) : List (Int × Bytes) :=
  arrival.order.map fun index => (((first + index) % 2 ^ 16 : Nat), payload index)

/-- The pumped payloads stand in the order in which they were sent. -/
def InSendingOrder (payload : Nat → Bytes) (count : Nat) (pumped : List Bytes) : Prop :=
  pumped.Sublist ((List.range count).map payload)

/-- Feeding the packets of an arrival returns, and pumps the first of them as they came. -/
theorem feedAll_packets {room count : Nat} (arrival : Arrival room count) (first : Nat)
    (payload : Nat → Bytes) :
    ∃ final, (new room).onPump.feedAll (arrival.packets first payload) =
      .ok (final, (arrival.order.take (count - room)).map payload) := by
  obtain ⟨final, fed⟩ := feedAll_new room (arrival.packets first payload)
  have length_eq : (arrival.packets first payload).length = count := by
    simpa [Arrival.packets] using arrival.perm.length_eq
  refine ⟨final, ?_⟩
  have payloads : (arrival.packets first payload).map Prod.snd = arrival.order.map payload := by
    simp [Arrival.packets, Function.comp_def]
  rw [fed, length_eq, List.map_take, payloads, List.map_take]

theorem sublist_range_of_increasing {indices : List Nat} {count : Nat}
    (increasing : indices.Pairwise (· < ·)) (bounded : ∀ index ∈ indices, index < count) :
    indices.Sublist (List.range count) := by
  have distinct : indices.Nodup := increasing.imp Nat.ne_of_lt
  have within : indices ⊆ List.range count := fun index member =>
    List.mem_range.mpr (bounded index member)
  exact List.sublist_of_subperm_of_pairwise (List.subperm_of_subset distinct within) increasing
    List.pairwise_lt_range

/-- A list of positions is increasing once its payloads cannot be told from a subsequence. -/
theorem increasing_of_inSendingOrder {indices : List Nat} {count : Nat}
    (ordered : ∀ payload, InSendingOrder payload count (indices.map payload)) :
    indices.Pairwise (· < ·) := by
  -- payloads of pairwise different lengths identify their packets
  let payload : Nat → Bytes := fun index => List.replicate index 0
  have injective : Function.Injective payload := fun left right equal => by
    simpa [payload] using congrArg List.length equal
  obtain ⟨sent, sent_sublist, sent_eq⟩ := List.sublist_map_iff.mp (ordered payload)
  have same : indices = sent := injective.list_map sent_eq
  exact same ▸ List.pairwise_lt_range.sublist sent_sublist

/-- The payloads come out as they were sent, whatever they are, exactly when all packets but the
last `room` arrived as they were sent. -/
theorem pumps_inSendingOrder_iff {room count : Nat} (arrival : Arrival room count) (first : Nat) :
    (∀ payload, ∃ final pumped,
        (new room).onPump.feedAll (arrival.packets first payload) = .ok (final, pumped) ∧
          InSendingOrder payload count pumped) ↔
      (arrival.order.take (count - room)).Pairwise (· < ·) := by
  constructor
  · intro ordered
    refine @increasing_of_inSendingOrder _ count fun payload => ?_
    obtain ⟨final, pumped, fed, in_order⟩ := ordered payload
    obtain ⟨final', fed'⟩ := feedAll_packets arrival first payload
    obtain ⟨-, rfl⟩ := Prod.mk.inj (Except.ok.inj (fed.symm.trans fed'))
    exact in_order
  · intro increasing payload
    obtain ⟨final, fed⟩ := feedAll_packets arrival first payload
    refine ⟨final, _, fed, List.Sublist.map payload ?_⟩
    apply sublist_range_of_increasing increasing
    intro index member
    exact List.mem_range.mp (arrival.perm.subset (List.mem_of_mem_take member))

/-- Packets 0 and 1 swapped in the network, with room for one packet. -/
def swappedArrival : Arrival 1 3 where
  order := [1, 0, 2]
  perm := by decide
  displacement := by decide

/-- A swap of two neighbours already comes out swapped. -/
theorem swapped_packets_stay_swapped :
    ¬∀ room ≥ 1, ∀ count first (arrival : Arrival room count) payload final pumped,
      (new room).onPump.feedAll (arrival.packets first payload) = .ok (final, pumped) →
        InSendingOrder payload count pumped := by
  intro claimed
  have pumped : (new 1).onPump.feedAll (swappedArrival.packets 0 fun index => [UInt8.ofNat index]) =
      .ok (⟨1, [(2, [2])], true⟩, [[1], [0]]) := by decide
  have in_order := claimed 1 (le_refl 1) 3 0 swappedArrival _ _ _ pumped
  exact absurd in_order (by unfold InSendingOrder; decide)

end JitterBuffer
end Contest
