import Contest.Graph.Call

/-!
# The collection of calls

`Graph::Collection` holds references to calls, in the order in which they were added.  Together
with the list of RTP ports in use it is the state that outlives the handling of a message.
-/

namespace Contest
namespace Graph

/-- The calls created so far, `@@calls`, and `@@used_rtp_ports`. -/
structure Tracker where
  /-- Every call created, in the order of creation; references are indices into this list. -/
  objects : List Call
  /-- `@@calls`. -/
  calls : List Nat
  /-- `@@used_rtp_ports`. -/
  usedRtpPorts : List RtpPort

namespace Tracker

/-- The state at the start of the program. -/
def empty : Tracker := ⟨[], [], []⟩

/-- `Collection.add` of a call just created. -/
def add (tracker : Tracker) (call : Call) : Tracker :=
  { tracker with
    objects := tracker.objects ++ [call]
    calls := tracker.calls ++ [tracker.objects.length] }

/-- Give a call new contents. -/
def put (tracker : Tracker) (k : Nat) (call : Call) : Tracker :=
  { tracker with objects := tracker.objects.set k call }

/-- `Collection.find_by_call_id`, with the reference. -/
def findByCallId (tracker : Tracker) (callId : Text) : Option (Nat × Call) :=
  tracker.calls.findSome? fun k =>
    (tracker.objects[k]?.filter fun call => call.callId = callId).map fun call => (k, call)

/-- `Collection.find_by_username`, for a string that is compared by its bytes. -/
def findByUsername (tracker : Tracker) (username : Bytes) : Option Call :=
  tracker.calls.findSome? fun k =>
    tracker.objects[k]?.filter fun call => utf8 call.formedUsername = username

/-- `Call#destroy`: remove the call, and finalize its handler. -/
def destroy (tracker : Tracker) (k : Nat) (call : Call) : Tracker where
  objects := tracker.objects.set k call.finalize
  calls := tracker.calls.filter (· ≠ k)
  usedRtpPorts := tracker.usedRtpPorts.filter (· ≠ call.transport.rtpPort)

theorem findByCallId_eq_some {tracker : Tracker} {callId : Text} {k : Nat} {call : Call}
    (found : tracker.findByCallId callId = some (k, call)) :
    k ∈ tracker.calls ∧ tracker.objects[k]? = some call ∧ call.callId = callId := by
  obtain ⟨other, member, hit⟩ := List.exists_of_findSome?_eq_some found
  obtain ⟨object, kept, equal⟩ := Option.map_eq_some_iff.mp hit
  obtain ⟨rfl, rfl⟩ := Prod.mk.inj equal
  obtain ⟨object_eq, same⟩ := Option.filter_eq_some_iff.mp kept
  exact ⟨member, object_eq, of_decide_eq_true same⟩

theorem findByCallId_eq_none {tracker : Tracker} {callId : Text} :
    tracker.findByCallId callId = none ↔
      ∀ k ∈ tracker.calls, ∀ call, tracker.objects[k]? = some call → call.callId ≠ callId := by
  simp [findByCallId, List.findSome?_eq_none_iff]

theorem isSome_findByUsername {tracker : Tracker} {username : Bytes} :
    (tracker.findByUsername username).isSome = true ↔
      ∃ k ∈ tracker.calls, ∃ call, tracker.objects[k]? = some call ∧
        utf8 call.formedUsername = username := by
  simp [findByUsername, List.findSome?_isSome_iff, Option.isSome_filter, Option.any_eq_true]

theorem getElem?_add (tracker : Tracker) (call : Call) (k : Nat) :
    (tracker.add call).objects[k]? =
      if k = tracker.objects.length then some call else tracker.objects[k]? := by
  rw [add, List.getElem?_append]
  split
  · rename_i inside
    rw [if_neg (by omega)]
  · rename_i outside
    by_cases last : k = tracker.objects.length
    · simp [last]
    · rw [if_neg last, List.getElem?_eq_none (by simp; omega), List.getElem?_eq_none (by omega)]

theorem getElem?_put {tracker : Tracker} {k : Nat} {old : Call}
    (found : tracker.objects[k]? = some old) (call : Call) (j : Nat) :
    (tracker.put k call).objects[j]? = if j = k then some call else tracker.objects[j]? := by
  obtain ⟨inside, -⟩ := List.getElem?_eq_some_iff.mp found
  rw [put, List.getElem?_set]
  by_cases same : k = j
  · subst same
    simp [inside]
  · rw [if_neg same, if_neg (Ne.symm same)]

theorem getElem?_destroy {tracker : Tracker} {k : Nat} {old : Call}
    (found : tracker.objects[k]? = some old) (call : Call) (j : Nat) :
    (tracker.destroy k call).objects[j]? =
      if j = k then some call.finalize else tracker.objects[j]? :=
  getElem?_put found call.finalize j

/-- The references are to different calls, which exist and have not been finalized. -/
structure Sound (tracker : Tracker) : Prop where
  /-- No reference is in the collection twice. -/
  nodup : tracker.calls.Nodup
  /-- References are to calls that exist. -/
  tracked_lt : ∀ k ∈ tracker.calls, k < tracker.objects.length
  /-- A tracked call has not been finalized. -/
  tracked_live : ∀ k ∈ tracker.calls, ∀ call, tracker.objects[k]? = some call →
    call.transport.teardown = false

theorem sound_empty : empty.Sound where
  nodup := List.nodup_nil
  tracked_lt := by simp [empty]
  tracked_live := by simp [empty]

/-- Only the calls and the references matter. -/
theorem Sound.congr {left right : Tracker} (sound : left.Sound)
    (objects : right.objects = left.objects) (calls : right.calls = left.calls) : right.Sound where
  nodup := calls ▸ sound.nodup
  tracked_lt := by
    rw [objects, calls]
    exact sound.tracked_lt
  tracked_live := by
    rw [objects, calls]
    exact sound.tracked_live

theorem Sound.add {tracker : Tracker} (sound : tracker.Sound) {call : Call}
    (live : call.transport.teardown = false) : (tracker.add call).Sound := by
  have mem_calls : ∀ k, k ∈ (tracker.add call).calls ↔
      k ∈ tracker.calls ∨ k = tracker.objects.length := by
    intro k
    simp [Tracker.add]
  constructor
  · refine List.nodup_append.mpr ⟨sound.nodup, by simp, ?_⟩
    intro k member j last
    have inside := sound.tracked_lt k member
    rw [List.mem_singleton.mp last]
    omega
  · intro k member
    rw [Tracker.add, List.length_append, List.length_singleton]
    rcases (mem_calls k).mp member with member | rfl
    · exact Nat.lt_succ_of_lt (sound.tracked_lt k member)
    · exact Nat.lt_succ_self _
  · intro k member other found
    rw [getElem?_add] at found
    split at found
    · obtain rfl : call = other := by simpa using found
      exact live
    · rename_i differ
      exact sound.tracked_live k (((mem_calls k).mp member).resolve_right differ) other found

theorem Sound.put {tracker : Tracker} (sound : tracker.Sound) {k : Nat} {old new : Call}
    (found : tracker.objects[k]? = some old)
    (same : new.transport.teardown = old.transport.teardown) : (tracker.put k new).Sound := by
  constructor
  · exact sound.nodup
  · intro j member
    rw [Tracker.put, List.length_set]
    exact sound.tracked_lt j member
  · intro j member other found_after
    rw [getElem?_put found] at found_after
    split at found_after
    · rename_i equal
      obtain rfl : new = other := by simpa using found_after
      rw [same]
      exact sound.tracked_live j member old (equal ▸ found)
    · exact sound.tracked_live j member other found_after

theorem Sound.destroy {tracker : Tracker} (sound : tracker.Sound) {k : Nat} {old : Call}
    (found : tracker.objects[k]? = some old) (new : Call) : (tracker.destroy k new).Sound := by
  constructor
  · exact sound.nodup.filter _
  · intro j member
    rw [Tracker.destroy, List.length_set]
    exact sound.tracked_lt j (List.mem_filter.mp member).1
  · intro j member other found_after
    obtain ⟨tracked, differ⟩ := List.mem_filter.mp member
    rw [getElem?_destroy found, if_neg (of_decide_eq_true differ)] at found_after
    exact sound.tracked_live j tracked other found_after

end Tracker
end Graph
end Contest
