import Contest.Foundation.Allocation
import Contest.Reachable

/-!
# One call per Call-ID

Over UDP the Call-ID of an INVITE is looked up before the request for speech and the call is
tracked after it; over a WebSocket it is not looked up at all.  Call-IDs stay distinct in every run
in which no call is tracked when a set-up for its Call-ID gets its speech, and a BYE then removes
the only call with its Call-ID, provided that this call has been answered.
-/

namespace Contest

open Contest.Graph Allocation

namespace Server

/-- The Call-ID under which a call is tracked. -/
def trackedId (tracker : Tracker) (k : Nat) : Option Text :=
  if k ∈ tracker.calls then tracker.objects[k]?.map (·.callId) else none

/-- The Call-ID in the headers of a message is not that of a tracked call. -/
def idFree (tracker : Tracker) (msg : Sip.Msg) : Bool :=
  match msg.sipHeader.callId with
  | .ok callId => (tracker.findByCallId callId).isNone
  | .error _ => true

/-- A BYE that names a tracked call names one that has been answered. -/
def byeAnswered (tracker : Tracker) (msg : Sip.Msg) : Bool :=
  match msg.sipHeader.callId with
  | .ok callId => (tracker.findByCallId callId).all fun found => found.2.responder.isSome
  | .error _ => true

/-- A set-up that goes on to track its call finds none with its Call-ID tracked, and a BYE meets an
answered call. -/
def keepsIdentity (server : Server) : Event → Bool
  | .speech slot speech =>
      server.setUps[slot]?.join.all fun pending =>
        !(pending.startTrackSipConv speech).isOk || idFree server.toTracker pending.msg
  | .sipDatagram data _ _ _ =>
      match Sip.Msg.new data with
      | .ok msg =>
          msg.sipHeader.command ≠ .ok "BYE".toList || !msg.sipHeader.cseq.isOk ||
            byeAnswered server.toTracker msg
      | .error _ => true
  | _ => true

/-- Tracked calls have Call-IDs of their own. -/
def IdsDistinct (server : Server) : Prop :=
  server.calls.Nodup ∧ ∀ j ∈ server.calls, ∀ k ∈ server.calls, ∀ left right,
    server.objects[j]? = some left → server.objects[k]? = some right → j ≠ k →
      left.callId ≠ right.callId

/-- The event is a BYE for the given Call-ID, with a CSeq. -/
def IsBye (callId : Text) : Event → Prop
  | .sipDatagram data _ _ _ =>
      ∃ msg cseq, Sip.Msg.new data = .ok msg ∧ msg.sipHeader.command = .ok "BYE".toList ∧
        msg.sipHeader.callId = .ok callId ∧ msg.sipHeader.cseq = .ok cseq
  | _ => False

/-- No call with the given Call-ID is tracked. -/
def Untracked (server : Server) (callId : Text) : Prop :=
  ∀ k ∈ server.calls, ∀ call, server.objects[k]? = some call → call.callId ≠ callId

variable {conf : Conf} {before after : Server} {event : Event}

theorem trackedId_eq_some {tracker : Tracker} {k : Nat} {callId : Text} :
    trackedId tracker k = some callId ↔
      k ∈ tracker.calls ∧ ∃ call, tracker.objects[k]? = some call ∧ call.callId = callId := by
  by_cases tracked : k ∈ tracker.calls
  · rw [trackedId, if_pos tracked, Option.map_eq_some_iff]
    simp [tracked]
  · rw [trackedId, if_neg tracked]
    simp [tracked]

theorem idsDistinct_of_exclusive {server : Server} (nodup : server.calls.Nodup)
    (exclusive : Exclusive (trackedId server.toTracker)) : IdsDistinct server := by
  refine ⟨nodup, ?_⟩
  intro j tracked_left k tracked_right left right found_left found_right differ same
  exact differ (exclusive (trackedId_eq_some.mpr ⟨tracked_left, left, found_left, same⟩)
    (trackedId_eq_some.mpr ⟨tracked_right, right, found_right, rfl⟩))

theorem ne_of_idFree {tracker : Tracker} {msg : Sip.Msg} {callId : Text}
    (free : idFree tracker msg = true) (known : msg.sipHeader.callId = .ok callId) (k : Nat) :
    trackedId tracker k ≠ some callId := by
  intro tracked
  obtain ⟨member, call, found, same⟩ := trackedId_eq_some.mp tracked
  rw [idFree, known] at free
  have unknown := Option.isNone_iff_eq_none.mp free
  exact Tracker.findByCallId_eq_none.mp unknown k member call found same

theorem exclusive_step (exclusive : Exclusive (trackedId before.toTracker))
    (keeps : before.keepsIdentity event = true)
    (possible : step conf before event = some after) :
    Exclusive (trackedId after.toTracker) := by
  cases (step_cases possible).calls with
  | same objects calls =>
      refine exclusive.shrink ?_
      intro k callId tracked
      rwa [trackedId, objects, calls, ← trackedId] at tracked
  | @created slot _ pending call spoke waits started made tracker =>
      rw [tracker]
      refine exclusive.take before.objects.length ?_ ?_
      · intro callId k tracked
        obtain ⟨-, other, found, rfl⟩ := trackedId_eq_some.mp tracked
        rw [Tracker.getElem?_add, if_pos rfl] at found
        obtain rfl : call = other := by simpa using found
        have free : idFree before.toTracker pending.msg = true := by
          simpa [spoke, keepsIdentity, waits, started] using keeps
        exact ne_of_idFree free made.callId k
      · intro k differ callId tracked
        obtain ⟨member, other, found, same⟩ := trackedId_eq_some.mp tracked
        rw [Tracker.getElem?_add, if_neg differ] at found
        have member_before : k ∈ before.calls := by simpa [Tracker.add, differ] using member
        exact trackedId_eq_some.mpr ⟨member_before, other, found, same⟩
  | @ran k old new found turn tracker =>
      rw [tracker]
      refine exclusive.shrink ?_
      intro j callId tracked
      obtain ⟨member, other, found_after, same⟩ := trackedId_eq_some.mp tracked
      rw [Tracker.getElem?_put found] at found_after
      split at found_after
      · rename_i equal
        subst equal
        obtain rfl : new = other := by simpa using found_after
        exact trackedId_eq_some.mpr ⟨member, old, found, turn.kept.callId ▸ same⟩
      · exact trackedId_eq_some.mpr ⟨member, other, found_after, same⟩
  | @ended k old new found ending tracker =>
      rw [tracker]
      refine exclusive.shrink ?_
      intro j callId tracked
      obtain ⟨member, other, found_after, same⟩ := trackedId_eq_some.mp tracked
      obtain ⟨tracked_before, differ⟩ := List.mem_filter.mp member
      rw [Tracker.getElem?_destroy found, if_neg (of_decide_eq_true differ)] at found_after
      exact trackedId_eq_some.mpr ⟨tracked_before, other, found_after, same⟩

/-- A BYE for an answered call removes the only call with its Call-ID. -/
theorem untracked_of_bye {callId : Text} (exclusive : Exclusive (trackedId before.toTracker))
    (keeps : before.keepsIdentity event = true) (bye : IsBye callId event)
    (possible : step conf before event = some after) : Untracked after callId := by
  cases event with
  | sipDatagram data client start delivered =>
      obtain ⟨msg, cseq, parsed, command, known, given⟩ := bye
      simp only [step] at possible
      split at possible
      · rw [Sip.Session.beginSipEvent_bye parsed command] at possible
        cases found : before.findByCallId callId with
        | none =>
            rw [Sip.Session.handleBye_unknown known found] at possible
            obtain rfl : _ = after := Option.some.inj possible
            exact Tracker.findByCallId_eq_none.mp found
        | some known_call =>
            obtain ⟨k, call⟩ := known_call
            obtain ⟨responder, answered⟩ : ∃ responder, call.responder = some responder := by
              have : byeAnswered before.toTracker msg = true := by
                simpa [keepsIdentity, parsed, command, given, Except.isOk, Except.toBool]
                  using keeps
              rw [byeAnswered, known] at this
              exact Option.isSome_iff_exists.mp (by simpa [found] using this)
            rw [Sip.Session.handleBye_answered known found answered given] at possible
            obtain rfl : _ = after := Option.some.inj possible
            obtain ⟨member, object, same⟩ := Tracker.findByCallId_eq_some found
            intro j tracked other found_after equal
            obtain ⟨tracked_before, differ⟩ := List.mem_filter.mp tracked
            have others : j ≠ k := of_decide_eq_true differ
            rw [Tracker.getElem?_destroy object, if_neg others] at found_after
            exact others (exclusive
              (trackedId_eq_some.mpr ⟨tracked_before, other, found_after, equal⟩)
              (trackedId_eq_some.mpr ⟨member, call, object, same⟩))
      · simp at possible
  | webSocketMessage message start => exact bye.elim
  | speech slot speech => exact bye.elim
  | startCall => exact bye.elim
  | listen k => exact bye.elim
  | receive k received => exact bye.elim
  | tick k ticks delivery => exact bye.elim

/-- In every run that keeps identities, tracked Call-IDs are distinct, and none is tracked right
after a BYE for it. -/
theorem one_call_per_callId {events : List Event}
    (execution : Transition.run (step conf) initial events = some after)
    (kept : Transition.Meets (step conf)
      (fun server event => server.keepsIdentity event = true) initial events) :
    IdsDistinct after ∧ ∀ earlier event callId, events = earlier ++ [event] →
      IsBye callId event → Untracked after callId := by
  have invariant : ∀ {events : List Event} {reached : Server},
      Transition.run (step conf) initial events = some reached →
        Transition.Meets (step conf) (fun server event => server.keepsIdentity event = true)
          initial events →
          WellFormed reached ∧ Exclusive (trackedId reached.toTracker) := by
    intro events reached execution kept
    refine Transition.invariant_of_meets
      (fun server event => server.keepsIdentity event = true)
      (fun server => WellFormed server ∧ Exclusive (trackedId server.toTracker))
      (fun held keeps possible => ⟨held.1.step possible,
        exclusive_step held.2 keeps possible⟩) ⟨wellFormed_initial, ?_⟩ kept execution
    intro left right callId left_holds
    simp [trackedId, initial, Tracker.empty] at left_holds
  obtain ⟨formed, exclusive⟩ := invariant execution kept
  refine ⟨idsDistinct_of_exclusive formed.nodup exclusive, ?_⟩
  rintro earlier event callId rfl bye
  obtain ⟨middle, first, last⟩ := Transition.run_append_eq_some.mp execution
  obtain ⟨next, possible, rest⟩ := Transition.run_cons_eq_some.mp last
  obtain rfl : next = after := by simpa using rest
  obtain ⟨kept_first, kept_last⟩ := (Transition.meets_append first).mp kept
  exact untracked_of_bye (invariant first kept_first).2 kept_last.1 bye possible

/-- Two calls, one of which is hung up. -/
def twoCalls : List Event :=
  sampleCall 0 "k1" 0 ++ sampleCall 1 "k2" 2 ++
    [.sipDatagram (sampleBye "k1") samplePeer (sampleStart 0) true]

theorem one_call_per_callId_of_two_calls :
    ∃ after, Transition.run (step sampleConf) initial twoCalls = some after ∧
      IdsDistinct after ∧ ∀ earlier event callId, twoCalls = earlier ++ [event] →
        IsBye callId event → Untracked after callId := by
  have possible : (Transition.run (step sampleConf) initial twoCalls).isSome := by
    decide +kernel
  obtain ⟨after, execution⟩ := Option.isSome_iff_exists.mp possible
  exact ⟨after, execution, one_call_per_callId execution (by decide +kernel)⟩

/-- A call set up over UDP, and an INVITE with its Call-ID over a WebSocket. -/
def bothEntrances : List Event :=
  sampleCall 0 "k1" 0 ++
    [.webSocketMessage (sampleInvite "k1") (sampleStart 2), .speech 1 sampleSpeech]

/-- The same Call-ID is tracked twice when its second INVITE comes over a WebSocket. -/
theorem both_entrances_share_callId :
    ¬∀ conf events after, Transition.run (step conf) initial events = some after →
      IdsDistinct after ∧ ∀ earlier event callId, events = earlier ++ [event] →
        IsBye callId event → Untracked after callId := by
  intro claimed
  have tracked : (Transition.run (step sampleConf) initial bothEntrances).map (fun after =>
      (trackedId after.toTracker 0, trackedId after.toTracker 1)) =
        some (some "k1".toList, some "k1".toList) := by decide +kernel
  obtain ⟨after, execution, ids⟩ := Option.map_eq_some_iff.mp tracked
  obtain ⟨left_tracked, right_tracked⟩ := Prod.mk.inj ids
  obtain ⟨left_member, left, found_left, left_id⟩ := trackedId_eq_some.mp left_tracked
  obtain ⟨right_member, right, found_right, right_id⟩ := trackedId_eq_some.mp right_tracked
  have distinct := (claimed _ _ _ execution).1.2 0 left_member 1 right_member left right
    found_left found_right (by decide)
  exact distinct (left_id.trans right_id.symm)

end Server
end Contest
