import Contest.Foundation.Allocation
import Contest.Reachable

/-!
# Exclusive RTP ports

`Transport#finalize` deletes a port from the list of used ports by its number, and it runs again
when the receive loop of a call that a BYE has destroyed times out.  Ports stay exclusive in every
run in which no such late timeout meets another holder of the same number.
-/

namespace Contest

open Contest.Graph Allocation

namespace Server

/-- Who can hold a port. -/
inductive Holder
  /-- A call. -/
  | call (k : Nat)
  /-- A call being set up. -/
  | setUp (slot : Nat)
deriving DecidableEq

/-- The port held: by a call until it is destroyed, and by a call being set up. -/
def heldPort (objects : List Call) (setUps : List (Option Pending)) : Holder → Option RtpPort
  | .call k =>
      (objects[k]?.filter fun call => !call.transport.teardown).map (·.transport.rtpPort)
  | .setUp slot => setUps[slot]?.join.map (·.transport.rtpPort)

/-- Nobody holds the port. -/
def unheld (server : Server) (port : RtpPort) : Bool :=
  server.objects.all (fun call => call.transport.teardown || call.transport.rtpPort ≠ port) &&
    server.setUps.all fun setUp => setUp.all fun pending => pending.transport.rtpPort ≠ port

/-- A receive timeout of a call that is already destroyed finds its port without a holder. -/
def sparesOthers (server : Server) : Event → Bool
  | .receive k .timeout =>
      server.objects[k]?.all fun call =>
        !call.transport.teardown || call.overWebsocket || server.unheld call.transport.rtpPort
  | _ => true

/-- Live calls have ports of their own, and these are listed as used. -/
structure PortsExclusive (server : Server) : Prop where
  /-- The ports of two live calls differ, and so do the pairs advertised. -/
  disjoint : ∀ (j k : Nat) left right, server.objects[j]? = some left →
    server.objects[k]? = some right → left.transport.teardown = false →
      right.transport.teardown = false → j ≠ k →
        left.transport.rtpPort ≠ right.transport.rtpPort ∧
          left.transport.rtpPort.pair.Disjoint right.transport.rtpPort.pair
  /-- The port of a live call is listed as used. -/
  listed : ∀ (k : Nat) call, server.objects[k]? = some call →
    call.transport.teardown = false → call.transport.rtpPort ∈ server.usedRtpPorts

section Holding

variable {objects : List Call} {setUps : List (Option Pending)} {port : RtpPort}

theorem heldPort_call {k : Nat} : heldPort objects setUps (.call k) = some port ↔
    ∃ call, objects[k]? = some call ∧ call.transport.teardown = false ∧
      call.transport.rtpPort = port := by
  rw [heldPort, Option.map_eq_some_iff]
  constructor
  · rintro ⟨call, kept, rfl⟩
    obtain ⟨found, live⟩ := Option.filter_eq_some_iff.mp kept
    exact ⟨call, found, by simpa using live, rfl⟩
  · rintro ⟨call, found, live, rfl⟩
    exact ⟨call, Option.filter_eq_some_iff.mpr ⟨found, by simpa using live⟩, rfl⟩

theorem heldPort_setUp {slot : Nat} : heldPort objects setUps (.setUp slot) = some port ↔
    ∃ pending, setUps[slot]? = some (some pending) ∧ pending.transport.rtpPort = port := by
  rw [heldPort, Option.map_eq_some_iff]
  simp [Option.join_eq_some_iff]

/-- Who is left when a place among the calls being set up is cleared. -/
theorem heldPort_of_set {others : List Call} {slot place : Nat}
    (holds : heldPort objects (setUps.set slot none) (.setUp place) = some port) :
    heldPort others setUps (.setUp place) = some port ∧ place ≠ slot := by
  obtain ⟨pending, waits, rfl⟩ := heldPort_setUp.mp holds
  obtain ⟨waited, differ⟩ := pending_of_set waits
  exact ⟨heldPort_setUp.mpr ⟨pending, waited, rfl⟩, differ⟩

end Holding

theorem ne_of_unheld {server : Server} {port : RtpPort} (free : server.unheld port = true)
    (holder : Holder) : heldPort server.objects server.setUps holder ≠ some port := by
  obtain ⟨calls_free, setUps_free⟩ := (Bool.and_eq_true _ _).mp free
  cases holder with
  | call k =>
      intro held
      obtain ⟨call, found, live, rfl⟩ := heldPort_call.mp held
      have := List.all_eq_true.mp calls_free call (List.mem_of_getElem? found)
      simp [live] at this
  | setUp slot =>
      intro held
      obtain ⟨pending, waits, rfl⟩ := heldPort_setUp.mp held
      have := List.all_eq_true.mp setUps_free (some pending) (List.mem_of_getElem? waits)
      simp at this

/-- The invariant: ports have one holder each, and are listed. -/
def PortLedger (server : Server) : Prop :=
  Ledger (heldPort server.objects server.setUps) server.usedRtpPorts

theorem portsExclusive_of_ledger {server : Server} (ledger : PortLedger server) :
    PortsExclusive server where
  disjoint := by
    intro j k left right found_left found_right live_left live_right differ
    have ports : left.transport.rtpPort ≠ right.transport.rtpPort := by
      intro same
      have left_holds : heldPort server.objects server.setUps (.call j) =
          some right.transport.rtpPort :=
        heldPort_call.mpr ⟨left, found_left, live_left, same⟩
      have right_holds : heldPort server.objects server.setUps (.call k) =
          some right.transport.rtpPort :=
        heldPort_call.mpr ⟨right, found_right, live_right, rfl⟩
      exact differ (Holder.call.inj (ledger.exclusive left_holds right_holds))
    exact ⟨ports, RtpPort.disjoint_pair ports⟩
  listed := fun k call found live =>
    ledger.listed (.call k) _ (heldPort_call.mpr ⟨call, found, live, rfl⟩)

variable {conf : Conf} {before after : Server} {event : Event}

theorem portLedger_initial : PortLedger initial where
  exclusive := by
    intro left right port left_holds
    cases left <;> simp [heldPort, initial, Tracker.empty] at left_holds
  listed := by
    intro holder port holds
    cases holder <;> simp [heldPort, initial, Tracker.empty] at holds

/-- A turn of a fiber leaves everybody's port alone. -/
theorem shrinks_of_put {k : Nat} {old new : Call} {setUps : List (Option Pending)}
    (found : before.objects[k]? = some old) (kept : old.Kept new) :
    Shrinks (heldPort before.objects setUps) (heldPort (before.put k new).objects setUps) := by
  intro holder port holds
  cases holder with
  | setUp slot => exact holds
  | call j =>
      obtain ⟨call, found_after, live, rfl⟩ := heldPort_call.mp holds
      rw [Tracker.getElem?_put found] at found_after
      split at found_after
      · rename_i same
        subst same
        obtain rfl : new = call := by simpa using found_after
        exact heldPort_call.mpr ⟨old, found, kept.teardown ▸ live, kept.rtpPort.symm⟩
      · exact heldPort_call.mpr ⟨call, found_after, live, rfl⟩

theorem not_held_of_destroy {k : Nat} {old new : Call} {setUps : List (Option Pending)}
    (found : before.objects[k]? = some old) (port : RtpPort) :
    heldPort (before.destroy k new).objects setUps (.call k) ≠ some port := by
  intro holds
  obtain ⟨call, found_after, live, -⟩ := heldPort_call.mp holds
  rw [Tracker.getElem?_destroy found, if_pos rfl] at found_after
  obtain rfl : new.finalize = call := by simpa using found_after
  simp [Call.finalize, Transport.finalize] at live

/-- A call that is destroyed gives its port up, and the others keep theirs. -/
theorem shrinks_of_destroy {k : Nat} {old new : Call} {setUps : List (Option Pending)}
    (found : before.objects[k]? = some old) :
    Shrinks (heldPort before.objects setUps) (heldPort (before.destroy k new).objects setUps) := by
  intro holder port holds
  cases holder with
  | setUp slot => exact holds
  | call j =>
      by_cases same : j = k
      · subst same
        exact absurd holds (not_held_of_destroy found port)
      · obtain ⟨call, found_after, live, rfl⟩ := heldPort_call.mp holds
        rw [Tracker.getElem?_destroy found, if_neg same] at found_after
        exact heldPort_call.mpr ⟨call, found_after, live, rfl⟩

/-- When a call ends, its port has no other holder. -/
theorem unheld_of_ending (formed : WellFormed before) (ledger : PortLedger before)
    (spares : before.sparesOthers event = true) {k : Nat} {old new : Call}
    (found : before.objects[k]? = some old) (ending : Ending before k event old new) :
    new.transport.rtpPort = old.transport.rtpPort ∧
      ∀ holder, heldPort (before.destroy k new).objects before.setUps holder ≠
        some old.transport.rtpPort := by
  have of_live : old.transport.teardown = false → ∀ holder,
      heldPort (before.destroy k new).objects before.setUps holder ≠
        some old.transport.rtpPort := by
    intro live holder holds
    have held := shrinks_of_destroy found holder _ holds
    have own : heldPort before.objects before.setUps (.call k) = some old.transport.rtpPort :=
      heldPort_call.mpr ⟨old, found, live, rfl⟩
    obtain rfl := ledger.exclusive held own
    exact not_held_of_destroy found _ holds
  cases ending with
  | bye parsed command known matched answered given =>
      have tracked := (Tracker.findByCallId_eq_some matched).1
      exact ⟨rfl, of_live (formed.tracked_live k tracked old found)⟩
  | @timedOut received _ _ listening rescued turn =>
      have kept : old.Kept new := by simpa [turn] using (old.receive_frame received).1
      refine ⟨kept.rtpPort, ?_⟩
      obtain rfl := Call.eq_timeout_of_receive turn
      cases torn : old.transport.teardown with
      | false => exact of_live torn
      | true =>
          intro holder holds
          have free : before.unheld old.transport.rtpPort = true := by
            simpa [sparesOthers, found, torn, rescued] using spares
          exact ne_of_unheld free holder (shrinks_of_destroy found holder _ holds)

theorem PortLedger.step (formed : WellFormed before) (ledger : PortLedger before)
    (spares : before.sparesOthers event = true)
    (possible : Server.step conf before event = some after) : PortLedger after := by
  unfold PortLedger at ledger ⊢
  cases step_cases possible with
  | stays tracker setUps =>
      rw [tracker, setUps]
      exact ledger
  | lost drawn tracker setUps =>
      rw [tracker, setUps]
      exact ledger.lose (fun _ _ holds => holds) _
  | @opened _ _ pending drawn live tracker setUps =>
      rw [tracker, setUps]
      refine ledger.take (.setUp before.setUps.length)
        (allocRandomRtpPort_free drawn) ?_ ?_
      · exact heldPort_setUp.mpr ⟨pending, by simp, rfl⟩
      · intro holder other port holds
        cases holder with
        | call k => exact holds
        | setUp slot =>
            obtain ⟨waiting, waits, rfl⟩ := heldPort_setUp.mp holds
            rcases pending_of_append waits with waited | ⟨rfl, -⟩
            · exact heldPort_setUp.mpr ⟨waiting, waited, rfl⟩
            · exact absurd rfl other
  | abandoned waits tracker setUps =>
      rw [tracker, setUps]
      refine ledger.shrink ?_
      intro holder port holds
      cases holder with
      | call k => exact holds
      | setUp slot => exact (heldPort_of_set holds).1
  | @created slot _ pending call _ waits _ made tracker setUps =>
      rw [tracker, setUps]
      refine ledger.transfer (.setUp slot) (.call before.objects.length) ?_ ?_ ?_
      · rw [Option.eq_none_iff_forall_ne_some]
        intro port holds
        exact (@heldPort_of_set _ _ _ [] _ _ holds).2 rfl
      · intro port holds
        obtain ⟨other, found, live, rfl⟩ := heldPort_call.mp holds
        rw [Tracker.getElem?_add, if_pos rfl] at found
        obtain rfl : call = other := by simpa using found
        exact heldPort_setUp.mpr ⟨pending, waits, by rw [made.transport]⟩
      · intro holder other port holds
        cases holder with
        | call k =>
            obtain ⟨existing, found, live, rfl⟩ := heldPort_call.mp holds
            have differ : k ≠ before.objects.length := fun same => other (congrArg _ same)
            rw [Tracker.getElem?_add, if_neg differ] at found
            exact heldPort_call.mpr ⟨existing, found, live, rfl⟩
        | setUp place => exact (heldPort_of_set holds).1
  | ran found turn tracker setUps =>
      rw [tracker, setUps]
      exact ledger.shrink (shrinks_of_put found turn.kept)
  | @ended _ k old new _ found ending tracker setUps =>
      obtain ⟨same, unheld⟩ := unheld_of_ending formed ledger spares found ending
      rw [tracker, setUps]
      show Ledger _ (before.usedRtpPorts.filter (· ≠ new.transport.rtpPort))
      rw [same]
      exact ledger.strike (shrinks_of_destroy found) unheld

/-- In every run without a timeout that hits another holder's port, ports are exclusive. -/
theorem portsExclusive_of_run {events : List Event}
    (execution : Transition.run (Server.step conf) initial events = some after)
    (spared : Transition.Meets (Server.step conf)
      (fun server event => server.sparesOthers event = true) initial events) :
    PortsExclusive after := by
  have invariant : WellFormed after ∧ PortLedger after :=
    Transition.invariant_of_meets (fun server event => server.sparesOthers event = true)
      (fun server => WellFormed server ∧ PortLedger server)
      (fun held spares possible => ⟨held.1.step possible, held.2.step held.1 spares possible⟩)
      ⟨wellFormed_initial, portLedger_initial⟩ spared execution
  exact portsExclusive_of_ledger invariant.2

/-- A call is hung up and times out before its port is drawn again. -/
def promptTimeout : List Event :=
  sampleCall 0 "k1" 0 ++
    [.sipDatagram (sampleBye "k1") samplePeer (sampleStart 0) true, .receive 0 .timeout] ++
    sampleCall 1 "k2" 0

theorem portsExclusive_of_prompt_timeout :
    ∃ after, Transition.run (step sampleConf) initial promptTimeout = some after ∧
      PortsExclusive after := by
  have possible : (Transition.run (step sampleConf) initial promptTimeout).isSome := by
    decide +kernel
  obtain ⟨after, execution⟩ := Option.isSome_iff_exists.mp possible
  exact ⟨after, execution, portsExclusive_of_run execution (by decide +kernel)⟩

/-- A call is hung up, a second one draws its port, the first times out, a third one draws. -/
def lateTimeout : List Event :=
  sampleCall 0 "k1" 0 ++ [.sipDatagram (sampleBye "k1") samplePeer (sampleStart 0) true] ++
    sampleCall 1 "k2" 0 ++ [.receive 0 .timeout] ++ sampleCall 2 "k3" 0

/-- A late timeout frees the port of a live call, and the next call draws the same port. -/
theorem late_timeout_doubles_port :
    ¬∀ conf events after, Transition.run (step conf) initial events = some after →
      PortsExclusive after := by
  intro claimed
  have ports : (Transition.run (step sampleConf) initial lateTimeout).map (fun after =>
      (heldPort after.objects [] (.call 1), heldPort after.objects [] (.call 2))) =
        some (some (.ofDraw (RtpPort.drawAt 0)), some (.ofDraw (RtpPort.drawAt 0))) := by
    decide +kernel
  obtain ⟨after, execution, held⟩ := Option.map_eq_some_iff.mp ports
  obtain ⟨left_holds, right_holds⟩ := Prod.mk.inj held
  obtain ⟨left, found_left, live_left, left_port⟩ := heldPort_call.mp left_holds
  obtain ⟨right, found_right, live_right, right_port⟩ := heldPort_call.mp right_holds
  have disjoint := (claimed _ _ _ execution).disjoint 1 2 left right found_left found_right
    live_left live_right (by decide)
  exact disjoint.1 (left_port.trans right_port.symm)

end Server
end Contest
