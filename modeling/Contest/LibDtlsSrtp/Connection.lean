import Contest.LibDtlsSrtp.Flights

/-!
# The state of a connection

The state of a session says which side of the handshake OpenSSL has been told to take, and once it
is settled it stays.  The type of a session says that the handshake was finished once at the end of
a packet.
-/

namespace Contest
namespace LibDtlsSrtp

open Logged

variable {Ssl Dest : Type} {openSsl : OpenSsl Ssl}

/-- A side of the handshake. -/
inductive Side
  /-- It waits for the other one. -/
  | accepts
  /-- It starts. -/
  | connects
deriving DecidableEq, Repr

/-- The side that OpenSSL has been told to take last. -/
def side (acts : List (Act Dest)) : Option Side :=
  (acts.filterMap fun act => match act with
    | .ssl .setAcceptState _ => some Side.accepts
    | .ssl .setConnectState _ => some Side.connects
    | _ => none).getLast?

theorem side_append (left right : List (Act Dest)) :
    side (left ++ right) = (side right).or (side left) := by
  rw [side, List.filterMap_append, List.getLast?_append]
  rfl

/-- OpenSSL accepts exactly in the passive state. -/
def Agrees (current : Option Side) (state : DtlsConState) : Prop :=
  ∃ side, current = some side ∧ (side = .accepts ↔ state = .pass)

/-- A state stays, or it is settled. -/
def Stays (before after : DtlsConState) : Prop :=
  after = before ∨ before = .actpass ∧ (after = .act ∨ after = .pass)

/-- The side of OpenSSL follows the state. -/
structure Follows (before after : DtlsSess Ssl) (acts : List (Act Dest)) : Prop where
  /-- The state stays, or it is settled. -/
  stays : Stays before.state after.state
  /-- It agrees with the side, if it has agreed. -/
  agrees : ∀ current, Agrees current before.state → Agrees ((side acts).or current) after.state

/-- What follows in two parts follows. -/
def following : Law (DtlsSess Ssl) (Act Dest) where
  holds := Follows
  refl _ := ⟨.inl rfl, fun _ agrees => agrees⟩
  trans := by
    intro before middle after left right first second
    refine ⟨?_, ?_⟩
    · rcases first.stays with same | ⟨open_to_both, settled⟩
      · exact same ▸ second.stays
      · rcases second.stays with same | ⟨open_still, -⟩
        · exact .inr ⟨open_to_both, same ▸ settled⟩
        · simp [open_still] at settled
    · intro current agrees
      rw [side_append, Option.or_assoc]
      exact second.agrees _ (first.agrees current agrees)

theorem follows_of_same {before after : DtlsSess Ssl} (same : after.state = before.state) :
    Follows before after ([] : List (Act Dest)) :=
  ⟨.inl same, fun _ agrees => same.symm ▸ agrees⟩

/-- The calls that do not set the side. -/
theorem follows_sslCall {call : SslCall} (other : call ≠ .setAcceptState ∧ call ≠ .setConnectState) :
    Obeys following (sslCall openSsl call : Part Ssl Dest Int) := by
  intro sess
  rw [run_sslCall]
  refine ⟨.inl rfl, fun current agrees => ?_⟩
  have silent : side [(.ssl call (openSsl.call call sess.ssl sess.rbio).written : Act Dest)] =
      none := by
    cases call with
    | setAcceptState => exact absurd rfl other.1
    | setConnectState => exact absurd rfl other.2
    | _ => rfl
  rw [silent]
  exact agrees

theorem side_flushActs (sess : DtlsSess Ssl) (dest : Dest) :
    side (sess.flushActs openSsl dest) = none := by
  unfold DtlsSess.flushActs
  split
  · rfl
  · cases sess.sched <;> rfl

theorem follows_dtlsSessSendPending (dest : Dest) (answer : Int) :
    Obeys following (dtlsSessSendPending openSsl dest answer) := by
  intro sess
  rw [run_dtlsSessSendPending]
  refine ⟨.inl rfl, fun current agrees => ?_⟩
  rw [side_flushActs]
  exact agrees

theorem agrees_setRole (sess : DtlsSess Ssl) (current : Option Side) :
    Agrees ((side ((setRole openSsl : Part Ssl Dest Unit).run sess).2.2).or current)
      ((setRole openSsl : Part Ssl Dest Unit).run sess).2.1.state := by
  unfold setRole
  rw [run_current_bind]
  split
  · rename_i passive
    exact ⟨.accepts, rfl, iff_of_true rfl passive⟩
  · rename_i active
    exact ⟨.connects, rfl, iff_of_false (by decide) active⟩

theorem state_setRole (sess : DtlsSess Ssl) :
    ((setRole openSsl : Part Ssl Dest Unit).run sess).2.1.state = sess.state := by
  unfold setRole
  rw [run_current_bind]
  split <;> rfl

theorem follows_setRole : Obeys following (setRole openSsl : Part Ssl Dest Unit) := fun sess =>
  ⟨.inl (state_setRole sess), fun current _ => agrees_setRole sess current⟩

/-- What the functions are made of lets the side follow the state: a session that is open to both
accepts when a packet arrives, and connects when the handshake is started. -/
theorem keeps_following : Keeps openSsl (following : Law (DtlsSess Ssl) (Act Dest)) where
  call _ other := follows_sslCall other
  role := follows_setRole
  accepts sess open_to_both :=
    ⟨.inr ⟨open_to_both, .inr rfl⟩, fun _ _ => ⟨.accepts, rfl, iff_of_true rfl rfl⟩⟩
  connects sess open_to_both := by
    refine ⟨.inr ⟨open_to_both, .inl rfl⟩, ?_⟩
    rintro current ⟨side, same, agrees⟩
    refine ⟨side, same, ?_⟩
    rw [open_to_both] at agrees
    exact agrees.trans (iff_of_false (by decide) DtlsConState.noConfusion)
  given sess _ := follows_of_same rfl
  typed sess _ := follows_of_same rfl

theorem follows_perform (operation : Operation Dest) :
    Obeys following (perform openSsl operation) :=
  keeps_following.perform operation fun dest answer _ => follows_dtlsSessSendPending dest answer

/-- In every run of a new session, OpenSSL has been told to accept exactly in the passive state, and
a state other than that of both stays. -/
theorem settled_used (openSsl : OpenSsl Ssl) (fresh : Ssl) (sched : Bool)
    (conState : DtlsConState) (operations : List (Operation Dest)) :
    let after := used openSsl (dtlsSessNew openSsl fresh sched conState) operations
    Agrees (side after.2) after.1.state ∧ Stays conState after.1.state := by
  let start : DtlsSess Ssl × List (Act Dest) := dtlsSessNew openSsl fresh sched conState
  let empty : DtlsSess Ssl := ⟨fresh, [], [], sched, conState, .new⟩
  have begun : Agrees ((side start.2).or none) start.1.state := agrees_setRole empty none
  have same : start.1.state = conState := @state_setRole Ssl Dest openSsl empty
  have run : Follows start.1 (final (perform openSsl) start.1 operations)
      (logs (perform openSsl) start.1 operations).flatten :=
    holds_run (perform openSsl) follows_perform start.1 operations
  have stays := run.stays
  rw [same] at stays
  refine ⟨?_, stays⟩
  show Agrees (side (start.2 ++ _)) _
  rw [side_append]
  exact run.agrees _ (by simpa using begun)

/-! ### The type -/

/-- A packet at the end of which the handshake is finished. -/
def Finishes (openSsl : OpenSsl Ssl) : DtlsSess Ssl × Operation Dest → Prop
  | (sess, .putPacket buf _) =>
      let settled := sess.settled openSsl
      ¬settled.fails openSsl buf ∧ openSsl.isInitFinished (settled.hasRead openSsl buf).ssl = true
  | _ => False

/-- An operation that starts again after a finished handshake. -/
def Restarts (openSsl : OpenSsl Ssl) : DtlsSess Ssl × Operation Dest → Prop
  | (sess, .setup) => openSsl.isInitFinished sess.ssl = true
  | (sess, .reset) => openSsl.isInitFinished sess.ssl = true
  | _ => False

theorem type_settled (sess : DtlsSess Ssl) : (sess.settled openSsl).type = sess.type := by
  unfold DtlsSess.settled
  split <;> rfl

theorem type_putPacket (sess : DtlsSess Ssl) (buf : Bytes) (dest : Dest) :
    ((dtlsSessPutPacket openSsl buf dest).run sess).2.1.type = .existing ↔
      Finishes openSsl (sess, Operation.putPacket buf dest) ∨ sess.type = .existing := by
  rw [run_dtlsSessPutPacket, run_putSettled, Finishes, ← @type_settled Ssl openSsl sess]
  by_cases fails : (sess.settled openSsl).fails openSsl buf
  · rw [if_pos fails]
    exact (or_iff_right fun finishes => finishes.1 fails).symm
  · rw [if_neg fails, DtlsSess.typed]
    split
    · rename_i finished
      exact iff_of_true rfl (.inl ⟨fails, finished⟩)
    · rename_i unfinished
      exact (or_iff_right fun finishes => unfinished finishes.2).symm

theorem type_run_dtlsSessSendPending (dest : Dest) (answer : Int) (sess : DtlsSess Ssl) :
    ((dtlsSessSendPending openSsl dest answer).run sess).2.1.type = sess.type := by
  rw [run_dtlsSessSendPending]
  rfl

theorem type_dtlsDoHandshake (sess : DtlsSess Ssl) (dest : Dest) (answer : Int) :
    ((dtlsDoHandshake openSsl dest answer).run sess).2.1.type = sess.type := by
  unfold dtlsDoHandshake
  rw [run_current_bind]
  split
  · rfl
  · split
    · rw [run_update_bind, run_sslCall_bind]
      exact type_run_dtlsSessSendPending dest answer _
    · rw [run_sslCall_bind]
      exact type_run_dtlsSessSendPending dest answer _

theorem type_dtlsSessHandleTimeout (sess : DtlsSess Ssl) (dest : Dest) (answer : Int) :
    ((dtlsSessHandleTimeout openSsl dest answer).run sess).2.1.type = sess.type := by
  unfold dtlsSessHandleTimeout
  rw [run_current_bind]
  split
  · rw [run_sslCall_bind]
    exact type_run_dtlsSessSendPending dest answer _
  · exact type_run_dtlsSessSendPending dest answer sess

theorem type_dtlsSessRenegotiate (sess : DtlsSess Ssl) (dest : Dest) :
    ((dtlsSessRenegotiate openSsl dest).run sess).2.1.type = sess.type := by
  rw [dtlsSessRenegotiate, run_sslCall_bind, run_sslCall_bind]
  dsimp only
  rw [snd_run_bind_pure]
  exact type_run_dtlsSessSendPending dest 0 _

theorem type_dtlsSessSetup (sess : DtlsSess Ssl) :
    ((dtlsSessSetup openSsl : Part Ssl Dest Unit).run sess).2.1.type =
      if openSsl.isInitFinished sess.ssl then .new else sess.type := by
  unfold dtlsSessSetup
  rw [run_current_bind]
  split
  · rw [run_sslCall_bind]
    rcases bind_cases (setRole openSsl) (fun _ => (update fun sess => { sess with type := .new } :
      Part Ssl Dest Unit)) (sess.called openSsl .clear) with ⟨e, -, -⟩ | ⟨_, -, returns⟩
    · exact e.elim
    · dsimp only
      rw [returns]
      rfl
  · rfl

theorem type_dtlsSessReset (sess : DtlsSess Ssl) :
    ((dtlsSessReset openSsl : Part Ssl Dest Unit).run sess).2.1.type =
      if openSsl.isInitFinished sess.ssl then .new else sess.type := by
  unfold dtlsSessReset
  rw [run_current_bind]
  split <;> rfl

theorem existing_iff_of_restart {finished : Bool} {type : DtlsConType} :
    (if finished then DtlsConType.new else type) = .existing ↔
      False ∨ type = .existing ∧ ¬finished = true := by
  cases finished <;> simp

/-- The step lemma of the type. -/
theorem type_perform (sess : DtlsSess Ssl) (operation : Operation Dest) :
    ((perform openSsl operation).run sess).2.1.type = .existing ↔
      Finishes openSsl (sess, operation) ∨
        sess.type = .existing ∧ ¬Restarts openSsl (sess, operation) := by
  cases operation with
  | putPacket buf dest =>
      rw [perform, snd_run_bind_pure, type_putPacket]
      simp only [Restarts, not_false_eq_true, and_true]
  | doHandshake dest answer =>
      rw [perform, snd_run_bind_pure, type_dtlsDoHandshake]
      simp only [Finishes, Restarts, not_false_eq_true, and_true, false_or]
  | handleTimeout dest answer =>
      rw [perform, snd_run_bind_pure, type_dtlsSessHandleTimeout]
      simp only [Finishes, Restarts, not_false_eq_true, and_true, false_or]
  | setup =>
      rw [perform, type_dtlsSessSetup]
      exact existing_iff_of_restart
  | reset =>
      rw [perform, type_dtlsSessReset]
      exact existing_iff_of_restart
  | renegotiate dest =>
      rw [perform, type_dtlsSessRenegotiate]
      simp only [Finishes, Restarts, not_false_eq_true, and_true, false_or]

theorem type_dtlsSessNew (openSsl : OpenSsl Ssl) (fresh : Ssl) (sched : Bool)
    (conState : DtlsConState) :
    (dtlsSessNew openSsl fresh sched conState : DtlsSess Ssl × List (Act Dest)).1.type = .new := by
  unfold dtlsSessNew setRole
  rw [run_current_bind]
  split <;> rfl

/-- In every run of a new session, the type is that of an existing connection exactly if the
handshake was finished at the end of a packet and nothing has started again since. -/
theorem type_used (openSsl : OpenSsl Ssl) (fresh : Ssl) (sched : Bool) (conState : DtlsConState)
    (operations : List (Operation Dest)) :
    let start : DtlsSess Ssl × List (Act Dest) := dtlsSessNew openSsl fresh sched conState
    (used openSsl start operations).1.type = .existing ↔
      ∃ earlier packet later, operations = earlier ++ packet :: later ∧
        Finishes openSsl ((used openSsl start earlier).1, packet) ∧
          ∀ visit ∈ visits (perform openSsl) (used openSsl start (earlier ++ [packet])).1 later,
            ¬Restarts openSsl visit := by
  intro start
  have new : start.1.type ≠ .existing := by
    rw [type_dtlsSessNew openSsl fresh sched conState]
    exact DtlsConType.noConfusion
  let existing (sess : DtlsSess Ssl) : Prop := sess.type = .existing
  have flag := @flag_final_iff _ _ _ _ (perform openSsl) existing (Finishes openSsl)
    (Restarts openSsl) type_perform start.1 operations
  exact flag.trans (or_iff_right fun unchanged => new unchanged.1)

end LibDtlsSrtp
end Contest
