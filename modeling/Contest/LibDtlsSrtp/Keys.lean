import Contest.LibDtlsSrtp.Connection
import Contest.Transport.SrtpLibrary

/-!
# The keys of both ends

Both ends of a handshake export the same key material, and each cuts its keys out of it by its
state.  A state that is not settled is cut as the passive one, whichever side OpenSSL has taken.
-/

namespace Contest
namespace LibDtlsSrtp

open Logged

variable {Ssl Dest : Type} {openSsl : OpenSsl Ssl}

/-- The keys of one end are those of the other one, with the directions exchanged. -/
structure Crossed (left right : SrtpKeyPtrs) : Prop where
  /-- What one end sends under, the other one receives under. -/
  sent : left.localkey = right.remotekey ∧ left.localsalt = right.remotesalt
  /-- The same in the other direction. -/
  received : left.remotekey = right.localkey ∧ left.remotesalt = right.localsalt

/-- An operation settles the state of a session that is open to both. -/
def Operation.Settles : Operation Dest → Prop
  | .putPacket _ _ => True
  | .doHandshake _ _ => True
  | _ => False

/-- The state is settled from the start, or by an operation. -/
def Settles (conState : DtlsConState) (operations : List (Operation Dest)) : Prop :=
  conState = .act ∨ conState = .pass ∨
    conState = .actpass ∧ ∃ operation ∈ operations, operation.Settles

/-- A session connects or accepts. -/
def Settled (state : DtlsConState) : Prop := state = .act ∨ state = .pass

theorem Settled.stays {before after : DtlsConState} (settled : Settled before)
    (stays : Stays before after) : after = before := by
  rcases stays with same | ⟨rfl, -⟩
  · exact same
  · simp [Settled] at settled

/-- An operation that settles the state leaves it settled. -/
theorem settled_of_settles {sess : DtlsSess Ssl} (open_to_both : sess.state = .actpass)
    {operation : Operation Dest} (settles : operation.Settles) :
    Settled ((perform openSsl operation).run sess).2.1.state := by
  cases operation with
  | putPacket buf dest =>
      let middle := { sess with state := .pass }.called openSsl .setAcceptState
      have rest : Stays .pass ((putSettled openSsl buf dest).run middle).2.1.state :=
        (keeps_following.putSettled (follows_dtlsSessSendPending dest) buf middle).stays
      rw [perform, snd_run_bind_pure, run_dtlsSessPutPacket, DtlsSess.settled, if_pos open_to_both]
      exact .inr (Settled.stays (.inr rfl) rest)
  | doHandshake dest answer =>
      let middle : DtlsSess Ssl := { sess with state := .act }
      have rest := (keeps_following.handshake (@follows_dtlsSessSendPending Ssl Dest openSsl dest)
        answer middle).stays
      have connects : ¬(sess.state ≠ .act ∧ sess.state ≠ .actpass) := fun other =>
        other.2 open_to_both
      rw [perform, snd_run_bind_pure, dtlsDoHandshake, run_current_bind, if_neg connects,
        if_pos open_to_both, run_update_bind]
      exact .inl (Settled.stays (.inl rfl) rest)
  | handleTimeout => exact settles.elim
  | setup => exact settles.elim
  | reset => exact settles.elim
  | renegotiate => exact settles.elim

/-- An end of a connection: a new session and what is asked of it. -/
structure End (Ssl Dest : Type) where
  /-- The `SSL` of the session. -/
  fresh : Ssl
  /-- Whether its sink has a `sched`. -/
  sched : Bool
  /-- The state that it is created with. -/
  conState : DtlsConState
  /-- What is asked of it. -/
  operations : List (Operation Dest)

/-- An end of a connection after all that is asked of it, and all that has been done. -/
def End.after (openSsl : OpenSsl Ssl) (peer : End Ssl Dest) : DtlsSess Ssl × List (Act Dest) :=
  used openSsl (dtlsSessNew openSsl peer.fresh peer.sched peer.conState) peer.operations

theorem settled_after (openSsl : OpenSsl Ssl) {peer : End Ssl Dest}
    (settles : Settles peer.conState peer.operations) : Settled (peer.after openSsl).1.state := by
  obtain ⟨fresh, sched, conState, operations⟩ := peer
  rcases settles with rfl | rfl | ⟨rfl, operation, member, settles⟩
  · have stays := (settled_used openSsl fresh sched .act operations).2
    exact .inl (Settled.stays (.inl rfl) stays)
  · have stays := (settled_used openSsl fresh sched .pass operations).2
    exact .inr (Settled.stays (.inr rfl) stays)
  · obtain ⟨earlier, later, rfl⟩ := List.append_of_mem member
    let start : DtlsSess Ssl × List (Act Dest) := dtlsSessNew openSsl fresh sched .actpass
    let middle := (perform openSsl operation).run (final (perform openSsl) start.1 earlier)
    have settled : Settled middle.2.1.state := by
      rcases (settled_used openSsl fresh sched .actpass earlier).2 with same | ⟨-, settled⟩
      · exact settled_of_settles same settles
      · have stays := (@follows_perform Ssl Dest openSsl operation
          (final (perform openSsl) start.1 earlier)).stays
        exact (Settled.stays settled stays).symm ▸ settled
    have stays : Stays middle.2.1.state (final (perform openSsl) middle.2.1 later).state :=
      (holds_run (perform openSsl) follows_perform middle.2.1 later).stays
    show Settled (final (perform openSsl) start.1 (earlier ++ operation :: later)).state
    rw [final_append]
    exact (settled.stays stays).symm ▸ settled

/-- Key material of a settled end has its state, and says which side the end has taken. -/
theorem ispassive_after {peer : End Ssl Dest} {km : SrtpKeyMaterial}
    (settles : Settles peer.conState peer.operations)
    (exported : srtpGetKeyMaterial openSsl (peer.after openSsl).1 = some km) :
    Stays peer.conState km.ispassive ∧
      (side (peer.after openSsl).2 = some .connects ∧ km.ispassive = .act ∨
        side (peer.after openSsl).2 = some .accepts ∧ km.ispassive = .pass) := by
  have same : km.ispassive = (peer.after openSsl).1.state := by
    unfold srtpGetKeyMaterial at exported
    split at exported
    · cases exported
    · obtain ⟨material, -, rfl⟩ := Option.map_eq_some_iff.mp exported
      rfl
  obtain ⟨⟨taken, is_taken, agrees⟩, stays⟩ :=
    settled_used openSsl peer.fresh peer.sched peer.conState peer.operations
  rw [same]
  refine ⟨stays, ?_⟩
  rcases settled_after openSsl settles with active | passive
  · refine .inl ⟨?_, active⟩
    cases taken with
    | accepts => exact absurd (active.symm.trans (agrees.mp rfl)) DtlsConState.noConfusion
    | connects => exact is_taken
  · refine .inr ⟨?_, passive⟩
    cases taken with
    | accepts => exact is_taken
    | connects => exact absurd (agrees.mpr passive) Side.noConfusion

theorem Crossed.symm {left right : SrtpKeyPtrs} (crossed : Crossed left right) :
    Crossed right left :=
  ⟨⟨crossed.received.1.symm, crossed.received.2.symm⟩,
    crossed.sent.1.symm, crossed.sent.2.symm⟩

theorem crossed_of_act (material : {material : Bytes // material.length = 60}) :
    Crossed (srtpKeyMaterialExtract ⟨material, .act⟩) (srtpKeyMaterialExtract ⟨material, .pass⟩) :=
  ⟨⟨rfl, rfl⟩, rfl, rfl⟩

variable {Ssl' Dest' : Type} {openSsl' : OpenSsl Ssl'}

/-- Two ends that have taken opposite sides and export the same key material have each other's keys,
whatever has been asked of them; the sessions of a transport, whose end is created passive, are
those of the keys of its peer. -/
theorem keys_crossed (openSsl : OpenSsl Ssl) (openSsl' : OpenSsl Ssl') {peer : End Ssl Dest}
    {own : End Ssl' Dest'} (settles : Settles peer.conState peer.operations)
    (settles' : Settles own.conState own.operations) {km km' : SrtpKeyMaterial}
    (exported : srtpGetKeyMaterial openSsl (peer.after openSsl).1 = some km)
    (exported' : srtpGetKeyMaterial openSsl' (own.after openSsl').1 = some km')
    (same : km.material = km'.material)
    (opposite : side (peer.after openSsl).2 ≠ side (own.after openSsl').2) :
    let ptrs := srtpKeyMaterialExtract km
    Crossed ptrs (srtpKeyMaterialExtract km') ∧
      (own.conState = .pass → ∀ gcrypt,
        keyedSession gcrypt ptrs.remotekey ptrs.remotesalt = km'.srtpOutgoing gcrypt ∧
          keyedSession gcrypt ptrs.localkey ptrs.localsalt = km'.srtpIncoming gcrypt) := by
  obtain ⟨material, ispassive⟩ := km
  obtain ⟨material', ispassive'⟩ := km'
  obtain rfl : material = material' := same
  obtain ⟨-, sides⟩ := ispassive_after settles exported
  obtain ⟨stays', sides'⟩ := ispassive_after settles' exported'
  dsimp only at sides stays' sides'
  obtain ⟨connects, rfl⟩ | ⟨accepts, rfl⟩ := sides
  · obtain ⟨connects', rfl⟩ | ⟨-, rfl⟩ := sides'
    · exact absurd (connects.trans connects'.symm) opposite
    · exact ⟨crossed_of_act material, fun _ gcrypt => ⟨rfl, rfl⟩⟩
  · obtain ⟨connects', rfl⟩ | ⟨accepts', rfl⟩ := sides'
    · refine ⟨(crossed_of_act material).symm, fun passive => ?_⟩
      rw [passive] at stays'
      exact absurd (Settled.stays (.inr rfl) stays') DtlsConState.noConfusion
    · exact absurd (accepts.trans accepts'.symm) opposite

/-- An OpenSSL whose handshake is finished when two flights have been read.  Its `SSL` is the number
of flights that have been read. -/
def twoFlights : OpenSsl Nat where
  call
    | .doHandshake, flights, rbio => ⟨-1, flights, rbio, [22]⟩
    | .read _, flights, [] => ⟨-1, flights, [], []⟩
    | .read _, flights, _ :: _ => ⟨-1, flights + 1, [], [22]⟩
    | _, flights, rbio => ⟨0, flights, rbio, []⟩
  isErrorSsl _ _ := false
  isInitFinished flights := 2 ≤ flights
  getTimeout _ := none
  exportKeyingMaterial flights :=
    if 2 ≤ flights then some Transport.specMaterial.material else none

/-- An end that is open to both sides and starts the handshake. -/
def client : End Nat Unit :=
  ⟨0, false, .actpass, [.doHandshake () 1, .putPacket [22] (), .putPacket [22] ()]⟩

/-- An end as a transport creates it. -/
def server : End Nat Unit := ⟨0, true, .pass, [.putPacket [22] (), .putPacket [22] ()]⟩

theorem keys_crossed_client :
    let ptrs := srtpKeyMaterialExtract { Transport.specMaterial with ispassive := .act }
    Crossed ptrs (srtpKeyMaterialExtract Transport.specMaterial) ∧
      ∀ gcrypt, keyedSession gcrypt ptrs.remotekey ptrs.remotesalt =
          Transport.specMaterial.srtpOutgoing gcrypt ∧
        keyedSession gcrypt ptrs.localkey ptrs.localsalt =
          Transport.specMaterial.srtpIncoming gcrypt := by
  have settles : Settles client.conState client.operations :=
    .inr (.inr ⟨rfl, _, List.mem_cons_self, trivial⟩)
  have settles' : Settles server.conState server.operations := .inr (.inl rfl)
  have crossed := keys_crossed twoFlights twoFlights settles settles' rfl rfl rfl (by decide)
  exact ⟨crossed.1, crossed.2 rfl⟩

end LibDtlsSrtp
end Contest
