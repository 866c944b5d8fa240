import Contest.LibDtlsSrtp.Session

/-!
# Flights

What OpenSSL writes into its memory buffer reaches the sink: nothing is lost, doubled or put out of
order, whatever is done with a session.  A function that sends what is pending leaves nothing
behind, so the peer then has everything that has been written so far.
-/

namespace Contest
namespace LibDtlsSrtp

open Logged

variable {Ssl Dest : Type} {openSsl : OpenSsl Ssl}

/-- What OpenSSL writes. -/
def wrote (acts : List (Act Dest)) : Bytes :=
  acts.flatMap fun act => match act with
    | .ssl _ written => written
    | _ => []

/-- The datagrams that are sent. -/
def datagrams (acts : List (Act Dest)) : List (Bytes × Dest) :=
  acts.filterMap fun act => match act with
    | .sendto data dest => some (data, dest)
    | _ => none

/-- What is sent. -/
def sent (acts : List (Act Dest)) : Bytes := (datagrams acts).flatMap Prod.fst

@[simp]
theorem wrote_append (left right : List (Act Dest)) :
    wrote (left ++ right) = wrote left ++ wrote right := List.flatMap_append

@[simp]
theorem datagrams_append (left right : List (Act Dest)) :
    datagrams (left ++ right) = datagrams left ++ datagrams right := List.filterMap_append

@[simp]
theorem sent_append (left right : List (Act Dest)) :
    sent (left ++ right) = sent left ++ sent right := by
  rw [sent, datagrams_append, List.flatMap_append]
  rfl

/-- What has been sent and what is pending is what was pending and what has been written, and
datagrams go to certain addresses only. -/
structure Relays (allowed : Dest → Prop) (before after : DtlsSess Ssl) (acts : List (Act Dest)) :
    Prop where
  /-- Nothing is lost. -/
  conserved : sent acts ++ after.wbio = before.wbio ++ wrote acts
  /-- No datagram is empty or goes astray. -/
  addressed : ∀ datagram ∈ datagrams acts, datagram.1 ≠ [] ∧ allowed datagram.2

/-- What is relayed in two parts is relayed. -/
def relaying (allowed : Dest → Prop) : Law (DtlsSess Ssl) (Act Dest) where
  holds := Relays allowed
  refl sess := ⟨(List.append_nil sess.wbio).symm, fun _ member => absurd member List.not_mem_nil⟩
  trans := by
    intro before middle after left right first second
    constructor
    · rw [sent_append, wrote_append, List.append_assoc, second.conserved, ← List.append_assoc,
        first.conserved, List.append_assoc]
    · intro datagram member
      rw [datagrams_append] at member
      rcases List.mem_append.mp member with early | late
      · exact first.addressed datagram early
      · exact second.addressed datagram late

/-! ### What a function does -/

/-- A session after a call of OpenSSL. -/
def DtlsSess.called (openSsl : OpenSsl Ssl) (sess : DtlsSess Ssl) (call : SslCall) :
    DtlsSess Ssl :=
  let turn := openSsl.call call sess.ssl sess.rbio
  { sess with ssl := turn.ssl, rbio := turn.rbio, wbio := sess.wbio ++ turn.written }

theorem run_sslCall (call : SslCall) (sess : DtlsSess Ssl) :
    (sslCall openSsl call : Part Ssl Dest Int).run sess =
      (.ok (openSsl.call call sess.ssl sess.rbio).ret, sess.called openSsl call,
        [.ssl call (openSsl.call call sess.ssl sess.rbio).written]) := rfl

@[simp]
theorem run_sslCall_bind {α : Type} (call : SslCall) (next : Int → Part Ssl Dest α)
    (sess : DtlsSess Ssl) :
    (sslCall openSsl call >>= next).run sess =
      let turn := openSsl.call call sess.ssl sess.rbio
      let rest := (next turn.ret).run (sess.called openSsl call)
      (rest.1, rest.2.1, .ssl call turn.written :: rest.2.2) := rfl

/-- A session with nothing pending. -/
def DtlsSess.flushed (sess : DtlsSess Ssl) : DtlsSess Ssl := { sess with wbio := [] }

/-- What is done to send what is pending. -/
def DtlsSess.flushActs (openSsl : OpenSsl Ssl) (sess : DtlsSess Ssl) (dest : Dest) :
    List (Act Dest) :=
  if sess.wbio = [] then []
  else (if sess.sched then [.sched (openSsl.getTimeout sess.ssl)] else []) ++
    [.sendto sess.wbio dest]

theorem run_dtlsSessSendPending (dest : Dest) (answer : Int) (sess : DtlsSess Ssl) :
    (dtlsSessSendPending openSsl dest answer).run sess =
      (.ok (if sess.wbio = [] then 0 else answer), sess.flushed, sess.flushActs openSsl dest) := by
  rw [dtlsSessSendPending, run_current_bind]
  cases pending : sess.wbio with
  | nil =>
      have still : sess.flushed = sess := by
        rw [DtlsSess.flushed, ← pending]
      simp [still, DtlsSess.flushActs, pending]
  | cons first rest =>
      cases sched : sess.sched <;>
        simp [DtlsSess.flushActs, pending, sched, DtlsSess.flushed]

@[simp]
theorem run_dtlsSessSendPending_bind {α : Type} (dest : Dest) (answer : Int)
    (next : Int → Part Ssl Dest α) (sess : DtlsSess Ssl) :
    (dtlsSessSendPending openSsl dest answer >>= next).run sess =
      let rest := (next (if sess.wbio = [] then 0 else answer)).run sess.flushed
      (rest.1, rest.2.1, sess.flushActs openSsl dest ++ rest.2.2) :=
  bind_of_ok (run_dtlsSessSendPending dest answer sess)

theorem datagrams_flushActs (sess : DtlsSess Ssl) (dest : Dest) :
    datagrams (sess.flushActs openSsl dest) =
      if sess.wbio = [] then [] else [(sess.wbio, dest)] := by
  unfold DtlsSess.flushActs
  split
  · rfl
  · cases sess.sched <;> rfl

/-- A session to which a packet has been given. -/
def DtlsSess.given (sess : DtlsSess Ssl) (buf : Bytes) : DtlsSess Ssl :=
  { sess.flushed with rbio := sess.rbio ++ buf }

/-- A session that has read a packet. -/
def DtlsSess.hasRead (openSsl : OpenSsl Ssl) (sess : DtlsSess Ssl) (buf : Bytes) :
    DtlsSess Ssl :=
  (sess.given buf).called openSsl (.read buf.length)

/-- What reading a packet returns. -/
def DtlsSess.readRet (openSsl : OpenSsl Ssl) (sess : DtlsSess Ssl) (buf : Bytes) : Int :=
  (openSsl.call (.read buf.length) (sess.given buf).ssl (sess.given buf).rbio).ret

/-- A packet breaks the connection. -/
def DtlsSess.fails (openSsl : OpenSsl Ssl) (sess : DtlsSess Ssl) (buf : Bytes) : Prop :=
  sess.readRet openSsl buf < 0 ∧
    openSsl.isErrorSsl (sess.hasRead openSsl buf).ssl (sess.readRet openSsl buf) = true

instance (sess : DtlsSess Ssl) (buf : Bytes) : Decidable (sess.fails openSsl buf) :=
  inferInstanceAs (Decidable (_ ∧ _))

/-- A session that has looked whether the handshake is finished. -/
def DtlsSess.typed (openSsl : OpenSsl Ssl) (sess : DtlsSess Ssl) : DtlsSess Ssl :=
  if openSsl.isInitFinished sess.ssl then { sess with type := .existing } else sess

theorem run_putSettled (buf : Bytes) (dest : Dest) (sess : DtlsSess Ssl) :
    ((putSettled openSsl buf dest).run sess).2.1 =
      if sess.fails openSsl buf then sess.hasRead openSsl buf
      else (sess.hasRead openSsl buf).flushed.typed openSsl := by
  have given : { sess.flushed with rbio := sess.flushed.rbio ++ buf } = sess.given buf := rfl
  have hasRead : (sess.given buf).called openSsl (.read buf.length) = sess.hasRead openSsl buf :=
    rfl
  have readRet : (openSsl.call (.read buf.length) (sess.given buf).ssl (sess.given buf).rbio).ret =
      sess.readRet openSsl buf := rfl
  simp only [putSettled, run_dtlsSessSendPending_bind, run_update_bind, given, run_sslCall_bind,
    hasRead, readRet, run_current_bind]
  have condition : (sess.readRet openSsl buf < 0 ∧ openSsl.isErrorSsl
      (sess.hasRead openSsl buf).ssl (sess.readRet openSsl buf) = true) =
        sess.fails openSsl buf := rfl
  simp only [condition]
  split
  · rfl
  · rw [run_dtlsSessSendPending_bind, run_current_bind]
    unfold DtlsSess.typed
    split <;> rfl

/-- A session that accepts if it was open to both. -/
def DtlsSess.settled (openSsl : OpenSsl Ssl) (sess : DtlsSess Ssl) : DtlsSess Ssl :=
  if sess.state = .actpass then { sess with state := .pass }.called openSsl .setAcceptState
  else sess

theorem run_dtlsSessPutPacket (buf : Bytes) (dest : Dest) (sess : DtlsSess Ssl) :
    ((dtlsSessPutPacket openSsl buf dest).run sess).2.1 =
      ((putSettled openSsl buf dest).run (sess.settled openSsl)).2.1 := by
  unfold dtlsSessPutPacket DtlsSess.settled
  rw [run_current_bind]
  split <;> rfl

/-! ### Laws of all functions -/

/-- Where an operation sends to. -/
def Operation.recipient : Operation Dest → Option Dest
  | .putPacket _ dest => some dest
  | .doHandshake dest _ => some dest
  | .handleTimeout dest _ => some dest
  | .setup => none
  | .reset => none
  | .renegotiate dest => some dest

/-- What the functions of the library are made of keeps to a law, save for sending. -/
structure Keeps (openSsl : OpenSsl Ssl) (law : Law (DtlsSess Ssl) (Act Dest)) : Prop where
  /-- A call that does not set the side. -/
  call : ∀ call, call ≠ .setAcceptState ∧ call ≠ .setConnectState →
    Obeys law (sslCall openSsl call)
  /-- The side is set from the state. -/
  role : Obeys law (setRole openSsl)
  /-- A session that is open to both accepts. -/
  accepts : ∀ sess : DtlsSess Ssl, sess.state = .actpass →
    law.holds sess ({ sess with state := .pass }.called openSsl .setAcceptState)
      [.ssl .setAcceptState (openSsl.call .setAcceptState sess.ssl sess.rbio).written]
  /-- A session that is open to both connects. -/
  connects : ∀ sess : DtlsSess Ssl, sess.state = .actpass →
    law.holds sess { sess with state := .act } []
  /-- A packet is given to OpenSSL. -/
  given : ∀ (sess : DtlsSess Ssl) buf, law.holds sess { sess with rbio := sess.rbio ++ buf } []
  /-- The type is noted. -/
  typed : ∀ (sess : DtlsSess Ssl) type, law.holds sess { sess with type := type } []

namespace Keeps

variable {law : Law (DtlsSess Ssl) (Act Dest)} {dest : Dest}

theorem noteType (keeps : Keeps openSsl law) (type : DtlsConType) :
    Obeys law (update fun sess => { sess with type := type } : Part Ssl Dest Unit) :=
  obeys_update fun sess => keeps.typed sess type

theorem putSettled (keeps : Keeps openSsl law)
    (pending : ∀ answer, Obeys law (dtlsSessSendPending openSsl dest answer)) (buf : Bytes) :
    Obeys law (putSettled openSsl buf dest) := by
  unfold LibDtlsSrtp.putSettled
  refine (pending 0).bind fun _ => Obeys.bind ?_ fun _ => ?_
  · exact obeys_update fun sess => keeps.given sess buf
  refine (keeps.call (.read buf.length) ⟨SslCall.noConfusion, SslCall.noConfusion⟩).bind fun ret =>
    obeys_current.bind fun sess => ?_
  split
  · exact obeys_pure ret
  · refine (pending 0).bind fun _ => obeys_current.bind fun sess => ?_
    split
    · exact (keeps.noteType .existing).bind fun _ => obeys_pure ret
    · exact obeys_pure ret

theorem dtlsSessPutPacket (keeps : Keeps openSsl law)
    (pending : ∀ answer, Obeys law (dtlsSessSendPending openSsl dest answer)) (buf : Bytes) :
    Obeys law (dtlsSessPutPacket openSsl buf dest) := by
  intro sess
  unfold LibDtlsSrtp.dtlsSessPutPacket
  rw [run_current_bind]
  split
  · rename_i open_to_both
    rw [run_update_bind, run_sslCall_bind]
    exact law.trans (keeps.accepts sess open_to_both) (keeps.putSettled pending buf _)
  · exact keeps.putSettled pending buf sess

theorem handshake (keeps : Keeps openSsl law)
    (pending : ∀ answer, Obeys law (dtlsSessSendPending openSsl dest answer)) (answer : Int) :
    Obeys law (do
      let _ ← sslCall openSsl .doHandshake
      dtlsSessSendPending openSsl dest answer) :=
  (keeps.call .doHandshake ⟨SslCall.noConfusion, SslCall.noConfusion⟩).bind fun _ =>
    pending answer

theorem dtlsDoHandshake (keeps : Keeps openSsl law)
    (pending : ∀ answer, Obeys law (dtlsSessSendPending openSsl dest answer)) (answer : Int) :
    Obeys law (dtlsDoHandshake openSsl dest answer) := by
  intro sess
  unfold LibDtlsSrtp.dtlsDoHandshake
  rw [run_current_bind]
  split
  · exact law.refl sess
  · split
    · rename_i open_to_both
      exact law.trans (keeps.connects sess open_to_both)
        (keeps.handshake pending answer { sess with state := .act })
    · exact keeps.handshake pending answer sess

theorem dtlsSessHandleTimeout (keeps : Keeps openSsl law)
    (pending : ∀ answer, Obeys law (dtlsSessSendPending openSsl dest answer)) (answer : Int) :
    Obeys law (dtlsSessHandleTimeout openSsl dest answer) := by
  unfold LibDtlsSrtp.dtlsSessHandleTimeout
  refine obeys_current.bind fun sess => ?_
  split
  · exact (keeps.call .handleTimeout ⟨SslCall.noConfusion, SslCall.noConfusion⟩).bind fun _ =>
      pending answer
  · exact pending answer

theorem dtlsSessSetup (keeps : Keeps openSsl law) : Obeys law (dtlsSessSetup openSsl) := by
  unfold LibDtlsSrtp.dtlsSessSetup
  refine obeys_current.bind fun sess => ?_
  split
  · exact (keeps.call .clear ⟨SslCall.noConfusion, SslCall.noConfusion⟩).bind fun _ =>
      keeps.role.bind fun _ => keeps.noteType .new
  · exact obeys_pure ()

theorem dtlsSessReset (keeps : Keeps openSsl law) : Obeys law (dtlsSessReset openSsl) := by
  unfold LibDtlsSrtp.dtlsSessReset
  refine obeys_current.bind fun sess => ?_
  split
  · exact (keeps.call .shutdown ⟨SslCall.noConfusion, SslCall.noConfusion⟩).bind fun _ =>
      keeps.noteType .new
  · exact obeys_pure ()

theorem dtlsSessRenegotiate (keeps : Keeps openSsl law)
    (pending : ∀ answer, Obeys law (dtlsSessSendPending openSsl dest answer)) :
    Obeys law (dtlsSessRenegotiate openSsl dest) := by
  unfold LibDtlsSrtp.dtlsSessRenegotiate
  exact (keeps.call .renegotiate ⟨SslCall.noConfusion, SslCall.noConfusion⟩).bind fun _ =>
    (keeps.call .doHandshake ⟨SslCall.noConfusion, SslCall.noConfusion⟩).bind fun _ =>
      (pending 0).bind fun _ => obeys_pure ()

/-- Every function of the library keeps to a law that its parts keep to, if sending to where it
sends does. -/
theorem perform (keeps : Keeps openSsl law) (operation : Operation Dest)
    (pending : ∀ dest answer, operation.recipient = some dest →
      Obeys law (dtlsSessSendPending openSsl dest answer)) :
    Obeys law (perform openSsl operation) := by
  cases operation with
  | putPacket buf dest =>
      exact (keeps.dtlsSessPutPacket (fun answer => pending dest answer rfl) buf).bind fun _ =>
        obeys_pure ()
  | doHandshake dest answer =>
      exact (keeps.dtlsDoHandshake (fun answer => pending dest answer rfl) answer).bind fun _ =>
        obeys_pure ()
  | handleTimeout dest answer =>
      exact (keeps.dtlsSessHandleTimeout (fun answer => pending dest answer rfl) answer).bind
        fun _ => obeys_pure ()
  | setup => exact keeps.dtlsSessSetup
  | reset => exact keeps.dtlsSessReset
  | renegotiate dest => exact keeps.dtlsSessRenegotiate fun answer => pending dest answer rfl

end Keeps

/-! ### Nothing is lost -/

theorem sent_flushActs (sess : DtlsSess Ssl) (dest : Dest) :
    sent (sess.flushActs openSsl dest) = sess.wbio := by
  rw [sent, datagrams_flushActs]
  split
  · rename_i nothing
    rw [nothing]
    rfl
  · exact List.append_nil _

theorem wrote_flushActs (sess : DtlsSess Ssl) (dest : Dest) :
    wrote (sess.flushActs openSsl dest) = [] := by
  unfold DtlsSess.flushActs
  split
  · rfl
  · cases sess.sched <;> rfl

variable {allowed : Dest → Prop}

theorem relays_of_same {before after : DtlsSess Ssl} (same : after.wbio = before.wbio) :
    Relays allowed before after [] :=
  ⟨same.trans (List.append_nil _).symm, fun _ member => absurd member List.not_mem_nil⟩

theorem relays_sslCall (call : SslCall) :
    Obeys (relaying allowed) (sslCall openSsl call : Part Ssl Dest Int) := by
  intro sess
  rw [run_sslCall]
  refine ⟨?_, fun _ member => absurd member List.not_mem_nil⟩
  show [] ++ (sess.wbio ++ _) = sess.wbio ++ (_ ++ [])
  rw [List.append_nil]
  rfl

theorem relays_dtlsSessSendPending {dest : Dest} (address : allowed dest) (answer : Int) :
    Obeys (relaying allowed) (dtlsSessSendPending openSsl dest answer) := by
  intro sess
  rw [run_dtlsSessSendPending]
  constructor
  · show sent (sess.flushActs openSsl dest) ++ [] =
      sess.wbio ++ wrote (sess.flushActs openSsl dest)
    rw [sent_flushActs, wrote_flushActs]
  · intro datagram member
    rw [datagrams_flushActs] at member
    split at member
    · exact absurd member List.not_mem_nil
    · rename_i something
      obtain rfl := List.mem_singleton.mp member
      exact ⟨something, address⟩

theorem relays_setRole : Obeys (relaying allowed) (setRole openSsl : Part Ssl Dest Unit) := by
  unfold setRole
  refine obeys_current.bind fun sess => ?_
  split
  · exact (relays_sslCall .setAcceptState).bind fun _ => obeys_pure ()
  · exact (relays_sslCall .setConnectState).bind fun _ => obeys_pure ()

/-- What the functions are made of relays what is written. -/
theorem keeps_relaying : Keeps openSsl (relaying allowed) where
  call call _ := relays_sslCall call
  role := relays_setRole
  accepts sess _ :=
    let passive : DtlsSess Ssl := { sess with state := .pass }
    have opened : Relays allowed sess passive [] := relays_of_same rfl
    (relaying allowed).trans opened (relays_sslCall .setAcceptState passive)
  connects _ _ := relays_of_same rfl
  given _ _ := relays_of_same rfl
  typed _ _ := relays_of_same rfl

/-- Every function of the library relays what is written. -/
theorem relays_perform (operation : Operation Dest)
    (address : ∀ dest, operation.recipient = some dest → allowed dest) :
    Obeys (relaying allowed) (perform openSsl operation) :=
  keeps_relaying.perform operation fun dest answer recipient =>
    relays_dtlsSessSendPending (address dest recipient) answer

/-! ### Nothing is left behind -/

/-- Whether an operation sends what is pending when it is done with OpenSSL. -/
def Flushes (openSsl : OpenSsl Ssl) : DtlsSess Ssl × Operation Dest → Prop
  | (sess, .putPacket buf _) => ¬(sess.settled openSsl).fails openSsl buf
  | (sess, .doHandshake _ _) => sess.state = .act ∨ sess.state = .actpass
  | (_, .handleTimeout _ _) => True
  | (_, .setup) => False
  | (_, .reset) => False
  | (_, .renegotiate _) => True

theorem wbio_typed (sess : DtlsSess Ssl) : (sess.typed openSsl).wbio = sess.wbio := by
  unfold DtlsSess.typed
  split <;> rfl

theorem wbio_run_dtlsSessSendPending (dest : Dest) (answer : Int) (sess : DtlsSess Ssl) :
    ((dtlsSessSendPending openSsl dest answer).run sess).2.1.wbio = [] := by
  rw [run_dtlsSessSendPending]
  rfl

theorem wbio_dtlsDoHandshake {sess : DtlsSess Ssl}
    (willing : sess.state = .act ∨ sess.state = .actpass) (dest : Dest) (answer : Int) :
    ((dtlsDoHandshake openSsl dest answer).run sess).2.1.wbio = [] := by
  unfold dtlsDoHandshake
  rw [run_current_bind, if_neg (by tauto)]
  split
  · rw [run_update_bind, run_sslCall_bind]
    exact wbio_run_dtlsSessSendPending dest answer _
  · rw [run_sslCall_bind]
    exact wbio_run_dtlsSessSendPending dest answer _

theorem wbio_dtlsSessHandleTimeout (sess : DtlsSess Ssl) (dest : Dest) (answer : Int) :
    ((dtlsSessHandleTimeout openSsl dest answer).run sess).2.1.wbio = [] := by
  unfold dtlsSessHandleTimeout
  rw [run_current_bind]
  split
  · rw [run_sslCall_bind]
    exact wbio_run_dtlsSessSendPending dest answer _
  · exact wbio_run_dtlsSessSendPending dest answer sess

theorem wbio_of_flushes {sess : DtlsSess Ssl} {operation : Operation Dest}
    (flushes : Flushes openSsl (sess, operation)) :
    ((perform openSsl operation).run sess).2.1.wbio = [] := by
  cases operation with
  | putPacket buf dest =>
      rw [perform, snd_run_bind_pure, run_dtlsSessPutPacket, run_putSettled, if_neg flushes,
        wbio_typed]
      rfl
  | doHandshake dest answer =>
      rw [perform, snd_run_bind_pure]
      exact wbio_dtlsDoHandshake flushes dest answer
  | handleTimeout dest answer =>
      rw [perform, snd_run_bind_pure]
      exact wbio_dtlsSessHandleTimeout sess dest answer
  | setup => exact absurd flushes id
  | reset => exact absurd flushes id
  | renegotiate dest =>
      rw [perform, dtlsSessRenegotiate, run_sslCall_bind, run_sslCall_bind]
      dsimp only
      rw [snd_run_bind_pure]
      exact wbio_run_dtlsSessSendPending dest 0 _

/-! ### Runs -/

/-- A session after the given operations, and everything that has been done since it was
created. -/
def used (openSsl : OpenSsl Ssl) (start : DtlsSess Ssl × List (Act Dest))
    (operations : List (Operation Dest)) : DtlsSess Ssl × List (Act Dest) :=
  (final (perform openSsl) start.1 operations,
    start.2 ++ (logs (perform openSsl) start.1 operations).flatten)

theorem relays_dtlsSessNew (openSsl : OpenSsl Ssl) (fresh : Ssl) (sched : Bool)
    (conState : DtlsConState) :
    let start : DtlsSess Ssl × List (Act Dest) := dtlsSessNew openSsl fresh sched conState
    Relays (fun _ => True) ⟨fresh, [], [], sched, conState, .new⟩ start.1 start.2 :=
  relays_setRole ⟨fresh, [], [], sched, conState, .new⟩

/-- A session is a relay between OpenSSL and the sink. -/
structure Relayed (openSsl : OpenSsl Ssl) (start : DtlsSess Ssl × List (Act Dest))
    (operations : List (Operation Dest)) : Prop where
  /-- What has been sent is what has been written, save for what is pending at the end. -/
  conserved : sent (used openSsl start operations).2 ++ (used openSsl start operations).1.wbio =
    wrote (used openSsl start operations).2
  /-- An operation that sends what is pending leaves nothing behind. -/
  flushed : ∀ earlier operation, operations = earlier ++ [operation] →
    Flushes openSsl ((used openSsl start earlier).1, operation) →
      sent (used openSsl start operations).2 = wrote (used openSsl start operations).2
  /-- An operation sends to one address, and nothing empty. -/
  addressed : ∀ visit ∈ visits (perform openSsl) start.1 operations,
    ∀ datagram ∈ datagrams (written (perform openSsl) visit),
      datagram.1 ≠ [] ∧ visit.2.recipient = some datagram.2

theorem conserved_used (openSsl : OpenSsl Ssl) (fresh : Ssl) (sched : Bool)
    (conState : DtlsConState) (operations : List (Operation Dest)) :
    let after := used openSsl (dtlsSessNew openSsl fresh sched conState) operations
    sent after.2 ++ after.1.wbio = wrote after.2 := by
  let start : DtlsSess Ssl × List (Act Dest) := dtlsSessNew openSsl fresh sched conState
  have run : Relays (fun _ => True) start.1 (final (perform openSsl) start.1 operations)
      (logs (perform openSsl) start.1 operations).flatten :=
    holds_run (perform openSsl) (fun operation => relays_perform operation fun _ _ => trivial)
      start.1 operations
  exact ((relaying fun _ => True).trans
    (relays_dtlsSessNew openSsl fresh sched conState) run).conserved

/-- Every run of a new session relays what OpenSSL writes, whatever OpenSSL does. -/
theorem relayed (openSsl : OpenSsl Ssl) (fresh : Ssl) (sched : Bool) (conState : DtlsConState)
    (operations : List (Operation Dest)) :
    Relayed openSsl (dtlsSessNew openSsl fresh sched conState) operations := by
  refine ⟨conserved_used openSsl fresh sched conState operations, ?_, ?_⟩
  · rintro earlier operation rfl flushes
    have whole := conserved_used openSsl fresh sched conState (earlier ++ [operation])
    have nothing : (used openSsl (dtlsSessNew openSsl fresh sched conState)
        (earlier ++ [operation])).1.wbio = [] := by
      rw [used, final_append]
      exact wbio_of_flushes flushes
    dsimp only at whole
    rwa [nothing, List.append_nil] at whole
  · intro visit member datagram sends
    have relays := @relays_perform Ssl Dest openSsl (fun dest => visit.2.recipient = some dest)
      visit.2 (fun _ same => same) visit.1
    exact relays.addressed datagram sends

end LibDtlsSrtp
end Contest
