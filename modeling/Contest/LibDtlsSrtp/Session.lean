import Contest.Crystal
import Contest.Foundation.Logged

/-!
# Sessions of the DTLS library

The sessions of `libdtlssrtp`.  OpenSSL reads records from one memory buffer and writes records to
another one; the library puts what arrives into the first and sends what is in the second.  What
OpenSSL does in a call is supplied by the environment.
-/

namespace Contest
namespace LibDtlsSrtp

/-- `dtls_con_state`. -/
inductive DtlsConState
  /-- `DTLS_CONSTATE_ACT`. -/
  | act
  /-- `DTLS_CONSTATE_PASS`. -/
  | pass
  /-- `DTLS_CONSTATE_ACTPASS`. -/
  | actpass
  /-- `DTLS_CONSTATE_HOLDCONN`. -/
  | holdconn
deriving DecidableEq, Repr

/-- `dtls_con_type`. -/
inductive DtlsConType
  /-- `DTLS_CONTYPE_NEW`. -/
  | new
  /-- `DTLS_CONTYPE_EXISTING`. -/
  | existing
deriving DecidableEq, Repr

/-- The calls of OpenSSL that change an `SSL`. -/
inductive SslCall
  /-- `SSL_set_accept_state`. -/
  | setAcceptState
  /-- `SSL_set_connect_state`. -/
  | setConnectState
  /-- `SSL_read` into a buffer of the given size. -/
  | read (len : Nat)
  /-- `SSL_do_handshake`. -/
  | doHandshake
  /-- `DTLSv1_handle_timeout`. -/
  | handleTimeout
  /-- `SSL_renegotiate`. -/
  | renegotiate
  /-- `SSL_clear`. -/
  | clear
  /-- `SSL_shutdown`. -/
  | shutdown
deriving DecidableEq, Repr

/-- What such a call leaves. -/
structure SslTurn (Ssl : Type) where
  /-- What it returns. -/
  ret : Int
  /-- The `SSL`. -/
  ssl : Ssl
  /-- What it has not read. -/
  rbio : Bytes
  /-- What it has written. -/
  written : Bytes

/-- A `timeval`. -/
structure Timeval where
  /-- `tv_sec`. -/
  sec : Int
  /-- `tv_usec`. -/
  usec : Int
deriving DecidableEq, Repr

/-- OpenSSL. -/
structure OpenSsl (Ssl : Type) where
  /-- What a call makes of an `SSL`, with what there is to be read. -/
  call : SslCall → Ssl → (rbio : Bytes) → SslTurn Ssl
  /-- Whether `SSL_get_error` says `SSL_ERROR_SSL` about a result. -/
  isErrorSsl : Ssl → (ret : Int) → Bool
  /-- `SSL_is_init_finished`. -/
  isInitFinished : Ssl → Bool
  /-- `DTLSv1_get_timeout`. -/
  getTimeout : Ssl → Option Timeval
  /-- `SSL_export_keying_material` of 60 bytes under the label of DTLS-SRTP. -/
  exportKeyingMaterial : Ssl → Option {material : Bytes // material.length = 60}

/-- `dtls_sess`; its `ssl` is never null, since `dtls_sess_new` gives no session without one. -/
structure DtlsSess (Ssl : Type) where
  /-- The `SSL`. -/
  ssl : Ssl
  /-- What there is to be read. -/
  rbio : Bytes
  /-- What there is to be sent. -/
  wbio : Bytes
  /-- Whether the sink has a `sched`. -/
  sched : Bool
  /-- The state. -/
  state : DtlsConState
  /-- The type. -/
  type : DtlsConType

/-- What is done in a function of the library. -/
inductive Act (Dest : Type)
  /-- A call of OpenSSL, with what it has written. -/
  | ssl (call : SslCall) (written : Bytes)
  /-- `sched` of the sink. -/
  | sched (timeout : Option Timeval)
  /-- `sendto` of the sink. -/
  | sendto (data : Bytes) (dest : Dest)

variable {Ssl Dest : Type}

/-- A part of a function of the library, none of which raises. -/
abbrev Part (Ssl Dest : Type) := Logged (DtlsSess Ssl) (Act Dest) Empty

open Logged

variable (openSsl : OpenSsl Ssl)

/-- A call of OpenSSL. -/
def sslCall (call : SslCall) : Part Ssl Dest Int := do
  let sess ← current
  let turn := openSsl.call call sess.ssl sess.rbio
  update fun sess =>
    { sess with ssl := turn.ssl, rbio := turn.rbio, wbio := sess.wbio ++ turn.written }
  emit (.ssl call turn.written)
  return turn.ret

/-- The role in the handshake is set from the state. -/
def setRole : Part Ssl Dest Unit := do
  let sess ← current
  if sess.state = .pass then
    let _ ← sslCall openSsl .setAcceptState
  else
    let _ ← sslCall openSsl .setConnectState

/-- `dtls_sess_new` with the `SSL` of `SSL_new`, once everything has been allocated. -/
def dtlsSessNew (fresh : Ssl) (sched : Bool) (conState : DtlsConState) :
    DtlsSess Ssl × List (Act Dest) :=
  ((setRole openSsl).run
    { ssl := fresh
      rbio := []
      wbio := []
      sched := sched
      state := conState
      type := .new }).2

/-- `dtls_sess_send_pending`, with what `sendto` answers. -/
def dtlsSessSendPending (dest : Dest) (answer : Int) : Part Ssl Dest Int := do
  let sess ← current
  if 0 < sess.wbio.length then
    update fun sess => { sess with wbio := [] }
    if sess.sched then emit (.sched (openSsl.getTimeout sess.ssl))
    emit (.sendto sess.wbio dest)
    return answer
  else return 0

/-- `dtls_sess_put_packet`, from where it is settled who accepts. -/
def putSettled (buf : Bytes) (dest : Dest) : Part Ssl Dest Int := do
  -- what `sendto` answers is not looked at
  let _ ← dtlsSessSendPending openSsl dest 0
  update fun sess => { sess with rbio := sess.rbio ++ buf }
  let ret ← sslCall openSsl (.read buf.length)
  let sess ← current
  if ret < 0 ∧ openSsl.isErrorSsl sess.ssl ret = true then return ret
  let _ ← dtlsSessSendPending openSsl dest 0
  let sess ← current
  if openSsl.isInitFinished sess.ssl then update fun sess => { sess with type := .existing }
  return ret

/-- `dtls_sess_put_packet`. -/
def dtlsSessPutPacket (buf : Bytes) (dest : Dest) : Part Ssl Dest Int := do
  let sess ← current
  if sess.state = .actpass then
    update fun sess => { sess with state := .pass }
    let _ ← sslCall openSsl .setAcceptState
  putSettled openSsl buf dest

/-- `dtls_do_handshake`, with what `sendto` answers. -/
def dtlsDoHandshake (dest : Dest) (answer : Int) : Part Ssl Dest Int := do
  let sess ← current
  if sess.state ≠ .act ∧ sess.state ≠ .actpass then return 0
  if sess.state = .actpass then update fun sess => { sess with state := .act }
  let _ ← sslCall openSsl .doHandshake
  dtlsSessSendPending openSsl dest answer

/-- `dtls_sess_handle_timeout`, with what `sendto` answers. -/
def dtlsSessHandleTimeout (dest : Dest) (answer : Int) : Part Ssl Dest Int := do
  let sess ← current
  if !openSsl.isInitFinished sess.ssl then
    let _ ← sslCall openSsl .handleTimeout
  dtlsSessSendPending openSsl dest answer

/-- `dtls_sess_setup`. -/
def dtlsSessSetup : Part Ssl Dest Unit := do
  let sess ← current
  if openSsl.isInitFinished sess.ssl then
    let _ ← sslCall openSsl .clear
    setRole openSsl
    update fun sess => { sess with type := .new }

/-- `dtls_sess_reset`. -/
def dtlsSessReset : Part Ssl Dest Unit := do
  let sess ← current
  if openSsl.isInitFinished sess.ssl then
    let _ ← sslCall openSsl .shutdown
    update fun sess => { sess with type := .new }

/-- `dtls_sess_renegotiate`. -/
def dtlsSessRenegotiate (dest : Dest) : Part Ssl Dest Unit := do
  let _ ← sslCall openSsl .renegotiate
  let _ ← sslCall openSsl .doHandshake
  let _ ← dtlsSessSendPending openSsl dest 0

/-- What can be asked of a session. -/
inductive Operation (Dest : Type)
  /-- `dtls_sess_put_packet`. -/
  | putPacket (buf : Bytes) (dest : Dest)
  /-- `dtls_do_handshake`. -/
  | doHandshake (dest : Dest) (answer : Int)
  /-- `dtls_sess_handle_timeout`. -/
  | handleTimeout (dest : Dest) (answer : Int)
  /-- `dtls_sess_setup`. -/
  | setup
  /-- `dtls_sess_reset`. -/
  | reset
  /-- `dtls_sess_renegotiate`. -/
  | renegotiate (dest : Dest)

/-- An operation on a session. -/
def perform : Operation Dest → Part Ssl Dest Unit
  | .putPacket buf dest => do let _ ← dtlsSessPutPacket openSsl buf dest
  | .doHandshake dest answer => do let _ ← dtlsDoHandshake openSsl dest answer
  | .handleTimeout dest answer => do let _ ← dtlsSessHandleTimeout openSsl dest answer
  | .setup => dtlsSessSetup openSsl
  | .reset => dtlsSessReset openSsl
  | .renegotiate dest => dtlsSessRenegotiate openSsl dest

/-! ### Key material -/

/-- `srtp_key_material`. -/
structure SrtpKeyMaterial where
  /-- Two keys and two salts. -/
  material : {material : Bytes // material.length = 60}
  /-- Which side of the handshake it is from. -/
  ispassive : DtlsConState

/-- `srtp_key_ptrs`, with what is behind them. -/
structure SrtpKeyPtrs where
  /-- The key for packets sent. -/
  localkey : Bytes
  /-- The key for packets received. -/
  remotekey : Bytes
  /-- The salt for packets sent. -/
  localsalt : Bytes
  /-- The salt for packets received. -/
  remotesalt : Bytes

/-- `srtp_get_key_material`. -/
def srtpGetKeyMaterial (sess : DtlsSess Ssl) : Option SrtpKeyMaterial :=
  if !openSsl.isInitFinished sess.ssl then none
  else (openSsl.exportKeyingMaterial sess.ssl).map fun material => ⟨material, sess.state⟩

/-- `srtp_key_material_extract`. -/
def srtpKeyMaterialExtract (km : SrtpKeyMaterial) : SrtpKeyPtrs :=
  let part start size := (km.material.val.drop start).take size
  if km.ispassive = .act then
    { localkey := part 0 16
      remotekey := part 16 16
      localsalt := part 32 14
      remotesalt := part 46 14 }
  else
    { remotekey := part 0 16
      localkey := part 16 16
      remotesalt := part 32 14
      localsalt := part 46 14 }

end LibDtlsSrtp
end Contest
