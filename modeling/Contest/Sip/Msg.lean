import Contest.Sip.Header
import Contest.Sdp.Header

/-!
# SIP messages

`SIP::Msg` splits a message once at an empty line.  The delimiter is a capture group, so it counts
as a piece of its own and a message with one delimiter has three.
-/

namespace Contest
namespace Sip

open Splitting

/-- `SIP_SEC_DELIMITER`. -/
def sectionDelimiter : Delimiter Char
  | '\r' :: '\n' :: '\r' :: '\n' :: _ => 4
  | '\r' :: '\r' :: _ => 2
  | '\n' :: '\n' :: _ => 2
  | _ => 0

/-- `SIP::Msg`. -/
structure Msg where
  /-- The header block. -/
  sipHeader : Header
  /-- The session description in the body. -/
  sdpHeader : Sdp.Header

/-- `SIP::Msg.new`. -/
def Msg.new (str : Text) : Fallible Msg :=
  match split sectionDelimiter str with
  | [header, body] => do
      let sipHeader ← Header.new header
      let sdpHeader ← Sdp.Header.new body
      return ⟨sipHeader, sdpHeader⟩
  | pieces => .error (.raised
      s!"Could not separate header and body of SIP message ({2 * pieces.length - 1} splits)")

/-- A message is accepted in exactly two parts, and each is read on its own. -/
theorem Msg.new_eq_ok {str : Text} {msg : Msg} :
    Msg.new str = .ok msg ↔ ∃ header body, split sectionDelimiter str = [header, body] ∧
      Header.new header = .ok msg.sipHeader ∧ Sdp.Header.new body = .ok msg.sdpHeader := by
  unfold Msg.new
  split
  · rename_i header body cut
    constructor
    · intro accepted
      obtain ⟨sipHeader, read_header, accepted⟩ := bind_eq_ok.mp accepted
      obtain ⟨sdpHeader, read_body, accepted⟩ := bind_eq_ok.mp accepted
      obtain rfl : _ = msg := Except.ok.inj accepted
      exact ⟨header, body, cut, read_header, read_body⟩
    · rintro ⟨first, second, same, read_header, read_body⟩
      obtain ⟨rfl, rfl⟩ : header = first ∧ body = second := by simpa using cut.symm.trans same
      exact bind_eq_ok.mpr ⟨_, read_header, bind_eq_ok.mpr ⟨_, read_body, rfl⟩⟩
  · rename_i pieces differ
    constructor
    · intro accepted
      simp at accepted
    · rintro ⟨header, body, cut, -⟩
      exact absurd cut (differ header body)

end Sip
end Contest
