import Contest.Transport.Srtp

/-!
# The DTLS session

`handle_dtls` frees the session once the connection is established, and keeps the pointer.  The next
record that reaches it is put into the freed session, and if the connection still counts as
established, everything is done once more.
-/

namespace Contest
namespace Transport
namespace Srtp

open Logged

/-- The life cycle of the sessions of a transport. -/
structure LifeCycle (acts : List Act) : Prop where
  /-- The DTLS session is not used once it has been freed. -/
  no_use_after_free : acts.Pairwise fun earlier later =>
    earlier = .freeSession → later ≠ .useSession
  /-- The DTLS session is freed at most once. -/
  freed_once : acts.count .freeSession ≤ 1
  /-- The session for packets sent is created at most once. -/
  outgoing_once : acts.count .createOutgoing ≤ 1
  /-- The session for packets received is created at most once. -/
  incoming_once : acts.count .createIncoming ≤ 1
  /-- The call is started at most once. -/
  started_once : acts.count .startCall ≤ 1

/-- The acts that are done at most once. -/
def once : List Act := [.freeSession, .createOutgoing, .createIncoming, .startCall]

/-- One act can come after another. -/
def Follows (earlier later : Act) : Prop :=
  (earlier = .freeSession → later ≠ .useSession) ∧ ∀ act ∈ once, earlier = act → later ≠ act

/-- Anything can come after an act that can be done again. -/
theorem follows_of_not_mem {earlier : Act} (again : earlier ∉ once) (later : Act) :
    Follows earlier later := by
  refine ⟨?_, ?_⟩
  · rintro rfl
    exact absurd List.mem_cons_self again
  · rintro act member rfl
    exact absurd member again

/-- At most one occurrence is none behind any other. -/
theorem count_le_one_iff {α : Type*} [DecidableEq α] {element : α} {list : List α} :
    list.count element ≤ 1 ↔
      list.Pairwise fun earlier later => earlier = element → later ≠ element := by
  induction list with
  | nil => simp
  | cons head list ih =>
      rw [List.pairwise_cons, ← ih, List.count_cons]
      by_cases same : head = element
      · subst same
        have none_left : (∀ later ∈ list, later ≠ head) ↔ list.count head = 0 := by
          rw [List.count_eq_zero]
          exact ⟨fun all member => all head member rfl, fun absent later member same =>
            absent (same ▸ member)⟩
        simp only [forall_const, none_left, beq_self_eq_true, if_true]
        omega
      · simp [same]

/-- A log has the life cycle if its acts can come after each other. -/
theorem lifeCycle_iff_pairwise {acts : List Act} : LifeCycle acts ↔ acts.Pairwise Follows := by
  show LifeCycle acts ↔ acts.Pairwise fun earlier later => Follows earlier later
  simp only [Follows, once, List.forall_mem_cons, List.pairwise_and_iff, ← count_le_one_iff]
  constructor
  · rintro ⟨no_use, freed, outgoing, incoming, started⟩
    exact ⟨no_use, freed, outgoing, incoming, started, List.pairwise_of_forall (by simp)⟩
  · rintro ⟨no_use, freed, outgoing, incoming, started, -⟩
    exact ⟨no_use, freed, outgoing, incoming, started⟩

theorem pairwise_of_again {acts : List Act} (again : ∀ act ∈ acts, act ∉ once) :
    acts.Pairwise Follows :=
  List.pairwise_of_forall_mem_list fun act member later _ =>
    follows_of_not_mem (again act member) later

/-- One record keeps to the life cycle. -/
theorem pairwise_acts (reply : DtlsReply) : reply.acts.Pairwise Follows := by
  obtain ⟨uses, sublist⟩ := reply.acts_sublist
  refine List.Pairwise.sublist sublist (List.pairwise_append.mpr ⟨?_, ?_, ?_⟩)
  · apply pairwise_of_again
    intro act member
    rw [List.eq_of_mem_replicate member]
    decide
  · simp [Follows, once]
  · intro act member later _
    rw [List.eq_of_mem_replicate member]
    exact follows_of_not_mem (by decide) later

/-! ### The records of a run -/

/-- Whether an operation gives a record to the DTLS library. -/
def handlesRecord : Srtp × Operation → Bool
  | (srtp, .process datagram) => reachesDtls srtp datagram
  | _ => false

/-- Whether an operation gives it a record that establishes the connection. -/
def establishes : Srtp × Operation → Bool
  | (srtp, .process datagram) => reachesDtls srtp datagram && datagram.dtls.established
  | _ => false

theorem handlesRecord_iff {visit : Srtp × Operation} :
    handlesRecord visit = true ↔ ∃ datagram, visit.2 = .process datagram ∧
      reachesDtls visit.1 datagram = true := by
  obtain ⟨srtp, operation⟩ := visit
  cases operation <;> simp [handlesRecord]

theorem establishes_iff {visit : Srtp × Operation} :
    establishes visit = true ↔ ∃ datagram, visit.2 = .process datagram ∧
      reachesDtls visit.1 datagram = true ∧ datagram.dtls.established = true := by
  obtain ⟨srtp, operation⟩ := visit
  cases operation <;> simp [establishes]

/-- What is done to the sessions in an operation. -/
def recordActs : Srtp × Operation → List Act
  | (srtp, .process datagram) => if reachesDtls srtp datagram then datagram.dtls.acts else []
  | _ => []

/-- The sessions are touched only for a record that is handled, after everything else. -/
theorem exists_written_eq (visit : Srtp × Operation) :
    ∃ media, (∀ act ∈ media, act ≠ .useSession ∧ act ∉ once) ∧
      written perform visit = media ++ recordActs visit := by
  obtain ⟨srtp, operation⟩ := visit
  by_cases processes : ∃ datagram, operation = .process datagram
  · obtain ⟨datagram, rfl⟩ := processes
    obtain ⟨replies, answers, acts⟩ := written_process datagram srtp
    refine ⟨replies ++ (feeds datagram).map fun packet => .feed packet.1 packet.2, ?_, ?_⟩
    · intro act member
      rcases List.mem_append.mp member with reply | feed
      · obtain ⟨reply, addr, rfl⟩ := answers act reply
        simp [once]
      · obtain ⟨packet, -, rfl⟩ := List.mem_map.mp feed
        simp [once]
    · rw [List.append_assoc]
      exact acts
  · have other : recordActs (srtp, operation) = [] := by
      cases operation with
      | process datagram => exact absurd ⟨datagram, rfl⟩ processes
      | _ => rfl
    refine ⟨written perform (srtp, operation), ?_, by rw [other, List.append_nil]⟩
    intro act member
    obtain ⟨datagram, addr, rfl⟩ :=
      (written_cases (srtp, operation)).resolve_left processes act member
    simp [once]

theorem mem_written_iff {visit : Srtp × Operation} {act : Act}
    (session : act = .useSession ∨ act ∈ once) :
    act ∈ written perform visit ↔ ∃ datagram, visit.2 = .process datagram ∧
      reachesDtls visit.1 datagram = true ∧ act ∈ datagram.dtls.acts := by
  obtain ⟨media, again, acts⟩ := exists_written_eq visit
  have not_media : act ∉ media := by
    intro member
    obtain ⟨not_used, not_once⟩ := again act member
    exact session.elim not_used not_once
  rw [acts, List.mem_append, or_iff_right not_media]
  obtain ⟨srtp, operation⟩ := visit
  cases operation <;> simp [recordActs]

/-- The DTLS session is used for each record that is handled. -/
theorem useSession_mem_iff {visit : Srtp × Operation} :
    .useSession ∈ written perform visit ↔ handlesRecord visit = true := by
  have used : ∀ reply : DtlsReply, Act.useSession ∈ reply.acts := by
    intro reply
    refine List.mem_append_left _ (List.mem_replicate.mpr ⟨?_, rfl⟩)
    split <;> omega
  rw [mem_written_iff (.inl rfl), handlesRecord_iff]
  simp only [used, and_true]

/-- What is done once is done only when the connection is established. -/
theorem established_of_mem {reply : DtlsReply} {act : Act} (listed : act ∈ once)
    (member : act ∈ reply.acts) : reply.established = true := by
  by_contra open_still
  rw [DtlsReply.acts, if_neg open_still, List.append_nil] at member
  rw [List.eq_of_mem_replicate member] at listed
  exact absurd listed (by decide)

theorem establishes_of_mem {visit : Srtp × Operation} {act : Act} (listed : act ∈ once)
    (member : act ∈ written perform visit) : establishes visit = true := by
  obtain ⟨datagram, processes, reaches, acts⟩ := (mem_written_iff (.inr listed)).mp member
  exact establishes_iff.mpr ⟨datagram, processes, reaches, established_of_mem listed acts⟩

/-- The DTLS session is freed when the connection is established. -/
theorem freeSession_mem_of_establishes {visit : Srtp × Operation}
    (establishing : establishes visit = true) : .freeSession ∈ written perform visit := by
  obtain ⟨datagram, processes, reaches, established⟩ := establishes_iff.mp establishing
  refine (mem_written_iff (.inr List.mem_cons_self)).mpr ⟨datagram, processes, reaches, ?_⟩
  rw [DtlsReply.acts, if_pos established]
  simp

theorem pairwise_recordActs (visit : Srtp × Operation) : (recordActs visit).Pairwise Follows := by
  obtain ⟨srtp, operation⟩ := visit
  cases operation with
  | process datagram =>
      rw [recordActs]
      split
      · exact pairwise_acts datagram.dtls
      · exact List.Pairwise.nil
  | _ => exact List.Pairwise.nil

/-- Every operation keeps to the life cycle. -/
theorem pairwise_written (visit : Srtp × Operation) : (written perform visit).Pairwise Follows := by
  obtain ⟨media, again, acts⟩ := exists_written_eq visit
  rw [acts]
  refine List.pairwise_append.mpr ⟨?_, pairwise_recordActs visit, ?_⟩
  · exact pairwise_of_again fun act member => (again act member).2
  · exact fun act member later _ => follows_of_not_mem (again act member).2 later

/-- Two operations keep to the life cycle, unless the first establishes a connection and the second
handles a record. -/
theorem follows_iff (left right : Srtp × Operation) :
    (∀ earlier ∈ written perform left, ∀ later ∈ written perform right, Follows earlier later) ↔
      (establishes left = true → handlesRecord right = false) := by
  constructor
  · intro all establishing
    by_contra handled
    have used := useSession_mem_iff.mpr (Bool.eq_true_of_not_eq_false handled)
    exact (all _ (freeSession_mem_of_establishes establishing) _ used).1 rfl rfl
  · intro apart earlier first later second
    refine ⟨?_, ?_⟩
    · rintro rfl rfl
      have handled := useSession_mem_iff.mp second
      rw [apart (establishes_of_mem List.mem_cons_self first)] at handled
      exact absurd handled (by decide)
    · rintro act listed rfl rfl
      obtain ⟨datagram, processes, reaches, -⟩ := (mem_written_iff (.inr listed)).mp second
      have handled := handlesRecord_iff.mpr ⟨datagram, processes, reaches⟩
      rw [apart (establishes_of_mem listed first)] at handled
      exact absurd handled (by decide)

/-- The sessions of a transport have their life cycle, exactly if no record is handled after one
that establishes the connection. -/
theorem lifeCycle_iff (srtp : Srtp) (operations : List Operation) :
    LifeCycle (logs perform srtp operations).flatten ↔
      (visits perform srtp operations).Pairwise fun earlier later =>
        establishes earlier = true → handlesRecord later = false := by
  rw [lifeCycle_iff_pairwise, List.pairwise_flatten, logs, List.pairwise_map]
  simp only [follows_iff]
  refine and_iff_right ?_
  intro log member
  obtain ⟨visit, -, rfl⟩ := List.mem_map.mp member
  exact pairwise_written visit

/-- The record that finishes the handshake is sent again. -/
def handshakeTwice : List Operation :=
  [.process (sampleDatagram [22]), .process (sampleDatagram [22])]

/-- The session is freed for each of the two. -/
theorem session_freed_twice : ¬∀ srtp operations,
    LifeCycle (logs perform srtp operations).flatten := by
  intro claimed
  exact absurd (claimed sample handshakeTwice).freed_once (by decide)

end Srtp
end Transport
end Contest
