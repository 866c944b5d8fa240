import Contest.LibSrtp.Calls
import Contest.LibSrtp.Index

/-!
# Counters are used once

Whatever is sent and received with a session, no two packets are encrypted or decrypted under the
same rollover counter and sequence number, and so no counter block is enciphered twice.
-/

namespace Contest
namespace LibSrtp

open ReplayWindow

variable {gcrypt : Gcrypt} {shifts : Shifts} {session : Session}

/-- What `rtp_crypt` is called with, besides the key and the salt. -/
structure Use where
  /-- The source. -/
  ssrc : Bytes
  /-- The rollover counter. -/
  roc : UInt32
  /-- The sequence number. -/
  seq : UInt16
  /-- The text. -/
  text : Bytes
deriving DecidableEq

/-- The counter blocks that are enciphered for a text. -/
def Use.blocks (salt : Bytes) (use : Use) : List Bytes :=
  (List.range (use.text.length / 16 + 1)).map fun i =>
    CounterMode.increment^[i] (counterBlock use.ssrc use.roc use.seq salt)

/-- A text is masked with its enciphered counter blocks. -/
theorem rtpCrypt_eq (gcrypt : Gcrypt) (key salt : Bytes) (use : Use) :
    rtpCrypt gcrypt key use.ssrc use.roc use.seq salt use.text =
      CounterMode.mask use.text ((use.blocks salt).flatMap (gcrypt.aes key)) := by
  rw [rtpCrypt, doCtrCrypt_eq, CounterMode.keystream_eq, Use.blocks]

/-- The uses in a run of calls, as far as they show in the buffers: the texts behind the headers are
masked with the enciphered counter blocks, and nothing else is. -/
inductive Enciphers (gcrypt : Gcrypt) (shifts : Shifts) (key salt : Bytes) :
    Session → List Call → List Use → Prop
  /-- The end of the run. -/
  | nil {session : Session} : Enciphers gcrypt shifts key salt session [] []
  /-- A call fails. -/
  | fails {session : Session} {call : Call} {calls : List Call} {uses : List Use}
      (failed : (call.run gcrypt shifts session).ret ≠ 0)
      (untouched : (call.run gcrypt shifts session).buf = call.buf)
      (later : Enciphers gcrypt shifts key salt (call.run gcrypt shifts session).session calls
        uses) : Enciphers gcrypt shifts key salt session (call :: calls) uses
  /-- A packet is left unencrypted. -/
  | plain {session : Session} {call : Call} {calls : List Call} {uses : List Use}
      (succeeded : (call.run gcrypt shifts session).ret = 0)
      (unencrypted : session.flags &&& srtpUnencrypted ≠ 0)
      (same : (call.run gcrypt shifts session).buf.take (call.packet session).length =
        call.packet session)
      (later : Enciphers gcrypt shifts key salt (call.run gcrypt shifts session).session calls
        uses) : Enciphers gcrypt shifts key salt session (call :: calls) uses
  /-- A packet is encrypted or decrypted. -/
  | crypts {session : Session} {call : Call} {calls : List Call} {uses : List Use}
      {header : Bytes} {use : Use} (succeeded : (call.run gcrypt shifts session).ret = 0)
      (parts : call.packet session = header ++ use.text)
      (masked : (call.run gcrypt shifts session).buf.take (call.packet session).length =
        header ++ CounterMode.mask use.text ((use.blocks salt).flatMap (gcrypt.aes key)))
      (later : Enciphers gcrypt shifts key salt (call.run gcrypt shifts session).session calls
        uses) : Enciphers gcrypt shifts key salt session (call :: calls) (use :: uses)

/-- The use of a packet, if it is encrypted or decrypted. -/
def useOf (session : Session) (packet : Bytes) : Option Use :=
  if session.flags &&& srtpUnencrypted ≠ 0 then none
  else
    (encryptionOffset packet).map fun offset => {
      ssrc := (packet.drop 8).take 4
      roc := srtpComputeRoc session (rtpSeq packet)
      seq := rtpSeq packet
      text := packet.drop offset.toNat }

/-- The uses of the successful calls of a run. -/
def uses (gcrypt : Gcrypt) (shifts : Shifts) : Session → List Call → List Use
  | _, [] => []
  | session, call :: calls =>
      let result := call.run gcrypt shifts session
      let later := uses gcrypt shifts result.session calls
      if result.ret = 0 then (useOf session (call.packet session)).toList ++ later else later

/-- A call that takes a packet has its use. -/
theorem Enciphers.of_crypts {call : Call} {calls : List Call} {uses : List Use}
    (crypts : Crypts gcrypt shifts session (call.packet session) (call.run gcrypt shifts session))
    (later : Enciphers gcrypt shifts session.rtp.cipher session.rtp.salt.val
      (call.run gcrypt shifts session).session calls uses) :
    Enciphers gcrypt shifts session.rtp.cipher session.rtp.salt.val session (call :: calls)
      ((useOf session (call.packet session)).toList ++ uses) := by
  obtain ⟨offset, header, text⟩ := crypts.text
  by_cases unencrypted : session.flags &&& srtpUnencrypted ≠ 0
  · rw [cryptFrom, if_pos unencrypted] at text
    rw [useOf, if_pos unencrypted]
    exact .plain crypts.ret unencrypted text later
  · rw [cryptFrom, if_neg unencrypted] at text
    rw [useOf, if_neg unencrypted, header]
    refine .crypts crypts.ret (List.take_append_drop offset.toNat _).symm ?_ later
    rw [text, ← rtpCrypt_eq]

/-- The uses of a run are those in its buffers. -/
theorem enciphers_uses (gcrypt : Gcrypt) (shifts : Shifts) {calls : List Call}
    (plain : rccMode session.flags = 0) :
    Enciphers gcrypt shifts session.rtp.cipher session.rtp.salt.val session calls
      (uses gcrypt shifts session calls) := by
  induction calls generalizing session with
  | nil => exact .nil
  | cons call calls ih =>
      rw [uses]
      rcases call.run_cases gcrypt shifts plain with ⟨failed, same, untouched⟩ | crypts
      · rw [if_neg failed]
        refine .fails failed untouched ?_
        rw [same]
        exact ih plain
      · have keys := SameKeys.of_accept crypts.accepted
        have later := @ih (call.run gcrypt shifts session).session (keys.flags ▸ plain)
        rw [← keys.cipher, ← keys.salt] at later
        rw [if_pos crypts.ret]
        exact .of_crypts crypts later

/-! ### Packet indexes of a run -/

/-- The rollover counter and the sequence number of a packet index. -/
def counterOf (index : Int) : Int × Int := (index / 65536 % 2 ^ 32, index % 65536)

/-- The rollover counter and the sequence number of a use. -/
def Use.counter (use : Use) : Int × Int := (use.roc.toNat, use.seq.toNat)

theorem counterOf_inj {left right low : Int} (same : counterOf left = counterOf right)
    (left_ge : low ≤ left) (left_lt : left < low + 2 ^ 48) (right_ge : low ≤ right)
    (right_lt : right < low + 2 ^ 48) : left = right := by
  obtain ⟨rocs, seqs⟩ := Prod.mk.inj same
  omega

/-- The counter of a packet, if it is used, is that of its packet index. -/
theorem counter_useOf {head : Int} (counted : session.At head) (packet : Bytes) :
    ((useOf session packet).toList.map Use.counter).Sublist
      [counterOf (packetIndex head (rtpSeq packet))] := by
  have roc := toNat_srtpComputeRoc counted (rtpSeq packet)
  obtain ⟨residue, -, -⟩ := packetIndex_spec head (rtpSeq packet)
  have counter : ∀ use ∈ useOf session packet,
      use.counter = counterOf (packetIndex head (rtpSeq packet)) := by
    intro use found
    unfold useOf at found
    split at found
    · simp at found
    · obtain ⟨offset, -, rfl⟩ := Option.map_eq_some_iff.mp found
      rw [Use.counter, counterOf, roc, residue]
  cases found : useOf session packet with
  | none => exact List.nil_sublist _
  | some use =>
      rw [Option.toList_some, List.map_singleton, counter use found]

/-- The packets of a run have packet indexes of their own, which have not been taken before. -/
theorem exists_indexes (gcrypt : Gcrypt) (wraps : shifts.Wraps) (calls : List Call)
    {filter : Filter} (plain : rccMode session.flags = 0) (safe : Safe session filter) :
    ∃ indexes : List Int, ((uses gcrypt shifts session calls).map Use.counter).Sublist
        (indexes.map counterOf) ∧ (indexes.reverse ++ filter.taken).Nodup ∧
      ∀ index ∈ indexes, filter.head - 32768 ≤ index ∧
        index < filter.head + 32768 * calls.length := by
  induction calls generalizing session filter with
  | nil => exact ⟨[], List.Sublist.refl _, filter.nodup, by simp⟩
  | cons call calls ih =>
      rcases call.run_cases gcrypt shifts plain with
        ⟨failed, same, -⟩ | ⟨succeeded, -, accepted, -⟩
      · obtain ⟨indexes, counters, distinct, bounds⟩ := ih plain safe
        refine ⟨indexes, ?_, distinct, fun index member => ?_⟩
        · simp only [uses, if_neg failed, same]
          exact counters
        · obtain ⟨lower, upper⟩ := bounds index member
          rw [List.length_cons]
          omega
      · obtain ⟨absent, kept⟩ := safe.accept wraps accepted
        have keys := SameKeys.of_accept accepted
        obtain ⟨indexes, counters, distinct, bounds⟩ := ih (keys.flags ▸ plain) kept
        obtain ⟨-, lower, upper⟩ :=
          packetIndex_spec filter.head (rtpSeq (call.packet session))
        refine ⟨packetIndex filter.head (rtpSeq (call.packet session)) :: indexes, ?_, ?_, ?_⟩
        · simp only [uses, if_pos succeeded, List.map_append, List.map_cons]
          exact (counter_useOf safe.counted _).append counters
        · rw [List.reverse_cons, List.append_assoc]
          exact distinct
        · intro index member
          rw [List.length_cons]
          rcases List.mem_cons.mp member with rfl | later
          · omega
          · obtain ⟨after_lower, after_upper⟩ := bounds index later
            simp only [Filter.take] at after_lower after_upper
            omega

/-- A session as it is found has taken nothing yet that could be offered again. -/
theorem safe_new (session : Session) :
    Safe session (.new (session.rtpRoc.toNat * 65536 + session.rtpSeq.toNat)) where
  counted := session.at_self
  covers := covers_new _ _
  half := fun member => absurd member List.not_mem_nil

/-- Any two packets of a run have different rollover counters or sequence numbers. -/
theorem pairwise_uses (gcrypt : Gcrypt) (wraps : shifts.Wraps)
    (plain : rccMode session.flags = 0) {calls : List Call} (short : calls.length ≤ 2 ^ 32) :
    (uses gcrypt shifts session calls).Pairwise fun left right =>
      (left.roc, left.seq) ≠ (right.roc, right.seq) := by
  obtain ⟨indexes, counters, distinct, bounds⟩ :=
    exists_indexes gcrypt wraps calls plain (safe_new session)
  have nodup : indexes.Nodup :=
    List.nodup_reverse.mp (List.Nodup.of_append_left distinct)
  have apart : (indexes.map counterOf).Nodup := by
    refine nodup.map_on fun left left_mem right right_mem same => ?_
    obtain ⟨left_ge, left_lt⟩ := bounds left left_mem
    obtain ⟨right_ge, right_lt⟩ := bounds right right_mem
    exact counterOf_inj same left_ge (by omega) right_ge (by omega)
  refine (List.pairwise_map.mp (counters.nodup apart)).imp fun {left right} differ same => differ ?_
  obtain ⟨rocs, seqs⟩ := Prod.mk.inj same
  rw [Use.counter, Use.counter, rocs, seqs]

/-- Whatever is sent and received with a session, the texts of its packets are masked under rollover
counters and sequence numbers of their own. -/
theorem counters_nodup (gcrypt : Gcrypt) (wraps : shifts.Wraps)
    (plain : rccMode session.flags = 0) {calls : List Call} (short : calls.length ≤ 2 ^ 32) :
    Enciphers gcrypt shifts session.rtp.cipher session.rtp.salt.val session calls
        (uses gcrypt shifts session calls) ∧
      ((uses gcrypt shifts session calls).map fun use => (use.roc, use.seq)).Nodup :=
  ⟨enciphers_uses gcrypt shifts plain,
    List.pairwise_map.mpr (pairwise_uses gcrypt wraps plain short)⟩

/-- A packet is sent twice, the next number is sent, and a forged packet is received. -/
def sampleCalls : List Call :=
  [.send (0x80 :: List.replicate 40 1) 20, .send (0x80 :: List.replicate 40 1) 20,
    .send (0x80 :: 1 :: 1 :: 2 :: List.replicate 37 1) 20, .recv (0x80 :: List.replicate 40 2)]

theorem counters_nodup_sample :
    Enciphers .standard .modular sample.rtp.cipher sample.rtp.salt.val sample sampleCalls
        (uses .standard .modular sample sampleCalls) ∧
      ((uses .standard .modular sample sampleCalls).map fun use => (use.roc, use.seq)).Nodup :=
  counters_nodup .standard Shifts.wraps_modular rfl (by decide)

/-! ### Counter blocks -/

/-- The counter in a counter block, and its two zero bytes. -/
theorem counterBlock_eq (ssrc : Bytes) (roc : UInt32) (seq : UInt16)
    (salt : {salt : Bytes // salt.length = 16 ∧ salt.drop 14 = [0, 0]}) (four : ssrc.length = 4) :
    counterBlock ssrc roc seq salt.val =
      CounterMode.mask (salt.val.take 14)
        ([0, 0, 0, 0] ++ ssrc ++ (encodeUInt32 roc ++ encodeUInt16 seq)) ++
          List.replicate 2 0 := by
  have parts : salt.val = salt.val.take 14 ++ [0, 0] := by
    conv_lhs => rw [← List.take_append_drop 14 salt.val, salt.property.2]
  have long : (salt.val.take 14).length =
      ([0, 0, 0, 0] ++ ssrc ++ (encodeUInt32 roc ++ encodeUInt16 seq)).length := by
    simp [salt.property.1, four]
  rw [counterBlock, List.append_assoc _ (encodeUInt32 roc)]
  conv_lhs => rw [parts, CounterMode.mask_append long]
  rfl

/-- Counter blocks for different counters differ, as far as two bytes count. -/
theorem counter_of_block {left right : Use}
    {salt : {salt : Bytes // salt.length = 16 ∧ salt.drop 14 = [0, 0]}} {i j : Nat}
    (left_four : left.ssrc.length = 4) (right_four : right.ssrc.length = 4)
    (i_small : i < 2 ^ 16) (j_small : j < 2 ^ 16)
    (same : CounterMode.increment^[i] (counterBlock left.ssrc left.roc left.seq salt.val) =
      CounterMode.increment^[j] (counterBlock right.ssrc right.roc right.seq salt.val)) :
    (left.roc, left.seq) = (right.roc, right.seq) ∧ i = j := by
  have fourteen : (salt.val.take 14).length = 14 := by simp [salt.property.1]
  rw [counterBlock_eq _ _ _ salt left_four, counterBlock_eq _ _ _ salt right_four] at same
  obtain ⟨fronts, counts⟩ := CounterMode.iterate_increment_inj (by
    rw [CounterMode.length_mask (by simp [left_four]), CounterMode.length_mask
      (by simp [right_four])]) i_small j_small same
  have texts := CounterMode.mask_inj (by simp [left_four]) (by simp [right_four])
    (by simp [left_four, right_four]) fronts
  rw [fourteen, List.take_of_length_le (by simp [left_four]),
    List.take_of_length_le (by simp [right_four])] at texts
  obtain ⟨-, counters⟩ := List.append_inj texts (by simp [left_four, right_four])
  obtain ⟨rocs, seqs⟩ := List.append_inj counters rfl
  exact ⟨Prod.ext (encodeUInt32_inj rocs) (encodeUInt16_inj seqs), counts⟩

/-- The parts of a use have their sizes. -/
theorem sizes_of_useOf {packet : Bytes} {use : Use} (twelve : 12 ≤ packet.length)
    (found : use ∈ useOf session packet) :
    use.ssrc.length = 4 ∧ use.text.length ≤ packet.length := by
  unfold useOf at found
  split at found
  · simp at found
  · obtain ⟨offset, -, rfl⟩ := Option.map_eq_some_iff.mp found
    constructor
    · simp only [List.length_take, List.length_drop]
      omega
    · simp only [List.length_drop]
      omega

theorem sizes_of_mem_uses (gcrypt : Gcrypt) (shifts : Shifts) {calls : List Call}
    (plain : rccMode session.flags = 0) {bound : Nat}
    (small : ∀ call ∈ calls, call.buf.length < bound) :
    ∀ use ∈ uses gcrypt shifts session calls, use.ssrc.length = 4 ∧ use.text.length < bound := by
  induction calls generalizing session with
  | nil => simp [uses]
  | cons call calls ih =>
      obtain ⟨first, others⟩ := List.forall_mem_cons.mp small
      rcases call.run_cases gcrypt shifts plain with
        ⟨failed, same, -⟩ | ⟨succeeded, twelve, accepted, -⟩
      · simp only [uses, if_neg failed, same]
        exact ih plain others
      · have keys := SameKeys.of_accept accepted
        have inside := call.length_packet_le session
        simp only [uses, if_pos succeeded]
        intro use member
        rcases List.mem_append.mp member with found | later
        · obtain ⟨four, length⟩ := sizes_of_useOf twelve (Option.mem_toList.mp found)
          exact ⟨four, by omega⟩
        · exact ih (keys.flags ▸ plain) others use later

/-- Whatever is sent and received with a session, no counter block masks a text twice, if every
buffer has less than a mebibyte. -/
theorem blocks_nodup (gcrypt : Gcrypt) (wraps : shifts.Wraps)
    (plain : rccMode session.flags = 0) {calls : List Call} (short : calls.length ≤ 2 ^ 32)
    (small : ∀ call ∈ calls, call.buf.length < 2 ^ 20) :
    Enciphers gcrypt shifts session.rtp.cipher session.rtp.salt.val session calls
        (uses gcrypt shifts session calls) ∧
      ((uses gcrypt shifts session calls).flatMap (Use.blocks session.rtp.salt.val)).Nodup := by
  have sizes := sizes_of_mem_uses gcrypt shifts plain small
  refine ⟨enciphers_uses gcrypt shifts plain, ?_⟩
  rw [List.nodup_flatMap]
  constructor
  · intro use member
    obtain ⟨four, length⟩ := sizes use member
    refine List.nodup_range.map_on fun i i_mem j j_mem same => ?_
    rw [List.mem_range] at i_mem j_mem
    exact (counter_of_block four four (by omega) (by omega) same).2
  · refine (pairwise_uses gcrypt wraps plain short).imp_of_mem
      fun {left right} left_mem right_mem differ => ?_
    obtain ⟨left_four, left_length⟩ := sizes left left_mem
    obtain ⟨right_four, right_length⟩ := sizes right right_mem
    intro block in_left in_right
    obtain ⟨i, i_mem, rfl⟩ := List.mem_map.mp in_left
    obtain ⟨j, j_mem, same⟩ := List.mem_map.mp in_right
    rw [List.mem_range] at i_mem j_mem
    exact differ (counter_of_block right_four left_four (by omega) (by omega) same).1.symm

theorem blocks_nodup_sample :
    Enciphers .standard .modular sample.rtp.cipher sample.rtp.salt.val sample sampleCalls
        (uses .standard .modular sample sampleCalls) ∧
      ((uses .standard .modular sample sampleCalls).flatMap
        (Use.blocks sample.rtp.salt.val)).Nodup :=
  blocks_nodup .standard Shifts.wraps_modular rfl (by decide) (by decide)

end LibSrtp
end Contest
