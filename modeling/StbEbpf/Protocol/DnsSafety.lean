import StbEbpf.Protocol.DnsNames

/-!
No access of the DNS parser leaves the slice it is applied to, whatever the packet holds. Every offset comes from
`parseDNSName` or from a length in the packet, and is compared with the length of the slice before it is used.
-/

namespace StbEbpf.Protocol
open CText Access NetworkOrder

theorem completes_mapM {α β : Type} {f : α → Checked β} {xs : List α} (each : ∀ x ∈ xs, Completes (f x)) :
    Completes (xs.mapM f) := by
  induction xs with
  | nil => exact completes_pure _
  | cons x xs ih =>
    rw [List.mapM_cons]
    refine completes_bind (each x (by simp)) fun y => ?_
    exact completes_bind (ih fun z member => each z (by simp [member])) fun ys => completes_pure _

theorem completes_readWord32 {data : Bytes} {offset : Nat} (inside : offset + 4 ≤ data.length) :
    Completes (readWord32 data offset) := ⟨_, readWord32_inside inside, trivial⟩

theorem parseDNSName_safe (data : Bytes) (offset : Nat) :
    Safe (parseDNSName data offset) fun r => r.2 < 0 ∨ (offset : Int) < r.2 ∧ r.2 ≤ data.length := by
  obtain ⟨r, ends, -⟩ := parseDNSName_nameAt data offset
  refine ⟨r, ends, ?_⟩
  rcases parseDNSName_position ends with ⟨lost, -⟩ | inside
  · exact .inl (by omega)
  · exact .inr inside

theorem parseDNSName_completes (data : Bytes) (offset : Nat) : Completes (parseDNSName data offset) :=
  safe_weaken (parseDNSName_safe data offset) fun _ _ => trivial

theorem parseRData_known_completes (atype : UInt16) (rdata : Bytes) : Completes (parseRData.known atype rdata) := by
  unfold parseRData.known
  split
  · split
    · refine completes_bind (completes_readAt (by omega)) fun _ => ?_
      refine completes_bind (completes_readAt (by omega)) fun _ => ?_
      refine completes_bind (completes_readAt (by omega)) fun _ => ?_
      exact completes_bind (completes_readAt (by omega)) fun _ => completes_pure _
    · exact completes_pure _
  · split
    · exact completes_bind (parseDNSName_completes rdata 0) fun _ => completes_pure _
    · split
      · split
        · refine completes_bind (completes_readWord16 (by omega)) fun _ => ?_
          exact completes_bind (parseDNSName_completes rdata 2) fun _ => completes_pure _
        · exact completes_pure _
      · split
        · exact completes_pure _
        · split
          · split
            · refine completes_bind (completes_mapM fun k member => completes_readWord16 ?_) fun _ => completes_pure _
              simp only [List.mem_cons, List.not_mem_nil, or_false] at member
              omega
            · exact completes_pure _
          · split
            · split
              · refine completes_bind (completes_readWord16 (by omega)) fun _ => ?_
                refine completes_bind (completes_readWord16 (by omega)) fun _ => ?_
                refine completes_bind (completes_readWord16 (by omega)) fun _ => ?_
                exact completes_bind (parseDNSName_completes rdata 6) fun _ => completes_pure _
              · exact completes_pure _
            · exact completes_pure _

theorem parseRData_completes (atype aclass : UInt16) (rdata : Bytes) : Completes (parseRData atype aclass rdata) := by
  unfold parseRData
  split
  · exact completes_pure _
  · exact completes_bind (parseRData_known_completes atype rdata) fun _ => completes_pure _

theorem parseAnswer_completes (payload : Bytes) (offset : Nat) : Completes (parseAnswer payload offset) := by
  unfold parseAnswer
  refine safe_bind (parseDNSName_safe payload offset) fun ⟨name, newOffset⟩ position => ?_
  dsimp only at position ⊢
  split
  · exact completes_pure _
  · refine completes_bind (completes_readWord16 (by omega)) fun atype => ?_
    refine completes_bind (completes_readWord16 (by omega)) fun aclass => ?_
    refine completes_bind (completes_readWord32 (by omega)) fun ttl => ?_
    refine completes_bind (completes_readWord16 (by omega)) fun rdlen => ?_
    split
    · exact completes_pure _
    · refine completes_bind (completes_readRange (by omega)) fun rdata => ?_
      exact completes_bind (parseRData_completes atype aclass rdata) fun text => completes_pure _

theorem parseAnswers_completes (payload : Bytes) (remaining offset : Nat) (answers : List Bytes) :
    Completes (parseAnswers payload remaining offset answers) := by
  induction remaining generalizing offset answers with
  | zero => exact completes_pure _
  | succ remaining ih =>
    unfold parseAnswers
    split
    · refine completes_bind (parseAnswer_completes payload offset) fun answer => ?_
      cases answer with
      | none => exact completes_pure _
      | some answer => exact ih answer.2 _
    · exact completes_pure _

theorem parseAnswerSection_completes (payload : Bytes) (isResponse answerRRs : UInt16) (offset : Nat) :
    Completes (parseAnswerSection payload isResponse answerRRs offset) := by
  unfold parseAnswerSection
  split
  · exact parseAnswers_completes payload _ offset []
  · exact completes_pure _

theorem parseQuestion_completes (payload : Bytes) (questions : UInt16) : Completes (parseQuestion payload questions) := by
  unfold parseQuestion
  split
  · refine safe_bind (parseDNSName_safe payload 12) fun ⟨name, newOffset⟩ position => ?_
    dsimp only at position ⊢
    split
    · exact completes_pure _
    · exact completes_bind (completes_readWord16 (by omega)) fun qtype => completes_pure _
  · exact completes_pure _

theorem parseDNSPacket_completes (env : Surroundings) (payload srcIP dstIP : Bytes) (srcPort dstPort : UInt16)
    (direction : UInt8) : Completes (parseDNSPacket env payload srcIP dstIP srcPort dstPort direction) := by
  unfold parseDNSPacket
  split
  · exact completes_pure _
  · refine completes_bind (completes_readWord16 (by omega)) fun queryID => ?_
    refine completes_bind (completes_readWord16 (by omega)) fun flags => ?_
    refine completes_bind (completes_readWord16 (by omega)) fun questions => ?_
    refine completes_bind (completes_readWord16 (by omega)) fun answerRRs => ?_
    refine completes_bind (completes_readWord16 (by omega)) fun _ => ?_
    refine completes_bind (completes_readWord16 (by omega)) fun _ => ?_
    refine completes_bind (parseQuestion_completes payload questions) fun question => ?_
    cases question with
    | none => exact completes_pure _
    | some question =>
      exact completes_bind (parseAnswerSection_completes payload _ _ _) fun answers => completes_pure _

/-- Every packet is parsed to the end: no index and no slice expression is out of bounds. -/
theorem parseDNSPacket_in_bounds (env : Surroundings) (payload srcIP dstIP : Bytes) (srcPort dstPort : UInt16)
    (direction : UInt8) : ∃ event, parseDNSPacket env payload srcIP dstIP srcPort dstPort direction = .ok event := by
  obtain ⟨event, done, -⟩ := parseDNSPacket_completes env payload srcIP dstIP srcPort dstPort direction
  exact ⟨event, done⟩

end StbEbpf.Protocol
