import StbEbpf.Probe.DupAcks

/-!
Retransmissions. `flow_tracker_check_tcp_retransmit` compares the number of a data segment with the one that the record
of its flow expects, as plain 32-bit numbers, and takes an expectation of zero for none.
-/

namespace StbEbpf.Probe
open Run

/-! ### What is expected -/

/-- The number that comes next, in an active record of the key. -/
def FlowRecord.expects (key : FlowKey) (r : FlowRecord) : Option UInt32 :=
  if r.active && r.key == key then some r.value.seqExpected else none

/-- The number that comes next, in the record that `find_record` returns. -/
def FlowTracker.expected (ft : FlowTracker) (key : FlowKey) : Option UInt32 :=
  ft.records.findSome? (·.expects key)

namespace TcpPacket

def consumesSeq (packet : TcpPacket) : Bool :=
  packet.tcpFlags &&& TCP_FLAG_SYN != 0 || packet.tcpFlags &&& TCP_FLAG_FIN != 0

def isData (packet : TcpPacket) : Bool := !packet.consumesSeq && packet.pktLen != 0

/-- What a check reports when the record expects `e`. -/
def late (e : UInt32) (packet : TcpPacket) : Bool := packet.isData && e != 0 && packet.seqNum < e

def next (e : UInt32) (packet : TcpPacket) : UInt32 :=
  if packet.consumesSeq then packet.seqNum + 1
  else if packet.isData && !packet.late e then packet.seqNum + packet.pktLen.toUInt32
  else e

end TcpPacket

section
variable {ft t : FlowTracker} {key named : FlowKey} {now : UInt64} {i : Nat} {r : FlowRecord} {e : UInt32}

theorem expected_of_expects {s t : FlowTracker}
    (same : t.records.map (·.expects key) = s.records.map (·.expects key)) : t.expected key = s.expected key := by
  have mapped : ∀ ft : FlowTracker, ft.expected key = (ft.records.map (·.expects key)).findSome? id := by
    intro ft
    rw [List.findSome?_map]
    rfl
  rw [mapped, mapped, same]

theorem modifyRecord_expected {f : FlowRecord → FlowRecord}
    (same : ∀ r, ft.records[i]? = some r → (f r).expects key = r.expects key) :
    (ft.modifyRecord i f).expected key = ft.expected key := by
  apply expected_of_expects
  apply List.ext_getElem?
  intro j
  simp only [FlowTracker.modifyRecord, List.getElem?_map, List.getElem?_modify]
  cases read : ft.records[j]? with
  | none => rfl
  | some r =>
    by_cases here : i = j
    · subst here
      simp [same r read]
    · simp [here]

theorem activate_expected (read : ft.records[i]? = some r) (idle : r.active = false) (other : named ≠ key) :
    (ft.activate i named now).expected key = ft.expected key := by
  apply modifyRecord_expected
  intro r' read'
  cases read.symm.trans read'
  simp [FlowRecord.expects, FlowRecord.activate, idle, other]

theorem lookup_expected (found : ft.lookup key = some i) (read : ft.records[i]? = some r) :
    ft.expected key = some r.value.seqExpected := by
  unfold FlowTracker.lookup Slots.lookup at found
  unfold FlowTracker.expected
  generalize ft.records = records at found read
  induction records generalizing i with
  | nil => cases read
  | cons first rest ih =>
    rw [List.findIdx?_cons] at found
    rw [List.findSome?_cons]
    split at found
    · rename_i mine
      cases found
      cases read
      simp [FlowRecord.expects, mine]
    · rename_i other
      obtain ⟨j, later, rfl⟩ := Option.map_eq_some_iff.mp found
      simp only [FlowRecord.expects, other, Bool.false_eq_true, if_false]
      exact ih later read

theorem expected_none (absent : ft.lookup key = none) : ft.expected key = none := by
  apply List.findSome?_eq_none_iff.mpr
  intro r member
  have other := Slots.lookup_none.mp absent r member
  simpa [FlowRecord.expects] using other

theorem modifyRecord_lookup {f : FlowRecord → FlowRecord} (sameActive : ∀ r, (f r).active = r.active)
    (sameKey : ∀ r, (f r).key = r.key) : (ft.modifyRecord i f).lookup key = ft.lookup key := by
  have viewed : ∀ records : List FlowRecord, Slots.lookup FlowRecord.active FlowRecord.key records key =
      (records.map fun r => r.active && r.key == key).findIdx? id := by
    intro records
    rw [List.findIdx?_map]
    rfl
  unfold FlowTracker.lookup
  rw [viewed, viewed]
  congr 1
  apply List.ext_getElem?
  intro j
  simp only [FlowTracker.modifyRecord, List.getElem?_map, List.getElem?_modify]
  cases ft.records[j]? with
  | none => rfl
  | some r => by_cases here : i = j <;> simp [here, sameActive, sameKey]

/-- A slot that is taken for a key is the first of that key. -/
theorem activate_lookup (absent : ft.lookup key = none) (read : ft.records[i]? = some r) :
    (ft.activate i key now).lookup key = some i := by
  obtain ⟨inside, here⟩ := List.getElem?_eq_some_iff.mp read
  apply List.findIdx?_eq_some_iff_getElem.mpr
  refine ⟨by simpa [FlowTracker.activate, FlowTracker.modifyRecord] using inside, ?_, ?_⟩
  · simp [FlowTracker.activate, FlowTracker.modifyRecord, FlowRecord.activate]
  · intro j before
    have other := Slots.lookup_none.mp absent ft.records[j] (List.getElem_mem _)
    simpa [FlowTracker.activate, FlowTracker.modifyRecord, List.getElem_modify, Nat.ne_of_gt before] using other

theorem findRecord_lookup (found : findRecord ft key now = (some i, t)) :
    ∃ r, t.lookup key = some i ∧ t.records[i]? = some r ∧ t.expected key = some r.value.seqExpected := by
  rcases findRecord_cases ft key now with ⟨j, r, result, present, read, -, -⟩ | ⟨j, r, result, absent, -, read, -⟩ |
    ⟨result, -⟩
  all_goals
    rw [result] at found
    cases found
  · exact ⟨r, present, read, lookup_expected present read⟩
  · have taken : (ft.activate i key now).lookup key = some i := activate_lookup absent read
    exact ⟨_, taken, activate_read read, lookup_expected taken (activate_read read)⟩

/-- Looking for a record, of whatever key, keeps what is expected of a key that is tracked. -/
theorem findRecord_expected (named : FlowKey) (now : UInt64) (tracked : ft.expected key = some e) :
    (findRecord ft named now).2.expected key = some e := by
  rcases findRecord_cases ft named now with ⟨j, r, result, -⟩ | ⟨j, r, result, absent, -, read, idle⟩ | ⟨result, -⟩
  · rw [result]
    exact tracked
  · rw [result]
    have other : named ≠ key := by
      rintro rfl
      rw [expected_none absent] at tracked
      cases tracked
    exact (activate_expected read idle other).trans tracked
  · rw [result]
    exact tracked

theorem rewritten_expected {f : FlowValue → FlowValue} (present : ft.lookup key = some i)
    (read : ft.records[i]? = some r) :
    (ft.modifyRecord i (.withValue f)).expected key = some (f r.value).seqExpected := by
  have still : (ft.modifyRecord i (.withValue f)).lookup key = some i := by
    rw [modifyRecord_lookup (f := .withValue f) (fun _ => rfl) (fun _ => rfl), present]
  have rewritten : (ft.modifyRecord i (.withValue f)).records[i]? = some (r.withValue f) := by
    simp [FlowTracker.modifyRecord, read]
  exact lookup_expected still rewritten

/-- What a check that has a record reports, and what the record expects after it. -/
theorem check_own (statics : AckStatics) (seqNum : UInt32) (pktLen : UInt16) (tcpFlags : UInt8)
    (found : findRecord ft key now = (some i, t)) (held : t.expected key = some e) :
    (flowTrackerCheckTcpRetransmit ft statics now key seqNum pktLen tcpFlags).isRetransmit =
        TcpPacket.late e ⟨key, seqNum, pktLen, tcpFlags⟩ ∧
      (flowTrackerCheckTcpRetransmit ft statics now key seqNum pktLen tcpFlags).ft.expected key =
        some (TcpPacket.next e ⟨key, seqNum, pktLen, tcpFlags⟩) := by
  obtain ⟨r, present, read, same⟩ := findRecord_lookup found
  cases held.symm.trans same
  have rewritten {f : FlowValue → FlowValue} := rewritten_expected (f := f) present read
  simp only [flowTrackerCheckTcpRetransmit, found, read, Option.map_some, Option.getD_some]
  split
  · rename_i consumes
    have consuming : TcpPacket.consumesSeq ⟨key, seqNum, pktLen, tcpFlags⟩ = true := consumes
    simp [rewritten, TcpPacket.late, TcpPacket.next, TcpPacket.isData, consuming]
  · rename_i consumes
    have plain : TcpPacket.consumesSeq ⟨key, seqNum, pktLen, tcpFlags⟩ = false := Bool.eq_false_iff.mpr consumes
    split
    · rename_i payload
      have nonempty : pktLen ≠ 0 := UInt16.pos_iff_ne_zero.mp payload
      split
      · rename_i behind
        simp [rewritten, TcpPacket.late, TcpPacket.next, TcpPacket.isData, plain, nonempty, behind]
      · rename_i ahead
        have onTime : TcpPacket.late r.value.seqExpected ⟨key, seqNum, pktLen, tcpFlags⟩ = false := by
          simpa [TcpPacket.late, TcpPacket.isData, plain, nonempty] using ahead
        simp [rewritten, onTime, TcpPacket.next, TcpPacket.isData, plain, nonempty]
    · rename_i empty
      obtain rfl : pktLen = 0 := by
        rw [gt_iff_lt, UInt16.pos_iff_ne_zero, not_not] at empty
        exact empty
      split
      · simp only [checkPureAck]
        split <;> simp [rewritten, same, TcpPacket.late, TcpPacket.next, TcpPacket.isData, plain]
      · simp [same, TcpPacket.late, TcpPacket.next, TcpPacket.isData, plain]

theorem check_tracked (statics : AckStatics) (now : UInt64) (seqNum : UInt32) (pktLen : UInt16) (tcpFlags : UInt8)
    (tracked : ft.expected key = some e) :
    (flowTrackerCheckTcpRetransmit ft statics now key seqNum pktLen tcpFlags).isRetransmit =
        TcpPacket.late e ⟨key, seqNum, pktLen, tcpFlags⟩ ∧
      (flowTrackerCheckTcpRetransmit ft statics now key seqNum pktLen tcpFlags).ft.expected key =
        some (TcpPacket.next e ⟨key, seqNum, pktLen, tcpFlags⟩) := by
  rcases found : findRecord ft key now with ⟨_ | i, t⟩
  · rcases findRecord_cases ft key now with ⟨_, _, result, -⟩ | ⟨_, _, result, -⟩ | ⟨-, absent, -⟩
    · rw [result] at found
      cases found
    · rw [result] at found
      cases found
    · rw [expected_none absent] at tracked
      cases tracked
  · apply check_own statics seqNum pktLen tcpFlags found
    simpa [found] using findRecord_expected key now tracked

theorem check_silent (statics : AckStatics) (now : UInt64) {seqNum : UInt32} {pktLen : UInt16} {tcpFlags : UInt8}
    (silent : TcpPacket.isData ⟨key, seqNum, pktLen, tcpFlags⟩ = false) :
    (flowTrackerCheckTcpRetransmit ft statics now key seqNum pktLen tcpFlags).isRetransmit = false := by
  rcases found : findRecord ft key now with ⟨_ | i, t⟩
  · rw [check_lost found]
  · obtain ⟨r, -, -, held⟩ := findRecord_lookup found
    rw [(check_own statics seqNum pktLen tcpFlags found held).1, TcpPacket.late, silent]
    rfl

end

/-! ### One data segment -/

/-- The 32-bit difference, read as a signed number, is negative. -/
def precedes (s e : UInt32) : Prop := (s - e).toBitVec.toInt < 0

theorem precedes_iff (s e : UInt32) :
    precedes s e ↔ (s.toNat < e.toNat ∧ e.toNat ≤ s.toNat + 2 ^ 31) ∨ e.toNat + 2 ^ 31 ≤ s.toNat := by
  have sBound := s.toNat_lt
  have eBound := e.toNat_lt
  unfold precedes
  rw [BitVec.toInt_eq_toNat_cond, UInt32.toNat_toBitVec, UInt32.toNat_sub]
  split <;> omega

/-- With a number expected, a data segment is reported as a retransmission exactly when it precedes that number in
TCP's order, if and only if the two numbers, taken as they are, are less than half of the number space apart. -/
theorem data_segment_reported_iff (ft : FlowTracker) (statics : AckStatics) (now : UInt64) (key : FlowKey)
    (e seqNum : UInt32) (pktLen : UInt16) (tcpFlags : UInt8) (established : ft.expected key = some e) (positive : e ≠ 0)
    (data : TcpPacket.isData ⟨key, seqNum, pktLen, tcpFlags⟩ = true) :
    ((flowTrackerCheckTcpRetransmit ft statics now key seqNum pktLen tcpFlags).isRetransmit = true ↔
        precedes seqNum e) ↔
      seqNum.toNat < e.toNat + 2 ^ 31 ∧ e.toNat ≤ seqNum.toNat + 2 ^ 31 := by
  have reported := (check_tracked statics now seqNum pktLen tcpFlags established).1
  have plain : (flowTrackerCheckTcpRetransmit ft statics now key seqNum pktLen tcpFlags).isRetransmit = true ↔
      seqNum.toNat < e.toNat := by
    rw [reported, TcpPacket.late, data]
    simp [positive, UInt32.lt_iff_toNat_lt]
  rw [plain, precedes_iff]
  omega

/-- A flow that has just wrapped and expects 1. -/
def wrapped : FlowTracker :=
  { flowTrackerCreate 1 with
    records := [⟨⟨0x0100007f, 0x0200007f, 40000, 80, 6, 0, (0, 0)⟩, { seqExpected := 1 }, 0, 0, true⟩] }

theorem segment_after_wrap_reported :
    (flowTrackerCheckTcpRetransmit wrapped {} 0 ⟨0x0100007f, 0x0200007f, 40000, 80, 6, 0, (0, 0)⟩ 0 1
        TCP_FLAG_ACK).isRetransmit = true ↔ precedes 0 1 :=
  (data_segment_reported_iff _ _ _ _ _ _ _ _ (by decide) (by decide) (by decide)).mpr (by decide)

/-- The segment before the wrap comes again: it precedes what is expected, and is not reported. -/
theorem segment_before_wrap_missed :
    ¬ ((flowTrackerCheckTcpRetransmit wrapped {} 0 ⟨0x0100007f, 0x0200007f, 40000, 80, 6, 0, (0, 0)⟩ 0xffffffff 2
        TCP_FLAG_ACK).isRetransmit = true ↔ precedes 0xffffffff 1) := by
  unfold precedes
  decide

/-! ### A stream in order -/

/-- The packets of a stream in order, from where `next` is the number to come; none is after the FIN. Packets without
payload, such as pure ACKs and RSTs, may come anywhere and carry any number. -/
def inOrderFrom : Option UInt32 → List TcpPacket → Bool
  | _, [] => true
  | next, packet :: rest =>
    if packet.consumesSeq then packet.tcpFlags &&& TCP_FLAG_SYN == 0 && next.isSome && inOrderFrom none rest
    else if packet.pktLen == 0 then inOrderFrom next rest
    else next == some packet.seqNum && inOrderFrom (some (packet.seqNum + packet.pktLen.toUInt32)) rest

def FlowTracker.HasRoom (key : FlowKey) (ft : FlowTracker) : Prop := ft.lookup key ≠ none ∨ ft.free ≠ none

namespace TrackerState

/-- The `is_retransmit` of a check for `key`. -/
def retransmit (key : FlowKey) (s : TrackerState) : TrackerOp → List Bool
  | .checkTcpRetransmit now other seqNum pktLen tcpFlags =>
    if other = key then [(flowTrackerCheckTcpRetransmit s.ft s.statics now other seqNum pktLen tcpFlags).isRetransmit]
    else []
  | .update .. | .updateSingle .. | .getEvents _ | .flush | .cleanup .. => []

def retransmits (key : FlowKey) (s : TrackerState) (ops : List TrackerOp) : List Bool :=
  logged step (retransmit key) s ops

/-- The operation does not evict the key. -/
def Spares (key : FlowKey) (s : TrackerState) : TrackerOp → Prop
  | .cleanup ts maxAgeNs => ∀ r ∈ s.ft.records, r.active = true → r.key = key → r.stale ts maxAgeNs = false
  | .update .. | .updateSingle .. | .checkTcpRetransmit .. | .getEvents _ | .flush => True

instance (key : FlowKey) (s : TrackerState) : (op : TrackerOp) → Decidable (s.Spares key op)
  | .cleanup .. => inferInstanceAs (Decidable (∀ _ ∈ _, _))
  | .update .. | .updateSingle .. | .checkTcpRetransmit .. | .getEvents _ | .flush => isTrue trivial

end TrackerState

def TrackerOp.isCleanup : TrackerOp → Bool
  | .cleanup .. => true
  | .update .. | .updateSingle .. | .checkTcpRetransmit .. | .getEvents _ | .flush => false

/-- Not a check for the key. -/
def TrackerOp.Foreign (key : FlowKey) (op : TrackerOp) : Prop := ∀ packet, op.packet? = some packet → packet.key ≠ key

theorem own_or_foreign (key : FlowKey) (op : TrackerOp) :
    (∃ now seqNum pktLen tcpFlags, op = .checkTcpRetransmit now key seqNum pktLen tcpFlags) ∨ op.Foreign key := by
  cases op with
  | checkTcpRetransmit now other seqNum pktLen tcpFlags =>
    by_cases same : other = key
    · subst same
      exact .inl ⟨now, seqNum, pktLen, tcpFlags, rfl⟩
    · right
      rintro packet ⟨⟩
      exact same
  | update | updateSingle | getEvents | flush | cleanup => exact .inr fun packet absurd => by cases absurd

section
variable {s : TrackerState} {key : FlowKey} {op : TrackerOp} {e : UInt32}

theorem foreign_retransmit (foreign : op.Foreign key) : s.retransmit key op = [] := by
  cases op with
  | checkTcpRetransmit => exact if_neg (foreign _ rfl)
  | update | updateSingle | getEvents | flush | cleanup => rfl

theorem foreign_ownPackets (foreign : op.Foreign key) (ops : List TrackerOp) :
    ownPackets key (op :: ops) = ownPackets key ops := by
  cases op with
  | checkTcpRetransmit =>
    have other := foreign _ rfl
    simp [ownPackets, TrackerOp.packet?] at other ⊢
    simp [other]
  | update | updateSingle | getEvents | flush | cleanup => rfl

theorem own_ownPackets (now : UInt64) (seqNum : UInt32) (pktLen : UInt16) (tcpFlags : UInt8) (ops : List TrackerOp) :
    ownPackets key (.checkTcpRetransmit now key seqNum pktLen tcpFlags :: ops) =
      ⟨key, seqNum, pktLen, tcpFlags⟩ :: ownPackets key ops := by
  simp [ownPackets, TrackerOp.packet?]

/-! What is expected of a key is changed by checks for the key only. -/

theorem rewrite_expected {ft t u : FlowTracker} {named : FlowKey} {now : UInt64} {i : Nat} {f : FlowRecord → FlowRecord}
    (found : findRecord ft named now = (some i, t)) (records : u.records = (t.modifyRecord i f).records)
    (same : ∀ r, t.records[i]? = some r → (f r).expects key = r.expects key) (tracked : ft.expected key = some e) :
    u.expected key = some e := by
  have kept := findRecord_expected named now tracked
  rw [found] at kept
  rw [FlowTracker.expected, records]
  exact (modifyRecord_expected same).trans kept

theorem updateEntry_expected {ft : FlowTracker} (ts now : UInt64) (entry : ProcNetEntry)
    (tracked : ft.expected key = some e) : (updateEntry ft ts now entry).expected key = some e := by
  rcases found : findRecord ft entry.flowKey now with ⟨_ | i, t⟩
  · rwa [updateEntry_lost ts found]
  · exact rewrite_expected found (updateEntry_records ts found) (fun _ _ => rfl) tracked

theorem updateEntries_expected {ft : FlowTracker} (ts : UInt64) (clock : Nat → UInt64) (entries : List ProcNetEntry)
    (tracked : ft.expected key = some e) : (updateEntries ft ts clock entries).expected key = some e := by
  induction entries generalizing ft clock with
  | nil => exact tracked
  | cons entry rest ih => exact ih _ (updateEntry_expected ts (clock 0) entry tracked)

theorem updateSingle_expected {ft : FlowTracker} (ts now : UInt64) (named : FlowKey) (bytes : UInt64)
    (probeId : CText.CStr) (tracked : ft.expected key = some e) :
    (flowTrackerUpdateSingle ft ts now named bytes probeId).expected key = some e := by
  rcases found : findRecord ft named now with ⟨_ | i, t⟩
  · rwa [updateSingle_lost ts bytes probeId found]
  · exact rewrite_expected found (updateSingle_records ts bytes probeId found) (fun _ _ => rfl) tracked

theorem check_foreign_expected {ft : FlowTracker} (statics : AckStatics) (now : UInt64) {named : FlowKey}
    (seqNum : UInt32) (pktLen : UInt16) (tcpFlags : UInt8) (other : named ≠ key) (tracked : ft.expected key = some e) :
    (flowTrackerCheckTcpRetransmit ft statics now named seqNum pktLen tcpFlags).ft.expected key = some e := by
  rcases found : findRecord ft named now with ⟨_ | i, t⟩
  · rw [check_lost found]
    exact tracked
  · obtain ⟨f, rewritten, -⟩ := check_counts statics seqNum pktLen tcpFlags found
    obtain ⟨-, r, read, -, same⟩ := findRecord_some found
    apply rewrite_expected found (congrArg FlowTracker.records rewritten) _ tracked
    intro r' read'
    cases read.symm.trans read'
    have apart : r.key ≠ key := by rwa [same]
    simp [FlowRecord.expects, FlowRecord.withValue, apart]

theorem cleanup_expected {ts maxAgeNs : UInt64} (spares : s.Spares key (.cleanup ts maxAgeNs)) :
    (flowTrackerCleanup s.ft ts maxAgeNs).expected key = s.ft.expected key := by
  apply expected_of_expects
  rw [flowTrackerCleanup, List.map_map]
  apply List.map_congr_left
  intro r member
  have fresh := spares r member
  simp only [Function.comp, FlowRecord.expects, FlowRecord.evict]
  split
  · rename_i stale
    have other : (r.active && r.key == key) = false := by
      cases on : r.active with
      | false => rfl
      | true =>
        have apart : r.key ≠ key := by
          intro same
          rw [fresh on same] at stale
          cases stale
        simpa using apart
    simp [other]
  · rfl

theorem foreign_expected (foreign : op.Foreign key) (spares : s.Spares key op) (tracked : s.ft.expected key = some e) :
    (s.step op).ft.expected key = some e := by
  cases op with
  | update clock entries => exact updateEntries_expected _ _ entries tracked
  | updateSingle ts now named bytes probeId => exact updateSingle_expected ts now named bytes probeId tracked
  | checkTcpRetransmit now named seqNum pktLen tcpFlags =>
    exact check_foreign_expected s.statics now seqNum pktLen tcpFlags (foreign _ rfl) tracked
  | getEvents | flush => exact tracked
  | cleanup ts maxAgeNs => exact (cleanup_expected spares).trans tracked

/-- A packet of the stream, checked while the record expects the next number, is not behind it, and leaves the record
expecting the number after the packet. -/
theorem check_in_order {ft : FlowTracker} {next : Option UInt32} {seqNum : UInt32} {pktLen : UInt16} {tcpFlags : UInt8}
    {packets : List TcpPacket} (statics : AckStatics) (now : UInt64)
    (inOrder : inOrderFrom next (⟨key, seqNum, pktLen, tcpFlags⟩ :: packets) = true)
    (held : ∀ n, next = some n → ft.expected key = some n) :
    (flowTrackerCheckTcpRetransmit ft statics now key seqNum pktLen tcpFlags).isRetransmit = false ∧
      ∃ after, inOrderFrom after packets = true ∧ ∀ n, after = some n →
        (flowTrackerCheckTcpRetransmit ft statics now key seqNum pktLen tcpFlags).ft.expected key = some n := by
  rw [inOrderFrom] at inOrder
  -- A FIN ends the numbers, an empty packet changes nothing, a data segment is the one that is expected.
  split at inOrder
  · rename_i consumes
    simp only [Bool.and_eq_true] at inOrder
    exact ⟨check_silent statics now (by simp [TcpPacket.isData, consumes]), none, inOrder.2, by simp⟩
  · rename_i plain
    split at inOrder
    · rename_i empty
      obtain rfl : pktLen = 0 := by simpa using empty
      have silent : TcpPacket.isData ⟨key, seqNum, 0, tcpFlags⟩ = false := by simp [TcpPacket.isData]
      refine ⟨check_silent statics now silent, next, inOrder, ?_⟩
      intro n same
      have after := (check_tracked statics now seqNum 0 tcpFlags (held n same)).2
      simpa [TcpPacket.next, silent, plain] using after
    · rename_i payload
      simp only [Bool.and_eq_true, beq_iff_eq] at inOrder
      obtain ⟨rfl, inOrder⟩ := inOrder
      obtain ⟨reported, expected⟩ := check_tracked statics now seqNum pktLen tcpFlags (held seqNum rfl)
      have onTime : TcpPacket.late seqNum ⟨key, seqNum, pktLen, tcpFlags⟩ = false := by simp [TcpPacket.late]
      have data : TcpPacket.isData ⟨key, seqNum, pktLen, tcpFlags⟩ = true := by
        simpa [TcpPacket.isData, plain] using payload
      refine ⟨reported.trans onTime, _, inOrder, ?_⟩
      rintro n ⟨⟩
      simpa [TcpPacket.next, onTime, data, plain] using expected

theorem run_in_order {next : Option UInt32} {ops : List TrackerOp} (inOrder : inOrderFrom next (ownPackets key ops) = true)
    (held : ∀ n, next = some n → s.ft.expected key = some n) (spared : Along TrackerState.step (TrackerState.Spares key) s ops) :
    ∀ verdict ∈ s.retransmits key ops, verdict = false := by
  induction ops generalizing s next with
  | nil => simp [TrackerState.retransmits, logged]
  | cons op rest ih =>
    obtain ⟨spares, spared⟩ := spared
    intro verdict reported
    rcases own_or_foreign key op with ⟨now, seqNum, pktLen, tcpFlags, rfl⟩ | foreign
    · rw [own_ownPackets] at inOrder
      obtain ⟨silent, after, inOrder, held⟩ := check_in_order s.statics now inOrder held
      rcases List.mem_append.mp reported with here | later
      · simpa [TrackerState.retransmit, silent] using here
      · exact ih inOrder held spared verdict later
    · rw [foreign_ownPackets foreign] at inOrder
      rw [TrackerState.retransmits, logged, foreign_retransmit foreign, List.nil_append] at reported
      exact ih inOrder (fun n same => foreign_expected foreign spares (held n same)) spared verdict reported

/-! A SYN that finds the table full: nothing is tracked for the key until a slot is released. -/

/-- Every slot is taken by another key. -/
def FlowTracker.Shut (key : FlowKey) (ft : FlowTracker) : Prop := ∀ r ∈ ft.records, r.active = true ∧ r.key ≠ key

theorem shut_of_lost {ft : FlowTracker} (absent : ft.lookup key = none) (full : ft.free = none) : ft.Shut key := by
  intro r member
  have on : r.active = true := by
    have taken := List.findIdx?_eq_none_iff.mp full r member
    simpa using taken
  exact ⟨on, Slots.lookup_none.mp absent r member on⟩

theorem shut_modify {ft : FlowTracker} {i : Nat} {f : FlowRecord → FlowRecord} (shut : ft.Shut key)
    (sameActive : ∀ r, (f r).active = r.active) (sameKey : ∀ r, (f r).key = r.key) :
    (ft.modifyRecord i f).Shut key := by
  intro r member
  obtain ⟨j, read⟩ := List.mem_iff_getElem?.mp member
  simp only [FlowTracker.modifyRecord, List.getElem?_modify, Option.map_eq_map, Option.map_eq_some_iff] at read
  obtain ⟨before, read, rfl⟩ := read
  have held := shut before (List.mem_of_getElem? read)
  split
  · rwa [sameActive, sameKey]
  · exact held

theorem findRecord_shut {ft : FlowTracker} (named : FlowKey) (now : UInt64) (shut : ft.Shut key) :
    (findRecord ft named now).2 = ft ∧ (named = key → (findRecord ft named now).1 = none) := by
  rcases findRecord_cases ft named now with ⟨i, r, result, -, read, -, same⟩ | ⟨i, r, result, -, -, read, idle⟩ |
    ⟨result, -⟩
  · rw [result]
    refine ⟨rfl, ?_⟩
    rintro rfl
    exact absurd same (shut r (List.mem_of_getElem? read)).2
  · have taken := (shut r (List.mem_of_getElem? read)).1
    rw [idle] at taken
    cases taken
  · rw [result]
    exact ⟨rfl, fun _ => rfl⟩

theorem rewrite_shut {ft t u : FlowTracker} {named : FlowKey} {now : UInt64} {i : Nat} {f : FlowRecord → FlowRecord}
    (found : findRecord ft named now = (some i, t)) (records : u.records = (t.modifyRecord i f).records)
    (sameActive : ∀ r, (f r).active = r.active) (sameKey : ∀ r, (f r).key = r.key) (shut : ft.Shut key) : u.Shut key := by
  have same := (findRecord_shut named now shut).1
  rw [found] at same
  obtain rfl : t = ft := same
  unfold FlowTracker.Shut
  rw [records]
  exact shut_modify shut sameActive sameKey

theorem updateEntry_shut {ft : FlowTracker} (ts now : UInt64) (entry : ProcNetEntry) (shut : ft.Shut key) :
    (updateEntry ft ts now entry).Shut key := by
  rcases found : findRecord ft entry.flowKey now with ⟨_ | i, t⟩
  · rwa [updateEntry_lost ts found]
  · exact rewrite_shut found (updateEntry_records ts found) (fun _ => rfl) (fun _ => rfl) shut

theorem updateEntries_shut {ft : FlowTracker} (ts : UInt64) (clock : Nat → UInt64) (entries : List ProcNetEntry)
    (shut : ft.Shut key) : (updateEntries ft ts clock entries).Shut key := by
  induction entries generalizing ft clock with
  | nil => exact shut
  | cons entry rest ih => exact ih _ (updateEntry_shut ts (clock 0) entry shut)

theorem step_shut (shut : s.ft.Shut key) (kept : op.isCleanup = false) : (s.step op).ft.Shut key := by
  cases op with
  | update clock entries => exact updateEntries_shut _ _ entries shut
  | updateSingle ts now named bytes probeId =>
    dsimp only [TrackerState.step]
    rcases found : findRecord s.ft named now with ⟨_ | i, t⟩
    · rwa [updateSingle_lost ts bytes probeId found]
    · exact rewrite_shut found (updateSingle_records ts bytes probeId found) (fun _ => rfl) (fun _ => rfl) shut
  | checkTcpRetransmit now named seqNum pktLen tcpFlags =>
    dsimp only [TrackerState.step]
    rcases found : findRecord s.ft named now with ⟨_ | i, t⟩
    · rw [check_lost found]
      exact shut
    · obtain ⟨f, rewritten, -⟩ := check_counts s.statics seqNum pktLen tcpFlags found
      exact rewrite_shut found (congrArg FlowTracker.records rewritten) (fun _ => rfl) (fun _ => rfl) shut
  | getEvents | flush => exact shut
  | cleanup => cases kept

theorem run_shut {ops : List TrackerOp} (shut : s.ft.Shut key) (kept : ∀ op ∈ ops, op.isCleanup = false) :
    ∀ verdict ∈ s.retransmits key ops, verdict = false := by
  induction ops generalizing s with
  | nil => simp [TrackerState.retransmits, logged]
  | cons op rest ih =>
    intro verdict reported
    rcases List.mem_append.mp reported with here | later
    · rcases own_or_foreign key op with ⟨now, seqNum, pktLen, tcpFlags, rfl⟩ | foreign
      · rcases found : findRecord s.ft key now with ⟨_ | i, t⟩
        · simpa [TrackerState.retransmit, check_lost found] using here
        · have lost := (findRecord_shut key now shut).2 rfl
          rw [found] at lost
          cases lost
      · rw [foreign_retransmit foreign] at here
        cases here
    · exact ih (step_shut shut (kept op List.mem_cons_self)) (fun op member => kept op (List.mem_cons_of_mem _ member))
        verdict later

end

theorem retransmits_append (key : FlowKey) (s : TrackerState) (ops more : List TrackerOp) :
    s.retransmits key (ops ++ more) = s.retransmits key ops ++ (s.run ops).retransmits key more := by
  induction ops generalizing s with
  | nil => rfl
  | cons op rest ih =>
    have later := ih (s.step op)
    simp only [TrackerState.retransmits, TrackerState.run, logged, List.cons_append, List.foldl_cons,
      List.append_assoc] at later ⊢
    rw [later]

theorem retransmits_foreign {key : FlowKey} {ops : List TrackerOp} (others : ∀ op ∈ ops, op.Foreign key)
    (s : TrackerState) : s.retransmits key ops = [] := by
  induction ops generalizing s with
  | nil => rfl
  | cons op rest ih =>
    rw [TrackerState.retransmits, logged, foreign_retransmit (others op List.mem_cons_self)]
    exact ih (fun op member => others op (List.mem_cons_of_mem _ member)) (s.step op)

/-- A stream in order, from its SYN on, with any operations of other flows before and between its packets: no check of
the stream reports a retransmission. When the SYN comes, the key is tracked or a slot is free; else it takes part in
nothing, as long as no slot is released. -/
theorem in_order_stream_never_reported (s : TrackerState) (key : FlowKey) (before later : List TrackerOp) (now : UInt64)
    (isn : UInt32) (tcpFlags : UInt8) (syn : tcpFlags &&& TCP_FLAG_SYN ≠ 0) (others : ∀ op ∈ before, op.Foreign key)
    (inOrder : inOrderFrom (some (isn + 1)) (ownPackets key later) = true)
    (opened : (s.run before).ft.HasRoom key ∨ ∀ op ∈ later, op.isCleanup = false)
    (spared : Along TrackerState.step (TrackerState.Spares key)
      ((s.run before).step (.checkTcpRetransmit now key isn 0 tcpFlags)) later) :
    ∀ verdict ∈ s.retransmits key (before ++ .checkTcpRetransmit now key isn 0 tcpFlags :: later), verdict = false := by
  rw [retransmits_append, retransmits_foreign others, List.nil_append]
  generalize s.run before = s at opened spared
  have consumes : TcpPacket.consumesSeq ⟨key, isn, 0, tcpFlags⟩ = true := by simp [TcpPacket.consumesSeq, syn]
  intro verdict reported
  rcases List.mem_append.mp reported with here | rest
  · have silent : TcpPacket.isData ⟨key, isn, 0, tcpFlags⟩ = false := by simp [TcpPacket.isData]
    simpa [TrackerState.retransmit, check_silent s.statics now silent] using here
  · rcases found : findRecord s.ft key now with ⟨_ | i, t⟩
    · -- The SYN was lost on a full table.
      rcases findRecord_cases s.ft key now with ⟨_, _, result, -⟩ | ⟨_, _, result, -⟩ | ⟨-, absent, full⟩
      · rw [result] at found
        cases found
      · rw [result] at found
        cases found
      · have kept : ∀ op ∈ later, op.isCleanup = false := by
          rcases opened with room | kept
          · rcases room with present | vacant
            · exact absurd absent present
            · exact absurd full vacant
          · exact kept
        refine run_shut ?_ kept verdict rest
        dsimp only [TrackerState.step]
        rw [check_lost found]
        exact shut_of_lost absent full
    · obtain ⟨r, -, -, held⟩ := findRecord_lookup found
      refine run_in_order inOrder ?_ spared verdict rest
      rintro n ⟨⟩
      have after := (check_own s.statics isn 0 tcpFlags found held).2
      simpa [TrackerState.step, TcpPacket.next, consumes] using after

/-- The packets of a stream after its SYN with the number 0xfffffffe, among those of another flow. -/
def acrossWrap (key other : FlowKey) : List TrackerOp :=
  [.checkTcpRetransmit 2 key 0xffffffff 1 TCP_FLAG_ACK, .checkTcpRetransmit 3 other 7 10 TCP_FLAG_ACK,
    .checkTcpRetransmit 4 key 0 1000 TCP_FLAG_ACK, .cleanup 5 100, .checkTcpRetransmit 6 key 77 0 TCP_FLAG_ACK,
    .checkTcpRetransmit 7 key 1000 0 TCP_FLAG_FIN]

theorem across_wrap_never_reported :
    let key : FlowKey := ⟨0x0100007f, 0x0200007f, 40000, 80, 6, 0, (0, 0)⟩
    let other : FlowKey := ⟨0x0100007f, 0x0200007f, 40001, 80, 6, 0, (0, 0)⟩
    ∀ verdict ∈ (TrackerState.start 2).retransmits key
      ([.checkTcpRetransmit 0 other 500 0 TCP_FLAG_SYN] ++
        .checkTcpRetransmit 1 key 0xfffffffe 0 TCP_FLAG_SYN :: acrossWrap key other), verdict = false :=
  in_order_stream_never_reported (TrackerState.start 2) _ _ _ _ _ _ (by decide)
    (by simp [TrackerOp.Foreign, TrackerOp.packet?]) (by decide) (.inl (.inr (by decide))) (by decide +kernel)

end StbEbpf.Probe
