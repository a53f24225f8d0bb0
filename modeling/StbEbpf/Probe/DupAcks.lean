import StbEbpf.Lib.Ring
import StbEbpf.Lib.Run
import StbEbpf.Probe.FlowTable
import StbEbpf.Probe.MainLoop

/-!
Duplicate acknowledgements. `flow_tracker_check_tcp_retransmit` compares a pure ACK with one cell of a table that all
flows share, and moves on to the next cell with every pure ACK. The model is compared with a detector that is given
the packets of one flow and nothing else.
-/

namespace StbEbpf.Probe
open CText Run

/-! ### The detector of one flow -/

/-- What a check is told about a packet. -/
structure TcpPacket where
  key : FlowKey
  seqNum : UInt32
  pktLen : UInt16
  tcpFlags : UInt8
  deriving DecidableEq

namespace TcpPacket

def isPureAck (packet : TcpPacket) : Bool :=
  !(packet.tcpFlags &&& TCP_FLAG_SYN != 0 || packet.tcpFlags &&& TCP_FLAG_FIN != 0) &&
    packet.pktLen == 0 && packet.tcpFlags &&& TCP_FLAG_ACK != 0

/-- A pure ACK with the number of the pure ACK before it. -/
def repeats (last : Option UInt32) (packet : TcpPacket) : Bool :=
  packet.isPureAck && packet.seqNum != 0 && last == some packet.seqNum

def remember (last : Option UInt32) (packet : TcpPacket) : Option UInt32 :=
  if packet.isPureAck then some packet.seqNum else last

end TcpPacket

def lastAck (own : List TcpPacket) : Option UInt32 := own.foldl TcpPacket.remember none

def detect (own : List TcpPacket) : List Bool :=
  logged TcpPacket.remember (fun last packet => [packet.repeats last]) none own

theorem detect_concat (own : List TcpPacket) (packet : TcpPacket) :
    detect (own ++ [packet]) = detect own ++ [packet.repeats (lastAck own)] :=
  logged_concat ..

/-! ### What the checks of a run report -/

def TrackerOp.packet? : TrackerOp → Option TcpPacket
  | .checkTcpRetransmit _ key seqNum pktLen tcpFlags => some ⟨key, seqNum, pktLen, tcpFlags⟩
  | .update .. | .updateSingle .. | .getEvents _ | .flush | .cleanup .. => none

def ownPackets (key : FlowKey) (ops : List TrackerOp) : List TcpPacket :=
  (ops.filterMap TrackerOp.packet?).filter (·.key = key)

namespace TrackerState

/-- The `is_dup_ack` of a check for `key`. -/
def verdict (key : FlowKey) (s : TrackerState) : TrackerOp → List Bool
  | .checkTcpRetransmit now other seqNum pktLen tcpFlags =>
    if other = key then [(flowTrackerCheckTcpRetransmit s.ft s.statics now other seqNum pktLen tcpFlags).isDupAck]
    else []
  | .update .. | .updateSingle .. | .getEvents _ | .flush | .cleanup .. => []

def verdicts (key : FlowKey) (s : TrackerState) (ops : List TrackerOp) : List Bool := logged step (verdict key) s ops

/-- The number that a check writes into the table: that of a pure ACK, of any flow, that has a record. -/
def records (s : TrackerState) : TrackerOp → List UInt32
  | .checkTcpRetransmit now key seqNum pktLen tcpFlags =>
    if TcpPacket.isPureAck ⟨key, seqNum, pktLen, tcpFlags⟩ && (findRecord s.ft key now).1.isSome then [seqNum] else []
  | .update .. | .updateSingle .. | .getEvents _ | .flush | .cleanup .. => []

def recordedAcks (s : TrackerState) (ops : List TrackerOp) : List UInt32 := logged step records s ops

def start (maxFlows : Nat) : TrackerState := ⟨flowTrackerCreate maxFlows, {}⟩

end TrackerState

open TrackerState

/-- Each flow gets the verdicts of its own detector, and its counter is the number of duplicates among them. The index
of the table is an `int`. -/
structure DetectsPerFlow (maxFlows : Nat) (ops : List TrackerOp) : Prop where
  indexed : ((start maxFlows).run ops).statics.flowIdx < 2 ^ 31
  reported : ∀ key, (start maxFlows).verdicts key ops = detect (ownPackets key ops)
  counted : ∀ seen rest, ops = seen ++ rest → ∀ r ∈ ((start maxFlows).run seen).ft.records, r.active = true →
    r.value.dupAcks = UInt32.ofNat ((detect (ownPackets r.key seen)).count true)

/-- For a pure ACK with a number: the pure ACK that was recorded 4096 pure ACKs before it, whatever flow that was of,
carried its number exactly if the last one of its own flow did. -/
def AlignedAt (maxFlows : Nat) (before : List TrackerOp) : TrackerOp → Prop
  | .checkTcpRetransmit now key seqNum pktLen tcpFlags =>
    TcpPacket.isPureAck ⟨key, seqNum, pktLen, tcpFlags⟩ = true → seqNum ≠ 0 →
      ((findRecord ((start maxFlows).run before).ft key now).1.isSome = true ∧
        Ring.oldest 4096 ((start maxFlows).recordedAcks before) = some seqNum ↔
      lastAck (ownPackets key before) = some seqNum)
  | .update .. | .updateSingle .. | .getEvents _ | .flush | .cleanup .. => True

structure Aligned (maxFlows : Nat) (ops : List TrackerOp) : Prop where
  indexed : ((start maxFlows).recordedAcks ops).length < 2 ^ 31
  agrees : Each (AlignedAt maxFlows) ops

/-! ### One check -/

section
variable {ft t : FlowTracker} {statics : AckStatics} {now : UInt64} {key : FlowKey} {seqNum : UInt32} {pktLen : UInt16}
  {tcpFlags : UInt8} {i : Nat}

theorem modifyRecord_id (ft : FlowTracker) (i : Nat) : ft.modifyRecord i (.withValue id) = ft := by
  have same : FlowRecord.withValue id = id := rfl
  rw [FlowTracker.modifyRecord, same, List.modify_id]

theorem check_lost (lost : findRecord ft key now = (none, t)) :
    flowTrackerCheckTcpRetransmit ft statics now key seqNum pktLen tcpFlags = ⟨-1, false, false, ft, statics⟩ := by
  rw [flowTrackerCheckTcpRetransmit, lost, findRecord_none lost]

theorem check_pureAck (found : findRecord ft key now = (some i, t))
    (pure : TcpPacket.isPureAck ⟨key, seqNum, pktLen, tcpFlags⟩ = true) :
    flowTrackerCheckTcpRetransmit ft statics now key seqNum pktLen tcpFlags = checkPureAck t statics i seqNum := by
  simp only [TcpPacket.isPureAck, Bool.and_eq_true, Bool.not_eq_true', beq_iff_eq] at pure
  obtain ⟨⟨consumes, rfl⟩, hasAck⟩ := pure
  simp only [flowTrackerCheckTcpRetransmit, found, consumes, hasAck, ↓reduceIte, Bool.false_eq_true]
  rfl

theorem check_other (statics : AckStatics) (found : findRecord ft key now = (some i, t))
    (other : TcpPacket.isPureAck ⟨key, seqNum, pktLen, tcpFlags⟩ = false) :
    ∃ (late : Bool) (f : FlowValue → FlowValue),
      flowTrackerCheckTcpRetransmit ft statics now key seqNum pktLen tcpFlags =
        ⟨0, late, false, t.modifyRecord i (.withValue f), statics⟩ ∧ ∀ v, (f v).dupAcks = v.dupAcks := by
  simp only [flowTrackerCheckTcpRetransmit, found]
  split
  · exact ⟨_, _, rfl, fun _ => rfl⟩
  · split
    · split
      · exact ⟨_, _, rfl, fun _ => rfl⟩
      · exact ⟨_, _, rfl, fun _ => rfl⟩
    · split
      · rename_i consumes empty hasAck
        have none : pktLen = 0 := by
          rw [gt_iff_lt, UInt16.pos_iff_ne_zero, not_not] at empty
          exact empty
        simp [TcpPacket.isPureAck, consumes, none, hasAck] at other
      · exact ⟨false, id, by rw [modifyRecord_id], fun _ => rfl⟩

/-- What a check answers and leaves in the static variables: both change for a pure ACK of a known flow only. -/
theorem check_ack : (flowTrackerCheckTcpRetransmit ft statics now key seqNum pktLen tcpFlags).isDupAck =
      (TcpPacket.isPureAck ⟨key, seqNum, pktLen, tcpFlags⟩ && (findRecord ft key now).1.isSome &&
        (statics.lastAckPerFlow (statics.flowIdx % 4096) == seqNum && seqNum != 0)) ∧
    (flowTrackerCheckTcpRetransmit ft statics now key seqNum pktLen tcpFlags).statics =
      if TcpPacket.isPureAck ⟨key, seqNum, pktLen, tcpFlags⟩ && (findRecord ft key now).1.isSome then
        ⟨fun j => if j = statics.flowIdx % 4096 then seqNum else statics.lastAckPerFlow j, statics.flowIdx + 1⟩
      else statics := by
  rcases found : findRecord ft key now with ⟨_ | i, t⟩
  · rw [check_lost found]
    simp
  · cases pure : TcpPacket.isPureAck ⟨key, seqNum, pktLen, tcpFlags⟩ with
    | true =>
      rw [check_pureAck found pure]
      simp [checkPureAck]
    | false =>
      obtain ⟨late, f, result, -⟩ := check_other statics found pure
      rw [result]
      simp

/-- The record of the key is rewritten, and counts the duplicate that is reported. -/
theorem check_counts (statics : AckStatics) (seqNum : UInt32) (pktLen : UInt16) (tcpFlags : UInt8)
    (found : findRecord ft key now = (some i, t)) :
    ∃ f : FlowValue → FlowValue,
      (flowTrackerCheckTcpRetransmit ft statics now key seqNum pktLen tcpFlags).ft =
        t.modifyRecord i (.withValue f) ∧
      ∀ v, (f v).dupAcks = v.dupAcks + UInt32.ofNat
        ([(flowTrackerCheckTcpRetransmit ft statics now key seqNum pktLen tcpFlags).isDupAck].count true) := by
  cases pure : TcpPacket.isPureAck ⟨key, seqNum, pktLen, tcpFlags⟩ with
  | true =>
    rw [check_pureAck found pure]
    cases dup : (checkPureAck t statics i seqNum).isDupAck with
    | true => exact ⟨_, if_pos dup, fun _ => rfl⟩
    | false =>
      refine ⟨id, ?_, by simp⟩
      rw [modifyRecord_id]
      exact if_neg (Bool.eq_false_iff.mp dup)
  | false =>
    obtain ⟨late, f, result, keeps⟩ := check_other statics found pure
    rw [result]
    exact ⟨f, rfl, by simpa using keeps⟩

end

/-! ### The table of pure ACKs -/

/-- The table holds the last 4096 pure ACKs of all flows. -/
theorem run_statics (maxFlows : Nat) (ops : List TrackerOp) :
    ((start maxFlows).run ops).statics.flowIdx = ((start maxFlows).recordedAcks ops).length ∧
    Ring.Holds 4096 0 ((start maxFlows).recordedAcks ops) ((start maxFlows).run ops).statics.lastAckPerFlow := by
  induction ops using List.reverseRecOn with
  | nil => exact ⟨rfl, Ring.holds_nil⟩
  | append_singleton ops op ih =>
    rw [recordedAcks, logged_concat, run, List.foldl_append]
    rw [recordedAcks, run] at ih
    cases op with
    | checkTcpRetransmit now key seqNum pktLen tcpFlags =>
      simp only [List.foldl_cons, List.foldl_nil, step, check_ack.2, records]
      split
      · obtain ⟨count, holds⟩ := ih
        refine ⟨by simp [count], ?_⟩
        rw [count]
        exact Ring.holds_write holds
      · rwa [List.append_nil]
    | update | updateSingle | getEvents | flush | cleanup =>
      simp only [List.foldl_cons, List.foldl_nil, step, records, List.append_nil]
      exact ih

theorem run_isDupAck (maxFlows : Nat) (ops : List TrackerOp) (now : UInt64) (key : FlowKey) (seqNum : UInt32)
    (pktLen : UInt16) (tcpFlags : UInt8) :
    (flowTrackerCheckTcpRetransmit ((start maxFlows).run ops).ft ((start maxFlows).run ops).statics now key seqNum
        pktLen tcpFlags).isDupAck = true ↔
      TcpPacket.isPureAck ⟨key, seqNum, pktLen, tcpFlags⟩ = true ∧ seqNum ≠ 0 ∧
      (findRecord ((start maxFlows).run ops).ft key now).1.isSome = true ∧
      Ring.oldest 4096 ((start maxFlows).recordedAcks ops) = some seqNum := by
  obtain ⟨count, holds⟩ := run_statics maxFlows ops
  have cell := Ring.holds_next holds (by decide)
  rw [check_ack.1, count, cell]
  -- A blank cell is zero, and so never the number that is looked for.
  have read : seqNum ≠ 0 → ((Ring.oldest 4096 ((start maxFlows).recordedAcks ops)).getD 0 = seqNum ↔
      Ring.oldest 4096 ((start maxFlows).recordedAcks ops) = some seqNum) := by
    intro positive
    cases Ring.oldest 4096 ((start maxFlows).recordedAcks ops) with
    | none => simpa using fun zero => positive zero.symm
    | some value => simp
  simp only [Bool.and_eq_true, beq_iff_eq, bne_iff_ne]
  constructor
  · rintro ⟨⟨pure, found⟩, same, positive⟩
    exact ⟨pure, positive, found, (read positive).mp same⟩
  · rintro ⟨pure, positive, found, same⟩
    exact ⟨⟨pure, found⟩, (read positive).mpr same, positive⟩

/-! ### Verdicts -/

theorem verdicts_concat (maxFlows : Nat) (key : FlowKey) (ops : List TrackerOp) (op : TrackerOp) :
    (start maxFlows).verdicts key (ops ++ [op]) =
      (start maxFlows).verdicts key ops ++ ((start maxFlows).run ops).verdict key op :=
  logged_concat ..

theorem ownPackets_concat (key : FlowKey) (ops : List TrackerOp) (op : TrackerOp) :
    ownPackets key (ops ++ [op]) = ownPackets key ops ++ op.packet?.toList.filter (·.key = key) := by
  rw [ownPackets, List.filterMap_append, List.filter_append]
  cases op <;> rfl

/-- The next verdict is the detector's exactly if the two pure ACKs agree. -/
theorem verdict_iff (maxFlows : Nat) (ops : List TrackerOp) (op : TrackerOp) :
    (∀ key, (start maxFlows).verdicts key (ops ++ [op]) = detect (ownPackets key (ops ++ [op]))) ↔
    (∀ key, (start maxFlows).verdicts key ops = detect (ownPackets key ops)) ∧ AlignedAt maxFlows ops op := by
  cases op with
  | checkTcpRetransmit now key seqNum pktLen tcpFlags =>
    have agrees : (flowTrackerCheckTcpRetransmit ((start maxFlows).run ops).ft ((start maxFlows).run ops).statics now
          key seqNum pktLen tcpFlags).isDupAck =
        TcpPacket.repeats (lastAck (ownPackets key ops)) ⟨key, seqNum, pktLen, tcpFlags⟩ ↔
        AlignedAt maxFlows ops (.checkTcpRetransmit now key seqNum pktLen tcpFlags) := by
      rw [Bool.eq_iff_iff, run_isDupAck]
      simp only [TcpPacket.repeats, Bool.and_eq_true, bne_iff_ne, beq_iff_eq, AlignedAt]
      tauto
    rw [← agrees]
    have own : ∀ other, ownPackets other (ops ++ [.checkTcpRetransmit now key seqNum pktLen tcpFlags]) =
        ownPackets other ops ++ if key = other then [⟨key, seqNum, pktLen, tcpFlags⟩] else [] := by
      intro other
      rw [ownPackets_concat]
      by_cases same : key = other <;> simp [TrackerOp.packet?, same]
    constructor
    · intro all
      have here := all key
      rw [verdicts_concat, own, if_pos rfl, detect_concat, verdict, if_pos rfl] at here
      obtain ⟨before, last⟩ := List.append_inj' here rfl
      refine ⟨?_, List.singleton_inj.mp last⟩
      intro other
      by_cases same : key = other
      · exact same ▸ before
      · have there := all other
        rwa [verdicts_concat, own, if_neg same, verdict, if_neg same, List.append_nil, List.append_nil] at there
    · rintro ⟨all, last⟩ other
      rw [verdicts_concat, own, verdict, all other]
      by_cases same : key = other
      · subst same
        rw [if_pos rfl, if_pos rfl, detect_concat, last]
      · rw [if_neg same, if_neg same, List.append_nil, List.append_nil]
  | update | updateSingle | getEvents | flush | cleanup =>
    simp [verdicts_concat, verdict, ownPackets_concat, TrackerOp.packet?, AlignedAt]

theorem verdicts_iff (maxFlows : Nat) (ops : List TrackerOp) :
    (∀ key, (start maxFlows).verdicts key ops = detect (ownPackets key ops)) ↔ Each (AlignedAt maxFlows) ops := by
  induction ops using List.reverseRecOn with
  | nil => exact ⟨fun _ => each_nil, fun _ _ => rfl⟩
  | append_singleton ops op ih => rw [verdict_iff, each_concat, ih]

/-! ### Counters -/

/-- The `dup_acks` of every active record is the count of its key. A slot that was never taken still holds zero, and a
key without a record has a count of zero. -/
structure Counts (count : FlowKey → Nat) (ft : FlowTracker) : Prop where
  active : ∀ r ∈ ft.records, r.active = true → r.value.dupAcks = UInt32.ofNat (count r.key)
  idle : ∀ r ∈ ft.records, r.active = false → r.value.dupAcks = 0
  absent : ∀ key, (∀ r ∈ ft.records, r.active = true → r.key ≠ key) → count key = 0

section
variable {n i : Nat} {count more : FlowKey → Nat} {ft t : FlowTracker} {key : FlowKey} {now ts : UInt64}

theorem counts_of_records (counts : Counts count ft) (same : t.records = ft.records) : Counts count t :=
  ⟨by rw [same]; exact counts.active, by rw [same]; exact counts.idle, by rw [same]; exact counts.absent⟩

theorem counts_start (maxFlows : Nat) : Counts (fun _ => 0) (start maxFlows).ft where
  active r member _ := by rw [List.eq_of_mem_replicate member]; rfl
  idle r member _ := by rw [List.eq_of_mem_replicate member]; rfl
  absent _ _ := rfl

/-- The record that is found for a key holds its count. -/
theorem findRecord_counts (counts : Counts count ft) (found : findRecord ft key now = (some i, t)) :
    ∃ r, t.records[i]? = some r ∧ r.value.dupAcks = UInt32.ofNat (count key) := by
  rcases findRecord_cases ft key now with ⟨j, r, result, -, read, on, same⟩ |
    ⟨j, r, result, absent, -, read, idle⟩ | ⟨result, -⟩
  · rw [result] at found
    cases found
    exact ⟨r, read, same ▸ counts.active r (List.mem_of_getElem? read) on⟩
  · rw [result] at found
    cases found
    refine ⟨_, activate_read read, ?_⟩
    have none : count key = 0 := counts.absent key fun r member on => Slots.lookup_none.mp absent r member on
    rw [none]
    exact counts.idle r (List.mem_of_getElem? read) idle
  · rw [result] at found
    cases found

theorem counts_apply (added : Nat) {f : FlowRecord → FlowRecord} (counts : Counts count ft) (wf : ft.WellFormed n)
    (found : findRecord ft key now = (some i, t)) (sameKey : ∀ r, (f r).key = r.key)
    (sameActive : ∀ r, (f r).active = r.active)
    (adds : ∀ r, (f r).value.dupAcks = r.value.dupAcks + UInt32.ofNat added)
    (own : more key = count key + added) (others : ∀ other, other ≠ key → more other = count other) :
    Counts more (t.modifyRecord i f) := by
  obtain ⟨-, mine, readMine, onMine, keyMine⟩ := findRecord_some found
  refine ⟨?_, ?_, ?_⟩
  · intro r member on
    obtain ⟨j, read⟩ := List.mem_iff_getElem?.mp member
    rcases applied_cases wf found read on with ⟨-, before, readBefore, named, rfl⟩ | ⟨-, other, read⟩
    · obtain ⟨same, readSame, held⟩ := findRecord_counts counts found
      cases readSame.symm.trans readBefore
      rw [adds, held, sameKey, named, own, UInt32.ofNat_add]
    · rw [others r.key other]
      exact counts.active r (List.mem_of_getElem? read) on
  · intro r member off
    obtain ⟨j, read⟩ := List.mem_iff_getElem?.mp member
    simp only [FlowTracker.modifyRecord, List.getElem?_modify, Option.map_eq_map, Option.map_eq_some_iff] at read
    obtain ⟨before, read, rfl⟩ := read
    by_cases here : i = j
    · subst here
      cases readMine.symm.trans read
      simp [sameActive, onMine] at off
    · rw [if_neg here] at off ⊢
      rw [findRecord_elsewhere found here] at read
      exact counts.idle before (List.mem_of_getElem? read) off
  · intro other none
    have rewritten : f mine ∈ (t.modifyRecord i f).records :=
      List.mem_of_getElem? (i := i) (by simp [FlowTracker.modifyRecord, readMine])
    have apart : other ≠ key := by
      rintro rfl
      exact none (f mine) rewritten ((sameActive mine).trans onMine) ((sameKey mine).trans keyMine)
    rw [others other apart]
    refine counts.absent other fun r member on same => ?_
    exact none r (applied_frame found member on fun equal => apart (same.symm.trans equal)) on same

theorem updateEntry_counts (entry : ProcNetEntry) (counts : Counts count ft) (wf : ft.WellFormed n) :
    Counts count (updateEntry ft ts now entry) := by
  rcases found : findRecord ft entry.flowKey now with ⟨_ | i, t⟩
  · rwa [updateEntry_lost ts found]
  · have applied : Counts count (t.modifyRecord i (.account entry ts)) :=
      counts_apply 0 counts wf found (fun _ => rfl) (fun _ => rfl)
        (fun r => (UInt32.add_zero r.value.dupAcks).symm) rfl (fun _ _ => rfl)
    exact counts_of_records applied (updateEntry_records ts found)

theorem updateEntries_counts (entries : List ProcNetEntry) (clock : Nat → UInt64) (counts : Counts count ft)
    (wf : ft.WellFormed n) : Counts count (updateEntries ft ts clock entries) := by
  induction entries generalizing ft clock with
  | nil => exact counts
  | cons entry rest ih =>
    exact ih _ (updateEntry_counts entry counts wf) ((updateEntry_touches ft ts (clock 0) entry).wellFormed n wf)

theorem updateSingle_counts (bytes : UInt64) (probeId : CStr) (counts : Counts count ft) (wf : ft.WellFormed n) :
    Counts count (flowTrackerUpdateSingle ft ts now key bytes probeId) := by
  rcases found : findRecord ft key now with ⟨_ | i, t⟩
  · rwa [updateSingle_lost ts bytes probeId found]
  · have applied : Counts count (t.modifyRecord i (.accountSingle bytes ts)) :=
      counts_apply 0 counts wf found (fun _ => rfl) (fun _ => rfl)
        (fun r => (UInt32.add_zero r.value.dupAcks).symm) rfl (fun _ _ => rfl)
    exact counts_of_records applied (updateSingle_records ts bytes probeId found)

end

theorem run_counts (maxFlows : Nat) (ops : List CaptureOp) :
    Counts (fun key => ((start maxFlows).verdicts key (ops.map CaptureOp.trackerOp)).count true)
      ((start maxFlows).run (ops.map CaptureOp.trackerOp)).ft := by
  induction ops using List.reverseRecOn with
  | nil => exact counts_start maxFlows
  | append_singleton ops op ih =>
    have wf : ((start maxFlows).run (ops.map CaptureOp.trackerOp)).ft.WellFormed maxFlows :=
      run_wellFormed _ (flowTrackerCreate_wellFormed maxFlows)
    rw [List.map_append, List.map_singleton, run, List.foldl_append]
    simp only [verdicts_concat, List.count_append]
    cases op with
    | update clock entries => exact updateEntries_counts entries _ ih wf
    | updateSingle ts now key bytes probeId => exact updateSingle_counts bytes probeId ih wf
    | checkTcpRetransmit now key seqNum pktLen tcpFlags =>
      simp only [CaptureOp.trackerOp, verdict, List.foldl_cons, List.foldl_nil, step]
      rw [run] at ih wf
      rcases found : findRecord (List.foldl step (start maxFlows) (ops.map CaptureOp.trackerOp)).ft key now
        with ⟨_ | i, t⟩
      · have silent : ∀ other, (if key = other then [false] else []).count true = 0 := by
          intro other
          split <;> rfl
        simp only [run, check_lost found, silent, Nat.add_zero]
        exact ih
      · obtain ⟨f, rewritten, adds⟩ := check_counts _ seqNum pktLen tcpFlags found
        rw [rewritten]
        refine counts_apply _ ih wf found (fun _ => rfl) (fun _ => rfl) (fun r => adds r.value) ?_ ?_
        · simp only [run, ↓reduceIte]
        · intro other apart
          simp only [if_neg (Ne.symm apart), List.count_nil, Nat.add_zero]

/-! ### Where the table agrees with the detectors -/

theorem dup_acks_per_flow_iff (maxFlows : Nat) (ops : List CaptureOp) :
    DetectsPerFlow maxFlows (ops.map CaptureOp.trackerOp) ↔ Aligned maxFlows (ops.map CaptureOp.trackerOp) := by
  have table := (run_statics maxFlows (ops.map CaptureOp.trackerOp)).1
  constructor
  · intro detects
    exact ⟨table ▸ detects.indexed, (verdicts_iff ..).mp detects.reported⟩
  · intro aligned
    refine ⟨table ▸ aligned.indexed, (verdicts_iff ..).mpr aligned.agrees, ?_⟩
    intro seen rest split r member on
    obtain ⟨before, after, -, rfl, -⟩ := List.map_eq_append_iff.mp split
    rw [(run_counts maxFlows before).active r member on]
    rw [split] at aligned
    rw [(verdicts_iff ..).mpr (each_initial aligned.agrees)]

/-- Between two runs in which they agree, a flow that sent the same packets cannot tell what other flows sent. -/
theorem dup_acks_noninterference {maxFlows : Nat} {ops others : List CaptureOp} {key : FlowKey}
    (aligned : Aligned maxFlows (ops.map CaptureOp.trackerOp))
    (alignedOthers : Aligned maxFlows (others.map CaptureOp.trackerOp))
    (same : ownPackets key (ops.map CaptureOp.trackerOp) = ownPackets key (others.map CaptureOp.trackerOp)) :
    let s := (start maxFlows).run (ops.map CaptureOp.trackerOp)
    let t := (start maxFlows).run (others.map CaptureOp.trackerOp)
    (start maxFlows).verdicts key (ops.map CaptureOp.trackerOp) =
      (start maxFlows).verdicts key (others.map CaptureOp.trackerOp) ∧
    ∀ a ∈ s.ft.records, ∀ b ∈ t.ft.records, a.active = true → b.active = true → a.key = key → b.key = key →
      a.value.dupAcks = b.value.dupAcks := by
  intro s t
  have verdicts : (start maxFlows).verdicts key (ops.map CaptureOp.trackerOp) =
      (start maxFlows).verdicts key (others.map CaptureOp.trackerOp) := by
    rw [(verdicts_iff ..).mpr aligned.agrees, (verdicts_iff ..).mpr alignedOthers.agrees, same]
  refine ⟨verdicts, ?_⟩
  rintro a memberA b memberB onA onB rfl named
  rw [(run_counts maxFlows ops).active a memberA onA, (run_counts maxFlows others).active b memberB onB, named, verdicts]

/-- The ACK of one flow, twice in a row: the second one is compared with the next cell. -/
def repeatedAck : List CaptureOp :=
  List.replicate 2 (.checkTcpRetransmit 1 ⟨0x0100007f, 0x0200007f, 40000, 80, 6, 0, (0, 0)⟩ 1000 0 TCP_FLAG_ACK)

theorem repeated_ack_not_reported : ¬ DetectsPerFlow 4 (repeatedAck.map CaptureOp.trackerOp) := by
  intro detects
  have verdicts := detects.reported ⟨0x0100007f, 0x0200007f, 40000, 80, 6, 0, (0, 0)⟩
  revert verdicts
  decide +kernel

end StbEbpf.Probe
