import StbEbpf.Probe.FlowTable

/-!
The event buffer of the flow tracker: which events each operation gives to `add_event`, and that they all arrive in
order as long as the buffer has room for them.
-/

namespace StbEbpf.Probe
open CText

/-- From `s` to `t` these events are given to `add_event`, which keeps as many as the buffer has room for. -/
structure Appends (offered : List FlowEvent) (s t : FlowTracker) : Prop where
  capacity : t.maxEvents = s.maxEvents
  kept : t.events = s.events ++ offered.take (s.maxEvents - s.events.length)

section
variable {s t u : FlowTracker} {first second offered : List FlowEvent}

theorem appends_nothing (capacity : t.maxEvents = s.maxEvents) (events : t.events = s.events) : Appends [] s t :=
  ⟨capacity, by rw [events, List.take_nil, List.append_nil]⟩

theorem Appends.trans (one : Appends first s t) (two : Appends second t u) : Appends (first ++ second) s u := by
  refine ⟨two.capacity.trans one.capacity, ?_⟩
  have length := congrArg List.length one.kept
  rw [List.length_append, List.length_take] at length
  have left : t.maxEvents - t.events.length = s.maxEvents - s.events.length - first.length := by
    rw [one.capacity]
    omega
  rw [two.kept, one.kept, List.append_assoc, ← one.kept, left, ← List.take_append]

theorem Appends.arrive (appends : Appends offered s t) (room : s.events.length + offered.length ≤ s.maxEvents) :
    t.events = s.events ++ offered := by
  rw [appends.kept, List.take_of_length_le (by omega)]

theorem addEvent_appends (ft : FlowTracker) (ev : FlowEvent) : Appends [ev] ft (addEvent ft ev) := by
  unfold addEvent
  constructor
  · split <;> rfl
  · by_cases room : ft.events.length < ft.maxEvents
    · rw [if_pos room, List.take_of_length_le (by rw [List.length_singleton]; omega)]
    · rw [if_neg room, Nat.sub_eq_zero_of_le (by omega), List.take_zero, List.append_nil]

theorem findRecord_appends (ft : FlowTracker) (key : FlowKey) (now : UInt64) :
    Appends [] ft (findRecord ft key now).2 := by
  rcases findRecord_cases ft key now with ⟨i, r, found, -⟩ | ⟨i, r, found, -⟩ | ⟨found, -⟩ <;> rw [found] <;>
    exact appends_nothing rfl rfl

theorem modifyRecord_appends (ft : FlowTracker) (i : Nat) (f : FlowRecord → FlowRecord) :
    Appends [] ft (ft.modifyRecord i f) :=
  appends_nothing rfl rfl

end

/-! ### Operations -/

def offeredEntry (ft : FlowTracker) (ts now : UInt64) (entry : ProcNetEntry) : List FlowEvent :=
  match findRecord ft entry.flowKey now with
  | (none, _) => []
  | (some i, ft) =>
    let delta := (ft.records[i]?.map (·.deltaBytes entry)).getD 0
    if delta > 0 then [flowEvent ts .zero entry.flowKey delta] else []

def offeredEntries (ft : FlowTracker) (ts : UInt64) (clock : Nat → UInt64) : List ProcNetEntry → List FlowEvent
  | [] => []
  | entry :: rest =>
    offeredEntry ft ts (clock 0) entry ++
      offeredEntries (updateEntry ft ts (clock 0) entry) ts (fun i => clock (i + 1)) rest

def offeredSingle (ft : FlowTracker) (ts now : UInt64) (key : FlowKey) (bytes : UInt64) (probeId : CStr) :
    List FlowEvent :=
  if (findRecord ft key now).1.isSome then [flowEvent ts (.strncpy probeId.bytes) key bytes] else []

theorem updateEntry_appends (ft : FlowTracker) (ts now : UInt64) (entry : ProcNetEntry) :
    Appends (offeredEntry ft ts now entry) ft (updateEntry ft ts now entry) := by
  have found := findRecord_appends ft entry.flowKey now
  unfold offeredEntry updateEntry
  rcases outcome : findRecord ft entry.flowKey now with ⟨_ | i, t⟩
  · rw [outcome] at found
    exact found
  · rw [outcome] at found
    have counted := found.trans (modifyRecord_appends t i (.account entry ts))
    dsimp only
    split
    · exact counted.trans (addEvent_appends _ _)
    · exact counted

theorem updateEntries_appends (ft : FlowTracker) (ts : UInt64) (clock : Nat → UInt64) (entries : List ProcNetEntry) :
    Appends (offeredEntries ft ts clock entries) ft (updateEntries ft ts clock entries) := by
  induction entries generalizing ft clock with
  | nil => exact appends_nothing rfl rfl
  | cons entry rest ih => exact (updateEntry_appends ft ts (clock 0) entry).trans (ih _ _)

theorem updateSingle_appends (ft : FlowTracker) (ts now : UInt64) (key : FlowKey) (bytes : UInt64) (probeId : CStr) :
    Appends (offeredSingle ft ts now key bytes probeId) ft (flowTrackerUpdateSingle ft ts now key bytes probeId) := by
  have found := findRecord_appends ft key now
  unfold offeredSingle flowTrackerUpdateSingle
  rcases outcome : findRecord ft key now with ⟨_ | i, t⟩
  · rw [outcome] at found
    exact found
  · rw [outcome] at found
    exact (found.trans (modifyRecord_appends t i (.accountSingle bytes ts))).trans (addEvent_appends _ _)

theorem checkTcpRetransmit_appends (ft : FlowTracker) (statics : AckStatics) (now : UInt64) (key : FlowKey)
    (seqNum : UInt32) (pktLen : UInt16) (tcpFlags : UInt8) :
    Appends [] ft (flowTrackerCheckTcpRetransmit ft statics now key seqNum pktLen tcpFlags).ft := by
  have found := findRecord_appends ft key now
  unfold flowTrackerCheckTcpRetransmit checkPureAck
  rcases outcome : findRecord ft key now with ⟨_ | i, t⟩
  · rw [outcome] at found
    exact found
  · rw [outcome] at found
    dsimp only
    split_ifs
    all_goals first
      | exact found
      | exact found.trans (modifyRecord_appends t i _)

/-- The events an operation gives to `add_event`. -/
def offered (s : TrackerState) : TrackerOp → List FlowEvent
  | .update clock entries => offeredEntries s.ft (clock 0) (fun i => clock (i + 1)) entries
  | .updateSingle ts now key bytes probeId => offeredSingle s.ft ts now key bytes probeId
  | .checkTcpRetransmit .. | .getEvents _ | .flush | .cleanup .. => []

theorem step_appends (s : TrackerState) (op : TrackerOp) (keeps : op ≠ .flush) :
    Appends (offered s op) s.ft (s.step op).ft := by
  cases op with
  | update clock entries => exact updateEntries_appends _ _ _ _
  | updateSingle ts now key bytes probeId => exact updateSingle_appends _ _ _ _ _ _
  | checkTcpRetransmit now key seqNum pktLen tcpFlags => exact checkTcpRetransmit_appends _ _ _ _ _ _ _
  | getEvents maxEvents => exact appends_nothing rfl rfl
  | flush => exact absurd rfl keeps
  | cleanup ts maxAgeNs => exact appends_nothing rfl rfl

def offeredRun (s : TrackerState) : List TrackerOp → List FlowEvent
  | [] => []
  | op :: rest => offered s op ++ offeredRun (s.step op) rest

theorem run_appends (s : TrackerState) (ops : List TrackerOp) (keep : ∀ op ∈ ops, op ≠ .flush) :
    Appends (offeredRun s ops) s.ft (s.run ops).ft := by
  induction ops generalizing s with
  | nil => exact appends_nothing rfl rfl
  | cons op rest ih =>
    have first := step_appends s op (keep op List.mem_cons_self)
    exact first.trans (ih (s.step op) fun later member => keep later (List.mem_cons_of_mem _ member))

/-! ### How many there can be -/

/-- At most so many events come from an operation. -/
def TrackerOp.weight : TrackerOp → Nat
  | .update _ entries => entries.length
  | .updateSingle .. => 1
  | .checkTcpRetransmit .. | .getEvents _ | .flush | .cleanup .. => 0

theorem offeredEntry_length (ft : FlowTracker) (ts now : UInt64) (entry : ProcNetEntry) :
    (offeredEntry ft ts now entry).length ≤ 1 := by
  unfold offeredEntry
  rcases findRecord ft entry.flowKey now with ⟨_ | i, t⟩
  · exact Nat.zero_le _
  · dsimp only
    split
    · exact Nat.le_refl _
    · exact Nat.zero_le _

theorem offeredEntries_length (ft : FlowTracker) (ts : UInt64) (clock : Nat → UInt64) (entries : List ProcNetEntry) :
    (offeredEntries ft ts clock entries).length ≤ entries.length := by
  induction entries generalizing ft clock with
  | nil => exact Nat.le_refl _
  | cons entry rest ih =>
    have one := offeredEntry_length ft ts (clock 0) entry
    have others := ih (updateEntry ft ts (clock 0) entry) fun i => clock (i + 1)
    unfold offeredEntries
    rw [List.length_append, List.length_cons]
    omega

theorem offeredSingle_length (ft : FlowTracker) (ts now : UInt64) (key : FlowKey) (bytes : UInt64) (probeId : CStr) :
    (offeredSingle ft ts now key bytes probeId).length ≤ 1 := by
  unfold offeredSingle
  split
  · exact Nat.le_refl _
  · exact Nat.zero_le _

theorem offered_length (s : TrackerState) (op : TrackerOp) : (offered s op).length ≤ op.weight := by
  cases op with
  | update clock entries => exact offeredEntries_length _ _ _ _
  | updateSingle ts now key bytes probeId =>
    exact offeredSingle_length _ _ _ _ _ _
  | _ => exact Nat.le_refl _

theorem offeredRun_length (s : TrackerState) (ops : List TrackerOp) :
    (offeredRun s ops).length ≤ (ops.map TrackerOp.weight).sum := by
  induction ops generalizing s with
  | nil => exact Nat.le_refl _
  | cons op rest ih =>
    have first := offered_length s op
    have others := ih (s.step op)
    unfold offeredRun
    rw [List.length_append, List.map_cons, List.sum_cons]
    omega

end StbEbpf.Probe
