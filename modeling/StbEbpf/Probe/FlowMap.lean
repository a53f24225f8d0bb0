import StbEbpf.Lib.SlotMap
import StbEbpf.Probe.FlowExpiry

/-!
What the flow table is for: a map from each flow to the time it was last seen, of bounded size. The slots, their order
and their reuse do not show in it.
-/

namespace StbEbpf.Probe
open CText BoundedMap SlotMap

abbrev Flows := Map FlowKey UInt64

/-- The condition under which `flow_tracker_cleanup` lets a flow go. -/
def expired (ts maxAgeNs seen : UInt64) : Bool := decide (seen > 0) && decide (ts - seen > maxAgeNs)

/-- A new flow is refused by a full map, and forgotten when it has not been seen for too long. -/
def Flows.step (maxFlows : Nat) (flows : Flows) : TrackerOp → Flows
  | .update clock entries => entries.foldl (fun flows entry => update maxFlows flows entry.flowKey (clock 0)) flows
  | .updateSingle ts _ key _ _ => update maxFlows flows key ts
  | .cleanup ts maxAgeNs => remove (expired ts maxAgeNs) flows
  | .checkTcpRetransmit .. | .getEvents _ | .flush => flows

def flowsAfter (maxFlows : Nat) (ops : List TrackerOp) : Flows := ops.foldl (Flows.step maxFlows) ∅

/-- The time at which the flow of a record was last seen. -/
def FlowRecord.seen (r : FlowRecord) : UInt64 := r.value.lastSeenNs

def FlowTracker.Shows (ft : FlowTracker) (flows : Flows) : Prop :=
  Represents FlowRecord.active FlowRecord.key FlowRecord.seen ft.records flows

section
variable {maxFlows : Nat} {ft t : FlowTracker} {flows : Flows} {key : FlowKey} {now ts : UInt64}

/-! ### Updates -/

theorem FlowTracker.Shows.refused (shows : ft.Shows flows) (wf : ft.WellFormed maxFlows)
    (lost : findRecord ft key now = (none, t)) : ¬ HasRoom maxFlows flows key := by
  have full : ft.lookup key = none ∧ ft.free = none := by
    rcases findRecord_cases ft key now with ⟨_, _, result, -⟩ | ⟨_, _, result, -⟩ | ⟨-, absent, none_⟩
    · rw [result] at lost
      cases lost
    · rw [result] at lost
      cases lost
    · exact ⟨absent, none_⟩
  obtain ⟨absent, none_⟩ := full
  rw [← wf.size, shows.hasRoom_iff wf.unique]
  rintro (present | vacant)
  · rw [← FlowTracker.lookup, absent] at present
    cases present
  · exact vacant none_

theorem FlowTracker.Shows.accepted (shows : ft.Shows flows) (wf : ft.WellFormed maxFlows) {i : Nat}
    (found : findRecord ft key now = (some i, t)) : HasRoom maxFlows flows key := by
  rw [← wf.size, shows.hasRoom_iff wf.unique]
  rcases findRecord_cases ft key now with ⟨j, _, -, hit, -⟩ | ⟨j, _, -, -, vacant, -⟩ | ⟨result, -⟩
  · left
    rw [← FlowTracker.lookup, hit]
    rfl
  · right
    rw [← FlowTracker.free, vacant]
    exact Option.some_ne_none j
  · rw [result] at found
    cases found

/-- The record that is found is the only one of its key, whether it was there before or not. -/
theorem FlowTracker.Shows.found (shows : ft.Shows flows) (wf : ft.WellFormed maxFlows) {i : Nat} {f : FlowRecord → FlowRecord}
    (found : findRecord ft key now = (some i, t)) (flag : ∀ r, (f r).active = r.active) (named : ∀ r, (f r).key = r.key)
    (stamps : ∀ r, (f r).seen = ts) : (t.modifyRecord i f).Shows (flows.insert key ts) := by
  rcases findRecord_cases ft key now with ⟨j, r, result, -, read, on, rfl⟩ |
    ⟨j, r, result, absent, -, read, idle⟩ | ⟨result, -⟩
  · rw [result] at found
    cases found
    apply Represents.put shows read ((flag r).trans on) (named r) (stamps r) (fun _ => rfl)
    intro k other there active' same
    exact wf.unique there read active' on same
  · rw [result] at found
    cases found
    -- the slot is activated and rewritten in one go
    have twice : ((ft.activate i key now).modifyRecord i f).records =
        ft.records.modify i fun r => f (r.activate key now) :=
      List.modify_modify_eq (FlowRecord.activate key now) f i ft.records
    unfold FlowTracker.Shows
    rw [twice]
    apply Represents.put shows read ((flag (r.activate key now)).trans rfl) (named (r.activate key now))
      (stamps (r.activate key now))
    · intro on
      rw [idle] at on
      cases on
    · intro k other there active' same
      exact absurd same (Slots.lookup_none.mp absent other (List.mem_of_getElem? there) active')
  · rw [result] at found
    cases found

theorem updateEntry_shows (shows : ft.Shows flows) (wf : ft.WellFormed maxFlows) (entry : ProcNetEntry) :
    (updateEntry ft ts now entry).Shows (update maxFlows flows entry.flowKey ts) := by
  rcases found : findRecord ft entry.flowKey now with ⟨_ | i, t⟩
  · rw [updateEntry_lost ts found, update, if_neg (shows.refused wf found)]
    obtain rfl := findRecord_none found
    exact shows
  · rw [update_of_room (shows.accepted wf found)]
    unfold FlowTracker.Shows
    rw [updateEntry_records ts found]
    exact shows.found wf found (fun _ => rfl) (fun _ => rfl) (fun _ => rfl)

theorem updateEntries_shows (entries : List ProcNetEntry) (clock : Nat → UInt64) (shows : ft.Shows flows)
    (wf : ft.WellFormed maxFlows) :
    (updateEntries ft ts clock entries).Shows
      (entries.foldl (fun flows entry => update maxFlows flows entry.flowKey ts) flows) := by
  induction entries generalizing ft flows clock with
  | nil => exact shows
  | cons entry rest ih =>
    have wf' := (updateEntry_touches ft ts (clock 0) entry).wellFormed _ wf
    exact ih (fun i => clock (i + 1)) (updateEntry_shows shows wf entry) wf'

theorem updateSingle_shows (shows : ft.Shows flows) (wf : ft.WellFormed maxFlows) (bytes : UInt64) (probeId : CStr) :
    (flowTrackerUpdateSingle ft ts now key bytes probeId).Shows (update maxFlows flows key ts) := by
  rcases found : findRecord ft key now with ⟨_ | i, t⟩
  · rw [updateSingle_lost ts bytes probeId found, update, if_neg (shows.refused wf found)]
    obtain rfl := findRecord_none found
    exact shows
  · rw [update_of_room (shows.accepted wf found)]
    unfold FlowTracker.Shows
    rw [updateSingle_records ts bytes probeId found]
    exact shows.found wf found (fun _ => rfl) (fun _ => rfl) (fun _ => rfl)

/-! ### Checks and cleanups -/

theorem settled_findRecord (settled : Settled key ft) (now : UInt64) : (findRecord ft key now).2 = ft := by
  unfold findRecord
  rcases settled with present | full
  · obtain ⟨i, found⟩ := Option.isSome_iff_exists.mp present
    rw [found]
  · rw [full]
    cases ft.lookup key <;> rfl

/-- A check of a flow that was just updated changes counters only. -/
theorem check_shows (shows : ft.Shows flows) (settled : Settled key ft) (statics : AckStatics) (seqNum : UInt32)
    (pktLen : UInt16) (tcpFlags : UInt8) :
    (flowTrackerCheckTcpRetransmit ft statics now key seqNum pktLen tcpFlags).ft.Shows flows := by
  have counters (i : Nat) (f : FlowValue → FlowValue) (kept : ∀ v, (f v).lastSeenNs = v.lastSeenNs) :
      (ft.modifyRecord i (.withValue f)).Shows flows := by
    apply Represents.congr shows
    · intro r
      rfl
    · intro r
      rfl
    · intro r
      exact kept r.value
  have same := settled_findRecord settled now
  unfold flowTrackerCheckTcpRetransmit
  rcases found : findRecord ft key now with ⟨_ | i, t⟩
  · rw [found] at same
    cases same
    exact shows
  · rw [found] at same
    cases same
    dsimp only
    split
    · exact counters i _ fun _ => rfl
    · split
      · split <;> exact counters i _ fun _ => rfl
      · split
        · unfold checkPureAck
          dsimp only
          split
          · exact counters i _ fun _ => rfl
          · exact shows
        · exact shows

theorem stale_eq (maxAgeNs : UInt64) (r : FlowRecord) :
    r.stale ts maxAgeNs = (r.active && expired ts maxAgeNs r.seen) := Bool.and_assoc _ _ _

theorem cleanup_shows (shows : ft.Shows flows) (maxAgeNs : UInt64) :
    (flowTrackerCleanup ft ts maxAgeNs).Shows (remove (expired ts maxAgeNs) flows) := by
  apply Represents.release shows
  · intro r
    unfold FlowRecord.evict
    rw [stale_eq]
    cases expired ts maxAgeNs r.seen <;> cases on : r.active <;> simp [on]
  · intro r
    obtain ⟨on, same, -⟩ := evict_clears ts maxAgeNs r
    rw [same]
  · intro r
    obtain ⟨on, same, -⟩ := evict_clears ts maxAgeNs r
    rw [same]
    rfl

end

/-! ### Runs -/

theorem flowTrackerCreate_shows (maxFlows : Nat) : (flowTrackerCreate maxFlows).Shows ∅ := represents_idle maxFlows rfl

/-- The flow of the last update, if a check of it may follow, is settled. -/
def Awaits (ft : FlowTracker) (previous : Option FlowKey) : Prop := ∀ key, previous = some key → Settled key ft

theorem awaits_none (ft : FlowTracker) : Awaits ft none := by
  rintro key ⟨⟩

theorem run_shows {maxFlows : Nat} {maxAgeNs : UInt64} {previous : Option FlowKey} {s : TrackerState} {flows : Flows}
    (ops : List TrackerOp) (shows : s.ft.Shows flows) (wf : s.ft.WellFormed maxFlows) (awaits : Awaits s.ft previous)
    (asMain : AsMain maxAgeNs previous ops) :
    (s.run ops).ft.Shows (ops.foldl (Flows.step maxFlows) flows) := by
  induction ops generalizing s flows previous with
  | nil => exact shows
  | cons op rest ih =>
    have wf' := step_wellFormed op wf
    cases op with
    | update clock entries => exact ih (updateEntries_shows entries _ shows wf) wf' (awaits_none _) asMain
    | updateSingle ts now key bytes probeId =>
      refine ih (updateSingle_shows shows wf bytes probeId) wf' ?_ asMain
      rintro _ ⟨⟩
      exact updateSingle_settled ts now bytes probeId
    | checkTcpRetransmit now key seqNum pktLen tcpFlags =>
      obtain ⟨recent, later⟩ := asMain
      exact ih (check_shows shows (awaits key recent) s.statics seqNum pktLen tcpFlags) wf' (awaits_none _) later
    | getEvents maxEvents => exact ih shows wf' (awaits_none _) asMain
    | flush => exact ih shows wf' (awaits_none _) asMain
    | cleanup ts age =>
      obtain ⟨-, later⟩ := asMain
      exact ih (cleanup_shows shows age) wf' (awaits_none _) later

/-- Along every run of calls as `main` makes them, the active records are the entries of the map, and the count that the
tracker keeps is the size of the map. -/
theorem flow_table_refines_map (maxFlows : Nat) (maxAgeNs : UInt64) (ops : List TrackerOp)
    (asMain : AsMain maxAgeNs none ops) :
    let ft := (TrackerState.run ⟨flowTrackerCreate maxFlows, {}⟩ ops).ft
    let flows := flowsAfter maxFlows ops
    (∀ key seen, flows.lookup key = some seen ↔
      ∃ r ∈ ft.records, r.active = true ∧ r.key = key ∧ r.value.lastSeenNs = seen) ∧
    ft.activeCount = flows.keys.length := by
  intro ft flows
  have created := flowTrackerCreate_wellFormed maxFlows
  have wf : ft.WellFormed maxFlows := run_wellFormed ops created
  have shows : ft.Shows flows :=
    run_shows (s := ⟨flowTrackerCreate maxFlows, {}⟩) ops (flowTrackerCreate_shows maxFlows) created
      (awaits_none _) asMain
  refine ⟨shows, ?_⟩
  rw [wf.counted, shows.size wf.unique]

/-- Two places for three flows; the second flow is old enough to go when the third comes back. -/
def threeFlows : List TrackerOp :=
  [.updateSingle 10 10 flowA 100 (.ofBytes []), .updateSingle 20 20 flowB 100 (.ofBytes []),
    .updateSingle 30 30 { flowB with srcPort := 4002 } 100 (.ofBytes []),
    .updateSingle 50 50 flowA 100 (.ofBytes []), .checkTcpRetransmit 50 flowA 1 0 16,
    .cleanup 60 35, .updateSingle 70 70 { flowB with srcPort := 4002 } 100 (.ofBytes [])]

theorem three_flows_refine :
    let ft := (TrackerState.run ⟨flowTrackerCreate 2, {}⟩ threeFlows).ft
    let flows := flowsAfter 2 threeFlows
    (∀ key seen, flows.lookup key = some seen ↔
      ∃ r ∈ ft.records, r.active = true ∧ r.key = key ∧ r.value.lastSeenNs = seen) ∧
    ft.activeCount = flows.keys.length ∧ flows.keys = [{ flowB with srcPort := 4002 }, flowA] := by
  have asMain : AsMain 35 none threeFlows := ⟨rfl, rfl, trivial⟩
  obtain ⟨entries, size⟩ := flow_table_refines_map 2 35 threeFlows asMain
  exact ⟨entries, size, by decide +kernel⟩

end StbEbpf.Probe
