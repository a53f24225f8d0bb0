import StbEbpf.Probe.FlowTracker

/-!
Invariants of the flow table. `Touches keys s t` says that `t` arises from `s` by an operation on
`keys`: it keeps the table well formed and every active record of another key in its slot.
-/

namespace StbEbpf.Probe

/-- A tracker for `maxFlows` flows whose cached counts and keys agree with its slots. -/
structure FlowTracker.WellFormed (maxFlows : Nat) (ft : FlowTracker) : Prop where
  flows : ft.maxFlows = maxFlows
  size : ft.records.length = maxFlows
  counted : ft.activeCount = ft.records.countP FlowRecord.active
  unique : Slots.Unique FlowRecord.active FlowRecord.key ft.records
  capacity : ft.maxEvents = maxFlows * 2
  bounded : ft.events.length ≤ ft.maxEvents

theorem flowTrackerCreate_wellFormed (maxFlows : Nat) :
    (flowTrackerCreate maxFlows).WellFormed maxFlows where
  flows := rfl
  size := by simp [flowTrackerCreate]
  counted := by simp [flowTrackerCreate, List.countP_replicate, FlowRecord.zero]
  unique := Slots.unique_replicate _ rfl
  capacity := rfl
  bounded := by simp [flowTrackerCreate]

theorem FlowTracker.WellFormed.active_range {maxFlows : Nat} {ft : FlowTracker} (wf : ft.WellFormed maxFlows) :
    0 ≤ ft.activeCount ∧ ft.activeCount ≤ maxFlows := by
  have bound := List.countP_le_length (p := FlowRecord.active) (l := ft.records)
  have size := wf.size
  rw [wf.counted]
  omega

structure Touches (keys : List FlowKey) (s t : FlowTracker) : Prop where
  wellFormed : ∀ maxFlows, s.WellFormed maxFlows → t.WellFormed maxFlows
  frame : ∀ (i : Nat) (r : FlowRecord), s.records[i]? = some r → r.active = true → r.key ∉ keys →
    t.records[i]? = some r

theorem Touches.refl (keys : List FlowKey) (s : FlowTracker) : Touches keys s s :=
  ⟨fun _ wf => wf, fun _ _ read _ _ => read⟩

theorem Touches.trans {keys : List FlowKey} {s t u : FlowTracker} (first : Touches keys s t)
    (second : Touches keys t u) : Touches keys s u :=
  ⟨fun n wf => second.wellFormed n (first.wellFormed n wf),
    fun i r read on other => second.frame i r (first.frame i r read on other) on other⟩

theorem Touches.mono {keys more : List FlowKey} {s t : FlowTracker} (subset : keys ⊆ more)
    (touches : Touches keys s t) : Touches more s t :=
  ⟨touches.wellFormed, fun i r read on other => touches.frame i r read on fun h => other (subset h)⟩

theorem modifyRecord_touches {ft : FlowTracker} {i : Nat} {r : FlowRecord} {f : FlowRecord → FlowRecord}
    (read : ft.records[i]? = some r) (sameActive : ∀ r, (f r).active = r.active)
    (sameKey : ∀ r, (f r).key = r.key) : Touches [r.key] ft (ft.modifyRecord i f) where
  wellFormed _ wf := {
    flows := wf.flows
    size := by simpa [FlowTracker.modifyRecord] using wf.size
    counted := by
      simpa [FlowTracker.modifyRecord, Slots.countP_modify sameActive] using wf.counted
    unique := Slots.unique_modify wf.unique sameActive sameKey
    capacity := wf.capacity
    bounded := wf.bounded }
  frame j other readOther _ different := by
    have apart : i ≠ j := by
      rintro rfl
      rw [read] at readOther
      obtain rfl := Option.some.inj readOther
      exact different (by simp)
    simpa [FlowTracker.modifyRecord, apart] using readOther

theorem activate_touches {ft : FlowTracker} {i : Nat} {r : FlowRecord} {key : FlowKey} {now : UInt64}
    (absent : ft.lookup key = none) (read : ft.records[i]? = some r) (idle : r.active = false) :
    Touches [key] ft (ft.activate i key now) := by
  have asSet : (ft.activate i key now).records = ft.records.set i (r.activate key now) := by
    obtain ⟨bound, here⟩ := List.getElem?_eq_some_iff.mp read
    apply List.ext_getElem?
    intro j
    simp only [FlowTracker.activate, FlowTracker.modifyRecord, List.getElem?_modify, List.getElem?_set]
    by_cases same : i = j
    · subst same
      simp [bound, here]
    · simp [same]
  constructor
  · intro n wf
    refine ⟨wf.flows, ?_, ?_, ?_, wf.capacity, wf.bounded⟩
    · rw [asSet, List.length_set, wf.size]
    · have more : (ft.records.set i (r.activate key now)).countP FlowRecord.active =
          ft.records.countP FlowRecord.active + 1 := Slots.countP_set_free read idle rfl
      rw [asSet, more]
      have counted := wf.counted
      simp only [FlowTracker.activate, FlowTracker.modifyRecord]
      omega
    · rw [asSet]
      exact Slots.unique_set wf.unique absent
  · intro j other readOther on _
    have apart : i ≠ j := by
      rintro rfl
      rw [read] at readOther
      obtain rfl := Option.some.inj readOther
      simp [idle] at on
    rw [asSet, List.getElem?_set_ne apart]
    exact readOther

/-- Everything `find_record` can do: hit an active record, take the first free slot, or give up on a
full table. -/
theorem findRecord_cases (ft : FlowTracker) (key : FlowKey) (now : UInt64) :
    (∃ i r, findRecord ft key now = (some i, ft) ∧ ft.lookup key = some i ∧
      ft.records[i]? = some r ∧ r.active = true ∧ r.key = key) ∨
    (∃ i r, findRecord ft key now = (some i, ft.activate i key now) ∧ ft.lookup key = none ∧
      ft.free = some i ∧ ft.records[i]? = some r ∧ r.active = false) ∨
    (findRecord ft key now = (none, ft) ∧ ft.lookup key = none ∧ ft.free = none) := by
  unfold findRecord
  cases found : ft.lookup key with
  | some i =>
    obtain ⟨r, read, on, same⟩ := Slots.lookup_some found
    exact Or.inl ⟨i, r, rfl, rfl, read, on, same⟩
  | none =>
    cases vacant : ft.free with
    | some i =>
      obtain ⟨r, read, idle⟩ := Slots.free_some vacant
      exact Or.inr (Or.inl ⟨i, r, rfl, rfl, rfl, read, idle⟩)
    | none => exact Or.inr (Or.inr ⟨rfl, rfl, rfl⟩)

theorem activate_read {ft : FlowTracker} {i : Nat} {r : FlowRecord} {key : FlowKey} {now : UInt64}
    (read : ft.records[i]? = some r) :
    (ft.activate i key now).records[i]? = some (r.activate key now) := by
  simp [FlowTracker.activate, FlowTracker.modifyRecord, read]

theorem findRecord_some {ft t : FlowTracker} {key : FlowKey} {now : UInt64} {i : Nat}
    (found : findRecord ft key now = (some i, t)) :
    Touches [key] ft t ∧ ∃ r, t.records[i]? = some r ∧ r.active = true ∧ r.key = key := by
  rcases findRecord_cases ft key now with ⟨j, r, result, _, read, on, same⟩ |
    ⟨j, r, result, absent, _, read, idle⟩ | ⟨result, _⟩
  · rw [result] at found
    cases found
    exact ⟨.refl _ _, r, read, on, same⟩
  · rw [result] at found
    cases found
    exact ⟨activate_touches absent read idle, _, activate_read read, rfl, rfl⟩
  · rw [result] at found
    cases found

theorem modifyFound_touches {ft t : FlowTracker} {key : FlowKey} {now : UInt64} {i : Nat} {f : FlowRecord → FlowRecord}
    (found : findRecord ft key now = (some i, t)) (sameActive : ∀ r, (f r).active = r.active)
    (sameKey : ∀ r, (f r).key = r.key) : Touches [key] ft (t.modifyRecord i f) := by
  obtain ⟨touched, r, read, -, rfl⟩ := findRecord_some found
  exact touched.trans (modifyRecord_touches read sameActive sameKey)

theorem findRecord_none {ft t : FlowTracker} {key : FlowKey} {now : UInt64}
    (failed : findRecord ft key now = (none, t)) : t = ft := by
  rcases findRecord_cases ft key now with ⟨_, _, result, _⟩ | ⟨_, _, result, _⟩ | ⟨result, _⟩
  all_goals
    rw [result] at failed
    cases failed
  rfl

theorem findRecord_elsewhere {ft t : FlowTracker} {key : FlowKey} {now : UInt64} {i j : Nat}
    (found : findRecord ft key now = (some i, t)) (elsewhere : i ≠ j) : t.records[j]? = ft.records[j]? := by
  rcases findRecord_cases ft key now with ⟨_, _, result, -⟩ | ⟨_, _, result, -⟩ | ⟨result, -⟩
  all_goals
    rw [result] at found
    cases found
  · rfl
  · simp [FlowTracker.activate, FlowTracker.modifyRecord, elsewhere]

/-- After the record of a key has been rewritten: every active record is that one, or is as it was and of another
key. -/
theorem applied_cases {n : Nat} {ft t : FlowTracker} {key : FlowKey} {now : UInt64} {i j : Nat} {r : FlowRecord}
    {f : FlowRecord → FlowRecord} (wf : ft.WellFormed n) (found : findRecord ft key now = (some i, t))
    (read : (t.modifyRecord i f).records[j]? = some r) (on : r.active = true) :
    (j = i ∧ ∃ before, t.records[i]? = some before ∧ before.key = key ∧ r = f before) ∨
    (j ≠ i ∧ r.key ≠ key ∧ ft.records[j]? = some r) := by
  obtain ⟨touched, mine, readMine, onMine, keyMine⟩ := findRecord_some found
  simp only [FlowTracker.modifyRecord, List.getElem?_modify, Option.map_eq_map, Option.map_eq_some_iff] at read
  obtain ⟨before, read, rfl⟩ := read
  by_cases here : i = j
  · subst here
    exact .inl ⟨rfl, before, read, by rwa [Option.some.inj (read.symm.trans readMine)], by simp⟩
  · simp only [here, ↓reduceIte] at on ⊢
    have other : before.key ≠ key :=
      fun same => here ((touched.wellFormed n wf).unique readMine read onMine on (keyMine.trans same.symm))
    exact .inr ⟨Ne.symm here, other, (findRecord_elsewhere found here).symm.trans read⟩

/-- An active record of another key is as it was after the record of a key has been rewritten. -/
theorem applied_frame {ft t : FlowTracker} {key : FlowKey} {now : UInt64} {i : Nat} {r : FlowRecord}
    {f : FlowRecord → FlowRecord} (found : findRecord ft key now = (some i, t)) (member : r ∈ ft.records)
    (on : r.active = true) (other : r.key ≠ key) : r ∈ (t.modifyRecord i f).records := by
  obtain ⟨touched, mine, readMine, onMine, keyMine⟩ := findRecord_some found
  obtain ⟨j, read⟩ := List.mem_iff_getElem?.mp member
  have still := touched.frame j r read on (by simpa using other)
  have apart : i ≠ j := by
    rintro rfl
    rw [readMine] at still
    exact other (Option.some.inj still ▸ keyMine)
  apply List.mem_of_getElem? (i := j)
  simpa [FlowTracker.modifyRecord, apart] using still

/-- The record that one key is given is not given to another key after it. -/
theorem findRecord_apart {ft t : FlowTracker} {key other : FlowKey} {now later : UInt64} {i j : Nat}
    (apart : key ≠ other) (first : findRecord ft key now = (some i, t))
    (second : (findRecord t other later).1 = some j) : i ≠ j := by
  rintro rfl
  obtain ⟨-, r, read, on, same⟩ := findRecord_some first
  rcases findRecord_cases t other later with ⟨j, r', result, -, read', -, same'⟩ |
    ⟨j, r', result, -, -, read', idle⟩ | ⟨result, -⟩
  · rw [result] at second
    cases second
    rw [read] at read'
    cases read'
    exact apart (same.symm.trans same')
  · rw [result] at second
    cases second
    rw [read] at read'
    cases read'
    rw [on] at idle
    cases idle
  · rw [result] at second
    cases second

theorem addEvent_records (ft : FlowTracker) (ev : FlowEvent) : (addEvent ft ev).records = ft.records := by
  unfold addEvent
  split <;> rfl

/-! An update of a key rewrites the record that is found for it, and nothing else in the table. -/

section
variable {ft t : FlowTracker} {key : FlowKey} {entry : ProcNetEntry} {now : UInt64} {i : Nat}

theorem updateEntry_lost (ts : UInt64) (lost : findRecord ft entry.flowKey now = (none, t)) :
    updateEntry ft ts now entry = ft := by
  rw [updateEntry, lost, findRecord_none lost]

theorem updateEntry_records (ts : UInt64) (found : findRecord ft entry.flowKey now = (some i, t)) :
    (updateEntry ft ts now entry).records = (t.modifyRecord i (.account entry ts)).records := by
  simp only [updateEntry, found]
  split
  · exact addEvent_records _ _
  · rfl

theorem updateSingle_lost (ts bytes : UInt64) (probeId : CText.CStr) (lost : findRecord ft key now = (none, t)) :
    flowTrackerUpdateSingle ft ts now key bytes probeId = ft := by
  rw [flowTrackerUpdateSingle, lost, findRecord_none lost]

theorem updateSingle_records (ts bytes : UInt64) (probeId : CText.CStr) (found : findRecord ft key now = (some i, t)) :
    (flowTrackerUpdateSingle ft ts now key bytes probeId).records =
      (t.modifyRecord i (.accountSingle bytes ts)).records := by
  simp only [flowTrackerUpdateSingle, found]
  exact addEvent_records _ _

end

theorem addEvent_touches (keys : List FlowKey) (ft : FlowTracker) (ev : FlowEvent) :
    Touches keys ft (addEvent ft ev) := by
  unfold addEvent
  split
  · rename_i room
    refine ⟨fun n wf => ⟨wf.flows, wf.size, wf.counted, wf.unique, wf.capacity, ?_⟩, fun _ _ read _ _ => read⟩
    simp only [List.length_append, List.length_singleton]
    omega
  · exact .refl _ _

theorem updateEntry_touches (ft : FlowTracker) (ts now : UInt64) (entry : ProcNetEntry) :
    Touches [entry.flowKey] ft (updateEntry ft ts now entry) := by
  unfold updateEntry
  split
  · rename_i failed
    rw [findRecord_none failed]
    exact .refl _ _
  · rename_i found
    have accounted := modifyFound_touches (f := .account entry ts) found (fun _ => rfl) (fun _ => rfl)
    dsimp only
    split
    · exact accounted.trans (addEvent_touches _ _ _)
    · exact accounted

theorem updateEntries_touches (ft : FlowTracker) (ts : UInt64) (clock : Nat → UInt64)
    (entries : List ProcNetEntry) :
    Touches (entries.map (·.flowKey)) ft (updateEntries ft ts clock entries) := by
  induction entries generalizing ft clock with
  | nil => exact .refl _ _
  | cons entry rest ih =>
    have first := updateEntry_touches ft ts (clock 0) entry
    have later := ih (updateEntry ft ts (clock 0) entry) (fun i => clock (i + 1))
    exact (first.mono (by simp)).trans (later.mono (by simp))

theorem flowTrackerUpdateSingle_touches (ft : FlowTracker) (ts now : UInt64) (key : FlowKey)
    (bytes : UInt64) (probeId : CText.CStr) :
    Touches [key] ft (flowTrackerUpdateSingle ft ts now key bytes probeId) := by
  unfold flowTrackerUpdateSingle
  split
  · rename_i failed
    rw [findRecord_none failed]
    exact .refl _ _
  · rename_i found
    have accounted := modifyFound_touches (f := .accountSingle bytes ts) found (fun _ => rfl) (fun _ => rfl)
    exact accounted.trans (addEvent_touches _ _ _)

theorem checkTcpRetransmit_touches (ft : FlowTracker) (statics : AckStatics) (now : UInt64)
    (key : FlowKey) (seqNum : UInt32) (pktLen : UInt16) (tcpFlags : UInt8) :
    Touches [key] ft
      (flowTrackerCheckTcpRetransmit ft statics now key seqNum pktLen tcpFlags).ft := by
  unfold flowTrackerCheckTcpRetransmit
  split
  · rename_i failed
    rw [findRecord_none failed]
    exact .refl _ _
  · rename_i i t found
    have touched := (findRecord_some found).1
    have valued : ∀ f, Touches [key] ft (t.modifyRecord i (.withValue f)) :=
      fun _ => modifyFound_touches found (fun _ => rfl) (fun _ => rfl)
    dsimp only
    split
    · exact valued _
    · split
      · split
        · exact valued _
        · exact valued _
      · split
        · simp only [checkPureAck]
          split
          · exact valued _
          · exact touched
        · exact touched

theorem countP_evict (records : List FlowRecord) (ts maxAgeNs : UInt64) :
    (records.map (FlowRecord.evict ts maxAgeNs)).countP FlowRecord.active +
      records.countP (·.stale ts maxAgeNs) = records.countP FlowRecord.active := by
  induction records with
  | nil => rfl
  | cons r rest ih =>
    have split : r.stale ts maxAgeNs = true → r.active = true := by
      intro stale
      simp only [FlowRecord.stale, Bool.and_eq_true] at stale
      exact stale.1.1
    rw [List.map_cons, List.countP_cons, List.countP_cons, List.countP_cons]
    cases stale : r.stale ts maxAgeNs with
    | true =>
      simp only [FlowRecord.evict, stale, split stale, ↓reduceIte, Bool.false_eq_true]
      omega
    | false =>
      simp only [FlowRecord.evict, stale, ↓reduceIte, Bool.false_eq_true]
      omega

theorem evict_clears (ts maxAgeNs : UInt64) (r : FlowRecord) :
    ∃ on, r.evict ts maxAgeNs = { r with active := on } ∧ (on = true → r.active = true) := by
  unfold FlowRecord.evict
  split
  · exact ⟨false, rfl, by simp⟩
  · exact ⟨r.active, rfl, id⟩

theorem flowTrackerCleanup_wellFormed {maxFlows : Nat} {ft : FlowTracker} (ts maxAgeNs : UInt64)
    (wf : ft.WellFormed maxFlows) : (flowTrackerCleanup ft ts maxAgeNs).WellFormed maxFlows where
  flows := wf.flows
  size := by simpa [flowTrackerCleanup] using wf.size
  counted := by
    have total := countP_evict ft.records ts maxAgeNs
    have counted := wf.counted
    simp only [flowTrackerCleanup]
    omega
  unique := by
    apply Slots.unique_map wf.unique
    · intro r on
      obtain ⟨flag, same, clears⟩ := evict_clears ts maxAgeNs r
      rw [same] at on
      exact clears on
    · intro r
      obtain ⟨flag, same, _⟩ := evict_clears ts maxAgeNs r
      rw [same]
  capacity := wf.capacity
  bounded := wf.bounded

theorem flowTrackerFlush_wellFormed {maxFlows : Nat} {ft : FlowTracker} (wf : ft.WellFormed maxFlows) :
    (flowTrackerFlush ft).WellFormed maxFlows :=
  ⟨wf.flows, wf.size, wf.counted, wf.unique, wf.capacity, by simp [flowTrackerFlush]⟩

/-! ### Runs -/

def TrackerOp.keys : TrackerOp → List FlowKey
  | .update _ entries => entries.map (·.flowKey)
  | .updateSingle _ _ key _ _ => [key]
  | .checkTcpRetransmit _ key _ _ _ => [key]
  | .getEvents _ | .flush | .cleanup _ _ => []

/-- What an operation leaves alone: cleanup clears flags and nothing else, every other operation
keeps the active records of the keys it was not given. -/
def TrackerOp.Frame (op : TrackerOp) (s t : FlowTracker) : Prop :=
  match op with
  | .cleanup _ _ => t.records.length = s.records.length ∧
      ∀ (i : Nat) (r : FlowRecord), s.records[i]? = some r →
        ∃ on, t.records[i]? = some { r with active := on } ∧ (on = true → r.active = true)
  | op => ∀ (i : Nat) (r : FlowRecord), s.records[i]? = some r → r.active = true → r.key ∉ op.keys →
      t.records[i]? = some r

theorem step_frame (s : TrackerState) (op : TrackerOp) : op.Frame s.ft (s.step op).ft := by
  cases op with
  | update clock entries => exact (updateEntries_touches s.ft _ _ entries).frame
  | updateSingle ts now key bytes probeId =>
    exact (flowTrackerUpdateSingle_touches s.ft ts now key bytes probeId).frame
  | checkTcpRetransmit now key seqNum pktLen tcpFlags =>
    exact (checkTcpRetransmit_touches s.ft s.statics now key seqNum pktLen tcpFlags).frame
  | getEvents maxEvents => exact fun _ _ read _ _ => read
  | flush => exact fun _ _ read _ _ => read
  | cleanup ts maxAgeNs =>
    refine ⟨by simp [TrackerState.step, flowTrackerCleanup], ?_⟩
    intro i r read
    obtain ⟨on, same, clears⟩ := evict_clears ts maxAgeNs r
    refine ⟨on, ?_, clears⟩
    simp [TrackerState.step, flowTrackerCleanup, read, same]

theorem step_wellFormed {maxFlows : Nat} {s : TrackerState} (op : TrackerOp)
    (wf : s.ft.WellFormed maxFlows) : (s.step op).ft.WellFormed maxFlows := by
  cases op with
  | update clock entries => exact (updateEntries_touches s.ft _ _ entries).wellFormed _ wf
  | updateSingle ts now key bytes probeId =>
    exact (flowTrackerUpdateSingle_touches s.ft ts now key bytes probeId).wellFormed _ wf
  | checkTcpRetransmit now key seqNum pktLen tcpFlags =>
    exact (checkTcpRetransmit_touches s.ft s.statics now key seqNum pktLen tcpFlags).wellFormed _ wf
  | getEvents maxEvents => exact wf
  | flush => exact flowTrackerFlush_wellFormed wf
  | cleanup ts maxAgeNs => exact flowTrackerCleanup_wellFormed ts maxAgeNs wf

theorem run_wellFormed {maxFlows : Nat} {s : TrackerState} (ops : List TrackerOp)
    (wf : s.ft.WellFormed maxFlows) : (s.run ops).ft.WellFormed maxFlows := by
  induction ops generalizing s with
  | nil => exact wf
  | cons op rest ih => exact ih (step_wellFormed op wf)

/-- In every state a run reaches, the cached count is the number of active slots and stays within
the table, active keys are distinct, the event buffer is not overfull, and whatever operation comes
next leaves the records of the other active keys alone. -/
theorem flow_table_invariant (maxFlows : Nat) (ops : List TrackerOp) (next : TrackerOp) :
    let s := TrackerState.run ⟨flowTrackerCreate maxFlows, {}⟩ ops
    s.ft.activeCount = s.ft.records.countP (·.active) ∧
    0 ≤ s.ft.activeCount ∧ s.ft.activeCount ≤ maxFlows ∧
    (∀ (i j : Nat) (a b : FlowRecord), s.ft.records[i]? = some a → s.ft.records[j]? = some b →
      a.active = true → b.active = true → a.key = b.key → i = j) ∧
    s.ft.events.length ≤ s.ft.maxEvents ∧ next.Frame s.ft (s.step next).ft := by
  intro s
  have wf : s.ft.WellFormed maxFlows := run_wellFormed ops (flowTrackerCreate_wellFormed maxFlows)
  have range := wf.active_range
  exact ⟨wf.counted, range.1, range.2, fun _ _ _ _ readA readB onA onB same =>
    wf.unique readA readB onA onB same, wf.bounded, step_frame s next⟩

end StbEbpf.Probe
