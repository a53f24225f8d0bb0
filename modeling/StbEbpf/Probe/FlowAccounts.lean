import StbEbpf.Lib.Run
import StbEbpf.Probe.FlowTable

/-!
What the counters of a flow account for. A ledger keeps, for each key, the accepted updates since
its current activation; `Accounted` compares every active record with it. `find_record` does not
clear the counters of the slot it takes, so the two agree as long as each new flow lands in a slot
whose counters are still zero.
-/

namespace StbEbpf.Probe
open CText Run

inductive Contribution where
  | single (bytes : UInt64)
  | entry (rxQueue txQueue : UInt64)

namespace Contribution

def single? : Contribution → Option Nat
  | single bytes => some bytes.toNat
  | entry _ _ => none

def rx? : Contribution → Option Nat
  | single _ => none
  | entry rx _ => some rx.toNat

def tx? : Contribution → Option Nat
  | single _ => none
  | entry _ tx => some tx.toNat

@[simp] theorem parts_single (bytes : UInt64) :
    (single bytes).single? = some bytes.toNat ∧ (single bytes).rx? = none ∧ (single bytes).tx? = none :=
  ⟨rfl, rfl, rfl⟩

@[simp] theorem parts_entry (rx tx : UInt64) : (entry rx tx).single? = none ∧
    (entry rx tx).rx? = some rx.toNat ∧ (entry rx tx).tx? = some tx.toNat :=
  ⟨rfl, rfl, rfl⟩

end Contribution

/-- The sum of the positive increments of successive readings. -/
def increments (prev : Nat) : List Nat → Nat
  | [] => 0
  | reading :: rest => (reading - prev) + increments reading rest

/-- The number of queue readings in which one of the two queues grew. -/
def grown (prevRx prevTx : Nat) : List Contribution → Nat
  | [] => 0
  | .single _ :: rest => grown prevRx prevTx rest
  | .entry rx tx :: rest =>
    (if prevRx < rx.toNat ∨ prevTx < tx.toNat then 1 else 0) + grown rx.toNat tx.toNat rest

def accountedBytes (history : List Contribution) : Nat :=
  (history.filterMap (·.single?)).sum + increments 0 (history.filterMap (·.rx?)) +
    increments 0 (history.filterMap (·.tx?))

def accountedPackets (history : List Contribution) : Nat :=
  (history.filterMap (·.single?)).length + grown 0 0 history

abbrev Ledger := FlowKey → List Contribution

/-- An update is accepted when the key is tracked, or when a slot is free: then it starts a new
activation. -/
def Ledger.note (ledger : Ledger) (ft : FlowTracker) (key : FlowKey) (update : List Contribution) : Ledger :=
  match ft.lookup key, ft.free with
  | some _, _ => fun k => if k = key then ledger key ++ update else ledger k
  | none, some _ => fun k => if k = key then update else ledger k
  | none, none => ledger

def Ledger.noteEntries (ledger : Ledger) (ft : FlowTracker) (ts : UInt64) (clock : Nat → UInt64) :
    List ProcNetEntry → Ledger
  | [] => ledger
  | entry :: rest =>
    (ledger.note ft entry.flowKey [.entry entry.rxQueue entry.txQueue]).noteEntries
      (updateEntry ft ts (clock 0) entry) ts (fun i => clock (i + 1)) rest

def Ledger.step (ledger : Ledger) (s : TrackerState) : TrackerOp → Ledger
  | .update clock entries => ledger.noteEntries s.ft (clock 0) (fun i => clock (i + 1)) entries
  | .updateSingle _ _ key bytes _ => ledger.note s.ft key [.single bytes]
  | .checkTcpRetransmit _ key _ _ _ => ledger.note s.ft key []
  | .getEvents _ | .flush | .cleanup _ _ => ledger

def Ledger.run (ledger : Ledger) (s : TrackerState) : List TrackerOp → Ledger
  | [] => ledger
  | op :: rest => (ledger.step s op).run (s.step op) rest

/-- Every active record holds exactly what its flow contributed since its activation. -/
def Accounted (ft : FlowTracker) (ledger : Ledger) : Prop :=
  ∀ r ∈ ft.records, r.active = true →
    r.value.bytes.toNat = accountedBytes (ledger r.key) % 2 ^ 64 ∧
    r.value.packets.toNat = accountedPackets (ledger r.key) % 2 ^ 64

/-! ### When the counters are right -/

def FlowRecord.Blank (r : FlowRecord) : Prop :=
  r.value.bytes = 0 ∧ r.value.packets = 0 ∧ r.prevRxQueue = 0 ∧ r.prevTxQueue = 0

instance (r : FlowRecord) : Decidable r.Blank := by unfold FlowRecord.Blank; infer_instance

/-- A key that is not tracked would take a slot whose counters are still zero. -/
def LandsBlank (ft : FlowTracker) (key : FlowKey) : Prop :=
  ft.lookup key = none → ∀ i ∈ ft.free, ∀ r ∈ ft.records[i]?, r.Blank

instance (ft : FlowTracker) (key : FlowKey) : Decidable (LandsBlank ft key) := by
  unfold LandsBlank; infer_instance

/-- The queue readings the tracker last saw for a key. -/
def queuesBefore (ft : FlowTracker) (key : FlowKey) : UInt64 × UInt64 :=
  match ft.lookup key with
  | some i => (ft.records[i]?.map fun r => (r.prevRxQueue, r.prevTxQueue)).getD (0, 0)
  | none => (0, 0)

/-- The two increments of an entry do not wrap around to zero together. -/
def NoWrap (queues : UInt64 × UInt64) (entry : ProcNetEntry) : Prop :=
  (entry.rxQueue.toNat - queues.1.toNat) + (entry.txQueue.toNat - queues.2.toNat) ≠ 2 ^ 64

instance (queues : UInt64 × UInt64) (entry : ProcNetEntry) : Decidable (NoWrap queues entry) := by
  unfold NoWrap; infer_instance

def EntriesClean (ft : FlowTracker) (ts : UInt64) (clock : Nat → UInt64) : List ProcNetEntry → Prop
  | [] => True
  | entry :: rest =>
    LandsBlank ft entry.flowKey ∧ NoWrap (queuesBefore ft entry.flowKey) entry ∧
    EntriesClean (updateEntry ft ts (clock 0) entry) ts (fun i => clock (i + 1)) rest

instance decidableEntriesClean (ft : FlowTracker) (ts : UInt64) (clock : Nat → UInt64) :
    (entries : List ProcNetEntry) → Decidable (EntriesClean ft ts clock entries)
  | [] => .isTrue trivial
  | entry :: rest =>
    have := decidableEntriesClean (updateEntry ft ts (clock 0) entry) ts (fun i => clock (i + 1)) rest
    inferInstanceAs (Decidable (_ ∧ _ ∧ _))

def OpClean (s : TrackerState) : TrackerOp → Prop
  | .update clock entries => EntriesClean s.ft (clock 0) (fun i => clock (i + 1)) entries
  | .updateSingle _ _ key _ _ => LandsBlank s.ft key
  | .checkTcpRetransmit _ key _ _ _ => LandsBlank s.ft key
  | .getEvents _ | .flush | .cleanup _ _ => True

instance (s : TrackerState) : (op : TrackerOp) → Decidable (OpClean s op)
  | .update clock entries => decidableEntriesClean s.ft (clock 0) (fun i => clock (i + 1)) entries
  | .updateSingle _ _ key _ _ => inferInstanceAs (Decidable (LandsBlank s.ft key))
  | .checkTcpRetransmit _ key _ _ _ => inferInstanceAs (Decidable (LandsBlank s.ft key))
  | .getEvents _ | .flush | .cleanup _ _ => .isTrue trivial

def RunClean (s : TrackerState) (ops : List TrackerOp) : Prop := Along TrackerState.step OpClean s ops

instance (s : TrackerState) (ops : List TrackerOp) : Decidable (RunClean s ops) :=
  inferInstanceAs (Decidable (Along _ _ _ _))

/-! ### Histories that grow by one update -/

theorem increments_append (prev reading : Nat) (readings : List Nat) :
    increments prev (readings ++ [reading]) =
      increments prev readings + (reading - readings.getLastD prev) := by
  induction readings generalizing prev with
  | nil => simp [increments]
  | cons first rest ih =>
    simp only [List.cons_append, increments, ih, List.getLastD_cons]
    omega

def lastRx (history : List Contribution) : Nat := (history.filterMap (·.rx?)).getLastD 0

def lastTx (history : List Contribution) : Nat := (history.filterMap (·.tx?)).getLastD 0

theorem grown_append_single (prevRx prevTx : Nat) (history : List Contribution) (bytes : UInt64) :
    grown prevRx prevTx (history ++ [.single bytes]) = grown prevRx prevTx history := by
  induction history generalizing prevRx prevTx with
  | nil => rfl
  | cons first rest ih => cases first <;> simp [grown, ih]

theorem grown_append_entry (prevRx prevTx : Nat) (history : List Contribution) (rx tx : UInt64) :
    grown prevRx prevTx (history ++ [.entry rx tx]) = grown prevRx prevTx history +
      if (history.filterMap (·.rx?)).getLastD prevRx < rx.toNat ∨
        (history.filterMap (·.tx?)).getLastD prevTx < tx.toNat then 1 else 0 := by
  induction history generalizing prevRx prevTx with
  | nil => simp [grown]
  | cons first rest ih =>
    cases first with
    | single bytes => simp [grown, ih]
    | entry rx₀ tx₀ =>
      simp only [List.cons_append, grown, ih, List.filterMap_cons, Contribution.parts_entry,
        List.getLastD_cons]
      omega

/-- A record that agrees with a history, including the queue readings it compares the next entry
with. -/
structure Matches (r : FlowRecord) (history : List Contribution) : Prop where
  bytes : r.value.bytes = UInt64.ofNat (accountedBytes history)
  packets : r.value.packets = UInt64.ofNat (accountedPackets history)
  rx : r.prevRxQueue.toNat = lastRx history
  tx : r.prevTxQueue.toNat = lastTx history

theorem matches_blank {r : FlowRecord} (blank : r.Blank) (key : FlowKey) (now : UInt64) :
    Matches (r.activate key now) [] := by
  obtain ⟨bytes, packets, rx, tx⟩ := blank
  exact ⟨bytes, packets, by simp [FlowRecord.activate, rx, lastRx], by simp [FlowRecord.activate, tx, lastTx]⟩

theorem matches_single {r : FlowRecord} {history : List Contribution} (agrees : Matches r history)
    (bytes ts : UInt64) : Matches (r.accountSingle bytes ts) (history ++ [.single bytes]) where
  bytes := by
    have total : accountedBytes (history ++ [.single bytes]) = accountedBytes history + bytes.toNat := by
      simp only [accountedBytes, List.filterMap_append, List.filterMap_cons, List.filterMap_nil,
        Contribution.parts_single, List.append_nil, List.sum_append, List.sum_cons, List.sum_nil]
      omega
    rw [total, UInt64.ofNat_add, UInt64.ofNat_toNat, ← agrees.bytes]
    rfl
  packets := by
    have total : accountedPackets (history ++ [.single bytes]) = accountedPackets history + 1 := by
      simp only [accountedPackets, grown_append_single, List.filterMap_append, List.filterMap_cons,
        List.filterMap_nil, Contribution.parts_single, List.length_append, List.length_singleton]
      omega
    rw [total, UInt64.ofNat_add, ← agrees.packets]
    rfl
  rx := by simpa [lastRx, FlowRecord.accountSingle] using agrees.rx
  tx := by simpa [lastTx, FlowRecord.accountSingle] using agrees.tx

theorem queueDelta_toNat (reading prev : UInt64) :
    (queueDelta reading prev).toNat = reading.toNat - prev.toNat := by
  unfold queueDelta
  split
  · rename_i above
    exact UInt64.toNat_sub_of_le _ _ above
  · rename_i below
    simp only [ge_iff_le, UInt64.not_le, UInt64.lt_iff_toNat_lt] at below
    simp only [UInt64.toNat_zero]
    omega

theorem deltaBytes_pos {r : FlowRecord} {entry : ProcNetEntry}
    (noWrap : NoWrap (r.prevRxQueue, r.prevTxQueue) entry) :
    r.deltaBytes entry > 0 ↔
      r.prevRxQueue.toNat < entry.rxQueue.toNat ∨ r.prevTxQueue.toNat < entry.txQueue.toNat := by
  have rxBound := entry.rxQueue.toNat_lt
  have txBound := entry.txQueue.toNat_lt
  simp only [NoWrap] at noWrap
  simp only [FlowRecord.deltaBytes, gt_iff_lt, UInt64.lt_iff_toNat_lt, UInt64.toNat_zero, UInt64.toNat_add,
    queueDelta_toNat]
  omega

theorem matches_entry {r : FlowRecord} {history : List Contribution} (agrees : Matches r history)
    {entry : ProcNetEntry} (noWrap : NoWrap (r.prevRxQueue, r.prevTxQueue) entry) (ts : UInt64) :
    Matches (r.account entry ts) (history ++ [.entry entry.rxQueue entry.txQueue]) where
  bytes := by
    have total : accountedBytes (history ++ [.entry entry.rxQueue entry.txQueue]) =
        accountedBytes history + (entry.rxQueue.toNat - r.prevRxQueue.toNat) +
          (entry.txQueue.toNat - r.prevTxQueue.toNat) := by
      have rx := agrees.rx
      have tx := agrees.tx
      simp only [lastRx, lastTx] at rx tx
      simp only [accountedBytes, List.filterMap_append, List.filterMap_cons, List.filterMap_nil,
        Contribution.parts_entry, List.append_nil, increments_append, ← rx, ← tx]
      omega
    rw [total, UInt64.ofNat_add, UInt64.ofNat_add, ← agrees.bytes, ← queueDelta_toNat, ← queueDelta_toNat,
      UInt64.ofNat_toNat, UInt64.ofNat_toNat, UInt64.add_assoc]
    rfl
  packets := by
    have total : accountedPackets (history ++ [.entry entry.rxQueue entry.txQueue]) =
        accountedPackets history + if r.deltaBytes entry > 0 then 1 else 0 := by
      have rx := agrees.rx
      have tx := agrees.tx
      simp only [lastRx, lastTx] at rx tx
      simp only [accountedPackets, grown_append_entry, ← rx, ← tx, deltaBytes_pos noWrap,
        List.filterMap_append, List.filterMap_cons, List.filterMap_nil, Contribution.parts_entry, List.append_nil]
      omega
    rw [total, UInt64.ofNat_add, ← agrees.packets]
    simp only [FlowRecord.account]
    split <;> rfl
  rx := by simp [lastRx, FlowRecord.account]
  tx := by simp [lastTx, FlowRecord.account]

/-! ### The table against the ledger -/

def Agrees (ft : FlowTracker) (ledger : Ledger) : Prop :=
  ∀ (i : Nat) (r : FlowRecord), ft.records[i]? = some r → r.active = true → Matches r (ledger r.key)

theorem agrees_accounted {ft : FlowTracker} {ledger : Ledger} (agrees : Agrees ft ledger) :
    Accounted ft ledger := by
  intro r member on
  obtain ⟨i, read⟩ := List.mem_iff_getElem?.mp member
  have same := agrees i r read on
  rw [same.bytes, same.packets]
  exact ⟨UInt64.toNat_ofNat', UInt64.toNat_ofNat'⟩

theorem agrees_of_records {s t : FlowTracker} {ledger : Ledger} (same : t.records = s.records)
    (agrees : Agrees s ledger) : Agrees t ledger := by
  intro i r read on
  rw [same] at read
  exact agrees i r read on

theorem note_other {ft : FlowTracker} {ledger : Ledger} {key other : FlowKey} {update : List Contribution}
    (apart : other ≠ key) : ledger.note ft key update other = ledger other := by
  unfold Ledger.note
  cases ft.lookup key with
  | some i => exact if_neg apart
  | none =>
    cases ft.free with
    | some i => exact if_neg apart
    | none => rfl

/-- The slot that `find_record` returns matches what the ledger has of its key, which is nothing if the slot was
free. -/
theorem found_matches {ft t : FlowTracker} {ledger : Ledger} {key : FlowKey} {now : UInt64} {i : Nat} {r : FlowRecord}
    (update : List Contribution) (agrees : Agrees ft ledger) (lands : LandsBlank ft key)
    (found : findRecord ft key now = (some i, t)) (read : t.records[i]? = some r) :
    ∃ h, ledger.note ft key update key = h ++ update ∧ Matches r h := by
  rcases findRecord_cases ft key now with ⟨j, r₀, result, hit, read₀, on₀, key₀⟩ |
    ⟨j, r₀, result, absent, vacant, read₀, idle⟩ | ⟨result, _⟩
  · rw [result] at found
    cases found
    rw [read₀] at read
    obtain rfl := Option.some.inj read
    refine ⟨ledger key, by simp [Ledger.note, hit], ?_⟩
    rw [← key₀]
    exact agrees i r₀ read₀ on₀
  · rw [result] at found
    cases found
    rw [activate_read read₀] at read
    obtain rfl := Option.some.inj read
    exact ⟨[], by simp [Ledger.note, absent, vacant], matches_blank (lands absent i vacant r₀ read₀) key now⟩
  · rw [result] at found
    cases found

/-- One accepted update: the slot that `find_record` returns is rewritten by `f`, and the history of
its key grows by `update`. -/
theorem agrees_apply {n : Nat} {ft t : FlowTracker} {ledger : Ledger} {key : FlowKey} {now : UInt64}
    {i : Nat} (f : FlowRecord → FlowRecord) (update : List Contribution) (wf : ft.WellFormed n)
    (agrees : Agrees ft ledger) (lands : LandsBlank ft key)
    (found : findRecord ft key now = (some i, t)) (sameKey : ∀ r, (f r).key = r.key)
    (keeps : ∀ r h, t.records[i]? = some r → Matches r h → Matches (f r) (h ++ update)) :
    Agrees (t.modifyRecord i f) (ledger.note ft key update) := by
  intro j r read on
  rcases applied_cases wf found read on with ⟨-, before, readBefore, named, rfl⟩ | ⟨-, other, readOther⟩
  · obtain ⟨h, noted, matching⟩ := found_matches update agrees lands found readBefore
    rw [sameKey, named, noted]
    exact keeps before h readBefore matching
  · rw [note_other other]
    exact agrees j r readOther on

theorem agrees_full {ft t : FlowTracker} {ledger : Ledger} {key : FlowKey} {now : UInt64}
    {update : List Contribution} (agrees : Agrees ft ledger)
    (failed : findRecord ft key now = (none, t)) : Agrees t (ledger.note ft key update) := by
  rcases findRecord_cases ft key now with ⟨_, _, result, _⟩ | ⟨_, _, result, _⟩ |
    ⟨result, absent, full⟩
  all_goals
    rw [result] at failed
    cases failed
  simpa only [Ledger.note, absent, full] using agrees

theorem queues_of_found {ft t : FlowTracker} {key : FlowKey} {now : UInt64} {i : Nat} {r : FlowRecord}
    (lands : LandsBlank ft key) (found : findRecord ft key now = (some i, t))
    (read : t.records[i]? = some r) : (r.prevRxQueue, r.prevTxQueue) = queuesBefore ft key := by
  rcases findRecord_cases ft key now with ⟨j, r₀, result, hit, read₀, _, _⟩ |
    ⟨j, r₀, result, absent, vacant, read₀, _⟩ | ⟨result, _⟩
  · rw [result] at found
    cases found
    simp [queuesBefore, hit, read]
  · rw [result] at found
    cases found
    rw [activate_read read₀] at read
    obtain rfl := Option.some.inj read
    obtain ⟨_, _, rx, tx⟩ := lands absent i vacant r₀ read₀
    simp [queuesBefore, absent, FlowRecord.activate, rx, tx]
  · rw [result] at found
    cases found

theorem updateEntry_agrees {n : Nat} {ft : FlowTracker} {ledger : Ledger} {entry : ProcNetEntry}
    (ts now : UInt64) (wf : ft.WellFormed n) (agrees : Agrees ft ledger)
    (lands : LandsBlank ft entry.flowKey) (noWrap : NoWrap (queuesBefore ft entry.flowKey) entry) :
    Agrees (updateEntry ft ts now entry)
      (ledger.note ft entry.flowKey [.entry entry.rxQueue entry.txQueue]) := by
  rcases found : findRecord ft entry.flowKey now with ⟨_ | i, t⟩
  · rw [updateEntry_lost ts found]
    obtain rfl := findRecord_none found
    exact agrees_full agrees found
  · have applied := agrees_apply (.account entry ts) [.entry entry.rxQueue entry.txQueue]
      wf agrees lands found (fun _ => rfl) (by
        intro r h read same
        exact matches_entry same (by rw [queues_of_found lands found read]; exact noWrap) ts)
    exact agrees_of_records (updateEntry_records ts found) applied

theorem updateEntries_agrees {n : Nat} {ft : FlowTracker} {ledger : Ledger} {ts : UInt64}
    {clock : Nat → UInt64} {entries : List ProcNetEntry} (wf : ft.WellFormed n)
    (agrees : Agrees ft ledger) (clean : EntriesClean ft ts clock entries) :
    Agrees (updateEntries ft ts clock entries) (ledger.noteEntries ft ts clock entries) := by
  induction entries generalizing ft ledger clock with
  | nil => exact agrees
  | cons entry rest ih =>
    obtain ⟨lands, noWrap, clean⟩ := clean
    exact ih ((updateEntry_touches ft ts (clock 0) entry).wellFormed _ wf)
      (updateEntry_agrees ts (clock 0) wf agrees lands noWrap) clean

theorem updateSingle_agrees {n : Nat} {ft : FlowTracker} {ledger : Ledger} {key : FlowKey}
    (ts now bytes : UInt64) (probeId : CStr) (wf : ft.WellFormed n) (agrees : Agrees ft ledger)
    (lands : LandsBlank ft key) :
    Agrees (flowTrackerUpdateSingle ft ts now key bytes probeId) (ledger.note ft key [.single bytes]) := by
  rcases found : findRecord ft key now with ⟨_ | i, t⟩
  · rw [updateSingle_lost ts bytes probeId found]
    obtain rfl := findRecord_none found
    exact agrees_full agrees found
  · apply agrees_of_records (updateSingle_records ts bytes probeId found)
    exact agrees_apply (.accountSingle bytes ts) _ wf agrees lands found (fun _ => rfl)
      fun r h _ same => matches_single same bytes ts

theorem matches_withValue {r : FlowRecord} {history : List Contribution} {f : FlowValue → FlowValue}
    (bytes : ∀ v, (f v).bytes = v.bytes) (packets : ∀ v, (f v).packets = v.packets)
    (agrees : Matches r history) : Matches (r.withValue f) history :=
  ⟨(bytes _).trans agrees.bytes, (packets _).trans agrees.packets, agrees.rx, agrees.tx⟩

theorem checkTcpRetransmit_agrees {n : Nat} {ft : FlowTracker} {ledger : Ledger} {key : FlowKey}
    (statics : AckStatics) (now : UInt64) (seqNum : UInt32) (pktLen : UInt16) (tcpFlags : UInt8)
    (wf : ft.WellFormed n) (agrees : Agrees ft ledger) (lands : LandsBlank ft key) :
    Agrees (flowTrackerCheckTcpRetransmit ft statics now key seqNum pktLen tcpFlags).ft
      (ledger.note ft key []) := by
  unfold flowTrackerCheckTcpRetransmit
  split
  · rename_i failed
    exact agrees_full agrees failed
  · rename_i i t found
    have valued : ∀ f : FlowValue → FlowValue, (∀ v, (f v).bytes = v.bytes) →
        (∀ v, (f v).packets = v.packets) →
        Agrees (t.modifyRecord i (.withValue f)) (ledger.note ft key []) := by
      intro f bytes packets
      apply agrees_apply (.withValue f) [] wf agrees lands found (fun _ => rfl)
      intro r h _ same
      rw [List.append_nil]
      exact matches_withValue bytes packets same
    have kept : Agrees t (ledger.note ft key []) := by
      apply agrees_of_records _ (valued id (fun _ => rfl) (fun _ => rfl))
      exact (List.modify_id i t.records).symm
    dsimp only
    split
    · exact valued _ (fun _ => rfl) (fun _ => rfl)
    · split
      · split
        · exact valued _ (fun _ => rfl) (fun _ => rfl)
        · exact valued _ (fun _ => rfl) (fun _ => rfl)
      · split
        · simp only [checkPureAck]
          split
          · exact valued _ (fun _ => rfl) (fun _ => rfl)
          · exact kept
        · exact kept

theorem cleanup_agrees {ft : FlowTracker} {ledger : Ledger} (ts maxAgeNs : UInt64)
    (agrees : Agrees ft ledger) : Agrees (flowTrackerCleanup ft ts maxAgeNs) ledger := by
  intro i r read on
  simp only [flowTrackerCleanup, List.getElem?_map, Option.map_eq_some_iff] at read
  obtain ⟨old, read, rfl⟩ := read
  obtain ⟨flag, same, clears⟩ := evict_clears ts maxAgeNs old
  rw [same] at on ⊢
  have before := agrees i old read (clears on)
  exact ⟨before.bytes, before.packets, before.rx, before.tx⟩

theorem step_agrees {n : Nat} {s : TrackerState} {ledger : Ledger} {op : TrackerOp}
    (wf : s.ft.WellFormed n) (agrees : Agrees s.ft ledger) (clean : OpClean s op) :
    Agrees (s.step op).ft (ledger.step s op) := by
  cases op with
  | update clock entries => exact updateEntries_agrees wf agrees clean
  | updateSingle ts now key bytes probeId => exact updateSingle_agrees ts now bytes probeId wf agrees clean
  | checkTcpRetransmit now key seqNum pktLen tcpFlags =>
    exact checkTcpRetransmit_agrees s.statics now seqNum pktLen tcpFlags wf agrees clean
  | getEvents maxEvents => exact agrees
  | flush => exact agrees
  | cleanup ts maxAgeNs => exact cleanup_agrees ts maxAgeNs agrees

theorem run_agrees {n : Nat} {s : TrackerState} {ledger : Ledger} {ops : List TrackerOp}
    (wf : s.ft.WellFormed n) (agrees : Agrees s.ft ledger) (clean : RunClean s ops) :
    Agrees (s.run ops).ft (ledger.run s ops) := by
  induction ops generalizing s ledger with
  | nil => exact agrees
  | cons op rest ih =>
    obtain ⟨first, clean⟩ := clean
    exact ih (step_wellFormed op wf) (step_agrees wf agrees first) clean

/-- In every run in which each new flow lands in a slot with zero counters (and no entry's two
increments wrap to zero), the counters account for the flow since its activation. -/
theorem counters_account_for_flow (maxFlows : Nat) (ops : List TrackerOp)
    (clean : RunClean ⟨flowTrackerCreate maxFlows, {}⟩ ops) :
    Accounted (TrackerState.run ⟨flowTrackerCreate maxFlows, {}⟩ ops).ft
      (Ledger.run (fun _ => []) ⟨flowTrackerCreate maxFlows, {}⟩ ops) := by
  apply agrees_accounted
  apply run_agrees (flowTrackerCreate_wellFormed maxFlows) _ clean
  intro i r read on
  have idle := List.eq_of_mem_replicate (List.mem_of_getElem? read)
  simp [idle, FlowRecord.zero] at on

def flowA : FlowKey := ⟨0x0100000A, 0x0200000A, 4000, 80, 6, 4, (0, 0)⟩

def flowB : FlowKey := ⟨0x0100000A, 0x0300000A, 4001, 80, 6, 4, (0, 0)⟩

def socketA : ProcNetEntry where
  localIp := 0x0100000A
  localPort := 4000
  remoteIp := 0x0200000A
  remotePort := 80
  protocol := 6
  rxQueue := 30
  txQueue := 12

def freshSlots : List TrackerOp :=
  [.updateSingle 1 1 flowA 100 (.ofBytes []), .update (fun _ => 2) [socketA, { socketA with rxQueue := 10 }],
    .updateSingle 3 3 flowB 40 (.ofBytes [])]

theorem fresh_slots_account_for_flows :
    RunClean ⟨flowTrackerCreate 4, {}⟩ freshSlots ∧
    Accounted (TrackerState.run ⟨flowTrackerCreate 4, {}⟩ freshSlots).ft
      (Ledger.run (fun _ => []) ⟨flowTrackerCreate 4, {}⟩ freshSlots) :=
  ⟨by decide, counters_account_for_flow 4 freshSlots (by decide)⟩

/-- A table of one slot: flow A ages out and flow B takes its slot with A's 100 bytes in it. -/
def slotReuse : List TrackerOp :=
  [.updateSingle 1 1 flowA 100 (.ofBytes []), .cleanup 20 10, .updateSingle 30 30 flowB 5 (.ofBytes [])]

theorem reused_slot_keeps_old_counters :
    ¬ Accounted (TrackerState.run ⟨flowTrackerCreate 1, {}⟩ slotReuse).ft
      (Ledger.run (fun _ => []) ⟨flowTrackerCreate 1, {}⟩ slotReuse) := by
  unfold Accounted
  decide

end StbEbpf.Probe
