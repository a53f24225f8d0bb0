import StbEbpf.Probe.FlowAccounts

/-!
Eviction of stale flows. The updates that a record was found for are a log beside the run, and a cleanup is compared
with that log: `last_seen_ns` is all that it has to go by.
-/

namespace StbEbpf.Probe
open CText

/-! ### The log -/

def acceptedEntries (ft : FlowTracker) (ts : UInt64) (clock : Nat → UInt64) :
    List ProcNetEntry → List (FlowKey × UInt64)
  | [] => []
  | entry :: rest =>
    (if (findRecord ft entry.flowKey (clock 0)).1.isSome then [(entry.flowKey, ts)] else []) ++
      acceptedEntries (updateEntry ft ts (clock 0) entry) ts (fun i => clock (i + 1)) rest

/-- The keys that an operation updates, with the time it takes for them. -/
def TrackerState.accepted (s : TrackerState) : TrackerOp → List (FlowKey × UInt64)
  | .update clock entries => acceptedEntries s.ft (clock 0) (fun i => clock (i + 1)) entries
  | .updateSingle ts now key _ _ => if (findRecord s.ft key now).1.isSome then [(key, ts)] else []
  | .checkTcpRetransmit .. | .getEvents _ | .flush | .cleanup .. => []

def TrackerState.acceptedRun (s : TrackerState) : List TrackerOp → List (FlowKey × UInt64)
  | [] => []
  | op :: rest => s.accepted op ++ (s.step op).acceptedRun rest

/-- The reading of the clock that an operation goes by. -/
def TrackerOp.stamp : TrackerOp → Option UInt64
  | .update clock _ => some (clock 0)
  | .updateSingle ts _ _ _ _ => some ts
  | .cleanup ts _ => some ts
  | .checkTcpRetransmit .. | .getEvents _ | .flush => none

/-- The calls as `main` makes them: a check comes right behind the update with the same key (`previous`), and every
cleanup is given the same age. -/
def AsMain (maxAgeNs : UInt64) : Option FlowKey → List TrackerOp → Prop
  | _, [] => True
  | _, .updateSingle _ _ key _ _ :: rest => AsMain maxAgeNs (some key) rest
  | previous, .checkTcpRetransmit _ key _ _ _ :: rest => previous = some key ∧ AsMain maxAgeNs none rest
  | _, .cleanup _ age :: rest => age = maxAgeNs ∧ AsMain maxAgeNs none rest
  | _, .update _ _ :: rest | _, .getEvents _ :: rest | _, .flush :: rest => AsMain maxAgeNs none rest

/-! ### What the table knows of the log -/

/-- At time `now`: an active record was last seen at the last update of its key, and an update whose key is not active
any more is stale. -/
structure Tracks (maxAgeNs : UInt64) (log : List (FlowKey × UInt64)) (now : UInt64) (ft : FlowTracker) : Prop where
  seen : ∀ r ∈ ft.records, r.active = true → 0 < r.value.lastSeenNs ∧ (r.key, r.value.lastSeenNs) ∈ log ∧
    ∀ ts, (r.key, ts) ∈ log → ts ≤ r.value.lastSeenNs
  past : ∀ update ∈ log, update.2 ≤ now
  kept : ∀ update ∈ log, (∃ r ∈ ft.records, r.active = true ∧ r.key = update.1) ∨
    maxAgeNs.toNat < now.toNat - update.2.toNat

section
variable {n : Nat} {maxAgeNs ts now : UInt64} {log : List (FlowKey × UInt64)} {ft t : FlowTracker} {key : FlowKey}

theorem tracks_of_records (tracks : Tracks maxAgeNs log now ft) (same : t.records = ft.records) :
    Tracks maxAgeNs log now t :=
  ⟨by rw [same]; exact tracks.seen, tracks.past, by rw [same]; exact tracks.kept⟩

theorem Tracks.later (tracks : Tracks maxAgeNs log now ft) (after : now ≤ ts) : Tracks maxAgeNs log ts ft := by
  refine ⟨tracks.seen, fun update member => UInt64.le_trans (tracks.past update member) after, ?_⟩
  intro update member
  rw [UInt64.le_iff_toNat_le] at after
  refine (tracks.kept update member).imp id fun stale => ?_
  omega

/-- An update that found its record. -/
theorem Tracks.stamped {i : Nat} {reading : UInt64} {f : FlowRecord → FlowRecord} (tracks : Tracks maxAgeNs log now ft)
    (wf : ft.WellFormed n) (after : now ≤ ts) (positive : 0 < ts)
    (found : findRecord ft key reading = (some i, t)) (sameKey : ∀ r, (f r).key = r.key)
    (sameActive : ∀ r, (f r).active = r.active) (stamps : ∀ r, (f r).value.lastSeenNs = ts) :
    Tracks maxAgeNs (log ++ [(key, ts)]) ts (t.modifyRecord i f) := by
  have older := tracks.later after
  obtain ⟨-, mine, readMine, onMine, keyMine⟩ := findRecord_some found
  have rewritten : f mine ∈ (t.modifyRecord i f).records :=
    List.mem_of_getElem? (i := i) (by simp [FlowTracker.modifyRecord, readMine])
  refine ⟨?_, ?_, ?_⟩
  · intro r member on
    obtain ⟨j, read⟩ := List.mem_iff_getElem?.mp member
    rcases applied_cases wf found read on with ⟨-, before, -, named, rfl⟩ | ⟨-, other, read⟩
    · rw [sameKey, stamps, named]
      refine ⟨positive, by simp, ?_⟩
      intro time logged
      rcases List.mem_append.mp logged with earlier | newest
      · exact older.past (key, time) earlier
      · simp only [List.mem_singleton, Prod.mk.injEq, true_and] at newest
        exact newest ▸ Std.le_refl ts
    · obtain ⟨positive, logged, last⟩ := tracks.seen r (List.mem_of_getElem? read) on
      refine ⟨positive, List.mem_append_left _ logged, ?_⟩
      intro time logged
      rcases List.mem_append.mp logged with earlier | newest
      · exact last time earlier
      · simp only [List.mem_singleton, Prod.mk.injEq] at newest
        exact absurd newest.1 other
  · intro update member
    rcases List.mem_append.mp member with earlier | newest
    · exact older.past update earlier
    · rw [List.mem_singleton.mp newest]
      exact Std.le_refl ts
  · intro update member
    by_cases named : update.1 = key
    · exact .inl ⟨f mine, rewritten, (sameActive mine).trans onMine, ((sameKey mine).trans keyMine).trans named.symm⟩
    · have earlier : update ∈ log := by
        rcases List.mem_append.mp member with earlier | newest
        · exact earlier
        · rw [List.mem_singleton.mp newest] at named
          exact absurd rfl named
      refine (older.kept update earlier).imp ?_ id
      rintro ⟨r, member, on, same⟩
      exact ⟨r, applied_frame found member on fun equal => named (same.symm.trans equal), on, same⟩

theorem updateEntry_tracks (entry : ProcNetEntry) (reading : UInt64) (tracks : Tracks maxAgeNs log now ft)
    (wf : ft.WellFormed n) (after : now ≤ ts) (positive : 0 < ts) :
    Tracks maxAgeNs (log ++ if (findRecord ft entry.flowKey reading).1.isSome then [(entry.flowKey, ts)] else []) ts
      (updateEntry ft ts reading entry) := by
  rcases found : findRecord ft entry.flowKey reading with ⟨_ | i, t⟩
  · rw [if_neg (by simp), List.append_nil, updateEntry_lost ts found]
    exact tracks.later after
  · have stamped := tracks.stamped wf after positive found (f := .account entry ts) (fun _ => rfl) (fun _ => rfl)
      (fun _ => rfl)
    rw [if_pos (by simp)]
    exact tracks_of_records stamped (updateEntry_records ts found)

theorem updateEntries_tracks (entries : List ProcNetEntry) (clock : Nat → UInt64) (tracks : Tracks maxAgeNs log now ft)
    (wf : ft.WellFormed n) (after : now ≤ ts) (positive : 0 < ts) :
    Tracks maxAgeNs (log ++ acceptedEntries ft ts clock entries) ts (updateEntries ft ts clock entries) := by
  induction entries generalizing ft log now clock with
  | nil =>
    rw [acceptedEntries, List.append_nil]
    exact tracks.later after
  | cons entry rest ih =>
    have first := updateEntry_tracks entry (clock 0) tracks wf after positive
    have formed := (updateEntry_touches ft ts (clock 0) entry).wellFormed n wf
    rw [acceptedEntries, ← List.append_assoc]
    exact ih _ first formed (Std.le_refl ts)

theorem updateSingle_tracks (reading bytes : UInt64) (probeId : CStr) (tracks : Tracks maxAgeNs log now ft)
    (wf : ft.WellFormed n) (after : now ≤ ts) (positive : 0 < ts) :
    Tracks maxAgeNs (log ++ if (findRecord ft key reading).1.isSome then [(key, ts)] else []) ts
      (flowTrackerUpdateSingle ft ts reading key bytes probeId) := by
  rcases found : findRecord ft key reading with ⟨_ | i, t⟩
  · rw [if_neg (by simp), List.append_nil, updateSingle_lost ts bytes probeId found]
    exact tracks.later after
  · rw [if_pos (by simp)]
    have stamped := tracks.stamped wf after positive found (f := .accountSingle bytes ts) (fun _ => rfl) (fun _ => rfl)
      (fun _ => rfl)
    exact tracks_of_records stamped (updateSingle_records ts bytes probeId found)

/-! ### Checks -/

/-- Looking the key up activates nothing: its record is there, or the table is full. -/
def Settled (key : FlowKey) (ft : FlowTracker) : Prop := (ft.lookup key).isSome ∨ ft.free = none

theorem updateSingle_settled (ts reading bytes : UInt64) (probeId : CStr) :
    Settled key (flowTrackerUpdateSingle ft ts reading key bytes probeId) := by
  rcases found : findRecord ft key reading with ⟨_ | i, t⟩
  · rw [updateSingle_lost ts bytes probeId found]
    rcases findRecord_cases ft key reading with ⟨_, _, result, -⟩ | ⟨_, _, result, -⟩ | ⟨result, -, full⟩
    all_goals
      rw [result] at found
      cases found
    exact .inr full
  · obtain ⟨-, r, read, on, same⟩ := findRecord_some found
    refine .inl ?_
    rw [← Option.ne_none_iff_isSome]
    intro absent
    have rewritten : r.accountSingle bytes ts ∈ (t.modifyRecord i (.accountSingle bytes ts)).records :=
      List.mem_of_getElem? (i := i) (by simp [FlowTracker.modifyRecord, read])
    rw [← updateSingle_records ts bytes probeId found] at rewritten
    exact Slots.lookup_none.mp absent _ rewritten on same

/-- A check of a settled key changes counters at most. -/
theorem check_tracks (statics : AckStatics) (reading : UInt64) (seqNum : UInt32) (pktLen : UInt16) (tcpFlags : UInt8)
    (tracks : Tracks maxAgeNs log now ft) (settled : Settled key ft) :
    Tracks maxAgeNs log now
      (flowTrackerCheckTcpRetransmit ft statics reading key seqNum pktLen tcpFlags).ft := by
  have same : (findRecord ft key reading).2 = ft := by
    unfold findRecord
    rcases settled with present | full
    · obtain ⟨i, found⟩ := Option.isSome_iff_exists.mp present
      rw [found]
    · rw [full]
      cases ft.lookup key <;> rfl
  have valued (i : Nat) (f : FlowValue → FlowValue) (kept : ∀ v, (f v).lastSeenNs = v.lastSeenNs) :
      Tracks maxAgeNs log now (ft.modifyRecord i (.withValue f)) := by
    have entry (j : Nat) (r : FlowRecord) (read : ft.records[j]? = some r) :
        ∃ r', (ft.modifyRecord i (.withValue f)).records[j]? = some r' ∧ r'.key = r.key ∧ r'.active = r.active ∧
          r'.value.lastSeenNs = r.value.lastSeenNs := by
      simp only [FlowTracker.modifyRecord, List.getElem?_modify, read, Option.map_eq_map, Option.map_some,
        Option.some.injEq, exists_eq_left']
      split
      · exact ⟨rfl, rfl, kept _⟩
      · exact ⟨rfl, rfl, rfl⟩
    refine ⟨?_, tracks.past, ?_⟩
    · intro r' member on
      obtain ⟨j, read'⟩ := List.mem_iff_getElem?.mp member
      have inside : j < ft.records.length := by
        simpa [FlowTracker.modifyRecord] using (List.getElem?_eq_some_iff.mp read').1
      obtain ⟨r'', read'', named, flag, seen⟩ := entry j _ (List.getElem?_eq_getElem inside)
      obtain rfl := Option.some.inj (read'.symm.trans read'')
      rw [named, seen]
      exact tracks.seen _ (List.getElem_mem inside) (flag ▸ on)
    · intro update logged
      refine (tracks.kept update logged).imp ?_ id
      rintro ⟨r, member, on, named⟩
      obtain ⟨j, read⟩ := List.mem_iff_getElem?.mp member
      obtain ⟨r', read', named', flag, -⟩ := entry j r read
      exact ⟨r', List.mem_of_getElem? read', flag.trans on, named'.trans named⟩
  unfold flowTrackerCheckTcpRetransmit
  rcases found : findRecord ft key reading with ⟨_ | i, t⟩
  · rw [found] at same
    cases same
    exact tracks
  · rw [found] at same
    cases same
    dsimp only
    split
    · exact valued i _ fun _ => rfl
    · split
      · split <;> exact valued i _ fun _ => rfl
      · split
        · simp only [checkPureAck]
          split
          · exact valued i _ fun _ => rfl
          · exact tracks
        · exact tracks

/-! ### Cleanup -/

theorem stale_iff {r : FlowRecord} (on : r.active = true) (positive : 0 < r.value.lastSeenNs)
    (before : r.value.lastSeenNs ≤ ts) :
    r.stale ts maxAgeNs = true ↔ maxAgeNs.toNat < ts.toNat - r.value.lastSeenNs.toNat := by
  unfold FlowRecord.stale
  rw [on, Bool.true_and, Bool.and_eq_true, decide_eq_true_eq, decide_eq_true_eq, gt_iff_lt, gt_iff_lt,
    UInt64.lt_iff_toNat_lt (a := maxAgeNs), UInt64.toNat_sub_of_le _ _ before]
  exact and_iff_right positive

/-- Of the active records a cleanup leaves those that are not stale, as they were. -/
theorem cleanup_members {r : FlowRecord} :
    r ∈ (flowTrackerCleanup ft ts maxAgeNs).records ∧ r.active = true ↔
      r ∈ ft.records ∧ r.active = true ∧ r.stale ts maxAgeNs = false := by
  simp only [flowTrackerCleanup, List.mem_map]
  constructor
  · rintro ⟨⟨old, member, rfl⟩, on⟩
    unfold FlowRecord.evict at on ⊢
    cases stale : old.stale ts maxAgeNs with
    | true =>
      rw [stale] at on
      cases on
    | false =>
      rw [stale] at on
      exact ⟨member, on, stale⟩
  · rintro ⟨member, on, fresh⟩
    refine ⟨⟨r, member, ?_⟩, on⟩
    unfold FlowRecord.evict
    rw [fresh]
    rfl

theorem cleanup_tracks (tracks : Tracks maxAgeNs log now ft) (after : now ≤ ts) :
    Tracks maxAgeNs log ts (flowTrackerCleanup ft ts maxAgeNs) := by
  have older := tracks.later after
  refine ⟨?_, older.past, ?_⟩
  · intro r member on
    obtain ⟨member, on, -⟩ := cleanup_members.mp ⟨member, on⟩
    exact older.seen r member on
  · intro update logged
    rcases older.kept update logged with ⟨r, member, on, named⟩ | stale
    · obtain ⟨positive, seen, last⟩ := older.seen r member on
      have before := older.past _ seen
      cases stale : r.stale ts maxAgeNs with
      | false =>
        obtain ⟨member, on⟩ := cleanup_members.mpr ⟨member, on, stale⟩
        exact .inl ⟨r, member, on, named⟩
      | true =>
        have old := (stale_iff on positive before).mp stale
        have earlier : update.2 ≤ r.value.lastSeenNs := last update.2 (by rw [named]; exact logged)
        rw [UInt64.le_iff_toNat_le] at earlier
        exact .inr (by omega)
    · exact .inr stale

end

/-! ### Runs -/

section
variable {n : Nat} {maxAgeNs now : UInt64} {log : List (FlowKey × UInt64)} {s : TrackerState}

theorem step_tracks {previous : Option FlowKey} {op : TrackerOp} {rest : List TrackerOp}
    (tracks : Tracks maxAgeNs log now s.ft) (wf : s.ft.WellFormed n) (settled : ∀ key ∈ previous, Settled key s.ft)
    (asMain : AsMain maxAgeNs previous (op :: rest)) (clock : ∀ ts ∈ op.stamp, now ≤ ts ∧ 0 < ts) :
    Tracks maxAgeNs (log ++ s.accepted op) (op.stamp.getD now) (s.step op).ft ∧
      ∃ next, (∀ key ∈ next, Settled key (s.step op).ft) ∧ AsMain maxAgeNs next rest := by
  cases op with
  | update clock' entries =>
    obtain ⟨after, positive⟩ := clock _ rfl
    exact ⟨updateEntries_tracks entries _ tracks wf after positive, none, by simp, asMain⟩
  | updateSingle ts reading key bytes probeId =>
    obtain ⟨after, positive⟩ := clock _ rfl
    refine ⟨updateSingle_tracks reading bytes probeId tracks wf after positive, some key, ?_, asMain⟩
    rintro _ ⟨⟩
    exact updateSingle_settled ts reading bytes probeId
  | checkTcpRetransmit reading key seqNum pktLen tcpFlags =>
    obtain ⟨same, asMain⟩ := asMain
    refine ⟨?_, none, by simp, asMain⟩
    rw [TrackerState.accepted, List.append_nil]
    exact check_tracks s.statics reading seqNum pktLen tcpFlags tracks (settled key same)
  | getEvents maxEvents =>
    refine ⟨?_, none, by simp, asMain⟩
    rw [TrackerState.accepted, List.append_nil]
    exact tracks
  | flush =>
    refine ⟨?_, none, by simp, asMain⟩
    rw [TrackerState.accepted, List.append_nil]
    exact tracks_of_records tracks rfl
  | cleanup ts age =>
    obtain ⟨rfl, asMain⟩ := asMain
    obtain ⟨after, -⟩ := clock _ rfl
    refine ⟨?_, none, by simp, asMain⟩
    rw [TrackerState.accepted, List.append_nil]
    exact cleanup_tracks tracks after

theorem run_tracks {previous : Option FlowKey} (ops : List TrackerOp) (tracks : Tracks maxAgeNs log now s.ft)
    (wf : s.ft.WellFormed n) (settled : ∀ key ∈ previous, Settled key s.ft) (asMain : AsMain maxAgeNs previous ops)
    (ahead : ∀ ts ∈ ops.filterMap TrackerOp.stamp, now ≤ ts ∧ 0 < ts)
    (ordered : (ops.filterMap TrackerOp.stamp).Pairwise (· ≤ ·)) :
    ∃ last, (last = now ∨ last ∈ ops.filterMap TrackerOp.stamp) ∧
      Tracks maxAgeNs (log ++ s.acceptedRun ops) last (s.run ops).ft := by
  induction ops generalizing previous log now s with
  | nil =>
    refine ⟨now, .inl rfl, ?_⟩
    rw [TrackerState.acceptedRun, List.append_nil]
    exact tracks
  | cons op rest ih =>
    have here : ∀ ts ∈ op.stamp, now ≤ ts ∧ 0 < ts := by
      intro ts stamped
      exact ahead ts (List.mem_filterMap.mpr ⟨op, List.mem_cons_self, stamped⟩)
    obtain ⟨tracks, next, settled, asMain⟩ := step_tracks tracks wf settled asMain here
    have later : ∀ ts ∈ rest.filterMap TrackerOp.stamp, op.stamp.getD now ≤ ts ∧ 0 < ts := by
      intro ts member
      obtain ⟨after, positive⟩ := ahead ts (by
        rw [List.filterMap_cons]
        split <;> simp [member])
      refine ⟨?_, positive⟩
      cases stamped : op.stamp with
      | none => exact after
      | some first =>
        rw [List.filterMap_cons, stamped] at ordered
        exact (List.pairwise_cons.mp ordered).1 ts member
    have sorted : (rest.filterMap TrackerOp.stamp).Pairwise (· ≤ ·) := by
      rw [List.filterMap_cons] at ordered
      split at ordered
      · exact ordered
      · exact (List.pairwise_cons.mp ordered).2
    obtain ⟨last, among, final⟩ := ih tracks (step_wellFormed op wf) settled asMain later sorted
    refine ⟨last, ?_, ?_⟩
    · rcases among with same | member
      · cases stamped : op.stamp with
        | none =>
          rw [stamped] at same
          exact .inl same
        | some first =>
          rw [stamped] at same
          exact .inr (List.mem_filterMap.mpr ⟨op, List.mem_cons_self, by rw [stamped, same]; rfl⟩)
      · exact .inr (by
          rw [List.filterMap_cons]
          split <;> simp [member])
    · rw [TrackerState.acceptedRun, ← List.append_assoc]
      exact final

end

theorem asMain_left {maxAgeNs : UInt64} {previous : Option FlowKey} {ops more : List TrackerOp}
    (asMain : AsMain maxAgeNs previous (ops ++ more)) : AsMain maxAgeNs previous ops := by
  induction ops generalizing previous with
  | nil => exact trivial
  | cons op rest ih =>
    cases op with
    | checkTcpRetransmit | cleanup => exact ⟨asMain.1, ih asMain.2⟩
    | update | updateSingle | getEvents | flush => exact ih asMain

/-- Right after a cleanup the active keys are those with an accepted update that is not too old. -/
theorem cleanup_keeps_fresh_flows (maxFlows : Nat) (ops : List TrackerOp) (now maxAgeNs : UInt64)
    (asMain : AsMain maxAgeNs none (ops ++ [.cleanup now maxAgeNs]))
    (positive : ∀ ts ∈ (ops ++ [TrackerOp.cleanup now maxAgeNs]).filterMap TrackerOp.stamp, 0 < ts)
    (ordered : ((ops ++ [TrackerOp.cleanup now maxAgeNs]).filterMap TrackerOp.stamp).Pairwise (· ≤ ·))
    (key : FlowKey) :
    (∃ r ∈ (TrackerState.run ⟨flowTrackerCreate maxFlows, {}⟩ (ops ++ [.cleanup now maxAgeNs])).ft.records,
      r.active = true ∧ r.key = key) ↔
    ∃ ts, (key, ts) ∈ TrackerState.acceptedRun ⟨flowTrackerCreate maxFlows, {}⟩ ops ∧
      now.toNat - ts.toNat ≤ maxAgeNs.toNat := by
  have least (ts : UInt64) : 0 ≤ ts := UInt64.le_iff_toNat_le.mpr (Nat.zero_le _)
  have start : Tracks maxAgeNs [] 0 (flowTrackerCreate maxFlows) := by
    refine ⟨?_, by simp, by simp⟩
    intro r member on
    rw [List.eq_of_mem_replicate member] at on
    cases on
  rw [List.filterMap_append] at positive ordered
  obtain ⟨sorted, -, across⟩ := List.pairwise_append.mp ordered
  obtain ⟨last, among, tracks⟩ := run_tracks (s := ⟨flowTrackerCreate maxFlows, {}⟩) ops start
    (flowTrackerCreate_wellFormed maxFlows) (by simp) (asMain_left asMain)
    (fun ts member => ⟨least ts, positive ts (List.mem_append_left _ member)⟩) sorted
  have after : last ≤ now := by
    rcases among with rfl | member
    · exact least now
    · exact across last member now (by simp [TrackerOp.stamp])
  rw [List.nil_append] at tracks
  have stepped : (TrackerState.run ⟨flowTrackerCreate maxFlows, {}⟩ (ops ++ [.cleanup now maxAgeNs])).ft =
      flowTrackerCleanup (TrackerState.run ⟨flowTrackerCreate maxFlows, {}⟩ ops).ft now maxAgeNs := by
    unfold TrackerState.run
    rw [List.foldl_append]
    rfl
  rw [stepped]
  constructor
  · rintro ⟨r, member, on, rfl⟩
    obtain ⟨member, on, fresh⟩ := cleanup_members.mp ⟨member, on⟩
    obtain ⟨positive, logged, -⟩ := tracks.seen r member on
    refine ⟨r.value.lastSeenNs, logged, ?_⟩
    have before := (tracks.later after).past _ logged
    by_contra old
    rw [(stale_iff on positive before).mpr (by omega)] at fresh
    cases fresh
  · rintro ⟨ts, logged, young⟩
    rcases (cleanup_tracks tracks after).kept (key, ts) logged with active | old
    · exact active
    · exact absurd old (Nat.not_lt.mpr young)

/-- One flow is idle from the start, the other is seen again. -/
def idleFlow : List TrackerOp :=
  [.updateSingle 10 10 flowA 60 (.ofBytes []), .checkTcpRetransmit 11 flowA 7 0 TCP_FLAG_ACK,
   .updateSingle 20 20 flowB 60 (.ofBytes []), .cleanup 50 50, .flush, .updateSingle 60 60 flowB 60 (.ofBytes [])]

theorem idle_flow_evicted :
    let records := (TrackerState.run ⟨flowTrackerCreate 4, {}⟩ (idleFlow ++ [.cleanup 100 50])).ft.records
    (∃ r ∈ records, r.active = true ∧ r.key = flowB) ∧ ¬ ∃ r ∈ records, r.active = true ∧ r.key = flowA := by
  have accepted : TrackerState.acceptedRun ⟨flowTrackerCreate 4, {}⟩ idleFlow =
      [(flowA, 10), (flowB, 20), (flowB, 60)] := by decide +kernel
  have stamps : (idleFlow ++ [TrackerOp.cleanup 100 50]).filterMap TrackerOp.stamp = [10, 20, 50, 60, 100] := rfl
  have exact_ := cleanup_keeps_fresh_flows 4 idleFlow 100 50 ⟨rfl, rfl, rfl, trivial⟩ (by rw [stamps]; simp)
    (by rw [stamps]; decide +kernel)
  rw [accepted] at exact_
  refine ⟨(exact_ flowB).mpr ⟨60, by simp, by decide⟩, ?_⟩
  rw [exact_ flowA]
  have apart : flowA ≠ flowB := by decide
  simp [apart]

end StbEbpf.Probe
