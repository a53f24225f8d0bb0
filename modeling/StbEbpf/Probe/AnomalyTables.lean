import StbEbpf.Probe.PortScan

/-!
The tables of the anomaly detector over runs of any length. An entry is never given up, so a table belongs to those who
came first; who comes after them is checked like everyone else, and never found.
-/

namespace StbEbpf.Probe
open Run

/-! ### Tables that only grow -/

section
variable {α κ : Type} {active : α → Bool} {key : α → κ} {size : Nat} {entries : List α} {names : List κ} {k : κ}

/-- The entries of a table, without what they record. -/
def directory (active : α → Bool) (key : α → κ) (entries : List α) : List (Bool × κ) :=
  entries.map fun entry => (active entry, key entry)

theorem directory_set {i : Nat} {old new : α} (read : entries[i]? = some old) (flag : active new = active old)
    (named : key new = key old) : directory active key (entries.set i new) = directory active key entries := by
  obtain ⟨inside, rfl⟩ := List.getElem?_eq_some_iff.mp read
  unfold directory
  rw [List.map_set, flag, named, ← List.getElem_map (fun entry => (active entry, key entry)) (h := by simpa using inside)]
  exact List.set_getElem_self _

variable [DecidableEq κ]

/-- The first names of a list, as many as a table has room for. -/
def firstComers (size : Nat) (names : List κ) : List κ := names.eraseDups.take size

/-- The table is that of the first names. -/
def Admits (active : α → Bool) (key : α → κ) (size : Nat) (entries : List α) (names : List κ) : Prop :=
  directory active key entries = (firstComers size names).map (true, ·)

theorem Admits.mem_iff (admits : Admits active key size entries names) :
    k ∈ firstComers size names ↔ ∃ entry ∈ entries, active entry = true ∧ key entry = k := by
  have member : k ∈ firstComers size names ↔ (true, k) ∈ directory active key entries := by
    rw [admits]
    simp
  rw [member]
  simp [directory]

theorem firstComers_known (known : k ∈ firstComers size names) : firstComers size (names ++ [k]) = firstComers size names := by
  have named : k ∈ names := List.mem_eraseDups.mp (List.mem_of_mem_take known)
  unfold firstComers
  rw [eraseDups_concat, if_pos named]

theorem firstComers_new (unknown : k ∉ firstComers size names) (room : (firstComers size names).length < size) :
    firstComers size (names ++ [k]) = firstComers size names ++ [k] := by
  have short : names.eraseDups.length < size := by
    unfold firstComers at room
    rw [List.length_take] at room
    omega
  unfold firstComers at unknown ⊢
  rw [List.take_of_length_le short.le] at unknown ⊢
  rw [eraseDups_concat, if_neg (fun named => unknown (List.mem_eraseDups.mpr named)), List.take_of_length_le]
  simpa using short

theorem firstComers_full (more : List κ) (full : size ≤ names.eraseDups.length) :
    firstComers size (names ++ more) = firstComers size names := by
  unfold firstComers
  rw [List.eraseDups_append, List.take_append_of_le_length full]

/-- A name is found if its entry is there, or if there is room for it. -/
theorem findOrAppend_admits {new : κ → α} (admits : Admits active key size entries names)
    (fresh : active (new k) = true ∧ key (new k) = k) :
    Admits active key size (findOrAppend active key size new entries k).2 (names ++ [k]) ∧
      ((findOrAppend active key size new entries k).1.isSome → k ∈ firstComers size (names ++ [k])) := by
  have length : entries.length = (firstComers size names).length := by
    have same := congrArg List.length admits
    simpa [directory] using same
  unfold findOrAppend
  cases found : Slots.lookup active key entries k with
  | some i =>
    obtain ⟨entry, read, on, named⟩ := Slots.lookup_some found
    have known : k ∈ firstComers size names := admits.mem_iff.mpr ⟨entry, List.mem_of_getElem? read, on, named⟩
    dsimp only
    unfold Admits
    rw [firstComers_known known]
    exact ⟨admits, fun _ => known⟩
  | none =>
    have unknown : k ∉ firstComers size names := by
      intro known
      obtain ⟨entry, member, on, named⟩ := admits.mem_iff.mp known
      exact Slots.lookup_none.mp found entry member on named
    dsimp only
    unfold Admits
    by_cases room : entries.length < size
    · rw [if_pos room, firstComers_new unknown (length ▸ room), List.map_append, ← admits]
      refine ⟨?_, fun _ => List.mem_append_right _ (List.mem_singleton.mpr rfl)⟩
      simp [directory, fresh]
    · have full : size ≤ names.eraseDups.length := by
        unfold firstComers at length
        rw [List.length_take] at length
        omega
      rw [if_neg room, firstComers_full _ full]
      exact ⟨admits, by simp⟩

end

/-! ### One call -/

def AnomalyDetector.sourceSlot (ad : AnomalyDetector) (srcIp : UInt32) : Option Nat × List SrcStats :=
  findOrAppend SrcStats.active SrcStats.srcIp 1024 (fun srcIp => { srcIp }) ad.sources srcIp

def AnomalyDetector.flowSlot (ad : AnomalyDetector) (key : FlowKey) : Option Nat × List BwRecord :=
  findOrAppend BwRecord.active BwRecord.key 2048 (fun key => { key }) ad.bwRecords key

/-- The counters of scans, spikes and resets. -/
def AnomalyDetector.counts (ad : AnomalyDetector) : Int32 × Int32 × Int32 := (ad.scanCount, ad.spikeCount, ad.dropCount)

section
variable (ad : AnomalyDetector) (ts : UInt64) (flow : FlowEvent)

theorem findSrc_eq (srcIp : UInt32) :
    findSrc ad srcIp = ((ad.sourceSlot srcIp).1, { ad with sources := (ad.sourceSlot srcIp).2 }) := rfl

theorem findBw_eq (key : FlowKey) :
    findBw ad key = ((ad.flowSlot key).1, { ad with bwRecords := (ad.flowSlot key).2 }) := rfl

theorem checkScan_tables :
    directory SrcStats.active SrcStats.srcIp (checkScan ad ts flow).1.sources =
        directory SrcStats.active SrcStats.srcIp (ad.sourceSlot flow.srcIp).2 ∧
      (checkScan ad ts flow).1.bwRecords = ad.bwRecords ∧ (checkScan ad ts flow).1.counts = ad.counts ∧
      ∀ found ∈ (checkScan ad ts flow).2, found.verdict = ANOMALY_SCAN ∧ (ad.sourceSlot flow.srcIp).1.isSome ∧
        found.ad = { (checkScan ad ts flow).1 with scanCount := ad.scanCount + 1 } := by
  unfold checkScan
  rw [findSrc_eq]
  rcases ad.sourceSlot flow.srcIp with ⟨_ | i, sources⟩
  · exact ⟨rfl, rfl, rfl, by simp⟩
  · dsimp only
    cases read : sources[i]? with
    | none => exact ⟨rfl, rfl, rfl, by simp⟩
    | some src =>
      dsimp only
      have same : directory SrcStats.active SrcStats.srcIp (sources.set i (src.addPort flow.dstPort ts)) =
          directory SrcStats.active SrcStats.srcIp sources := directory_set read rfl rfl
      split
      · split
        · exact ⟨same, rfl, rfl, by simp⟩
        · exact ⟨same, rfl, rfl, by simp⟩
      · exact ⟨rfl, rfl, rfl, by simp⟩

theorem checkSpike_tables :
    (checkSpike ad ts flow).1.sources = ad.sources ∧
      directory BwRecord.active BwRecord.key (checkSpike ad ts flow).1.bwRecords =
        directory BwRecord.active BwRecord.key (ad.flowSlot flow.bandwidthKey).2 ∧
      (checkSpike ad ts flow).1.counts = ad.counts ∧
      ∀ found ∈ (checkSpike ad ts flow).2.2, found.verdict = ANOMALY_SPIKE ∧ (ad.flowSlot flow.bandwidthKey).1.isSome ∧
        found.ad = { (checkSpike ad ts flow).1 with spikeCount := ad.spikeCount + 1 } := by
  unfold checkSpike
  rw [findBw_eq]
  rcases ad.flowSlot flow.bandwidthKey with ⟨_ | i, bwRecords⟩
  · exact ⟨rfl, rfl, rfl, by simp⟩
  · dsimp only
    cases read : bwRecords[i]? with
    | none => exact ⟨rfl, rfl, rfl, by simp⟩
    | some bw =>
      dsimp only
      have same : directory BwRecord.active BwRecord.key (bwRecords.set i (bw.add flow.bytes ts)) =
          directory BwRecord.active BwRecord.key bwRecords := directory_set read rfl rfl
      split
      · exact ⟨rfl, same, rfl, by simp⟩
      · split
        · exact ⟨rfl, rfl, rfl, by simp⟩
        · exact ⟨rfl, same, rfl, by simp⟩

/-- A counter of one kind of verdict, after another verdict. -/
def counter (kind verdict : UInt8) (count : Int32) : Int32 := if verdict = kind then count + 1 else count

def counted (verdict : UInt8) (counts : Int32 × Int32 × Int32) : Int32 × Int32 × Int32 :=
  (counter ANOMALY_SCAN verdict counts.1, counter ANOMALY_SPIKE verdict counts.2.1, counter ANOMALY_DROP verdict counts.2.2)

theorem counter_count (kind verdict : UInt8) (earlier : List UInt8) :
    counter kind verdict (.ofNat (earlier.count kind)) = .ofNat ((earlier ++ [verdict]).count kind) := by
  unfold counter
  rw [List.count_append, List.count_singleton]
  by_cases same : verdict = kind
  · rw [if_pos same, if_pos (beq_iff_eq.mpr same), Int32.ofNat_add]
    rfl
  · rw [if_neg same, if_neg (fun equal => same (beq_iff_eq.mp equal)), Nat.add_zero]

theorem checkReset_tables :
    (checkReset ad flow).verdict ≠ ANOMALY_SCAN ∧ (checkReset ad flow).verdict ≠ ANOMALY_SPIKE ∧
      (checkReset ad flow).ad.sources = ad.sources ∧ (checkReset ad flow).ad.bwRecords = ad.bwRecords ∧
      (checkReset ad flow).ad.counts = counted (checkReset ad flow).verdict ad.counts := by
  have drop : ANOMALY_DROP ≠ ANOMALY_SCAN ∧ ANOMALY_DROP ≠ ANOMALY_SPIKE := by decide
  have none_ : ANOMALY_NONE ≠ ANOMALY_SCAN ∧ ANOMALY_NONE ≠ ANOMALY_SPIKE := by decide
  unfold checkReset
  split
  · exact ⟨drop.1, drop.2, rfl, rfl, rfl⟩
  · exact ⟨none_.1, none_.2, rfl, rfl, rfl⟩

end

/-- A call that does not end in a scan gets as far as the bandwidth of its flow. -/
structure CheckedAs (ad : AnomalyDetector) (flow : FlowEvent) (result : AnomalyCheck) : Prop where
  sources : directory SrcStats.active SrcStats.srcIp result.ad.sources =
    directory SrcStats.active SrcStats.srcIp (ad.sourceSlot flow.srcIp).2
  flows : directory BwRecord.active BwRecord.key result.ad.bwRecords =
    if result.verdict = ANOMALY_SCAN then directory BwRecord.active BwRecord.key ad.bwRecords
    else directory BwRecord.active BwRecord.key (ad.flowSlot flow.bandwidthKey).2
  counts : result.ad.counts = counted result.verdict ad.counts
  scan : result.verdict = ANOMALY_SCAN → (ad.sourceSlot flow.srcIp).1.isSome
  spike : result.verdict = ANOMALY_SPIKE → (ad.flowSlot flow.bandwidthKey).1.isSome

theorem anomalyCheckFlow_tables (ad : AnomalyDetector) (ts : UInt64) (flow : FlowEvent) :
    CheckedAs ad flow (anomalyCheckFlow ad ts flow) := by
  obtain ⟨sources, flows, counts, scan⟩ := checkScan_tables ad ts flow
  unfold anomalyCheckFlow
  rcases first : checkScan ad ts flow with ⟨scanned, _ | found⟩
  · rw [first] at sources flows counts
    dsimp only at sources flows counts ⊢
    obtain ⟨sources', flows', counts', spike⟩ := checkSpike_tables scanned ts flow
    have slot : scanned.flowSlot flow.bandwidthKey = ad.flowSlot flow.bandwidthKey := by
      unfold AnomalyDetector.flowSlot
      rw [flows]
    rw [slot] at flows' spike
    rcases second : checkSpike scanned ts flow with ⟨spiked, flow', _ | found⟩
    · rw [second] at sources' flows' counts'
      dsimp only at sources' flows' counts' ⊢
      obtain ⟨noScan, noSpike, sources'', flows'', counts''⟩ := checkReset_tables spiked flow'
      refine ⟨?_, ?_, ?_, fun scan => absurd scan noScan, fun spike => absurd spike noSpike⟩
      · rw [sources'', sources']
        exact sources
      · rw [if_neg noScan, flows'']
        exact flows'
      · rw [counts'', counts', counts]
    · rw [second] at sources' flows' counts' spike
      dsimp only at sources' flows' counts' ⊢
      obtain ⟨verdict, known, after⟩ := spike found rfl
      have noScan : found.verdict ≠ ANOMALY_SCAN := by
        rw [verdict]
        decide
      have count : scanned.spikeCount = spiked.spikeCount := congrArg (·.2.1) counts'.symm
      refine ⟨?_, ?_, ?_, fun scan => absurd scan noScan, fun _ => known⟩
      · rw [after, ← sources, ← sources']
      · rw [if_neg noScan, after]
        exact flows'
      · rw [after, verdict, ← counts, ← counts', count]
        rfl
  · rw [first] at sources flows counts scan
    dsimp only at sources flows counts ⊢
    obtain ⟨verdict, known, after⟩ := scan found rfl
    have noSpike : found.verdict ≠ ANOMALY_SPIKE := by
      rw [verdict]
      decide
    have count : ad.scanCount = scanned.scanCount := congrArg (·.1) counts.symm
    refine ⟨?_, ?_, ?_, fun _ => known, fun spike => absurd spike noSpike⟩
    · rw [after]
      exact sources
    · rw [after, if_pos verdict, ← flows]
    · rw [after, verdict, ← counts, count]
      rfl

/-! ### Runs -/

def AnomalyDetector.verdict (ad : AnomalyDetector) (call : FlowCheck) : UInt8 :=
  (anomalyCheckFlow ad call.ts call.flow).verdict

/-- The answers to the calls of a run. -/
def verdicts (calls : List FlowCheck) : List UInt8 :=
  logged AnomalyDetector.check (fun ad call => [ad.verdict call]) anomalyDetectorCreate calls

/-- The flows of the calls that were not answered with a scan. -/
def flowsChecked (calls : List FlowCheck) : List FlowKey :=
  logged AnomalyDetector.check
    (fun ad call => if ad.verdict call = ANOMALY_SCAN then [] else [call.flow.bandwidthKey]) anomalyDetectorCreate calls

structure FirstComeTables (calls : List FlowCheck) (ad : AnomalyDetector) : Prop where
  sources : Admits SrcStats.active SrcStats.srcIp 1024 ad.sources (calls.map (·.flow.srcIp))
  flows : Admits BwRecord.active BwRecord.key 2048 ad.bwRecords (flowsChecked calls)
  counts : ad.counts = (.ofNat ((verdicts calls).count ANOMALY_SCAN), .ofNat ((verdicts calls).count ANOMALY_SPIKE),
    .ofNat ((verdicts calls).count ANOMALY_DROP))

section
variable {calls : List FlowCheck} {call : FlowCheck}

theorem detectorAfter_concat : detectorAfter (calls ++ [call]) = (detectorAfter calls).check call := by
  unfold detectorAfter
  rw [List.foldl_concat]

theorem verdicts_next : verdicts (calls ++ [call]) = verdicts calls ++ [(detectorAfter calls).verdict call] :=
  logged_concat _ _ _ calls call

theorem flowsChecked_concat :
    flowsChecked (calls ++ [call]) = flowsChecked calls ++
      if (detectorAfter calls).verdict call = ANOMALY_SCAN then [] else [call.flow.bandwidthKey] :=
  logged_concat _ _ _ calls call

theorem check_tables (tables : FirstComeTables calls (detectorAfter calls)) :
    FirstComeTables (calls ++ [call]) (detectorAfter (calls ++ [call])) := by
  have checked := anomalyCheckFlow_tables (detectorAfter calls) call.ts call.flow
  rw [detectorAfter_concat]
  refine ⟨?_, ?_, ?_⟩
  · rw [List.map_append, List.map_singleton]
    exact checked.sources.trans (findOrAppend_admits tables.sources ⟨rfl, rfl⟩).1
  · rw [flowsChecked_concat]
    by_cases scan : (detectorAfter calls).verdict call = ANOMALY_SCAN
    · rw [if_pos scan, List.append_nil]
      exact (checked.flows.trans (if_pos scan)).trans tables.flows
    · rw [if_neg scan]
      exact (checked.flows.trans (if_neg scan)).trans (findOrAppend_admits tables.flows ⟨rfl, rfl⟩).1
  · rw [verdicts_next]
    simp only [← counter_count]
    refine checked.counts.trans ?_
    rw [tables.counts]
    rfl

end

theorem detectorAfter_tables (calls : List FlowCheck) : FirstComeTables calls (detectorAfter calls) := by
  induction calls using List.reverseRecOn with
  | nil => exact ⟨rfl, rfl, rfl⟩
  | append_singleton calls call ih => exact check_tables ih

theorem admits_names {α κ : Type} [DecidableEq κ] {active : α → Bool} {key : α → κ} {size : Nat} {entries : List α}
    {names : List κ} (admits : Admits active key size entries names) : entries.map key = firstComers size names := by
  have same := congrArg (List.map Prod.snd) admits
  simpa [directory, Function.comp_def] using same

/-- After any number of calls the tables hold the first 1024 sources and the first 2048 flows whose bandwidth was
checked, the counters are those of the answers given until one overflows, and only entries of the tables are reported. -/
theorem detector_tables (calls : List FlowCheck) (call : FlowCheck) :
    let ad := detectorAfter calls
    ad.sources.map SrcStats.srcIp = (sourcesSeen calls).take 1024 ∧
    ad.bwRecords.map BwRecord.key = (flowsChecked calls).eraseDups.take 2048 ∧
    (∀ entry ∈ [(ANOMALY_SCAN, ad.scanCount), (ANOMALY_SPIKE, ad.spikeCount), (ANOMALY_DROP, ad.dropCount)],
      (verdicts calls).count entry.1 < 2 ^ 31 → entry.2.toInt = (verdicts calls).count entry.1) ∧
    (ad.verdict call = ANOMALY_SCAN → call.flow.srcIp ∈ (sourcesSeen (calls ++ [call])).take 1024) ∧
    (ad.verdict call = ANOMALY_SPIKE →
      call.flow.bandwidthKey ∈ (flowsChecked calls ++ [call.flow.bandwidthKey]).eraseDups.take 2048) := by
  intro ad
  have tables := detectorAfter_tables calls
  have checked := anomalyCheckFlow_tables ad call.ts call.flow
  refine ⟨admits_names tables.sources, admits_names tables.flows, ?_, ?_, ?_⟩
  · obtain ⟨scans, spikes, drops⟩ : _ ∧ _ ∧ _ := by simpa [AnomalyDetector.counts] using tables.counts
    intro entry member small
    simp only [List.mem_cons, List.not_mem_nil, or_false] at member
    rcases member with rfl | rfl | rfl
    · exact (congrArg Int32.toInt scans).trans (Int32.toInt_ofNat_of_lt small)
    · exact (congrArg Int32.toInt spikes).trans (Int32.toInt_ofNat_of_lt small)
    · exact (congrArg Int32.toInt drops).trans (Int32.toInt_ofNat_of_lt small)
  · intro scan
    have first := (findOrAppend_admits tables.sources ⟨rfl, rfl⟩).2 (checked.scan scan)
    unfold sourcesSeen
    rw [List.map_append]
    exact first
  · intro spike
    exact (findOrAppend_admits tables.flows ⟨rfl, rfl⟩).2 (checked.spike spike)

/-- Once 1024 sources have been seen, a source that was not among them is never reported as a scanner, whatever it and
the others do from then on. -/
theorem latecomer_never_scans (calls more : List FlowCheck) (call : FlowCheck) (full : 1024 ≤ (sourcesSeen calls).length)
    (late : call.flow.srcIp ∉ sourcesSeen calls) : (detectorAfter (calls ++ more)).verdict call ≠ ANOMALY_SCAN := by
  intro scan
  have tables := detectorAfter_tables (calls ++ more)
  have checked := anomalyCheckFlow_tables (detectorAfter (calls ++ more)) call.ts call.flow
  have first := (findOrAppend_admits tables.sources ⟨rfl, rfl⟩).2 (checked.scan scan)
  rw [List.map_append, List.append_assoc, firstComers_full _ full] at first
  exact late (List.mem_of_mem_take first)

/-- One call from each of the first addresses. -/
def crowd (count : Nat) : List FlowCheck :=
  (List.range count).map fun k => ⟨0, { srcIp := UInt32.ofNat k, dstPort := 80 }⟩

theorem crowd_sources (count : Nat) (few : count ≤ 5000) : count ≤ (sourcesSeen (crowd count)).length := by
  have distinct : ((crowd count).map (·.flow.srcIp)).Nodup := by
    unfold crowd
    rw [List.map_map]
    apply List.Nodup.map_on _ List.nodup_range
    intro a insideA b insideB same
    have equal := congrArg UInt32.toNat same
    simp only [Function.comp_apply, UInt32.toNat_ofNat'] at equal
    rw [List.mem_range] at insideA insideB
    omega
  have length : ((crowd count).map (·.flow.srcIp)).length = count := by simp [crowd]
  have shorter := (List.subperm_of_subset distinct fun _ named => List.mem_eraseDups.mpr named).length_le
  rwa [length] at shorter

theorem late_source (count : Nat) (few : count ≤ 5000) : 5000 ∉ sourcesSeen (crowd count) := by
  intro early
  obtain ⟨call, member, same⟩ := List.mem_map.mp (List.mem_eraseDups.mp early)
  obtain ⟨k, inside, rfl⟩ := List.mem_map.mp member
  have equal := congrArg UInt32.toNat same
  rw [List.mem_range] at inside
  simp only [UInt32.toNat_ofNat', UInt32.reduceToNat] at equal
  omega

/-- A source that comes after the crowd, and the ports it sweeps. -/
def lateSweep (count : Nat) : List FlowCheck :=
  (List.range count).map fun k => ⟨0, { srcIp := 5000, dstPort := UInt16.ofNat (k + 1) }⟩

theorem late_sweep_unnoticed :
    (detectorAfter (crowd 1024 ++ lateSweep 1000)).verdict ⟨0, { srcIp := 5000, dstPort := 2000 }⟩ ≠ ANOMALY_SCAN :=
  latecomer_never_scans (crowd 1024) (lateSweep 1000) ⟨0, { srcIp := 5000, dstPort := 2000 }⟩ (crowd_sources 1024 (by decide))
    (late_source 1024 (by decide))

end StbEbpf.Probe
