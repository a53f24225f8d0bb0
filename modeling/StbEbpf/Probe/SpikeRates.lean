import StbEbpf.Probe.PortScan

/-!
Bandwidths. `last_bytes` of a record is never reset, so the rate that a check reports is that of everything the flow
has carried before, over the time since the last check alone.
-/

namespace StbEbpf.Probe
open Run

/-- Bits per second between two times in nanoseconds. -/
def bitRate (bytes : Nat) (start stop : UInt64) : Nat := bytes * 8 * 1000000000 / (stop.toNat - start.toNat)

/-- Consecutive checks: what either of them reports is below the threshold. -/
structure Moderate (threshold : UInt64) (first second : FlowCheck) : Prop where
  later : first.ts < second.ts
  before : bitRate first.flow.bytes.toNat first.ts second.ts ≤ threshold.toNat
  after : bitRate second.flow.bytes.toNat first.ts second.ts ≤ threshold.toNat

def FlowEvent.withBandwidth (flow : FlowEvent) (bps : UInt64) : FlowEvent := { flow with bandwidthBps := bps }

/-- The check stores this bandwidth in the event, whatever the event says before. -/
def FlowCheck.SetsBandwidth (ad : AnomalyDetector) (check : FlowCheck) (bps : UInt64) : Prop :=
  ∀ old, (anomalyCheckFlow ad check.ts (check.flow.withBandwidth old)).flow.bandwidthBps = bps

/-- No spike, and a bandwidth is the rate of what this check reports or the last one did. -/
def RateRight (before : List FlowCheck) (check : FlowCheck) : Prop :=
  (anomalyCheckFlow (detectorAfter before) check.ts check.flow).verdict ≠ ANOMALY_SPIKE ∧
  ∀ bps, check.SetsBandwidth (detectorAfter before) bps →
    ∃ last ∈ before.getLast?, bps.toNat = bitRate last.flow.bytes.toNat last.ts check.ts ∨
      bps.toNat = bitRate check.flow.bytes.toNat last.ts check.ts

def carried (checks : List FlowCheck) : Nat := (checks.map fun check => check.flow.bytes.toNat).sum

/-- The rate of all bytes so far, as the 64-bit product has it. -/
def summedRate (before : List FlowCheck) (start stop : UInt64) : Nat :=
  carried before * 8 * 1000000000 % 2 ^ 64 / (stop.toNat - start.toNat)

/-- The rate of all bytes so far could as well be that of the last check or of this one. -/
def SumRight (before : List FlowCheck) (check : FlowCheck) : Prop :=
  ∀ last ∈ before.getLast?, last.ts ≠ 0 → carried before % 2 ^ 64 ≠ 0 →
    summedRate before last.ts check.ts ≤ anomalyDetectorCreate.spikeThresholdBps.toNat ∧
    (summedRate before last.ts check.ts = bitRate last.flow.bytes.toNat last.ts check.ts ∨
      summedRate before last.ts check.ts = bitRate check.flow.bytes.toNat last.ts check.ts)

/-! ### The record of a flow -/

/-- What the checks of a flow leave in its record. -/
def recordAfter (key : FlowKey) (checks : List FlowCheck) : BwRecord where
  key := key
  lastBytes := UInt64.ofNat (carried checks)
  lastTimeNs := (checks.getLast?.map FlowCheck.ts).getD 0

/-- A detector that has seen one flow. -/
structure Watches (key : FlowKey) (checks : List FlowCheck) (ad : AnomalyDetector) : Prop where
  threshold : ad.spikeThresholdBps = anomalyDetectorCreate.spikeThresholdBps
  records : checks = [] ∧ ad.bwRecords = [] ∨ ad.bwRecords = [recordAfter key checks]

section
variable {key : FlowKey} {before : List FlowCheck} {ad : AnomalyDetector}

theorem recordAfter_concat (check : FlowCheck) :
    recordAfter key (before ++ [check]) = (recordAfter key before).add check.flow.bytes check.ts := by
  simp [recordAfter, BwRecord.add, carried, UInt64.ofNat_add]

theorem findBw_watched (watches : Watches key before ad) :
    findBw ad key = (some 0, { ad with bwRecords := [recordAfter key before] }) := by
  unfold findBw findOrAppend
  rcases watches.records with ⟨rfl, none_⟩ | records
  · rw [none_]
    rfl
  · rw [records]
    simp [Slots.lookup, recordAfter]

/-- The detector with the bytes of a check added. -/
def AnomalyDetector.watched (ad : AnomalyDetector) (record : BwRecord) : AnomalyDetector :=
  { ad with bwRecords := [record] }

theorem checkSpike_watched (watches : Watches key before ad) (ts : UInt64) {flow : FlowEvent}
    (own : flow.bandwidthKey = key) :
    ((recordAfter key before).rate ts = none ∧
      checkSpike ad ts flow = (ad.watched ((recordAfter key before).add flow.bytes ts), flow, none)) ∨
    ∃ bps, (recordAfter key before).rate ts = some bps ∧
      ((bps ≤ anomalyDetectorCreate.spikeThresholdBps ∧
        checkSpike ad ts flow = (ad.watched ((recordAfter key before).add flow.bytes ts),
          flow.withBandwidth bps, none)) ∨
      (anomalyDetectorCreate.spikeThresholdBps < bps ∧
        ∃ found, (checkSpike ad ts flow).2.2 = some found ∧ found.verdict = ANOMALY_SPIKE ∧
          found.flow.bandwidthBps = bps)) := by
  have found := findBw_watched watches
  unfold checkSpike
  rw [own, found]
  dsimp only [List.getElem?_cons_zero, List.set_cons_zero]
  cases rate : (recordAfter key before).rate ts with
  | none => exact .inl ⟨rfl, rfl⟩
  | some bps =>
    refine .inr ⟨bps, rfl, ?_⟩
    dsimp only
    rw [← watches.threshold]
    by_cases spike : bps > ad.spikeThresholdBps
    · rw [if_pos spike]
      exact .inr ⟨spike, _, rfl, rfl, rfl⟩
    · rw [if_neg spike]
      exact .inl ⟨UInt64.not_lt.mp spike, rfl⟩

/-- What is not a scan goes on to the spikes, with records and threshold as they were. -/
theorem checkScan_goes_on {ts : UInt64} {flow : FlowEvent}
    (goesOn : (anomalyCheckFlow ad ts flow).verdict ≠ ANOMALY_SCAN) :
    ∃ scanned, checkScan ad ts flow = (scanned, none) ∧ scanned.bwRecords = ad.bwRecords ∧
      scanned.spikeThresholdBps = ad.spikeThresholdBps := by
  have scan : ∃ scanned, scanned.bwRecords = ad.bwRecords ∧ scanned.spikeThresholdBps = ad.spikeThresholdBps ∧
      (checkScan ad ts flow = (scanned, none) ∨
        ∃ found, checkScan ad ts flow = (scanned, some found) ∧ found.verdict = ANOMALY_SCAN) := by
    have records : (findSrc ad flow.srcIp).2.bwRecords = ad.bwRecords := rfl
    have threshold : (findSrc ad flow.srcIp).2.spikeThresholdBps = ad.spikeThresholdBps := rfl
    unfold checkScan
    split
    · rename_i same
      rw [same] at records threshold
      exact ⟨_, records, threshold, .inl rfl⟩
    · rename_i same
      rw [same] at records threshold
      split
      · exact ⟨_, records, threshold, .inl rfl⟩
      · split
        · dsimp only
          split
          · refine ⟨_, ?_, ?_, .inr ⟨_, rfl, rfl⟩⟩
            · exact records
            · exact threshold
          · refine ⟨_, ?_, ?_, .inl rfl⟩
            · exact records
            · exact threshold
        · exact ⟨_, records, threshold, .inl rfl⟩
  obtain ⟨scanned, records, threshold, scan | ⟨found, scan, verdict⟩⟩ := scan
  · exact ⟨scanned, scan, records, threshold⟩
  · refine absurd ?_ goesOn
    simp only [anomalyCheckFlow, scan, verdict]

theorem checkReset_frame (ad : AnomalyDetector) (flow : FlowEvent) :
    (checkReset ad flow).verdict ≠ ANOMALY_SPIKE ∧ (checkReset ad flow).flow.bandwidthBps = flow.bandwidthBps ∧
      (checkReset ad flow).ad.bwRecords = ad.bwRecords ∧
      (checkReset ad flow).ad.spikeThresholdBps = ad.spikeThresholdBps := by
  have drop : ANOMALY_DROP ≠ ANOMALY_SPIKE := by decide
  have none_ : ANOMALY_NONE ≠ ANOMALY_SPIKE := by decide
  unfold checkReset
  split
  · exact ⟨drop, rfl, rfl, rfl⟩
  · exact ⟨none_, rfl, rfl, rfl⟩

/-- A check is a spike if the rate of its record is above the threshold, and otherwise adds its bytes. -/
theorem check_watched (check : FlowCheck) (watches : Watches key before ad) (own : check.flow.bandwidthKey = key)
    (goesOn : (anomalyCheckFlow ad check.ts check.flow).verdict ≠ ANOMALY_SCAN) :
    ((anomalyCheckFlow ad check.ts check.flow).verdict ≠ ANOMALY_SPIKE ↔
      ∀ bps ∈ (recordAfter key before).rate check.ts, bps ≤ anomalyDetectorCreate.spikeThresholdBps) ∧
    (anomalyCheckFlow ad check.ts check.flow).flow.bandwidthBps =
      ((recordAfter key before).rate check.ts).getD check.flow.bandwidthBps ∧
    ((anomalyCheckFlow ad check.ts check.flow).verdict ≠ ANOMALY_SPIKE →
      Watches key (before ++ [check]) (ad.check check)) := by
  obtain ⟨scanned, scan, records, threshold⟩ := checkScan_goes_on goesOn
  have watches' : Watches key before scanned := by
    obtain ⟨threshold', records'⟩ := watches
    exact ⟨threshold.trans threshold', by rwa [records]⟩
  have resumed (flow : FlowEvent) (spike : checkSpike scanned check.ts check.flow =
        (scanned.watched ((recordAfter key before).add check.flow.bytes check.ts), flow, none)) :
      anomalyCheckFlow ad check.ts check.flow =
        checkReset (scanned.watched (recordAfter key (before ++ [check]))) flow := by
    simp only [anomalyCheckFlow, scan, spike, recordAfter_concat]
  have kept (flow : FlowEvent) :
      Watches key (before ++ [check])
        (checkReset (scanned.watched (recordAfter key (before ++ [check]))) flow).ad := by
    obtain ⟨-, -, records, threshold⟩ := checkReset_frame (scanned.watched (recordAfter key (before ++ [check]))) flow
    exact ⟨threshold.trans watches'.threshold, .inr records⟩
  unfold AnomalyDetector.check
  rcases checkSpike_watched watches' check.ts own with ⟨rate, spike⟩ | ⟨bps, rate, ⟨small, spike⟩ | ⟨large, found, spike⟩⟩
  · rw [resumed _ spike, rate]
    obtain ⟨verdict, bandwidth, -, -⟩ :=
      checkReset_frame (scanned.watched (recordAfter key (before ++ [check]))) check.flow
    exact ⟨by simp [verdict], bandwidth, fun _ => kept _⟩
  · rw [resumed _ spike, rate]
    obtain ⟨verdict, bandwidth, -, -⟩ := checkReset_frame (scanned.watched (recordAfter key (before ++ [check])))
      (check.flow.withBandwidth bps)
    exact ⟨by simp [verdict, small], bandwidth, fun _ => kept _⟩
  · obtain ⟨reported, verdict, bandwidth⟩ := spike
    have result : anomalyCheckFlow ad check.ts check.flow = found := by
      unfold anomalyCheckFlow
      rw [scan]
      dsimp only
      rcases outcome : checkSpike scanned check.ts check.flow with ⟨ad', flow', found'⟩
      rw [outcome] at reported
      dsimp only at reported
      rw [reported]
    rw [result, rate]
    exact ⟨by simp [verdict, UInt64.not_le.mpr large], bandwidth, fun no => absurd verdict no⟩

theorem setsBandwidth_iff {check : FlowCheck} (watches : Watches key before ad) (own : check.flow.bandwidthKey = key)
    (goesOn : ∀ old, (anomalyCheckFlow ad check.ts (check.flow.withBandwidth old)).verdict ≠ ANOMALY_SCAN)
    (bps : UInt64) : check.SetsBandwidth ad bps ↔ (recordAfter key before).rate check.ts = some bps := by
  have stored (old : UInt64) : (anomalyCheckFlow ad check.ts (check.flow.withBandwidth old)).flow.bandwidthBps =
      ((recordAfter key before).rate check.ts).getD old :=
    (check_watched ⟨check.ts, check.flow.withBandwidth old⟩ watches own (goesOn old)).2.1
  unfold FlowCheck.SetsBandwidth
  simp only [stored]
  cases (recordAfter key before).rate check.ts with
  | none =>
    simp only [Option.getD_none, reduceCtorEq, iff_false]
    intro same
    have equal : (0 : UInt64) = 1 := (same 0).trans (same 1).symm
    exact absurd equal (by decide)
  | some rate => simp

theorem rate_first (ts : UInt64) : (recordAfter key []).rate ts = none := by
  simp [recordAfter, BwRecord.rate]

theorem summedRate_fits (before : List FlowCheck) (start stop : UInt64) :
    ∃ bps : UInt64, bps.toNat = summedRate before start stop := by
  have wrapped : carried before * 8 * 1000000000 % 2 ^ 64 < 2 ^ 64 := Nat.mod_lt _ (by decide)
  have fits : summedRate before start stop < 2 ^ 64 := Nat.lt_of_le_of_lt (Nat.div_le_self _ _) wrapped
  exact ⟨UInt64.ofNat (summedRate before start stop), UInt64.toNat_ofNat_of_lt' fits⟩

theorem rate_iff (key : FlowKey) {last : FlowCheck} {ts : UInt64} (final : before.getLast? = some last) (later : last.ts < ts)
    (bps : UInt64) :
    (recordAfter key before).rate ts = some bps ↔
      last.ts ≠ 0 ∧ carried before % 2 ^ 64 ≠ 0 ∧ bps.toNat = summedRate before last.ts ts := by
  have order : last.ts.toNat < ts.toNat := later
  have elapsed : (ts - last.ts).toNat = ts.toNat - last.ts.toNat := UInt64.toNat_sub_of_le _ _ (UInt64.le_of_lt later)
  have passed : ts - last.ts > 0 := by
    show (0 : UInt64).toNat < (ts - last.ts).toNat
    rw [elapsed]
    simpa using order
  have some_ : UInt64.ofNat (carried before) > 0 ↔ carried before % 2 ^ 64 ≠ 0 := by
    show 0 < (UInt64.ofNat (carried before)).toNat ↔ _
    rw [UInt64.toNat_ofNat']
    omega
  have running : last.ts > 0 ↔ last.ts ≠ 0 := UInt64.pos_iff_ne_zero
  have product : carried before % 2 ^ 64 * 8 % 2 ^ 64 * 1000000000 % 2 ^ 64 =
      carried before * 8 * 1000000000 % 2 ^ 64 := by omega
  have rate : (UInt64.ofNat (carried before) * 8 * 1000000000 / (ts - last.ts)).toNat =
      summedRate before last.ts ts := by
    have eight : (8 : UInt64).toNat = 8 := rfl
    have giga : (1000000000 : UInt64).toNat = 1000000000 := rfl
    rw [UInt64.toNat_div, elapsed, UInt64.toNat_mul, UInt64.toNat_mul, UInt64.toNat_ofNat', eight, giga, product]
    rfl
  have record : (recordAfter key before).lastTimeNs = last.ts := by simp [recordAfter, final]
  have bytes : (recordAfter key before).lastBytes = UInt64.ofNat (carried before) := rfl
  unfold BwRecord.rate
  rw [record, bytes]
  dsimp only
  by_cases both : last.ts ≠ 0 ∧ carried before % 2 ^ 64 ≠ 0
  · rw [if_pos ⟨passed, running.mpr both.1, some_.mpr both.2⟩, Option.some.injEq, ← UInt64.toNat_inj, rate, eq_comm]
    exact ⟨fun same => ⟨both.1, both.2, same⟩, fun all => all.2.2⟩
  · rw [if_neg fun all => both ⟨running.mp all.2.1, some_.mp all.2.2⟩]
    constructor
    · intro none_
      cases none_
    · rintro ⟨running, some_, -⟩
      exact absurd ⟨running, some_⟩ both

end

/-! ### Runs -/

theorem eraseDups_length_le {α : Type} [DecidableEq α] {xs : List α} {a : α} (all : ∀ x ∈ xs, x = a) :
    xs.eraseDups.length ≤ 1 := by
  have within : xs.eraseDups ⊆ [a] := by
    intro x member
    simpa using all x (List.mem_eraseDups.mp member)
  exact ((nodup_eraseDups xs).subperm within).length_le

theorem one_flow_no_scan {key : FlowKey} {before : List FlowCheck} (check : FlowCheck)
    (own : check.flow.bandwidthKey = key) (one : ∀ other ∈ before, other.flow.bandwidthKey = key) :
    (anomalyCheckFlow (detectorAfter before) check.ts check.flow).verdict ≠ ANOMALY_SCAN := by
  have all : ∀ other ∈ before ++ [check], other.flow.bandwidthKey = key := by
    intro other member
    rcases List.mem_append.mp member with earlier | this
    · exact one other earlier
    · obtain rfl := List.mem_singleton.mp this
      exact own
  have sources : (sourcesSeen (before ++ [check])).length ≤ 1 := by
    apply eraseDups_length_le (a := key.srcIp)
    intro srcIp member
    obtain ⟨other, among, rfl⟩ := List.mem_map.mp member
    exact congrArg FlowKey.srcIp (all other among)
  have ports : (portsSeen before check.flow.srcIp).length ≤ 1 := by
    apply eraseDups_length_le (a := key.dstPort)
    intro port member
    obtain ⟨other, among, rfl⟩ := List.mem_map.mp (List.mem_of_mem_filter member)
    exact congrArg FlowKey.dstPort (one other (List.mem_of_mem_filter among))
  have spec : ScanSpec before check := scanSpec_of_few (by omega)
  intro scan
  have many := (spec.mp scan).2.2
  omega

/-- Checks of one flow that stays below the threshold: no check is a spike and every bandwidth is that of the last
interval, exactly as long as the rate of all bytes since the beginning happens to be that too. -/
theorem steady_flow_iff (key : FlowKey) (checks : List FlowCheck)
    (one : ∀ check ∈ checks, check.flow.bandwidthKey = key)
    (moderate : checks.IsChain (Moderate anomalyDetectorCreate.spikeThresholdBps)) :
    Each RateRight checks ↔ Each SumRight checks := by
  have own {before after : List FlowCheck} {check : FlowCheck} (split : checks = before ++ check :: after) :
      check.flow.bandwidthKey = key ∧ ∀ other ∈ before, other.flow.bandwidthKey = key :=
    ⟨one check (by simp [split]), fun other member => one other (by simp [split, member])⟩
  refine each_iff (I := fun before => Watches key before (detectorAfter before)) ⟨rfl, .inl ⟨rfl, rfl⟩⟩ ?_ ?_
  · intro before check after split watches
    obtain ⟨mine, others⟩ := own split
    have goesOn (old : UInt64) := one_flow_no_scan ⟨check.ts, check.flow.withBandwidth old⟩ mine others
    obtain ⟨spike, -, -⟩ := check_watched check watches mine (one_flow_no_scan check mine others)
    unfold RateRight SumRight
    rw [spike]
    simp only [setsBandwidth_iff watches mine goesOn]
    rcases List.eq_nil_or_concat before with rfl | ⟨earlier, last, rfl⟩
    · simp [rate_first]
    · have final : (earlier.concat last).getLast? = some last := by simp
      have later : last.ts < check.ts := by
        rw [split, List.concat_eq_append, List.append_assoc] at moderate
        exact (List.isChain_append.mp moderate).2.1.rel.later
      have rate (bps : UInt64) := rate_iff key final later bps
      obtain ⟨summed, number⟩ := summedRate_fits (earlier.concat last) last.ts check.ts
      constructor
      · rintro ⟨below, set⟩ last' final' running some_
        obtain rfl : last = last' := Option.some.inj (final.symm.trans final')
        have here := (rate summed).mpr ⟨running, some_, number⟩
        obtain ⟨last', final', right⟩ := set summed here
        obtain rfl : last = last' := Option.some.inj (final.symm.trans final')
        rw [← number]
        exact ⟨below summed here, right⟩
      · intro right
        have known (bps : UInt64) (here : (recordAfter key (earlier.concat last)).rate check.ts = some bps) :
            bps.toNat ≤ anomalyDetectorCreate.spikeThresholdBps.toNat ∧
              (bps.toNat = bitRate last.flow.bytes.toNat last.ts check.ts ∨
                bps.toNat = bitRate check.flow.bytes.toNat last.ts check.ts) := by
          obtain ⟨running, some_, same⟩ := (rate bps).mp here
          rw [same]
          exact right last final running some_
        exact ⟨fun bps here => (known bps here).1, fun bps here => ⟨last, final, (known bps here).2⟩⟩
  · intro before check after split watches right
    obtain ⟨mine, others⟩ := own split
    have step := (check_watched check watches mine (one_flow_no_scan check mine others)).2.2 right.1
    unfold detectorAfter at step ⊢
    rwa [List.foldl_append]

/-- Ten megabytes a second: 80 Mbit/s, and the threshold is 100. -/
def videoSecond (second : UInt64) : FlowCheck :=
  ⟨second * 1000000000, { srcIp := 1, dstIp := 2, srcPort := 40000, dstPort := 443, bytes := 10000000 }⟩

theorem third_second_is_spike :
    (∀ check ∈ [videoSecond 1, videoSecond 2, videoSecond 3],
      check.flow.bandwidthKey = (videoSecond 1).flow.bandwidthKey) ∧
    [videoSecond 1, videoSecond 2, videoSecond 3].IsChain (Moderate anomalyDetectorCreate.spikeThresholdBps) ∧
    (anomalyCheckFlow (detectorAfter [videoSecond 1, videoSecond 2]) (videoSecond 3).ts (videoSecond 3).flow).verdict =
      ANOMALY_SPIKE ∧
    ¬ Each RateRight [videoSecond 1, videoSecond 2, videoSecond 3] := by
  have spike : (anomalyCheckFlow (detectorAfter [videoSecond 1, videoSecond 2]) (videoSecond 3).ts
      (videoSecond 3).flow).verdict = ANOMALY_SPIKE := by decide +kernel
  refine ⟨by decide +kernel, ?_, spike, ?_⟩
  · refine .cons_cons ⟨?_, ?_, ?_⟩ (.cons_cons ⟨?_, ?_, ?_⟩ (.singleton _)) <;> decide +kernel
  · intro right
    exact (right [videoSecond 1, videoSecond 2] (videoSecond 3) [] rfl).1 spike

theorem two_seconds_right :
    (∀ check ∈ [videoSecond 1, videoSecond 2], check.flow.bandwidthKey = (videoSecond 1).flow.bandwidthKey) ∧
    [videoSecond 1, videoSecond 2].IsChain (Moderate anomalyDetectorCreate.spikeThresholdBps) ∧
    Each RateRight [videoSecond 1, videoSecond 2] := by
  have own : ∀ check ∈ [videoSecond 1, videoSecond 2],
      check.flow.bandwidthKey = (videoSecond 1).flow.bandwidthKey := by decide +kernel
  have moderate : [videoSecond 1, videoSecond 2].IsChain (Moderate anomalyDetectorCreate.spikeThresholdBps) := by
    refine .cons_cons ⟨?_, ?_, ?_⟩ (.singleton _) <;> decide +kernel
  refine ⟨own, moderate, (steady_flow_iff (videoSecond 1).flow.bandwidthKey _ own moderate).mpr ?_⟩
  rw [each_cons, each_cons]
  refine ⟨?_, ?_, each_nil⟩
  · intro last final
    cases final
  · rintro last ⟨⟩ - -
    exact ⟨by decide +kernel, .inl (by decide +kernel)⟩

end StbEbpf.Probe
