import StbEbpf.Lib.Run
import StbEbpf.Probe.Anomaly

/-!
Port scans. `anomaly_check_flow` keeps an array of sources with an array of ports each, and leaves in the middle when
it reports a scan. Over any run the arrays are compared with the sources and ports that the calls named, in the order
in which they came first.
-/

namespace StbEbpf.Probe
open Run

/-- A call of `anomaly_check_flow`, with the time it reads. -/
structure FlowCheck where
  ts : UInt64
  flow : FlowEvent

/-! ### What the calls named -/

theorem eraseDups_concat {α : Type} [DecidableEq α] (xs : List α) (x : α) :
    (xs ++ [x]).eraseDups = if x ∈ xs then xs.eraseDups else xs.eraseDups ++ [x] := by
  rw [List.eraseDups_append]
  split <;> simp_all [List.removeAll, List.eraseDups_cons]

theorem nodup_eraseDups {α : Type} [DecidableEq α] (xs : List α) : xs.eraseDups.Nodup := by
  induction xs using List.reverseRecOn with
  | nil => simp
  | append_singleton xs x ih =>
    rw [eraseDups_concat]
    split
    · exact ih
    · rename_i new
      exact ih.append (by simp) (by simpa using new)

def sourcesSeen (calls : List FlowCheck) : List UInt32 := (calls.map (·.flow.srcIp)).eraseDups

def ownCalls (calls : List FlowCheck) (srcIp : UInt32) : List FlowCheck := calls.filter (·.flow.srcIp = srcIp)

/-- The distinct non-zero destination ports of a source. -/
def portsSeen (calls : List FlowCheck) (srcIp : UInt32) : List UInt16 :=
  (((ownCalls calls srcIp).map (·.flow.dstPort)).filter (· ≠ 0)).eraseDups

section
variable (calls : List FlowCheck) (call : FlowCheck)

theorem sourcesSeen_concat :
    sourcesSeen (calls ++ [call]) =
      if call.flow.srcIp ∈ sourcesSeen calls then sourcesSeen calls else sourcesSeen calls ++ [call.flow.srcIp] := by
  unfold sourcesSeen
  rw [List.map_append, List.map_singleton, eraseDups_concat]
  simp only [List.mem_eraseDups]

theorem portsSeen_other {srcIp : UInt32} (other : call.flow.srcIp ≠ srcIp) :
    portsSeen (calls ++ [call]) srcIp = portsSeen calls srcIp := by
  unfold portsSeen ownCalls
  rw [List.filter_append, List.filter_cons_of_neg (by simpa using other), List.filter_nil, List.append_nil]

theorem portsSeen_own :
    portsSeen (calls ++ [call]) call.flow.srcIp =
      if call.flow.dstPort = 0 ∨ call.flow.dstPort ∈ portsSeen calls call.flow.srcIp
      then portsSeen calls call.flow.srcIp else portsSeen calls call.flow.srcIp ++ [call.flow.dstPort] := by
  unfold portsSeen ownCalls
  rw [List.filter_append, List.filter_cons_of_pos (by simp), List.filter_nil, List.map_append, List.map_singleton,
    List.filter_append]
  by_cases zero : call.flow.dstPort = 0
  · rw [if_pos (.inl zero), List.filter_cons_of_neg (by simpa using zero), List.filter_nil, List.append_nil]
  · rw [List.filter_cons_of_pos (by simpa using zero), List.filter_nil, eraseDups_concat]
    simp only [zero, false_or, List.mem_eraseDups]

theorem portsSeen_unknown {srcIp : UInt32} (unknown : srcIp ∉ sourcesSeen calls) : portsSeen calls srcIp = [] := by
  have none_ : ownCalls calls srcIp = [] := by
    refine List.filter_eq_nil_iff.mpr fun call member => ?_
    simp only [decide_eq_true_eq]
    rintro rfl
    exact unknown (List.mem_eraseDups.mpr (List.mem_map_of_mem member))
  unfold portsSeen
  rw [none_]
  rfl

end

/-! ### What one call does to the sources -/

def SrcStats.reportsNew (src : SrcStats) (port : UInt16) : Bool := !src.portSeen port && decide (port > 0)

/-- The entry after a call for its source. -/
def SrcStats.after (src : SrcStats) (port : UInt16) (ts : UInt64) : SrcStats :=
  if src.reportsNew port then src.addPort port ts else src

def AnomalyDetector.check (ad : AnomalyDetector) (call : FlowCheck) : AnomalyDetector :=
  (anomalyCheckFlow ad call.ts call.flow).ad

theorem checkSpike_keeps (ad : AnomalyDetector) (ts : UInt64) (flow : FlowEvent) :
    (checkSpike ad ts flow).1.sources = ad.sources ∧
    (checkSpike ad ts flow).1.scanPortThreshold = ad.scanPortThreshold ∧
    ∀ found ∈ (checkSpike ad ts flow).2.2, found.verdict = ANOMALY_SPIKE ∧
      found.ad.sources = ad.sources ∧ found.ad.scanPortThreshold = ad.scanPortThreshold := by
  have sources : (findBw ad flow.bandwidthKey).2.sources = ad.sources := rfl
  have threshold : (findBw ad flow.bandwidthKey).2.scanPortThreshold = ad.scanPortThreshold := rfl
  unfold checkSpike
  split
  · rename_i same
    rw [same] at sources threshold
    exact ⟨sources, threshold, by simp⟩
  · rename_i same
    rw [same] at sources threshold
    split
    · exact ⟨sources, threshold, by simp⟩
    · dsimp only
      split
      · exact ⟨sources, threshold, by simp⟩
      · split
        · exact ⟨sources, threshold, by simpa using ⟨sources, threshold⟩⟩
        · exact ⟨sources, threshold, by simp⟩

theorem checkReset_keeps (ad : AnomalyDetector) (flow : FlowEvent) :
    (checkReset ad flow).verdict ≠ ANOMALY_SCAN ∧ (checkReset ad flow).ad.sources = ad.sources ∧
    (checkReset ad flow).ad.scanPortThreshold = ad.scanPortThreshold := by
  have drop : ANOMALY_DROP ≠ ANOMALY_SCAN := by decide
  have none_ : ANOMALY_NONE ≠ ANOMALY_SCAN := by decide
  unfold checkReset
  split
  · exact ⟨drop, rfl, rfl⟩
  · exact ⟨none_, rfl, rfl⟩

/-- The later checks report no scan and leave the sources alone. -/
theorem anomalyCheckFlow_go_on {ad scanned : AnomalyDetector} {ts : UInt64} {flow : FlowEvent}
    (goesOn : checkScan ad ts flow = (scanned, none)) :
    (anomalyCheckFlow ad ts flow).verdict ≠ ANOMALY_SCAN ∧
    (anomalyCheckFlow ad ts flow).ad.sources = scanned.sources ∧
    (anomalyCheckFlow ad ts flow).ad.scanPortThreshold = scanned.scanPortThreshold := by
  obtain ⟨sources, threshold, spike⟩ := checkSpike_keeps scanned ts flow
  unfold anomalyCheckFlow
  rw [goesOn]
  dsimp only
  split
  · rename_i found same
    obtain ⟨verdict, kept⟩ := spike found (by rw [same]; rfl)
    exact ⟨by rw [verdict]; decide, kept⟩
  · rename_i ad' flow' same
    rw [same] at sources threshold
    obtain ⟨verdict, kept, limit⟩ := checkReset_keeps ad' flow'
    exact ⟨verdict, kept.trans sources, limit.trans threshold⟩

/-- A call for a source that has an entry, or gets one. -/
theorem anomalyCheckFlow_found {ad known : AnomalyDetector} (ts : UInt64) {flow : FlowEvent} {i : Nat} {src : SrcStats}
    (found : findSrc ad flow.srcIp = (some i, known)) (entry : known.sources[i]? = some src) :
    ((anomalyCheckFlow ad ts flow).verdict = ANOMALY_SCAN ↔
      src.reportsNew flow.dstPort = true ∧ known.scanPortThreshold ≤ (src.after flow.dstPort ts).uniquePorts.length) ∧
    (anomalyCheckFlow ad ts flow).ad.sources = known.sources.set i (src.after flow.dstPort ts) ∧
    (anomalyCheckFlow ad ts flow).ad.scanPortThreshold = known.scanPortThreshold := by
  have same : known.sources.set i src = known.sources := by
    obtain ⟨inside, rfl⟩ := List.getElem?_eq_some_iff.mp entry
    exact List.set_getElem_self inside
  have scan : checkScan ad ts flow =
      if src.reportsNew flow.dstPort = true then
        let added := { known with sources := known.sources.set i (src.addPort flow.dstPort ts) }
        if (src.addPort flow.dstPort ts).uniquePorts.length ≥ known.scanPortThreshold then
          (added, some
            { verdict := ANOMALY_SCAN
              flow := { flow with anomaly := ANOMALY_SCAN, tags := .strncpy (CText.ascii "anomaly,port_scan") }
              ad := { added with scanCount := added.scanCount + 1 } })
        else (added, none)
      else (known, none) := by
    simp only [checkScan, found, entry, SrcStats.reportsNew, Bool.and_eq_true, Bool.not_eq_true', decide_eq_true_eq,
      Bool.not_eq_true]
  unfold SrcStats.after
  by_cases new : src.reportsNew flow.dstPort = true
  · rw [if_pos new] at scan ⊢
    by_cases enough : (src.addPort flow.dstPort ts).uniquePorts.length ≥ known.scanPortThreshold
    · dsimp only at scan
      rw [if_pos enough] at scan
      simp only [anomalyCheckFlow, scan, new, true_and, true_iff, and_self, and_true]
      exact enough
    · dsimp only at scan
      rw [if_neg enough] at scan
      obtain ⟨verdict, kept, limit⟩ := anomalyCheckFlow_go_on scan
      exact ⟨by simp [verdict, enough], kept, limit⟩
  · rw [if_neg new] at scan ⊢
    obtain ⟨verdict, kept, limit⟩ := anomalyCheckFlow_go_on scan
    exact ⟨by simp [verdict, new], by rw [kept, same], limit⟩

/-! ### Whole runs -/

def detectorAfter (calls : List FlowCheck) : AnomalyDetector := calls.foldl AnomalyDetector.check anomalyDetectorCreate

/-- The array of sources holds the sources named so far, each with the first 256 of its ports. -/
structure TracksPorts (calls : List FlowCheck) (ad : AnomalyDetector) : Prop where
  threshold : ad.scanPortThreshold = 20
  sources : ad.sources.map SrcStats.srcIp = sourcesSeen calls
  ports : ∀ src ∈ ad.sources, src.active = true ∧ src.uniquePorts = (portsSeen calls src.srcIp).take 256

theorem tracksPorts_create : TracksPorts [] anomalyDetectorCreate where
  threshold := rfl
  sources := rfl
  ports := by simp [anomalyDetectorCreate]

section
variable {calls : List FlowCheck} {call : FlowCheck} {ad : AnomalyDetector}

/-- Every source has an entry as long as the array has room for all of them. -/
theorem findSrc_tracks (tracks : TracksPorts calls ad) (few : (sourcesSeen (calls ++ [call])).length ≤ 1024) :
    ∃ i known src, findSrc ad call.flow.srcIp = (some i, known) ∧ known.sources[i]? = some src ∧
      src.srcIp = call.flow.srcIp ∧ known.scanPortThreshold = 20 ∧
      known.sources.map SrcStats.srcIp = sourcesSeen (calls ++ [call]) ∧
      ∀ src ∈ known.sources, src.active = true ∧ src.uniquePorts = (portsSeen calls src.srcIp).take 256 := by
  unfold findSrc findOrAppend
  cases found : Slots.lookup SrcStats.active SrcStats.srcIp ad.sources call.flow.srcIp with
  | some i =>
    obtain ⟨src, entry, -, own⟩ := Slots.lookup_some found
    have member : call.flow.srcIp ∈ sourcesSeen calls := by
      rw [← tracks.sources, ← own]
      exact List.mem_map_of_mem (List.mem_of_getElem? entry)
    refine ⟨i, ad, src, rfl, entry, own, tracks.threshold, ?_, tracks.ports⟩
    rw [tracks.sources, sourcesSeen_concat, if_pos member]
  | none =>
    have unknown : call.flow.srcIp ∉ sourcesSeen calls := by
      rw [← tracks.sources]
      intro member
      obtain ⟨src, inside, own⟩ := List.mem_map.mp member
      exact Slots.lookup_none.mp found src inside (tracks.ports src inside).1 own
    rw [sourcesSeen_concat, if_neg unknown] at few ⊢
    rw [← tracks.sources] at few ⊢
    have room : ad.sources.length < 1024 := by simpa using few
    refine ⟨ad.sources.length, { ad with sources := ad.sources ++ [{ srcIp := call.flow.srcIp }] },
      { srcIp := call.flow.srcIp }, ?_, by simp, rfl, tracks.threshold, by simp, ?_⟩
    · dsimp only
      rw [if_pos room]
    · intro src member
      rcases List.mem_append.mp member with old | new
      · exact tracks.ports src old
      · obtain rfl := List.mem_singleton.mp new
        exact ⟨rfl, by rw [portsSeen_unknown calls unknown]; rfl⟩

theorem reportsNew_iff {src : SrcStats} {seen : List UInt16} (ports : src.uniquePorts = seen.take 256)
    (port : UInt16) : src.reportsNew port = true ↔ port ≠ 0 ∧ port ∉ seen.take 256 := by
  have positive : port > 0 ↔ port ≠ 0 := UInt16.pos_iff_ne_zero
  simp only [SrcStats.reportsNew, SrcStats.portSeen, ports, List.take_take, Nat.min_self, Bool.and_eq_true,
    Bool.not_eq_true', List.contains_eq_mem, decide_eq_false_iff_not, decide_eq_true_eq, positive]
  exact and_comm

/-- The entry of a source goes on holding its first 256 ports. -/
theorem after_ports {src : SrcStats} (own : src.srcIp = call.flow.srcIp)
    (ports : src.uniquePorts = (portsSeen calls src.srcIp).take 256) :
    (src.after call.flow.dstPort call.ts).uniquePorts = (portsSeen (calls ++ [call]) call.flow.srcIp).take 256 := by
  rw [own] at ports
  rw [portsSeen_own]
  unfold SrcStats.after
  generalize portsSeen calls call.flow.srcIp = seen at ports ⊢
  generalize call.flow.dstPort = port
  by_cases new : src.reportsNew port = true
  · obtain ⟨some_, absent⟩ := (reportsNew_iff ports port).mp new
    rw [if_pos new, SrcStats.addPort]
    dsimp only
    rw [ports, List.length_take]
    by_cases room : seen.length < 256
    · rw [List.take_of_length_le (by omega)] at absent ⊢
      rw [if_pos (by omega), if_neg (by simp [some_, absent]), List.take_of_length_le (by simpa using room)]
    · rw [if_neg (by omega)]
      split
      · rfl
      · rw [List.take_append_of_le_length (by omega)]
  · have old : port = 0 ∨ port ∈ seen := by
      rw [reportsNew_iff ports, not_and_or, not_not, not_not] at new
      exact new.imp_right List.mem_of_mem_take
    rw [if_neg new, if_pos old, ports]

/-- The call's own entry is the only one that changes. -/
theorem portScan_tracks (tracks : TracksPorts calls ad) (few : (sourcesSeen (calls ++ [call])).length ≤ 1024) :
    TracksPorts (calls ++ [call]) (ad.check call) := by
  obtain ⟨i, known, src, found, entry, own, threshold, sources, ports⟩ := findSrc_tracks tracks few
  obtain ⟨-, kept, limit⟩ := anomalyCheckFlow_found call.ts found entry
  have name : (src.after call.flow.dstPort call.ts).srcIp = src.srcIp := by
    unfold SrcStats.after
    split <;> rfl
  have on : (src.after call.flow.dstPort call.ts).active = src.active := by
    unfold SrcStats.after
    split <;> rfl
  obtain ⟨inside, rfl⟩ := List.getElem?_eq_some_iff.mp entry
  refine ⟨limit.trans threshold, ?_, ?_⟩
  · unfold AnomalyDetector.check
    rw [kept, List.map_set, name, ← sources, ← List.getElem_map SrcStats.srcIp (h := by simpa using inside)]
    exact List.set_getElem_self _
  · unfold AnomalyDetector.check
    rw [kept]
    intro other member
    obtain ⟨j, read⟩ := List.mem_iff_getElem?.mp member
    rw [List.getElem?_set] at read
    split at read
    · cases read
      have before := ports _ (List.getElem_mem inside)
      rw [name, on, own]
      exact ⟨before.1, after_ports own before.2⟩
    · rename_i elsewhere
      have before := ports other (List.mem_of_getElem? read)
      have foreign : call.flow.srcIp ≠ other.srcIp := by
        rw [← own]
        intro same
        have once : (known.sources.map SrcStats.srcIp).Nodup := sources ▸ nodup_eraseDups _
        refine elsewhere ((List.getElem?_inj (by simpa using inside) once).mp ?_)
        rw [List.getElem?_map, List.getElem?_map, entry, read, Option.map_some, Option.map_some, same]
      rw [portsSeen_other _ _ foreign]
      exact before

theorem scan_iff (tracks : TracksPorts calls ad) (few : (sourcesSeen (calls ++ [call])).length ≤ 1024) :
    (anomalyCheckFlow ad call.ts call.flow).verdict = ANOMALY_SCAN ↔
      call.flow.dstPort ≠ 0 ∧ call.flow.dstPort ∉ (portsSeen calls call.flow.srcIp).take 256 ∧
        19 ≤ (portsSeen calls call.flow.srcIp).length := by
  obtain ⟨i, known, src, found, entry, own, threshold, -, ports⟩ := findSrc_tracks tracks few
  have held := (ports src (List.mem_of_getElem? entry)).2
  rw [own] at held
  rw [(anomalyCheckFlow_found call.ts found entry).1, threshold, reportsNew_iff held, and_assoc]
  refine and_congr_right fun some_ => and_congr_right fun absent => ?_
  -- The port counts itself, and a full array is long enough.
  have new : src.reportsNew call.flow.dstPort = true := (reportsNew_iff held _).mpr ⟨some_, absent⟩
  unfold SrcStats.after SrcStats.addPort
  rw [if_pos new]
  dsimp only
  rw [held]
  split
  · rename_i room
    rw [List.length_append, List.length_take, List.length_singleton]
    rw [List.length_take] at room
    omega
  · rename_i full
    rw [List.length_take] at full ⊢
    omega

end

theorem sourcesSeen_mono (calls more : List FlowCheck) :
    (sourcesSeen calls).length ≤ (sourcesSeen (calls ++ more)).length := by
  unfold sourcesSeen
  rw [List.map_append, List.eraseDups_append, List.length_append]
  exact Nat.le_add_right _ _

theorem detectorAfter_tracks {calls : List FlowCheck} (few : (sourcesSeen calls).length ≤ 1024) :
    TracksPorts calls (detectorAfter calls) := by
  induction calls using List.reverseRecOn with
  | nil => exact tracksPorts_create
  | append_singleton calls call ih =>
    have before := ih (Nat.le_trans (sourcesSeen_mono calls [call]) few)
    unfold detectorAfter
    rw [List.foldl_append]
    exact portScan_tracks before few

/-- The set specification of a call: the ports of its source that came before it, and nothing of other sources. -/
def ScanSpec (before : List FlowCheck) (call : FlowCheck) : Prop :=
  (anomalyCheckFlow (detectorAfter before) call.ts call.flow).verdict = ANOMALY_SCAN ↔
    call.flow.dstPort ≠ 0 ∧ call.flow.dstPort ∉ (portsSeen before call.flow.srcIp).take 256 ∧
      19 ≤ (portsSeen before call.flow.srcIp).length

theorem scanSpec_of_few {before : List FlowCheck} {call : FlowCheck}
    (few : (sourcesSeen (before ++ [call])).length ≤ 1024) : ScanSpec before call :=
  scan_iff (detectorAfter_tracks (Nat.le_trans (sourcesSeen_mono before [call]) few)) few

theorem tracks_counts {calls : List FlowCheck} {ad : AnomalyDetector} (tracks : TracksPorts calls ad)
    (few : (sourcesSeen calls).length ≤ 1024) :
    ad.sources.length ≤ 1024 ∧ ∀ src ∈ ad.sources, src.uniquePorts.length ≤ 256 := by
  constructor
  · rw [← List.length_map SrcStats.srcIp, tracks.sources]
    exact few
  · intro src member
    rw [(tracks.ports src member).2, List.length_take]
    exact Nat.min_le_left _ _

/-- The port scan detection is its set specification. The second part is the independence of other sources: two
histories with the same calls of the source give the same answer. -/
theorem scan_is_set_specification (calls : List FlowCheck) (few : (sourcesSeen calls).length ≤ 1024) :
    Each ScanSpec calls ∧
    (∀ before call after others, calls = before ++ call :: after →
      (sourcesSeen (others ++ [call])).length ≤ 1024 →
      ownCalls others call.flow.srcIp = ownCalls before call.flow.srcIp →
      ((anomalyCheckFlow (detectorAfter others) call.ts call.flow).verdict = ANOMALY_SCAN ↔
        (anomalyCheckFlow (detectorAfter before) call.ts call.flow).verdict = ANOMALY_SCAN)) ∧
    (detectorAfter calls).sources.length ≤ 1024 ∧
    ∀ src ∈ (detectorAfter calls).sources, src.uniquePorts.length ≤ 256 := by
  have spec : Each ScanSpec calls := by
    rintro before call after rfl
    have shorter := sourcesSeen_mono (before ++ [call]) after
    rw [List.append_assoc, List.singleton_append] at shorter
    exact scanSpec_of_few (Nat.le_trans shorter few)
  refine ⟨spec, ?_, tracks_counts (detectorAfter_tracks few) few⟩
  intro before call after others split fewOthers own
  have one : ScanSpec others call := scanSpec_of_few fewOthers
  have two : ScanSpec before call := spec before call after split
  unfold ScanSpec portsSeen at one two
  rw [one, two, own]

def portSweep (count : Nat) : List FlowCheck :=
  (List.range count).map fun k => ⟨0, { srcIp := 1, dstPort := UInt16.ofNat (k + 1) }⟩

theorem twentieth_port_is_scan :
    (anomalyCheckFlow (detectorAfter (portSweep 19)) 0 { srcIp := 1, dstPort := 20 }).verdict = ANOMALY_SCAN := by
  refine ((scan_is_set_specification (portSweep 20) (by decide +kernel)).1 (portSweep 19)
    ⟨0, { srcIp := 1, dstPort := 20 }⟩ [] rfl).mpr ?_
  decide +kernel

end StbEbpf.Probe
