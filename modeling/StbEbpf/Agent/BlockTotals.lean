import StbEbpf.Agent.BlockPairing

/-!
The aggregates of `BlockIOAnalyzer` over a run: operations, bytes and latencies of each device, the histogram of all
latencies and the requests that are pending belong to one and the same list of completions.
-/

namespace StbEbpf.Agent.BlockIoAnalyzer
open CText Run Tally

inductive Operation where
  | record (call : Call)
  | getStats
  deriving DecidableEq, Repr

def perform (a : BlockIoAnalyzer) : Operation → BlockIoAnalyzer
  | .record call => a.step call
  | .getStats => a.getStats.1

def Operation.time : Operation → Option Int
  | record (.issue _ _ _ ts) => some ts
  | record (.complete _ _ ts) => some ts
  | getStats => none

def Operation.issues : Operation → Bool
  | record (.issue ..) => true
  | _ => false

/-- A completion that consumed a pending record. -/
structure Completion where
  dev : UInt64
  size : Nat
  latency : Nat
  deriving DecidableEq, Repr

def completed (a : BlockIoAnalyzer) : Operation → List Completion
  | .record (.complete dev sector ts) =>
    match a.pending.lookup (requestKey dev sector) with
    | some record => [{ dev, size := record.size.toNat, latency := (ts - record.timestamp).toNat }]
    | none => []
  | _ => []

/-- The completions of a run, in order. -/
def completions (a : BlockIoAnalyzer) (operations : List Operation) : List Completion :=
  logged perform completed a operations

/-- Time does not go backwards and spans less than 2^63 ns, and no total reaches 2^64. -/
structure Within (a : BlockIoAnalyzer) (operations : List Operation) : Prop where
  timely : (operations.filterMap Operation.time).Pairwise fun earlier later => earlier ≤ later ∧ later - earlier < 2 ^ 63
  count : (completions a operations).length < 2 ^ 64
  latencies : ∀ dev, total Completion.dev Completion.latency dev (completions a operations) < 2 ^ 64
  sizes : ∀ dev, total Completion.dev Completion.size dev (completions a operations) < 2 ^ 64

/-- The statistics of a device; without any, all numbers are zero. -/
def device (a : BlockIoAnalyzer) (dev : UInt64) : BlockIoStats := (a.stats.lookup dev).getD { dev }

def opsOf (stat : BlockIoStats) : Nat := stat.readOps.toNat

/-- What the aggregates say about each other and about the run. -/
structure Consistent (a : BlockIoAnalyzer) (done : List Completion) (issued : Nat) : Prop where
  histogram : sum UInt64.toNat a.histogram = sum opsOf a.stats
  latency : ∀ stat ∈ values a.stats,
    stat.totalLatency.toNat ≤ stat.readOps.toNat * stat.maxLatencyNs.toNat ∧ stat.maxLatencyNs ≤ stat.totalLatency
  average : ∀ stat ∈ values a.stats, stat.avgLatencyNs ≤ stat.maxLatencyNs
  bytes : ∀ dev, (a.device dev).readBytes.toNat = total Completion.dev Completion.size dev done
  requests : sum opsOf a.stats + (values a.pending).length ≤ issued

/-! ### The invariant -/

/-- What one device has against its completions. -/
structure Booked (stat : BlockIoStats) (dev : UInt64) (done : List Completion) : Prop where
  latency : stat.totalLatency.toNat = total Completion.dev Completion.latency dev done
  bytes : stat.readBytes.toNat = total Completion.dev Completion.size dev done
  spread : stat.totalLatency.toNat ≤ stat.readOps.toNat * stat.maxLatencyNs.toNat
  most : stat.maxLatencyNs.toNat ≤ stat.totalLatency.toNat
  average : stat.avgLatencyNs.toNat ≤ stat.maxLatencyNs.toNat

structure Sound (a : BlockIoAnalyzer) (done : List Completion) (issued : Nat) (times : List Int) : Prop where
  booked : ∀ dev, Booked (a.device dev) dev done
  counted : sum opsOf a.stats = done.length
  bucketed : sum UInt64.toNat a.histogram = done.length
  pending : done.length + (values a.pending).length ≤ issued
  dated : ∀ key record, a.pending.lookup key = some record → record.timestamp ∈ times

section
variable {a : BlockIoAnalyzer} {done : List Completion} {issued : Nat} {times : List Int}

theorem sound_start : Sound {} [] 0 [] where
  booked := fun _ => ⟨rfl, rfl, le_rfl, le_rfl, le_rfl⟩
  counted := rfl
  bucketed := rfl
  pending := le_rfl
  dated := nofun

theorem device_of_lookup {dev : UInt64} {stat : BlockIoStats} (found : a.stats.lookup dev = some stat) :
    a.device dev = stat := by
  rw [device, found]
  rfl

theorem Sound.consistent (sound : Sound a done issued times) : Consistent a done issued where
  histogram := sound.bucketed.trans sound.counted.symm
  latency := by
    intro stat member
    obtain ⟨dev, found⟩ := mem_values.mp member
    have booked := sound.booked dev
    rw [device_of_lookup found] at booked
    exact ⟨booked.spread, UInt64.le_iff_toNat_le.mpr booked.most⟩
  average := by
    intro stat member
    obtain ⟨dev, found⟩ := mem_values.mp member
    have booked := sound.booked dev
    rw [device_of_lookup found] at booked
    exact UInt64.le_iff_toNat_le.mpr booked.average
  bytes := fun dev => (sound.booked dev).bytes
  requests := by
    rw [sound.counted]
    exact sound.pending

/-! ### Issues -/

theorem Sound.recordIssue (sound : Sound a done issued times) (dev sector size : UInt64) (ts : Int) :
    Sound (a.recordIssue dev sector size ts) done (issued + 1) (times ++ [ts]) where
  booked := sound.booked
  counted := sound.counted
  bucketed := sound.bucketed
  pending := by
    have before := (values_at a.pending (requestKey dev sector)).length_eq
    have room := sound.pending
    rw [List.length_append] at before
    rw [BlockIoAnalyzer.recordIssue, values_insert, List.length_cons]
    omega
  dated := by
    intro key record found
    by_cases own : key = requestKey dev sector
    · subst own
      rw [BlockIoAnalyzer.recordIssue, AList.lookup_insert] at found
      cases found
      exact List.mem_append_right _ (List.mem_singleton_self ts)
    · rw [BlockIoAnalyzer.recordIssue, AList.lookup_insert_ne own] at found
      exact List.mem_append_left _ (sound.dated key record found)

/-! ### Completions -/

theorem elapsed_toNat {ts earlier : Int} (forward : earlier ≤ ts) (near : ts - earlier < 2 ^ 63) :
    (elapsed ts earlier).toNat = (ts - earlier).toNat := by
  have cut : max (-2 ^ 63) (min (2 ^ 63 - 1) (ts - earlier)) = ts - earlier := by omega
  rw [elapsed, cut, UInt64.ofInt, UInt64.toNat_ofNat']
  omega

/-- The statistics after one more completion. -/
def book (stat : BlockIoStats) (latency size : UInt64) : BlockIoStats :=
  { stat with
    totalLatency := stat.totalLatency + latency
    readOps := stat.readOps + 1
    readBytes := stat.readBytes + size
    maxLatencyNs := if latency > stat.maxLatencyNs then latency else stat.maxLatencyNs }

theorem toNat_add_of_lt {x y : UInt64} (fits : x.toNat + y.toNat < 2 ^ 64) : (x + y).toNat = x.toNat + y.toNat := by
  rw [UInt64.toNat_add]
  exact Nat.mod_eq_of_lt fits

theorem ops_book {stat : BlockIoStats} (fits : stat.readOps.toNat + 1 < 2 ^ 64) (latency size : UInt64) :
    opsOf (book stat latency size) = opsOf stat + 1 := toNat_add_of_lt fits

/-- The maximum after a completion bounds both the one before and the new latency, and is one of them. -/
theorem max_book (stat : BlockIoStats) (latency size : UInt64) :
    stat.maxLatencyNs.toNat ≤ (book stat latency size).maxLatencyNs.toNat ∧
      latency.toNat ≤ (book stat latency size).maxLatencyNs.toNat ∧
      (book stat latency size).maxLatencyNs.toNat ≤ max stat.maxLatencyNs.toNat latency.toNat := by
  unfold book
  dsimp only
  split
  · rename_i greater
    have more := UInt64.lt_iff_toNat_lt.mp greater
    omega
  · rename_i least
    have fewer := mt UInt64.lt_iff_toNat_lt.mpr least
    omega

theorem Booked.book {stat : BlockIoStats} {dev latency size : UInt64} (booked : Booked stat dev done)
    (ops : stat.readOps.toNat + 1 < 2 ^ 64)
    (latencies : total Completion.dev Completion.latency dev done + latency.toNat < 2 ^ 64)
    (sizes : total Completion.dev Completion.size dev done + size.toNat < 2 ^ 64) :
    Booked (book stat latency size) dev (done ++ [{ dev, size := size.toNat, latency := latency.toNat }]) := by
  have sum : (BlockIoAnalyzer.book stat latency size).totalLatency.toNat = stat.totalLatency.toNat + latency.toNat :=
    toNat_add_of_lt (by rw [booked.latency]; exact latencies)
  have bytes : (BlockIoAnalyzer.book stat latency size).readBytes.toNat = stat.readBytes.toNat + size.toNat :=
    toNat_add_of_lt (by rw [booked.bytes]; exact sizes)
  have count : (BlockIoAnalyzer.book stat latency size).readOps.toNat = stat.readOps.toNat + 1 := toNat_add_of_lt ops
  obtain ⟨grows, covers, least⟩ := max_book stat latency size
  constructor
  · rw [sum, booked.latency, total_append]
    simp [total]
  · rw [bytes, booked.bytes, total_append]
    simp [total]
  · rw [sum, count, Nat.add_mul, Nat.one_mul]
    exact Nat.add_le_add (booked.spread.trans (Nat.mul_le_mul_left _ grows)) covers
  · rw [sum]
    have most := booked.most
    omega
  · exact booked.average.trans grows

/-- A completion of one device leaves the totals of the others. -/
theorem Booked.frame {stat : BlockIoStats} {dev : UInt64} {completion : Completion} (booked : Booked stat dev done)
    (other : completion.dev ≠ dev) : Booked stat dev (done ++ [completion]) := by
  obtain ⟨latency, bytes, spread, most, average⟩ := booked
  refine ⟨?_, ?_, spread, most, average⟩
  · rw [latency, total_append]
    simp [total, other]
  · rw [bytes, total_append]
    simp [total, other]

theorem ops_le (a : BlockIoAnalyzer) (dev : UInt64) : opsOf (a.device dev) ≤ sum opsOf a.stats := by
  rw [sum_at opsOf a.stats dev, device]
  cases a.stats.lookup dev with
  | none => exact Nat.zero_le _
  | some stat => exact Nat.le_add_right _ _

theorem sum_device (a : BlockIoAnalyzer) (dev : UInt64) :
    sum opsOf a.stats = opsOf (a.device dev) + sum opsOf (a.stats.erase dev) := by
  rw [sum_at opsOf a.stats dev, device]
  cases a.stats.lookup dev <;> rfl

theorem sum_bucket (histogram : GoMap UInt64 UInt64) (bucket : UInt64) :
    sum UInt64.toNat histogram = ((histogram.lookup bucket).getD 0).toNat + sum UInt64.toNat (histogram.erase bucket) := by
  rw [sum_at UInt64.toNat histogram bucket]
  cases histogram.lookup bucket <;> rfl

theorem recordComplete_found {dev sector : UInt64} {record : BlockIoRecord}
    (found : a.pending.lookup (requestKey dev sector) = some record) (ts : Int) :
    a.recordComplete dev sector ts =
      { pending := a.pending.erase (requestKey dev sector)
        stats := a.stats.insert dev (book (a.device dev) (elapsed ts record.timestamp) record.size)
        histogram := a.histogram.insert (elapsed ts record.timestamp / 100000)
          ((a.histogram.lookup (elapsed ts record.timestamp / 100000)).getD 0 + 1) } := by
  unfold recordComplete
  dsimp only
  rw [found]
  rfl

theorem Sound.recordComplete (sound : Sound a done issued times) {dev sector : UInt64} {ts : Int} {record : BlockIoRecord}
    (found : a.pending.lookup (requestKey dev sector) = some record) {completion : Completion}
    (same : completion = { dev, size := record.size.toNat, latency := (elapsed ts record.timestamp).toNat })
    (count : (done ++ [completion]).length < 2 ^ 64)
    (latencies : total Completion.dev Completion.latency dev (done ++ [completion]) < 2 ^ 64)
    (sizes : total Completion.dev Completion.size dev (done ++ [completion]) < 2 ^ 64) :
    Sound (a.recordComplete dev sector ts) (done ++ [completion]) issued (times ++ [ts]) := by
  rw [List.length_append, List.length_singleton] at count
  have few : (a.device dev).readOps.toNat + 1 < 2 ^ 64 := by
    have least := ops_le a dev
    rw [sound.counted] at least
    unfold opsOf at least
    omega
  have fits : ((a.histogram.lookup (elapsed ts record.timestamp / 100000)).getD 0).toNat + 1 < 2 ^ 64 := by
    have least := sum_bucket a.histogram (elapsed ts record.timestamp / 100000)
    rw [sound.bucketed] at least
    omega
  subst same
  rw [recordComplete_found found]
  constructor
  · intro other
    by_cases own : other = dev
    · subst own
      rw [device, AList.lookup_insert]
      refine (sound.booked other).book few ?_ ?_
      · rw [total_append] at latencies
        simpa [total] using latencies
      · rw [total_append] at sizes
        simpa [total] using sizes
    · rw [device, AList.lookup_insert_ne own]
      exact (sound.booked other).frame (Ne.symm own)
  · have before := sum_device a dev
    rw [sound.counted] at before
    rw [sum_insert, ops_book few, List.length_append, List.length_singleton]
    omega
  · have before := sum_bucket a.histogram (elapsed ts record.timestamp / 100000)
    have next := toNat_add_of_lt (y := 1) fits
    rw [sound.bucketed] at before
    rw [sum_insert, next, List.length_append, List.length_singleton]
    show _ + 1 + _ = _
    omega
  · have room := sound.pending
    have fewer := (values_erase found).length_eq
    rw [List.length_cons] at fewer
    rw [List.length_append, List.length_singleton]
    dsimp only
    omega
  · intro key other there
    refine List.mem_append_left _ (sound.dated key other ?_)
    by_cases own : key = requestKey dev sector
    · subst own
      rw [AList.lookup_erase] at there
      cases there
    · rwa [AList.lookup_erase_ne own] at there

/-! ### Averages -/

theorem withAverage_ops (stat : BlockIoStats) : opsOf (withAverage stat) = opsOf stat := by
  unfold withAverage
  split <;> rfl

theorem Booked.withAverage {stat : BlockIoStats} {dev : UInt64} (booked : Booked stat dev done) :
    Booked (withAverage stat) dev done := by
  obtain ⟨latency, bytes, spread, most, average⟩ := booked
  unfold BlockIoAnalyzer.withAverage
  split
  · refine ⟨latency, bytes, spread, most, ?_⟩
    show (stat.totalLatency / stat.readOps).toNat ≤ stat.maxLatencyNs.toNat
    rw [UInt64.toNat_div]
    exact Nat.div_le_of_le_mul spread
  · exact ⟨latency, bytes, spread, most, average⟩

theorem Sound.getStats (sound : Sound a done issued times) : Sound a.getStats.1 done issued times where
  booked := by
    intro dev
    have booked := sound.booked dev
    unfold BlockIoAnalyzer.getStats
    rw [device, lookup_mapValues]
    unfold device at booked
    cases found : a.stats.lookup dev with
    | none =>
      rw [found] at booked
      exact booked
    | some stat =>
      rw [found] at booked
      exact booked.withAverage
  counted := by
    have same : sum opsOf (mapValues BlockIoAnalyzer.withAverage a.stats) = sum opsOf a.stats := by
      rw [sum, values_mapValues, List.map_map, sum]
      exact congrArg List.sum (List.map_congr_left fun stat _ => withAverage_ops stat)
    exact same.trans sound.counted
  bucketed := sound.bucketed
  pending := sound.pending
  dated := sound.dated

end

/-! ### Runs -/

theorem completions_concat (a : BlockIoAnalyzer) (operations : List Operation) (last : Operation) :
    completions a (operations ++ [last]) = completions a operations ++ completed (operations.foldl perform a) last :=
  logged_concat perform completed a operations last

theorem Within.earlier {a : BlockIoAnalyzer} {operations : List Operation} {last : Operation}
    (within : Within a (operations ++ [last])) : Within a operations := by
  obtain ⟨timely, count, latencies, sizes⟩ := within
  rw [List.filterMap_append] at timely
  rw [completions_concat] at count
  refine ⟨(List.pairwise_append.mp timely).1, ?_, fun dev => ?_, fun dev => ?_⟩
  · rw [List.length_append] at count
    omega
  · have bound := latencies dev
    rw [completions_concat, total_append] at bound
    omega
  · have bound := sizes dev
    rw [completions_concat, total_append] at bound
    omega

theorem sound_run {operations : List Operation} (within : Within {} operations) :
    Sound (operations.foldl perform {}) (completions {} operations) (operations.countP Operation.issues)
      (operations.filterMap Operation.time) := by
  induction operations using List.reverseRecOn with
  | nil => exact sound_start
  | append_singleton operations last ih =>
    have sound := ih within.earlier
    obtain ⟨timely, count, latencies, sizes⟩ := within
    simp only [completions_concat] at count latencies sizes ⊢
    rw [List.filterMap_append] at timely ⊢
    rw [List.foldl_append, List.countP_append]
    generalize operations.foldl perform {} = a at *
    cases last with
    | getStats =>
      simp only [completed, List.append_nil]
      have untimed : [Operation.getStats].filterMap Operation.time = [] := rfl
      rw [untimed, List.append_nil]
      exact sound.getStats
    | record call =>
      cases call with
      | issue dev sector size ts =>
        simp only [completed, List.append_nil]
        exact sound.recordIssue dev sector size ts
      | complete dev sector ts =>
        cases found : a.pending.lookup (requestKey dev sector) with
        | none =>
          have idle : a.perform (.record (.complete dev sector ts)) = a := by
            show a.recordComplete dev sector ts = a
            unfold recordComplete
            dsimp only
            rw [found]
          simp only [completed, found, List.append_nil, List.foldl_cons, List.foldl_nil, idle]
          obtain ⟨booked, counted, bucketed, pending, dated⟩ := sound
          exact ⟨booked, counted, bucketed, pending, fun key record there => List.mem_append_left _ (dated key record there)⟩
        | some record =>
          simp only [completed, found] at count latencies sizes ⊢
          have order := (List.pairwise_append.mp timely).2.2 record.timestamp (sound.dated _ _ found) ts
            (List.mem_singleton_self ts)
          have exact_ := elapsed_toNat order.1 order.2
          exact sound.recordComplete found (by rw [exact_]) count (latencies dev) (sizes dev)

/-- From a reset on, under the conditions on time and totals, the aggregates are consistent. -/
theorem aggregates_consistent (a : BlockIoAnalyzer) (operations : List Operation) (within : Within a.reset operations) :
    Consistent (operations.foldl perform a.reset) (completions a.reset operations)
      (operations.countP Operation.issues) :=
  (sound_run within).consistent

/-- One request, its completion 250 µs later, and a look at the averages. -/
def oneRead : List Operation :=
  [.record (.issue 8 100 4096 1000), .record (.complete 8 100 251000), .getStats]

theorem oneRead_completions : completions (reset {}) oneRead = [{ dev := 8, size := 4096, latency := 250000 }] := by
  decide

theorem oneRead_within : Within (reset {}) oneRead where
  timely := by decide
  count := by decide
  latencies := by
    intro dev
    rw [oneRead_completions, total, total]
    split <;> decide
  sizes := by
    intro dev
    rw [oneRead_completions, total, total]
    split <;> decide

theorem one_read_consistent :
    Consistent (oneRead.foldl perform (reset {})) (completions (reset {}) oneRead)
      (oneRead.countP Operation.issues) :=
  aggregates_consistent {} oneRead oneRead_within

end StbEbpf.Agent.BlockIoAnalyzer
