import StbEbpf.Agent.Analyzers

/-!
The accounts of `SchedAnalyzer` against a trace of one CPU. Between two switches the CPU runs the process that the first
one switched in and the second one switches out.
-/

namespace StbEbpf.Agent.SchedAnalyzer
open Tally

structure Switch where
  pid : UInt32
  nextPid : UInt32
  prevState : Int64
  ts : Int
  deriving DecidableEq, Repr

def feed (a : SchedAnalyzer) (s : Switch) : SchedAnalyzer := a.recordSwitch s.pid s.nextPid s.prevState s.ts

def after (trace : List Switch) : SchedAnalyzer := trace.foldl feed {}

def Follows (one two : Switch) : Prop := two.pid = one.nextPid ∧ one.ts ≤ two.ts

instance (one two : Switch) : Decidable (Follows one two) := inferInstanceAs (Decidable (_ ∧ _))

def WellFormed (trace : List Switch) : Prop := trace.IsChain Follows

/-- A process on the CPU: for how long, and the state it was in when it was switched out. -/
structure Interval where
  pid : UInt32
  length : Nat
  state : Int64
  deriving DecidableEq, Repr

def intervals : List Switch → List Interval
  | one :: two :: rest =>
    { pid := one.nextPid, length := (two.ts - one.ts).toNat, state := two.prevState } :: intervals (two :: rest)
  | _ => []

/-- The time between the first and the last switch. -/
def span (trace : List Switch) : Nat :=
  match trace.head?, trace.getLast? with
  | some first, some last => (last.ts - first.ts).toNat
  | _, _ => 0

def usage (a : SchedAnalyzer) (pid : UInt32) : CpuUsage := (a.pidStats.lookup pid).getD { pid }

/-- Every process has the intervals of the trace in which it ran, and together they fill the trace. -/
structure Accounted (trace : List Switch) : Prop where
  runTime : ∀ pid, ((after trace).usage pid).runTimeNs.toNat = total Interval.pid Interval.length pid (intervals trace)
  switches : ∀ pid, ((after trace).usage pid).switchCount.toNat = total Interval.pid (fun _ => 1) pid (intervals trace)
  whole : sum (fun usage => usage.runTimeNs.toNat) (after trace).pidStats = span trace

/-- Every interval ends with a process that stays runnable, after less than 2^63 ns, and no total reaches 2^64. -/
structure Countable (trace : List Switch) : Prop where
  runnable : ∀ interval ∈ intervals trace, interval.state = 0
  short : ∀ interval ∈ intervals trace, interval.length < 2 ^ 63
  times : ∀ pid, total Interval.pid Interval.length pid (intervals trace) < 2 ^ 64
  counts : ∀ pid, total Interval.pid (fun _ => 1) pid (intervals trace) < 2 ^ 64

/-! ### What is recorded of an interval -/

/-- Nothing if the process was blocked; a duration is cut off at the range of an `int64`. -/
def booked (interval : Interval) : Nat := if interval.state = 0 then min (2 ^ 63 - 1) interval.length else 0

def tallied (interval : Interval) : Nat := if interval.state = 0 then 1 else 0

theorem elapsed_forward {ts earlier : Int} (forward : earlier ≤ ts) :
    elapsed ts earlier = UInt64.ofNat (min (2 ^ 63 - 1) (ts - earlier).toNat) := by
  have cut : max (-2 ^ 63) (min (2 ^ 63 - 1) (ts - earlier)) = ((min (2 ^ 63 - 1) (ts - earlier).toNat : Nat) : Int) := by
    omega
  rw [elapsed, cut]
  apply UInt64.toNat_inj.mp
  rw [UInt64.ofInt, UInt64.toNat_ofNat', UInt64.toNat_ofNat']
  omega

/-! ### One switch -/

section
variable {a : SchedAnalyzer} {one two : Switch}

theorem usage_addRun (runTime : UInt64) (pid other : UInt32) :
    ((a.addRun pid runTime).usage other).runTimeNs = (a.usage other).runTimeNs + (if pid = other then runTime else 0) ∧
      ((a.addRun pid runTime).usage other).switchCount = (a.usage other).switchCount + (if pid = other then 1 else 0) := by
  unfold usage addRun
  dsimp only
  by_cases own : pid = other
  · subst own
    rw [if_pos rfl, if_pos rfl, AList.lookup_insert]
    cases a.pidStats.lookup pid with
    | none => exact ⟨(UInt64.zero_add runTime).symm, rfl⟩
    | some stat => exact ⟨rfl, rfl⟩
  · rw [if_neg own, if_neg own, AList.lookup_insert_ne (Ne.symm own), UInt64.add_zero, UInt64.add_zero]
    exact ⟨rfl, rfl⟩

theorem feed_dated (a : SchedAnalyzer) (s : Switch) : (a.feed s).lastRunTime.lookup s.nextPid = some s.ts :=
  AList.lookup_insert _

/-- A switch books the interval that it ends. -/
theorem usage_feed (follows : Follows one two) (dated : a.lastRunTime.lookup one.nextPid = some one.ts) (pid : UInt32)
    {interval : Interval}
    (same : interval = { pid := one.nextPid, length := (two.ts - one.ts).toNat, state := two.prevState }) :
    ((a.feed two).usage pid).runTimeNs =
        (a.usage pid).runTimeNs + UInt64.ofNat (if interval.pid = pid then booked interval else 0) ∧
      ((a.feed two).usage pid).switchCount =
        (a.usage pid).switchCount + UInt64.ofNat (if interval.pid = pid then tallied interval else 0) := by
  obtain ⟨leaves, forward⟩ := follows
  subst same
  unfold feed recordSwitch booked tallied
  dsimp only
  by_cases runnable : two.prevState = 0
  · rw [if_pos runnable, if_pos runnable, if_pos runnable, leaves, dated]
    obtain ⟨time, count⟩ := usage_addRun (a := a) (elapsed two.ts one.ts) one.nextPid pid
    refine ⟨time.trans ?_, count.trans ?_⟩
    · rw [elapsed_forward forward]
      split <;> rfl
    · split <;> rfl
  · rw [if_neg runnable, if_neg runnable, if_neg runnable, ite_self]
    exact ⟨(UInt64.add_zero _).symm, (UInt64.add_zero _).symm⟩

end

/-! ### Whole traces -/

theorem usage_run {a : SchedAnalyzer} {one : Switch} {rest : List Switch} (trace : WellFormed (one :: rest))
    (dated : a.lastRunTime.lookup one.nextPid = some one.ts) (pid : UInt32) :
    ((rest.foldl feed a).usage pid).runTimeNs =
        (a.usage pid).runTimeNs + UInt64.ofNat (total Interval.pid booked pid (intervals (one :: rest))) ∧
      ((rest.foldl feed a).usage pid).switchCount =
        (a.usage pid).switchCount + UInt64.ofNat (total Interval.pid tallied pid (intervals (one :: rest))) := by
  -- along the trace, with the last switch-in on record
  induction rest generalizing a one with
  | nil => exact ⟨(UInt64.add_zero _).symm, (UInt64.add_zero _).symm⟩
  | cons two rest ih =>
    obtain ⟨follows, later⟩ := List.isChain_cons_cons.mp trace
    obtain ⟨time, count⟩ := usage_feed follows dated pid rfl
    obtain ⟨times, counts⟩ := ih later (feed_dated a two)
    rw [List.foldl_cons, intervals, total, total, UInt64.ofNat_add, UInt64.ofNat_add]
    refine ⟨?_, ?_⟩
    · rw [times, time, UInt64.add_assoc]
    · rw [counts, count, UInt64.add_assoc]

theorem usage_after {trace : List Switch} (wellFormed : WellFormed trace) (pid : UInt32) :
    ((after trace).usage pid).runTimeNs.toNat = total Interval.pid booked pid (intervals trace) % 2 ^ 64 ∧
      ((after trace).usage pid).switchCount.toNat = total Interval.pid tallied pid (intervals trace) % 2 ^ 64 := by
  cases trace with
  | nil => exact ⟨rfl, rfl⟩
  | cons one rest =>
    have unused : (feed {} one).pidStats = ∅ := by
      unfold feed recordSwitch
      split <;> rfl
    have idle : (feed {} one).usage pid = { pid } := by
      rw [usage, unused]
      rfl
    obtain ⟨times, counts⟩ := usage_run wellFormed (feed_dated {} one) pid
    rw [idle, UInt64.zero_add] at times counts
    refine ⟨?_, ?_⟩
    · rw [after, List.foldl_cons, times]
      exact UInt64.toNat_ofNat'
    · rw [after, List.foldl_cons, counts]
      exact UInt64.toNat_ofNat'

theorem sum_to_last {one : Switch} {rest : List Switch} (trace : WellFormed (one :: rest)) :
    ∃ last, (one :: rest).getLast? = some last ∧ one.ts ≤ last.ts ∧
      ((intervals (one :: rest)).map Interval.length).sum = (last.ts - one.ts).toNat := by
  induction rest generalizing one with
  | nil => exact ⟨one, rfl, le_rfl, by simp [intervals]⟩
  | cons two rest ih =>
    obtain ⟨⟨-, forward⟩, later⟩ := List.isChain_cons_cons.mp trace
    obtain ⟨last, ends, behind, filled⟩ := ih later
    refine ⟨last, ?_, forward.trans behind, ?_⟩
    · rwa [List.getLast?_cons_cons]
    · rw [intervals, List.map_cons, List.sum_cons, filled]
      dsimp only
      omega

/-- The intervals fill the trace. -/
theorem sum_intervals {trace : List Switch} (wellFormed : WellFormed trace) :
    ((intervals trace).map Interval.length).sum = span trace := by
  cases trace with
  | nil => rfl
  | cons one rest =>
    obtain ⟨last, ends, -, filled⟩ := sum_to_last wellFormed
    rw [filled, span, ends]
    rfl

/-! ### When the accounts are right -/

theorem runTime_iff {trace : List Switch} (wellFormed : WellFormed trace) :
    (∀ pid, ((after trace).usage pid).runTimeNs.toNat = total Interval.pid Interval.length pid (intervals trace)) ↔
      (∀ pid, total Interval.pid Interval.length pid (intervals trace) < 2 ^ 64) ∧
        ∀ interval ∈ intervals trace, booked interval = interval.length := by
  have le : ∀ interval ∈ intervals trace, booked interval ≤ interval.length := by
    intro interval _
    unfold booked
    split <;> omega
  rw [← totals_mod_iff (by decide) le]
  exact forall_congr' fun pid => by rw [(usage_after wellFormed pid).1]

theorem switches_iff {trace : List Switch} (wellFormed : WellFormed trace) :
    (∀ pid, ((after trace).usage pid).switchCount.toNat = total Interval.pid (fun _ => 1) pid (intervals trace)) ↔
      (∀ pid, total Interval.pid (fun _ => 1) pid (intervals trace) < 2 ^ 64) ∧
        ∀ interval ∈ intervals trace, tallied interval = 1 := by
  have le : ∀ interval ∈ intervals trace, tallied interval ≤ 1 := by
    intro interval _
    unfold tallied
    split <;> omega
  rw [← totals_mod_iff (by decide) le]
  exact forall_congr' fun pid => by rw [(usage_after wellFormed pid).2]

theorem whole_of_runTime {trace : List Switch} (wellFormed : WellFormed trace)
    (runTime : ∀ pid, ((after trace).usage pid).runTimeNs.toNat =
      total Interval.pid Interval.length pid (intervals trace)) :
    sum (fun usage => usage.runTimeNs.toNat) (after trace).pidStats = span trace := by
  rw [← sum_intervals wellFormed]
  apply sum_of_totals
  intro pid
  rw [← runTime pid, usage]
  cases (after trace).pidStats.lookup pid <;> rfl

/-- The accounts of a trace are right exactly if no process is switched out blocked, except by the first switch, and
nothing overflows. -/
theorem switch_accounts_iff {trace : List Switch} (wellFormed : WellFormed trace) : Accounted trace ↔ Countable trace := by
  constructor
  · rintro ⟨runTime, switches, -⟩
    obtain ⟨times, lengths⟩ := (runTime_iff wellFormed).mp runTime
    obtain ⟨counts, all⟩ := (switches_iff wellFormed).mp switches
    have runnable : ∀ interval ∈ intervals trace, interval.state = 0 := by
      intro interval member
      by_contra blocked
      have one := all interval member
      rw [tallied, if_neg blocked] at one
      cases one
    refine ⟨runnable, fun interval member => ?_, times, counts⟩
    have whole := lengths interval member
    rw [booked, if_pos (runnable interval member)] at whole
    omega
  · rintro ⟨runnable, short, times, counts⟩
    have runTime := (runTime_iff wellFormed).mpr ⟨times, fun interval member => by
      have fits := short interval member
      rw [booked, if_pos (runnable interval member)]
      omega⟩
    have switches := (switches_iff wellFormed).mpr ⟨counts, fun interval member => if_pos (runnable interval member)⟩
    exact ⟨runTime, switches, whole_of_runTime wellFormed runTime⟩

/-- Process 2 runs for 10 ns and is preempted. -/
def preempted : List Switch := [⟨1, 2, 1, 100⟩, ⟨2, 3, 0, 110⟩]

theorem preempted_accounted : WellFormed preempted ∧ (Accounted preempted ↔ Countable preempted) :=
  have wellFormed : WellFormed preempted := by simp [WellFormed, preempted, Follows]
  ⟨wellFormed, switch_accounts_iff wellFormed⟩

/-- Process 2 runs for 10 ns and blocks. -/
def blocks : List Switch := [⟨1, 2, 0, 100⟩, ⟨2, 3, 1, 110⟩]

theorem blocked_run_lost : WellFormed blocks ∧ ¬ Accounted blocks := by
  refine ⟨by simp [WellFormed, blocks, Follows], fun accounted => ?_⟩
  have ten : (0 : Nat) = 10 := accounted.runTime 2
  cases ten

end StbEbpf.Agent.SchedAnalyzer
