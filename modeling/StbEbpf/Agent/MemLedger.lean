import StbEbpf.Agent.Analyzers
import StbEbpf.Lib.Run
import StbEbpf.Lib.Tally

/-!
The ledger of `MemLeakDetector`: what a process is charged with against the allocations of it that are on record. The
charge is kept under the process, the record under the pointer.
-/

namespace StbEbpf.Agent.MemLeakDetector
open CText Tally

inductive Call where
  | alloc (now : Int) (pid : UInt32) (comm : Bytes) (size ptr : UInt64)
  | free (pid : UInt32) (comm : Bytes) (ptr : UInt64)
  deriving DecidableEq, Repr

def step (d : MemLeakDetector) : Call → MemLeakDetector
  | .alloc now pid comm size ptr => d.recordAlloc now pid comm size ptr
  | .free pid comm ptr => d.recordFree pid comm ptr

theorem step_alloc (d : MemLeakDetector) (now : Int) (pid : UInt32) (comm : Bytes) (size ptr : UInt64) :
    d.step (.alloc now pid comm size ptr) = d.recordAlloc now pid comm size ptr := rfl

theorem step_free (d : MemLeakDetector) (pid : UInt32) (comm : Bytes) (ptr : UInt64) :
    d.step (.free pid comm ptr) = d.recordFree pid comm ptr := rfl

/-- The total size of the allocations of a process that are on record. -/
def held (d : MemLeakDetector) (pid : UInt32) : Nat :=
  total MemAllocRecord.pid (fun alloc => alloc.size.toNat) pid (values d.allocs)

/-- The amount in `CurrentAlloc`; a process without statistics has none. -/
def current (d : MemLeakDetector) (pid : UInt32) : UInt64 := (d.statOf pid []).currentAlloc

/-- The charge of a process is what it allocated less what it freed. -/
def Settled (d : MemLeakDetector) : Prop :=
  ∀ pid, d.current pid = (d.statOf pid []).totalAlloc - (d.statOf pid []).totalFree

structure Balanced (d : MemLeakDetector) : Prop where
  held : ∀ pid, (d.current pid).toNat = d.held pid
  settled : d.Settled

/-- The subtraction that the call makes, if it makes one, does not go below zero. -/
def Unwrapped (d : MemLeakDetector) : Call → Prop
  | .alloc .. => True
  | .free pid _ ptr => ∀ alloc, d.allocs.lookup ptr = some alloc → alloc.size ≤ d.current pid

/-- The call keeps the books. -/
def Kept (d : MemLeakDetector) (call : Call) : Prop := d.Unwrapped call ∧ (d.step call).Balanced

/-- Pointers are not handed out while they are on record, processes free what they allocated, and no process holds 2^64
bytes; allocations of size zero are free of all this. -/
def Orderly (d : MemLeakDetector) : Call → Prop
  | .alloc _ pid _ size ptr =>
    ptr ≠ 0 → (∀ old, d.allocs.lookup ptr = some old → old.size = 0) ∧ d.held pid + size.toNat < 2 ^ 64
  | .free pid _ ptr => ∀ alloc, d.allocs.lookup ptr = some alloc → alloc.pid = pid ∨ alloc.size = 0

/-! ### What a call does to the charges -/

section
variable {d : MemLeakDetector} (pid : UInt32) (comm : Bytes)

theorem statOf_numbers :
    (d.statOf pid comm).currentAlloc = d.current pid ∧
      (d.statOf pid comm).totalAlloc = (d.statOf pid []).totalAlloc ∧
      (d.statOf pid comm).totalFree = (d.statOf pid []).totalFree := by
  unfold current statOf
  cases d.stats.lookup pid with
  | none => exact ⟨rfl, rfl, rfl⟩
  | some stat => exact ⟨rfl, rfl, rfl⟩

theorem statOf_insert (allocs : GoMap UInt64 MemAllocRecord) (stat : MemStats) (other : UInt32) :
    statOf { allocs, stats := d.stats.insert pid stat } other [] = if other = pid then stat else d.statOf other [] := by
  unfold statOf
  split
  · rename_i same
    rw [same, AList.lookup_insert]
    rfl
  · rename_i differs
    rw [AList.lookup_insert_ne differs]

theorem current_recordAlloc (now : Int) (size : UInt64) {ptr : UInt64} (there : ptr ≠ 0) (other : UInt32) :
    (d.recordAlloc now pid comm size ptr).current other =
      if other = pid then d.current pid + size else d.current other := by
  unfold recordAlloc
  rw [if_neg there, current, statOf_insert]
  split
  · exact congrArg (· + size) (statOf_numbers pid comm).1
  · rfl

theorem current_recordFree {ptr : UInt64} {alloc : MemAllocRecord} (found : d.allocs.lookup ptr = some alloc)
    (other : UInt32) :
    (d.recordFree pid comm ptr).current other =
      if other = pid then d.current pid - alloc.size else d.current other := by
  unfold recordFree
  rw [found, current, statOf_insert]
  split
  · exact congrArg (· - alloc.size) (statOf_numbers pid comm).1
  · rfl

end

/-! ### What it does to the records -/

section
variable (d : MemLeakDetector)

/-- The total of a process without what is under a pointer. -/
def elsewhere (ptr : UInt64) (pid : UInt32) : Nat :=
  total MemAllocRecord.pid (fun alloc => alloc.size.toNat) pid (values (d.allocs.erase ptr))

theorem held_missing {ptr : UInt64} (missing : d.allocs.lookup ptr = none) (pid : UInt32) :
    d.held pid = d.elsewhere ptr pid := by
  unfold held elsewhere
  rw [erase_missing missing]

theorem held_found {ptr : UInt64} {alloc : MemAllocRecord} (found : d.allocs.lookup ptr = some alloc) (pid : UInt32) :
    d.held pid = (if alloc.pid = pid then alloc.size.toNat else 0) + d.elsewhere ptr pid :=
  total_perm (values_erase found)

theorem held_recordAlloc (now : Int) (pid : UInt32) (comm : Bytes) (size : UInt64) {ptr : UInt64} (there : ptr ≠ 0)
    (other : UInt32) :
    (d.recordAlloc now pid comm size ptr).held other =
      (if pid = other then size.toNat else 0) + d.elsewhere ptr other := by
  unfold recordAlloc held
  rw [if_neg there, values_insert]
  rfl

theorem held_recordFree (pid : UInt32) (comm : Bytes) {ptr : UInt64} {alloc : MemAllocRecord}
    (found : d.allocs.lookup ptr = some alloc) (other : UInt32) :
    (d.recordFree pid comm ptr).held other = d.elsewhere ptr other := by
  unfold recordFree held
  rw [found]
  rfl

end

/-! ### Single calls -/

section
variable {d : MemLeakDetector}

theorem settled_insert (settled : d.Settled) (allocs : GoMap UInt64 MemAllocRecord) (pid : UInt32) {stat : MemStats}
    (here : stat.currentAlloc = stat.totalAlloc - stat.totalFree) :
    Settled { allocs, stats := d.stats.insert pid stat } := by
  intro other
  rw [current, statOf_insert]
  split
  · exact here
  · exact settled other

theorem settled_step (settled : d.Settled) (call : Call) : (d.step call).Settled := by
  cases call with
  | alloc now pid comm size ptr =>
    obtain ⟨amount, allocated, freed⟩ := statOf_numbers (d := d) pid comm
    rw [step_alloc, recordAlloc]
    split
    · exact settled
    · apply settled_insert settled
      dsimp only
      rw [amount, allocated, freed, settled pid]
      grind
  | free pid comm ptr =>
    obtain ⟨amount, allocated, freed⟩ := statOf_numbers (d := d) pid comm
    rw [step_free, recordFree]
    split
    · exact settled
    · apply settled_insert settled
      dsimp only
      rw [amount, allocated, freed, settled pid]
      grind

/-- The sum is that of the recorded sizes if it does not overflow and nothing was lost with the record before. -/
theorem alloc_kept_iff (balanced : d.Balanced) (now : Int) (pid : UInt32) (comm : Bytes) (size ptr : UInt64) :
    d.Kept (.alloc now pid comm size ptr) ↔ d.Orderly (.alloc now pid comm size ptr) := by
  by_cases null : ptr = 0
  · have idle : d.step (.alloc now pid comm size ptr) = d := if_pos null
    constructor
    · exact fun _ there => absurd null there
    · intro _
      refine ⟨trivial, ?_⟩
      rwa [idle]
  have charges := current_recordAlloc (d := d) pid comm now size null
  have records := d.held_recordAlloc now pid comm size null
  have small := size.toNat_lt
  constructor
  · rintro ⟨-, after⟩ -
    have own := after.held pid
    rw [step_alloc, charges, records, if_pos rfl, if_pos rfl, UInt64.toNat_add, balanced.held] at own
    cases found : d.allocs.lookup ptr with
    | none =>
      have before := d.held_missing found pid
      exact ⟨nofun, by omega⟩
    | some old =>
      have bound := old.size.toNat_lt
      have before := d.held_found found pid
      have owner := d.held_found found old.pid
      have theirs := after.held old.pid
      rw [step_alloc, charges, records] at theirs
      rw [if_pos rfl] at owner
      have lost : old.size.toNat = 0 ∧ d.held pid + size.toNat < 2 ^ 64 := by
        by_cases same : old.pid = pid
        · rw [if_pos same] at before
          omega
        · rw [if_neg same] at before
          rw [if_neg same, if_neg (Ne.symm same), balanced.held] at theirs
          omega
      refine ⟨?_, lost.2⟩
      rintro _ ⟨⟩
      exact UInt64.toNat_inj.mp lost.1
  · intro orderly
    obtain ⟨empty, fits⟩ := orderly null
    refine ⟨trivial, fun other => ?_, settled_step balanced.settled _⟩
    have before : d.held other = d.elsewhere ptr other := by
      cases found : d.allocs.lookup ptr with
      | none => exact d.held_missing found other
      | some old =>
        have nothing : old.size.toNat = 0 := congrArg UInt64.toNat (empty old found)
        rw [d.held_found found, nothing, ite_self, Nat.zero_add]
    rw [step_alloc, charges, records]
    by_cases same : other = pid
    · subst same
      rw [if_pos rfl, if_pos rfl, UInt64.toNat_add, balanced.held]
      omega
    · rw [if_neg same, if_neg (Ne.symm same), balanced.held]
      omega

/-- A free by the owner, or of nothing, takes from the process that it charges what it takes off the record. -/
theorem held_charged {pid : UInt32} {ptr : UInt64} {alloc : MemAllocRecord} (found : d.allocs.lookup ptr = some alloc)
    (orderly : alloc.pid = pid ∨ alloc.size = 0) (other : UInt32) :
    d.held other = (if other = pid then alloc.size.toNat else 0) + d.elsewhere ptr other := by
  rw [d.held_found found]
  obtain rfl | nothing := orderly
  · simp only [eq_comm]
  · have zero : alloc.size.toNat = 0 := congrArg UInt64.toNat nothing
    rw [zero, ite_self, ite_self]

theorem free_kept_iff (balanced : d.Balanced) (pid : UInt32) (comm : Bytes) (ptr : UInt64) :
    d.Kept (.free pid comm ptr) ↔ d.Orderly (.free pid comm ptr) := by
  cases found : d.allocs.lookup ptr with
  | none =>
    have idle : d.step (.free pid comm ptr) = d := by
      rw [step_free, recordFree, found]
    refine iff_of_true ⟨fun alloc other => ?_, ?_⟩ fun alloc other => ?_
    · cases found.symm.trans other
    · rwa [idle]
    · cases found.symm.trans other
  | some alloc =>
    have charges := current_recordFree (d := d) pid comm found
    have records := d.held_recordFree pid comm found
    constructor
    · rintro ⟨-, after⟩ other same
      cases found.symm.trans same
      by_contra apart
      obtain ⟨foreign, positive⟩ := not_or.mp apart
      have theirs := after.held alloc.pid
      have before := d.held_found found alloc.pid
      rw [step_free, charges, records, if_neg foreign, balanced.held, before, if_pos rfl] at theirs
      exact positive (UInt64.toNat_inj.mp (by show alloc.size.toNat = 0; omega))
    · intro orderly
      have before := held_charged found (orderly alloc found)
      have own := before pid
      rw [if_pos rfl, ← balanced.held] at own
      have covered : alloc.size ≤ d.current pid := UInt64.le_iff_toNat_le.mpr (by omega)
      refine ⟨fun other same => ?_, fun other => ?_, settled_step balanced.settled _⟩
      · cases found.symm.trans same
        exact covered
      · rw [step_free, charges, records]
        by_cases here : other = pid
        · subst here
          rw [if_pos rfl, UInt64.toNat_sub_of_le _ _ covered]
          omega
        · rw [if_neg here, balanced.held, before, if_neg here, Nat.zero_add]

theorem kept_iff_orderly (balanced : d.Balanced) (call : Call) : d.Kept call ↔ d.Orderly call := by
  cases call with
  | alloc now pid comm size ptr => exact alloc_kept_iff balanced now pid comm size ptr
  | free pid comm ptr => exact free_kept_iff balanced pid comm ptr

end

/-! ### Runs -/

theorem balanced_start : Balanced {} := ⟨fun _ => rfl, fun _ => (UInt64.sub_self 0).symm⟩

/-- Every call of a run keeps the books exactly if every call of it is orderly. -/
theorem ledger_kept_iff (calls : List Call) : Run.Along step Kept {} calls ↔ Run.Along step Orderly {} calls := by
  apply Run.along_iff (I := Balanced)
  · exact fun d call _ _ kept => kept.2
  · exact fun d call balanced => kept_iff_orderly balanced call
  · exact balanced_start
  · exact Run.along_true step {} calls

/-- What one process allocated and another one freed: the second is charged with 2^64 - 10 bytes. -/
def foreignFree : List Call := [.alloc 0 1 (ascii "a") 10 4096, .free 2 (ascii "b") 4096]

theorem foreign_free_wraps : ¬ Run.Along step Kept {} foreignFree := by
  rintro ⟨-, ⟨unwrapped, -⟩, -⟩
  have covered : (10 : UInt64) ≤ 0 := unwrapped { timestamp := 0, pid := 1, comm := ascii "a", size := 10, pointer := 4096 } rfl
  exact absurd covered (by decide)

example : (foreignFree.foldl step {}).current 2 = 0 - 10 := by decide

end StbEbpf.Agent.MemLeakDetector
