import Mathlib.Data.List.FinRange
import Mathlib.Data.List.Perm.Subperm
import StbEbpf.Lib.Run

/-!
The per-CPU rings of `src/bpf_loader.c`: how they are set up, which of them are read and which are released. `nr_cpus`
counts the rings that were set up, while `perf_fds` and `perf_mmap` are indexed by the number of the CPU.
-/

namespace StbEbpf.Probe.Perf

/-- `PERF_MAX_CPUS` is 16. -/
abbrev Cpu := Fin 16

/-- `for (int cpu = 0; cpu < count; cpu++)`, with `count` at most `PERF_MAX_CPUS`. -/
def cpus (count : Nat) : List Cpu := (List.finRange 16).take count

structure BpfLoaderStatus where
  socketFd : Int
  perfMapFd : Int
  bpfProgFd : Int
  useBpf : Bool := false
  nrCpus : Nat := 0
  perfFds : Cpu → Int := fun _ => 0
  perfMmap : Cpu → Option Nat := fun _ => none
  perfPageCnt : Nat := 0

inductive SystemCall where
  | perfEventOpen (fd : Int)
  | mmap (address : Nat)
  | munmap (address length : Nat)
  | close (fd : Int)
  deriving DecidableEq

/-- The status with the calls that were made and that the kernel carried out. -/
structure Loader where
  status : BpfLoaderStatus
  calls : List SystemCall := []

/-! ### Setting up -/

/-- The kernel's answers for one CPU: which of the three calls failed, if one did. -/
inductive Answer where
  | noEvent
  | noEntry (fd : Nat)
  | noRing (fd : Nat)
  | ring (fd address : Nat)

namespace Answer

def isRing : Answer → Bool
  | ring _ _ => true
  | _ => false

/-- What goes into `perf_fds`. -/
def fd : Answer → Int
  | ring fd _ => fd
  | _ => -1

/-- What goes into `perf_mmap`, if anything does. -/
def address : Answer → Option Nat
  | ring _ address => some address
  | _ => none

end Answer

def setUpCpu (answers : Cpu → Answer) (loader : Loader) (cpu : Cpu) : Loader :=
  let status := loader.status
  match answers cpu with
  | .noEvent => { loader with status := { status with perfFds := Function.update status.perfFds cpu (-1) } }
  | .noEntry fd | .noRing fd =>
    { status := { status with perfFds := Function.update status.perfFds cpu (-1) }
      calls := loader.calls ++ [.perfEventOpen fd, .close fd] }
  | .ring fd address =>
    { status :=
        { status with
          perfFds := Function.update status.perfFds cpu fd
          perfMmap := Function.update status.perfMmap cpu (some address)
          nrCpus := status.nrCpus + 1 }
      calls := loader.calls ++ [.perfEventOpen fd, .mmap address] }

/-- The number of CPUs that are tried, from the answer of `sysconf`. -/
def triedCpus (online : Int) : Nat := if online ≤ 0 then 1 else if 16 < online then 16 else online.toNat

/-- `bpf_loader_create_perf_buffer`. -/
def createPerfBuffer (online : Int) (answers : Cpu → Answer) (loader : Loader) : Int × Loader :=
  let loader := { loader with status := { loader.status with perfPageCnt := 64, nrCpus := 0 } }
  if loader.status.perfMapFd < 0 then (-1, loader)
  else
    let loader := (cpus (triedCpus online)).foldl (setUpCpu answers) loader
    (if loader.status.nrCpus = 0 then -1 else 0, loader)

/-! ### Reading and releasing -/

/-- The CPUs that the loop of `bpf_loader_read_perf_events` does not skip. -/
def visited (status : BpfLoaderStatus) : List Cpu :=
  (cpus status.nrCpus).filter fun cpu => 0 ≤ status.perfFds cpu ∧ (status.perfMmap cpu).isSome

def unmap (pageSize : Nat) (cpu : Cpu) (loader : Loader) : Loader :=
  match loader.status.perfMmap cpu with
  | none => loader
  | some address =>
    { status := { loader.status with perfMmap := Function.update loader.status.perfMmap cpu none }
      calls := loader.calls ++ [.munmap address ((loader.status.perfPageCnt + 1) * pageSize)] }

def closeEvent (cpu : Cpu) (loader : Loader) : Loader :=
  if 0 ≤ loader.status.perfFds cpu then
    { status := { loader.status with perfFds := Function.update loader.status.perfFds cpu (-1) }
      calls := loader.calls ++ [.close (loader.status.perfFds cpu)] }
  else loader

def releaseCpu (pageSize : Nat) (loader : Loader) (cpu : Cpu) : Loader := closeEvent cpu (unmap pageSize cpu loader)

def closeSocket (loader : Loader) : Loader :=
  if 0 ≤ loader.status.socketFd then
    { status := { loader.status with socketFd := -1 }, calls := loader.calls ++ [.close loader.status.socketFd] }
  else loader

def closeProg (loader : Loader) : Loader :=
  if 0 ≤ loader.status.bpfProgFd then
    { status := { loader.status with bpfProgFd := -1 }, calls := loader.calls ++ [.close loader.status.bpfProgFd] }
  else loader

/-- `bpf_loader_cleanup`. -/
def bpfLoaderCleanup (pageSize : Nat) (loader : Loader) : Loader :=
  let loader := closeProg (closeSocket ((cpus loader.status.nrCpus).foldl (releaseCpu pageSize) loader))
  { loader with status := { loader.status with useBpf := false } }

/-! ### What is held

The descriptors and the mappings that a list of calls leaves behind. -/

def holdFd (held : List Int) : SystemCall → List Int
  | .perfEventOpen fd => fd :: held
  | .close fd => held.erase fd
  | _ => held

def holdMapping (held : List Nat) : SystemCall → List Nat
  | .mmap address => address :: held
  | .munmap address _ => held.erase address
  | _ => held

def heldFds (calls : List SystemCall) : List Int := calls.foldl holdFd []

def heldMappings (calls : List SystemCall) : List Nat := calls.foldl holdMapping []

section SetUp

variable (answers : Cpu → Answer) (loader : Loader) (cpu : Cpu)

theorem setUpCpu_nrCpus : (setUpCpu answers loader cpu).status.nrCpus =
    loader.status.nrCpus + (if (answers cpu).isRing then 1 else 0) := by
  unfold setUpCpu
  cases answers cpu <;> rfl

theorem setUpCpu_perfFds : (setUpCpu answers loader cpu).status.perfFds =
    Function.update loader.status.perfFds cpu (answers cpu).fd := by
  unfold setUpCpu
  cases answers cpu <;> rfl

theorem setUpCpu_perfMmap (empty : loader.status.perfMmap cpu = none) :
    (setUpCpu answers loader cpu).status.perfMmap =
      Function.update loader.status.perfMmap cpu (answers cpu).address := by
  have same : Function.update loader.status.perfMmap cpu none = loader.status.perfMmap := by
    rw [← empty, Function.update_eq_self]
  unfold setUpCpu
  cases answers cpu <;> first | rfl | exact same.symm

theorem setUpCpu_heldFds : heldFds (setUpCpu answers loader cpu).calls =
    (if (answers cpu).isRing then [(answers cpu).fd] else []) ++ heldFds loader.calls := by
  unfold setUpCpu heldFds
  cases answers cpu <;> simp [holdFd, Answer.isRing, Answer.fd]

theorem setUpCpu_heldMappings : heldMappings (setUpCpu answers loader cpu).calls =
    (answers cpu).address.toList ++ heldMappings loader.calls := by
  unfold setUpCpu heldMappings
  cases answers cpu <;> simp [holdMapping, Answer.address]

end SetUp

/-- What is said of the entries in a list, when one more is added to it. -/
theorem listed_concat {α : Type*} (value rest : Cpu → α) (listed : List Cpu) (cpu other : Cpu) :
    (if other = cpu then value cpu else if other ∈ listed then value other else rest other) =
      if other ∈ listed ++ [cpu] then value other else rest other := by
  by_cases same : other = cpu
  · subst same
    simp
  · simp [same]

def rings (answers : Cpu → Answer) (tried : List Cpu) : List Cpu := tried.filter fun cpu => (answers cpu).isRing

/-- The loader after the CPUs in `tried` were set up. -/
structure SetUp (answers : Cpu → Answer) (tried : List Cpu) (after : Loader) : Prop where
  nrCpus : after.status.nrCpus = (rings answers tried).length
  perfFds : ∀ cpu, after.status.perfFds cpu = if cpu ∈ tried then (answers cpu).fd else 0
  perfMmap : ∀ cpu, after.status.perfMmap cpu = if cpu ∈ tried then (answers cpu).address else none
  perfPageCnt : after.status.perfPageCnt = 64
  fds : heldFds after.calls = ((rings answers tried).map fun cpu => (answers cpu).fd).reverse
  mappings : heldMappings after.calls = ((rings answers tried).filterMap fun cpu => (answers cpu).address).reverse

theorem setUpCpu_setUp {answers : Cpu → Answer} {after : Loader} {tried : List Cpu} {cpu : Cpu}
    (before : SetUp answers tried after) (fresh : cpu ∉ tried) :
    SetUp answers (tried ++ [cpu]) (setUpCpu answers after cpu) := by
  have empty : after.status.perfMmap cpu = none := by rw [before.perfMmap, if_neg fresh]
  have more : rings answers (tried ++ [cpu]) = rings answers tried ++ if (answers cpu).isRing then [cpu] else [] := by
    unfold rings
    rw [List.filter_append, List.filter_singleton]
    cases (answers cpu).isRing <;> rfl
  constructor
  · rw [setUpCpu_nrCpus, before.nrCpus, more, List.length_append]
    split <;> rfl
  · intro other
    rw [setUpCpu_perfFds, Function.update_apply, before.perfFds]
    exact listed_concat (fun cpu => (answers cpu).fd) (fun _ => 0) tried cpu other
  · intro other
    rw [setUpCpu_perfMmap _ _ _ empty, Function.update_apply, before.perfMmap]
    exact listed_concat (fun cpu => (answers cpu).address) (fun _ => none) tried cpu other
  · rw [← before.perfPageCnt]
    unfold setUpCpu
    cases answers cpu <;> rfl
  · rw [setUpCpu_heldFds, before.fds, more]
    split <;> simp
  · rw [setUpCpu_heldMappings, before.mappings, more]
    cases answer : answers cpu <;> simp [Answer.isRing, Answer.address, answer]

theorem foldl_setUpCpu {answers : Cpu → Answer} {first : Loader} (start : SetUp answers [] first) {tried : List Cpu}
    (distinct : tried.Nodup) : SetUp answers tried (tried.foldl (setUpCpu answers) first) :=
  Run.foldl_distinct (fun _ _ _ before fresh => setUpCpu_setUp before fresh) start distinct

/-! ### Releasing -/

def releaseCalls (pageSize : Nat) (status : BpfLoaderStatus) (cpu : Cpu) : List SystemCall :=
  ((status.perfMmap cpu).toList.map fun address => .munmap address ((status.perfPageCnt + 1) * pageSize)) ++
    if 0 ≤ status.perfFds cpu then [.close (status.perfFds cpu)] else []

/-- The loader after the entries in `done` were released. -/
structure Released (pageSize : Nat) (first : Loader) (done : List Cpu) (after : Loader) : Prop where
  calls : after.calls = first.calls ++ done.flatMap (releaseCalls pageSize first.status)
  perfFds : ∀ cpu, after.status.perfFds cpu =
    if cpu ∈ done ∧ 0 ≤ first.status.perfFds cpu then -1 else first.status.perfFds cpu
  perfMmap : ∀ cpu, after.status.perfMmap cpu = if cpu ∈ done then none else first.status.perfMmap cpu
  perfPageCnt : after.status.perfPageCnt = first.status.perfPageCnt
  socketFd : after.status.socketFd = first.status.socketFd
  bpfProgFd : after.status.bpfProgFd = first.status.bpfProgFd

section Release

variable (pageSize : Nat) (loader : Loader) (cpu : Cpu)

theorem releaseCpu_calls :
    (releaseCpu pageSize loader cpu).calls = loader.calls ++ releaseCalls pageSize loader.status cpu := by
  unfold releaseCpu closeEvent unmap releaseCalls
  cases loader.status.perfMmap cpu <;> dsimp only <;> split <;> simp

theorem releaseCpu_perfFds : (releaseCpu pageSize loader cpu).status.perfFds =
    if 0 ≤ loader.status.perfFds cpu then Function.update loader.status.perfFds cpu (-1)
    else loader.status.perfFds := by
  unfold releaseCpu closeEvent unmap
  cases loader.status.perfMmap cpu <;> dsimp only <;> split <;> rfl

theorem releaseCpu_perfMmap : (releaseCpu pageSize loader cpu).status.perfMmap =
    Function.update loader.status.perfMmap cpu none := by
  unfold releaseCpu closeEvent unmap
  cases mapped : loader.status.perfMmap cpu with
  | none =>
    have same : Function.update loader.status.perfMmap cpu none = loader.status.perfMmap := by
      rw [← mapped, Function.update_eq_self]
    dsimp only
    split <;> exact same.symm
  | some address =>
    dsimp only
    split <;> rfl

theorem releaseCpu_others : (releaseCpu pageSize loader cpu).status.perfPageCnt = loader.status.perfPageCnt ∧
    (releaseCpu pageSize loader cpu).status.socketFd = loader.status.socketFd ∧
    (releaseCpu pageSize loader cpu).status.bpfProgFd = loader.status.bpfProgFd := by
  unfold releaseCpu closeEvent unmap
  cases loader.status.perfMmap cpu <;> dsimp only <;> split <;> exact ⟨rfl, rfl, rfl⟩

end Release

theorem releaseCpu_released {pageSize : Nat} {first after : Loader} {done : List Cpu} {cpu : Cpu}
    (before : Released pageSize first done after) (fresh : cpu ∉ done) :
    Released pageSize first (done ++ [cpu]) (releaseCpu pageSize after cpu) := by
  have fdKept : after.status.perfFds cpu = first.status.perfFds cpu := by
    rw [before.perfFds, if_neg fun both => fresh both.1]
  have mapKept : after.status.perfMmap cpu = first.status.perfMmap cpu := by rw [before.perfMmap, if_neg fresh]
  have sameCalls : releaseCalls pageSize after.status cpu = releaseCalls pageSize first.status cpu := by
    unfold releaseCalls
    rw [fdKept, mapKept, before.perfPageCnt]
  obtain ⟨pageCnt, socketFd, bpfProgFd⟩ := releaseCpu_others pageSize after cpu
  refine ⟨?_, fun other => ?_, fun other => ?_, pageCnt.trans before.perfPageCnt, socketFd.trans before.socketFd,
    bpfProgFd.trans before.bpfProgFd⟩
  · rw [releaseCpu_calls, before.calls, sameCalls]
    simp
  · rw [releaseCpu_perfFds, fdKept]
    by_cases same : other = cpu
    · subst same
      by_cases open_ : 0 ≤ first.status.perfFds other <;> simp [open_, fdKept]
    · by_cases open_ : 0 ≤ first.status.perfFds cpu <;> simp [open_, same, before.perfFds]
  · rw [releaseCpu_perfMmap, Function.update_apply, before.perfMmap]
    exact listed_concat (fun _ => none) first.status.perfMmap done cpu other

theorem foldl_releaseCpu (pageSize : Nat) (first : Loader) {done : List Cpu} (distinct : done.Nodup) :
    Released pageSize first done (done.foldl (releaseCpu pageSize) first) := by
  have start : Released pageSize first [] first := ⟨by simp, by simp, by simp, rfl, rfl, rfl⟩
  exact Run.foldl_distinct (fun _ _ _ before fresh => releaseCpu_released before fresh) start distinct

/-! ### Counting and indexing

Where a list is cut off at the number of its elements that satisfy `p`, all of these are kept exactly if no element
without `p` stands before one with it. -/

section Counting

variable {α : Type*} {p : α → Bool} {l : List α}

theorem filter_eq_take (closed : l.Pairwise fun earlier later => p later → p earlier) :
    l.filter p = l.take (l.filter p).length := by
  induction l with
  | nil => rfl
  | cons x l ih =>
    obtain ⟨first, closed⟩ := List.pairwise_cons.mp closed
    by_cases holds : p x
    · rw [List.filter_cons_of_pos holds, List.length_cons, List.take_succ_cons, ← ih closed]
    · have none_ : l.filter p = [] := List.filter_eq_nil_iff.mpr fun y member later => holds (first y member later)
      rw [List.filter_cons_of_neg holds, none_]
      rfl

theorem pairwise_of_counted (distinct : l.Nodup) (counted : ∀ x ∈ l.filter p, x ∈ l.take (l.filter p).length) :
    l.Pairwise fun earlier later => p later → p earlier := by
  induction l with
  | nil => exact List.Pairwise.nil
  | cons x l ih =>
    obtain ⟨fresh, distinct⟩ := List.nodup_cons.mp distinct
    by_cases holds : p x
    · rw [List.filter_cons_of_pos holds, List.length_cons, List.take_succ_cons] at counted
      refine List.pairwise_cons.mpr ⟨fun _ _ _ => holds, ih distinct fun y member => ?_⟩
      obtain same | kept := List.mem_cons.mp (counted y (List.mem_cons_of_mem x member))
      · exact absurd (same ▸ List.mem_of_mem_filter member) fresh
      · exact kept
    · rw [List.filter_cons_of_neg holds] at counted
      -- x takes one of the places, so that what satisfies p no longer finds room behind it
      have none_ : l.filter p = [] := by
        cases count : (l.filter p).length with
        | zero => exact List.length_eq_zero_iff.mp count
        | succ k =>
          rw [count, List.take_succ_cons] at counted
          have inside : l.filter p ⊆ l.take k := by
            intro y member
            obtain same | kept := List.mem_cons.mp (counted y member)
            · exact absurd (same ▸ List.mem_of_mem_filter member) fresh
            · exact kept
          have room := (List.subperm_of_subset (distinct.filter p) inside).length_le
          have short := List.length_take_le k l
          omega
      have never := List.filter_eq_nil_iff.mp none_
      refine List.pairwise_cons.mpr ⟨fun y member later => absurd later (never y member), ?_⟩
      exact List.pairwise_of_forall_mem_list fun _ _ y member later => absurd later (never y member)

end Counting

theorem cpus_nodup (count : Nat) : (cpus count).Nodup := (List.nodup_finRange 16).sublist (List.take_sublist _ _)

theorem cpus_take {count k : Nat} (few : k ≤ (cpus count).length) : (cpus count).take k = cpus k := by
  unfold cpus at few ⊢
  rw [List.length_take] at few
  rw [List.take_take, min_eq_left (by omega)]

/-! ### The three functions together -/

/-- The CPUs for which `perf_event_open` is called. -/
def tried (online perfMapFd : Int) : List Cpu := if perfMapFd < 0 then [] else cpus (triedCpus online)

/-- The loader with the status that `bpf_loader_init` hands over. -/
def started (socketFd perfMapFd bpfProgFd : Int) : Loader :=
  { status := { socketFd := socketFd, perfMapFd := perfMapFd, bpfProgFd := bpfProgFd, useBpf := true } }

/-- No CPU was set up after one that failed. -/
def NoGap (answers : Cpu → Answer) (tried : List Cpu) : Prop :=
  tried.Pairwise fun earlier later => (answers later).isRing → (answers earlier).isRing

def Answer.releases (pageSize : Nat) : Answer → List SystemCall
  | ring fd address => [.munmap address (65 * pageSize), .close fd]
  | _ => []

def closes (fd : Int) : List SystemCall := if 0 ≤ fd then [.close fd] else []

/-- The rings that were set up are all read, and `bpf_loader_cleanup` gives back each of them, so that nothing is left of
what was opened and mapped, and changes no other entry. After that it closes the socket and the program. -/
structure RingsKept (pageSize : Nat) (answers : Cpu → Answer) (setUp : List Cpu) (loader : Loader) : Prop where
  visits : ∀ cpu ∈ setUp, cpu ∈ visited loader.status
  calls : (bpfLoaderCleanup pageSize loader).calls =
    loader.calls ++ (setUp.flatMap fun cpu => (answers cpu).releases pageSize) ++
      closes loader.status.socketFd ++ closes loader.status.bpfProgFd
  fds : heldFds (bpfLoaderCleanup pageSize loader).calls = []
  mappings : heldMappings (bpfLoaderCleanup pageSize loader).calls = []
  perfFds : ∀ cpu, (bpfLoaderCleanup pageSize loader).status.perfFds cpu =
    if cpu ∈ setUp then -1 else loader.status.perfFds cpu
  perfMmap : ∀ cpu, (bpfLoaderCleanup pageSize loader).status.perfMmap cpu =
    if cpu ∈ setUp then none else loader.status.perfMmap cpu

theorem createPerfBuffer_setUp (online : Int) (answers : Cpu → Answer) (socketFd perfMapFd bpfProgFd : Int) :
    SetUp answers (tried online perfMapFd)
      (createPerfBuffer online answers (started socketFd perfMapFd bpfProgFd)).2 := by
  have start : SetUp answers [] { started socketFd perfMapFd bpfProgFd with
      status := { (started socketFd perfMapFd bpfProgFd).status with perfPageCnt := 64, nrCpus := 0 } } :=
    ⟨rfl, fun _ => rfl, fun _ => rfl, rfl, rfl, rfl⟩
  unfold createPerfBuffer tried
  by_cases missing : perfMapFd < 0
  · rw [if_pos missing]
    exact (if_pos missing : (if perfMapFd < 0 then _ else _) = _) ▸ start
  · rw [if_neg missing]
    exact (if_neg missing : (if perfMapFd < 0 then _ else _) = _) ▸ foldl_setUpCpu start (cpus_nodup _)

theorem closeRest (loader : Loader) :
    (closeProg (closeSocket loader)).calls =
        loader.calls ++ closes loader.status.socketFd ++ closes loader.status.bpfProgFd ∧
      (closeProg (closeSocket loader)).status.perfFds = loader.status.perfFds ∧
      (closeProg (closeSocket loader)).status.perfMmap = loader.status.perfMmap := by
  unfold closeProg closeSocket closes
  by_cases socket : 0 ≤ loader.status.socketFd <;> by_cases prog : 0 ≤ loader.status.bpfProgFd <;>
    simp [socket, prog]

theorem cleanup_released (pageSize : Nat) (loader : Loader) :
    ∃ after, Released pageSize loader (cpus loader.status.nrCpus) after ∧
      (bpfLoaderCleanup pageSize loader).calls =
        after.calls ++ closes loader.status.socketFd ++ closes loader.status.bpfProgFd ∧
      (bpfLoaderCleanup pageSize loader).status.perfFds = after.status.perfFds ∧
      (bpfLoaderCleanup pageSize loader).status.perfMmap = after.status.perfMmap := by
  have released := foldl_releaseCpu pageSize loader (cpus_nodup loader.status.nrCpus)
  obtain ⟨calls, perfFds, perfMmap⟩ := closeRest ((cpus loader.status.nrCpus).foldl (releaseCpu pageSize) loader)
  rw [released.socketFd, released.bpfProgFd] at calls
  exact ⟨_, released, calls, perfFds, perfMmap⟩

/-- Closing what is held, in whatever order, leaves nothing. -/
theorem foldl_holdFd_releases (pageSize : Nat) {answers : Cpu → Answer} {setUp : List Cpu}
    (isRing : ∀ cpu ∈ setUp, (answers cpu).isRing) {held : List Int}
    (holds : held.Perm (setUp.map fun cpu => (answers cpu).fd)) :
    (setUp.flatMap fun cpu => (answers cpu).releases pageSize).foldl holdFd held = [] := by
  induction setUp generalizing held with
  | nil => exact holds.eq_nil
  | cons cpu setUp ih =>
    obtain ⟨here, isRing⟩ := List.forall_mem_cons.mp isRing
    rw [List.flatMap_cons, List.foldl_append]
    cases answer : answers cpu <;> rw [answer] at here <;> try exact absurd here Bool.false_ne_true
    rename_i fd address
    rw [List.map_cons, answer] at holds
    apply ih isRing
    have erased := holds.erase (fd : Int)
    rw [Answer.fd, List.erase_cons_head] at erased
    exact erased

theorem foldl_holdMapping_releases (pageSize : Nat) {answers : Cpu → Answer} {setUp : List Cpu} {held : List Nat}
    (holds : held.Perm (setUp.filterMap fun cpu => (answers cpu).address)) :
    (setUp.flatMap fun cpu => (answers cpu).releases pageSize).foldl holdMapping held = [] := by
  induction setUp generalizing held with
  | nil => exact holds.eq_nil
  | cons cpu setUp ih =>
    rw [List.flatMap_cons, List.foldl_append]
    cases answer : answers cpu <;> rw [List.filterMap_cons, answer] at holds <;> try exact ih holds
    rename_i fd address
    apply ih
    have erased := holds.erase address
    rw [Answer.address, List.erase_cons_head] at erased
    exact erased

theorem holdFd_closes (fd : Int) : (closes fd).foldl holdFd [] = [] := by
  unfold closes
  split <;> rfl

theorem holdMapping_closes (held : List Nat) (fd : Int) : (closes fd).foldl holdMapping held = held := by
  unfold closes
  split <;> rfl

section Kept

variable {answers : Cpu → Answer} {tries : List Cpu} {loader : Loader}

theorem SetUp.open_iff (setUp : SetUp answers tries loader) (cpu : Cpu) :
    0 ≤ loader.status.perfFds cpu ∧ (loader.status.perfMmap cpu).isSome ↔ cpu ∈ rings answers tries := by
  rw [setUp.perfFds, setUp.perfMmap, rings, List.mem_filter]
  by_cases member : cpu ∈ tries
  · rw [if_pos member, if_pos member]
    cases answers cpu <;> simp [Answer.fd, Answer.address, Answer.isRing, member]
  · simp [member]

theorem SetUp.releaseCalls_ring (setUp : SetUp answers tries loader) (pageSize : Nat) {cpu : Cpu}
    (ring : cpu ∈ rings answers tries) :
    releaseCalls pageSize loader.status cpu = (answers cpu).releases pageSize := by
  obtain ⟨member, isRing⟩ := List.mem_filter.mp ring
  unfold releaseCalls
  rw [setUp.perfFds, setUp.perfMmap, setUp.perfPageCnt, if_pos member, if_pos member]
  cases answer : answers cpu <;> simp_all [Answer.fd, Answer.address, Answer.isRing, Answer.releases]

variable {count : Nat}

/-- The first `nr_cpus` of the CPUs that were tried. -/
theorem SetUp.cpus_nrCpus (setUp : SetUp answers (cpus count) loader) :
    cpus loader.status.nrCpus = (cpus count).take (rings answers (cpus count)).length := by
  rw [setUp.nrCpus]
  exact (cpus_take (List.length_filter_le _ _)).symm

theorem SetUp.noGap_of_visits (setUp : SetUp answers (cpus count) loader)
    (visits : ∀ cpu ∈ rings answers (cpus count), cpu ∈ visited loader.status) : NoGap answers (cpus count) := by
  apply pairwise_of_counted (cpus_nodup count)
  intro cpu ring
  obtain ⟨member, -⟩ := List.mem_filter.mp (visits cpu ring)
  rw [setUp.cpus_nrCpus] at member
  exact member

theorem SetUp.kept_of_noGap (setUp : SetUp answers (cpus count) loader) (pageSize : Nat)
    (noGap : NoGap answers (cpus count)) : RingsKept pageSize answers (rings answers (cpus count)) loader := by
  have first : cpus loader.status.nrCpus = rings answers (cpus count) :=
    setUp.cpus_nrCpus.trans (filter_eq_take noGap).symm
  obtain ⟨after, released, calls, perfFds, perfMmap⟩ := cleanup_released pageSize loader
  rw [first] at released
  have allCalls : (bpfLoaderCleanup pageSize loader).calls =
      loader.calls ++ ((rings answers (cpus count)).flatMap fun cpu => (answers cpu).releases pageSize) ++
        closes loader.status.socketFd ++ closes loader.status.bpfProgFd := by
    rw [calls, released.calls]
    congr 3
    exact List.flatMap_congr fun cpu ring => setUp.releaseCalls_ring pageSize ring
  constructor
  · intro cpu ring
    rw [visited, first]
    exact List.mem_filter.mpr ⟨ring, decide_eq_true ((setUp.open_iff cpu).mpr ring)⟩
  · exact allCalls
  · have isRing : ∀ cpu ∈ rings answers (cpus count), (answers cpu).isRing := fun cpu ring => (List.mem_filter.mp ring).2
    have closed := foldl_holdFd_releases pageSize isRing
      (List.reverse_perm ((rings answers (cpus count)).map fun cpu => (answers cpu).fd))
    rw [← setUp.fds, heldFds] at closed
    rw [heldFds, allCalls, List.foldl_append, List.foldl_append, List.foldl_append, closed, holdFd_closes, holdFd_closes]
  · have unmapped := foldl_holdMapping_releases pageSize
      (List.reverse_perm ((rings answers (cpus count)).filterMap fun cpu => (answers cpu).address))
    rw [← setUp.mappings, heldMappings] at unmapped
    rw [heldMappings, allCalls, List.foldl_append, List.foldl_append, List.foldl_append, unmapped, holdMapping_closes,
      holdMapping_closes]
  · intro cpu
    rw [perfFds, released.perfFds]
    congr 1
    exact propext (and_iff_left_of_imp fun ring => ((setUp.open_iff cpu).mpr ring).1)
  · intro cpu
    rw [perfMmap, released.perfMmap]

end Kept

/-- Without `perf_map_fd` no CPU is tried. -/
theorem tried_eq_cpus (online perfMapFd : Int) : ∃ count, tried online perfMapFd = cpus count := by
  unfold tried
  split
  · exact ⟨0, rfl⟩
  · exact ⟨_, rfl⟩

theorem rings_kept_iff_noGap (pageSize : Nat) (online : Int) (answers : Cpu → Answer)
    (socketFd perfMapFd bpfProgFd : Int) :
    RingsKept pageSize answers (rings answers (tried online perfMapFd))
        (createPerfBuffer online answers (started socketFd perfMapFd bpfProgFd)).2 ↔
      NoGap answers (tried online perfMapFd) := by
  have setUp := createPerfBuffer_setUp online answers socketFd perfMapFd bpfProgFd
  obtain ⟨count, eq⟩ := tried_eq_cpus online perfMapFd
  rw [eq] at setUp ⊢
  exact ⟨fun kept => setUp.noGap_of_visits kept.visits, setUp.kept_of_noGap pageSize⟩

/-- The first of two CPUs cannot be opened. -/
def secondOnly (cpu : Cpu) : Answer := if cpu = 0 then .noEvent else .ring 7 4096

theorem second_ring_leaked : ¬ RingsKept 4096 secondOnly (rings secondOnly (tried 2 5))
    (createPerfBuffer 2 secondOnly (started 3 5 4)).2 := by
  rintro ⟨visits, -⟩
  have member : (1 : Cpu) ∈ rings secondOnly (tried 2 5) := by decide
  have missed : (1 : Cpu) ∉ visited (createPerfBuffer 2 secondOnly (started 3 5 4)).2.status := by decide
  exact missed (visits 1 member)

end StbEbpf.Probe.Perf
