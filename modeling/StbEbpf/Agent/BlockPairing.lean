import StbEbpf.Agent.PerfHandlers
import StbEbpf.Lib.BoundedMap
import StbEbpf.Lib.PackedKeys

/-!
Which request a completion is paired with, in the analyzer and in the map `block_start` of the BPF program. Both pack
the device and the sector of a request into one key.
-/

namespace StbEbpf.Agent
open CText Run PackedKeys

/-! ### Keys -/

/-- Requests on different sectors or devices have one key if the sectors agree below 2^32 and the device, together with
the rest of the sector, gives the same bits. -/
def SameKey (one two : UInt64 × UInt64) : Prop :=
  one.2.toNat % 2 ^ 32 = two.2.toNat % 2 ^ 32 ∧
    one.1.toNat % 2 ^ 32 ||| one.2.toNat / 2 ^ 32 = two.1.toNat % 2 ^ 32 ||| two.2.toNat / 2 ^ 32

instance (one two : UInt64 × UInt64) : Decidable (SameKey one two) := inferInstanceAs (Decidable (_ ∧ _))

theorem requestKey_toNat (dev sector : UInt64) :
    (BlockIoAnalyzer.requestKey dev sector).toNat =
      (dev.toNat % 2 ^ 32 ||| sector.toNat / 2 ^ 32) * 2 ^ 32 + sector.toNat % 2 ^ 32 := by
  have shifted : (dev <<< 32).toNat = (dev.toNat % 2 ^ 32) <<< 32 := by
    rw [UInt64.toNat_shiftLeft, Nat.shiftLeft_eq, Nat.shiftLeft_eq]
    show dev.toNat * 2 ^ 32 % 2 ^ 64 = dev.toNat % 2 ^ 32 * 2 ^ 32
    omega
  have low : sector.toNat % 2 ^ 32 < 2 ^ 32 := Nat.mod_lt _ (by decide)
  have parts : sector.toNat = (sector.toNat / 2 ^ 32) <<< 32 ||| sector.toNat % 2 ^ 32 := by
    rw [← Nat.shiftLeft_add_eq_or_of_lt low, Nat.shiftLeft_eq]
    omega
  calc (BlockIoAnalyzer.requestKey dev sector).toNat
      = (dev.toNat % 2 ^ 32) <<< 32 ||| sector.toNat := by rw [BlockIoAnalyzer.requestKey, UInt64.toNat_or, shifted]
    _ = (dev.toNat % 2 ^ 32) <<< 32 ||| ((sector.toNat / 2 ^ 32) <<< 32 ||| sector.toNat % 2 ^ 32) := by rw [← parts]
    _ = (dev.toNat % 2 ^ 32 ||| sector.toNat / 2 ^ 32) <<< 32 ||| sector.toNat % 2 ^ 32 := by
      rw [← Nat.or_assoc, Nat.shiftLeft_or_distrib]
    _ = _ := by rw [← Nat.shiftLeft_add_eq_or_of_lt low, Nat.shiftLeft_eq]

theorem requestKey_eq_iff (one two : UInt64 × UInt64) :
    BlockIoAnalyzer.requestKey one.1 one.2 = BlockIoAnalyzer.requestKey two.1 two.2 ↔ SameKey one two := by
  rw [← UInt64.toNat_inj, requestKey_toNat, requestKey_toNat, SameKey]
  have low (sector : UInt64) : sector.toNat % 2 ^ 32 < 2 ^ 32 := Nat.mod_lt _ (by decide)
  have first := low one.2
  have second := low two.2
  constructor
  · intro same
    exact ⟨by omega, by omega⟩
  · rintro ⟨sectors, devices⟩
    rw [sectors, devices]

/-- Below 2^32 the key tells requests apart. -/
theorem SameKey.eq_of_small {one two : UInt64 × UInt64} (same : SameKey one two)
    (first : one.1.toNat < 2 ^ 32 ∧ one.2.toNat < 2 ^ 32) (second : two.1.toNat < 2 ^ 32 ∧ two.2.toNat < 2 ^ 32) :
    one = two := by
  obtain ⟨sectors, devices⟩ := same
  rw [Nat.mod_eq_of_lt first.2, Nat.mod_eq_of_lt second.2] at sectors
  rw [Nat.mod_eq_of_lt first.1, Nat.mod_eq_of_lt second.1, Nat.div_eq_of_lt first.2, Nat.div_eq_of_lt second.2,
    Nat.or_zero, Nat.or_zero] at devices
  exact Prod.ext (UInt64.toNat_inj.mp devices) (UInt64.toNat_inj.mp sectors)

/-! ### The analyzer -/

namespace BlockIoAnalyzer

inductive Call where
  | issue (dev sector size : UInt64) (ts : Int)
  | complete (dev sector : UInt64) (ts : Int)
  deriving DecidableEq, Repr

def Call.request : Call → UInt64 × UInt64
  | issue dev sector .. => (dev, sector)
  | complete dev sector _ => (dev, sector)

def step (a : BlockIoAnalyzer) : Call → BlockIoAnalyzer
  | .issue dev sector size ts => a.recordIssue dev sector size ts
  | .complete dev sector ts => a.recordComplete dev sector ts

def after (calls : List Call) : BlockIoAnalyzer := calls.foldl step {}

def scheme : Scheme (UInt64 × UInt64) UInt64 BlockIoRecord where
  owner := fun record => (record.dev, record.sector)
  pack := fun request => requestKey request.1 request.2
  room := fun _ => true

def Call.action : Call → Action (UInt64 × UInt64) BlockIoRecord
  | issue dev sector size ts => .issue { timestamp := ts, dev, sector, size }
  | complete dev sector _ => .complete (dev, sector)

/-- The record of the last issue of a request, if nothing has completed it. -/
def latest (calls : List Call) (request : UInt64 × UInt64) : Option BlockIoRecord :=
  scheme.latestAfter (calls.map Call.action) request

/-- A completion consumes the record of the latest issue of the same device and sector, or none; a call leaves the
records of other requests alone. -/
structure Paired (before : List Call) (call : Call) : Prop where
  consumed : ∀ dev sector ts, call = .complete dev sector ts → ∀ record,
    (after before).pending.lookup (requestKey dev sector) = some record → latest before (dev, sector) = some record
  others : ∀ record : BlockIoRecord, (record.dev, record.sector) ≠ call.request →
    (after before).pending.lookup (requestKey record.dev record.sector) = some record →
    (after (before ++ [call])).pending.lookup (requestKey record.dev record.sector) = some record

/-- No other request with the same key is outstanding. -/
def Alone (before : List Call) (call : Call) : Prop :=
  ∀ other, other ≠ call.request → SameKey other call.request → latest before other = none

theorem name_action (call : Call) : scheme.name call.action = call.request := by
  cases call <;> rfl

theorem pending_step (a : BlockIoAnalyzer) (call : Call) : (a.step call).pending = scheme.step a.pending call.action := by
  cases call with
  | issue dev sector size ts =>
    have unlimited : scheme.room a.pending = true := rfl
    rw [step, Call.action, Scheme.step, if_pos (Or.inr unlimited)]
    rfl
  | complete dev sector ts =>
    rw [step, Call.action, Scheme.step, recordComplete]
    dsimp only
    split
    · rename_i missing
      exact (Tally.erase_missing missing).symm
    · rfl

theorem pending_after (calls : List Call) : (after calls).pending = scheme.tableAfter (calls.map Call.action) := by
  induction calls using List.reverseRecOn with
  | nil => rfl
  | append_singleton calls call ih =>
    rw [List.map_append, List.map_singleton, Scheme.tableAfter_concat, ← ih, ← pending_step]
    simp [after]

theorem paired_iff_sound (before : List Call) (call : Call) :
    Paired before call ↔ scheme.Sound (before.map Call.action) call.action := by
  have follow : (before ++ [call]).map Call.action = before.map Call.action ++ [call.action] := List.map_append
  constructor
  · rintro ⟨consumed, others⟩
    constructor
    · intro name completes record found
      cases call with
      | issue dev sector size ts => cases completes
      | complete dev sector ts =>
        cases completes
        rw [← pending_after] at found
        exact consumed dev sector ts rfl record found
    · intro record differs found
      rw [name_action] at differs
      rw [← pending_after] at found
      rw [← follow, ← pending_after]
      exact others record differs found
  · rintro ⟨paired, untouched⟩
    constructor
    · rintro dev sector ts rfl record found
      rw [pending_after] at found
      exact paired (dev, sector) rfl record found
    · intro record differs found
      rw [← name_action] at differs
      rw [pending_after] at found
      rw [pending_after, follow]
      exact untouched record differs found

theorem alone_iff_lone (before : List Call) (call : Call) :
    Alone before call ↔ scheme.Lone (before.map Call.action) call.action := by
  unfold Alone Scheme.Lone
  rw [name_action]
  refine forall_congr' fun other => imp_congr_right fun _ => ?_
  exact imp_congr_left (requestKey_eq_iff other call.request).symm

theorem each_paired_iff (calls : List Call) : Each Paired calls ↔ Each Alone calls := by
  have sound := scheme.each_sound_iff_lone (fun _ => rfl) (calls.map Call.action)
  rw [each_map, each_map] at sound
  rw [each_congr paired_iff_sound, each_congr alone_iff_lone]
  exact sound

end BlockIoAnalyzer

/-! ### The BPF program -/

namespace BlockTrace

inductive Call where
  | issue (task : Task) (dev : UInt32) (sector : UInt64) (nrSector : UInt32) (residue : BpfEvent)
  | complete (task : Task) (dev : UInt32) (sector : UInt64) (residue : BpfEvent)

def Call.request : Call → UInt32 × UInt64
  | issue _ dev sector .. => (dev, sector)
  | complete _ dev sector _ => (dev, sector)

/-- The map after one of the tracepoints. -/
def step (starts : BlockStart) : Call → BlockStart
  | .issue task dev sector nrSector residue => (tracepointBlockRqIssue task dev sector nrSector starts residue).2
  | .complete task dev sector residue => (tracepointBlockRqComplete task dev sector starts residue).2

def startsAfter (calls : List Call) : BlockStart := calls.foldl step ∅

/-- An entry of the map with the request that wrote it, which the map itself does not have. -/
structure Started where
  dev : UInt32
  sector : UInt64
  start : UInt64
  deriving DecidableEq, Repr

def key (request : UInt32 × UInt64) : UInt64 := BlockIoAnalyzer.requestKey request.1.toUInt64 request.2

def scheme : Scheme (UInt32 × UInt64) UInt64 Started where
  owner := fun entry => (entry.dev, entry.sector)
  pack := key
  room := fun entries => entries.keys.length < 8192

def Call.action : Call → Action (UInt32 × UInt64) Started
  | issue task dev sector .. => .issue { dev, sector, start := task.now }
  | complete _ dev sector _ => .complete (dev, sector)

def entriesAfter (calls : List Call) : GoMap UInt64 Started := scheme.tableAfter (calls.map Call.action)

def latest (calls : List Call) (request : UInt32 × UInt64) : Option Started :=
  scheme.latestAfter (calls.map Call.action) request

/-- The entries are those of the map. -/
def Matches (starts : BlockStart) (entries : GoMap UInt64 Started) : Prop :=
  ∀ key, starts.lookup key = (entries.lookup key).map Started.start

theorem Matches.mem_iff {starts : BlockStart} {entries : GoMap UInt64 Started} (same : Matches starts entries)
    (key : UInt64) : key ∈ starts ↔ key ∈ entries := by
  rw [← AList.lookup_isSome, ← AList.lookup_isSome, same key, Option.isSome_map]

theorem matches_step {starts : BlockStart} {entries : GoMap UInt64 Started} (same : Matches starts entries) (call : Call) :
    Matches (step starts call) (scheme.step entries call.action) := by
  intro at_
  cases call with
  | issue task dev sector nrSector residue =>
    have size : starts.keys.length = entries.keys.length := BoundedMap.keys_length_eq same.mem_iff
    have taken : (key (dev, sector) ∈ starts ∨ starts.keys.length < 8192) ↔
        (key (dev, sector) ∈ entries ∨ scheme.room entries = true) := by
      rw [same.mem_iff, size, scheme, decide_eq_true_iff]
    have mapped : step starts (.issue task dev sector nrSector residue) =
        if key (dev, sector) ∈ starts ∨ starts.keys.length < 8192 then starts.insert (key (dev, sector)) task.now
        else starts := rfl
    have entered : scheme.step entries (Call.issue task dev sector nrSector residue).action =
        if key (dev, sector) ∈ entries ∨ scheme.room entries = true then
          entries.insert (key (dev, sector)) { dev, sector, start := task.now }
        else entries := rfl
    rw [mapped, entered]
    by_cases room : key (dev, sector) ∈ starts ∨ starts.keys.length < 8192
    · rw [if_pos room, if_pos (taken.mp room)]
      by_cases here : at_ = key (dev, sector)
      · subst here
        rw [AList.lookup_insert, AList.lookup_insert]
        rfl
      · rw [AList.lookup_insert_ne here, AList.lookup_insert_ne here]
        exact same at_
    · rw [if_neg room, if_neg (mt taken.mpr room)]
      exact same at_
  | complete task dev sector residue =>
    have erased : step starts (.complete task dev sector residue) = starts.erase (key (dev, sector)) := by
      rw [step, tracepointBlockRqComplete]
      split
      · rename_i missing
        exact (Tally.erase_missing missing).symm
      · rfl
    have left : scheme.step entries (Call.complete task dev sector residue).action = entries.erase (key (dev, sector)) := rfl
    rw [erased, left]
    by_cases here : at_ = key (dev, sector)
    · subst here
      rw [AList.lookup_erase, AList.lookup_erase]
      rfl
    · rw [AList.lookup_erase_ne here, AList.lookup_erase_ne here]
      exact same at_

theorem starts_match (calls : List Call) : Matches (startsAfter calls) (entriesAfter calls) := by
  induction calls using List.reverseRecOn with
  | nil => exact fun _ => rfl
  | append_singleton calls call ih =>
    have next := matches_step ih call
    rw [entriesAfter, ← Scheme.tableAfter_concat] at next
    rw [startsAfter, List.foldl_append, entriesAfter, List.map_append]
    exact next

/-- The start that a completion takes its latency from was written by the latest issue of the same device and sector,
and a call leaves the starts of other requests alone. -/
structure Paired (before : List Call) (call : Call) : Prop where
  consumed : ∀ task dev sector residue, call = .complete task dev sector residue → ∀ start,
    (startsAfter before).lookup (key (dev, sector)) = some start →
    ∃ entry, (entriesAfter before).lookup (key (dev, sector)) = some entry ∧ entry.start = start ∧
      latest before (dev, sector) = some entry
  others : ∀ entry : Started, (entry.dev, entry.sector) ≠ call.request →
    (entriesAfter before).lookup (key (entry.dev, entry.sector)) = some entry →
    (entriesAfter (before ++ [call])).lookup (key (entry.dev, entry.sector)) = some entry

/-- The map has no start of another request under the same key. -/
def Alone (before : List Call) (call : Call) : Prop :=
  ∀ other, other ≠ call.request → SameKey (other.1.toUInt64, other.2) (call.request.1.toUInt64, call.request.2) →
    ¬ ∃ entry, (entriesAfter before).lookup (key other) = some entry ∧ (entry.dev, entry.sector) = other

theorem name_action (call : Call) : scheme.name call.action = call.request := by
  cases call <;> rfl

theorem paired_iff_sound (before : List Call) (call : Call) :
    Paired before call ↔ scheme.Sound (before.map Call.action) call.action := by
  have follow : (before ++ [call]).map Call.action = before.map Call.action ++ [call.action] := List.map_append
  constructor
  · rintro ⟨consumed, others⟩
    constructor
    · intro name completes entry found
      cases call with
      | issue task dev sector nrSector residue => cases completes
      | complete task dev sector residue =>
        cases completes
        have start := starts_match before (key (dev, sector))
        replace found : (entriesAfter before).lookup (key (dev, sector)) = some entry := found
        rw [found] at start
        obtain ⟨written, there, -, newest⟩ := consumed task dev sector residue rfl entry.start start
        cases found.symm.trans there
        exact newest
    · intro entry differs found
      rw [name_action] at differs
      rw [← follow]
      exact others entry differs found
  · rintro ⟨paired, untouched⟩
    constructor
    · rintro task dev sector residue rfl start found
      rw [starts_match before] at found
      obtain ⟨entry, there, rfl⟩ := Option.map_eq_some_iff.mp found
      exact ⟨entry, there, rfl, paired (dev, sector) rfl entry there⟩
    · intro entry differs found
      rw [← name_action] at differs
      rw [entriesAfter, follow]
      exact untouched entry differs found

theorem alone_iff_clear (before : List Call) (call : Call) :
    Alone before call ↔ scheme.Clear (before.map Call.action) call.action := by
  unfold Alone Scheme.Clear
  rw [name_action]
  refine forall_congr' fun other => imp_congr_right fun _ => ?_
  exact imp_congr_left (requestKey_eq_iff (other.1.toUInt64, other.2) (call.request.1.toUInt64, call.request.2)).symm

theorem each_paired_iff (calls : List Call) : Each Paired calls ↔ Each Alone calls := by
  have sound := scheme.each_sound_iff_clear (calls.map Call.action)
  rw [each_map, each_map] at sound
  rw [each_congr paired_iff_sound, each_congr alone_iff_clear]
  exact sound

end BlockTrace

/-! ### Small numbers -/

theorem latest_issued {calls : List BlockIoAnalyzer.Call} {request : UInt64 × UInt64} {record : BlockIoRecord}
    (found : BlockIoAnalyzer.latest calls request = some record) : ∃ call ∈ calls, call.request = request := by
  induction calls using List.reverseRecOn with
  | nil => cases found
  | append_singleton calls call ih =>
    by_cases own : request = call.request
    · exact ⟨call, by simp, own.symm⟩
    · rw [BlockIoAnalyzer.latest, List.map_append, List.map_singleton, Scheme.latestAfter_concat,
        Scheme.note_other _ (by rwa [BlockIoAnalyzer.name_action])] at found
      obtain ⟨earlier, member, same⟩ := ih found
      exact ⟨earlier, List.mem_append_left _ member, same⟩

/-- Devices and sectors below 2^32 are never mixed up. -/
theorem small_requests_paired {calls : List BlockIoAnalyzer.Call}
    (small : ∀ call ∈ calls, call.request.1.toNat < 2 ^ 32 ∧ call.request.2.toNat < 2 ^ 32) :
    Each BlockIoAnalyzer.Paired calls := by
  rw [BlockIoAnalyzer.each_paired_iff]
  rintro before call after rfl other differs same
  cases found : BlockIoAnalyzer.latest before other with
  | none => rfl
  | some record =>
    obtain ⟨earlier, member, rfl⟩ := latest_issued found
    have first := small earlier (List.mem_append_left _ member)
    have second := small call (List.mem_append_right _ List.mem_cons_self)
    exact absurd (same.eq_of_small first second) differs

/-! ### Both -/

/-- Completions are paired with their own requests exactly as long as no call is made while another request is
outstanding under its key. -/
theorem completions_paired_iff (calls : List BlockIoAnalyzer.Call) (traced : List BlockTrace.Call) :
    (Each BlockIoAnalyzer.Paired calls ↔ Each BlockIoAnalyzer.Alone calls) ∧
      (Each BlockTrace.Paired traced ↔ Each BlockTrace.Alone traced) :=
  ⟨BlockIoAnalyzer.each_paired_iff calls, BlockTrace.each_paired_iff traced⟩

/-- A request on device 1, and a completion of sector 2^32 on device 0. -/
def strayCompletion : List BlockIoAnalyzer.Call := [.issue 1 0 4096 5, .complete 0 0x100000000 9]

theorem stray_completion_pairs : ¬ Each BlockIoAnalyzer.Paired strayCompletion := by
  intro each
  have paired := each [.issue 1 0 4096 5] (.complete 0 0x100000000 9) [] rfl
  have newest := paired.consumed 0 0x100000000 9 rfl { timestamp := 5, dev := 1, sector := 0, size := 4096 } (by decide)
  exact absurd newest (by decide)

end StbEbpf.Agent
