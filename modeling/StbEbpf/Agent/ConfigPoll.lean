import StbEbpf.Agent.Workers

/-!
The configuration poll of `cmd/probe/main.go` and the table it reads. The front end inserts rows at any time; an
iteration of the poll is one SELECT, then for each selected row an UPDATE and the execution of its command.
-/

namespace StbEbpf.Agent
open Run

/-- A row of `probe_config`; `ι` are the probe ids. -/
structure ConfigRow (ι : Type) where
  probeId : ι
  command : String
  createdAt : Nat
  applied : Bool := false
  deriving DecidableEq, Repr

/-- Rows are known by their place in the order of insertion. `rows` are those of the current iteration that are still
to be handled, `marked` says whether the UPDATE for the first of them has been made; `executed` is history. -/
structure ConfigPoll (ι : Type) where
  table : List (ConfigRow ι) := []
  collectors : List Collector
  contexts : Nat := 1
  polling : Bool := true
  rows : List Nat := []
  marked : Bool := false
  executed : List Nat := []
  deriving DecidableEq, Repr

inductive PollStep (ι : Type) where
  | insert (probeId : ι) (command : String) (createdAt : Nat)
  | select (chosen : List Nat)
  | update
  | execute (opens : Bool)
  | handleStop
  deriving DecidableEq, Repr

namespace ConfigPoll
variable {ι : Type}

section
variable [DecidableEq ι] (probeId : ι)

def createdAt (s : ConfigPoll ι) (i : Nat) : Nat := (s.table[i]?.map ConfigRow.createdAt).getD 0

/-- `WHERE applied = 0 AND probe_id = …` -/
def Unapplied (row : ConfigRow ι) : Prop := row.applied = false ∧ row.probeId = probeId

instance (row : ConfigRow ι) : Decidable (Unapplied probeId row) := inferInstanceAs (Decidable (_ ∧ _))

def pending (s : ConfigPoll ι) : List Nat :=
  (List.range s.table.length).filter fun i => ∃ row ∈ s.table[i]?, Unapplied probeId row

/-- `ORDER BY created_at LIMIT 10`; the order of equal times is left to the database. -/
def Selects (s : ConfigPoll ι) (chosen : List Nat) : Prop :=
  chosen.Nodup ∧ (∀ i ∈ chosen, i ∈ s.pending probeId) ∧ chosen.length = min 10 (s.pending probeId).length ∧
    chosen.Pairwise (fun i j => s.createdAt i ≤ s.createdAt j) ∧
    ∀ i ∈ chosen, ∀ j ∈ s.pending probeId, j ∉ chosen → s.createdAt i ≤ s.createdAt j

instance (s : ConfigPoll ι) (chosen : List Nat) : Decidable (s.Selects probeId chosen) :=
  inferInstanceAs (Decidable (_ ∧ _ ∧ _ ∧ _ ∧ _))

/-- The UPDATE names the probe, not the row. -/
def markAll (table : List (ConfigRow ι)) : List (ConfigRow ι) :=
  table.map fun row => if Unapplied probeId row then { row with applied := true } else row

/-- The switch on the command, and whether a `Stop` panicked in it. -/
def perform (s : ConfigPoll ι) (opens : Bool) (command : String) : ConfigPoll ι × Bool :=
  if command = "stop" then
    let (collectors, panicked) := managerStop s.collectors
    ({ s with collectors }, panicked)
  else if command = "start" then
    ({ s with collectors := managerStart opens s.contexts s.collectors, contexts := s.contexts + 1 }, false)
  else if command = "restart" then
    match managerStop s.collectors with
    | (collectors, true) => ({ s with collectors }, true)
    | (collectors, false) =>
      ({ s with collectors := managerStart opens s.contexts collectors, contexts := s.contexts + 1 }, false)
  else (s, false)

/-- A panic ends the poll, and with it the rows behind. -/
def executeRow (s : ConfigPoll ι) (opens : Bool) (i : Nat) (rest : List Nat) (command : String) : ConfigPoll ι :=
  match { s with rows := rest, marked := false, executed := s.executed ++ [i] }.perform opens command with
  | (s, true) => { s with polling := false, rows := [] }
  | (s, false) => s

def step (s : ConfigPoll ι) : PollStep ι → ConfigPoll ι
  | .insert probeId command createdAt => { s with table := s.table ++ [{ probeId, command, createdAt }] }
  | .select chosen =>
    if s.polling ∧ s.rows = [] ∧ s.Selects probeId chosen then { s with rows := chosen, marked := false } else s
  | .update =>
    if s.polling ∧ s.rows ≠ [] ∧ ¬ s.marked then { s with table := markAll probeId s.table, marked := true } else s
  | .execute opens =>
    match s.rows with
    | [] => s
    | i :: rest =>
      match s.table[i]? with
      | none => s
      | some row => if s.polling ∧ s.marked then s.executeRow opens i rest row.command else s
  | .handleStop => { s with collectors := (managerStop s.collectors).1 }

def run (s : ConfigPoll ι) (steps : List (PollStep ι)) : ConfigPoll ι := steps.foldl (step probeId) s

/-- A row of this probe that is marked applied was executed, or is one that the current iteration goes on to execute;
no row was executed twice. -/
structure Faithful (s : ConfigPoll ι) : Prop where
  applied : ∀ i row, s.table[i]? = some row → row.probeId = probeId → row.applied → i ∈ s.executed ∨ i ∈ s.rows
  once : s.executed.Nodup

/-! ### When nothing is lost -/

/-- An UPDATE finds no row that its iteration does not execute, and no executed command panics. -/
def StepOk (s : ConfigPoll ι) : PollStep ι → Prop
  | .insert _ _ _ | .select _ | .handleStop => True
  | .update => s.rows ≠ [] → ∀ i ∈ s.pending probeId, i ∈ s.rows
  | .execute _ => ∀ i ∈ s.rows.head?, ∀ row ∈ s.table[i]?, row.command = "stop" ∨ row.command = "restart" →
      ∀ c ∈ s.collectors, c.StopOk

instance (s : ConfigPoll ι) : (step : PollStep ι) → Decidable (s.StepOk probeId step)
  | .insert _ _ _ | .select _ | .handleStop => isTrue trivial
  | .update => inferInstanceAs (Decidable (_ → _))
  | .execute _ => inferInstanceAs (Decidable (∀ i ∈ s.rows.head?, _))

end

section
variable {s : ConfigPoll ι} {probeId : ι}

theorem perform_calm (opens : Bool) {command : String}
    (ok : command = "stop" ∨ command = "restart" → ∀ c ∈ s.collectors, c.StopOk) :
    ∃ collectors contexts, s.perform opens command = ({ s with collectors, contexts }, false) := by
  unfold perform
  split
  · rename_i stop
    rw [managerStop_halts (ok (.inl stop))]
    exact ⟨_, _, rfl⟩
  · split
    · exact ⟨_, _, rfl⟩
    · split
      · rename_i restart
        rw [managerStop_halts (ok (.inr restart))]
        exact ⟨_, _, rfl⟩
      · exact ⟨_, _, rfl⟩

structure Sound (probeId : ι) (s : ConfigPoll ι) : Prop extends Faithful probeId s where
  distinct : s.rows.Nodup
  apart : ∀ i ∈ s.rows, i ∉ s.executed
  ours : ∀ i ∈ s.rows, ∃ row, s.table[i]? = some row ∧ row.probeId = probeId ∧ (s.marked → row.applied)
  done : ∀ i ∈ s.executed, ∃ row, s.table[i]? = some row ∧ row.applied

theorem insert_sound (sound : s.Sound probeId) (row : ConfigRow ι) (fresh : row.applied = false) :
    Sound probeId { s with table := s.table ++ [row] } := by
  have kept {i : Nat} {old : ConfigRow ι} (found : s.table[i]? = some old) : (s.table ++ [row])[i]? = some old := by
    obtain ⟨bound, -⟩ := List.getElem?_eq_some_iff.mp found
    rw [List.getElem?_append_left bound, found]
  refine ⟨⟨fun i new found ours applied => ?_, sound.once⟩, sound.distinct, sound.apart, fun i member => ?_,
    fun i member => ?_⟩
  · rcases Nat.lt_or_ge i s.table.length with before | after
    · rw [List.getElem?_append_left before] at found
      exact sound.applied i new found ours applied
    · rw [List.getElem?_append_right after] at found
      obtain rfl := List.mem_singleton.mp (List.mem_of_getElem? found)
      rw [fresh] at applied
      cases applied
  · obtain ⟨old, found, rest⟩ := sound.ours i member
    exact ⟨old, kept found, rest⟩
  · obtain ⟨old, found, applied⟩ := sound.done i member
    exact ⟨old, kept found, applied⟩

theorem execute_sound (sound : s.Sound probeId) {i : Nat} {rest : List Nat} {row : ConfigRow ι} (opens : Bool)
    (rows : s.rows = i :: rest) (found : s.table[i]? = some row) (marked : s.marked)
    (ok : row.command = "stop" ∨ row.command = "restart" → ∀ c ∈ s.collectors, c.StopOk) :
    (s.executeRow opens i rest row.command).Sound probeId := by
  obtain ⟨collectors, contexts, calm⟩ := perform_calm
    (s := { s with rows := rest, marked := false, executed := s.executed ++ [i] }) opens ok
  have head : i ∈ s.rows := by simp [rows]
  have tail : ∀ j ∈ rest, j ∈ s.rows := fun j member => by simp [rows, member]
  have distinct := sound.distinct
  rw [rows] at distinct
  unfold executeRow
  rw [calm]
  refine ⟨⟨fun j other read ours applied => ?_, ?_⟩, (List.nodup_cons.mp distinct).2, fun j member executed => ?_,
    fun j member => ?_, fun j member => ?_⟩
  · rcases sound.applied j other read ours applied with executed | waiting
    · exact .inl (List.mem_append_left _ executed)
    · rw [rows] at waiting
      rcases List.mem_cons.mp waiting with rfl | later
      · exact .inl (List.mem_append_right _ (List.mem_singleton_self _))
      · exact .inr later
  · refine List.nodup_append.mpr ⟨sound.once, by simp, ?_⟩
    rintro j executed k single rfl
    obtain rfl := List.mem_singleton.mp single
    exact sound.apart _ head executed
  · rcases List.mem_append.mp executed with before | single
    · exact sound.apart j (tail j member) before
    · obtain rfl := List.mem_singleton.mp single
      exact (List.nodup_cons.mp distinct).1 member
  · obtain ⟨other, read, ours, -⟩ := sound.ours j (tail j member)
    exact ⟨other, read, ours, by simp⟩
  · rcases List.mem_append.mp member with before | single
    · exact sound.done j before
    · obtain rfl := List.mem_singleton.mp single
      obtain ⟨same, read, -, applied⟩ := sound.ours _ head
      exact ⟨same, read, applied marked⟩

end

section
variable [DecidableEq ι] {probeId : ι} {s : ConfigPoll ι}

theorem mem_pending {i : Nat} :
    i ∈ s.pending probeId ↔ ∃ row, s.table[i]? = some row ∧ Unapplied probeId row := by
  unfold pending
  rw [List.mem_filter, List.mem_range, decide_eq_true_iff]
  constructor
  · rintro ⟨-, row, found, unapplied⟩
    exact ⟨row, found, unapplied⟩
  · rintro ⟨row, found, unapplied⟩
    obtain ⟨bound, -⟩ := List.getElem?_eq_some_iff.mp found
    exact ⟨bound, row, found, unapplied⟩

theorem markAll_some {table : List (ConfigRow ι)} {i : Nat} {row : ConfigRow ι} (found : table[i]? = some row) :
    (markAll probeId table)[i]? = some (if Unapplied probeId row then { row with applied := true } else row) := by
  unfold markAll
  rw [List.getElem?_map, found, Option.map_some]

theorem markAll_applied (probeId : ι) {table : List (ConfigRow ι)} {i : Nat} {row : ConfigRow ι} (found : table[i]? = some row)
    (which : row.applied ∨ row.probeId = probeId) :
    ∃ after, (markAll probeId table)[i]? = some after ∧ after.probeId = row.probeId ∧ after.applied := by
  refine ⟨_, markAll_some found, ?_⟩
  split
  · exact ⟨rfl, rfl⟩
  · rename_i other
    refine ⟨rfl, ?_⟩
    by_contra unapplied
    exact other ⟨by simpa using unapplied, which.resolve_left unapplied⟩

theorem markAll_before {table : List (ConfigRow ι)} {i : Nat} {after : ConfigRow ι}
    (found : (markAll probeId table)[i]? = some after) :
    ∃ row, table[i]? = some row ∧ after.probeId = row.probeId ∧ (after = row ∨ Unapplied probeId row) := by
  unfold markAll at found
  rw [List.getElem?_map] at found
  obtain ⟨row, before, rfl⟩ := Option.map_eq_some_iff.mp found
  refine ⟨row, before, ?_⟩
  split
  · rename_i unapplied
    exact ⟨rfl, .inr unapplied⟩
  · exact ⟨rfl, .inl rfl⟩

theorem select_sound (sound : s.Sound probeId) {chosen : List Nat} (idle : s.rows = [])
    (selects : s.Selects probeId chosen) : Sound probeId { s with rows := chosen, marked := false } := by
  obtain ⟨distinct, within, -⟩ := selects
  refine ⟨⟨fun i row found ours applied => ?_, sound.once⟩, distinct, fun i member executed => ?_, fun i member => ?_,
    sound.done⟩
  · rcases sound.applied i row found ours applied with executed | waiting
    · exact .inl executed
    · rw [idle] at waiting
      cases waiting
  · obtain ⟨row, found, unapplied, -⟩ := mem_pending.mp (within i member)
    obtain ⟨same, read, applied⟩ := sound.done i executed
    rw [found] at read
    obtain rfl := Option.some.inj read
    rw [unapplied] at applied
    cases applied
  · obtain ⟨row, found, -, ours⟩ := mem_pending.mp (within i member)
    exact ⟨row, found, ours, by simp⟩

theorem update_sound (sound : s.Sound probeId) (all : ∀ i ∈ s.pending probeId, i ∈ s.rows) :
    Sound probeId { s with table := markAll probeId s.table, marked := true } := by
  refine ⟨⟨fun i after found ours applied => ?_, sound.once⟩, sound.distinct, sound.apart, fun i member => ?_,
    fun i member => ?_⟩
  · obtain ⟨row, before, same, which⟩ := markAll_before found
    rcases which with rfl | unapplied
    · exact sound.applied i after before ours applied
    · exact .inr (all i (mem_pending.mpr ⟨row, before, unapplied⟩))
  · obtain ⟨row, before, ours, -⟩ := sound.ours i member
    obtain ⟨after, found, same, applied⟩ := markAll_applied probeId before (.inr ours)
    exact ⟨after, found, same.trans ours, fun _ => applied⟩
  · obtain ⟨row, before, applied⟩ := sound.done i member
    obtain ⟨after, found, -, still⟩ := markAll_applied probeId before (.inl applied)
    exact ⟨after, found, still⟩

theorem step_sound (sound : s.Sound probeId) (step : PollStep ι) (ok : s.StepOk probeId step) :
    (s.step probeId step).Sound probeId := by
  cases step with
  | insert other command createdAt => exact insert_sound sound _ rfl
  | select chosen =>
    dsimp only [ConfigPoll.step]
    split
    · rename_i enabled
      exact select_sound sound enabled.2.1 enabled.2.2
    · exact sound
  | update =>
    dsimp only [ConfigPoll.step]
    split
    · rename_i enabled
      exact update_sound sound (ok enabled.2.1)
    · exact sound
  | execute opens =>
    dsimp only [ConfigPoll.step]
    split
    · exact sound
    · rename_i i rest rows
      split
      · exact sound
      · rename_i row found
        split
        · rename_i enabled
          exact execute_sound sound opens rows found enabled.2 (ok i (by simp [rows]) row (by simp [found]))
        · exact sound
  | handleStop => exact ⟨⟨sound.applied, sound.once⟩, sound.distinct, sound.apart, sound.ours, sound.done⟩

end

/-- In every run in which no UPDATE finds a row that its iteration has not selected, and no executed stop or restart
hits a closed channel, every applied row is executed and none twice. -/
theorem applied_commands_executed [DecidableEq ι] (probeId : ι) (collectors : List Collector) (steps : List (PollStep ι))
    (ok : Along (step probeId) (StepOk probeId) { collectors } steps) :
    (run probeId { collectors } steps).Faithful probeId := by
  have start : Sound probeId ({ collectors } : ConfigPoll ι) := by
    refine ⟨⟨?_, ?_⟩, ?_, ?_, ?_, ?_⟩ <;> simp
  exact (foldl_keeps (I := Sound probeId) (fun _ step sound => step_sound sound step) start ok).toFaithful

def freshCollectors : List Collector := (Probe.launch true Probe.defaultCollectors).collectors

def steadyPoll : List (PollStep String) :=
  [.insert "stb" "start" 5, .insert "other" "stop" 6, .insert "stb" "stop" 7, .select [0, 2], .update, .execute true,
   .update, .execute true, .insert "stb" "update_config" 9, .select [3], .update, .execute true]

theorem steady_poll_executes : (run "stb" { collectors := freshCollectors } steadyPoll).Faithful "stb" :=
  applied_commands_executed "stb" freshCollectors steadyPoll (by decide)

def elevenCommands : List (PollStep String) :=
  (List.range 11).map (.insert "stb" "update_config") ++ [.select (List.range 10), .update]

def lateCommand : List (PollStep String) :=
  [.insert "stb" "start" 5, .select [0], .insert "stb" "stop" 6, .update, .execute true]

-- The eleventh pending command, and one inserted between the SELECT and the UPDATE.
theorem commands_applied_unexecuted :
    ¬ (run "stb" { collectors := freshCollectors } elevenCommands).Faithful "stb" ∧
      ¬ (run "stb" { collectors := freshCollectors } lateCommand).Faithful "stb" := by
  refine ⟨fun faithful => ?_, fun faithful => ?_⟩
  · have applied := faithful.applied 10 ⟨"stb", "update_config", 10, true⟩ (by decide) rfl rfl
    revert applied
    decide
  · have applied := faithful.applied 1 ⟨"stb", "stop", 6, true⟩ (by decide) rfl rfl
    revert applied
    decide

end ConfigPoll

end StbEbpf.Agent
