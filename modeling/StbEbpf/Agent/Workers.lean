import StbEbpf.Agent.Collectors
import StbEbpf.Lib.Run

/-!
The probe process of `cmd/probe/main.go` under start, stop and restart. Commands come from the configuration poll,
from the stop handler and from the shutdown signal, and between them the worker loops take their looks in any order.
-/

namespace StbEbpf.Agent
open Run

def Role.served (readers : List ReaderField) : Role → Bool
  | .read field => field ∈ readers
  | .capture | .flush => true

/-- The loops of a collector that have what they read. A reader that `Init` did not get is not asked for. -/
def Collector.roles (c : Collector) : List Role := c.kind.roles.filter (·.served c.readers)

inductive Fate where
  | stays | exits | panics
  deriving DecidableEq, Repr

/-- What a loop does at its next look. A `select` with both the ticker and an end ready may tick once more, but not
for ever. -/
def Collector.fate (cancelled : List Nat) (c : Collector) (loop : Loop) : Fate :=
  match loop.role with
  | .capture => if c.running then .stays else .exits
  | .flush => if c.stopClosed ∨ loop.ctx ∈ cancelled then .exits else .stays
  | .read field =>
    if field ∈ c.readers then if c.running then .stays else .exits
    else if c.kind = .performance then .exits
    else .panics

/-- `contexts` counts the contexts made so far: the first is that of `main`, the others are of the poll. The last two
fields are history: whether a `Stop` hit a closed channel, and whether the last command was a start or restart. -/
structure Probe where
  collectors : List Collector
  contexts : Nat := 0
  cancelled : List Nat := []
  polling : Bool := true
  exited : Bool := false
  closedTwice : Bool := false
  started : Bool := false
  deriving DecidableEq, Repr

inductive ProbeStep where
  | check (collector loop : Nat)
  | pollStart (opens : Bool)
  | pollStop
  -- What the loops do while the restart sleeps comes with it.
  | pollRestart (pause : List (Nat × Nat)) (opens : Bool)
  | handleStop
  | shutdown

namespace Probe

/-- An unrecovered panic ends the process. -/
def crash (s : Probe) : Probe :=
  { s with exited := true, collectors := s.collectors.map fun c => { c with loops := [] } }

def check (s : Probe) (collector loop : Nat) : Probe :=
  match s.collectors[collector]? with
  | none => s
  | some c =>
    match c.loops[loop]? with
    | none => s
    | some l =>
      match c.fate s.cancelled l with
      | .stays => s
      | .exits => { s with collectors := s.collectors.set collector { c with loops := c.loops.eraseIdx loop } }
      | .panics => s.crash

def checks (s : Probe) (pause : List (Nat × Nat)) : Probe := pause.foldl (fun s look => s.check look.1 look.2) s

def startAll (opens : Bool) (s : Probe) : Probe :=
  { s with
    collectors := managerStart opens s.contexts s.collectors
    contexts := s.contexts + 1
    started := true }

def stopAll (s : Probe) : Probe × Bool :=
  let (collectors, panicked) := managerStop s.collectors
  ({ s with collectors, closedTwice := s.closedTwice || panicked, started := false }, panicked)

/-- The poll recovers from a panic and returns; its deferred cancels run. -/
def pollReturns (s : Probe) : Probe :=
  { s with polling := false, cancelled := s.cancelled ++ (List.range s.contexts).filter (· ≠ 0) }

def step (s : Probe) : ProbeStep → Probe
  | .check collector loop => s.check collector loop
  | .pollStart opens => if s.exited ∨ ¬ s.polling then s else s.startAll opens
  | .pollStop =>
    if s.exited ∨ ¬ s.polling then s
    else
      match s.stopAll with
      | (s, true) => s.pollReturns
      | (s, false) => s
  | .pollRestart pause opens =>
    if s.exited ∨ ¬ s.polling then s
    else
      match s.stopAll with
      | (s, true) => s.pollReturns
      | (s, false) =>
        let s := s.checks pause
        if s.exited then s else s.startAll opens
  -- The HTTP server recovers from a panic of its handler.
  | .handleStop => if s.exited then s else s.stopAll.1
  -- The process ends some time after; until then the rest goes on.
  | .shutdown =>
    if s.exited then s
    else
      match { s with cancelled := 0 :: s.cancelled }.stopAll with
      | (s, true) => s.crash
      | (s, false) => s

def run (s : Probe) (steps : List ProbeStep) : Probe := steps.foldl step s

def launch (opens : Bool) (installed : List (Kind × List ReaderField)) : Probe :=
  startAll opens { collectors := installed.map fun (kind, readers) => { kind, readers } }

/-- Every loop has had its next look. -/
def settle (s : Probe) : Probe :=
  if ∃ c ∈ s.collectors, ∃ loop ∈ c.loops, c.fate s.cancelled loop = .panics then s.crash
  else
    { s with collectors := s.collectors.map fun c =>
        { c with loops := c.loops.filter fun loop => c.fate s.cancelled loop = .stays } }

/-- No `Stop` hit a closed channel, and the worker loops do what the last command says. -/
structure Orderly (s : Probe) : Prop where
  closedOnce : s.closedTwice = false
  running : s.started → ∀ c ∈ s.settle.collectors, ∀ role ∈ c.roles, ∃ loop ∈ c.loops, loop.role = role
  stopped : s.started = false → ∀ c ∈ s.settle.collectors, c.loops = []

end Probe

/-! ### When the commands are obeyed -/

/-- Neither `Start` nor the read loop looks whether there is a reader. -/
def Kind.unguarded : Kind → Bool
  | .httpTrace | .dnsTrace | .dbTrace | .securityTrace | .schedTrace | .memTrace | .blockTrace => true
  | .network | .performance | .security | .syscall | .protocol | .hostMetrics => false

namespace Collector

/-- No loop is launched on a reader that is missing, and HTTP events are not read where flows are not. -/
def Ready (c : Collector) : Prop :=
  (c.kind.unguarded → .reader ∈ c.readers) ∧ (c.kind = .network → .httpReader ∈ c.readers → .reader ∈ c.readers)

/-- A start works: the readers it uses and the socket are there, and no loop waits on a channel that is already closed. -/
def StartOk (opens : Bool) (c : Collector) : Prop :=
  c.Ready ∧ (c.kind = .protocol → opens) ∧ (.flush ∈ c.kind.roles → c.stopClosed = false)

def StopOk (c : Collector) : Prop := c.kind = .hostMetrics ∨ c.stopClosed = false

def RestartOk (c : Collector) : Prop := c.StopOk ∧ c.Ready ∧ .flush ∉ c.kind.roles

instance (c : Collector) : Decidable c.Ready := inferInstanceAs (Decidable (_ ∧ _))
instance (opens : Bool) (c : Collector) : Decidable (c.StartOk opens) := inferInstanceAs (Decidable (_ ∧ _ ∧ _))
instance (c : Collector) : Decidable c.StopOk := inferInstanceAs (Decidable (_ ∨ _))
instance (c : Collector) : Decidable c.RestartOk := inferInstanceAs (Decidable (_ ∧ _ ∧ _))

end Collector

def ProbeStep.Allowed (s : Probe) : ProbeStep → Prop
  | .check _ _ => True
  | .pollStart opens => ∀ c ∈ s.collectors, c.StartOk opens
  | .pollStop | .handleStop | .shutdown => ∀ c ∈ s.collectors, c.StopOk
  | .pollRestart _ _ => ∀ c ∈ s.collectors, c.RestartOk

instance (s : Probe) : (step : ProbeStep) → Decidable (step.Allowed s)
  | .check _ _ => isTrue trivial
  | .pollStart opens => inferInstanceAs (Decidable (∀ c ∈ s.collectors, c.StartOk opens))
  | .pollStop | .handleStop | .shutdown => inferInstanceAs (Decidable (∀ c ∈ s.collectors, c.StopOk))
  | .pollRestart _ _ => inferInstanceAs (Decidable (∀ c ∈ s.collectors, c.RestartOk))

namespace Collector
variable {c : Collector}

/-- Only `performance` launches its loop in any case; without a reader the loop leaves at its first look. -/
def launched (c : Collector) : List Role := if c.kind = .performance then c.kind.roles else c.roles

theorem start_launches {opens : Bool} (ctx : Nat) (ready : c.Ready) (granted : c.kind = .protocol → opens) :
    c.start opens ctx = c.launch ctx c.launched := by
  obtain ⟨kind, readers, running, stopClosed, loops⟩ := c
  obtain ⟨unguarded, beside⟩ := ready
  cases kind with
  | network =>
    by_cases flows : .reader ∈ readers
    · by_cases http : .httpReader ∈ readers <;>
        simp [start, networkStart, launched, roles, Kind.roles, Role.served, flows, http]
    · have http : .httpReader ∉ readers := fun there => flows (beside rfl there)
      simp [start, networkStart, launched, roles, Kind.roles, Role.served, flows, http]
  | security =>
    show launch ctx _ _ = launch ctx (([.fileReader, .tcpReader].map Role.read).filter _) _
    rw [List.filter_map]
    rfl
  | syscall =>
    show launch ctx _ _ = launch ctx (([.reader].map Role.read).filter _) _
    rw [List.filter_map]
    rfl
  | protocol =>
    obtain rfl : opens = true := granted rfl
    rfl
  | performance | hostMetrics => rfl
  | _ =>
    have there := unguarded rfl
    refine congrArg (launch ctx · _) (List.filter_eq_self.mpr ?_).symm
    simp [Role.served, there]

theorem stop_halts (ok : c.StopOk) : c.stop = some c.halted := by
  unfold stop
  rcases ok with host | open_
  · rw [if_pos host]
  · rw [open_, if_neg Bool.false_ne_true, ite_self]

/-- No loop waits on a reader that is missing. -/
def Fitted (c : Collector) : Prop := ∀ loop ∈ c.loops, loop.role.served c.readers ∨ c.kind = .performance

/-- The state the last command asks for, before the loops have seen it. -/
def Obeys (cancelled : List Nat) (started : Bool) (c : Collector) : Prop :=
  c.running = started ∧
    if started then ∀ role ∈ c.roles, ∃ loop ∈ c.loops, loop.role = role ∧ c.fate cancelled loop = .stays
    else c.stopClosed

theorem fate_fitted {cancelled : List Nat} {loop : Loop} (fitted : loop.role.served c.readers ∨ c.kind = .performance) :
    c.fate cancelled loop ≠ .panics := by
  unfold fate
  split
  · split <;> simp
  · split <;> simp
  · rename_i field read
    rw [read] at fitted
    split
    · split <;> simp
    · rename_i missing
      rcases fitted with served | performance
      · exact absurd (of_decide_eq_true served) missing
      · rw [if_pos performance]
        simp

theorem fate_halted {cancelled : List Nat} {loop : Loop} (obeys : c.Obeys cancelled false) :
    c.fate cancelled loop ≠ .stays := by
  obtain ⟨down, closed⟩ := obeys
  replace closed : c.stopClosed = true := closed
  unfold fate
  simp only [down, closed]
  split
  · simp
  · simp
  · split
    · simp
    · split <;> simp

theorem start_fitted {opens : Bool} (ctx : Nat) (fitted : c.Fitted) (ok : c.StartOk opens) :
    (c.start opens ctx).Fitted := by
  obtain ⟨ready, granted, -⟩ := ok
  rw [start_launches ctx ready granted]
  intro loop member
  rcases List.mem_append.mp member with older | newer
  · exact fitted loop older
  · obtain ⟨role, belongs, rfl⟩ := List.mem_map.mp newer
    unfold launched at belongs
    split at belongs
    · rename_i performance
      exact .inr performance
    · exact .inl (List.mem_filter.mp belongs).2

theorem roles_subset_launched (c : Collector) : c.roles ⊆ c.launched := by
  unfold launched
  split
  · exact List.filter_subset_self _
  · exact List.Subset.refl _

theorem start_obeys {cancelled : List Nat} {opens : Bool} {ctx : Nat} (fresh : ctx ∉ cancelled) (ok : c.StartOk opens) :
    (c.start opens ctx).Obeys cancelled true := by
  obtain ⟨ready, granted, open_⟩ := ok
  rw [start_launches ctx ready granted]
  refine ⟨rfl, fun role belongs => ⟨⟨role, ctx⟩, ?_, rfl, ?_⟩⟩
  · exact List.mem_append_right _ (List.mem_map_of_mem (c.roles_subset_launched belongs))
  · obtain ⟨belongs, served⟩ := List.mem_filter.mp belongs
    cases role with
    | capture => rfl
    | flush =>
      have closed := open_ belongs
      simp [fate, launch, closed, fresh]
    | read field =>
      have there : field ∈ c.readers := of_decide_eq_true served
      simp [fate, launch, there]

end Collector

theorem managerStop_halts {collectors : List Collector} (ok : ∀ c ∈ collectors, c.StopOk) :
    managerStop collectors = (collectors.map Collector.halted, false) := by
  induction collectors with
  | nil => rfl
  | cons c rest ih =>
    have others := ih fun other member => ok other (by simp [member])
    simp only [managerStop, c.stop_halts (ok c (by simp)), others, List.map_cons]

namespace Probe
variable {s : Probe}

structure Base (s : Probe) : Prop where
  alive : s.exited = false
  polls : s.polling = true
  closedOnce : s.closedTwice = false
  bound : ∀ ctx ∈ s.cancelled, ctx < s.contexts
  fitted : ∀ c ∈ s.collectors, c.Fitted

structure Sound (s : Probe) : Prop extends Base s where
  made : 0 < s.contexts
  obeys : ∀ c ∈ s.collectors, c.Obeys s.cancelled s.started

theorem start_sound {opens : Bool} (base : s.Base) (ok : ∀ c ∈ s.collectors, c.StartOk opens) :
    (s.startAll opens).Sound := by
  have fresh : s.contexts ∉ s.cancelled := fun member => Nat.lt_irrefl _ (base.bound _ member)
  refine ⟨⟨base.alive, base.polls, base.closedOnce, fun ctx member => Nat.lt_succ_of_lt (base.bound ctx member), ?_⟩,
    Nat.succ_pos _, ?_⟩
  · intro launched member
    obtain ⟨c, before, rfl⟩ := List.mem_map.mp member
    exact c.start_fitted s.contexts (base.fitted c before) (ok c before)
  · intro launched member
    obtain ⟨c, before, rfl⟩ := List.mem_map.mp member
    exact c.start_obeys fresh (ok c before)

theorem stop_sound (base : s.Base) (made : 0 < s.contexts) (ok : ∀ c ∈ s.collectors, c.StopOk) :
    ∃ t, s.stopAll = (t, false) ∧ t.Sound ∧ t.collectors = s.collectors.map Collector.halted := by
  unfold stopAll
  rw [managerStop_halts ok]
  refine ⟨_, rfl, ⟨⟨base.alive, base.polls, by simp [base.closedOnce], base.bound, ?_⟩, made, ?_⟩, rfl⟩
  · intro halted member
    obtain ⟨c, before, rfl⟩ := List.mem_map.mp member
    exact base.fitted c before
  · intro halted member
    obtain ⟨c, before, rfl⟩ := List.mem_map.mp member
    exact ⟨rfl, rfl⟩

theorem exit_obeys {cancelled : List Nat} {started : Bool} {c : Collector} {i : Nat} {left : Loop}
    (found : c.loops[i]? = some left) (exits : c.fate cancelled left = .exits) (obeys : c.Obeys cancelled started) :
    ({ c with loops := c.loops.eraseIdx i } : Collector).Obeys cancelled started := by
  obtain ⟨flag, loops⟩ := obeys
  refine ⟨flag, ?_⟩
  cases started with
  | false => exact loops
  | true =>
    intro role belongs
    obtain ⟨loop, member, same, stays⟩ := loops role belongs
    refine ⟨loop, ?_, same, stays⟩
    obtain ⟨j, read⟩ := List.getElem?_of_mem member
    refine List.mem_eraseIdx_iff_getElem?.mpr ⟨j, ?_, read⟩
    rintro rfl
    rw [found] at read
    obtain rfl := Option.some.inj read
    rw [exits] at stays
    cases stays

theorem check_sound (sound : s.Sound) (collector loop : Nat) : (s.check collector loop).Sound := by
  unfold check
  split
  · exact sound
  · rename_i c found
    have present := List.mem_of_getElem? found
    split
    · exact sound
    · rename_i l read
      split
      · exact sound
      · rename_i exits
        refine ⟨⟨sound.alive, sound.polls, sound.closedOnce, sound.bound, ?_⟩, sound.made, ?_⟩
        · intro other member
          rcases List.mem_or_eq_of_mem_set member with before | rfl
          · exact sound.fitted other before
          · exact fun l left => sound.fitted c present l (List.mem_of_mem_eraseIdx left)
        · intro other member
          rcases List.mem_or_eq_of_mem_set member with before | rfl
          · exact sound.obeys other before
          · exact exit_obeys read exits (sound.obeys c present)
      · rename_i panics
        have fitted := sound.fitted c present l (List.mem_of_getElem? read)
        exact absurd panics (c.fate_fitted fitted)

theorem checks_sound (sound : s.Sound) (pause : List (Nat × Nat)) : (s.checks pause).Sound := by
  induction pause generalizing s with
  | nil => exact sound
  | cons look rest ih => exact ih (check_sound sound look.1 look.2)

/-- What does not depend on the loops is the same after one has looked. -/
theorem check_keep {P : Collector → Prop} (apart : ∀ c loops, P c → P { c with loops })
    (all : ∀ c ∈ s.collectors, P c) (collector loop : Nat) : ∀ c ∈ (s.check collector loop).collectors, P c := by
  unfold check
  split
  · exact all
  · rename_i c found
    split
    · exact all
    · split
      · exact all
      · intro other member
        rcases List.mem_or_eq_of_mem_set member with before | rfl
        · exact all other before
        · exact apart c _ (all c (List.mem_of_getElem? found))
      · intro other member
        obtain ⟨c, before, rfl⟩ := List.mem_map.mp member
        exact apart c [] (all c before)

theorem checks_keep {P : Collector → Prop} (apart : ∀ c loops, P c → P { c with loops })
    (all : ∀ c ∈ s.collectors, P c) (pause : List (Nat × Nat)) : ∀ c ∈ (s.checks pause).collectors, P c := by
  induction pause generalizing s with
  | nil => exact all
  | cons look rest ih => exact ih (check_keep apart all look.1 look.2)

theorem restart_sound (sound : s.Sound) {pause : List (Nat × Nat)} {opens : Bool}
    (ok : ∀ c ∈ s.collectors, c.RestartOk) : (s.step (.pollRestart pause opens)).Sound := by
  obtain ⟨t, stops, stopped, halted⟩ := stop_sound sound.toBase sound.made fun c member => (ok c member).1
  have paused := checks_sound stopped pause
  have able : ∀ c ∈ (t.checks pause).collectors, c.Ready ∧ .flush ∉ c.kind.roles := by
    refine checks_keep (fun _ _ able => able) ?_ pause
    rw [halted]
    intro c member
    obtain ⟨before, was, rfl⟩ := List.mem_map.mp member
    exact (ok before was).2
  have starts : ((t.checks pause).startAll opens).Sound := by
    refine start_sound paused.toBase fun c member => ?_
    obtain ⟨ready, none_⟩ := able c member
    refine ⟨ready, fun protocol => absurd ?_ none_, fun some_ => absurd some_ none_⟩
    rw [protocol]
    decide
  dsimp only [step]
  rw [if_neg (by simp [sound.alive, sound.polls]), stops]
  dsimp only
  rw [if_neg (by simp [paused.alive])]
  exact starts

theorem step_sound (sound : s.Sound) (step : ProbeStep) (allowed : step.Allowed s) : (s.step step).Sound := by
  have there : ¬ (s.exited ∨ ¬ s.polling) := by simp [sound.alive, sound.polls]
  have alive : ¬ s.exited := by simp [sound.alive]
  cases step with
  | check collector loop => exact check_sound sound collector loop
  | pollStart opens =>
    dsimp only [Probe.step]
    rw [if_neg there]
    exact start_sound sound.toBase allowed
  | pollStop =>
    obtain ⟨t, stops, stopped, -⟩ := stop_sound sound.toBase sound.made allowed
    dsimp only [Probe.step]
    rw [if_neg there, stops]
    exact stopped
  | pollRestart pause opens => exact restart_sound sound allowed
  | handleStop =>
    obtain ⟨t, stops, stopped, -⟩ := stop_sound sound.toBase sound.made allowed
    dsimp only [Probe.step]
    rw [if_neg alive, stops]
    exact stopped
  | shutdown =>
    have base : Base { s with cancelled := 0 :: s.cancelled } := by
      refine ⟨sound.alive, sound.polls, sound.closedOnce, fun ctx member => ?_, sound.fitted⟩
      rcases List.mem_cons.mp member with rfl | before
      · exact sound.made
      · exact sound.bound ctx before
    obtain ⟨t, stops, stopped, -⟩ := stop_sound base sound.made allowed
    dsimp only [Probe.step]
    rw [if_neg alive, stops]
    exact stopped

theorem orderly_of_sound (sound : s.Sound) : s.Orderly := by
  have calm : ¬ ∃ c ∈ s.collectors, ∃ loop ∈ c.loops, c.fate s.cancelled loop = .panics := by
    rintro ⟨c, present, loop, member, panics⟩
    exact c.fate_fitted (sound.fitted c present loop member) panics
  refine ⟨sound.closedOnce, fun started settled member => ?_, fun halted settled member => ?_⟩
  · unfold settle at member
    rw [if_neg calm] at member
    obtain ⟨c, present, rfl⟩ := List.mem_map.mp member
    obtain ⟨-, loops⟩ := sound.obeys c present
    rw [if_pos started] at loops
    intro role belongs
    obtain ⟨loop, before, same, stays⟩ := loops role belongs
    exact ⟨loop, List.mem_filter.mpr ⟨before, decide_eq_true stays⟩, same⟩
  · unfold settle at member
    rw [if_neg calm] at member
    obtain ⟨c, present, rfl⟩ := List.mem_map.mp member
    have obeys := sound.obeys c present
    rw [halted] at obeys
    refine List.filter_eq_nil_iff.mpr fun loop _ => ?_
    simpa using c.fate_halted obeys

/-- In every run in which each start finds the readers it uses, its socket and open channels, and no channel is closed a
second time, the worker loops do what the last command says. -/
theorem workers_follow_commands (installed : List (Kind × List ReaderField)) (opens : Bool) (steps : List ProbeStep)
    (ready : ∀ item ∈ installed, (⟨item.1, item.2, false, false, []⟩ : Collector).StartOk opens)
    (allowed : Along step (fun s step => step.Allowed s) (launch opens installed) steps) :
    ((launch opens installed).run steps).Orderly := by
  have launched : (launch opens installed).Sound := by
    refine start_sound ⟨rfl, rfl, rfl, by simp, fun c member => ?_⟩ fun c member => ?_
    · obtain ⟨item, -, rfl⟩ := List.mem_map.mp member
      exact fun loop none_ => absurd none_ (by simp)
    · obtain ⟨item, present, rfl⟩ := List.mem_map.mp member
      exact ready item present
  exact orderly_of_sound (foldl_keeps (I := Sound) (fun _ step sound => step_sound sound step) launched allowed)

def defaultCollectors : List (Kind × List ReaderField) :=
  [(.network, [.reader]), (.performance, [.reader]), (.security, [.fileReader, .tcpReader]),
   (.syscall, [.reader]), (.protocol, []), (.hostMetrics, [])]

def readingCollectors : List (Kind × List ReaderField) := [(.syscall, [.reader]), (.security, [.fileReader, .tcpReader])]

theorem commands_obeyed :
    ((launch true defaultCollectors).run [.pollStart true, .check 4 1, .handleStop, .check 0 1]).Orderly ∧
      ((launch true readingCollectors).run [.pollRestart [(0, 0), (1, 1)] true, .check 1 0]).Orderly :=
  ⟨workers_follow_commands defaultCollectors true _ (by decide) (by decide),
    workers_follow_commands readingCollectors true _ (by decide) (by decide)⟩

-- A second stop hits the closed channel; after a restart the flush loop finds the old channel closed and leaves.
theorem commands_not_obeyed :
    ¬ ((launch true [(.protocol, [])]).run [.pollStop, .handleStop]).Orderly ∧
      ¬ ((launch true [(.protocol, [])]).run [.pollRestart [] true]).Orderly := by
  refine ⟨fun orderly => ?_, fun orderly => ?_⟩
  · have twice : ((launch true [(.protocol, [])]).run [.pollStop, .handleStop]).closedTwice = true := rfl
    rw [orderly.closedOnce] at twice
    cases twice
  · have left : ¬ ∀ c ∈ ((launch true [(.protocol, [])]).run [.pollRestart [] true]).settle.collectors,
        ∀ role ∈ c.roles, ∃ loop ∈ c.loops, loop.role = role := by decide
    exact left (orderly.running rfl)

end Probe

end StbEbpf.Agent
