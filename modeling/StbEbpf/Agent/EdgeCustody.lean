import Mathlib.Data.List.Nodup
import StbEbpf.Agent.EdgeClient

/-! Custody of events in the edge client: every event that passed sampling is held in one place. -/

namespace StbEbpf.Agent
open Pool

/-- The events that an action offers to the sampling, each with its draw. -/
def EdgeAction.written {ε : Type} : EdgeAction ε → List (ε × Bool)
  | .writeEvent event draw => [(event, draw)]
  | .writeBatch events => events
  | .flush | .close | .take _ | .reply .. | .requeue _ => []

namespace EdgeClient
variable {ε : Type}

def places (e : EdgeClient ε) : List (Entry ε) := e.batch ++ e.inFlight ++ e.acked ++ e.dropped

/-- Every accepted event is in one place, once. -/
structure Conserved (e : EdgeClient ε) : Prop where
  numbered : e.accepted.map Entry.seq = List.range e.accepted.length
  placed : e.places.Perm e.accepted

theorem Conserved.nodup {e : EdgeClient ε} (conserved : e.Conserved) : e.places.Nodup := by
  rw [conserved.placed.nodup_iff]
  apply List.Nodup.of_map Entry.seq
  rw [conserved.numbered]
  exact List.nodup_range

/-! ### What a step can do -/

/-- Every step leaves the client alone, runs one of its sections on the call that stands before it, or starts a call. -/
@[elab_as_elim]
theorem step_cases (category : ε → String) (e : EdgeClient ε) (action : EdgeAction ε) {P : EdgeClient ε → Prop}
    (same : P e) (grown : ∀ events, P (e.append events)) (started : ∀ stopped, P { e with stopped }.startFlush)
    (taken : ∀ call, action = .take call → e.calls[call]? = some .flushing → P (e.takeSnapshot call))
    (received : ∀ call ok events, action = .reply call ok → e.calls[call]? = some (.posting events) →
      P (e.receive call events ok))
    (returned : ∀ call events, action = .requeue call → e.calls[call]? = some (.requeuing events) →
      P (e.putBack call events)) : P (e.step category action) := by
  cases action with
  | writeEvent event draw =>
    dsimp only [step, writeEvent]
    split
    · exact grown [event]
    · exact same
  | writeBatch events =>
    dsimp only [step, writeBatch]
    split
    · exact same
    · exact grown _
  | flush => exact started e.stopped
  | close =>
    dsimp only [step, close]
    split
    · exact same
    · exact started true
  | take call =>
    dsimp only [step]
    split
    · rename_i stands
      exact taken call rfl stands
    · exact same
  | reply call ok =>
    dsimp only [step]
    split
    · rename_i events stands
      exact received call ok events rfl stands
    · exact same
  | requeue call =>
    dsimp only [step]
    split
    · rename_i events stands
      exact returned call events rfl stands
    · exact same

/-! ### Steps -/

theorem startFlush_inFlight (e : EdgeClient ε) : e.startFlush.inFlight = e.inFlight := by
  unfold inFlight startFlush
  rw [holdings_append]
  simp [FlushCall.held]

theorem startFlush_conserved {e : EdgeClient ε} (conserved : e.Conserved) : e.startFlush.Conserved := by
  refine ⟨conserved.numbered, ?_⟩
  unfold places
  rw [startFlush_inFlight]
  exact conserved.placed

theorem entries_numbered (start : Nat) (events : List ε) :
    (events.mapIdx fun i event => (⟨start + i, event⟩ : Entry ε)).map Entry.seq =
      (List.range events.length).map (start + ·) := by
  apply List.ext_getElem
  · simp
  · intro i _ _
    simp

theorem append_conserved {e : EdgeClient ε} (conserved : e.Conserved) (events : List ε) :
    (e.append events).Conserved := by
  have grown (entries : List (Entry ε)) (seqs : entries.map Entry.seq =
      (List.range entries.length).map (e.accepted.length + ·)) :
      Conserved { e with batch := e.batch ++ entries, accepted := e.accepted ++ entries } := by
    refine ⟨?_, ?_⟩
    · rw [List.map_append, conserved.numbered, seqs, List.length_append, List.range_add]
    · classical
      refine List.perm_iff_count.mpr fun entry => ?_
      have placed := List.perm_iff_count.mp conserved.placed entry
      simp only [places, inFlight, List.count_append] at placed ⊢
      omega
  unfold append
  dsimp only
  split
  · exact startFlush_conserved (grown _ (by simpa using entries_numbered _ events))
  · exact grown _ (by simpa using entries_numbered _ events)

/-- A call moves on, and what it held before is where it is held after or in the places named. -/
theorem move_conserved {e t : EdgeClient ε} (conserved : e.Conserved) {call : Nat} {old new : FlushCall ε}
    (stands : e.calls[call]? = some old) (moves : t.calls = e.calls.set call new) (same : t.accepted = e.accepted)
    (kept : (t.batch ++ new.held ++ t.acked ++ t.dropped).Perm (e.batch ++ old.held ++ e.acked ++ e.dropped)) :
    t.Conserved := by
  obtain ⟨others, before, after⟩ := holdings_set FlushCall.held stands
  refine ⟨by rw [same]; exact conserved.numbered, ?_⟩
  classical
  rw [same]
  refine List.perm_iff_count.mpr fun entry => ?_
  have placed := List.perm_iff_count.mp conserved.placed entry
  have before := List.perm_iff_count.mp before entry
  have after := List.perm_iff_count.mp (after new) entry
  have kept := List.perm_iff_count.mp kept entry
  rw [← moves] at after
  simp only [places, inFlight, List.count_append] at placed before after kept ⊢
  omega

theorem takeSnapshot_conserved {e : EdgeClient ε} (conserved : e.Conserved) {call : Nat}
    (stands : e.calls[call]? = some .flushing) : (e.takeSnapshot call).Conserved := by
  unfold takeSnapshot
  split
  · exact move_conserved conserved stands rfl rfl (.refl _)
  · exact move_conserved conserved stands rfl rfl (by simp [FlushCall.held])

theorem receive_conserved {e : EdgeClient ε} (conserved : e.Conserved) {call : Nat} {events : List (Entry ε)}
    (stands : e.calls[call]? = some (.posting events)) (ok : Bool) : (e.receive call events ok).Conserved := by
  unfold receive
  split
  · refine move_conserved conserved stands rfl rfl ?_
    simp only [FlushCall.held, List.append_nil, List.append_assoc]
    exact (List.perm_append_comm_assoc _ _ _).append_left e.batch
  · exact move_conserved conserved stands rfl rfl (.refl _)

theorem putBack_conserved {e : EdgeClient ε} (conserved : e.Conserved) {call : Nat} {events : List (Entry ε)}
    (stands : e.calls[call]? = some (.requeuing events)) : (e.putBack call events).Conserved := by
  refine move_conserved conserved stands rfl rfl ?_
  classical
  refine List.perm_iff_count.mpr fun entry => ?_
  have split := congrArg (List.count entry) (List.take_append_drop MAX_RETRY (events ++ e.batch))
  simp only [putBack, FlushCall.held, List.count_append, List.count_nil] at split ⊢
  omega

theorem step_conserved (category : ε → String) {e : EdgeClient ε} (conserved : e.Conserved) (action : EdgeAction ε) :
    (e.step category action).Conserved := by
  refine step_cases category e action ?same ?grown ?started ?taken ?received ?returned
  case same => exact conserved
  case grown => exact append_conserved conserved
  case started =>
    intro stopped
    exact startFlush_conserved ⟨conserved.numbered, conserved.placed⟩
  case taken =>
    intro call _ stands
    exact takeSnapshot_conserved conserved stands
  case received =>
    intro call ok events _ stands
    exact receive_conserved conserved stands ok
  case returned =>
    intro call events _ stands
    exact putBack_conserved conserved stands

theorem run_conserved (category : ε → String) {e : EdgeClient ε} (conserved : e.Conserved)
    (actions : List (EdgeAction ε)) : (e.run category actions).Conserved := by
  induction actions generalizing e with
  | nil => exact conserved
  | cons action rest ih => exact ih (step_conserved category conserved action)

theorem conserved_init : Conserved ({} : EdgeClient ε) := ⟨rfl, .refl _⟩

/-! ### Snapshots and replies -/

theorem startFlush_posting {e : EdgeClient ε} {i : Nat} {events : List (Entry ε)}
    (after : e.startFlush.calls[i]? = some (.posting events)) : e.calls[i]? = some (.posting events) := by
  unfold startFlush at after
  rcases Nat.lt_or_ge i e.calls.length with old | new
  · rwa [List.getElem?_append_left old] at after
  · rw [List.getElem?_append_right new] at after
    cases same : i - e.calls.length with
    | zero => simp [same] at after
    | succ n => simp [same] at after

theorem append_posting {e : EdgeClient ε} {added : List ε} {i : Nat} {events : List (Entry ε)}
    (after : (e.append added).calls[i]? = some (.posting events)) : e.calls[i]? = some (.posting events) := by
  unfold append at after
  dsimp only at after
  split at after
  · exact startFlush_posting after
  · exact after

theorem append_acked (e : EdgeClient ε) (events : List ε) : (e.append events).acked = e.acked := by
  unfold append
  dsimp only
  split <;> rfl

theorem set_posting {calls : List (FlushCall ε)} {call i : Nat} {new : FlushCall ε} {events : List (Entry ε)}
    (after : (calls.set call new)[i]? = some (.posting events)) :
    i ≠ call ∧ calls[i]? = some (.posting events) ∨ i = call ∧ new = .posting events := by
  by_cases same : call = i
  · subst same
    rw [List.getElem?_set_self'] at after
    obtain ⟨_, _, stored⟩ := Option.map_eq_some_iff.mp after
    exact .inr ⟨rfl, stored⟩
  · rw [List.getElem?_set_ne same] at after
    exact .inl ⟨Ne.symm same, after⟩

/-- A call waits for a reply only from the moment it takes its snapshot. -/
theorem step_posting (category : ε → String) {e : EdgeClient ε} {action : EdgeAction ε} {i : Nat}
    {events : List (Entry ε)} (after : (e.step category action).calls[i]? = some (.posting events)) :
    e.calls[i]? = some (.posting events) ∨
      action = .take i ∧ e.calls[i]? = some .flushing ∧ e.batch ≠ [] ∧ events = e.batch := by
  revert after
  refine step_cases category e action ?same ?grown ?started ?taken ?received ?returned
  case same => exact .inl
  case grown =>
    intro added after
    exact .inl (append_posting after)
  case started =>
    intro stopped after
    exact .inl (startFlush_posting after)
  case taken =>
    intro call taking stands after
    unfold takeSnapshot at after
    split at after
    · rcases set_posting after with ⟨-, before⟩ | ⟨-, absurd⟩
      · exact .inl before
      · cases absurd
    · rename_i full
      rcases set_posting after with ⟨-, before⟩ | ⟨rfl, taken⟩
      · exact .inl before
      · cases taken
        exact .inr ⟨taking, stands, full, rfl⟩
  case received =>
    intro call ok events' _ _ after
    unfold receive at after
    split at after <;> rcases set_posting after with ⟨-, before⟩ | ⟨-, absurd⟩
    · exact .inl before
    · cases absurd
    · exact .inl before
    · cases absurd
  case returned =>
    intro call events' _ _ after
    rcases set_posting after with ⟨-, before⟩ | ⟨-, absurd⟩
    · exact .inl before
    · cases absurd

theorem step_acked (category : ε → String) (e : EdgeClient ε) (action : EdgeAction ε) :
    (e.step category action).acked = e.acked ∨
      ∃ call events, action = .reply call true ∧ e.calls[call]? = some (.posting events) ∧
        (e.step category action).acked = e.acked ++ events := by
  refine step_cases category e action ?same ?grown ?started ?taken ?received ?returned
  case same => exact .inl rfl
  case grown =>
    intro added
    exact .inl (append_acked e added)
  case started =>
    intro stopped
    exact .inl rfl
  case taken =>
    intro call _ _
    unfold takeSnapshot
    split <;> exact .inl rfl
  case received =>
    intro call ok events replied stands
    cases ok with
    | true => exact .inr ⟨call, events, replied, stands, rfl⟩
    | false => exact .inl rfl
  case returned =>
    intro call events _ _
    exact .inl rfl

theorem run_acked (category : ε → String) (e : EdgeClient ε) (actions : List (EdgeAction ε)) :
    e.acked <+: (e.run category actions).acked := by
  induction actions generalizing e with
  | nil => exact List.prefix_rfl
  | cons action rest ih =>
    refine List.IsPrefix.trans ?_ (ih (e.step category action))
    rcases step_acked category e action with same | ⟨_, events, -, -, grown⟩
    · exact same ▸ List.prefix_rfl
    · exact grown ▸ List.prefix_append _ _

theorem acked_elsewhere {e : EdgeClient ε} (conserved : e.Conserved) {entry : Entry ε} (acked : entry ∈ e.acked) :
    entry ∉ e.batch ∧ entry ∉ e.inFlight := by
  have nodup := conserved.nodup
  unfold places at nodup
  rw [List.nodup_append, List.nodup_append, List.nodup_append] at nodup
  obtain ⟨⟨-, -, apart⟩, -, -⟩ := nodup
  constructor
  · intro batch
    exact apart entry (List.mem_append_left _ batch) entry acked rfl
  · intro flying
    exact apart entry (List.mem_append_right _ flying) entry acked rfl

/-! ### Sampling -/

def sampled (category : ε → String) (written : List (ε × Bool)) : List ε :=
  (written.filter fun (event, draw) => shouldSample (category event) draw).map Prod.fst

theorem append_accepted (e : EdgeClient ε) (events : List ε) :
    (e.append events).accepted.map Entry.event = e.accepted.map Entry.event ++ events := by
  have entries : (events.mapIdx fun i event => (⟨e.accepted.length + i, event⟩ : Entry ε)).map Entry.event = events := by
    apply List.ext_getElem
    · simp
    · intro i _ _
      simp
  unfold append
  dsimp only
  split <;> simp [startFlush, entries]

theorem step_accepted (category : ε → String) (e : EdgeClient ε) (action : EdgeAction ε) :
    (e.step category action).accepted.map Entry.event = e.accepted.map Entry.event ++ sampled category action.written := by
  cases action with
  | writeEvent event draw =>
    dsimp only [step, writeEvent, EdgeAction.written, sampled]
    split
    case isTrue passes => simp [append_accepted, passes]
    case isFalse fails => simp [fails]
  | writeBatch events =>
    dsimp only [step, writeBatch, EdgeAction.written, sampled]
    split
    case isTrue none_ => rw [none_, List.append_nil]
    case isFalse => exact append_accepted e _
  | flush => exact (List.append_nil _).symm
  | close =>
    dsimp only [step, close]
    split <;> exact (List.append_nil _).symm
  | take call =>
    dsimp only [step]
    split
    · dsimp only [takeSnapshot]
      split <;> exact (List.append_nil _).symm
    · exact (List.append_nil _).symm
  | reply call ok =>
    dsimp only [step]
    split
    · dsimp only [receive]
      split <;> exact (List.append_nil _).symm
    · exact (List.append_nil _).symm
  | requeue call =>
    dsimp only [step]
    split <;> exact (List.append_nil _).symm

theorem run_accepted (category : ε → String) (e : EdgeClient ε) (actions : List (EdgeAction ε)) :
    (e.run category actions).accepted.map Entry.event =
      e.accepted.map Entry.event ++ sampled category (actions.flatMap EdgeAction.written) := by
  induction actions generalizing e with
  | nil => simp [run, sampled]
  | cons action rest ih =>
    have later := ih (e.step category action)
    unfold run at later ⊢
    rw [List.foldl_cons, later, step_accepted, List.append_assoc, List.flatMap_cons]
    simp [sampled]

/-- Over every interleaving, the batch, the snapshots in flight, the acknowledged and the dropped events are together
the events that passed sampling, each once; and what has been acknowledged is never held again. -/
theorem events_in_one_place (category : ε → String) (actions later : List (EdgeAction ε)) :
    let e := ({} : EdgeClient ε).run category actions
    e.accepted.map Entry.event = sampled category (actions.flatMap EdgeAction.written) ∧
      (e.batch ++ e.inFlight ++ e.acked ++ e.dropped).Perm e.accepted ∧
      (e.batch ++ e.inFlight ++ e.acked ++ e.dropped).Nodup ∧
      ∀ entry ∈ e.acked, entry ∉ (e.run category later).batch ∧ entry ∉ (e.run category later).inFlight := by
  intro e
  have conserved : e.Conserved := run_conserved category conserved_init actions
  refine ⟨run_accepted category {} actions, conserved.placed, conserved.nodup, fun entry acked => ?_⟩
  have still : entry ∈ (e.run category later).acked := (run_acked category e later).subset acked
  exact acked_elsewhere (run_conserved category conserved later) still

end EdgeClient

end StbEbpf.Agent
