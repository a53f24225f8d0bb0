import StbEbpf.Agent.EdgeCustody
import StbEbpf.Lib.Run

/-! What a failed flush puts back into the batch: how many events it leaves there, and in which order. -/

namespace StbEbpf.Agent
open Run

namespace EdgeClient
variable {ε : Type}

/-! ### How many -/

def Quiescent (e : EdgeClient ε) : Prop := ∀ call ∈ e.calls, call = .done

instance [DecidableEq ε] (e : EdgeClient ε) : Decidable e.Quiescent := inferInstanceAs (Decidable (∀ _ ∈ _, _))

/-- A batch over the cap waits for a flush that has not taken its snapshot yet. -/
def Bounded (e : EdgeClient ε) : Prop := e.batch.length ≤ MAX_RETRY ∨ FlushCall.flushing ∈ e.calls

theorem flushing_stays {e : EdgeClient ε} {call : Nat} {old new : FlushCall ε} (waits : FlushCall.flushing ∈ e.calls)
    (stands : e.calls[call]? = some old) (other : old ≠ .flushing) : FlushCall.flushing ∈ e.calls.set call new := by
  obtain ⟨i, found⟩ := List.mem_iff_getElem?.mp waits
  have apart : call ≠ i := by
    rintro rfl
    exact other (Option.some.inj (stands.symm.trans found))
  apply List.mem_iff_getElem?.mpr
  exact ⟨i, by rw [List.getElem?_set_ne apart, found]⟩

theorem startFlush_bounded (e : EdgeClient ε) : e.startFlush.Bounded := .inr (List.mem_append_right _ (by simp))

theorem append_bounded (e : EdgeClient ε) (events : List ε) : (e.append events).Bounded := by
  unfold append
  dsimp only
  split
  · exact startFlush_bounded _
  · rename_i small
    left
    simp only [MAX_BATCH, MAX_RETRY] at small ⊢
    omega

theorem putBack_length (e : EdgeClient ε) (call : Nat) (events : List (Entry ε)) :
    (e.putBack call events).batch.length ≤ MAX_RETRY := List.length_take_le _ _

theorem step_bounded (category : ε → String) {e : EdgeClient ε} (bounded : e.Bounded) (action : EdgeAction ε) :
    (e.step category action).Bounded := by
  refine step_cases category e action ?same ?grown ?started ?taken ?received ?returned
  case same => exact bounded
  case grown => exact append_bounded e
  case started =>
    intro stopped
    exact startFlush_bounded _
  case taken =>
    -- Whatever was over the cap leaves with the snapshot.
    intro call _ _
    left
    unfold takeSnapshot
    split
    · rename_i empty
      simp [empty]
    · exact Nat.zero_le _
  case received =>
    intro call ok events _ stands
    unfold receive
    rcases bounded with small | waits
    · split <;> exact .inl small
    · split <;> exact .inr (flushing_stays waits stands (by simp))
  case returned =>
    intro call events _ _
    exact .inl (putBack_length e call events)

theorem run_bounded (category : ε → String) {e : EdgeClient ε} (bounded : e.Bounded) (actions : List (EdgeAction ε)) :
    (e.run category actions).Bounded := by
  induction actions generalizing e with
  | nil => exact bounded
  | cons action rest ih => exact ih (step_bounded category bounded action)

/-- Over every interleaving, with every outcome of the posts: the batch holds at most 10000 events whenever no call is
in progress, and whenever a failed flush has put its snapshot back. -/
theorem batch_capped (category : ε → String) (actions : List (EdgeAction ε)) :
    let e := ({} : EdgeClient ε).run category actions
    (e.Quiescent → e.batch.length ≤ 10000) ∧
      ∀ call events, e.calls[call]? = some (.requeuing events) →
        (e.step category (.requeue call)).batch.length ≤ 10000 := by
  intro e
  have bounded : e.Bounded := run_bounded category (.inl (Nat.zero_le _)) actions
  constructor
  · intro quiescent
    rcases bounded with small | waits
    · exact small
    · exact absurd (quiescent _ waits) (by simp)
  · intro call events stands
    simp only [step, stands]
    exact putBack_length e call events

/-! ### In which order -/

/-- In the order in which the events were accepted. -/
def InOrder (entries : List (Entry ε)) : Prop := entries.Pairwise fun old new => old.seq < new.seq

instance (entries : List (Entry ε)) : Decidable (InOrder entries) := inferInstanceAs (Decidable (List.Pairwise _ _))

/-- The step leaves the batch in order, and what it cuts off is newer than all that it keeps. -/
def OrderKept (category : ε → String) (e : EdgeClient ε) (action : EdgeAction ε) : Prop :=
  InOrder (e.step category action).batch ∧
    ∀ kept ∈ (e.step category action).batch, ∀ cut ∈ (e.step category action).dropped.drop e.dropped.length,
      kept.seq < cut.seq

instance (category : ε → String) (e : EdgeClient ε) (action : EdgeAction ε) : Decidable (OrderKept category e action) :=
  inferInstanceAs (Decidable (_ ∧ _))

/-- A snapshot that comes back, as far as the cap lets it in, is older than all that the batch holds by then. -/
def ReturnsOlder (e : EdgeClient ε) (action : EdgeAction ε) : Prop :=
  ∀ call events, action = .requeue call → e.calls[call]? = some (.requeuing events) →
    ∀ old ∈ events.take MAX_RETRY, ∀ new ∈ e.batch, old.seq < new.seq

structure Lined (e : EdgeClient ε) : Prop where
  conserved : e.Conserved
  batch : InOrder e.batch
  held : ∀ call ∈ e.calls, InOrder call.held

theorem take_before_drop {α : Type} {R : α → α → Prop} {xs : List α} (ordered : xs.Pairwise R) (n : Nat) :
    ∀ a ∈ xs.take n, ∀ b ∈ xs.drop n, R a b := by
  rw [← List.take_append_drop n xs, List.pairwise_append] at ordered
  exact ordered.2.2

/-- Two ordered lists, joined and cut: what is left is ordered and before what is cut off exactly when the first list,
as far as it is left, is before the second. -/
theorem joined_take_iff {α : Type} {R : α → α → Prop} {xs ys : List α} (first : xs.Pairwise R)
    (second : ys.Pairwise R) (n : Nat) :
    ((xs ++ ys).take n).Pairwise R ∧ (∀ a ∈ (xs ++ ys).take n, ∀ b ∈ (xs ++ ys).drop n, R a b) ↔
      ∀ a ∈ xs.take n, ∀ b ∈ ys, R a b := by
  rw [List.take_append, List.drop_append, List.pairwise_append]
  constructor
  · rintro ⟨⟨-, -, across⟩, cut⟩ a left b right
    rw [← List.take_append_drop (n - xs.length) ys] at right
    rcases List.mem_append.mp right with kept | gone
    · exact across a left b kept
    · exact cut a (List.mem_append_left _ left) b (List.mem_append_right _ gone)
  · intro across
    refine ⟨⟨first.take, second.take, ?_⟩, ?_⟩
    · intro a left b right
      exact across a left b (List.mem_of_mem_take right)
    · intro a kept b gone
      rcases List.mem_append.mp kept with left | right
      · rcases List.mem_append.mp gone with later | later
        · exact take_before_drop first n a left b later
        · exact across a left b (List.mem_of_mem_drop later)
      · rcases List.mem_append.mp gone with later | later
        · -- Something of the second list is left, so nothing of the first is cut off.
          have room : n - xs.length ≠ 0 := by
            intro full
            simp [full] at right
          rw [List.drop_of_length_le (by omega)] at later
          cases later
        · exact take_before_drop second _ a right b later

theorem Conserved.seq_lt {e : EdgeClient ε} (conserved : e.Conserved) {entry : Entry ε} (held : entry ∈ e.batch) :
    entry.seq < e.accepted.length := by
  have placed : entry ∈ e.places := by simp [places, held]
  have accepted := List.mem_map_of_mem (f := Entry.seq) (conserved.placed.mem_iff.mp placed)
  rw [conserved.numbered] at accepted
  exact List.mem_range.mp accepted

theorem append_batch (e : EdgeClient ε) (events : List ε) :
    (e.append events).batch = e.batch ++ events.mapIdx fun i event => ⟨e.accepted.length + i, event⟩ := by
  unfold append
  dsimp only
  split <;> rfl

theorem append_dropped (e : EdgeClient ε) (events : List ε) : (e.append events).dropped = e.dropped := by
  unfold append
  dsimp only
  split <;> rfl

theorem append_calls (e : EdgeClient ε) (events : List ε) :
    (e.append events).calls = e.calls ∨ (e.append events).calls = e.calls ++ [.flushing] := by
  unfold append
  dsimp only
  split
  · exact .inr rfl
  · exact .inl rfl

theorem append_inOrder {e : EdgeClient ε} (lined : e.Lined) (events : List ε) : InOrder (e.append events).batch := by
  rw [append_batch]
  apply List.pairwise_append.mpr
  refine ⟨lined.batch, ?_, ?_⟩
  · rw [← List.pairwise_map (f := Entry.seq) (R := (· < ·)), entries_numbered, List.pairwise_map]
    exact List.pairwise_lt_range.imp fun less => Nat.add_lt_add_left less _
  · intro old held new added
    have before := lined.conserved.seq_lt held
    obtain ⟨i, _, rfl⟩ := List.mem_mapIdx.mp added
    dsimp only
    omega

theorem started_held {calls : List (FlushCall ε)} (held : ∀ call ∈ calls, InOrder call.held) :
    ∀ call ∈ calls ++ [.flushing], InOrder call.held := by
  intro call member
  rcases List.mem_append.mp member with before | new
  · exact held call before
  · rw [List.mem_singleton.mp new]
    exact List.Pairwise.nil

theorem set_held {calls : List (FlushCall ε)} (held : ∀ call ∈ calls, InOrder call.held) {i : Nat}
    {new : FlushCall ε} (ordered : InOrder new.held) : ∀ call ∈ calls.set i new, InOrder call.held := by
  intro call member
  rcases List.mem_or_eq_of_mem_set member with before | rfl
  · exact held call before
  · exact ordered

/-- A snapshot is in order because the batch is when it is taken. -/
theorem step_held (category : ε → String) {e : EdgeClient ε} (lined : e.Lined) (action : EdgeAction ε) :
    ∀ call ∈ (e.step category action).calls, InOrder call.held := by
  refine step_cases category e action ?same ?grown ?started ?taken ?received ?returned
  case same => exact lined.held
  case grown =>
    intro events
    rcases append_calls e events with calls | calls
    · rw [calls]
      exact lined.held
    · rw [calls]
      exact started_held lined.held
  case started =>
    intro stopped
    exact started_held lined.held
  case taken =>
    intro call _ _
    unfold takeSnapshot
    split
    · exact set_held lined.held List.Pairwise.nil
    · exact set_held lined.held lined.batch
  case received =>
    intro call ok events _ stands
    have ordered : InOrder events := lined.held _ (List.mem_of_getElem? stands)
    unfold receive
    split
    · exact set_held lined.held List.Pairwise.nil
    · exact set_held lined.held ordered
  case returned =>
    intro call events _ _
    exact set_held lined.held List.Pairwise.nil

theorem step_lined (category : ε → String) (e : EdgeClient ε) (action : EdgeAction ε) (lined : e.Lined)
    (kept : OrderKept category e action) : (e.step category action).Lined :=
  ⟨step_conserved category lined.conserved action, kept.1, step_held category lined action⟩

theorem putBack_order {e : EdgeClient ε} (lined : e.Lined) {call : Nat} {events : List (Entry ε)}
    (stands : e.calls[call]? = some (.requeuing events)) :
    InOrder (e.putBack call events).batch ∧
        (∀ kept ∈ (e.putBack call events).batch, ∀ cut ∈ (e.putBack call events).dropped.drop e.dropped.length,
          kept.seq < cut.seq) ↔
      ∀ old ∈ events.take MAX_RETRY, ∀ new ∈ e.batch, old.seq < new.seq := by
  have ordered : InOrder events := lined.held _ (List.mem_of_getElem? stands)
  dsimp only [putBack]
  rw [List.drop_left]
  exact joined_take_iff ordered lined.batch MAX_RETRY

theorem orderKept_iff (category : ε → String) (e : EdgeClient ε) (action : EdgeAction ε) (lined : e.Lined) :
    OrderKept category e action ↔ e.ReturnsOlder action := by
  constructor
  · rintro kept call events rfl stands
    apply (putBack_order lined stands).mp
    simpa only [OrderKept, step, stands] using kept
  · intro older
    unfold OrderKept
    refine step_cases category e action ?same ?grown ?started ?taken ?received ?returned
    case same => exact ⟨lined.batch, by simp⟩
    case grown =>
      intro events
      refine ⟨append_inOrder lined events, ?_⟩
      rw [append_dropped]
      simp
    case started =>
      intro stopped
      exact ⟨lined.batch, by simp [startFlush]⟩
    case taken =>
      intro call _ _
      unfold takeSnapshot
      split
      · exact ⟨lined.batch, by simp⟩
      · exact ⟨List.Pairwise.nil, by simp⟩
    case received =>
      intro call ok events _ _
      unfold receive
      split <;> exact ⟨lined.batch, by simp⟩
    case returned =>
      intro call events returning stands
      exact (putBack_order lined stands).mpr (older call events returning stands)

theorem lined_init : Lined ({} : EdgeClient ε) := ⟨conserved_init, List.Pairwise.nil, by simp⟩

/-- Over every interleaving: after every step the batch is in the order of acceptance and the cap has cut off only the
newest events, if and only if every snapshot that is put back is older than the batch it is put before. -/
theorem order_kept_iff_older_returned (category : ε → String) (actions : List (EdgeAction ε)) :
    Along (step category) (OrderKept category) {} actions ↔ Along (step category) ReturnsOlder {} actions :=
  along_iff (fun e action lined _ => step_lined category e action lined) (orderKept_iff category) lined_init
    (along_true _ _ _)

/-- Two writers whose flushes overlap: the second snapshot fails after the first and is put before it. -/
def overlappingFailures : List (EdgeAction String) :=
  [.writeEvent "first" true, .flush, .take 0, .writeEvent "second" true, .flush, .take 1, .reply 0 false, .reply 1 false,
    .requeue 0, .requeue 1]

theorem overlapping_failures_reverse :
    ¬ Along (step fun _ => "network_events") (OrderKept fun _ => "network_events") {} overlappingFailures := by
  decide

end EdgeClient

end StbEbpf.Agent
