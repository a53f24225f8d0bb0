import StbEbpf.Agent.EdgeCustody
import StbEbpf.Lib.Run

/-!
The probe's edge client and the ingest handler of `cmd/edge/main.go` at the two ends of a request. A request belongs
to the flush call that posted it; when the client gives up waiting, the handler goes on without it.
-/

namespace StbEbpf.Agent
open Run

/-- A request: on its way, in the loop of inserts, or answered, with 200 or not. -/
inductive Exchange (ε : Type) where
  | sent (events : List (Entry ε))
  | handling (todo : List (Entry ε))
  | answered (ok : Bool)
  deriving DecidableEq, Repr

/-- `inserted` are the rows for which `ClickHouse.WriteEvent` returned no error. -/
structure Ingest (ε : Type) where
  client : EdgeClient ε := {}
  exchanges : Nat → Option (Exchange ε) := fun _ => none
  inserted : List (Entry ε) := []

inductive IngestAction (ε : Type) where
  | client (action : EdgeAction ε)
  | arrive (call : Nat) (decodes : Bool)
  | insert (call : Nat) (ok : Bool)
  | respond (call : Nat)
  | deliver (call : Nat)
  -- A transport error, or the timeout of 30 seconds.
  | giveUp (call : Nat)

namespace Ingest
variable {ε : Type}

def setExchange (s : Ingest ε) (call : Nat) (exchange : Exchange ε) : Ingest ε :=
  { s with exchanges := fun i => if i = call then some exchange else s.exchanges i }

/-- Replies come from the handler, so the client does not take that step by itself. -/
def clientStep (category : ε → String) (s : Ingest ε) : EdgeAction ε → Ingest ε
  | .reply _ _ => s
  | .take call =>
    let taken := { s with client := s.client.step category (.take call) }
    match s.client.calls[call]? with
    | some .flushing => if s.client.batch = [] then taken else taken.setExchange call (.sent s.client.batch)
    | _ => taken
  | action => { s with client := s.client.step category action }

/-- One turn of the handler's loop; the error of `WriteEvent` is not looked at. -/
def insertNext (s : Ingest ε) (call : Nat) (ok : Bool) (entry : Entry ε) (rest : List (Entry ε)) : Ingest ε :=
  { s with inserted := if ok then s.inserted ++ [entry] else s.inserted }.setExchange call (.handling rest)

def step (category : ε → String) (s : Ingest ε) : IngestAction ε → Ingest ε
  | .client action => s.clientStep category action
  | .arrive call decodes =>
    match s.exchanges call with
    | some (.sent events) => s.setExchange call (if decodes then .handling events else .answered false)
    | _ => s
  | .insert call ok =>
    match s.exchanges call with
    | some (.handling (entry :: rest)) => s.insertNext call ok entry rest
    | _ => s
  | .respond call =>
    match s.exchanges call with
    | some (.handling []) => s.setExchange call (.answered true)
    | _ => s
  | .deliver call =>
    match s.exchanges call with
    | some (.answered ok) => { s with client := s.client.step category (.reply call ok) }
    | _ => s
  | .giveUp call => { s with client := s.client.step category (.reply call false) }

def run (category : ε → String) (s : Ingest ε) (actions : List (IngestAction ε)) : Ingest ε :=
  actions.foldl (step category) s

/-- The client of the composed system only takes steps of the client by itself. -/
theorem step_client (category : ε → String) (s : Ingest ε) (action : IngestAction ε) :
    ∃ actions, (s.step category action).client = s.client.run category actions := by
  cases action with
  | client action =>
    cases action with
    | reply call ok => exact ⟨[], rfl⟩
    | take call =>
      refine ⟨[.take call], ?_⟩
      dsimp only [step, clientStep]
      split
      · split <;> rfl
      · rfl
    | writeEvent event draw => exact ⟨[.writeEvent event draw], rfl⟩
    | writeBatch events => exact ⟨[.writeBatch events], rfl⟩
    | flush => exact ⟨[.flush], rfl⟩
    | close => exact ⟨[.close], rfl⟩
    | requeue call => exact ⟨[.requeue call], rfl⟩
  | arrive call decodes | insert call ok | respond call =>
    refine ⟨[], ?_⟩
    dsimp only [step]
    split <;> rfl
  | deliver call =>
    dsimp only [step]
    split
    · rename_i ok _
      exact ⟨[.reply call ok], rfl⟩
    · exact ⟨[], rfl⟩
  | giveUp call => exact ⟨[.reply call false], rfl⟩

theorem run_client (category : ε → String) (s : Ingest ε) (actions : List (IngestAction ε)) :
    ∃ clientActions, (s.run category actions).client = s.client.run category clientActions := by
  induction actions generalizing s with
  | nil => exact ⟨[], rfl⟩
  | cons action rest ih =>
    obtain ⟨first, one⟩ := step_client category s action
    obtain ⟨later, more⟩ := ih (s.step category action)
    refine ⟨first ++ later, ?_⟩
    rw [one] at more
    exact more.trans (List.foldl_append ..).symm

/-! ### What a 200 stands for -/

def Awaited (s : Ingest ε) (call : Nat) : Prop := ∃ events, s.client.calls[call]? = some (.posting events)

/-- Inserts for a request that is still waited for do not fail. -/
def InsertsOk (s : Ingest ε) : IngestAction ε → Prop
  | .insert call false => ¬ s.Awaited call
  | _ => True

def RunInsertsOk (category : ε → String) (s : Ingest ε) (actions : List (IngestAction ε)) : Prop :=
  Along (step category) InsertsOk s actions

/-- How far the handling of a request has got with the events that the client holds for it. -/
def Exchange.Covers (inserted events : List (Entry ε)) : Exchange ε → Prop
  | .sent body => body = events
  | .handling todo => ∀ entry ∈ events, entry ∈ todo ∨ entry ∈ inserted
  | .answered true => ∀ entry ∈ events, entry ∈ inserted
  | .answered false => True

structure Honest (s : Ingest ε) : Prop where
  waiting : ∀ call events, s.client.calls[call]? = some (.posting events) →
    ∃ exchange, s.exchanges call = some exchange ∧ Exchange.Covers s.inserted events exchange
  acked : ∀ entry ∈ s.client.acked, entry ∈ s.inserted

theorem covers_mono {inserted more events : List (Entry ε)} {exchange : Exchange ε} (grows : inserted ⊆ more)
    (covers : Exchange.Covers inserted events exchange) : Exchange.Covers more events exchange := by
  cases exchange with
  | sent body => exact covers
  | handling todo => exact fun entry member => (covers entry member).imp id (grows ·)
  | answered ok =>
    cases ok with
    | true => exact fun entry member => grows (covers entry member)
    | false => trivial

theorem quiet_acked (category : ε → String) {e : EdgeClient ε} {action : EdgeAction ε}
    (quiet : ∀ call, action ≠ .reply call true) : (e.step category action).acked = e.acked := by
  rcases e.step_acked category action with same | ⟨call, -, reply, -⟩
  · exact same
  · exact absurd reply (quiet call)

theorem honest_client (category : ε → String) {s : Ingest ε} (honest : s.Honest) {action : EdgeAction ε}
    (noTake : ∀ call, action ≠ .take call) (quiet : ∀ call, action ≠ .reply call true) :
    Honest { s with client := s.client.step category action } := by
  refine ⟨fun call events after => ?_, ?_⟩
  · rcases EdgeClient.step_posting category after with before | ⟨take, -⟩
    · exact honest.waiting call events before
    · exact absurd take (noTake call)
  · rw [quiet_acked category quiet]
    exact honest.acked

theorem honest_take (category : ε → String) {s : Ingest ε} (honest : s.Honest) (call : Nat) :
    (s.clientStep category (.take call)).Honest := by
  have acked : ∀ entry ∈ (s.client.step category (.take call)).acked, entry ∈ s.inserted := by
    rw [quiet_acked category (by simp)]
    exact honest.acked
  unfold clientStep
  dsimp only
  split
  · rename_i flushing
    split
    · rename_i empty
      refine ⟨fun i events after => ?_, acked⟩
      rcases EdgeClient.step_posting category after with before | ⟨-, -, full, -⟩
      · exact honest.waiting i events before
      · exact absurd empty full
    · refine ⟨fun i events after => ?_, acked⟩
      rcases EdgeClient.step_posting category after with before | ⟨same, -, -, rfl⟩
      · have apart : i ≠ call := by
          rintro rfl
          rw [flushing] at before
          cases before
        obtain ⟨exchange, found, covers⟩ := honest.waiting i events before
        exact ⟨exchange, by simpa [setExchange, apart] using found, covers⟩
      · cases same
        exact ⟨.sent s.client.batch, by simp [setExchange], rfl⟩
  · rename_i other
    refine ⟨fun i events after => ?_, acked⟩
    rcases EdgeClient.step_posting category after with before | ⟨same, flushing, -, -⟩
    · exact honest.waiting i events before
    · cases same
      exact absurd flushing other

theorem honest_exchange {s : Ingest ε} (honest : s.Honest) {call : Nat} {old new : Exchange ε}
    {inserted : List (Entry ε)} (stands : s.exchanges call = some old) (grows : s.inserted ⊆ inserted)
    (moves : ∀ events, s.client.calls[call]? = some (.posting events) →
      Exchange.Covers s.inserted events old → Exchange.Covers inserted events new) :
    Honest ({ s with inserted }.setExchange call new) := by
  refine ⟨fun i events before => ?_, fun entry member => grows (honest.acked entry member)⟩
  obtain ⟨exchange, found, covers⟩ := honest.waiting i events before
  by_cases same : i = call
  · subst same
    rw [stands] at found
    cases found
    exact ⟨new, by simp [setExchange], moves events before covers⟩
  · exact ⟨exchange, by simpa [setExchange, same] using found, covers_mono grows covers⟩

theorem honest_deliver (category : ε → String) {s : Ingest ε} (honest : s.Honest) {call : Nat} {ok : Bool}
    (answer : s.exchanges call = some (.answered ok)) :
    Honest { s with client := s.client.step category (.reply call ok) } := by
  refine ⟨fun i events after => ?_, ?_⟩
  · rcases EdgeClient.step_posting category after with before | ⟨take, -⟩
    · exact honest.waiting i events before
    · cases take
  · rcases s.client.step_acked category (.reply call ok) with same | ⟨_, events, reply, stands, grown⟩
    · rw [same]
      exact honest.acked
    · cases reply
      rw [grown]
      intro entry member
      rcases List.mem_append.mp member with older | newer
      · exact honest.acked entry older
      · obtain ⟨exchange, found, covers⟩ := honest.waiting call events stands
        rw [answer] at found
        cases found
        exact covers entry newer

theorem step_honest (category : ε → String) {s : Ingest ε} (honest : s.Honest) {action : IngestAction ε}
    (inserts : s.InsertsOk action) : (s.step category action).Honest := by
  cases action with
  | client action =>
    cases action with
    | reply call ok => exact honest
    | take call => exact honest_take category honest call
    | writeEvent event draw => exact honest_client category honest (by simp) (by simp)
    | writeBatch events => exact honest_client category honest (by simp) (by simp)
    | flush => exact honest_client category honest (by simp) (by simp)
    | close => exact honest_client category honest (by simp) (by simp)
    | requeue call => exact honest_client category honest (by simp) (by simp)
  | arrive call decodes =>
    dsimp only [step]
    split
    · rename_i body stands
      refine honest_exchange honest stands (List.Subset.refl _) fun events _ covers => ?_
      cases decodes with
      | true =>
        obtain rfl : body = events := covers
        exact fun entry member => .inl member
      | false => trivial
    · exact honest
  | insert call ok =>
    dsimp only [step]
    split
    · rename_i entry rest stands
      refine honest_exchange honest stands (by split <;> simp) fun events waiting covers => ?_
      cases ok with
      | true =>
        intro other member
        rcases covers other member with todo | done
        · rcases List.mem_cons.mp todo with rfl | later
          · exact .inr (by simp)
          · exact .inl later
        · exact .inr (by simp [done])
      | false => exact absurd ⟨events, waiting⟩ inserts
    · exact honest
  | respond call =>
    dsimp only [step]
    split
    · rename_i stands
      refine honest_exchange honest stands (List.Subset.refl _) fun events _ covers entry member => ?_
      rcases covers entry member with todo | done
      · cases todo
      · exact done
    · exact honest
  | deliver call =>
    dsimp only [step]
    split
    · rename_i ok answer
      exact honest_deliver category honest answer
    · exact honest
  | giveUp call => exact honest_client category honest (by simp) (by simp)

theorem run_honest (category : ε → String) {s : Ingest ε} (honest : s.Honest) {actions : List (IngestAction ε)}
    (inserts : s.RunInsertsOk category actions) : (s.run category actions).Honest := by
  refine foldl_keeps (I := Honest) (fun t action honest ok => ?_) honest inserts
  exact step_honest category honest ok

theorem honest_init : Honest ({} : Ingest ε) := ⟨by simp, by simp⟩

/-- In every run in which the inserts made for a client that is still waiting succeed, an event that the client has
given up on a 200 is in the database, and every other accepted event is still held or was cut off by the cap. -/
theorem acknowledged_events_inserted (category : ε → String) (actions : List (IngestAction ε))
    (inserts : RunInsertsOk category ({} : Ingest ε) actions) :
    let s := ({} : Ingest ε).run category actions
    (∀ entry ∈ s.client.acked, entry ∈ s.inserted) ∧
      ∀ entry ∈ s.client.accepted, entry ∈ s.inserted ∨ entry ∈ s.client.batch ∨ entry ∈ s.client.inFlight ∨
        entry ∈ s.client.dropped := by
  intro s
  have honest : s.Honest := run_honest category honest_init inserts
  refine ⟨honest.acked, fun entry accepted => ?_⟩
  obtain ⟨clientActions, same⟩ := run_client category ({} : Ingest ε) actions
  have conserved : s.client.Conserved := by
    rw [show s.client = _ from same]
    exact EdgeClient.run_conserved category EdgeClient.conserved_init clientActions
  have place := conserved.placed.mem_iff.mpr accepted
  simp only [EdgeClient.places, List.mem_append] at place
  rcases place with ((batch | flying) | acked) | dropped
  · exact .inr (.inl batch)
  · exact .inr (.inr (.inl flying))
  · exact .inl (honest.acked entry acked)
  · exact .inr (.inr (.inr dropped))

def oneEvent (ok : Bool) : List (IngestAction String) :=
  [.client (.writeEvent "dns" true), .client .flush, .client (.take 0), .arrive 0 true, .insert 0 ok, .respond 0,
   .deliver 0]

theorem one_event_inserted :
    let s := ({} : Ingest String).run id (oneEvent true)
    s.client.acked = [⟨0, "dns"⟩] ∧ ∀ entry ∈ s.client.acked, entry ∈ s.inserted := by
  refine ⟨rfl, (acknowledged_events_inserted id (oneEvent true) ?_).1⟩
  simp [oneEvent, RunInsertsOk, Along, InsertsOk]

-- The insert fails, the handler answers 200 all the same and the client lets go of the event.
theorem failed_insert_acknowledged :
    ¬ ∀ entry ∈ (({} : Ingest String).run id (oneEvent false)).client.acked,
      entry ∈ (({} : Ingest String).run id (oneEvent false)).inserted := by
  intro inserted
  have acked : (({} : Ingest String).run id (oneEvent false)).client.acked = [⟨0, "dns"⟩] := rfl
  have nothing : (({} : Ingest String).run id (oneEvent false)).inserted = [] := rfl
  rw [acked, nothing] at inserted
  exact absurd (inserted ⟨0, "dns"⟩ (by simp)) (by simp)

end Ingest

end StbEbpf.Agent
