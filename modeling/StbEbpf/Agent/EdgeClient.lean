import StbEbpf.Lib.Pool

/-!
The batching client of `internal/output/edge.go`. Each section under the mutex is one step; the calls in progress are
listed with the point they have reached, and any of them may take the next step.
-/

namespace StbEbpf.Agent
open Pool

def MAX_BATCH : Nat := 2000
def MAX_RETRY : Nat := 10000

/-- In thousandths. -/
def categorySampling (category : String) : Option Nat :=
  if category = "file_events" then some 10
  else if category = "network_events" then some 100
  else if category = "process_events" then some 100
  else if category = "security_events" then some 1000
  else if category = "syscall" then some 1
  else none

/-- `draw` is whether `rand.Float64()` falls below the rate. -/
def shouldSample (category : String) (draw : Bool) : Bool :=
  let rate := (categorySampling category).getD 1000
  if rate ≥ 1000 then true else draw

/-- An event that passed sampling, with its number among all that did. -/
structure Entry (ε : Type) where
  seq : Nat
  event : ε
  deriving DecidableEq, Repr

/-- Where a call of `flush` stands: before its first section, waiting for the reply, or about to put its snapshot
back. -/
inductive FlushCall (ε : Type) where
  | flushing
  | posting (events : List (Entry ε))
  | requeuing (events : List (Entry ε))
  | done
  deriving DecidableEq, Repr

def FlushCall.held {ε : Type} : FlushCall ε → List (Entry ε)
  | .posting events | .requeuing events => events
  | .flushing | .done => []

/-- `accepted`, `acked` and `dropped` are history: the events that passed sampling, those of a snapshot that was
answered with 200, and those cut off by the cap. -/
structure EdgeClient (ε : Type) where
  batch : List (Entry ε) := []
  calls : List (FlushCall ε) := []
  stopped : Bool := false
  accepted : List (Entry ε) := []
  acked : List (Entry ε) := []
  dropped : List (Entry ε) := []
  deriving DecidableEq, Repr

inductive EdgeAction (ε : Type) where
  | writeEvent (event : ε) (draw : Bool)
  | writeBatch (events : List (ε × Bool))
  | flush
  | close
  | take (call : Nat)
  | reply (call : Nat) (ok : Bool)
  | requeue (call : Nat)

namespace EdgeClient
variable {ε : Type}

def inFlight (e : EdgeClient ε) : List (Entry ε) := holdings FlushCall.held e.calls

def startFlush (e : EdgeClient ε) : EdgeClient ε := { e with calls := e.calls ++ [.flushing] }

/-- The section of `WriteEvent` and of `WriteBatch`, and the flush that follows it on a full batch. -/
def append (e : EdgeClient ε) (events : List ε) : EdgeClient ε :=
  let entries := events.mapIdx fun i event => ⟨e.accepted.length + i, event⟩
  let e := { e with batch := e.batch ++ entries, accepted := e.accepted ++ entries }
  if e.batch.length ≥ MAX_BATCH then e.startFlush else e

def writeEvent (category : ε → String) (e : EdgeClient ε) (event : ε) (draw : Bool) : EdgeClient ε :=
  if shouldSample (category event) draw then e.append [event] else e

def writeBatch (category : ε → String) (e : EdgeClient ε) (events : List (ε × Bool)) : EdgeClient ε :=
  let filtered := (events.filter fun (event, draw) => shouldSample (category event) draw).map Prod.fst
  if filtered = [] then e else e.append filtered

/-- A second `Close` panics in `close(e.stopCh)`. -/
def close (e : EdgeClient ε) : EdgeClient ε :=
  if e.stopped then e else { e with stopped := true }.startFlush

def takeSnapshot (e : EdgeClient ε) (call : Nat) : EdgeClient ε :=
  if e.batch = [] then { e with calls := e.calls.set call .done }
  else { e with batch := [], calls := e.calls.set call (.posting e.batch) }

def receive (e : EdgeClient ε) (call : Nat) (events : List (Entry ε)) (ok : Bool) : EdgeClient ε :=
  if ok then { e with acked := e.acked ++ events, calls := e.calls.set call .done }
  else { e with calls := e.calls.set call (.requeuing events) }

def putBack (e : EdgeClient ε) (call : Nat) (events : List (Entry ε)) : EdgeClient ε :=
  { e with
    batch := (events ++ e.batch).take MAX_RETRY
    dropped := e.dropped ++ (events ++ e.batch).drop MAX_RETRY
    calls := e.calls.set call .done }

def step (category : ε → String) (e : EdgeClient ε) : EdgeAction ε → EdgeClient ε
  | .writeEvent event draw => e.writeEvent category event draw
  | .writeBatch events => e.writeBatch category events
  | .flush => e.startFlush
  | .close => e.close
  | .take call =>
    match e.calls[call]? with
    | some .flushing => e.takeSnapshot call
    | _ => e
  | .reply call ok =>
    match e.calls[call]? with
    | some (.posting events) => e.receive call events ok
    | _ => e
  | .requeue call =>
    match e.calls[call]? with
    | some (.requeuing events) => e.putBack call events
    | _ => e

def run (category : ε → String) (e : EdgeClient ε) (actions : List (EdgeAction ε)) : EdgeClient ε :=
  actions.foldl (step category) e

end EdgeClient

end StbEbpf.Agent
