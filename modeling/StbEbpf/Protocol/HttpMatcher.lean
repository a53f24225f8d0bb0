import StbEbpf.Lib.CText
import StbEbpf.Lib.Pending
import StbEbpf.Lib.Tally

/-!
The request-response matcher of `pkg/protocol/http.go`. Each of its operations holds the mutex from beginning to end, so
that a run is the list of the operations in the order in which they get it. A time is a number of nanoseconds.
-/

namespace StbEbpf.Protocol
open CText Pending Run

/-! ### The matcher -/

structure HTTPMatchKey where
  srcIP : Bytes
  dstIP : Bytes
  srcPort : UInt16
  dstPort : UInt16
  deriving DecidableEq, Repr

structure HTTPPending where
  key : HTTPMatchKey
  method : Bytes
  url : Bytes
  host : Bytes
  userAgent : Bytes
  timestamp : Int
  deriving DecidableEq, Repr

structure HTTPMatcher where
  requests : Table HTTPMatchKey HTTPPending := ∅
  window : Int

/-- `time.Since(earlier).Milliseconds()`; a duration is cut off at the range of an `int64`. -/
def millisecondsSince (now earlier : Int) : Int := (max (-2 ^ 63) (min (2 ^ 63 - 1) (now - earlier))).tdiv 1000000

/-- The window that `NewHTTPMatcher` takes for the given one. -/
def usedWindow (window : Int) : Int := if window ≤ 0 then 30 * 1000000000 else window

def newHTTPMatcher (window : Int) : HTTPMatcher := { window := usedWindow window }

namespace HTTPMatcher

def cleanup (m : HTTPMatcher) (before : Int) : HTTPMatcher :=
  { m with requests := purge (fun pending => pending.timestamp < before) m.requests }

def recordRequest (m : HTTPMatcher) (key : HTTPMatchKey) (method url host ua : Bytes) (ts : Int) : HTTPMatcher :=
  { m with requests := m.requests.insert key { key, method, url, host, userAgent := ua, timestamp := ts } }

def matchResponse (m : HTTPMatcher) (key : HTTPMatchKey) (now : Int) : HTTPMatcher × Option HTTPPending × Int :=
  match m.requests.lookup key with
  | none => (m, none, 0)
  | some req => ({ m with requests := m.requests.erase key }, some req, millisecondsSince now req.timestamp)

inductive Operation where
  | recordRequest (key : HTTPMatchKey) (method url host ua : Bytes) (ts : Int)
  | matchResponse (key : HTTPMatchKey) (now : Int)
  /-- One round of `cleanupLoop`. -/
  | cleanupTick (now : Int)
  deriving DecidableEq, Repr

def perform (m : HTTPMatcher) : Operation → HTTPMatcher
  | .recordRequest key method url host ua ts => m.recordRequest key method url host ua ts
  | .matchResponse key now => (m.matchResponse key now).1
  | .cleanupTick now => m.cleanup (now - m.window)

def after (window : Int) (run : List Operation) : HTTPMatcher := run.foldl perform (newHTTPMatcher window)

/-! ### Requests without a response -/

def Operation.action (window : Int) : Operation → Action HTTPMatchKey HTTPPending
  | .recordRequest key method url host ua ts => .ask key { key, method, url, host, userAgent := ua, timestamp := ts }
  | .matchResponse key _ => .answer key
  | .cleanupTick now => .purge fun pending => pending.timestamp < now - usedWindow window

def actions (window : Int) (run : List Operation) : List (Action HTTPMatchKey HTTPPending) :=
  run.map (Operation.action window)

/-- The requests of a connection that have no response yet, in the order in which they were recorded. -/
def unanswered (window : Int) (run : List Operation) (key : HTTPMatchKey) : List HTTPPending :=
  waitingAfter (actions window run) key

/-- The map of the matcher is the table of the requests. -/
theorem after_eq (window : Int) (run : List Operation) :
    after window run = { requests := tableAfter (actions window run), window := usedWindow window } := by
  induction run using List.reverseRecOn with
  | nil => rfl
  | append_singleton run last ih =>
    have steps : after window (run ++ [last]) = (after window run).perform last := by simp [after]
    have acts : actions window (run ++ [last]) = actions window run ++ [last.action window] := by simp [actions]
    rw [steps, ih, acts, tableAfter_concat]
    generalize tableAfter (actions window run) = table
    cases last with
    | recordRequest key method url host ua ts => rfl
    | cleanupTick now => rfl
    | matchResponse key now =>
      unfold perform matchResponse
      dsimp only
      cases found : table.lookup key with
      | none =>
        have same := Tally.erase_missing found
        exact congrArg (fun requests => HTTPMatcher.mk requests _) same.symm
      | some req => rfl

/-! ### What HTTP/1.1 allows -/

/-- A connection has a response only for a request, and no request without a response is older than the window. -/
def Permitted (window : Int) : List Operation → Operation → Prop
  | _, .recordRequest .. => True
  | before, .matchResponse key _ => unanswered window before key ≠ []
  | before, .cleanupTick now =>
    ∀ key, ∀ pending ∈ unanswered window before key, now - usedWindow window ≤ pending.timestamp

/-- A response gets the oldest request of its connection that has none, and the time since then. -/
def MatchesOldest (window : Int) : List Operation → Operation → Prop
  | _, .recordRequest .. => True
  | before, .matchResponse key now =>
    ∃ oldest, (unanswered window before key).head? = some oldest ∧
      ((after window before).matchResponse key now).2 = (some oldest, millisecondsSince now oldest.timestamp)
  | _, .cleanupTick _ => True

/-- At every moment the matcher has all the requests without a response. -/
def NothingLost (window : Int) (run : List Operation) : Prop :=
  ∀ before, before <+: run → ∀ key, held (after window before).requests key = unanswered window before key

/-- A request waits for the response to the one before it: no pipelining. -/
def OneAtATime (window : Int) : List Operation → Operation → Prop
  | before, .recordRequest key .. => unanswered window before key = []
  | _, .matchResponse _ _ => True
  | _, .cleanupTick _ => True

section
variable {window : Int} {run : List Operation}

theorem permitted_actions (permitted : Each (Permitted window) run) : Each Allowed (actions window run) := by
  refine each_map.mpr ?_
  intro before operation after split
  have allowed := permitted before operation after split
  cases operation with
  | recordRequest => trivial
  | matchResponse key now => exact allowed
  | cleanupTick now =>
    intro key pending member
    have young := allowed key pending member
    exact decide_eq_false (Int.not_lt.mpr young)

theorem oneAtATime_actions : Each (OneAtATime window) run ↔ Each Alone (actions window run) := by
  refine Iff.trans ?_ each_map.symm
  have same (before : List Operation) (operation : Operation) :
      OneAtATime window before operation ↔ Alone (actions window before) (operation.action window) := by
    cases operation <;> exact Iff.rfl
  simp only [Each, same]
  rfl

theorem nothingLost_iff :
    NothingLost window run ↔ ∀ before, before <+: actions window run → Holds before := by
  unfold NothingLost
  simp only [after_eq]
  constructor
  · intro kept before start
    obtain ⟨first, inside, rfl⟩ := List.prefix_map_iff.mp start
    exact kept first inside
  · intro holds before start
    exact holds (actions window before) (start.map _)

/-- What the matcher has it returns. -/
theorem matchesOldest_of_holds {before : List Operation} (holds : Holds (actions window before)) {operation : Operation}
    (permitted : Permitted window before operation) : MatchesOldest window before operation := by
  cases operation with
  | recordRequest => trivial
  | cleanupTick now => trivial
  | matchResponse key now =>
    have found := lookup_oldest holds key
    obtain ⟨oldest, rest, queue⟩ := List.exists_cons_of_ne_nil permitted
    have first : (unanswered window before key).head? = some oldest := by rw [queue]; rfl
    refine ⟨oldest, first, ?_⟩
    unfold matchResponse
    rw [after_eq]
    dsimp only
    rw [found.trans first]

end

end HTTPMatcher

open HTTPMatcher

/-- The matcher has room for one request on each connection. -/
theorem matcher_pairs_iff (window : Int) (run : List Operation) (permitted : Each (Permitted window) run) :
    (Each (MatchesOldest window) run ∧ NothingLost window run) ↔ Each (OneAtATime window) run := by
  have table := holds_iff (permitted_actions permitted)
  rw [oneAtATime_actions, ← table, ← nothingLost_iff]
  constructor
  · rintro ⟨-, kept⟩
    exact kept
  · intro kept
    refine ⟨?_, kept⟩
    rintro before operation after rfl
    have holds := nothingLost_iff.mp kept (actions window before) ((List.prefix_append _ _).map _)
    exact matchesOldest_of_holds holds (permitted before operation after rfl)

/-! Requests on two connections to one server, and two requests at once on one of them. -/

def firstConnection : HTTPMatchKey := ⟨ascii "10.0.0.1", ascii "10.0.0.9", 40000, 80⟩

def secondConnection : HTTPMatchKey := ⟨ascii "10.0.0.2", ascii "10.0.0.9", 40000, 80⟩

def getRequest (key : HTTPMatchKey) (url : Bytes) (ts : Int) : Operation :=
  .recordRequest key (ascii "GET") url (ascii "example.com") (ascii "curl") ts

def interleaved : List Operation :=
  [getRequest firstConnection (ascii "/a") 0, getRequest secondConnection (ascii "/b") 1000000,
    .cleanupTick 2000000, .matchResponse secondConnection 3000000, .matchResponse firstConnection 5000000]

def pipelined : List Operation :=
  [getRequest firstConnection (ascii "/a") 0, getRequest firstConnection (ascii "/b") 1000000,
    .matchResponse firstConnection 5000000]

theorem interleaved_permitted : Each (Permitted 0) interleaved := by
  unfold interleaved getRequest
  simp only [each_cons, each_nil, and_true]
  refine ⟨trivial, trivial, ?_, ?_, ?_⟩
  · intro key pending member
    have apart : secondConnection ≠ firstConnection := by decide
    simp only [unanswered, actions, waitingAfter, List.map_cons, List.map_nil, List.foldl_cons, List.foldl_nil,
      Operation.action, await, Function.update_apply, if_neg apart, List.nil_append] at member
    split at member
    · obtain rfl := List.mem_singleton.mp member
      decide
    · split at member
      · obtain rfl := List.mem_singleton.mp member
        decide
      · cases member
  · show unanswered _ _ _ ≠ []
    decide
  · show unanswered _ _ _ ≠ []
    decide

theorem pipelined_permitted : Each (Permitted 0) pipelined := by
  unfold pipelined getRequest
  simp only [each_cons, each_nil, and_true]
  refine ⟨trivial, trivial, ?_⟩
  show unanswered _ _ _ ≠ []
  decide

theorem interleaved_pairs : Each (MatchesOldest 0) interleaved ∧ NothingLost 0 interleaved := by
  apply (matcher_pairs_iff 0 interleaved interleaved_permitted).mpr
  unfold interleaved getRequest
  simp only [each_cons, each_nil, and_true]
  refine ⟨?_, ?_, trivial, trivial, trivial⟩
  · show unanswered _ _ _ = []
    decide
  · show unanswered _ _ _ = []
    decide

/-- The response to the first request is matched with the second one. -/
theorem pipelined_crosses :
    Each (Permitted 0) pipelined ∧
      ((after 0 (pipelined.take 2)).matchResponse firstConnection 5000000).2.1.map HTTPPending.url = some (ascii "/b") ∧
      (unanswered 0 (pipelined.take 2) firstConnection).map HTTPPending.url = [ascii "/a", ascii "/b"] ∧
      ¬ Each (MatchesOldest 0) pipelined ∧ ¬ NothingLost 0 pipelined := by
  refine ⟨pipelined_permitted, by decide, by decide, ?_, ?_⟩
  · intro each
    obtain ⟨oldest, first, returned⟩ := each (pipelined.take 2) (.matchResponse firstConnection 5000000) [] rfl
    have given : ((after 0 (pipelined.take 2)).matchResponse firstConnection 5000000).2.1 =
        (unanswered 0 (pipelined.take 2) firstConnection).head? := by rw [returned, first]
    exact absurd given (by decide)
  · intro kept
    have same := kept (pipelined.take 2) (List.take_prefix _ _) firstConnection
    exact absurd (congrArg List.length same) (by decide)

end StbEbpf.Protocol
