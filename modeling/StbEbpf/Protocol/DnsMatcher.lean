import StbEbpf.Lib.CText
import StbEbpf.Lib.Pending
import StbEbpf.Lib.Tally
import StbEbpf.Protocol.HttpMatcher

/-!
The query-response matcher of `pkg/protocol/dns.go`. As in the matcher for HTTP each operation holds the mutex from
beginning to end, and a time is a number of nanoseconds.
-/

namespace StbEbpf.Protocol
open CText Pending

structure DNSMatchKey where
  queryID : UInt16
  srcIP : Bytes
  srcPort : UInt16
  dstIP : Bytes
  dstPort : UInt16
  deriving DecidableEq, Repr

structure DNSPending where
  key : DNSMatchKey
  qname : Bytes
  qtype : Bytes
  timestamp : Int
  deriving DecidableEq, Repr

structure DNSMatcher where
  requests : Table DNSMatchKey DNSPending := ∅
  window : Int

namespace DNSMatcher

/-- The window that `NewDNSMatcher` takes for the given one. -/
def usedWindow (window : Int) : Int := if window ≤ 0 then 10 * 1000000000 else window

def newDNSMatcher (window : Int) : DNSMatcher := { window := usedWindow window }

def cleanup (m : DNSMatcher) (before : Int) : DNSMatcher :=
  { m with requests := purge (fun pending => pending.timestamp < before) m.requests }

def recordQuery (m : DNSMatcher) (key : DNSMatchKey) (qname qtype : Bytes) (ts : Int) : DNSMatcher :=
  { m with requests := m.requests.insert key { key, qname, qtype, timestamp := ts } }

def matchResponse (m : DNSMatcher) (key : DNSMatchKey) (now : Int) : DNSMatcher × Option DNSPending × Int × Bool :=
  match m.requests.lookup key with
  | none => (m, none, 0, false)
  | some req => ({ m with requests := m.requests.erase key }, some req, millisecondsSince now req.timestamp, true)

inductive Operation where
  | recordQuery (key : DNSMatchKey) (qname qtype : Bytes) (ts : Int)
  | matchResponse (key : DNSMatchKey) (now : Int)
  /-- One round of `cleanupLoop`. -/
  | cleanupTick (now : Int)
  deriving DecidableEq, Repr

def perform (m : DNSMatcher) : Operation → DNSMatcher
  | .recordQuery key qname qtype ts => m.recordQuery key qname qtype ts
  | .matchResponse key now => (m.matchResponse key now).1
  | .cleanupTick now => m.cleanup (now - m.window)

def after (window : Int) (run : List Operation) : DNSMatcher := run.foldl perform (newDNSMatcher window)

/-! ### The queries that wait -/

def Operation.action (window : Int) : Operation → Action DNSMatchKey DNSPending
  | .recordQuery key qname qtype ts => .ask key { key, qname, qtype, timestamp := ts }
  | .matchResponse key _ => .answer key
  | .cleanupTick now => .purge fun pending => pending.timestamp < now - usedWindow window

theorem perform_eq {window : Int} (m : DNSMatcher) (operation : Operation) (used : m.window = usedWindow window) :
    m.perform operation = { m with requests := step m.requests (operation.action window) } := by
  cases operation with
  | recordQuery key qname qtype ts => rfl
  | cleanupTick now =>
    unfold perform cleanup
    rw [used]
    rfl
  | matchResponse key now =>
    unfold perform matchResponse
    dsimp only
    cases found : m.requests.lookup key with
    | none =>
      have same := Tally.erase_missing found
      exact congrArg (fun requests => { m with requests }) same.symm
    | some req => rfl

/-- The map of the matcher is the table of the queries. -/
theorem after_eq (window : Int) (run : List Operation) :
    after window run =
      { requests := tableAfter (run.map (Operation.action window)), window := usedWindow window } := by
  induction run using List.reverseRecOn with
  | nil => rfl
  | append_singleton run last ih =>
    have steps : after window (run ++ [last]) = (after window run).perform last := by simp [after]
    rw [steps, perform_eq _ last (by rw [ih]), ih, List.map_append, List.map_singleton, tableAfter_concat]

/-- The operation takes the query away: a later one with its key, a response, or a round that finds it too old. -/
def Ends (window : Int) (query : DNSPending) : Operation → Prop
  | .recordQuery key .. => key = query.key
  | .matchResponse key _ => key = query.key
  | .cleanupTick now => query.timestamp < now - usedWindow window

/-- The query was recorded, and nothing has taken it away since. -/
def Waits (window : Int) (run : List Operation) (query : DNSPending) : Prop :=
  ∃ before later, run = before ++ .recordQuery query.key query.qname query.qtype query.timestamp :: later ∧
    ∀ operation ∈ later, ¬ Ends window query operation

theorem ends_iff (window : Int) (query : DNSPending) (operation : Operation) :
    Removes query.key query (operation.action window) ↔ Ends window query operation := by
  cases operation with
  | recordQuery | matchResponse => exact Iff.rfl
  | cleanupTick now => exact decide_eq_true_iff

theorem lookup_iff (window : Int) (run : List Operation) (key : DNSMatchKey) (query : DNSPending) :
    (after window run).requests.lookup key = some query ↔ query.key = key ∧ Waits window run query := by
  rw [after_eq, lookup_tableAfter_iff]
  constructor
  · rintro ⟨before, later, split, kept⟩
    obtain ⟨first, rest, rfl, rfl, asked⟩ := List.map_eq_append_iff.mp split
    obtain ⟨operation, last, rfl, made, rfl⟩ := List.map_eq_cons_iff.mp asked
    cases operation with
    | recordQuery asked qname qtype ts =>
      obtain ⟨rfl, rfl⟩ := Action.ask.inj made
      refine ⟨rfl, first, last, rfl, ?_⟩
      intro operation member ended
      exact kept _ (List.mem_map_of_mem member) ((ends_iff ..).mpr ended)
    | matchResponse => cases made
    | cleanupTick => cases made
  · rintro ⟨rfl, before, later, rfl, kept⟩
    refine ⟨before.map (Operation.action window), later.map (Operation.action window), by simp [Operation.action], ?_⟩
    intro action member
    obtain ⟨operation, inside, rfl⟩ := List.mem_map.mp member
    rw [ends_iff]
    exact kept operation inside

end DNSMatcher

open DNSMatcher

/-- For every run of the matcher, whatever the order of its operations and of the times: a response is matched with a
query if and only if that query waits under its key, and gets the time since then; else it is matched with none. -/
theorem response_matched_iff (window : Int) (run : List DNSMatcher.Operation) (key : DNSMatchKey) (now : Int) :
    (∀ query, ((after window run).matchResponse key now).2 = (some query, millisecondsSince now query.timestamp, true) ↔
      query.key = key ∧ Waits window run query) ∧
    ((after window run).matchResponse key now = (after window run, none, 0, false) ↔
      ∀ query, query.key = key → ¬ Waits window run query) := by
  constructor
  · intro query
    rw [← lookup_iff]
    unfold matchResponse
    cases found : (after window run).requests.lookup key with
    | none => simp
    | some req =>
      constructor
      · intro same
        exact congrArg Prod.fst same
      · intro same
        obtain rfl := Option.some.inj same
        rfl
  · have absent : (after window run).requests.lookup key = none ↔ ∀ query, query.key = key → ¬ Waits window run query := by
      rw [Option.eq_none_iff_forall_ne_some]
      refine forall_congr' fun query => ?_
      rw [Ne, lookup_iff, not_and]
    rw [← absent]
    unfold matchResponse
    cases (after window run).requests.lookup key with
    | none => simp
    | some req => simp

end StbEbpf.Protocol
