import Mathlib.Data.List.Basic

/-!
The collectors of `internal/collector` as far as starting and stopping goes: the flag, the stop channel, and the
goroutines that `Start` leaves behind. A loop looks at what may end it once a turn; until its next look it runs on.
-/

namespace StbEbpf.Agent

inductive Kind where
  | network | performance | security | syscall | protocol | httpTrace | dnsTrace | dbTrace | schedTrace | memTrace
  | blockTrace | securityTrace | hostMetrics
  deriving DecidableEq, Repr

inductive ReaderField where
  | reader | httpReader | fileReader | tcpReader
  deriving DecidableEq, Repr

/-- `flush` is every loop that selects on a ticker, the stop channel and the context. -/
inductive Role where
  | read (field : ReaderField) | capture | flush
  deriving DecidableEq, Repr

/-- The loops that a `Start` can launch. -/
def Kind.roles : Kind → List Role
  | .network => [.read .reader, .read .httpReader]
  | .security => [.read .fileReader, .read .tcpReader]
  | .protocol => [.capture, .flush]
  | .performance | .syscall | .httpTrace | .dnsTrace | .dbTrace | .securityTrace => [.read .reader]
  | .schedTrace | .memTrace | .blockTrace => [.read .reader, .flush]
  | .hostMetrics => [.flush]

structure Loop where
  role : Role
  ctx : Nat
  deriving DecidableEq, Repr

/-- `readers` are the fields that `Init` left non-nil, `stopClosed` says whether `stopCh` is closed. No code makes a
new channel. -/
structure Collector where
  kind : Kind
  readers : List ReaderField
  running : Bool := false
  stopClosed : Bool := false
  loops : List Loop := []
  deriving DecidableEq, Repr

namespace Collector

def launch (ctx : Nat) (roles : List Role) (c : Collector) : Collector :=
  { c with running := true, loops := c.loops ++ roles.map fun role => ⟨role, ctx⟩ }

def networkStart (ctx : Nat) (c : Collector) : Collector :=
  if .reader ∉ c.readers then c.launch ctx []
  else if .httpReader ∉ c.readers then c.launch ctx [.read .reader]
  else c.launch ctx [.read .reader, .read .httpReader]

def performanceStart (ctx : Nat) (c : Collector) : Collector := c.launch ctx [.read .reader]

def securityStart (ctx : Nat) (c : Collector) : Collector :=
  c.launch ctx (([.fileReader, .tcpReader].filter (· ∈ c.readers)).map .read)

def syscallStart (ctx : Nat) (c : Collector) : Collector :=
  c.launch ctx (([.reader].filter (· ∈ c.readers)).map .read)

/-- `opens` is whether the AF_PACKET socket is granted. -/
def protocolStart (opens : Bool) (ctx : Nat) (c : Collector) : Collector :=
  if opens then c.launch ctx [.capture, .flush] else c.launch ctx []

/-- The reader is used without a look at whether there is one. -/
def traceStart (ctx : Nat) (c : Collector) : Collector := c.launch ctx [.read .reader]

def httpTraceStart := traceStart
def dnsTraceStart := traceStart
def dbTraceStart := traceStart
def securityTraceStart := traceStart

def analyzerStart (ctx : Nat) (c : Collector) : Collector := c.launch ctx [.read .reader, .flush]

def schedTraceStart := analyzerStart
def memTraceStart := analyzerStart
def blockTraceStart := analyzerStart

def hostMetricsStart (ctx : Nat) (c : Collector) : Collector := c.launch ctx [.flush]

def start (opens : Bool) (ctx : Nat) (c : Collector) : Collector :=
  match c.kind with
  | .network => c.networkStart ctx
  | .performance => c.performanceStart ctx
  | .security => c.securityStart ctx
  | .syscall => c.syscallStart ctx
  | .protocol => c.protocolStart opens ctx
  | .httpTrace => c.httpTraceStart ctx
  | .dnsTrace => c.dnsTraceStart ctx
  | .dbTrace => c.dbTraceStart ctx
  | .schedTrace => c.schedTraceStart ctx
  | .memTrace => c.memTraceStart ctx
  | .blockTrace => c.blockTraceStart ctx
  | .securityTrace => c.securityTraceStart ctx
  | .hostMetrics => c.hostMetricsStart ctx

def halted (c : Collector) : Collector := { c with running := false, stopClosed := true }

/-- Closing a closed channel panics; only the host metrics look first. -/
def stop (c : Collector) : Option Collector :=
  if c.kind = .hostMetrics then some c.halted else if c.stopClosed then none else some c.halted

end Collector

def managerStart (opens : Bool) (ctx : Nat) (collectors : List Collector) : List Collector :=
  collectors.map (Collector.start opens ctx)

/-- A panic leaves the collectors behind it as they are. -/
def managerStop : List Collector → List Collector × Bool
  | [] => ([], false)
  | c :: rest =>
    match c.stop with
    | none => (c :: rest, true)
    | some stopped =>
      let (others, panicked) := managerStop rest
      (stopped :: others, panicked)

end StbEbpf.Agent
