import StbEbpf.Agent.Instances
import Mathlib.Logic.Function.Basic

/-!
`collector.Manager` of `internal/collector/manager.go`: `Init`, `Start`, `Stop`, `Unload` and `Reload`. The slice holds
pointers, so that a collector which has left it is still there with its loops and with what it holds.
-/

namespace StbEbpf.Agent
open Run

structure CollectorConfig where
  networkFlow : Bool := true
  processExec : Bool := true
  tcpConnect : Bool := true
  syscall : Bool := true
  httpTrace : Bool := false
  dnsTrace : Bool := false
  dbTrace : Bool := false
  schedTrace : Bool := false
  memTrace : Bool := false
  blockTrace : Bool := false
  securityTrace : Bool := false
  hostMetrics : Bool := true

def Kind.name : Kind → String
  | .network => "network"
  | .performance => "performance"
  | .security => "security"
  | .syscall => "syscall"
  | .protocol => "protocol"
  | .httpTrace => "http_trace"
  | .dnsTrace => "dns_trace"
  | .dbTrace => "db_trace"
  | .schedTrace => "sched_trace"
  | .memTrace => "mem_trace"
  | .blockTrace => "block_trace"
  | .securityTrace => "security_trace"
  | .hostMetrics => "host_metrics"

/-- The kinds that `Init` installs, in its order. -/
def installs (config : CollectorConfig) (cap : Capabilities) : List Kind :=
  (List.filter Prod.snd
    [(Kind.network, config.networkFlow && (cap.hasBPFTC || cap.hasBPFXDP)),
     (Kind.performance, config.processExec && (cap.hasBPFKprobe || cap.hasBPFTracepoint)),
     (Kind.security, config.tcpConnect && cap.hasBPFKprobe),
     (Kind.syscall, config.syscall && cap.hasBPFTracepoint),
     (Kind.protocol, true),
     (Kind.httpTrace, config.httpTrace && cap.hasBPFKprobe),
     (Kind.dnsTrace, config.dnsTrace && cap.hasBPFKprobe),
     (Kind.dbTrace, config.dbTrace && cap.hasBPFKprobe),
     (Kind.schedTrace, config.schedTrace && cap.hasBPFTracepoint),
     (Kind.memTrace, config.memTrace && cap.hasBPFKprobe),
     (Kind.blockTrace, config.blockTrace && cap.hasBPFTracepoint),
     (Kind.securityTrace, config.securityTrace && cap.hasBPFKprobe),
     (Kind.hostMetrics, config.hostMetrics)]).map Prod.fst

/-- The names it knows are those of the configuration, and three of them are no collector's `Name`. -/
def createCollector (name : String) (cap : Capabilities) : Except String Kind :=
  let unavailable := .error ("采集器 " ++ name ++ " 在当前内核环境下不可用")
  match name with
  | "network_flow" => if cap.hasBPFTC || cap.hasBPFXDP then .ok .network else unavailable
  | "process_exec" => if cap.hasBPFKprobe || cap.hasBPFTracepoint then .ok .performance else unavailable
  | "tcp_connect" => if cap.hasBPFKprobe then .ok .security else unavailable
  | "syscall" => if cap.hasBPFTracepoint then .ok .syscall else unavailable
  | "protocol" => .ok .protocol
  | "http_trace" => if cap.hasBPFKprobe then .ok .httpTrace else unavailable
  | "dns_trace" => if cap.hasBPFKprobe then .ok .dnsTrace else unavailable
  | "db_trace" => if cap.hasBPFKprobe then .ok .dbTrace else unavailable
  | "sched_trace" => if cap.hasBPFTracepoint then .ok .schedTrace else unavailable
  | "mem_trace" => if cap.hasBPFKprobe then .ok .memTrace else unavailable
  | "block_trace" => if cap.hasBPFTracepoint then .ok .blockTrace else unavailable
  | "security_trace" => if cap.hasBPFKprobe then .ok .securityTrace else unavailable
  | "host_metrics" => .ok .hostMetrics
  | _ => unavailable

/-- `instances` is the heap with `made` collectors on it, `collectors` the slice. `contexts` counts the contexts made
so far. -/
structure Manager where
  instances : Nat → Instance := fun _ => fresh .hostMetrics
  made : Nat := 0
  collectors : List Nat := []
  contexts : Nat := 0
  cancelled : List Nat := []

inductive Outcome where
  | nil | error (text : String) | panics
  deriving DecidableEq, Repr

namespace Manager

def put (id : Nat) (c : Instance) (m : Manager) : Manager := { m with instances := Function.update m.instances id c }

def allocate (c : Instance) (m : Manager) : Manager := { m.put m.made c with made := m.made + 1 }

def cancel (ctx : Nat) (m : Manager) : Manager := { m with cancelled := ctx :: m.cancelled }

def newContext (m : Manager) : Manager := { m with contexts := m.contexts + 1 }

def install (kernel : Kernel) (cap : Capabilities) (m : Manager) (kind : Kind) : Manager :=
  { m.allocate (left ((fresh kind).init kernel cap)) with collectors := m.collectors ++ [m.made] }

/-- `NewManager` and `Init`. -/
def init (config : CollectorConfig) (cap : Capabilities) (kernel : Kernel) : Manager :=
  (installs config cap).foldl (install kernel cap) {}

def startAll (kernel : Kernel) (m : Manager) : Manager :=
  m.collectors.foldl (fun t id => t.put id (left ((t.instances id).start kernel m.contexts))) m.newContext

def stopEach : List Nat → Manager → Manager × Bool
  | [], m => (m, false)
  | id :: rest, m =>
    match (m.instances id).stop with
    | none => (m, true)
    | some stopped => stopEach rest (m.put id stopped)

def stop (m : Manager) : Manager := (stopEach m.collectors m).1

def find (name : String) (m : Manager) : Option Nat :=
  m.collectors.findIdx? fun id => (m.instances id).kind.name = name

def unload (name : String) (m : Manager) : Outcome × Manager :=
  match m.find name with
  | none => (.error ("采集器 " ++ name ++ " 未找到"), m)
  | some i =>
    match m.collectors[i]? with
    | none => (.panics, m)
    | some id =>
      match (m.instances id).stop with
      | none => (.panics, m)
      | some stopped => (.nil, { m.put id stopped with collectors := m.collectors.eraseIdx i })

/-- The last part of `Reload`: the new instance, already on the heap, takes the slot. -/
def replace (oldIdx new : Nat) (m : Manager) : Outcome × Manager :=
  match m.collectors[oldIdx]? with
  | none => (.panics, m)
  | some old =>
    match (m.instances old).stop with
    | none => (.panics, m)
    | some stopped => (.nil, { m.put old stopped with collectors := m.collectors.set oldIdx new })

/-- `Init` and `Start` of the new instance. Its context is cancelled on every way out. -/
def bringUp (oldIdx : Nat) (kind : Kind) (cap : Capabilities) (kernel : Kernel) (m : Manager) : Outcome × Manager :=
  match (fresh kind).init kernel cap with
  | .error err c => (.error ("Init 失败: " ++ err), m.allocate c)
  | .ok _ c =>
    match c.start kernel m.contexts with
    | .error err c =>
      match c.stop with
      | none => (.panics, (m.newContext.allocate c).cancel m.contexts)
      | some c => (.error ("Start 失败: " ++ err), (m.newContext.allocate c).cancel m.contexts)
    | .ok _ c =>
      let replaced := (m.newContext.allocate c).replace oldIdx m.made
      (replaced.1, replaced.2.cancel m.contexts)

def reload (name : String) (cap : Capabilities) (kernel : Kernel) (m : Manager) : Outcome × Manager :=
  match m.find name with
  | none => (.error ("采集器 " ++ name ++ " 未找到，无法重载"), m)
  | some oldIdx =>
    match createCollector name cap with
    | .error err => (.error ("创建新实例失败: " ++ err), m)
    | .ok kind => m.bringUp oldIdx kind cap kernel

/-- A loop of any collector ever made takes its next look. -/
def look (id loop : Nat) (m : Manager) : Manager :=
  match (m.instances id).loops[loop]? with
  | none => m
  | some l =>
    match (m.instances id).fate m.cancelled l with
    | .exits => m.put id { m.instances id with loops := (m.instances id).loops.eraseIdx loop }
    | .stays | .panics => m

end Manager

inductive ManagerStep where
  | look (id loop : Nat)
  | start (kernel : Kernel)
  | cancel (ctx : Nat)
  | stop
  | unload (name : String)
  | reload (name : String) (cap : Capabilities) (kernel : Kernel)

namespace Manager

def step (m : Manager) : ManagerStep → Manager
  | .look id loop => m.look id loop
  | .start kernel => m.startAll kernel
  | .cancel ctx => m.cancel ctx
  | .stop => m.stop
  | .unload name => (m.unload name).2
  | .reload name cap kernel => (m.reload name cap kernel).2

def run (m : Manager) (steps : List ManagerStep) : Manager := steps.foldl step m

/-- A loop that panics at its look takes the process with it. -/
def Survives (m : Manager) : ManagerStep → Prop
  | .look id loop => ∀ l, (m.instances id).loops[loop]? = some l → (m.instances id).fate m.cancelled l ≠ .panics
  | _ => True

/-- In whatever happens next, as long as the collector is not stopped, the loops it has now are there. -/
def KeepsRunning (m : Manager) (id : Nat) : Prop :=
  ∀ steps, Along step Survives m steps → ((m.run steps).instances id).stops = 0 →
    ∀ loop ∈ (m.instances id).loops, loop ∈ ((m.run steps).instances id).loops

/-- `t` is `m` with a new collector of the same name in slot `i`, where `old` was. -/
structure Replaced (m t : Manager) (i old : Nat) : Prop where
  slot : ∃ new, m.made ≤ new ∧ t.collectors = m.collectors.set i new ∧
    (t.instances new).kind.name = (m.instances old).kind.name ∧ t.KeepsRunning new
  others : ∀ id ∈ m.collectors, id ≠ old → t.instances id = m.instances id
  stoppedOnce : (t.instances old).stops = 1

/-- `t` is `m` but for instances that hold nothing. -/
structure Discarded (m t : Manager) : Prop where
  slice : t.collectors = m.collectors
  unstopped : ∀ id ∈ m.collectors, (t.instances id).stops = (m.instances id).stops
  released : ∀ id, m.made ≤ id → id < t.made → (t.instances id).held = []

end Manager

/-- The condition under which `Init` and `createCollector` make a collector of the kind. -/
def Kind.available (cap : Capabilities) : Kind → Bool
  | .network => cap.hasBPFTC || cap.hasBPFXDP
  | .performance => cap.hasBPFKprobe || cap.hasBPFTracepoint
  | .syscall | .schedTrace | .blockTrace => cap.hasBPFTracepoint
  | .security | .httpTrace | .dnsTrace | .dbTrace | .memTrace | .securityTrace => cap.hasBPFKprobe
  | .protocol | .hostMetrics => true

/-- Creating, initialising and starting a fresh instance would succeed. -/
def Kind.Starts (kernel : Kernel) (cap : Capabilities) (ctx : Nat) (kind : Kind) : Prop :=
  kind.available cap ∧ ∃ ready started,
    (fresh kind).init kernel cap = .ok () ready ∧ ready.start kernel ctx = .ok () started

/-- What `Reload` owes to the collector `old` in slot `i`. -/
def Manager.AllOrNothing (m : Manager) (i old : Nat) (cap : Capabilities) (kernel : Kernel) : Prop :=
  let kind := (m.instances old).kind
  let result := m.reload kind.name cap kernel
  (result.1 = .nil ∧ m.Replaced result.2 i old ∨ (∃ text, result.1 = .error text) ∧ m.Discarded result.2) ∧
    (kind.Starts kernel cap m.contexts → result.1 = .nil ∧ m.Replaced result.2 i old)

/-- `createCollector` does not know the name. -/
def Kind.misnamed (kind : Kind) : Bool := kind matches .network | .performance | .security

/-- When `Reload` pays it: a misnamed collector must not be startable at all. For the others nothing may have been
acquired where `Init` fails, and where `Start` succeeds no loop may wait on the context and the old instance must not
have been stopped before. -/
def ReloadWorks (kernel : Kernel) (cap : Capabilities) (old : Instance) : Prop :=
  old.kind.available cap →
    match (fresh old.kind).init kernel cap with
    | .error _ c => old.kind.misnamed ∨ c.held = []
    | .ok _ _ =>
      old.kind = .protocol ∧ kernel.socket ≠ none ∨
        old.kind.misnamed = false ∧ .flush ∉ old.kind.roles ∧ old.stopClosed = false

end StbEbpf.Agent
