import StbEbpf.Agent.Workers

/-!
What `Init` and `Start` of a collector take from the kernel, and what `Stop` gives back. A method that returns an
error leaves behind what it had done before.
-/

namespace StbEbpf.Agent

/-- The fields of `kernel.Capabilities` that the collectors ask for. -/
structure Capabilities where
  hasBPFLSM : Bool := false
  hasBPFKprobe : Bool := false
  hasBPFTracepoint : Bool := false
  hasBPFXDP : Bool := false
  hasBPFTC : Bool := false
  deriving DecidableEq, Repr

/-- The embedded `.bpf.o` files. -/
inductive Object where
  | networkFlow | processExec | fileOpen | tcpConnect | syscall | httpTrace | dnsTrace | dbTrace | schedTrace | memTrace
  | blockTrace | securityTrace
  deriving DecidableEq, Repr

inductive Hook where
  | tracepoint (group name : String) | kprobe (symbol : String) | kretprobe (symbol : String)
  deriving DecidableEq, Repr

inductive Resource where
  | collection (object : Object)
  | link (program : String)
  | reader (field : ReaderField)
  | pin (map : String)
  | filter (program : String)
  | socket
  deriving DecidableEq, Repr

/-- The answers that one call gets from the loader and the kernel. Where an answer is an error, `none` is `nil`. -/
structure Kernel where
  spec : Object → Option String
  collection : Object → Option String
  programs : Object → List String
  maps : Object → List String
  attach : String → Hook → Option String
  reader : Object → String → Option String
  pin : String → Option String
  filter : String → Option String
  socket : Option String

/-- A collector with what it holds in the kernel; `stops` counts the `Stop` calls that went through. -/
structure Instance extends Collector where
  held : List Resource := []
  stops : Nat := 0
  deriving DecidableEq, Repr

/-- `NewNetworkCollector` and its siblings. -/
def fresh (kind : Kind) : Instance := { kind, readers := [] }

abbrev Method := EStateM String Instance Unit

namespace Method

def require (granted : Bool) (text : String) : Method := if granted then pure () else throw text

def check (err : Option String) (label : String) : Method :=
  match err with
  | none => pure ()
  | some text => throw (label ++ text)

def acquire (resources : List Resource) : Method := modify fun c => { c with held := c.held ++ resources }

def openReader (field : ReaderField) : Method :=
  modify fun c => { c with readers := c.readers ++ [field], held := c.held ++ [.reader field] }

def load (kernel : Kernel) (object : Object) (label : String) : Method := do
  check (kernel.spec object) ("load " ++ label ++ "spec: ")
  check (kernel.collection object) ("load " ++ label ++ "collection: ")
  acquire [.collection object]

-- A program that is missing or does not attach is only logged.
def attachAll (kernel : Kernel) (object : Object) (hooks : List (String × Hook)) : Method :=
  acquire ((hooks.filter fun (program, hook) =>
    program ∈ kernel.programs object ∧ kernel.attach program hook = none).map fun (program, _) => .link program)

def tryReader (kernel : Kernel) (object : Object) (map : String) (field : ReaderField) : Method :=
  if map ∈ kernel.maps object ∧ kernel.reader object map = none then openReader field else pure ()

def networkInit (kernel : Kernel) (cap : Capabilities) : Method := do
  require (cap.hasBPFTC || cap.hasBPFXDP) "no tc/xdp support"
  load kernel .networkFlow ""
  acquire (((kernel.maps .networkFlow).filter (kernel.pin · = none)).map .pin)
  acquire (((kernel.programs .networkFlow).filter (kernel.filter · = none)).map .filter)
  require ("events" ∈ kernel.maps .networkFlow) "events map not found"
  check (kernel.reader .networkFlow "events") "flow reader: "
  openReader .reader
  tryReader kernel .networkFlow "http_events" .httpReader

def securityInit (kernel : Kernel) (cap : Capabilities) : Method := do
  require (cap.hasBPFLSM || cap.hasBPFKprobe) "no lsm/kprobe support"
  load kernel .fileOpen "file_open "
  attachAll kernel .fileOpen
    [("trace_do_filp_open", .kprobe "do_filp_open"), ("trace_vfs_write", .kprobe "vfs_write")]
  tryReader kernel .fileOpen "rb" .fileReader
  load kernel .tcpConnect "tcp_connect "
  attachAll kernel .tcpConnect
    [("trace_tcp_v4_connect", .kprobe "tcp_v4_connect"), ("trace_tcp_v4_connect_exit", .kretprobe "tcp_v4_connect")]
  tryReader kernel .tcpConnect "rb" .tcpReader

def syscallInit (kernel : Kernel) (cap : Capabilities) : Method := do
  require cap.hasBPFTracepoint "no tracepoint support"
  load kernel .syscall "syscall "
  attachAll kernel .syscall
    [("tracepoint_sys_enter", .tracepoint "raw_syscalls" "sys_enter"),
     ("tracepoint_sys_exit", .tracepoint "raw_syscalls" "sys_exit")]
  tryReader kernel .syscall "rb" .reader

/-- The others load one object and read its ring buffer, which has to be there. -/
def ringbufInit (kernel : Kernel) (granted : Bool) (text : String) (object : Object) (hooks : List (String × Hook)) :
    Method := do
  require granted text
  load kernel object ""
  attachAll kernel object hooks
  require ("rb" ∈ kernel.maps object) "ringbuf map not found"
  check (kernel.reader object "rb") "ringbuf reader: "
  openReader .reader

def performanceInit (kernel : Kernel) (cap : Capabilities) : Method :=
  ringbufInit kernel (cap.hasBPFKprobe || cap.hasBPFTracepoint) "no kprobe/tracepoint support" .processExec
    [("tracepoint_sched_process_exec", .tracepoint "sched" "sched_process_exec"),
     ("tracepoint_sched_process_exit", .tracepoint "sched" "sched_process_exit")]

def httpTraceInit (kernel : Kernel) (cap : Capabilities) : Method :=
  ringbufInit kernel cap.hasBPFKprobe "no kprobe support" .httpTrace
    [("trace_tcp_sendmsg", .kprobe "tcp_sendmsg"), ("trace_tcp_recvmsg", .kprobe "tcp_recvmsg")]

def dnsTraceInit (kernel : Kernel) (cap : Capabilities) : Method :=
  ringbufInit kernel cap.hasBPFKprobe "no kprobe support" .dnsTrace
    [("trace_udp_sendmsg", .kprobe "udp_sendmsg"), ("trace_udp_recvmsg", .kprobe "udp_recvmsg")]

def dbTraceInit (kernel : Kernel) (cap : Capabilities) : Method :=
  ringbufInit kernel cap.hasBPFKprobe "no kprobe support" .dbTrace
    [("trace_db_tcp_sendmsg", .kprobe "tcp_sendmsg"), ("trace_db_tcp_recvmsg", .kprobe "tcp_recvmsg")]

def schedTraceInit (kernel : Kernel) (cap : Capabilities) : Method :=
  ringbufInit kernel cap.hasBPFTracepoint "no tracepoint support" .schedTrace
    [("tracepoint_sched_switch", .tracepoint "sched" "sched_switch"),
     ("tracepoint_sched_wakeup", .tracepoint "sched" "sched_wakeup")]

def memTraceInit (kernel : Kernel) (cap : Capabilities) : Method :=
  ringbufInit kernel cap.hasBPFKprobe "no kprobe support" .memTrace
    [("trace_kmalloc", .kprobe "__kmalloc"), ("trace_kfree", .kprobe "kfree")]

def blockTraceInit (kernel : Kernel) (cap : Capabilities) : Method :=
  ringbufInit kernel cap.hasBPFTracepoint "no tracepoint support" .blockTrace
    [("tracepoint_block_rq_issue", .tracepoint "block" "block_rq_issue"),
     ("tracepoint_block_rq_complete", .tracepoint "block" "block_rq_complete")]

def securityTraceInit (kernel : Kernel) (cap : Capabilities) : Method :=
  ringbufInit kernel cap.hasBPFKprobe "no kprobe support" .securityTrace
    [("trace_cap_capable", .kprobe "cap_capable"), ("trace_security_file_open", .kprobe "security_file_open"),
     ("trace_load_module", .kprobe "load_module")]

def init (kernel : Kernel) (cap : Capabilities) : Kind → Method
  | .network => networkInit kernel cap
  | .performance => performanceInit kernel cap
  | .security => securityInit kernel cap
  | .syscall => syscallInit kernel cap
  | .httpTrace => httpTraceInit kernel cap
  | .dnsTrace => dnsTraceInit kernel cap
  | .dbTrace => dbTraceInit kernel cap
  | .schedTrace => schedTraceInit kernel cap
  | .memTrace => memTraceInit kernel cap
  | .blockTrace => blockTraceInit kernel cap
  | .securityTrace => securityTraceInit kernel cap
  | .protocol | .hostMetrics => pure ()

end Method

/-- What a method leaves of its receiver, whether it fails or not. -/
def left : EStateM.Result String Instance Unit → Instance
  | .ok _ c => c
  | .error _ c => c

namespace Instance

def init (kernel : Kernel) (cap : Capabilities) (c : Instance) : EStateM.Result String Instance Unit :=
  Method.init kernel cap c.kind c

/-- Only the packet socket of the protocol collector can fail; the flag is set before. -/
def start (kernel : Kernel) (ctx : Nat) (c : Instance) : EStateM.Result String Instance Unit :=
  let begun := { c with toCollector := c.toCollector.start kernel.socket.isNone ctx }
  if c.kind = .protocol then
    match kernel.socket with
    | some err => .error ("AF_PACKET failed: " ++ err) begun
    | none => .ok () { begun with held := begun.held ++ [.socket] }
  else .ok () begun

-- The capture loop closes the socket itself. Pins and filters stay where they are.
def released (resource : Resource) : Bool :=
  match resource with
  | .collection _ | .link _ | .reader _ => true
  | .pin _ | .filter _ | .socket => false

def stop (c : Instance) : Option Instance :=
  c.toCollector.stop.map fun halted =>
    { toCollector := halted, held := c.held.filter (! released ·), stops := c.stops + 1 }

end Instance

/-! ### What the methods leave alone -/

namespace Method

/-- A method that touches no more than the readers and what is held. -/
def Sets (m : Method) : Prop :=
  ∀ c, ∃ readers held, left (m c) = { c with readers, held }

section
variable {m next : Method}

theorem bind_ok {c d : Instance} (ends : m c = .ok () d) : (m >>= fun _ => next) c = next d := by
  show EStateM.bind m _ c = _
  unfold EStateM.bind
  rw [ends]

theorem bind_error {c d : Instance} {text : String} (fails : m c = .error text d) :
    (m >>= fun _ => next) c = .error text d := by
  show EStateM.bind m _ c = _
  unfold EStateM.bind
  rw [fails]

theorem Sets.bind (first : m.Sets) (second : next.Sets) : Method.Sets (m >>= fun _ => next) := by
  intro c
  obtain ⟨readers, held, after⟩ := first c
  rcases ends : m c with ⟨⟨⟩, d⟩ | ⟨text, d⟩
  · rw [ends] at after
    obtain ⟨readers', held', after'⟩ := second d
    rw [bind_ok ends, after', show d = _ from after]
    exact ⟨readers', held', rfl⟩
  · rw [ends] at after
    rw [bind_error ends]
    exact ⟨readers, held, after⟩

theorem ok_of_bind {c d : Instance} (ends : (m >>= fun _ => next) c = .ok () d) :
    ∃ b, m c = .ok () b ∧ next b = .ok () d := by
  rcases first : m c with ⟨⟨⟩, b⟩ | ⟨text, b⟩
  · rw [bind_ok first] at ends
    exact ⟨b, rfl, ends⟩
  · rw [bind_error first] at ends
    cases ends

end

theorem pure_sets : Method.Sets (pure ()) := fun c => ⟨c.readers, c.held, rfl⟩

theorem throw_sets (text : String) : Method.Sets (throw text) := fun c => ⟨c.readers, c.held, rfl⟩

theorem require_sets (granted : Bool) (text : String) : (require granted text).Sets := by
  cases granted with
  | true => exact pure_sets
  | false => exact throw_sets text

theorem check_sets (err : Option String) (label : String) : (check err label).Sets := by
  cases err with
  | none => exact pure_sets
  | some text => exact throw_sets _

theorem acquire_sets (resources : List Resource) : (acquire resources).Sets :=
  fun c => ⟨c.readers, c.held ++ resources, rfl⟩

theorem openReader_sets (field : ReaderField) : (openReader field).Sets :=
  fun c => ⟨c.readers ++ [field], c.held ++ [.reader field], rfl⟩

variable (kernel : Kernel) (cap : Capabilities)

theorem load_sets (object : Object) (label : String) : (load kernel object label).Sets :=
  (check_sets _ _).bind ((check_sets _ _).bind (acquire_sets _))

theorem tryReader_sets (object : Object) (map : String) (field : ReaderField) :
    (tryReader kernel object map field).Sets := by
  unfold tryReader
  split
  · exact openReader_sets field
  · exact pure_sets

theorem ringbufInit_sets (granted : Bool) (text : String) (object : Object) (hooks : List (String × Hook)) :
    (ringbufInit kernel granted text object hooks).Sets :=
  (require_sets _ _).bind <| (load_sets kernel object "").bind <| (acquire_sets _).bind <|
    (require_sets _ _).bind <| (check_sets _ _).bind (openReader_sets .reader)

theorem networkInit_sets : (networkInit kernel cap).Sets :=
  (require_sets _ _).bind <| (load_sets kernel .networkFlow "").bind <| (acquire_sets _).bind <|
    (acquire_sets _).bind <| (require_sets _ _).bind <| (check_sets _ _).bind <| (openReader_sets .reader).bind <|
      tryReader_sets kernel .networkFlow "http_events" .httpReader

theorem securityInit_sets : (securityInit kernel cap).Sets :=
  (require_sets _ _).bind <| (load_sets kernel .fileOpen _).bind <| (acquire_sets _).bind <|
    (tryReader_sets kernel .fileOpen "rb" .fileReader).bind <| (load_sets kernel .tcpConnect _).bind <|
      (acquire_sets _).bind <| tryReader_sets kernel .tcpConnect "rb" .tcpReader

theorem syscallInit_sets : (syscallInit kernel cap).Sets :=
  (require_sets _ _).bind <| (load_sets kernel .syscall _).bind <| (acquire_sets _).bind <|
    tryReader_sets kernel .syscall "rb" .reader

theorem init_sets (kind : Kind) : (init kernel cap kind).Sets := by
  cases kind with
  | network => exact networkInit_sets kernel cap
  | security => exact securityInit_sets kernel cap
  | syscall => exact syscallInit_sets kernel cap
  | protocol | hostMetrics => exact pure_sets
  | _ => exact ringbufInit_sets kernel _ _ _ _

variable {kernel} in
theorem ringbufInit_reads {granted : Bool} {text : String} {object : Object} {hooks : List (String × Hook)}
    {c d : Instance} (ends : ringbufInit kernel granted text object hooks c = .ok () d) : .reader ∈ d.readers := by
  obtain ⟨_, -, ends⟩ := ok_of_bind ends
  obtain ⟨_, -, ends⟩ := ok_of_bind ends
  obtain ⟨_, -, ends⟩ := ok_of_bind ends
  obtain ⟨_, -, ends⟩ := ok_of_bind ends
  obtain ⟨b, -, ends⟩ := ok_of_bind ends
  obtain rfl : left (openReader .reader b) = d := by rw [ends]; rfl
  exact List.mem_append_right _ (by simp)

variable {kernel cap} in
theorem networkInit_reads {c d : Instance} (ends : networkInit kernel cap c = .ok () d) : .reader ∈ d.readers := by
  obtain ⟨_, -, ends⟩ := ok_of_bind ends
  obtain ⟨_, -, ends⟩ := ok_of_bind ends
  obtain ⟨_, -, ends⟩ := ok_of_bind ends
  obtain ⟨_, -, ends⟩ := ok_of_bind ends
  obtain ⟨_, -, ends⟩ := ok_of_bind ends
  obtain ⟨_, -, ends⟩ := ok_of_bind ends
  obtain ⟨b, opened, ends⟩ := ok_of_bind ends
  cases opened
  unfold tryReader at ends
  split at ends
  · cases ends
    exact List.mem_append_left _ (List.mem_append_right _ (by simp))
  · cases ends
    exact List.mem_append_right _ (by simp)

end Method

/-- A start finds the readers it uses wherever `Init` returned no error. -/
theorem Instance.init_ready {kernel : Kernel} {cap : Capabilities} {c d : Instance}
    (ends : c.init kernel cap = .ok () d) : d.Ready := by
  obtain ⟨readers, held, after⟩ := Method.init_sets kernel cap c.kind c
  unfold init at ends
  rw [ends] at after
  have kind : d.kind = c.kind := congrArg (·.kind) after
  refine ⟨fun unguarded => ?_, fun network _ => ?_⟩
  · rw [kind] at unguarded
    cases found : c.kind with
    | network | performance | security | syscall | protocol | hostMetrics =>
      rw [found] at unguarded
      cases unguarded
    | _ =>
      rw [found] at ends
      exact Method.ringbufInit_reads ends
  · rw [kind] at network
    rw [network] at ends
    exact Method.networkInit_reads ends

end StbEbpf.Agent
