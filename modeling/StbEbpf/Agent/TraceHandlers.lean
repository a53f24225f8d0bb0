import StbEbpf.Agent.BpfEvent
import StbEbpf.Agent.Event
import StbEbpf.Lib.Padding

/-!
The trace programs for HTTP, DNS, database and security events and the collectors that read their records. A record is
written as a C structure and read by byte offsets; here the two are compared.
-/

namespace StbEbpf.Agent
open CText Access Words StbEbpf.Probe

/-! ### The BPF programs -/

/-- The task that runs into a probe; its name is terminated and zero-padded. -/
structure Task where
  now : UInt64
  pid : UInt32
  comm : CharBuf 16

def Task.array (task : Task) : Vector UInt8 16 := padTo 16 task.comm.bytes

/-- A call of `sendmsg` or `recvmsg` on a socket; `payload` is what the first buffer holds. -/
structure SocketCall where
  task : Task
  saddr : Ipv4Addr
  daddr : Ipv4Addr
  sport : UInt16
  dport : UInt16
  size : UInt64
  direction : UInt8
  payload : Bytes

def SocketCall.data (call : SocketCall) : Vector UInt8 256 := padTo 256 (call.payload.take 255)

/-- What the three socket programs write; the members they do not write keep what the ring buffer held. -/
def SocketCall.fill (call : SocketCall) (type : UInt32) (protocol : UInt8) (residue : BpfEvent) : BpfEvent :=
  { residue with
    timestampNs := call.task.now
    type
    pid := call.task.pid
    comm := call.task.array
    srcIp := call.saddr.word
    dstIp := call.daddr.word
    srcPort := call.sport
    dstPort := call.dport
    protocol
    bytes := call.size
    packets := 1
    latencyNs := 0
    count := call.direction.toUInt64
    data := call.data }

def SocketCall.onPort (call : SocketCall) (ports : List UInt16) : Bool := call.sport ∈ ports ∨ call.dport ∈ ports

def handleTcpMsg (call : SocketCall) (residue : BpfEvent) : Option BpfEvent :=
  if call.onPort [80, 443, 8080] then some (call.fill 2 6 residue) else none

def handleUdpMsg (call : SocketCall) (residue : BpfEvent) : Option BpfEvent :=
  if call.onPort [53] then some (call.fill 3 17 residue) else none

def handleDbTcp (call : SocketCall) (residue : BpfEvent) : Option BpfEvent :=
  if call.onPort [3306, 6379] then some (call.fill (if call.onPort [3306] then 10 else 11) 6 residue) else none

def traceCapCapable (task : Task) (cap opt : Int32) (residue : BpfEvent) : BpfEvent :=
  { residue with
    timestampNs := task.now
    type := 18
    pid := task.pid
    comm := task.array
    count := UInt64.ofInt cap.toInt
    latencyNs := UInt64.ofInt opt.toInt
    bytes := 0
    packets := 0
    data := padTo 256 [] }

def traceSecurityFileOpen (task : Task) (name : CStr) (residue : BpfEvent) : BpfEvent :=
  { residue with
    timestampNs := task.now
    type := 19
    pid := task.pid
    comm := task.array
    bytes := 0
    packets := 0
    data := padTo 256 (name.bytes.take 255) }

def traceLoadModule (task : Task) (residue : BpfEvent) : BpfEvent :=
  { residue with
    timestampNs := task.now
    type := 20
    pid := task.pid
    comm := task.array
    bytes := 0
    packets := 0
    data := padTo 256 [] }

/-! ### The collectors -/

def dotted (addr : Ipv4Addr) : Bytes :=
  decimal addr.a.toNat ++ 46 :: (decimal addr.b.toNat ++ 46 :: (decimal addr.c.toNat ++ 46 :: decimal addr.d.toNat))

def ipToString (ip : UInt32) : Bytes :=
  dotted ⟨(ip >>> 24).toUInt8, (ip >>> 16).toUInt8, (ip >>> 8).toUInt8, ip.toUInt8⟩

/-- The clock and the identity that a collector puts into its events. -/
structure Reporter where
  now : Time
  probeId : Bytes

/-- The event that the socket collectors write; they differ in the names and in what they do with the payload. -/
def socketEvent (r : Reporter) (eventType protocol : Bytes) (payloadOf : Bytes → Bytes) (data : Bytes) :
    Checked Event := do
  let etype ← readUint32 data 8
  let srcIp ← readUint32 data 20
  let dstIp ← readUint32 data 24
  let srcPort ← readUint16 data 28
  let dstPort ← readUint16 data 30
  let payload := payloadOf (← readRange data 72 256)
  return {
    timestamp := r.now, probeId := r.probeId, category := ascii "protocol", eventType
    srcIp := ipToString srcIp, dstIp := ipToString dstIp, srcPort, dstPort
    protocol, bytes := UInt64.ofNat payload.length
    details := payload, tags := ascii "etype=" ++ decimal etype.toNat }

def httpHandleEvent (r : Reporter) (data : Bytes) : Checked (Option Event) := do
  if data.length < 48 then return none
  else if (← readUint32 data 8) ≠ 2 then return none
  else some <$> socketEvent r (ascii "http_raw") (ascii "HTTP") trimNul data

def dnsHandleEvent (r : Reporter) (data : Bytes) : Checked (Option Event) := do
  if data.length < 48 then return none
  else if (← readUint32 data 8) ≠ 3 then return none
  else some <$> socketEvent r (ascii "dns_raw") (ascii "DNS") id data

/-- The database collector does not look at the type. -/
def dbHandleEvent (r : Reporter) (data : Bytes) : Checked (Option Event) := do
  if data.length < 48 then return none
  else some <$> socketEvent r (ascii "db_raw") (ascii "DB") id data

def isSensitiveFile (filename : Bytes) : Bool :=
  [ascii "/etc/shadow", ascii "/etc/passwd", ascii "/root", ascii "/proc/kcore", ascii "/proc/kallsyms"].any
    fun name => name <:+: filename

structure SecurityText where
  eventType : Bytes := []
  details : Bytes := []
  tags : Bytes := []

def securityText (etype pid : UInt32) (count latency : UInt64) (payload : Bytes) : SecurityText :=
  if etype = 18 then
    { eventType := ascii "cap_capable"
      details := ascii "pid=" ++ decimal pid.toNat ++ ascii " cap=" ++ decimal count.toNat
      tags := ascii "opt=" ++ decimal latency.toNat }
  else if etype = 19 then
    { eventType := ascii "security_file_open"
      details := ascii "pid=" ++ decimal pid.toNat ++ ascii " file=" ++ payload
      tags := if isSensitiveFile payload then ascii "sensitive=true" else [] }
  else if etype = 20 then
    { eventType := ascii "load_module"
      details := ascii "pid=" ++ decimal pid.toNat ++ ascii " module_load"
      tags := ascii "alert=kernel_module" }
  else {}

def securityHandleEvent (r : Reporter) (data : Bytes) : Checked (Option Event) := do
  if data.length < 48 then return none
  else
    let etype ← readUint32 data 8
    let pid ← readUint32 data 12
    let count ← readUint64 data 64
    let latency ← readUint64 data 48
    let payload := trimNul (← readRange data 72 256)
    let text := securityText etype pid count latency payload
    return some {
      timestamp := r.now, probeId := r.probeId, category := ascii "security", eventType := text.eventType
      details := text.details, tags := text.tags }

/-! ### Addresses -/

/-- The collectors print the address from its last byte to its first. -/
theorem ipToString_word (addr : Ipv4Addr) : ipToString addr.word = dotted ⟨addr.d, addr.c, addr.b, addr.a⟩ := by
  have word := word_toNat addr
  have smallA := addr.a.toNat_lt
  have smallB := addr.b.toNat_lt
  have smallC := addr.c.toNat_lt
  have smallD := addr.d.toNat_lt
  have fourth : (addr.word >>> 24).toUInt8 = addr.d := by
    apply UInt8.toNat_inj.mp
    simp [word, Nat.shiftRight_eq_div_pow]
    omega
  have third : (addr.word >>> 16).toUInt8 = addr.c := by
    apply UInt8.toNat_inj.mp
    simp [word, Nat.shiftRight_eq_div_pow]
    omega
  have second : (addr.word >>> 8).toUInt8 = addr.b := by
    apply UInt8.toNat_inj.mp
    simp [word, Nat.shiftRight_eq_div_pow]
    omega
  have first : addr.word.toUInt8 = addr.a := by
    apply UInt8.toNat_inj.mp
    simp [word]
  unfold ipToString
  rw [first, second, third, fourth]

theorem dotted_injective {left right : Ipv4Addr} (same : dotted left = dotted right) : left = right := by
  obtain ⟨a, b, c, d⟩ := left
  obtain ⟨a', b', c', d'⟩ := right
  obtain ⟨one, rest⟩ := decimal_split (by decide) same
  obtain ⟨two, rest⟩ := decimal_split (by decide) rest
  obtain ⟨three, rest⟩ := decimal_split (by decide) rest
  obtain rfl : a = a' := UInt8.toNat_inj.mp one
  obtain rfl : b = b' := UInt8.toNat_inj.mp two
  obtain rfl : c = c' := UInt8.toNat_inj.mp three
  obtain rfl : d = d' := UInt8.toNat_inj.mp (decimal_injective rest)
  rfl

/-- An address that reads the same from both ends. -/
def Symmetric (addr : Ipv4Addr) : Prop := addr.a = addr.d ∧ addr.b = addr.c

theorem ipToString_exact_iff (addr : Ipv4Addr) : ipToString addr.word = dotted addr ↔ Symmetric addr := by
  rw [ipToString_word]
  constructor
  · intro same
    have addresses := dotted_injective same
    exact ⟨(congrArg Ipv4Addr.a addresses).symm, (congrArg Ipv4Addr.b addresses).symm⟩
  · rintro ⟨outer, inner⟩
    obtain ⟨a, b, c, d⟩ := addr
    obtain rfl : a = d := outer
    obtain rfl : b = c := inner
    rfl

/-! ### Payloads -/

/-- The bytes that the collectors take for the payload of a record. -/
def window (task : Task) (data : Vector UInt8 256) : Bytes := task.array.toList ++ data.toList.take 240

theorem window_length (task : Task) (data : Vector UInt8 256) : (window task data).length = data.toList.length := by
  unfold window
  rw [List.length_append, List.length_take, task.array.length_toList, data.length_toList]
  rfl

/-- The array is the name of the task, zeros included, sixteen times over. -/
def Repeats (task : Task) (data : Vector UInt8 256) : Prop :=
  data.toList = (List.replicate 16 task.array.toList).flatten

theorem window_exact_iff (task : Task) (data : Vector UInt8 256) :
    unpadded (window task data) = unpadded data.toList ↔ Repeats task data := by
  have length := task.array.length_toList
  rw [unpadded_inj (window_length task data)]
  unfold window Repeats
  have pieces : task.array.toList ++ data.toList.take (15 * task.array.toList.length) = data.toList ↔ _ :=
    repeats_iff 15 (by rw [length, data.length_toList])
  rwa [length] at pieces

/-- A payload without zeros around it that ends before the last 16 bytes. -/
def ShortVisible (data : Vector UInt8 256) : Prop :=
  (unpadded data.toList).length ≤ 240 ∧ (unpadded data.toList).head? ≠ some 0

/-- What survives the trimmed window: with a name in front of it only its own repetition, without one a short text. -/
def SurvivesTrim (task : Task) (data : Vector UInt8 256) : Prop :=
  if task.comm.bytes = [] then ShortVisible data else Repeats task data

theorem trimmed_exact_iff (task : Task) (data : Vector UInt8 256) :
    trimNul (window task data) = unpadded data.toList ↔ SurvivesTrim task data := by
  have name : (padTo 16 task.comm.bytes).toList = _ := padTo_toList (task.comm.fits.trans (by decide))
  unfold SurvivesTrim
  split
  · rename_i nameless
    have zeros : task.array.toList = List.replicate 16 0 := by
      rw [Task.array, name, nameless]
      rfl
    unfold window
    rw [zeros, trimNul_zeros]
    exact trimNul_take_iff data.toList 240
  · rename_i named
    obtain ⟨first, rest, parts⟩ := List.exists_cons_of_ne_nil named
    have visible : first ≠ 0 := by
      rintro rfl
      exact task.comm.noNul (parts ▸ List.mem_cons_self)
    have untouched : trimNul (window task data) = unpadded (window task data) := by
      unfold window
      rw [Task.array, name, parts]
      exact trimNul_visible visible _
    rw [untouched]
    exact window_exact_iff task data

/-! ### Records -/

section
variable (r : Reporter) (e : BpfEvent)

theorem sample_long : ¬ e.sample.length < 48 := by
  rw [e.sample_length]
  decide

theorem socketEvent_reads (eventType protocol : Bytes) (payloadOf : Bytes → Bytes) :
    socketEvent r eventType protocol payloadOf e.sample = .ok {
      timestamp := r.now, probeId := r.probeId, category := ascii "protocol", eventType
      srcIp := ipToString e.srcIp, dstIp := ipToString e.dstIp, srcPort := e.srcPort, dstPort := e.dstPort
      protocol, bytes := UInt64.ofNat (payloadOf (e.comm.toList ++ e.data.toList.take 240)).length
      details := payloadOf (e.comm.toList ++ e.data.toList.take 240)
      tags := ascii "etype=" ++ decimal e.type.toNat } := by
  unfold socketEvent
  rw [e.type_read, ok_bind, e.srcIp_read, ok_bind, e.dstIp_read, ok_bind, e.srcPort_read, ok_bind, e.dstPort_read,
    ok_bind, e.window_read, ok_bind]
  rfl

theorem httpHandleEvent_reads (http : e.type = 2) :
    httpHandleEvent r e.sample = some <$> socketEvent r (ascii "http_raw") (ascii "HTTP") trimNul e.sample := by
  unfold httpHandleEvent
  rw [if_neg (sample_long e), e.type_read, ok_bind, if_neg (not_not.mpr http)]

theorem dnsHandleEvent_reads (dns : e.type = 3) :
    dnsHandleEvent r e.sample = some <$> socketEvent r (ascii "dns_raw") (ascii "DNS") id e.sample := by
  unfold dnsHandleEvent
  rw [if_neg (sample_long e), e.type_read, ok_bind, if_neg (not_not.mpr dns)]

theorem dbHandleEvent_reads :
    dbHandleEvent r e.sample = some <$> socketEvent r (ascii "db_raw") (ascii "DB") id e.sample := by
  unfold dbHandleEvent
  rw [if_neg (sample_long e)]

theorem securityHandleEvent_reads :
    securityHandleEvent r e.sample =
      let text := securityText e.type e.pid e.count e.packets (trimNul (e.comm.toList ++ e.data.toList.take 240))
      .ok (some {
        timestamp := r.now, probeId := r.probeId, category := ascii "security", eventType := text.eventType
        details := text.details, tags := text.tags }) := by
  unfold securityHandleEvent
  rw [if_neg (sample_long e), e.type_read, ok_bind, e.pid_read, ok_bind, e.count_read, ok_bind, e.packets_read, ok_bind,
    e.window_read, ok_bind]
  rfl

end

/-- What the trace programs can see. -/
inductive Traced where
  | http (call : SocketCall)
  | dns (call : SocketCall)
  | db (call : SocketCall)
  | capCapable (task : Task) (cap opt : Int32)
  | fileOpen (task : Task) (name : CStr)
  | loadModule (task : Task)

/-- The record that the program submits, if any. -/
def Traced.submit (residue : BpfEvent) : Traced → Option BpfEvent
  | http call => handleTcpMsg call residue
  | dns call => handleUdpMsg call residue
  | db call => handleDbTcp call residue
  | capCapable task cap opt => some (traceCapCapable task cap opt residue)
  | fileOpen task name => some (traceSecurityFileOpen task name residue)
  | loadModule task => some (traceLoadModule task residue)

/-- The handler of the matching collector. -/
def Traced.handle (r : Reporter) : Traced → Bytes → Checked (Option Event)
  | http _ => httpHandleEvent r
  | dns _ => dnsHandleEvent r
  | db _ => dbHandleEvent r
  | capCapable .. | fileOpen .. | loadModule _ => securityHandleEvent r

structure SocketExact (call : SocketCall) (event : Event) : Prop where
  src : event.srcIp = dotted call.saddr
  dst : event.dstIp = dotted call.daddr
  srcPort : event.srcPort = call.sport
  dstPort : event.dstPort = call.dport
  payload : unpadded event.details = unpadded call.data.toList

/-- The event reports what the program has written. -/
def Traced.Exact (event : Event) : Traced → Prop
  | http call | dns call | db call => SocketExact call event
  | capCapable task cap opt =>
    event.details = ascii "pid=" ++ decimal task.pid.toNat ++ ascii " cap=" ++ decimal (UInt64.ofInt cap.toInt).toNat ∧
      event.tags = ascii "opt=" ++ decimal (UInt64.ofInt opt.toInt).toNat
  | fileOpen task name =>
    event.details = ascii "pid=" ++ decimal task.pid.toNat ++ ascii " file=" ++ name.bytes.take 255
  | loadModule task => event.details = ascii "pid=" ++ decimal task.pid.toNat ++ ascii " module_load"

/-- When it does. -/
def Traced.Survives : Traced → Prop
  | http call => (Symmetric call.saddr ∧ Symmetric call.daddr) ∧ SurvivesTrim call.task call.data
  | dns call | db call => (Symmetric call.saddr ∧ Symmetric call.daddr) ∧ Repeats call.task call.data
  | capCapable _ _ opt => opt = 0
  | fileOpen task name => task.comm.bytes = [] ∧ name.bytes.length ≤ 240
  | loadModule _ => True

/-- The socket collectors, whatever they do with the payload. -/
theorem socket_exact_iff (r : Reporter) (call : SocketCall) (type : UInt32) (protocol : UInt8) (residue : BpfEvent)
    (eventType name : Bytes) (payloadOf : Bytes → Bytes) {survives : Prop}
    (payload : unpadded (payloadOf (window call.task call.data)) = unpadded call.data.toList ↔ survives) :
    ∃ event, socketEvent r eventType name payloadOf (call.fill type protocol residue).sample = .ok event ∧
      (SocketExact call event ↔ (Symmetric call.saddr ∧ Symmetric call.daddr) ∧ survives) := by
  refine ⟨_, socketEvent_reads r _ eventType name payloadOf, ?_⟩
  rw [← ipToString_exact_iff, ← ipToString_exact_iff, ← payload]
  constructor
  · rintro ⟨src, dst, -, -, details⟩
    exact ⟨⟨src, dst⟩, details⟩
  · rintro ⟨⟨src, dst⟩, details⟩
    exact ⟨src, dst, rfl, rfl, details⟩

/-- A string in the array is never the repetition of a name: a name ends with a zero and starts without one. -/
theorem string_not_repeated {task : Task} (named : task.comm.bytes ≠ []) {text : Bytes} (noNul : 0 ∉ text)
    (fits : text.length ≤ 256) : ¬ Repeats task (padTo 256 text) := by
  intro repeated
  obtain ⟨first, rest, parts⟩ := List.exists_cons_of_ne_nil named
  have short := task.comm.fits
  have name : task.array.toList = _ := padTo_toList (short.trans (by decide))
  have length := task.array.length_toList
  unfold Repeats at repeated
  rw [padTo_toList fits] at repeated
  have twice : (List.replicate 16 task.array.toList).flatten =
      task.array.toList ++ (task.array.toList ++ (List.replicate 14 task.array.toList).flatten) := rfl
  have last : (text ++ List.replicate (256 - text.length) 0)[15]? = some 0 := by
    rw [repeated, twice, List.getElem?_append_left (by rw [length]; decide), name,
      List.getElem?_append_right (by omega), List.getElem?_replicate, if_pos (by omega)]
  have again : (text ++ List.replicate (256 - text.length) 0)[16]? = some first := by
    rw [repeated, twice, List.getElem?_append_right (by rw [length]), length, name, parts]
    rfl
  have zero := padded_zero noNul (by decide) last again
  exact task.comm.noNul (parts ▸ zero ▸ List.mem_cons_self)

theorem fileName_exact_iff (task : Task) (name : CStr) :
    trimNul (window task (padTo 256 (name.bytes.take 255))) = name.bytes.take 255 ↔
      task.comm.bytes = [] ∧ name.bytes.length ≤ 240 := by
  have noNul : 0 ∉ name.bytes.take 255 := fun member => name.noNul (List.mem_of_mem_take member)
  have fits : (name.bytes.take 255).length ≤ 256 := (List.length_take_le _ _).trans (by decide)
  have contents : unpadded (padTo 256 (name.bytes.take 255)).toList = name.bytes.take 255 := by
    rw [padTo_toList fits, unpadded_zeros, unpadded_of_noNul noNul]
  have trimmed := trimmed_exact_iff task (padTo 256 (name.bytes.take 255))
  rw [contents] at trimmed
  rw [trimmed]
  unfold SurvivesTrim
  split
  · rename_i nameless
    have visible : (name.bytes.take 255).head? ≠ some 0 := fun zero => noNul (List.mem_of_mem_head? zero)
    unfold ShortVisible
    rw [contents, List.length_take]
    constructor
    · rintro ⟨short, -⟩
      exact ⟨nameless, by omega⟩
    · rintro ⟨-, short⟩
      exact ⟨by omega, visible⟩
  · rename_i named
    constructor
    · intro repeated
      exact absurd repeated (string_not_repeated named noNul fits)
    · rintro ⟨nameless, -⟩
      exact absurd nameless named

theorem http_reported (r : Reporter) (call : SocketCall) {residue e : BpfEvent}
    (submitted : handleTcpMsg call residue = some e) :
    ∃ event, httpHandleEvent r e.sample = .ok (some event) ∧
      (SocketExact call event ↔ (Traced.http call).Survives) := by
  have payload : unpadded (trimNul (window call.task call.data)) = unpadded call.data.toList ↔
      SurvivesTrim call.task call.data := by
    rw [trimNul_unpadded]
    exact trimmed_exact_iff call.task call.data
  unfold handleTcpMsg at submitted
  split at submitted
  · cases submitted
    obtain ⟨event, reported, exact_⟩ :=
      socket_exact_iff r call 2 6 residue (ascii "http_raw") (ascii "HTTP") trimNul payload
    refine ⟨event, ?_, exact_⟩
    rw [httpHandleEvent_reads r _ rfl, reported]
    rfl
  · cases submitted

theorem dns_reported (r : Reporter) (call : SocketCall) {residue e : BpfEvent}
    (submitted : handleUdpMsg call residue = some e) :
    ∃ event, dnsHandleEvent r e.sample = .ok (some event) ∧ (SocketExact call event ↔ (Traced.dns call).Survives) := by
  unfold handleUdpMsg at submitted
  split at submitted
  · cases submitted
    obtain ⟨event, reported, exact_⟩ := socket_exact_iff r call 3 17 residue (ascii "dns_raw") (ascii "DNS") id
      (window_exact_iff call.task call.data)
    refine ⟨event, ?_, exact_⟩
    rw [dnsHandleEvent_reads r _ rfl, reported]
    rfl
  · cases submitted

theorem db_reported (r : Reporter) (call : SocketCall) {residue e : BpfEvent}
    (submitted : handleDbTcp call residue = some e) :
    ∃ event, dbHandleEvent r e.sample = .ok (some event) ∧ (SocketExact call event ↔ (Traced.db call).Survives) := by
  unfold handleDbTcp at submitted
  split at submitted
  · cases submitted
    obtain ⟨event, reported, exact_⟩ := socket_exact_iff r call (if call.onPort [3306] then 10 else 11) 6 residue
      (ascii "db_raw") (ascii "DB") id (window_exact_iff call.task call.data)
    refine ⟨event, ?_, exact_⟩
    rw [dbHandleEvent_reads, reported]
    rfl
  · cases submitted

theorem ofInt_zero_iff (n : Int32) : UInt64.ofInt n.toInt = 0 ↔ n = 0 := by
  constructor
  · intro zero
    have low := n.le_toInt
    have high := n.toInt_lt
    have value := congrArg UInt64.toNat zero
    unfold UInt64.ofInt at value
    rw [UInt64.toNat_ofNat'] at value
    have nothing : n.toInt = 0 := by
      have unchanged : (n.toInt % 2 ^ 64).toNat % 2 ^ 64 = 0 := value
      omega
    exact Int32.toInt_inj.mp nothing
  · rintro rfl
    rfl

/-- A record is reported as it was written exactly when its addresses read the same from both ends and its payload
survives being taken from 16 bytes too early; the option of `cap_capable` only when it is zero. -/
theorem reported_exactly_iff (traced : Traced) (residue e : BpfEvent) (r : Reporter)
    (submitted : traced.submit residue = some e) :
    ∃ event, traced.handle r e.sample = .ok (some event) ∧ (traced.Exact event ↔ traced.Survives) := by
  cases traced with
  | http call => exact http_reported r call submitted
  | dns call => exact dns_reported r call submitted
  | db call => exact db_reported r call submitted
  | capCapable task cap opt =>
    cases submitted
    refine ⟨_, securityHandleEvent_reads r _, ?_⟩
    constructor
    · rintro ⟨-, tags⟩
      have zero := decimal_injective (List.append_cancel_left tags)
      exact (ofInt_zero_iff opt).mp (UInt64.toNat_inj.mp zero.symm)
    · rintro rfl
      exact ⟨rfl, rfl⟩
  | fileOpen task name =>
    cases submitted
    refine ⟨_, securityHandleEvent_reads r _, ?_⟩
    rw [Traced.Survives, ← fileName_exact_iff]
    constructor
    · intro details
      exact List.append_cancel_left details
    · intro same
      exact congrArg (ascii "pid=" ++ decimal task.pid.toNat ++ ascii " file=" ++ ·) same
  | loadModule task =>
    cases submitted
    exact ⟨_, securityHandleEvent_reads r _, fun _ => trivial, fun _ => rfl⟩

def zeroRecord : BpfEvent where
  timestampNs := 0
  type := 0
  pid := 0
  ppid := 0
  srcIp := 0
  dstIp := 0
  srcPort := 0
  dstPort := 0
  protocol := 0
  padding := Vector.replicate 7 0
  bytes := 0
  packets := 0
  latencyNs := 0
  count := 0
  comm := Vector.replicate 16 0
  data := Vector.replicate 256 0

def sampleReporter : Reporter := ⟨.unix 0, ascii "p1"⟩

-- A task without a name that opens a file with a short one.
theorem nameless_open_reported :
    ∃ event, securityHandleEvent sampleReporter
        (traceSecurityFileOpen ⟨0, 7, .zero⟩ (.ofBytes (ascii "shadow")) zeroRecord).sample = .ok (some event) ∧
      (Traced.fileOpen ⟨0, 7, .zero⟩ (.ofBytes (ascii "shadow"))).Exact event := by
  obtain ⟨event, reported, exact_⟩ :=
    reported_exactly_iff (.fileOpen ⟨0, 7, .zero⟩ (.ofBytes (ascii "shadow"))) zeroRecord _ sampleReporter rfl
  exact ⟨event, reported, exact_.mpr ⟨rfl, by decide⟩⟩

def queryCall : SocketCall where
  task := ⟨0, 7, .strncpy (ascii "dig")⟩
  saddr := ⟨10, 0, 0, 1⟩
  daddr := ⟨9, 9, 9, 9⟩
  sport := 40000
  dport := 53
  size := 4
  direction := 1
  payload := [0x12, 0x34, 1, 0]

theorem query_misreported :
    handleUdpMsg queryCall zeroRecord = some (queryCall.fill 3 17 zeroRecord) ∧
      ∃ event, dnsHandleEvent sampleReporter (queryCall.fill 3 17 zeroRecord).sample = .ok (some event) ∧
        event.srcIp = ascii "1.0.0.10" ∧ event.details.take 8 = ascii "dig" ++ [0, 0, 0, 0, 0] ∧
        ¬ SocketExact queryCall event := by
  have handled := dnsHandleEvent_reads sampleReporter (queryCall.fill 3 17 zeroRecord) rfl
  rw [socketEvent_reads] at handled
  refine ⟨rfl, _, handled, rfl, rfl, fun exact_ => ?_⟩
  exact absurd exact_.src (by decide)

end StbEbpf.Agent
