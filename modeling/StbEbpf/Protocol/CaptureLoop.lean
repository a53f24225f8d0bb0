import StbEbpf.Protocol.FlowConservation

/-!
`captureLoop` of `internal/collector/protocol.go` with every index and slice checked: the buffer, the headers with their
three length fields, the parsers behind them and the lists of records. Without an interruption a call does what the
steps of the aggregation do.
-/

namespace StbEbpf.Protocol.ProtocolCollector
open CText Access NetworkOrder

/-! ### The call -/

/-- `data[offset:]`. -/
def sliceFrom {α : Type} (data : List α) (offset : Nat) : Checked (List α) :=
  if offset ≤ data.length then pure (data.drop offset) else throw .read

/-- What the collector keeps between two flushes. -/
structure Held where
  flows : Flows := ∅
  httpReqs : List HTTPRecord := []
  dnsQs : List DNSRecord := []

/-- `append`, and the last 500 of more than 1000. -/
def appendSliced {α : Type} (records : List α) (record : α) : Checked (List α) :=
  let records := records ++ [record]
  if records.length > 1000 then sliceFrom records (records.length - 500) else pure records

namespace processIPv4

/-- Ports, flags and payload of a complete header. -/
def tcpSlices (payload : Bytes) (ihl : Nat) : Checked (UInt16 × UInt16 × UInt8 × Bytes) := do
  if payload.length ≥ ihl + 20 then
    let srcPort ← readWord16 payload ihl
    let dstPort ← readWord16 payload (ihl + 2)
    let tcpFlags ← readAt payload (ihl + 13)
    let offsetByte ← readAt payload (ihl + 12)
    let tcpDataOffset := ((offsetByte >>> 4) * 4).toNat
    if ihl + tcpDataOffset < payload.length then
      return (srcPort, dstPort, tcpFlags, ← sliceFrom payload (ihl + tcpDataOffset))
    else return (srcPort, dstPort, tcpFlags, [])
  else return (0, 0, 0, [])

def keepHTTP (table : GoStrings.CaseTable) (held : Held) (tcpPayload srcIP dstIP : Bytes) (srcPort dstPort : UInt16) :
    Checked Held := do
  if isHTTPPort dstPort ∧ tcpPayload.length > 0 then
    match ← parseHTTP table tcpPayload srcIP dstIP srcPort dstPort with
    | some record => return { held with httpReqs := ← appendSliced held.httpReqs record }
    | none => return held
  else return held

def keepDNS (held : Held) (payload srcIP dstIP : Bytes) (ihl : Nat) (srcPort dstPort : UInt16) : Checked Held := do
  if (srcPort = 53 ∨ dstPort = 53) ∧ payload.length > ihl + 8 then
    match ← parseDNS (← sliceFrom payload (ihl + 8)) srcIP dstIP with
    | some record => return { held with dnsQs := ← appendSliced held.dnsQs record }
    | none => return held
  else return held

/-- The switch over the protocol: the lists as they are after it, the name, the ports and the flags. -/
def dispatch (table : GoStrings.CaseTable) (held : Held) (payload srcIP dstIP : Bytes) (ihl : Nat) (protocol : UInt8) :
    Checked (Held × Bytes × UInt16 × UInt16 × UInt8) := do
  if protocol = 6 then
    let (srcPort, dstPort, tcpFlags, tcpPayload) ← tcpSlices payload ihl
    return (← keepHTTP table held tcpPayload srcIP dstIP srcPort dstPort, ascii "TCP", srcPort, dstPort, tcpFlags)
  else if protocol = 17 then
    let (srcPort, dstPort) ← udpHeader payload ihl
    return (← keepDNS held payload srcIP dstIP ihl srcPort dstPort, ascii "UDP", srcPort, dstPort, 0)
  else if protocol = 1 then return (held, ascii "ICMP", 0, 0, 0)
  else return (held, ascii "IP", 0, 0, 0)

end processIPv4

def processIPv4 (table : GoStrings.CaseTable) (held : Held) (payload : Bytes) : Checked Held := do
  if payload.length < 20 then return held
  else
    let versionIHL ← readAt payload 0
    let ihl := (versionIHL &&& 0x0F).toNat * 4
    if ihl > payload.length then return held
    else
      let protocol ← readAt payload 9
      let srcIP := ipString (← readRange payload 12 4)
      let dstIP := ipString (← readRange payload 16 4)
      if srcIP = ascii "127.0.0.1" ∨ dstIP = ascii "127.0.0.1" then return held
      else
        let (held, protoName, srcPort, dstPort, tcpFlags) ←
          processIPv4.dispatch table held payload srcIP dstIP ihl protocol
        let arrival : Arrival :=
          { flow := { srcIP, dstIP, srcPort, dstPort, protocol := protoName }
            size := payload.length, tcpFlags, record := none }
        return { held with flows := aggregate held.flows arrival }

/-! ### The loop -/

/-- The buffer keeps its size. -/
structure Capture where
  buf : Bytes
  held : Held
  sized : buf.length = 65536

/-- What `Recvfrom` returns: an error, or a frame of which as much as fits is written over the start of the buffer. A
flush of the other goroutine may come in between. -/
inductive Received where
  | failed
  | frame (bytes : Bytes)
  | flushed

def Capture.fill (c : Capture) (bytes : Bytes) : Capture where
  buf := bytes.take 65536 ++ c.buf.drop (min bytes.length 65536)
  held := c.held
  sized := by
    rw [List.length_append, List.length_take, List.length_drop, c.sized]
    omega

def captureStep (table : GoStrings.CaseTable) (c : Capture) : Received → Checked Capture
  | .failed => return c
  | .flushed => return { c with held := {} }
  | .frame bytes => do
    let n := min bytes.length 65536
    let c := c.fill bytes
    if n < 14 then return c
    else
      let high ← readAt c.buf 12
      let low ← readAt c.buf 13
      if high = 0x08 ∧ low = 0x00 then
        let payload ← readRange c.buf 14 (n - 14)
        return { c with held := ← processIPv4 table c.held payload }
      else return c

def captureLoop (table : GoStrings.CaseTable) (c : Capture) (received : List Received) : Checked Capture :=
  received.foldlM (captureStep table) c

/-! ### Nothing is out of range -/

theorem sliceFrom_inside {α : Type} {data : List α} {offset : Nat} (inside : offset ≤ data.length) :
    sliceFrom data offset = .ok (data.drop offset) := if_pos inside

theorem appendSliced_eq {α : Type} (records : List α) (record : α) :
    appendSliced records record = .ok (appendCapped records record) := by
  unfold appendSliced appendCapped
  dsimp only
  split
  · exact sliceFrom_inside (Nat.sub_le _ _)
  · rfl

theorem appendSliced_completes {α : Type} (records : List α) (record : α) : Completes (appendSliced records record) :=
  ⟨_, appendSliced_eq records record, trivial⟩

namespace processIPv4

/-- The slice behind the header is what is left of the packet. -/
theorem tcpSlices_eq (payload : Bytes) (ihl : Nat) : tcpSlices payload ihl = tcpHeader payload ihl := by
  unfold tcpSlices tcpHeader
  by_cases short : payload.length < ihl + 20
  · rw [if_pos short, if_neg (by omega)]
  · rw [if_neg short, if_pos (by omega)]
    refine bind_congr fun srcPort => bind_congr fun dstPort => bind_congr fun tcpFlags => bind_congr fun offsetByte => ?_
    dsimp only
    split
    · rename_i inside
      rw [sliceFrom_inside (Nat.le_of_lt inside)]
      rfl
    · rename_i outside
      rw [List.drop_of_length_le (by omega)]

theorem tcpSlices_completes (payload : Bytes) (ihl : Nat) : Completes (tcpSlices payload ihl) := by
  rw [tcpSlices_eq]
  exact tcpHeader_completes payload ihl

theorem keepHTTP_completes (table : UnicodeCase) (held : Held) (tcpPayload srcIP dstIP : Bytes) (srcPort dstPort : UInt16) :
    Completes (keepHTTP table.toCaseTable held tcpPayload srcIP dstIP srcPort dstPort) := by
  unfold keepHTTP
  split
  · refine completes_bind (parseHTTP_completes table.apart tcpPayload srcIP dstIP srcPort dstPort) fun found => ?_
    cases found with
    | none => exact completes_pure _
    | some record => exact completes_bind (appendSliced_completes _ record) fun _ => completes_pure _
  · exact completes_pure _

theorem keepDNS_completes (held : Held) (payload srcIP dstIP : Bytes) (ihl : Nat) (srcPort dstPort : UInt16) :
    Completes (keepDNS held payload srcIP dstIP ihl srcPort dstPort) := by
  unfold keepDNS
  split
  · rename_i long
    rw [sliceFrom_inside (Nat.le_of_lt long.2), ok_bind]
    refine completes_bind (parseDNS_completes _ srcIP dstIP) fun found => ?_
    cases found with
    | none => exact completes_pure _
    | some record => exact completes_bind (appendSliced_completes _ record) fun _ => completes_pure _
  · exact completes_pure _

theorem dispatch_completes (table : UnicodeCase) (held : Held) (payload srcIP dstIP : Bytes) (ihl : Nat) (protocol : UInt8) :
    Completes (dispatch table.toCaseTable held payload srcIP dstIP ihl protocol) := by
  unfold dispatch
  split
  · refine completes_bind (tcpSlices_completes payload ihl) fun header => ?_
    exact completes_bind (keepHTTP_completes table held _ _ _ _ _) fun _ => completes_pure _
  · split
    · refine completes_bind (udpHeader_completes payload ihl) fun header => ?_
      exact completes_bind (keepDNS_completes held _ _ _ _ _ _) fun _ => completes_pure _
    · split <;> exact completes_pure _

end processIPv4

theorem processIPv4_completes (table : UnicodeCase) (held : Held) (payload : Bytes) :
    Completes (processIPv4 table.toCaseTable held payload) := by
  unfold processIPv4
  split
  · exact completes_pure _
  · refine completes_bind (completes_readAt (by omega)) fun versionIHL => ?_
    dsimp only
    split
    · exact completes_pure _
    · refine completes_bind (completes_readAt (by omega)) fun protocol => ?_
      refine completes_bind (completes_readRange (by omega)) fun src => ?_
      refine completes_bind (completes_readRange (by omega)) fun dst => ?_
      split
      · exact completes_pure _
      · exact completes_bind (processIPv4.dispatch_completes table held payload _ _ _ protocol) fun _ => completes_pure _

theorem captureStep_completes (table : UnicodeCase) (c : Capture) (received : Received) :
    Completes (captureStep table.toCaseTable c received) := by
  cases received with
  | failed | flushed => exact completes_pure _
  | frame bytes =>
    have size := (c.fill bytes).sized
    unfold captureStep
    dsimp only
    split
    · exact completes_pure _
    · refine completes_bind (completes_readAt (by omega)) fun high => ?_
      refine completes_bind (completes_readAt (by omega)) fun low => ?_
      split
      · refine completes_bind (completes_readRange (by omega)) fun payload => ?_
        exact completes_bind (processIPv4_completes table _ payload) fun _ => completes_pure _
      · exact completes_pure _

/-- The loop never leaves a buffer, a packet or a list, whatever it receives and whatever has been collected. -/
theorem capture_never_out_of_range (table : UnicodeCase) (c : Capture) (received : List Received) :
    ∃ after, captureLoop table.toCaseTable c received = .ok after := by
  induction received generalizing c with
  | nil => exact ⟨c, rfl⟩
  | cons first rest ih =>
    obtain ⟨next, here, -⟩ := captureStep_completes table c first
    obtain ⟨after, later⟩ := ih next
    refine ⟨after, ?_⟩
    unfold captureLoop at later ⊢
    rw [List.foldlM_cons, here, ok_bind, later]

/-! ### The same call in steps -/

/-- The section for the records. -/
def Held.keep (held : Held) : Option AppRecord → Held
  | some (.http record) => { held with httpReqs := appendCapped held.httpReqs record }
  | some (.dns record) => { held with dnsQs := appendCapped held.dnsQs record }
  | none => held

/-- Both sections of a call, one after the other. -/
def Held.take (held : Held) (arrival : Arrival) : Held :=
  { held.keep arrival.record with flows := aggregate held.flows arrival }

namespace processIPv4

theorem keepHTTP_eq (table : UnicodeCase) (held : Held) (tcpPayload srcIP dstIP : Bytes) (srcPort dstPort : UInt16) :
    keepHTTP table.toCaseTable held tcpPayload srcIP dstIP srcPort dstPort =
      (httpRecord table tcpPayload srcIP dstIP srcPort dstPort >>= fun found => pure (held.keep (found.map .http))) := by
  unfold keepHTTP httpRecord
  simp only [gt_iff_lt, List.length_pos_iff]
  split
  · refine bind_congr fun found => ?_
    cases found with
    | none => rfl
    | some record =>
      show (appendSliced held.httpReqs record >>= _) = _
      rw [appendSliced_eq]
      rfl
  · rfl

theorem keepDNS_eq (held : Held) (payload srcIP dstIP : Bytes) (ihl : Nat) (srcPort dstPort : UInt16) :
    keepDNS held payload srcIP dstIP ihl srcPort dstPort =
      (dnsRecord payload srcIP dstIP ihl srcPort dstPort >>= fun found => pure (held.keep (found.map .dns))) := by
  unfold keepDNS dnsRecord
  split
  · rename_i long
    rw [sliceFrom_inside (Nat.le_of_lt long.2), ok_bind]
    refine bind_congr fun found => ?_
    cases found with
    | none => rfl
    | some record =>
      show (appendSliced held.dnsQs record >>= _) = _
      rw [appendSliced_eq]
      rfl
  · rfl

theorem dispatch_eq (table : UnicodeCase) (held : Held) (payload srcIP dstIP : Bytes) (ihl : Nat) (protocol : UInt8) :
    dispatch table.toCaseTable held payload srcIP dstIP ihl protocol =
      (transport table payload srcIP dstIP ihl protocol >>= fun part =>
        pure (held.keep part.record, part.protoName, part.srcPort, part.dstPort, part.tcpFlags)) := by
  unfold dispatch transport
  split
  · unfold tcp
    rw [tcpSlices_eq, bind_assoc]
    refine bind_congr fun ⟨srcPort, dstPort, tcpFlags, tcpPayload⟩ => ?_
    dsimp only
    rw [keepHTTP_eq, bind_assoc, bind_assoc]
    rfl
  · split
    · unfold udp
      rw [bind_assoc]
      refine bind_congr fun ⟨srcPort, dstPort⟩ => ?_
      dsimp only
      rw [keepDNS_eq, bind_assoc, bind_assoc]
      rfl
    · split <;> rfl

end processIPv4

/-- A call that nobody interrupts is the parsing and the sections of the aggregation. -/
theorem processIPv4_steps (table : UnicodeCase) (held : Held) (payload : Bytes) :
    processIPv4 table.toCaseTable held payload =
      (processIPv4.parse table payload >>= fun found => pure (found.elim held held.take)) := by
  unfold processIPv4 processIPv4.parse
  split
  · rfl
  · rw [bind_assoc]
    refine bind_congr fun versionIHL => ?_
    dsimp only
    split
    · rfl
    · simp only [bind_assoc]
      refine bind_congr fun protocol => bind_congr fun src => bind_congr fun dst => ?_
      split
      · rfl
      · rw [processIPv4.dispatch_eq, bind_assoc, bind_assoc]
        refine bind_congr fun part => ?_
        obtain ⟨protoName, srcPort, dstPort, tcpFlags, record⟩ := part
        rcases record with _ | ⟨http | dns⟩ <;> rfl

end StbEbpf.Protocol.ProtocolCollector
