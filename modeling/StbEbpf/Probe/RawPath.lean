import StbEbpf.Probe.PacketParser

/-! What `src/main.c` does with a received frame: the payload parsers and the code that finds their payloads. -/

namespace StbEbpf.Probe
open CText Access

/-! ### DNS -/

/-- The copy of one label: `remaining` bytes from `position` on, as long as the name has room. -/
def copyLabel (payload : Bytes) : Nat → Nat → Bytes → Nat → Checked (Bytes × Nat)
  | 0, _, name, nameLen => pure (name, nameLen)
  | remaining + 1, position, name, nameLen =>
    if nameLen < 255 then do
      let name ← writeAt name nameLen (← readAt payload position)
      copyLabel payload remaining (position + 1) name (nameLen + 1)
    else pure (name, nameLen)

structure DnsName where
  offset : Nat
  name : Bytes
  nameLen : Nat
  jumped : Bool := false

/-- The label loop of `parse_dns_payload`. -/
def dnsLabels (payload : Bytes) : Nat → DnsName → Checked DnsName
  | 0, _ => throw .endless
  | fuel + 1, d =>
    if d.offset < payload.length then do
      let labelLen := (← readAt payload d.offset).toNat
      if labelLen = 0 then return d
      else if labelLen ≥ 0xC0 then return { d with jumped := true }
      else
        let offset := d.offset + 1
        if offset + labelLen > payload.length then return { d with offset }
        else
          let (name, nameLen) ← dotBefore d.name d.nameLen
          let (name, nameLen) ← copyLabel payload labelLen offset name nameLen
          dnsLabels payload fuel ⟨offset + labelLen, name, nameLen, false⟩
    else pure d
where
  dotBefore (name : Bytes) (nameLen : Nat) : Checked (Bytes × Nat) :=
    if nameLen > 0 ∧ nameLen < 255 then do return (← writeAt name nameLen 46, nameLen + 1)
    else pure (name, nameLen)

def dnsTypeText (qtype : UInt16) : Bytes :=
  if qtype = 1 then ascii "A"
  else if qtype = 28 then ascii "AAAA"
  else if qtype = 5 then ascii "CNAME"
  else if qtype = 12 then ascii "PTR"
  else if qtype = 15 then ascii "MX"
  else if qtype = 16 then ascii "TXT"
  else if qtype = 33 then ascii "SRV"
  else ascii "UNKNOWN"

def parseDnsPayload (payload : Bytes) (flow : FlowEvent) (isReply : Bool) : Checked FlowEvent := do
  if payload.length < 12 then return flow
  else
    let header ← readRange payload 0 8
    let flags := fieldBe16 header 2
    let qdcount := fieldBe16 header 4
    let ancount := fieldBe16 header 6
    if isReply then
      return { flow with details := .snprintf (ascii "dns_reply:rcode=" ++ decimal (flags &&& 0x0F).toNat ++
        ascii ",ancount=" ++ decimal ancount.toNat) }
    else if qdcount > 0 then
      let d ← dnsLabels payload (payload.length + 1) ⟨12, List.replicate 256 0, 0, false⟩
      let name ← writeAt d.name d.nameLen 0
      let typeOffset := d.offset + 1
      if ¬ d.jumped ∧ typeOffset + 1 < payload.length then
        let qtype := be16 (← readAt payload typeOffset) (← readAt payload (typeOffset + 1))
        return { flow with details := .snprintf (ascii "dns_query:name=" ++ cut name ++
          ascii ",type=" ++ dnsTypeText qtype) }
      else
        return { flow with details := .snprintf (ascii "dns_query:name=" ++ cut name) }
    else return flow

/-! ### HTTP -/

/-- The array `buf[2048]`, with whatever it holds before it is written. -/
structure HttpBuf where
  bytes : Bytes
  size : bytes.length = 2048

/-- The copy of a header value: up to a line end or NUL, at most `limit` bytes. -/
def copyValue (limit : Nat) : Bytes → Nat → Bytes → Checked (Bytes × Nat)
  | [], _, _ => throw .read
  | byte :: rest, i, out =>
    if byte ≠ 0 ∧ byte ≠ 13 ∧ byte ≠ 10 ∧ i < limit then do
      copyValue limit rest (i + 1) (← writeAt out i byte)
    else pure (out, i)

/-- The value of a header found at `position`, in an array one byte longer than `limit`. -/
def headerValue (limit nameLen : Nat) (buf : Bytes) (position : Option Nat) : Checked Bytes :=
  let out := List.replicate (limit + 1) 0
  match position with
  | none => pure out
  | some k => do
    let text ← skipWhile (· == 32) (buf.drop (k + nameLen))
    let (out, i) ← copyValue limit text 0 out
    writeAt out i 0

def findHeader (first second : Bytes) (buf : Bytes) : Checked (Option Nat) := do
  match ← strcasestr first buf with
  | some k => return some k
  | none => strcasestr second buf

def orElseText (out replacement : Bytes) : Checked Bytes := do
  return if (← readAt out 0) ≠ 0 then cut out else replacement

def parseHttpResponse (buf : Bytes) (flow : FlowEvent) : Checked FlowEvent := do
  let head ← readRange buf 0 4
  if head = ascii "HTTP" then
    let statusCode ← statusAfter (← strchr 32 buf)
    let ct ← findHeader (ascii "Content-Type:") (ascii "content-type:") buf
    let ctValue ← headerValue 127 13 buf ct
    let contentType ← orElseText ctValue (ascii "unknown")
    return { flow with
      details := .snprintf (ascii "http_resp:status=" ++ decimalInt statusCode ++ ascii ",content_type=" ++ contentType)
      service := .strncpy (ascii "HTTP") }
  else return flow
where
  statusAfter : Option Nat → Checked Int
    | some sp => atoi (buf.drop (sp + 1))
    | none => pure 0

/-- `memcpy` of a piece of `buf` into a zeroed array one byte longer than `limit`. -/
def copyPiece (limit : Nat) (buf : Bytes) (start length : Nat) : Checked Bytes := do
  let length := if length > limit then limit else length
  let out ← writeStart (List.replicate (limit + 1) 0) (← readRange buf start length)
  writeAt out length 0

structure RequestLine where
  method : Bytes := List.replicate 16 0
  path : Bytes := List.replicate 256 0

def requestLine (buf : Bytes) : Checked RequestLine := do
  match ← strchr 32 buf with
  | none => return {}
  | some sp =>
    let method ← copyPiece 15 buf 0 sp
    match ← strchr 32 (buf.drop (sp + 1)) with
    | none => return { method }
    | some pathLen => return { method, path := ← copyPiece 255 buf (sp + 1) pathLen }

def parseHttpRequest (buf : Bytes) (flow : FlowEvent) : Checked FlowEvent := do
  let line ← requestLine buf
  let hostHeader ← findHeader (ascii "Host:") (ascii "host:") buf
  let host ← headerValue 255 5 buf hostHeader
  let method ← orElseText line.method (ascii "UNKNOWN")
  let path ← orElseText line.path (ascii "/")
  let host ← orElseText host (ascii "unknown")
  return { flow with
    details := .snprintf (ascii "http_req:method=" ++ method ++ ascii ",path=" ++ path ++ ascii ",host=" ++ host)
    service := .strncpy (ascii "HTTP") }

def parseHttpPayload (initial : HttpBuf) (payload : Bytes) (flow : FlowEvent) (isResponse : Bool) :
    Checked FlowEvent := do
  if payload.length < 10 then return flow
  else
    let copyLen := if payload.length < 2048 - 1 then payload.length else 2048 - 1
    let buf ← writeStart initial.bytes (← readRange payload 0 copyLen)
    let buf ← writeAt buf copyLen 0
    if isResponse then parseHttpResponse buf flow else parseHttpRequest buf flow

/-! ### The frame -/

/-- The length of the Ethernet header as `main` finds it. -/
def ethHdrLen (frame : Bytes) : Checked Nat :=
  if frame.length ≥ 16 then do
    return if (← readAt frame 12) = 0x81 ∧ (← readAt frame 13) = 0x00 then 18 else 14
  else pure 14

structure TcpSegment where
  seqNum : UInt32
  payloadLen : UInt16
  tcpFlags : UInt8
  deriving DecidableEq, Repr

/-- Where the TCP header starts, if the frame reaches that far. -/
def tcpOffset (frame : Bytes) (pkt : PktEvent) (ethOffset : Nat) : Checked (Option Nat) := do
  if pkt.ipVersion = 4 then
    if frame.length < ethOffset + 20 then return none
    else return some (ethOffset + ((← readAt frame ethOffset) &&& 0x0F).toNat * 4)
  else if pkt.ipVersion = 6 then return some (ethOffset + 40)
  else return none

def extractTcpSeqNum (frame : Bytes) (pkt : PktEvent) : Checked (Option TcpSegment) := do
  if pkt.protocol ≠ IPPROTO_TCP then return none
  else
    match ← tcpOffset frame pkt (← ethHdrLen frame) with
    | none => return none
    | some offset =>
      if frame.length < offset + 20 then return none
      else
        let tcp ← readRange frame offset 20
        let totalHdr := offset + ((field tcp 12 >>> 4) &&& 0x0F).toNat * 4
        return some
          { seqNum := (field tcp 4).toUInt32 <<< 24 ||| (field tcp 5).toUInt32 <<< 16 |||
              (field tcp 6).toUInt32 <<< 8 ||| (field tcp 7).toUInt32
            payloadLen := if totalHdr < frame.length then UInt16.ofNat (frame.length - totalHdr) else 0
            tcpFlags := tcpFlags6 tcp }

def PktEvent.isHttp (pkt : PktEvent) : Bool :=
  pkt.protocol = IPPROTO_TCP ∧ (pkt.srcPort = PORT_HTTP ∨ pkt.dstPort = PORT_HTTP)

/-- The offset of the bytes `main` takes for a DNS message. -/
def dnsOffset (frame : Bytes) : Checked Nat := do return (← ethHdrLen frame) + 20 + 8

def parseDnsFrame (frame : Bytes) (pkt : PktEvent) (flow : FlowEvent) : Checked FlowEvent := do
  if pkt.isDns ∧ frame.length > 42 then
    let offset ← dnsOffset frame
    if frame.length > offset then parseDnsPayload (frame.drop offset) flow (pkt.srcPort = PORT_DNS)
    else return flow
  else return flow

/-- The offset of the TCP header as the HTTP branch of `main` finds it: the IPv4 header is taken to have no options. -/
def httpTcpOffset (frame : Bytes) (pkt : PktEvent) : Checked Nat := do
  return (← ethHdrLen frame) + if pkt.ipVersion = 6 then 40 else 20

def parseHttpFrame (initial : HttpBuf) (frame : Bytes) (pkt : PktEvent) (flow : FlowEvent) : Checked FlowEvent := do
  if pkt.isHttp ∧ frame.length > 54 then
    let offset ← httpTcpOffset frame pkt
    if frame.length ≥ offset + 20 then
      let httpOffset := offset + (((← readAt frame (offset + 12)) >>> 4) &&& 0x0F).toNat * 4
      if frame.length > httpOffset then
        parseHttpPayload initial (frame.drop httpOffset) flow (pkt.srcPort = PORT_HTTP)
      else return flow
    else return flow
  else return flow

/-- What the analysis of one frame yields: the parsed packet, the enriched event and the TCP segment. -/
structure FrameAnalysis where
  pkt : PktEvent
  flow : FlowEvent
  segment : Option TcpSegment

/-- The raw-packet path of `main` for one received frame. -/
def analyzeFrame (frame : Bytes) (timestampNs : UInt64) (probeId : CStr) (initial : HttpBuf) :
    Checked (Option FrameAnalysis) := do
  match ← packetParseRaw frame { timestampNs, pktLen := UInt16.ofNat frame.length } with
  | none => return none
  | some pkt =>
    let flow ← parseDnsFrame frame pkt (packetToFlowEvent pkt probeId)
    let flow ← parseHttpFrame initial frame pkt flow
    return some { pkt, flow, segment := ← extractTcpSeqNum frame pkt }

end StbEbpf.Probe
