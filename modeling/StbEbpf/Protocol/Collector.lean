import StbEbpf.Protocol.Dns
import StbEbpf.Protocol.Http

/-! The payload parsers of `internal/collector/protocol.go`, which do not use those of `pkg/protocol`. -/

namespace StbEbpf.Protocol.ProtocolCollector
open CText Access NetworkOrder DomainName

/-! ### DNS -/

structure DNSRecord where
  srcIP : Bytes
  dstIP : Bytes
  queryName : Bytes := []
  queryType : Bytes := []
  deriving DecidableEq, Repr

/-- The label loop of `parseDNS`; it leaves the offset on the byte that ends the name. -/
def parseDNS.labels (payload : Bytes) : Nat → Nat → List Bytes → Checked (List Bytes × Nat)
  | 0, _, _ => throw .endless
  | fuel + 1, offset, nameParts =>
    if offset < payload.length then do
      let length := (← readAt payload offset).toNat
      if length = 0 then return (nameParts, offset)
      else if length &&& 0xC0 = 0xC0 then return (nameParts, offset + 2)
      else if offset + 1 + length > payload.length then return (nameParts, offset)
      else
        let part ← readRange payload (offset + 1) length
        labels payload fuel (offset + 1 + length) (nameParts ++ [part])
    else pure (nameParts, offset)

def parseDNS.queryType (qtype : UInt16) : Bytes :=
  if qtype = 1 then ascii "A"
  else if qtype = 28 then ascii "AAAA"
  else if qtype = 5 then ascii "CNAME"
  else if qtype = 15 then ascii "MX"
  else if qtype = 16 then ascii "TXT"
  else if qtype = 2 then ascii "NS"
  else ascii "TYPE" ++ decimal qtype.toNat

def parseDNS (payload srcIP dstIP : Bytes) : Checked (Option DNSRecord) := do
  if payload.length < 12 then return none
  else
    let questions ← readWord16 payload 4
    if questions = 0 then return none
    else
      let (nameParts, offset) ← parseDNS.labels payload (payload.length + 1) 12 []
      let queryName := dotted nameParts
      if offset + 4 ≤ payload.length then
        let qtype ← readWord16 payload (offset + 2)
        return some { srcIP, dstIP, queryName, queryType := parseDNS.queryType qtype }
      else return some { srcIP, dstIP, queryName }

/-! ### HTTP -/

/-- The collector's own `HTTPRecord`; nothing sets its latency. -/
structure HTTPRecord where
  srcIP : Bytes
  dstIP : Bytes
  srcPort : UInt16
  dstPort : UInt16
  method : Bytes := []
  host : Bytes := []
  url : Bytes := []
  statusCode : Int := 0
  bytes : UInt64
  deriving DecidableEq, Repr

def parseHTTP.hasHost (table : GoStrings.CaseTable) (line : Bytes) : Bool :=
  GoStrings.hasPrefix (GoStrings.toLower table line) (ascii "host:")

/-- The value behind the first line that starts with the header name. -/
def parseHTTP.host (table : GoStrings.CaseTable) (lines : List Bytes) : Checked Bytes :=
  match lines.find? (hasHost table) with
  | none => pure []
  | some line => do return GoStrings.trimSpace (← readRange line 5 (line.length - 5))

def parseHTTP (table : GoStrings.CaseTable) (payload srcIP dstIP : Bytes) (srcPort dstPort : UInt16) :
    Checked (Option HTTPRecord) := do
  if payload.length < 8 then return none
  else if startsRequest payload then
    let record : HTTPRecord := { srcIP, dstIP, srcPort, dstPort, bytes := UInt64.ofNat payload.length }
    let record := match GoStrings.splitN 32 3 payload with
      | method :: url :: _ => { record with method, url }
      | _ => record
    return some { record with host := ← parseHTTP.host table (GoStrings.scanLines payload) }
  else if GoStrings.hasPrefix payload (ascii "HTTP/") then
    let record : HTTPRecord :=
      { srcIP := dstIP, dstIP := srcIP, srcPort := dstPort, dstPort := srcPort, bytes := UInt64.ofNat payload.length }
    match GoStrings.splitN 32 3 payload with
    | _ :: code :: _ => return some { record with statusCode := GoStrings.atoi code }
    | _ => return some record
  else return none

/-! ### Parsing ends -/

theorem labels_completes {payload : Bytes} {fuel offset : Nat} (inside : offset ≤ payload.length)
    (enough : payload.length < offset + fuel) (nameParts : List Bytes) :
    Completes (parseDNS.labels payload fuel offset nameParts) := by
  induction fuel generalizing offset nameParts with
  | zero => omega
  | succ fuel ih =>
    unfold parseDNS.labels
    split
    · rename_i more
      refine completes_bind (completes_readAt more) fun length => ?_
      dsimp only
      split
      · exact completes_pure _
      · split
        · exact completes_pure _
        · split
          · exact completes_pure _
          · refine completes_bind (completes_readRange (by omega)) fun part => ?_
            exact ih (by omega) (by omega) _
    · exact completes_pure _

theorem parseDNS_completes (payload srcIP dstIP : Bytes) : Completes (parseDNS payload srcIP dstIP) := by
  unfold parseDNS
  split
  · exact completes_pure _
  · refine completes_bind (completes_readWord16 (by omega)) fun questions => ?_
    split
    · exact completes_pure _
    · refine completes_bind (labels_completes (by omega) (by omega) []) fun found => ?_
      dsimp only
      split
      · exact completes_bind (completes_readWord16 (by omega)) fun _ => completes_pure _
      · exact completes_pure _

section
variable {table : GoStrings.CaseTable}
  (apart : ∀ w, Utf8.isWide w = true → ∀ byte ∈ ascii "host", (table.lower w).head? ≠ some byte)
include apart

/-- A line that starts with the header name is long enough for the slice behind it. -/
theorem host_completes (lines : List Bytes) : Completes (parseHTTP.host table lines) := by
  unfold parseHTTP.host
  split
  · exact completes_pure _
  · rename_i line found
    have named : parseHTTP.hasHost table line = true := List.find?_some found
    have starts : ascii "host" ++ [58] <+: GoStrings.toLower table line := List.isPrefixOf_iff_prefix.mp named
    have plain : (ascii "host").all (· < 0x80) = true := by decide
    have long : 4 < line.length := GoStrings.toLower_start_longer apart (by simpa using plain) starts
    exact completes_bind (completes_readRange (by omega)) fun _ => completes_pure _

theorem parseHTTP_completes (payload srcIP dstIP : Bytes) (srcPort dstPort : UInt16) :
    Completes (parseHTTP table payload srcIP dstIP srcPort dstPort) := by
  unfold parseHTTP
  split
  · exact completes_pure _
  · split
    · exact completes_bind (host_completes apart _) fun _ => completes_pure _
    · split
      · split <;> exact completes_pure _
      · exact completes_pure _

end

end StbEbpf.Protocol.ProtocolCollector
