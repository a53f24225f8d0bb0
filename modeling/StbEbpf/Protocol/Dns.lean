import StbEbpf.Lib.DomainName
import StbEbpf.Lib.NetworkOrder

/-!
The DNS parser of `pkg/protocol/dns.go`. Every index and slice expression is a checked read of the slice it is applied
to. A Go string is the list of its bytes.
-/

namespace StbEbpf.Protocol
open CText Access NetworkOrder DomainName

/-! ### Names -/

/-- The variables of the loop in `parseDNSName`. -/
structure NameWalk where
  offset : Nat
  parts : List Bytes := []
  jumped : Bool := false
  originalOffset : Nat
  jumps : Nat := 0

def parseDNSName.maxJumps : Nat := 5

def parseDNSName.loop (data : Bytes) : Nat → NameWalk → Checked (Bytes × Int)
  | 0, _ => throw .endless
  | fuel + 1, w =>
    if w.offset ≥ data.length then return ([], -1)
    else do
      let length := (← readAt data w.offset).toNat
      if length = 0 then
        return (dotted w.parts, if w.jumped then w.originalOffset else w.offset + 1)
      else if length &&& 0xC0 = 0xC0 then
        if w.offset + 1 ≥ data.length then return ([], -1)
        else
          let pointer := ((← readWord16 data w.offset) &&& 0x3FFF).toNat
          let originalOffset := if w.jumped then w.originalOffset else w.offset + 2
          if w.jumps ≥ maxJumps then return ([], -1)
          else loop data fuel { w with offset := pointer, jumped := true, originalOffset, jumps := w.jumps + 1 }
      else if length > 63 then return ([], -1)
      else if w.offset + 1 + length > data.length then return ([], -1)
      else
        let part ← readRange data (w.offset + 1) length
        loop data fuel { w with offset := w.offset + 1 + length, parts := w.parts ++ [part] }

/-- A pointer is followed at most five times, and every label takes the walk on. -/
def parseDNSName.rounds (data : Bytes) : Nat := 6 * (data.length + 1)

def parseDNSName (data : Bytes) (offset : Nat) : Checked (Bytes × Int) :=
  if offset ≥ data.length then return ([], -1)
  else parseDNSName.loop data (parseDNSName.rounds data) { offset, originalOffset := offset }

/-! ### Record data -/

def queryTypeName (qtype : UInt16) : Bytes :=
  if qtype = 1 then ascii "A"
  else if qtype = 2 then ascii "NS"
  else if qtype = 5 then ascii "CNAME"
  else if qtype = 6 then ascii "SOA"
  else if qtype = 12 then ascii "PTR"
  else if qtype = 15 then ascii "MX"
  else if qtype = 16 then ascii "TXT"
  else if qtype = 28 then ascii "AAAA"
  else if qtype = 33 then ascii "SRV"
  else if qtype = 255 then ascii "ANY"
  else ascii "TYPE" ++ decimal qtype.toNat

-- `%x` of a number and of a slice.
def hexadecimal (n : Nat) : Bytes := (Nat.toDigits 16 n).map fun c => c.toNat.toUInt8

def hexBytes (bytes : Bytes) : Bytes :=
  bytes.flatMap fun byte => hexadecimal (byte.toNat / 16) ++ hexadecimal (byte.toNat % 16)

/-- The switch of `parseRData`; `none` when it is left without a result. -/
def parseRData.known (atype : UInt16) (rdata : Bytes) : Checked (Option Bytes) :=
  if atype = 1 then
    if rdata.length = 4 then do
      return some (decimal (← readAt rdata 0).toNat ++ ascii "." ++ decimal (← readAt rdata 1).toNat ++ ascii "." ++
        decimal (← readAt rdata 2).toNat ++ ascii "." ++ decimal (← readAt rdata 3).toNat)
    else pure none
  else if atype = 2 ∨ atype = 5 ∨ atype = 12 then do
    let (name, _) ← parseDNSName rdata 0
    return some name
  else if atype = 15 then
    if rdata.length ≥ 2 then do
      let pref ← readWord16 rdata 0
      let (name, _) ← parseDNSName rdata 2
      return some (decimal pref.toNat ++ ascii " " ++ name)
    else pure none
  else if atype = 16 then pure (some rdata)
  else if atype = 28 then
    if rdata.length = 16 then do
      let groups ← [0, 2, 4, 6, 8, 10, 12, 14].mapM (readWord16 rdata)
      return some ((ascii ":").intercalate (groups.map fun group => hexadecimal group.toNat))
    else pure none
  else if atype = 33 then
    if rdata.length ≥ 6 then do
      let priority ← readWord16 rdata 0
      let weight ← readWord16 rdata 2
      let port ← readWord16 rdata 4
      let (name, _) ← parseDNSName rdata 6
      return some (decimal priority.toNat ++ ascii " " ++ decimal weight.toNat ++ ascii " " ++ decimal port.toNat ++
        ascii " " ++ name)
    else pure none
  else pure none

def parseRData (atype aclass : UInt16) (rdata : Bytes) : Checked Bytes :=
  if aclass ≠ 1 then return ascii "CLASS" ++ decimal aclass.toNat ++ ascii ":" ++ hexBytes rdata
  else do return (← parseRData.known atype rdata).getD (hexBytes rdata)

/-! ### The packet -/

/-- What is taken from outside the packet: the clock, and whether `calculateEntropy` comes out above 3.5 for a text.
That is a sum of doubles in the order of a Go map. -/
structure Surroundings where
  nowMs : Int
  highEntropy : Bytes → Bool

def detectDGADomain (env : Surroundings) (domain : Bytes) : Bool :=
  if domain.length > 50 then true
  else
    match domain.splitOn 46 with
    | subdomain :: _ :: _ => decide (subdomain.length > 20) && env.highEntropy subdomain
    | _ => false

def detectDNSTunnel (domain : Bytes) : Bool :=
  if domain.length > 60 then true else (domain.splitOn 46).any (·.length > 30)

/-- The members of `DNSEvent` that the parser sets. -/
structure DNSEvent where
  timestamp : Int
  srcIP : Bytes
  dstIP : Bytes
  srcPort : UInt16
  dstPort : UInt16
  queryID : UInt16
  qType : Bytes := []
  qName : Bytes := []
  rCode : UInt8
  answers : List Bytes := []
  direction : UInt8
  isNXDOMAIN : Bool
  isSuspicious : Bool := false
  isTunnel : Bool := false
  deriving DecidableEq, Repr

/-- One turn of the answer loop: the text and the next offset, or `none` when the loop is left. -/
def parseAnswer (payload : Bytes) (offset : Nat) : Checked (Option (Bytes × Nat)) := do
  let (name, newOffset) ← parseDNSName payload offset
  if newOffset < 0 ∨ newOffset + 10 > payload.length then return none
  else
    let position := newOffset.toNat
    let atype ← readWord16 payload position
    let aclass ← readWord16 payload (position + 2)
    let ttl ← readWord32 payload (position + 4)
    let rdlen ← readWord16 payload (position + 8)
    let start := position + 10
    if start + rdlen.toNat > payload.length then return none
    else
      let rdata ← readRange payload start rdlen.toNat
      let text ← parseRData atype aclass rdata
      return some (name ++ ascii " " ++ queryTypeName atype ++ ascii " " ++ decimal ttl.toNat ++ ascii " " ++ text,
        start + rdlen.toNat)

def parseAnswers (payload : Bytes) : Nat → Nat → List Bytes → Checked (List Bytes)
  | 0, _, answers => pure answers
  | remaining + 1, offset, answers =>
    if offset < payload.length then do
      match ← parseAnswer payload offset with
      | none => return answers
      | some (answer, next) => parseAnswers payload remaining next (answers ++ [answer])
    else pure answers

/-- The answers, if the packet is a response that announces some. -/
def parseAnswerSection (payload : Bytes) (isResponse answerRRs : UInt16) (offset : Nat) : Checked (List Bytes) :=
  if isResponse = 1 ∧ answerRRs > 0 then parseAnswers payload answerRRs.toNat offset [] else pure []

structure Question where
  qName : Bytes := []
  qType : Bytes := []
  /-- Where the answers start. -/
  offset : Nat := 12

/-- The first question; `none` when the packet is given up. -/
def parseQuestion (payload : Bytes) (questions : UInt16) : Checked (Option Question) :=
  if questions > 0 then do
    let (name, newOffset) ← parseDNSName payload 12
    if newOffset < 0 ∨ newOffset + 2 > payload.length then return none
    else
      let qtype ← readWord16 payload newOffset.toNat
      return some ⟨name, queryTypeName qtype, newOffset.toNat + 4⟩
  else pure (some {})

def parseDNSPacket (env : Surroundings) (payload srcIP dstIP : Bytes) (srcPort dstPort : UInt16) (direction : UInt8) :
    Checked (Option DNSEvent) := do
  if payload.length < 12 then return none
  else
    let queryID ← readWord16 payload 0
    let flags ← readWord16 payload 2
    let isResponse := (flags >>> 15) &&& 1
    let rCode := (flags &&& 0x0F).toUInt8
    let questions ← readWord16 payload 4
    let answerRRs ← readWord16 payload 6
    -- The counts of the other sections are read and dropped.
    let _ ← readWord16 payload 8
    let _ ← readWord16 payload 10
    match ← parseQuestion payload questions with
    | none => return none
    | some question =>
      let answers ← parseAnswerSection payload isResponse answerRRs question.offset
      return some
        { timestamp := env.nowMs
          srcIP, dstIP, srcPort, dstPort, queryID, rCode, direction
          isNXDOMAIN := rCode == 3
          qName := question.qName
          qType := question.qType
          answers
          isSuspicious := detectDGADomain env question.qName
          isTunnel := detectDNSTunnel question.qName }

end StbEbpf.Protocol
