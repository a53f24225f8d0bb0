import StbEbpf.Lib.GoStrings

/-!
The HTTP parsers of `pkg/protocol/http.go`. A reader over the data is the list of the lines that `ReadString` returns
one after the other; the end of the list is the error at the end of the data.
-/

namespace StbEbpf.Protocol
open CText GoStrings

/-- The loop over the header lines, up to a blank line; `onHeader` is the switch over the key. -/
def eachHeader {σ : Type} (table : CaseTable) (onHeader : Bytes → Bytes → σ → σ) : List Bytes → σ → σ
  | [], s => s
  | line :: rest, s =>
    if line = [13, 10] ∨ line = [10] then s
    else
      match cutAt 58 line with
      | none => eachHeader table onHeader rest s
      | some (before, after) =>
        eachHeader table onHeader rest (onHeader (toLower table (trimSpace before)) (trimSpace after) s)

/-! ### Requests and responses -/

/-- The results of `ParseHTTPRequest`. -/
@[ext]
structure ParsedRequest where
  method : Bytes := []
  url : Bytes := []
  host : Bytes := []
  ua : Bytes := []
  ok : Bool := false
  deriving DecidableEq, Repr

def parseHTTPRequest.onHeader (key val : Bytes) (r : ParsedRequest) : ParsedRequest :=
  if key = ascii "host" then { r with host := val }
  else if key = ascii "user-agent" then { r with ua := val }
  else r

def parseHTTPRequest (table : CaseTable) (data : Bytes) : ParsedRequest :=
  match lines data with
  | [] => {}
  | line :: rest =>
    if line.length < 8 then {}
    else if ¬ contains (toUpper table line) (ascii "HTTP/") then {}
    else
      match splitN 32 3 (trimSpace line) with
      | method :: url :: _ => eachHeader table parseHTTPRequest.onHeader rest { method, url, ok := true }
      | _ => {}

/-- The results of `ParseHTTPResponse`. -/
structure ParsedResponse where
  statusCode : Int := 0
  contentLength : Int := 0
  ok : Bool := false
  deriving DecidableEq, Repr

def parseHTTPResponse.onHeader (key val : Bytes) (r : ParsedResponse) : ParsedResponse :=
  if key = ascii "content-length" then { r with contentLength := (sscanfInt val).getD r.contentLength } else r

def parseHTTPResponse (table : CaseTable) (data : Bytes) : ParsedResponse :=
  match lines data with
  | [] => {}
  | line :: rest =>
    if line.length < 12 then {}
    else if ¬ hasPrefix line (ascii "HTTP/") then {}
    else
      match splitN 32 3 (trimSpace line) with
      | _ :: code :: _ =>
        eachHeader table parseHTTPResponse.onHeader rest { statusCode := (sscanfInt code).getD 0, ok := true }
      | _ => {}

/-! ### Records -/

/-- `HTTPRecord`, without the members that no parser sets. -/
structure HTTPRecord where
  timestamp : Int
  srcIP : Bytes
  dstIP : Bytes
  srcPort : UInt16
  dstPort : UInt16
  method : Bytes := []
  host : Bytes := []
  url : Bytes := []
  statusCode : Int := 0
  latencyMs : Nat := 0
  contentType : Bytes := []
  userAgent : Bytes := []
  referer : Bytes := []
  isChunked : Bool := false
  isGzip : Bool := false
  isError : Bool := false
  isSlow : Bool := false
  deriving DecidableEq, Repr

/-- The methods that a request line may start with. -/
def methods : List Bytes :=
  [ascii "GET", ascii "POST", ascii "PUT", ascii "DELETE", ascii "HEAD", ascii "PATCH", ascii "OPTIONS"]

def startsRequest (text : Bytes) : Bool := methods.any fun method => hasPrefix text (method ++ [32])

def parseHTTPPayload.onHeader (table : CaseTable) (key val : Bytes) (record : HTTPRecord) : HTTPRecord :=
  if key = ascii "host" then { record with host := val }
  else if key = ascii "content-type" then { record with contentType := val }
  else if key = ascii "user-agent" then { record with userAgent := val }
  else if key = ascii "referer" then { record with referer := val }
  else if key = ascii "transfer-encoding" then
    { record with isChunked := contains (toLower table val) (ascii "chunked") }
  else if key = ascii "content-encoding" then { record with isGzip := contains (toLower table val) (ascii "gzip") }
  else record

/-- The first line, written into the record; `none` when it starts neither a request nor a response. -/
def parseHTTPPayload.firstLine (line : Bytes) (record : HTTPRecord) : Option HTTPRecord :=
  if startsRequest line then
    match splitN 32 3 line with
    | method :: url :: _ => some { record with method, url }
    | _ => some record
  else if hasPrefix line (ascii "HTTP/") then
    match splitN 32 3 line with
    | _ :: code :: _ =>
      let statusCode := (sscanfInt code).getD record.statusCode
      some { record with statusCode, isError := statusCode ≥ 400 }
    | _ => some record
  else none

def parseHTTPPayload (table : CaseTable) (data : Bytes) (record : HTTPRecord) : Option HTTPRecord :=
  match lines data with
  | [] => none
  | line :: rest =>
    if line.length < 8 then none
    else do
      let record ← parseHTTPPayload.firstLine line record
      let record := eachHeader table (parseHTTPPayload.onHeader table) rest record
      return { record with isSlow := record.latencyMs > 1000 }

def parseHTTP (table : CaseTable) (now : Int) (data srcIP dstIP : Bytes) (srcPort dstPort : UInt16) (direction : UInt8) :
    Option HTTPRecord :=
  if data.length < 10 then none
  else
    parseHTTPPayload table data <|
      if direction = 1 then { timestamp := now, srcIP := dstIP, dstIP := srcIP, srcPort := dstPort, dstPort := srcPort }
      else { timestamp := now, srcIP, dstIP, srcPort, dstPort }

end StbEbpf.Protocol
