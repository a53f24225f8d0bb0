import Mathlib.Data.List.Find
import StbEbpf.Protocol.Collector

/-!
Requests as they are written, and what the three Go readers make of them: `ParseHTTPRequest` and `ParseHTTP` read line
by line, the collector splits the whole text and scans it, body included, for the first line that starts with `host:`.
-/

namespace StbEbpf.Protocol
open CText GoStrings

/-! ### Requests -/

/-- The bytes of a token: letters, digits and some punctuation. -/
def isTokenByte (byte : UInt8) : Bool :=
  (48 ≤ byte ∧ byte ≤ 57) ∨ (65 ≤ byte ∧ byte ≤ 90) ∨ (97 ≤ byte ∧ byte ≤ 122) ∨ byte ∈ ascii "!#$%&'*+-.^_|~" ∨ byte = 96

def IsToken (text : Bytes) : Prop := text ≠ [] ∧ ∀ byte ∈ text, isTokenByte byte = true

structure Header where
  name : Bytes
  value : Bytes
  deriving DecidableEq, Repr

namespace Header

def Proper (h : Header) : Prop := IsToken h.name ∧ 13 ∉ h.value ∧ 10 ∉ h.value

def key (h : Header) : Bytes := h.name.map Access.toLower

def line (h : Header) : Bytes := h.name ++ 58 :: h.value

end Header

/-- The request line and the headers, one of which is `Host`. -/
structure RequestHead where
  method : Bytes
  token : IsToken method
  url : Bytes
  target : url ≠ [] ∧ ∀ byte ∈ url, Access.isSpace byte = false
  minor : UInt8
  digit : Access.isDigit minor = true
  headers : List Header
  proper : ∀ h ∈ headers, h.Proper
  host : Header
  oneHost : headers.filter (·.key = ascii "host") = [host]

namespace RequestHead
variable (r : RequestHead)

def version : Bytes := ascii "HTTP/1." ++ [r.minor]

def requestLine : Bytes := r.method ++ 32 :: (r.url ++ 32 :: r.version)

/-- The bytes of the request with this body. -/
def encode (body : Bytes) : Bytes :=
  r.requestLine ++ 13 :: 10 :: (r.headers.flatMap (fun h => h.line ++ [13, 10]) ++ 13 :: 10 :: body)

/-- The lines before the blank one. -/
def headLines : List Bytes := r.requestLine :: r.headers.map Header.line

/-- The value of the header with this key, the last one if there are several. -/
def valueOf (key : Bytes) : Bytes :=
  (r.headers.filter (·.key = key)).foldl (fun _ h => trimSpace h.value) []

end RequestHead

/-! ### Bytes of tokens -/

theorem token_byte {byte : UInt8} (token : isTokenByte byte = true) :
    byte < 0x80 ∧ Access.isSpace byte = false ∧ byte ≠ 58 ∧ byte ≠ 0 := by
  have each : ∀ byte : UInt8, isTokenByte byte = true →
      byte < 0x80 ∧ Access.isSpace byte = false ∧ byte ≠ 58 ∧ byte ≠ 0 := by decide +kernel
  exact each byte token

theorem visible_absent {text : Bytes} (visible : ∀ byte ∈ text, Access.isSpace byte = false) {space : UInt8}
    (isSpace : Access.isSpace space = true) : space ∉ text := by
  intro member
  rw [visible space member] at isSpace
  cases isSpace

section
variable {text : Bytes} (token : IsToken text)
include token

theorem token_low : ∀ byte ∈ text, byte < 0x80 := fun byte member => (token_byte (token.2 byte member)).1

theorem token_visible : ∀ byte ∈ text, Access.isSpace byte = false :=
  fun byte member => (token_byte (token.2 byte member)).2.1

theorem token_noColon : 58 ∉ text := fun member => (token_byte (token.2 58 member)).2.2.1 rfl

theorem toLower_token (table : CaseTable) : toLower table (trimSpace text) = text.map Access.toLower := by
  have lowered := toLower_low table (token_low token) []
  rw [List.append_nil] at lowered
  rw [trimSpace_token (token_low token) (token_visible token), lowered]
  exact List.append_nil _

end

/-! ### Lines -/

theorem crlf_space : ∀ byte ∈ ([13, 10] : Bytes), Access.isSpace byte = true := by
  simp [Access.isSpace]

theorem Header.line_plain {h : Header} (proper : h.Proper) : 13 ∉ h.line ∧ 10 ∉ h.line := by
  obtain ⟨token, noReturn, noFeed⟩ := proper
  have name {space : UInt8} (isSpace : Access.isSpace space = true) : space ∉ h.name :=
    visible_absent (token_visible token) isSpace
  unfold Header.line
  simp only [List.mem_append, List.mem_cons, not_or]
  exact ⟨⟨name (by decide), by decide, noReturn⟩, name (by decide), by decide, noFeed⟩

namespace RequestHead
variable (r : RequestHead)

theorem requestLine_plain : 13 ∉ r.requestLine ∧ 10 ∉ r.requestLine := by
  have absent {space : UInt8} (isSpace : Access.isSpace space = true) (other : space ≠ 32)
      (version : space ∉ ascii "HTTP/1.") : space ∉ r.requestLine := by
    have minor : space ≠ r.minor := by
      rintro rfl
      have each : ∀ byte : UInt8, Access.isDigit byte = true → Access.isSpace byte = false := by decide +kernel
      rw [each _ r.digit] at isSpace
      cases isSpace
    simp only [requestLine, RequestHead.version, List.mem_append, List.mem_cons, List.not_mem_nil, or_false, not_or]
    exact ⟨visible_absent (token_visible r.token) isSpace, other, visible_absent r.target.2 isSpace, other, version, minor⟩
  exact ⟨absent (by decide) (by decide) (by decide), absent (by decide) (by decide) (by decide)⟩

theorem headLines_plain : ∀ line ∈ r.headLines, 13 ∉ line ∧ 10 ∉ line := by
  intro line member
  obtain rfl | later := List.mem_cons.mp member
  · exact r.requestLine_plain
  · obtain ⟨h, inside, rfl⟩ := List.mem_map.mp later
    exact h.line_plain (r.proper h inside)

theorem encode_lines (body : Bytes) :
    r.encode body = r.headLines.flatMap (fun line => line ++ [13, 10]) ++ 13 :: 10 :: body := by
  simp [encode, headLines, List.flatMap_map]

/-- A reader that takes one line after the other off the text takes the head to pieces. -/
theorem read_encode (read : Bytes → List Bytes) (take : Bytes → Bytes)
    (crlf : ∀ line rest, 10 ∉ line → read (line ++ 13 :: 10 :: rest) = take line :: read rest) (body : Bytes) :
    read (r.encode body) = r.headLines.map take ++ take [] :: read body := by
  have plain := r.headLines_plain
  rw [r.encode_lines]
  generalize r.headLines = lines at plain
  induction lines with
  | nil => exact crlf [] body List.not_mem_nil
  | cons line lines ih =>
    have shape : (line :: lines).flatMap (fun line => line ++ [13, 10]) ++ 13 :: 10 :: body =
        line ++ 13 :: 10 :: (lines.flatMap (fun line => line ++ [13, 10]) ++ 13 :: 10 :: body) := by simp
    rw [shape, crlf line _ (plain line (by simp)).2, ih fun other member => plain other (by simp [member])]
    rfl

theorem lines_encode (body : Bytes) :
    lines (r.encode body) = r.headLines.map (· ++ [13, 10]) ++ [13, 10] :: lines body := by
  apply r.read_encode lines
  intro line rest absent
  have noFeed : 10 ∉ line ++ [13] := by simpa using absent
  simpa [lines] using readLines_append noFeed [] rest

end RequestHead

/-! ### The header loop -/

section
variable {σ : Type} (table : CaseTable) (onHeader : Bytes → Bytes → σ → σ)

/-- What the loop does with one header. -/
def onLine (s : σ) (h : Header) : σ := onHeader h.key (trimSpace h.value) s

theorem eachHeader_headers {headers : List Header} (proper : ∀ h ∈ headers, h.Proper) (rest : List Bytes) (s : σ) :
    eachHeader table onHeader ((headers.map Header.line).map (· ++ [13, 10]) ++ [13, 10] :: rest) s =
      headers.foldl (onLine onHeader) s := by
  induction headers generalizing s with
  | nil => exact if_pos (.inl rfl)
  | cons h headers ih =>
    obtain ⟨token, -, -⟩ := proper h (by simp)
    -- a name has a first byte, which is no line end
    have notBlank : ¬ (h.line ++ [13, 10] = [13, 10] ∨ h.line ++ [13, 10] = [10]) := by
      obtain ⟨some_, bytes⟩ := token
      unfold Header.line
      cases named : h.name with
      | nil => exact absurd named some_
      | cons first name =>
        have visible := (token_byte (bytes first (by simp [named]))).2.1
        simp only [List.cons_append, List.cons.injEq, not_or, not_and]
        constructor
        · rintro rfl
          cases visible
        · rintro rfl
          cases visible
    have colon : cutAt 58 (h.line ++ [13, 10]) = some (h.name, h.value ++ [13, 10]) := by
      unfold Header.line
      rw [List.append_assoc, List.cons_append]
      exact cutAt_append (token_noColon token) _
    have value : trimSpace (h.value ++ [13, 10]) = trimSpace h.value := trimSpace_append _ crlf_space
    rw [List.map_cons, List.map_cons, List.cons_append, eachHeader, if_neg notBlank, colon]
    dsimp only
    rw [toLower_token token, value, ih fun h' member => proper h' (by simp [member])]
    rfl

/-- A member that only the headers with one key set. -/
theorem foldl_member (get : σ → Bytes) (key : Bytes)
    (sets : ∀ s other val, get (onHeader other val s) = if other = key then val else get s)
    (headers : List Header) (s : σ) :
    get (headers.foldl (onLine onHeader) s) =
      (headers.filter (·.key = key)).foldl (fun _ h => trimSpace h.value) (get s) := by
  induction headers generalizing s with
  | nil => rfl
  | cons h headers ih =>
    rw [List.foldl_cons, ih, onLine, sets]
    by_cases same : h.key = key
    · rw [if_pos same, List.filter_cons_of_pos (by simpa using same), List.foldl_cons]
    · rw [if_neg same, List.filter_cons_of_neg (by simpa using same)]

/-- A member that no header sets. -/
theorem foldl_unset {α : Type} (get : σ → α) (keeps : ∀ s key val, get (onHeader key val s) = get s)
    (headers : List Header) (s : σ) : get (headers.foldl (onLine onHeader) s) = get s := by
  induction headers generalizing s with
  | nil => rfl
  | cons h headers ih => rw [List.foldl_cons, ih, onLine, keeps]

end

/-! ### The request line -/

namespace RequestHead
variable (r : RequestHead)

theorem host_value : r.valueOf (ascii "host") = trimSpace r.host.value := by
  unfold valueOf
  rw [r.oneHost]
  rfl

theorem splitN_requestLine (more : Bytes) :
    splitN 32 3 (r.requestLine ++ more) = [r.method, r.url, r.version ++ more] := by
  have method : 32 ∉ r.method := visible_absent (token_visible r.token) (by decide)
  have url : 32 ∉ r.url := visible_absent r.target.2 (by decide)
  have shape : r.requestLine ++ more = r.method ++ 32 :: (r.url ++ 32 :: (r.version ++ more)) := by
    simp [requestLine]
  rw [shape, splitN_append method 1, splitN_append url 0]
  rfl

theorem minor_digit : r.minor < 0x80 ∧ Access.isSpace r.minor = false ∧ toUpperAscii r.minor = r.minor := by
  have each : ∀ byte : UInt8, Access.isDigit byte = true →
      byte < 0x80 ∧ Access.isSpace byte = false ∧ toUpperAscii byte = byte := by decide +kernel
  exact each r.minor r.digit

theorem version_low : ∀ byte ∈ r.version ++ [13, 10], byte < 0x80 := by
  have fixed : (ascii "HTTP/1.").all (· < 0x80) = true := by decide
  intro byte member
  simp only [version, List.mem_append, List.mem_singleton] at member
  obtain (inside | rfl) | ending := member
  · exact of_decide_eq_true (List.all_eq_true.mp fixed byte inside)
  · exact r.minor_digit.1
  · simp only [List.mem_cons, List.not_mem_nil, or_false] at ending
    obtain rfl | rfl := ending <;> decide

theorem requestLine_shape : r.requestLine = (r.method ++ 32 :: (r.url ++ [32])) ++ r.version := by
  simp [requestLine]

theorem requestLine_long : 10 ≤ r.requestLine.length := by
  have fixed : (ascii "HTTP/1.").length = 7 := by decide
  simp only [requestLine, version, List.length_append, List.length_cons, List.length_nil, fixed]
  omega

theorem encode_long (body : Bytes) : 10 ≤ (r.encode body).length := by
  have long := r.requestLine_long
  simp only [encode, List.length_append]
  omega

/-- The request line names the protocol, also in capitals. -/
theorem requestLine_protocol (table : CaseTable) :
    contains (toUpper table (r.requestLine ++ [13, 10])) (ascii "HTTP/") = true := by
  have capitals : (r.version ++ [13, 10]).map toUpperAscii = ascii "HTTP/" ++ ascii "1." ++ [r.minor, 13, 10] := by
    have fixed : (ascii "HTTP/1.").map toUpperAscii = ascii "HTTP/" ++ ascii "1." := by decide
    rw [version, List.append_assoc, List.map_append, fixed]
    simp only [List.cons_append, List.nil_append, List.map_cons, List.map_nil, r.minor_digit.2.2]
    rfl
  unfold contains
  rw [r.requestLine_shape, List.append_assoc, toUpper_append_low table r.version_low, capitals]
  refine decide_eq_true ⟨toUpper table (r.method ++ 32 :: (r.url ++ [32])), ascii "1." ++ [r.minor, 13, 10], ?_⟩
  simp only [List.append_assoc]

theorem trimSpace_requestLine : trimSpace (r.requestLine ++ [13, 10]) = r.requestLine := by
  rw [trimSpace_append _ crlf_space]
  obtain ⟨some_, bytes⟩ := r.token
  cases named : r.method with
  | nil => exact absurd named some_
  | cons first method =>
    have token := token_byte (bytes first (by simp [named]))
    have shape : r.requestLine =
        first :: ((method ++ 32 :: (r.url ++ 32 :: ascii "HTTP/1.")) ++ [r.minor]) := by
      simp [requestLine, version, named]
    rw [shape]
    exact trimSpace_visible _ ⟨token.1, token.2.1⟩ ⟨r.minor_digit.1, r.minor_digit.2.1⟩

end RequestHead

/-! ### The two line readers -/

theorem parseHTTPRequest_onHeader (s : ParsedRequest) (key val : Bytes) :
    parseHTTPRequest.onHeader key val s =
      { s with host := if key = ascii "host" then val else s.host, ua := if key = ascii "user-agent" then val else s.ua } := by
  have distinct : ascii "host" ≠ ascii "user-agent" := by decide
  unfold parseHTTPRequest.onHeader
  split
  · rename_i host
    rw [if_neg (host ▸ distinct)]
  · split <;> rfl

theorem parseHTTPPayload_onHeader (table : CaseTable) (s : HTTPRecord) (key val : Bytes) :
    let after := parseHTTPPayload.onHeader table key val s
    (after.method = s.method ∧ after.url = s.url) ∧ after.host = (if key = ascii "host" then val else s.host) ∧
      after.userAgent = if key = ascii "user-agent" then val else s.userAgent := by
  have hostAgent : ascii "host" ≠ ascii "user-agent" := by decide
  have typeAgent : ascii "content-type" ≠ ascii "user-agent" := by decide
  dsimp only
  unfold parseHTTPPayload.onHeader
  split
  · rename_i host
    rw [if_neg (host ▸ hostAgent)]
    exact ⟨⟨rfl, rfl⟩, rfl, rfl⟩
  · split
    · rename_i contentType
      rw [if_neg (contentType ▸ typeAgent)]
      exact ⟨⟨rfl, rfl⟩, rfl, rfl⟩
    · split
      · exact ⟨⟨rfl, rfl⟩, rfl, rfl⟩
      · split
        · exact ⟨⟨rfl, rfl⟩, rfl, rfl⟩
        · split
          · exact ⟨⟨rfl, rfl⟩, rfl, rfl⟩
          · split <;> exact ⟨⟨rfl, rfl⟩, rfl, rfl⟩

namespace RequestHead
variable (r : RequestHead) (table : CaseTable) (body : Bytes)

theorem firstLine_long : 12 ≤ (r.requestLine ++ [13, 10]).length := by
  have long := r.requestLine_long
  simp only [List.length_append, List.length_cons, List.length_nil]
  omega

/-- For a request with any method. -/
theorem parseHTTPRequest_head :
    parseHTTPRequest table (r.encode body) =
      { method := r.method, url := r.url, host := trimSpace r.host.value, ua := r.valueOf (ascii "user-agent"),
        ok := true } := by
  have long : ¬ (r.requestLine ++ [13, 10]).length < 8 := by
    have := r.firstLine_long
    omega
  have split : splitN 32 3 r.requestLine = [r.method, r.url, r.version] := by
    simpa using r.splitN_requestLine []
  unfold parseHTTPRequest
  rw [r.lines_encode, headLines, List.map_cons, List.cons_append]
  dsimp only
  rw [if_neg long, if_neg (not_not_intro (r.requestLine_protocol table)), r.trimSpace_requestLine, split]
  dsimp only
  rw [eachHeader_headers table _ r.proper]
  have sets (s : ParsedRequest) (key val : Bytes) := parseHTTPRequest_onHeader s key val
  rw [← r.host_value]
  apply ParsedRequest.ext
  · exact foldl_unset _ ParsedRequest.method (fun s key val => by rw [sets]) ..
  · exact foldl_unset _ ParsedRequest.url (fun s key val => by rw [sets]) ..
  · exact foldl_member _ ParsedRequest.host _ (fun s key val => by rw [sets]) ..
  · exact foldl_member _ ParsedRequest.ua _ (fun s key val => by rw [sets]) ..
  · exact foldl_unset _ ParsedRequest.ok (fun s key val => by rw [sets]) ..

theorem startsRequest_line (known : r.method ∈ methods) (more : Bytes) : startsRequest (r.requestLine ++ more) = true := by
  refine List.any_eq_true.mpr ⟨r.method, known, List.isPrefixOf_iff_prefix.mpr ⟨r.url ++ 32 :: r.version ++ more, ?_⟩⟩
  simp [requestLine]

theorem parseHTTPPayload_head (known : r.method ∈ methods) {record : HTTPRecord} (fresh : record.userAgent = []) :
    ∃ after, parseHTTPPayload table (r.encode body) record = some after ∧ after.method = r.method ∧ after.url = r.url ∧
      after.host = trimSpace r.host.value ∧ after.userAgent = r.valueOf (ascii "user-agent") := by
  have long : ¬ (r.requestLine ++ [13, 10]).length < 8 := by
    have := r.firstLine_long
    omega
  have first : parseHTTPPayload.firstLine (r.requestLine ++ [13, 10]) record =
      some { record with method := r.method, url := r.url } := by
    unfold parseHTTPPayload.firstLine
    rw [if_pos (r.startsRequest_line known _), r.splitN_requestLine]
  have sets (s : HTTPRecord) (key val : Bytes) := parseHTTPPayload_onHeader table s key val
  unfold parseHTTPPayload
  rw [r.lines_encode, headLines, List.map_cons, List.cons_append]
  dsimp only
  rw [if_neg long, first, Option.bind_eq_bind, Option.bind_some, eachHeader_headers table _ r.proper]
  refine ⟨_, rfl, ?_, ?_, ?_, ?_⟩
  · exact foldl_unset _ HTTPRecord.method (fun s key val => (sets s key val).1.1) ..
  · exact foldl_unset _ HTTPRecord.url (fun s key val => (sets s key val).1.2) ..
  · refine (foldl_member _ HTTPRecord.host _ (fun s key val => (sets s key val).2.1) ..).trans ?_
    rw [r.oneHost]
    rfl
  · refine (foldl_member _ HTTPRecord.userAgent _ (fun s key val => (sets s key val).2.2) ..).trans ?_
    unfold valueOf
    rw [fresh]

theorem parseHTTP_head (known : r.method ∈ methods) (now : Int) (srcIP dstIP : Bytes) (srcPort dstPort : UInt16)
    (direction : UInt8) :
    ∃ record, parseHTTP table now (r.encode body) srcIP dstIP srcPort dstPort direction = some record ∧
      record.method = r.method ∧ record.url = r.url ∧ record.host = trimSpace r.host.value ∧
      record.userAgent = r.valueOf (ascii "user-agent") := by
  unfold parseHTTP
  rw [if_neg (Nat.not_lt.mpr (r.encode_long body))]
  split
  · exact r.parseHTTPPayload_head table body known rfl
  · exact r.parseHTTPPayload_head table body known rfl

end RequestHead

/-! ### The scanner of the collector -/

theorem lower_noColon {text : Bytes} (token : IsToken text) : 58 ∉ text.map Access.toLower := by
  have each : ∀ byte : UInt8, Access.toLower byte = 58 → byte = 58 := by decide +kernel
  intro member
  obtain ⟨byte, inside, lowered⟩ := List.mem_map.mp member
  exact token_noColon token (each byte lowered ▸ inside)

/-- A header line starts with `host:` when its name is that. -/
theorem hasHost_line (table : CaseTable) {h : Header} (proper : h.Proper) :
    ProtocolCollector.parseHTTP.hasHost table h.line = decide (h.key = ascii "host") := by
  have shape : toLower table h.line = h.key ++ 58 :: toLower table h.value :=
    toLower_upto table (token_low proper.1) (by decide) h.value
  have colon := cutAt_append (lower_noColon proper.1) (toLower table h.value)
  unfold ProtocolCollector.parseHTTP.hasHost hasPrefix
  rw [shape, Bool.eq_iff_iff, List.isPrefixOf_iff_prefix, decide_eq_true_iff]
  constructor
  · rintro ⟨more, same⟩
    -- both cuts at the first colon
    have host : cutAt 58 (ascii "host" ++ 58 :: more) = some (ascii "host", more) := cutAt_append (by decide) more
    rw [show ascii "host" ++ 58 :: more = ascii "host:" ++ more from rfl, same] at host
    exact (Prod.mk.inj (Option.some.inj (colon.symm.trans host))).1
  · intro named
    rw [named]
    exact ⟨toLower table h.value, rfl⟩

namespace RequestHead
variable (r : RequestHead) (table : CaseTable)

theorem hasHost_requestLine (known : r.method ∈ methods) :
    ProtocolCollector.parseHTTP.hasHost table r.requestLine = false := by
  have apart : methods.all (fun method => ¬ (ascii "host:" <+: method.map Access.toLower ++ [32]) ∧
      ¬ (method.map Access.toLower ++ [32] <+: ascii "host:")) = true := by decide
  have each := of_decide_eq_true (List.all_eq_true.mp apart _ known)
  have shape : toLower table r.requestLine =
      r.method.map Access.toLower ++ [32] ++ toLower table (r.url ++ 32 :: r.version) := by
    rw [List.append_assoc]
    exact toLower_upto table (token_low r.token) (by decide) _
  unfold ProtocolCollector.parseHTTP.hasHost hasPrefix
  rw [shape, Bool.eq_false_iff, ne_eq, List.isPrefixOf_iff_prefix]
  intro starts
  exact (List.prefix_or_prefix_of_prefix starts (List.prefix_append _ _)).elim each.1 each.2

theorem scanLines_encode {body : Bytes} (small : (r.encode body).length < 65536) :
    scanLines (r.encode body) = r.headLines ++ [] :: (feedPieces body []).map dropCR := by
  have crlf (line rest : Bytes) (absent : 10 ∉ line) :
      (feedPieces (line ++ 13 :: 10 :: rest) []).map dropCR = line :: (feedPieces rest []).map dropCR := by
    have noFeed : 10 ∉ line ++ [13] := by simpa using absent
    have split := feedPieces_append noFeed [] rest
    rw [List.append_assoc, List.singleton_append, List.nil_append] at split
    rw [split, List.map_cons, dropCR_concat]
  have read := r.read_encode (fun text => (feedPieces text []).map dropCR) id crlf body
  rwa [List.map_id, ← scanLines_small small] at read

theorem find_host : r.headers.find? (ProtocolCollector.parseHTTP.hasHost table ∘ Header.line) = some r.host := by
  have names : ∀ h ∈ r.headers, (ProtocolCollector.parseHTTP.hasHost table ∘ Header.line) h =
      decide (h.key = ascii "host") := fun h member => hasHost_line table (r.proper h member)
  rw [List.find?_congr names, ← List.head?_filter, r.oneHost]
  rfl

theorem host_mem : r.host ∈ r.headers ∧ r.host.key = ascii "host" := by
  have member : r.host ∈ r.headers.filter (·.key = ascii "host") := by simp [r.oneHost]
  simpa using member

theorem host_line : r.host.line.length = 5 + r.host.value.length ∧ r.host.line.drop 5 = r.host.value := by
  have name : r.host.name.length = 4 := by
    have key := congrArg List.length r.host_mem.2
    rwa [Header.key, List.length_map] at key
  unfold Header.line
  constructor
  · rw [List.length_append, List.length_cons, name]
    omega
  · rw [← List.singleton_append, ← List.append_assoc]
    exact List.drop_left' (by simp [name])

theorem collector_host (known : r.method ∈ methods) {body : Bytes} (small : (r.encode body).length < 65536) :
    ProtocolCollector.parseHTTP.host table (scanLines (r.encode body)) = .ok (trimSpace r.host.value) := by
  have found : (scanLines (r.encode body)).find? (ProtocolCollector.parseHTTP.hasHost table) = some r.host.line := by
    rw [r.scanLines_encode small, headLines, List.cons_append,
      List.find?_cons_of_neg (by simp [r.hasHost_requestLine table known]), List.find?_append, List.find?_map,
      r.find_host table]
    rfl
  obtain ⟨size, value⟩ := r.host_line
  rw [← List.append_nil r.host.value] at value
  unfold ProtocolCollector.parseHTTP.host
  rw [found]
  dsimp only
  rw [NetworkOrder.readRange_at value (by omega) (by omega)]
  rfl

theorem collector_head (known : r.method ∈ methods) {body : Bytes} (small : (r.encode body).length < 65536)
    (srcIP dstIP : Bytes) (srcPort dstPort : UInt16) :
    ∃ record, ProtocolCollector.parseHTTP table (r.encode body) srcIP dstIP srcPort dstPort = .ok (some record) ∧
      record.method = r.method ∧ record.url = r.url ∧ record.host = trimSpace r.host.value := by
  have long : ¬ (r.encode body).length < 8 := by
    have := r.encode_long body
    omega
  have starts : startsRequest (r.encode body) = true := r.startsRequest_line known _
  have split := r.splitN_requestLine (13 :: 10 :: (r.headers.flatMap (fun h => h.line ++ [13, 10]) ++ 13 :: 10 :: body))
  unfold ProtocolCollector.parseHTTP
  rw [if_neg long, if_pos starts, r.collector_host table known small]
  unfold encode
  rw [split]
  exact ⟨_, rfl, rfl, rfl, rfl⟩

end RequestHead

/-! ### Agreement -/

/-- A request of less than 64 KB with a method that the readers know. -/
structure Request extends RequestHead where
  known : method ∈ methods
  body : Bytes
  small : (toRequestHead.encode body).length < 65536

namespace Request
variable (r : Request)

def bytes : Bytes := r.encode r.body

def trimmedHost : Bytes := trimSpace r.host.value

def userAgent : Bytes := r.valueOf (ascii "user-agent")

end Request

theorem readers_return_request (r : Request) (table : CaseTable) (now : Int) (srcIP dstIP : Bytes)
    (srcPort dstPort : UInt16) (direction : UInt8) :
    parseHTTPRequest table r.bytes =
        { method := r.method, url := r.url, host := r.trimmedHost, ua := r.userAgent, ok := true } ∧
      (∃ record, parseHTTP table now r.bytes srcIP dstIP srcPort dstPort direction = some record ∧
        record.method = r.method ∧ record.url = r.url ∧ record.host = r.trimmedHost ∧ record.userAgent = r.userAgent) ∧
      ∃ record, ProtocolCollector.parseHTTP table r.bytes srcIP dstIP srcPort dstPort = .ok (some record) ∧
        record.method = r.method ∧ record.url = r.url ∧ record.host = r.trimmedHost := by
  refine ⟨?_, ?_, ?_⟩
  · exact r.parseHTTPRequest_head table r.body
  · exact r.parseHTTP_head table r.body r.known now srcIP dstIP srcPort dstPort direction
  · exact r.collector_head table r.known r.small srcIP dstIP srcPort dstPort

/-! A page request whose body has a line that looks like the header. -/

def sampleTarget : Bytes := ascii "/index"

def sampleHost : Header := ⟨ascii "HOST", ascii " example.com "⟩

def sampleHeaders : List Header := [⟨ascii "Accept", ascii "*/*"⟩, sampleHost, ⟨ascii "User-Agent", ascii " curl"⟩]

theorem sampleMethod_token : IsToken (ascii "GET") :=
  ⟨by decide, List.all_eq_true.mp (by decide : (ascii "GET").all isTokenByte = true)⟩

theorem sampleTarget_visible : sampleTarget ≠ [] ∧ ∀ byte ∈ sampleTarget, Access.isSpace byte = false := by
  have all : sampleTarget.all (! Access.isSpace ·) = true := by decide
  exact ⟨by decide, fun byte member => by simpa using List.all_eq_true.mp all byte member⟩

theorem sampleDigit : Access.isDigit 49 = true := by decide

/-- `Proper` for every header of a list, evaluated. -/
theorem proper_of_all {headers : List Header}
    (all : headers.all (fun h => h.name ≠ [] ∧ h.name.all isTokenByte ∧ ¬ h.value.contains 13 ∧ ¬ h.value.contains 10) = true) :
    ∀ h ∈ headers, h.Proper := by
  intro h member
  have each := List.all_eq_true.mp all h member
  simpa [Header.Proper, IsToken, and_assoc] using each

/-- `GET /index HTTP/1.1` with these headers. -/
def pageHead (headers : List Header) (proper : ∀ h ∈ headers, h.Proper) (host : Header)
    (oneHost : headers.filter (·.key = ascii "host") = [host]) : RequestHead where
  method := ascii "GET"
  token := sampleMethod_token
  url := sampleTarget
  target := sampleTarget_visible
  minor := 49
  digit := sampleDigit
  headers := headers
  proper := proper
  host := host
  oneHost := oneHost

theorem sampleHeaders_proper : ∀ h ∈ sampleHeaders, h.Proper := proper_of_all (by decide)

theorem sampleHeaders_host : sampleHeaders.filter (·.key = ascii "host") = [sampleHost] := by decide

def sampleHead : RequestHead := pageHead sampleHeaders sampleHeaders_proper sampleHost sampleHeaders_host

theorem sampleHead_known : sampleHead.method ∈ methods := List.mem_cons_self

theorem samplePage_small : (sampleHead.encode (ascii "host:elsewhere")).length < 65536 := by decide +kernel

def samplePage : Request := { sampleHead with known := sampleHead_known, body := ascii "host:elsewhere", small := samplePage_small }

theorem samplePage_is_read :
    (parseHTTPRequest ⟨id, id⟩ samplePage.bytes).host = ascii "example.com" ∧
      (∃ record, parseHTTP ⟨id, id⟩ 0 samplePage.bytes [] [] 40000 80 0 = some record ∧
        record.host = ascii "example.com" ∧ record.userAgent = ascii "curl") ∧
      ∃ record, ProtocolCollector.parseHTTP ⟨id, id⟩ samplePage.bytes [] [] 40000 80 = .ok (some record) ∧
        record.host = ascii "example.com" := by
  have host : samplePage.trimmedHost = ascii "example.com" := by decide +kernel
  have userAgent : samplePage.userAgent = ascii "curl" := by decide +kernel
  have read := readers_return_request samplePage ⟨id, id⟩ 0 [] [] 40000 80 0
  rw [host, userAgent] at read
  obtain ⟨first, ⟨record, second, -, -, hosts, agents⟩, collected, third, -, -, named⟩ := read
  rw [first]
  exact ⟨rfl, ⟨record, second, hosts, agents⟩, collected, third, named⟩

end StbEbpf.Protocol
