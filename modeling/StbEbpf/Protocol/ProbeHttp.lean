import StbEbpf.Lib.CStrings
import StbEbpf.Probe.PacketLoop
import StbEbpf.Protocol.HttpRequests

/-!
The requests that `parse_http_payload` of the C probe takes apart, compared with what the Go reader returns of the same
bytes. The C parser looks for `host:` in the whole buffer, so that the request line and every header before the Host
header can answer in its place.
-/

namespace StbEbpf.Protocol
open CText Access Probe

/-! ### The three arrays -/

/-- The texts that the parser prints from. -/
structure Extracted where
  method : Bytes
  path : Bytes
  host : Bytes
  deriving DecidableEq, Repr

def extractLine (buf : Bytes) : Checked (Bytes × Bytes) := do
  let line ← Probe.requestLine buf
  return (cut line.method, cut line.path)

def extractHost (buf : Bytes) : Checked Bytes := do
  let hostHeader ← findHeader (ascii "Host:") (ascii "host:") buf
  return cut (← headerValue 255 5 buf hostHeader)

/-- The request branch of `parse_http_payload` up to the printing. -/
def extractRequest (buf : Bytes) : Checked Extracted := do
  let (method, path) ← extractLine buf
  return { method, path, host := ← extractHost buf }

def orText (text replacement : Bytes) : Bytes := if text = [] then replacement else text

def Extracted.print (e : Extracted) (flow : FlowEvent) : FlowEvent :=
  { flow with
    details := .snprintf (ascii "http_req:method=" ++ orText e.method (ascii "UNKNOWN") ++ ascii ",path=" ++
      orText e.path (ascii "/") ++ ascii ",host=" ++ orText e.host (ascii "unknown"))
    service := .strncpy (ascii "HTTP") }

theorem orElseText_cut {out : Bytes} (some_ : 0 < out.length) (replacement : Bytes) :
    orElseText out replacement = .ok (orText (cut out) replacement) := by
  cases out with
  | nil => cases some_
  | cons byte out =>
    show Except.ok (if byte ≠ 0 then cut (byte :: out) else replacement) = _
    unfold orText cut
    by_cases zero : byte = 0
    · subst zero
      rfl
    · rw [if_pos zero, List.takeWhile_cons_of_pos (by simpa using zero), if_neg (List.cons_ne_nil _ _)]

theorem parseHttpRequest_prints {buf : Bytes} (terminated : Terminated buf) (flow : FlowEvent) :
    ∃ e, extractRequest buf = .ok e ∧ parseHttpRequest buf flow = .ok (e.print flow) := by
  obtain ⟨line, read, methodSize, pathSize⟩ := requestLine_safe terminated
  obtain ⟨hostHeader, searched, found⟩ :=
    findHeader_safe 5 (by decide) (by decide) (by decide : (ascii "Host:" ++ ascii "host:").all _ = true) terminated
  obtain ⟨host, copied, hostSize⟩ : Safe (headerValue 255 5 buf hostHeader) _ := headerValue_safe found
  refine ⟨⟨cut line.method, cut line.path, cut host⟩, ?_, ?_⟩
  · have lineTexts : extractLine buf = .ok (cut line.method, cut line.path) := by
      unfold extractLine
      rw [read]
      rfl
    have hostText : extractHost buf = .ok (cut host) := by
      unfold extractHost
      rw [searched, ok_bind, copied]
      rfl
    unfold extractRequest
    rw [lineTexts, ok_bind]
    dsimp only
    rw [hostText]
    rfl
  · unfold parseHttpRequest
    rw [read, ok_bind, searched, ok_bind, copied, ok_bind, orElseText_cut methodSize, ok_bind, orElseText_cut pathSize,
      ok_bind, orElseText_cut hostSize]
    rfl

/-- `buf` once the payload and its NUL are copied. -/
def buffer (initial : HttpBuf) (payload : Bytes) : Bytes := payload ++ 0 :: initial.bytes.drop (payload.length + 1)

theorem parseHttpPayload_buffer (initial : HttpBuf) {payload : Bytes} (long : 10 ≤ payload.length)
    (fits : payload.length ≤ 2047) (flow : FlowEvent) :
    parseHttpPayload initial payload flow false = parseHttpRequest (buffer initial payload) flow := by
  have room := initial.size
  have copyLen : (if payload.length < 2048 - 1 then payload.length else 2048 - 1) = payload.length := by
    split <;> omega
  have copied : writeStart initial.bytes payload = .ok (payload ++ initial.bytes.drop payload.length) :=
    if_pos (by omega)
  have ended : writeAt (payload ++ initial.bytes.drop payload.length) payload.length 0 = .ok (buffer initial payload) := by
    have inside : payload.length < initial.bytes.length := by omega
    unfold writeAt buffer
    rw [if_pos (by rw [List.length_append, List.length_drop]; omega), List.set_append_right _ _ (Nat.le_refl _),
      Nat.sub_self, List.drop_eq_getElem_cons inside, List.set_cons_zero]
    rfl
  unfold parseHttpPayload
  rw [if_neg (by omega)]
  dsimp only
  rw [copyLen, NetworkOrder.readRange_inside (by omega), ok_bind, List.drop_zero, List.take_length, copied, ok_bind, ended,
    ok_bind]
  rfl

/-! ### Copying -/

theorem copyPiece_filled {buf piece rest : Bytes} {start : Nat} (here : buf.drop start = piece ++ rest)
    (inside : start ≤ buf.length) (limit : Nat) :
    copyPiece limit buf start piece.length = .ok (filled (limit + 1) (piece.take limit)) := by
  have length : (if piece.length > limit then limit else piece.length) = (piece.take limit).length := by
    rw [List.length_take]
    split <;> omega
  have short : (piece.take limit).length ≤ limit := List.length_take_le _ _
  rw [← List.take_append_drop limit piece, List.append_assoc] at here
  unfold copyPiece
  dsimp only
  rw [length, NetworkOrder.readRange_at here rfl inside, ok_bind, writeStart_filled (by omega), ok_bind,
    writeAt_end (by omega)]

theorem requestLine_filled {method url : Bytes} (methodSpace : 32 ∉ method) (urlSpace : 32 ∉ url) (methodNul : 0 ∉ method)
    (urlNul : 0 ∉ url) (more : Bytes) :
    Probe.requestLine (method ++ 32 :: (url ++ 32 :: more)) =
      .ok { method := filled 16 (method.take 15), path := filled 256 (url.take 255) } := by
  have later : (method ++ 32 :: (url ++ 32 :: more)).drop (method.length + 1) = url ++ 32 :: more := by
    rw [← List.drop_drop, List.drop_left]
    rfl
  have first := copyPiece_filled (List.drop_zero (l := method ++ 32 :: (url ++ 32 :: more))) (Nat.zero_le _) 15
  have second := copyPiece_filled later (by simp) 255
  unfold Probe.requestLine
  rw [strchr_first _ methodSpace methodNul, ok_bind]
  dsimp only
  rw [first, ok_bind, later, strchr_first _ urlSpace urlNul, ok_bind]
  dsimp only
  rw [second]
  rfl

theorem copyValue_filled {limit : Nat} {value : Bytes} (plain : 0 ∉ value ∧ 13 ∉ value ∧ 10 ∉ value) (rest : Bytes)
    (text : Bytes) (room : text.length ≤ limit) :
    copyValue limit (value ++ 13 :: rest) text.length (filled (limit + 1) text) =
      .ok (filled (limit + 1) (text ++ value.take (limit - text.length)),
        (text ++ value.take (limit - text.length)).length) := by
  induction value generalizing text with
  | nil =>
    rw [List.take_nil, List.append_nil]
    exact if_neg (by simp)
  | cons byte value ih =>
    simp only [List.mem_cons, not_or] at plain
    obtain ⟨⟨notNul, noNul⟩, ⟨notCR, noCR⟩, notLF, noLF⟩ := plain
    rw [List.cons_append, copyValue]
    -- the loop also stops when the array is full, with bytes of the value left
    by_cases more : text.length < limit
    · have longer : (text ++ [byte]).length = text.length + 1 := by simp
      have copied := ih ⟨noNul, noCR, noLF⟩ (text ++ [byte]) (by omega)
      have taken : text ++ [byte] ++ value.take (limit - (text.length + 1)) =
          text ++ (byte :: value).take (limit - text.length) := by
        rw [show limit - text.length = limit - (text.length + 1) + 1 by omega, List.take_succ_cons, List.append_assoc,
          List.singleton_append]
      rw [longer, taken] at copied
      rw [if_pos ⟨Ne.symm notNul, Ne.symm notCR, Ne.symm notLF, more⟩, writeAt_filled (by omega), ok_bind, copied]
    · have full : limit - text.length = 0 := by omega
      rw [if_neg (fun all => more all.2.2.2), full, List.take_zero, List.append_nil]
      rfl

theorem headerValue_filled {buf value rest : Bytes} {k nameLen : Nat} (limit : Nat)
    (here : buf.drop (k + nameLen) = value ++ 13 :: rest) (plain : 0 ∉ value ∧ 13 ∉ value ∧ 10 ∉ value) :
    headerValue limit nameLen buf (some k) = .ok (filled (limit + 1) ((value.dropWhile (· == 32)).take limit)) := by
  have part {byte : UInt8} (absent : byte ∉ value) : byte ∉ value.dropWhile (· == 32) :=
    fun member => absent ((List.dropWhile_suffix _).mem member)
  have copied := copyValue_filled ⟨part plain.1, part plain.2.1, part plain.2.2⟩ rest [] (Nat.zero_le limit)
  have short := List.length_take_le limit (value.dropWhile (· == 32))
  unfold headerValue
  dsimp only
  rw [here, skipWhile_stop rest (by decide), ok_bind]
  have zeros : List.replicate (limit + 1) (0 : UInt8) = filled (limit + 1) [] := rfl
  rw [zeros]
  rw [List.length_nil, List.nil_append, Nat.sub_zero] at copied
  rw [copied, ok_bind]
  exact writeAt_end (by omega)

theorem findHeader_first {first text behind : Bytes} (second : Bytes) (some_ : first ≠ []) (visible : 0 ∉ first.map toLower)
    (noNul : 0 ∉ text) (found : afterMatch first text = some behind) (rest : Bytes) :
    ∃ k, findHeader first second (text ++ 0 :: rest) = .ok (some k) ∧
      (text ++ 0 :: rest).drop (k + first.length) = behind ++ 0 :: rest := by
  obtain ⟨position, searched, same⟩ := strcasestr_text some_ visible noNul rest
  rw [found, Option.map_some, Option.map_eq_some_iff] at same
  obtain ⟨k, rfl, here⟩ := same
  refine ⟨k, ?_, here⟩
  unfold findHeader
  rw [searched]
  rfl

/-! ### The first mention of the header -/

/-- What stands behind `host:` in the first line that has it, in any case and in any place. -/
def RequestHead.mention (r : RequestHead) : Option Bytes := r.headLines.findSome? (afterMatch (ascii "Host:"))

theorem afterMatch_lines {pattern : Bytes} (some_ : pattern ≠ []) (noCR : toLower 13 ∉ pattern.map toLower)
    (noLF : toLower 10 ∉ pattern.map toLower) {lines : List Bytes} {behind : Bytes}
    (found : lines.findSome? (afterMatch pattern) = some behind) (last : Bytes) :
    ∃ more, afterMatch pattern (lines.flatMap (fun line => line ++ [13, 10]) ++ last) = some (behind ++ 13 :: more) := by
  induction lines with
  | nil => cases found
  | cons line lines ih =>
    have shape : (line :: lines).flatMap (fun line => line ++ [13, 10]) ++ last =
        line ++ 13 :: (10 :: (lines.flatMap (fun line => line ++ [13, 10]) ++ last)) := by simp
    rw [shape, afterMatch_upto noCR some_]
    rw [List.findSome?_cons] at found
    cases here : afterMatch pattern line with
    | some rest =>
      rw [here] at found
      cases found
      exact ⟨_, rfl⟩
    | none =>
      -- neither byte of a line end is in the pattern, so that the search starts anew behind them
      rw [here] at found
      have next := afterMatch_upto noLF some_ [] (lines.flatMap (fun line => line ++ [13, 10]) ++ last)
      obtain ⟨more, later⟩ := ih found
      exact ⟨more, next.trans later⟩

namespace RequestHead
variable (r : RequestHead)

theorem headLines_noNul {body : Bytes} (noNul : 0 ∉ r.encode body) : ∀ line ∈ r.headLines, 0 ∉ line := by
  intro line member zero
  apply noNul
  rw [r.encode_lines]
  exact List.mem_append_left _ (List.mem_flatMap.mpr ⟨line, member, List.mem_append_left _ zero⟩)

theorem afterMatch_host : afterMatch (ascii "Host:") r.host.line = some r.host.value := by
  obtain ⟨size, value⟩ := r.host_line
  have starts : ((ascii "Host:").map toLower).isPrefixOf (r.host.line.map toLower) = true := by
    have key := r.host_mem.2
    unfold Header.key at key
    rw [Header.line, List.map_append, key]
    rfl
  cases shape : r.host.line with
  | nil =>
    rw [shape] at size
    simp at size
    omega
  | cons byte line =>
    rw [shape] at starts value
    rw [afterMatch, if_pos starts]
    exact congrArg some value

theorem mention_some : ∃ behind, r.mention = some behind := by
  apply Option.isSome_iff_exists.mp
  apply List.findSome?_isSome_iff.mpr
  refine ⟨r.host.line, ?_, ?_⟩
  · exact List.mem_cons_of_mem _ (List.mem_map_of_mem r.host_mem.1)
  · rw [r.afterMatch_host]
    rfl

theorem mention_plain {body behind : Bytes} (noNul : 0 ∉ r.encode body) (found : r.mention = some behind) :
    0 ∉ behind ∧ 13 ∉ behind ∧ 10 ∉ behind := by
  obtain ⟨line, member, here⟩ := List.exists_of_findSome?_eq_some found
  have part := afterMatch_suffix here
  obtain ⟨noReturn, noFeed⟩ := r.headLines_plain line member
  exact ⟨fun zero => r.headLines_noNul noNul line member (part.mem zero), fun cr => noReturn (part.mem cr),
    fun lf => noFeed (part.mem lf)⟩

/-! ### What the parser extracts -/

theorem requestLine_head {body : Bytes} (noNul : 0 ∉ r.encode body) (rest : Bytes) :
    extractLine (r.encode body ++ 0 :: rest) = .ok (r.method.take 15, r.url.take 255) := by
  have lineNul := r.headLines_noNul noNul r.requestLine List.mem_cons_self
  have methodNul : 0 ∉ r.method := fun zero => lineNul (by simp [requestLine, zero])
  have urlNul : 0 ∉ r.url := fun zero => lineNul (by simp [requestLine, zero])
  have shape : r.encode body ++ 0 :: rest = r.method ++ 32 :: (r.url ++ 32 :: (r.version ++ 13 :: 10 ::
      (r.headers.flatMap (fun h => h.line ++ [13, 10]) ++ 13 :: 10 :: (body ++ 0 :: rest)))) := by
    simp [encode, requestLine]
  have methodSpace : 32 ∉ r.method := visible_absent (token_visible r.token) (by decide)
  have urlSpace : 32 ∉ r.url := visible_absent r.target.2 (by decide)
  unfold extractLine
  rw [shape, requestLine_filled methodSpace urlSpace methodNul urlNul, ok_bind]
  dsimp only
  rw [cut_filled fun zero => methodNul (List.mem_of_mem_take zero), cut_filled fun zero => urlNul (List.mem_of_mem_take zero)]
  rfl

theorem hostValue_head {body : Bytes} (noNul : 0 ∉ r.encode body) {behind : Bytes} (found : r.mention = some behind)
    (rest : Bytes) :
    extractHost (r.encode body ++ 0 :: rest) = .ok ((behind.dropWhile (· == 32)).take 255) := by
  have plain := r.mention_plain noNul found
  have behindNul : 0 ∉ behind.dropWhile (· == 32) := fun zero => plain.1 ((List.dropWhile_suffix _).mem zero)
  obtain ⟨more, later⟩ := afterMatch_lines (by decide) (by decide) (by decide) found (13 :: 10 :: body)
  rw [← r.encode_lines] at later
  obtain ⟨k, searched, here⟩ := findHeader_first (ascii "host:") (by decide) (by decide) noNul later rest
  have ahead : (r.encode body ++ 0 :: rest).drop (k + 5) = behind ++ 13 :: (more ++ 0 :: rest) := by
    rw [← List.cons_append, ← List.append_assoc]
    exact here
  unfold extractHost
  rw [searched, ok_bind, headerValue_filled 255 ahead plain, ok_bind,
    cut_filled fun zero => behindNul (List.mem_of_mem_take zero)]
  rfl

/-- The method and the path come from the request line, the host from the first mention. -/
theorem extractRequest_head {body : Bytes} (noNul : 0 ∉ r.encode body) {behind : Bytes} (found : r.mention = some behind)
    (rest : Bytes) :
    extractRequest (r.encode body ++ 0 :: rest) =
      .ok { method := r.method.take 15, path := r.url.take 255, host := (behind.dropWhile (· == 32)).take 255 } := by
  unfold extractRequest
  rw [r.requestLine_head noNul, ok_bind]
  dsimp only
  rw [r.hostValue_head noNul found]
  rfl

end RequestHead

/-! ### The comparison -/

/-- The arrays hold what the Go reader returns, each as far as it fits. -/
def Extracted.Agrees (e : Extracted) (parsed : ParsedRequest) : Prop :=
  e.method = parsed.method.take 15 ∧ e.path = parsed.url.take 255 ∧ e.host = parsed.host.take 255

theorem probe_request_agrees_iff (r : RequestHead) (noNul : 0 ∉ r.encode []) (small : (r.encode []).length ≤ 2047)
    (initial : HttpBuf) (flow : FlowEvent) (table : GoStrings.CaseTable) :
    ∃ e, extractRequest (buffer initial (r.encode [])) = .ok e ∧
      parseHttpPayload initial (r.encode []) flow false = .ok (e.print flow) ∧
      (e.Agrees (parseHTTPRequest table (r.encode [])) ↔
        ∃ behind, r.mention = some behind ∧
          (behind.dropWhile (· == 32)).take 255 = (GoStrings.trimSpace r.host.value).take 255) := by
  obtain ⟨behind, found⟩ := r.mention_some
  have terminated : Terminated (buffer initial (r.encode [])) := List.mem_append_right _ List.mem_cons_self
  obtain ⟨e, extracted, printed⟩ := parseHttpRequest_prints terminated flow
  refine ⟨e, extracted, ?_, ?_⟩
  · rw [parseHttpPayload_buffer initial (r.encode_long []) small, printed]
  · have known := r.extractRequest_head noNul found (initial.bytes.drop ((r.encode []).length + 1))
    obtain rfl := Except.ok.inj (extracted.symm.trans known)
    rw [r.parseHTTPRequest_head table []]
    unfold Extracted.Agrees
    constructor
    · rintro ⟨-, -, host⟩
      exact ⟨behind, found, host⟩
    · rintro ⟨behind', again, host⟩
      obtain rfl := Option.some.inj (found.symm.trans again)
      exact ⟨rfl, rfl, host⟩

/-! A request whose Host header comes first, and one that went through a proxy. -/

def plainHost : Header := ⟨ascii "Host", ascii " example.com"⟩

def plainHeaders : List Header := [plainHost, ⟨ascii "Accept", ascii " */*"⟩]

theorem plainHeaders_proper : ∀ h ∈ plainHeaders, h.Proper := proper_of_all (by decide)

theorem plainHeaders_host : plainHeaders.filter (·.key = ascii "host") = [plainHost] := by decide

def plainHead : RequestHead := pageHead plainHeaders plainHeaders_proper plainHost plainHeaders_host

def proxyHeaders : List Header := [⟨ascii "X-Forwarded-Host", ascii " proxy"⟩, plainHost]

theorem proxyHeaders_proper : ∀ h ∈ proxyHeaders, h.Proper := proper_of_all (by decide)

theorem proxyHeaders_host : proxyHeaders.filter (·.key = ascii "host") = [plainHost] := by decide

def proxyHead : RequestHead := pageHead proxyHeaders proxyHeaders_proper plainHost proxyHeaders_host

theorem plain_request_agrees :
    ∃ e, extractRequest (buffer emptyBuf (plainHead.encode [])) = .ok e ∧
      parseHttpPayload emptyBuf (plainHead.encode []) {} false = .ok (e.print {}) ∧
      e.Agrees (parseHTTPRequest ⟨id, id⟩ (plainHead.encode [])) := by
  have noNul : 0 ∉ plainHead.encode [] := by decide +kernel
  have small : (plainHead.encode []).length ≤ 2047 := by decide +kernel
  have mention : plainHead.mention = some (ascii " example.com") := by decide +kernel
  have host : (((ascii " example.com").dropWhile (· == 32)).take 255) =
      (GoStrings.trimSpace plainHead.host.value).take 255 := by decide +kernel
  obtain ⟨e, extracted, printed, agrees⟩ := probe_request_agrees_iff plainHead noNul small emptyBuf {} ⟨id, id⟩
  exact ⟨e, extracted, printed, agrees.mpr ⟨_, mention, host⟩⟩

theorem proxy_request_disagrees :
    (0 ∉ proxyHead.encode [] ∧ (proxyHead.encode []).length ≤ 2047) ∧
      ∃ e, extractRequest (buffer emptyBuf (proxyHead.encode [])) = .ok e ∧ e.host = ascii "proxy" ∧
        (parseHTTPRequest ⟨id, id⟩ (proxyHead.encode [])).host = ascii "example.com" ∧
        ¬ e.Agrees (parseHTTPRequest ⟨id, id⟩ (proxyHead.encode [])) := by
  have noNul : 0 ∉ proxyHead.encode [] := by decide +kernel
  have mention : proxyHead.mention = some (ascii " proxy") := by decide +kernel
  have host : GoStrings.trimSpace proxyHead.host.value = ascii "example.com" := by decide +kernel
  have parsed := proxyHead.parseHTTPRequest_head ⟨id, id⟩ []
  rw [host] at parsed
  refine ⟨⟨noNul, by decide +kernel⟩, _, proxyHead.extractRequest_head noNul mention _, by decide, ?_, ?_⟩
  · rw [parsed]
  · rw [parsed]
    rintro ⟨-, -, same⟩
    exact absurd same (by decide)

end StbEbpf.Protocol
