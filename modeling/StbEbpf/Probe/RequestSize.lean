import StbEbpf.Probe.SerializerText
import StbEbpf.Probe.TcpClient

/-!
The two buffers that a batch goes through. `main` lets `serialize_batch` fill an array of 131072 bytes, and
`tcp_client_send` formats the request around it into one of 65536.
-/

namespace StbEbpf.Probe
open CText Memory

/-! ### A batch that is cut off -/

theorem holds_take_of {cells : Cells} {bytes : Bytes} (holds : cells.Holds bytes) (count : Nat) :
    cells.Holds (bytes.take count) :=
  holds_take (by rwa [List.take_append_drop])

namespace BatchOut
variable {o : BatchOut} {text : Bytes}

theorem Wrote.print_cut (wrote : o.Wrote text) (size : Nat) (inside : text.length < size) (more : Bytes) :
    (o.print size more).2.output.Holds ((text ++ more).take (size - 1)) := by
  have kept : stored (size - o.written) more = more.take (size - 1 - text.length) ++ [0] := by
    unfold stored
    rw [wrote.length, if_neg (by omega), show size - text.length - 1 = size - 1 - text.length by omega]
  rw [List.take_append, List.take_of_length_le (show text.length ≤ size - 1 by omega)]
  unfold BatchOut.print
  rw [kept, wrote.length]
  have stored := holds_storeBytes wrote.holds (more.take (size - 1 - text.length) ++ [0])
  rw [← List.append_assoc] at stored
  exact holds_take stored

end BatchOut

/-- However the loop ends, the array holds the start of the text, as far as was counted. -/
theorem serializeEvents_starts (size : Nat) (probeId : CStr) (events : List FlowEvent) {o : BatchOut} {text : Bytes}
    (wrote : o.Wrote text) :
    ∃ out, out <+: text ++ joinTexts o.first (eventTexts events probeId) ∧
      (serializeEvents size probeId events o).Wrote out := by
  induction events generalizing o text with
  | nil => exact ⟨text, List.prefix_append _ _, wrote⟩
  | cons event rest ih =>
    by_cases room : o.written < size - 2
    · have before := wrote.comma
      have whole : text ++ joinTexts o.first (eventTexts (event :: rest) probeId) =
          (text ++ if o.first then [] else [44]) ++ flowEventText event probeId ++
            joinTexts false (eventTexts rest probeId) := by
        simp [eventTexts, joinTexts]
      have inside : o.comma.written < size := by
        rw [BatchOut.comma_written]
        split <;> omega
      rw [whole]
      generalize (text ++ if o.first then [] else [44]) = opened at before
      have length := before.length
      by_cases short : o.comma.written + (flowEventText event probeId).length < size
      · rw [serializeEvents_fits room short]
        have next : BatchOut.Wrote
            ⟨(o.comma.print size (flowEventText event probeId)).2.output,
              o.comma.written + (flowEventText event probeId).length, false⟩
            (opened ++ flowEventText event probeId) :=
          ⟨before.print size (flowEventText event probeId) (by omega), by rw [List.length_append, length]⟩
        exact ih next
      · rw [serializeEvents_truncated room (by omega)]
        -- The bracket will go where the last byte but one of the cut text is.
        have printed := holds_take_of (before.print_cut size (by omega) (flowEventText event probeId)) (size - 2)
        rw [List.take_take, Nat.min_eq_left (by omega)] at printed
        refine ⟨_, (List.take_prefix _ _).trans (List.prefix_append _ _), printed, ?_⟩
        show size - 2 = _
        rw [List.length_take, List.length_append]
        omega
    · rw [serializeEvents_stop room]
      exact ⟨text, List.prefix_append _ _, wrote⟩

theorem serializeLoop_starts (size : Nat) (probeId : CStr) (events : List FlowEvent) :
    ∃ out, out <+: batchHead (eventTexts events probeId) ∧
      (serializeEvents size probeId events (BatchOut.put ⟨.empty, 0, true⟩ 91)).Wrote out := by
  have nothing : BatchOut.Wrote ⟨.empty, 0, true⟩ [] := ⟨holds_nil _, rfl⟩
  exact serializeEvents_starts size probeId events (nothing.put 91)

section
variable {events : List FlowEvent} {metric : Option HostMetric} {probeId : CStr} {size : Nat}

/-- A batch that does not fit and stays in bounds all the same fills the array with bytes that are not NUL. -/
theorem serializeBatch_cut (three : 3 ≤ size)
    (inside : (serializeBatch events metric probeId size).output.Within size ∧
      (serializeBatch events metric probeId size).written < size)
    (long : size ≤ (batchText events metric probeId).length) :
    let r := serializeBatch events metric probeId size
    0 ∉ r.output.read r.written ∧ size - 1 ≤ (r.output.read r.written).length := by
  intro r
  obtain ⟨-, metricFits⟩ := (serializeBatch_in_bounds_iff events metric probeId size three).mp inside
  -- A metric is only tried, and then fits, if the events leave room.
  have full : size - 2 ≤ offsetAfter 1 true (eventTexts events probeId) := by
    rw [← headLength_eq]
    by_contra room
    have whole : (batchText events metric probeId).length = headLength (batchTexts events metric probeId) + 1 := by
      simp [batchText, headLength]
    cases metric with
    | none =>
      simp only [batchTexts, Option.map_none, Option.toList_none, List.append_nil] at whole
      omega
    | some metric =>
      have fits := metricFits metric rfl (by omega)
      simp only [batchTexts, Option.map_some, Option.toList_some] at whole
      omega
  have opened : (BatchOut.put ⟨.empty, 0, true⟩ 91).output.Within size :=
    BatchOut.put_within (within_empty size) 91 (by show 0 < size; omega)
  have loop : LoopResult size (eventTexts events probeId) 1 true _ :=
    serializeEvents_result events probeId opened (by show 1 < size; omega)
  have stopped := loop.full full
  obtain ⟨out, start, wrote⟩ := serializeLoop_starts size probeId events
  have noNul : 0 ∉ out := by
    intro member
    apply batchText_noNul events none probeId
    apply List.mem_append_left
    simpa [batchTexts] using start.subset member
  have head : (serializeHead events metric probeId size).Wrote out := by
    unfold serializeHead
    rw [serializeMetric_full (by omega)]
    exact wrote
  rw [(serializeBatch_closed head).2]
  refine ⟨noNul_append noNul (by decide), ?_⟩
  have length := wrote.length
  rw [List.length_append, List.length_singleton]
  omega

theorem batchHead_starts (texts more : List Bytes) : batchHead texts <+: batchHead (texts ++ more) := by
  unfold batchHead
  rw [joinTexts_append, ← List.cons_append]
  exact List.prefix_append _ _

theorem headLength_le_append (texts more : List Bytes) : headLength texts ≤ headLength (texts ++ more) :=
  (batchHead_starts texts more).length_le

theorem serializeBatch_inside_of_fits (three : 3 ≤ size) (fits : (batchText events metric probeId).length < size) :
    (serializeBatch events metric probeId size).output.Within size ∧
      (serializeBatch events metric probeId size).written < size := by
  have whole : (batchText events metric probeId).length = headLength (batchTexts events metric probeId) + 1 := by
    simp [batchText, headLength]
  have all := headLength_le_append (eventTexts events probeId) (metric.map (hostMetricText · probeId)).toList
  refine (serializeBatch_in_bounds_iff events metric probeId size three).mpr ⟨?_, ?_⟩
  · intro k
    have some_ := headLength_le_append ((eventTexts events probeId).take k) ((eventTexts events probeId).drop k)
    rw [List.take_append_drop] at some_
    unfold batchTexts at whole
    omega
  · intro tried same _
    obtain rfl : metric = some tried := same
    simp only [batchTexts, Option.map_some, Option.toList_some] at whole
    omega

end

/-! ### The request around it -/

theorem httpRequest_length (serverIp : CharBuf 16) (data : Bytes) :
    (httpRequest serverIp data).length =
      114 + serverIp.bytes.length + (decimal data.length).length + (cut data).length := by
  have parts : (ascii "POST /api/v1/ingest HTTP/1.1\r\nHost: ").length = 36 ∧
      (ascii "\r\nContent-Type: application/json\r\nContent-Length: ").length = 50 ∧
      (ascii "\r\nConnection: keep-alive\r\n\r\n").length = 28 := by decide +kernel
  obtain ⟨start, middle, last⟩ := parts
  simp only [httpRequest, List.length_append, start, middle, last]
  omega

/-- A batch that `main` can build is sent only if its text and the lines before it stay below half of the array it was
built in. -/
theorem batch_request_fits_iff (events : List FlowEvent) (metric : Option HostMetric) (probeId : CStr)
    (serverIp : CharBuf 16)
    (inside : (serializeBatch events metric probeId (MAX_JSON_LEN * 16)).output.Within (MAX_JSON_LEN * 16) ∧
      (serializeBatch events metric probeId (MAX_JSON_LEN * 16)).written < MAX_JSON_LEN * 16) :
    let r := serializeBatch events metric probeId (MAX_JSON_LEN * 16)
    let length := (batchText events metric probeId).length
    (httpRequest serverIp (r.output.read r.written)).length < HTTP_BUF_SIZE ↔
      114 + serverIp.bytes.length + (decimal length).length + length < 65536 := by
  intro r length
  rcases Nat.lt_or_ge length (MAX_JSON_LEN * 16) with short | long
  · rw [(serializeBatch_text events metric probeId short).2, httpRequest_length,
      cut_eq_self (batchText_noNul events metric probeId)]
    rfl
  · obtain ⟨noNul, filled⟩ := serializeBatch_cut (by decide) inside long
    rw [httpRequest_length, cut_eq_self noNul]
    simp only [MAX_JSON_LEN, HTTP_BUF_SIZE] at *
    omega

theorem joinTexts_replicate (count : Nat) (text : Bytes) :
    (joinTexts false (List.replicate count text)).length = count * (text.length + 1) := by
  induction count with
  | zero => simp [joinTexts]
  | succ count ih =>
    rw [List.replicate_succ, joinTexts, List.length_append, List.length_append, ih, Nat.succ_mul]
    simp
    omega

theorem repeated_length (count : Nat) (event : FlowEvent) (probeId : CStr) :
    (batchText (List.replicate (count + 1) event) none probeId).length =
      2 + (flowEventText event probeId).length + count * ((flowEventText event probeId).length + 1) := by
  have texts : batchTexts (List.replicate (count + 1) event) none probeId =
      flowEventText event probeId :: List.replicate count (flowEventText event probeId) := by
    simp [batchTexts, eventTexts, List.replicate_succ]
  rw [batchText, batchHead, texts, joinTexts, List.length_append, List.length_cons, List.length_append,
    joinTexts_replicate]
  simp
  omega

def localServer : CharBuf 16 := .strncpy (ascii "127.0.0.1")

theorem dnsQuery_length : (flowEventText dnsQuery stbProbe).length = 378 := by decide +kernel

theorem two_queries_request_fits_iff :
    let r := serializeBatch (List.replicate 2 dnsQuery) none stbProbe (MAX_JSON_LEN * 16)
    let length := (batchText (List.replicate 2 dnsQuery) none stbProbe).length
    (r.output.Within (MAX_JSON_LEN * 16) ∧ r.written < MAX_JSON_LEN * 16) ∧
    ((httpRequest localServer (r.output.read r.written)).length < HTTP_BUF_SIZE ↔
      114 + localServer.bytes.length + (decimal length).length + length < 65536) := by
  have length := repeated_length 1 dnsQuery stbProbe
  rw [dnsQuery_length] at length
  have fits : (batchText (List.replicate 2 dnsQuery) none stbProbe).length < MAX_JSON_LEN * 16 := by
    rw [length]
    decide
  have inside := serializeBatch_inside_of_fits (by decide) fits
  exact ⟨inside, batch_request_fits_iff (List.replicate 2 dnsQuery) none stbProbe localServer inside⟩

/-- Two hundred events, of the 8192 that the tracker can hold. -/
theorem two_hundred_queries_not_sendable :
    let r := serializeBatch (List.replicate 200 dnsQuery) none stbProbe (MAX_JSON_LEN * 16)
    (List.replicate 200 dnsQuery).length ≤ 8192 ∧ 0 < r.written ∧ r.output.Within (MAX_JSON_LEN * 16) ∧
    r.written < MAX_JSON_LEN * 16 ∧ ¬ (httpRequest localServer (r.output.read r.written)).length < HTTP_BUF_SIZE := by
  have length := repeated_length 199 dnsQuery stbProbe
  rw [dnsQuery_length] at length
  have fits : (batchText (List.replicate 200 dnsQuery) none stbProbe).length < MAX_JSON_LEN * 16 := by
    rw [length]
    decide
  obtain ⟨written, text⟩ := serializeBatch_text _ none stbProbe fits
  obtain ⟨within, below⟩ := serializeBatch_inside_of_fits (by decide) fits
  refine ⟨by rw [List.length_replicate]; decide, ?_, within, below, ?_⟩
  · rw [written, length]
    decide
  · rw [text, httpRequest_length, cut_eq_self (batchText_noNul _ none stbProbe), length]
    simp only [HTTP_BUF_SIZE]
    omega

end StbEbpf.Probe
