import StbEbpf.Probe.SerializerBounds

/-! What `serialize_batch` leaves in the array when the whole batch fits: its text, and nothing is lost. -/

namespace StbEbpf.Probe
open CText Memory

/-- The texts of a batch in order, the metric last. -/
def batchTexts (events : List FlowEvent) (metric : Option HostMetric) (probeId : CStr) : List Bytes :=
  eventTexts events probeId ++ (metric.map (hostMetricText · probeId)).toList

def batchText (events : List FlowEvent) (metric : Option HostMetric) (probeId : CStr) : Bytes :=
  batchHead (batchTexts events metric probeId) ++ [93]

/-! ### No NUL inside -/

theorem flowEventText_noNul (event : FlowEvent) (probeId : CStr) : 0 ∉ flowEventText event probeId := by
  unfold flowEventText
  simp only [List.mem_append, decimal_noNul, CharBuf.noNul, probeId.noNul, or_false]
  -- What is left are the constant parts.
  decide +kernel

theorem hostMetricText_noNul (metric : HostMetric) (probeId : CStr) : 0 ∉ hostMetricText metric probeId := by
  unfold hostMetricText
  simp only [List.mem_append, decimal_noNul, fixed1_noNul, probeId.noNul, or_false]
  decide +kernel

theorem joinTexts_noNul (first : Bool) {texts : List Bytes} (noNul : ∀ text ∈ texts, 0 ∉ text) :
    0 ∉ joinTexts first texts := by
  induction texts generalizing first with
  | nil => simp [joinTexts]
  | cons text rest ih =>
    refine noNul_append (noNul_append ?_ (noNul text (by simp))) (ih false fun other member => noNul other (by simp [member]))
    split <;> decide

theorem batchText_noNul (events : List FlowEvent) (metric : Option HostMetric) (probeId : CStr) :
    0 ∉ batchText events metric probeId := by
  have texts : ∀ text ∈ batchTexts events metric probeId, 0 ∉ text := by
    intro text member
    rcases List.mem_append.mp member with written | extra
    · obtain ⟨event, -, rfl⟩ := List.mem_map.mp written
      exact flowEventText_noNul event probeId
    · obtain ⟨metric, -, rfl⟩ := Option.map_eq_some_iff.mp (Option.mem_toList.mp extra)
      exact hostMetricText_noNul metric probeId
  refine noNul_append ?_ (by decide)
  intro member
  rcases List.mem_cons.mp member with bracket | later
  · exact absurd bracket (by decide)
  · exact joinTexts_noNul true texts later

/-! ### The array -/

/-- The array holds the text written so far. -/
structure BatchOut.Wrote (o : BatchOut) (text : Bytes) : Prop where
  holds : o.output.Holds text
  length : o.written = text.length

namespace BatchOut
variable {o : BatchOut} {text : Bytes}

theorem Wrote.put (wrote : o.Wrote text) (byte : UInt8) : (o.put byte).Wrote (text ++ [byte]) := by
  refine ⟨?_, by simp [BatchOut.put, wrote.length]⟩
  unfold BatchOut.put
  rw [wrote.length]
  exact holds_store wrote.holds byte

theorem Wrote.comma (wrote : o.Wrote text) : o.comma.Wrote (text ++ if o.first then [] else [44]) := by
  unfold BatchOut.comma
  split
  · simpa using wrote
  · exact wrote.put 44

theorem Wrote.print (wrote : o.Wrote text) (size : Nat) (more : Bytes) (fits : text.length + more.length < size) :
    (o.print size more).2.output.Holds (text ++ more) := by
  have whole : stored (size - o.written) more = more ++ [0] := by
    have length := wrote.length
    unfold stored
    rw [if_neg (by omega), List.take_of_length_le (by omega)]
  unfold BatchOut.print
  rw [whole, wrote.length]
  have stored := holds_storeBytes wrote.holds (more ++ [0])
  rw [← List.append_assoc] at stored
  exact holds_take stored

end BatchOut

theorem serializeEvents_wrote (size : Nat) (probeId : CStr) (events : List FlowEvent) {o : BatchOut} {text : Bytes}
    (wrote : o.Wrote text)
    (fits : (text ++ joinTexts o.first (eventTexts events probeId)).length ≤ size - 2) :
    (serializeEvents size probeId events o).Wrote (text ++ joinTexts o.first (eventTexts events probeId)) ∧
      (serializeEvents size probeId events o).first = (o.first && events.isEmpty) := by
  induction events generalizing o text with
  | nil => exact ⟨by simpa [eventTexts, joinTexts, serializeEvents] using wrote, by simp [serializeEvents]⟩
  | cons event rest ih =>
    have long := flowEventText_length event probeId
    have before := wrote.comma
    change (text ++ ((if o.first then [] else [44]) ++ flowEventText event probeId ++
      joinTexts false (eventTexts rest probeId))).length ≤ size - 2 at fits
    simp only [List.length_append] at fits
    have commaLength := before.length
    rw [List.length_append] at commaLength
    have length := wrote.length
    have printed := before.print size (flowEventText event probeId) (by
      rw [List.length_append]
      omega)
    rw [serializeEvents_fits (by omega) (by omega)]
    have next : BatchOut.Wrote
        ⟨(o.comma.print size (flowEventText event probeId)).2.output,
          o.comma.written + (flowEventText event probeId).length, false⟩
        (text ++ (if o.first then [] else [44]) ++ flowEventText event probeId) :=
      ⟨printed, by simp only [commaLength, List.length_append]⟩
    obtain ⟨all, first⟩ := ih next (by
      simp only [List.length_append]
      omega)
    refine ⟨?_, by simpa using first⟩
    simpa [joinTexts, eventTexts, List.append_assoc] using all

theorem serializeMetric_wrote (size : Nat) (probeId : CStr) (metric : Option HostMetric) {o : BatchOut} {text : Bytes}
    (wrote : o.Wrote text) {tail : Bytes}
    (shape : tail = joinTexts o.first (metric.map (hostMetricText · probeId)).toList)
    (fits : (text ++ tail).length ≤ size - 2) : (serializeMetric size probeId metric o).Wrote (text ++ tail) := by
  subst shape
  cases metric with
  | none => simpa [joinTexts, serializeMetric] using wrote
  | some metric =>
    have long := hostMetricText_length metric probeId
    have before := wrote.comma
    change (text ++ ((if o.first then [] else [44]) ++ hostMetricText metric probeId ++ [])).length ≤ size - 2 at fits
    simp only [List.length_append, List.length_nil] at fits
    have commaLength := before.length
    rw [List.length_append] at commaLength
    have length := wrote.length
    have printed := before.print size (hostMetricText metric probeId) (by
      rw [List.length_append]
      omega)
    rw [serializeMetric_some (by omega)]
    refine ⟨?_, ?_⟩
    · simpa [joinTexts, List.append_assoc] using printed
    · simp only [commaLength, joinTexts, Option.map_some, Option.toList_some, List.length_append, List.length_nil]
      omega

/-- The bracket and the NUL behind what was written. -/
theorem serializeBatch_closed {events : List FlowEvent} {metric : Option HostMetric} {probeId : CStr} {size : Nat}
    {text : Bytes} (head : (serializeHead events metric probeId size).Wrote text) :
    let r := serializeBatch events metric probeId size
    r.written = (text ++ [93]).length ∧ r.output.read r.written = text ++ [93] := by
  intro r
  have closed := head.put 93
  have length : r.written = (text ++ [93]).length := closed.length
  have terminated : r.output.Holds (text ++ [93] ++ [0]) := by
    have stored := holds_store closed.holds 0
    rw [← closed.length] at stored
    exact stored
  refine ⟨length, ?_⟩
  rw [length]
  exact holds_read (holds_take terminated)

/-- A batch whose text fits with its NUL is written whole. -/
theorem serializeBatch_text (events : List FlowEvent) (metric : Option HostMetric) (probeId : CStr) {size : Nat}
    (fits : (batchText events metric probeId).length < size) :
    let r := serializeBatch events metric probeId size
    r.written = (batchText events metric probeId).length ∧
      r.output.read r.written = batchText events metric probeId := by
  have length : (batchText events metric probeId).length = (batchHead (batchTexts events metric probeId)).length + 1 := by
    simp [batchText]
  have split : batchHead (batchTexts events metric probeId) =
      [91] ++ joinTexts true (eventTexts events probeId) ++
        joinTexts (true && events.isEmpty) (metric.map (hostMetricText · probeId)).toList := by
    simp [batchHead, batchTexts, joinTexts_append, eventTexts]
  have nothing : BatchOut.Wrote ⟨.empty, 0, true⟩ [] := ⟨holds_nil _, rfl⟩
  rw [split, List.length_append] at length
  obtain ⟨wrote, first⟩ := serializeEvents_wrote size probeId events (nothing.put 91) (by
    show ([91] ++ joinTexts true (eventTexts events probeId)).length ≤ size - 2
    omega)
  have head : (serializeHead events metric probeId size).Wrote (batchHead (batchTexts events metric probeId)) := by
    rw [split]
    apply serializeMetric_wrote size probeId metric wrote (by rw [first]; rfl)
    show ([91] ++ joinTexts true (eventTexts events probeId) ++
      joinTexts (true && events.isEmpty) (metric.map (hostMetricText · probeId)).toList).length ≤ size - 2
    rw [List.length_append]
    omega
  exact serializeBatch_closed head

end StbEbpf.Probe
