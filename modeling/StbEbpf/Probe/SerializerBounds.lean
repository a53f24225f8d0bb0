import StbEbpf.Probe.Serializer

/-!
Where `serialize_batch` writes. The offset reached after some events is a matter of the lengths of their
texts, so the calls that stay inside the array can be told from the batch alone.
-/

namespace StbEbpf.Probe
open CText Memory

/-- The texts one after the other; a comma stands before each but the first of all. -/
def joinTexts (first : Bool) : List Bytes → Bytes
  | [] => []
  | text :: rest => (if first then [] else [44]) ++ text ++ joinTexts false rest

def batchHead (texts : List Bytes) : Bytes := 91 :: joinTexts true texts

def headLength (texts : List Bytes) : Nat := (batchHead texts).length

/-- The offset after `texts`, from offset `written`. -/
def offsetAfter (written : Nat) (first : Bool) (texts : List Bytes) : Nat :=
  written + (joinTexts first texts).length

def eventTexts (events : List FlowEvent) (probeId : CStr) : List Bytes :=
  events.map (flowEventText · probeId)

theorem offsetAfter_nil (written : Nat) (first : Bool) : offsetAfter written first [] = written := rfl

theorem offsetAfter_cons (written : Nat) (first : Bool) (text : Bytes) (rest : List Bytes) :
    offsetAfter written first (text :: rest) =
      offsetAfter (written + (if first then 0 else 1) + text.length) false rest := by
  cases first <;> simp [offsetAfter, joinTexts] <;> omega

theorem offsetAfter_ge (written : Nat) (first : Bool) (texts : List Bytes) :
    written ≤ offsetAfter written first texts := Nat.le_add_right _ _

theorem joinTexts_append (first : Bool) (texts more : List Bytes) :
    joinTexts first (texts ++ more) = joinTexts first texts ++ joinTexts (first && texts.isEmpty) more := by
  induction texts generalizing first with
  | nil => simp [joinTexts]
  | cons head rest ih => simp [joinTexts, ih]

theorem offsetAfter_append (written : Nat) (first : Bool) (texts : List Bytes) (text : Bytes) :
    offsetAfter written first (texts ++ [text]) =
      offsetAfter written first texts + (if first && texts.isEmpty then 0 else 1) + text.length := by
  unfold offsetAfter
  rw [joinTexts_append]
  cases first && texts.isEmpty <;> simp [joinTexts] <;> omega

theorem headLength_eq (texts : List Bytes) : headLength texts = offsetAfter 1 true texts := by
  unfold headLength batchHead offsetAfter
  rw [List.length_cons, Nat.add_comm]

theorem flowEventText_length (event : FlowEvent) (probeId : CStr) :
    2 ≤ (flowEventText event probeId).length := by
  have brackets : 2 ≤ (ascii "\x7b\"timestamp\":").length := by decide
  unfold flowEventText
  simp only [List.length_append]
  omega

theorem hostMetricText_length (metric : HostMetric) (probeId : CStr) :
    0 < (hostMetricText metric probeId).length := by
  have brackets : 2 ≤ (ascii "\x7b\"timestamp\":").length := by decide
  unfold hostMetricText
  simp only [List.length_append]
  omega

/-! ### One text -/

namespace BatchOut

@[simp] theorem comma_written (o : BatchOut) : o.comma.written = o.written + if o.first then 0 else 1 := by
  unfold comma
  split <;> simp_all [put]

theorem put_within {o : BatchOut} {size : Nat} (within : o.output.Within size) (byte : UInt8)
    (room : o.written < size) : (o.put byte).output.Within size :=
  within_store within byte room

theorem comma_within {o : BatchOut} {size : Nat} (within : o.output.Within size) (room : o.written < size) :
    o.comma.output.Within size := by
  unfold comma
  split
  · exact within
  · exact put_within within 44 room

theorem print_within {o : BatchOut} {size : Nat} (within : o.output.Within size) (text : Bytes)
    (room : o.written ≤ size) : (o.print size text).2.output.Within size := by
  have bounded := stored_length_le (size - o.written) text
  exact within_storeBytes within (by omega)

end BatchOut

/-! ### The event loop -/

section
variable {size : Nat} {probeId : CStr}

theorem serializeEvents_stop {events : List FlowEvent} {o : BatchOut} (full : ¬ o.written < size - 2) :
    serializeEvents size probeId events o = o := by
  cases events with
  | nil => rfl
  | cons event rest => rw [serializeEvents, if_neg full]

theorem serializeEvents_truncated {event : FlowEvent} {rest : List FlowEvent} {o : BatchOut}
    (room : o.written < size - 2)
    (long : size ≤ o.comma.written + (flowEventText event probeId).length) :
    serializeEvents size probeId (event :: rest) o =
      { (o.comma.print size (flowEventText event probeId)).2 with written := size - 2 } := by
  have printed : ¬ ((flowEventText event probeId).length : Int) < 0 := by omega
  have beyond : ((flowEventText event probeId).length : Int) ≥ (size : Int) - o.comma.written := by omega
  rw [serializeEvents, if_pos room]
  simp only [serializeFlowEvent, BatchOut.print, printed, beyond, ↓reduceIte]

theorem serializeEvents_fits {event : FlowEvent} {rest : List FlowEvent} {o : BatchOut}
    (room : o.written < size - 2)
    (short : o.comma.written + (flowEventText event probeId).length < size) :
    serializeEvents size probeId (event :: rest) o =
      serializeEvents size probeId rest
        ⟨(o.comma.print size (flowEventText event probeId)).2.output,
          o.comma.written + (flowEventText event probeId).length, false⟩ := by
  have printed : ¬ ((flowEventText event probeId).length : Int) < 0 := by omega
  have under : ¬ ((flowEventText event probeId).length : Int) ≥ (size : Int) - o.comma.written := by omega
  rw [serializeEvents, if_pos room]
  simp only [serializeFlowEvent, BatchOut.print, printed, under, ↓reduceIte, Int.toNat_natCast]

/-- What the event loop leaves when entered at offset `written`, in terms of the offsets after each event. -/
structure LoopResult (size : Nat) (texts : List Bytes) (written : Nat) (first : Bool) (r : BatchOut) : Prop where
  within : r.output.Within size
  below : r.written < size
  last : r.written + 1 = size ↔ ∃ k, offsetAfter written first (texts.take k) + 1 = size
  all : offsetAfter written first texts < size - 2 →
    r.written = offsetAfter written first texts ∧ r.first = (first && texts.isEmpty)
  full : size - 2 ≤ offsetAfter written first texts → size - 2 ≤ r.written

theorem reaches_cons {text : Bytes} {rest : List Bytes} {written : Nat} {first : Bool} :
    (∃ k, offsetAfter written first ((text :: rest).take k) + 1 = size) ↔ written + 1 = size ∨
      ∃ k, offsetAfter (written + (if first then 0 else 1) + text.length) false (rest.take k) + 1 = size := by
  constructor
  · rintro ⟨k, reached⟩
    cases k with
    | zero => exact .inl (by simpa [offsetAfter_nil] using reached)
    | succ k =>
      rw [List.take_succ_cons, offsetAfter_cons] at reached
      exact .inr ⟨k, reached⟩
  · rintro (here | ⟨k, reached⟩)
    · exact ⟨0, by simpa [offsetAfter_nil] using here⟩
    · refine ⟨k + 1, ?_⟩
      rw [List.take_succ_cons, offsetAfter_cons]
      exact reached

theorem loopResult_stop {texts : List Bytes} {o : BatchOut} (within : o.output.Within size)
    (below : o.written < size) (full : ¬ o.written < size - 2) (long : ∀ text ∈ texts, 2 ≤ text.length) :
    LoopResult size texts o.written o.first o := by
  have grows := offsetAfter_ge o.written o.first texts
  refine ⟨within, below, ⟨fun last => ⟨0, by simpa [offsetAfter_nil] using last⟩, ?_⟩,
    fun short => by omega, fun _ => by omega⟩
  intro reaches
  cases texts with
  | nil =>
    obtain ⟨k, reached⟩ := reaches
    simpa [offsetAfter_nil] using reached
  | cons text rest =>
    obtain here | ⟨k, reached⟩ := reaches_cons.mp reaches
    · exact here
    · have further := offsetAfter_ge (o.written + (if o.first then 0 else 1) + text.length) false (rest.take k)
      have := long text (by simp)
      omega

theorem loopResult_truncated {text : Bytes} {rest : List Bytes} {o r : BatchOut} (within : r.output.Within size)
    (room : o.written < size - 2) (long : size ≤ o.comma.written + text.length) (stop : r.written = size - 2) :
    LoopResult size (text :: rest) o.written o.first r := by
  rw [BatchOut.comma_written] at long
  have grows (more : List Bytes) :=
    offsetAfter_ge (o.written + (if o.first then 0 else 1) + text.length) false more
  refine ⟨within, by omega, ⟨fun last => by omega, ?_⟩, ?_, fun _ => by omega⟩
  · intro reaches
    obtain here | ⟨k, reached⟩ := reaches_cons.mp reaches
    · omega
    · have := grows (rest.take k)
      omega
  · intro short
    rw [offsetAfter_cons] at short
    have := grows rest
    omega

theorem loopResult_fits {text : Bytes} {rest : List Bytes} {o o' r : BatchOut} (room : o.written < size - 2)
    (next : o'.written = o.comma.written + text.length) (later : o'.first = false)
    (loop : LoopResult size rest o'.written o'.first r) : LoopResult size (text :: rest) o.written o.first r := by
  rw [BatchOut.comma_written] at next
  obtain ⟨within, below, last, all, full⟩ := loop
  rw [next, later] at last all full
  rw [← offsetAfter_cons] at all full
  refine ⟨within, below, ?_, fun short => ?_, full⟩
  · rw [last, reaches_cons]
    constructor
    · exact .inr
    · rintro (here | reaches)
      · omega
      · exact reaches
  · obtain ⟨length, first⟩ := all short
    exact ⟨length, by simpa using first⟩

theorem serializeEvents_result (events : List FlowEvent) (probeId : CStr) {o : BatchOut} (within : o.output.Within size)
    (below : o.written < size) :
    LoopResult size (eventTexts events probeId) o.written o.first (serializeEvents size probeId events o) := by
  have long (events : List FlowEvent) : ∀ text ∈ eventTexts events probeId, 2 ≤ text.length := by
    intro text member
    obtain ⟨event, -, rfl⟩ := List.mem_map.mp member
    exact flowEventText_length event probeId
  induction events generalizing o with
  | nil =>
    refine ⟨within, below, by simp [eventTexts, offsetAfter_nil, serializeEvents], fun _ => ?_, fun full => full⟩
    simp [eventTexts, offsetAfter_nil, serializeEvents]
  | cons event rest ih =>
    by_cases room : o.written < size - 2
    · have printed := BatchOut.print_within (BatchOut.comma_within within below)
        (flowEventText event probeId) (by rw [BatchOut.comma_written]; split <;> omega)
      by_cases short : o.comma.written + (flowEventText event probeId).length < size
      · rw [serializeEvents_fits room short]
        show LoopResult size (flowEventText event probeId :: eventTexts rest probeId) o.written o.first _
        refine loopResult_fits room ?_ ?_ (ih printed short) <;> rfl
      · rw [serializeEvents_truncated room (by omega)]
        show LoopResult size (flowEventText event probeId :: eventTexts rest probeId) o.written o.first _
        refine loopResult_truncated ?_ room (by omega) rfl
        exact printed
    · rw [serializeEvents_stop room]
      exact loopResult_stop within below room (long (event :: rest))

/-! ### The whole call -/

theorem serializeMetric_full {metric : Option HostMetric} {o : BatchOut} (full : ¬ o.written < size - 2) :
    serializeMetric size probeId metric o = o := by
  cases metric with
  | none => rfl
  | some metric => rw [serializeMetric, if_neg full]

theorem serializeMetric_some {metric : HostMetric} {o : BatchOut} (room : o.written < size - 2) :
    serializeMetric size probeId (some metric) o =
      ⟨(o.comma.print size (hostMetricText metric probeId)).2.output,
        o.comma.written + (hostMetricText metric probeId).length, false⟩ := by
  have printed : ((hostMetricText metric probeId).length : Int) > 0 := by
    have := hostMetricText_length metric probeId
    omega
  rw [serializeMetric, if_pos room]
  simp only [serializeHostMetric, BatchOut.print, printed, ↓reduceIte, Int.toNat_natCast]

theorem serializeMetric_within {metric : Option HostMetric} {o : BatchOut} (within : o.output.Within size)
    (below : o.written < size) : (serializeMetric size probeId metric o).output.Within size := by
  by_cases room : o.written < size - 2
  · cases metric with
    | none => exact within
    | some metric =>
      rw [serializeMetric_some room]
      exact BatchOut.print_within (BatchOut.comma_within within below) (hostMetricText metric probeId)
        (by rw [BatchOut.comma_written]; split <;> omega)
  · rw [serializeMetric_full room]
    exact within

def serializeHead (events : List FlowEvent) (metric : Option HostMetric) (probeId : CStr) (size : Nat) :
    BatchOut :=
  serializeMetric size probeId metric (serializeEvents size probeId events (BatchOut.put ⟨.empty, 0, true⟩ 91))

theorem serializeBatch_written (events : List FlowEvent) (metric : Option HostMetric) :
    (serializeBatch events metric probeId size).written = (serializeHead events metric probeId size).written + 1 :=
  rfl

theorem serializeBatch_inside {events : List FlowEvent} {metric : Option HostMetric}
    (within : (serializeHead events metric probeId size).output.Within size) :
    ((serializeBatch events metric probeId size).output.Within size ∧
      (serializeBatch events metric probeId size).written < size) ↔
        (serializeHead events metric probeId size).written + 1 < size := by
  rw [serializeBatch_written]
  refine ⟨fun inside => inside.2, fun inside => ⟨?_, inside⟩⟩
  exact within_store (BatchOut.put_within within 93 (by omega)) 0 inside

/-- The whole call stays inside an array of `size` bytes, its result included, exactly when no event ends on the
last byte but one and a metric that is tried leaves room for the bracket and the NUL. -/
theorem serializeBatch_in_bounds_iff (events : List FlowEvent) (metric : Option HostMetric) (probeId : CStr)
    (size : Nat) (three : 3 ≤ size) :
    ((serializeBatch events metric probeId size).output.Within size ∧
      (serializeBatch events metric probeId size).written < size) ↔
    (∀ k, headLength ((eventTexts events probeId).take k) ≠ size - 1) ∧
    (∀ tried ∈ metric, headLength (eventTexts events probeId) < size - 2 →
      headLength (eventTexts events probeId ++ [hostMetricText tried probeId]) < size - 1) := by
  have opened : (BatchOut.put ⟨.empty, 0, true⟩ 91).output.Within size :=
    BatchOut.put_within (within_empty size) 91 (by show 0 < size; omega)
  have loop : LoopResult size (eventTexts events probeId) 1 true _ :=
    serializeEvents_result events probeId opened (by show 1 < size; omega)
  obtain ⟨within, below, last, all, full⟩ := loop
  rw [serializeBatch_inside (serializeMetric_within within below)]
  unfold serializeHead
  simp only [headLength_eq]
  generalize serializeEvents size probeId events (BatchOut.put ⟨.empty, 0, true⟩ 91) = r at *
  have apart : r.written + 1 < size ↔ ∀ k, offsetAfter 1 true ((eventTexts events probeId).take k) ≠ size - 1 := by
    constructor
    · intro inside k reached
      have := last.mpr ⟨k, by omega⟩
      omega
    · intro apart
      have : r.written + 1 ≠ size := by
        intro ends
        obtain ⟨k, reached⟩ := last.mp ends
        exact apart k (by omega)
      omega
  by_cases room : r.written < size - 2
  · have short : offsetAfter 1 true (eventTexts events probeId) < size - 2 := by
      by_contra long
      have := full (by omega)
      omega
    obtain ⟨length, first⟩ := all short
    cases metric with
    | none => simpa [serializeMetric] using apart
    | some tried =>
      have inside := apart.mp (by omega)
      have ends := offsetAfter_append 1 true (eventTexts events probeId) (hostMetricText tried probeId)
      simp only [serializeMetric_some room, BatchOut.comma_written, length, first, ← ends]
      constructor
      · intro fits
        refine ⟨inside, fun other same _ => ?_⟩
        obtain rfl : tried = other := by simpa using same
        omega
      · rintro ⟨-, fits⟩
        have := fits tried rfl short
        omega
  · rw [serializeMetric_full room, apart]
    refine ⟨fun inside => ⟨inside, fun _ _ short => ?_⟩, fun inside => inside.1⟩
    have := (all short).1
    omega

end

def dnsQuery : FlowEvent :=
  { timestampNs := 1, srcIp := 0x0100a8c0, dstIp := 0x08080808, srcPort := 5353, dstPort := PORT_DNS
    protocol := .strncpy (ascii "UDP"), category := .strncpy CAT_DNS, eventType := .strncpy EVT_DNS_QUERY
    details := .strncpy (ascii "example.com") }

def idleMetric : HostMetric := ⟨1, 0, 0, 0, 0, 0⟩

def stbProbe : CStr := .ofBytes (ascii "stb-probe")

theorem query_and_metric_in_bounds :
    (serializeBatch [dnsQuery] (some idleMetric) stbProbe 8192).output.Within 8192 ∧
      (serializeBatch [dnsQuery] (some idleMetric) stbProbe 8192).written < 8192 := by
  refine (serializeBatch_in_bounds_iff [dnsQuery] (some idleMetric) stbProbe 8192 (by decide)).mpr ⟨?_, ?_⟩
  · intro k
    cases k with
    | zero => decide
    | succ k =>
      have whole : (eventTexts [dnsQuery] stbProbe).take (k + 1) = eventTexts [dnsQuery] stbProbe := by
        simp [eventTexts]
      rw [whole]
      decide +kernel
  · intro tried same _
    obtain rfl : idleMetric = tried := by simpa using same
    decide +kernel

-- One event whose text ends on the last byte but one: the bracket takes the last byte and the NUL is stored past it.
theorem event_to_last_byte_overruns :
    3 ≤ 380 ∧ ¬ ((serializeBatch [dnsQuery] none stbProbe 380).output.Within 380 ∧
      (serializeBatch [dnsQuery] none stbProbe 380).written < 380) := by
  have stray : (serializeBatch [dnsQuery] none stbProbe 380).written = 380 := by decide +kernel
  refine ⟨by decide, ?_⟩
  rintro ⟨-, inside⟩
  rw [stray] at inside
  omega

end StbEbpf.Probe
