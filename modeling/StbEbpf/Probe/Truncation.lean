import StbEbpf.Probe.Injection
import StbEbpf.Probe.RequestSize

/-!
A batch that is larger than its array. The loop of `serialize_batch` leaves what `snprintf` had room for and steps back
to the last byte but two; the bracket goes there, wherever in an object that is.
-/

namespace StbEbpf.Probe
open CText Memory Json

/-! ### Where the batch is cut -/

theorem take_split (texts : List Bytes) {j k : Nat} (le : j ≤ k) :
    texts.take k = texts.take j ++ (texts.take k).drop j := by
  conv_lhs => rw [← List.take_append_drop j (texts.take k), List.take_take, Nat.min_eq_left le]

section
variable {events : List FlowEvent} {probeId : CStr} {size : Nat}

theorem headLength_apart {j k : Nat}
    (more : headLength ((eventTexts events probeId).take j) < headLength ((eventTexts events probeId).take k)) :
    headLength ((eventTexts events probeId).take j) + 2 ≤ headLength ((eventTexts events probeId).take k) := by
  rcases Nat.le_total k j with back | forth
  · rw [take_split _ back] at more
    have := headLength_le_append ((eventTexts events probeId).take k) (((eventTexts events probeId).take j).drop k)
    omega
  · rw [take_split _ forth] at more ⊢
    rcases between : ((eventTexts events probeId).take k).drop j with _ | ⟨text, others⟩
    · rw [between, List.append_nil] at more
      omega
    · have member : text ∈ eventTexts events probeId := by
        apply List.mem_of_mem_take
        apply List.mem_of_mem_drop
        rw [between]
        exact List.mem_cons_self
      obtain ⟨event, -, rfl⟩ := List.mem_map.mp member
      have next := offsetAfter_append 1 true ((eventTexts events probeId).take j) (flowEventText event probeId)
      rw [← headLength_eq, ← headLength_eq] at next
      have later := headLength_le_append ((eventTexts events probeId).take j ++ [flowEventText event probeId]) others
      have wide := flowEventText_length event probeId
      rw [List.append_cons]
      omega

theorem batchText_head (events : List FlowEvent) (probeId : CStr) :
    batchText events none probeId = batchHead (eventTexts events probeId) ++ [93] := by
  simp [batchText, batchTexts]

/-- A batch that does not fit is cut one or two bytes before the end, behind an event if one ends there. -/
theorem serializeBatch_truncated (three : 3 ≤ size) (long : size ≤ (batchText events none probeId).length) :
    let r := serializeBatch events none probeId size
    ∃ count, size - 2 ≤ count ∧ count ≤ size - 1 ∧
      r.output.read r.written = (batchText events none probeId).take count ++ [93] ∧
      ∀ k, size - 2 ≤ headLength ((eventTexts events probeId).take k) →
        headLength ((eventTexts events probeId).take k) ≤ size - 1 →
        headLength ((eventTexts events probeId).take k) = count := by
  intro r
  have opened : (BatchOut.put ⟨.empty, 0, true⟩ 91).output.Within size :=
    BatchOut.put_within (within_empty size) 91 (by show 0 < size; omega)
  have loop : LoopResult size (eventTexts events probeId) 1 true _ :=
    serializeEvents_result events probeId opened (by show 1 < size; omega)
  obtain ⟨out, start, wrote⟩ := serializeLoop_starts size probeId events
  have whole : (batchText events none probeId).length = headLength (eventTexts events probeId) + 1 := by
    rw [batchText_head, List.length_append]
    rfl
  have full := loop.full (by rw [← headLength_eq]; omega)
  have below := loop.below
  have last := loop.last
  simp only [← headLength_eq] at last
  rw [wrote.length] at full below last
  have head : (serializeHead events none probeId size).Wrote out := wrote
  refine ⟨out.length, full, by omega, ?_, ?_⟩
  · rw [(serializeBatch_closed head).2]
    have inside : out <+: batchText events none probeId := by
      rw [batchText_head]
      exact start.trans (List.prefix_append _ _)
    rw [← List.prefix_iff_eq_take.mp inside]
  · intro k low high
    by_contra other
    -- An event that ends on the last byte but one is written whole, and then none ends on the byte before.
    rcases Nat.lt_or_ge (headLength ((eventTexts events probeId).take k)) (size - 1) with before | ends
    · obtain ⟨j, reached⟩ := last.mp (by omega)
      have apart := headLength_apart (show headLength ((eventTexts events probeId).take k) <
        headLength ((eventTexts events probeId).take j) by omega)
      omega
    · have := last.mpr ⟨k, by omega⟩
      omega

end

/-! ### What is read of it -/

theorem eventMembers_exact (probeId : CStr) (event : FlowEvent) :
    Exact (fun found => found = .object (eventMembers probeId event))
      (∀ c : Column, c.kind.Framed (Column.sent probeId event c)) (.object (eventMembers probeId event)) := by
  intro fuel depth rest found after _ read same
  subst same
  have keys : ∀ c ∈ Column.all, Enclosed c.key := fun c _ => enclosed_of_plain c.key_plain
  have each : List.Forall₂ (fun member c => member.2 = c.kind.encode (Column.sent probeId event c))
      (eventMembers probeId event) Column.all := by
    unfold eventMembers
    rw [List.forall₂_map_left_iff, List.forall₂_same]
    exact fun _ _ => rfl
  obtain ⟨-, ends, framed⟩ := readValue_exact keys (fun c _ => Kind.exact_encode c.kind _) read each
  exact ⟨rfl, ends, fun c => framed c c.mem_all⟩

theorem Kind.encode_compact (k : Kind) (x : k.Carrier) : Compact (k.encode x) := by
  cases k with
  | text | address => exact .string _
  | unsigned bits => exact .number rfl

theorem eventMembers_compact (probeId : CStr) (event : FlowEvent) : Compact (.object (eventMembers probeId event)) := by
  apply Compact.object
  intro pair member
  obtain ⟨c, -, rfl⟩ := List.mem_map.mp member
  exact Kind.encode_compact c.kind _

/-- The text is an array with the objects of the first events, and nothing else. -/
def HoldsFirst (text : Bytes) (events : List FlowEvent) (probeId : CStr) : Prop :=
  ∃ k, readWhole text = some (.array ((batchObjects (events.take k) probeId).map .object))

/-- A batch that does not fit is still an array of whole events exactly if one of them, or the opening bracket, happens
to end on one of the two bytes before the last, and no string up to there breaks out of its quotes. -/
theorem truncated_batch_holds_first_iff (events : List FlowEvent) (probeId : CStr) (size : Nat) (three : 3 ≤ size)
    (long : size ≤ (batchText events none probeId).length) :
    let r := serializeBatch events none probeId size
    HoldsFirst (r.output.read r.written) events probeId ↔
      ∃ k, size - 2 ≤ headLength ((eventTexts events probeId).take k) ∧
        headLength ((eventTexts events probeId).take k) ≤ size - 1 ∧
        ∀ event ∈ events.take k, ∀ c : Column, c.kind.Framed (Column.sent probeId event c) := by
  intro r
  obtain ⟨count, low, high, text, only⟩ := serializeBatch_truncated three long
  have taken (k : Nat) : (eventTexts events probeId).take k = eventTexts (events.take k) probeId := by
    simp [eventTexts]
  have objects (events : List FlowEvent) : (batchObjects events probeId).map Value.object =
      events.map fun event => .object (eventMembers probeId event) := by
    simp [batchObjects]
  rw [text]
  constructor
  · rintro ⟨k, read⟩
    obtain ⟨rest, found, -⟩ := readWhole_value read
    rw [batchText_tree, objects, objects] at found
    obtain ⟨length, framed⟩ := readArray_cut (fun event _ => ⟨_, _, rfl, by decide, by decide, by decide⟩)
      (fun event _ => eventMembers_exact probeId event) (fun event _ => eventMembers_compact probeId event)
      (by omega) (by rw [← objects, ← batchText_tree]; omega) found
    rw [← objects, ← batchText_tree, batchText_head, ← taken, List.length_append] at length
    have ends : headLength ((eventTexts events probeId).take k) = count := Nat.succ.inj length
    exact ⟨k, by omega, by omega, framed⟩
  · rintro ⟨k, above, under, framed⟩
    have ends := only k above under
    refine ⟨k, ?_⟩
    have start := batchHead_starts ((eventTexts events probeId).take k) ((eventTexts events probeId).drop k)
    rw [List.take_append_drop] at start
    have inside : batchHead ((eventTexts events probeId).take k) <+: batchText events none probeId := by
      rw [batchText_head]
      exact start.trans (List.prefix_append _ _)
    rw [← ends, headLength, ← List.prefix_iff_eq_take.mp inside, taken, ← batchText_head]
    exact batchText_read framed

theorem pollEvents_length :
    (batchText [pollEvent, pollEvent] none stbProbe).length = 761 ∧
      headLength ((eventTexts [pollEvent, pollEvent] stbProbe).take 1) = 380 := by decide +kernel

-- The second event is cut off in the digits of its timestamp.
theorem second_event_cut :
    let r := serializeBatch [pollEvent, pollEvent] none stbProbe 400
    (∀ event ∈ [pollEvent, pollEvent], event.Plain) ∧ PlainText stbProbe.bytes ∧ 3 ≤ 400 ∧
    400 ≤ (batchText [pollEvent, pollEvent] none stbProbe).length ∧
    readWhole (r.output.read r.written) = none ∧ ¬ HoldsFirst (r.output.read r.written) [pollEvent, pollEvent] stbProbe := by
  intro r
  have long : 400 ≤ (batchText [pollEvent, pollEvent] none stbProbe).length := by
    rw [pollEvents_length.1]
    decide
  have unread : readWhole (r.output.read r.written) = none := by
    obtain ⟨count, low, high, text, -⟩ := serializeBatch_truncated (by decide) long
    rw [text]
    have both : ∀ count ∈ [398, 399],
        (readWhole ((batchText [pollEvent, pollEvent] none stbProbe).take count ++ [93])).isNone = true := by decide +kernel
    exact Option.isNone_iff_eq_none.mp (both count (by simp; omega))
  refine ⟨by simpa using pollEvent_plain.1, pollEvent_plain.2, by decide, long, unread, ?_⟩
  rintro ⟨k, read⟩
  rw [unread] at read
  cases read

theorem second_event_dropped :
    let r := serializeBatch [pollEvent, pollEvent] none stbProbe 382
    382 ≤ (batchText [pollEvent, pollEvent] none stbProbe).length ∧
    HoldsFirst (r.output.read r.written) [pollEvent, pollEvent] stbProbe := by
  obtain ⟨whole, one⟩ := pollEvents_length
  have long : 382 ≤ (batchText [pollEvent, pollEvent] none stbProbe).length := by
    rw [whole]
    decide
  refine ⟨long, (truncated_batch_holds_first_iff [pollEvent, pollEvent] stbProbe 382 (by decide) long).mpr ?_⟩
  refine ⟨1, by rw [one], by rw [one]; decide, ?_⟩
  intro event member c
  obtain rfl : event = pollEvent := by simpa using List.mem_of_mem_take member
  exact Kind.framed_of_clean (sent_clean pollEvent_plain.1 pollEvent_plain.2 c)

end StbEbpf.Probe
