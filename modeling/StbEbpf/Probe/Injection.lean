import StbEbpf.Lib.JsonText
import StbEbpf.Probe.WireFormat

/-!
Strings from the network in a JSON text. `serialize_flow_event` prints them between quotes as they are, so what is in
them decides where they end.
-/

namespace StbEbpf.Probe
open CText Memory Json Strconv

namespace Column
variable (probeId : CStr) (event : FlowEvent) (c : Column)

/-- The strings that have to come back as they were. -/
def verbatim : Column → Bool
  | .probeId | .service | .details | .tags => true
  | _ => false

/-- What is found for a column is what was put there. -/
def Accepts (found : Value) : Prop :=
  if c.verbatim then c.kind.decode found = some (sent probeId event c) else found = c.kind.encode (sent probeId event c)

/-- A string that has to come back needs no escape and is UTF-8; another one only has to end where it is closed. -/
def Safe : Prop :=
  if c.verbatim then c.kind.Clean (sent probeId event c) ∧ c.kind.Portable (sent probeId event c)
  else c.kind.Framed (sent probeId event c)

end Column

/-- The text is one object with the members of the format, in order, and nothing else. -/
def Restores (text : Bytes) (probeId : CStr) (event : FlowEvent) : Prop :=
  ∃ members, readWhole text = some (.object members) ∧
    List.Forall₂ (fun member c => member.1 = c.key ∧ c.Accepts probeId event member.2) members Column.all

theorem parseUint_lt {limit value : Nat} {n : Numeral} (parsed : parseUint limit n = some value) : value < limit := by
  unfold parseUint at parsed
  split at parsed
  · cases parsed
  · split at parsed
    · rename_i small
      cases parsed
      exact small
    · cases parsed

theorem Kind.exact (k : Kind) (x : k.Carrier) :
    Exact (fun found => k.decode found = some x) (k.Clean x ∧ k.Portable x) (k.encode x) := by
  cases k with
  | text =>
    apply exact_string
    intro rest found after scan same
    obtain ⟨plain, whole⟩ := restored_iff.mp ⟨found, after, scan, same⟩
    rw [enclosed_of_plain plain rest] at scan
    cases scan
    exact ⟨rfl, rfl, plain, whole⟩
  | address =>
    intro fuel depth rest found after stops read _
    obtain ⟨rfl, rfl, -⟩ := exact_enclosed (enclosed_of_plain (ipToStr_plain x)) (fun _ => True) fuel depth rest found
      after stops read trivial
    exact ⟨rfl, rfl, trivial, trivial⟩
  | unsigned bits =>
    intro fuel depth rest found after stops read fit
    obtain ⟨rfl, rfl, -⟩ := exact_number (formatUint_ok x) (fun _ => True) fuel depth rest found after stops read trivial
    exact ⟨rfl, rfl, parseUint_lt fit, trivial⟩

theorem Kind.exact_encode (k : Kind) (x : k.Carrier) : Exact (fun found => found = k.encode x) (k.Framed x) (k.encode x) := by
  cases k with
  | text =>
    apply exact_string
    intro rest found after scan same
    obtain rfl : found = x := Value.string.inj same
    obtain rfl : rest = after := by simpa using scanString_spans scan
    exact ⟨rfl, rfl, enclosed_of_scan scan⟩
  | address => exact exact_enclosed (enclosed_of_plain (ipToStr_plain x)) _
  | unsigned bits => exact exact_number (formatUint_ok x) _

theorem Column.exact (probeId : CStr) (event : FlowEvent) (c : Column) :
    Exact (c.Accepts probeId event) (c.Safe probeId event) (c.kind.encode (sent probeId event c)) := by
  unfold Accepts Safe
  by_cases verbatim : c.verbatim
  · simp only [if_pos verbatim]
    exact Kind.exact c.kind _
  · simp only [if_neg verbatim]
    exact Kind.exact_encode c.kind _

theorem Column.Safe.framed {probeId : CStr} {event : FlowEvent} {c : Column} (safe : c.Safe probeId event) :
    c.kind.Framed (sent probeId event c) := by
  unfold Safe at safe
  split at safe
  · exact Kind.framed_of_clean safe.1
  · exact safe

theorem Column.Safe.accepts {probeId : CStr} {event : FlowEvent} {c : Column} (safe : c.Safe probeId event) :
    c.Accepts probeId event (c.kind.encode (sent probeId event c)) := by
  unfold Safe at safe
  unfold Accepts
  split at safe
  · rename_i verbatim
    rw [if_pos verbatim, Kind.decode_encode safe.1, (Kind.received_eq_iff c.kind _).mpr safe.2]
  · rename_i verbatim
    rw [if_neg verbatim]

theorem flowEventText_restores_iff (event : FlowEvent) (probeId : CStr) :
    Restores (flowEventText event probeId) probeId event ↔ ∀ c : Column, c.Safe probeId event := by
  have keys : ∀ c ∈ Column.all, Enclosed c.key := fun c _ => enclosed_of_plain c.key_plain
  rw [flowEventText_tree]
  constructor
  · rintro ⟨members, read, each⟩ c
    obtain ⟨rest, found, -⟩ := readWhole_value read
    rw [← List.append_nil (Value.object (eventMembers probeId event)).text] at found
    have fits := each.imp fun _ _ both => both.2
    obtain ⟨-, -, holds⟩ := readValue_exact keys (fun c _ => Column.exact probeId event c) found fits
    exact holds c c.mem_all
  · intro safe
    refine ⟨eventMembers probeId event, ?_, ?_⟩
    · exact readWhole_text (eventMembers_printable (fun c => (safe c).framed) 9999)
    · unfold eventMembers
      rw [List.forall₂_map_left_iff, List.forall₂_same]
      exact fun c _ => ⟨rfl, (safe c).accepts⟩

theorem print_whole (cells : Cells) {size : Nat} {text : Bytes} (fits : text.length < size) :
    (BatchOut.print ⟨cells, 0, true⟩ size text).2.output.read text.length = text := by
  have nothing : BatchOut.Wrote ⟨cells, 0, true⟩ [] := ⟨holds_nil cells, rfl⟩
  exact holds_read (nothing.print size text (by simpa using fits))

theorem serializeFlowEvent_text {event : FlowEvent} {probeId : CStr} {cells : Cells} {size : Nat}
    (whole : (serializeFlowEvent event probeId ⟨cells, 0, true⟩ size).1 < size) :
    let r := serializeFlowEvent event probeId ⟨cells, 0, true⟩ size
    r.2.output.read r.1.toNat = flowEventText event probeId := by
  unfold serializeFlowEvent at whole ⊢
  generalize flowEventText event probeId = text at whole ⊢
  exact print_whole cells (Int.ofNat_lt.mp whole)

/-- An event that fits its buffer comes out as it went in exactly if `probe_id`, `service`, `details` and `tags` are
UTF-8 without a quote, a backslash or a control character, and no other string breaks out of its quotes. -/
theorem serialize_flow_event_restores_iff (event : FlowEvent) (probeId : CStr) (cells : Cells) (size : Nat)
    (whole : (serializeFlowEvent event probeId ⟨cells, 0, true⟩ size).1 < size) :
    let r := serializeFlowEvent event probeId ⟨cells, 0, true⟩ size
    Restores (r.2.output.read r.1.toNat) probeId event ↔ ∀ c : Column, c.Safe probeId event := by
  intro r
  rw [serializeFlowEvent_text whole]
  exact flowEventText_restores_iff event probeId

/-- How many members an object has. -/
def memberCount : Value → Option Nat
  | .object members => some members.length
  | _ => none

/-- A path that closes the string it stands in and adds a member of its own. -/
def quotedPath : FlowEvent := { details := .strncpy (ascii "GET /\",\"anomaly\":\"0") }

theorem quoted_path_adds_member :
    let r := serializeFlowEvent quotedPath stbProbe ⟨.empty, 0, true⟩ 4096
    r.1 < 4096 ∧ (readWhole (r.2.output.read r.1.toNat)).bind memberCount = some 25 ∧
      ¬ Restores (r.2.output.read r.1.toNat) stbProbe quotedPath := by
  intro r
  have whole : r.1 < 4096 := by decide +kernel
  have count : (readWhole (flowEventText quotedPath stbProbe)).bind memberCount = some 25 := by decide +kernel
  rw [serializeFlowEvent_text whole]
  refine ⟨whole, count, ?_⟩
  rintro ⟨members, read, each⟩
  rw [read] at count
  have same : members.length = 25 := Option.some.inj count
  have columns := each.length_eq
  rw [same] at columns
  exact absurd columns (by decide)

theorem poll_event_restored :
    let r := serializeFlowEvent pollEvent stbProbe ⟨.empty, 0, true⟩ 4096
    r.1 < 4096 ∧ Restores (r.2.output.read r.1.toNat) stbProbe pollEvent := by
  have fits : (serializeFlowEvent pollEvent stbProbe ⟨.empty, 0, true⟩ 4096).1 < 4096 := by decide +kernel
  refine ⟨fits, (serialize_flow_event_restores_iff pollEvent stbProbe .empty 4096 fits).mpr ?_⟩
  intro c
  have clean := sent_clean pollEvent_plain.1 pollEvent_plain.2 c
  have utf8 : Utf8.valid stbProbe.bytes = true ∧ Utf8.valid pollEvent.service.bytes = true ∧
      Utf8.valid pollEvent.details.bytes = true ∧ Utf8.valid pollEvent.tags.bytes = true := by decide +kernel
  unfold Column.Safe
  split
  · rename_i verbatim
    refine ⟨clean, ?_⟩
    cases c with
    | probeId => exact utf8.1
    | service => exact utf8.2.1
    | details => exact utf8.2.2.1
    | tags => exact utf8.2.2.2
    | _ => exact absurd verbatim (by decide)
  · exact Kind.framed_of_clean clean

end StbEbpf.Probe
