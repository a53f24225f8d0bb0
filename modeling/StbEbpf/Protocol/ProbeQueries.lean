import StbEbpf.Lib.CStrings
import StbEbpf.Probe.Frames
import StbEbpf.Probe.RawPath
import StbEbpf.Protocol.DnsAgreement

/-!
The queries that `parse_dns_payload` of the C probe puts into `details`, compared with what the Go parser tells of the
same bytes. The C loop copies labels byte by byte into an array of 256 bytes, and puts the dot before a label.
-/

namespace StbEbpf.Protocol
open CText Access NetworkOrder DomainName Probe

/-! ### The array of the name -/

theorem copyLabel_filled {payload rest : Bytes} {position : Nat} {label text : Bytes}
    (here : payload.drop position = label ++ rest) (room : text.length + label.length ≤ 255) :
    copyLabel payload label.length position (filled 256 text) text.length =
      .ok (filled 256 (text ++ label), (text ++ label).length) := by
  induction label generalizing position text with
  | nil => rw [List.append_nil]; rfl
  | cons byte label ih =>
    have read : payload[position]? = some byte := by
      have first := congrArg (·[0]?) here
      simpa using first
    have later : payload.drop (position + 1) = label ++ rest := by
      rw [← List.drop_drop, here]
      rfl
    have longer : (text ++ [byte]).length = text.length + 1 := by simp
    rw [List.length_cons] at room
    rw [List.length_cons, copyLabel, if_pos (by omega), readAt_some read, ok_bind, writeAt_filled (by omega), ok_bind]
    have copied : copyLabel payload label.length (position + 1) (filled 256 (text ++ [byte])) (text ++ [byte]).length = _ :=
      ih later (by omega)
    rw [longer] at copied
    rw [copied, List.append_assoc, List.singleton_append]

/-! ### The loop -/

/-- What stands in the array when a label is copied. -/
def opened (labels : List Bytes) : Bytes := if labels = [] then [] else dotted labels ++ [46]

theorem opened_label (labels : List Bytes) (label : Bytes) : opened labels ++ label = dotted (labels ++ [label]) := by
  unfold opened
  split
  · rename_i none_
    subst none_
    simp [dotted, List.intercalate]
  · rename_i some_
    rw [dotted_concat label some_, List.append_assoc, List.singleton_append]

theorem dotted_ne_nil {labels : List Bytes} (some_ : labels ≠ []) (visible : ∀ label ∈ labels, label ≠ []) :
    dotted labels ≠ [] := by
  cases labels with
  | nil => exact absurd rfl some_
  | cons label labels =>
    have first := visible label (by simp)
    by_cases last : labels = []
    · subst last
      simpa [dotted, List.intercalate] using first
    · rw [dotted_cons last]
      simp

theorem dotBefore_filled {labels : List Bytes} (visible : ∀ label ∈ labels, label ≠ [])
    (room : (dotted labels).length < 255) :
    dnsLabels.dotBefore (filled 256 (dotted labels)) (dotted labels).length =
      .ok (filled 256 (opened labels), (opened labels).length) := by
  unfold dnsLabels.dotBefore opened
  by_cases none_ : labels = []
  · subst none_
    rfl
  · have some_ : 0 < (dotted labels).length := List.length_pos_iff.mpr (dotted_ne_nil none_ visible)
    rw [if_neg none_, if_pos ⟨some_, room⟩, writeAt_filled (by omega), ok_bind, List.length_append,
      List.length_singleton]
    rfl

/-- The loop copies a name without pointers and stops on its zero byte. -/
theorem dnsLabels_resolve {payload : Bytes} {offset next : Nat} {labels : List Bytes}
    (resolves : Resolves payload 0 offset labels next) {fuel : Nat} (enough : labels.length < fuel) {before : List Bytes}
    (visible : ∀ label ∈ before, label ≠ []) (room : (dotted (before ++ labels)).length ≤ 253) :
    dnsLabels payload fuel ⟨offset, filled 256 (dotted before), (dotted before).length, false⟩ =
      .ok ⟨next - 1, filled 256 (dotted (before ++ labels)), (dotted (before ++ labels)).length, false⟩ := by
  generalize zero : 0 = pointers at resolves
  induction resolves generalizing fuel before with
  | @root offset read =>
    obtain ⟨inside, -⟩ := List.getElem?_eq_some_iff.mp read
    cases fuel with
    | zero => cases enough
    | succ fuel =>
      rw [dnsLabels, if_pos inside, readAt_some read, List.append_nil]
      rfl
  | @label pointers offset next length labels read some_ short fits later ih =>
    obtain ⟨inside, -⟩ := List.getElem?_eq_some_iff.mp read
    cases fuel with
    | zero => cases enough
    | succ fuel =>
      have size : ((payload.drop (offset + 1)).take length.toNat).length = length.toNat := by
        rw [List.length_take, List.length_drop]
        omega
      have here := (List.take_append_drop length.toNat (payload.drop (offset + 1))).symm
      generalize (payload.drop (offset + 1)).take length.toNat = part at size here room ⊢
      have split : before ++ part :: labels = before ++ [part] ++ labels := by simp
      rw [split] at room ⊢
      have whole := length_dotted_le (before ++ [part]) labels
      have shorter := length_dotted_le before [part]
      have open_ := congrArg List.length (opened_label before part)
      rw [List.length_append] at open_
      have copied : copyLabel payload part.length (offset + 1) (filled 256 (opened before)) (opened before).length = _ :=
        copyLabel_filled here (by omega)
      rw [opened_label, size] at copied
      have shown : ∀ label ∈ before ++ [part], label ≠ [] := by
        intro label member
        rcases List.mem_append.mp member with old | new
        · exact visible label old
        · obtain rfl := List.mem_singleton.mp new
          exact List.ne_nil_of_length_pos (by omega)
      rw [dnsLabels, if_pos inside, readAt_some read, ok_bind]
      dsimp only
      rw [if_neg (by omega), if_neg (by omega), if_neg (by omega), dotBefore_filled visible (by omega), ok_bind]
      dsimp only
      rw [copied, ok_bind]
      exact ih (Nat.lt_of_succ_lt_succ enough) shown room zero
  | pointer => cases zero

/-! ### The query -/

def namedAlike : List UInt16 := [1, 28, 5, 12, 15, 16, 33]

theorem dnsTypeText_eq {qtype : UInt16} (known : qtype ∈ namedAlike) : dnsTypeText qtype = queryTypeName qtype := by
  have each : namedAlike.all (fun qtype => dnsTypeText qtype = queryTypeName qtype) = true := by decide
  simpa using List.all_eq_true.mp each qtype known

theorem dnsTypeText_noNul {qtype : UInt16} (known : qtype ∈ namedAlike) : 0 ∉ dnsTypeText qtype := by
  have each : namedAlike.all (fun qtype => 0 ∉ dnsTypeText qtype) = true := by decide
  simpa using List.all_eq_true.mp each qtype known

/-- The bytes of the type, where the C parser looks for them. -/
theorem OneQuestion.read_type (m : OneQuestion) :
    readAt m.message (12 + (encode m.labels).length) = .ok (UInt8.ofNat (m.qtype.toNat / 256)) ∧
    readAt m.message (12 + (encode m.labels).length + 1) = .ok (UInt8.ofNat m.qtype.toNat) := by
  have byte (k : Nat) : m.message[12 + (encode m.labels).length + k]? = m.tail[k]? := by
    rw [← List.getElem?_drop, m.drop_name]
  exact ⟨readAt_some (byte 0), readAt_some (byte 1)⟩

theorem be16_bytes (word : UInt16) : be16 (UInt8.ofNat (word.toNat / 256)) (UInt8.ofNat word.toNat) = word := by
  have low (n : Nat) : (UInt8.ofNat n).toNat = n % 256 := UInt8.toNat_ofNat
  have bound := word.toNat_lt
  rw [← UInt16.toNat_inj, be16_toNat, low, low]
  omega

/-- The probe prints what the Go parser tells, cut to the size of `details`. -/
theorem probe_query_agrees (m : OneQuestion) (visible : 0 ∉ dotted m.labels) (short : (dotted m.labels).length ≤ 253)
    (known : m.qtype ∈ namedAlike) (flow : FlowEvent) (env : Surroundings) (srcIP dstIP : Bytes)
    (srcPort dstPort : UInt16) (direction : UInt8) :
    ∃ event, parseDNSPacket env m.message srcIP dstIP srcPort dstPort direction = .ok (some event) ∧
      ∃ details, parseDnsPayload m.message flow false = .ok { flow with details } ∧
        details.bytes = (ascii "dns_query:name=" ++ event.qName ++ ascii ",type=" ++ event.qType).take 127 := by
  obtain ⟨event, parsed, name, type⟩ := m.parsed env srcIP dstIP srcPort dstPort direction
  have length := m.message_length
  have labels := length_lt_encode m.labels
  have enough : m.labels.length < m.message.length + 1 := by omega
  have nothing : ∀ label ∈ ([] : List Bytes), label ≠ [] := by simp
  have walk : dnsLabels m.message (m.message.length + 1) ⟨12, List.replicate 256 0, 0, false⟩ =
      .ok ⟨12 + (encode m.labels).length - 1, filled 256 (dotted m.labels), (dotted m.labels).length, false⟩ :=
    dnsLabels_resolve m.lies.1 enough nothing short
  have ends : 12 + (encode m.labels).length - 1 + 1 = 12 + (encode m.labels).length := by omega
  have asked : fieldBe16 ((m.message.drop 0).take 8) 4 = be16 0 1 := rfl
  refine ⟨event, parsed, .snprintf (ascii "dns_query:name=" ++ dotted m.labels ++ ascii ",type=" ++ dnsTypeText m.qtype),
    ?_, ?_⟩
  · unfold parseDnsPayload
    rw [if_neg (by omega), readRange_inside (by omega), ok_bind]
    dsimp only
    rw [asked, if_neg (by decide), if_pos (by decide), walk, ok_bind]
    dsimp only
    rw [writeAt_end (by omega), ok_bind, cut_filled visible, ends, if_pos ⟨by simp, by omega⟩, m.read_type.1, ok_bind,
      m.read_type.2, ok_bind, be16_bytes]
    rfl
  · rw [name, type, ← dnsTypeText_eq known]
    have text : 0 ∉ ascii "dns_query:name=" ++ dotted m.labels ++ ascii ",type=" ++ dnsTypeText m.qtype :=
      noNul_append (noNul_append (noNul_append (by decide) visible) (by decide)) (dnsTypeText_noNul known)
    show (cut _).take 127 = _
    rw [cut_eq_self text]

theorem example_query_agrees :
    ∃ event, parseDNSPacket quiet (exampleQuery 28 1).message [] [] 40000 53 0 = .ok (some event) ∧
      ∃ details, parseDnsPayload (exampleQuery 28 1).message {} false = .ok { ({} : FlowEvent) with details } ∧
        details.bytes = (ascii "dns_query:name=" ++ event.qName ++ ascii ",type=" ++ event.qType).take 127 :=
  probe_query_agrees (exampleQuery 28 1) (by decide) (by decide) (by decide) {} quiet [] [] 40000 53 0

end StbEbpf.Protocol
