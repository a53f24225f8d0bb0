import StbEbpf.Protocol.DnsNames
import StbEbpf.Protocol.DnsSafety

/-!
`ParseDNS` of `pkg/protocol/dns.go`, which is kept for older callers. Its name loop has four exits; the two bytes of the
query type are read behind whichever of them is taken.
-/

namespace StbEbpf.Protocol
open CText Access NetworkOrder DomainName

/-- The members of `DNSRecord` that the parser sets. -/
structure DNSRecord where
  timestamp : Int
  srcIP : Bytes
  dstIP : Bytes
  srcPort : UInt16
  dstPort : UInt16
  queryName : Bytes
  queryType : Bytes
  responseCode : Nat
  isNXDOMAIN : Bool
  isSuspicious : Bool
  isTunnel : Bool
  deriving DecidableEq, Repr

def parseDNS.labels (payload : Bytes) : Nat → Nat → List Bytes → Checked (List Bytes × Nat)
  | 0, _, _ => throw .endless
  | fuel + 1, offset, nameParts =>
    if offset < payload.length then do
      let length := (← readAt payload offset).toNat
      if length = 0 then return (nameParts, offset + 1)
      else if length &&& 0xC0 = 0xC0 then return (nameParts, offset + 2)
      else if offset + 1 + length > payload.length then return (nameParts, offset)
      else
        let part ← readRange payload (offset + 1) length
        labels payload fuel (offset + 1 + length) (nameParts ++ [part])
    else pure (nameParts, offset)

def parseDNS (env : Surroundings) (payload srcIP dstIP : Bytes) (srcPort dstPort : UInt16) :
    Checked (Option DNSRecord) := do
  if payload.length < 12 then return none
  else
    let flags ← readWord16 payload 2
    let responseCode := (flags &&& 0x0F).toNat
    let questions ← readWord16 payload 4
    if questions = 0 then return none
    else
      let (nameParts, offset) ← parseDNS.labels payload (payload.length + 1) 12 []
      let queryName := dotted nameParts
      let qtype ← readWord16 payload offset
      return some
        { timestamp := env.nowMs
          srcIP, dstIP, srcPort, dstPort, queryName, responseCode
          queryType := queryTypeName qtype
          isNXDOMAIN := responseCode == 3
          isSuspicious := detectDGADomain env queryName
          isTunnel := detectDNSTunnel queryName }

/-! ### Labels and what follows them -/

/-- Labels with their length bytes. -/
def spelled (labels : List Bytes) : Bytes := labels.flatMap fun label => UInt8.ofNat label.length :: label

/-- The length byte is neither zero nor that of a pointer; the loop does not mind lengths above 63. -/
def Taken (label : Bytes) : Prop := 1 ≤ label.length ∧ label.length < 192

/-- How the loop is left behind the labels, and how many bytes it skips then: at a zero byte, at a pointer, at a label
that is not all there, and at the end of the payload. -/
inductive NameEnd : Bytes → Nat → Prop
  | root (rest : Bytes) : NameEnd (0 :: rest) 1
  | pointer {marker : UInt8} (marked : 192 ≤ marker.toNat) (rest : Bytes) : NameEnd (marker :: rest) 2
  | overrun {length : UInt8} (some_ : 1 ≤ length.toNat) (low : length.toNat < 192) {rest : Bytes}
      (short : rest.length < length.toNat) : NameEnd (length :: rest) 0
  | exhausted : NameEnd [] 0

theorem spelled_cons (label : Bytes) (labels : List Bytes) :
    spelled (label :: labels) = UInt8.ofNat label.length :: (label ++ spelled labels) := by
  simp [spelled]

theorem length_le_spelled (labels : List Bytes) : labels.length ≤ (spelled labels).length := by
  induction labels with
  | nil => exact Nat.le_refl _
  | cons label labels ih =>
    rw [spelled_cons, List.length_cons, List.length_cons, List.length_append]
    omega

/-- Any bytes are labels up to a place where the loop is left. -/
theorem name_splits (text : Bytes) :
    ∃ labels tail skipped, text = spelled labels ++ tail ∧ (∀ label ∈ labels, Taken label) ∧ NameEnd tail skipped := by
  induction same : text.length using Nat.strong_induction_on generalizing text with
  | _ size ih =>
    cases text with
    | nil => exact ⟨[], [], 0, rfl, nofun, .exhausted⟩
    | cons first rest =>
      by_cases zero : first = 0
      · subst zero
        exact ⟨[], _, 1, rfl, nofun, .root rest⟩
      · have some_ : 1 ≤ first.toNat := Nat.pos_of_ne_zero fun none_ => zero (UInt8.toNat_inj.mp none_)
        by_cases marked : 192 ≤ first.toNat
        · exact ⟨[], _, 2, rfl, nofun, .pointer marked rest⟩
        · by_cases short : rest.length < first.toNat
          · exact ⟨[], _, 0, rfl, nofun, .overrun some_ (by omega) short⟩
          · have smaller : (rest.drop first.toNat).length < size := by
              rw [List.length_drop, ← same, List.length_cons]
              omega
            obtain ⟨labels, tail, skipped, split, taken, ends⟩ := ih _ smaller (rest.drop first.toNat) rfl
            have length : (rest.take first.toNat).length = first.toNat := by
              rw [List.length_take]
              omega
            refine ⟨rest.take first.toNat :: labels, tail, skipped, ?_, ?_, ends⟩
            · rw [spelled_cons, length, UInt8.ofNat_toNat, List.cons_append, List.append_assoc, ← split,
                List.take_append_drop]
            · intro label member
              obtain rfl | later := List.mem_cons.mp member
              · exact ⟨by omega, by omega⟩
              · exact taken label later

/-! ### The loop -/

section
variable (before tail : Bytes) {skipped : Nat}

theorem labels_leaves {tail : Bytes} (ends : NameEnd tail skipped) (fuel : Nat) (parts : List Bytes) :
    parseDNS.labels (before ++ tail) (fuel + 1) before.length parts = .ok (parts, before.length + skipped) := by
  unfold parseDNS.labels
  cases ends with
  | exhausted =>
    rw [List.append_nil, if_neg (Nat.lt_irrefl _)]
    rfl
  | root rest =>
    rw [if_pos (by simp), readAt_middle]
    rfl
  | pointer marked rest =>
    rw [if_pos (by simp), readAt_middle, ok_bind]
    dsimp only
    rw [if_neg (by omega), if_pos ((marked_iff _).mpr marked)]
    rfl
  | @overrun length some_ low rest short =>
    rw [if_pos (by simp), readAt_middle, ok_bind]
    dsimp only
    rw [if_neg (by omega), if_neg (fun marked => by have := (marked_iff _).mp marked; omega),
      if_pos (by simp only [List.length_append, List.length_cons]; omega)]
    rfl

theorem labels_label {label : Bytes} (taken : Taken label) (fuel : Nat) (parts : List Bytes) :
    parseDNS.labels (before ++ (UInt8.ofNat label.length :: label) ++ tail) (fuel + 1) before.length parts =
      parseDNS.labels (before ++ (UInt8.ofNat label.length :: label) ++ tail) fuel
        (before ++ (UInt8.ofNat label.length :: label)).length (parts ++ [label]) := by
  obtain ⟨some_, low⟩ := taken
  have size : (UInt8.ofNat label.length).toNat = label.length := UInt8.toNat_ofNat_of_lt' (by show _ < 256; omega)
  have total : (before ++ (UInt8.ofNat label.length :: label) ++ tail).length =
      before.length + 1 + label.length + tail.length := by
    simp only [List.length_append, List.length_cons]
    omega
  have first : readAt (before ++ (UInt8.ofNat label.length :: label) ++ tail) before.length =
      .ok (UInt8.ofNat label.length) := by
    rw [List.append_assoc]
    exact readAt_middle ..
  have part : readRange (before ++ (UInt8.ofNat label.length :: label) ++ tail) (before.length + 1) label.length =
      .ok label := by
    have here : (before ++ (UInt8.ofNat label.length :: label) ++ tail).drop (before.length + 1) = label ++ tail := by
      rw [List.append_assoc, List.drop_append]
      simp
    exact readRange_at here rfl (by omega)
  conv => lhs; unfold parseDNS.labels
  rw [if_pos (by omega), first, ok_bind]
  dsimp only
  rw [size, if_neg (by omega), if_neg (fun marked => by rw [← size, marked_iff, size] at marked; omega),
    if_neg (by omega), part, ok_bind, List.length_append, List.length_cons, Nat.add_comm label.length, ← Nat.add_assoc]

theorem labels_run {tail : Bytes} {labels : List Bytes} (taken : ∀ label ∈ labels, Taken label) (ends : NameEnd tail skipped)
    {fuel : Nat} (enough : labels.length < fuel) (parts : List Bytes) :
    parseDNS.labels (before ++ spelled labels ++ tail) fuel before.length parts =
      .ok (parts ++ labels, before.length + (spelled labels).length + skipped) := by
  induction labels generalizing before fuel parts with
  | nil =>
    obtain ⟨fuel, rfl⟩ : ∃ rounds, fuel = rounds + 1 := ⟨fuel - 1, by simp at enough; omega⟩
    simpa [spelled] using labels_leaves before ends fuel parts
  | cons label labels ih =>
    obtain ⟨fuel, rfl⟩ : ∃ rounds, fuel = rounds + 1 := ⟨fuel - 1, by omega⟩
    have whole : before ++ spelled (label :: labels) ++ tail =
        before ++ (UInt8.ofNat label.length :: label) ++ (spelled labels ++ tail) := by
      simp [spelled_cons]
    have later := ih (before ++ (UInt8.ofNat label.length :: label)) (fun other member => taken other (by simp [member]))
      (by simpa using enough) (parts ++ [label])
    rw [whole, labels_label before _ (taken label (by simp)), ← List.append_assoc, later, spelled_cons]
    simp only [List.length_append, List.length_cons, List.append_assoc, List.singleton_append]
    congr 2
    omega

end

/-! ### The parser -/

/-- The question count of the header. -/
def questionCount (payload : Bytes) : UInt16 := word16 ((payload.drop 4).take 2)

theorem completes_readWord16_iff (data : Bytes) (offset : Nat) :
    Completes (readWord16 data offset) ↔ offset + 2 ≤ data.length := by
  refine ⟨?_, completes_readWord16⟩
  rintro ⟨word, read, -⟩
  by_contra outside
  rw [readWord16, readRange, if_neg outside] at read
  cases read

section
variable (env : Surroundings) {payload : Bytes} (srcIP dstIP : Bytes) (srcPort dstPort : UInt16)

theorem parseDNS_unasked (long : 12 ≤ payload.length) (unasked : questionCount payload = 0) :
    parseDNS env payload srcIP dstIP srcPort dstPort = .ok none := by
  have questions : readWord16 payload 4 = .ok (questionCount payload) := readWord16_inside (by omega)
  unfold parseDNS
  rw [if_neg (by omega), readWord16_inside (by omega), ok_bind, questions, ok_bind]
  exact if_pos unasked

section
variable {labels : List Bytes} {tail : Bytes} {skipped : Nat} (long : 12 ≤ payload.length)
  (asked : questionCount payload ≠ 0) (split : payload.drop 12 = spelled labels ++ tail)
  (taken : ∀ label ∈ labels, Taken label) (ends : NameEnd tail skipped)
include long asked split taken ends

/-- A packet with a question: behind the labels there is only the read of the query type. -/
theorem parseDNS_asked :
    ∃ record : UInt16 → DNSRecord, parseDNS env payload srcIP dstIP srcPort dstPort =
      readWord16 payload (12 + (spelled labels).length + skipped) >>= fun qtype => pure (some (record qtype)) := by
  have whole : payload = payload.take 12 ++ spelled labels ++ tail := by
    rw [List.append_assoc, ← split, List.take_append_drop]
  have header : (payload.take 12).length = 12 := by
    rw [List.length_take]
    omega
  have enough : labels.length < payload.length + 1 := by
    have counted := congrArg List.length split
    have each := length_le_spelled labels
    rw [List.length_drop, List.length_append] at counted
    omega
  have walked := labels_run (payload.take 12) taken ends enough []
  rw [← whole, header, List.nil_append] at walked
  have questions : readWord16 payload 4 = .ok (questionCount payload) := readWord16_inside (by omega)
  unfold parseDNS
  rw [if_neg (by omega), readWord16_inside (by omega), ok_bind, questions, ok_bind]
  dsimp only
  rw [if_neg asked, walked, ok_bind]
  exact ⟨_, rfl⟩

theorem parseDNS_asked_iff :
    parseDNS env payload srcIP dstIP srcPort dstPort ≠ .error .endless ∧
      (Completes (parseDNS env payload srcIP dstIP srcPort dstPort) ↔ skipped + 2 ≤ tail.length) := by
  have counted := congrArg List.length split
  rw [List.length_drop, List.length_append] at counted
  obtain ⟨record, parsed⟩ := parseDNS_asked env srcIP dstIP srcPort dstPort long asked split taken ends
  rw [parsed, completes_map_iff, completes_readWord16_iff]
  refine ⟨?_, by omega⟩
  unfold readWord16 readRange
  split_ifs <;> nofun

end

/-- The parser always ends. It reads nothing outside the payload exactly when there is no question to look at, or two
bytes are left where the name loop has stopped. -/
theorem parse_dns_reads_inside_iff (payload : Bytes) :
    parseDNS env payload srcIP dstIP srcPort dstPort ≠ .error .endless ∧
      (Completes (parseDNS env payload srcIP dstIP srcPort dstPort) ↔
        payload.length < 12 ∨ questionCount payload = 0 ∨
          ∃ labels tail skipped, payload.drop 12 = spelled labels ++ tail ∧ (∀ label ∈ labels, Taken label) ∧
            NameEnd tail skipped ∧ skipped + 2 ≤ tail.length) := by
  by_cases short : payload.length < 12
  · have nothing : parseDNS env payload srcIP dstIP srcPort dstPort = .ok none := if_pos short
    rw [nothing]
    exact ⟨nofun, fun _ => .inl short, fun _ => completes_pure none⟩
  · have long : 12 ≤ payload.length := Nat.le_of_not_lt short
    by_cases unasked : questionCount payload = 0
    · rw [parseDNS_unasked env srcIP dstIP srcPort dstPort long unasked]
      exact ⟨nofun, fun _ => .inr (.inl unasked), fun _ => completes_pure none⟩
    · obtain ⟨labels, tail, skipped, split, taken, ends⟩ := name_splits (payload.drop 12)
      obtain ⟨terminates, inside⟩ :=
        parseDNS_asked_iff env srcIP dstIP srcPort dstPort long unasked split taken ends
      refine ⟨terminates, ?_, ?_⟩
      · intro completes
        exact .inr (.inr ⟨labels, tail, skipped, split, taken, ends, inside.mp completes⟩)
      · rintro (contra | contra | ⟨labels', tail', skipped', split', taken', ends', room⟩)
        · exact absurd contra short
        · exact absurd contra unasked
        · exact (parseDNS_asked_iff env srcIP dstIP srcPort dstPort long unasked split' taken' ends').2.mpr room

end

/-- A header that announces a question, and nothing behind it. -/
def bareHeader : Bytes := [0x12, 0x34, 0x01, 0x00, 0x00, 0x01, 0x00, 0x00, 0x00, 0x00, 0x00, 0x00]

theorem bare_header_read_outside :
    ¬ Completes (parseDNS ⟨0, fun _ => false⟩ bareHeader (ascii "10.0.0.2") (ascii "8.8.8.8") 5353 53) := by
  rintro ⟨record, ends, -⟩
  have fault : parseDNS ⟨0, fun _ => false⟩ bareHeader (ascii "10.0.0.2") (ascii "8.8.8.8") 5353 53 = .error .read := by
    rfl
  rw [fault] at ends
  cases ends

end StbEbpf.Protocol
