import StbEbpf.Lib.Decimal
import StbEbpf.Protocol.Collector
import StbEbpf.Protocol.DnsAnswers

/-!
Messages with one question whose name is written out, as the parsers of the repository read them. Each of them walks
over the labels in its own way.
-/

namespace StbEbpf.Protocol
open CText Access NetworkOrder DomainName

/-- A message with one question; what comes after it is left open. -/
structure OneQuestion where
  id : UInt16
  flags : UInt16
  answers : UInt16
  authorities : UInt16
  additionals : UInt16
  labels : List Bytes
  proper : ∀ label ∈ labels, Proper label
  qtype : UInt16
  qclass : UInt16
  rest : Bytes

namespace OneQuestion
variable (m : OneQuestion)

def header : Bytes := packetHeader m.id m.flags 1 m.answers m.authorities m.additionals

def tail : Bytes := bytes16 m.qtype ++ (bytes16 m.qclass ++ m.rest)

def message : Bytes := m.header ++ (encode m.labels ++ m.tail)

theorem message_eq : m.message =
    packetHeader m.id m.flags 1 m.answers m.authorities m.additionals ++ (encode m.labels ++ m.tail) := rfl

theorem header_length : m.header.length = 12 := length_words _

theorem message_length : m.message.length = 12 + (encode m.labels).length + 4 + m.rest.length := by
  simp only [message, tail, List.length_append, header_length, bytes16_length]
  omega

theorem drop_name : m.message.drop (12 + (encode m.labels).length) = m.tail := by
  unfold message
  rw [← List.append_assoc]
  exact List.drop_left' (by rw [List.length_append, header_length])

theorem lies : (QuestionAt.mk m.labels 0 (12 + (encode m.labels).length) m.qtype m.qclass).Lies m.message := by
  have name := resolves_encoded m.proper m.header m.tail
  rw [header_length] at name
  exact ⟨name, m.rest, m.drop_name⟩

/-- What the parser of `pkg/protocol` tells of the question. -/
theorem parsed (env : Surroundings) (srcIP dstIP : Bytes) (srcPort dstPort : UInt16) (direction : UInt8) :
    ∃ event, parseDNSPacket env m.message srcIP dstIP srcPort dstPort direction = .ok (some event) ∧
      event.qName = dotted m.labels ∧ event.qType = queryTypeName m.qtype := by
  obtain ⟨texts, answered, -⟩ := parseAnswerSection_completes m.message ((m.flags >>> 15) &&& 1) m.answers
    (12 + (encode m.labels).length + 4)
  obtain ⟨event, ends, name, type, -⟩ :=
    parseDNSPacket_given env srcIP dstIP srcPort dstPort direction m.message_eq (QuestionAt.parsed m.lies) answered
  exact ⟨event, ends, name, type⟩

end OneQuestion

/-! ### The collector -/

namespace ProtocolCollector

/-- The loop stops on the zero byte of a name without pointers. -/
theorem labels_resolve {message : Bytes} {offset next : Nat} {labels : List Bytes}
    (resolves : Resolves message 0 offset labels next) {fuel : Nat} (enough : labels.length < fuel)
    (nameParts : List Bytes) :
    parseDNS.labels message fuel offset nameParts = .ok (nameParts ++ labels, next - 1) := by
  generalize zero : 0 = pointers at resolves
  induction resolves generalizing fuel nameParts with
  | @root offset read =>
    obtain ⟨inside, -⟩ := List.getElem?_eq_some_iff.mp read
    cases fuel with
    | zero => cases enough
    | succ fuel =>
      rw [parseDNS.labels, if_pos inside, readAt_some read, List.append_nil]
      rfl
  | @label pointers offset next length labels read some_ short fits later ih =>
    obtain ⟨inside, -⟩ := List.getElem?_eq_some_iff.mp read
    cases fuel with
    | zero => cases enough
    | succ fuel =>
      have rest := ih (Nat.lt_of_succ_lt_succ enough) (nameParts ++ [(message.drop (offset + 1)).take length.toNat]) zero
      rw [parseDNS.labels, if_pos inside, readAt_some read, ok_bind]
      dsimp only
      rw [if_neg (by omega), if_neg (mt (marked_iff length).mp (by omega)), if_neg (by omega), readRange_inside fits,
        ok_bind, rest, List.append_assoc, List.singleton_append]
  | pointer => cases zero

def namedTypes : List (UInt16 × Bytes) :=
  [(1, ascii "A"), (28, ascii "AAAA"), (5, ascii "CNAME"), (15, ascii "MX"), (16, ascii "TXT"), (2, ascii "NS")]

theorem unnamed_ne {qtype : UInt16} (unnamed : ∀ known ∈ namedTypes, known.1 ≠ qtype) :
    qtype ≠ 1 ∧ qtype ≠ 28 ∧ qtype ≠ 5 ∧ qtype ≠ 15 ∧ qtype ≠ 16 ∧ qtype ≠ 2 := by
  simpa [namedTypes, eq_comm] using unnamed

theorem queryType_cases (qtype : UInt16) :
    (qtype, parseDNS.queryType qtype) ∈ namedTypes ∨
      (∀ known ∈ namedTypes, known.1 ≠ qtype) ∧
        parseDNS.queryType qtype = ascii "TYPE" ++ decimal qtype.toNat := by
  have named : ∀ known ∈ namedTypes, parseDNS.queryType known.1 = known.2 := by decide
  by_cases listed : ∃ known ∈ namedTypes, known.1 = qtype
  · obtain ⟨known, member, rfl⟩ := listed
    rw [named known member]
    exact .inl member
  · have unnamed : ∀ known ∈ namedTypes, known.1 ≠ qtype := fun known member same => listed ⟨known, member, same⟩
    obtain ⟨a, aaaa, cname, mx, txt, ns⟩ := unnamed_ne unnamed
    refine .inr ⟨unnamed, ?_⟩
    unfold parseDNS.queryType
    rw [if_neg a, if_neg aaaa, if_neg cname, if_neg mx, if_neg txt, if_neg ns]

/-- No name looks like a numbered type, so a text tells its type. -/
theorem queryType_injective {one two : UInt16} (same : parseDNS.queryType one = parseDNS.queryType two) : one = two := by
  have distinct : ∀ a ∈ namedTypes, ∀ b ∈ namedTypes, a.2 = b.2 → a.1 = b.1 := by decide
  have unlike : ∀ a ∈ namedTypes, a.2.take 2 ≠ [84, 89] := by decide
  have numbered (n : Nat) : (ascii "TYPE" ++ decimal n).take 2 = [84, 89] := rfl
  rcases queryType_cases one with first | ⟨-, first⟩ <;> rcases queryType_cases two with second | ⟨-, second⟩
  · exact distinct _ first _ second same
  · rw [second] at same
    exact absurd ((congrArg (List.take 2) same).trans (numbered _)) (unlike _ first)
  · rw [first] at same
    exact absurd ((congrArg (List.take 2) same.symm).trans (numbered _)) (unlike _ second)
  · rw [first, second] at same
    exact UInt16.toNat_inj.mp (decimal_injective (List.append_cancel_left same))

/-- The types that both parsers call alike. -/
theorem queryTypeName_eq {qtype : UInt16} (alike : qtype ∉ [6, 12, 33, 255]) :
    queryTypeName qtype = parseDNS.queryType qtype := by
  have named : ∀ known ∈ namedTypes, queryTypeName known.1 = known.2 := by decide
  simp only [List.mem_cons, List.not_mem_nil, or_false, not_or] at alike
  obtain ⟨soa, ptr, srv, any⟩ := alike
  rcases queryType_cases qtype with listed | ⟨unnamed, same⟩
  · exact named _ listed
  · obtain ⟨a, aaaa, cname, mx, txt, ns⟩ := unnamed_ne unnamed
    unfold queryTypeName
    rw [same, if_neg a, if_neg ns, if_neg cname, if_neg soa, if_neg ptr, if_neg mx, if_neg txt, if_neg aaaa, if_neg srv,
      if_neg any]

/-- The collector reads the lower byte of the type and the upper byte of the class. -/
theorem parseDNS_parsed (m : OneQuestion) (srcIP dstIP : Bytes) :
    parseDNS m.message srcIP dstIP = .ok (some
      { srcIP, dstIP
        queryName := dotted m.labels
        queryType := parseDNS.queryType (word16 [UInt8.ofNat m.qtype.toNat, UInt8.ofNat (m.qclass.toNat / 256)]) }) := by
  have length := m.message_length
  have labels := length_lt_encode m.labels
  have enough : m.labels.length < m.message.length + 1 := by omega
  have walk := labels_resolve m.lies.1 enough []
  have crossed : readWord16 m.message (12 + (encode m.labels).length - 1 + 2) =
      .ok (word16 [UInt8.ofNat m.qtype.toNat, UInt8.ofNat (m.qclass.toNat / 256)]) := by
    rw [show 12 + (encode m.labels).length - 1 + 2 = 12 + (encode m.labels).length + 1 by omega,
      readWord16_inside (by omega), ← List.drop_drop, m.drop_name]
    rfl
  unfold parseDNS
  rw [if_neg (header_long m.message_eq), header_word m.message_eq (k := 2) rfl, ok_bind, if_neg (by decide), walk, ok_bind]
  dsimp only
  rw [if_pos (by omega), crossed]
  rfl

theorem crossed_word_iff (qtype qclass : UInt16) :
    word16 [UInt8.ofNat qtype.toNat, UInt8.ofNat (qclass.toNat / 256)] = qtype ↔
      qtype.toNat / 256 = qtype.toNat % 256 ∧ qtype.toNat % 256 = qclass.toNat / 256 := by
  have one := qtype.toNat_lt
  have two := qclass.toNat_lt
  have low (n : Nat) : (UInt8.ofNat n).toNat = n % 256 := UInt8.toNat_ofNat
  rw [← UInt16.toNat_inj, word16_toNat, low, low]
  omega

end ProtocolCollector

/-- The two parsers agree on the name always, and on the type exactly if both bytes of the type and the upper byte of
the class are the same. -/
theorem collector_agrees_iff (m : OneQuestion) (alike : m.qtype ∉ [6, 12, 33, 255]) (env : Surroundings)
    (srcIP dstIP : Bytes) (srcPort dstPort : UInt16) (direction : UInt8) :
    ∃ record event, ProtocolCollector.parseDNS m.message srcIP dstIP = .ok (some record) ∧
      parseDNSPacket env m.message srcIP dstIP srcPort dstPort direction = .ok (some event) ∧
      (record.queryName = event.qName ∧ record.queryType = event.qType ↔
        m.qtype.toNat / 256 = m.qtype.toNat % 256 ∧ m.qtype.toNat % 256 = m.qclass.toNat / 256) := by
  obtain ⟨event, parsed, name, type⟩ := m.parsed env srcIP dstIP srcPort dstPort direction
  refine ⟨_, event, ProtocolCollector.parseDNS_parsed m srcIP dstIP, parsed, ?_⟩
  rw [name, type, ProtocolCollector.queryTypeName_eq alike, ← ProtocolCollector.crossed_word_iff]
  constructor
  · rintro ⟨-, same⟩
    exact ProtocolCollector.queryType_injective same
  · intro same
    exact ⟨rfl, congrArg ProtocolCollector.parseDNS.queryType same⟩

def exampleLabels : List Bytes := [ascii "example", ascii "com"]

theorem exampleLabels_proper : ∀ label ∈ exampleLabels, Proper label := by
  unfold Proper
  decide

/-- A query for `example.com`. -/
def exampleQuery (qtype qclass : UInt16) : OneQuestion where
  id := 1
  flags := 0x0100
  answers := 0
  authorities := 0
  additionals := 0
  labels := exampleLabels
  proper := exampleLabels_proper
  qtype := qtype
  qclass := qclass
  rest := []

theorem reserved_type_agrees :
    ∃ record event, ProtocolCollector.parseDNS (exampleQuery 0 1).message [] [] = .ok (some record) ∧
      parseDNSPacket quiet (exampleQuery 0 1).message [] [] 40000 53 0 = .ok (some event) ∧
      record.queryName = event.qName ∧ record.queryType = event.qType := by
  obtain ⟨record, event, one, two, agree⟩ :=
    collector_agrees_iff (exampleQuery 0 1) (by decide) quiet [] [] 40000 53 0
  exact ⟨record, event, one, two, agree.mpr (by decide)⟩

/-- The most common query of all. -/
theorem address_query_disagrees :
    ∃ record event, ProtocolCollector.parseDNS (exampleQuery 1 1).message [] [] = .ok (some record) ∧
      parseDNSPacket quiet (exampleQuery 1 1).message [] [] 40000 53 0 = .ok (some event) ∧
      record.queryType = ascii "TYPE256" ∧ event.qType = ascii "A" ∧ record.queryType ≠ event.qType := by
  obtain ⟨event, parsed, -, type⟩ := (exampleQuery 1 1).parsed quiet [] [] 40000 53 0
  refine ⟨_, event, ProtocolCollector.parseDNS_parsed (exampleQuery 1 1) [] [], parsed, by decide, type.trans (by decide), ?_⟩
  rw [type]
  decide

end StbEbpf.Protocol
