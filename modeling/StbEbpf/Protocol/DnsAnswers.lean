import StbEbpf.Protocol.DnsSafety

/-!
Well-formed responses, and what `ParseDNSPacket` makes of their answer records. A record is described with the place
where it lies, since a name in its data may point anywhere into the message.
-/

namespace StbEbpf.Protocol
open CText Access NetworkOrder DomainName

/-! ### Responses -/

/-- A question, with the pointers that its name takes and the position behind the name. -/
structure QuestionAt where
  name : List Bytes
  pointers : Nat
  position : Nat
  qtype : UInt16
  qclass : UInt16

/-- A resource record, with the pointers that its owner name takes and the position behind that name. -/
structure RecordAt where
  owner : List Bytes
  pointers : Nat
  position : Nat
  atype : UInt16
  aclass : UInt16
  ttl : UInt32
  rdata : Bytes

def QuestionAt.Lies (message : Bytes) (q : QuestionAt) : Prop :=
  Resolves message q.pointers 12 q.name q.position ∧
    ∃ rest, message.drop q.position = bytes16 q.qtype ++ (bytes16 q.qclass ++ rest)

namespace RecordAt

def next (r : RecordAt) : Nat := r.position + 10 + r.rdata.length

def Lies (message : Bytes) (r : RecordAt) (start : Nat) : Prop :=
  Resolves message r.pointers start r.owner r.position ∧ r.rdata.length < 65536 ∧
    ∃ rest, message.drop r.position =
      bytes16 r.atype ++ (bytes16 r.aclass ++ (bytes32 r.ttl ++ (bytes16 (UInt16.ofNat r.rdata.length) ++ (r.rdata ++ rest))))

/-- One record after the other. -/
def Follow (message : Bytes) : List RecordAt → Nat → Prop
  | [], _ => True
  | r :: rest, start => r.Lies message start ∧ Follow message rest r.next

/-- The owner name, the type and the time to live, as an answer text begins. -/
def head (r : RecordAt) : Bytes :=
  dotted r.owner ++ ascii " " ++ queryTypeName r.atype ++ ascii " " ++ decimal r.ttl.toNat ++ ascii " "

end RecordAt

def packetHeader (id flags questions answers authorities additionals : UInt16) : Bytes :=
  [id, flags, questions, answers, authorities, additionals].flatMap bytes16

/-- A response with at most one question. What follows the answers is left open. -/
structure Response where
  message : Bytes
  id : UInt16
  flags : UInt16
  authorities : UInt16
  additionals : UInt16
  question : Option QuestionAt
  answers : List RecordAt
  counted : answers.length < 65536
  isResponse : 32768 ≤ flags.toNat
  header : ∃ rest, message = packetHeader id flags (if question.isSome then 1 else 0) (UInt16.ofNat answers.length)
    authorities additionals ++ rest
  asks : ∀ q ∈ question, q.Lies message
  follow : RecordAt.Follow message answers (question.elim 12 (·.position + 4))

/-! ### One record -/

section
variable {message : Bytes} {r : RecordAt} {start : Nat}

theorem drop_past {data field rest : Bytes} {offset : Nat} (here : data.drop offset = field ++ rest) :
    data.drop (offset + field.length) = rest := by
  rw [← List.drop_drop, here, List.drop_left]

/-- A record is read where it lies, unless its owner name takes too many pointers. -/
theorem parseAnswer_lies (lies : r.Lies message start) :
    ∃ shown, parseRData r.atype r.aclass r.rdata = .ok shown ∧
      parseAnswer message start = .ok (if r.pointers ≤ 5 then some (r.head ++ shown, r.next) else none) := by
  obtain ⟨resolves, short, rest, fields⟩ := lies
  obtain ⟨shown, text, -⟩ := parseRData_completes r.atype r.aclass r.rdata
  refine ⟨shown, text, ?_⟩
  unfold parseAnswer
  split
  · rename_i few
    have bounds := resolves_bounds resolves
    have length := congrArg List.length fields
    simp only [List.length_drop, List.length_append, bytes16_length, bytes32_length] at length
    have two := drop_past fields
    have four := drop_past two
    have eight := drop_past four
    have ten := drop_past eight
    simp only [bytes16_length, bytes32_length, Nat.add_assoc, Nat.reduceAdd] at two four eight ten
    have size : (UInt16.ofNat r.rdata.length).toNat = r.rdata.length := UInt16.toNat_ofNat_of_lt' short
    rw [parseDNSName_resolves few resolves, ok_bind]
    dsimp only
    rw [if_neg (by omega), Int.toNat_natCast, readWord16_at fields (by omega), ok_bind, readWord16_at two (by omega),
      ok_bind, readWord32_at four (by omega), ok_bind, readWord16_at eight (by omega), ok_bind, size,
      if_neg (by omega), readRange_at ten rfl (by omega), ok_bind, text, ok_bind]
    unfold RecordAt.head RecordAt.next
    simp only [List.append_assoc]
    rfl
  · rename_i many
    have lost : parseDNSName message start = .ok ([], -1) := by
      refine parseDNSName_lost fun pointers labels next few again => many ?_
      rw [(resolves_unique resolves again).1]
      exact few
    rw [lost]
    rfl

end

/-! ### All records -/

/-- The text that belongs to a record. -/
def RecordAt.Shows (r : RecordAt) (text : Bytes) : Prop :=
  ∃ shown, parseRData r.atype r.aclass r.rdata = .ok shown ∧ text = r.head ++ shown

def RecordAt.readable (r : RecordAt) : Bool := r.pointers ≤ 5

theorem parseAnswers_follow {message : Bytes} {records : List RecordAt} {start : Nat}
    (follow : RecordAt.Follow message records start) (before : List Bytes) :
    ∃ texts, parseAnswers message records.length start before = .ok (before ++ texts) ∧
      List.Forall₂ RecordAt.Shows (records.takeWhile RecordAt.readable) texts := by
  induction records generalizing start before with
  | nil => exact ⟨[], by rw [List.append_nil]; rfl, .nil⟩
  | cons r records ih =>
    obtain ⟨lies, later⟩ := follow
    obtain ⟨shown, text, parsed⟩ := parseAnswer_lies lies
    have inside : start < message.length := by
      have := resolves_bounds lies.1
      omega
    rw [List.length_cons, parseAnswers, if_pos inside, parsed, ok_bind]
    by_cases few : r.pointers ≤ 5
    · obtain ⟨texts, ends, shows⟩ := ih later (before ++ [r.head ++ shown])
      refine ⟨(r.head ++ shown) :: texts, ?_, ?_⟩
      · rw [if_pos few]
        dsimp only
        rw [ends, List.append_assoc, List.singleton_append]
      · rw [List.takeWhile_cons_of_pos (by simpa [RecordAt.readable] using few)]
        exact .cons ⟨shown, text, rfl⟩ shows
    · refine ⟨[], ?_, ?_⟩
      · rw [if_neg few, List.append_nil]
        rfl
      · rw [List.takeWhile_cons_of_neg (by simpa [RecordAt.readable] using few)]
        exact .nil

/-! ### The packet -/

section
variable (env : Surroundings) (r : Response) (srcIP dstIP : Bytes) (srcPort dstPort : UInt16) (direction : UInt8)

theorem QuestionAt.parsed {message : Bytes} {q : QuestionAt} (lies : q.Lies message) :
    parseQuestion message 1 =
      .ok (if q.pointers ≤ 5 then some ⟨dotted q.name, queryTypeName q.qtype, q.position + 4⟩ else none) := by
  obtain ⟨resolves, rest, fields⟩ := lies
  unfold parseQuestion
  rw [if_pos (by decide)]
  split
  · rename_i few
    have bounds := resolves_bounds resolves
    have length := congrArg List.length fields
    simp only [List.length_drop, List.length_append, bytes16_length] at length
    rw [parseDNSName_resolves few resolves, ok_bind]
    dsimp only
    rw [if_neg (by omega), Int.toNat_natCast, readWord16_at fields (by omega)]
    rfl
  · rename_i many
    have lost : parseDNSName message 12 = .ok ([], -1) := by
      refine parseDNSName_lost fun pointers labels next few again => many ?_
      rw [(resolves_unique resolves again).1]
      exact few
    rw [lost]
    rfl

theorem qr_bit {flags : UInt16} (set : 32768 ≤ flags.toNat) : (flags >>> 15) &&& 1 = 1 := by
  have bound := flags.toNat_lt
  apply UInt16.toNat_inj.mp
  rw [UInt16.toNat_and, UInt16.toNat_shiftRight]
  show flags.toNat >>> 15 &&& 1 = 1
  rw [Nat.shiftRight_eq_div_pow, Nat.and_one_is_mod]
  omega

section
variable {message rest : Bytes} {id flags questions answers authorities additionals : UInt16}
  (header : message = packetHeader id flags questions answers authorities additionals ++ rest)
include header

theorem header_long : ¬ message.length < 12 := by
  rw [header, List.length_append, packetHeader, length_words]
  simp only [List.length_cons, List.length_nil]
  omega

theorem header_word {k : Nat} {word : UInt16}
    (member : [id, flags, questions, answers, authorities, additionals][k]? = some word) :
    readWord16 message (2 * k) = .ok word := by
  rw [header]
  exact readWord16_words member rest

/-- What the question and the answers come to is what the event tells. -/
theorem parseDNSPacket_given {question : Question} (asked : parseQuestion message questions = .ok (some question))
    {texts : List Bytes} (answered : parseAnswerSection message ((flags >>> 15) &&& 1) answers question.offset = .ok texts) :
    ∃ event, parseDNSPacket env message srcIP dstIP srcPort dstPort direction = .ok (some event) ∧
      event.qName = question.qName ∧ event.qType = question.qType ∧ event.answers = texts := by
  unfold parseDNSPacket
  rw [if_neg (header_long header), header_word header (k := 0) rfl, ok_bind, header_word header (k := 1) rfl, ok_bind]
  dsimp only
  rw [header_word header (k := 2) rfl, ok_bind, header_word header (k := 3) rfl, ok_bind,
    header_word header (k := 4) rfl, ok_bind, header_word header (k := 5) rfl, ok_bind, asked, ok_bind]
  dsimp only
  rw [answered, ok_bind]
  exact ⟨_, rfl, rfl, rfl, rfl⟩

theorem parseDNSPacket_given_up (asked : parseQuestion message questions = .ok none) :
    parseDNSPacket env message srcIP dstIP srcPort dstPort direction = .ok none := by
  unfold parseDNSPacket
  rw [if_neg (header_long header), header_word header (k := 0) rfl, ok_bind, header_word header (k := 1) rfl, ok_bind]
  dsimp only
  rw [header_word header (k := 2) rfl, ok_bind, header_word header (k := 3) rfl, ok_bind,
    header_word header (k := 4) rfl, ok_bind, header_word header (k := 5) rfl, ok_bind, asked]
  rfl

end

def Response.questionRead : Prop := ∀ q ∈ r.question, q.pointers ≤ 5

theorem Response.asked (read : r.questionRead) :
    parseQuestion r.message (if r.question.isSome then 1 else 0) =
      .ok (some ⟨r.question.elim [] (dotted ·.name), r.question.elim [] (queryTypeName ·.qtype),
        r.question.elim 12 (·.position + 4)⟩) := by
  have lies := r.asks
  unfold questionRead at read
  cases given : r.question with
  | none => rfl
  | some q => rw [Option.isSome_some, if_pos rfl, QuestionAt.parsed (lies q given), if_pos (read q given)]; rfl

theorem Response.asked_in_vain (lost : ¬ r.questionRead) :
    parseQuestion r.message (if r.question.isSome then 1 else 0) = .ok none := by
  have lies := r.asks
  unfold questionRead at lost
  cases given : r.question with
  | none => exact absurd (by simp [given]) lost
  | some q =>
    rw [Option.isSome_some, if_pos rfl, QuestionAt.parsed (lies q given), if_neg (by simpa [given] using lost)]

theorem Response.answered (start : Nat) (follow : RecordAt.Follow r.message r.answers start) :
    ∃ texts, List.Forall₂ RecordAt.Shows (r.answers.takeWhile RecordAt.readable) texts ∧
      parseAnswerSection r.message ((r.flags >>> 15) &&& 1) (UInt16.ofNat r.answers.length) start = .ok texts := by
  have size : (UInt16.ofNat r.answers.length).toNat = r.answers.length := UInt16.toNat_ofNat_of_lt' r.counted
  obtain ⟨texts, ends, shows⟩ := parseAnswers_follow follow []
  refine ⟨texts, shows, ?_⟩
  unfold parseAnswerSection
  rw [size, ends, qr_bit r.isResponse]
  split
  · rfl
  · rename_i none_
    have zero : r.answers.length = 0 := by
      rw [← size]
      have : ¬ (0 : UInt16) < UInt16.ofNat r.answers.length := by simpa using none_
      rw [UInt16.lt_iff_toNat_lt] at this
      exact Nat.eq_zero_of_not_pos this
    rw [List.length_eq_zero_iff.mp zero] at shows
    cases shows
    rfl

/-- The answers that are read, each for its record; the first owner name with too many pointers ends them. -/
theorem parseDNSPacket_response (read : r.questionRead) :
    ∃ event, parseDNSPacket env r.message srcIP dstIP srcPort dstPort direction = .ok (some event) ∧
      event.qName = r.question.elim [] (dotted ·.name) ∧ event.qType = r.question.elim [] (queryTypeName ·.qtype) ∧
      List.Forall₂ RecordAt.Shows (r.answers.takeWhile RecordAt.readable) event.answers := by
  obtain ⟨rest, header⟩ := r.header
  obtain ⟨texts, shows, answered⟩ := r.answered _ r.follow
  obtain ⟨event, ends, name, type, given⟩ :=
    parseDNSPacket_given env srcIP dstIP srcPort dstPort direction header (r.asked read) answered
  exact ⟨event, ends, name, type, given ▸ shows⟩

theorem parseDNSPacket_response_lost (lost : ¬ r.questionRead) :
    parseDNSPacket env r.message srcIP dstIP srcPort dstPort direction = .ok none := by
  obtain ⟨rest, header⟩ := r.header
  exact parseDNSPacket_given_up env srcIP dstIP srcPort dstPort direction header (r.asked_in_vain lost)

end

/-! ### A response with one alias -/

def aliasLabels : List Bytes := [ascii "www", ascii "example", ascii "com"]

def aliasHeader : Bytes := packetHeader 1 0x8180 1 1 0 0

/-- The fields of the record that tells what `www.example.com` stands for. -/
def aliasFields (rdata : Bytes) : Bytes :=
  bytes16 5 ++ (bytes16 1 ++ (bytes32 300 ++ (bytes16 (UInt16.ofNat rdata.length) ++ (rdata ++ []))))

/-- The owner name of the record is a pointer to the question. -/
def aliasMessage (rdata : Bytes) : Bytes :=
  aliasHeader ++ (encode aliasLabels ++ (bytes16 1 ++ (bytes16 1 ++ ([0xC0, 12] ++ aliasFields rdata))))

def aliasQuestion : QuestionAt := ⟨aliasLabels, 0, 29, 1, 1⟩

def aliasRecord (rdata : Bytes) : RecordAt where
  owner := aliasLabels
  pointers := 1
  position := 35
  atype := 5
  aclass := 1
  ttl := 300
  rdata := rdata

section
variable (rdata : Bytes)

theorem aliasMessage_name : Resolves (aliasMessage rdata) 0 12 aliasLabels 29 := by
  have proper : ∀ label ∈ aliasLabels, Proper label := by
    unfold Proper
    decide
  exact resolves_encoded proper aliasHeader _

theorem aliasQuestion_lies : aliasQuestion.Lies (aliasMessage rdata) := by
  have question : (aliasHeader ++ encode aliasLabels).length = 29 := by decide
  refine ⟨aliasMessage_name rdata, [0xC0, 12] ++ aliasFields rdata, ?_⟩
  unfold aliasMessage
  rw [← List.append_assoc]
  exact List.drop_left' question

theorem aliasRecord_lies (short : rdata.length < 65536) : (aliasRecord rdata).Lies (aliasMessage rdata) 33 := by
  have name : (aliasHeader ++ encode aliasLabels ++ bytes16 1 ++ bytes16 1 ++ [0xC0, 12]).length = 35 := by decide
  refine ⟨?_, short, [], ?_⟩
  · exact .pointer (by rfl : (aliasMessage rdata)[33]? = some 0xC0) (by decide)
      (by rfl : (aliasMessage rdata)[34]? = some 12) (aliasMessage_name rdata)
  · have before : aliasMessage rdata =
        (aliasHeader ++ encode aliasLabels ++ bytes16 1 ++ bytes16 1 ++ [0xC0, 12]) ++ aliasFields rdata := by
      simp only [aliasMessage, List.append_assoc]
    rw [before]
    exact List.drop_left' name

theorem aliasResponse_asks : ∀ q ∈ some aliasQuestion, q.Lies (aliasMessage rdata) := by
  rintro q ⟨⟩
  exact aliasQuestion_lies rdata

end

def aliasResponse (rdata : Bytes) (short : rdata.length < 65536) : Response where
  message := aliasMessage rdata
  id := 1
  flags := 0x8180
  authorities := 0
  additionals := 0
  question := some aliasQuestion
  answers := [aliasRecord rdata]
  counted := show 1 < 65536 by decide
  isResponse := by decide
  header := ⟨_, rfl⟩
  asks := aliasResponse_asks rdata
  follow := ⟨aliasRecord_lies rdata short, trivial⟩

/-! ### The answers as a whole -/

/-- Every answer of a response is told, in its order, with its owner, type and time to live. -/
theorem parseDNSPacket_tells_answers (env : Surroundings) (r : Response) (srcIP dstIP : Bytes) (srcPort dstPort : UInt16)
    (direction : UInt8) {q : QuestionAt} (asks : r.question = some q) (few : q.pointers ≤ 5)
    (fewer : ∀ record ∈ r.answers, record.pointers ≤ 5) :
    ∃ event, parseDNSPacket env r.message srcIP dstIP srcPort dstPort direction = .ok (some event) ∧
      event.qName = dotted q.name ∧ event.qType = queryTypeName q.qtype ∧
      event.answers.length = r.answers.length ∧
      ∀ (i : Nat) (record : RecordAt) (text : Bytes), r.answers[i]? = some record → event.answers[i]? = some text →
        record.head <+: text := by
  have read : r.questionRead := by
    unfold Response.questionRead
    rw [asks]
    simpa using few
  obtain ⟨event, ends, name, type, shows⟩ := parseDNSPacket_response env r srcIP dstIP srcPort dstPort direction read
  have whole : r.answers.takeWhile RecordAt.readable = r.answers := by
    refine List.takeWhile_eq_self_iff.mpr fun record member => ?_
    simpa [RecordAt.readable] using fewer record member
  rw [asks] at name type
  rw [whole] at shows
  refine ⟨event, ends, name, type, shows.length_eq.symm, ?_⟩
  intro i record text recorded told
  obtain ⟨inside, rfl⟩ := List.getElem?_eq_some_iff.mp recorded
  obtain ⟨inside', rfl⟩ := List.getElem?_eq_some_iff.mp told
  obtain ⟨shown, -, same⟩ := shows.get inside inside'
  exact ⟨shown, same.symm⟩

def quiet : Surroundings := ⟨0, fun _ => false⟩

theorem alias_is_told :
    ∃ event, parseDNSPacket quiet (aliasMessage (encode [ascii "web"])) [] [] 53 40000 1 = .ok (some event) ∧
      event.qName = ascii "www.example.com" ∧ event.answers.length = 1 ∧
      ∀ text, event.answers[0]? = some text → ascii "www.example.com CNAME 300 " <+: text := by
  obtain ⟨event, ends, name, -, length, heads⟩ := parseDNSPacket_tells_answers quiet
    (aliasResponse (encode [ascii "web"]) (by decide)) [] [] 53 40000 1 rfl (by decide)
    (by simp [aliasResponse, aliasRecord])
  refine ⟨event, ends, name.trans (by decide), length, fun text told => ?_⟩
  have start := heads 0 (aliasRecord (encode [ascii "web"])) text rfl told
  rwa [show (aliasRecord (encode [ascii "web"])).head = ascii "www.example.com CNAME 300 " by decide +kernel] at start

end StbEbpf.Protocol
