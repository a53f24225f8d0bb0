import StbEbpf.Lib.GoStrings
import StbEbpf.Protocol.Dns

/-!
The MySQL parser of `pkg/protocol/db.go`. Integers of the protocol come in one, three, four or nine bytes; the parser is
compared with that encoding, wherever it stands and wherever the slice ends.
-/

namespace StbEbpf.Protocol
open CText Access Words GoStrings

/-! ### The parser -/

/-- The members of `DBEvent` that the parser sets. -/
structure DBEvent where
  timestamp : Int
  srcIP : Bytes
  dstIP : Bytes
  srcPort : UInt16
  dstPort : UInt16
  dbType : Bytes
  query : Bytes := []
  command : Bytes := []
  affectedRows : Int64 := 0
  errorCode : Nat := 0
  errorMsg : Bytes := []
  isDangerous : Bool := false
  direction : UInt8
  deriving DecidableEq, Repr

/-- In the order of the command bytes, from 0x00 on. -/
def mysqlCmdNames : List String :=
  ["Sleep", "Quit", "InitDB", "Query", "FieldList", "CreateDB", "DropDB", "Refresh", "Shutdown", "Statistics",
    "ProcessInfo", "Connect", "ProcessKill", "Debug", "Ping", "Time", "DelayedInsert", "ChangeUser", "BinlogDump",
    "TableDump", "ConnectOut", "RegisterSlave", "StmtPrepare", "StmtExecute", "StmtSendLongData", "StmtClose",
    "StmtReset", "SetOption", "StmtFetch"]

def mysqlCmdName (cmd : UInt8) : Bytes :=
  match mysqlCmdNames[cmd.toNat]? with
  | some name => ascii name
  | none => ascii "Unknown(0x" ++ hexBytes [cmd] ++ ascii ")"

/-- The cases of `parseLengthEncodedInt` with `count` bytes behind the marker. -/
def parseLengthEncodedInt.marked (data : Bytes) (offset count : Nat) : Checked (Nat × Int64 × Bool) :=
  if offset + (1 + count) > data.length then return (offset, 0, false)
  else do
    let bytes ← readRange data (offset + 1) count
    return (offset + (1 + count), Int64.ofNat (orBytes 0 bytes), true)

def parseLengthEncodedInt (data : Bytes) (offset : Nat) : Checked (Nat × Int64 × Bool) :=
  if offset ≥ data.length then return (offset, 0, false)
  else do
    let first ← readAt data offset
    if first = 0xFB then return (offset + 1, 0, true)
    else if first = 0xFC then parseLengthEncodedInt.marked data offset 2
    else if first = 0xFD then parseLengthEncodedInt.marked data offset 3
    else if first = 0xFE then parseLengthEncodedInt.marked data offset 8
    else return (offset + 1, Int64.ofNat first.toNat, true)

def sanitizeSQL (sql : Bytes) : Bytes := if sql.length > 200 then sql.take 200 ++ ascii "..." else sql

def detectDangerousSQL (table : CaseTable) (sql : Bytes) : Bool :=
  let upper := toUpper table sql
  let without (verb : String) := contains upper (ascii verb) && ! contains upper (ascii "WHERE ")
  contains upper (ascii "DROP ") || contains upper (ascii "TRUNCATE ") || without "DELETE " || without "UPDATE "

/-- The branch for requests. -/
def parseMySQLPacket.request (table : CaseTable) (event : DBEvent) (body : Bytes) : Checked DBEvent := do
  let cmdType ← readAt body 0
  let text ← readRange body 1 (body.length - 1)
  let event := { event with command := mysqlCmdName cmdType }
  if cmdType = 0x03 then
    if body.length > 1 then
      let query := sanitizeSQL text
      return { event with query, isDangerous := detectDangerousSQL table query }
    else return event
  else if cmdType = 0x16 then
    return if body.length > 1 then { event with query := ascii "Prepare: " ++ sanitizeSQL text } else event
  else if cmdType = 0x02 then
    return if body.length > 1 then { event with query := ascii "USE " ++ text } else event
  else if cmdType = 0x04 then
    return if body.length > 1 then { event with query := ascii "FieldList: " ++ text } else event
  else return { event with query := ascii "Cmd(" ++ event.command ++ ascii ")" }

/-- The branch for responses. -/
def parseMySQLPacket.response (event : DBEvent) (body : Bytes) : Checked DBEvent := do
  let status ← readAt body 0
  if status = 0x00 then
    if body.length > 1 then
      let (_, affected, _) ← parseLengthEncodedInt body 1
      return { event with affectedRows := affected }
    else return event
  else if status = 0xFF then
    let errorCode ← if body.length ≥ 3 then orBytes 0 <$> readRange body 1 2 else pure event.errorCode
    let errorMsg ← if body.length > 3 then readRange body 3 (body.length - 3) else pure event.errorMsg
    return { event with errorCode, errorMsg }
  -- An EOF packet and the header of a result set change nothing.
  else return event

def parseMySQLPacket (nowMs : Int) (table : CaseTable) (payload srcIP dstIP : Bytes) (srcPort dstPort : UInt16)
    (direction : UInt8) : Checked (Option DBEvent) :=
  if payload.length < 5 then return none
  else do
    let event : DBEvent :=
      if direction = 1 then
        { timestamp := nowMs, srcIP := dstIP, dstIP := srcIP, srcPort := dstPort, dstPort := srcPort
          dbType := ascii "mysql", direction }
      else { timestamp := nowMs, srcIP, dstIP, srcPort, dstPort, dbType := ascii "mysql", direction }
    let pktLen ← orBytes 0 <$> readRange payload 0 3
    -- The sequence number is read and dropped.
    let _ ← readAt payload 3
    if pktLen = 0 ∨ pktLen > payload.length - 4 then return none
    else
      let body ← readRange payload 4 pktLen
      if body.length < 1 then return none
      else if direction = 1 then some <$> parseMySQLPacket.request table event body
      else some <$> parseMySQLPacket.response event body

/-! ### The encoding -/

/-- How the protocol writes an integer: 0xFB stands for NULL, the markers above it for two, three or eight bytes. -/
def lengthEncoded (v : Nat) : Bytes :=
  if v < 251 then [UInt8.ofNat v]
  else if v < 2 ^ 16 then 0xFC :: leBytes 2 v
  else if v < 2 ^ 24 then 0xFD :: leBytes 3 v
  else 0xFE :: leBytes 8 v

/-- What one byte or a marker and its bytes are. -/
theorem lengthEncoded_cases {v : Nat} (range : v < 2 ^ 63) :
    (∃ first : UInt8, lengthEncoded v = [first] ∧ first.toNat = v ∧ v < 251) ∨
      ∃ marker count, lengthEncoded v = marker :: leBytes count v ∧ v < 256 ^ count ∧
        ((marker = 0xFC ∧ count = 2) ∨ (marker = 0xFD ∧ count = 3) ∨ (marker = 0xFE ∧ count = 8)) := by
  unfold lengthEncoded
  split
  · rename_i one
    exact .inl ⟨UInt8.ofNat v, rfl, UInt8.toNat_ofNat_of_lt' (by show v < 256; omega), one⟩
  · split
    · rename_i two
      exact .inr ⟨0xFC, 2, rfl, two, .inl ⟨rfl, rfl⟩⟩
    · split
      · rename_i three
        exact .inr ⟨0xFD, 3, rfl, three, .inr (.inl ⟨rfl, rfl⟩)⟩
      · exact .inr ⟨0xFE, 8, rfl, range.trans (by decide), .inr (.inr ⟨rfl, rfl⟩)⟩

/-- The switch, told by its marker. -/
theorem parseLengthEncodedInt_marker {marker : UInt8} {count : Nat} (before after : Bytes)
    (known : (marker = 0xFC ∧ count = 2) ∨ (marker = 0xFD ∧ count = 3) ∨ (marker = 0xFE ∧ count = 8)) :
    parseLengthEncodedInt (before ++ marker :: after) before.length =
      parseLengthEncodedInt.marked (before ++ marker :: after) before.length count := by
  have inside : ¬ before.length ≥ (before ++ marker :: after).length := by simp
  unfold parseLengthEncodedInt
  rw [if_neg inside, readAt_middle, ok_bind]
  rcases known with ⟨rfl, rfl⟩ | ⟨rfl, rfl⟩ | ⟨rfl, rfl⟩ <;> rfl

theorem parseLengthEncodedInt_byte {first : UInt8} (small : first.toNat < 251) (before after : Bytes) :
    parseLengthEncodedInt (before ++ first :: after) before.length =
      .ok (before.length + 1, Int64.ofNat first.toNat, true) := by
  have inside : ¬ before.length ≥ (before ++ first :: after).length := by simp
  have other (c : UInt8) (high : 251 ≤ c.toNat) : first ≠ c := by
    rintro rfl
    omega
  unfold parseLengthEncodedInt
  rw [if_neg inside, readAt_middle, ok_bind, if_neg (other 0xFB (by decide)), if_neg (other 0xFC (by decide)),
    if_neg (other 0xFD (by decide)), if_neg (other 0xFE (by decide))]
  rfl

theorem parseLengthEncodedInt_whole {v : Nat} (range : v < 2 ^ 63) (before after : Bytes) :
    parseLengthEncodedInt (before ++ lengthEncoded v ++ after) before.length =
      .ok (before.length + (lengthEncoded v).length, Int64.ofNat v, true) := by
  obtain ⟨first, encoded, value, small⟩ | ⟨marker, count, encoded, fits, known⟩ := lengthEncoded_cases range
  · rw [encoded, List.append_assoc, List.singleton_append, parseLengthEncodedInt_byte (by omega), value]
    rfl
  · have here : (before ++ marker :: (leBytes count v ++ after)).drop (before.length + 1) = leBytes count v ++ after := by
      rw [List.drop_append]
      simp
    have length : (before ++ marker :: (leBytes count v ++ after)).length = before.length + (1 + count) + after.length := by
      simp only [List.length_append, List.length_cons, leBytes_length]
      omega
    have read := NetworkOrder.readRange_at here (leBytes_length count v) (by omega)
    rw [encoded, List.append_assoc, List.cons_append, parseLengthEncodedInt_marker _ _ known,
      parseLengthEncodedInt.marked, if_neg (by omega), read, ok_bind, orBytes_eq, leValue_of_lt fits, List.length_cons,
      leBytes_length, Nat.add_comm count]
    rfl

theorem parseLengthEncodedInt_cut {v : Nat} (range : v < 2 ^ 63) (before : Bytes) {cut : Nat}
    (short : cut < (lengthEncoded v).length) :
    parseLengthEncodedInt (before ++ (lengthEncoded v).take cut) before.length = .ok (before.length, 0, false) := by
  cases cut with
  | zero =>
    unfold parseLengthEncodedInt
    rw [List.take_zero, List.append_nil, if_pos (Nat.le_refl _)]
    rfl
  | succ cut =>
    obtain ⟨first, encoded, -⟩ | ⟨marker, count, encoded, -, known⟩ := lengthEncoded_cases range
    · rw [encoded] at short
      exact absurd short (by simp)
    · rw [encoded, List.length_cons, leBytes_length] at short
      have length : (before ++ marker :: (leBytes count v).take cut).length = before.length + (1 + cut) := by
        simp only [List.length_append, List.length_cons, List.length_take, leBytes_length]
        omega
      rw [encoded, List.take_succ_cons, parseLengthEncodedInt_marker _ _ known, parseLengthEncodedInt.marked,
        if_pos (by omega)]
      rfl

/-! ### Framing -/

/-- The length that the header gives. -/
def announced (payload : Bytes) : Nat := leValue (payload.take 3)

/-- A body of at least one byte lies inside the payload. -/
def Framed (payload : Bytes) : Prop :=
  5 ≤ payload.length ∧ 1 ≤ announced payload ∧ announced payload ≤ payload.length - 4

instance (payload : Bytes) : Decidable (Framed payload) := by
  unfold Framed
  infer_instance

def frameBody (payload : Bytes) : Bytes := (payload.drop 4).take (announced payload)

/-- The event as it is before the body is read. -/
def blankEvent (nowMs : Int) (dbType srcIP dstIP : Bytes) (srcPort dstPort : UInt16) (direction : UInt8) : DBEvent :=
  if direction = 1 then
    { timestamp := nowMs, srcIP := dstIP, dstIP := srcIP, srcPort := dstPort, dstPort := srcPort, dbType, direction }
  else { timestamp := nowMs, srcIP, dstIP, srcPort, dstPort, dbType, direction }

theorem frameBody_length {payload : Bytes} (framed : Framed payload) : (frameBody payload).length = announced payload := by
  obtain ⟨-, -, inside⟩ := framed
  rw [frameBody, List.length_take, List.length_drop]
  omega

/-- What the header decides: the body of a framed payload goes to the branch of its direction. -/
theorem parseMySQLPacket_eq (nowMs : Int) (table : CaseTable) (payload srcIP dstIP : Bytes) (srcPort dstPort : UInt16)
    (direction : UInt8) :
    parseMySQLPacket nowMs table payload srcIP dstIP srcPort dstPort direction =
      if Framed payload then
        some <$> if direction = 1 then
            parseMySQLPacket.request table (blankEvent nowMs (ascii "mysql") srcIP dstIP srcPort dstPort direction)
              (frameBody payload)
          else
            parseMySQLPacket.response (blankEvent nowMs (ascii "mysql") srcIP dstIP srcPort dstPort direction)
              (frameBody payload)
      else .ok none := by
  unfold parseMySQLPacket
  by_cases short : payload.length < 5
  · rw [if_pos short, if_neg fun framed => absurd framed.1 (by omega)]
    rfl
  · have size : readRange payload 0 3 = .ok (payload.take 3) := NetworkOrder.readRange_inside (by omega)
    obtain ⟨sequence, number, -⟩ := safe_readAt (show 3 < payload.length by omega)
    rw [if_neg short, size]
    simp only [Functor.map, Except.map, ok_bind, number, orBytes_eq]
    rw [show leValue (payload.take 3) = announced payload from rfl]
    by_cases framed : Framed payload
    · have length := frameBody_length framed
      have content : readRange payload 4 (announced payload) = .ok (frameBody payload) :=
        NetworkOrder.readRange_inside (by have := framed.2.2; omega)
      rw [if_pos framed]
      obtain ⟨-, some_, inside⟩ := framed
      rw [if_neg (by omega), content, ok_bind, if_neg (by omega)]
      by_cases request : direction = 1
      · simp only [blankEvent, if_pos request]
      · simp only [blankEvent, if_neg request]
    · rw [if_neg framed, if_pos]
      · rfl
      · unfold Framed at framed
        omega

/-- A packet as it is sent: three bytes of length, the sequence number and the body. -/
def mysqlPacket (sequence : UInt8) (body : Bytes) : Bytes := leBytes 3 body.length ++ sequence :: body

section
variable (sequence : UInt8) {body : Bytes} (short : body.length < 2 ^ 24) (more : Bytes)
include short

theorem announced_packet : announced (mysqlPacket sequence body ++ more) = body.length := by
  have header : (mysqlPacket sequence body ++ more).take 3 = leBytes 3 body.length := rfl
  rw [announced, header]
  exact leValue_of_lt short

theorem framed_packet (some_ : body ≠ []) : Framed (mysqlPacket sequence body ++ more) := by
  have positive : 0 < body.length := List.length_pos_of_ne_nil some_
  have length : (mysqlPacket sequence body ++ more).length = 4 + body.length + more.length := by
    simp only [mysqlPacket, List.length_append, List.length_cons, leBytes_length]
    omega
  unfold Framed
  rw [announced_packet sequence short more]
  omega

theorem frameBody_packet : frameBody (mysqlPacket sequence body ++ more) = body := by
  rw [frameBody, announced_packet sequence short more]
  exact List.take_left

end

/-! ### OK packets -/

/-- The body of an OK packet: what follows the rows are the last insert id, the status and the warnings. -/
def okBody (rows : Nat) (rest : Bytes) : Bytes := 0x00 :: (lengthEncoded rows ++ rest)

/-- A response packet at the start of the payload is found and its body is parsed. -/
theorem parseMySQLPacket_response (nowMs : Int) (table : CaseTable) (sequence : UInt8) {body : Bytes} (some_ : body ≠ [])
    (short : body.length < 2 ^ 24) (more srcIP dstIP : Bytes) (srcPort dstPort : UInt16) {direction : UInt8}
    (response : direction ≠ 1) :
    parseMySQLPacket nowMs table (mysqlPacket sequence body ++ more) srcIP dstIP srcPort dstPort direction =
      some <$> parseMySQLPacket.response
        { timestamp := nowMs, srcIP, dstIP, srcPort, dstPort, dbType := ascii "mysql", direction } body := by
  rw [parseMySQLPacket_eq, if_pos (framed_packet sequence short more some_), if_neg response,
    frameBody_packet sequence short more, blankEvent, if_neg response]

theorem parseMySQLPacket_ok {rows : Nat} (range : rows < 2 ^ 63) (event : DBEvent) (rest : Bytes) :
    parseMySQLPacket.response event (okBody rows rest) = .ok { event with affectedRows := Int64.ofNat rows } := by
  have parsed := parseLengthEncodedInt_whole range [0x00] rest
  have long : 1 < (okBody rows rest).length := by
    obtain ⟨first, encoded, -⟩ | ⟨marker, count, encoded, -⟩ := lengthEncoded_cases range <;>
      simp [okBody, encoded]
  unfold parseMySQLPacket.response
  rw [show readAt (okBody rows rest) 0 = .ok 0x00 from rfl, ok_bind, if_pos rfl, if_pos long,
    show parseLengthEncodedInt (okBody rows rest) 1 = _ from parsed, ok_bind]
  rfl

/-- Integers below 2^63 are read wherever they stand, an integer that is cut off is not, and the rows of an OK packet
arrive in the event. -/
theorem length_encoded_integers_round_trip (v : Nat) (range : v < 2 ^ 63) (before after : Bytes) :
    (∃ value : Int64, parseLengthEncodedInt (before ++ lengthEncoded v ++ after) before.length =
        .ok (before.length + (lengthEncoded v).length, value, true) ∧ value.toInt = v) ∧
      (∀ cut < (lengthEncoded v).length, ∃ value : Int64,
        parseLengthEncodedInt (before ++ (lengthEncoded v).take cut) before.length = .ok (before.length, value, false)) ∧
      ∀ (nowMs : Int) (table : CaseTable) (sequence : UInt8) (rest more srcIP dstIP : Bytes) (srcPort dstPort : UInt16)
        (direction : UInt8), direction ≠ 1 → (okBody v rest).length < 2 ^ 24 →
        ∃ event, parseMySQLPacket nowMs table (mysqlPacket sequence (okBody v rest) ++ more) srcIP dstIP srcPort dstPort
          direction = .ok (some event) ∧ event.affectedRows.toInt = v := by
  have signed : (Int64.ofNat v).toInt = v := Int64.toInt_ofNat_of_lt range
  refine ⟨⟨_, parseLengthEncodedInt_whole range before after, signed⟩, ?_, ?_⟩
  · intro cut short
    exact ⟨0, parseLengthEncodedInt_cut range before short⟩
  · intro nowMs table sequence rest more srcIP dstIP srcPort dstPort direction response short
    have some_ : okBody v rest ≠ [] := List.cons_ne_nil _ _
    rw [parseMySQLPacket_response nowMs table sequence some_ short more srcIP dstIP srcPort dstPort response,
      parseMySQLPacket_ok range]
    exact ⟨_, rfl, signed⟩

theorem three_hundred_rows_round_trip :
    300 < 2 ^ 63 ∧ okBody 300 [0, 2, 0] = [0x00, 0xFC, 0x2C, 0x01, 0, 2, 0] ∧
      (∃ value : Int64, parseLengthEncodedInt [0, 0xFC, 0x2C, 0x01, 2] 1 = .ok (4, value, true) ∧ value.toInt = 300) ∧
      ∃ event, parseMySQLPacket 0 ⟨id, id⟩ (mysqlPacket 1 (okBody 300 [0, 2, 0]) ++ []) [] [] 3306 40000 0 =
        .ok (some event) ∧ event.affectedRows.toInt = 300 := by
  obtain ⟨read, -, reported⟩ := length_encoded_integers_round_trip 300 (by decide) [0] [2]
  exact ⟨by decide, by decide, read, reported 0 ⟨id, id⟩ 1 [0, 2, 0] [] [] [] 3306 40000 0 (by decide) (by decide)⟩

end StbEbpf.Protocol
