import StbEbpf.Protocol.MySql

/-!
What a MySQL packet says about itself: the parser stays inside the frame that the header announces, and the verdict on
a statement is compared with the one on its whole text.
-/

namespace StbEbpf.Protocol
open CText Access Words GoStrings

/-! ### Two runs on one body -/

/-- The members that depend on the packet and not on where and when it was seen. -/
def DBEvent.reported (event : DBEvent) : Bytes × Bytes × Bool × Int64 × Nat × Bytes :=
  (event.command, event.query, event.isDangerous, event.affectedRows, event.errorCode, event.errorMsg)

theorem DBEvent.reported_eq {event other : DBEvent} (same : event.reported = other.reported) :
    event.command = other.command ∧ event.query = other.query ∧ event.isDangerous = other.isDangerous ∧
      event.affectedRows = other.affectedRows ∧ event.errorCode = other.errorCode ∧ event.errorMsg = other.errorMsg := by
  simpa [DBEvent.reported] using same

/-- Both runs end, with the same report. -/
def Alike (m n : Checked DBEvent) : Prop :=
  ∃ first second, m = .ok first ∧ n = .ok second ∧ first.reported = second.reported

theorem parseLengthEncodedInt_completes (data : Bytes) (offset : Nat) : Completes (parseLengthEncodedInt data offset) := by
  have marked (count : Nat) : Completes (parseLengthEncodedInt.marked data offset count) := by
    unfold parseLengthEncodedInt.marked
    split
    · exact completes_pure _
    · exact completes_bind (completes_readRange (by omega)) fun _ => completes_pure _
  unfold parseLengthEncodedInt
  split
  · exact completes_pure _
  · refine completes_bind (completes_readAt (by omega)) fun first => ?_
    split
    · exact completes_pure _
    · split
      · exact marked 2
      · split
        · exact marked 3
        · split
          · exact marked 8
          · exact completes_pure _

section
variable {event other : DBEvent} (same : event.reported = other.reported)
include same

theorem response_alike {body : Bytes} (some_ : body ≠ []) :
    Alike (parseMySQLPacket.response event body) (parseMySQLPacket.response other body) := by
  have positive : 0 < body.length := List.length_pos_of_ne_nil some_
  obtain ⟨command, query, dangerous, rows, code, message⟩ := DBEvent.reported_eq same
  obtain ⟨status, read, -⟩ := safe_readAt positive
  unfold parseMySQLPacket.response
  rw [read]
  simp only [ok_bind]
  by_cases fine : status = 0x00
  · simp only [if_pos fine]
    split
    · obtain ⟨⟨offset, affected, found⟩, parsed, -⟩ := parseLengthEncodedInt_completes body 1
      rw [parsed]
      exact ⟨_, _, rfl, rfl, by simp [DBEvent.reported, *]⟩
    · exact ⟨_, _, rfl, rfl, same⟩
  · simp only [if_neg fine]
    split
    · by_cases coded : body.length ≥ 3
      · have number := NetworkOrder.readRange_inside (show 1 + 2 ≤ body.length by omega)
        simp only [if_pos coded, number, Functor.map, Except.map, ok_bind]
        split
        · have text := NetworkOrder.readRange_inside (show 3 + (body.length - 3) ≤ body.length by omega)
          rw [text]
          exact ⟨_, _, rfl, rfl, by simp [DBEvent.reported, *]⟩
        · exact ⟨_, _, rfl, rfl, by simp [DBEvent.reported, *]⟩
      · simp only [if_neg coded, if_neg (show ¬ body.length > 3 by omega)]
        exact ⟨_, _, rfl, rfl, by simp [DBEvent.reported, *]⟩
    · exact ⟨_, _, rfl, rfl, same⟩

theorem request_alike (table : CaseTable) {body : Bytes} (some_ : body ≠ []) :
    Alike (parseMySQLPacket.request table event body) (parseMySQLPacket.request table other body) := by
  have positive : 0 < body.length := List.length_pos_of_ne_nil some_
  obtain ⟨command, query, dangerous, rows, code, message⟩ := DBEvent.reported_eq same
  obtain ⟨cmdType, read, -⟩ := safe_readAt positive
  have text := NetworkOrder.readRange_inside (show 1 + (body.length - 1) ≤ body.length by omega)
  unfold parseMySQLPacket.request
  rw [read, text]
  simp only [ok_bind]
  split
  · split
    · exact ⟨_, _, rfl, rfl, by simp [DBEvent.reported, *]⟩
    · exact ⟨_, _, rfl, rfl, by simp [DBEvent.reported, *]⟩
  · split
    · refine ⟨_, _, rfl, rfl, ?_⟩
      split <;> simp [DBEvent.reported, *]
    · split
      · refine ⟨_, _, rfl, rfl, ?_⟩
        split <;> simp [DBEvent.reported, *]
      · split
        · refine ⟨_, _, rfl, rfl, ?_⟩
          split <;> simp [DBEvent.reported, *]
        · exact ⟨_, _, rfl, rfl, by simp [DBEvent.reported, *]⟩

end

/-! ### The frame -/

/-- Two payloads that agree up to the end of the announced body are framed alike and have the same body. -/
theorem framed_agree {payload other : Bytes}
    (agree : payload.take (4 + announced payload) = other.take (4 + announced payload)) :
    (Framed payload ↔ Framed other) ∧ (Framed payload → frameBody payload = frameBody other) := by
  have lengths := congrArg List.length agree
  rw [List.length_take, List.length_take] at lengths
  by_cases long : 4 + announced payload ≤ payload.length
  · have start : payload.take 3 = other.take 3 := by
      have cut := congrArg (List.take 3) agree
      rwa [List.take_take, List.take_take, Nat.min_eq_left (by omega)] at cut
    have size : announced payload = announced other := congrArg leValue start
    refine ⟨?_, fun _ => ?_⟩
    · unfold Framed
      rw [← size]
      omega
    · have cut := congrArg (List.drop 4) agree
      rw [List.drop_take, List.drop_take, Nat.add_sub_cancel_left] at cut
      rw [frameBody, frameBody, ← size, cut]
  · -- A payload that ends inside the body is the other payload.
    have whole : payload = other := by
      rwa [List.take_of_length_le (by omega), List.take_of_length_le (by omega)] at agree
    subst whole
    exact ⟨Iff.rfl, fun _ => rfl⟩

theorem blankEvent_reported (nowMs : Int) (dbType srcIP dstIP : Bytes) (srcPort dstPort : UInt16) (direction : UInt8) :
    (blankEvent nowMs dbType srcIP dstIP srcPort dstPort direction).reported = ([], [], false, 0, 0, []) := by
  unfold blankEvent
  split <;> rfl

/-- On a framed payload two runs, wherever and whenever the packets are seen, end with the same report. -/
theorem parseMySQLPacket_alike (table : CaseTable) {payload other : Bytes} (framed : Framed payload)
    (agree : payload.take (4 + announced payload) = other.take (4 + announced payload)) (nowMs nowMs' : Int)
    (srcIP dstIP srcIP' dstIP' : Bytes) (srcPort dstPort srcPort' dstPort' : UInt16) (direction : UInt8) :
    ∃ first second, parseMySQLPacket nowMs table payload srcIP dstIP srcPort dstPort direction = .ok (some first) ∧
      parseMySQLPacket nowMs' table other srcIP' dstIP' srcPort' dstPort' direction = .ok (some second) ∧
      first.reported = second.reported := by
  obtain ⟨framing, bodies⟩ := framed_agree agree
  have some_ : frameBody payload ≠ [] := by
    intro empty
    have length := frameBody_length framed
    rw [empty] at length
    exact absurd framed.2.1 (by simp [← length])
  have blank := (blankEvent_reported nowMs (ascii "mysql") srcIP dstIP srcPort dstPort direction).trans
    (blankEvent_reported nowMs' (ascii "mysql") srcIP' dstIP' srcPort' dstPort' direction).symm
  rw [parseMySQLPacket_eq, parseMySQLPacket_eq, if_pos framed, if_pos (framing.mp framed), ← bodies framed]
  by_cases request : direction = 1
  · obtain ⟨first, second, one, two, same⟩ := request_alike blank table some_
    rw [if_pos request, if_pos request, one, two]
    exact ⟨first, second, rfl, rfl, same⟩
  · obtain ⟨first, second, one, two, same⟩ := response_alike blank some_
    rw [if_neg request, if_neg request, one, two]
    exact ⟨first, second, rfl, rfl, same⟩

/-- What a request with a text becomes. -/
theorem request_text (table : CaseTable) (event : DBEvent) (cmd : UInt8) {text : Bytes} (some_ : text ≠ []) :
    ∃ after, parseMySQLPacket.request table event (cmd :: text) = .ok after ∧
      (cmd = 0x03 → after.query = sanitizeSQL text ∧ after.isDangerous = detectDangerousSQL table (sanitizeSQL text)) ∧
      (cmd = 0x16 → after.query = ascii "Prepare: " ++ sanitizeSQL text ∧ after.isDangerous = event.isDangerous) ∧
      (cmd = 0x02 → after.query = ascii "USE " ++ text) ∧
      (cmd = 0x04 → after.query = ascii "FieldList: " ++ text) := by
  have long : (cmd :: text).length > 1 := by
    have positive := List.length_pos_of_ne_nil some_
    rw [List.length_cons]
    omega
  have tail : readRange (cmd :: text) 1 ((cmd :: text).length - 1) = .ok text :=
    NetworkOrder.readRange_at (show (cmd :: text).drop 1 = text ++ [] by simp) rfl (by omega)
  unfold parseMySQLPacket.request
  rw [show readAt (cmd :: text) 0 = .ok cmd from rfl, tail]
  simp only [ok_bind, if_pos long]
  by_cases query : cmd = 0x03
  · rw [if_pos query]
    exact ⟨_, rfl, fun _ => ⟨rfl, rfl⟩, fun same => absurd (query.symm.trans same) (by decide),
      fun same => absurd (query.symm.trans same) (by decide), fun same => absurd (query.symm.trans same) (by decide)⟩
  · rw [if_neg query]
    by_cases prepare : cmd = 0x16
    · rw [if_pos prepare]
      exact ⟨_, rfl, fun same => absurd same query, fun _ => ⟨rfl, rfl⟩,
        fun same => absurd (prepare.symm.trans same) (by decide), fun same => absurd (prepare.symm.trans same) (by decide)⟩
    · rw [if_neg prepare]
      by_cases initDB : cmd = 0x02
      · rw [if_pos initDB]
        exact ⟨_, rfl, fun same => absurd same query, fun same => absurd same prepare, fun _ => rfl,
          fun same => absurd (initDB.symm.trans same) (by decide)⟩
      · rw [if_neg initDB]
        by_cases fieldList : cmd = 0x04
        · rw [if_pos fieldList]
          exact ⟨_, rfl, fun same => absurd same query, fun same => absurd same prepare, fun same => absurd same initDB,
            fun _ => rfl⟩
        · rw [if_neg fieldList]
          exact ⟨_, rfl, fun same => absurd same query, fun same => absurd same prepare, fun same => absurd same initDB,
            fun same => absurd same fieldList⟩

/-- The parser ends on every payload, accepts exactly the framed ones, reports nothing that lies behind the frame, and
the query of a request is the text of its command. -/
theorem mysql_parser_stays_in_frame (table : CaseTable) (payload : Bytes) (nowMs : Int) (srcIP dstIP : Bytes)
    (srcPort dstPort : UInt16) (direction : UInt8) :
    (∃ result, parseMySQLPacket nowMs table payload srcIP dstIP srcPort dstPort direction = .ok result ∧
      (result.isSome ↔ 5 ≤ payload.length ∧ 1 ≤ leValue (payload.take 3) ∧
        leValue (payload.take 3) ≤ payload.length - 4)) ∧
    (∀ (other : Bytes) (nowMs' : Int) (srcIP' dstIP' : Bytes) (srcPort' dstPort' : UInt16),
      payload.take (4 + leValue (payload.take 3)) = other.take (4 + leValue (payload.take 3)) →
      ∃ first second, parseMySQLPacket nowMs table payload srcIP dstIP srcPort dstPort direction = .ok first ∧
        parseMySQLPacket nowMs' table other srcIP' dstIP' srcPort' dstPort' direction = .ok second ∧
        first.map DBEvent.reported = second.map DBEvent.reported) ∧
    ∀ (event : DBEvent) (cmd : UInt8) (text : Bytes), direction = 1 →
      parseMySQLPacket nowMs table payload srcIP dstIP srcPort dstPort direction = .ok (some event) →
      (payload.drop 4).take (leValue (payload.take 3)) = cmd :: text → text ≠ [] →
      (cmd = 0x03 → event.query = if text.length > 200 then text.take 200 ++ ascii "..." else text) ∧
      (cmd = 0x16 → event.query =
        ascii "Prepare: " ++ if text.length > 200 then text.take 200 ++ ascii "..." else text) ∧
      (cmd = 0x02 → event.query = ascii "USE " ++ text) ∧
      (cmd = 0x04 → event.query = ascii "FieldList: " ++ text) := by
  refine ⟨?_, ?_, ?_⟩
  · by_cases framed : Framed payload
    · obtain ⟨first, -, ends, -⟩ := parseMySQLPacket_alike table framed rfl nowMs nowMs srcIP dstIP srcIP dstIP srcPort
        dstPort srcPort dstPort direction
      exact ⟨_, ends, iff_of_true rfl framed⟩
    · rw [parseMySQLPacket_eq, if_neg framed]
      exact ⟨_, rfl, iff_of_false (by simp) framed⟩
  · intro other nowMs' srcIP' dstIP' srcPort' dstPort' agree
    by_cases framed : Framed payload
    · obtain ⟨first, second, one, two, same⟩ := parseMySQLPacket_alike table framed agree nowMs nowMs' srcIP dstIP srcIP'
        dstIP' srcPort dstPort srcPort' dstPort' direction
      exact ⟨_, _, one, two, congrArg some same⟩
    · have framing := (framed_agree agree).1
      rw [parseMySQLPacket_eq, parseMySQLPacket_eq, if_neg framed, if_neg fun there => framed (framing.mpr there)]
      exact ⟨none, none, rfl, rfl, rfl⟩
  · intro event cmd text request accepted body some_
    rw [parseMySQLPacket_eq] at accepted
    by_cases framed : Framed payload
    · rw [if_pos framed, if_pos request, show frameBody payload = cmd :: text from body] at accepted
      obtain ⟨after, ends, query, prepare, initDB, fieldList⟩ :=
        request_text table (blankEvent nowMs (ascii "mysql") srcIP dstIP srcPort dstPort direction) cmd some_
      rw [ends] at accepted
      cases accepted
      exact ⟨fun here => (query here).1, fun here => (prepare here).1, initDB, fieldList⟩
    · rw [if_neg framed] at accepted
      cases accepted

theorem select_stays_in_frame :
    ∃ event, parseMySQLPacket 0 ⟨id, id⟩ (mysqlPacket 0 (0x03 :: ascii "SELECT 1") ++ [0xFF]) [] [] 40000 3306 1 =
        .ok (some event) ∧ event.query = ascii "SELECT 1" := by
  obtain ⟨⟨result, ends, accepts⟩, -, texts⟩ := mysql_parser_stays_in_frame ⟨id, id⟩
    (mysqlPacket 0 (0x03 :: ascii "SELECT 1") ++ [0xFF]) 0 [] [] 40000 3306 1
  obtain ⟨event, rfl⟩ := Option.isSome_iff_exists.mp (accepts.mpr (by decide))
  have query := (texts event 0x03 (ascii "SELECT 1") rfl ends (by decide) (by decide)).1 rfl
  rw [if_neg (by decide)] at query
  exact ⟨event, ends, query⟩

/-! ### The verdict -/

section
variable (table : CaseTable) (sql : Bytes)

/-- A table is dropped or emptied. -/
def Drops : Prop :=
  contains (toUpper table sql) (ascii "DROP ") = true ∨ contains (toUpper table sql) (ascii "TRUNCATE ") = true

/-- Rows are deleted or changed and no condition is seen. -/
def Unguarded : Prop :=
  (contains (toUpper table sql) (ascii "DELETE ") = true ∨ contains (toUpper table sql) (ascii "UPDATE ") = true) ∧
    contains (toUpper table sql) (ascii "WHERE ") = false

theorem detectDangerousSQL_iff : detectDangerousSQL table sql = true ↔ Drops table sql ∨ Unguarded table sql := by
  simp only [detectDangerousSQL, Drops, Unguarded, Bool.or_eq_true, Bool.and_eq_true, Bool.not_eq_true']
  rw [or_assoc, ← or_and_right]

/-- The dots behind a cut text are in none of the words. -/
theorem contains_dots {word : Bytes} (dotless : word.all (· != 46) = true) :
    contains (toUpper table (sql ++ ascii "...")) word = contains (toUpper table sql) word := by
  have dots : ascii "..." = List.replicate 3 46 := rfl
  have low : ∀ byte ∈ List.replicate 3 (46 : UInt8), byte < 0x80 := by simp
  have apart : ∀ byte ∈ word, byte ∉ (List.replicate 3 46).map toUpperAscii := by
    intro byte member inside
    have other := List.all_eq_true.mp dotless byte member
    simp_all [toUpperAscii]
  rw [dots, toUpper_append_low table low]
  unfold contains
  rw [decide_eq_decide]
  exact ⟨infix_append_of_disjoint apart, fun inside => inside.trans (List.prefix_append _ _).isInfix⟩

theorem detectDangerousSQL_dots : detectDangerousSQL table (sql ++ ascii "...") = detectDangerousSQL table sql := by
  have same (word : String) (dotless : (ascii word).all (· != 46) = true) := contains_dots table sql dotless
  unfold detectDangerousSQL
  simp only [same "DROP " (by decide), same "TRUNCATE " (by decide), same "DELETE " (by decide), same "UPDATE " (by decide),
    same "WHERE " (by decide)]

theorem drops_of_take {n : Nat} (found : Drops table (sql.take n)) : Drops table sql := by
  have kept (word : String) (low : (ascii word).all (· < 0x80) = true)
      (shown : contains (toUpper table (sql.take n)) (ascii word) = true) : contains (toUpper table sql) (ascii word) = true :=
    contains_toUpper_take table (by simpa using low) sql n shown
  obtain drop | truncate := found
  · exact .inl (kept "DROP " (by decide) drop)
  · exact .inr (kept "TRUNCATE " (by decide) truncate)

/-- The first 200 bytes tell what the whole text does: if it drops a table they show a danger, if not they show an
unguarded change exactly where there is one. -/
def ShownByStart : Prop :=
  (Drops table sql → Drops table (sql.take 200) ∨ Unguarded table (sql.take 200)) ∧
    (¬ Drops table sql → (Unguarded table (sql.take 200) ↔ Unguarded table sql))

theorem detectDangerousSQL_sanitized_iff :
    detectDangerousSQL table (sanitizeSQL sql) = detectDangerousSQL table sql ↔ ShownByStart table sql := by
  have shown : detectDangerousSQL table (sanitizeSQL sql) = detectDangerousSQL table (sql.take 200) := by
    unfold sanitizeSQL
    split
    · exact detectDangerousSQL_dots table _
    · rw [List.take_of_length_le (by omega)]
  have kept := drops_of_take table sql (n := 200)
  rw [shown, Bool.eq_iff_iff, detectDangerousSQL_iff, detectDangerousSQL_iff]
  unfold ShownByStart
  tauto

end

/-- The two commands that carry a statement. -/
inductive TextCommand where
  | query | stmtPrepare
  deriving DecidableEq, Repr

def TextCommand.code : TextCommand → UInt8
  | .query => 0x03
  | .stmtPrepare => 0x16

/-- Where the verdict on the packet is the verdict on the text. -/
def TextCommand.Judged (table : CaseTable) (sql : Bytes) : TextCommand → Prop
  | .query => ShownByStart table sql
  | .stmtPrepare => ¬ (Drops table sql ∨ Unguarded table sql)

/-- The verdict of the code. -/
theorem request_verdict (table : CaseTable) {event : DBEvent} (blank : event.isDangerous = false) (command : TextCommand)
    (sql : Bytes) :
    ∃ after, parseMySQLPacket.request table event (command.code :: sql) = .ok after ∧
      after.isDangerous = match command with
        | .query => detectDangerousSQL table (sanitizeSQL sql)
        | .stmtPrepare => false := by
  by_cases empty : sql = []
  · subst empty
    refine ⟨{ event with command := mysqlCmdName command.code }, ?_, ?_⟩
    · cases command <;> rfl
    · cases command <;> exact blank
  · obtain ⟨after, ends, query, prepare, -⟩ := request_text table event command.code empty
    refine ⟨after, ends, ?_⟩
    cases command with
    | query => exact (query rfl).2
    | stmtPrepare => exact (prepare rfl).2.trans blank

/-- A query is judged by its first 200 bytes and a prepared statement not at all. -/
theorem verdict_on_whole_text_iff (table : CaseTable) (command : TextCommand) (sql : Bytes) (nowMs : Int) (sequence : UInt8)
    (more srcIP dstIP : Bytes) (srcPort dstPort : UInt16) (short : sql.length + 1 < 2 ^ 24) :
    (∃ event, parseMySQLPacket nowMs table (mysqlPacket sequence (command.code :: sql) ++ more) srcIP dstIP srcPort dstPort 1 =
        .ok (some event) ∧ event.isDangerous = detectDangerousSQL table sql) ↔ command.Judged table sql := by
  have size : (command.code :: sql).length < 2 ^ 24 := short
  have blank : (blankEvent nowMs (ascii "mysql") srcIP dstIP srcPort dstPort 1).isDangerous = false := rfl
  obtain ⟨after, ends, verdict⟩ := request_verdict table blank command sql
  rw [parseMySQLPacket_eq, if_pos (framed_packet sequence size more (List.cons_ne_nil _ _)), if_pos rfl,
    frameBody_packet sequence size more, ends]
  have found : (∃ event, some <$> (.ok after : Checked DBEvent) = .ok (some event) ∧
      event.isDangerous = detectDangerousSQL table sql) ↔ after.isDangerous = detectDangerousSQL table sql := by
    refine ⟨?_, fun same => ⟨after, rfl, same⟩⟩
    rintro ⟨event, same, judged⟩
    cases same
    exact judged
  rw [found, verdict]
  cases command with
  | query => exact detectDangerousSQL_sanitized_iff table sql
  | stmtPrepare => rw [TextCommand.Judged, ← detectDangerousSQL_iff, Bool.not_eq_true, eq_comm]

theorem short_delete_is_judged :
    (ascii "delete from t where id = 1").length + 1 < 2 ^ 24 ∧
      ∃ event, parseMySQLPacket 0 ⟨id, id⟩ (mysqlPacket 0 (0x03 :: ascii "delete from t where id = 1") ++ []) [] [] 40000 3306 1 =
        .ok (some event) ∧ event.isDangerous = detectDangerousSQL ⟨id, id⟩ (ascii "delete from t where id = 1") := by
  have judged := verdict_on_whole_text_iff ⟨id, id⟩ .query (ascii "delete from t where id = 1") 0 0 [] [] [] 40000 3306
    (by decide)
  refine ⟨by decide, judged.mpr ?_⟩
  unfold TextCommand.Judged ShownByStart
  rw [List.take_of_length_le (by decide)]
  exact ⟨.inl, fun _ => Iff.rfl⟩

/-- A statement that is only prepared, and one with its `DROP` behind a long comment, pass for harmless. -/
theorem hidden_drops :
    detectDangerousSQL ⟨id, id⟩ (ascii "DROP TABLE t") = true ∧
      Option.map DBEvent.isDangerous <$> parseMySQLPacket 0 ⟨id, id⟩ (mysqlPacket 0 (0x16 :: ascii "DROP TABLE t"))
        [] [] 40000 3306 1 = .ok (some false) ∧
      detectDangerousSQL ⟨id, id⟩ (List.replicate 200 45 ++ ascii "\nDROP TABLE t") = true ∧
      Option.map DBEvent.isDangerous <$> parseMySQLPacket 0 ⟨id, id⟩
        (mysqlPacket 0 (0x03 :: (List.replicate 200 45 ++ ascii "\nDROP TABLE t"))) [] [] 40000 3306 1 = .ok (some false) := by
  decide +kernel

end StbEbpf.Protocol
