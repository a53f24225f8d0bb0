import StbEbpf.Protocol.MySql

/-!
The RESP parser of `pkg/protocol/db.go`. It takes a payload apart at its line ends and ignores the lengths in it, while
the protocol counts bytes; the two are compared on commands with any bytes in them.
-/

namespace StbEbpf.Protocol
open CText Access GoStrings

/-! ### The parser -/

def detectDangerousRedis.dangerous : List Bytes :=
  [ascii "FLUSHALL", ascii "FLUSHDB", ascii "SHUTDOWN", ascii "DEBUG", ascii "CONFIG", ascii "SAVE", ascii "BGREWRITEAOF"]

/-- The query is handed over and not looked at. -/
def detectDangerousRedis (table : CaseTable) (cmd _query : Bytes) : Bool :=
  let upper := toUpper table cmd
  detectDangerousRedis.dangerous.any fun d => upper = d || hasPrefix upper (d ++ ascii " ")

/-- Every second part, trimmed; the empty ones are left out before that. -/
def parseRedisPacket.cmdParts : List Bytes → List Bytes
  | [] => []
  | [part] => if part.length > 0 then [trimSpace part] else []
  | part :: _ :: rest => if part.length > 0 then trimSpace part :: cmdParts rest else cmdParts rest

def parseRedisPacket.array (table : CaseTable) (event : DBEvent) (payload : Bytes) : DBEvent :=
  match splitPair 13 10 [] payload with
  | _ :: _ :: name :: rest =>
    let command := toUpper table (trimSpace name)
    let query := join 32 (cmdParts (name :: rest))
    { event with command, query, isDangerous := detectDangerousRedis table command query }
  | _ => event

def parseRedisPacket (nowMs : Int) (table : CaseTable) (payload srcIP dstIP : Bytes) (srcPort dstPort : UInt16)
    (direction : UInt8) : Checked (Option DBEvent) :=
  if payload.length < 1 then return none
  else do
    let event := blankEvent nowMs (ascii "redis") srcIP dstIP srcPort dstPort direction
    let kind ← readAt payload 0
    let text ← readRange payload 1 (payload.length - 1)
    if kind = 42 then return some (parseRedisPacket.array table event payload)
    else if kind = 43 then return some { event with query := ascii "OK" }
    else if kind = 45 then return some { event with query := text, errorCode := 1 }
    else if kind = 58 then
      match sscanfInt text with
      | some value => return some { event with query := text, affectedRows := Int64.ofInt value }
      | none => return some { event with query := text }
    else if kind = 36 then return some { event with query := ascii "BulkString" }
    else return some { event with query := ← readRange payload 0 (min 50 payload.length) }

/-! ### The encoding -/

def respBulk (arg : Bytes) : Bytes := 36 :: (decimal arg.length ++ 13 :: 10 :: (arg ++ [13, 10]))

def respArray (args : List Bytes) : Bytes := 42 :: (decimal args.length ++ 13 :: 10 :: args.flatMap respBulk)

theorem header_unbroken {mark : UInt8} (other : mark ≠ 13) (n : Nat) : ¬ [13, 10] <:+: mark :: decimal n := by
  intro inside
  have member : (13 : UInt8) ∈ mark :: decimal n := inside.subset List.mem_cons_self
  rcases List.mem_cons.mp member with same | digit
  · exact other same.symm
  · exact absurd (decimal_digits digit) (by decide)

/-- The mark and the number of a header are a line of their own. -/
theorem splitPair_header {mark : UInt8} (other : mark ≠ 13) (n : Nat) (rest : Bytes) :
    splitPair 13 10 [] (mark :: (decimal n ++ 13 :: 10 :: rest)) = (mark :: decimal n) :: splitPair 13 10 [] rest :=
  splitPair_append (by decide) (header_unbroken other n) [] rest

theorem splitPair_bulks {args : List Bytes} (unbroken : ∀ arg ∈ args, ¬ [13, 10] <:+: arg) (rest : Bytes) :
    splitPair 13 10 [] (args.flatMap respBulk ++ rest) =
      args.flatMap (fun arg => [36 :: decimal arg.length, arg]) ++ splitPair 13 10 [] rest := by
  induction args with
  | nil => rfl
  | cons arg args ih =>
    obtain ⟨here, later⟩ := List.forall_mem_cons.mp unbroken
    have whole : (arg :: args).flatMap respBulk ++ rest =
        36 :: (decimal arg.length ++ 13 :: 10 :: (arg ++ 13 :: 10 :: (args.flatMap respBulk ++ rest))) := by
      simp [respBulk]
    rw [whole, splitPair_header (by decide), splitPair_append (by decide) here, ih later]
    rfl

/-- The part of a name that the parser takes for the command. -/
def firstLine (name : Bytes) : Bytes := ((splitPair 13 10 [] name).head?).getD []

theorem firstLine_unbroken {name : Bytes} (unbroken : ¬ [13, 10] <:+: name) : firstLine name = name := by
  have cut := head_splitPair_append (by decide : (13 : UInt8) ≠ 10) [] name []
  rw [splitPair_append (by decide) unbroken] at cut
  unfold firstLine
  rw [← cut]
  rfl

/-- What becomes of a payload that starts with a command. -/
theorem parseRedisPacket_command (nowMs : Int) (table : CaseTable) (name : Bytes) (args : List Bytes)
    (rest srcIP dstIP : Bytes) (srcPort dstPort : UInt16) (direction : UInt8) :
    ∃ event, parseRedisPacket nowMs table (respArray (name :: args) ++ rest) srcIP dstIP srcPort dstPort direction =
        .ok (some event) ∧
      event.command = toUpper table (trimSpace (firstLine name)) ∧
      event.query = join 32 (parseRedisPacket.cmdParts
        (splitPair 13 10 [] (name ++ 13 :: 10 :: (args.flatMap respBulk ++ rest)))) ∧
      event.isDangerous = detectDangerousRedis table event.command event.query := by
  obtain ⟨tail, payload⟩ : ∃ tail, respArray (name :: args) ++ rest = 42 :: tail := ⟨_, rfl⟩
  have lines : splitPair 13 10 [] (42 :: tail) = (42 :: decimal (name :: args).length) :: (36 :: decimal name.length) ::
      splitPair 13 10 [] (name ++ 13 :: 10 :: (args.flatMap respBulk ++ rest)) := by
    rw [← payload, show respArray (name :: args) ++ rest = 42 :: (decimal (name :: args).length ++ 13 :: 10 ::
      (36 :: (decimal name.length ++ 13 :: 10 :: (name ++ 13 :: 10 :: (args.flatMap respBulk ++ rest))))) by
        simp [respArray, respBulk], splitPair_header (by decide), splitPair_header (by decide)]
  have text : readRange (42 :: tail) 1 ((42 :: tail).length - 1) = .ok tail :=
    NetworkOrder.readRange_at (show (42 :: tail).drop 1 = tail ++ [] by simp) rfl (by simp)
  have first := head_splitPair_append (by decide : (13 : UInt8) ≠ 10) [] name (args.flatMap respBulk ++ rest)
  rw [payload]
  unfold parseRedisPacket
  rw [if_neg (by simp), show readAt (42 :: tail) 0 = .ok 42 from rfl, ok_bind, text, ok_bind, if_pos rfl]
  refine ⟨_, rfl, ?_⟩
  cases parts : splitPair 13 10 [] (name ++ 13 :: 10 :: (args.flatMap respBulk ++ rest)) with
  | nil => exact absurd parts (splitPair_ne_nil _ _)
  | cons line more =>
    rw [parts, List.head?_cons] at first
    rw [parts] at lines
    have same : firstLine name = line := by rw [firstLine, ← first]; rfl
    simp only [parseRedisPacket.array, lines, same, and_self]

/-! ### Command and query -/

theorem cmdParts_arguments {name : Bytes} {args : List Bytes} (visible : ∀ arg ∈ name :: args, trimSpace arg = arg) :
    parseRedisPacket.cmdParts (name :: (args.flatMap (fun arg => [36 :: decimal arg.length, arg]) ++ [[]])) =
      (name :: args).filter (· ≠ []) := by
  induction args generalizing name with
  | nil =>
    have same := visible name List.mem_cons_self
    cases name <;> simp_all [parseRedisPacket.cmdParts]
  | cons arg args ih =>
    obtain ⟨same, later⟩ := List.forall_mem_cons.mp visible
    rw [List.flatMap_cons, List.append_assoc, List.cons_append, List.singleton_append, parseRedisPacket.cmdParts, ih later]
    cases name <;> simp_all

/-- Every part of the query is inside one of the lines. -/
theorem cmdParts_infix {parts : List Bytes} {found : Bytes} (member : found ∈ parseRedisPacket.cmdParts parts) :
    ∃ part ∈ parts, found <:+: part := by
  fun_induction parseRedisPacket.cmdParts parts with
  | case1 => cases member
  | case2 part some_ =>
    rw [List.mem_singleton.mp member]
    exact ⟨part, List.mem_cons_self, trimSpace_infix part⟩
  | case3 => cases member
  | case4 part _ rest some_ ih =>
    rcases List.mem_cons.mp member with rfl | later
    · exact ⟨part, List.mem_cons_self, trimSpace_infix part⟩
    · obtain ⟨other, inside, here⟩ := ih later
      exact ⟨other, by simp [inside], here⟩
  | case5 part _ rest none_ ih =>
    obtain ⟨other, inside, here⟩ := ih member
    exact ⟨other, by simp [inside], here⟩

/-- A query has no line end in it, whatever the payload. -/
theorem query_unbroken (text : Bytes) : ¬ [13, 10] <:+: join 32 (parseRedisPacket.cmdParts (splitPair 13 10 [] text)) := by
  intro inside
  obtain ⟨found, member, here⟩ := infix_of_join (by simp) (by decide) inside
  obtain ⟨part, line, whole⟩ := cmdParts_infix member
  refine splitPair_unbroken ?_ part line (here.trans whole)
  intro short
  exact absurd short.length_le (by simp)

theorem sum_filter_lt {args : List Bytes} (member : [] ∈ args) :
    ((args.filter (· ≠ [])).map fun arg : Bytes => arg.length + 1).sum < (args.map fun arg : Bytes => arg.length + 1).sum := by
  have smaller (args : List Bytes) : ((args.filter (· ≠ [])).map fun arg : Bytes => arg.length + 1).sum ≤
      (args.map fun arg : Bytes => arg.length + 1).sum :=
    (List.filter_sublist.map _).sum_le_sum fun _ _ => Nat.zero_le _
  obtain ⟨before, after, rfl⟩ := List.append_of_mem member
  have left := smaller before
  have right := smaller after
  rw [List.filter_append, List.filter_cons_of_neg (by simp), List.map_append, List.map_append, List.sum_append,
    List.sum_append, List.map_cons, List.sum_cons]
  omega

/-- Leaving out the empty arguments shows in the joined text, unless one is all there is. -/
theorem join_filter_iff (name : Bytes) (args : List Bytes) :
    join 32 ((name :: args).filter (· ≠ [])) = join 32 (name :: args) ↔ name :: args = [[]] ∨ [] ∉ name :: args := by
  constructor
  · intro same
    by_cases member : [] ∈ name :: args
    · left
      by_cases empty : (name :: args).filter (· ≠ []) = []
      · rw [empty] at same
        by_cases alone : args = []
        · subst alone
          rw [join_single] at same
          rw [← same]
          rfl
        · rw [join_cons name alone] at same
          exact absurd same (by simp [join, List.intercalate])
      · have fewer := sum_filter_lt member
        have kept : (join 32 ((name :: args).filter (· ≠ []))).length + 1 = _ := join_length empty
        have whole : (join 32 (name :: args)).length + 1 = _ := join_length (List.cons_ne_nil _ _)
        rw [same] at kept
        exact absurd (kept.symm.trans whole) (Nat.ne_of_lt fewer)
    · exact .inr member
  · rintro (alone | absent)
    · rw [alone]
      rfl
    · have all : (name :: args).filter (· ≠ []) = name :: args := by
        rw [List.filter_eq_self]
        intro arg member
        simpa using fun empty : arg = [] => absent (empty ▸ member)
      rw [all]

/-- The command and the query are right exactly if no argument has a line end in it and none is empty, one that stands
alone apart. -/
theorem resp_command_and_query_iff (table : CaseTable) (name : Bytes) (args : List Bytes)
    (visible : ∀ arg ∈ name :: args, NoOuterSpace arg) (nowMs : Int) (srcIP dstIP : Bytes) (srcPort dstPort : UInt16)
    (direction : UInt8) :
    (∃ event, parseRedisPacket nowMs table (respArray (name :: args)) srcIP dstIP srcPort dstPort direction =
        .ok (some event) ∧ event.command = toUpper table name ∧ event.query = join 32 (name :: args)) ↔
      (∀ arg ∈ name :: args, ¬ [13, 10] <:+: arg) ∧ (name :: args = [[]] ∨ [] ∉ name :: args) := by
  obtain ⟨event, parsed, command, query, -⟩ :=
    parseRedisPacket_command nowMs table name args [] srcIP dstIP srcPort dstPort direction
  rw [List.append_nil] at parsed query
  have trimmed : ∀ arg ∈ name :: args, trimSpace arg = arg := fun arg member =>
    trimSpace_of_noOuterSpace (visible arg member)
  have joined (unbroken : ∀ arg ∈ name :: args, ¬ [13, 10] <:+: arg) :
      event.query = join 32 ((name :: args).filter (· ≠ [])) := by
    obtain ⟨here, later⟩ := List.forall_mem_cons.mp unbroken
    have lines := splitPair_bulks later []
    rw [List.append_nil, splitPair] at lines
    rw [query, splitPair_append (by decide) here, lines, List.nil_append, cmdParts_arguments trimmed]
  constructor
  · rintro ⟨other, again, -, same⟩
    obtain rfl : event = other := by
      rw [parsed] at again
      exact Option.some.inj (Except.ok.inj again)
    have unbroken : ∀ arg ∈ name :: args, ¬ [13, 10] <:+: arg := by
      intro arg member inside
      rw [query] at same
      exact query_unbroken _ (same ▸ inside.trans (infix_join member))
    rw [joined unbroken, join_filter_iff] at same
    exact ⟨unbroken, same⟩
  · rintro ⟨unbroken, full⟩
    refine ⟨event, parsed, ?_, ?_⟩
    · rw [command, firstLine_unbroken (unbroken name List.mem_cons_self), trimmed name List.mem_cons_self]
    · rw [joined unbroken, join_filter_iff]
      exact full

theorem set_command_round_trips :
    (∀ arg ∈ [ascii "set", ascii "k", ascii "a b"], NoOuterSpace arg) ∧
      ∃ event, parseRedisPacket 0 ⟨id, id⟩ (respArray [ascii "set", ascii "k", ascii "a b"]) [] [] 40000 6379 1 =
        .ok (some event) ∧ event.command = ascii "SET" ∧ event.query = ascii "set k a b" := by
  have visible : ∀ arg ∈ [ascii "set", ascii "k", ascii "a b"], NoOuterSpace arg := by decide +kernel
  have exact_ := resp_command_and_query_iff ⟨id, id⟩ (ascii "set") [ascii "k", ascii "a b"] visible 0 [] [] 40000 6379 1
  obtain ⟨event, parsed, command, query⟩ := exact_.mpr (by decide +kernel)
  exact ⟨visible, event, parsed, command, query⟩

/-- A value with a line end in it and an empty value. -/
theorem values_lost :
    (∀ arg ∈ [ascii "SET", ascii "k", ascii "a\r\nb"], NoOuterSpace arg) ∧
      Option.map DBEvent.query <$> parseRedisPacket 0 ⟨id, id⟩ (respArray [ascii "SET", ascii "k", ascii "a\r\nb"])
        [] [] 40000 6379 1 = .ok (some (ascii "SET k a")) ∧
      join 32 [ascii "SET", ascii "k", ascii "a\r\nb"] = ascii "SET k a\r\nb" ∧
      (∀ arg ∈ [ascii "SET", ascii "k", []], NoOuterSpace arg) ∧
      Option.map DBEvent.query <$> parseRedisPacket 0 ⟨id, id⟩ (respArray [ascii "SET", ascii "k", []])
        [] [] 40000 6379 1 = .ok (some (ascii "SET k")) ∧
      join 32 [ascii "SET", ascii "k", []] = ascii "SET k " := by
  decide +kernel

/-! ### Pipelines -/

/-- A command is not empty: its name comes first. -/
structure RespCommand where
  name : Bytes
  args : List Bytes
  deriving DecidableEq, Repr

def RespCommand.encoded (c : RespCommand) : Bytes := respArray (c.name :: c.args)

def respPipeline (commands : List RespCommand) : Bytes := commands.flatMap RespCommand.encoded

/-- A name on the list, in letters of either case. -/
def DangerousName (name : Bytes) : Prop := name.map toUpperAscii ∈ detectDangerousRedis.dangerous

/-- What the code takes for one: the first line of the name, trimmed, is on the list or goes on with a space. -/
def TakenForDangerous (table : CaseTable) (name : Bytes) : Prop :=
  let upper := toUpper table (toUpper table (trimSpace (firstLine name)))
  ∃ d ∈ detectDangerousRedis.dangerous, upper = d ∨ d ++ ascii " " <+: upper

theorem detectDangerousRedis_iff (table : CaseTable) (name query : Bytes) :
    detectDangerousRedis table (toUpper table (trimSpace (firstLine name))) query = true ↔ TakenForDangerous table name := by
  simp only [detectDangerousRedis, TakenForDangerous, List.any_eq_true, Bool.or_eq_true, decide_eq_true_eq, hasPrefix,
    List.isPrefixOf_iff_prefix]

theorem toUpper_ascii (table : CaseTable) {low : Bytes} (ascii : ∀ byte ∈ low, byte < 0x80) :
    toUpper table low = low.map toUpperAscii :=
  toUpper_append_low table ascii []

theorem taken_of_dangerous (table : CaseTable) {name : Bytes} (dangerous : DangerousName name) : TakenForDangerous table name := by
  have letters : ∀ d ∈ detectDangerousRedis.dangerous, d.all (fun byte => 65 ≤ byte && byte ≤ 90) = true := by decide +kernel
  have letter : ∀ byte : UInt8, 65 ≤ toUpperAscii byte ∧ toUpperAscii byte ≤ 90 →
      byte < 0x80 ∧ Access.isSpace byte = false ∧ byte ≠ 13 ∧ toUpperAscii (toUpperAscii byte) = toUpperAscii byte := by
    decide +kernel
  have known : ∀ byte ∈ name, byte < 0x80 ∧ Access.isSpace byte = false ∧ byte ≠ 13 ∧
      toUpperAscii (toUpperAscii byte) = toUpperAscii byte := by
    intro byte member
    have upper := List.all_eq_true.mp (letters _ dangerous) _ (List.mem_map_of_mem member)
    exact letter byte (by simpa using upper)
  have unbroken : ¬ [13, 10] <:+: name := fun inside => (known 13 (inside.subset List.mem_cons_self)).2.2.1 rfl
  have low : ∀ byte ∈ name.map toUpperAscii, byte < 0x80 := by
    intro byte member
    obtain ⟨source, inside, rfl⟩ := List.mem_map.mp member
    have upper := List.all_eq_true.mp (letters _ dangerous) _ member
    have bound : toUpperAscii source ≤ 90 := by simpa using (Bool.and_eq_true_iff.mp upper).2
    exact UInt8.lt_of_le_of_lt bound (by decide)
  refine ⟨_, dangerous, .inl ?_⟩
  rw [firstLine_unbroken unbroken, trimSpace_token (fun byte member => (known byte member).1)
    (fun byte member => (known byte member).2.1), toUpper_ascii table fun byte member => (known byte member).1,
    toUpper_ascii table low, List.map_map]
  exact List.map_congr_left fun byte member => (known byte member).2.2.2

/-- The verdict on a pipeline is that on its first name. -/
theorem respPipeline_verdict (nowMs : Int) (table : CaseTable) (first : RespCommand) (rest : List RespCommand)
    (srcIP dstIP : Bytes) (srcPort dstPort : UInt16) (direction : UInt8) :
    ∃ event, parseRedisPacket nowMs table (respPipeline (first :: rest)) srcIP dstIP srcPort dstPort direction =
      .ok (some event) ∧ (event.isDangerous = true ↔ TakenForDangerous table first.name) := by
  obtain ⟨event, parsed, command, -, verdict⟩ :=
    parseRedisPacket_command nowMs table first.name first.args (respPipeline rest) srcIP dstIP srcPort dstPort direction
  refine ⟨event, parsed, ?_⟩
  rw [verdict, command]
  exact detectDangerousRedis_iff ..

/-- The verdict is right exactly if the first name is on the list, or is taken for one of them exactly where a later
name is. The arguments never matter. -/
theorem pipeline_verdict_iff (table : CaseTable) (first : RespCommand) (rest : List RespCommand) (nowMs : Int)
    (srcIP dstIP : Bytes) (srcPort dstPort : UInt16) (direction : UInt8) :
    ((∃ event, parseRedisPacket nowMs table (respPipeline (first :: rest)) srcIP dstIP srcPort dstPort direction =
        .ok (some event) ∧ (event.isDangerous = true ↔ ∃ c ∈ first :: rest, DangerousName c.name)) ∧
      ∀ others : List RespCommand, others.map RespCommand.name = (first :: rest).map RespCommand.name →
        Option.map DBEvent.isDangerous <$>
            parseRedisPacket nowMs table (respPipeline others) srcIP dstIP srcPort dstPort direction =
          Option.map DBEvent.isDangerous <$>
            parseRedisPacket nowMs table (respPipeline (first :: rest)) srcIP dstIP srcPort dstPort direction) ↔
      DangerousName first.name ∨ (TakenForDangerous table first.name ↔ ∃ c ∈ rest, DangerousName c.name) := by
  obtain ⟨event, parsed, verdict⟩ := respPipeline_verdict nowMs table first rest srcIP dstIP srcPort dstPort direction
  have alike : ∀ others : List RespCommand, others.map RespCommand.name = (first :: rest).map RespCommand.name →
      Option.map DBEvent.isDangerous <$>
          parseRedisPacket nowMs table (respPipeline others) srcIP dstIP srcPort dstPort direction =
        Option.map DBEvent.isDangerous <$>
          parseRedisPacket nowMs table (respPipeline (first :: rest)) srcIP dstIP srcPort dstPort direction := by
    intro others names
    cases others with
    | nil => cases names
    | cons head tail =>
      obtain ⟨again, reparsed, same⟩ := respPipeline_verdict nowMs table head tail srcIP dstIP srcPort dstPort direction
      rw [(List.cons.inj names).1, ← verdict, ← Bool.eq_iff_iff] at same
      rw [parsed, reparsed]
      exact congrArg (fun b => Except.ok (some b)) same
  have right : (∃ other, parseRedisPacket nowMs table (respPipeline (first :: rest)) srcIP dstIP srcPort dstPort direction =
        .ok (some other) ∧ (other.isDangerous = true ↔ ∃ c ∈ first :: rest, DangerousName c.name)) ↔
      (TakenForDangerous table first.name ↔ ∃ c ∈ first :: rest, DangerousName c.name) := by
    rw [← verdict]
    refine ⟨?_, fun exact_ => ⟨event, parsed, exact_⟩⟩
    rintro ⟨other, again, exact_⟩
    rw [parsed] at again
    cases again
    exact exact_
  rw [and_iff_left alike, right]
  simp only [List.mem_cons, exists_eq_or_imp]
  by_cases dangerous : DangerousName first.name
  · exact iff_of_true (iff_of_true (taken_of_dangerous table dangerous) (.inl dangerous)) (.inl dangerous)
  · rw [or_iff_right dangerous, or_iff_right dangerous]

/-- A FLUSHALL behind a GET passes, and a name that only starts with SAVE is reported. -/
theorem pipelined_flushall_missed :
    Option.map DBEvent.isDangerous <$> parseRedisPacket 0 ⟨id, id⟩
        (respPipeline [⟨ascii "GET", [ascii "k"]⟩, ⟨ascii "FLUSHALL", []⟩]) [] [] 40000 6379 1 = .ok (some false) ∧
      DangerousName (ascii "FLUSHALL") ∧
      Option.map DBEvent.isDangerous <$> parseRedisPacket 0 ⟨id, id⟩ (respPipeline [⟨ascii "save me", []⟩]) [] [] 40000 6379 1 =
        .ok (some true) ∧ ¬ DangerousName (ascii "save me") := by
  unfold DangerousName
  decide +kernel

end StbEbpf.Protocol
