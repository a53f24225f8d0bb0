import StbEbpf.Protocol.DnsAnswers

/-!
Names inside record data. `parseRData` is given the data alone, so that a pointer in it is followed from the start of
the data and not from the start of the message.
-/

namespace StbEbpf.Protocol
open CText Access NetworkOrder DomainName

/-- How many bytes stand before the name, in the data of the types that carry one. -/
def nameOffset (atype : UInt16) : Option Nat :=
  if atype = 2 ∨ atype = 5 ∨ atype = 12 then some 0
  else if atype = 15 then some 2
  else if atype = 33 then some 6
  else none

/-- The numbers before the name, each with a space after it. -/
def numbers (rdata : Bytes) (skip : Nat) : Bytes :=
  (List.range (skip / 2)).flatMap fun k => decimal (word16 ((rdata.drop (2 * k)).take 2)).toNat ++ ascii " "

namespace RecordAt

/-- The data of the record ends in this name, as the message defines it. -/
def Targets (message : Bytes) (r : RecordAt) (pointers : Nat) (target : List Bytes) : Prop :=
  ∃ skip, nameOffset r.atype = some skip ∧ Resolves message pointers (r.position + 10 + skip) target r.next

def classText (r : RecordAt) : Bytes := ascii "CLASS" ++ decimal r.aclass.toNat ++ ascii ":" ++ hexBytes r.rdata

/-- What is printed for the data: of the class IN the numbers and the name that the data holds if it is a message of
its own, of the other classes the bytes. -/
def Prints (r : RecordAt) (shown : Bytes) : Prop :=
  r.aclass ≠ 1 ∧ shown = r.classText ∨
  r.aclass = 1 ∧ ∃ skip name position, nameOffset r.atype = some skip ∧ NameAt r.rdata skip (name, position) ∧
    shown = numbers r.rdata skip ++ name

end RecordAt

/-! ### The data of one record -/

theorem nameOffset_cases {atype : UInt16} {skip : Nat} (carries : nameOffset atype = some skip) :
    skip = 0 ∧ (atype = 2 ∨ atype = 5 ∨ atype = 12) ∨ skip = 2 ∧ atype = 15 ∨ skip = 6 ∧ atype = 33 := by
  unfold nameOffset at carries
  split at carries
  · rename_i named
    cases carries
    exact .inl ⟨rfl, named⟩
  · split at carries
    · rename_i mx
      cases carries
      exact .inr (.inl ⟨rfl, mx⟩)
    · split at carries
      · rename_i srv
        cases carries
        exact .inr (.inr ⟨rfl, srv⟩)
      · cases carries

theorem parseRData_in {atype : UInt16} {rdata : Bytes} {skip : Nat} (carries : nameOffset atype = some skip)
    (long : skip ≤ rdata.length) :
    parseRData atype 1 rdata = (do return numbers rdata skip ++ (← parseDNSName rdata skip).1) := by
  obtain ⟨r, ends, -⟩ := parseDNSName_nameAt rdata skip
  unfold parseRData parseRData.known
  rw [if_neg (by decide)]
  rcases nameOffset_cases carries with ⟨rfl, named⟩ | ⟨rfl, rfl⟩ | ⟨rfl, rfl⟩
  · have other : atype ≠ 1 := by
      rintro rfl
      revert named
      decide
    rw [if_neg other, if_pos named, ends]
    rfl
  · rw [if_neg (by decide), if_neg (by decide), if_pos rfl, if_pos long, readWord16_inside long, ok_bind, ends]
    refine congrArg Except.ok ?_
    simp [numbers]
  · rw [if_neg (by decide), if_neg (by decide), if_neg (by decide), if_neg (by decide), if_neg (by decide),
      if_pos rfl, if_pos long, readWord16_inside (by omega), ok_bind, readWord16_inside (by omega), ok_bind,
      readWord16_inside (by omega), ok_bind, ends]
    refine congrArg Except.ok ?_
    simp [numbers, List.range_succ]

theorem targets_long {message : Bytes} {r : RecordAt} {pointers skip : Nat} {target : List Bytes}
    (resolves : Resolves message pointers (r.position + 10 + skip) target r.next) : skip ≤ r.rdata.length := by
  have bounds := resolves_bounds resolves
  unfold RecordAt.next at bounds
  omega

theorem parseRData_prints {message : Bytes} {r : RecordAt} {pointers : Nat} {target : List Bytes}
    (targets : r.Targets message pointers target) (shown : Bytes) :
    parseRData r.atype r.aclass r.rdata = .ok shown ↔ r.Prints shown := by
  obtain ⟨skip, carries, resolves⟩ := targets
  obtain ⟨⟨name, position⟩, ends, nameAt⟩ := parseDNSName_nameAt r.rdata skip
  unfold RecordAt.Prints
  by_cases internet : r.aclass = 1
  · rw [internet, parseRData_in carries (targets_long resolves), ends, ok_bind]
    constructor
    · intro same
      cases same
      exact .inr ⟨rfl, skip, name, position, carries, nameAt, rfl⟩
    · rintro (⟨other, -⟩ | ⟨-, skip', name', position', again, nameAt', rfl⟩)
      · exact absurd rfl other
      · cases carries.symm.trans again
        cases ends.symm.trans (parseDNSName_iff.mpr nameAt')
        rfl
  · constructor
    · intro same
      refine .inl ⟨internet, ?_⟩
      unfold parseRData at same
      rw [if_pos internet] at same
      cases same
      rfl
    · rintro (⟨-, rfl⟩ | ⟨same, -⟩)
      · exact if_pos internet
      · exact absurd same internet

/-! ### Whole responses -/

theorem follow_lies {message : Bytes} {records : List RecordAt} {start : Nat}
    (follow : RecordAt.Follow message records start) {r : RecordAt} (member : r ∈ records) :
    ∃ start, r.Lies message start := by
  induction records generalizing start with
  | nil => cases member
  | cons first records ih =>
    obtain ⟨lies, later⟩ := follow
    rcases List.mem_cons.mp member with rfl | inside
    · exact ⟨start, lies⟩
    · exact ih later inside

/-- A text that is told is the text of the record with its number. -/
theorem answer_shows {env : Surroundings} {r : Response} {srcIP dstIP : Bytes} {srcPort dstPort : UInt16}
    {direction : UInt8} {event : DNSEvent}
    (parsed : parseDNSPacket env r.message srcIP dstIP srcPort dstPort direction = .ok (some event)) {i : Nat}
    {record : RecordAt} {text : Bytes} (recorded : r.answers[i]? = some record) (told : event.answers[i]? = some text) :
    record.Shows text := by
  have read : r.questionRead := by
    by_contra lost
    cases parsed.symm.trans (parseDNSPacket_response_lost env r srcIP dstIP srcPort dstPort direction lost)
  obtain ⟨event', ends, -, -, shows⟩ := parseDNSPacket_response env r srcIP dstIP srcPort dstPort direction read
  cases parsed.symm.trans ends
  obtain ⟨inside, rfl⟩ := List.getElem?_eq_some_iff.mp told
  have few : i < (r.answers.takeWhile RecordAt.readable).length := shows.length_eq ▸ inside
  have initial := List.takeWhile_prefix RecordAt.readable (l := r.answers)
  have same : (r.answers.takeWhile RecordAt.readable)[i] = record := by
    rw [List.getElem?_eq_getElem (Nat.lt_of_lt_of_le few initial.length_le)] at recorded
    exact (initial.getElem few).trans (Option.some.inj recorded)
  rw [← same]
  exact shows.get few inside

/-- A name without pointers is found in the data. -/
theorem prints_uncompressed {message : Bytes} {r : RecordAt} {start : Nat} {target : List Bytes}
    (lies : r.Lies message start) (internet : r.aclass = 1) (targets : r.Targets message 0 target) {shown : Bytes}
    (prints : r.Prints shown) : dotted target <:+ shown := by
  obtain ⟨-, -, rest, fields⟩ := lies
  obtain ⟨skip, carries, resolves⟩ := targets
  have data := drop_past (drop_past (drop_past (drop_past fields)))
  simp only [bytes16_length, bytes32_length, Nat.add_assoc, Nat.reduceAdd] at data
  have inside : Resolves r.rdata 0 skip target r.rdata.length :=
    resolves_slice data resolves rfl rfl (Nat.le_refl _)
  rcases prints with ⟨other, -⟩ | ⟨-, skip', name, position, again, nameAt, rfl⟩
  · exact absurd internet other
  · cases carries.symm.trans again
    cases (parseDNSName_resolves (by decide) inside).symm.trans (parseDNSName_iff.mpr nameAt)
    exact List.suffix_append _ _

/-- The answer text contains the target of its record exactly if the name shows up in what is printed, where the data
is read as a message of its own. A name without pointers, in the class IN, is always there. -/
theorem answer_contains_target_iff {env : Surroundings} {r : Response} {srcIP dstIP : Bytes} {srcPort dstPort : UInt16}
    {direction : UInt8} {event : DNSEvent}
    (parsed : parseDNSPacket env r.message srcIP dstIP srcPort dstPort direction = .ok (some event)) {i : Nat}
    {record : RecordAt} {text : Bytes} (recorded : r.answers[i]? = some record) (told : event.answers[i]? = some text)
    {pointers : Nat} {target : List Bytes} (targets : record.Targets r.message pointers target) :
    (dotted target <:+: text ↔ ∃ shown, record.Prints shown ∧ dotted target <:+: record.head ++ shown) ∧
    (record.aclass = 1 → pointers = 0 → dotted target <:+: text) := by
  obtain ⟨shown, data, rfl⟩ := answer_shows parsed recorded told
  have prints := (parseRData_prints targets shown).mp data
  constructor
  · constructor
    · intro contains
      exact ⟨shown, prints, contains⟩
    · rintro ⟨shown', prints', contains⟩
      cases data.symm.trans ((parseRData_prints targets shown').mpr prints')
      exact contains
  · rintro internet rfl
    obtain ⟨start, lies⟩ := follow_lies r.follow (List.mem_of_getElem? recorded)
    have there := prints_uncompressed lies internet targets prints
    exact (there.trans (List.suffix_append _ _)).isInfix

/-- The alias of `web.example.com`, written out. -/
def plainAlias : Bytes := encode [ascii "web", ascii "example", ascii "com"]

theorem plainAlias_targets :
    (aliasRecord plainAlias).Targets (aliasMessage plainAlias) 0 [ascii "web", ascii "example", ascii "com"] := by
  have before : aliasMessage plainAlias =
      (aliasMessage plainAlias).take 45 ++ (encode [ascii "web", ascii "example", ascii "com"] ++ []) := by
    decide +kernel
  have proper : ∀ label ∈ [ascii "web", ascii "example", ascii "com"], Proper label := by
    unfold Proper
    decide
  refine ⟨0, rfl, ?_⟩
  rw [before]
  exact resolves_encoded proper ((aliasMessage plainAlias).take 45) []

theorem plainAlias_short : plainAlias.length < 65536 := by decide

theorem plain_alias_is_told :
    ∃ event text, parseDNSPacket quiet (aliasMessage plainAlias) [] [] 53 40000 1 = .ok (some event) ∧
      event.answers[0]? = some text ∧ dotted [ascii "web", ascii "example", ascii "com"] <:+: text := by
  obtain ⟨event, parsed, -, -, shows⟩ := parseDNSPacket_response quiet (aliasResponse plainAlias plainAlias_short)
    [] [] 53 40000 1 (by simp [Response.questionRead, aliasResponse, aliasQuestion])
  have one : event.answers.length = 1 := shows.length_eq.symm
  have told : event.answers[0]? = some event.answers[0] := List.getElem?_eq_getElem (by omega)
  exact ⟨event, _, parsed, told,
    (answer_contains_target_iff parsed (r := aliasResponse plainAlias plainAlias_short) rfl told plainAlias_targets).2 rfl rfl⟩

/-- The same alias with the end of the name taken from the question. -/
def compressedAlias : Bytes := [3, 119, 101, 98, 0xC0, 16]

theorem compressedAlias_short : compressedAlias.length < 65536 := by decide

theorem compressedAlias_targets :
    (aliasRecord compressedAlias).Targets (aliasMessage compressedAlias) 1 [ascii "web", ascii "example", ascii "com"] := by
  have www : (aliasMessage compressedAlias)[12]? = some 3 := by decide +kernel
  have web : (aliasMessage compressedAlias)[45]? = some 3 := by decide +kernel
  have high : (aliasMessage compressedAlias)[49]? = some 0xC0 := by decide +kernel
  have low : (aliasMessage compressedAlias)[50]? = some 16 := by decide +kernel
  have inside : 45 + 1 + 3 ≤ (aliasMessage compressedAlias).length := by decide +kernel
  obtain ⟨-, rest, same, domain⟩ := (resolves_label_iff www (by decide) (by decide)).mp (aliasMessage_name compressedAlias)
  cases same
  exact ⟨0, rfl, .label web (by decide) (by decide) inside (.pointer high (by decide) low domain)⟩

/-- The pointer leads out of the data, and the answer names no target at all. -/
theorem compressed_alias_is_lost :
    (aliasRecord compressedAlias).Targets (aliasResponse compressedAlias compressedAlias_short).message 1
      [ascii "web", ascii "example", ascii "com"] ∧
    ∃ event, parseDNSPacket quiet (aliasResponse compressedAlias compressedAlias_short).message [] [] 53 40000 1 =
        .ok (some event) ∧ event.answers = [ascii "www.example.com CNAME 300 "] ∧
      ¬ dotted [ascii "web", ascii "example", ascii "com"] <:+: ascii "www.example.com CNAME 300 " := by
  obtain ⟨event, parsed⟩ := parseDNSPacket_in_bounds quiet (aliasMessage compressedAlias) [] [] 53 40000 1
  have answers : (parseDNSPacket quiet (aliasMessage compressedAlias) [] [] 53 40000 1).toOption.join.map (·.answers) =
      some [ascii "www.example.com CNAME 300 "] := by
    decide +kernel
  refine ⟨compressedAlias_targets, ?_⟩
  rw [parsed] at answers
  obtain ⟨event, rfl, told⟩ := Option.map_eq_some_iff.mp answers
  exact ⟨event, parsed, told, by decide +kernel⟩

end StbEbpf.Protocol
