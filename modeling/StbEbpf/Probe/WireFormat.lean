import StbEbpf.Lib.Strconv
import StbEbpf.Probe.FlowTracker
import StbEbpf.Probe.SerializerText

/-!
What a JSON decoder gets out of a batch. `serialize_flow_event` prints an object with one member per column; the text
is compared with the tree of that object, and the tree with the event.
-/

namespace StbEbpf.Probe
open CText Access Json Strconv

/-! ### Columns -/

inductive Column where
  | timestamp | probeId | category | eventType | srcIp | dstIp | srcPort | dstPort | protocol | ipVersion | tcpFlags
  | pktLen | bytes | packets | latencyUs | bandwidthBps | retransmits | dupAcks | anomaly | payloadType | pid | service
  | details | tags
  deriving DecidableEq, Repr

/-- What a member stands for. -/
inductive Kind where
  | text
  | address
  | unsigned (bits : Nat)
  deriving DecidableEq, Repr

def Kind.Carrier : Kind → Type
  | .text => Bytes
  | .address => UInt32
  | .unsigned _ => Nat

namespace Column

/-- In the order of the format. -/
def all : List Column :=
  [timestamp, probeId, category, eventType, srcIp, dstIp, srcPort, dstPort, protocol, ipVersion, tcpFlags, pktLen, bytes,
    packets, latencyUs, bandwidthBps, retransmits, dupAcks, anomaly, payloadType, pid, service, details, tags]

def name : Column → String
  | timestamp => "timestamp"
  | probeId => "probe_id"
  | category => "category"
  | eventType => "event_type"
  | srcIp => "src_ip"
  | dstIp => "dst_ip"
  | srcPort => "src_port"
  | dstPort => "dst_port"
  | protocol => "protocol"
  | ipVersion => "ip_version"
  | tcpFlags => "tcp_flags"
  | pktLen => "pkt_len"
  | bytes => "bytes"
  | packets => "packets"
  | latencyUs => "latency_us"
  | bandwidthBps => "bandwidth_bps"
  | retransmits => "retransmits"
  | dupAcks => "dup_acks"
  | anomaly => "anomaly"
  | payloadType => "payload_type"
  | pid => "pid"
  | service => "service"
  | details => "details"
  | tags => "tags"

def key (c : Column) : Bytes := ascii c.name

def kind : Column → Kind
  | probeId | category | eventType | protocol | service | details | tags => .text
  | srcIp | dstIp => .address
  | ipVersion | tcpFlags | anomaly | payloadType => .unsigned 8
  | srcPort | dstPort | pktLen => .unsigned 16
  | retransmits | dupAcks | pid => .unsigned 32
  | timestamp | bytes | packets | latencyUs | bandwidthBps => .unsigned 64

/-- The value of the field of the event. -/
def get (event : FlowEvent) : (c : Column) → c.kind.Carrier
  | timestamp => event.timestampNs.toNat
  | probeId => event.probeId.bytes
  | category => event.category.bytes
  | eventType => event.eventType.bytes
  | srcIp => event.srcIp
  | dstIp => event.dstIp
  | srcPort => event.srcPort.toNat
  | dstPort => event.dstPort.toNat
  | protocol => event.protocol.bytes
  | ipVersion => event.ipVersion.toNat
  | tcpFlags => event.tcpFlags.toNat
  | pktLen => event.pktLen.toNat
  | bytes => event.bytes.toNat
  | packets => event.packets.toNat
  | latencyUs => event.latencyUs.toNat
  | bandwidthBps => event.bandwidthBps.toNat
  | retransmits => event.retransmits.toNat
  | dupAcks => event.dupAcks.toNat
  | anomaly => event.anomaly.toNat
  | payloadType => event.payloadType.toNat
  | pid => event.pid.toNat
  | service => event.service.bytes
  | details => event.details.bytes
  | tags => event.tags.bytes

/-- The value that is sent for it: the probe is the one the call is given. -/
def sent (probeId : CStr) (event : FlowEvent) (c : Column) : c.kind.Carrier :=
  match c with
  | .probeId => probeId.bytes
  | c => get event c

end Column

/-! ### Decoding -/

/-- Four decimal numbers, the first one in the lowest byte. -/
def parseAddress (text : Bytes) : Option UInt32 :=
  match text.splitOn 46 with
  | [a, b, c, d] =>
    if ∀ part ∈ [a, b, c, d], part ≠ [] ∧ (∀ byte ∈ part, isDigit byte = true) ∧ digitsValue part < 256 then
      some (UInt32.ofNat (digitsValue a + 256 * digitsValue b + 65536 * digitsValue c + 16777216 * digitsValue d))
    else none
  | _ => none

def Kind.decode : (k : Kind) → Value → Option k.Carrier
  | .text, .string raw => unquote raw
  | .address, .string raw => (unquote raw).bind parseAddress
  | .unsigned bits, .number n => parseUint (2 ^ bits) n
  | _, _ => none

/-- The member of that name. -/
def Column.decode (members : List (Bytes × Value)) (c : Column) : Option c.kind.Carrier :=
  (members.find? (·.1 = c.key)).bind fun member => c.kind.decode member.2

/-- The text is an array with one object per record, in order, and every column of an object is that of its record. -/
def DecodesTo (text : Bytes) (records : List ((c : Column) → c.kind.Carrier)) : Prop :=
  ∃ objects : List (List (Bytes × Value)), readWhole text = some (.array (objects.map .object)) ∧
    List.Forall₂ (fun members record => ∀ c, Column.decode members c = some (record c)) objects records

/-- Neither a quote nor a backslash nor a control character. -/
def PlainText (text : Bytes) : Prop := ∀ byte ∈ text, Plain byte

/-! ### Addresses -/

def dottedText (ip : UInt32) : Bytes :=
  [46].intercalate [decimal (ip.toNat % 256), decimal (ip.toNat / 256 % 256), decimal (ip.toNat / 65536 % 256),
    decimal (ip.toNat / 16777216)]

theorem octets_lt (ip : UInt32) : ∀ octet ∈ [ip.toNat % 256, ip.toNat / 256 % 256, ip.toNat / 65536 % 256,
    ip.toNat / 16777216], octet < 256 := by
  have range := ip.toNat_lt
  simp only [List.forall_mem_cons, List.not_mem_nil, false_implies, implies_true, and_true]
  omega

theorem octet_length {n : Nat} (small : n < 256) : (decimal n).length ≤ 3 := by
  unfold decimal
  rw [List.length_map]
  exact (Nat.length_toDigits_le_iff (by decide) (by decide)).mpr (by omega)

/-- The array of 16 bytes is never too short. -/
theorem ipToStr_bytes (ip : UInt32) : (ipToStr ip).bytes = dottedText ip := by
  have whole : ∀ text : Bytes, 0 ∉ text → text.length ≤ 15 → (CharBuf.snprintf text : CharBuf 16).bytes = text := by
    intro text noNul short
    show (cut text).take 15 = text
    rw [cut_eq_self noNul, List.take_of_length_le short]
  have dots : dottedText ip = decimal (ip.toNat % 256) ++ ascii "." ++ decimal (ip.toNat / 256 % 256) ++ ascii "." ++
      decimal (ip.toNat / 65536 % 256) ++ ascii "." ++ decimal (ip.toNat / 16777216) := by
    simp [dottedText, List.intercalate, show ascii "." = [46] by decide]
  rw [dots]
  apply whole
  · simp only [List.mem_append, decimal_noNul, or_false, false_or]
    decide
  · have small := octets_lt ip
    simp only [List.forall_mem_cons] at small
    obtain ⟨a, b, c, d, -⟩ := small
    have first := octet_length a
    have second := octet_length b
    have third := octet_length c
    have fourth := octet_length d
    simp only [List.length_append, show (ascii ".").length = 1 by decide]
    omega

theorem decimal_noDot (n : Nat) : 46 ∉ decimal n :=
  fun member => absurd (decimal_digits member) (by decide)

theorem parseAddress_dotted (ip : UInt32) : parseAddress (dottedText ip) = some ip := by
  have small := octets_lt ip
  unfold parseAddress dottedText
  rw [List.splitOn_intercalate 46 (by simp [decimal_noDot]) (by simp)]
  dsimp only
  rw [if_pos]
  · simp only [digitsValue_decimal]
    have value : ip.toNat % 256 + 256 * (ip.toNat / 256 % 256) + 65536 * (ip.toNat / 65536 % 256) +
        16777216 * (ip.toNat / 16777216) = ip.toNat := by omega
    rw [value, UInt32.ofNat_toNat]
  · intro part member
    obtain ⟨octet, inside, rfl⟩ : ∃ octet ∈ [ip.toNat % 256, ip.toNat / 256 % 256, ip.toNat / 65536 % 256,
        ip.toNat / 16777216], decimal octet = part := by simpa [eq_comm] using member
    refine ⟨decimal_ne_nil _, fun _ => decimal_digits, ?_⟩
    rw [digitsValue_decimal]
    exact small octet inside

theorem dottedText_plain (ip : UInt32) : ∀ byte ∈ dottedText ip, Plain byte ∧ byte < 0x80 := by
  have digit : ∀ n, ∀ byte ∈ decimal n, Plain byte ∧ byte < 0x80 := by
    intro n byte member
    have range := decimal_digits member
    simp only [isDigit, decide_eq_true_eq, UInt8.le_iff_toNat_le] at range
    refine ⟨plain_of_range range.1 (Nat.ne_of_lt (Nat.lt_of_le_of_lt range.2 (by decide))), ?_⟩
    exact UInt8.lt_iff_toNat_lt.mpr (Nat.lt_of_le_of_lt range.2 (by decide))
  intro byte member
  simp only [dottedText, List.intercalate, List.intersperse, List.flatten_cons, List.flatten_nil, List.mem_append,
    List.mem_singleton, List.append_nil] at member
  rcases member with member | rfl | member | rfl | member | rfl | member
  all_goals first | exact digit _ _ member | exact ⟨⟨by decide, by decide, by decide⟩, by decide⟩

theorem ipToStr_plain (ip : UInt32) : PlainText (ipToStr ip).bytes := by
  rw [ipToStr_bytes]
  exact fun byte member => (dottedText_plain ip byte member).1

theorem ipToStr_read (ip : UInt32) : (unquote (ipToStr ip).bytes).bind parseAddress = some ip := by
  rw [ipToStr_bytes, unquote_plain (dottedText_plain ip)]
  exact parseAddress_dotted ip

/-! ### The tree of an event -/

namespace Kind

def encode : (k : Kind) → k.Carrier → Value
  | .text, raw => .string raw
  | .address, ip => .string (ipToStr ip).bytes
  | .unsigned _, n => .number (formatUint n)

/-- Values that are printed without an escape and in their range. -/
def Clean : (k : Kind) → k.Carrier → Prop
  | .text, raw => PlainText raw
  | .address, _ => True
  | .unsigned bits, n => Nat.lt n (2 ^ bits)

/-- The value that arrives. -/
def received : (k : Kind) → k.Carrier → k.Carrier
  | .text, raw => Utf8.coerced raw
  | .address, ip => ip
  | .unsigned _, n => n

/-- The values that arrive as they are: JSON is UTF-8. -/
def Portable : (k : Kind) → k.Carrier → Prop
  | .text, raw => Utf8.valid raw = true
  | .address, _ => True
  | .unsigned _, _ => True

theorem received_eq_iff (k : Kind) (x : k.Carrier) : k.received x = x ↔ k.Portable x := by
  cases k with
  | text => exact Utf8.coerced_eq_iff x
  | address | unsigned => exact ⟨fun _ => trivial, fun _ => rfl⟩

theorem decode_encode {k : Kind} {x : k.Carrier} (clean : k.Clean x) : k.decode (k.encode x) = some (k.received x) := by
  cases k with
  | text => exact unquote_unescaped clean
  | address => exact ipToStr_read x
  | unsigned bits => exact parseUint_format clean

/-- The values whose text ends where it is closed. -/
def Framed : (k : Kind) → k.Carrier → Prop
  | .text, raw => Enclosed raw
  | .address, _ => True
  | .unsigned _, _ => True

theorem framed_of_clean {k : Kind} {x : k.Carrier} (clean : k.Clean x) : k.Framed x := by
  cases k with
  | text => exact enclosed_of_plain clean
  | address | unsigned => trivial

theorem encode_printable {k : Kind} {x : k.Carrier} (framed : k.Framed x) (depth : Nat) :
    Printable depth (k.encode x) := by
  cases k with
  | text => exact .string depth framed
  | address => exact .string depth (enclosed_of_plain (ipToStr_plain x))
  | unsigned bits => exact .number depth (formatUint_ok x)

end Kind

/-- The members in the order of the format. -/
def eventMembers (probeId : CStr) (event : FlowEvent) : List (Bytes × Value) :=
  Column.all.map fun c => (c.key, c.kind.encode (Column.sent probeId event c))

namespace Column

theorem mem_all (c : Column) : c ∈ all := by cases c <;> decide

theorem find_key (c : Column) : all.find? (fun other => other.key = c.key) = some c := by
  have each : ∀ c ∈ all, all.find? (fun other => other.key = c.key) = some c := by decide +kernel
  exact each c (mem_all c)

theorem key_plain (c : Column) : ∀ byte ∈ c.key, Plain byte := by
  have letters : ∀ c ∈ all, c.key.all (Utf8.within 95 122) = true := by decide +kernel
  intro byte inside
  obtain ⟨low, -⟩ := (Utf8.within_iff ..).mp (List.all_eq_true.mp (letters c (mem_all c)) byte inside)
  exact plain_of_range (Nat.le_trans (by decide) low) (Nat.ne_of_gt (Nat.lt_of_lt_of_le (by decide) low))

theorem decode_members {probeId : CStr} {event : FlowEvent} {c : Column}
    (clean : c.kind.Clean (sent probeId event c)) :
    decode (eventMembers probeId event) c = some (c.kind.received (sent probeId event c)) := by
  have member : (eventMembers probeId event).find? (·.1 = c.key) =
      some (c.key, c.kind.encode (sent probeId event c)) := by
    unfold eventMembers
    rw [List.find?_map]
    show Option.map _ (all.find? fun other => other.key = c.key) = _
    rw [find_key]
    rfl
  unfold decode
  rw [member]
  exact Kind.decode_encode clean

end Column

theorem numeral_text (n : Nat) : (formatUint n).text = decimal n := by
  simp [formatUint, Numeral.text, fractionText, exponentText]

/-- The parts of the format string between the arguments. -/
theorem format_parts :
    ascii "\x7b\"timestamp\":" = 123 :: 34 :: (Column.timestamp.key ++ [34, 58]) ∧
    ascii ",\"probe_id\":\"" = 44 :: 34 :: (Column.probeId.key ++ [34, 58, 34]) ∧
    ascii "\",\"category\":\"" = 34 :: 44 :: 34 :: (Column.category.key ++ [34, 58, 34]) ∧
    ascii "\",\"event_type\":\"" = 34 :: 44 :: 34 :: (Column.eventType.key ++ [34, 58, 34]) ∧
    ascii "\",\"src_ip\":\"" = 34 :: 44 :: 34 :: (Column.srcIp.key ++ [34, 58, 34]) ∧
    ascii "\",\"dst_ip\":\"" = 34 :: 44 :: 34 :: (Column.dstIp.key ++ [34, 58, 34]) ∧
    ascii "\",\"src_port\":" = 34 :: 44 :: 34 :: (Column.srcPort.key ++ [34, 58]) ∧
    ascii ",\"dst_port\":" = 44 :: 34 :: (Column.dstPort.key ++ [34, 58]) ∧
    ascii ",\"protocol\":\"" = 44 :: 34 :: (Column.protocol.key ++ [34, 58, 34]) ∧
    ascii "\",\"ip_version\":" = 34 :: 44 :: 34 :: (Column.ipVersion.key ++ [34, 58]) ∧
    ascii ",\"tcp_flags\":" = 44 :: 34 :: (Column.tcpFlags.key ++ [34, 58]) ∧
    ascii ",\"pkt_len\":" = 44 :: 34 :: (Column.pktLen.key ++ [34, 58]) ∧
    ascii ",\"bytes\":" = 44 :: 34 :: (Column.bytes.key ++ [34, 58]) ∧
    ascii ",\"packets\":" = 44 :: 34 :: (Column.packets.key ++ [34, 58]) ∧
    ascii ",\"latency_us\":" = 44 :: 34 :: (Column.latencyUs.key ++ [34, 58]) ∧
    ascii ",\"bandwidth_bps\":" = 44 :: 34 :: (Column.bandwidthBps.key ++ [34, 58]) ∧
    ascii ",\"retransmits\":" = 44 :: 34 :: (Column.retransmits.key ++ [34, 58]) ∧
    ascii ",\"dup_acks\":" = 44 :: 34 :: (Column.dupAcks.key ++ [34, 58]) ∧
    ascii ",\"anomaly\":" = 44 :: 34 :: (Column.anomaly.key ++ [34, 58]) ∧
    ascii ",\"payload_type\":" = 44 :: 34 :: (Column.payloadType.key ++ [34, 58]) ∧
    ascii ",\"pid\":" = 44 :: 34 :: (Column.pid.key ++ [34, 58]) ∧
    ascii ",\"service\":\"" = 44 :: 34 :: (Column.service.key ++ [34, 58, 34]) ∧
    ascii "\",\"details\":\"" = 34 :: 44 :: 34 :: (Column.details.key ++ [34, 58, 34]) ∧
    ascii "\",\"tags\":\"" = 34 :: 44 :: 34 :: (Column.tags.key ++ [34, 58, 34]) ∧
    ascii "\"\x7d" = [34, 125] := by
  decide +kernel

theorem flowEventText_tree (event : FlowEvent) (probeId : CStr) :
    flowEventText event probeId = (Value.object (eventMembers probeId event)).text := by
  have members : eventMembers probeId event = [
      (Column.timestamp.key, .number (formatUint event.timestampNs.toNat)),
      (Column.probeId.key, .string probeId.bytes),
      (Column.category.key, .string event.category.bytes),
      (Column.eventType.key, .string event.eventType.bytes),
      (Column.srcIp.key, .string (ipToStr event.srcIp).bytes),
      (Column.dstIp.key, .string (ipToStr event.dstIp).bytes),
      (Column.srcPort.key, .number (formatUint event.srcPort.toNat)),
      (Column.dstPort.key, .number (formatUint event.dstPort.toNat)),
      (Column.protocol.key, .string event.protocol.bytes),
      (Column.ipVersion.key, .number (formatUint event.ipVersion.toNat)),
      (Column.tcpFlags.key, .number (formatUint event.tcpFlags.toNat)),
      (Column.pktLen.key, .number (formatUint event.pktLen.toNat)),
      (Column.bytes.key, .number (formatUint event.bytes.toNat)),
      (Column.packets.key, .number (formatUint event.packets.toNat)),
      (Column.latencyUs.key, .number (formatUint event.latencyUs.toNat)),
      (Column.bandwidthBps.key, .number (formatUint event.bandwidthBps.toNat)),
      (Column.retransmits.key, .number (formatUint event.retransmits.toNat)),
      (Column.dupAcks.key, .number (formatUint event.dupAcks.toNat)),
      (Column.anomaly.key, .number (formatUint event.anomaly.toNat)),
      (Column.payloadType.key, .number (formatUint event.payloadType.toNat)),
      (Column.pid.key, .number (formatUint event.pid.toNat)),
      (Column.service.key, .string event.service.bytes),
      (Column.details.key, .string event.details.bytes),
      (Column.tags.key, .string event.tags.bytes)] := rfl
  rw [members]
  unfold flowEventText
  conv_lhs => simp only [format_parts, List.append_assoc, List.cons_append, List.nil_append]
  conv_rhs => simp only [Value.text, membersText, numeral_text, List.append_assoc, List.cons_append, List.nil_append]

/-! ### The tree of a batch -/

/-- The strings that are printed for an event. -/
structure FlowEvent.Plain (event : FlowEvent) : Prop where
  category : PlainText event.category.bytes
  eventType : PlainText event.eventType.bytes
  protocol : PlainText event.protocol.bytes
  service : PlainText event.service.bytes
  details : PlainText event.details.bytes
  tags : PlainText event.tags.bytes

theorem sent_clean {event : FlowEvent} {probeId : CStr} (plain : event.Plain) (plainId : PlainText probeId.bytes)
    (c : Column) : c.kind.Clean (Column.sent probeId event c) := by
  cases c with
  | probeId => exact plainId
  | category => exact plain.category
  | eventType => exact plain.eventType
  | protocol => exact plain.protocol
  | service => exact plain.service
  | details => exact plain.details
  | tags => exact plain.tags
  | srcIp | dstIp => trivial
  | ipVersion | tcpFlags | anomaly | payloadType => exact UInt8.toNat_lt _
  | srcPort | dstPort | pktLen => exact UInt16.toNat_lt _
  | retransmits | dupAcks | pid => exact UInt32.toNat_lt _
  | timestamp | bytes | packets | latencyUs | bandwidthBps => exact UInt64.toNat_lt _

theorem eventMembers_printable {event : FlowEvent} {probeId : CStr}
    (framed : ∀ c : Column, c.kind.Framed (Column.sent probeId event c)) (depth : Nat) :
    Printable (depth + 1) (.object (eventMembers probeId event)) := by
  apply Printable.object
  · intro pair member
    obtain ⟨c, -, rfl⟩ := List.mem_map.mp member
    exact enclosed_of_plain c.key_plain
  · intro pair member
    obtain ⟨c, -, rfl⟩ := List.mem_map.mp member
    exact Kind.encode_printable (framed c) depth

def batchObjects (events : List FlowEvent) (probeId : CStr) : List (List (Bytes × Value)) :=
  events.map (eventMembers probeId)

theorem joinTexts_items (values : List Value) : joinTexts false (values.map (·.text)) ++ [93] = itemsText values := by
  induction values with
  | nil => rfl
  | cons value rest ih =>
    rw [List.map_cons, joinTexts, itemsText, ← ih]
    simp

theorem batchText_tree (events : List FlowEvent) (probeId : CStr) :
    batchText events none probeId = (Value.array ((batchObjects events probeId).map .object)).text := by
  have texts : batchTexts events none probeId = ((batchObjects events probeId).map Value.object).map (·.text) := by
    simp [batchTexts, eventTexts, batchObjects, flowEventText_tree]
  rw [batchText, batchHead, texts]
  generalize (batchObjects events probeId).map Value.object = values
  cases values with
  | nil => rfl
  | cons value rest =>
    rw [List.map_cons, joinTexts, Value.text, ← joinTexts_items]
    simp

theorem batchText_read {events : List FlowEvent} {probeId : CStr}
    (framed : ∀ event ∈ events, ∀ c : Column, c.kind.Framed (Column.sent probeId event c)) :
    readWhole (batchText events none probeId) = some (.array ((batchObjects events probeId).map .object)) := by
  rw [batchText_tree]
  apply readWhole_text
  apply Printable.array
  intro item member
  simp only [batchObjects, List.map_map, List.mem_map, Function.comp_apply] at member
  obtain ⟨event, inside, rfl⟩ := member
  exact eventMembers_printable (framed event inside) 9998

theorem batchText_decodes_iff {events : List FlowEvent} {probeId : CStr} (plain : ∀ event ∈ events, event.Plain)
    (plainId : PlainText probeId.bytes) (records : FlowEvent → (c : Column) → c.kind.Carrier) :
    DecodesTo (batchText events none probeId) (events.map records) ↔
      ∀ event ∈ events, ∀ c : Column, c.kind.received (Column.sent probeId event c) = records event c := by
  have decoded {event : FlowEvent} (inside : event ∈ events) (c : Column) :
      Column.decode (eventMembers probeId event) c = some (c.kind.received (Column.sent probeId event c)) :=
    Column.decode_members (sent_clean (plain event inside) plainId c)
  have read : readWhole (batchText events none probeId) = some (.array ((batchObjects events probeId).map .object)) :=
    batchText_read fun event inside c => Kind.framed_of_clean (sent_clean (plain event inside) plainId c)
  have injective : Function.Injective Value.object := fun _ _ => Value.object.inj
  constructor
  · rintro ⟨objects, result, each⟩ event inside c
    obtain rfl : batchObjects events probeId = objects := by
      rw [read] at result
      exact injective.list_map (Value.array.inj (Option.some.inj result))
    rw [batchObjects, List.forall₂_map_left_iff, List.forall₂_map_right_iff, List.forall₂_same] at each
    exact Option.some.inj ((decoded inside c).symm.trans (each event inside c))
  · intro same
    refine ⟨_, read, ?_⟩
    rw [batchObjects, List.forall₂_map_left_iff, List.forall₂_map_right_iff, List.forall₂_same]
    intro event inside c
    rw [decoded inside c, same event inside c]

/-- Every object carries its event and the probe of the call, each string as far as it is UTF-8. -/
theorem serialize_batch_decodes (events : List FlowEvent) (probeId : CStr) (size : Nat)
    (plain : ∀ event ∈ events, event.Plain) (plainId : PlainText probeId.bytes)
    (fits : (batchText events none probeId).length < size) :
    let r := serializeBatch events none probeId size
    DecodesTo (r.output.read r.written)
        (events.map fun event c => c.kind.received (Column.sent probeId event c)) ∧
      (DecodesTo (r.output.read r.written) (events.map (Column.sent probeId)) ↔
        ∀ event ∈ events, ∀ c : Column, c.kind.Portable (Column.sent probeId event c)) := by
  intro r
  rw [(serializeBatch_text events none probeId fits).2, batchText_decodes_iff plain plainId,
    batchText_decodes_iff plain plainId]
  simp only [Kind.received_eq_iff, implies_true, true_and]

/-- An event as `flow_tracker_update` records it, without a probe. -/
def pollEvent : FlowEvent := flowEvent 1700000000 .zero ⟨0x0100007f, 0x0200007f, 40000, 80, 6, 0, (0, 0)⟩ 1500

theorem pollEvent_plain : pollEvent.Plain ∧ PlainText stbProbe.bytes := by
  have plain : ∀ text ∈ [pollEvent.category.bytes, pollEvent.eventType.bytes, pollEvent.protocol.bytes,
      pollEvent.service.bytes, pollEvent.details.bytes, pollEvent.tags.bytes, stbProbe.bytes],
      ∀ byte ∈ text, byte ≠ 34 ∧ byte ≠ 92 ∧ ¬ byte < 32 := by decide +kernel
  simp only [List.forall_mem_cons] at plain
  obtain ⟨category, eventType, protocol, service, details, tags, probe, -⟩ := plain
  exact ⟨⟨category, eventType, protocol, service, details, tags⟩, probe⟩

theorem pollEvent_fits : (batchText [pollEvent] none stbProbe).length < 131072 := by decide +kernel

theorem poll_event_decodes :
    let r := serializeBatch [pollEvent] none stbProbe 131072
    pollEvent.Plain ∧ PlainText stbProbe.bytes ∧ (batchText [pollEvent] none stbProbe).length < 131072 ∧
    DecodesTo (r.output.read r.written) ([pollEvent].map fun event c => c.kind.received (Column.sent stbProbe event c)) ∧
      (DecodesTo (r.output.read r.written) ([pollEvent].map (Column.sent stbProbe)) ↔
        ∀ event ∈ [pollEvent], ∀ c : Column, c.kind.Portable (Column.sent stbProbe event c)) := by
  exact ⟨pollEvent_plain.1, pollEvent_plain.2, pollEvent_fits, serialize_batch_decodes [pollEvent] stbProbe 131072
    (by simpa using pollEvent_plain.1) pollEvent_plain.2 pollEvent_fits⟩

/-- The probe that is printed is not the one in the event. -/
theorem poll_event_probe_differs :
    let r := serializeBatch [pollEvent] none stbProbe 131072
    pollEvent.Plain ∧ PlainText stbProbe.bytes ∧ (batchText [pollEvent] none stbProbe).length < 131072 ∧
    ¬ DecodesTo (r.output.read r.written) ([pollEvent].map Column.get) := by
  refine ⟨pollEvent_plain.1, pollEvent_plain.2, pollEvent_fits, ?_⟩
  rw [(serializeBatch_text [pollEvent] none stbProbe pollEvent_fits).2,
    batchText_decodes_iff (by simpa using pollEvent_plain.1) pollEvent_plain.2]
  intro same
  have probe : Utf8.coerced stbProbe.bytes = [] := same pollEvent (by simp) .probeId
  exact absurd probe (by decide +kernel)

end StbEbpf.Probe
