import StbEbpf.Agent.Timestamp
import StbEbpf.Lib.Strconv

/-!
The body of an ingest request: `flush` marshals the batch with `encoding/json`, and the handler of `cmd/edge/main.go`
decodes it into `[]*output.Event`. Both go by the type of a field, so an event is taken apart by its fields.
-/

namespace StbEbpf.Agent
open CText Json Strconv

/-! ### The fields of an event -/

inductive Field where
  | timestamp | probeId | category | eventType | srcIp | dstIp | srcPort | dstPort | protocol | bytes | packets
  | latencyMs | service | details | tags | tenantId | clusterId
  deriving DecidableEq, Repr

/-- The types that the fields of an event have. -/
inductive Shape where
  | time | text | uint16 | uint64 | float64
  deriving DecidableEq, Repr

def Shape.Carrier : Shape → Type
  | .time => Time
  | .text => Bytes
  | .uint16 => UInt16
  | .uint64 => UInt64
  | .float64 => UInt64

namespace Field

/-- In the order of the struct. -/
def all : List Field :=
  [timestamp, probeId, category, eventType, srcIp, dstIp, srcPort, dstPort, protocol, bytes, packets, latencyMs,
    service, details, tags, tenantId, clusterId]

/-- The name in the tag of the field. -/
def tag : Field → String
  | timestamp => "timestamp"
  | probeId => "probe_id"
  | category => "category"
  | eventType => "event_type"
  | srcIp => "src_ip"
  | dstIp => "dst_ip"
  | srcPort => "src_port"
  | dstPort => "dst_port"
  | protocol => "protocol"
  | bytes => "bytes"
  | packets => "packets"
  | latencyMs => "latency_ms"
  | service => "service"
  | details => "details"
  | tags => "tags"
  | tenantId => "tenant_id"
  | clusterId => "cluster_id"

def key (f : Field) : Bytes := ascii f.tag

def shape : Field → Shape
  | timestamp => .time
  | srcPort | dstPort => .uint16
  | bytes | packets => .uint64
  | latencyMs => .float64
  | probeId | category | eventType | srcIp | dstIp | protocol | service | details | tags | tenantId | clusterId => .text

def get (e : Event) : (f : Field) → f.shape.Carrier
  | timestamp => e.timestamp
  | probeId => e.probeId
  | category => e.category
  | eventType => e.eventType
  | srcIp => e.srcIp
  | dstIp => e.dstIp
  | srcPort => e.srcPort
  | dstPort => e.dstPort
  | protocol => e.protocol
  | bytes => e.bytes
  | packets => e.packets
  | latencyMs => e.latencyMs
  | service => e.service
  | details => e.details
  | tags => e.tags
  | tenantId => e.tenantId
  | clusterId => e.clusterId

def set (e : Event) : (f : Field) → f.shape.Carrier → Event
  | timestamp, x => { e with timestamp := x }
  | probeId, x => { e with probeId := x }
  | category, x => { e with category := x }
  | eventType, x => { e with eventType := x }
  | srcIp, x => { e with srcIp := x }
  | dstIp, x => { e with dstIp := x }
  | srcPort, x => { e with srcPort := x }
  | dstPort, x => { e with dstPort := x }
  | protocol, x => { e with protocol := x }
  | bytes, x => { e with bytes := x }
  | packets, x => { e with packets := x }
  | latencyMs, x => { e with latencyMs := x }
  | service, x => { e with service := x }
  | details, x => { e with details := x }
  | tags, x => { e with tags := x }
  | tenantId, x => { e with tenantId := x }
  | clusterId, x => { e with clusterId := x }

end Field

/-! ### Encoding -/

/-- `none` is an error of `Marshal`. -/
def Shape.encode : (s : Shape) → s.Carrier → Option Value
  | .time, t => (appendStrictRFC3339 t).map .string
  | .text, content => some (.string (quoted content))
  | .uint16, n => some (.number (formatUint (UInt16.toNat n)))
  | .uint64, n => some (.number (formatUint (UInt64.toNat n)))
  | .float64, bits => (formatFloat bits).map .number

def Field.encode (e : Event) (f : Field) : Option (Bytes × Value) := (f.shape.encode (f.get e)).map (f.key, ·)

def Event.encode (e : Event) : Option Value := (Field.all.mapM (Field.encode e)).map .object

def marshal (events : List Event) : Option Bytes := (events.mapM Event.encode).map fun items => (Value.array items).text

/-- `flush` does not look at the error of `Marshal`, which comes with no data. -/
def flushData (events : List Event) : Bytes := (marshal events).getD []

/-! ### Decoding -/

/-- `none` is a value of another type or out of range. -/
def Shape.decode : (s : Shape) → Value → Option s.Carrier
  | .time, .string raw => parseRFC3339 raw
  | .text, .string raw => unquote raw
  | .uint16, .number n => (parseUint (2 ^ 16) n).map Nat.toUInt16
  | .uint64, .number n => (parseUint (2 ^ 64) n).map Nat.toUInt64
  | .float64, .number n => parseFloat n
  | _, _ => none

/-- Letters that fold to the same one; two of them are not ASCII. -/
def foldName : Bytes → Bytes
  | 0xC5 :: 0xBF :: rest => 83 :: foldName rest
  | 0xE2 :: 0x84 :: 0xAA :: rest => 75 :: foldName rest
  | byte :: rest => (if 97 ≤ byte ∧ byte ≤ 122 then byte - 32 else byte) :: foldName rest
  | [] => []

/-- The exact name goes before one that differs in case. -/
def Field.find (name : Bytes) : Option Field :=
  (all.find? (·.key = name)).or (all.find? fun f => foldName f.key = foldName name)

/-- One member of an object. Names of no field are skipped and `null` changes nothing. -/
def Event.decodeMember (e : Event) (member : Bytes × Value) : Option Event :=
  match unquote member.1 with
  | none => none
  | some name =>
    match Field.find name, member.2 with
    | none, _ => some e
    | some _, .null => some e
    | some f, value => (f.shape.decode value).map (f.set e)

/-- The first second of the year 1 in UTC, which is the zero value of `time.Time`. -/
def zeroTime : Time := .unix (-62135596800)

/-- An element of the array; `null` is a nil pointer. -/
def decodeEvent : Value → Option (Option Event)
  | .null => some none
  | .object members => (members.foldlM Event.decodeMember { timestamp := zeroTime }).map some
  | _ => none

/-- `none` is answered with status 400. -/
def decodeIngest (body : Bytes) : Option (List (Option Event)) :=
  match readFirst body with
  | some .null => some []
  | some (.array items) => items.mapM decodeEvent
  | _ => none

/-! ### A field there and back -/

/-- The value that arrives. -/
def Shape.received : (s : Shape) → s.Carrier → s.Carrier
  | .time, t => Time.received t
  | .text, content => Utf8.coerced content
  | .uint16, n => n
  | .uint64, n => n
  | .float64, bits => bits

theorem Shape.decode_encode {s : Shape} {x : s.Carrier} {value : Value} (encoded : s.encode x = some value) :
    s.decode value = some (s.received x) := by
  cases s with
  | time =>
    obtain ⟨text, written, rfl⟩ := Option.map_eq_some_iff.mp encoded
    exact parseRFC3339_append written
  | text =>
    obtain rfl := Option.some.inj encoded
    exact unquote_quoted x
  | uint16 =>
    obtain rfl := Option.some.inj encoded
    show (parseUint _ _).map _ = _
    rw [parseUint_format (UInt16.toNat_lt x)]
    exact congrArg some UInt16.ofNat_toNat
  | uint64 =>
    obtain rfl := Option.some.inj encoded
    show (parseUint _ _).map _ = _
    rw [parseUint_format (UInt64.toNat_lt x)]
    exact congrArg some UInt64.ofNat_toNat
  | float64 =>
    obtain ⟨numeral, written, rfl⟩ := Option.map_eq_some_iff.mp encoded
    exact parseFloat_format written

theorem Shape.decode_null (s : Shape) : s.decode .null = none := by cases s <;> rfl

theorem Shape.encode_printable {s : Shape} {x : s.Carrier} {value : Value} (encoded : s.encode x = some value)
    (depth : Nat) : Printable depth value := by
  cases s with
  | time =>
    obtain ⟨text, written, rfl⟩ := Option.map_eq_some_iff.mp encoded
    obtain ⟨-, -, -, rfl⟩ := appendStrictRFC3339_eq_some written
    exact .string depth (enclosed_of_plain (appendFormatRFC3339_plain x))
  | text =>
    obtain rfl := Option.some.inj encoded
    exact .string depth (quoted_enclosed x)
  | uint16 | uint64 =>
    obtain rfl := Option.some.inj encoded
    exact .number depth (formatUint_ok _)
  | float64 =>
    obtain ⟨numeral, written, rfl⟩ := Option.map_eq_some_iff.mp encoded
    exact .number depth (formatFloat_ok written)

/-- The values that arrive as they are. -/
def Shape.Portable : (s : Shape) → s.Carrier → Prop
  | .time, t => 0 ≤ (Time.date t).year ∧ (Time.date t).year ≤ 9999 ∧ Time.zone t % 60 = 0 ∧ (Time.zone t).natAbs < 86400
  | .text, content => Utf8.valid content = true
  | .uint16, _ => True
  | .uint64, _ => True
  | .float64, bits => UInt64.toNat bits % 2 ^ 63 < Float64.infinity

theorem Shape.portable_iff (s : Shape) (x : s.Carrier) :
    s.Portable x ↔ (∃ value, s.encode x = some value) ∧ s.received x = x := by
  cases s with
  | time =>
    have whole : ((Time.zone x).tdiv 60).natAbs = (Time.zone x).natAbs / 60 := Int.natAbs_tdiv ..
    constructor
    · rintro ⟨least, most, minutes, near⟩
      refine ⟨⟨.string (appendFormatRFC3339 x), ?_⟩, (Time.received_eq_iff x).mpr minutes⟩
      show (appendStrictRFC3339 x).map _ = _
      unfold appendStrictRFC3339
      rw [if_neg (by omega), if_neg (by omega)]
      rfl
    · rintro ⟨⟨value, encoded⟩, same⟩
      obtain ⟨text, written, -⟩ := Option.map_eq_some_iff.mp encoded
      obtain ⟨least, most, near, -⟩ := appendStrictRFC3339_eq_some written
      exact ⟨least, most, (Time.received_eq_iff x).mp same, by omega⟩
  | text =>
    constructor
    · intro valid
      exact ⟨⟨_, rfl⟩, (Utf8.coerced_eq_iff x).mpr valid⟩
    · rintro ⟨-, same⟩
      exact (Utf8.coerced_eq_iff x).mp same
  | uint16 | uint64 => exact ⟨fun _ => ⟨⟨_, rfl⟩, rfl⟩, fun _ => trivial⟩
  | float64 =>
    constructor
    · intro finite
      refine ⟨⟨_, congrArg (Option.map Value.number) (if_neg (Nat.not_le.mpr finite))⟩, rfl⟩
    · rintro ⟨⟨value, encoded⟩, -⟩
      obtain ⟨numeral, written, -⟩ := Option.map_eq_some_iff.mp encoded
      exact (formatFloat_eq_some written).1

/-! ### An event there and back -/

theorem Field.mem_all (f : Field) : f ∈ all := by cases f <;> decide

theorem Field.key_plain (f : Field) : ∀ byte ∈ f.key, Plain byte ∧ byte < 0x80 := by
  have letters : ∀ f ∈ all, f.key.all (Utf8.within 95 122) = true := by decide +kernel
  intro byte inside
  obtain ⟨low, high⟩ := (Utf8.within_iff ..).mp (List.all_eq_true.mp (letters f f.mem_all) byte inside)
  refine ⟨plain_of_range (Nat.le_trans (by decide) low) (Nat.ne_of_gt (Nat.lt_of_lt_of_le (by decide) low)), ?_⟩
  exact UInt8.lt_iff_toNat_lt.mpr (Nat.lt_of_le_of_lt high (by decide))

theorem Field.find_key (f : Field) : find f.key = some f := by
  have each : ∀ f ∈ all, find f.key = some f := by decide +kernel
  exact each f f.mem_all

theorem Event.eq_of_get {a b : Event} (same : ∀ f : Field, f.get a = f.get b) : a = b := by
  cases a
  cases b
  rw [Event.mk.injEq]
  exact ⟨same .timestamp, same .probeId, same .category, same .eventType, same .srcIp, same .dstIp, same .srcPort,
    same .dstPort, same .protocol, same .bytes, same .packets, same .latencyMs, same .service, same .details, same .tags,
    same .tenantId, same .clusterId⟩

/-- The event that a decoder has after some fields of another one have arrived. -/
def Event.receive (e : Event) (fields : List Field) (start : Event) : Event :=
  fields.foldl (fun taken f => f.set taken (f.shape.received (f.get e))) start

def Event.received (e : Event) : Event := e.receive Field.all { timestamp := zeroTime }

theorem Field.get_received (e : Event) (f : Field) : f.get e.received = f.shape.received (f.get e) := by cases f <;> rfl

theorem Event.received_eq_iff (e : Event) : e.received = e ↔ ∀ f : Field, f.shape.received (f.get e) = f.get e := by
  constructor
  · intro same f
    rw [← Field.get_received, same]
  · intro same
    apply Event.eq_of_get
    intro f
    rw [Field.get_received, same]

theorem Event.decodeMember_encode {e : Event} {f : Field} {member : Bytes × Value} (encoded : f.encode e = some member)
    (start : Event) : start.decodeMember member = some (f.set start (f.shape.received (f.get e))) := by
  obtain ⟨value, written, rfl⟩ := Option.map_eq_some_iff.mp encoded
  have read := Shape.decode_encode written
  unfold decodeMember
  rw [unquote_plain f.key_plain]
  dsimp only
  rw [f.find_key]
  cases value with
  | null => exact absurd (f.shape.decode_null.symm.trans read) nofun
  | _ => exact congrArg (Option.map (f.set start)) read

theorem mapM_eq_some_iff {α β : Type} {f : α → Option β} {items : List α} {found : List β} :
    items.mapM f = some found ↔ List.Forall₂ (fun item b => f item = some b) items found := by
  induction items generalizing found with
  | nil => simp [eq_comm]
  | cons item items ih =>
    rw [List.mapM_cons, List.forall₂_cons_left_iff]
    simp only [Option.bind_eq_bind, Option.bind_eq_some_iff, Option.pure_def, Option.some.injEq, ih]
    constructor
    · rintro ⟨b, first, rest, others, rfl⟩
      exact ⟨b, rest, first, others, rfl⟩
    · rintro ⟨b, rest, first, others, rfl⟩
      exact ⟨b, first, rest, others, rfl⟩

theorem exists_of_mem_mapM {α β : Type} {f : α → Option β} {items : List α} {found : List β}
    (all : items.mapM f = some found) {b : β} (inside : b ∈ found) : ∃ item ∈ items, f item = some b := by
  have pairs := mapM_eq_some_iff.mp all
  clear all
  induction pairs with
  | nil => cases inside
  | cons first _ ih =>
    rcases List.mem_cons.mp inside with rfl | later
    · exact ⟨_, List.mem_cons_self, first⟩
    · obtain ⟨item, member, same⟩ := ih later
      exact ⟨item, List.mem_cons_of_mem _ member, same⟩

theorem exists_mapM_iff {α β : Type} {f : α → Option β} {items : List α} :
    (∃ found, items.mapM f = some found) ↔ ∀ item ∈ items, ∃ b, f item = some b := by
  induction items with
  | nil => simp
  | cons item items ih =>
    rw [List.forall_mem_cons, ← ih]
    simp only [List.mapM_cons, Option.bind_eq_bind, Option.bind_eq_some_iff, Option.pure_def, Option.some.injEq]
    constructor
    · rintro ⟨found, b, first, rest, others, -⟩
      exact ⟨⟨b, first⟩, rest, others⟩
    · rintro ⟨⟨b, first⟩, rest, others⟩
      exact ⟨_, b, first, rest, others, rfl⟩

theorem Event.decode_encode {e : Event} {value : Value} (encoded : e.encode = some value) :
    decodeEvent value = some (some e.received) := by
  obtain ⟨members, written, rfl⟩ := Option.map_eq_some_iff.mp encoded
  have reads (fields : List Field) (members : List (Bytes × Value))
      (written : List.Forall₂ (fun f member => Field.encode e f = some member) fields members) (start : Event) :
      members.foldlM decodeMember start = some (e.receive fields start) := by
    induction written generalizing start with
    | nil => rfl
    | cons first _ ih =>
      rw [List.foldlM_cons, decodeMember_encode first]
      exact ih _
  exact congrArg (Option.map some) (reads _ _ (mapM_eq_some_iff.mp written) _)

theorem Event.encode_printable {e : Event} {value : Value} (encoded : e.encode = some value) (depth : Nat) :
    Printable (depth + 1) value := by
  obtain ⟨members, written, rfl⟩ := Option.map_eq_some_iff.mp encoded
  apply Printable.object
  · intro pair inside
    obtain ⟨f, -, encoded⟩ := exists_of_mem_mapM written inside
    obtain ⟨value, -, rfl⟩ := Option.map_eq_some_iff.mp encoded
    exact enclosed_of_plain fun byte inside => (f.key_plain byte inside).1
  · intro pair inside
    obtain ⟨f, -, encoded⟩ := exists_of_mem_mapM written inside
    obtain ⟨value, written, rfl⟩ := Option.map_eq_some_iff.mp encoded
    exact Shape.encode_printable written depth

def Event.Portable (e : Event) : Prop := ∀ f : Field, f.shape.Portable (f.get e)

theorem Event.portable_iff (e : Event) : e.Portable ↔ (∃ value, e.encode = some value) ∧ e.received = e := by
  have each : (∃ value, e.encode = some value) ↔ ∀ f : Field, ∃ value, f.shape.encode (f.get e) = some value := by
    constructor
    · rintro ⟨value, encoded⟩ f
      obtain ⟨members, written, -⟩ := Option.map_eq_some_iff.mp encoded
      obtain ⟨member, field⟩ := exists_mapM_iff.mp ⟨members, written⟩ f f.mem_all
      obtain ⟨content, written, -⟩ := Option.map_eq_some_iff.mp field
      exact ⟨content, written⟩
    · intro every
      have fields (f : Field) (_ : f ∈ Field.all) : ∃ member, f.encode e = some member := by
        obtain ⟨content, written⟩ := every f
        exact ⟨_, congrArg (Option.map (f.key, ·)) written⟩
      obtain ⟨members, written⟩ := exists_mapM_iff.mpr fields
      exact ⟨.object members, congrArg (Option.map Value.object) written⟩
  rw [each, received_eq_iff, ← forall_and]
  exact forall_congr' fun f => f.shape.portable_iff _

/-! ### A batch there and back -/

theorem marshal_iff (events : List Event) :
    (∃ data, marshal events = some data) ↔ ∀ e ∈ events, ∃ value, e.encode = some value := by
  rw [← exists_mapM_iff]
  constructor
  · rintro ⟨data, written⟩
    obtain ⟨items, encoded, -⟩ := Option.map_eq_some_iff.mp written
    exact ⟨items, encoded⟩
  · rintro ⟨items, encoded⟩
    exact ⟨_, congrArg (Option.map fun items => (Value.array items).text) encoded⟩

theorem decodeIngest_marshal {events : List Event} {data : Bytes} (written : marshal events = some data) :
    decodeIngest data = some (events.map fun e => some e.received) := by
  obtain ⟨items, encoded, rfl⟩ := Option.map_eq_some_iff.mp written
  have printable : Printable (9999 + 1) (.array items) := by
    apply Printable.array
    intro item inside
    obtain ⟨e, -, encoded⟩ := exists_of_mem_mapM encoded inside
    exact Event.encode_printable encoded 9998
  unfold decodeIngest
  rw [readFirst_text printable]
  apply mapM_eq_some_iff.mpr
  rw [List.forall₂_map_right_iff]
  exact (mapM_eq_some_iff.mp encoded).flip.imp fun _ _ => Event.decode_encode

/-- A batch arrives as it is if and only if all its events can be carried. -/
theorem ingest_decodes_flushed_iff (events : List Event) :
    decodeIngest (flushData events) = some (events.map some) ↔ ∀ e ∈ events, e.Portable := by
  simp only [Event.portable_iff, forall₂_and]
  rw [← marshal_iff]
  unfold flushData
  cases written : marshal events with
  | none =>
    -- An empty body is the end of the input.
    exact ⟨nofun, fun ⟨⟨_, impossible⟩, _⟩ => absurd impossible nofun⟩
  | some data =>
    rw [Option.getD_some, decodeIngest_marshal written, Option.some.injEq, List.map_inj_left]
    simp

/-- An answer of a name server as the trace collectors put it into `Details`. -/
def binaryEvent : Event := { timestamp := .unix 1700000000, details := [0x81, 0x80, 0x61] }

theorem binary_details_replaced :
    decodeIngest (flushData [binaryEvent]) =
      some [some { binaryEvent with details := [0xEF, 0xBF, 0xBD, 0xEF, 0xBF, 0xBD, 0x61] }] ∧
    decodeIngest (flushData [binaryEvent]) ≠ some [some binaryEvent] := by
  have writes : (marshal [binaryEvent]).isSome = true := by decide +kernel
  obtain ⟨data, written⟩ := Option.isSome_iff_exists.mp writes
  have arrives : decodeIngest (flushData [binaryEvent]) = some [some binaryEvent.received] := by
    unfold flushData
    rw [written]
    exact decodeIngest_marshal written
  rw [arrives]
  decide +kernel

end StbEbpf.Agent
