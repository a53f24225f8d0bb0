import Mathlib.Data.Nat.ModEq
import StbEbpf.Lib.Pool
import StbEbpf.Protocol.Aggregation

/-!
Conservation of traffic in the protocol collector: what the packets of a flow bring stands in the map, with a flush, or
in the events, and nowhere else.
-/

namespace StbEbpf.Protocol.ProtocolCollector
open CText Access NetworkOrder Pool Tally
open StbEbpf.Agent (Time Event GoMap)

/-! ### Parsing ends -/

namespace processIPv4

theorem httpRecord_completes (table : UnicodeCase) (tcpPayload srcIP dstIP : Bytes) (srcPort dstPort : UInt16) :
    Completes (httpRecord table tcpPayload srcIP dstIP srcPort dstPort) := by
  unfold httpRecord
  split
  · exact parseHTTP_completes table.apart tcpPayload srcIP dstIP srcPort dstPort
  · exact completes_pure _

theorem dnsRecord_completes (payload srcIP dstIP : Bytes) (ihl : Nat) (srcPort dstPort : UInt16) :
    Completes (dnsRecord payload srcIP dstIP ihl srcPort dstPort) := by
  unfold dnsRecord
  split
  · exact parseDNS_completes _ srcIP dstIP
  · exact completes_pure _

theorem tcpHeader_completes (payload : Bytes) (ihl : Nat) : Completes (tcpHeader payload ihl) := by
  unfold tcpHeader
  split
  · exact completes_pure _
  · refine completes_bind (completes_readWord16 (by omega)) fun _ => ?_
    refine completes_bind (completes_readWord16 (by omega)) fun _ => ?_
    refine completes_bind (completes_readAt (by omega)) fun _ => ?_
    exact completes_bind (completes_readAt (by omega)) fun _ => completes_pure _

theorem udpHeader_completes (payload : Bytes) (ihl : Nat) : Completes (udpHeader payload ihl) := by
  unfold udpHeader
  split
  · exact completes_pure _
  · refine completes_bind (completes_readWord16 (by omega)) fun _ => ?_
    exact completes_bind (completes_readWord16 (by omega)) fun _ => completes_pure _

theorem tcp_completes (table : UnicodeCase) (payload srcIP dstIP : Bytes) (ihl : Nat) :
    Completes (tcp table payload srcIP dstIP ihl) := by
  refine completes_bind (tcpHeader_completes payload ihl) fun _ => ?_
  exact completes_bind (httpRecord_completes table _ _ _ _ _) fun _ => completes_pure _

theorem udp_completes (payload srcIP dstIP : Bytes) (ihl : Nat) : Completes (udp payload srcIP dstIP ihl) := by
  refine completes_bind (udpHeader_completes payload ihl) fun _ => ?_
  exact completes_bind (dnsRecord_completes _ _ _ _ _ _) fun _ => completes_pure _

theorem transport_completes (table : UnicodeCase) (payload srcIP dstIP : Bytes) (ihl : Nat) (protocol : UInt8) :
    Completes (transport table payload srcIP dstIP ihl protocol) := by
  unfold transport
  split
  · exact tcp_completes table payload srcIP dstIP ihl
  · split
    · exact udp_completes payload srcIP dstIP ihl
    · split <;> exact completes_pure _

end processIPv4

/-! ### Keys -/

/-- No colon in the addresses, so that a key tells its parts. -/
def Flow.Plain (flow : Flow) : Prop := 58 ∉ flow.srcIP ∧ 58 ∉ flow.dstIP

theorem ipString_plain (slice : Bytes) : 58 ∉ ipString slice := by
  have number (n : Nat) : 58 ∉ decimal n := fun member => absurd (decimal_digits member) (by decide)
  unfold ipString
  split
  · simp [Agent.dotted, number]
  · simp

theorem key_inj {p q : Flow} (left : p.Plain) (right : q.Plain) : p.key = q.key ↔ p = q := by
  constructor
  · intro same
    obtain ⟨src, rest⟩ := split_at left.1 right.1 same
    obtain ⟨srcPort, rest⟩ := decimal_split (by decide) rest
    obtain ⟨dst, rest⟩ := split_at left.2 right.2 (List.cons.inj rest).2
    obtain ⟨dstPort, protocol⟩ := decimal_split (by decide) rest
    cases p
    cases q
    cases src
    cases dst
    cases protocol
    cases UInt16.toNat_inj.mp srcPort
    cases UInt16.toNat_inj.mp dstPort
    rfl
  · rintro rfl
    rfl

theorem parse_plain (table : UnicodeCase) (payload : Bytes) :
    Safe (processIPv4.parse table payload) fun result => ∀ arrival ∈ result, arrival.flow.Plain := by
  unfold processIPv4.parse
  split
  · exact safe_pure (by simp)
  · refine safe_bind (completes_readAt (by omega)) fun versionIHL _ => ?_
    dsimp only
    split
    · exact safe_pure (by simp)
    · refine safe_bind (completes_readAt (by omega)) fun protocol _ => ?_
      refine safe_bind (completes_readRange (by omega)) fun src _ => ?_
      refine safe_bind (completes_readRange (by omega)) fun dst _ => ?_
      split
      · exact safe_pure (by simp)
      · refine safe_bind (processIPv4.transport_completes table payload _ _ _ protocol) fun part _ => safe_pure ?_
        rintro arrival ⟨⟩
        exact ⟨ipString_plain src, ipString_plain dst⟩

/-! ### What is counted -/

def reportedFlow (event : Event) : Flow where
  srcIP := event.srcIp
  dstIP := event.dstIp
  srcPort := event.srcPort
  dstPort := event.dstPort
  protocol := event.protocol

/-- A quantity that a packet brings, a record carries and an event reports. -/
structure Gauge where
  brought : Arrival → Nat
  carried : FlowRecord → UInt64
  reported : Event → UInt64
  opened : ∀ arrival, (carried (.opened arrival)).toNat ≡ brought arrival [MOD 2 ^ 64]
  grown : ∀ ag arrival, (carried (ag.grown arrival)).toNat ≡ (carried ag).toNat + brought arrival [MOD 2 ^ 64]
  told : ∀ probeId now ag, reported (flowEvent probeId now ag) = carried ag

theorem ofNat_modEq (n : Nat) : (UInt64.ofNat n).toNat ≡ n [MOD 2 ^ 64] := by
  rw [UInt64.toNat_ofNat']
  exact Nat.mod_modEq n (2 ^ 64)

theorem add_modEq (first second : UInt64) : (first + second).toNat ≡ first.toNat + second.toNat [MOD 2 ^ 64] := by
  rw [UInt64.toNat_add]
  exact Nat.mod_modEq _ (2 ^ 64)

theorem grown_packets (ag : FlowRecord) (arrival : Arrival) :
    (ag.grown arrival).packets.toNat ≡ ag.packets.toNat + 1 [MOD 2 ^ 64] :=
  add_modEq ag.packets 1

theorem opened_bytes (arrival : Arrival) : (FlowRecord.opened arrival).bytes.toNat ≡ arrival.size [MOD 2 ^ 64] :=
  ofNat_modEq arrival.size

theorem opened_packets (arrival : Arrival) : (FlowRecord.opened arrival).packets.toNat ≡ 1 [MOD 2 ^ 64] := rfl

theorem told_bytes (probeId : Bytes) (now : Time) (ag : FlowRecord) : (flowEvent probeId now ag).bytes = ag.bytes := rfl

theorem told_packets (probeId : Bytes) (now : Time) (ag : FlowRecord) : (flowEvent probeId now ag).packets = ag.packets :=
  rfl

theorem grown_bytes (ag : FlowRecord) (arrival : Arrival) :
    (ag.grown arrival).bytes.toNat ≡ ag.bytes.toNat + arrival.size [MOD 2 ^ 64] :=
  (add_modEq ag.bytes _).trans ((ofNat_modEq arrival.size).add_left _)

namespace Gauge

def bytes : Gauge where
  brought := Arrival.size
  carried := FlowRecord.bytes
  reported := Event.bytes
  opened := opened_bytes
  grown := grown_bytes
  told := told_bytes

def packets : Gauge where
  brought := fun _ => 1
  carried := FlowRecord.packets
  reported := Event.packets
  opened := opened_packets
  grown := grown_packets
  told := told_packets

variable (gauge : Gauge) (flow : Flow)

def inPackets (arrivals : List Arrival) : Nat := total Arrival.flow gauge.brought flow arrivals

def inRecords (records : List FlowRecord) : Nat := total FlowRecord.toFlow (fun ag => (gauge.carried ag).toNat) flow records

/-- Over the events of type `flow`. -/
def inEvents (events : List Event) : Nat :=
  total reportedFlow (fun event => (gauge.reported event).toNat) flow (events.filter (·.eventType = ascii "flow"))

end Gauge

def Call.detached : Call → List FlowRecord
  | .emitting _ flows _ _ => flows
  | _ => []

/-- The packet that a call has not brought into the map yet. -/
def Call.awaited : Call → List Arrival
  | .recording arrival _ => [arrival]
  | .aggregating arrival => [arrival]
  | _ => []

namespace Collector

def snapshots (c : Collector) : List FlowRecord := holdings Call.detached c.calls

def inProgress (c : Collector) : List Arrival := holdings Call.awaited c.calls

def Conserves (c : Collector) (gauge : Gauge) (arrivals : List Arrival) : Prop :=
  ∀ flow, gauge.inEvents flow c.emitted + gauge.inRecords flow c.snapshots + gauge.inRecords flow (values c.flows) +
    gauge.inPackets flow c.inProgress ≡ gauge.inPackets flow arrivals [MOD 2 ^ 64]

end Collector

/-! ### The map -/

/-- Every record stands under the key of its flow. -/
def Keyed (flows : Flows) : Prop := ∀ key ag, flows.lookup key = some ag → ag.toFlow.key = key ∧ ag.toFlow.Plain

section
variable {flows : Flows} {arrival : Arrival} (plain : arrival.flow.Plain)
include plain

theorem aggregate_keyed (keyed : Keyed flows) : Keyed (aggregate flows arrival) := by
  intro key ag found
  unfold aggregate at found
  by_cases same : key = arrival.flow.key
  · subst same
    split at found
    · rename_i old here
      rw [AList.lookup_insert] at found
      cases found
      exact keyed _ old here
    · rw [AList.lookup_insert] at found
      cases found
      exact ⟨rfl, plain⟩
  · split at found <;>
    · rw [AList.lookup_insert_ne same] at found
      exact keyed key ag found

theorem aggregate_conserves (keyed : Keyed flows) (gauge : Gauge) (flow : Flow) :
    gauge.inRecords flow (values (aggregate flows arrival)) ≡
      gauge.inRecords flow (values flows) + gauge.inPackets flow [arrival] [MOD 2 ^ 64] := by
  unfold aggregate Gauge.inRecords Gauge.inPackets
  split
  · rename_i ag found
    -- the record that grows is the one of this flow
    obtain ⟨key, known⟩ := keyed _ ag found
    have same : ag.toFlow = arrival.flow := (key_inj known plain).mp key
    have kept : (ag.grown arrival).toFlow = arrival.flow := same
    obtain ⟨others, before, after⟩ := values_replace found
    rw [total_perm before, total_perm (after _)]
    simp only [total, same, kept, Nat.add_zero]
    split
    · have grown := (gauge.grown ag arrival).add_right (total FlowRecord.toFlow (fun ag => (gauge.carried ag).toNat) flow others)
      rwa [Nat.add_right_comm] at grown
    · simpa using Nat.ModEq.refl _
  · rename_i missing
    have named : (FlowRecord.opened arrival).toFlow = arrival.flow := rfl
    rw [values_add missing]
    simp only [total, named, Nat.add_zero]
    rw [Nat.add_comm]
    split
    · exact (gauge.opened arrival).add_left _
    · exact Nat.ModEq.refl _

/-- A packet changes the record of the packets with the same five components, and no other. -/
theorem aggregate_changes_iff {other : Arrival} (known : other.flow.Plain) :
    (aggregate flows arrival).lookup other.flow.key ≠ flows.lookup other.flow.key ↔ arrival.flow = other.flow := by
  rw [← key_inj plain known]
  unfold aggregate
  constructor
  · intro changed
    by_contra different
    apply changed
    split <;> exact AList.lookup_insert_ne (Ne.symm different)
  · intro same
    rw [← same]
    split
    · rename_i ag found
      rw [found, AList.lookup_insert]
      intro unchanged
      have packets := congrArg FlowRecord.packets (Option.some.inj unchanged)
      have one : ag.packets + 1 = ag.packets + 0 := by rw [UInt64.add_zero]; exact packets
      exact absurd (UInt64.add_right_inj ag.packets |>.mp one) (by decide)
    · rename_i missing
      rw [missing, AList.lookup_insert]
      simp

end

/-! ### Steps -/

namespace Collector

structure Sound (c : Collector) : Prop where
  keyed : Keyed c.flows
  plain : ∀ arrival ∈ c.accepted, arrival.flow.Plain
  awaited : ∀ arrival ∈ c.inProgress, arrival ∈ c.accepted
  conserves : ∀ gauge, c.Conserves gauge c.accepted

theorem sound_init : Sound {} where
  keyed := by
    intro key ag found
    cases found
  plain := by simp
  awaited := by
    intro arrival member
    cases member
  conserves := fun _ _ => rfl

theorem accept_sound {c : Collector} (sound : c.Sound) {arrival : Arrival} (plain : arrival.flow.Plain) :
    (c.accept arrival).Sound := by
  have awaited : arrival.call.awaited = [arrival] := by
    unfold Arrival.call
    split <;> rfl
  have detached : arrival.call.detached = [] := by
    unfold Arrival.call
    split <;> rfl
  have progress : (c.accept arrival).inProgress = c.inProgress ++ [arrival] := by
    rw [← awaited]
    exact holdings_append arrival.call
  have snapshots : (c.accept arrival).snapshots = c.snapshots := by
    have grown : (c.accept arrival).snapshots = c.snapshots ++ arrival.call.detached := holdings_append arrival.call
    rw [grown, detached, List.append_nil]
  constructor
  case keyed => exact sound.keyed
  case plain =>
    intro other member
    rcases List.mem_append.mp member with old | new
    · exact sound.plain other old
    · cases List.mem_singleton.mp new
      exact plain
  case awaited =>
    intro other member
    rw [progress] at member
    rcases List.mem_append.mp member with old | new
    · exact List.mem_append_left _ (sound.awaited other old)
    · exact List.mem_append_right _ new
  case conserves =>
    intro gauge flow
    have before := (sound.conserves gauge flow).add_right (gauge.inPackets flow [arrival])
    rw [progress, snapshots]
    unfold Gauge.inPackets at before ⊢
    show _ ≡ total Arrival.flow gauge.brought flow (c.accepted ++ [arrival]) [MOD 2 ^ 64]
    rwa [total_append, total_append, ← Nat.add_assoc]

/-- A call moves on: what it held and what it holds now, with the map and the events, amount to the same. -/
theorem move_sound {c t : Collector} (sound : c.Sound) {call : Nat} {old new : Call} (stands : c.calls[call]? = some old)
    (moved : t.calls = c.calls.set call new) (accepted : t.accepted = c.accepted) (keyed : Keyed t.flows)
    (fewer : new.awaited ⊆ old.awaited)
    (kept : ∀ gauge flow, Gauge.inEvents gauge flow t.emitted + gauge.inRecords flow new.detached +
        gauge.inRecords flow (values t.flows) + gauge.inPackets flow new.awaited ≡
      gauge.inEvents flow c.emitted + gauge.inRecords flow old.detached +
        gauge.inRecords flow (values c.flows) + gauge.inPackets flow old.awaited [MOD 2 ^ 64]) : t.Sound := by
  obtain ⟨otherRecords, (heldRecords : c.snapshots.Perm _), nowRecords⟩ := holdings_set Call.detached stands
  obtain ⟨otherPackets, (heldPackets : c.inProgress.Perm _), nowPackets⟩ := holdings_set Call.awaited stands
  have records : t.snapshots.Perm (new.detached ++ otherRecords) := by
    unfold snapshots
    rw [moved]
    exact nowRecords new
  have packets : t.inProgress.Perm (new.awaited ++ otherPackets) := by
    unfold inProgress
    rw [moved]
    exact nowPackets new
  constructor
  case keyed => exact keyed
  case plain => rw [accepted]; exact sound.plain
  case awaited =>
    intro arrival member
    rw [accepted]
    apply sound.awaited arrival
    apply heldPackets.mem_iff.mpr
    rcases List.mem_append.mp (packets.mem_iff.mp member) with mine | others
    · exact List.mem_append_left _ (fewer mine)
    · exact List.mem_append_right _ others
  case conserves =>
    intro gauge flow
    have before := sound.conserves gauge flow
    rw [accepted]
    refine Nat.ModEq.trans ?_ before
    have same := (kept gauge flow).add_right (gauge.inRecords flow otherRecords + gauge.inPackets flow otherPackets)
    unfold Gauge.inRecords Gauge.inPackets at same ⊢
    rw [total_perm records, total_perm packets, total_perm heldRecords, total_perm heldPackets]
    simp only [total_append]
    convert same using 1 <;> omega

theorem keep_sound {c : Collector} (sound : c.Sound) {call : Nat} {arrival : Arrival} {record : AppRecord}
    (stands : c.calls[call]? = some (.recording arrival record)) : (c.keep call arrival record).Sound := by
  unfold keep
  split <;> exact move_sound sound stands rfl rfl sound.keyed (List.Subset.refl _) fun _ _ => rfl

theorem count_sound {c : Collector} (sound : c.Sound) {call : Nat} {arrival : Arrival}
    (stands : c.calls[call]? = some (.aggregating arrival)) : (c.count call arrival).Sound := by
  have held : arrival ∈ c.inProgress := List.mem_flatMap.mpr ⟨_, List.mem_of_getElem? stands, List.mem_singleton_self _⟩
  have plain := sound.plain arrival (sound.awaited arrival held)
  refine move_sound sound stands rfl rfl (aggregate_keyed plain sound.keyed) (List.nil_subset _) ?_
  intro gauge flow
  have added := (aggregate_conserves plain sound.keyed gauge flow).add_left (gauge.inEvents flow c.emitted)
  rwa [← Nat.add_assoc] at added

theorem detach_sound {c : Collector} (sound : c.Sound) {call : Nat} (stands : c.calls[call]? = some .flushing)
    (now : Time) : (c.detach call now).Sound := by
  refine move_sound sound stands rfl rfl sound_init.keyed (List.Subset.refl _) ?_
  intro gauge flow
  exact Nat.ModEq.refl _

/-- Events of other types report no flow. -/
theorem inEvents_other (gauge : Gauge) (flow : Flow) (events : List Event) {event : Event}
    (other : event.eventType ≠ ascii "flow") : gauge.inEvents flow (events ++ [event]) = gauge.inEvents flow events := by
  unfold Gauge.inEvents
  rw [List.filter_append, List.filter_cons_of_neg (by simpa using other), List.filter_nil, List.append_nil]

theorem inEvents_flow (gauge : Gauge) (flow : Flow) (events : List Event) (probeId : Bytes) (now : Time) (ag : FlowRecord) :
    gauge.inEvents flow (events ++ [flowEvent probeId now ag]) =
      gauge.inEvents flow events + gauge.inRecords flow [ag] := by
  have shown : reportedFlow (flowEvent probeId now ag) = ag.toFlow := rfl
  unfold Gauge.inEvents Gauge.inRecords
  rw [List.filter_append, List.filter_cons_of_pos (by exact decide_eq_true rfl), List.filter_nil, total_append]
  simp only [total, shown, gauge.told]

theorem inRecords_eraseIdx (gauge : Gauge) (flow : Flow) {records : List FlowRecord} {i : Nat} {next : FlowRecord}
    (found : records[i]? = some next) :
    gauge.inRecords flow records = gauge.inRecords flow [next] + gauge.inRecords flow (records.eraseIdx i) := by
  obtain ⟨inside, rfl⟩ := List.getElem?_eq_some_iff.mp found
  unfold Gauge.inRecords
  rw [← total_append]
  exact total_perm (List.getElem_cons_eraseIdx_perm inside).symm

theorem write_sound {c : Collector} (sound : c.Sound) {call : Nat} {now : Time} {flows : List FlowRecord}
    {https : List HTTPRecord} {dnss : List DNSRecord} (stands : c.calls[call]? = some (.emitting now flows https dnss))
    (probeId : Bytes) (i : Nat) : (c.write probeId call i now flows https dnss).Sound := by
  unfold write
  split
  · split
    · rename_i next found
      refine move_sound sound stands rfl rfl sound.keyed (List.Subset.refl _) ?_
      intro gauge flow
      unfold Call.detached
      rw [inEvents_flow, inRecords_eraseIdx gauge flow found, Nat.add_assoc (gauge.inEvents flow c.emitted)]
      rfl
    · exact sound
  · have other : ascii "http" ≠ ascii "flow" := by decide
    refine move_sound sound stands rfl rfl sound.keyed (List.Subset.refl _) ?_
    intro gauge flow
    rw [inEvents_other gauge flow _ other]
    rfl
  · have other : ascii "dns" ≠ ascii "flow" := by decide
    refine move_sound sound stands rfl rfl sound.keyed (List.Subset.refl _) ?_
    intro gauge flow
    rw [inEvents_other gauge flow _ other]
    rfl
  · exact move_sound sound stands rfl rfl sound.keyed (List.Subset.refl _) fun _ _ => rfl

theorem write_accepted (c : Collector) (probeId : Bytes) (call i : Nat) (now : Time) (flows : List FlowRecord)
    (https : List HTTPRecord) (dnss : List DNSRecord) :
    (c.write probeId call i now flows https dnss).accepted = c.accepted := by
  unfold write
  split
  · split <;> rfl
  · rfl
  · rfl
  · rfl

theorem flush_sound {c : Collector} (sound : c.Sound) : Sound { c with calls := c.calls ++ [.flushing] } := by
  have records : holdings Call.detached (c.calls ++ [.flushing]) = c.snapshots := by
    rw [holdings_append]
    exact List.append_nil _
  have packets : holdings Call.awaited (c.calls ++ [.flushing]) = c.inProgress := by
    rw [holdings_append]
    exact List.append_nil _
  constructor
  case keyed => exact sound.keyed
  case plain => exact sound.plain
  case awaited =>
    unfold inProgress
    rw [packets]
    exact sound.awaited
  case conserves =>
    unfold Conserves inProgress snapshots
    rw [packets, records]
    exact sound.conserves

end Collector

/-! ### Runs -/

/-- The packet of an action, unless `processIPv4` rejects it. -/
def Action.arrival (table : UnicodeCase) : Action → Option Arrival
  | .processIPv4 payload =>
    match processIPv4.parse table payload with
    | .ok result => result
    | .error _ => none
  | _ => none

namespace Collector

theorem step_sound (table : UnicodeCase) (probeId : Bytes) {c : Collector} (sound : c.Sound) (action : Action) :
    Safe (c.step table probeId action) fun t => t.Sound ∧ t.accepted = c.accepted ++ (action.arrival table).toList := by
  have same : c.accepted = c.accepted ++ [] := (List.append_nil _).symm
  cases action with
  | processIPv4 payload =>
    obtain ⟨result, parsed, plain⟩ := parse_plain table payload
    simp only [step, Action.arrival, parsed, ok_bind]
    cases result with
    | none => exact safe_pure ⟨sound, same⟩
    | some arrival => exact safe_pure ⟨accept_sound sound (plain arrival rfl), rfl⟩
  | record call =>
    simp only [step]
    split
    · rename_i arrival record stands
      refine safe_pure ⟨keep_sound sound stands, ?_⟩
      cases record <;> exact same
    · exact safe_pure ⟨sound, same⟩
  | aggregate call =>
    simp only [step]
    split
    · rename_i arrival stands
      exact safe_pure ⟨count_sound sound stands, same⟩
    · exact safe_pure ⟨sound, same⟩
  | flush => exact safe_pure ⟨flush_sound sound, same⟩
  | swap call now =>
    simp only [step]
    split
    · rename_i stands
      exact safe_pure ⟨detach_sound sound stands now, same⟩
    · exact safe_pure ⟨sound, same⟩
  | emit call i =>
    simp only [step]
    split
    · rename_i now flows https dnss stands
      exact safe_pure ⟨write_sound sound stands probeId i, (write_accepted c probeId call i now flows https dnss).trans same⟩
    · exact safe_pure ⟨sound, same⟩

theorem run_sound (table : UnicodeCase) (probeId : Bytes) {c : Collector} (sound : c.Sound) (actions : List Action) :
    Safe (c.run table probeId actions) fun t =>
      t.Sound ∧ t.accepted = c.accepted ++ actions.filterMap (Action.arrival table) := by
  induction actions generalizing c with
  | nil => exact safe_pure ⟨sound, (List.append_nil _).symm⟩
  | cons action rest ih =>
    unfold run
    rw [List.foldlM_cons]
    refine safe_bind (step_sound table probeId sound action) ?_
    rintro next ⟨sound, accepted⟩
    refine safe_weaken (ih sound) ?_
    rintro t ⟨sound, all⟩
    refine ⟨sound, ?_⟩
    rw [all, accepted, List.filterMap_cons]
    cases action.arrival table <;> simp

end Collector

/-- Whatever the order of the sections, the traffic of a flow is in the events, in snapshots, in the map, or brought by a
packet whose call has not come to its section; and packets share a record if all five components are the same. -/
theorem flow_traffic_conserved (table : UnicodeCase) (probeId : Bytes) (actions : List Action) :
    ∃ c, Collector.run table probeId {} actions = .ok c ∧
      c.Conserves .bytes (actions.filterMap (Action.arrival table)) ∧
      c.Conserves .packets (actions.filterMap (Action.arrival table)) ∧
      ∀ p ∈ actions.filterMap (Action.arrival table), ∀ q ∈ actions.filterMap (Action.arrival table), ∀ flows : Flows,
        (aggregate flows q).lookup p.flow.key ≠ flows.lookup p.flow.key ↔ q.flow = p.flow := by
  obtain ⟨c, ends, sound, accepted⟩ := Collector.run_sound table probeId Collector.sound_init actions
  rw [List.nil_append] at accepted
  rw [← accepted]
  refine ⟨c, ends, sound.conserves .bytes, sound.conserves .packets, ?_⟩
  intro p received q other flows
  exact aggregate_changes_iff (sound.plain q other) (sound.plain p received)

end StbEbpf.Protocol.ProtocolCollector
