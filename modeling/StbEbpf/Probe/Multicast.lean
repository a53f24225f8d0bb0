import StbEbpf.Probe.FlowTable
import StbEbpf.Probe.HeaderOffsets
import StbEbpf.Probe.WireFormat

/-!
Which events are tagged as IPTV multicast. `IS_MULTICAST` masks the top of a word that holds the address with its first
byte lowest, while `ip_to_str` prints that byte first.
-/

namespace StbEbpf.Probe
open CText

/-! ### The mask -/

/-- The four bits above the lowest 28. -/
theorem and_mask {x : Nat} (small : x < 2 ^ 32) : x &&& 0xF0000000 = x / 2 ^ 28 * 2 ^ 28 := by
  have high : (x &&& 0xF0000000) / 2 ^ 28 = x / 2 ^ 28 := by
    rw [← Nat.shiftRight_eq_div_pow, Nat.shiftRight_and_distrib, ← Nat.shiftRight_eq_div_pow]
    show x >>> 28 &&& 2 ^ 4 - 1 = _
    rw [Nat.and_two_pow_sub_one_eq_mod, Nat.shiftRight_eq_div_pow]
    omega
  have low : (x &&& 0xF0000000) % 2 ^ 28 = 0 := by
    rw [Nat.and_mod_two_pow]
    exact Nat.and_zero _
  have whole := Nat.div_add_mod (x &&& 0xF0000000) (2 ^ 28)
  omega

theorem isMulticast_iff (ip : UInt32) : isMulticast ip = true ↔ 224 ≤ ip.toNat / 16777216 ∧ ip.toNat / 16777216 ≤ 239 := by
  have small := ip.toNat_lt
  unfold isMulticast
  rw [beq_iff_eq, ← UInt32.toNat_inj, UInt32.toNat_and]
  show ip.toNat &&& 0xF0000000 = 0xE0000000 ↔ _
  rw [and_mask small]
  omega

/-! ### The range -/

/-- The octet is the first of an address in 224.0.0.0/4. -/
def MulticastOctet (octet : UInt8) : Prop := 224 ≤ octet.toNat ∧ octet.toNat ≤ 239

instance (octet : UInt8) : Decidable (MulticastOctet octet) := inferInstanceAs (Decidable (_ ∧ _))

/-- A dotted address in 224.0.0.0/4. -/
def InMulticastRange (text : Bytes) : Prop :=
  ∃ ip, parseAddress text = some ip ∧ 224 ≤ ip.toNat % 256 ∧ ip.toNat % 256 ≤ 239

theorem printed_in_range_iff (addr : Ipv4Addr) : InMulticastRange (ipToStr addr.word).bytes ↔ MulticastOctet addr.a := by
  have word := word_toNat addr
  have small := addr.a.toNat_lt
  have first : addr.word.toNat % 256 = addr.a.toNat := by omega
  unfold InMulticastRange MulticastOctet
  rw [ipToStr_bytes, parseAddress_dotted, ← first]
  constructor
  · rintro ⟨ip, same, range⟩
    obtain rfl := Option.some.inj same
    exact range
  · exact fun range => ⟨_, rfl, range⟩

theorem isMulticast_word_iff (addr : Ipv4Addr) : isMulticast addr.word = true ↔ MulticastOctet addr.d := by
  have word := word_toNat addr
  have a := addr.a.toNat_lt
  have b := addr.b.toNat_lt
  have c := addr.c.toNat_lt
  have last : addr.word.toNat / 16777216 = addr.d.toNat := by omega
  rw [isMulticast_iff, last]
  rfl

/-! ### Tags -/

def FlowEvent.Multicast (event : FlowEvent) : Prop := event.tags.bytes = ascii "iptv,multicast"

/-- The tag of an event for this destination is what the address and its printed form say. -/
def FlowEvent.TaggedBy (event : FlowEvent) (addr : Ipv4Addr) : Prop :=
  (event.Multicast ↔ MulticastOctet addr.a) ∧ (event.Multicast ↔ InMulticastRange (ipToStr event.dstIp).bytes)

/-- The first and the last octet are both in the range or both outside of it. -/
def OctetsAgree (addr : Ipv4Addr) : Prop := MulticastOctet addr.d ↔ MulticastOctet addr.a

theorem taggedBy_iff {event : FlowEvent} {addr : Ipv4Addr} (destination : event.dstIp = addr.word)
    (tag : event.Multicast ↔ isMulticast addr.word = true) : event.TaggedBy addr ↔ OctetsAgree addr := by
  unfold FlowEvent.TaggedBy OctetsAgree
  rw [destination, printed_in_range_iff, tag, isMulticast_word_iff, and_self]

theorem flowEvent_multicast (ts : UInt64) (probeId : CharBuf 64) (key : FlowKey) (bytes : UInt64) :
    (flowEvent ts probeId key bytes).Multicast ↔ isMulticast key.dstIp = true := by
  unfold FlowEvent.Multicast flowEvent
  dsimp only
  split
  · rename_i multicast
    exact iff_of_true (by decide) multicast
  · rename_i unicast
    exact iff_of_false (by decide) unicast

theorem packetToFlowEvent_dstIp (pkt : PktEvent) (probeId : CStr) : (packetToFlowEvent pkt probeId).dstIp = pkt.dstIp := by
  unfold packetToFlowEvent PktEvent.markHttp
  dsimp only
  split_ifs <;> rfl

theorem markHttp_tags (pkt : PktEvent) {flow : FlowEvent} (blank : flow.tags = .zero) :
    ¬ (pkt.markHttp flow).Multicast := by
  unfold FlowEvent.Multicast PktEvent.markHttp
  split_ifs
  · dsimp only
    decide
  · dsimp only
    decide
  · rw [blank]
    decide
  · rw [blank]
    decide

theorem packetToFlowEvent_multicast {pkt : PktEvent} (dns : ¬ pkt.isDns) (icmp : pkt.protocol ≠ IPPROTO_ICMP)
    (probeId : CStr) : (packetToFlowEvent pkt probeId).Multicast ↔ isMulticast pkt.dstIp = true := by
  unfold packetToFlowEvent
  dsimp only
  rw [if_neg dns, if_neg icmp]
  by_cases multicast : isMulticast pkt.dstIp = true
  · rw [if_pos multicast]
    exact iff_of_true (show (CharBuf.strncpy (ascii "iptv,multicast")).bytes = _ by decide) multicast
  · rw [if_neg multicast]
    refine iff_of_false ?_ multicast
    have blank := @markHttp_tags pkt
    split_ifs
    · exact blank rfl
    · exact blank rfl
    · exact blank rfl

/-! ### The events of the flow table -/

/-- The later table has the events of the earlier one and then some for its flows. -/
def AddsFlows (before after : FlowTracker) : Prop :=
  ∃ added, after.events = before.events ++ added ∧
    ∀ event ∈ added, ∃ ts probeId key bytes, event = flowEvent ts probeId key bytes

theorem AddsFlows.refl (ft : FlowTracker) : AddsFlows ft ft := ⟨[], by simp, nofun⟩

theorem AddsFlows.trans {ft next last : FlowTracker} (first : AddsFlows ft next) (second : AddsFlows next last) :
    AddsFlows ft last := by
  obtain ⟨one, events, flows⟩ := first
  obtain ⟨two, later, more⟩ := second
  refine ⟨one ++ two, by rw [later, events, List.append_assoc], ?_⟩
  intro event member
  rcases List.mem_append.mp member with here | there
  · exact flows event here
  · exact more event there

theorem addEvent_adds {before ft : FlowTracker} (same : ft.events = before.events) (ts : UInt64) (probeId : CharBuf 64)
    (key : FlowKey) (bytes : UInt64) : AddsFlows before (addEvent ft (flowEvent ts probeId key bytes)) := by
  unfold addEvent
  split
  · refine ⟨[flowEvent ts probeId key bytes], by rw [same], ?_⟩
    intro event member
    exact ⟨ts, probeId, key, bytes, List.mem_singleton.mp member⟩
  · exact ⟨[], by rw [same, List.append_nil], nofun⟩

theorem findRecord_events {ft t : FlowTracker} {key : FlowKey} {now : UInt64} {slot : Option Nat}
    (found : findRecord ft key now = (slot, t)) : t.events = ft.events := by
  rcases findRecord_cases ft key now with ⟨i, r, hit, -⟩ | ⟨i, r, taken, -⟩ | ⟨full, -⟩
  · rw [hit] at found
    cases found
    rfl
  · rw [taken] at found
    cases found
    rfl
  · rw [full] at found
    cases found
    rfl

theorem updateEntry_adds (ft : FlowTracker) (ts now : UInt64) (entry : ProcNetEntry) :
    AddsFlows ft (updateEntry ft ts now entry) := by
  unfold updateEntry
  split
  · rename_i full
    exact ⟨[], by rw [findRecord_events full, List.append_nil], nofun⟩
  · rename_i found
    have events := findRecord_events found
    dsimp only
    split
    · apply addEvent_adds
      exact events
    · exact ⟨[], by rw [List.append_nil]; exact events, nofun⟩

theorem updateEntries_adds (ft : FlowTracker) (ts : UInt64) (clock : Nat → UInt64) (entries : List ProcNetEntry) :
    AddsFlows ft (updateEntries ft ts clock entries) := by
  induction entries generalizing ft clock with
  | nil => exact .refl ft
  | cons entry rest ih => exact (updateEntry_adds ft ts (clock 0) entry).trans (ih _ _)

theorem updateSingle_adds (ft : FlowTracker) (ts now : UInt64) (key : FlowKey) (bytes : UInt64) (probeId : CStr) :
    AddsFlows ft (flowTrackerUpdateSingle ft ts now key bytes probeId) := by
  unfold flowTrackerUpdateSingle
  split
  · rename_i full
    exact ⟨[], by rw [findRecord_events full, List.append_nil], nofun⟩
  · rename_i found
    have events := findRecord_events found
    apply addEvent_adds
    exact events

theorem AddsFlows.taggedBy_iff {ft later : FlowTracker} (adds : AddsFlows ft later) {addr : Ipv4Addr} {event : FlowEvent}
    (new : event ∈ later.events.drop ft.events.length) (destination : event.dstIp = addr.word) :
    event.TaggedBy addr ↔ OctetsAgree addr := by
  obtain ⟨added, events, flows⟩ := adds
  rw [events, List.drop_left] at new
  obtain ⟨ts, probeId, key, bytes, rfl⟩ := flows event new
  have key_word : key.dstIp = addr.word := destination
  exact Probe.taggedBy_iff destination (by rw [flowEvent_multicast, key_word])

/-- Whichever function makes the event for a destination, its tag is right exactly if the first and the last octet of
the address are both multicast or both not. -/
theorem multicast_tag_right_iff (addr : Ipv4Addr) :
    (∀ pkt probeId, ¬ pkt.isDns → pkt.protocol ≠ IPPROTO_ICMP → pkt.dstIp = addr.word →
      ((packetToFlowEvent pkt probeId).TaggedBy addr ↔ OctetsAgree addr)) ∧
    (∀ ft clock entries, ∀ event ∈ (flowTrackerUpdate ft clock entries).events.drop ft.events.length,
      event.dstIp = addr.word → (event.TaggedBy addr ↔ OctetsAgree addr)) ∧
    ∀ ft ts now key bytes probeId,
      ∀ event ∈ (flowTrackerUpdateSingle ft ts now key bytes probeId).events.drop ft.events.length,
        event.dstIp = addr.word → (event.TaggedBy addr ↔ OctetsAgree addr) := by
  refine ⟨?_, ?_, ?_⟩
  · intro pkt probeId dns icmp destination
    have tag := packetToFlowEvent_multicast dns icmp probeId
    rw [destination] at tag
    exact taggedBy_iff (by rw [packetToFlowEvent_dstIp, destination]) tag
  · intro ft clock entries event new destination
    exact (updateEntries_adds ft _ _ entries).taggedBy_iff new destination
  · intro ft ts now key bytes probeId event new destination
    exact (updateSingle_adds ft ts now key bytes probeId).taggedBy_iff new destination

def streamPkt (addr : Ipv4Addr) : PktEvent where
  srcIp := 0x0A01A8C0
  dstIp := addr.word
  srcPort := 5000
  dstPort := 1234
  protocol := IPPROTO_UDP
  ipVersion := 4

theorem unicast_tag_right : ¬ (streamPkt ⟨10, 0, 0, 1⟩).isDns ∧ (streamPkt ⟨10, 0, 0, 1⟩).protocol ≠ IPPROTO_ICMP ∧
    (packetToFlowEvent (streamPkt ⟨10, 0, 0, 1⟩) stbProbe).TaggedBy ⟨10, 0, 0, 1⟩ := by
  refine ⟨by decide, by decide, ?_⟩
  apply ((multicast_tag_right_iff ⟨10, 0, 0, 1⟩).1 (streamPkt ⟨10, 0, 0, 1⟩) stbProbe (by decide) (by decide) rfl).mpr
  exact iff_of_false (by decide) (by decide)

-- The group 239.1.1.1 ends in an octet that is not in the range.
theorem group_not_tagged : ¬ (streamPkt ⟨239, 1, 1, 1⟩).isDns ∧ (streamPkt ⟨239, 1, 1, 1⟩).protocol ≠ IPPROTO_ICMP ∧
    MulticastOctet 239 ∧ ¬ (packetToFlowEvent (streamPkt ⟨239, 1, 1, 1⟩) stbProbe).Multicast := by
  have plain := @packetToFlowEvent_multicast (streamPkt ⟨239, 1, 1, 1⟩) (by decide) (by decide) stbProbe
  refine ⟨by decide, by decide, by decide, ?_⟩
  rw [plain]
  decide

end StbEbpf.Probe
