import StbEbpf.Agent.TraceHandlers
import StbEbpf.Lib.BoundedMap
import StbEbpf.Lib.GoStrings
import StbEbpf.Lib.NetworkOrder

/-!
The flow path of the network collector: the two classifiers of `bpf/network_flow.bpf.c`, the map of excluded addresses
that `internal/collector/network.go` fills for them, and the handler that reads their records.
-/

namespace StbEbpf.Agent
open CText Access Words NetworkOrder BoundedMap StbEbpf.Probe

/-! ### The BPF programs -/

/-- A packet as a classifier gets it: the bytes it can point into, and those behind them that only a helper reads. -/
structure Skb where
  linear : Bytes
  paged : Bytes
  fits : (linear ++ paged).length < 2 ^ 32

def Skb.frame (skb : Skb) : Bytes := skb.linear ++ skb.paged

def Skb.len (skb : Skb) : UInt32 := UInt32.ofNat skb.frame.length

/-- `bpf_skb_load_bytes`, on the packet as a whole. -/
def Skb.loadBytes (skb : Skb) (offset count : Nat) : Option Bytes := (readRange skb.frame offset count).toOption

/-- `bpf_htons` and `bpf_ntohs` on a little-endian host. -/
def htons (word : UInt16) : UInt16 := uint16 (bytes16 word)
def ntohs (word : UInt16) : UInt16 := word16 (le16 word)

/-- `struct fe`; `bytes` is its `by`. -/
structure Fe where
  ts : UInt64
  si : UInt32
  di : UInt32
  bytes : UInt32
  pk : UInt32
  sp : UInt16
  dp : UInt16
  pr : UInt8
  dir : UInt8
  deriving DecidableEq, Repr

namespace Fe
variable (fe : Fe)

def members : List Bytes :=
  [le64 fe.ts, le32 fe.si, le32 fe.di, le32 fe.bytes, le32 fe.pk, le16 fe.sp, le16 fe.dp, [fe.pr], [fe.dir], [0, 0]]

def sample : Bytes := fe.members.flatten

end Fe

/-- The map `exclude_dest_ips`. Both sides hand over the four bytes of a word in their own order, so that a key is the
word. -/
abbrev ExcludeDestIps := Map UInt32 UInt8

def ex (excluded : ExcludeDestIps) (ip : UInt32) : Bool :=
  match excluded.lookup ip with
  | some value => value != 0
  | none => false

/-- The ports of a transport header, which is looked for behind an IP header without options. -/
def Skb.ports (skb : Skb) (count : Nat) : UInt16 × UInt16 :=
  match skb.loadBytes 34 count with
  | some header => (ntohs (uint16 (header.take 2)), ntohs (uint16 ((header.drop 2).take 2)))
  | none => (0, 0)

def Skb.portsOf (skb : Skb) (protocol : UInt8) : UInt16 × UInt16 :=
  if protocol = 6 then skb.ports 20 else if protocol = 17 then skb.ports 8 else (0, 0)

/-- The two classifiers, which differ in the direction and in the address they test. -/
def classify (dir : UInt8) (tested : UInt32 → UInt32 → UInt32) (excluded : ExcludeDestIps) (ts : UInt64) (skb : Skb) :
    Checked (Option Fe) := do
  if skb.linear.length < 14 then return none
  else if (← readUint16 skb.linear 12) ≠ htons 0x0800 then return none
  else if skb.linear.length < 34 then return none
  else
    let saddr ← readUint32 skb.linear 26
    let daddr ← readUint32 skb.linear 30
    if ex excluded (tested saddr daddr) then return none
    else
      let protocol ← readAt skb.linear 23
      let (sp, dp) := skb.portsOf protocol
      return some { ts, si := saddr, di := daddr, bytes := skb.len, pk := 1, sp, dp, pr := protocol, dir }

/-- Ingress: the destination is tested. -/
def f1 : ExcludeDestIps → UInt64 → Skb → Checked (Option Fe) := classify 0 fun _ daddr => daddr

/-- Egress: the source is tested. -/
def f2 : ExcludeDestIps → UInt64 → Skb → Checked (Option Fe) := classify 1 fun saddr _ => saddr

/-! ### The collector -/

/-- The addresses that are to be excluded; `to4` is `net.ParseIP` followed by `To4`. -/
def excludeIPs (to4 : Bytes → Option Ipv4Addr) (env : Bytes) : List Ipv4Addr :=
  let ips := if env = [] then [] else ((env.splitOn 44).map GoStrings.trimSpace).filter (· ≠ [])
  (ascii "10.115.107.91" :: ips).filterMap to4

/-- A `Put` into the full map fails, and the loop goes on. -/
def writeExcludeIPsToBPF (to4 : Bytes → Option Ipv4Addr) (env : Bytes) : ExcludeDestIps :=
  (excludeIPs to4 env).foldl (fun excluded ip4 => update 32 excluded (word32 ip4.bytes) 1) ∅

def handleFlowEvent (r : Reporter) (data : Bytes) : Checked (Option Event) := do
  if data.length < 32 then return none
  else
    let srcIp ← readWord32 data 8
    let dstIp ← readWord32 data 12
    let pktBytes ← readUint32 data 16
    let pkts ← readUint32 data 20
    let srcPort ← readUint16 data 24
    let dstPort ← readUint16 data 26
    let proto ← readAt data 28
    return some {
      timestamp := r.now, probeId := r.probeId ++ ascii "-bpf", category := ascii "network", eventType := ascii "flow"
      srcIp := ipToString srcIp, dstIp := ipToString dstIp, srcPort, dstPort
      protocol := if proto = 6 then ascii "TCP" else if proto = 17 then ascii "UDP" else ascii "IP"
      bytes := pktBytes.toUInt64, packets := pkts.toUInt64 }

/-! ### Words and bytes -/

theorem ntohs_uint16 {slice : Bytes} (size : slice.length = 2) : ntohs (uint16 slice) = word16 slice := by
  rw [ntohs, le16_uint16 size]

theorem be16Bytes_eq (word : UInt16) : be16Bytes word = bytes16 word := by
  have small := word.toNat_lt
  have high : (word >>> 8).toUInt8 = UInt8.ofNat (word.toNat / 256) := by
    apply UInt8.toNat_inj.mp
    rw [UInt16.toNat_toUInt8, UInt16.toNat_shiftRight, UInt8.toNat_ofNat']
    show word.toNat >>> 8 % 2 ^ 8 = _
    rw [Nat.shiftRight_eq_div_pow]
  have low : word.toUInt8 = UInt8.ofNat word.toNat := by
    apply UInt8.toNat_inj.mp
    rw [UInt16.toNat_toUInt8, UInt8.toNat_ofNat']
  rw [be16Bytes, high, low]
  rfl

theorem uint32_bytes (addr : Ipv4Addr) : uint32 addr.bytes = addr.word := by
  have a := addr.a.toNat_lt
  have b := addr.b.toNat_lt
  have c := addr.c.toNat_lt
  have d := addr.d.toNat_lt
  apply UInt32.toNat_inj.mp
  rw [word_toNat]
  show (UInt32.ofNat (leValue [addr.a, addr.b, addr.c, addr.d])).toNat = _
  simp only [leValue]
  rw [UInt32.toNat_ofNat_of_lt' (by show _ < 4294967296; omega)]
  omega

/-- The address from its last byte to its first. -/
def reversed (addr : Ipv4Addr) : Ipv4Addr := ⟨addr.d, addr.c, addr.b, addr.a⟩

theorem word32_bytes (addr : Ipv4Addr) : word32 addr.bytes = (reversed addr).word := by
  rw [← uint32_bytes]
  rfl

theorem le32_word (addr : Ipv4Addr) : le32 addr.word = addr.bytes := by
  rw [← uint32_bytes, le32_uint32 rfl]

theorem word_injective {left right : Ipv4Addr} (same : left.word = right.word) : left = right := by
  have bytes := congrArg le32 same
  rw [le32_word, le32_word] at bytes
  obtain ⟨a, b, c, d⟩ := left
  obtain ⟨a', b', c', d'⟩ := right
  cases bytes
  rfl

/-- Printing undoes reading in network order. -/
theorem ipToString_word32 (addr : Ipv4Addr) : ipToString (word32 (le32 addr.word)) = dotted addr := by
  rw [le32_word, word32_bytes, ipToString_word]
  rfl

/-! ### What the handler reads -/

section
variable (fe : Fe) (padding : Bytes)

/-- The kernel pads the record at its end. -/
theorem sample_padded : fe.sample ++ padding = (fe.members ++ [padding]).flatten := by
  rw [List.flatten_append, List.flatten_singleton]
  rfl

theorem fe_members_length : (fe.members ++ [padding]).map List.length = [8, 4, 4, 4, 4, 2, 2, 1, 1, 2, padding.length] := by
  simp [Fe.members, le16, le32, le64, leBytes_length]

theorem fe_offsetOf (k : Nat) :
    offsetOf (fe.members ++ [padding]) k = ([8, 4, 4, 4, 4, 2, 2, 1, 1, 2, padding.length].take k).sum := by
  rw [offsetOf, List.map_take, fe_members_length]

theorem sample_padded_length : 32 ≤ (fe.sample ++ padding).length := by
  rw [sample_padded, List.length_flatten, fe_members_length]
  simp only [List.sum_cons]
  omega

theorem readWord32_member {parts : List Bytes} {offset : Nat} (k : Nat) (start : offsetOf parts k = offset)
    {word : UInt32} (member : parts[k]? = some (le32 word)) :
    readWord32 parts.flatten offset = .ok (word32 (le32 word)) :=
  readWord_member k start word32 member

theorem readAt_range {region : Bytes} {i : Nat} {byte : UInt8} (read : readRange region i 1 = .ok [byte]) :
    readAt region i = .ok byte := by
  unfold readRange at read
  split at read
  · rename_i inside
    have here : (region.drop i).take 1 = [byte] := Except.ok.inj read
    have found : region[i]? = some byte := by
      have head := congrArg List.head? here
      rwa [List.head?_take, List.head?_drop, if_neg Nat.one_ne_zero] at head
    unfold readAt
    rw [found]
    rfl
  · cases read

theorem handleFlowEvent_reads (r : Reporter) :
    handleFlowEvent r (fe.sample ++ padding) = .ok (some {
      timestamp := r.now, probeId := r.probeId ++ ascii "-bpf", category := ascii "network", eventType := ascii "flow"
      srcIp := ipToString (word32 (le32 fe.si)), dstIp := ipToString (word32 (le32 fe.di))
      srcPort := fe.sp, dstPort := fe.dp
      protocol := if fe.pr = 6 then ascii "TCP" else if fe.pr = 17 then ascii "UDP" else ascii "IP"
      bytes := fe.bytes.toUInt64, packets := fe.pk.toUInt64 }) := by
  have long := sample_padded_length fe padding
  have si : readWord32 (fe.sample ++ padding) 8 = .ok (word32 (le32 fe.si)) := by
    rw [sample_padded]
    exact readWord32_member 1 (fe_offsetOf fe padding 1) rfl
  have di : readWord32 (fe.sample ++ padding) 12 = .ok (word32 (le32 fe.di)) := by
    rw [sample_padded]
    exact readWord32_member 2 (fe_offsetOf fe padding 2) rfl
  have bytes : readUint32 (fe.sample ++ padding) 16 = .ok fe.bytes := by
    rw [sample_padded]
    exact readUint32_member 3 (fe_offsetOf fe padding 3) rfl
  have pk : readUint32 (fe.sample ++ padding) 20 = .ok fe.pk := by
    rw [sample_padded]
    exact readUint32_member 4 (fe_offsetOf fe padding 4) rfl
  have sp : readUint16 (fe.sample ++ padding) 24 = .ok fe.sp := by
    rw [sample_padded]
    exact readUint16_member 5 (fe_offsetOf fe padding 5) rfl
  have dp : readUint16 (fe.sample ++ padding) 26 = .ok fe.dp := by
    rw [sample_padded]
    exact readUint16_member 6 (fe_offsetOf fe padding 6) rfl
  have pr : readAt (fe.sample ++ padding) 28 = .ok fe.pr := by
    rw [sample_padded]
    have member : (fe.members ++ [padding])[7]? = some [fe.pr] := rfl
    exact readAt_range (readRange_member member (fe_offsetOf fe padding 7))
  unfold handleFlowEvent
  rw [if_neg (by omega), si, ok_bind, di, ok_bind, bytes, ok_bind, pk, ok_bind, sp, ok_bind, dp, ok_bind, pr, ok_bind]
  rfl

end

/-! ### What the classifiers see of a frame -/

inductive TcHook where
  | ingress | egress

def TcHook.classifier : TcHook → ExcludeDestIps → UInt64 → Skb → Checked (Option Fe)
  | ingress => f1
  | egress => f2

def TcHook.tested (header : Ipv4Header) : TcHook → Ipv4Addr
  | ingress => header.dst
  | egress => header.src

/-- An Ethernet frame without a VLAN tag that carries an IPv4 packet, as the kernel holds it. -/
def Carries (skb : Skb) (header : Ipv4Header) (protocol : UInt8) (rest : Bytes) : Prop :=
  ∃ (link : Link) (fragmentOffset : Fin 8192), link.vlan = none ∧
    skb.frame = link.bytes ETH_P_IP ++ (header.bytes fragmentOffset protocol ++ rest)

section
variable {skb : Skb} {header : Ipv4Header} {protocol : UInt8} {rest : Bytes}

theorem Carries.etherType (carries : Carries skb header protocol rest) :
    ∃ behind, skb.frame.drop 12 = bytes16 ETH_P_IP ++ behind := by
  obtain ⟨link, fragmentOffset, untagged, frame⟩ := carries
  refine ⟨header.bytes fragmentOffset protocol ++ rest, ?_⟩
  rw [frame, link_after_addresses, Link.tag, untagged, be16Bytes_eq]
  rfl

theorem Carries.packet (carries : Carries skb header protocol rest) :
    ∃ fragmentOffset, skb.frame.drop 14 = header.bytes fragmentOffset protocol ++ rest := by
  obtain ⟨link, fragmentOffset, untagged, frame⟩ := carries
  have fourteen : link.length = 14 := by simp [Link.length, untagged]
  refine ⟨fragmentOffset, ?_⟩
  rw [frame, ← fourteen, link_drop]

theorem Carries.length (carries : Carries skb header protocol rest) :
    skb.frame.length = 14 + header.ihl * 4 + rest.length := by
  obtain ⟨link, fragmentOffset, untagged, frame⟩ := carries
  have fourteen : link.length = 14 := by simp [Link.length, untagged]
  rw [frame, List.length_append, List.length_append, Link.bytes_length, header.bytes_length, fourteen]
  omega

/-- The part of the header that the classifiers read, at its place in the frame. -/
theorem Carries.addresses (carries : Carries skb header protocol rest) :
    ∃ ttl checksum, skb.frame.drop 22 = [ttl, protocol] ++ (be16Bytes checksum ++ (header.src.bytes ++
      (header.dst.bytes ++ (header.options.flatMap Vector.toList ++ rest)))) := by
  obtain ⟨fragmentOffset, packet⟩ := carries.packet
  refine ⟨header.ttl, header.checksum, ?_⟩
  have later : skb.frame.drop 22 = (skb.frame.drop 14).drop 8 := by rw [List.drop_drop]
  rw [later, packet]
  simp [Ipv4Header.bytes, be16Bytes]

theorem linear_range {offset skip count : Nat} {field : Bytes}
    (here : ((skb.frame.drop offset).drop skip).take count = field) (inside : offset + skip + count ≤ skb.linear.length) :
    readRange skb.linear (offset + skip) count = .ok field := by
  have whole : readRange skb.frame (offset + skip) count = .ok field := by
    rw [readRange_inside (by rw [Skb.frame, List.length_append]; omega), ← List.drop_drop, here]
  rw [← whole, Skb.frame, readRange_append _ inside]

theorem readUint16_etherType (carries : Carries skb header protocol rest) (long : 14 ≤ skb.linear.length) :
    readUint16 skb.linear 12 = .ok (htons 0x0800) := by
  obtain ⟨behind, here⟩ := carries.etherType
  have slice : readRange skb.linear (12 + 0) 2 = .ok (bytes16 ETH_P_IP) := by
    refine linear_range ?_ (by omega)
    rw [here, List.drop_zero, List.take_left' (bytes16_length _)]
  rw [readUint16, slice]
  rfl

/-- Behind twenty bytes of IP header. -/
theorem Carries.behind (carries : Carries skb header protocol rest) :
    skb.frame.drop 34 = header.options.flatMap Vector.toList ++ rest := by
  obtain ⟨ttl, checksum, here⟩ := carries.addresses
  have later : skb.frame.drop 34 = (skb.frame.drop 22).drop 12 := by rw [List.drop_drop]
  rw [later, here]
  rfl

/-- What a classifier makes of the frame, in whatever parts the kernel holds it. -/
theorem classify_frame (carries : Carries skb header protocol rest) (dir : UInt8) (tested : UInt32 → UInt32 → UInt32)
    (excluded : ExcludeDestIps) (ts : UInt64) :
    classify dir tested excluded ts skb = .ok (
      if 34 ≤ skb.linear.length ∧ ex excluded (tested header.src.word header.dst.word) = false then some
        { ts, si := header.src.word, di := header.dst.word, bytes := skb.len, pk := 1
          sp := (skb.portsOf protocol).1, dp := (skb.portsOf protocol).2, pr := protocol, dir }
      else none) := by
  unfold classify
  by_cases tiny : skb.linear.length < 14
  · rw [if_pos tiny, if_neg (by omega)]
    rfl
  · rw [if_neg tiny, readUint16_etherType carries (by omega), ok_bind, if_neg (by simp)]
    by_cases short : skb.linear.length < 34
    · rw [if_pos short, if_neg (by omega)]
      rfl
    · obtain ⟨ttl, checksum, here⟩ := carries.addresses
      have pr : readAt skb.linear 23 = .ok protocol := by
        have slice : readRange skb.linear (22 + 1) 1 = .ok [protocol] := by
          refine linear_range ?_ (by omega)
          rw [here]
          rfl
        exact readAt_range slice
      have saddr : readUint32 skb.linear 26 = .ok header.src.word := by
        have slice : readRange skb.linear (22 + 4) 4 = .ok header.src.bytes := by
          refine linear_range ?_ (by omega)
          rw [here]
          rfl
        rw [readUint32, slice]
        exact congrArg Except.ok (uint32_bytes header.src)
      have daddr : readUint32 skb.linear 30 = .ok header.dst.word := by
        have slice : readRange skb.linear (22 + 8) 4 = .ok header.dst.bytes := by
          refine linear_range ?_ (by omega)
          rw [here]
          rfl
        rw [readUint32, slice]
        exact congrArg Except.ok (uint32_bytes header.dst)
      rw [if_neg short, saddr, ok_bind, daddr, ok_bind]
      cases out : ex excluded (tested header.src.word header.dst.word) with
      | true =>
        rw [if_pos rfl, if_neg (by simp)]
        rfl
      | false =>
        rw [if_neg Bool.false_ne_true, pr, ok_bind, if_pos ⟨by omega, rfl⟩]
        rfl

/-- The ports are taken from the first four bytes behind twenty bytes of IP header. -/
theorem ports_read {count : Nat} (four : 4 ≤ count) (inside : 34 + count ≤ skb.frame.length) :
    skb.ports count = (word16 ((skb.frame.drop 34).take 2), word16 ((skb.frame.drop 36).take 2)) := by
  have loaded : skb.loadBytes 34 count = some ((skb.frame.drop 34).take count) := by
    rw [Skb.loadBytes, readRange_inside inside]
    rfl
  have first : ((skb.frame.drop 34).take count).take 2 = (skb.frame.drop 34).take 2 := by
    rw [List.take_take, Nat.min_eq_left (by omega)]
  have second : (((skb.frame.drop 34).take count).drop 2).take 2 = (skb.frame.drop 36).take 2 := by
    rw [List.drop_take, List.take_take, Nat.min_eq_left (by omega), List.drop_drop]
  have firstSize : ((skb.frame.drop 34).take 2).length = 2 := by
    rw [List.length_take, List.length_drop]
    omega
  have secondSize : ((skb.frame.drop 36).take 2).length = 2 := by
    rw [List.length_take, List.length_drop]
    omega
  unfold Skb.ports
  rw [loaded]
  dsimp only
  rw [first, second, ntohs_uint16 firstSize, ntohs_uint16 secondSize]

theorem tcp_length (header : TcpHeader) : 20 ≤ (Segment.tcp header).bytes.length := by
  simp only [Segment.bytes, TcpHeader.bytes, be16Bytes, be32Bytes, List.length_append, List.length_cons, List.length_nil]
  omega

theorem segment_ports {segment : Segment} {payload : Bytes}
    (carries : Carries skb header segment.protocol (segment.bytes ++ payload)) :
    skb.portsOf segment.protocol = (word16 ((skb.frame.drop 34).take 2), word16 ((skb.frame.drop 36).take 2)) := by
  have length := carries.length
  rw [List.length_append] at length
  have options : 5 ≤ header.ihl := Nat.le_add_right _ _
  cases segment with
  | tcp tcp =>
    have size := tcp_length tcp
    exact ports_read (by decide) (by omega)
  | udp udp =>
    have size : (Segment.udp udp).bytes.length = 8 := rfl
    exact ports_read (by decide) (by omega)

theorem segment_start (segment : Segment) (payload : Bytes) :
    ∃ behind, segment.bytes ++ payload = bytes16 segment.srcPort ++ (bytes16 segment.dstPort ++ behind) := by
  cases segment with
  | tcp tcp =>
    simp only [Segment.bytes, TcpHeader.bytes, be16Bytes_eq, List.append_assoc]
    exact ⟨_, rfl⟩
  | udp udp =>
    simp only [Segment.bytes, UdpHeader.bytes, be16Bytes_eq, List.append_assoc]
    exact ⟨_, rfl⟩

theorem segment_length (segment : Segment) : 4 ≤ segment.bytes.length := by
  cases segment with
  | tcp tcp => exact Nat.le_trans (by decide) (tcp_length tcp)
  | udp udp => exact Nat.le_add_left 4 4

theorem segment_first (segment : Segment) :
    segment.bytes.take 4 = bytes16 segment.srcPort ++ bytes16 segment.dstPort := by
  obtain ⟨behind, start⟩ := segment_start segment []
  rw [← List.append_nil segment.bytes, start, ← List.append_assoc]
  exact List.take_left' (by rw [List.length_append, bytes16_length, bytes16_length])

section
variable {segment : Segment} {payload : Bytes} (carries : Carries skb header segment.protocol (segment.bytes ++ payload))
include carries

/-- The classifiers find the ports if these are the four bytes behind twenty bytes of IP header. -/
theorem ports_found_iff :
    skb.portsOf segment.protocol = (segment.srcPort, segment.dstPort) ↔
      (skb.frame.drop 34).take 4 = segment.bytes.take 4 := by
  have read : (skb.frame.drop 34).take 4 = (skb.frame.drop 34).take 2 ++ (skb.frame.drop 36).take 2 := by
    rw [show 4 = 2 + 2 from rfl, List.take_add, List.drop_drop]
  have length := carries.length
  have four := segment_length segment
  have minimum : 5 ≤ header.ihl := Nat.le_add_right _ _
  rw [List.length_append] at length
  have first : ((skb.frame.drop 34).take 2).length = 2 := by
    rw [List.length_take, List.length_drop]
    omega
  have second : ((skb.frame.drop 36).take 2).length = 2 := by
    rw [List.length_take, List.length_drop]
    omega
  rw [segment_ports carries, Prod.mk.injEq, read, segment_first]
  constructor
  · rintro ⟨src, dst⟩
    rw [← src, ← dst, bytes16_word16 first, bytes16_word16 second]
  · intro same
    obtain ⟨src, dst⟩ := List.append_inj same (first.trans (bytes16_length _).symm)
    rw [src, dst, word16_bytes16, word16_bytes16]
    exact ⟨rfl, rfl⟩

/-- Options stand before the ports, so that the first of them is read instead. -/
theorem first_option_iff :
    (skb.frame.drop 34).take 4 = segment.bytes.take 4 ↔
      ∀ word ∈ header.options.head?, word.toList = segment.bytes.take 4 := by
  have four := segment_length segment
  rw [carries.behind]
  cases header.options with
  | nil =>
    rw [List.flatMap_nil, List.nil_append, List.take_append_of_le_length four]
    simp
  | cons word words =>
    rw [List.flatMap_cons, List.append_assoc, List.take_left' word.length_toList]
    simp

end

end

/-! ### The record of a frame -/

def protocolText (segment : Segment) : Bytes :=
  match segment with
  | .tcp _ => ascii "TCP"
  | .udp _ => ascii "UDP"

theorem protocolText_read (segment : Segment) :
    (if segment.protocol = 6 then ascii "TCP" else if segment.protocol = 17 then ascii "UDP" else ascii "IP") =
      protocolText segment := by
  cases segment with
  | tcp => rfl
  | udp => rfl

theorem hook_classifies {skb : Skb} {header : Ipv4Header} {protocol : UInt8} {rest : Bytes}
    (carries : Carries skb header protocol rest) (hook : TcHook) (excluded : ExcludeDestIps) (ts : UInt64) :
    ∃ dir, hook.classifier excluded ts skb = .ok (
      if 34 ≤ skb.linear.length ∧ ex excluded (hook.tested header).word = false then some
        { ts, si := header.src.word, di := header.dst.word, bytes := skb.len, pk := 1
          sp := (skb.portsOf protocol).1, dp := (skb.portsOf protocol).2, pr := protocol, dir }
      else none) := by
  cases hook with
  | ingress => exact ⟨0, classify_frame carries 0 _ excluded ts⟩
  | egress => exact ⟨1, classify_frame carries 1 _ excluded ts⟩

theorem len_toUInt64 (skb : Skb) : skb.len.toUInt64 = UInt64.ofNat skb.frame.length := by
  have fits : skb.frame.length < 2 ^ 32 := skb.fits
  apply UInt64.toNat_inj.mp
  rw [UInt32.toNat_toUInt64, Skb.len, UInt32.toNat_ofNat_of_lt' fits, UInt64.toNat_ofNat_of_lt']
  exact fits.trans (by decide)

/-- Of an IPv4 frame without options that carries a TCP or UDP header, and whose tested address is not excluded, a
record is emitted as soon as the IP header can be addressed, and the event made of it tells what was in the frame. -/
theorem flow_event_reports_frame (r : Reporter) (hook : TcHook) (excluded : ExcludeDestIps) (ts : UInt64) (skb : Skb)
    (link : Link) (header : Ipv4Header) (fragmentOffset : Fin 8192) (segment : Segment) (payload : Bytes)
    (carried : skb.frame = ipv4Frame link header fragmentOffset (.segment segment) payload)
    (untagged : link.vlan = none) (plain : header.options = [])
    (admitted : ex excluded (hook.tested header).word = false) :
    ∃ emitted, hook.classifier excluded ts skb = .ok emitted ∧
      (emitted.isSome = true ↔ 34 ≤ skb.linear.length) ∧
      ∀ fe ∈ emitted, ∀ padding, handleFlowEvent r (fe.sample ++ padding) = .ok (some {
        timestamp := r.now, probeId := r.probeId ++ ascii "-bpf", category := ascii "network", eventType := ascii "flow"
        srcIp := dotted header.src, dstIp := dotted header.dst
        srcPort := segment.srcPort, dstPort := segment.dstPort, protocol := protocolText segment
        bytes := UInt64.ofNat skb.frame.length, packets := 1 }) := by
  have carries : Carries skb header segment.protocol (segment.bytes ++ payload) :=
    ⟨link, fragmentOffset, untagged, carried⟩
  obtain ⟨dir, classified⟩ := hook_classifies carries hook excluded ts
  refine ⟨_, classified, ?_, ?_⟩
  · simp [admitted]
  · intro fe emitted padding
    obtain ⟨-, rfl⟩ := Option.ite_some_none_eq_some.mp emitted
    have none_ : ∀ word ∈ header.options.head?, word.toList = segment.bytes.take 4 := by simp [plain]
    have ports := (ports_found_iff carries).mpr ((first_option_iff carries).mpr none_)
    rw [handleFlowEvent_reads]
    simp only [ports, ipToString_word32, len_toUInt64, protocolText_read]
    rfl

theorem udp_fits (header : Ipv4Header) (fragmentOffset : Fin 8192) (udp : UdpHeader) :
    (ipv4Frame sampleLink header fragmentOffset (.segment (.udp udp)) [] ++ []).length < 2 ^ 32 := by
  have options := header.fits
  have size : (Segment.udp udp).bytes.length = 8 := rfl
  simp only [ipv4Frame, Transport.bytes, List.append_nil, List.length_append, Link.bytes_length, header.bytes_length, size,
    Link.length, Ipv4Header.ihl]
  split <;> omega

/-- A datagram that the kernel holds in one piece. -/
def udpSkb (header : Ipv4Header) : Skb :=
  ⟨ipv4Frame sampleLink header ⟨0, zero_offset_lt⟩ (.segment (.udp ⟨5000, 53, 8, 0⟩)) [], [], udp_fits header _ _⟩

theorem datagram_reported :
    ∃ emitted, TcHook.ingress.classifier ∅ 7 (udpSkb sampleIpv4) = .ok emitted ∧
      (emitted.isSome = true ↔ 34 ≤ (udpSkb sampleIpv4).linear.length) ∧
      ∀ fe ∈ emitted, ∀ padding, handleFlowEvent ⟨.unix 0, ascii "p"⟩ (fe.sample ++ padding) = .ok (some {
        timestamp := .unix 0, probeId := ascii "p" ++ ascii "-bpf", category := ascii "network"
        eventType := ascii "flow", srcIp := dotted ⟨192, 168, 1, 10⟩, dstIp := dotted ⟨93, 184, 216, 34⟩
        srcPort := 5000, dstPort := 53, protocol := ascii "UDP"
        bytes := UInt64.ofNat (udpSkb sampleIpv4).frame.length, packets := 1 }) :=
  flow_event_reports_frame ⟨.unix 0, ascii "p"⟩ .ingress ∅ 7 (udpSkb sampleIpv4) sampleLink sampleIpv4 _
    (.udp ⟨5000, 53, 8, 0⟩) [] (List.append_nil _) rfl rfl rfl

/-! ### Exclusion -/

section
variable {to4 : Bytes → Option Ipv4Addr} {env : Bytes}

theorem key_injective : Function.Injective fun ip4 : Ipv4Addr => word32 ip4.bytes := by
  intro left right same
  have words := word_injective ((word32_bytes left).symm.trans (same.trans (word32_bytes right)))
  obtain ⟨a, b, c, d⟩ := left
  obtain ⟨a', b', c', d'⟩ := right
  cases words
  rfl

/-- The key of an address is the word of the reversed address, so that is what the classifiers exclude. -/
theorem ex_written (few : (excludeIPs to4 env).dedup.length ≤ 32) (addr : Ipv4Addr) :
    ex (writeExcludeIPsToBPF to4 env) addr.word = decide (reversed addr ∈ excludeIPs to4 env) := by
  have keys : ((excludeIPs to4 env).map fun ip4 => word32 ip4.bytes).dedup.length ≤ 32 := by
    rw [List.dedup_map_of_injective key_injective, List.length_map]
    exact few
  have mine : word32 (reversed addr).bytes = addr.word := word32_bytes _
  have member : addr.word ∈ (excludeIPs to4 env).map (fun ip4 => word32 ip4.bytes) ↔
      reversed addr ∈ excludeIPs to4 env := by
    rw [← mine]
    exact List.mem_map_of_injective key_injective
  have found := lookup_foldl_update keys (1 : UInt8) (fun _ member => member)
    (fun key absurd => (AList.notMem_empty key absurd).elim) addr.word
  rw [List.foldl_map] at found
  unfold ex writeExcludeIPsToBPF
  rw [found]
  by_cases inside : reversed addr ∈ excludeIPs to4 env
  · simp [member.mpr inside, inside]
  · simp [mt member.mp inside, inside]

def Emits (hook : TcHook) (excluded : ExcludeDestIps) (ts : UInt64) (skb : Skb) : Prop :=
  ∃ fe, hook.classifier excluded ts skb = .ok (some fe)

/-- Nothing is emitted of a frame to an excluded address, and both hooks emit if neither address is excluded. -/
structure ExclusionWorks (ips : List Ipv4Addr) (excluded : ExcludeDestIps) (ts : UInt64) (skb : Skb)
    (header : Ipv4Header) : Prop where
  silent : header.dst ∈ ips → ∀ hook, ¬ Emits hook excluded ts skb
  heard : header.src ∉ ips → header.dst ∉ ips → ∀ hook, Emits hook excluded ts skb

theorem emits_iff {skb : Skb} {header : Ipv4Header} {protocol : UInt8} {rest : Bytes}
    (carries : Carries skb header protocol rest) (complete : 34 ≤ skb.linear.length) (hook : TcHook)
    (excluded : ExcludeDestIps) (ts : UInt64) :
    Emits hook excluded ts skb ↔ ex excluded (hook.tested header).word = false := by
  obtain ⟨dir, classified⟩ := hook_classifies carries hook excluded ts
  unfold Emits
  rw [classified]
  cases ex excluded (hook.tested header).word <;> simp [complete]

/-- Exclusion works on a frame with a complete IP header if and only if it would with the reversed addresses in the
place of the tested ones. -/
theorem exclusion_works_iff (to4 : Bytes → Option Ipv4Addr) (env : Bytes)
    (few : (excludeIPs to4 env).dedup.length ≤ 32) (ts : UInt64) {skb : Skb} {header : Ipv4Header} {protocol : UInt8}
    {rest : Bytes} (carries : Carries skb header protocol rest) (complete : 34 ≤ skb.linear.length) :
    ExclusionWorks (excludeIPs to4 env) (writeExcludeIPsToBPF to4 env) ts skb header ↔
      (header.dst ∈ excludeIPs to4 env → ∀ hook, reversed (TcHook.tested header hook) ∈ excludeIPs to4 env) ∧
        (header.src ∉ excludeIPs to4 env → header.dst ∉ excludeIPs to4 env →
          ∀ hook, reversed (TcHook.tested header hook) ∉ excludeIPs to4 env) := by
  have emits (hook : TcHook) : Emits hook (writeExcludeIPsToBPF to4 env) ts skb ↔
      reversed (hook.tested header) ∉ excludeIPs to4 env := by
    rw [emits_iff carries complete, ex_written few, decide_eq_false_iff_not]
  constructor
  · intro works
    refine ⟨fun excluded hook => ?_, fun src dst hook => (emits hook).mp (works.heard src dst hook)⟩
    by_contra other
    exact works.silent excluded hook ((emits hook).mpr other)
  · rintro ⟨silent, heard⟩
    refine ⟨fun excluded hook emitted => ?_, fun src dst hook => (emits hook).mpr (heard src dst hook)⟩
    exact (emits hook).mp emitted (silent excluded hook)

end

/-- As `net.ParseIP` reads the address that is built in. -/
def builtIn (text : Bytes) : Option Ipv4Addr :=
  if text = ascii "10.115.107.91" then some ⟨10, 115, 107, 91⟩ else none

theorem udpSkb_carries (header : Ipv4Header) :
    Carries (udpSkb header) header 17 ((Segment.udp ⟨5000, 53, 8, 0⟩).bytes ++ []) :=
  ⟨sampleLink, _, rfl, List.append_nil _⟩

theorem udpSkb_complete (header : Ipv4Header) : 34 ≤ (udpSkb header).linear.length := by
  have length := (udpSkb_carries header).length
  have size : ((Segment.udp ⟨5000, 53, 8, 0⟩).bytes ++ []).length = 8 := rfl
  have whole : (udpSkb header).frame = (udpSkb header).linear := List.append_nil _
  rw [whole, size, Ipv4Header.ihl] at length
  omega

theorem other_address_emitted :
    ExclusionWorks (excludeIPs builtIn []) (writeExcludeIPsToBPF builtIn []) 7 (udpSkb sampleIpv4) sampleIpv4 := by
  refine (exclusion_works_iff builtIn [] (by decide) 7 (udpSkb_carries sampleIpv4) (udpSkb_complete sampleIpv4)).mpr
    ⟨fun excluded => absurd excluded (by decide), fun _ _ hook => ?_⟩
  cases hook with
  | ingress => decide
  | egress => decide

/-- A frame to the address that is built in. -/
def excludedIpv4 : Ipv4Header := { sampleIpv4 with dst := ⟨10, 115, 107, 91⟩ }

theorem excluded_address_emitted :
    ¬ ExclusionWorks (excludeIPs builtIn []) (writeExcludeIPsToBPF builtIn []) 7 (udpSkb excludedIpv4) excludedIpv4 := by
  intro works
  refine works.silent (by decide) .ingress ?_
  apply (emits_iff (udpSkb_carries _) (udpSkb_complete _) .ingress _ 7).mpr
  rw [ex_written (by decide)]
  decide

end StbEbpf.Agent
