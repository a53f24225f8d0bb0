import StbEbpf.Lib.Access
import StbEbpf.Probe.Common

/-!
The frame parser of `src/packet_parser.c`. A frame is the list of the bytes received, so that `len` is its length.
Multi-byte fields are read as on the little-endian target.
-/

namespace StbEbpf.Probe
open CText Access

def ETH_P_8021Q : UInt16 := 0x8100
def ETH_P_IP : UInt16 := 0x0800
def ETH_P_IPV6 : UInt16 := 0x86DD

structure PktEvent where
  timestampNs : UInt64 := 0
  srcIp : UInt32 := 0
  dstIp : UInt32 := 0
  srcPort : UInt16 := 0
  dstPort : UInt16 := 0
  protocol : UInt8 := 0
  tcpFlags : UInt8 := 0
  pktLen : UInt16 := 0
  pid : UInt32 := 0
  ipVersion : UInt8 := 0
  payloadType : UInt8 := 0
  latencyUs : UInt16 := 0
  deriving DecidableEq, Repr

def be16 (high low : UInt8) : UInt16 := high.toUInt16 <<< 8 ||| low.toUInt16

/-- A member of a header that has been copied out of the frame. -/
def field (header : Bytes) (i : Nat) : UInt8 := header.getD i 0

def fieldBe16 (header : Bytes) (i : Nat) : UInt16 := be16 (field header i) (field header (i + 1))

def fieldLe32 (header : Bytes) (i : Nat) : UInt32 :=
  (field header i).toUInt32 ||| (field header (i + 1)).toUInt32 <<< 8 |||
    (field header (i + 2)).toUInt32 <<< 16 ||| (field header (i + 3)).toUInt32 <<< 24

/-- The exclusive or of the four words of an IPv6 address. -/
def foldIpv6 (header : Bytes) (i : Nat) : UInt32 :=
  fieldLe32 header i ^^^ fieldLe32 header (i + 4) ^^^ fieldLe32 header (i + 8) ^^^ fieldLe32 header (i + 12)

/-- `PSH` and `URG` are kept for IPv4 only. -/
def tcpFlags4 (tcp : Bytes) : UInt8 :=
  field tcp 13 &&&
    (TCP_FLAG_SYN ||| TCP_FLAG_ACK ||| TCP_FLAG_FIN ||| TCP_FLAG_RST ||| TCP_FLAG_PSH ||| TCP_FLAG_URG)

def tcpFlags6 (tcp : Bytes) : UInt8 :=
  field tcp 13 &&& (TCP_FLAG_SYN ||| TCP_FLAG_ACK ||| TCP_FLAG_FIN ||| TCP_FLAG_RST)

def parseIpv4 (p : Bytes) (ethOffset : Nat) (evt : PktEvent) : Checked (Option PktEvent) := do
  if p.length < ethOffset + 20 then return none
  else
    let ip ← readRange p ethOffset 20
    if fieldBe16 ip 6 &&& 0x1FFF ≠ 0 then return none
    else
      let protocol := field ip 9
      let evt := { evt with srcIp := fieldLe32 ip 12, dstIp := fieldLe32 ip 16, protocol, ipVersion := 4 }
      let transportOffset := ethOffset + (field ip 0 &&& 0x0F).toNat * 4
      if protocol = IPPROTO_TCP then
        if p.length < transportOffset + 20 then return none
        else
          let tcp ← readRange p transportOffset 20
          return some { evt with srcPort := fieldBe16 tcp 0, dstPort := fieldBe16 tcp 2, tcpFlags := tcpFlags4 tcp }
      else if protocol = IPPROTO_UDP then
        if p.length < transportOffset + 8 then return none
        else
          let udp ← readRange p transportOffset 8
          return some { evt with srcPort := fieldBe16 udp 0, dstPort := fieldBe16 udp 2 }
      else if protocol = IPPROTO_ICMP then
        if p.length < transportOffset + 8 then return none
        else
          let icmp ← readRange p transportOffset 8
          return some { evt with srcPort := 0, dstPort := (field icmp 0).toUInt16 }
      else return some { evt with srcPort := 0, dstPort := 0 }

def parseIpv6 (p : Bytes) (ethOffset : Nat) (evt : PktEvent) : Checked (Option PktEvent) := do
  if p.length < ethOffset + 40 then return none
  else
    let ip6 ← readRange p ethOffset 40
    let protocol := field ip6 6
    let evt := { evt with srcIp := foldIpv6 ip6 8, dstIp := foldIpv6 ip6 24, protocol, ipVersion := 6 }
    let transportOffset := ethOffset + 40
    if protocol = IPPROTO_TCP then
      if p.length < transportOffset + 20 then return none
      else
        let tcp ← readRange p transportOffset 20
        return some { evt with srcPort := fieldBe16 tcp 0, dstPort := fieldBe16 tcp 2, tcpFlags := tcpFlags6 tcp }
    else if protocol = IPPROTO_UDP then
      if p.length < transportOffset + 8 then return none
      else
        let udp ← readRange p transportOffset 8
        return some { evt with srcPort := fieldBe16 udp 0, dstPort := fieldBe16 udp 2 }
    else return some { evt with srcPort := 0, dstPort := 0 }

/-- The event when the frame is accepted; what a rejected frame has left in it is not used. -/
def packetParseRaw (p : Bytes) (evt : PktEvent) : Checked (Option PktEvent) := do
  if p.length < 14 then return none
  else
    let ethProto := be16 (← readAt p 12) (← readAt p 13)
    if ethProto = ETH_P_8021Q then
      if p.length < 18 then return none
      else parseIp (be16 (← readAt p 16) (← readAt p 17)) 18
    else parseIp ethProto 14
where
  parseIp (ethProto : UInt16) (ethOffset : Nat) : Checked (Option PktEvent) :=
    if ethProto = ETH_P_IP then parseIpv4 p ethOffset evt
    else if ethProto = ETH_P_IPV6 then parseIpv6 p ethOffset evt
    else pure none

def PktEvent.isDns (pkt : PktEvent) : Bool :=
  pkt.protocol = IPPROTO_UDP ∧ (pkt.srcPort = PORT_DNS ∨ pkt.dstPort = PORT_DNS)

def protocolText (protocol : UInt8) : Bytes :=
  if protocol = IPPROTO_TCP then PROTO_TCP
  else if protocol = IPPROTO_UDP then PROTO_UDP
  else if protocol = IPPROTO_ICMP then PROTO_ICMP
  else decimal protocol.toNat

/-- The service and tags of an event that is neither DNS nor ICMP nor multicast. -/
def PktEvent.markHttp (pkt : PktEvent) (flow : FlowEvent) : FlowEvent :=
  if pkt.payloadType = PAYLOAD_HTTP_REQ then
    { flow with service := .strncpy (ascii "HTTP"), tags := .strncpy (ascii "http,request") }
  else if pkt.payloadType = PAYLOAD_HTTP_RESP then
    { flow with service := .strncpy (ascii "HTTP"), tags := .strncpy (ascii "http,response") }
  else if pkt.protocol = IPPROTO_TCP ∧
      (pkt.srcPort = PORT_HTTP ∨ pkt.dstPort = PORT_HTTP ∨ pkt.srcPort = PORT_HTTPS ∨ pkt.dstPort = PORT_HTTPS) then
    { flow with service := .strncpy (ascii "HTTP") }
  else flow

def packetToFlowEvent (pkt : PktEvent) (probeId : CStr) : FlowEvent :=
  let flow : FlowEvent :=
    { timestampNs := pkt.timestampNs, probeId := .strncpy probeId.bytes
      srcIp := pkt.srcIp, dstIp := pkt.dstIp, srcPort := pkt.srcPort, dstPort := pkt.dstPort
      tcpFlags := pkt.tcpFlags, pktLen := pkt.pktLen, bytes := pkt.pktLen.toUInt64, packets := 1
      pid := pkt.pid, ipVersion := pkt.ipVersion, payloadType := pkt.payloadType
      latencyUs := pkt.latencyUs.toUInt64, protocol := .strncpy (protocolText pkt.protocol) }
  if pkt.isDns then
    { flow with
      category := .strncpy CAT_DNS
      eventType := .strncpy (if pkt.dstPort = PORT_DNS then EVT_DNS_QUERY else EVT_DNS_REPLY)
      tags := .strncpy (ascii "dns")
      service := .strncpy (ascii "DNS") }
  else if pkt.protocol = IPPROTO_ICMP then
    let flow := { flow with category := .strncpy CAT_ICMP, tags := .strncpy (ascii "icmp") }
    if pkt.dstPort = 8 then
      { flow with eventType := .strncpy EVT_ICMP_ECHO, service := .strncpy (ascii "ping") }
    else flow
  else if isMulticast pkt.dstIp then
    { flow with
      tags := .strncpy (ascii "iptv,multicast"), service := .strncpy (ascii "IPTV"), category := .strncpy CAT_IPTV }
  else
    let flow := pkt.markHttp flow
    if pkt.tcpFlags &&& TCP_FLAG_SYN ≠ 0 then { flow with eventType := .strncpy EVT_CONNECT }
    else if pkt.tcpFlags &&& TCP_FLAG_FIN ≠ 0 ∨ pkt.tcpFlags &&& TCP_FLAG_RST ≠ 0 then
      { flow with eventType := .strncpy EVT_DISCONNECT }
    else { flow with category := .strncpy CAT_NETWORK, eventType := .strncpy EVT_FLOW }

end StbEbpf.Probe
