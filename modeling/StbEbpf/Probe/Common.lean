import StbEbpf.Lib.CText

/-!
The structures and constants of `include/common.h`. Integer fields keep their C widths and `char`
arrays their sizes. The members that no modelled function reads or writes are left out.
-/

namespace StbEbpf.Probe
open CText

def CAT_NETWORK : Bytes := ascii "network"
def CAT_IPTV : Bytes := ascii "iptv"
def CAT_DNS : Bytes := ascii "dns"
def CAT_ICMP : Bytes := ascii "icmp"

def EVT_FLOW : Bytes := ascii "flow"
def EVT_CONNECT : Bytes := ascii "connect"
def EVT_DISCONNECT : Bytes := ascii "disconnect"
def EVT_DNS_QUERY : Bytes := ascii "dns_query"
def EVT_DNS_REPLY : Bytes := ascii "dns_reply"
def EVT_ICMP_ECHO : Bytes := ascii "icmp_echo"

def PROTO_TCP : Bytes := ascii "TCP"
def PROTO_UDP : Bytes := ascii "UDP"
def PROTO_ICMP : Bytes := ascii "ICMP"

def PAYLOAD_HTTP_REQ : UInt8 := 1
def PAYLOAD_HTTP_RESP : UInt8 := 2

def TCP_FLAG_SYN : UInt8 := 0x02
def TCP_FLAG_ACK : UInt8 := 0x10
def TCP_FLAG_FIN : UInt8 := 0x01
def TCP_FLAG_RST : UInt8 := 0x04
def TCP_FLAG_PSH : UInt8 := 0x08
def TCP_FLAG_URG : UInt8 := 0x20

def IPPROTO_ICMP : UInt8 := 1
def IPPROTO_TCP : UInt8 := 6
def IPPROTO_UDP : UInt8 := 17

def PORT_DNS : UInt16 := 53
def PORT_HTTP : UInt16 := 80
def PORT_HTTPS : UInt16 := 443

def MAX_FLOWS : Nat := 4096
def MAX_JSON_LEN : Nat := 8192
def FLOW_CLEANUP_INTERVAL_S : Nat := 60

def isMulticast (ip : UInt32) : Bool := ip &&& 0xF0000000 == 0xE0000000

/-- `struct flow_key_t`: 16 bytes without padding, so `memcmp` equality is field equality. -/
structure FlowKey where
  srcIp : UInt32
  dstIp : UInt32
  srcPort : UInt16
  dstPort : UInt16
  protocol : UInt8
  ipVersion : UInt8 := 0
  pad : UInt8 × UInt8 := (0, 0)
  deriving DecidableEq, Repr

structure FlowValue where
  bytes : UInt64 := 0
  packets : UInt64 := 0
  firstSeenNs : UInt64 := 0
  lastSeenNs : UInt64 := 0
  retransmits : UInt32 := 0
  dupAcks : UInt32 := 0
  seqExpected : UInt32 := 0
  deriving DecidableEq, Repr

structure FlowEvent where
  timestampNs : UInt64 := 0
  probeId : CharBuf 64 := .zero
  category : CharBuf 16 := .zero
  eventType : CharBuf 16 := .zero
  srcIp : UInt32 := 0
  dstIp : UInt32 := 0
  srcPort : UInt16 := 0
  dstPort : UInt16 := 0
  protocol : CharBuf 8 := .zero
  ipVersion : UInt8 := 0
  tcpFlags : UInt8 := 0
  payloadType : UInt8 := 0
  anomaly : UInt8 := 0
  pktLen : UInt16 := 0
  bytes : UInt64 := 0
  packets : UInt64 := 0
  latencyUs : UInt64 := 0
  bandwidthBps : UInt64 := 0
  retransmits : UInt32 := 0
  dupAcks : UInt32 := 0
  pid : UInt32 := 0
  service : CharBuf 32 := .zero
  details : CharBuf 128 := .zero
  tags : CharBuf 64 := .zero
  deriving DecidableEq, Repr

/-- The members of `struct host_metric_t` that are serialized; a `double` is carried as its bits. -/
structure HostMetric where
  timestampNs : UInt64
  cpuPercent : UInt64
  memoryPercent : UInt64
  diskPercent : UInt64
  netRxBytes : UInt64
  netTxBytes : UInt64
  deriving DecidableEq, Repr

structure ProcNetEntry where
  localIp : UInt32
  localPort : UInt16
  remoteIp : UInt32
  remotePort : UInt16
  protocol : UInt8
  rxQueue : UInt64
  txQueue : UInt64
  state : UInt8 := 0
  ipVersion : UInt8 := 0
  uid : UInt32 := 0
  inode : UInt32 := 0
  deriving DecidableEq, Repr

/-- The four bytes of an address as they lie in memory on the little-endian target. -/
def ipToStr (ip : UInt32) : CharBuf 16 :=
  .snprintf (decimal (ip.toNat % 256) ++ ascii "." ++ decimal (ip.toNat / 256 % 256) ++ ascii "." ++
    decimal (ip.toNat / 65536 % 256) ++ ascii "." ++ decimal (ip.toNat / 16777216))

end StbEbpf.Probe
