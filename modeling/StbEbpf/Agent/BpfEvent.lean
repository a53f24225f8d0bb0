import StbEbpf.Lib.Words
import StbEbpf.Probe.HeaderOffsets

/-!
The record `struct event` of `bpf/common.h` that the BPF programs put into their ring buffers, and its bytes as the
collectors get them.
-/

namespace StbEbpf.Agent
open CText Access Words

structure BpfEvent where
  timestampNs : UInt64
  type : UInt32
  pid : UInt32
  ppid : UInt32
  srcIp : UInt32
  dstIp : UInt32
  srcPort : UInt16
  dstPort : UInt16
  protocol : UInt8
  padding : Vector UInt8 7
  bytes : UInt64
  packets : UInt64
  latencyNs : UInt64
  count : UInt64
  comm : Vector UInt8 16
  data : Vector UInt8 256

namespace BpfEvent
variable (e : BpfEvent)

/-- The members in their order; the compiler adds no padding of its own. -/
def members : List Bytes :=
  [le64 e.timestampNs, le32 e.type, le32 e.pid, le32 e.ppid, le32 e.srcIp, le32 e.dstIp, le16 e.srcPort, le16 e.dstPort,
    [e.protocol], e.padding.toList, le64 e.bytes, le64 e.packets, le64 e.latencyNs, le64 e.count, e.comm.toList,
    e.data.toList]

/-- What the ring buffer hands out. -/
def sample : Bytes := e.members.flatten

theorem members_length : e.members.map List.length = [8, 4, 4, 4, 4, 4, 2, 2, 1, 7, 8, 8, 8, 8, 16, 256] := by
  simp [members, le16, le32, le64, leBytes_length]

theorem sample_length : e.sample.length = 344 := by
  unfold sample
  rw [List.length_flatten, e.members_length]
  rfl

theorem offsetOf_members (k : Nat) :
    offsetOf e.members k = ([8, 4, 4, 4, 4, 4, 2, 2, 1, 7, 8, 8, 8, 8, 16, 256].take k).sum := by
  unfold offsetOf
  rw [List.map_take, e.members_length]

end BpfEvent

/-! ### Reads of the collectors -/

def readUint16 (data : Bytes) (offset : Nat) : Checked UInt16 := uint16 <$> readRange data offset 2
def readUint32 (data : Bytes) (offset : Nat) : Checked UInt32 := uint32 <$> readRange data offset 4
def readUint64 (data : Bytes) (offset : Nat) : Checked UInt64 := uint64 <$> readRange data offset 8

section
variable {parts : List Bytes} {offset : Nat} (k : Nat) (start : offsetOf parts k = offset)
include start

theorem readWord_member {α : Type} (word : Bytes → α) {count value : Nat}
    (member : parts[k]? = some (leBytes count value)) :
    word <$> readRange parts.flatten offset count = (.ok (word (leBytes count value)) : Checked α) := by
  have read := readRange_member member start
  rw [leBytes_length] at read
  rw [read]
  rfl

theorem readUint16_member {word : UInt16} (member : parts[k]? = some (le16 word)) :
    readUint16 parts.flatten offset = .ok word :=
  (readWord_member k start uint16 member).trans (congrArg Except.ok (uint16_le16 word))

theorem readUint32_member {word : UInt32} (member : parts[k]? = some (le32 word)) :
    readUint32 parts.flatten offset = .ok word :=
  (readWord_member k start uint32 member).trans (congrArg Except.ok (uint32_le32 word))

theorem readUint64_member {word : UInt64} (member : parts[k]? = some (le64 word)) :
    readUint64 parts.flatten offset = .ok word :=
  (readWord_member k start uint64 member).trans (congrArg Except.ok (uint64_le64 word))

end

namespace BpfEvent
variable (e : BpfEvent)

theorem timestampNs_read : readUint64 e.sample 0 = .ok e.timestampNs := readUint64_member 0 (e.offsetOf_members 0) rfl

theorem type_read : readUint32 e.sample 8 = .ok e.type := readUint32_member 1 (e.offsetOf_members 1) rfl

theorem pid_read : readUint32 e.sample 12 = .ok e.pid := readUint32_member 2 (e.offsetOf_members 2) rfl

theorem ppid_read : readUint32 e.sample 16 = .ok e.ppid := readUint32_member 3 (e.offsetOf_members 3) rfl

theorem srcIp_read : readUint32 e.sample 20 = .ok e.srcIp := readUint32_member 4 (e.offsetOf_members 4) rfl

theorem dstIp_read : readUint32 e.sample 24 = .ok e.dstIp := readUint32_member 5 (e.offsetOf_members 5) rfl

theorem srcPort_read : readUint16 e.sample 28 = .ok e.srcPort := readUint16_member 6 (e.offsetOf_members 6) rfl

theorem dstPort_read : readUint16 e.sample 30 = .ok e.dstPort := readUint16_member 7 (e.offsetOf_members 7) rfl

theorem bytes_read : readUint64 e.sample 40 = .ok e.bytes := readUint64_member 10 (e.offsetOf_members 10) rfl

theorem packets_read : readUint64 e.sample 48 = .ok e.packets := readUint64_member 11 (e.offsetOf_members 11) rfl

theorem latencyNs_read : readUint64 e.sample 56 = .ok e.latencyNs := readUint64_member 12 (e.offsetOf_members 12) rfl

theorem count_read : readUint64 e.sample 64 = .ok e.count := readUint64_member 13 (e.offsetOf_members 13) rfl

theorem comm_read : readRange e.sample 72 16 = .ok e.comm.toList := by
  have member : e.members[14]? = some e.comm.toList := rfl
  have read := readRange_member member (e.offsetOf_members 14)
  rwa [e.comm.length_toList] at read

theorem data_read : readRange e.sample 88 256 = .ok e.data.toList := by
  have member : e.members[15]? = some e.data.toList := rfl
  have read := readRange_member member (e.offsetOf_members 15)
  rwa [e.data.length_toList] at read

/-- The 256 bytes from offset 72 on are those of `comm` and all but the last 16 of `data`. -/
theorem window_read : readRange e.sample 72 256 = .ok (e.comm.toList ++ e.data.toList.take 240) := by
  have whole : e.sample = (e.members.take 14).flatten ++ (e.comm.toList ++ e.data.toList) := by
    simp [sample, members]
  have before : (e.members.take 14).flatten.length = 72 := by
    rw [List.length_flatten]
    exact e.offsetOf_members 14
  unfold readRange
  rw [e.sample_length, if_pos (by decide), whole, ← before, List.drop_left, List.take_append, e.comm.length_toList,
    List.take_of_length_le (by rw [e.comm.length_toList]; decide)]
  rfl

end BpfEvent

end StbEbpf.Agent
