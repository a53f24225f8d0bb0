import StbEbpf.Probe.RawPath

/-!
No access of the raw-packet path leaves the frame or the local arrays, whatever the frame holds. The header lengths
and label lengths that the frame supplies are checked against its length before they are used.
-/

namespace StbEbpf.Probe
open CText Access

/-! ### Headers -/

theorem parseIpv4_completes (p : Bytes) (ethOffset : Nat) (evt : PktEvent) : Completes (parseIpv4 p ethOffset evt) := by
  unfold parseIpv4
  split
  · exact completes_pure _
  · refine completes_bind (completes_readRange (by omega)) fun ip => ?_
    split
    · exact completes_pure _
    · dsimp only
      split
      · exact completes_header
      · split
        · exact completes_header
        · split
          · exact completes_header
          · exact completes_pure _

theorem parseIpv6_completes (p : Bytes) (ethOffset : Nat) (evt : PktEvent) : Completes (parseIpv6 p ethOffset evt) := by
  unfold parseIpv6
  split
  · exact completes_pure _
  · refine completes_bind (completes_readRange (by omega)) fun ip6 => ?_
    dsimp only
    split
    · exact completes_header
    · split
      · exact completes_header
      · exact completes_pure _

theorem parseIp_completes (p : Bytes) (evt : PktEvent) (ethProto : UInt16) (ethOffset : Nat) :
    Completes (packetParseRaw.parseIp p evt ethProto ethOffset) := by
  unfold packetParseRaw.parseIp
  split
  · exact parseIpv4_completes p ethOffset evt
  · split
    · exact parseIpv6_completes p ethOffset evt
    · exact completes_pure _

theorem packetParseRaw_completes (p : Bytes) (evt : PktEvent) : Completes (packetParseRaw p evt) := by
  unfold packetParseRaw
  split
  · exact completes_pure _
  · refine completes_bind (completes_readAt (by omega)) fun high => ?_
    refine completes_bind (completes_readAt (by omega)) fun low => ?_
    dsimp only
    split
    · split
      · exact completes_pure _
      · refine completes_bind (completes_readAt (by omega)) fun high => ?_
        refine completes_bind (completes_readAt (by omega)) fun low => ?_
        exact parseIp_completes p evt _ 18
    · exact parseIp_completes p evt _ 14

/-! ### DNS -/

/-- The name array with its fill level; the last byte is always left for the NUL. -/
def NameFits (name : Bytes) (nameLen : Nat) : Prop := name.length = 256 ∧ nameLen ≤ 255

theorem copyLabel_safe {payload : Bytes} (remaining position : Nat) {name : Bytes} {nameLen : Nat}
    (fits : NameFits name nameLen) (inside : position + remaining ≤ payload.length) :
    Safe (copyLabel payload remaining position name nameLen) (fun out => NameFits out.1 out.2) := by
  induction remaining generalizing position name nameLen with
  | zero => exact safe_pure fits
  | succ remaining ih =>
    obtain ⟨size, level⟩ := fits
    unfold copyLabel
    split
    · refine safe_bind (safe_readAt (by omega)) fun byte _ => ?_
      refine safe_bind (safe_writeAt (by omega) byte) fun out written => ?_
      refine ih (position + 1) ⟨?_, by omega⟩ (by omega)
      rw [written, List.length_set, size]
    · exact safe_pure ⟨size, level⟩

theorem dotBefore_safe {name : Bytes} {nameLen : Nat} (fits : NameFits name nameLen) :
    Safe (dnsLabels.dotBefore name nameLen) (fun out => NameFits out.1 out.2) := by
  obtain ⟨size, level⟩ := fits
  unfold dnsLabels.dotBefore
  split
  · refine safe_bind (safe_writeAt (by omega) 46) fun out written => safe_pure ⟨?_, by dsimp only; omega⟩
    rw [written, List.length_set, size]
  · exact safe_pure ⟨size, level⟩

theorem dnsLabels_safe {payload : Bytes} (fuel : Nat) {d : DnsName} (fits : NameFits d.name d.nameLen)
    (within : d.offset ≤ payload.length) (enough : payload.length < d.offset + fuel) :
    Safe (dnsLabels payload fuel d) (fun out => NameFits out.name out.nameLen) := by
  induction fuel generalizing d with
  | zero => omega
  | succ fuel ih =>
    unfold dnsLabels
    split
    · refine safe_bind (safe_readAt (by omega)) fun byte _ => ?_
      dsimp only
      split
      · exact safe_pure fits
      · split
        · exact safe_pure fits
        · split
          · exact safe_pure fits
          · refine safe_bind (dotBefore_safe fits) fun ⟨name, nameLen⟩ fits => ?_
            refine safe_bind (copyLabel_safe _ _ fits (by omega)) fun ⟨name, nameLen⟩ fits => ?_
            exact ih fits (by dsimp only; omega) (by dsimp only; omega)
    · exact safe_pure fits

theorem parseDnsPayload_completes (payload : Bytes) (flow : FlowEvent) (isReply : Bool) :
    Completes (parseDnsPayload payload flow isReply) := by
  unfold parseDnsPayload
  split
  · exact completes_pure _
  · refine completes_bind (completes_readRange (by omega)) fun header => ?_
    dsimp only
    split
    · exact completes_pure _
    · split
      · have empty : NameFits (List.replicate 256 0) 0 := ⟨List.length_replicate, by omega⟩
        refine safe_bind (dnsLabels_safe (payload.length + 1) (d := ⟨12, _, 0, false⟩) empty (by dsimp only; omega)
          (by dsimp only; omega)) fun d ⟨size, level⟩ => ?_
        refine safe_bind (safe_writeAt (by omega) 0) fun name _ => ?_
        split
        · refine completes_bind (completes_readAt (by omega)) fun high => ?_
          exact completes_bind (completes_readAt (by omega)) fun low => completes_pure _
        · exact completes_pure _
      · exact completes_pure _

/-! ### HTTP -/

theorem copyValue_safe {limit : Nat} {text : Bytes} (terminated : Terminated text) {i : Nat} {out : Bytes}
    (size : out.length = limit + 1) (level : i ≤ limit) :
    Safe (copyValue limit text i out) (fun r => r.1.length = limit + 1 ∧ r.2 ≤ limit) := by
  induction text generalizing i out with
  | nil => cases terminated
  | cons byte rest ih =>
    unfold copyValue
    split
    · rename_i more
      refine safe_bind (safe_writeAt (by omega) byte) fun out written => ?_
      refine ih (terminated_tail terminated more.1) ?_ (by omega)
      rw [written, List.length_set, size]
    · exact safe_pure ⟨size, level⟩

/-- The arrays from which a string is printed have a first byte. -/
theorem headerValue_safe {limit nameLen : Nat} {buf : Bytes} {position : Option Nat}
    (found : ∀ k ∈ position, Terminated (buf.drop (k + nameLen))) :
    Safe (headerValue limit nameLen buf position) (fun out => 0 < out.length) := by
  unfold headerValue
  cases position with
  | none => exact safe_pure (by simp)
  | some k =>
    refine safe_bind (skipWhile_safe (by decide) (found k rfl)) fun text terminated => ?_
    refine safe_bind (copyValue_safe terminated (by simp) (Nat.zero_le _)) fun ⟨out, i⟩ ⟨size, level⟩ => ?_
    dsimp only at size level ⊢
    refine safe_weaken (safe_writeAt (by omega) 0) fun written same => ?_
    rw [same, List.length_set]
    omega

theorem findHeader_safe {first second buf : Bytes} (nameLen : Nat) (one : first.length = nameLen)
    (two : second.length = nameLen) (visible : (first ++ second).all fun byte => toLower byte != 0)
    (terminated : Terminated buf) :
    Safe (findHeader first second buf) (fun found => ∀ k ∈ found, Terminated (buf.drop (k + nameLen))) := by
  have shown : ∀ byte ∈ first ++ second, toLower byte ≠ 0 := by
    intro byte member
    simpa using List.all_eq_true.mp visible byte member
  unfold findHeader
  refine safe_bind (strcasestr_safe (fun byte member => shown byte (by simp [member])) terminated)
    fun found spec => ?_
  cases found with
  | some k => exact safe_pure (one ▸ spec)
  | none =>
    rw [← two]
    exact strcasestr_safe (fun byte member => shown byte (by simp [member])) terminated

theorem orElseText_completes {out : Bytes} (some_ : 0 < out.length) (replacement : Bytes) :
    Completes (orElseText out replacement) :=
  completes_bind (completes_readAt some_) fun _ => completes_pure _

theorem parseHttpResponse_completes {buf : Bytes} (terminated : Terminated buf) (long : 4 ≤ buf.length)
    (flow : FlowEvent) : Completes (parseHttpResponse buf flow) := by
  have status {sp : Option Nat} (found : ∀ k ∈ sp, k ≤ buf.length ∧ Terminated (buf.drop (k + 1))) :
      Completes (parseHttpResponse.statusAfter buf sp) := by
    cases sp with
    | none => exact completes_pure _
    | some k => exact atoi_completes (found k rfl).2
  unfold parseHttpResponse
  refine completes_bind (completes_readRange (by omega)) fun head => ?_
  split
  · refine safe_bind (strchr_safe (by decide) terminated) fun sp found => ?_
    refine completes_bind (status found) fun statusCode => ?_
    refine safe_bind (findHeader_safe 13 (by decide) (by decide) (by decide) terminated) fun ct found => ?_
    refine safe_bind (headerValue_safe found) fun ctValue size => ?_
    exact completes_bind (orElseText_completes size _) fun contentType => completes_pure _
  · exact completes_pure _

theorem copyPiece_safe {limit : Nat} {buf : Bytes} {start length : Nat} (inside : start + length ≤ buf.length) :
    Safe (copyPiece limit buf start length) (fun out => 0 < out.length) := by
  unfold copyPiece
  dsimp only
  refine safe_bind (safe_readRange (by split <;> omega)) fun piece size => ?_
  refine safe_bind (safe_writeStart (by simp only [List.length_replicate]; split at size <;> omega)) fun out kept => ?_
  rw [List.length_replicate] at kept
  refine safe_weaken (safe_writeAt (by split <;> omega) 0) fun written same => ?_
  rw [same, List.length_set]
  omega

theorem requestLine_safe {buf : Bytes} (terminated : Terminated buf) :
    Safe (requestLine buf) (fun line => 0 < line.method.length ∧ 0 < line.path.length) := by
  have zeros {n : Nat} : 0 < (List.replicate (n + 1) (0 : UInt8)).length := by simp
  unfold requestLine
  refine safe_bind (strchr_safe (by decide) terminated) fun sp found => ?_
  cases sp with
  | none => exact safe_pure ⟨zeros, zeros⟩
  | some sp =>
    obtain ⟨bound, later⟩ := found sp rfl
    refine safe_bind (copyPiece_safe (by omega)) fun method methodSize => ?_
    refine safe_bind (strchr_safe (by decide) later) fun pathLen found => ?_
    cases pathLen with
    | none => exact safe_pure ⟨methodSize, zeros⟩
    | some pathLen =>
      have inside := (found pathLen rfl).1
      have nonempty : 0 < (buf.drop (sp + 1)).length := List.length_pos_of_mem later
      rw [List.length_drop] at inside nonempty
      refine safe_bind (copyPiece_safe (by omega)) fun path pathSize => ?_
      exact safe_pure ⟨methodSize, pathSize⟩

theorem parseHttpRequest_completes {buf : Bytes} (terminated : Terminated buf) (flow : FlowEvent) :
    Completes (parseHttpRequest buf flow) := by
  unfold parseHttpRequest
  refine safe_bind (requestLine_safe terminated) fun line ⟨methodSize, pathSize⟩ => ?_
  refine safe_bind (findHeader_safe 5 (by decide) (by decide) (by decide) terminated) fun hostHeader found => ?_
  refine safe_bind (headerValue_safe found) fun host hostSize => ?_
  refine completes_bind (orElseText_completes methodSize _) fun method => ?_
  refine completes_bind (orElseText_completes pathSize _) fun path => ?_
  exact completes_bind (orElseText_completes hostSize _) fun host => completes_pure _

theorem parseHttpPayload_completes (initial : HttpBuf) (payload : Bytes) (flow : FlowEvent) (isResponse : Bool) :
    Completes (parseHttpPayload initial payload flow isResponse) := by
  obtain ⟨bytes, size⟩ := initial
  unfold parseHttpPayload
  split
  · exact completes_pure _
  · dsimp only
    refine safe_bind (safe_readRange (by split <;> omega)) fun copied length => ?_
    refine safe_bind (safe_writeStart (by split at length <;> omega)) fun buf kept => ?_
    have room : (if payload.length < 2048 - 1 then payload.length else 2048 - 1) < buf.length := by
      split <;> omega
    refine safe_bind (safe_writeAt room 0) fun buf written => ?_
    have terminated : Terminated buf := by
      rw [written]
      exact List.mem_set room 0
    have long : 4 ≤ buf.length := by
      rw [written, List.length_set]
      omega
    split
    · exact parseHttpResponse_completes terminated long flow
    · exact parseHttpRequest_completes terminated flow

/-! ### The frame -/

theorem ethHdrLen_completes (frame : Bytes) : Completes (ethHdrLen frame) := by
  unfold ethHdrLen
  split
  · refine completes_bind (completes_readAt (by omega)) fun high => ?_
    exact completes_bind (completes_readAt (by omega)) fun low => completes_pure _
  · exact completes_pure _

theorem tcpOffset_completes (frame : Bytes) (pkt : PktEvent) (ethOffset : Nat) : Completes (tcpOffset frame pkt ethOffset) := by
  unfold tcpOffset
  split
  · split
    · exact completes_pure _
    · exact completes_bind (completes_readAt (by omega)) fun first => completes_pure _
  · split
    · exact completes_pure _
    · exact completes_pure _

theorem extractTcpSeqNum_completes (frame : Bytes) (pkt : PktEvent) : Completes (extractTcpSeqNum frame pkt) := by
  unfold extractTcpSeqNum
  split
  · exact completes_pure _
  · refine completes_bind (ethHdrLen_completes frame) fun ethOffset => ?_
    refine completes_bind (tcpOffset_completes frame pkt ethOffset) fun offset => ?_
    cases offset with
    | none => exact completes_pure _
    | some offset => exact completes_header

theorem parseDnsFrame_completes (frame : Bytes) (pkt : PktEvent) (flow : FlowEvent) :
    Completes (parseDnsFrame frame pkt flow) := by
  unfold parseDnsFrame
  split
  · refine completes_bind (completes_bind (ethHdrLen_completes frame) fun _ => completes_pure _) fun offset => ?_
    split
    · exact parseDnsPayload_completes _ flow _
    · exact completes_pure _
  · exact completes_pure _

theorem parseHttpFrame_completes (initial : HttpBuf) (frame : Bytes) (pkt : PktEvent) (flow : FlowEvent) :
    Completes (parseHttpFrame initial frame pkt flow) := by
  unfold parseHttpFrame
  split
  · refine completes_bind (completes_bind (ethHdrLen_completes frame) fun _ => completes_pure _) fun offset => ?_
    split
    · refine completes_bind (completes_readAt (by omega)) fun dataOffset => ?_
      dsimp only
      split
      · exact parseHttpPayload_completes initial _ flow _
      · exact completes_pure _
    · exact completes_pure _
  · exact completes_pure _

theorem analyzeFrame_completes (frame : Bytes) (timestampNs : UInt64) (probeId : CStr) (initial : HttpBuf) :
    Completes (analyzeFrame frame timestampNs probeId initial) := by
  unfold analyzeFrame
  refine completes_bind (packetParseRaw_completes frame _) fun parsed => ?_
  cases parsed with
  | none => exact completes_pure _
  | some pkt =>
    refine completes_bind (parseDnsFrame_completes frame pkt _) fun flow => ?_
    refine completes_bind (parseHttpFrame_completes initial frame pkt flow) fun flow => ?_
    exact completes_bind (extractTcpSeqNum_completes frame pkt) fun segment => completes_pure _

/-- Every frame is analysed to the end: no read outside the frame, no access outside a local array. -/
theorem analyzeFrame_in_bounds (frame : Bytes) (timestampNs : UInt64) (probeId : CStr) (initial : HttpBuf) :
    ∃ analysis, analyzeFrame frame timestampNs probeId initial = .ok analysis := by
  obtain ⟨analysis, done, -⟩ := analyzeFrame_completes frame timestampNs probeId initial
  exact ⟨analysis, done⟩

end StbEbpf.Probe
