import StbEbpf.Lib.CStrings
import StbEbpf.Lib.Padding
import StbEbpf.Probe.TcpClient

/-!
The settings of `src/runtime_config.c`. They are loaded into a `struct stb_config` on the stack of `main`, which nothing
clears first: `strncpy` writes all bytes of an array but the last, and nothing writes that one.
-/

namespace StbEbpf.Probe.Settings
open CText Access

def RELAY_SERVER_IP : CStr := ⟨ascii "10.115.69.95", by decide⟩
def RELAY_SERVER_PORT : Int := 9104
def PROBE_ID : CStr := ⟨ascii "stb-tyson-01", by decide⟩
def LOG_LEVEL : Int := 2

structure StbConfig where
  relayServerIp : Vector UInt8 64
  relayServerPort : Int
  probeId : Vector UInt8 64
  logLevel : Int

/-- What `getenv` returns for the variables that are read. -/
structure Environment where
  stbRelayIp : Option CStr
  stbRelayPort : Option CStr
  stbProbeId : Option CStr
  stbLogLevel : Option CStr

-- `v && v[0]`.
def given (v : Option CStr) : Option CStr := v.filter (·.bytes ≠ [])

-- `strncpy(dst, src, sizeof(dst) - 1)`.
def strncpyText {size : Nat} (dst : Vector UInt8 (size + 1)) (src : CStr) : Vector UInt8 (size + 1) :=
  (padTo size src.bytes).push dst[size]

def setText {size : Nat} (dst : Vector UInt8 (size + 1)) (v : Option CStr) : Vector UInt8 (size + 1) :=
  match given v with
  | some text => strncpyText dst text
  | none => dst

def setNumber (old : Int) (v : Option CStr) : Checked Int :=
  match given v with
  | some text => atoi (text.bytes ++ [0])
  | none => pure old

-- `%s` of an array.
def printed (array : Bytes) : Checked CStr := do
  let _ ← skipWhile (· != 0) array
  return .ofBytes array

def configLoadFromEnv (env : Environment) (cfg : StbConfig) : Checked StbConfig := do
  let relayServerIp := setText (strncpyText cfg.relayServerIp RELAY_SERVER_IP) env.stbRelayIp
  let relayServerPort ← setNumber RELAY_SERVER_PORT env.stbRelayPort
  let probeId := setText (strncpyText cfg.probeId PROBE_ID) env.stbProbeId
  let logLevel ← setNumber LOG_LEVEL env.stbLogLevel
  let _ ← printed relayServerIp.toList
  let _ ← printed probeId.toList
  return { relayServerIp, relayServerPort, probeId, logLevel }

/-- The client that `main` makes from the settings; without one it returns. -/
def clientOf (cfg : StbConfig) : Option TcpClient :=
  tcpClientInit (.ofBytes cfg.relayServerIp.toList) cfg.relayServerPort true

/-! ### Text settings -/

def chosen (v : Option CStr) (default : CStr) : CStr := (given v).getD default

/-- The copy leaves a zero behind the text, or finds one in the byte it does not write. -/
def Closes {size : Nat} (dst : Vector UInt8 (size + 1)) (src : CStr) : Prop := src.bytes.length < size ∨ dst[size] = 0

section
variable {size : Nat} (dst : Vector UInt8 (size + 1))

theorem strncpyText_toList (src : CStr) : (strncpyText dst src).toList =
    src.bytes.take size ++ List.replicate (size - src.bytes.length) 0 ++ [dst[size]] := by
  unfold strncpyText padTo
  rw [Vector.toList_push]
  rfl

/-- The default leaves no trace in an array that is set. -/
theorem setText_eq (v : Option CStr) (default : CStr) :
    setText (strncpyText dst default) v = strncpyText dst (chosen v default) := by
  unfold setText chosen
  cases given v with
  | none => rfl
  | some text =>
    unfold strncpyText
    rw [Vector.getElem_push_eq]
    rfl

theorem strncpyText_terminated_iff (src : CStr) :
    Terminated (strncpyText dst src).toList ↔ Closes dst src := by
  have noNul : 0 ∉ src.bytes.take size := fun member => src.noNul (List.mem_of_mem_take member)
  unfold Terminated
  rw [strncpyText_toList, List.mem_append, List.mem_append, List.mem_replicate, List.mem_singleton]
  constructor
  · rintro ((visible | ⟨room, -⟩) | last)
    · exact absurd visible noNul
    · exact .inl (by omega)
    · exact .inr last.symm
  · rintro (room | last)
    · exact .inl (.inr ⟨by omega, rfl⟩)
    · exact .inr last.symm

theorem cut_strncpyText {src : CStr} (terminated : Terminated (strncpyText dst src).toList) :
    cut (strncpyText dst src).toList = src.bytes.take size := by
  have noNul : 0 ∉ src.bytes.take size := fun member => src.noNul (List.mem_of_mem_take member)
  rcases (strncpyText_terminated_iff dst src).mp terminated with room | last
  · -- The zeros behind the text end it.
    have zeros : Terminated (src.bytes.take size ++ List.replicate (size - src.bytes.length) 0) :=
      List.mem_append_right _ (List.mem_replicate.mpr ⟨by omega, rfl⟩)
    have held : src.bytes.take size ++ List.replicate (size - src.bytes.length) 0 = filled size (src.bytes.take size) := by
      unfold filled
      rw [List.length_take]
      congr 2
      omega
    rw [strncpyText_toList, cut_append zeros, held, cut_filled noNul]
  · have held : src.bytes.take size ++ List.replicate (size - src.bytes.length) 0 ++ [dst[size]] =
        filled (size + 1) (src.bytes.take size) := by
      unfold filled
      rw [last, List.append_assoc, ← List.replicate_succ', List.length_take]
      congr 2
      omega
    rw [strncpyText_toList, held, cut_filled noNul]

end

/-! ### Loading -/

theorem skipWhile_completes_iff (array : Bytes) : Completes (skipWhile (· != 0) array) ↔ Terminated array := by
  constructor
  · intro completes
    induction array with
    | nil =>
      obtain ⟨_, ended, -⟩ := completes
      cases ended
    | cons head rest ih =>
      unfold skipWhile at completes
      split at completes
      · exact List.mem_cons_of_mem _ (ih completes)
      · rename_i stop
        have zero : head = 0 := by simpa using stop
        exact zero ▸ List.mem_cons_self
  · intro terminated
    exact safe_weaken (skipWhile_safe (by decide) terminated) fun _ _ => trivial

theorem printed_bind_ok_iff (array : Bytes) (next : Checked StbConfig) (cfg : StbConfig) :
    (printed array >>= fun _ => next) = .ok cfg ↔ Terminated array ∧ next = .ok cfg := by
  rw [← skipWhile_completes_iff]
  unfold printed
  cases walk : skipWhile (· != 0) array with
  | error fault =>
    refine iff_of_false (fun same => by cases same) ?_
    rintro ⟨⟨_, ended, -⟩, -⟩
    cases ended
  | ok rest => exact (and_iff_right ⟨rest, rfl, trivial⟩).symm

theorem setNumber_completes (old : Int) (v : Option CStr) : Completes (setNumber old v) := by
  unfold setNumber
  split
  · exact atoi_completes (List.mem_append_right _ List.mem_cons_self)
  · exact completes_pure old

/-- The number a setting is to have: what stands at the start of its variable, or the default. -/
def Numbered (v : Option CStr) (default value : Int) : Prop :=
  match given v with
  | some text => atoi (text.bytes ++ [0]) = .ok value
  | none => value = default

theorem setNumber_ok_iff (old : Int) (v : Option CStr) (value : Int) :
    setNumber old v = .ok value ↔ Numbered v old value := by
  unfold setNumber Numbered
  split
  · rfl
  · exact ⟨fun same => (Except.ok.inj same).symm, fun same => congrArg Except.ok same.symm⟩

theorem configLoadFromEnv_ok_iff (env : Environment) (stack : StbConfig) :
    ∃ cfg : StbConfig, cfg.relayServerIp = strncpyText stack.relayServerIp (chosen env.stbRelayIp RELAY_SERVER_IP) ∧
      cfg.probeId = strncpyText stack.probeId (chosen env.stbProbeId PROBE_ID) ∧
      Numbered env.stbRelayPort RELAY_SERVER_PORT cfg.relayServerPort ∧
      Numbered env.stbLogLevel LOG_LEVEL cfg.logLevel ∧
      ∀ loaded, configLoadFromEnv env stack = .ok loaded ↔
        Terminated cfg.relayServerIp.toList ∧ Terminated cfg.probeId.toList ∧ loaded = cfg := by
  obtain ⟨port, portRead, -⟩ := setNumber_completes RELAY_SERVER_PORT env.stbRelayPort
  obtain ⟨level, levelRead, -⟩ := setNumber_completes LOG_LEVEL env.stbLogLevel
  refine ⟨⟨_, port, _, level⟩, rfl, rfl, (setNumber_ok_iff _ _ _).mp portRead, (setNumber_ok_iff _ _ _).mp levelRead,
    fun loaded => ?_⟩
  unfold configLoadFromEnv
  dsimp only
  rw [portRead, levelRead, setText_eq, setText_eq, ok_bind, ok_bind, printed_bind_ok_iff, printed_bind_ok_iff]
  refine and_congr_right' (and_congr_right' ?_)
  exact ⟨fun same => (Except.ok.inj same).symm, fun same => congrArg Except.ok same.symm⟩

theorem clientOf_isSome_iff (cfg : StbConfig) :
    (clientOf cfg).isSome ↔ 0 < cfg.relayServerPort ∧ cfg.relayServerPort ≤ 65535 := by
  unfold clientOf tcpClientInit
  split
  · rename_i refused
    exact iff_of_false (by simp) (by omega)
  · rename_i accepted
    exact iff_of_true rfl (by omega)

theorem clientOf_serverIp {cfg : StbConfig} {client : TcpClient} (made : client ∈ clientOf cfg) :
    client.serverIp.bytes = (cut cfg.relayServerIp.toList).take 15 := by
  unfold clientOf tcpClientInit at made
  split at made
  · cases made
  · obtain rfl := Option.some.inj made
    exact congrArg (List.take 15) (cut_eq_self (cut_noNul _))

/-- Whatever the stack held, the settings are loaded without a read behind an array exactly when each text is shorter
than 63 bytes or meets a zero in the byte behind them. The texts are then cut to 63 bytes and the numbers are those the
variables start with; `main` gets a client exactly for a port in range, and its server is the first 15 bytes of the
address. -/
theorem settings_loaded (env : Environment) (stack : StbConfig) :
    (Completes (configLoadFromEnv env stack) ↔
      Closes stack.relayServerIp (chosen env.stbRelayIp RELAY_SERVER_IP) ∧
      Closes stack.probeId (chosen env.stbProbeId PROBE_ID)) ∧
    Yields (configLoadFromEnv env stack) fun cfg =>
      cut cfg.relayServerIp.toList = (chosen env.stbRelayIp RELAY_SERVER_IP).bytes.take 63 ∧
      cut cfg.probeId.toList = (chosen env.stbProbeId PROBE_ID).bytes.take 63 ∧
      Numbered env.stbRelayPort RELAY_SERVER_PORT cfg.relayServerPort ∧
      Numbered env.stbLogLevel LOG_LEVEL cfg.logLevel ∧
      ((clientOf cfg).isSome ↔ 0 < cfg.relayServerPort ∧ cfg.relayServerPort ≤ 65535) ∧
      ∀ client ∈ clientOf cfg, client.serverIp.bytes = (chosen env.stbRelayIp RELAY_SERVER_IP).bytes.take 15 := by
  obtain ⟨cfg, ip, id, port, level, loads⟩ := configLoadFromEnv_ok_iff env stack
  have ipCloses := strncpyText_terminated_iff stack.relayServerIp (chosen env.stbRelayIp RELAY_SERVER_IP)
  have idCloses := strncpyText_terminated_iff stack.probeId (chosen env.stbProbeId PROBE_ID)
  rw [ip, id] at loads
  constructor
  · constructor
    · rintro ⟨loaded, ended, -⟩
      obtain ⟨ipEnds, idEnds, -⟩ := (loads loaded).mp ended
      exact ⟨ipCloses.mp ipEnds, idCloses.mp idEnds⟩
    · rintro ⟨ipRoom, idRoom⟩
      exact ⟨cfg, (loads cfg).mpr ⟨ipCloses.mpr ipRoom, idCloses.mpr idRoom, rfl⟩, trivial⟩
  · intro loaded ended
    obtain ⟨ipEnds, idEnds, rfl⟩ := (loads loaded).mp ended
    have ipText : cut loaded.relayServerIp.toList = (chosen env.stbRelayIp RELAY_SERVER_IP).bytes.take 63 := by
      rw [ip, cut_strncpyText _ ipEnds]
    have idText : cut loaded.probeId.toList = (chosen env.stbProbeId PROBE_ID).bytes.take 63 := by
      rw [id, cut_strncpyText _ idEnds]
    refine ⟨ipText, idText, port, level, clientOf_isSome_iff loaded, fun client made => ?_⟩
    rw [clientOf_serverIp made, ipText, List.take_take]
    rfl

end StbEbpf.Probe.Settings
