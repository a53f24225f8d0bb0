import StbEbpf.Probe.MainLoop
import StbEbpf.Probe.TcpReconnect

/-!
A client that has used up its retries. `tcp_client_reconnect` is the only way back to a connection once
`tcp_client_connect` is not called again, and it never resets the count that stops it.
-/

namespace StbEbpf.Probe
open CText Program

structure TcpState.GaveUp (s : TcpState) : Prop where
  down : s.client.isConnected = false
  spent : s.client.reconnectRetries = RECONNECT_MAX_RETRIES

/-- No socket is opened and no byte is sent; sockets may be closed. -/
structure SilentStep (s t : TcpState) : Prop extends t.GaveUp where
  sockets : t.sockets.length = s.sockets.length
  streams : ∀ fd, t.streamOf fd = s.streamOf fd
  calls : t.calls = s.calls

def Silent (s t : TcpState) : Prop := s.GaveUp → SilentStep s t

theorem silent_refl (s : TcpState) : Silent s s := fun gaveUp => ⟨gaveUp, rfl, fun _ => rfl, rfl⟩

theorem silent_trans {s t u : TcpState} (first : Silent s t) (second : Silent t u) : Silent s u := by
  intro gaveUp
  have one := first gaveUp
  have two := second one.toGaveUp
  exact ⟨two.toGaveUp, two.sockets.trans one.sockets, fun fd => (two.streams fd).trans (one.streams fd),
    two.calls.trans one.calls⟩

theorem silent_bind {α β : Type} {m : Tcp α} {next : α → Tcp β} {s : TcpState} (first : Silent s (m s).2)
    (rest : ∀ value t, Silent t (next value t).2) : Silent s ((m >>= next) s).2 :=
  bind_related (R := Silent) silent_trans first fun value t _ => rest value t

theorem silent_client {s : TcpState} {client : TcpClient} (kernel : Kernel)
    (up : client.isConnected = s.client.isConnected)
    (retries : client.reconnectRetries = s.client.reconnectRetries) : Silent s { s with client, kernel } :=
  fun gaveUp => ⟨⟨up.trans gaveUp.down, retries.trans gaveUp.spent⟩, rfl, fun _ => rfl, rfl⟩

theorem silent_disconnected (s : TcpState) :
    Silent s { s with client := { s.client with isConnected := false } } :=
  fun gaveUp => ⟨⟨rfl, gaveUp.spent⟩, rfl, fun _ => rfl, rfl⟩

theorem closeSocket_silent (s : TcpState) : Silent s (closeSocket s).2 := by
  unfold closeSocket
  rw [modify_apply]
  split
  · exact silent_refl s
  · intro gaveUp
    exact ⟨⟨gaveUp.down, gaveUp.spent⟩, by simp, fun fd => streamOf_modify s _ _ fd _ fun _ => rfl, rfl⟩

section
variable (flush : Tcp Int)

/-- The count is looked at after the delay and before anything is done. -/
theorem tcpClientReconnect_silent (s : TcpState) : Silent s (tcpClientReconnect flush s).2 := by
  intro gaveUp
  unfold tcpClientReconnect
  rw [get_bind]
  split
  · exact silent_refl s gaveUp
  · rcases clocks : s.kernel.clocks with _ | ⟨now, rest⟩
    · rw [bind_none (t := s) (by unfold nextClock; rw [clocks])]
      exact silent_refl s gaveUp
    · rw [bind_some (nextClock_cons clocks)]
      split
      · exact silent_client _ rfl rfl gaveUp
      · have stamp : modifyClient (fun client => { client with lastReconnectTime := now }) (s.ticked rest) =
            (some (), (s.ticked rest).stamped now) := rfl
        rw [bind_some stamp, if_pos gaveUp.spent.ge]
        exact silent_client _ rfl rfl gaveUp

theorem tcpClientSend_silent (data : Bytes) (s : TcpState) : Silent s (tcpClientSend flush data s).2 := by
  unfold tcpClientSend
  split
  · exact silent_refl s
  · have refused (t : TcpState) :
        Silent t ((if ¬ t.client.isConnected then pure (-1)
          else if (httpRequest t.client.serverIp data).length ≥ HTTP_BUF_SIZE then pure (-1)
          else transmit flush (httpRequest t.client.serverIp data) : Tcp Int) t).2 := by
      intro gaveUp
      rw [if_pos (by simp [gaveUp.down])]
      exact silent_refl t gaveUp
    rw [get_bind]
    split
    · exact silent_bind (tcpClientReconnect_silent flush s) fun _ t => refused t
    · exact refused s

theorem tcpClientFlush_silent (depth : Nat) (s : TcpState) : Silent s (tcpClientFlush depth s).2 := by
  cases depth with
  | zero => exact silent_refl s
  | succ depth =>
    unfold tcpClientFlush
    rw [get_bind]
    split
    · exact silent_refl s
    · refine silent_bind (tcpClientSend_silent _ _ s) fun ret t => ?_
      split
      · exact silent_client _ rfl rfl
      · exact silent_refl t

theorem tcpClientDisconnect_silent (flushing : ∀ s, Silent s (flush s).2) (s : TcpState) :
    Silent s (tcpClientDisconnect flush s).2 := by
  have close (t : TcpState) :
      Silent t ((do closeSocket; modifyClient fun client => { client with isConnected := false } : Tcp Unit) t).2 :=
    silent_bind (closeSocket_silent t) fun _ u => silent_disconnected u
  unfold tcpClientDisconnect
  rw [get_bind]
  split
  · split
    · exact silent_bind (flushing s) fun _ t => close t
    · exact close s
  · exact silent_disconnected s

theorem tcpClientIsConnected_gaveUp {s : TcpState} (gaveUp : s.GaveUp) : tcpClientIsConnected s = (some false, s) :=
  isConnected_down (by simp [gaveUp.down])

end

theorem perform_silent (depth : Nat) (call : TcpCall) (other : call.op ≠ .connect) (s : TcpState) :
    Silent s (call.perform depth s).2 := by
  refine silent_trans (silent_client call.kernel rfl rfl) ?_
  have discard {α : Type} {m : Tcp α} {t : TcpState} (silent : Silent t (m t).2) :
      Silent t ((do let _ ← m : Tcp Unit) t).2 :=
    silent_bind silent fun _ u => silent_refl u
  obtain ⟨op, kernel⟩ := call
  cases op with
  | connect => exact absurd rfl other
  | disconnect => exact tcpClientDisconnect_silent _ (tcpClientFlush_silent depth) _
  | reconnect => exact discard (tcpClientReconnect_silent _ _)
  | send data => exact discard (tcpClientSend_silent _ data _)
  | sendLine line => exact discard (tcpClientSend_silent _ line.bytes _)
  | flush => exact discard (tcpClientFlush_silent _ _)
  | isConnected =>
    refine discard fun gaveUp => ?_
    rw [tcpClientIsConnected_gaveUp gaveUp]
    exact silent_refl _ gaveUp

theorem tcpRun_silent (depth : Nat) (calls : List TcpCall) (others : ∀ call ∈ calls, call.op ≠ .connect)
    (s : TcpState) : Silent s (tcpRun depth calls s).2 := by
  induction calls generalizing s with
  | nil => exact silent_refl s
  | cons call rest ih =>
    refine silent_bind (perform_silent depth call (others call (by simp)) s) fun _ t => ?_
    exact ih (fun call member => others call (by simp [member])) t

/-! ### The main loop -/

/-- The batches of these steps have had nothing sent for them. -/
structure DiscardStep (s t : MainState) : Prop where
  tcp : SilentStep s.tcp t.tcp
  total : t.totalEvents = s.totalEvents
  batches : ∃ later, t.batches = later ++ s.batches ∧ ∀ batch ∈ later, batch.calls = []

def Discards (s t : MainState) : Prop := s.tcp.GaveUp → DiscardStep s t

theorem discards_of_tcp {s t : MainState} (silent : Silent s.tcp t.tcp) (total : t.totalEvents = s.totalEvents)
    (batches : t.batches = s.batches) : Discards s t :=
  fun gaveUp => ⟨silent gaveUp, total, [], batches, by simp⟩

theorem discards_refl (s : MainState) : Discards s s := discards_of_tcp (silent_refl s.tcp) rfl rfl

theorem discards_trans {s t u : MainState} (first : Discards s t) (second : Discards t u) : Discards s u := by
  intro gaveUp
  obtain ⟨one, total, later, batches, unsent⟩ := first gaveUp
  obtain ⟨two, total', later', batches', unsent'⟩ := second one.toGaveUp
  refine ⟨silent_trans (fun _ => one) (fun _ => two) gaveUp, total'.trans total, later' ++ later, ?_, ?_⟩
  · rw [batches', batches, List.append_assoc]
  · intro batch member
    exact (List.mem_append.mp member).elim (unsent' batch) (unsent batch)

theorem discards_bind {α β : Type} {m : Main α} {next : α → Main β} {s : MainState} (first : Discards s (m s).2)
    (rest : ∀ value t, Discards t (next value t).2) : Discards s ((m >>= next) s).2 :=
  bind_related (R := Discards) discards_trans first fun value t _ => rest value t

theorem sendJson_discards (flush : Tcp Int) (data : Bytes) (eventCount : Int) (s : MainState) :
    Discards s (sendJson flush data eventCount s).2 := by
  have asked (t : MainState) (gaveUp : t.tcp.GaveUp) : onTcp tcpClientIsConnected t = (some false, t) := by
    unfold onTcp
    rw [tcpClientIsConnected_gaveUp gaveUp]
  have ensured (t : MainState) : Discards t (ensureConnected flush t).2 := by
    intro gaveUp
    unfold ensureConnected
    rw [bind_some (asked t gaveUp), if_pos (by simp)]
    refine discards_bind ?_ (fun _ u => discards_refl u) gaveUp
    exact discards_of_tcp (tcpClientReconnect_silent flush t.tcp) rfl rfl
  unfold sendJson
  refine discards_bind (ensured s) fun _ t gaveUp => ?_
  rw [bind_some (asked t gaveUp)]
  exact discards_refl t gaveUp

theorem collectMetric_discards (turn : Turn) (s : MainState) : Discards s (collectMetric turn s).2 := by
  unfold collectMetric
  split <;> exact discards_of_tcp (silent_refl s.tcp) rfl rfl

theorem flushTracker_discards (metric : Option HostMetric) (s : MainState) : Discards s (flushTracker metric s) :=
  fun gaveUp => ⟨silent_refl s.tcp gaveUp, rfl, [⟨s.tracker.ft.events, metric, []⟩], rfl, by simp⟩

theorem reportEvents_discards (flush : Tcp Int) (probeId : CStr) (metric : Option HostMetric) (s : MainState) :
    Discards s (reportEvents flush probeId metric s).2 := by
  unfold reportEvents
  rw [get_bind]
  dsimp only
  split
  · refine discards_bind (flushTracker_discards metric s) fun _ u => ?_
    split
    · exact sendJson_discards _ _ _ u
    · exact discards_refl u
  · exact discards_refl s

theorem mainTurn_discards (depth : Nat) (probeId : CStr) (turn : Turn) (s : MainState) :
    Discards s (mainTurn depth probeId turn s).2 := by
  refine discards_bind (discards_of_tcp (silent_client turn.kernel rfl rfl) rfl rfl) fun _ t => ?_
  refine discards_bind (collectMetric_discards turn t) fun metric u => ?_
  exact reportEvents_discards _ probeId metric u

theorem turns_discard (depth : Nat) (probeId : CStr) (turns : List Turn) (s : MainState) :
    Discards s (turns.forM (mainTurn depth probeId) s).2 := by
  induction turns generalizing s with
  | nil => exact discards_refl s
  | cons turn rest ih => exact discards_bind (mainTurn_discards depth probeId turn s) fun _ t => ih t

/-- Once the retries are used up, whatever is called and whatever the kernel would answer, no socket is opened, no
byte is sent and the client stays disconnected; the main loop goes on taking batches out of the tracker and sends
none of them. -/
theorem giving_up_is_permanent (depth : Nat) (s : TcpState) (down : s.client.isConnected = false)
    (spent : s.client.reconnectRetries = RECONNECT_MAX_RETRIES) :
    (∀ calls : List TcpCall, (∀ call ∈ calls, call.op ≠ .connect) →
      let t := (tcpRun depth calls s).2
      t.sockets.length = s.sockets.length ∧ (∀ fd, t.streamOf fd = s.streamOf fd) ∧ t.calls = s.calls ∧
        t.client.isConnected = false) ∧
    ∀ (before : MainState) (probeId : CStr) (turns : List Turn), before.tcp = s →
      let after := (turns.forM (mainTurn depth probeId) before).2
      after.tcp.sockets.length = s.sockets.length ∧ (∀ fd, after.tcp.streamOf fd = s.streamOf fd) ∧
        after.tcp.client.isConnected = false ∧ after.totalEvents = before.totalEvents ∧
        ∃ later, after.batches = later ++ before.batches ∧ ∀ batch ∈ later, batch.calls = [] := by
  refine ⟨fun calls others => ?_, fun before probeId turns same => ?_⟩
  · have silent := tcpRun_silent depth calls others s ⟨down, spent⟩
    exact ⟨silent.sockets, silent.streams, silent.calls, silent.down⟩
  · subst same
    obtain ⟨silent, total, batches⟩ := turns_discard depth probeId turns before ⟨down, spent⟩
    exact ⟨silent.sockets, silent.streams, silent.down, total, batches⟩

/-- Ten attempts that are refused, each once the delay is over. -/
def refusals : List TcpCall :=
  ⟨.connect, { connects := [.refused] }⟩ ::
    [1000, 10000, 20000, 40000, 70000, 100000, 130000, 160000, 190000, 220000].map fun now =>
      ⟨.reconnect, { clocks := [now], connects := [.refused] }⟩

theorem refused_client_stays_silent :
    let s := (tcpRun 0 refusals { client := relayClient }).2
    (s.client.isConnected = false ∧ s.client.reconnectRetries = RECONNECT_MAX_RETRIES) ∧
      (tcpRun 0 [⟨.reconnect, { clocks := [900000], connects := [.connected] }⟩] s).2.sockets.length =
        s.sockets.length := by
  refine ⟨by decide +kernel, ?_⟩
  exact ((giving_up_is_permanent 0 _ (by decide +kernel) (by decide +kernel)).1 _ (by simp)).1

end StbEbpf.Probe
