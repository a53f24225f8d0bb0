import StbEbpf.Lib.Run
import StbEbpf.Probe.FlowTable
import StbEbpf.Probe.MainLoop
import StbEbpf.Probe.TcpReconnect

/-!
Events that leave the tracker. A turn of the main loop empties the event buffer and only then finds out whether the
batch can be sent, so that an event is safe exactly as far as nothing can go wrong afterwards.
-/

namespace StbEbpf.Probe
open CText Memory Program Run

/-- A request that the kernel took whole ends with the whole text of the batch. -/
def Batch.Transmitted (probeId : CStr) (batch : Batch) : Prop :=
  ∃ call ∈ batch.calls, call.accepted = call.request.length ∧
    batchText batch.removed batch.metric probeId <:+ call.request

instance (probeId : CStr) (batch : Batch) : Decidable (batch.Transmitted probeId) :=
  inferInstanceAs (Decidable (∃ call ∈ batch.calls, _ ∧ _))

def transmittedCount (probeId : CStr) (batches : List Batch) : Nat :=
  ((batches.filter fun batch => batch.Transmitted probeId).map fun batch => batch.removed.length).sum

/-- Every event taken out of the tracker was transmitted, and `total_events` counts those events. -/
structure MainState.Delivered (probeId : CStr) (s : MainState) : Prop where
  transmitted : ∀ batch ∈ s.batches, batch.removed ≠ [] → batch.Transmitted probeId
  counted : s.totalEvents = UInt64.ofNat (transmittedCount probeId s.batches)

/-! ### What a turn needs -/

/-- The connection is up when the turn sends: it is found alive, or taken up again. -/
def LinkUp (client : TcpClient) (kernel : Kernel) : Prop :=
  if client.isConnected ∧ client.sockFd.isSome then
    match kernel.peeks with
    | first :: second :: _ => second.alive ∧ (first.alive ∨ Reconnects client kernel)
    | _ => False
  else
    match kernel.peeks with
    | peek :: _ => peek.alive ∧ Reconnects client kernel
    | [] => False

instance (client : TcpClient) (kernel : Kernel) : Decidable (LinkUp client kernel) :=
  if up : client.isConnected ∧ client.sockFd.isSome then
    match peeks : kernel.peeks with
    | first :: second :: _ =>
      decidable_of_iff (second.alive ∧ (first.alive ∨ Reconnects client kernel)) (by simp [LinkUp, up, peeks])
    | [_] | [] => isFalse (by simp [LinkUp, up, peeks])
  else
    match peeks : kernel.peeks with
    | peek :: _ => decidable_of_iff (peek.alive ∧ Reconnects client kernel) (by simp [LinkUp, up, peeks])
    | [] => isFalse (by simp [LinkUp, up, peeks])

def Turn.events (turn : Turn) (s : MainState) : List FlowEvent := (capture turn s).tracker.ft.events

def Turn.dueMetric (turn : Turn) (s : MainState) : Option HostMetric :=
  if turn.nowNs - s.lastMetricNs ≥ METRIC_INTERVAL_NS then some turn.metric else none

/-- A turn with events: the request fits, the connection is up and the kernel takes the request whole. -/
def Turn.Deliverable (probeId : CStr) (s : MainState) (turn : Turn) : Prop :=
  turn.events s ≠ [] →
    let request := httpRequest s.tcp.client.serverIp (batchText (turn.events s) (turn.dueMetric s) probeId)
    request.length < HTTP_BUF_SIZE ∧ LinkUp s.tcp.client turn.kernel ∧ Taken request.length turn.kernel.sends 0

instance (probeId : CStr) (s : MainState) (turn : Turn) : Decidable (turn.Deliverable probeId s) :=
  inferInstanceAs (Decidable (_ → _ ∧ _ ∧ _))

def RunDeliverable (depth : Nat) (probeId : CStr) (s : MainState) (turns : List Turn) : Prop :=
  Along (fun s turn => (mainTurn depth probeId turn s).2) (fun s turn => turn.Deliverable probeId s) s turns

instance (depth : Nat) (probeId : CStr) (s : MainState) (turns : List Turn) :
    Decidable (RunDeliverable depth probeId s turns) :=
  inferInstanceAs (Decidable (Along _ _ _ _))

/-! ### Turns without events -/

theorem ofInt_natCast (n : Nat) : UInt64.ofInt n = UInt64.ofNat n := by
  have low : ((n : Int) % 2 ^ 64).toNat = n % UInt64.size := by
    show ((n : Int) % 2 ^ 64).toNat = n % 2 ^ 64
    omega
  unfold UInt64.ofInt
  rw [low, UInt64.ofNat_mod_size]

theorem addCalls_nil (batches : List Batch) : addCalls [] batches = batches := by
  cases batches <;> simp [addCalls]

theorem addCalls_append (first second : List SendCall) (batches : List Batch) :
    addCalls second (addCalls first batches) = addCalls (first ++ second) batches := by
  cases batches <;> simp [addCalls]

/-- Nothing is taken from the tracker and nothing counted; of the batches only the newest changes. -/
structure IdleStep (s t : MainState) : Prop where
  tracker : t.tracker = s.tracker
  buffer : t.tcp.client.sendBuffer = []
  total : t.totalEvents = s.totalEvents
  batches : ∃ calls, t.batches = addCalls calls s.batches

def Idle (s t : MainState) : Prop := s.tcp.client.sendBuffer = [] → IdleStep s t

theorem idle_refl (s : MainState) : Idle s s :=
  fun empty => ⟨rfl, empty, rfl, [], (addCalls_nil _).symm⟩

theorem idle_trans {s t u : MainState} (first : Idle s t) (second : Idle t u) : Idle s u := by
  intro empty
  obtain ⟨tracker, buffer, total, calls, batches⟩ := first empty
  obtain ⟨tracker', buffer', total', calls', batches'⟩ := second buffer
  refine ⟨tracker'.trans tracker, buffer', total'.trans total, calls ++ calls', ?_⟩
  rw [batches', batches, addCalls_append]

theorem idle_bind {α β : Type} {m : Main α} {next : α → Main β} {s : MainState} (first : Idle s (m s).2)
    (rest : ∀ value t, Idle t (next value t).2) : Idle s ((m >>= next) s).2 :=
  bind_related (R := Idle) idle_trans first fun value t _ => rest value t

theorem onTcp_idle {α : Type} {m : Tcp α} {s : MainState} (quiet : Quiet s.tcp (m s.tcp).2) :
    Idle s (onTcp m s).2 :=
  fun empty => ⟨rfl, (quiet empty).buffer, rfl, [], (addCalls_nil _).symm⟩

theorem sendBatch_idle (flush : Tcp Int) (data : Bytes) (s : MainState) :
    Idle s (sendBatch (tcpClientSend flush data) s).2 :=
  fun empty => ⟨rfl, tcpClientSend_buffer flush data empty, rfl, _, rfl⟩

theorem ensureConnected_idle (flush : Tcp Int) (s : MainState) : Idle s (ensureConnected flush s).2 := by
  unfold ensureConnected
  refine idle_bind (onTcp_idle (tcpClientIsConnected_quiet s.tcp)) fun connected t => ?_
  split
  · exact idle_bind (onTcp_idle (tcpClientReconnect_quiet flush t.tcp)) fun _ u => idle_refl u
  · exact idle_refl t

theorem sendJson_idle (flush : Tcp Int) (data : Bytes) (count : Int) (nothing : count = 0) (s : MainState) :
    Idle s (sendJson flush data count s).2 := by
  unfold sendJson
  refine idle_bind (ensureConnected_idle flush s) fun _ t => ?_
  refine idle_bind (onTcp_idle (tcpClientIsConnected_quiet t.tcp)) fun connected u => ?_
  split
  · refine idle_bind (sendBatch_idle flush data u) fun _ v empty => ?_
    have zero : UInt64.ofInt 0 = 0 := ofInt_natCast 0
    exact ⟨rfl, empty, by simp [nothing, zero], [], (addCalls_nil _).symm⟩
  · exact idle_refl u

/-! ### Turns with events -/

theorem onTcp_of {α : Type} {m : Tcp α} {s : MainState} {ret : Option α} {t : TcpState} (ends : m s.tcp = (ret, t)) :
    onTcp m s = (ret, { s with tcp := t }) := by
  unfold onTcp
  rw [ends]

theorem sendBatch_of {α : Type} {m : Tcp α} {s : MainState} {ret : Option α} {t : TcpState} (ends : m s.tcp = (ret, t)) :
    sendBatch m s =
      (ret, { s with tcp := t, batches := addCalls (t.calls.drop s.tcp.calls.length) s.batches }) := by
  unfold sendBatch
  rw [ends]

/-- The client is connected by its own record, and the next look at the socket confirms it. -/
structure Live (s : TcpState) : Prop where
  up : s.client.isConnected
  opened : s.client.sockFd.isSome
  alive : ∃ peek rest, s.kernel.peeks = peek :: rest ∧ peek.alive

theorem ensureConnected_reconnects (flush : Tcp Int) {s : MainState} {t : TcpState}
    (empty : s.tcp.client.sendBuffer = []) (lost : tcpClientIsConnected s.tcp = (some false, t))
    (reconnects : Reconnects t.client t.kernel) (alive : ∃ peek rest, t.kernel.peeks = peek :: rest ∧ peek.alive) :
    ∃ u, ensureConnected flush s = (some (), { s with tcp := u }) ∧ QuietStep s.tcp u ∧ Live u := by
  have asked := tcpClientIsConnected_quiet s.tcp
  rw [lost] at asked
  obtain ⟨u, connected, up, opened, peeks⟩ := reconnect_succeeds flush (asked empty).buffer reconnects
  have again := tcpClientReconnect_quiet flush t
  rw [connected] at again
  refine ⟨u, ?_, quiet_trans asked again empty, up, opened, peeks ▸ alive⟩
  unfold ensureConnected
  rw [bind_some (onTcp_of lost), if_pos (by simp), bind_some (onTcp_of (s := { s with tcp := t }) connected)]
  rfl

theorem ensureConnected_up (flush : Tcp Int) {s : MainState} (empty : s.tcp.client.sendBuffer = [])
    (link : LinkUp s.tcp.client s.tcp.kernel) :
    ∃ t, ensureConnected flush s = (some (), { s with tcp := t }) ∧ QuietStep s.tcp t ∧ Live t := by
  unfold LinkUp at link
  split at link
  · rename_i live
    obtain ⟨up, opened⟩ := live
    split at link
    · rename_i first second rest peeks
      obtain ⟨alive, still⟩ := link
      by_cases confirmed : first.alive
      · have read := isConnected_alive up opened peeks confirmed
        have asked := tcpClientIsConnected_quiet s.tcp
        rw [read] at asked
        refine ⟨_, ?_, asked empty, up, opened, second, rest, rfl, alive⟩
        unfold ensureConnected
        rw [bind_some (onTcp_of read), if_neg (by simp)]
        rfl
      · have read := isConnected_dead up opened peeks confirmed
        exact ensureConnected_reconnects flush empty read (still.resolve_left confirmed) ⟨second, rest, rfl, alive⟩
    · cases link
  · rename_i down
    split at link
    · rename_i peek rest peeks
      exact ensureConnected_reconnects flush empty (isConnected_down down) link.2 ⟨peek, rest, peeks, link.1⟩
    · cases link

theorem sendJson_up (flush : Tcp Int) {s : MainState} {data : Bytes} (count : Int) (some_ : data ≠ [])
    (empty : s.tcp.client.sendBuffer = []) (link : LinkUp s.tcp.client s.tcp.kernel)
    (fits : (httpRequest s.tcp.client.serverIp data).length < HTTP_BUF_SIZE)
    (taken : Taken (httpRequest s.tcp.client.serverIp data).length s.tcp.kernel.sends 0) :
    ∃ fd t, sendJson flush data count s = (some (), t) ∧ t.tracker = s.tracker ∧ t.tcp.client.sendBuffer = [] ∧
      t.totalEvents = s.totalEvents + UInt64.ofInt count ∧
      t.batches = addCalls [⟨fd, httpRequest s.tcp.client.serverIp data,
        (httpRequest s.tcp.client.serverIp data).length⟩] s.batches := by
  obtain ⟨t, connected, quiet, up, opened, peek, rest, peeks, alive⟩ := ensureConnected_up flush empty link
  obtain ⟨fd, known⟩ := Option.isSome_iff_exists.mp opened
  have read := isConnected_alive up opened peeks alive
  rw [← quiet.server] at fits taken ⊢
  rw [← quiet.sends] at taken
  obtain ⟨ret, u, sent, calls⟩ := send_completes flush
    (s := { t with kernel := { t.kernel with peeks := rest } }) some_ up known fits taken
  have buffer := tcpClientSend_buffer flush data (s := { t with kernel := { t.kernel with peeks := rest } }) quiet.buffer
  rw [sent] at buffer
  have added : u.calls.drop t.calls.length = [⟨fd, httpRequest t.client.serverIp data,
      (httpRequest t.client.serverIp data).length⟩] := by
    rw [calls, List.drop_left]
  have reported := sendBatch_of
    (s := { s with tcp := { t with kernel := { t.kernel with peeks := rest } } }) sent
  rw [added] at reported
  unfold sendJson
  rw [bind_some connected, bind_some (onTcp_of (s := { s with tcp := t }) read), if_pos rfl, bind_some reported]
  exact ⟨fd, _, rfl, rfl, buffer, rfl, rfl⟩

/-! ### Runs -/

theorem httpRequest_suffix (serverIp : CharBuf 16) {data : Bytes} (noNul : 0 ∉ data) :
    data <:+ httpRequest serverIp data := by
  unfold httpRequest
  rw [cut_eq_self noNul]
  exact List.suffix_append _ _

theorem getEvents_all {ft : FlowTracker} (wf : ft.WellFormed MAX_FLOWS) :
    flowTrackerGetEvents ft (MAX_FLOWS * 2) = ((ft.events.length : Int), ft.events) := by
  have bounded := wf.bounded
  rw [wf.capacity] at bounded
  have count : (if (ft.events.length : Int) < (MAX_FLOWS : Int) * 2 then (ft.events.length : Int)
      else (MAX_FLOWS : Int) * 2) = ft.events.length := by
    split <;> omega
  unfold flowTrackerGetEvents
  simp only [count, Int.toNat_natCast, List.take_length]

structure MainSound (probeId : CStr) (s : MainState) : Prop where
  table : s.tracker.ft.WellFormed MAX_FLOWS
  buffer : s.tcp.client.sendBuffer = []
  delivered : s.Delivered probeId

theorem transmittedCount_cons (probeId : CStr) (batch : Batch) (older : List Batch) :
    transmittedCount probeId (batch :: older) =
      (if batch.Transmitted probeId then batch.removed.length else 0) + transmittedCount probeId older := by
  unfold transmittedCount
  by_cases transmitted : batch.Transmitted probeId <;> simp [transmitted]

section
variable {probeId : CStr} {s t : MainState}

theorem delivered_cons (delivered : s.Delivered probeId) (batch : Batch)
    (transmitted : batch.removed ≠ [] → batch.Transmitted probeId) (batches : t.batches = batch :: s.batches)
    (total : t.totalEvents = s.totalEvents + UInt64.ofNat batch.removed.length) : t.Delivered probeId := by
  have count : (if batch.Transmitted probeId then batch.removed.length else 0) = batch.removed.length := by
    split
    · rfl
    · rename_i missing
      have nothing : batch.removed = [] := by
        by_contra something
        exact missing (transmitted something)
      rw [nothing]
      rfl
  refine ⟨?_, ?_⟩
  · rw [batches]
    intro other member
    rcases List.mem_cons.mp member with rfl | older
    · exact transmitted
    · exact delivered.transmitted other older
  · rw [total, batches, transmittedCount_cons, count, delivered.counted, UInt64.ofNat_add, UInt64.add_comm]

theorem collectMetric_sound (turn : Turn) (sound : MainSound probeId s) :
    ∃ t, collectMetric turn s = (some (turn.dueMetric s), t) ∧ MainSound probeId t ∧
      t.tracker.ft.events = s.tracker.ft.events ∧ t.tcp = s.tcp := by
  unfold collectMetric Turn.dueMetric
  split
  · refine ⟨_, rfl, ⟨?_, sound.buffer, sound.delivered.transmitted, sound.delivered.counted⟩, rfl, rfl⟩
    exact step_wellFormed _ sound.table
  · exact ⟨s, rfl, sound, rfl, rfl⟩

theorem reportEvents_idle (flush : Tcp Int) (metric : Option HostMetric) (sound : MainSound probeId s)
    (nothing : s.tracker.ft.events = []) : MainSound probeId (reportEvents flush probeId metric s).2 := by
  unfold reportEvents
  rw [get_bind, getEvents_all sound.table, nothing]
  dsimp only
  split
  · rw [modify_bind]
    split
    · obtain ⟨tracker, buffer, total, calls, batches⟩ :=
        sendJson_idle flush _ ([] : List FlowEvent).length rfl (flushTracker metric s) sound.buffer
      refine ⟨?_, buffer, ?_⟩
      · rw [tracker]
        exact step_wellFormed .flush sound.table
      · refine delivered_cons sound.delivered ⟨[], metric, calls⟩ (fun some_ => absurd rfl some_) ?_ ?_
        · rw [batches]
          simp [flushTracker, addCalls, nothing]
        · simpa [flushTracker] using total
    · refine ⟨step_wellFormed .flush sound.table, sound.buffer, ?_⟩
      refine delivered_cons sound.delivered ⟨[], metric, []⟩ (fun some_ => absurd rfl some_) ?_ ?_
      · simp [flushTracker, nothing]
      · simp [flushTracker]
  · exact sound

theorem reportEvents_delivers (flush : Tcp Int) (metric : Option HostMetric) (sound : MainSound probeId s)
    (events : s.tracker.ft.events ≠ [])
    (fits : (httpRequest s.tcp.client.serverIp (batchText s.tracker.ft.events metric probeId)).length < HTTP_BUF_SIZE)
    (link : LinkUp s.tcp.client s.tcp.kernel)
    (taken : Taken (httpRequest s.tcp.client.serverIp (batchText s.tracker.ft.events metric probeId)).length
      s.tcp.kernel.sends 0) : MainSound probeId (reportEvents flush probeId metric s).2 := by
  have suffix := httpRequest_suffix s.tcp.client.serverIp (batchText_noNul s.tracker.ft.events metric probeId)
  have room : (batchText s.tracker.ft.events metric probeId).length < MAX_JSON_LEN * 16 :=
    suffix.length_le.trans_lt (fits.trans (by decide))
  obtain ⟨written, text⟩ := serializeBatch_text s.tracker.ft.events metric probeId room
  have some_ : 0 < s.tracker.ft.events.length := List.length_pos_iff.mpr events
  have long : 0 < (batchText s.tracker.ft.events metric probeId).length := by simp [batchText]
  obtain ⟨fd, t, sent, tracker, buffer, total, batches⟩ := sendJson_up flush (s := flushTracker metric s)
    s.tracker.ft.events.length (List.length_pos_iff.mp long) sound.buffer link fits taken
  unfold reportEvents
  rw [get_bind, getEvents_all sound.table]
  dsimp only
  rw [if_pos (.inl (by omega)), modify_bind, if_pos (by omega), text, sent]
  refine ⟨?_, buffer, ?_⟩
  · show t.tracker.ft.WellFormed MAX_FLOWS
    rw [tracker]
    exact step_wellFormed .flush sound.table
  · refine delivered_cons sound.delivered _ (fun _ => ?_) batches ?_
    · exact ⟨_, List.mem_singleton.mpr rfl, rfl, suffix⟩
    · rw [total, ofInt_natCast]
      rfl

theorem mainTurn_sound (depth : Nat) (turn : Turn) (sound : MainSound probeId s)
    (deliverable : turn.Deliverable probeId s) : MainSound probeId (mainTurn depth probeId turn s).2 := by
  have captured : MainSound probeId (capture turn s) :=
    ⟨run_wellFormed _ sound.table, sound.buffer, sound.delivered.transmitted, sound.delivered.counted⟩
  obtain ⟨t, collected, sound', events, tcp⟩ := collectMetric_sound turn captured
  unfold mainTurn
  rw [modify_bind, bind_some collected]
  by_cases nothing : t.tracker.ft.events = []
  · exact reportEvents_idle _ _ sound' nothing
  · rw [events] at nothing
    obtain ⟨fits, link, taken⟩ := deliverable nothing
    apply reportEvents_delivers _ _ sound' (by rwa [events])
    · rw [tcp, events]
      exact fits
    · rw [tcp]
      exact link
    · rw [tcp, events]
      exact taken

theorem turns_sound (depth : Nat) (turns : List Turn) (sound : MainSound probeId s)
    (deliverable : RunDeliverable depth probeId s turns) :
    MainSound probeId (turns.forM (mainTurn depth probeId) s).2 := by
  induction turns generalizing s with
  | nil => exact sound
  | cons turn rest ih =>
    have next := mainTurn_sound depth turn sound deliverable.1
    have later : RunDeliverable depth probeId (mainTurn depth probeId turn s).2 rest := deliverable.2
    show MainSound probeId ((mainTurn depth probeId turn >>= fun _ => rest.forM (mainTurn depth probeId)) s).2
    rcases ends : mainTurn depth probeId turn s with ⟨_ | _, t⟩
    · rw [ends] at next
      rw [bind_none ends]
      exact next
    · rw [ends] at next later
      rw [bind_some ends]
      exact ih next later

end

theorem mainStart_sound (probeId : CStr) {serverIp : CStr} {serverPort : Int} {autoReconnect : Bool}
    {client : TcpClient} (created : tcpClientInit serverIp serverPort autoReconnect = some client) (first : Kernel) :
    MainSound probeId (mainStart first (mainInit client)).2 := by
  have empty : client.sendBuffer = [] := (sound_init created).buffer
  have delivered : (mainInit client).Delivered probeId := ⟨by simp [mainInit], rfl⟩
  have started : Idle { mainInit client with tcp := { client, kernel := first } } (mainStart first (mainInit client)).2 := by
    unfold mainStart
    rw [modify_bind]
    exact idle_bind (onTcp_idle (tcpClientConnect_quiet _)) fun _ t => idle_refl t
  obtain ⟨tracker, buffer, total, calls, batches⟩ := started empty
  refine ⟨?_, buffer, ?_, ?_⟩
  · rw [tracker]
    exact flowTrackerCreate_wellFormed MAX_FLOWS
  · rw [batches]
    exact delivered.transmitted
  · rw [batches, total]
    exact delivered.counted

/-- In every run whose turns with events all find room in the request, a connection and a kernel that takes the
request whole, every event taken out of the tracker was transmitted, and `total_events` counts those. -/
theorem removed_events_delivered (serverIp : CStr) (serverPort : Int) (autoReconnect : Bool) (client : TcpClient)
    (created : tcpClientInit serverIp serverPort autoReconnect = some client) (depth : Nat) (probeId : CStr)
    (first : Kernel) (turns : List Turn)
    (deliverable : RunDeliverable depth probeId (mainStart first (mainInit client)).2 turns) :
    (mainRun depth probeId first turns (mainInit client)).2.Delivered probeId := by
  have sound := mainStart_sound probeId created first
  rcases ends : mainStart first (mainInit client) with ⟨_ | _, t⟩
  · rw [ends] at sound
    unfold mainRun
    rw [bind_none ends]
    exact sound.delivered
  · rw [ends] at sound deliverable
    unfold mainRun
    rw [bind_some ends]
    exact (turns_sound depth turns sound deliverable).delivered

def probedFlow : FlowKey := { srcIp := 0x0100a8c0, dstIp := 0x08080808, srcPort := 5353, dstPort := 53, protocol := 17 }

def steadyTurns : List Turn :=
  [{ captured := []
     nowNs := 5
     metric := idleMetric
     cleanupNs := 0
     kernel := {} },
   { captured := [.updateSingle 1 1 probedFlow 60 stbProbe, .updateSingle 2 2 probedFlow 80 stbProbe]
     nowNs := 40000000000
     metric := idleMetric
     cleanupNs := 3
     kernel :=
      { clocks := [9]
        connects := [.connected]
        peeks := [.closed, .wouldBlock]
        sends := [.accepted 100, .eintr, .accepted 65536] } }]

theorem steady_turns_delivered :
    (mainRun 0 stbProbe { connects := [.connected] } steadyTurns (mainInit relayClient)).2.Delivered stbProbe :=
  removed_events_delivered (.ofBytes (ascii "10.0.0.1")) 8080 true relayClient rfl 0 stbProbe
    { connects := [.connected] } steadyTurns (by decide +kernel)

-- The relay refuses every connection; the event captured meanwhile leaves the tracker and is sent nowhere.
def refusedTurns : List Turn :=
  [{ captured := [.updateSingle 1 1 probedFlow 60 stbProbe]
     nowNs := 5
     metric := idleMetric
     cleanupNs := 0
     kernel := { clocks := [9], connects := [.refused] } }]

theorem refused_event_lost :
    tcpClientInit (.ofBytes (ascii "10.0.0.1")) 8080 true = some relayClient ∧
      ¬ (mainRun 0 stbProbe { connects := [.refused] } refusedTurns (mainInit relayClient)).2.Delivered stbProbe := by
  refine ⟨rfl, fun delivered => ?_⟩
  have lost : ∃ batch ∈ (mainRun 0 stbProbe { connects := [.refused] } refusedTurns (mainInit relayClient)).2.batches,
      batch.removed ≠ [] ∧ ¬ batch.Transmitted stbProbe := by decide +kernel
  obtain ⟨batch, member, some_, missing⟩ := lost
  exact missing (delivered.transmitted batch member some_)

end StbEbpf.Probe
