import StbEbpf.Probe.TcpSockets

/-!
What one `tcp_client_send` hands to the kernel, and what the client counts of it. The loop has one way to end well and
several to end badly, and only one of the bad ones counts anything.
-/

namespace StbEbpf.Probe
open CText Program

/-- What holds between calls whatever the kernel does. -/
structure Steady (s : TcpState) : Prop where
  buffer : s.client.sendBuffer = []
  bound : ∀ fd, s.client.sockFd = some fd → fd < s.sockets.length
  held : s.client.isConnected → s.client.sockFd.isSome

/-- Nothing is sent and nothing is counted. -/
structure Inert (s t : TcpState) : Prop where
  steady : Steady t
  quiet : QuietStep s t
  sent : t.client.bytesSent = s.client.bytesSent
  lost : t.client.bytesLost = s.client.bytesLost

section
variable {s t : TcpState}

theorem inert_of (steady : Steady s) (quiet : Quiet s t) (held : t.client.isConnected → t.client.sockFd.isSome)
    (sent : t.client.bytesSent = s.client.bytesSent) (lost : t.client.bytesLost = s.client.bytesLost) : Inert s t := by
  have step := quiet steady.buffer
  refine ⟨⟨step.buffer, ?_, held⟩, step, sent, lost⟩
  intro fd opened
  rcases step.current fd opened with older | ⟨-, fresh⟩
  · exact (steady.bound fd older).trans_le step.grows
  · exact fresh

theorem inert_refl (steady : Steady s) : Inert s s := inert_of steady (quiet_refl s) steady.held rfl rfl

/-! ### Calls that send nothing -/

theorem release_counts (s : TcpState) :
    s.release.client.isConnected = false ∧ s.release.client.bytesSent = s.client.bytesSent ∧
      s.release.client.bytesLost = s.client.bytesLost := by
  rw [release_client]
  exact ⟨rfl, rfl, rfl⟩

theorem release_inert (steady : Steady s) : Inert s s.release := by
  have quiet : Quiet s s.release := by
    intro empty
    have step := tcpClientDisconnect_quiet (tcpClientFlush 0) s empty
    rwa [tcpClientDisconnect_eq _ empty] at step
  obtain ⟨down, sent, lost⟩ := release_counts s
  exact inert_of steady quiet (by simp [down]) sent lost

theorem dial_held (outcome : ConnectOutcome) (down : s.client.isConnected = false) :
    (s.dial outcome).client.isConnected → (s.dial outcome).client.sockFd.isSome := by
  unfold TcpState.dial
  split
  · simp [down]
  · split
    · simp
    · simp [down]

theorem dial_counts (s : TcpState) (outcome : ConnectOutcome) :
    (s.dial outcome).client.bytesSent = s.client.bytesSent ∧
      (s.dial outcome).client.bytesLost = s.client.bytesLost := by
  obtain ⟨sockFd, isConnected, client, -⟩ := dial_fields s outcome
  rw [client]
  exact ⟨rfl, rfl⟩

theorem tcpClientConnect_inert (steady : Steady s) : Inert s (tcpClientConnect s).2 := by
  have quiet := tcpClientConnect_quiet s
  cases down : s.client.isConnected with
  | true =>
    rw [tcpClientConnect_up down]
    exact inert_refl steady
  | false =>
    rcases connects : s.kernel.connects with _ | ⟨outcome, rest⟩
    · rw [tcpClientConnect_waits down connects]
      exact inert_refl steady
    · obtain ⟨sent, lost⟩ := dial_counts (s.answered rest) outcome
      have held := dial_held (s := s.answered rest) outcome down
      rw [tcpClientConnect_eq down connects] at quiet ⊢
      cases established : outcome.established with
      | true =>
        rw [established] at quiet
        exact inert_of steady quiet held sent lost
      | false =>
        rw [established] at quiet
        exact inert_of steady quiet held sent lost

theorem tcpClientReconnect_inert (flush : Tcp Int) (steady : Steady s) : Inert s (tcpClientReconnect flush s).2 := by
  have quiet := tcpClientReconnect_quiet flush s
  have ended := tcpClientReconnect_cases flush steady.buffer
  generalize tcpClientReconnect flush s = result at quiet ended
  have redialled (now : UInt64) (clocks : List UInt64) (outcome : ConnectOutcome) (connects : List ConnectOutcome) :
      ((s.redial now clocks outcome connects).client.isConnected →
        (s.redial now clocks outcome connects).client.sockFd.isSome) ∧
      (s.redial now clocks outcome connects).client.bytesSent = s.client.bytesSent ∧
      (s.redial now clocks outcome connects).client.bytesLost = s.client.bytesLost := by
    obtain ⟨sent, lost⟩ := dial_counts ((((s.ticked clocks).stamped now).release).answered connects) outcome
    obtain ⟨down, sent', lost'⟩ := release_counts ((s.ticked clocks).stamped now)
    exact ⟨dial_held _ down, sent.trans sent', lost.trans lost'⟩
  cases ended with
  | disabled | unread => exact inert_refl steady
  | early | spent => exact inert_of steady quiet steady.held rfl rfl
  | @unanswered now clocks =>
    obtain ⟨down, sent, lost⟩ := release_counts ((s.ticked clocks).stamped now)
    exact inert_of steady quiet (by simp [down]) sent lost
  | succeeded | failed =>
    obtain ⟨held, sent, lost⟩ := redialled _ _ _ _
    exact inert_of steady quiet held sent lost

theorem tcpClientIsConnected_inert (steady : Steady s) : Inert s (tcpClientIsConnected s).2 := by
  have quiet := tcpClientIsConnected_quiet s
  by_cases up : s.client.isConnected ∧ s.client.sockFd.isSome
  swap
  · rw [isConnected_down up]
    exact inert_refl steady
  rcases peeks : s.kernel.peeks with _ | ⟨peek, rest⟩
  · have waits : nextPeek s = (none, s) := by
      unfold nextPeek
      rw [peeks]
    have hangs : tcpClientIsConnected s = (none, s) := by
      unfold tcpClientIsConnected
      rw [get_bind, if_pos up, bind_none waits]
    rw [hangs]
    exact inert_refl steady
  · cases alive : peek.alive with
    | true =>
      rw [isConnected_alive up.1 up.2 peeks alive] at quiet ⊢
      exact inert_of steady quiet steady.held rfl rfl
    | false =>
      rw [isConnected_dead up.1 up.2 peeks (by simp [alive])] at quiet ⊢
      exact inert_of steady quiet (by simp) rfl rfl

end

/-! ### One send -/

/-- What is added to `bytes_sent` when the loop ends. -/
def SendEnd.sent (total : Nat) : SendEnd → Nat
  | .complete => total
  | .connectionLost | .stopped | .pending => 0

/-- What is added to `bytes_lost`. -/
def SendEnd.lost (length total : Nat) : SendEnd → Nat
  | .connectionLost => length - total
  | .complete | .stopped | .pending => 0

/-- What the client returns when the loop ends, if it does. -/
def SendEnd.Returns (total : Nat) (value : Option Int) : SendEnd → Prop
  | .complete => value = some (total : Int)
  | .stopped => value = some (if total > 0 then (total : Int) else -1)
  | .connectionLost => value = some (-1) ∨ value = none
  | .pending => value = none

/-- A request has been offered to the kernel, which took the first bytes of it. -/
structure Offered (s : TcpState) (ended : SendEnd) (call : SendCall) (result : Option Int × TcpState) : Prop where
  steady : Steady result.2
  calls : result.2.calls = s.calls ++ [call]
  within : call.accepted ≤ call.request.length
  server : result.2.client.serverIp = s.client.serverIp
  streams : ∀ socket, result.2.streamOf socket = s.streamOf socket ++ if socket = call.socket then call.bytes else []
  value : ended.Returns call.accepted result.1
  whole : ended = .complete → call.Complete
  sent : result.2.client.bytesSent = s.client.bytesSent + UInt64.ofNat (ended.sent call.accepted)
  lost : result.2.client.bytesLost = s.client.bytesLost + UInt64.ofNat (ended.lost call.request.length call.accepted)

/-- Only a call that gave all of its request away can return the length of it. -/
theorem Offered.complete {s : TcpState} {ended : SendEnd} {call : SendCall} {result : Option Int × TcpState}
    (offered : Offered s ended call result) (whole : result.1 = some (call.request.length : Int)) : call.Complete := by
  have value := offered.value
  rw [whole] at value
  cases ended with
  | complete => exact offered.whole rfl
  | stopped =>
    have bytes : (call.request.length : Int) = if call.accepted > 0 then (call.accepted : Int) else -1 :=
      Option.some.inj value
    show call.accepted = call.request.length
    split at bytes <;> omega
  | connectionLost =>
    rcases value with value | value
    · have negative : (call.request.length : Int) = -1 := Option.some.inj value
      omega
    · cases value
  | pending => cases value

/-- The connection is found lost with these many bytes to go. -/
def TcpState.hungUp (s : TcpState) (bytes : Nat) : TcpState :=
  { s with client := { s.client with
      isConnected := false, bytesLost := s.client.bytesLost + UInt64.ofNat bytes } }

section
variable (flush : Tcp Int) {s : TcpState}

theorem finishSend_lost (request : Bytes) (total : Nat) (steady : Steady s) :
    ∃ t, Inert (s.hungUp (request.length - total)) t ∧
      (finishSend flush request .connectionLost total s = (some (-1), t) ∨
        finishSend flush request .connectionLost total s = (none, t)) := by
  have down : Steady (s.hungUp (request.length - total)) :=
    ⟨steady.buffer, steady.bound, by simp [TcpState.hungUp]⟩
  cases auto : s.client.autoReconnect with
  | false =>
    refine ⟨_, inert_refl down, .inl ?_⟩
    simp [finishSend, modifyClient, TcpState.hungUp, auto]
  | true =>
    have inert := tcpClientReconnect_inert flush down
    refine ⟨_, inert, ?_⟩
    have left : finishSend flush request .connectionLost total s =
        (do let _ ← tcpClientReconnect flush; pure (-1) : Tcp Int) (s.hungUp (request.length - total)) := by
      simp [finishSend, modifyClient, TcpState.hungUp, auto]
    rw [left]
    rcases ends : tcpClientReconnect flush _ with ⟨_ | ret, t⟩
    · exact .inr (bind_none ends)
    · exact .inl (bind_some ends)

theorem transmit_offered (request : Bytes) {fd : Nat} (steady : Steady s) (opened : s.client.sockFd = some fd) :
    Offered s (sendLoop fd request s.kernel.sends 0 s).1
      ⟨fd, request, (sendLoop fd request s.kernel.sends 0 s).2.1⟩ (transmit flush request s) := by
  have effect := sendLoop_effect fd request (s.streamOf fd) s.kernel.sends (steady.bound fd opened)
    (Nat.zero_le _) (by simp)
  unfold transmit
  rw [opened]
  dsimp only
  generalize sendLoop fd request s.kernel.sends 0 s = loop at effect ⊢
  obtain ⟨ended, total, t⟩ := loop
  obtain ⟨client, calls, length, bound, stream, others, complete⟩ := effect
  dsimp only at client calls length bound stream others complete ⊢
  have streams (socket : Nat) :
      t.streamOf socket = s.streamOf socket ++ if socket = fd then request.take total else [] := by
    by_cases same : socket = fd
    · subst same
      simpa using stream
    · simp [same, others socket same]
  have server : t.client.serverIp = s.client.serverIp := by rw [client]
  have logged : t.calls ++ [⟨fd, request, total⟩] = s.calls ++ [⟨fd, request, total⟩] := by rw [calls]
  have kept : Steady { t with calls := t.calls ++ [⟨fd, request, total⟩] } :=
    ⟨client ▸ steady.buffer, by simpa only [client, length] using steady.bound,
      by simpa only [client] using steady.held⟩
  cases ended with
  | pending => exact ⟨kept, logged, bound, server, streams, rfl, by simp, by simp [finishSend, stuck, client, SendEnd.sent],
      by simp [finishSend, stuck, client, SendEnd.lost]⟩
  | complete =>
    exact ⟨⟨kept.buffer, kept.bound, kept.held⟩, logged, bound, server, streams, rfl, fun _ => complete rfl,
      by simp [finishSend, modifyClient, client, SendEnd.sent],
      by simp [finishSend, modifyClient, client, SendEnd.lost]⟩
  | stopped => exact ⟨kept, logged, bound, server, streams, rfl, by simp, by simp [finishSend, client, SendEnd.sent],
      by simp [finishSend, client, SendEnd.lost]⟩
  | connectionLost =>
    obtain ⟨u, inert, ends⟩ := finishSend_lost flush request total kept
    have result : (finishSend flush request .connectionLost total
        { t with calls := t.calls ++ [⟨fd, request, total⟩] }).2 = u := by
      rcases ends with ends | ends <;> rw [ends]
    refine ⟨?_, ?_, bound, ?_, ?_, ?_, by simp, ?_, ?_⟩
    · rw [result]
      exact inert.steady
    · rw [result, inert.quiet.calls]
      exact logged
    · rw [result, inert.quiet.server]
      exact server
    · intro socket
      rw [result, inert.quiet.streams]
      exact streams socket
    · rcases ends with ends | ends <;> rw [ends]
      · exact .inl rfl
      · exact .inr rfl
    · rw [result, inert.sent]
      simp [TcpState.hungUp, client, SendEnd.sent]
    · rw [result, inert.lost]
      simp [TcpState.hungUp, client, SendEnd.lost]

/-- A call that does not get to its request leaves everything as it is; the others offer it on one socket. -/
inductive SendCase (data : Bytes) (s : TcpState) (result : Option Int × TcpState) : Prop
  | refused : Inert s result.2 → result.1 = some (-1) ∨ result.1 = none → SendCase data s result
  | offered (t : TcpState) (fd : Nat) : Inert s t →
      (httpRequest s.client.serverIp data).length < HTTP_BUF_SIZE →
      Offered t (sendLoop fd (httpRequest s.client.serverIp data) s.kernel.sends 0 t).1
        ⟨fd, httpRequest s.client.serverIp data,
          (sendLoop fd (httpRequest s.client.serverIp data) s.kernel.sends 0 t).2.1⟩ result →
      SendCase data s result

theorem tcpClientSend_cases (data : Bytes) (steady : Steady s) : SendCase data s (tcpClientSend flush data s) := by
  have send (t : TcpState) (inert : Inert s t) :
      SendCase data s
        ((if ¬ t.client.isConnected then pure (-1)
          else if (httpRequest t.client.serverIp data).length ≥ HTTP_BUF_SIZE then pure (-1)
          else transmit flush (httpRequest t.client.serverIp data) : Tcp Int) t) := by
    rw [inert.quiet.server]
    split
    · exact .refused inert (.inl rfl)
    · rename_i up
      split
      · exact .refused inert (.inl rfl)
      · rename_i fits
        obtain ⟨fd, opened⟩ := Option.isSome_iff_exists.mp (inert.steady.held (by simpa using up))
        have offered := transmit_offered flush (httpRequest s.client.serverIp data) inert.steady opened
        rw [inert.quiet.sends] at offered
        exact .offered t fd inert (Nat.lt_of_not_ge fits) offered
  unfold tcpClientSend
  split
  · exact .refused (inert_refl steady) (.inl rfl)
  · rw [get_bind]
    split
    · have inert := tcpClientReconnect_inert flush steady
      rcases ends : tcpClientReconnect flush s with ⟨_ | ret, t⟩
      · rw [ends] at inert
        rw [bind_none ends]
        exact .refused inert (.inr rfl)
      · rw [ends] at inert
        rw [bind_some ends]
        exact send t inert
    · exact send s (inert_refl steady)

end

/-! ### Runs -/

def TcpOp.payload : TcpOp → Option Bytes
  | .send data => some data
  | .sendLine line => some line.bytes
  | .connect | .disconnect | .reconnect | .flush | .isConnected => none

section
variable {s u : TcpState}

theorem steady_kernel (steady : Steady s) (kernel : Kernel) : Steady { s with kernel } :=
  ⟨steady.buffer, steady.bound, steady.held⟩

theorem perform_cases (depth : Nat) (call : TcpCall) (steady : Steady s)
    (returns : call.perform depth s = (some (), u)) :
    Inert { s with kernel := call.kernel } u ∨
      ∃ data ret, call.op.payload = some data ∧
        tcpClientSend (tcpClientFlush depth) data { s with kernel := call.kernel } = (some ret, u) := by
  have loaded := steady_kernel steady call.kernel
  have discarded {α : Type} {m : Tcp α} (inert : Inert { s with kernel := call.kernel } (m { s with kernel := call.kernel }).2)
      (ends : (m >>= fun _ => pure ()) { s with kernel := call.kernel } = (some (), u)) :
      Inert { s with kernel := call.kernel } u := by
    obtain ⟨value, t, first, ⟨⟩⟩ := bind_eq_some.mp ends
    rwa [first] at inert
  obtain ⟨op, kernel⟩ := call
  unfold TcpCall.perform at returns
  rw [modify_bind] at returns
  cases op with
  | connect => exact .inl (discarded (tcpClientConnect_inert loaded) returns)
  | disconnect =>
    have released := tcpClientDisconnect_eq (tcpClientFlush depth) loaded.buffer
    obtain rfl : _ = u := congrArg Prod.snd (released.symm.trans returns)
    exact .inl (release_inert loaded)
  | reconnect => exact .inl (discarded (tcpClientReconnect_inert _ loaded) returns)
  | flush =>
    refine .inl (discarded ?_ returns)
    rw [tcpClientFlush_empty depth loaded.buffer]
    exact inert_refl loaded
  | isConnected => exact .inl (discarded (tcpClientIsConnected_inert loaded) returns)
  | send data =>
    obtain ⟨ret, t, first, ⟨⟩⟩ := bind_eq_some.mp returns
    exact .inr ⟨data, ret, rfl, first⟩
  | sendLine line =>
    obtain ⟨ret, t, first, ⟨⟩⟩ := bind_eq_some.mp returns
    exact .inr ⟨line.bytes, ret, rfl, first⟩

theorem perform_steady (depth : Nat) (call : TcpCall) (steady : Steady s)
    (returns : call.perform depth s = (some (), u)) : Steady u ∧ u.client.serverIp = s.client.serverIp := by
  rcases perform_cases depth call steady returns with inert | ⟨data, ret, -, sends⟩
  · exact ⟨inert.steady, inert.quiet.server⟩
  · have ended := tcpClientSend_cases (tcpClientFlush depth) data (steady_kernel steady call.kernel)
    rw [sends] at ended
    cases ended with
    | refused inert => exact ⟨inert.steady, inert.quiet.server⟩
    | offered t fd inert _ offered => exact ⟨offered.steady, offered.server.trans inert.quiet.server⟩

theorem steady_init {serverIp : CStr} {serverPort : Int} {autoReconnect : Bool} {client : TcpClient}
    (created : tcpClientInit serverIp serverPort autoReconnect = some client) : Steady { client } := by
  obtain ⟨owned, buffer⟩ := tidy_init created
  exact ⟨buffer, owned.known, owned.connected⟩

theorem run_steady {serverIp : CStr} {serverPort : Int} {autoReconnect : Bool} {client : TcpClient}
    (created : tcpClientInit serverIp serverPort autoReconnect = some client) {depth : Nat} {calls : List TcpCall}
    (run : tcpRun depth calls { client } = (some (), s)) : Steady s ∧ s.client.serverIp = client.serverIp := by
  refine forM_reaches (I := fun s => Steady s ∧ s.client.serverIp = client.serverIp) ⟨steady_init created, rfl⟩ ?_
    calls [] (List.append_nil calls).symm s run
  intro before call after t u _ _ ⟨steady, server⟩ returns
  obtain ⟨steady', server'⟩ := perform_steady depth call steady returns
  exact ⟨steady', server'.trans server⟩

end

/-! ### What the kernel is given -/

theorem httpRequest_lines (serverIp : CharBuf 16) {data : Bytes} (visible : 0 ∉ data) :
    httpRequest serverIp data =
      ([ascii "POST /api/v1/ingest HTTP/1.1", ascii "Host: " ++ serverIp.bytes,
        ascii "Content-Type: application/json", ascii "Content-Length: " ++ decimal data.length,
        ascii "Connection: keep-alive"].flatMap fun line => line ++ ascii "\r\n") ++ ascii "\r\n" ++ data := by
  have start : ascii "POST /api/v1/ingest HTTP/1.1\r\nHost: " =
      ascii "POST /api/v1/ingest HTTP/1.1" ++ ascii "\r\n" ++ ascii "Host: " := by decide +kernel
  have middle : ascii "\r\nContent-Type: application/json\r\nContent-Length: " =
      ascii "\r\n" ++ ascii "Content-Type: application/json" ++ ascii "\r\n" ++ ascii "Content-Length: " := by
    decide +kernel
  have last : ascii "\r\nConnection: keep-alive\r\n\r\n" =
      ascii "\r\n" ++ ascii "Connection: keep-alive" ++ ascii "\r\n" ++ ascii "\r\n" := by decide +kernel
  unfold httpRequest
  rw [cut_eq_self visible, start, middle, last]
  simp only [List.flatMap_cons, List.flatMap_nil, List.append_assoc, List.append_nil]

/-- Whatever the kernel answers, a call of `tcp_client_send` gets the first bytes of its request through, in order and
on one socket: all of them where it returns the length of the request. -/
theorem send_gives_start_of_request (serverIp : CStr) (serverPort : Int) (autoReconnect : Bool) (client : TcpClient)
    (created : tcpClientInit serverIp serverPort autoReconnect = some client) (depth : Nat) (calls : List TcpCall)
    (s : TcpState) (run : tcpRun depth calls { client } = (some (), s)) (kernel : Kernel) (data : Bytes)
    (visible : 0 ∉ data) :
    let request := httpRequest client.serverIp data
    let result := tcpClientSend (tcpClientFlush depth) data { s with kernel }
    (∃ fd accepted, accepted ≤ request.length ∧
      (∀ socket, result.2.streamOf socket =
        s.streamOf socket ++ if socket = fd then request.take accepted else []) ∧
      (result.1 = some (request.length : Int) → accepted = request.length)) ∧
    ∃ headers : List Bytes, ascii "Content-Length: " ++ decimal data.length ∈ headers ∧
      request = (headers.flatMap fun line => line ++ ascii "\r\n") ++ ascii "\r\n" ++ data := by
  intro request result
  refine ⟨?_, _, ?_, httpRequest_lines client.serverIp visible⟩
  swap
  · simp
  obtain ⟨steady, server⟩ := run_steady created run
  have ended : SendCase data { s with kernel } result :=
    tcpClientSend_cases (tcpClientFlush depth) data (steady_kernel steady kernel)
  cases ended with
  | refused inert value =>
    refine ⟨0, 0, Nat.zero_le _, ?_, ?_⟩
    · intro socket
      have same : result.2.streamOf socket = s.streamOf socket := inert.quiet.streams socket
      simpa using same
    · intro whole
      rcases value with value | value
      · have negative : (-1 : Int) = request.length := Option.some.inj (value.symm.trans whole)
        omega
      · cases value.symm.trans whole
  | offered t fd inert _ offered =>
    have same : httpRequest s.client.serverIp data = request := by rw [server]
    dsimp only at offered
    rw [same] at offered
    refine ⟨fd, _, offered.within, ?_, offered.complete⟩
    intro socket
    rw [offered.streams, inert.quiet.streams]
    rfl

theorem interrupted_send_gives_start :
    let request := httpRequest relayClient.serverIp (ascii "[1]")
    let s := (tcpRun 0 [⟨.connect, { connects := [.connected] }⟩] { client := relayClient }).2
    let result := tcpClientSend (tcpClientFlush 0) (ascii "[1]")
      { s with kernel := { sends := [.accepted 20, .eintr, .wouldBlock true, .accepted 7, .otherError] } }
    result.1 = some 27 ∧ ∃ fd accepted, accepted ≤ request.length ∧
      ∀ socket, result.2.streamOf socket =
        s.streamOf socket ++ if socket = fd then request.take accepted else [] := by
  intro request s result
  obtain ⟨⟨fd, accepted, within, streams, -⟩, -⟩ := send_gives_start_of_request (.ofBytes (ascii "10.0.0.1")) 8080 true
    relayClient rfl 0 [⟨.connect, { connects := [.connected] }⟩] s (Prod.ext (by decide +kernel) rfl)
    { sends := [.accepted 20, .eintr, .wouldBlock true, .accepted 7, .otherError] } (ascii "[1]") (by decide +kernel)
  exact ⟨by decide +kernel, fd, accepted, within, streams⟩

/-! ### What the client counts -/

structure TcpState.Counted (s : TcpState) : Prop where
  sent : s.client.bytesSent = UInt64.ofNat (s.calls.map SendCall.accepted).sum
  lost : s.client.bytesLost = UInt64.ofNat (s.calls.map fun call => call.request.length - call.accepted).sum

/-- The loop takes the whole request, or the connection is lost before its first byte. -/
def Tallied (length : Nat) : List SendOutcome → Nat → Prop
  | [], _ => True
  | .accepted count :: rest, total =>
    length ≤ total + min count (length - total) ∨ Tallied length rest (total + min count (length - total))
  | .eintr :: rest, total | .wouldBlock true :: rest, total => Tallied length rest total
  | .connectionLost :: _, total => total = 0
  | .wouldBlock false :: _, _ | .otherError :: _, _ => False

instance decideTallied (length : Nat) :
    (outcomes : List SendOutcome) → (total : Nat) → Decidable (Tallied length outcomes total)
  | [], _ => isTrue trivial
  | .accepted count :: rest, total =>
    @instDecidableOr (length ≤ total + min count (length - total)) _ (Nat.decLe _ _) (decideTallied length rest _)
  | .eintr :: rest, total | .wouldBlock true :: rest, total => decideTallied length rest total
  | .connectionLost :: _, total => inferInstanceAs (Decidable (total = 0))
  | .wouldBlock false :: _, _ | .otherError :: _, _ => isFalse id

def TcpCall.Tallied (serverIp : CharBuf 16) (call : TcpCall) : Prop :=
  ∀ data ∈ call.op.payload, Probe.Tallied (httpRequest serverIp data).length call.kernel.sends 0

theorem sendLoop_complete (fd : Nat) (request : Bytes) (outcomes : List SendOutcome) {total : Nat} (s : TcpState)
    (done : request.length ≤ total) :
    (sendLoop fd request outcomes total s).1 = .complete ∧ (sendLoop fd request outcomes total s).2.1 = total := by
  unfold sendLoop
  rw [if_pos done]
  exact ⟨rfl, rfl⟩

theorem sendLoop_tallied (fd : Nat) (request : Bytes) (outcomes : List SendOutcome) {total : Nat} (s : TcpState)
    (more : total < request.length) (returns : (sendLoop fd request outcomes total s).1 ≠ .pending) :
    Tallied request.length outcomes total ↔
      (sendLoop fd request outcomes total s).1.sent (sendLoop fd request outcomes total s).2.1 =
        (sendLoop fd request outcomes total s).2.1 ∧
      (sendLoop fd request outcomes total s).1.lost request.length (sendLoop fd request outcomes total s).2.1 =
        request.length - (sendLoop fd request outcomes total s).2.1 := by
  induction outcomes generalizing total s with
  | nil =>
    unfold sendLoop at returns
    rw [if_neg (by omega)] at returns
    exact absurd rfl returns
  | cons outcome rest ih =>
    unfold sendLoop at returns ⊢
    rw [if_neg (by omega)] at returns
    rw [if_neg (by omega)]
    cases outcome with
    | accepted count =>
      dsimp only at returns ⊢
      by_cases full : request.length ≤ total + min count (request.length - total)
      · obtain ⟨ended, taken⟩ := sendLoop_complete fd request rest
          (s.accept fd (request.drop total) (min count (request.length - total))) full
        rw [ended, taken]
        simp only [Tallied, full, SendEnd.sent, SendEnd.lost, true_or, true_and, true_iff]
        omega
      · rw [← ih _ (Nat.lt_of_not_ge full) returns]
        simp only [Tallied, full, false_or]
    | eintr => exact ih s more returns
    | connectionLost => simp [Tallied, SendEnd.sent, SendEnd.lost, eq_comm]
    | wouldBlock writable =>
      cases writable with
      | true => exact ih s more returns
      | false =>
        simp only [Tallied, SendEnd.sent, SendEnd.lost, false_iff]
        omega
    | otherError =>
      simp only [Tallied, SendEnd.sent, SendEnd.lost, false_iff]
      omega

section
variable {s u : TcpState}

theorem counted_inert (counted : s.Counted) (inert : Inert s u) : u.Counted := by
  refine ⟨?_, ?_⟩
  · rw [inert.sent, inert.quiet.calls]
    exact counted.sent
  · rw [inert.lost, inert.quiet.calls]
    exact counted.lost

theorem ofNat_inj {a b : Nat} (left : a < 2 ^ 64) (right : b < 2 ^ 64) : UInt64.ofNat a = UInt64.ofNat b ↔ a = b := by
  rw [UInt64.ofNat_eq_iff_mod_eq_toNat, UInt64.toNat_ofNat', Nat.mod_eq_of_lt left, Nat.mod_eq_of_lt right]

theorem offered_counted {ended : SendEnd} {call : SendCall} {value : Option Int} (counted : s.Counted)
    (offered : Offered s ended call (value, u)) (small : call.request.length < HTTP_BUF_SIZE) :
    u.Counted ↔ ended.sent call.accepted = call.accepted ∧
      ended.lost call.request.length call.accepted = call.request.length - call.accepted := by
  obtain ⟨-, calls, within, -, -, -, -, sent, lost⟩ := offered
  dsimp only at calls sent lost
  have size : HTTP_BUF_SIZE < 2 ^ 64 := by decide
  have sentBound : ended.sent call.accepted ≤ call.request.length := by
    cases ended <;> simp [SendEnd.sent, within]
  have lostBound : ended.lost call.request.length call.accepted ≤ call.request.length := by
    cases ended <;> simp [SendEnd.lost]
  rw [← ofNat_inj (by omega) (by omega), ← ofNat_inj (b := call.request.length - call.accepted) (by omega) (by omega)]
  constructor
  · intro after
    have sent' := after.sent
    have lost' := after.lost
    rw [sent, counted.sent, calls, List.map_append, List.sum_append, UInt64.ofNat_add, UInt64.add_right_inj] at sent'
    rw [lost, counted.lost, calls, List.map_append, List.sum_append, UInt64.ofNat_add, UInt64.add_right_inj] at lost'
    exact ⟨by simpa using sent', by simpa using lost'⟩
  · rintro ⟨sent', lost'⟩
    refine ⟨?_, ?_⟩
    · rw [sent, counted.sent, calls, sent', List.map_append, List.sum_append, UInt64.ofNat_add]
      simp
    · rw [lost, counted.lost, calls, lost', List.map_append, List.sum_append, UInt64.ofNat_add]
      simp

theorem httpRequest_pos (serverIp : CharBuf 16) (data : Bytes) : 0 < (httpRequest serverIp data).length := by
  have line : 0 < (ascii "POST /api/v1/ingest HTTP/1.1\r\nHost: ").length := by decide +kernel
  unfold httpRequest
  simp only [List.length_append]
  omega

/-- A call that returns has offered nothing, or one request; then the counters stay right if and only if all of it is
accounted for. -/
theorem perform_counted (depth : Nat) (call : TcpCall) (steady : Steady s) (counted : s.Counted)
    (returns : call.perform depth s = (some (), u)) :
    u.calls = s.calls ∧ u.Counted ∨
      ∃ offer, u.calls = s.calls ++ [offer] ∧ offer.accepted ≤ offer.request.length ∧
        (u.Counted ↔ call.Tallied s.client.serverIp) := by
  have loaded : TcpState.Counted { s with kernel := call.kernel } := ⟨counted.sent, counted.lost⟩
  rcases perform_cases depth call steady returns with inert | ⟨data, ret, payload, sends⟩
  · exact .inl ⟨inert.quiet.calls, counted_inert loaded inert⟩
  have ended := tcpClientSend_cases (tcpClientFlush depth) data (steady_kernel steady call.kernel)
  rw [sends] at ended
  cases ended with
  | refused inert => exact .inl ⟨inert.quiet.calls, counted_inert loaded inert⟩
  | offered t fd inert fits offered =>
    have all := sendLoop_tallied fd (httpRequest s.client.serverIp data) call.kernel.sends t (httpRequest_pos _ _)
    have right := offered_counted (counted_inert loaded inert) offered fits
    refine .inr ⟨_, offered.calls.trans (congrArg (· ++ _) inert.quiet.calls), offered.within, right.trans ?_⟩
    have finished : (sendLoop fd (httpRequest s.client.serverIp data) call.kernel.sends 0 t).1 ≠ .pending := by
      intro pending
      have value := offered.value
      dsimp only at value
      rw [pending] at value
      cases value
    rw [TcpCall.Tallied, payload]
    simpa using (all finished).symm

theorem counted_total {offer : SendCall} (before : s.Counted) (after : u.Counted) (calls : u.calls = s.calls ++ [offer])
    (within : offer.accepted ≤ offer.request.length) :
    u.client.bytesSent + u.client.bytesLost =
      s.client.bytesSent + s.client.bytesLost + UInt64.ofNat offer.request.length := by
  rw [before.sent, before.lost, after.sent, after.lost, calls]
  simp only [List.map_append, List.sum_append, List.map_cons, List.map_nil, List.sum_singleton, ← UInt64.ofNat_add]
  congr 1
  omega

end

theorem counted_init {serverIp : CStr} {serverPort : Int} {autoReconnect : Bool} {client : TcpClient}
    (created : tcpClientInit serverIp serverPort autoReconnect = some client) : TcpState.Counted { client } := by
  unfold tcpClientInit at created
  split at created
  · cases created
  · cases created
    exact ⟨rfl, rfl⟩

/-- Wherever a run of calls has returned `bytes_sent` and `bytes_lost` say what became of the requests, and every
request has raised their sum by its length, exactly as long as every request that is offered is taken whole or finds
the connection lost before its first byte. -/
theorem bytes_conserved_iff (serverIp : CStr) (serverPort : Int) (autoReconnect : Bool) (client : TcpClient)
    (created : tcpClientInit serverIp serverPort autoReconnect = some client) (depth : Nat) (calls : List TcpCall) :
    ((∀ before after : List TcpCall, calls = before ++ after →
        ∀ s : TcpState, tcpRun depth before { client } = (some (), s) → s.Counted) ∧
      ∀ (before : List TcpCall) (call : TcpCall) (after : List TcpCall), calls = before ++ call :: after →
        ∀ s u : TcpState, tcpRun depth before { client } = (some (), s) → call.perform depth s = (some (), u) →
          ∀ offer : SendCall, u.calls = s.calls ++ [offer] →
            u.client.bytesSent + u.client.bytesLost =
              s.client.bytesSent + s.client.bytesLost + UInt64.ofNat offer.request.length) ↔
    ∀ (before : List TcpCall) (call : TcpCall) (after : List TcpCall), calls = before ++ call :: after →
      ∀ s u : TcpState, tcpRun depth before { client } = (some (), s) → call.perform depth s = (some (), u) →
        u.calls ≠ s.calls → call.Tallied client.serverIp := by
  constructor
  · rintro ⟨counted, -⟩ before call after split s u run returns offered
    obtain ⟨steady, server⟩ := run_steady created run
    have longer : calls = (before ++ [call]) ++ after := by simp [split]
    have right := counted _ after longer u ((forM_concat before call).mpr ⟨s, run, returns⟩)
    rcases perform_counted depth call steady (counted before _ split s run) returns with ⟨same, -⟩ | ⟨_, -, -, iff_⟩
    · exact absurd same offered
    · rw [← server]
      exact iff_.mp right
  · intro tallied
    have counted (before after : List TcpCall) (split : calls = before ++ after) (s : TcpState)
        (run : tcpRun depth before { client } = (some (), s)) : s.Counted := by
      refine forM_reaches (I := TcpState.Counted) (counted_init created) ?_ before after split s run
      intro before call after t u split run counted returns
      obtain ⟨steady, server⟩ := run_steady created run
      rcases perform_counted depth call steady counted returns with ⟨-, still⟩ | ⟨offer, more, -, iff_⟩
      · exact still
      · apply iff_.mpr
        rw [server]
        apply tallied before call after split t u run returns
        simp [more]
    refine ⟨counted, ?_⟩
    intro before call after split s u run returns offer more
    obtain ⟨steady, -⟩ := run_steady created run
    have earlier := counted before _ split s run
    have later := counted (before ++ [call]) after (by simp [split]) u
      ((forM_concat before call).mpr ⟨s, run, returns⟩)
    rcases perform_counted depth call steady earlier returns with ⟨same, -⟩ | ⟨offer', more', within, -⟩
    · rw [same] at more
      simp at more
    · obtain rfl : offer' = offer := by simpa using more'.symm.trans more
      exact counted_total earlier later more' within

-- The kernel takes ten bytes, and is not ready for more within five seconds.
theorem stalled_send_uncounted :
    tcpClientInit (.ofBytes (ascii "10.0.0.1")) 8080 true = some relayClient ∧
      let result := tcpRun 0 (stalledConnection.take 2) { client := relayClient }
      result.1 = some () ∧ result.2.calls.map SendCall.accepted = [10] ∧
        result.2.client.bytesSent = 0 ∧ result.2.client.bytesLost = 0 ∧ ¬ result.2.Counted := by
  refine ⟨rfl, ?_⟩
  intro result
  have taken : result.2.calls.map SendCall.accepted = [10] := by decide +kernel
  have sent : result.2.client.bytesSent = 0 := by decide +kernel
  refine ⟨by decide +kernel, taken, sent, by decide +kernel, fun counted => ?_⟩
  have wrong := counted.sent
  rw [taken, sent] at wrong
  exact absurd wrong (by decide)

/-- One request is taken in two parts, the next finds the connection closed. -/
def countedConnection : List TcpCall :=
  [⟨.connect, { connects := [.connected] }⟩,
   ⟨.send (ascii "[1]"), { sends := [.accepted 20, .eintr, .accepted 200] }⟩,
   ⟨.send (ascii "[2]"), { clocks := [5], connects := [.refused], sends := [.connectionLost] }⟩]

theorem countedConnection_conserved :
    tcpClientInit (.ofBytes (ascii "10.0.0.1")) 8080 true = some relayClient ∧
      ∀ before after, countedConnection = before ++ after →
        ∀ s, tcpRun 0 before { client := relayClient } = (some (), s) → s.Counted := by
  refine ⟨rfl, ((bytes_conserved_iff (.ofBytes (ascii "10.0.0.1")) 8080 true relayClient rfl 0
    countedConnection).mpr ?_).1⟩
  intro before call after split s u _ _ _ data payload
  have member : call ∈ countedConnection := by simp [split]
  have all : ∀ call ∈ countedConnection, ∀ data ∈ call.op.payload,
      Tallied (httpRequest relayClient.serverIp data).length call.kernel.sends 0 := by decide +kernel
  exact all call member data payload

end StbEbpf.Probe
