import StbEbpf.Probe.TcpLink

/-!
What a reconnect does, case by case, with an empty send buffer; and the rule for `tcp_client_send`, which reconnects
before it sends and again when the connection is lost under it.
-/

namespace StbEbpf.Probe
open CText Program

/-- The socket closed and the connection down. -/
def TcpState.release (s : TcpState) : TcpState :=
  { (closeSocket s).2 with client := { (closeSocket s).2.client with isConnected := false } }

/-- What an attempt to connect leaves, by its outcome: whatever descriptor was there is overwritten. -/
def TcpState.dial (s : TcpState) (outcome : ConnectOutcome) : TcpState :=
  if outcome = .socketFails then { s with client := { s.client with sockFd := none } }
  else if outcome.established then
    { s with
      client := { s.client with sockFd := some s.sockets.length, isConnected := true }
      sockets := s.sockets ++ [{}] }
  else
    { s with
      client := { s.client with sockFd := none }
      sockets := s.sockets ++ [{ closes := 1 }] }

/-- The clock has been read. -/
def TcpState.ticked (s : TcpState) (clocks : List UInt64) : TcpState :=
  { s with kernel := { s.kernel with clocks } }

def TcpState.stamped (s : TcpState) (now : UInt64) : TcpState :=
  { s with client := { s.client with lastReconnectTime := now } }

def TcpState.answered (s : TcpState) (connects : List ConnectOutcome) : TcpState :=
  { s with kernel := { s.kernel with connects } }

/-- `reconnect_delay_ms` has not passed since the last time. -/
abbrev TcpClient.TooEarly (client : TcpClient) (now : UInt64) : Prop :=
  client.lastReconnectTime > 0 ∧ now - client.lastReconnectTime < UInt64.ofInt client.reconnectDelayMs

def TcpClient.connected (client : TcpClient) : TcpClient :=
  { client with
    connectCount := client.connectCount + 1
    reconnectRetries := 0
    reconnectDelayMs := RECONNECT_INITIAL_DELAY_MS }

def TcpClient.reconnected (client : TcpClient) : TcpClient :=
  { client with
    reconnectCount := client.reconnectCount + 1
    reconnectRetries := 0
    reconnectDelayMs := RECONNECT_INITIAL_DELAY_MS }

def TcpClient.backedOff (client : TcpClient) : TcpClient :=
  { client with
    reconnectRetries := client.reconnectRetries + 1
    reconnectDelayMs := calculateBackoffDelay (client.reconnectRetries + 1)
      RECONNECT_INITIAL_DELAY_MS RECONNECT_MAX_DELAY_MS }

def TcpState.withClient (s : TcpState) (f : TcpClient → TcpClient) : TcpState := { s with client := f s.client }

theorem nextClock_cons {s : TcpState} {now : UInt64} {rest : List UInt64} (clocks : s.kernel.clocks = now :: rest) :
    nextClock s = (some now, s.ticked rest) := by
  unfold nextClock
  rw [clocks]
  rfl

theorem nextConnect_cons {s : TcpState} {outcome : ConnectOutcome} {rest : List ConnectOutcome}
    (connects : s.kernel.connects = outcome :: rest) : nextConnect s = (some outcome, s.answered rest) := by
  unfold nextConnect
  rw [connects]
  rfl

theorem nextConnect_nil {s : TcpState} (connects : s.kernel.connects = []) : nextConnect s = (none, s) := by
  unfold nextConnect
  rw [connects]

/-! ### Connecting -/

/-- A socket that is opened and closed again. -/
theorem openSocket_closed (s : TcpState) :
    (closeSocket (openSocket s).2).2 =
      { s with client := { s.client with sockFd := none }, sockets := s.sockets ++ [{ closes := 1 }] } := by
  simp [openSocket, closeSocket, List.modify_eq_take_drop]

theorem dial_fields (s : TcpState) (outcome : ConnectOutcome) :
    ∃ sockFd isConnected, (s.dial outcome).client = { s.client with sockFd, isConnected } ∧
      (s.dial outcome).kernel = s.kernel := by
  unfold TcpState.dial
  split
  · exact ⟨none, s.client.isConnected, rfl, rfl⟩
  · split
    · exact ⟨some s.sockets.length, true, rfl, rfl⟩
    · exact ⟨none, s.client.isConnected, rfl, rfl⟩

theorem tcpClientTryConnect_eq {s : TcpState} {outcome : ConnectOutcome} {rest : List ConnectOutcome}
    (connects : s.kernel.connects = outcome :: rest) :
    tcpClientTryConnect s = (some (if outcome.established then 0 else -1), (s.answered rest).dial outcome) := by
  have dialled (failed : outcome.established = false) (tried : outcome ≠ .socketFails) :
      (some (-1 : Int), (closeSocket (openSocket (s.answered rest)).2).2) =
        (some (-1), (s.answered rest).dial outcome) := by
    rw [openSocket_closed]
    simp [TcpState.dial, failed, tried]
  unfold tcpClientTryConnect
  rw [bind_some (nextConnect_cons connects)]
  cases outcome with
  | socketFails | connected => rfl
  | nonblockingFails | invalidAddress | refused => exact dialled rfl (by simp)
  | inProgress wait =>
    cases wait with
    | connected => rfl
    | selectFails | timeout | getsockoptFails | soError => exact dialled rfl (by simp)

theorem tcpClientConnect_up {s : TcpState} (up : s.client.isConnected) : tcpClientConnect s = (some 0, s) := by
  unfold tcpClientConnect
  rw [get_bind, if_pos up]
  rfl

theorem tcpClientConnect_eq {s : TcpState} {outcome : ConnectOutcome} {rest : List ConnectOutcome}
    (down : s.client.isConnected = false) (connects : s.kernel.connects = outcome :: rest) :
    tcpClientConnect s =
      if outcome.established then (some 0, ((s.answered rest).dial outcome).withClient .connected)
      else (some (-1), (s.answered rest).dial outcome) := by
  unfold tcpClientConnect
  rw [get_bind, if_neg (by simp [down]), bind_some (tcpClientTryConnect_eq connects)]
  cases outcome.established <;> rfl

theorem tcpClientConnect_waits {s : TcpState} (down : s.client.isConnected = false)
    (connects : s.kernel.connects = []) : tcpClientConnect s = (none, s) := by
  have tried : tcpClientTryConnect s = (none, s) := bind_none (nextConnect_nil connects)
  unfold tcpClientConnect
  rw [get_bind, if_neg (by simp [down]), bind_none tried]

section
variable (flush : Tcp Int) {s : TcpState}

theorem tcpClientDisconnect_eq (empty : s.client.sendBuffer = []) :
    tcpClientDisconnect flush s = (some (), s.release) := by
  unfold tcpClientDisconnect
  rw [get_bind]
  simp only [empty, ne_eq, not_true_eq_false, ↓reduceIte]
  split
  · rfl
  · rename_i closed
    have none_ : s.client.sockFd = none := by simpa using closed
    simp [TcpState.release, closeSocket, modifyClient, none_]

theorem release_sockFd (s : TcpState) : s.release.client.sockFd = none := by
  unfold TcpState.release closeSocket
  rw [modify_apply]
  dsimp only
  split
  · rename_i none_
    exact none_
  · rfl

theorem release_client (s : TcpState) :
    s.release.client = { s.client with sockFd := none, isConnected := false } := by
  have closed := release_sockFd s
  unfold TcpState.release closeSocket at closed ⊢
  rw [modify_apply] at closed ⊢
  dsimp only at closed ⊢
  split
  · rename_i none_
    rw [none_]
  · rfl

theorem release_kernel (s : TcpState) : s.release.kernel = s.kernel := by
  unfold TcpState.release closeSocket
  rw [modify_apply]
  dsimp only
  split <;> rfl

/-! ### Reconnecting -/

/-- The state after an attempt, up to the counters. -/
def TcpState.redial (s : TcpState) (now : UInt64) (clocks : List UInt64) (outcome : ConnectOutcome)
    (connects : List ConnectOutcome) : TcpState :=
  ((((s.ticked clocks).stamped now).release).answered connects).dial outcome

inductive ReconnectCase (s : TcpState) : Option Int × TcpState → Prop
  | disabled : s.client.autoReconnect = false → ReconnectCase s (some (-1), s)
  | unread : s.kernel.clocks = [] → ReconnectCase s (none, s)
  | early {now : UInt64} {clocks : List UInt64} : s.kernel.clocks = now :: clocks → s.client.TooEarly now →
      ReconnectCase s (some (-1), s.ticked clocks)
  | spent {now : UInt64} {clocks : List UInt64} : s.kernel.clocks = now :: clocks → ¬ s.client.TooEarly now →
      s.client.reconnectRetries ≥ RECONNECT_MAX_RETRIES →
      ReconnectCase s (some (-1), (s.ticked clocks).stamped now)
  | unanswered {now : UInt64} {clocks : List UInt64} : s.kernel.clocks = now :: clocks → s.kernel.connects = [] →
      s.client.reconnectRetries < RECONNECT_MAX_RETRIES →
      ReconnectCase s (none, ((s.ticked clocks).stamped now).release)
  | succeeded {now : UInt64} {clocks : List UInt64} {outcome : ConnectOutcome} {connects : List ConnectOutcome} :
      s.kernel.clocks = now :: clocks → ¬ s.client.TooEarly now →
      s.client.reconnectRetries < RECONNECT_MAX_RETRIES →
      s.kernel.connects = outcome :: connects → outcome.established →
      ReconnectCase s (some 0,
        ((s.redial now clocks outcome connects).withClient .connected).withClient .reconnected)
  | failed {now : UInt64} {clocks : List UInt64} {outcome : ConnectOutcome} {connects : List ConnectOutcome} :
      s.kernel.clocks = now :: clocks → ¬ s.client.TooEarly now →
      s.client.reconnectRetries < RECONNECT_MAX_RETRIES →
      s.kernel.connects = outcome :: connects → outcome.established = false →
      ReconnectCase s (some (-1), (s.redial now clocks outcome connects).withClient .backedOff)

theorem tcpClientReconnect_cases (empty : s.client.sendBuffer = []) :
    ReconnectCase s (tcpClientReconnect flush s) := by
  unfold tcpClientReconnect
  rw [get_bind]
  by_cases auto : s.client.autoReconnect
  swap
  · rw [if_pos auto]
    exact .disabled (by simpa using auto)
  rw [if_neg (by simp [auto])]
  rcases clocks : s.kernel.clocks with _ | ⟨now, rest⟩
  · rw [bind_none (t := s) (by unfold nextClock; rw [clocks])]
    exact .unread clocks
  rw [bind_some (nextClock_cons clocks)]
  by_cases early : s.client.TooEarly now
  · rw [if_pos early]
    exact .early clocks early
  have stamp : modifyClient (fun client => { client with lastReconnectTime := now }) (s.ticked rest) =
      (some (), (s.ticked rest).stamped now) := rfl
  rw [if_neg early, bind_some stamp]
  by_cases spent : s.client.reconnectRetries ≥ RECONNECT_MAX_RETRIES
  · rw [if_pos spent]
    exact .spent clocks early spent
  have left : s.client.reconnectRetries < RECONNECT_MAX_RETRIES := Nat.lt_of_not_ge spent
  rw [if_neg spent, bind_some (tcpClientDisconnect_eq flush (s := (s.ticked rest).stamped now) empty)]
  have down : ((s.ticked rest).stamped now).release.client.isConnected = false := by rw [release_client]
  have kernel : ((s.ticked rest).stamped now).release.kernel.connects = s.kernel.connects := by
    rw [release_kernel]
    rfl
  rcases connects : s.kernel.connects with _ | ⟨outcome, more⟩
  · rw [bind_none (tcpClientConnect_waits down (kernel.trans connects))]
    exact .unanswered clocks connects left
  have connected := tcpClientConnect_eq down (kernel.trans connects)
  cases established : outcome.established with
  | true =>
    rw [established, if_pos rfl] at connected
    rw [bind_some connected]
    exact .succeeded clocks early left connects established
  | false =>
    rw [established, if_neg (by simp)] at connected
    rw [bind_some connected]
    exact .failed clocks early left connects established

theorem dial_established {outcome : ConnectOutcome} (established : outcome.established) :
    (s.dial outcome).client.isConnected ∧ (s.dial outcome).client.sockFd.isSome := by
  unfold TcpState.dial
  rw [if_neg (by rintro rfl; cases established), if_pos established]
  exact ⟨rfl, rfl⟩

/-- A kernel that plays along takes a dead connection up again. -/
theorem reconnect_succeeds (empty : s.client.sendBuffer = []) (reconnects : Reconnects s.client s.kernel) :
    ∃ t, tcpClientReconnect flush s = (some 0, t) ∧ t.client.isConnected ∧ t.client.sockFd.isSome ∧
      t.kernel.peeks = s.kernel.peeks := by
  obtain ⟨auto, retries, ⟨now, clock, late⟩, outcome, connect, established⟩ := reconnects
  have ended := tcpClientReconnect_cases flush empty
  generalize tcpClientReconnect flush s = result at ended
  cases ended with
  | disabled off => simp [off] at auto
  | unread clocks => simp [clocks] at clock
  | early clocks early =>
    obtain rfl : _ = now := by simpa [clocks] using clock
    exact absurd early late
  | spent clocks _ spent => omega
  | unanswered clocks connects => simp [connects] at connect
  | @succeeded now clocks outcome connects _ _ _ _ established =>
    have dialled := dial_established (s := (((s.ticked clocks).stamped now).release).answered connects) established
    obtain ⟨-, -, -, kernel⟩ := dial_fields ((((s.ticked clocks).stamped now).release).answered connects) outcome
    refine ⟨_, rfl, dialled.1, dialled.2, ?_⟩
    show (s.redial now clocks outcome connects).kernel.peeks = s.kernel.peeks
    rw [TcpState.redial, kernel]
    show ((s.ticked clocks).stamped now).release.kernel.peeks = s.kernel.peeks
    rw [release_kernel]
    rfl
  | failed clocks _ _ connects refused =>
    obtain rfl : _ = outcome := by simpa [connects] using connect
    simp [refused] at established

end

/-! ### Sending -/

/-- What the send loop and the bookkeeping around it leave alone; at most the connection is found dead. -/
structure SendFrame (s t : TcpState) : Prop where
  buffer : t.client.sendBuffer = s.client.sendBuffer
  sockFd : t.client.sockFd = s.client.sockFd
  up : t.client.isConnected → s.client.isConnected
  retries : t.client.reconnectRetries = s.client.reconnectRetries
  delay : t.client.reconnectDelayMs = s.client.reconnectDelayMs
  last : t.client.lastReconnectTime = s.client.lastReconnectTime
  clocks : t.kernel.clocks = s.kernel.clocks
  connects : t.kernel.connects = s.kernel.connects
  closes : t.sockets.map Socket.closes = s.sockets.map Socket.closes

theorem sendFrame_refl (s : TcpState) : SendFrame s s := ⟨rfl, rfl, id, rfl, rfl, rfl, rfl, rfl, rfl⟩

theorem sendFrame_trans {s t u : TcpState} (first : SendFrame s t) (second : SendFrame t u) : SendFrame s u :=
  ⟨second.buffer.trans first.buffer, second.sockFd.trans first.sockFd, first.up ∘ second.up,
    second.retries.trans first.retries, second.delay.trans first.delay, second.last.trans first.last,
    second.clocks.trans first.clocks, second.connects.trans first.connects, second.closes.trans first.closes⟩

theorem accept_frame (s : TcpState) (fd : Nat) (offered : Bytes) (count : Nat) :
    SendFrame s (s.accept fd offered count) := by
  refine ⟨rfl, rfl, id, rfl, rfl, rfl, rfl, rfl, ?_⟩
  apply List.ext_getElem?
  intro i
  simp only [TcpState.accept, List.getElem?_map, List.getElem?_modify]
  cases s.sockets[i]? with
  | none => rfl
  | some socket => by_cases same : fd = i <;> simp [same]

theorem sendLoop_frame (fd : Nat) (request : Bytes) (outcomes : List SendOutcome) (total : Nat) (s : TcpState) :
    SendFrame s (sendLoop fd request outcomes total s).2.2 := by
  have left (s : TcpState) (sends : List SendOutcome) : SendFrame s { s with kernel := { s.kernel with sends } } :=
    ⟨rfl, rfl, id, rfl, rfl, rfl, rfl, rfl, rfl⟩
  induction outcomes generalizing total s with
  | nil => unfold sendLoop; split <;> exact left s _
  | cons outcome rest ih =>
    unfold sendLoop
    split
    · exact left s _
    · cases outcome with
      | accepted count => exact sendFrame_trans (accept_frame s fd _ _) (ih _ _)
      | eintr => exact ih _ _
      | connectionLost | otherError => exact left s _
      | wouldBlock writable =>
        cases writable with
        | true => exact ih _ _
        | false => exact left s _

theorem tcpClientIsConnected_frame (s : TcpState) :
    Ends (SendFrame s) (fun _ => True) (tcpClientIsConnected s) := by
  by_cases up : s.client.isConnected ∧ s.client.sockFd.isSome
  swap
  · rw [isConnected_down up]
    exact sendFrame_refl s
  rcases peeks : s.kernel.peeks with _ | ⟨peek, rest⟩
  · have waits : nextPeek s = (none, s) := by
      unfold nextPeek
      rw [peeks]
    unfold tcpClientIsConnected
    rw [get_bind, if_pos up, bind_none waits]
    exact trivial
  · cases alive : peek.alive with
    | true =>
      rw [isConnected_alive up.1 up.2 peeks alive]
      exact ⟨rfl, rfl, id, rfl, rfl, rfl, rfl, rfl, rfl⟩
    | false =>
      rw [isConnected_dead up.1 up.2 peeks (by simp [alive])]
      exact ⟨rfl, rfl, by simp, rfl, rfl, rfl, rfl, rfl, rfl⟩

theorem tcpClientFlush_empty (depth : Nat) {s : TcpState} (empty : s.client.sendBuffer = []) :
    tcpClientFlush (depth + 1) s = (some 0, s) := by
  unfold tcpClientFlush
  rw [get_bind, if_pos empty]
  rfl

/-! ### Calls

A rule for every call but `tcp_client_connect`: `P` holds as long as the call goes on and `Q` when it returns. A
reconnect may end the call, and then it has not brought the connection up. -/

section
variable {s : TcpState} {P Q : TcpState → Prop} (frame : ∀ s t, P s → SendFrame s t → P t) (done : ∀ s, P s → Q s)
include frame done

theorem tcpClientSend_returns (flush : Tcp Int)
    (reconnect : ∀ s, P s → Ends (fun t => P t ∨ Q t ∧ t.client.isConnected = s.client.isConnected) (fun _ => True)
      (tcpClientReconnect flush s))
    (data : Bytes) (start : P s) : Ends Q (fun _ => True) (tcpClientSend flush data s) := by
  have again (t : TcpState) (holds : P t) :
      Ends Q (fun _ => True) ((do let _ ← tcpClientReconnect flush; pure (-1) : Tcp Int) t) :=
    bind_ends (reconnect t holds) fun _ u _ after => after.elim (done u) And.left
  have finish (request : Bytes) (ended : SendEnd) (total : Nat) (t : TcpState) (holds : P t) :
      Ends Q (fun _ => True) (finishSend flush request ended total t) := by
    cases ended with
    | pending => exact trivial
    | stopped => exact done t holds
    | complete => exact done _ (frame t _ holds ⟨rfl, rfl, id, rfl, rfl, rfl, rfl, rfl, rfl⟩)
    | connectionLost =>
      have lost (bytesLost : UInt64) : P { t with client := { t.client with isConnected := false, bytesLost } } :=
        frame t _ holds ⟨rfl, rfl, by simp, rfl, rfl, rfl, rfl, rfl, rfl⟩
      refine bind_ends (I := P) (lost _) fun _ u _ lost => ?_
      rw [get_bind]
      split
      · exact again u lost
      · exact done u lost
  have send (t : TcpState) (holds : P t) (request : Bytes) : Ends Q (fun _ => True) (transmit flush request t) := by
    unfold transmit
    split
    · exact done t holds
    · rename_i fd _
      have framed := sendLoop_frame fd request t.kernel.sends 0 t
      generalize sendLoop fd request t.kernel.sends 0 t = result at framed ⊢
      obtain ⟨ended, total, u⟩ := result
      exact finish request ended total _ (frame t _ holds
        (sendFrame_trans framed ⟨rfl, rfl, id, rfl, rfl, rfl, rfl, rfl, rfl⟩))
  have rest (t : TcpState) (holds : P t ∨ Q t ∧ t.client.isConnected = false) :
      Ends Q (fun _ => True)
        ((if ¬ t.client.isConnected then pure (-1)
          else if (httpRequest t.client.serverIp data).length ≥ HTTP_BUF_SIZE then pure (-1)
          else transmit flush (httpRequest t.client.serverIp data) : Tcp Int) t) := by
    split
    · exact holds.elim (done t) And.left
    · rename_i up
      have holds : P t := holds.resolve_right fun after => up (by simp [after.2])
      split
      · exact done t holds
      · exact send t holds _
  unfold tcpClientSend
  split
  · exact done s start
  · rw [get_bind]
    split
    · rename_i down
      have closed : s.client.isConnected = false := by simpa using down.1
      exact bind_ends (reconnect s start) fun _ t _ after => rest t (closed ▸ after)
    · exact rest s (.inl start)

theorem perform_returns (depth : Nat)
    (reconnect : ∀ s, P s → Ends (fun t => P t ∨ Q t ∧ t.client.isConnected = s.client.isConnected) (fun _ => True)
      (tcpClientReconnect (tcpClientFlush depth) s))
    (empty : ∀ s, P s → s.client.sendBuffer = []) (release : ∀ s, P s → P s.release) (call : TcpCall)
    (other : call.op ≠ .connect) (start : P { s with kernel := call.kernel }) :
    Ends Q (fun _ => True) (call.perform depth s) := by
  have discard {α : Type} {m : Tcp α} {t : TcpState} (ends : Ends Q (fun _ => True) (m t)) :
      Ends Q (fun _ => True) ((do let _ ← m : Tcp Unit) t) :=
    bind_ends ends fun _ _ _ holds => holds
  obtain ⟨op, kernel⟩ := call
  unfold TcpCall.perform
  rw [modify_bind]
  cases op with
  | connect => exact absurd rfl other
  | disconnect =>
    show Ends Q _ (tcpClientDisconnect (tcpClientFlush depth) { s with kernel })
    rw [tcpClientDisconnect_eq _ (empty _ start)]
    exact done _ (release _ start)
  | reconnect => exact bind_ends (reconnect _ start) fun _ t _ after => after.elim (done t) And.left
  | send data => exact discard (tcpClientSend_returns frame done _ reconnect data start)
  | sendLine line => exact discard (tcpClientSend_returns frame done _ reconnect line.bytes start)
  | flush =>
    have nothing := tcpClientFlush_empty depth (empty _ start)
    exact bind_ends (I := Q) (by rw [nothing]; exact done _ start) fun _ _ _ holds => holds
  | isConnected =>
    exact bind_ends (tcpClientIsConnected_frame _) fun _ t _ framed => done t (frame _ t start framed)

end

end StbEbpf.Probe
