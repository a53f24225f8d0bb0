import StbEbpf.Probe.TcpFraming

/-!
The client when the kernel plays along: a connection that is alive, and a request that is taken whole. A call never
puts anything into the send buffer.
-/

namespace StbEbpf.Probe
open CText Program

def PeekOutcome.alive : PeekOutcome → Bool
  | .data | .wouldBlock => true
  | .closed | .error => false

/-- `tcp_client_reconnect` is allowed to try, and its connect succeeds. -/
def Reconnects (client : TcpClient) (kernel : Kernel) : Prop :=
  client.autoReconnect ∧ client.reconnectRetries < RECONNECT_MAX_RETRIES ∧
  (∃ now ∈ kernel.clocks.head?, ¬ (client.lastReconnectTime > 0 ∧
    now - client.lastReconnectTime < UInt64.ofInt client.reconnectDelayMs)) ∧
  ∃ outcome ∈ kernel.connects.head?, outcome.established

instance (client : TcpClient) (kernel : Kernel) : Decidable (Reconnects client kernel) :=
  inferInstanceAs (Decidable (_ ∧ _ ∧ _ ∧ _))

/-- The kernel takes the rest of a request of this length. -/
def Taken (length : Nat) : List SendOutcome → Nat → Prop
  | .accepted count :: rest, total =>
    length ≤ total + min count (length - total) ∨ Taken length rest (total + min count (length - total))
  | .eintr :: rest, total | .wouldBlock true :: rest, total => Taken length rest total
  | _, _ => False

instance decideTaken (length : Nat) :
    (outcomes : List SendOutcome) → (total : Nat) → Decidable (Taken length outcomes total)
  | [], _ | .connectionLost :: _, _ | .wouldBlock false :: _, _ | .otherError :: _, _ => isFalse id
  | .accepted count :: rest, total =>
    @instDecidableOr (length ≤ total + min count (length - total)) _ (Nat.decLe _ _) (decideTaken length rest _)
  | .eintr :: rest, total | .wouldBlock true :: rest, total => decideTaken length rest total

theorem nextPeek_cons {s : TcpState} {peek : PeekOutcome} {rest : List PeekOutcome}
    (peeks : s.kernel.peeks = peek :: rest) :
    nextPeek s = (some peek, { s with kernel := { s.kernel with peeks := rest } }) := by
  unfold nextPeek
  rw [peeks]

theorem isConnected_alive {s : TcpState} {peek : PeekOutcome} {rest : List PeekOutcome} (up : s.client.isConnected)
    (opened : s.client.sockFd.isSome) (peeks : s.kernel.peeks = peek :: rest) (alive : peek.alive) :
    tcpClientIsConnected s = (some true, { s with kernel := { s.kernel with peeks := rest } }) := by
  unfold tcpClientIsConnected
  rw [get_bind, if_pos ⟨up, opened⟩, bind_some (nextPeek_cons peeks)]
  cases peek with
  | data | wouldBlock => rfl
  | closed | error => cases alive

theorem isConnected_dead {s : TcpState} {peek : PeekOutcome} {rest : List PeekOutcome} (up : s.client.isConnected)
    (opened : s.client.sockFd.isSome) (peeks : s.kernel.peeks = peek :: rest) (dead : ¬ peek.alive) :
    tcpClientIsConnected s =
      (some false,
        { s with client := { s.client with isConnected := false }, kernel := { s.kernel with peeks := rest } }) := by
  unfold tcpClientIsConnected
  rw [get_bind, if_pos ⟨up, opened⟩, bind_some (nextPeek_cons peeks)]
  cases peek with
  | data | wouldBlock => exact absurd rfl dead
  | closed | error => rfl

theorem isConnected_down {s : TcpState} (down : ¬ (s.client.isConnected ∧ s.client.sockFd.isSome)) :
    tcpClientIsConnected s = (some false, s) := by
  unfold tcpClientIsConnected
  rw [get_bind, if_neg down]
  rfl

section
variable (flush : Tcp Int) {s : TcpState}

theorem sendLoop_taken (fd : Nat) (request : Bytes) (outcomes : List SendOutcome) {total : Nat} (s : TcpState)
    (within : total ≤ request.length) (taken : Taken request.length outcomes total) :
    (sendLoop fd request outcomes total s).1 = .complete ∧
      (sendLoop fd request outcomes total s).2.1 = request.length := by
  induction outcomes generalizing total s with
  | nil => cases taken
  | cons outcome rest ih =>
    unfold sendLoop
    split
    · rename_i done
      exact ⟨rfl, Nat.le_antisymm within done⟩
    · cases outcome with
      | accepted count =>
        rcases taken with full | more
        · unfold sendLoop
          have whole : total + min count (request.length - total) = request.length := by omega
          cases rest <;> simp [whole]
        · exact ih _ (by omega) more
      | eintr => exact ih s within taken
      | connectionLost => cases taken
      | wouldBlock writable =>
        cases writable with
        | true => exact ih s within taken
        | false => cases taken
      | otherError => cases taken

theorem sendLoop_keeps (fd : Nat) (request : Bytes) (outcomes : List SendOutcome) (total : Nat) (s : TcpState) :
    (sendLoop fd request outcomes total s).2.2.client = s.client ∧
      (sendLoop fd request outcomes total s).2.2.calls = s.calls := by
  induction outcomes generalizing total s with
  | nil => unfold sendLoop; split <;> exact ⟨rfl, rfl⟩
  | cons outcome rest ih =>
    unfold sendLoop
    split
    · exact ⟨rfl, rfl⟩
    · cases outcome with
      | accepted count => exact ih _ _
      | eintr => exact ih _ _
      | connectionLost => exact ⟨rfl, rfl⟩
      | wouldBlock writable =>
        cases writable with
        | true => exact ih _ _
        | false => exact ⟨rfl, rfl⟩
      | otherError => exact ⟨rfl, rfl⟩

theorem send_completes {data : Bytes} {fd : Nat} (some_ : data ≠ []) (up : s.client.isConnected)
    (opened : s.client.sockFd = some fd) (fits : (httpRequest s.client.serverIp data).length < HTTP_BUF_SIZE)
    (taken : Taken (httpRequest s.client.serverIp data).length s.kernel.sends 0) :
    ∃ ret t, tcpClientSend flush data s = (some ret, t) ∧
      t.calls = s.calls ++ [⟨fd, httpRequest s.client.serverIp data, (httpRequest s.client.serverIp data).length⟩] := by
  unfold tcpClientSend
  rw [if_neg some_, get_bind, if_neg (by simp [up])]
  dsimp only
  rw [get_bind, if_neg (by simp [up]), if_neg (by omega)]
  unfold transmit
  rw [opened]
  dsimp only
  have complete := sendLoop_taken fd (httpRequest s.client.serverIp data) s.kernel.sends s (Nat.zero_le _) taken
  have keeps := sendLoop_keeps fd (httpRequest s.client.serverIp data) s.kernel.sends 0 s
  generalize sendLoop fd (httpRequest s.client.serverIp data) s.kernel.sends 0 s = result at complete keeps ⊢
  obtain ⟨ended, total, t⟩ := result
  obtain ⟨rfl, rfl⟩ := complete
  obtain ⟨-, calls⟩ := keeps
  refine ⟨_, _, rfl, ?_⟩
  show t.calls ++ _ = _
  rw [calls]

/-! ### What sending keeps -/

theorem finishSend_quiet (request : Bytes) (ended : SendEnd) (total : Nat) (s : TcpState) :
    Quiet s (finishSend flush request ended total s).2 := by
  cases ended with
  | pending | stopped => exact quiet_refl s
  | complete => exact quiet_client rfl rfl rfl id
  | connectionLost =>
    refine quiet_bind (quiet_client rfl rfl rfl (by simp)) fun _ t => ?_
    rw [get_bind]
    split
    · exact quiet_bind (tcpClientReconnect_quiet flush t) fun _ u => quiet_refl u
    · exact quiet_refl t

theorem transmit_buffer (request : Bytes) (empty : s.client.sendBuffer = []) :
    (transmit flush request s).2.client.sendBuffer = [] := by
  unfold transmit
  split
  · exact empty
  · rename_i fd _
    have keeps := sendLoop_keeps fd request s.kernel.sends 0 s
    generalize sendLoop fd request s.kernel.sends 0 s = result at keeps ⊢
    obtain ⟨ended, total, t⟩ := result
    obtain ⟨client, -⟩ := keeps
    have still : t.client.sendBuffer = [] := by
      rw [client]
      exact empty
    exact (finishSend_quiet flush request ended total { t with calls := t.calls ++ [⟨fd, request, total⟩] } still).buffer

theorem tcpClientSend_buffer (data : Bytes) (empty : s.client.sendBuffer = []) :
    (tcpClientSend flush data s).2.client.sendBuffer = [] := by
  have send (t : TcpState) (empty : t.client.sendBuffer = []) :
      ((if ¬ t.client.isConnected then pure (-1)
        else if (httpRequest t.client.serverIp data).length ≥ HTTP_BUF_SIZE then pure (-1)
        else transmit flush (httpRequest t.client.serverIp data) : Tcp Int) t).2.client.sendBuffer = [] := by
    split
    · exact empty
    · split
      · exact empty
      · exact transmit_buffer flush _ empty
  unfold tcpClientSend
  split
  · exact empty
  · rw [get_bind]
    split
    · have kept := (tcpClientReconnect_quiet flush s empty).buffer
      rcases ends : tcpClientReconnect flush s with ⟨_ | ret, t⟩
      · rw [bind_none ends]
        rwa [ends] at kept
      · rw [bind_some ends]
        rw [ends] at kept
        exact send t kept
    · exact send s empty

end

end StbEbpf.Probe
