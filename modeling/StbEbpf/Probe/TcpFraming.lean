import StbEbpf.Probe.TcpClient

/-!
Requests on a socket. Every call but `tcp_client_send` leaves the byte streams alone, and a connection is only taken
up on a new socket; a send that is cut short must therefore take its connection down.
-/

namespace StbEbpf.Probe
open CText Program

def TcpState.streamOf (s : TcpState) (fd : Nat) : Bytes :=
  match s.sockets[fd]? with
  | some socket => socket.stream
  | none => []

/-- The calls that got bytes through on a socket, in order. -/
def TcpState.sentOn (s : TcpState) (fd : Nat) : List SendCall :=
  s.calls.filter fun call => call.socket = fd ∧ call.accepted > 0

def SendCall.bytes (call : SendCall) : Bytes := call.request.take call.accepted

def SendCall.Complete (call : SendCall) : Prop := call.accepted = call.request.length

/-- On every socket: whole requests one after the other, and behind them at most one that is cut short. -/
structure TcpState.Framed (s : TcpState) : Prop where
  requests : ∀ call ∈ s.calls, call.accepted ≤ call.request.length ∧ ∃ data, call.request = httpRequest s.client.serverIp data
  stream : ∀ fd, s.streamOf fd = ((s.sentOn fd).map SendCall.bytes).flatten
  whole : ∀ fd, ∀ call ∈ (s.sentOn fd).dropLast, call.Complete

/-! ### Calls that send nothing -/

structure QuietStep (s t : TcpState) : Prop where
  buffer : t.client.sendBuffer = []
  server : t.client.serverIp = s.client.serverIp
  sends : t.kernel.sends = s.kernel.sends
  calls : t.calls = s.calls
  grows : s.sockets.length ≤ t.sockets.length
  streams : ∀ fd, t.streamOf fd = s.streamOf fd
  current : ∀ fd, t.client.sockFd = some fd →
    s.client.sockFd = some fd ∨ s.sockets.length ≤ fd ∧ fd < t.sockets.length
  live : ∀ fd, t.client.sockFd = some fd → t.client.isConnected →
    s.client.sockFd = some fd ∧ s.client.isConnected ∨ s.sockets.length ≤ fd

/-- Nothing is sent and nothing old is taken up again, the send buffer being empty. -/
def Quiet (s t : TcpState) : Prop := s.client.sendBuffer = [] → QuietStep s t

theorem quiet_refl (s : TcpState) : Quiet s s :=
  fun empty => ⟨empty, rfl, rfl, rfl, Nat.le_refl _, fun _ => rfl, fun _ opened => .inl opened,
    fun _ opened up => .inl ⟨opened, up⟩⟩

theorem quiet_trans {s t u : TcpState} (first : Quiet s t) (second : Quiet t u) : Quiet s u := by
  intro empty
  have one := first empty
  have two := second one.buffer
  have grows := one.grows
  refine ⟨two.buffer, two.server.trans one.server, two.sends.trans one.sends, two.calls.trans one.calls,
    grows.trans two.grows, fun fd => (two.streams fd).trans (one.streams fd), ?_, ?_⟩
  · intro fd opened
    rcases two.current fd opened with same | fresh
    · rcases one.current fd same with older | fresh
      · exact .inl older
      · exact .inr ⟨fresh.1, fresh.2.trans_le two.grows⟩
    · exact .inr ⟨by omega, fresh.2⟩
  · intro fd opened up
    rcases two.live fd opened up with ⟨same, still⟩ | fresh
    · exact one.live fd same still
    · exact .inr (by omega)

theorem quiet_bind {α β : Type} {m : Tcp α} {next : α → Tcp β} {s : TcpState} (first : Quiet s (m s).2)
    (rest : ∀ value t, Quiet t (next value t).2) : Quiet s ((m >>= next) s).2 :=
  bind_related (R := Quiet) quiet_trans first fun value t _ => rest value t

theorem quiet_kernel {s : TcpState} {kernel : Kernel} (sends : kernel.sends = s.kernel.sends) :
    Quiet s { s with kernel } := by
  intro empty
  obtain ⟨buffer, server, -, calls, grows, streams, current, live⟩ := quiet_refl s empty
  exact ⟨buffer, server, sends, calls, grows, streams, current, live⟩

theorem quiet_client {s : TcpState} {client : TcpClient} (buffer : client.sendBuffer = s.client.sendBuffer)
    (server : client.serverIp = s.client.serverIp) (fd : client.sockFd = s.client.sockFd)
    (up : client.isConnected → s.client.isConnected) : Quiet s { s with client } := by
  intro empty
  refine ⟨buffer.trans empty, server, rfl, rfl, Nat.le_refl _, fun _ => rfl, ?_, ?_⟩
  · intro i opened
    exact .inl (fd ▸ opened)
  · intro i opened connected
    exact .inl ⟨fd ▸ opened, up connected⟩

theorem nextClock_quiet (s : TcpState) : Quiet s (nextClock s).2 := by
  unfold nextClock
  split
  · exact quiet_refl s
  · exact quiet_kernel rfl

theorem nextConnect_quiet (s : TcpState) : Quiet s (nextConnect s).2 := by
  unfold nextConnect
  split
  · exact quiet_refl s
  · exact quiet_kernel rfl

theorem nextPeek_quiet (s : TcpState) : Quiet s (nextPeek s).2 := by
  unfold nextPeek
  split
  · exact quiet_refl s
  · exact quiet_kernel rfl

theorem streamOf_append (s : TcpState) (client : TcpClient) (fd : Nat) :
    ({ s with client, sockets := s.sockets ++ [{}] } : TcpState).streamOf fd = s.streamOf fd := by
  unfold TcpState.streamOf
  rcases Nat.lt_trichotomy fd s.sockets.length with old | rfl | beyond
  · rw [List.getElem?_append_left old]
  · simp
  · rw [List.getElem?_eq_none (Nat.le_of_lt beyond), List.getElem?_eq_none (by simp; omega)]

theorem streamOf_modify (s : TcpState) (client : TcpClient) (i fd : Nat) (f : Socket → Socket)
    (keeps : ∀ socket, (f socket).stream = socket.stream) :
    ({ s with client, sockets := s.sockets.modify i f } : TcpState).streamOf fd = s.streamOf fd := by
  unfold TcpState.streamOf
  rw [List.getElem?_modify]
  cases s.sockets[fd]? with
  | none => rfl
  | some socket => by_cases same : i = fd <;> simp [same, keeps]

theorem closeSocket_quiet (s : TcpState) : Quiet s (closeSocket s).2 := by
  unfold closeSocket
  rw [modify_apply]
  split
  · exact quiet_refl s
  · intro empty
    exact ⟨empty, rfl, rfl, rfl, by simp, fun fd => streamOf_modify s _ _ fd _ fun _ => rfl, by simp, by simp⟩

theorem openSocket_quiet (s : TcpState) (up : Bool) :
    Quiet s
      { s with
        client := { s.client with sockFd := some s.sockets.length, isConnected := up }
        sockets := s.sockets ++ [{}] } := by
  intro empty
  refine ⟨empty, rfl, rfl, rfl, by simp, fun fd => streamOf_append s _ fd, ?_, ?_⟩
  · rintro fd ⟨⟩
    exact .inr ⟨Nat.le_refl _, by simp⟩
  · rintro fd ⟨⟩ -
    exact .inr (Nat.le_refl _)

theorem tcpClientTryConnect_quiet (s : TcpState) : Quiet s (tcpClientTryConnect s).2 := by
  refine quiet_bind (nextConnect_quiet s) fun outcome t => ?_
  by_cases failed : outcome = .socketFails
  · subst failed
    intro empty
    exact ⟨empty, rfl, rfl, rfl, Nat.le_refl _, fun _ => rfl, by rintro _ ⟨⟩, by rintro _ ⟨⟩⟩
  · have opened : Quiet t ((openSocket >>= fun _ =>
        if outcome.established then (do
          modifyClient fun client => { client with isConnected := true }
          return 0)
        else (do
          closeSocket
          return -1) : Tcp Int) t).2 := by
      cases up : outcome.established with
      | true => exact openSocket_quiet t true
      | false => exact quiet_trans (openSocket_quiet t t.client.isConnected) (closeSocket_quiet _)
    cases outcome with
    | socketFails => exact absurd rfl failed
    | _ => exact opened

theorem tcpClientConnect_quiet (s : TcpState) : Quiet s (tcpClientConnect s).2 := by
  unfold tcpClientConnect
  rw [get_bind]
  split
  · exact quiet_refl s
  · refine quiet_bind (tcpClientTryConnect_quiet s) fun ret t => ?_
    split
    · exact quiet_client rfl rfl rfl fun up => up
    · exact quiet_refl t

section
variable (flush : Tcp Int) {serverIp : CharBuf 16}

theorem tcpClientDisconnect_quiet (s : TcpState) : Quiet s (tcpClientDisconnect flush s).2 := by
  intro empty
  have down (t : TcpState) :
      Quiet t (modifyClient (fun client => { client with isConnected := false }) t).2 :=
    quiet_client rfl rfl rfl (by simp)
  unfold tcpClientDisconnect
  rw [get_bind]
  simp only [empty, ne_eq, not_true_eq_false, ↓reduceIte]
  split
  · exact quiet_bind (closeSocket_quiet s) (fun _ t => down t) empty
  · exact down s empty

theorem tcpClientReconnect_quiet (s : TcpState) : Quiet s (tcpClientReconnect flush s).2 := by
  unfold tcpClientReconnect
  rw [get_bind]
  split
  · exact quiet_refl s
  · refine quiet_bind (nextClock_quiet s) fun nowMs t => ?_
    split
    · exact quiet_refl t
    · refine quiet_bind (quiet_client rfl rfl rfl id) fun _ t => ?_
      split
      · exact quiet_refl t
      · refine quiet_bind (tcpClientDisconnect_quiet flush t) fun _ t => ?_
        refine quiet_bind (tcpClientConnect_quiet t) fun ret t => ?_
        split
        · exact quiet_client rfl rfl rfl id
        · exact quiet_client rfl rfl rfl id

theorem tcpClientFlush_quiet (depth : Nat) (s : TcpState) : Quiet s (tcpClientFlush depth s).2 := by
  intro empty
  cases depth with
  | zero => exact quiet_refl s empty
  | succ depth =>
    unfold tcpClientFlush
    simp only [get_bind, empty, ↓reduceIte, pure_apply]
    exact quiet_refl s empty

theorem tcpClientIsConnected_quiet (s : TcpState) : Quiet s (tcpClientIsConnected s).2 := by
  unfold tcpClientIsConnected
  rw [get_bind]
  split
  · refine quiet_bind (nextPeek_quiet s) fun outcome t => ?_
    cases outcome with
    | closed | error => exact quiet_client rfl rfl rfl (by simp)
    | data | wouldBlock => exact quiet_refl t
  · exact quiet_refl s

/-! ### The send loop -/

/-- Nothing stops the loop between the first byte of a request and its last, short of the connection being lost. -/
def Unbroken (length : Nat) : List SendOutcome → Nat → Prop
  | [], _ => True
  | .accepted count :: rest, total =>
    length ≤ total + min count (length - total) ∨ Unbroken length rest (total + min count (length - total))
  | .eintr :: rest, total | .wouldBlock true :: rest, total => Unbroken length rest total
  | .connectionLost :: _, _ => True
  | .wouldBlock false :: _, total | .otherError :: _, total => total = 0

instance decideUnbroken (length : Nat) :
    (outcomes : List SendOutcome) → (total : Nat) → Decidable (Unbroken length outcomes total)
  | [], _ | .connectionLost :: _, _ => isTrue trivial
  | .accepted count :: rest, total =>
    @instDecidableOr (length ≤ total + min count (length - total)) _ (Nat.decLe _ _) (decideUnbroken length rest _)
  | .eintr :: rest, total | .wouldBlock true :: rest, total => decideUnbroken length rest total
  | .wouldBlock false :: _, total | .otherError :: _, total => inferInstanceAs (Decidable (total = 0))

structure LoopEffect (fd : Nat) (request : Bytes) (s : TcpState) (before : Bytes)
    (r : SendEnd × Nat × TcpState) : Prop where
  client : r.2.2.client = s.client
  calls : r.2.2.calls = s.calls
  length : r.2.2.sockets.length = s.sockets.length
  bound : r.2.1 ≤ request.length
  stream : r.2.2.streamOf fd = before ++ request.take r.2.1
  others : ∀ other ≠ fd, r.2.2.streamOf other = s.streamOf other
  complete : r.1 = .complete → r.2.1 = request.length

theorem accept_streamOf {s : TcpState} {fd : Nat} (known : fd < s.sockets.length) (offered : Bytes) (count : Nat) :
    (s.accept fd offered count).streamOf fd = s.streamOf fd ++ offered.take count := by
  simp [TcpState.accept, TcpState.streamOf, List.getElem?_eq_getElem known]

theorem accept_streamOf_other {s : TcpState} {fd other : Nat} (apart : other ≠ fd) (offered : Bytes) (count : Nat) :
    (s.accept fd offered count).streamOf other = s.streamOf other := by
  simp [TcpState.accept, TcpState.streamOf, apart.symm]

theorem sendLoop_effect (fd : Nat) (request before : Bytes) (outcomes : List SendOutcome) {total : Nat} {s : TcpState}
    (known : fd < s.sockets.length) (within : total ≤ request.length)
    (stream : s.streamOf fd = before ++ request.take total) :
    LoopEffect fd request s before (sendLoop fd request outcomes total s) := by
  induction outcomes generalizing total s with
  | nil =>
    unfold sendLoop
    split
    · rename_i done
      exact ⟨rfl, rfl, rfl, within, stream, fun _ _ => rfl, fun _ => Nat.le_antisymm within done⟩
    · exact ⟨rfl, rfl, rfl, within, stream, fun _ _ => rfl, by rintro ⟨⟩⟩
  | cons outcome rest ih =>
    unfold sendLoop
    split
    · rename_i done
      exact ⟨rfl, rfl, rfl, within, stream, fun _ _ => rfl, fun _ => Nat.le_antisymm within done⟩
    · cases outcome with
      | accepted count =>
        have grown : (s.accept fd (request.drop total) (min count (request.length - total))).streamOf fd =
            before ++ request.take (total + min count (request.length - total)) := by
          rw [accept_streamOf known, stream, List.take_add, List.append_assoc]
        obtain ⟨client, calls, length, bound, stream, others, complete⟩ :=
          ih (s := s.accept fd (request.drop total) (min count (request.length - total)))
            (by simpa [TcpState.accept] using known) (by omega) grown
        exact ⟨client, calls, by simpa [TcpState.accept] using length, bound, stream,
          fun other apart => (others other apart).trans (accept_streamOf_other apart _ _), complete⟩
      | eintr => exact ih known within stream
      | connectionLost => exact ⟨rfl, rfl, rfl, within, stream, fun _ _ => rfl, by rintro ⟨⟩⟩
      | wouldBlock writable =>
        cases writable with
        | true => exact ih known within stream
        | false => exact ⟨rfl, rfl, rfl, within, stream, fun _ _ => rfl, by rintro ⟨⟩⟩
      | otherError => exact ⟨rfl, rfl, rfl, within, stream, fun _ _ => rfl, by rintro ⟨⟩⟩

theorem sendLoop_unbroken (fd : Nat) (request : Bytes) (outcomes : List SendOutcome) {total : Nat} (s : TcpState)
    (unbroken : Unbroken request.length outcomes total)
    (stopped : (sendLoop fd request outcomes total s).1 = .stopped) :
    (sendLoop fd request outcomes total s).2.1 = 0 := by
  induction outcomes generalizing total s with
  | nil => unfold sendLoop at stopped; split at stopped <;> cases stopped
  | cons outcome rest ih =>
    unfold sendLoop at stopped ⊢
    split at stopped
    · cases stopped
    · rename_i more
      rw [if_neg more]
      cases outcome with
      | accepted count =>
        rcases unbroken with full | unbroken
        · unfold sendLoop at stopped
          cases rest <;> simp [full] at stopped
        · exact ih _ unbroken stopped
      | eintr => exact ih s unbroken stopped
      | connectionLost => cases stopped
      | wouldBlock writable =>
        cases writable with
        | true => exact ih s unbroken stopped
        | false => exact unbroken
      | otherError => exact unbroken

/-! ### Whole calls -/

/-- What holds between calls: besides the framing, a connection in use carries whole requests only. -/
structure Sound (serverIp : CharBuf 16) (s : TcpState) : Prop extends s.Framed where
  server : s.client.serverIp = serverIp
  buffer : s.client.sendBuffer = []
  known : ∀ call ∈ s.calls, call.socket < s.sockets.length
  bound : ∀ fd, s.client.sockFd = some fd → fd < s.sockets.length
  live : ∀ fd, s.client.sockFd = some fd → s.client.isConnected → ∀ call ∈ s.sentOn fd, call.Complete

theorem sentOn_unknown {s : TcpState} (known : ∀ call ∈ s.calls, call.socket < s.sockets.length) {fd : Nat}
    (beyond : s.sockets.length ≤ fd) : s.sentOn fd = [] := by
  unfold TcpState.sentOn
  rw [List.filter_eq_nil_iff]
  intro call member
  have := known call member
  simp only [decide_eq_true_eq]
  omega

theorem sentOn_quiet {s t : TcpState} (calls : t.calls = s.calls) (fd : Nat) : t.sentOn fd = s.sentOn fd := by
  unfold TcpState.sentOn
  rw [calls]

theorem sound_quiet {s t : TcpState} (sound : Sound serverIp s) (quiet : Quiet s t) : Sound serverIp t := by
  obtain ⟨buffer, server, -, calls, grows, streams, current, live⟩ := quiet sound.buffer
  have same := sentOn_quiet calls
  refine ⟨⟨?_, ?_, ?_⟩, server.trans sound.server, buffer, ?_, ?_, ?_⟩
  · rw [calls, server]
    exact sound.requests
  · intro fd
    rw [streams, same]
    exact sound.stream fd
  · intro fd
    rw [same]
    exact sound.whole fd
  · rw [calls]
    exact fun call member => (sound.known call member).trans_le grows
  · intro fd opened
    rcases current fd opened with older | ⟨-, fresh⟩
    · exact (sound.bound fd older).trans_le grows
    · exact fresh
  · intro fd opened up
    rw [same]
    rcases live fd opened up with ⟨older, still⟩ | fresh
    · exact sound.live fd older still
    · rw [sentOn_unknown sound.known fresh]
      simp

theorem sentOn_append_none {s t : TcpState} {call : SendCall} {fd : Nat} (calls : t.calls = s.calls ++ [call])
    (skipped : call.socket ≠ fd ∨ call.accepted = 0) : t.sentOn fd = s.sentOn fd := by
  unfold TcpState.sentOn
  rw [calls, List.filter_append, List.filter_singleton]
  rcases skipped with apart | nothing
  · simp [apart]
  · simp [nothing]

theorem sentOn_append_some {s t : TcpState} {call : SendCall} (calls : t.calls = s.calls ++ [call])
    (some_ : 0 < call.accepted) : t.sentOn call.socket = s.sentOn call.socket ++ [call] := by
  unfold TcpState.sentOn
  rw [calls, List.filter_append, List.filter_singleton]
  simp [some_]

structure Extends (s t : TcpState) (call : SendCall) : Prop where
  client : t.client = s.client
  calls : t.calls = s.calls ++ [call]
  length : t.sockets.length = s.sockets.length
  stream : t.streamOf call.socket = s.streamOf call.socket ++ call.bytes
  others : ∀ other ≠ call.socket, t.streamOf other = s.streamOf other

section
variable {s t : TcpState} {call : SendCall}

theorem Extends.framed (grown : Extends s t call) (sound : Sound serverIp s) (up : s.client.isConnected)
    (opened : s.client.sockFd = some call.socket) (within : call.accepted ≤ call.request.length)
    (formed : ∃ data, call.request = httpRequest s.client.serverIp data) : t.Framed := by
  obtain ⟨client, calls, length, stream, others⟩ := grown
  refine ⟨?_, ?_, ?_⟩
  · rw [calls, client]
    intro other member
    rcases List.mem_append.mp member with older | newest
    · exact sound.requests other older
    · obtain rfl := List.mem_singleton.mp newest
      exact ⟨within, formed⟩
  · intro fd
    by_cases same : fd = call.socket
    · subst same
      rcases Nat.eq_zero_or_pos call.accepted with nothing | some_
      · rw [sentOn_append_none calls (.inr nothing), stream, sound.stream]
        simp [SendCall.bytes, nothing]
      · rw [sentOn_append_some calls some_, stream, sound.stream]
        simp
    · rw [sentOn_append_none calls (.inl (Ne.symm same)), others fd same]
      exact sound.stream fd
  · intro fd other member
    by_cases same : fd = call.socket
    · subst same
      rcases Nat.eq_zero_or_pos call.accepted with nothing | some_
      · rw [sentOn_append_none calls (.inr nothing)] at member
        exact sound.whole _ other member
      · rw [sentOn_append_some calls some_, List.dropLast_concat] at member
        exact sound.live _ opened up other member
    · rw [sentOn_append_none calls (.inl (Ne.symm same))] at member
      exact sound.whole fd other member

theorem Extends.sound (grown : Extends s t call) (sound : Sound serverIp s) (framed : t.Framed)
    (opened : s.client.sockFd = some call.socket) (up : Bool) (still : up → s.client.isConnected)
    (whole : up → call.accepted = 0 ∨ call.Complete) :
    Sound serverIp { t with client := { t.client with isConnected := up } } := by
  obtain ⟨client, calls, length, stream, others⟩ := grown
  have bounded := sound.bound call.socket opened
  refine ⟨⟨framed.requests, framed.stream, framed.whole⟩, ?_, ?_, ?_, ?_, ?_⟩
  · show t.client.serverIp = serverIp
    rw [client]
    exact sound.server
  · show t.client.sendBuffer = []
    rw [client]
    exact sound.buffer
  · show ∀ other ∈ t.calls, other.socket < t.sockets.length
    rw [calls, length]
    intro other member
    rcases List.mem_append.mp member with older | newest
    · exact sound.known other older
    · obtain rfl := List.mem_singleton.mp newest
      exact bounded
  · show ∀ fd, t.client.sockFd = some fd → fd < t.sockets.length
    rw [client, length]
    exact sound.bound
  · intro fd current live other member
    replace current : t.client.sockFd = some fd := current
    replace member : other ∈ t.sentOn fd := member
    rw [client, opened] at current
    obtain rfl := Option.some.inj current
    have complete := sound.live _ opened (still live)
    rcases whole live with nothing | whole
    · rw [sentOn_append_none calls (.inr nothing)] at member
      exact complete other member
    · rcases Nat.eq_zero_or_pos call.accepted with nothing | some_
      · rw [sentOn_append_none calls (.inr nothing)] at member
        exact complete other member
      · rw [sentOn_append_some calls some_] at member
        rcases List.mem_append.mp member with older | newest
        · exact complete other older
        · obtain rfl := List.mem_singleton.mp newest
          exact whole

end

theorem sound_ends {α : Type} {s : TcpState} {outcome : Option α × TcpState} (sound : Sound serverIp s)
    (quiet : Quiet s outcome.2) : Ends (Sound serverIp) TcpState.Framed outcome :=
  ends_of (fun _ sound => sound.toFramed) (sound_quiet sound quiet)

theorem transmit_ends {s : TcpState} {request : Bytes} (sound : Sound serverIp s) (up : s.client.isConnected)
    (formed : ∃ data, request = httpRequest serverIp data)
    (unbroken : Unbroken request.length s.kernel.sends 0) :
    Ends (Sound serverIp) TcpState.Framed (transmit flush request s) := by
  unfold transmit
  split
  · exact sound
  · rename_i fd opened
    have effect := sendLoop_effect fd request (s.streamOf fd) s.kernel.sends (sound.bound fd opened)
      (Nat.zero_le _) (by simp)
    have nothing := sendLoop_unbroken fd request s.kernel.sends s unbroken
    generalize sendLoop fd request s.kernel.sends 0 s = result at effect nothing ⊢
    obtain ⟨ended, total, t⟩ := result
    obtain ⟨client, calls, length, bound, stream, others, complete⟩ := effect
    simp only at client calls length bound stream others complete nothing ⊢
    have grown : Extends s { t with calls := t.calls ++ [⟨fd, request, total⟩] } ⟨fd, request, total⟩ :=
      ⟨client, by simp [calls], length, stream, others⟩
    have framed := grown.framed sound up opened bound (sound.server ▸ formed)
    have whole (still : total = 0 ∨ total = request.length) :
        Sound serverIp { t with calls := t.calls ++ [⟨fd, request, total⟩] } := by
      exact grown.sound sound framed opened t.client.isConnected (fun _ => up) fun _ => still
    cases ended with
    | pending => exact framed
    | complete => exact sound_ends (whole (.inr (complete rfl))) (quiet_client rfl rfl rfl id)
    | stopped => exact whole (.inl (nothing rfl))
    | connectionLost =>
      have down := grown.sound sound framed opened false (by simp) (by simp)
      refine bind_ends (I := Sound serverIp) ?_ fun _ u _ down => ?_
      · exact sound_quiet down (quiet_client rfl rfl rfl id)
      · rw [get_bind]
        split
        · exact sound_ends down (quiet_bind (tcpClientReconnect_quiet flush u) fun _ t => quiet_refl t)
        · exact down

theorem tcpClientSend_ends {s : TcpState} {data : Bytes} (sound : Sound serverIp s)
    (unbroken : Unbroken (httpRequest serverIp data).length s.kernel.sends 0) :
    Ends (Sound serverIp) TcpState.Framed (tcpClientSend flush data s) := by
  have send (t : TcpState) (quiet : Quiet s t) :
      Ends (Sound serverIp) TcpState.Framed
        ((if ¬ t.client.isConnected then pure (-1)
          else if (httpRequest t.client.serverIp data).length ≥ HTTP_BUF_SIZE then pure (-1)
          else transmit flush (httpRequest t.client.serverIp data) : Tcp Int) t) := by
    have sound' := sound_quiet sound quiet
    rw [sound'.server]
    split
    · exact sound'
    · rename_i up
      split
      · exact sound'
      · exact transmit_ends flush sound' (by simpa using up) ⟨data, rfl⟩ ((quiet sound.buffer).sends ▸ unbroken)
  unfold tcpClientSend
  split
  · exact sound
  · rw [get_bind]
    split
    · refine bind_ends (I := fun t => Quiet s t) ?_ fun _ t _ quiet => send t quiet
      exact ends_of (fun t quiet => (sound_quiet sound quiet).toFramed) (tcpClientReconnect_quiet flush s)
    · exact send s (quiet_refl s)

end

/-! ### Runs -/

def TcpCall.Unbroken (serverIp : CharBuf 16) (call : TcpCall) : Prop :=
  match call.op with
  | .send data => Probe.Unbroken (httpRequest serverIp data).length call.kernel.sends 0
  | .sendLine line => Probe.Unbroken (httpRequest serverIp line.bytes).length call.kernel.sends 0
  | _ => True

instance (serverIp : CharBuf 16) : (call : TcpCall) → Decidable (call.Unbroken serverIp)
  | ⟨.send data, kernel⟩ =>
    inferInstanceAs (Decidable (Probe.Unbroken (httpRequest serverIp data).length kernel.sends 0))
  | ⟨.sendLine line, kernel⟩ =>
    inferInstanceAs (Decidable (Probe.Unbroken (httpRequest serverIp line.bytes).length kernel.sends 0))
  | ⟨.connect, _⟩ | ⟨.disconnect, _⟩ | ⟨.reconnect, _⟩ | ⟨.flush, _⟩ | ⟨.isConnected, _⟩ => isTrue trivial

section
variable {serverIp : CharBuf 16}

theorem sound_kernel {s : TcpState} (sound : Sound serverIp s) (kernel : Kernel) :
    Sound serverIp { s with kernel } :=
  ⟨⟨sound.requests, sound.stream, sound.whole⟩, sound.server, sound.buffer, sound.known, sound.bound, sound.live⟩

theorem perform_ends (depth : Nat) (call : TcpCall) (unbroken : call.Unbroken serverIp) {s : TcpState}
    (sound : Sound serverIp s) : Ends (Sound serverIp) TcpState.Framed (call.perform depth s) := by
  obtain ⟨op, kernel⟩ := call
  unfold TcpCall.perform
  rw [modify_bind]
  have loaded := sound_kernel sound kernel
  have quiet {α : Type} {m : Tcp α} (silent : ∀ t, Quiet t (m t).2) :
      Ends (Sound serverIp) TcpState.Framed ((m >>= fun _ => pure ()) { s with kernel }) :=
    sound_ends loaded (quiet_bind (silent _) fun _ t => quiet_refl t)
  have sending {data : Bytes} (unbroken : Unbroken (httpRequest serverIp data).length kernel.sends 0) :
      Ends (Sound serverIp) TcpState.Framed
        ((tcpClientSend (tcpClientFlush depth) data >>= fun _ => pure ()) { s with kernel }) :=
    bind_ends (tcpClientSend_ends (tcpClientFlush depth) loaded unbroken) fun _ _ _ sound => sound
  cases op with
  | connect => exact quiet tcpClientConnect_quiet
  | disconnect => exact sound_ends loaded (tcpClientDisconnect_quiet (tcpClientFlush depth) _)
  | reconnect => exact quiet (tcpClientReconnect_quiet (tcpClientFlush depth))
  | send data => exact sending unbroken
  | sendLine line => exact sending unbroken
  | flush => exact quiet (tcpClientFlush_quiet (depth + 1))
  | isConnected => exact quiet tcpClientIsConnected_quiet

end

theorem sound_init {serverIp : CStr} {serverPort : Int} {autoReconnect : Bool} {client : TcpClient}
    (created : tcpClientInit serverIp serverPort autoReconnect = some client) :
    Sound client.serverIp { client } := by
  unfold tcpClientInit at created
  split at created
  · cases created
  · cases created
    refine ⟨⟨?_, ?_, ?_⟩, rfl, rfl, ?_, ?_, ?_⟩ <;> simp [TcpState.streamOf, TcpState.sentOn]

/-- In every run whose sends are not stopped inside a request, every socket carries whole requests and at most one
that is cut short, at its end. -/
theorem requests_stay_framed (serverIp : CStr) (serverPort : Int) (autoReconnect : Bool) (client : TcpClient)
    (created : tcpClientInit serverIp serverPort autoReconnect = some client) (depth : Nat) (calls : List TcpCall)
    (unbroken : ∀ call ∈ calls, call.Unbroken client.serverIp) :
    (tcpRun depth calls { client }).2.Framed := by
  refine ends_any (I := Sound client.serverIp) (fun _ sound => sound.toFramed) ?_
  refine forM_ends calls (fun call member s sound => ?_) (sound_init created)
  exact perform_ends depth call (unbroken call member) sound

def relayClient : TcpClient :=
  { serverIp := .strncpy (ascii "10.0.0.1"), serverPort := 8080, autoReconnect := true }

def lostConnection : List TcpCall :=
  [⟨.connect, { connects := [.connected] }⟩,
   ⟨.send (ascii "[1]"),
    { clocks := [5]
      connects := [.inProgress .connected]
      sends := [.accepted 20, .eintr, .wouldBlock true, .accepted 7, .connectionLost] }⟩,
   ⟨.send (ascii "[2]"), { sends := [.accepted 100, .accepted 200] }⟩]

theorem lost_connection_stays_framed : (tcpRun 0 lostConnection { client := relayClient }).2.Framed :=
  requests_stay_framed (.ofBytes (ascii "10.0.0.1")) 8080 true relayClient rfl 0 lostConnection (by decide +kernel)

-- The kernel takes ten bytes and no more for five seconds; the next send goes out on the same socket.
def stalledConnection : List TcpCall :=
  [⟨.connect, { connects := [.connected] }⟩,
   ⟨.send (ascii "[1]"), { sends := [.accepted 10, .wouldBlock false] }⟩,
   ⟨.send (ascii "[2]"), { sends := [.accepted 200] }⟩]

theorem stalled_send_breaks_framing :
    tcpClientInit (.ofBytes (ascii "10.0.0.1")) 8080 true = some relayClient ∧
      ¬ (tcpRun 0 stalledConnection { client := relayClient }).2.Framed := by
  refine ⟨rfl, fun framed => ?_⟩
  have first : ⟨0, httpRequest relayClient.serverIp (ascii "[1]"), 10⟩ ∈
      ((tcpRun 0 stalledConnection { client := relayClient }).2.sentOn 0).dropLast := by decide +kernel
  have whole : 10 = (httpRequest relayClient.serverIp (ascii "[1]")).length := framed.whole 0 _ first
  revert whole
  decide +kernel

end StbEbpf.Probe
