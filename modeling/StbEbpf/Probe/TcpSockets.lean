import StbEbpf.Probe.TcpReconnect

/-!
The sockets of the client. `sock_fd` is the only handle on a socket, so that a socket is closed in time exactly as
long as nothing overwrites the descriptor of one that is open.
-/

namespace StbEbpf.Probe
open CText Program

/-- The open socket, if there is one, is the one in `sock_fd`, and no socket has been closed twice. -/
structure TcpState.Owned (s : TcpState) : Prop where
  once : ∀ socket ∈ s.sockets, socket.closes ≤ 1
  held : ∀ fd socket, s.sockets[fd]? = some socket → (socket.closes = 0 ↔ s.client.sockFd = some fd)
  known : ∀ fd, s.client.sockFd = some fd → fd < s.sockets.length
  connected : s.client.isConnected → s.client.sockFd.isSome

section
variable {s t : TcpState}

theorem owned_of_closes (owned : s.Owned) (sockFd : t.client.sockFd = s.client.sockFd)
    (up : t.client.isConnected → s.client.isConnected)
    (closes : t.sockets.map Socket.closes = s.sockets.map Socket.closes) : t.Owned := by
  have counterpart (fd : Nat) (socket : Socket) (here : t.sockets[fd]? = some socket) :
      ∃ before, s.sockets[fd]? = some before ∧ before.closes = socket.closes := by
    have same := congrArg (fun counts => counts[fd]?) closes
    simpa [here, eq_comm] using same
  refine ⟨?_, ?_, ?_, ?_⟩
  · intro socket member
    obtain ⟨fd, here⟩ := List.mem_iff_getElem?.mp member
    obtain ⟨before, there, same⟩ := counterpart fd socket here
    exact same ▸ owned.once before (List.mem_of_getElem? there)
  · intro fd socket here
    obtain ⟨before, there, same⟩ := counterpart fd socket here
    rw [sockFd, ← same]
    exact owned.held fd before there
  · have length : t.sockets.length = s.sockets.length := by simpa using congrArg List.length closes
    rw [sockFd, length]
    exact owned.known
  · intro connected
    rw [sockFd]
    exact owned.connected (up connected)

theorem release_owned (owned : s.Owned) : s.release.Owned := by
  cases opened : s.client.sockFd with
  | none =>
    have same : s.release = { s with client := { s.client with isConnected := false } } := by
      simp [TcpState.release, closeSocket, opened]
    rw [same]
    exact owned_of_closes owned rfl (by simp) rfl
  | some fd =>
    have closed : s.release =
        { s with
          client := { s.client with sockFd := none, isConnected := false }
          sockets := s.sockets.modify fd fun socket => { socket with closes := socket.closes + 1 } } := by
      simp [TcpState.release, closeSocket, opened]
    rw [closed]
    have entry (i : Nat) (socket : Socket)
        (here : (s.sockets.modify fd fun socket => { socket with closes := socket.closes + 1 })[i]? = some socket) :
        socket.closes = 1 := by
      rw [List.getElem?_modify] at here
      obtain ⟨before, there, rfl⟩ := Option.map_eq_some_iff.mp here
      have held := owned.held i before there
      have bound := owned.once before (List.mem_of_getElem? there)
      rw [opened] at held
      by_cases same : fd = i
      · simp [same, held.mpr (by rw [same])]
      · have used : before.closes ≠ 0 := fun zero => same (Option.some.inj (held.mp zero))
        simp [same]
        omega
    refine ⟨?_, ?_, by simp, by simp⟩
    · intro socket member
      obtain ⟨i, here⟩ := List.mem_iff_getElem?.mp member
      exact (entry i socket here).le
    · intro i socket here
      simp [entry i socket here]

/-- With no descriptor to lose, connecting leaves the new socket in `sock_fd` or closed. -/
theorem dial_owned (owned : s.Owned) (closed : s.client.sockFd = none) (down : s.client.isConnected = false)
    (outcome : ConnectOutcome) : (s.dial outcome).Owned := by
  have older (i : Nat) (socket : Socket) (here : s.sockets[i]? = some socket) : socket.closes ≠ 0 := by
    intro zero
    have held := (owned.held i socket here).mp zero
    rw [closed] at held
    cases held
  have grown (more : Socket) (fd : Option Nat) (once : more.closes ≤ 1)
      (held : more.closes = 0 ↔ fd = some s.sockets.length) (none_ : more.closes ≠ 0 → fd = none) (up : Bool)
      (connected : up → fd.isSome) :
      TcpState.Owned
        { s with client := { s.client with sockFd := fd, isConnected := up }, sockets := s.sockets ++ [more] } := by
    refine ⟨?_, ?_, ?_, connected⟩
    · intro socket member
      rcases List.mem_append.mp member with before | newest
      · exact owned.once socket before
      · obtain rfl := List.mem_singleton.mp newest
        exact once
    · intro i socket here
      rcases Nat.lt_trichotomy i s.sockets.length with old | rfl | beyond
      · rw [List.getElem?_append_left old] at here
        refine iff_of_false (older i socket here) fun same => ?_
        by_cases zero : more.closes = 0
        · exact old.ne (Option.some.inj (same.symm.trans (held.mp zero)))
        · rw [none_ zero] at same
          cases same
      · simp only [List.getElem?_concat_length, Option.some.injEq] at here
        subst here
        exact held
      · rw [List.getElem?_eq_none (by simp; omega)] at here
        cases here
    · intro i opened
      by_cases zero : more.closes = 0
      · have : i = s.sockets.length := Option.some.inj (opened.symm.trans (held.mp zero))
        simp [this]
      · rw [show fd = none from none_ zero] at opened
        cases opened
  unfold TcpState.dial
  split
  · exact owned_of_closes owned closed.symm id rfl
  · split
    · exact grown {} (some s.sockets.length) (by simp) (by simp) (by simp) true (by simp)
    · exact grown { closes := 1 } none (by simp) (by simp) (by simp) s.client.isConnected (by simp [down])

/-! ### Calls -/

/-- Between calls, with nothing waiting to be sent. -/
structure Tidy (s : TcpState) : Prop extends s.Owned where
  buffer : s.client.sendBuffer = []

theorem tidy_frame (tidy : Tidy s) (frame : SendFrame s t) : Tidy t :=
  ⟨owned_of_closes tidy.toOwned frame.sockFd frame.up frame.closes, frame.buffer.trans tidy.buffer⟩

theorem redial_owned (owned : s.Owned) (now : UInt64) (clocks : List UInt64) (outcome : ConnectOutcome)
    (connects : List ConnectOutcome) : (s.redial now clocks outcome connects).Owned := by
  have stamped : ((s.ticked clocks).stamped now).Owned := owned_of_closes owned rfl id rfl
  have released : (((s.ticked clocks).stamped now).release.answered connects).Owned :=
    owned_of_closes (release_owned stamped) rfl id rfl
  refine dial_owned released (release_sockFd _) ?_ outcome
  show ((s.ticked clocks).stamped now).release.client.isConnected = false
  rw [release_client]

theorem tcpClientReconnect_tidy (flush : Tcp Int) (tidy : Tidy s) :
    Ends (fun t => Tidy t ∨ Tidy t ∧ t.client.isConnected = s.client.isConnected) (fun _ => True)
      (tcpClientReconnect flush s) := by
  have buffer := (tcpClientReconnect_quiet flush s tidy.buffer).buffer
  have cases_ := tcpClientReconnect_cases flush tidy.buffer
  generalize tcpClientReconnect flush s = outcome at buffer cases_
  cases cases_ with
  | disabled => exact .inl tidy
  | unread | unanswered => exact trivial
  | early | spent => exact .inl ⟨owned_of_closes tidy.toOwned rfl id rfl, buffer⟩
  | succeeded | failed => exact .inl ⟨owned_of_closes (redial_owned tidy.toOwned _ _ _ _) rfl id rfl, buffer⟩

theorem release_tidy (tidy : Tidy s) : Tidy s.release :=
  ⟨release_owned tidy.toOwned, by rw [release_client]; exact tidy.buffer⟩

/-- Calling `tcp_client_connect` now loses no open socket: it opens none, does not get that far, or nothing is open. -/
def TcpState.MayConnect (s : TcpState) (call : TcpCall) : Prop :=
  call.op = .connect → call.kernel.connects ≠ [] → s.client.isConnected ∨ s.client.sockFd = none

theorem tcpClientConnect_tidy (tidy : Tidy s)
    (free : s.kernel.connects ≠ [] → s.client.isConnected ∨ s.client.sockFd = none) :
    Ends Tidy (fun _ => True) (tcpClientConnect s) := by
  have buffer := (tcpClientConnect_quiet s tidy.buffer).buffer
  cases down : s.client.isConnected with
  | true =>
    rw [tcpClientConnect_up down]
    exact tidy
  | false =>
    rcases connects : s.kernel.connects with _ | ⟨outcome, rest⟩
    · rw [tcpClientConnect_waits down connects]
      exact trivial
    · have closed : s.client.sockFd = none := by simpa [down, connects] using free
      have dialled : ((s.answered rest).dial outcome).Owned :=
        dial_owned (s := s.answered rest) (owned_of_closes tidy.toOwned rfl id rfl) closed down outcome
      rw [tcpClientConnect_eq down connects] at buffer ⊢
      cases established : outcome.established with
      | true =>
        rw [established] at buffer
        exact ⟨owned_of_closes dialled rfl id rfl, buffer⟩
      | false =>
        rw [established] at buffer
        exact ⟨dialled, buffer⟩

theorem perform_tidy (depth : Nat) (call : TcpCall) (tidy : Tidy s) (free : s.MayConnect call) :
    Ends Tidy (fun _ => True) (call.perform depth s) := by
  have loaded : Tidy { s with kernel := call.kernel } := ⟨owned_of_closes tidy.toOwned rfl id rfl, tidy.buffer⟩
  by_cases connects : call.op = .connect
  · obtain ⟨op, kernel⟩ := call
    obtain rfl : op = .connect := connects
    exact bind_ends (m := tcpClientConnect) (tcpClientConnect_tidy loaded (free rfl)) fun _ _ _ tidy => tidy
  · exact perform_returns (P := Tidy) (fun _ _ => tidy_frame) (fun _ => id) depth
      (fun _ => tcpClientReconnect_tidy _) (fun _ => Tidy.buffer) (fun _ => release_tidy) call connects loaded

/-- A connect that is not free to open a socket leaves the old one open and out of reach. -/
theorem connect_leaks (depth : Nat) (call : TcpCall) (owned : s.Owned) (leaks : ¬ s.MayConnect call) :
    ∃ u, call.perform depth s = (some (), u) ∧ ¬ u.Owned := by
  unfold TcpState.MayConnect at leaks
  push Not at leaks
  obtain ⟨op, some_, down, opened⟩ := leaks
  obtain ⟨fd, opened⟩ := Option.ne_none_iff_exists'.mp opened
  obtain ⟨outcome, rest, connects⟩ := List.exists_cons_of_ne_nil some_
  have inside := owned.known fd opened
  have zero : s.sockets[fd].closes = 0 := (owned.held fd _ (List.getElem?_eq_getElem inside)).mpr opened
  have lost (more : List Socket) (client : TcpClient) (kernel : Kernel) (apart : client.sockFd ≠ some fd) :
      ¬ ({ s with client, kernel, sockets := s.sockets ++ more } : TcpState).Owned := by
    intro owned
    refine apart ((owned.held fd s.sockets[fd] ?_).mp zero)
    rw [List.getElem?_append_left inside, List.getElem?_eq_getElem inside]
  have dialled (f : TcpClient → TcpClient) (same : ∀ client, (f client).sockFd = client.sockFd) :
      ¬ ((({ s with kernel := call.kernel } : TcpState).answered rest).dial outcome |>.withClient f).Owned := by
    unfold TcpState.dial
    split
    · have gone := lost [] (f { s.client with sockFd := none }) { call.kernel with connects := rest } (by simp [same])
      simpa [TcpState.withClient, TcpState.answered] using gone
    · split
      · exact lost [{}] _ _ (by simp [same, TcpState.answered]; omega)
      · exact lost [{ closes := 1 }] _ _ (by simp [same])
  have connected := tcpClientConnect_eq (s := { s with kernel := call.kernel }) (by simpa using down) connects
  have performed : call.perform depth s =
      (do let _ ← tcpClientConnect : Tcp Unit) { s with kernel := call.kernel } := by
    unfold TcpCall.perform
    rw [modify_bind, op]
    rfl
  rw [performed]
  cases established : outcome.established with
  | true =>
    rw [established, if_pos rfl] at connected
    rw [bind_some connected]
    exact ⟨_, rfl, dialled .connected fun _ => rfl⟩
  | false =>
    rw [established, if_neg (by simp)] at connected
    rw [bind_some connected]
    exact ⟨_, rfl, dialled id fun _ => rfl⟩

end

theorem tidy_init {serverIp : CStr} {serverPort : Int} {autoReconnect : Bool} {client : TcpClient}
    (created : tcpClientInit serverIp serverPort autoReconnect = some client) : Tidy { client } := by
  unfold tcpClientInit at created
  split at created
  · cases created
  · cases created
    exact ⟨⟨by simp, by simp, by simp, by simp⟩, rfl⟩

/-- Wherever a run of calls has returned the sockets are in order, exactly as long as `tcp_client_connect` is never
made to open a socket while `sock_fd` still holds that of a connection given up. -/
theorem sockets_owned_iff (serverIp : CStr) (serverPort : Int) (autoReconnect : Bool) (client : TcpClient)
    (created : tcpClientInit serverIp serverPort autoReconnect = some client) (depth : Nat) (calls : List TcpCall) :
    (∀ before after, calls = before ++ after →
      ∀ s, tcpRun depth before { client } = (some (), s) → s.Owned) ↔
    ∀ before call after, calls = before ++ call :: after →
      ∀ s, tcpRun depth before { client } = (some (), s) → s.MayConnect call := by
  constructor
  · intro owned before call after split s run
    by_contra leaks
    obtain ⟨u, returns, lost⟩ := connect_leaks depth call (owned before (call :: after) split s run) leaks
    have longer : calls = (before ++ [call]) ++ after := by simp [split]
    exact lost (owned _ after longer u ((forM_concat before call).mpr ⟨s, run, returns⟩))
  · intro free before after split s run
    refine (forM_reaches (I := Tidy) (tidy_init created) ?_ before after split s run).toOwned
    intro before call after t u split run tidy returns
    have kept := perform_tidy depth call tidy (free before call after split t run)
    rw [returns] at kept
    exact kept

def connectedTwice : List TcpCall :=
  [⟨.connect, { connects := [.connected] }⟩, ⟨.isConnected, { peeks := [.closed] }⟩,
   ⟨.connect, { connects := [.connected] }⟩]

theorem second_connect_leaks_socket :
    tcpClientInit (.ofBytes (ascii "10.0.0.1")) 8080 true = some relayClient ∧
      ∃ s, tcpRun 0 connectedTwice { client := relayClient } = (some (), s) ∧ ¬ s.Owned := by
  refine ⟨rfl, _, rfl, fun owned => ?_⟩
  have open_ : (0 : Nat) = 0 ↔ some 1 = some 0 := owned.held 0 {} rfl
  exact absurd (open_.mp rfl) (by decide)

theorem lostConnection_owned :
    tcpClientInit (.ofBytes (ascii "10.0.0.1")) 8080 true = some relayClient ∧
      ∀ before after, lostConnection = before ++ after →
        ∀ s, tcpRun 0 before { client := relayClient } = (some (), s) → s.Owned := by
  refine ⟨rfl, (sockets_owned_iff (.ofBytes (ascii "10.0.0.1")) 8080 true relayClient rfl 0 lostConnection).mpr ?_⟩
  intro before call after split s run op _
  cases before with
  | nil =>
    cases run
    exact .inr rfl
  | cons first before =>
    have later : call ∈ lostConnection.tail := by
      rw [split]
      simp
    have never : ∀ call ∈ lostConnection.tail, call.op ≠ .connect := by simp [lostConnection]
    exact absurd op (never call later)

end StbEbpf.Probe
