import StbEbpf.Probe.TcpReconnect

/-!
The pace of reconnecting. The client only keeps a count, a delay and the time of the last reconnect; the attempts it
made are a log beside the run, and the three fields are read as what they say about that log.
-/

namespace StbEbpf.Probe
open CText Program

structure Attempt where
  time : UInt64
  outcome : ConnectOutcome

/-- What has been read of a script. -/
def consumed {α : Type} (script left : List α) : List α := script.take (script.length - left.length)

/-- The attempts that `tcp_client_reconnect` made inside a call. Every reconnect reads the clock once, and reads one
outcome of a connect if it gets that far; one that does not is the last of its call, since `tcp_client_send` goes on
only if it is connected. So the readings and the outcomes belong together in order. -/
def TcpCall.attempts (depth : Nat) (call : TcpCall) (s : TcpState) : List Attempt :=
  let left := (call.perform depth s).2.kernel
  List.zipWith Attempt.mk (consumed call.kernel.clocks left.clocks) (consumed call.kernel.connects left.connects)

def attemptsOf (depth : Nat) : TcpState → List TcpCall → List Attempt
  | _, [] => []
  | s, call :: rest => call.attempts depth s ++ attemptsOf depth (call.perform depth s).2 rest

/-- How many of the last attempts failed in a row. -/
def failures (log : List Attempt) : Nat :=
  (log.reverse.takeWhile fun attempt => ¬ attempt.outcome.established).length

def backoffMs (retries : Nat) : Nat := min (1000 * 2 ^ retries) 30000

theorem failures_concat (log : List Attempt) (attempt : Attempt) :
    failures (log ++ [attempt]) = if attempt.outcome.established then 0 else failures log + 1 := by
  cases established : attempt.outcome.established <;> simp [failures, established]

theorem calculateBackoffDelay_eq {retries : Nat} (few : retries ≤ 10) :
    calculateBackoffDelay retries RECONNECT_INITIAL_DELAY_MS RECONNECT_MAX_DELAY_MS = backoffMs retries := by
  have all : ∀ retries < 11,
      calculateBackoffDelay retries RECONNECT_INITIAL_DELAY_MS RECONNECT_MAX_DELAY_MS = backoffMs retries := by decide
  exact all retries (by omega)

theorem ofInt_backoffMs {retries : Nat} (few : retries ≤ 10) :
    (UInt64.ofInt (backoffMs retries)).toNat = backoffMs retries := by
  have all : ∀ retries < 11, (UInt64.ofInt (backoffMs retries)).toNat = backoffMs retries := by decide
  exact all retries (by omega)

/-- Each attempt comes at least the delay after the one before. -/
def Spaced (log : List Attempt) : Prop :=
  ∀ before first second after, log = before ++ first :: second :: after →
    first.time.toNat + backoffMs (failures (before ++ [first])) ≤ second.time.toNat

/-- The client after the attempts of `log`, with these clock readings still to come. -/
structure Paced (log : List Attempt) (readings : List UInt64) (s : TcpState) : Prop where
  buffer : s.client.sendBuffer = []
  retries : s.client.reconnectRetries = failures log
  few : failures log ≤ 10
  delay : s.client.reconnectDelayMs = backoffMs (failures log)
  spaced : Spaced log
  fresh : log = [] → s.client.lastReconnectTime = 0
  -- A reconnect that finds the retries used up moves the time on without an attempt.
  latest : ∀ attempt, log.getLast? = some attempt → 0 < attempt.time ∧ attempt.time ≤ s.client.lastReconnectTime ∧
    (failures log < 10 → s.client.lastReconnectTime = attempt.time)
  ordered : readings.Pairwise (· ≤ ·)
  ahead : ∀ now ∈ readings, 0 < now ∧ s.client.lastReconnectTime ≤ now

section
variable {log : List Attempt} {readings : List UInt64} {s t : TcpState}

theorem Paced.of_client (paced : Paced log readings s) (buffer : t.client.sendBuffer = s.client.sendBuffer)
    (retries : t.client.reconnectRetries = s.client.reconnectRetries)
    (delay : t.client.reconnectDelayMs = s.client.reconnectDelayMs)
    (last : t.client.lastReconnectTime = s.client.lastReconnectTime) {fewer : List UInt64}
    (sub : fewer.Sublist readings) : Paced log fewer t := by
  refine ⟨buffer.trans paced.buffer, retries.trans paced.retries, paced.few, delay.trans paced.delay, paced.spaced,
    ?_, ?_, paced.ordered.sublist sub, ?_⟩
  · rw [last]
    exact paced.fresh
  · rw [last]
    exact paced.latest
  · rw [last]
    exact fun now member => paced.ahead now (sub.subset member)

theorem Paced.stamped {now : UInt64} (paced : Paced log (now :: readings) s)
    (spent : s.client.reconnectRetries ≥ RECONNECT_MAX_RETRIES) : Paced log readings (s.stamped now) := by
  have ten : failures log = 10 := Nat.le_antisymm paced.few (paced.retries ▸ spent)
  obtain ⟨first, rest⟩ := List.pairwise_cons.mp paced.ordered
  have later := (paced.ahead now (by simp)).2
  refine ⟨paced.buffer, paced.retries, paced.few, paced.delay, paced.spaced, ?_, ?_, rest, ?_⟩
  · intro empty
    rw [empty] at ten
    cases ten
  · intro attempt newest
    obtain ⟨positive, before, -⟩ := paced.latest attempt newest
    exact ⟨positive, UInt64.le_trans before later, by omega⟩
  · exact fun reading member => ⟨(paced.ahead reading (by simp [member])).1, first reading member⟩

theorem spaced_concat {now : UInt64} (paced : Paced log (now :: readings) s) (late : ¬ s.client.TooEarly now)
    (left : s.client.reconnectRetries < RECONNECT_MAX_RETRIES) (outcome : ConnectOutcome) :
    Spaced (log ++ [⟨now, outcome⟩]) := by
  intro before first second after split
  cases after using List.reverseRecOn with
  | append_singleton after newest =>
    have inner : log ++ [⟨now, outcome⟩] = (before ++ first :: second :: after) ++ [newest] := by simp [split]
    obtain ⟨same, -⟩ := List.append_inj' inner rfl
    exact paced.spaced before first second after same
  | nil =>
    have inner : log ++ [⟨now, outcome⟩] = (before ++ [first]) ++ [second] := by simp [split]
    obtain ⟨rfl, last⟩ := List.append_inj' inner rfl
    obtain rfl := List.singleton_inj.mp last
    obtain ⟨positive, -, recent⟩ := paced.latest first (by simp)
    have few := paced.few
    have last : s.client.lastReconnectTime = first.time := recent (paced.retries ▸ left)
    have later := (paced.ahead now (by simp)).2
    unfold TcpClient.TooEarly at late
    rw [last, paced.delay] at late
    rw [last] at later
    have waited : ¬ (now - first.time < UInt64.ofInt (backoffMs (failures (before ++ [first])))) :=
      fun early => late ⟨positive, early⟩
    rw [UInt64.lt_iff_toNat_lt, UInt64.toNat_sub_of_le _ _ later, ofInt_backoffMs few] at waited
    rw [UInt64.le_iff_toNat_le] at later
    show first.time.toNat + _ ≤ now.toNat
    omega

theorem redial_fields (s : TcpState) (now : UInt64) (clocks : List UInt64) (outcome : ConnectOutcome)
    (connects : List ConnectOutcome) :
    (s.redial now clocks outcome connects).client.sendBuffer = s.client.sendBuffer ∧
      (s.redial now clocks outcome connects).client.reconnectRetries = s.client.reconnectRetries ∧
      (s.redial now clocks outcome connects).client.lastReconnectTime = now ∧
      (s.redial now clocks outcome connects).kernel.clocks = clocks ∧
      (s.redial now clocks outcome connects).kernel.connects = connects := by
  obtain ⟨sockFd, up, client, kernel⟩ := dial_fields (((s.ticked clocks).stamped now).release.answered connects) outcome
  unfold TcpState.redial
  rw [client, kernel]
  simp [TcpState.answered, release_client, release_kernel, TcpState.stamped, TcpState.ticked]

theorem Paced.attempted {now : UInt64} (paced : Paced log (now :: readings) s) (late : ¬ s.client.TooEarly now)
    (left : s.client.reconnectRetries < RECONNECT_MAX_RETRIES) {outcome : ConnectOutcome}
    (buffer : t.client.sendBuffer = s.client.sendBuffer)
    (retries : t.client.reconnectRetries = if outcome.established then 0 else s.client.reconnectRetries + 1)
    (delay : t.client.reconnectDelayMs = calculateBackoffDelay t.client.reconnectRetries RECONNECT_INITIAL_DELAY_MS
      RECONNECT_MAX_DELAY_MS)
    (last : t.client.lastReconnectTime = now) : Paced (log ++ [⟨now, outcome⟩]) readings t := by
  have counted : t.client.reconnectRetries = failures (log ++ [⟨now, outcome⟩]) := by
    rw [failures_concat, retries, paced.retries]
  have few : failures (log ++ [⟨now, outcome⟩]) ≤ 10 := by
    have before : failures log < 10 := paced.retries ▸ left
    rw [failures_concat]
    split <;> omega
  obtain ⟨first, rest⟩ := List.pairwise_cons.mp paced.ordered
  refine ⟨buffer.trans paced.buffer, counted, few, ?_, spaced_concat paced late left outcome, by simp, ?_, rest, ?_⟩
  · rw [delay, counted]
    exact calculateBackoffDelay_eq few
  · intro attempt newest
    obtain rfl : ⟨now, outcome⟩ = attempt := by simpa using newest
    rw [last]
    exact ⟨(paced.ahead now (by simp)).1, Std.le_refl now, fun _ => rfl⟩
  · rw [last]
    exact fun reading member => ⟨(paced.ahead reading (by simp [member])).1, first reading member⟩

/-! ### Calls -/

/-- Inside a call that started with `kernel`: the attempts of `log` lie before it and those of `new` in it. `idle` is
a reading after which no attempt was made. -/
structure Logs (kernel : Kernel) (log new : List Attempt) (idle later : List UInt64) (s : TcpState) : Prop where
  clocks : kernel.clocks = new.map Attempt.time ++ idle ++ s.kernel.clocks
  connects : kernel.connects = new.map Attempt.outcome ++ s.kernel.connects
  paced : Paced (log ++ new) (s.kernel.clocks ++ later) s

def LogsOn (kernel : Kernel) (log : List Attempt) (later : List UInt64) (s : TcpState) : Prop :=
  ∃ new, Logs kernel log new [] later s

def LogsUp (kernel : Kernel) (log : List Attempt) (later : List UInt64) (s : TcpState) : Prop :=
  ∃ new idle, Logs kernel log new idle later s

variable {kernel : Kernel} {later : List UInt64}

theorem logsUp_of_on (on : LogsOn kernel log later s) : LogsUp kernel log later s := by
  obtain ⟨new, logs⟩ := on
  exact ⟨new, [], logs⟩

theorem logsOn_frame (on : LogsOn kernel log later s) (frame : SendFrame s t) : LogsOn kernel log later t := by
  obtain ⟨new, clocks, connects, paced⟩ := on
  refine ⟨new, by rw [clocks, frame.clocks], by rw [connects, frame.connects], ?_⟩
  rw [frame.clocks]
  exact paced.of_client frame.buffer frame.retries frame.delay frame.last (List.Sublist.refl _)

theorem logsOn_attempt {new : List Attempt} (attempt : Attempt) {clocks : List UInt64} {connects : List ConnectOutcome}
    (read : kernel.clocks = new.map Attempt.time ++ attempt.time :: clocks)
    (answered : kernel.connects = new.map Attempt.outcome ++ attempt.outcome :: connects)
    (ticks : t.kernel.clocks = clocks) (answers : t.kernel.connects = connects)
    (paced : Paced (log ++ new ++ [attempt]) (clocks ++ later) t) : LogsOn kernel log later t := by
  refine ⟨new ++ [attempt], ?_, ?_, ?_⟩
  · simp [read, ticks]
  · simp [answered, answers]
  · rwa [ticks, ← List.append_assoc]

theorem tcpClientReconnect_logs (flush : Tcp Int) (on : LogsOn kernel log later s) :
    Ends (fun t => LogsOn kernel log later t ∨
      LogsUp kernel log later t ∧ t.client.isConnected = s.client.isConnected) (fun _ => True)
      (tcpClientReconnect flush s) := by
  obtain ⟨new, clocks, connects, paced⟩ := on
  rw [List.append_nil] at clocks
  have cases_ := tcpClientReconnect_cases flush paced.buffer
  generalize tcpClientReconnect flush s = result at cases_
  cases cases_ with
  | disabled => exact .inl ⟨new, by simpa using clocks, connects, paced⟩
  | unread | unanswered => exact trivial
  | @early now rest read early =>
    rw [read] at clocks paced
    refine .inr ⟨⟨new, [now], by simp [clocks, TcpState.ticked], connects, ?_⟩, rfl⟩
    exact paced.of_client (t := s.ticked rest) rfl rfl rfl rfl (List.sublist_cons_self _ _)
  | @spent now rest read late spent =>
    rw [read] at clocks paced
    refine .inr ⟨⟨new, [now], by simp [clocks, TcpState.ticked, TcpState.stamped], connects, ?_⟩, rfl⟩
    exact (paced.stamped spent).of_client (t := (s.ticked rest).stamped now) rfl rfl rfl rfl (List.Sublist.refl _)
  | @succeeded now rest outcome more read late left answer established =>
    rw [read] at clocks paced
    rw [answer] at connects
    obtain ⟨buffer, retries, last, ticks, answers⟩ := redial_fields s now rest outcome more
    refine .inl (logsOn_attempt ⟨now, outcome⟩ clocks connects ticks answers ?_)
    exact paced.attempted late left buffer (by rw [established]; rfl) (by rfl) last
  | @failed now rest outcome more read late left answer established =>
    rw [read] at clocks paced
    rw [answer] at connects
    obtain ⟨buffer, retries, last, ticks, answers⟩ := redial_fields s now rest outcome more
    refine .inl (logsOn_attempt ⟨now, outcome⟩ clocks connects ticks answers ?_)
    refine paced.attempted late left buffer ?_ (by simp only [TcpState.withClient, TcpClient.backedOff]) last
    rw [established, if_neg (by simp), ← retries]
    rfl

theorem logsOn_release (on : LogsOn kernel log later s) : LogsOn kernel log later s.release := by
  obtain ⟨new, clocks, connects, paced⟩ := on
  refine ⟨new, by rw [clocks, release_kernel], by rw [connects, release_kernel], ?_⟩
  rw [release_kernel]
  exact paced.of_client (by rw [release_client]) (by rw [release_client]) (by rw [release_client])
    (by rw [release_client]) (List.Sublist.refl _)

theorem perform_logs (depth : Nat) (call : TcpCall) (other : call.op ≠ .connect)
    (paced : Paced log (call.kernel.clocks ++ later) s) :
    Ends (LogsUp call.kernel log later) (fun _ => True) (call.perform depth s) := by
  have start : LogsOn call.kernel log later { s with kernel := call.kernel } := by
    refine ⟨[], rfl, rfl, ?_⟩
    rw [List.append_nil]
    exact paced.of_client (t := { s with kernel := call.kernel }) rfl rfl rfl rfl (List.Sublist.refl _)
  exact perform_returns (fun _ _ => logsOn_frame) (fun _ => logsUp_of_on) depth
    (fun _ => tcpClientReconnect_logs _) (fun _ ⟨_, logs⟩ => logs.paced.buffer) (fun _ => logsOn_release) call other start

theorem consumed_append {α : Type} (front left : List α) : consumed (front ++ left) left = front := by
  simp [consumed]

/-- The log of a call is what was read of its script. -/
theorem Logs.attempts_eq {new : List Attempt} {idle : List UInt64} (logs : Logs kernel log new idle later s) :
    List.zipWith Attempt.mk (consumed kernel.clocks s.kernel.clocks) (consumed kernel.connects s.kernel.connects) =
      new := by
  rw [logs.clocks, logs.connects, consumed_append, consumed_append]
  clear logs
  induction new with
  | nil => simp
  | cons attempt rest ih => simpa using ih

/-- After each call the log goes on, by the attempts of the call. -/
theorem attemptsOf_paced (depth : Nat) (calls : List TcpCall) (others : ∀ call ∈ calls, call.op ≠ .connect)
    (paced : Paced log (calls.flatMap fun call => call.kernel.clocks) s) (run : tcpRun depth calls s = (some (), t)) :
    Paced (log ++ attemptsOf depth s calls) [] t := by
  induction calls generalizing log s with
  | nil =>
    cases run
    rw [attemptsOf, List.append_nil]
    exact paced
  | cons call rest ih =>
    obtain ⟨_, u, first, run⟩ := bind_eq_some.mp run
    have logs := perform_logs depth call (others call (by simp)) paced
    rw [first] at logs
    obtain ⟨new, idle, logs⟩ := logs
    have made : call.attempts depth s = new := by
      unfold TcpCall.attempts
      rw [first]
      exact logs.attempts_eq
    have next : Paced (log ++ new) (rest.flatMap fun call => call.kernel.clocks) u :=
      logs.paced.of_client rfl rfl rfl rfl (List.sublist_append_right _ _)
    rw [attemptsOf, made, first, ← List.append_assoc]
    exact ih (fun call member => others call (by simp [member])) next run

/-- A connect before the first reconnect leaves the pace as it was. -/
theorem tcpClientConnect_paced (paced : Paced [] readings s) :
    Ends (Paced [] readings) (fun _ => True) (tcpClientConnect s) := by
  cases up : s.client.isConnected with
  | true =>
    rw [tcpClientConnect_up up]
    exact paced
  | false =>
    rcases connects : s.kernel.connects with _ | ⟨outcome, rest⟩
    · rw [tcpClientConnect_waits up connects]
      exact trivial
    · obtain ⟨sockFd, up', client, -⟩ := dial_fields (s.answered rest) outcome
      have dialled : Paced [] readings ((s.answered rest).dial outcome) := by
        refine paced.of_client ?_ ?_ ?_ ?_ (List.Sublist.refl _) <;> rw [client] <;> rfl
      rw [tcpClientConnect_eq up connects]
      cases outcome.established with
      | true =>
        exact dialled.of_client (t := ((s.answered rest).dial outcome).withClient .connected) rfl dialled.retries.symm
          dialled.delay.symm rfl (List.Sublist.refl _)
      | false => exact dialled

end

theorem connect_paced {serverIp : CStr} {serverPort : Int} {autoReconnect : Bool} {client : TcpClient}
    (created : tcpClientInit serverIp serverPort autoReconnect = some client) (depth : Nat) (first : Kernel)
    {readings : List UInt64} (positive : ∀ now ∈ readings, 0 < now) (ordered : readings.Pairwise (· ≤ ·)) {s : TcpState}
    (connected : TcpCall.perform depth ⟨.connect, first⟩ { client } = (some (), s)) : Paced [] readings s := by
  have start : Paced [] readings { client, kernel := first } := by
    unfold tcpClientInit at created
    split at created
    · cases created
    cases created
    refine ⟨rfl, rfl, by decide, rfl, ?_, fun _ => rfl, by simp, ordered, ?_⟩
    · intro before first second after split
      simp at split
    · exact fun now member => ⟨positive now member, UInt64.le_iff_toNat_le.mpr (Nat.zero_le _)⟩
  have ended : Ends (Paced [] readings) (fun _ => True) (TcpCall.perform depth ⟨.connect, first⟩ { client }) :=
    bind_ends (m := tcpClientConnect) (tcpClientConnect_paced start) fun _ _ _ paced => paced
  rw [connected] at ended
  exact ended

/-- In every run after one connect at the start: the retries count the attempts that failed in a row and stay at ten,
the delay is twice as long for each of them up to half a minute, the shift that computes it stays inside an `int`, and
attempts that follow each other are the delay apart. -/
theorem reconnects_back_off (serverIp : CStr) (serverPort : Int) (autoReconnect : Bool) (client : TcpClient)
    (created : tcpClientInit serverIp serverPort autoReconnect = some client) (depth : Nat) (first : Kernel)
    (calls : List TcpCall) (others : ∀ call ∈ calls, call.op ≠ .connect)
    (positive : ∀ now ∈ calls.flatMap fun call => call.kernel.clocks, 0 < now)
    (ordered : (calls.flatMap fun call => call.kernel.clocks).Pairwise (· ≤ ·)) (s t : TcpState)
    (connected : TcpCall.perform depth ⟨.connect, first⟩ { client } = (some (), s))
    (run : tcpRun depth calls s = (some (), t)) :
    let log := attemptsOf depth s calls
    t.client.reconnectRetries = failures log ∧ t.client.reconnectRetries ≤ 10 ∧
      t.client.reconnectDelayMs = min (1000 * 2 ^ t.client.reconnectRetries) 30000 ∧
      1000 * 2 ^ t.client.reconnectRetries < 2 ^ 31 ∧
      ∀ before first second after, log = before ++ first :: second :: after →
        first.time.toNat + min (1000 * 2 ^ failures (before ++ [first])) 30000 ≤ second.time.toNat := by
  have paced := attemptsOf_paced depth calls others (connect_paced created depth first positive ordered connected) run
  rw [List.nil_append] at paced
  have few := paced.few
  have small : 2 ^ failures (attemptsOf depth s calls) ≤ 2 ^ 10 := Nat.pow_le_pow_right (by decide) few
  refine ⟨paced.retries, paced.retries ▸ few, ?_, ?_, paced.spaced⟩
  · rw [paced.delay, paced.retries]
    unfold backoffMs
    push_cast
    rfl
  · rw [paced.retries]
    omega

/-- Refused twice, then taken up again inside a send that loses the connection once more. -/
def backingOff : List TcpCall :=
  [⟨.reconnect, { clocks := [1000], connects := [.refused] }⟩,
   ⟨.reconnect, { clocks := [2500] }⟩,
   ⟨.send (ascii "[1]"), { clocks := [3000], connects := [.inProgress .timeout] }⟩,
   ⟨.send (ascii "[2]"),
    { clocks := [7000, 8000]
      connects := [.connected, .refused]
      sends := [.accepted 20, .connectionLost] }⟩]

def refusedStart : TcpState :=
  (TcpCall.perform 0 ⟨.connect, { connects := [.refused] }⟩ { client := relayClient }).2

theorem backing_off_is_paced :
    (attemptsOf 0 refusedStart backingOff).map Attempt.time = [1000, 3000, 7000, 8000] ∧
      (tcpRun 0 backingOff refusedStart).2.client.reconnectRetries ≤ 10 := by
  refine ⟨by decide +kernel, ?_⟩
  have returned (outcome : Option Unit × TcpState) (ended : outcome.1 = some ()) : outcome = (some (), outcome.2) :=
    Prod.ext ended rfl
  have readings : (backingOff.flatMap fun call => call.kernel.clocks) = [1000, 2500, 3000, 7000, 8000] := rfl
  obtain ⟨-, few, -⟩ := reconnects_back_off (.ofBytes (ascii "10.0.0.1")) 8080 true relayClient rfl 0
    { connects := [.refused] } backingOff (by simp [backingOff]) (by rw [readings]; simp)
    (by rw [readings]; decide +kernel) refusedStart (tcpRun 0 backingOff refusedStart).2 (returned _ rfl)
    (returned _ (by decide +kernel))
  exact few

end StbEbpf.Probe
