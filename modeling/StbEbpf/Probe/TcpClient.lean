import StbEbpf.Lib.Program
import StbEbpf.Probe.Common

/-!
The client of `src/tcp_client.c`. What the kernel answers is read from a script given with each call; a call whose
script has run out is still inside the system call that wants the next answer.
-/

namespace StbEbpf.Probe
open CText Program

def RECONNECT_INITIAL_DELAY_MS : Int := 1000
def RECONNECT_MAX_DELAY_MS : Int := 30000
def RECONNECT_MAX_RETRIES : Nat := 10
def HTTP_BUF_SIZE : Nat := 65536

/-- A socket is known by its place in the order of creation, so that a number is never given twice. -/
structure Socket where
  stream : Bytes := []
  closes : Nat := 0
  deriving DecidableEq, Repr

structure TcpClient where
  sockFd : Option Nat := none
  serverIp : CharBuf 16
  serverPort : Int
  isConnected : Bool := false
  reconnectRetries : Nat := 0
  reconnectDelayMs : Int := RECONNECT_INITIAL_DELAY_MS
  lastReconnectTime : UInt64 := 0
  autoReconnect : Bool
  sendBuffer : Bytes := []
  bytesSent : UInt64 := 0
  bytesLost : UInt64 := 0
  connectCount : UInt64 := 0
  reconnectCount : UInt64 := 0

inductive ConnectWait where
  | selectFails | timeout | getsockoptFails | soError | connected
  deriving DecidableEq, Repr

inductive ConnectOutcome where
  | socketFails | nonblockingFails | invalidAddress | connected | inProgress (wait : ConnectWait) | refused
  deriving DecidableEq, Repr

-- `wouldBlock` carries whether the `select` that follows reports the socket writable.
inductive SendOutcome where
  | accepted (count : Nat) | eintr | connectionLost | wouldBlock (writable : Bool) | otherError
  deriving DecidableEq, Repr

inductive PeekOutcome where
  | data | wouldBlock | closed | error
  deriving DecidableEq, Repr

structure Kernel where
  clocks : List UInt64 := []
  connects : List ConnectOutcome := []
  sends : List SendOutcome := []
  peeks : List PeekOutcome := []
  deriving DecidableEq, Repr

/-- One run of the send loop: the request, and how much of it the kernel took. -/
structure SendCall where
  socket : Nat
  request : Bytes
  accepted : Nat
  deriving DecidableEq, Repr

/-- `calls` is history that no function reads. -/
structure TcpState where
  client : TcpClient
  sockets : List Socket := []
  kernel : Kernel := {}
  calls : List SendCall := []

abbrev Tcp := Program TcpState

def modifyClient (f : TcpClient → TcpClient) : Tcp Unit := modify fun s => { s with client := f s.client }

def nextClock : Tcp UInt64 := fun s =>
  match s.kernel.clocks with
  | [] => (none, s)
  | clock :: rest => (some clock, { s with kernel := { s.kernel with clocks := rest } })

def nextConnect : Tcp ConnectOutcome := fun s =>
  match s.kernel.connects with
  | [] => (none, s)
  | outcome :: rest => (some outcome, { s with kernel := { s.kernel with connects := rest } })

def nextPeek : Tcp PeekOutcome := fun s =>
  match s.kernel.peeks with
  | [] => (none, s)
  | outcome :: rest => (some outcome, { s with kernel := { s.kernel with peeks := rest } })

def openSocket : Tcp Unit :=
  modify fun s =>
    { s with client := { s.client with sockFd := some s.sockets.length }, sockets := s.sockets ++ [{}] }

def closeSocket : Tcp Unit :=
  modify fun s =>
    match s.client.sockFd with
    | none => s
    | some fd =>
      { s with
        client := { s.client with sockFd := none }
        sockets := s.sockets.modify fd fun socket => { socket with closes := socket.closes + 1 } }

/-- The shift is made in 32 bits. -/
def calculateBackoffDelay (retryCount : Nat) (baseDelayMs maxDelayMs : Int) : Int :=
  if retryCount = 0 then baseDelayMs
  else
    let delay := Int.bmod (baseDelayMs * 2 ^ retryCount) (2 ^ 32)
    if delay > maxDelayMs ∨ delay ≤ 0 then maxDelayMs else delay

def ConnectOutcome.established : ConnectOutcome → Bool
  | .connected | .inProgress .connected => true
  | _ => false

def tcpClientTryConnect : Tcp Int := do
  match ← nextConnect with
  | .socketFails =>
    modifyClient fun client => { client with sockFd := none }
    return -1
  | outcome =>
    openSocket
    if outcome.established then
      modifyClient fun client => { client with isConnected := true }
      return 0
    else
      closeSocket
      return -1

def tcpClientInit (serverIp : CStr) (serverPort : Int) (autoReconnect : Bool) : Option TcpClient :=
  if serverPort ≤ 0 ∨ serverPort > 65535 then none
  else some { serverIp := .strncpy serverIp.bytes, serverPort, autoReconnect }

def tcpClientConnect : Tcp Int := do
  if (← get).client.isConnected then return 0
  else
    let ret ← tcpClientTryConnect
    if ret = 0 then
      modifyClient fun client =>
        { client with
          connectCount := client.connectCount + 1
          reconnectRetries := 0
          reconnectDelayMs := RECONNECT_INITIAL_DELAY_MS }
      return 0
    else return -1

/-- Flushing sends, sending may reconnect and reconnecting disconnects: the flush is passed in and the knot is tied
in `tcpClientFlush`. -/
def tcpClientDisconnect (flush : Tcp Int) : Tcp Unit := do
  let s ← get
  if s.client.sockFd.isSome then
    if s.client.sendBuffer ≠ [] then
      let _ ← flush
    closeSocket
  modifyClient fun client => { client with isConnected := false }

def tcpClientReconnect (flush : Tcp Int) : Tcp Int := do
  let client := (← get).client
  if ¬ client.autoReconnect then return -1
  else
    let nowMs ← nextClock
    if client.lastReconnectTime > 0 ∧
        nowMs - client.lastReconnectTime < UInt64.ofInt client.reconnectDelayMs then return -1
    else
      modifyClient fun client => { client with lastReconnectTime := nowMs }
      if client.reconnectRetries ≥ RECONNECT_MAX_RETRIES then return -1
      else
        tcpClientDisconnect flush
        let ret ← tcpClientConnect
        if ret = 0 then
          modifyClient fun client =>
            { client with
              reconnectCount := client.reconnectCount + 1
              reconnectRetries := 0
              reconnectDelayMs := RECONNECT_INITIAL_DELAY_MS }
          return 0
        else
          modifyClient fun client =>
            { client with
              reconnectRetries := client.reconnectRetries + 1
              reconnectDelayMs := calculateBackoffDelay (client.reconnectRetries + 1)
                RECONNECT_INITIAL_DELAY_MS RECONNECT_MAX_DELAY_MS }
          return -1

/-- The `%.*s` of the body stops at a NUL, the announced length does not. -/
def httpRequest (serverIp : CharBuf 16) (data : Bytes) : Bytes :=
  ascii "POST /api/v1/ingest HTTP/1.1\r\nHost: " ++ serverIp.bytes ++
  ascii "\r\nContent-Type: application/json\r\nContent-Length: " ++ decimal data.length ++
  ascii "\r\nConnection: keep-alive\r\n\r\n" ++ cut data

inductive SendEnd where
  | complete | connectionLost | stopped | pending
  deriving DecidableEq, Repr

/-- The kernel takes `count` bytes of what it is offered. -/
def TcpState.accept (s : TcpState) (fd : Nat) (offered : Bytes) (count : Nat) : TcpState :=
  { s with sockets := s.sockets.modify fd fun socket =>
      { socket with stream := socket.stream ++ offered.take count } }

/-- The loop of `tcp_client_send`, from `total` bytes on. -/
def sendLoop (fd : Nat) (request : Bytes) : List SendOutcome → Nat → TcpState → SendEnd × Nat × TcpState
  | outcomes, total, s =>
    if request.length ≤ total then (.complete, total, { s with kernel := { s.kernel with sends := outcomes } })
    else
      match outcomes with
      | [] => (.pending, total, { s with kernel := { s.kernel with sends := [] } })
      | outcome :: rest =>
        match outcome with
        | .accepted count =>
          let ret := min count (request.length - total)
          sendLoop fd request rest (total + ret) (s.accept fd (request.drop total) ret)
        | .eintr | .wouldBlock true => sendLoop fd request rest total s
        | .connectionLost => (.connectionLost, total, { s with kernel := { s.kernel with sends := rest } })
        | .wouldBlock false | .otherError => (.stopped, total, { s with kernel := { s.kernel with sends := rest } })

/-- What `tcp_client_send` does once its loop is left. Draining the response changes nothing the client keeps. -/
def finishSend (flush : Tcp Int) (request : Bytes) (ended : SendEnd) (total : Nat) : Tcp Int :=
  match ended with
  | .pending => stuck
  | .complete => do
    modifyClient fun client => { client with bytesSent := client.bytesSent + UInt64.ofNat total }
    return total
  | .connectionLost => do
    modifyClient fun client =>
      { client with
        isConnected := false
        bytesLost := client.bytesLost + UInt64.ofNat (request.length - total) }
    if (← get).client.autoReconnect then
      let _ ← tcpClientReconnect flush
    return -1
  | .stopped => return if total > 0 then total else -1

def transmit (flush : Tcp Int) (request : Bytes) : Tcp Int := fun s =>
  match s.client.sockFd with
  -- `send` on descriptor -1 fails with EBADF.
  | none => (some (-1), s)
  | some fd =>
    match sendLoop fd request s.kernel.sends 0 s with
    | (ended, total, s) => finishSend flush request ended total { s with calls := s.calls ++ [⟨fd, request, total⟩] }

def tcpClientSend (flush : Tcp Int) (data : Bytes) : Tcp Int := do
  if data = [] then return -1
  else
    let client := (← get).client
    if ¬ client.isConnected ∧ client.autoReconnect then
      let _ ← tcpClientReconnect flush
    let client := (← get).client
    if ¬ client.isConnected then return -1
    else
      let request := httpRequest client.serverIp data
      if request.length ≥ HTTP_BUF_SIZE then return -1 else transmit flush request

def tcpClientSendLine (flush : Tcp Int) (line : CStr) : Tcp Int := tcpClientSend flush line.bytes

/-- `depth` bounds how often flushes nest. -/
def tcpClientFlush : Nat → Tcp Int
  | 0 => stuck
  | depth + 1 => do
    let client := (← get).client
    if client.sendBuffer = [] then return 0
    else
      let ret ← tcpClientSend (tcpClientFlush depth) client.sendBuffer
      if ret > 0 then
        modifyClient fun client => { client with sendBuffer := client.sendBuffer.drop ret.toNat }
      return ret

def tcpClientIsConnected : Tcp Bool := do
  let client := (← get).client
  if client.isConnected ∧ client.sockFd.isSome then
    match ← nextPeek with
    | .closed | .error =>
      modifyClient fun client => { client with isConnected := false }
      return false
    | .data | .wouldBlock => return true
  else return false

inductive TcpOp where
  | connect | disconnect | reconnect | send (data : Bytes) | sendLine (line : CStr) | flush | isConnected

structure TcpCall where
  op : TcpOp
  kernel : Kernel

def TcpOp.perform (depth : Nat) : TcpOp → Tcp Unit
  | .connect => do let _ ← tcpClientConnect
  | .disconnect => tcpClientDisconnect (tcpClientFlush depth)
  | .reconnect => do let _ ← tcpClientReconnect (tcpClientFlush depth)
  | .send data => do let _ ← tcpClientSend (tcpClientFlush depth) data
  | .sendLine line => do let _ ← tcpClientSendLine (tcpClientFlush depth) line
  | .flush => do let _ ← tcpClientFlush (depth + 1)
  | .isConnected => do let _ ← tcpClientIsConnected

def TcpCall.perform (depth : Nat) (call : TcpCall) : Tcp Unit := do
  modify fun s => { s with kernel := call.kernel }
  call.op.perform depth

def tcpRun (depth : Nat) (calls : List TcpCall) : Tcp Unit := calls.forM (TcpCall.perform depth)

end StbEbpf.Probe
