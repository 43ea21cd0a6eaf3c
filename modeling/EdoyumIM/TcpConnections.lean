import EdoyumIM.NetBuffer
import EdoyumIM.OrderedStore
import EdoyumIM.JsonValue

/-!
The connections of one `TcpServer` on its loop: `TcpConnection`, its `Channel`,
the epoll poller, the pending functors of the loop, and the map of the server.
One turn of the loop handles the active channels and then the functors that
were pending. What the kernel answers comes with the turn, what the callbacks
call is a function of everything seen so far. A failed assertion leaves no
server. `stopRead`, `startRead`, timers and other threads, which the servers do
not use, are left out; the input buffer is followed elsewhere.
-/

namespace EdoyumIM.TcpConnections

open MachineWords OrderedStore NetBuffer JsonValue

inductive StateE where
  | kDisconnected | kConnecting | kConnected | kDisconnecting
  deriving DecidableEq

/-- `index_` of a channel, as the epoll poller uses it. -/
inductive Index where
  | kNew | kAdded | kDeleted
  deriving DecidableEq

structure Channel where
  fd : Nat
  reading : Bool := false
  writing : Bool := false
  index : Index := .kNew
  addedToLoop : Bool := false
  deriving DecidableEq

def Channel.isNoneEvent (channel : Channel) : Bool := !channel.reading && !channel.writing

structure TcpConnection where
  name : Bytes
  state : StateE := .kConnecting
  channel : Channel
  highWaterMark : Nat := 64 * 1024 * 1024
  outputBuffer : Buffer := Buffer.new kInitialSize

/-- The functors that the connections of a server queue. -/
inductive Functor where
  | forceCloseInLoop (id : Nat)
  | connectDestroyed (id : Nat)
  | writeComplete (id : Nat)
  | highWaterMark (id size : Nat)
  deriving DecidableEq

/-- What happened: the callbacks, what became of a message, what the kernel got. -/
inductive Seen where
  | up (id : Nat)
  | down (id : Nat)
  | message (id : Nat) (data : Bytes)
  | writeComplete (id : Nat)
  | highWaterMark (id size : Nat)
  | sent (id : Nat) (data : Bytes)
  | dropped (id : Nat) (data : Bytes)
  | wrote (id : Nat) (data : Bytes)
  | shutdownWrite (id : Nat)
  deriving DecidableEq

/-- `objects` holds every connection ever made; its position there stands for it. -/
structure Server where
  namePrefix : Bytes
  hasWriteComplete : Bool := false
  hasHighWaterMark : Bool := false
  objects : List TcpConnection := []
  nextConnId : Nat := 1
  connections : OrderedMap Bytes Nat := .empty
  channels : OrderedMap Nat Nat := .empty
  pendingFunctors : List Functor := []
  seen : List Seen := []

namespace Server

def log (label : Seen) (server : Server) : Server :=
  { server with seen := server.seen ++ [label] }

def queueInLoop (functor : Functor) (server : Server) : Server :=
  { server with pendingFunctors := server.pendingFunctors ++ [functor] }

def store (id : Nat) (conn : TcpConnection) (server : Server) : Server :=
  { server with objects := server.objects.set id conn }

end Server

/-! The poller. -/
section Poller

/-- `Channel::update` with the events already in place. -/
def updateChannel (id : Nat) (conn : TcpConnection) (server : Server) : Option Server :=
  let channel := { conn.channel with addedToLoop := true }
  match channel.index with
  | .kNew =>
      if server.channels.find? channel.fd = none then
        some ({ server with channels := server.channels.insert channel.fd id }.store id
          { conn with channel := { channel with index := .kAdded } })
      else none
  | .kDeleted =>
      if server.channels.find? channel.fd = some id then
        some (server.store id { conn with channel := { channel with index := .kAdded } })
      else none
  | .kAdded =>
      if server.channels.find? channel.fd = some id then
        let index := if channel.isNoneEvent then Index.kDeleted else .kAdded
        some (server.store id { conn with channel := { channel with index := index } })
      else none

/-- `Channel::remove`. -/
def removeChannel (id : Nat) (conn : TcpConnection) (server : Server) : Option Server :=
  if conn.channel.isNoneEvent = true ∧ server.channels.find? conn.channel.fd = some id ∧
      conn.channel.index ≠ .kNew then
    some ({ server with channels := server.channels.erase conn.channel.fd }.store id
      { conn with channel := { conn.channel with addedToLoop := false, index := .kNew } })
  else none

end Poller

/-! Sending and closing, as the callbacks may ask for it. -/
section Calls

inductive Errno where
  | EWOULDBLOCK | EPIPE | ECONNRESET | other
  deriving DecidableEq

/-- The kernel's answer to a `write`; it takes no more than it is given. -/
inductive WriteAnswer where
  | wrote (count : Nat)
  | failed (errno : Errno)
  deriving DecidableEq

def WriteAnswer.accepted (size : Nat) : WriteAnswer → Nat
  | .wrote count => min count size
  | .failed _ => 0

def WriteAnswer.faultError : WriteAnswer → Bool
  | .failed .EPIPE | .failed .ECONNRESET => true
  | _ => false

inductive Call where
  | send (id : Nat) (message : Bytes) (answer : WriteAnswer)
  | shutdown (id : Nat)
  | forceClose (id : Nat)
  deriving DecidableEq

/-- What is left of the message goes to the output buffer. -/
def buffered (id : Nat) (conn : TcpConnection) (rest : Bytes) (server : Server) :
    Option Server := do
  let oldLen := conn.outputBuffer.readableBytes
  let crossing := server.hasHighWaterMark && decide (conn.highWaterMark ≤ oldLen + rest.length) &&
    decide (oldLen < conn.highWaterMark)
  let noted := if crossing then server.queueInLoop (.highWaterMark id (oldLen + rest.length))
    else server
  let outputBuffer ← conn.outputBuffer.append rest
  let filled := { conn with outputBuffer := outputBuffer }
  if filled.channel.writing then some (noted.store id filled)
  else updateChannel id { filled with channel := { filled.channel with writing := true } } noted

/-- A message given up after a broken pipe or a reset is seen as dropped, any
other one as sent. -/
def sendInLoop (id : Nat) (conn : TcpConnection) (message : Bytes) (answer : WriteAnswer)
    (server : Server) : Option Server :=
  if conn.state = .kDisconnected then some server
  -- with nothing in the output queue the message is written directly
  else if !conn.channel.writing && conn.outputBuffer.readableBytes == 0 then
    let nwrote := answer.accepted message.length
    if answer.faultError then some (server.log (.dropped id message))
    else
      let written := (server.log (.sent id message)).log (.wrote id (message.take nwrote))
      if nwrote < message.length then buffered id conn (message.drop nwrote) written
      else
        match answer with
        | .wrote _ =>
            if server.hasWriteComplete then some (written.queueInLoop (.writeComplete id))
            else some written
        | .failed _ => some written
  else if 0 < message.length then buffered id conn message (server.log (.sent id message))
  else some (server.log (.sent id message))

def shutdownInLoop (id : Nat) (conn : TcpConnection) (server : Server) : Server :=
  if conn.channel.writing then server else server.log (.shutdownWrite id)

/-- A call on an object that does not exist is not possible, hence of no effect. -/
def perform (server : Server) : Call → Option Server
  | .send id message answer =>
      match server.objects[id]? with
      | some conn =>
          if conn.state = .kConnected then sendInLoop id conn message answer server
          else some server
      | none => some server
  | .shutdown id =>
      match server.objects[id]? with
      | some conn =>
          if conn.state = .kConnected then
            let closing := { conn with state := .kDisconnecting }
            some (shutdownInLoop id closing (server.store id closing))
          else some server
      | none => some server
  | .forceClose id =>
      match server.objects[id]? with
      | some conn =>
          if conn.state = .kConnected ∨ conn.state = .kDisconnecting then
            some ((server.store id { conn with state := .kDisconnecting }).queueInLoop
              (.forceCloseInLoop id))
          else some server
      | none => some server

/-- What the callbacks call, from everything seen up to the callback. -/
abbrev App := List Seen → List Call

/-- A callback: the program sees it and makes its calls. -/
def callback (app : App) (label : Seen) (server : Server) : Option Server :=
  (app (server.log label).seen).foldlM perform (server.log label)

end Calls

/-! The handlers of a connection and of the server. -/
section Handlers

variable (app : App)

/-- `TcpServer::removeConnectionInLoop`, the close callback. -/
def removeConnection (id : Nat) (server : Server) : Option Server :=
  match server.objects[id]? with
  | none => none
  | some conn =>
      if server.connections.find? conn.name = none then none
      else some ({ server with connections := server.connections.erase conn.name }.queueInLoop
        (.connectDestroyed id))

def handleClose (id : Nat) (conn : TcpConnection) (server : Server) : Option Server :=
  if conn.state = .kConnected ∨ conn.state = .kDisconnecting then do
    let disabled ← updateChannel id { conn with
      state := .kDisconnected
      channel := { conn.channel with reading := false, writing := false } } server
    let called ← callback app (.down id) disabled
    removeConnection id called
  else none

/-- `handleRead` with the answer to its `readv`; an error is only logged. -/
def handleRead (id : Nat) (conn : TcpConnection) (answer : Option Bytes) (server : Server) :
    Option Server :=
  match answer with
  | some [] => handleClose app id conn server
  | some (first :: rest) => callback app (.message id (first :: rest)) server
  | none => some server

def handleWrite (id : Nat) (conn : TcpConnection) (answer : WriteAnswer) (server : Server) :
    Option Server :=
  if conn.channel.writing then
    let n := answer.accepted conn.outputBuffer.readableBytes
    if 0 < n then do
      let written := server.log (.wrote id (conn.outputBuffer.readable.take n))
      let outputBuffer ← conn.outputBuffer.retrieve n
      let drained := { conn with outputBuffer := outputBuffer }
      if outputBuffer.readableBytes = 0 then
        let idle ← updateChannel id
          { drained with channel := { drained.channel with writing := false } } written
        let noted := if server.hasWriteComplete then idle.queueInLoop (.writeComplete id)
          else idle
        if conn.state = .kDisconnecting then
          some (shutdownInLoop id
            { drained with channel := { drained.channel with writing := false } } noted)
        else some noted
      else some (written.store id drained)
    else some server
  else some server

structure Revents where
  hup : Bool := false
  readIn : Bool := false
  pri : Bool := false
  rdhup : Bool := false
  err : Bool := false
  nval : Bool := false
  out : Bool := false
  deriving DecidableEq

/-- A handler on the connection as it is by then. -/
def onObject (id : Nat) (handler : TcpConnection → Server → Option Server) (server : Server) :
    Option Server :=
  match server.objects[id]? with
  | some conn => handler conn server
  | none => none

/-- `Channel::handleEventWithGuard`; POLLERR and POLLNVAL only make log entries. -/
def handleEvent (id : Nat) (revents : Revents) (read : Option Bytes) (write : WriteAnswer)
    (server : Server) : Option Server := do
  let closed ←
    if revents.hup && !revents.readIn then onObject id (handleClose app id) server
    else some server
  let received ←
    if revents.readIn || revents.pri || revents.rdhup then
      onObject id (fun conn => handleRead app id conn read) closed
    else some closed
  if revents.out then onObject id (fun conn => handleWrite id conn write) received
  else some received

def connName (namePrefix : Bytes) (number : Nat) : Bytes :=
  namePrefix ++ (Nat.toDigits 10 number).map fun letter => UInt8.ofNat letter.toNat

/-- `TcpServer::newConnection` and, on the same loop, `connectEstablished`. -/
def newConnection (fd : Nat) (server : Server) : Option Server := do
  let id := server.objects.length
  let conn : TcpConnection :=
    { name := connName server.namePrefix server.nextConnId, channel := { fd := fd } }
  let made := { server with
    nextConnId := server.nextConnId + 1
    objects := server.objects ++ [conn]
    connections := server.connections.set conn.name id }
  let enabled ← updateChannel id { conn with
    state := .kConnected
    channel := { conn.channel with reading := true } } made
  callback app (.up id) enabled

def connectDestroyed (id : Nat) (conn : TcpConnection) (server : Server) : Option Server :=
  if conn.state = .kConnected then do
    let disabled ← updateChannel id { conn with
      state := .kDisconnected
      channel := { conn.channel with reading := false, writing := false } } server
    let called ← callback app (.down id) disabled
    onObject id (removeChannel id) called
  else removeChannel id conn server

def runFunctor (server : Server) : Functor → Option Server
  | .forceCloseInLoop id =>
      onObject id (fun conn server =>
        if conn.state = .kConnected ∨ conn.state = .kDisconnecting then
          handleClose app id conn server
        else some server) server
  | .connectDestroyed id => onObject id (connectDestroyed app id) server
  | .writeComplete id => callback app (.writeComplete id) server
  | .highWaterMark id size => callback app (.highWaterMark id size) server

/-- What the poller found: the listening socket or a connection, and what the
kernel will answer to the calls of its handlers. -/
inductive Active where
  | accept (fd : Nat)
  | event (id : Nat) (revents : Revents) (read : Option Bytes) (write : WriteAnswer)
  deriving DecidableEq

def handleActive (server : Server) : Active → Option Server
  | .accept fd => newConnection app fd server
  | .event id revents read write => handleEvent app id revents read write server

def doPendingFunctors (server : Server) : Option Server :=
  server.pendingFunctors.foldlM (runFunctor app) { server with pendingFunctors := [] }

/-- One turn of `EventLoop::loop`. -/
def turn (server : Server) (active : List Active) : Option Server := do
  let handled ← active.foldlM (handleActive app) server
  doPendingFunctors app handled

def loop (server : Server) (turns : List (List Active)) : Option Server :=
  turns.foldlM (turn app) server

end Handlers

end EdoyumIM.TcpConnections
