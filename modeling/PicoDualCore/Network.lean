import PicoDualCore.AtomicProgram
import PicoDualCore.ConfigValidation
import PicoDualCore.MessageSerializer
set_option autoImplicit false

/-!
The sockets under the MQTT client. Every socket operation is one atomic step whose outcome the
surroundings choose: it goes through, it comes short, or it fails part-way. The application on
top of the client is a state of its own, which the socket operations leave alone.
-/

namespace PicoDualCore
open AtomicProgram

/-- The exceptions that Core 0's handlers tell apart. -/
inductive Exc where
  | memoryError
  | osError (message : String)
  | mqttException (message : String)
  | messageTooLarge (message : String)
  | valueError (message : String)
  | config (e : ConfigError)
  | python (e : PyError)
  deriving Repr

/-- `MQTT_TRANSPORT_ERRORS`. -/
def Exc.transport : Exc → Bool
  | .osError _ | .mqttException _ => true
  | _ => false

/-- Whose frame the written bytes belong to; the code keeps no such record. -/
inductive Owner where
  | entry (ref : Nat)
  | container (uid : Nat)
  deriving DecidableEq, Repr

/-- One TCP connection: what the peer has sent, how much of it was read, what was written. -/
structure Connection where
  inbound : Bytes := []
  consumed : Nat := 0
  written : Bytes := []
  timeoutMs : Option Nat := none
  closed : Bool := false
  deriving DecidableEq, Repr

def Connection.unread (c : Connection) : Bytes := c.inbound.drop c.consumed

inductive SocketEvent where
  | opened (conn : Nat)
  | connecting (conn : Nat) (timeoutMs : Option Nat)
  | wrote (conn : Nat) (timeoutMs : Option Nat) (owner : Option Owner) (bytes : Bytes)
  | read (conn : Nat) (timeoutMs : Option Nat) (size : Nat) (bytes : Bytes)
  | closed (conn : Nat)
  | delivered (topic payload : Bytes)
  deriving DecidableEq, Repr

/-- The timeout under which a connect, a read or a write was made; other events are no such call. -/
def SocketEvent.callTimeout? : SocketEvent → Option (Option Nat)
  | .connecting _ timeoutMs | .wrote _ timeoutMs _ _ | .read _ timeoutMs _ _ => some timeoutMs
  | _ => none

/-- The sockets opened so far, the client's own fields, and what has happened on the sockets.
`serviced` says whether the servicing hook has run since the last connect, read or write. -/
structure Network where
  connections : List Connection := []
  sock : Option Nat := none
  pid : Nat := 0
  events : List SocketEvent := []
  serviced : Bool := false
  deriving DecidableEq, Repr

/-- What a socket operation meets. `short` and `nothing` are about reads: at the end of the
stream a read returns fewer bytes, without a timeout none at all. -/
inductive SocketAnswer where
  | done
  | short (count : Nat)
  | nothing
  | fail (count : Nat)
  | memory
  deriving DecidableEq, Repr

namespace Network

def record (n : Network) (event : SocketEvent) : Network :=
  { n with
    events := n.events ++ [event]
    serviced := n.serviced && event.callTimeout?.isNone }

def current (n : Network) : Option (Nat × Connection) :=
  n.sock.bind (fun k => n.connections[k]?.map (fun c => (k, c)))

def put (n : Network) (k : Nat) (c : Connection) : Network :=
  { n with connections := n.connections.set k c }

/-- The step of a socket operation on the client's socket; a `None` has no methods. -/
def onSocket {α : Type} (n : Network) (method : String)
    (operation : Nat → Connection → Except Exc α × Network) : Except Exc α × Network :=
  match n.current with
  | none => (.error (.python
      (.attributeError s!"'NoneType' object has no attribute '{method}'")), n)
  | some (k, c) => operation k c

def write (owner : Option Owner) (bytes : Bytes) (n : Network) (a : SocketAnswer) :
    Except Exc Unit × Network :=
  n.onSocket "write" (fun k c =>
    let wrote (sent : Bytes) : Network :=
      (n.put k { c with written := c.written ++ sent }).record (.wrote k c.timeoutMs owner sent)
    match a with
    | .memory => (.error .memoryError, n)
    | .fail count => (.error (.osError "write"), wrote (bytes.take count))
    | _ => if c.closed then (.error (.osError "write"), n) else (.ok (), wrote bytes))

/-- `None` when nothing is there; fewer bytes than asked for at the end of the stream. -/
def read (size : Nat) (n : Network) (a : SocketAnswer) : Except Exc (Option Bytes) × Network :=
  n.onSocket "read" (fun k c =>
    let took (count : Nat) : Network :=
      (n.put k { c with consumed := c.consumed + (c.unread.take (min count size)).length }).record
        (.read k c.timeoutMs size (c.unread.take (min count size)))
    match a with
    | .memory => (.error .memoryError, n)
    | .fail count => (.error (.osError "read"), took count)
    | .nothing => (.ok none, took 0)
    | .short count => (.ok (some (c.unread.take (min count size))), took count)
    | .done => (.ok (some (c.unread.take size)), took size))

def settimeout (timeoutMs : Option Nat) (n : Network) (a : SocketAnswer) :
    Except Exc Unit × Network :=
  n.onSocket "settimeout" (fun k c => match a with
    | .fail _ => (.error (.osError "settimeout"), n)
    | .memory => (.error .memoryError, n)
    | _ => (.ok (), n.put k { c with timeoutMs := timeoutMs }))

def close (n : Network) (a : SocketAnswer) : Except Exc Unit × Network :=
  n.onSocket "close" (fun k c => match a with
    | .fail _ => (.error (.osError "close"), n)
    | .memory => (.error .memoryError, n)
    | _ => (.ok (), (n.put k { c with closed := true }).record (.closed k)))

/-- `socket.socket()`. -/
def openSocket (n : Network) (a : SocketAnswer) : Except Exc Unit × Network :=
  match a with
  | .fail _ => (.error (.osError "socket"), n)
  | .memory => (.error .memoryError, n)
  | _ => (.ok (), { n with
      connections := n.connections ++ [{}]
      sock := some n.connections.length
      events := n.events ++ [.opened n.connections.length] })

def getaddrinfo (n : Network) (a : SocketAnswer) : Except Exc Unit × Network :=
  match a with
  | .fail _ => (.error (.osError "getaddrinfo"), n)
  | .memory => (.error .memoryError, n)
  | _ => (.ok (), n)

def connectSocket (n : Network) (a : SocketAnswer) : Except Exc Unit × Network :=
  n.onSocket "connect" (fun k c => match a with
    | .fail _ => (.error (.osError "connect"), n.record (.connecting k c.timeoutMs))
    | .memory => (.error .memoryError, n)
    | _ => (.ok (), n.record (.connecting k c.timeoutMs)))

end Network

/-- The network and the application that uses it. -/
structure Sys (σ : Type) where
  net : Network
  app : σ

structure NetInput (κ : Type) where
  socket : SocketAnswer
  app : κ

abbrev NetProg (σ κ α : Type) := Proc (Sys σ) (NetInput κ) Exc α

section Programs

variable {σ κ α : Type}

def onNet (f : Network → SocketAnswer → Except Exc α × Network) : NetProg σ κ α :=
  .atomic (fun s i => ((f s.net i.socket).1, { s with net := (f s.net i.socket).2 }))

def onApp (p : Proc σ κ Exc α) : NetProg σ κ α :=
  p.zoom Sys.app (fun s app => { s with app := app }) NetInput.app id

def inspect (f : Sys σ → α) : NetProg σ κ α := .atomic (fun s _ => (.ok (f s), s))

end Programs

end PicoDualCore
