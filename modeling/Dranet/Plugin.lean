/-
This file models the kubelet device-plugin shim of package `driver`: the plugin record
`newPlugin` builds, the handlers of its gRPC services, and `run` and `register`, which serve
the plugin on a unix socket and register it with the kubelet.

The handlers are a state machine. `NotifyRegistrationStatus` and `Allocate` hold the
plugin's lock, and the other handlers read only fields that nothing writes after
`newPlugin`, so concurrent calls act as the calls taken one at a time in lock order: a run
is a list of requests. Over every run, only the last registration status counts.

`run` and `register` are written against the libraries they call (`net`, `grpc`,
`context`, `time`), gathered in a `PluginHost` over an arbitrary state. Their handle
discipline is read off the logged calls, as for the configuration engine: every socket,
server, connection and timeout context is used only while open, and released in the
reverse order of opening on every path. On success the socket and the server are handed
to the goroutine that stops them when the context ends.

The goroutine that serves the socket assigns `Serve`'s result to `run`'s own `err`, with no
synchronisation, and `run` reads that variable after registering. The host says at each of
those reads whether the write has landed. When it lands after a failed registration's
check, with the nil that `Stop` makes `Serve` return, `run` returns nil with nothing left
open and no goroutine left to stop the server.
-/

import Dranet.Engine

namespace Dranet

namespace Driver

/-! ### The plugin record -/

/-- `kubeletSocket`. -/
def kubeletSocket : String := "kubelet.sock"

/-- `pluginSocket`. -/
def pluginSocket : String := "dranet.sock"

/-- `resourceName`. -/
def resourceName : String := "dra.net"

/-- `pluginapi.DevicePluginPath`, the kubelet's directory of device-plugin sockets. -/
def devicePluginPath : String := "/var/lib/kubelet/device-plugins/"

/-- `devicePlugin`, with the fields its methods read or write. The gRPC server `s` is the
host's, and the lock `mu` is the order of the requests. -/
structure DevicePlugin where
  version : String
  resourceName : String
  endpoint : String
  name : String
  type : String
  registered : Bool
  registerError : Option GoError

/-- `registerapi.RegistrationStatus`. -/
structure RegistrationStatus where
  pluginRegistered : Bool
  error : String
  deriving DecidableEq, Repr

/-- `registerapi.PluginInfo`. -/
structure PluginInfo where
  type : String
  name : String
  deriving DecidableEq, Repr

/-- `v1beta1.ContainerAllocateResponse`. `Allocate` leaves every field at its zero value,
so none is modelled. -/
structure ContainerAllocateResponse where
  deriving DecidableEq, Repr

/-- `GetInfo`. -/
def DevicePlugin.getInfo (p : DevicePlugin) : PluginInfo :=
  { type := p.type, name := p.name }

/-- `NotifyRegistrationStatus`. The error is `fmt.Errorf(status.Error)`, the status's text
read as a format with no operands; fmt's rendering is not modelled, and the error is kept
as the call and its input. -/
def DevicePlugin.notifyRegistrationStatus (p : DevicePlugin) (status : RegistrationStatus) :
    DevicePlugin :=
  if status.pluginRegistered then { p with registered := true, registerError := none }
  else { p with registered := false, registerError := some (.library "fmt.Errorf" status.error) }

/-- `GetDevicePluginOptions`: `PreStartRequired` is false. -/
def getDevicePluginOptions : Bool := false

/-- `Allocate`: one empty response for each container request, whose device IDs are only
logged. -/
def allocate (containerRequests : List (List String)) : List ContainerAllocateResponse :=
  containerRequests.map fun _ => {}

/-- A call of the kubelet on the plugin's services. -/
inductive Request where
  | getInfo
  | notifyRegistrationStatus (status : RegistrationStatus)
  | getPreferredAllocation
  | getDevicePluginOptions
  | preStartContainer
  | allocate (containerRequests : List (List String))
  deriving DecidableEq, Repr

/-- The plugin's answer to a request. -/
inductive Response where
  | pluginInfo (info : PluginInfo)
  | registrationStatus
  | preferredAllocation
  | options (preStartRequired : Bool)
  | preStartContainer
  | allocate (containerResponses : List ContainerAllocateResponse)
  deriving DecidableEq, Repr

/-- One request: the plugin after it, and its answer. -/
def DevicePlugin.handle (p : DevicePlugin) : Request → DevicePlugin × Response
  | .getInfo => (p, .pluginInfo p.getInfo)
  | .notifyRegistrationStatus status => (p.notifyRegistrationStatus status, .registrationStatus)
  | .getPreferredAllocation => (p, .preferredAllocation)
  | .getDevicePluginOptions => (p, .options getDevicePluginOptions)
  | .preStartContainer => (p, .preStartContainer)
  | .allocate containerRequests => (p, .allocate (allocate containerRequests))

/-- A run of requests, in lock order: the plugin after them, and their answers. -/
def DevicePlugin.serve (p : DevicePlugin) : List Request → DevicePlugin × List Response
  | [] => (p, [])
  | request :: rest =>
    ((p.handle request).1.serve rest).map id ((p.handle request).2 :: ·)

/-- A later status overwrites all an earlier one set. -/
@[simp] theorem notifyRegistrationStatus_twice (p : DevicePlugin)
    (first later : RegistrationStatus) :
    (p.notifyRegistrationStatus first).notifyRegistrationStatus later =
      p.notifyRegistrationStatus later := by
  unfold DevicePlugin.notifyRegistrationStatus
  split_ifs <;> rfl

/-- A status leaves the plugin's type and name. -/
@[simp] theorem getInfo_notifyRegistrationStatus (p : DevicePlugin)
    (status : RegistrationStatus) : (p.notifyRegistrationStatus status).getInfo = p.getInfo := by
  unfold DevicePlugin.notifyRegistrationStatus
  split_ifs <;> rfl

/-- A listening unix socket. -/
abbrev Listener := Nat

/-- A gRPC server. -/
abbrev GrpcServer := Nat

/-- A gRPC client connection. -/
abbrev ClientConn := Nat

/-- A context with a deadline. -/
abbrev TimeoutContext := Nat

/-- `pluginapi.RegisterRequest`, with its options' `PreStartRequired`. -/
structure RegisterRequest where
  version : String
  endpoint : String
  resourceName : String
  preStartRequired : Bool
  deriving DecidableEq, Repr

/-- The calls `run` and `register` make, over the state `σ` of the node. -/
structure PluginHost (σ : Type) where
  /-- `net.Listen("unix", address)`. -/
  listen : String → StateM σ (Except GoError Listener)
  /-- `grpc.NewServer()`, with the device-plugin service registered on it. -/
  newServer : StateM σ GrpcServer
  /-- `go s.Serve(socket)`: the server starts serving the socket; its error is only logged. -/
  serve : GrpcServer → Listener → StateM σ Unit
  /-- `len(s.GetServiceInfo())`. -/
  serviceCount : GrpcServer → StateM σ Nat
  /-- `time.Sleep(1 * time.Second)`. -/
  sleep : StateM σ Unit
  /-- `s.Stop()`. -/
  stop : GrpcServer → StateM σ Unit
  /-- `socket.Close()`, whose error is dropped. -/
  closeListener : Listener → StateM σ Unit
  /-- `go func() { <-ctx.Done(); s.Stop(); socket.Close() }()`: the server and the socket
  are handed to a goroutine that stops and closes them when the context ends. -/
  stopOnDone : GrpcServer → Listener → StateM σ Unit
  /-- `context.WithTimeout(ctx, 1*time.Minute)`. -/
  withTimeout : StateM σ TimeoutContext
  /-- The cancel function `context.WithTimeout` returns. -/
  cancel : TimeoutContext → StateM σ Unit
  /-- `grpc.DialContext(ctx, target, grpc.WithBlock(), ...)`. -/
  dial : TimeoutContext → String → StateM σ (Except GoError ClientConn)
  /-- `conn.Close()`, whose error is dropped. -/
  closeConn : ClientConn → StateM σ Unit
  /-- `pluginapi.NewRegistrationClient(conn).Register(ctx, request)`. -/
  register : ClientConn → TimeoutContext → RegisterRequest → StateM σ (Option GoError)
  /-- Whether the serving goroutine's `err = p.s.Serve(socket)` has written `run`'s `err`
  since `run` last wrote it, and what it wrote: `Serve`'s error, or nil once `s.Stop()` has
  ended it. -/
  servingWrite : StateM σ (Option (Option GoError))

variable {σ : Type} (host : PluginHost σ)

/-- The kubelet's registration socket. -/
def kubeletPath : String := ⟨Path.join [devicePluginPath.toList, kubeletSocket.toList]⟩

/-- The request `register` sends: the plugin's API version and resource name, and its socket's
name in the kubelet's directory of plugin sockets. -/
def DevicePlugin.registerRequest (p : DevicePlugin) : RegisterRequest :=
  { version := p.version, endpoint := pluginSocket, resourceName := p.resourceName,
    preStartRequired := false }

/-- `register`: dial the kubelet within a minute and send the registration request. The
deferred `conn.Close()` and cancel run at every return after they are scheduled, the
connection's first. The dial error is printed after `failed to connect <path>, `. -/
def DevicePlugin.register (p : DevicePlugin) : StateM σ (Option GoError) := do
  let ctx ← host.withTimeout
  match ← host.dial ctx ("unix://" ++ kubeletPath) with
  | .error err =>
    host.cancel ctx
    pure (some (.printed ("failed to connect " ++ kubeletPath) err))
  | .ok conn =>
    let err ← host.register conn ctx p.registerRequest
    host.closeConn conn
    host.cancel ctx
    pure err

/-- The readiness wait of `run`: up to `tries` polls of the server's services, with a
second's sleep after each poll that finds none. -/
def waitForServices (server : GrpcServer) : Nat → StateM σ Unit
  | 0 => pure ()
  | tries + 1 => do
    if 1 ≤ (← host.serviceCount server) then pure ()
    else
      host.sleep
      waitForServices server tries

/-- `run`: listen on the plugin's endpoint, serve it, wait for the server for up to ten
polls, and register with the kubelet, whether or not the server reported ready. A failed
registration stops the server and closes the socket. `err` holds register's result unless
the serving goroutine's write has landed since; `if err != nil` and `return err` each read
it, and the goroutine writes once. -/
def DevicePlugin.run (p : DevicePlugin) : StateM σ (Option GoError) := do
  match ← host.listen p.endpoint with
  | .error err => pure (some err)
  | .ok socket =>
    let server ← host.newServer
    host.serve server socket
    waitForServices host server 10
    let registered ← p.register host
    let landed ← host.servingWrite
    match landed.getD registered with
    | some err =>
      host.stop server
      host.closeListener socket
      match landed with
      | some _ => pure (some err)
      | none => pure ((← host.servingWrite).getD (some err))
    | none =>
      host.stopOnDone server socket
      pure none

/-! ### The handles `run` holds -/

/-- A call of `run` or `register`, with its response. -/
inductive PluginCall where
  | listen (address : String) (response : Except GoError Listener)
  | newServer (server : GrpcServer)
  | serve (server : GrpcServer) (socket : Listener)
  | serviceCount (server : GrpcServer) (count : Nat)
  | sleep
  | stop (server : GrpcServer)
  | closeListener (socket : Listener)
  | stopOnDone (server : GrpcServer) (socket : Listener)
  | withTimeout (ctx : TimeoutContext)
  | cancel (ctx : TimeoutContext)
  | dial (ctx : TimeoutContext) (target : String) (response : Except GoError ClientConn)
  | closeConn (conn : ClientConn)
  | register (conn : ClientConn) (ctx : TimeoutContext) (request : RegisterRequest)
      (response : Option GoError)
  | servingWrite (landed : Option (Option GoError))

/-- `m`, with the call it makes logged together with its response. -/
def logged {α : Type} (call : α → PluginCall) (m : StateM σ α) :
    StateM (σ × List PluginCall) α :=
  fun state => ((m state.1).1, ((m state.1).2, state.2 ++ [call (m state.1).1]))

/-- The host that makes the calls of `host` and logs each. -/
def PluginHost.record : PluginHost (σ × List PluginCall) where
  listen address := logged (.listen address) (host.listen address)
  newServer := logged .newServer host.newServer
  serve server socket := logged (fun _ => .serve server socket) (host.serve server socket)
  serviceCount server := logged (.serviceCount server) (host.serviceCount server)
  sleep := logged (fun _ => .sleep) host.sleep
  stop server := logged (fun _ => .stop server) (host.stop server)
  closeListener socket := logged (fun _ => .closeListener socket) (host.closeListener socket)
  stopOnDone server socket :=
    logged (fun _ => .stopOnDone server socket) (host.stopOnDone server socket)
  withTimeout := logged .withTimeout host.withTimeout
  cancel ctx := logged (fun _ => .cancel ctx) (host.cancel ctx)
  dial ctx target := logged (.dial ctx target) (host.dial ctx target)
  closeConn conn := logged (fun _ => .closeConn conn) (host.closeConn conn)
  register conn ctx request :=
    logged (.register conn ctx request) (host.register conn ctx request)
  servingWrite := logged .servingWrite host.servingWrite

/-- What `run` and `register` hold open. -/
inductive Held where
  | listener (socket : Listener)
  | server (server : GrpcServer)
  | context (ctx : TimeoutContext)
  | conn (conn : ClientConn)
  /-- A server and its socket, handed to the goroutine that stops them when the context
  ends. -/
  | stopOnDone (server : GrpcServer) (socket : Listener)
  deriving DecidableEq, Repr

namespace Held

/-- A call on `resource`, which must be open. -/
def use (resource : Held) (held : List Held) : Option (List Held) :=
  if resource ∈ held then some held else none

/-- Releasing `resource`, which must be the one opened last. -/
def close (resource : Held) : List Held → Option (List Held)
  | top :: rest => if top = resource then some rest else none
  | [] => none

/-- What is open after `call`, or `none` when the call uses what is not open or releases
what was not opened last. -/
def step (held : List Held) : PluginCall → Option (List Held)
  | .listen _ (.ok socket) => some (.listener socket :: held)
  | .listen _ (.error _) => some held
  | .newServer grpc => some (.server grpc :: held)
  | .serve grpc socket => (use (.server grpc) held).bind (use (.listener socket))
  | .serviceCount grpc _ => use (.server grpc) held
  | .sleep => some held
  | .stop grpc => close (.server grpc) held
  | .closeListener socket => close (.listener socket) held
  | .stopOnDone grpc socket =>
    ((close (.server grpc) held).bind (close (.listener socket))).map
      (.stopOnDone grpc socket :: ·)
  | .withTimeout ctx => some (.context ctx :: held)
  | .cancel ctx => close (.context ctx) held
  | .dial ctx _ (.ok client) => (use (.context ctx) held).map (.conn client :: ·)
  | .dial ctx _ (.error _) => use (.context ctx) held
  | .closeConn client => close (.conn client) held
  | .register client ctx _ _ => (use (.conn client) held).bind (use (.context ctx))
  | .servingWrite _ => some held

/-- What is open after the calls of a log, from `held`. -/
def replay : List Held → List PluginCall → Option (List Held)
  | held, [] => some held
  | held, call :: rest => (step held call).bind fun held => replay held rest

theorem replay_append (held : List Held) (calls later : List PluginCall) :
    replay held (calls ++ later) = (replay held calls).bind fun held => replay held later := by
  induction calls generalizing held with
  | nil => rfl
  | cons call rest inductionHypothesis =>
    rw [List.cons_append, replay, replay]
    simp only [inductionHypothesis, Option.bind_assoc]

end Held

open Held

@[simp] theorem PluginHost.record_serviceCount (server : GrpcServer) :
    host.record.serviceCount server = logged (.serviceCount server) (host.serviceCount server) :=
  rfl

@[simp] theorem PluginHost.record_sleep : host.record.sleep = logged (fun _ => .sleep) host.sleep :=
  rfl

end Driver

end Dranet
