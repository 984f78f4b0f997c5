import Slim.ConnectionRegistries
import Slim.GoText

/-!
# Routes: `slimctl/internal/cmd/route/route.go` and `controller/src/service.rs`

`slimctl` sends the controller a connection to create and a route that names the connection by
its id.  The id is the endpoint as the user has typed it.  The controller does not read the
id of the connection: it enters the connection under its address and its port, printed again,
and looks the id of the route up among these.  So the two agree only on endpoints that
printing gives back.
-/

namespace Slim

open HashKey GoText Machine

/-- A connection of a `ConfigurationCommand`. -/
structure ControlConnection where
  connectionId : String
  remoteAddress : String
  remotePort : Int
deriving DecidableEq, Repr

structure ConfigurationCommand where
  connectionsToCreate : List ControlConnection
  subscriptionsToSet : List ControlSubscription
  subscriptionsToDelete : List ControlSubscription
deriving DecidableEq, Repr

/-! ## slimctl -/

namespace Slimctl

inductive EndpointError where
  | notSplit (error : AddrError)
  | missingHost
  | invalidPort (portStr : String) (error : NumError)
  | portOutOfRange (port : Int)
deriving DecidableEq, Repr

/-- The errors of the two commands.  Only `del` says that it was the endpoint. -/
inductive RouteError where
  | expectedVia (word : String)
  | invalidRoute (route : String)
  | invalidAgentId (text : String)
  | endpoint (error : EndpointError)
  | invalidEndpoint (endpoint : String) (error : EndpointError)
deriving DecidableEq, Repr

def parseRoute (route : String) : Except RouteError (String × String × String × UInt64) :=
  match (route.toList.splitOn '/').map String.ofList with
  | [organization, nameSpace, agentType, agentId] =>
      if organization = "" ∨ nameSpace = "" ∨ agentType = "" ∨ agentId = "" then
        .error (.invalidRoute route)
      else
        match parseUint 64 agentId.toList with
        | .error _ => .error (.invalidAgentId agentId)
        | .ok id => .ok (organization, nameSpace, agentType, UInt64.ofNat id)
  | _ => .error (.invalidRoute route)

def parseEndpoint (endpoint : String) : Except EndpointError (ControlConnection × String) :=
  match splitHostPort endpoint.toList with
  | .error e => .error (.notSplit e)
  | .ok (host, portStr) =>
      if host.isEmpty then .error .missingHost
      else
        match parseInt 32 portStr with
        | .error e => .error (.invalidPort (String.ofList portStr) e)
        | .ok port =>
            if port ≤ 0 ∨ 65535 < port then .error (.portOutOfRange port)
            else
              let connId := endpoint
              .ok (⟨connId, String.ofList host, port⟩, connId)

/-- `unicode.ToLower` on the letters of which it makes one of the keyword: besides the capital
    letters that is the capital I with a dot. -/
def toLower (c : Char) : Char := if c = 'İ' then 'i' else c.toLower

/-- What both commands read of their arguments before the endpoint. -/
def parseArguments (routeId via : String) :
    Except RouteError (String × String × String × UInt64) :=
  if via.toList.map toLower ≠ ['v', 'i', 'a'] then .error (.expectedVia via) else parseRoute routeId

/-- The message that `newAddCmd` sends. -/
def newAddCmd (routeId via endpoint : String) : Except RouteError ConfigurationCommand := do
  let (organization, nameSpace, agentType, agentId) ← parseArguments routeId via
  let (conn, connId) ← (parseEndpoint endpoint).mapError RouteError.endpoint
  return {
    connectionsToCreate := [conn]
    subscriptionsToSet := [⟨organization, nameSpace, agentType, some agentId, connId⟩]
    subscriptionsToDelete := [] }

/-- The message that `newDelCmd` sends. -/
def newDelCmd (routeId via endpoint : String) : Except RouteError ConfigurationCommand := do
  let (organization, nameSpace, agentType, agentId) ← parseArguments routeId via
  let (_, connId) ← (parseEndpoint endpoint).mapError (RouteError.invalidEndpoint endpoint)
  return {
    connectionsToCreate := []
    subscriptionsToSet := []
    subscriptionsToDelete := [⟨organization, nameSpace, agentType, some agentId, connId⟩] }

end Slimctl

/-! ## The controller -/

/-- The endpoint that the controller makes of the address and the port. -/
def ControlConnection.clientEndpoint (conn : ControlConnection) : String :=
  conn.remoteAddress ++ ":" ++ toString conn.remotePort

/-- What opening a connection comes to: the endpoint is no URI, or nobody answers. -/
inductive ConnectOutcome where
  | invalidConfig
  | refused
  | connected
deriving DecidableEq, Repr

/-- What the controller finds in the network: whether an endpoint has an address, and what
    opening a connection to it comes to. -/
structure Network where
  resolves : String → Bool
  connect : String → ConnectOutcome

/-- The errors of `ControllerError` that a command returns. -/
inductive ControllerError where
  | connectionError
deriving DecidableEq, Repr

/-- What a command has led to: the messages for the data plane, the ids in the errors
    "connection … not found", and the field of the acknowledgement. -/
structure ConfigReport where
  subscribed : List (Except AccessPanic ProtoMessage)
  unsubscribed : List ProtoMessage
  notFound : List String
  success : Bool

namespace Node

/-- One turn of the loop over `connections_to_create`.  An endpoint that is no URI is passed
    over. -/
def createConnection (node : Node) (network : Network) (conn : ControlConnection) :
    Node × Except ControllerError Unit :=
  let clientEndpoint := conn.clientEndpoint
  if network.resolves clientEndpoint then
    if node.connections.contains clientEndpoint then (node, .ok ())
    else
      match network.connect clientEndpoint with
      | .invalidConfig => (node, .ok ())
      | .refused => (node, .error .connectionError)
      | .connected =>
          match node.establish (.client (RegistryKind.controller.endpoint clientEndpoint)) with
          | some (index, left) => (left.insertEntry clientEndpoint index .controller, .ok ())
          | none => (node, .error .connectionError)
  else (node, .error .connectionError)

/-- The loop over `connections_to_create`, with the network as each turn finds it.  It returns
    at the first endpoint that does not resolve or refuses. -/
def createConnections (network : Nat → Network) (node : Node) (turn : Nat) :
    List ControlConnection → Node × Except ControllerError Unit
  | [] => (node, .ok ())
  | conn :: rest =>
      match node.createConnection (network turn) conn with
      | (left, .ok ()) => createConnections network left (turn + 1) rest
      | (left, .error e) => (left, .error e)

/-- The ids of the subscriptions whose connection is not there. -/
def unknownConnections (node : Node) (subscriptions : List ControlSubscription) : List String :=
  (subscriptions.map ControlSubscription.connectionId).filter fun id =>
    !node.connections.contains id

/-- A command, on a network that stays as it is. -/
def handleConfigCommand [NameHash] (node : Node) (network : Network)
    (command : ConfigurationCommand) : Node × Except ControllerError ConfigReport :=
  match node.createConnections (fun _ => network) 0 command.connectionsToCreate with
  | (left, .error e) => (left, .error e)
  | (left, .ok ()) =>
      (left, .ok {
        subscribed := command.subscriptionsToSet.filterMap left.subscribeMessage
        unsubscribed := command.subscriptionsToDelete.filterMap left.unsubscribeMessage
        notFound := left.unknownConnections command.subscriptionsToSet ++
          left.unknownConnections command.subscriptionsToDelete
        success := true })

end Node

/-! ## Which endpoints the two agree on -/

namespace Slimctl

/-- The endpoint has no brackets, and its port has neither a sign nor a leading zero. -/
def Plain (endpoint : String) : Prop :=
  match splitHostPort endpoint.toList with
  | .ok (_, port) =>
      endpoint.toList.head? ≠ some '[' ∧ port.head? ≠ some '+' ∧ port.head? ≠ some '0'
  | .error _ => False

/-- What an accepted endpoint was read as. -/
structure Parsed (endpoint : String) (conn : ControlConnection) (connId : String)
    (host port : List Char) : Prop where
  split : splitHostPort endpoint.toList = .ok (host, port)
  host_ne_nil : host ≠ []
  number : parseInt 32 port = .ok conn.remotePort
  positive : 0 < conn.remotePort
  address : conn.remoteAddress = String.ofList host
  id_eq : connId = endpoint

theorem parsed_of_parseEndpoint {endpoint : String} {conn : ControlConnection} {connId : String}
    (hparse : parseEndpoint endpoint = .ok (conn, connId)) :
    ∃ host port, Parsed endpoint conn connId host port := by
  unfold parseEndpoint at hparse
  rcases hsplit : splitHostPort endpoint.toList with e | ⟨host, port⟩
  · simp [hsplit] at hparse
  simp only [hsplit] at hparse
  split at hparse
  · cases hparse
  next hhost =>
    rcases hnumber : parseInt 32 port with e | number
    · simp [hnumber] at hparse
    simp only [hnumber] at hparse
    split at hparse
    · cases hparse
    next hrange =>
      simp only [Except.ok.injEq, Prod.mk.injEq] at hparse
      obtain ⟨rfl, rfl⟩ := hparse
      exact ⟨host, port, hsplit, by simpa using hhost, hnumber, by simp only []; omega, rfl, rfl⟩

section Parsed

variable {endpoint connId : String} {conn : ControlConnection} {host port : List Char}

/-- What the controller prints. -/
theorem Parsed.toList_clientEndpoint (hs : Parsed endpoint conn connId host port) :
    conn.clientEndpoint.toList = host ++ ':' :: Nat.toDigits 10 conn.remotePort.toNat := by
  obtain ⟨number, hnumber⟩ := Int.eq_ofNat_of_zero_le hs.positive.le
  have hprinted : toString conn.remotePort = toString number := by rw [hnumber]; rfl
  rw [ControlConnection.clientEndpoint, hprinted, hs.address, hnumber]
  simp [String.toList_append, Nat.toString_eq_repr, Nat.toList_repr]

theorem Parsed.opening (hs : Parsed endpoint conn connId host port) : '[' ∉ host := by
  have hsplits := splits_of_splitHostPort hs.split
  generalize endpoint.toList = chars at hsplits
  cases hsplits with
  | plain hopening hcolons => exact hopening
  | bracketed hopening hcolons => exact hopening

theorem Parsed.head_ne (hs : Parsed endpoint conn connId host port) (rest : List Char) :
    (host ++ rest).head? ≠ some '[' := by
  have hopening := hs.opening
  obtain ⟨first, tail, rfl⟩ := List.exists_cons_of_ne_nil hs.host_ne_nil
  simp only [List.mem_cons, not_or] at hopening
  simpa using Ne.symm hopening.1

/-- Printing gives the endpoint back exactly if it is plain. -/
theorem Parsed.eq_clientEndpoint_iff (hs : Parsed endpoint conn connId host port) :
    endpoint = conn.clientEndpoint ↔ Plain endpoint := by
  have hplain : Plain endpoint ↔ endpoint.toList.head? ≠ some '[' ∧ port.head? ≠ some '+' ∧
      port.head? ≠ some '0' := by
    simp only [Plain, hs.split]
  rw [hplain, ← eq_toDigits_iff_of_parseInt hs.number hs.positive, ← String.toList_inj,
    hs.toList_clientEndpoint]
  have hsplits := splits_of_splitHostPort hs.split
  generalize endpoint.toList = chars at hsplits
  cases hsplits with
  | plain hopening hcolons =>
      have hhead := hs.head_ne (':' :: port)
      simp only [hhead, ne_eq, not_false_eq_true, true_and, List.append_cancel_left_eq,
        List.cons.injEq]
  | bracketed hopening hcolons =>
      simp only [List.head?_cons, ne_eq, not_true_eq_false, false_and, iff_false]
      intro heq
      exact hs.head_ne _ (by rw [← heq]; rfl)

end Parsed

/-- An endpoint for which `slimctl` and the controller use one name: a route that is added
    together with its connection goes through it, and so does the removal of a route over a
    connection that was created for the same address and port. -/
structure Agrees [NameHash] (endpoint : String) (conn : ControlConnection) (connId : String) :
    Prop where
  same_name : connId = conn.clientEndpoint
  add_finds : ∀ routeId via command (node left : Node) network report index,
    newAddCmd routeId via endpoint = .ok command →
    node.handleConfigCommand network command = (left, .ok report) →
    left.connections.get? conn.clientEndpoint = some index →
    report.notFound = [] ∧
      ∃ msg, report.subscribed = [.ok msg] ∧ Node.RoutesThrough msg index
  del_finds : ∀ first firstConn firstId routeId via command (node : Node) network index,
    parseEndpoint first = .ok (firstConn, firstId) →
    firstConn.remoteAddress = conn.remoteAddress → firstConn.remotePort = conn.remotePort →
    node.connections.get? firstConn.clientEndpoint = some index →
    newDelCmd routeId via endpoint = .ok command →
    ∃ report, node.handleConfigCommand network command = (node, .ok report) ∧
      report.notFound = [] ∧
      ∃ msg, report.unsubscribed = [msg] ∧ Node.RoutesThrough msg index

section Commands

variable {routeId via endpoint connId : String} {command : ConfigurationCommand}
  {conn : ControlConnection}

/-- `add` creates the connection and sets the route over its id. -/
theorem command_of_newAddCmd (hparse : parseEndpoint endpoint = .ok (conn, connId))
    (hadd : newAddCmd routeId via endpoint = .ok command) :
    ∃ subscription, command = ⟨[conn], [subscription], []⟩ ∧
      subscription.connectionId = connId := by
  obtain ⟨⟨organization, nameSpace, agentType, agentId⟩, -, hadd⟩ := bind_eq_ok hadd
  rw [hparse] at hadd
  obtain rfl := Except.ok.inj hadd
  exact ⟨_, rfl, rfl⟩

theorem command_of_newDelCmd (hparse : parseEndpoint endpoint = .ok (conn, connId))
    (hdel : newDelCmd routeId via endpoint = .ok command) :
    ∃ subscription, command = ⟨[], [], [subscription]⟩ ∧ subscription.connectionId = connId := by
  obtain ⟨⟨organization, nameSpace, agentType, agentId⟩, -, hdel⟩ := bind_eq_ok hdel
  rw [hparse] at hdel
  obtain rfl := Except.ok.inj hdel
  exact ⟨_, rfl, rfl⟩

end Commands

end Slimctl

namespace Node

section Lookup

variable {node : Node} {subscription : ControlSubscription} {index : Nat}

theorem unknownConnections_of_get
    (hget : node.connections.get? subscription.connectionId = some index) :
    node.unknownConnections [subscription] = [] := by
  simp [unknownConnections, HashMap.contains, hget]

variable [NameHash]

theorem subscribeMessage_of_get
    (hget : node.connections.get? subscription.connectionId = some index) :
    ∃ msg, node.subscribeMessage subscription = some (.ok msg) ∧ RoutesThrough msg index := by
  simp only [subscribeMessage, hget]
  exact ⟨_, rfl, _, rfl, rfl⟩

theorem unsubscribeMessage_of_get
    (hget : node.connections.get? subscription.connectionId = some index) :
    ∃ msg, node.unsubscribeMessage subscription = some msg ∧ RoutesThrough msg index := by
  simp only [unsubscribeMessage, hget]
  exact ⟨_, rfl, _, rfl, rfl⟩

end Lookup

end Node

namespace Slimctl

/-- For every endpoint that is accepted, the two use one name for its connection exactly if the
    endpoint is plain. -/
theorem endpoint_agrees_iff [NameHash] {endpoint connId : String} {conn : ControlConnection}
    (hparse : parseEndpoint endpoint = .ok (conn, connId)) :
    Agrees endpoint conn connId ↔ Plain endpoint := by
  obtain ⟨host, port, hs⟩ := parsed_of_parseEndpoint hparse
  rw [← hs.eq_clientEndpoint_iff]
  constructor
  · intro hagrees
    rw [← hs.id_eq]
    exact hagrees.same_name
  · intro heq
    have hname : connId = conn.clientEndpoint := hs.id_eq.trans heq
    refine ⟨hname, ?_, ?_⟩
    · intro routeId via command node left network report index hadd hhandled hget
      obtain ⟨subscription, rfl, hid⟩ := command_of_newAddCmd hparse hadd
      rw [← hname, ← hid] at hget
      obtain ⟨msg, hmsg, hroutes⟩ := Node.subscribeMessage_of_get hget
      unfold Node.handleConfigCommand at hhandled
      rcases hcreated : node.createConnections (fun _ => network) 0 [conn] with ⟨created, e | ⟨⟩⟩
      · simp [hcreated] at hhandled
      · simp only [hcreated, Prod.mk.injEq, Except.ok.injEq] at hhandled
        obtain ⟨rfl, rfl⟩ := hhandled
        refine ⟨?_, msg, ?_, hroutes⟩
        · simp only [Node.unknownConnections_of_get hget, List.nil_append]
          rfl
        · simp [hmsg]
    · intro first firstConn firstId routeId via command node network index hfirst haddress hport
        hget hdel
      obtain ⟨subscription, rfl, hid⟩ := command_of_newDelCmd hparse hdel
      have hsame : firstConn.clientEndpoint = subscription.connectionId := by
        rw [hid, hname, ControlConnection.clientEndpoint, haddress, hport,
          ControlConnection.clientEndpoint]
      rw [hsame] at hget
      obtain ⟨msg, hmsg, hroutes⟩ := Node.unsubscribeMessage_of_get hget
      refine ⟨_, rfl, ?_, msg, ?_, hroutes⟩
      · simp only [Node.unknownConnections_of_get hget, List.append_nil]
        rfl
      · simp [hmsg]

/-- The port is written with a leading zero. -/
def sampleEndpoint : String := "127.0.0.1:046357"

/-- Everything resolves and answers. -/
def openNetwork : Network := ⟨fun _ => true, fun _ => .connected⟩

/-- The connection is created, the route over it is not found, and the command is reported to
    have succeeded. -/
theorem leading_zero_not_found :
    ∃ conn command left report,
      parseEndpoint sampleEndpoint = .ok (conn, sampleEndpoint) ∧
      newAddCmd "org/ns/agent/1" "via" sampleEndpoint = .ok command ∧
      @Node.handleConfigCommand sampleHash Node.new openNetwork command = (left, .ok report) ∧
      left.connections.get? conn.clientEndpoint = some 0 ∧
      report.notFound = [sampleEndpoint] ∧ report.success = true ∧
      ¬ @Agrees sampleHash sampleEndpoint conn sampleEndpoint := by
  refine ⟨_, _, _, _, rfl, rfl, rfl, rfl, rfl, rfl, fun hagrees => ?_⟩
  exact absurd (@Agrees.same_name sampleHash _ _ _ hagrees) (by decide)

/-- The port is written as it is printed. -/
theorem endpoint_agrees_sample :
    ∃ conn, @Agrees sampleHash "127.0.0.1:46357" conn "127.0.0.1:46357" := by
  refine ⟨_, (@endpoint_agrees_iff sampleHash "127.0.0.1:46357" "127.0.0.1:46357" _ rfl).2 ?_⟩
  exact (by decide : ['1', '2', '7'].head? ≠ some '[' ∧ ['4'].head? ≠ some '+' ∧
    ['4'].head? ≠ some '0')

end Slimctl

end Slim
