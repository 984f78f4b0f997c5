import Mathlib.Data.List.Perm.Subperm
import Mathlib.Data.List.Range
import Slim.ControllerCommands
import Slim.MessageProcessing
import Slim.Sequences

/-!
# The listings of the controller: `controller/src/service.rs`

A list request is answered by the entries of a table in chunks.  The scan of the connection
table ends at `max_set`, every connection is listed as a remote one, and the names of a type
that has no strings are all taken from its organization.  A chunk that finds the reply channel
full is dropped.
-/

namespace Slim

open HashKey Runs Sequences

/-! ## The tables -/

structure SocketAddr where
  ip : String
  port : UInt16
deriving DecidableEq, Repr

/-- A connection with the address that `remote_addr` returns. -/
structure PeerConnection extends Connection where
  remoteAddr : Option SocketAddr
deriving DecidableEq, Repr

/-! ## The entries -/

/-- The address of a connection as it is listed. -/
def listedAddress (connection : Option PeerConnection) : String × Nat :=
  match connection.bind PeerConnection.remoteAddr with
  | some sock => (sock.ip, sock.port.toNat)
  | none => ("", 0)

/-- Every connection of the table is listed as a remote one. -/
def connectionEntry (item : Nat × PeerConnection) : ConnectionEntry :=
  let (ip, port) := listedAddress (some item.2)
  ⟨item.1, .Remote, ip, port⟩

/-- For the namespace and the type too it is the organization that is printed if there are no
    strings. -/
def listedName (agentType : AgentType) (text : String × String × String → String) : String :=
  (agentType.strings.map text).getD (toString agentType.organization)

/-- What `for_each` of the subscription table hands out: type, id, local and remote connections. -/
abbrev SubscriptionItem := AgentType × UInt64 × List Nat × List Nat

def subscriptionEntry (f : Forwarder PeerConnection) (item : SubscriptionItem) :
    SubscriptionEntry where
  organization := listedName item.1 fun strings => strings.1
  nameSpace := listedName item.1 fun strings => strings.2.1
  agentType := listedName item.1 fun strings => strings.2.2
  agentId := some item.2.1
  localConnections := item.2.2.1.map fun cid => ⟨cid, .Local, "", 0⟩
  remoteConnections := item.2.2.2.map fun cid =>
    let (ip, port) := listedAddress (f.getConnection cid)
    ⟨cid, .Remote, ip, port⟩

/-! ## The reply channel -/

def CHUNK_SIZE : Nat := 100

def REPLY_CAPACITY : Nat := 128

/-- The open reply channel: what the reader has not taken yet, and the replies that were put into
    it since the request. -/
structure ReplyChannel where
  queue : List ControlMessage
  carried : List ControlMessage
  bounded : queue.length ≤ REPLY_CAPACITY

namespace ReplyChannel

def drain (channel : ReplyChannel) (taken : Nat) : ReplyChannel where
  queue := channel.queue.drop taken
  carried := channel.carried
  bounded := by
    have hbounded := channel.bounded
    rw [List.length_drop]
    omega

/-- A full channel refuses the message. -/
def trySend (channel : ReplyChannel) (message : ControlMessage) : ReplyChannel :=
  if hroom : channel.queue.length < REPLY_CAPACITY then
    { queue := channel.queue ++ [message]
      carried := channel.carried ++ [message]
      bounded := by
        rw [List.length_append, List.length_singleton]
        omega }
  else channel

/-- The reader takes some messages, then one is sent. -/
def step (channel : ReplyChannel) (send : Nat × ControlMessage) : ReplyChannel :=
  (channel.drain send.1).trySend send.2

/-- The channel has room for the message when it is sent. -/
def Accepts (channel : ReplyChannel) (send : Nat × ControlMessage) : Prop :=
  (channel.drain send.1).queue.length < REPLY_CAPACITY

theorem carried_step_of_accepts {channel : ReplyChannel} {send : Nat × ControlMessage}
    (hroom : channel.Accepts send) : (channel.step send).carried = channel.carried ++ [send.2] := by
  rw [Accepts] at hroom
  rw [step, trySend, dif_pos hroom]
  rfl

theorem carried_step_of_not_accepts {channel : ReplyChannel} {send : Nat × ControlMessage}
    (hfull : ¬ channel.Accepts send) : (channel.step send).carried = channel.carried := by
  rw [Accepts] at hfull
  rw [step, trySend, dif_neg hfull]
  rfl

/-- What gets through is a part of what is sent, and all of it exactly if there is always room. -/
theorem carried_run (sends : List (Nat × ControlMessage)) : ∀ channel : ReplyChannel,
    ∃ accepted : List (Nat × ControlMessage),
      (run step channel sends).carried = channel.carried ++ accepted.map Prod.snd ∧
        accepted.Sublist sends ∧
        (accepted.length = sends.length ↔ Along step Accepts channel sends) := by
  induction sends with
  | nil =>
      intro channel
      exact ⟨[], (List.append_nil _).symm, .slnil, iff_of_true rfl trivial⟩
  | cons send rest ih =>
      intro channel
      obtain ⟨accepted, hcarried, hsub, hall⟩ := ih (channel.step send)
      by_cases hroom : channel.Accepts send
      · refine ⟨send :: accepted, ?_, hsub.cons_cons send, ?_⟩
        · rw [run_cons, hcarried, carried_step_of_accepts hroom]
          simp
        · simp [Along, hroom, ← hall]
      · refine ⟨accepted, ?_, hsub.cons send, ?_⟩
        · rw [run_cons, hcarried, carried_step_of_not_accepts hroom]
        · have hlength := hsub.length_le
          refine iff_of_false ?_ fun halong => hroom halong.1
          rw [List.length_cons]
          omega

/-- A full channel that nobody reads stays as it is. -/
theorem run_of_full {channel : ReplyChannel} (hfull : channel.queue.length = REPLY_CAPACITY)
    {sends : List (Nat × ControlMessage)} (hidle : ∀ send ∈ sends, send.1 = 0) :
    run step channel sends = channel := by
  refine run_invariant (I := fun reached => reached = channel)
    (P := fun _ send => send.1 = 0) ?_ sends channel (along_of_forall sends channel hidle) rfl
  intro reached send hreached htaken
  subst hreached
  have hdrain : reached.drain send.1 = reached := by
    simp only [drain, htaken, List.drop_zero]
  rw [step, hdrain, trySend, dif_neg (by omega)]

end ReplyChannel

/-! ## The requests -/

/-- What a request meets: the replies that the reader has not taken, how many it takes before
    each of the sends, and the ids drawn for the responses. -/
structure ReplyEnvironment where
  queue : List ControlMessage
  bounded : queue.length ≤ REPLY_CAPACITY
  drained : Nat → Nat
  uuid : Nat → String

namespace ReplyEnvironment

variable {α : Type} (env : ReplyEnvironment) (payload : List α → ControlPayload)

/-- The responses, one for each chunk, each with what the reader takes before it. -/
def sends (entries : List α) : List (Nat × ControlMessage) :=
  (chunks CHUNK_SIZE entries).zipIdx.map fun piece =>
    (env.drained piece.2, ⟨env.uuid piece.2, some (payload piece.1)⟩)

/-- The channel when the request has been answered. -/
def respond (entries : List α) : ReplyChannel :=
  run ReplyChannel.step ⟨env.queue, [], env.bounded⟩ (env.sends payload entries)

/-- Every response finds room in the channel. -/
def AllFit (entries : List α) : Prop :=
  Along ReplyChannel.step ReplyChannel.Accepts ⟨env.queue, [], env.bounded⟩
    (env.sends payload entries)

variable (entriesOf : ControlMessage → List α)

theorem map_sends (hentries : ∀ id chunk, entriesOf ⟨id, some (payload chunk)⟩ = chunk)
    (entries : List α) :
    (env.sends payload entries).map (fun send => entriesOf send.2) = chunks CHUNK_SIZE entries := by
  simp [sends, Function.comp_def, hentries]

/-- The responses carry entries of the table, and all of them exactly if they all fit. -/
theorem carried_respond (hentries : ∀ id chunk, entriesOf ⟨id, some (payload chunk)⟩ = chunk)
    (entries : List α) :
    ((env.respond payload entries).carried.flatMap entriesOf).Sublist entries ∧
      (((env.respond payload entries).carried.flatMap entriesOf).length = entries.length ↔
        env.AllFit payload entries) := by
  obtain ⟨accepted, hcarried, hsub, hall⟩ :=
    ReplyChannel.carried_run (env.sends payload entries) ⟨env.queue, [], env.bounded⟩
  have hsends := env.map_sends payload entriesOf hentries entries
  have hcarries : (env.respond payload entries).carried.flatMap entriesOf =
      accepted.flatMap fun send => entriesOf send.2 := by
    rw [respond, hcarried, List.nil_append, List.flatMap_map]
  have hentire : ((env.sends payload entries).flatMap fun send => entriesOf send.2) = entries := by
    rw [List.flatMap_def, hsends, flatten_chunks (by decide)]
  have hne : ∀ send ∈ env.sends payload entries, entriesOf send.2 ≠ [] := by
    intro send hsend
    have hchunk : entriesOf send.2 ∈ chunks CHUNK_SIZE entries := by
      rw [← hsends]
      exact List.mem_map_of_mem hsend
    exact ne_nil_of_mem_chunks (by decide) hchunk
  rw [hcarries]
  constructor
  · have hpart := hsub.flatMap fun send => entriesOf send.2
    rwa [hentire] at hpart
  · rw [AllFit, ← hall, ← length_flatMap_eq_iff hsub hne, hentire]

/-- Nothing gets through a full channel that nobody reads. -/
theorem carried_of_full (hfull : env.queue.length = REPLY_CAPACITY)
    (hidle : ∀ index, env.drained index = 0) (entries : List α) :
    (env.respond payload entries).carried = [] := by
  have hsends : ∀ send ∈ env.sends payload entries, send.1 = 0 := by
    intro send hsend
    obtain ⟨piece, -, rfl⟩ := List.mem_map.1 hsend
    exact hidle piece.2
  rw [respond, ReplyChannel.run_of_full hfull hsends]

end ReplyEnvironment

namespace ControlMessage

/-- The entries that a `ConnectionListResponse` carries. -/
def connectionEntries (message : ControlMessage) : List ConnectionEntry :=
  match message.payload with
  | some (.connectionListResponse entries) => entries
  | _ => []

/-- The entries that a `SubscriptionListResponse` carries. -/
def subscriptionEntries (message : ControlMessage) : List SubscriptionEntry :=
  match message.payload with
  | some (.subscriptionListResponse entries) => entries
  | _ => []

end ControlMessage

namespace Forwarder

/-- `handle_new_control_message` for a `ConnectionListRequest`. -/
def listConnections (f : Forwarder PeerConnection) (env : ReplyEnvironment) : ReplyChannel :=
  env.respond .connectionListResponse (f.connectionTable.forEach.map connectionEntry)

/-- `handle_new_control_message` for a `SubscriptionListRequest`.  The order is the one in which
    the maps of the table are iterated. -/
def listSubscriptions (f : Forwarder PeerConnection) (order : IterOrder SubscriptionItem)
    (env : ReplyEnvironment) : ReplyChannel :=
  env.respond .subscriptionListResponse
    ((order.arrange f.subscriptionTable.forEach).map (subscriptionEntry f))

end Forwarder

/-! ## What the listings should be -/

/-- How a connection should be listed: `Local` exactly if it is a local one. -/
def expectedConnection (item : Nat × PeerConnection) : Nat × ListedType :=
  (item.1, if item.2.isLocalConnection then .Local else .Remote)

/-- There is one entry for each connection of the table, with its type. -/
def ConnectionsListed (f : Forwarder PeerConnection) (channel : ReplyChannel) : Prop :=
  ((channel.carried.flatMap ControlMessage.connectionEntries).map fun entry =>
    (entry.id, entry.connectionType)).Perm (f.connectionTable.live.map expectedConnection)

/-- The three names, the id, and the connections of an entry with their types. -/
abbrev SubscriptionView :=
  (String × String × String) × Option UInt64 × List (Nat × ListedType) × List (Nat × ListedType)

def SubscriptionEntry.view (entry : SubscriptionEntry) : SubscriptionView :=
  ((entry.organization, entry.nameSpace, entry.agentType), entry.agentId,
    entry.localConnections.map fun connection => (connection.id, connection.connectionType),
    entry.remoteConnections.map fun connection => (connection.id, connection.connectionType))

/-- The names of a type: its strings, or its own three numbers. -/
def AgentType.names (agentType : AgentType) : String × String × String :=
  agentType.strings.getD (toString agentType.organization, toString agentType.nameSpace,
    toString agentType.agentType)

/-- How a type and id should be listed. -/
def expectedSubscription (item : SubscriptionItem) : SubscriptionView :=
  (item.1.names, some item.2.1, item.2.2.1.map (·, .Local), item.2.2.2.map (·, .Remote))

/-- There is one entry for each type and id of the table, with its connections. -/
def SubscriptionsListed (f : Forwarder PeerConnection) (channel : ReplyChannel) : Prop :=
  ((channel.carried.flatMap ControlMessage.subscriptionEntries).map SubscriptionEntry.view).Perm
    (f.subscriptionTable.forEach.map expectedSubscription)

/-- Printing the organization for all three names is right. -/
def AgentType.Nameable (agentType : AgentType) : Prop :=
  agentType.strings = none →
    agentType.nameSpace = agentType.organization ∧ agentType.agentType = agentType.organization

/-- The items have one for each type and id of the table, with its two lists of connections. -/
structure OnePerSubscription (table : SubTable) (items : List SubscriptionItem) : Prop where
  unique : (items.map fun item => (key item.1, item.2.1)).Nodup
  complete : ∀ agentType id state connections, table.get? agentType = some state →
    state.ids.get? id = some connections →
      ∃ item ∈ items, key item.1 = key agentType ∧
        item.2 = (id, connections (sideIndex true), connections (sideIndex false))
  sound : ∀ item ∈ items, ∃ state connections, table.get? item.1 = some state ∧
    state.ids.get? item.2.1 = some connections ∧
      item.2.2 = (connections (sideIndex true), connections (sideIndex false))

/-! ## Subscriptions -/

theorem SubscriptionTableImpl.onePerSubscription_forEach (s : SubscriptionTableImpl) :
    OnePerSubscription s.table s.forEach where
  unique := by
    have hkeys (entry : AgentType × AgentTypeState) :
        ((entry.2.ids.entries.map fun id =>
          (entry.1, id.1, id.2 (sideIndex true), id.2 (sideIndex false))).map fun item =>
            (key item.1, item.2.1)) =
          (entry.2.ids.entries.map fun id => key id.1).map (Prod.mk (key entry.1)) := by
      simp [Function.comp_def]
    simp only [SubscriptionTableImpl.forEach, List.map_flatMap, hkeys]
    rw [List.nodup_flatMap]
    constructor
    · intro entry _
      exact entry.2.ids.nodup.map (Prod.mk_right_injective _)
    · have htypes := s.table.nodup
      rw [List.Nodup, List.pairwise_map] at htypes
      refine htypes.imp ?_
      intro first second hne
      simp only [Function.onFun, List.disjoint_left, List.mem_map]
      rintro _ ⟨_, -, rfl⟩ ⟨_, -, heq⟩
      exact hne (congrArg Prod.fst heq).symm
  complete := by
    intro agentType id state connections hstate hid
    obtain ⟨storedType, hkey, hentry⟩ := (HashMap.get?_eq_some_iff _ _ _).1 hstate
    obtain ⟨_, rfl, hfound⟩ := (HashMap.get?_eq_some_iff _ _ _).1 hid
    exact ⟨_, List.mem_flatMap.2 ⟨_, hentry, List.mem_map_of_mem hfound⟩, hkey, rfl⟩
  sound := by
    intro item hitem
    obtain ⟨entry, hentry, hmem⟩ := List.mem_flatMap.1 hitem
    obtain ⟨id, hid, rfl⟩ := List.mem_map.1 hmem
    exact ⟨entry.2, id.2, HashMap.get?_of_mem hentry, HashMap.get?_of_mem hid, rfl⟩

theorem toString_uint64_inj {a b : UInt64} : toString a = toString b ↔ a = b := by
  constructor
  · intro heq
    -- reading the digits back gives the number
    have hread := congrArg (fun text : String => Nat.ofDigitChars 10 text.toList 0)
      (show Nat.repr a.toNat = Nat.repr b.toNat from heq)
    simp only [Nat.toList_repr, Nat.ofDigitChars_ten_toDigits] at hread
    exact UInt64.toNat_inj.1 hread
  · rintro rfl
    rfl

/-- The three names are not one text. -/
def varied (names : String × String × String) : Bool :=
  !(decide (names.2.1 = names.1) && decide (names.2.2 = names.1))

namespace AgentType

/-- The names that an entry gets. -/
def listedNames (agentType : AgentType) : String × String × String :=
  (listedName agentType fun strings => strings.1, listedName agentType fun strings => strings.2.1,
    listedName agentType fun strings => strings.2.2)

/-- A type with strings is listed under them. -/
theorem listedNames_of_some {agentType : AgentType} {strings : String × String × String}
    (hstrings : agentType.strings = some strings) : agentType.listedNames = agentType.names := by
  simp [listedNames, listedName, names, hstrings]

theorem varied_listedNames_of_none {agentType : AgentType} (hnone : agentType.strings = none) :
    varied agentType.listedNames = false := by
  simp [varied, listedNames, listedName, hnone]

theorem varied_names_of_none {agentType : AgentType} (hnone : agentType.strings = none) :
    varied agentType.names = false ↔ agentType.Nameable := by
  simp [varied, names, Nameable, hnone, toString_uint64_inj]

theorem listedNames_of_nameable {agentType : AgentType} (hnameable : agentType.Nameable) :
    agentType.listedNames = agentType.names := by
  rcases hstrings : agentType.strings with _ | strings
  · obtain ⟨hspace, htype⟩ := hnameable hstrings
    simp [listedNames, listedName, names, hstrings, hspace, htype]
  · exact listedNames_of_some hstrings

end AgentType

theorem view_subscriptionEntry (f : Forwarder PeerConnection) (item : SubscriptionItem) :
    (subscriptionEntry f item).view = (item.1.listedNames, (expectedSubscription item).2) := by
  simp [SubscriptionEntry.view, subscriptionEntry, expectedSubscription, AgentType.listedNames,
    Function.comp_def]

/-- The names come out right, up to the order of the entries, only if each of them does. -/
theorem views_perm_iff (f : Forwarder PeerConnection) (items : List SubscriptionItem) :
    (items.map fun item => (subscriptionEntry f item).view).Perm (items.map expectedSubscription) ↔
      ∀ item ∈ items, item.1.Nameable := by
  simp only [view_subscriptionEntry]
  constructor
  · intro hperm item hitem hnone
    -- three equal names replace varied ones, so a wrong entry leaves one varied view too few
    have hmarked := mark_of_perm_map (fun view => varied view.1) hperm (by
      intro other _ hvaried
      rcases hstrings : other.1.strings with _ | strings
      · rw [AgentType.varied_listedNames_of_none hstrings] at hvaried
        cases hvaried
      · rwa [AgentType.listedNames_of_some hstrings] at hvaried) item hitem
    have huniform : varied item.1.names = false := by
      apply Bool.eq_false_of_not_eq_true
      intro hvaried
      have hlisted := hmarked hvaried
      rw [AgentType.varied_listedNames_of_none hnone] at hlisted
      cases hlisted
    exact (AgentType.varied_names_of_none hnone).1 huniform hnone
  · intro hnameable
    apply List.Perm.of_eq
    apply List.map_congr_left
    intro item hitem
    rw [AgentType.listedNames_of_nameable (hnameable item hitem)]
    rfl

/-- The subscriptions are listed exactly if every response fits, and no type is printed under
    names that are not its own. -/
theorem subscriptionsListed_iff (f : Forwarder PeerConnection) (order : IterOrder SubscriptionItem)
    (env : ReplyEnvironment) :
    SubscriptionsListed f (f.listSubscriptions order env) ↔
      env.AllFit .subscriptionListResponse
          ((order.arrange f.subscriptionTable.forEach).map (subscriptionEntry f)) ∧
        ∀ item ∈ f.subscriptionTable.forEach, item.1.Nameable := by
  have horder := order.perm f.subscriptionTable.forEach
  obtain ⟨hsub, hfit⟩ := env.carried_respond .subscriptionListResponse
    ControlMessage.subscriptionEntries (fun _ _ => rfl)
    ((order.arrange f.subscriptionTable.forEach).map (subscriptionEntry f))
  rw [SubscriptionsListed, Forwarder.listSubscriptions,
    perm_map_iff_of_sublist hsub horder.subperm, hfit, views_perm_iff, and_iff_right horder]

/-! ## Connections -/

/-- The connections are listed exactly if every response fits, the scan reaches all of them, and
    none of them is local. -/
theorem connectionsListed_iff (f : Forwarder PeerConnection) (env : ReplyEnvironment) :
    ConnectionsListed f (f.listConnections env) ↔
      env.AllFit .connectionListResponse (f.connectionTable.forEach.map connectionEntry) ∧
        f.connectionTable.Covered ∧
        ∀ item ∈ f.connectionTable.live, item.2.isLocalConnection = false := by
  obtain ⟨hsub, hfit⟩ := env.carried_respond .connectionListResponse
    ControlMessage.connectionEntries (fun _ _ => rfl)
    (f.connectionTable.forEach.map connectionEntry)
  rw [ConnectionsListed, Forwarder.listConnections,
    perm_map_iff_of_sublist hsub f.connectionTable.forEach_subperm_live, hfit,
    Pool.forEach_perm_live_iff]
  refine and_congr_right fun _ => and_congr_right fun _ => ?_
  constructor
  · intro hperm item hitem
    -- nothing is listed as local
    have hmarked := mark_of_perm_map (fun view => decide (view.2 = ListedType.Local)) hperm (by
      intro other _ hlocal
      cases hlocal) item hitem
    by_contra hnot
    have hlocal := Bool.eq_true_of_not_eq_false hnot
    have hlisted := hmarked (by simp [expectedConnection, hlocal])
    cases hlisted
  · intro hremote
    apply List.Perm.of_eq
    apply List.map_congr_left
    intro item hitem
    simp [expectedConnection, connectionEntry, hremote item hitem]

/-! ## The listings -/

namespace Forwarder

/-- For any tables and any reader: the scan of the subscriptions meets each of them once, and
    the listings say what is in the tables exactly if all the responses fit, and, for the
    subscriptions, no type is printed under names that are not its own, for the connections,
    `max_set` covers the table and none of them is local. -/
theorem listings_faithful_iff (f : Forwarder PeerConnection) (order : IterOrder SubscriptionItem)
    (env : ReplyEnvironment) :
    OnePerSubscription f.subscriptionTable.table f.subscriptionTable.forEach ∧
      (SubscriptionsListed f (f.listSubscriptions order env) ↔
        env.AllFit .subscriptionListResponse
            ((order.arrange f.subscriptionTable.forEach).map (subscriptionEntry f)) ∧
          ∀ item ∈ f.subscriptionTable.forEach, item.1.Nameable) ∧
      (ConnectionsListed f (f.listConnections env) ↔
        env.AllFit .connectionListResponse (f.connectionTable.forEach.map connectionEntry) ∧
          f.connectionTable.Covered ∧
          ∀ item ∈ f.connectionTable.live, item.2.isLocalConnection = false) :=
  ⟨f.subscriptionTable.onePerSubscription_forEach, subscriptionsListed_iff f order env,
    connectionsListed_iff f env⟩

def samplePeer (connectionType : ConnectionType) : PeerConnection :=
  ⟨⟨.server, connectionType⟩, none⟩

/-- A reader that takes nothing, and has left so many replies unread. -/
def idleReader (unread : Nat) (hunread : unread ≤ REPLY_CAPACITY) : ReplyEnvironment where
  queue := List.replicate unread ⟨"unread", none⟩
  bounded := by rwa [List.length_replicate]
  drained := fun _ => 0
  uuid := fun _ => "reply"

/-- A local connection is listed as a remote one.  When the last of three connections is dropped
    the second one is not listed any more.  A subscription is not listed if the channel is full,
    and if it came over the wire it is listed under the organization alone. -/
theorem listings_incomplete :
    let empty := idleReader 0 (by decide)
    let full := idleReader 128 (by decide)
    let one := Runs.run exec new [.connectionEstablished (samplePeer .Local) none,
      .subscriptionMsg ⟨1, 2, 3, none⟩ (some 4) 0 true true]
    let three := Runs.run exec new [.connectionEstablished (samplePeer .Remote) none,
      .connectionEstablished (samplePeer .Remote) none,
      .connectionEstablished (samplePeer .Remote) none, .connectionDrop 2 false IterOrder.stored]
    (one.listConnections empty).carried =
        [⟨"reply", some (.connectionListResponse [⟨0, .Remote, "", 0⟩])⟩] ∧
      ¬ ConnectionsListed one (one.listConnections empty) ∧
      (three.getConnection 1).isSome = true ∧
      (three.listConnections empty).carried =
        [⟨"reply", some (.connectionListResponse [⟨0, .Remote, "", 0⟩])⟩] ∧
      ¬ ConnectionsListed three (three.listConnections empty) ∧
      (one.listSubscriptions IterOrder.stored full).carried = [] ∧
      ¬ SubscriptionsListed one (one.listSubscriptions IterOrder.stored full) ∧
      (one.listSubscriptions IterOrder.stored empty).carried =
        [⟨"reply", some (.subscriptionListResponse
          [⟨"1", "1", "1", some 4, [⟨0, .Local, "", 0⟩], []⟩])⟩] ∧
      ¬ SubscriptionsListed one (one.listSubscriptions IterOrder.stored empty) := by
  have hnone (f : Forwarder PeerConnection) :
      (f.listSubscriptions IterOrder.stored (idleReader 128 (by decide))).carried = [] := by
    apply ReplyEnvironment.carried_of_full
    · exact List.length_replicate
    · intro _
      rfl
  refine ⟨rfl, ?_, rfl, rfl, ?_, hnone _, ?_, rfl, ?_⟩
  · intro hlisted
    exact absurd (List.perm_singleton.1 hlisted) (by decide)
  · intro hlisted
    exact absurd hlisted.length_eq (by decide)
  · intro hlisted
    rw [SubscriptionsListed, hnone] at hlisted
    exact absurd hlisted.length_eq (by decide)
  · intro hlisted
    have hnameable := ((subscriptionsListed_iff _ _ _).1 hlisted).2 _ List.mem_cons_self
    exact absurd (hnameable rfl).1 (by decide)

end Forwarder

end Slim
