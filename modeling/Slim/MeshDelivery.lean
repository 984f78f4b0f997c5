import Slim.FloodingReach
import Slim.Mesh

/-!
# Which subscribers get a publication

A node hands a publication to all its subscribers among the applications, and only if there
are none to the nodes behind its remote connections.  So even if every node has a route to
every subscriber, a publication to all subscribers comes to the nearest ones only: an
application that is subscribed at a node keeps the publication from all that are behind
that node.
-/

namespace Slim

open Flooding (Copy)
open SubscriptionTableImpl (sampleType)

namespace Mesh

variable {V : Type}

/-! ## Subscribers and routes -/

section Routes

variable (n : Mesh V) (destination : ProtoAgent)

/-- The tables of the node lead the name to the connection, as one of an application or as
    one to another node. -/
def Leads (v : V) (isLocal : Bool) (conn : Nat) : Prop :=
  (n.nodes v).subscriptionTable.table.Reaches (AgentType.ofProto destination)
    destination.agentId (sideIndex isLocal) conn

/-- No application is subscribed at the node but the one on the connection. -/
def Vacant (v : V) (conn : Nat) : Prop :=
  ∀ other, n.Leads destination v true other → other = conn

/-- What a node does with a publication that comes in on a connection. -/
def Passes (v : V) (conn outConn : Nat) : Prop :=
  outConn ≠ conn ∧ (n.Leads destination v true outConn ∨
    n.Vacant destination v conn ∧ n.Leads destination v false outConn)

/-- The routes for a name are complete and have a purpose: a connection to another node is
    a route exactly if there is a subscriber behind it.  Every route has a connection that
    takes messages. -/
structure Routed (W : Topology V) : Prop where
  subscriber : ∀ {v conn}, n.Leads destination v true conn → W.peer v conn = none
  route : ∀ {v conn}, n.Leads destination v false conn ↔
    ∃ w incoming, W.peer v conn = some (w, incoming) ∧
      ∃ u last other, W.Way (fun _ _ => True) w incoming u last ∧
        n.Leads destination u true other
  connected : ∀ {v isLocal conn}, n.Leads destination v isLocal conn →
    (n.nodes v).sendMsg conn none = .ok ()

end Routes

variable {W : Topology V} {n : Mesh V} {destination : ProtoAgent} {header : ProtoSlimHeader}

/-- The table answers with the connections to which the node passes the publication. -/
theorem mem_outputs_iff (hforward : header.forwardTo = none) (hfanout : header.fanout ≠ 1)
    (v : V) (conn : Nat) (conditions : Conditions) (outConn : Nat) :
    outConn ∈ (n.nodes v).outputs header destination conn conditions ↔
      n.Passes destination v conn outConn := by
  simp only [Forwarder.outputs, hforward, Forwarder.onPublishMsgMatch, if_neg hfanout]
  rcases (n.nodes v).subscriptionTable.matchAll_cases (AgentType.ofProto destination)
      destination.agentId conn conditions.matchOrder with
    ⟨out, isLocal, hout, hne, -, hmem, hshadow⟩ | ⟨hnone, hall⟩
  · rw [hout]
    simp only [hmem]
    obtain ⟨first, hfirst⟩ := List.exists_mem_of_ne_nil out hne
    have hlead := (hmem first).1 hfirst
    cases isLocal with
    | true =>
        constructor
        · rintro ⟨hleads, hother⟩
          exact ⟨hother, .inl hleads⟩
        · rintro ⟨hother, hleads | ⟨hvacant, -⟩⟩
          · exact ⟨hleads, hother⟩
          · exact absurd (hvacant first hlead.1) hlead.2
    | false =>
        constructor
        · rintro ⟨hleads, hother⟩
          exact ⟨hother, .inr ⟨hshadow rfl, hleads⟩⟩
        · rintro ⟨hother, hleads | ⟨-, hleads⟩⟩
          · exact absurd (hshadow rfl outConn hleads) hother
          · exact ⟨hleads, hother⟩
  · rw [hnone]
    simp only [List.not_mem_nil, false_iff]
    rintro ⟨hother, hleads | ⟨-, hleads⟩⟩
    · exact hother (hall true outConn hleads)
    · exact hother (hall false outConn hleads)

/-! ## Where a publication gets -/

/-- A publication gets along the ways on which no application is subscribed. -/
theorem way_of_arrives (hrouted : n.Routed destination W) {v u : V} {p s : Nat}
    (harrives : Flooding.Arrives W (n.Passes destination) v p u s) :
    W.Way (n.Vacant destination) v p u s := by
  induction harrives with
  | start => exact .here v p
  | pass _ hpasses hpeer ih =>
      obtain ⟨hother, hleads | ⟨hvacant, -⟩⟩ := hpasses
      · rw [hrouted.subscriber hleads] at hpeer
        cases hpeer
      · exact ih.snoc hvacant hpeer hother

/-- If there is a subscriber at the end of such a way, the publication gets there. -/
theorem arrives_of_way (hrouted : n.Routed destination W) {v w u : V} {p r s conn : Nat}
    (hway : W.Way (n.Vacant destination) w r u s) (hleads : n.Leads destination u true conn)
    (harrives : Flooding.Arrives W (n.Passes destination) v p w r) :
    Flooding.Arrives W (n.Passes destination) v p u s := by
  induction hway with
  | here w r => exact harrives
  | @onward v' w u p' q r s hvacant hpeer hother hrest ih =>
      have hbehind : W.Way (fun _ _ => True) w r u s := hrest.mono fun _ _ _ => trivial
      have hroute := hrouted.route.2 ⟨_, _, hpeer, _, _, conn, hbehind, hleads⟩
      exact ih hleads (harrives.pass ⟨hother, .inr ⟨hvacant, hroute⟩⟩ hpeer)

/-! ## Runs -/

variable [NameHash] [DecidableEq V]

/-- A message that has arrived is handled, and no send fails. -/
def Reliable (n : Mesh V) (event : MeshEvent V) : Prop :=
  ∃ k conditions, event = .receive k conditions ∧ k < n.messages.inFlight.length ∧
    ∀ conn, conditions.sendError conn = none

/-- The message is a publication to all subscribers of the name. -/
def ToAll (destination : ProtoAgent) (msg : ProtoMessage) : Prop :=
  ∃ header, PublishedMessage msg header destination ∧ header.forwardTo = none ∧ header.fanout ≠ 1

omit [DecidableEq V] in
/-- If no send fails, a publication is passed to all outputs. -/
theorem respond_toAll {start : Mesh V} (hrouted : start.Routed destination W)
    {c : Copy V Nat ProtoMessage} (hmsg : ToAll destination c.message) {conditions : Conditions}
    (hsends : ∀ conn, conditions.sendError conn = none) :
    ∃ sent, (start.nodes c.node).respond c.port c.message conditions = (start.nodes c.node, sent) ∧
      (∀ q, q ∈ sent.map Prod.fst ↔ start.Passes destination c.node c.port q) ∧
      ∀ answer ∈ sent, ToAll destination answer.2 := by
  obtain ⟨header, hpublication, hforward, hfanout⟩ := hmsg
  have hall : ((start.nodes c.node).outputs header destination c.port conditions).takeWhile
      ((start.nodes c.node).sends conditions.sendError) =
        (start.nodes c.node).outputs header destination c.port conditions := by
    apply List.takeWhile_eq_self_iff.2
    intro outConn hout
    rw [Forwarder.sends_iff, hsends]
    rcases (mem_outputs_iff hforward hfanout c.node c.port conditions outConn).1 hout with
      ⟨-, hleads | ⟨-, hleads⟩⟩
    · exact hrouted.connected hleads
    · exact hrouted.connected hleads
  refine ⟨_, hpublication.respond _ _ _, ?_, ?_⟩
  · intro q
    rw [hall, List.map_map]
    change q ∈ List.map (fun outConn => outConn) _ ↔ _
    rw [List.map_id']
    exact mem_outputs_iff hforward hfanout c.node c.port conditions q
  · intro answer hanswer
    obtain ⟨outConn, -, rfl⟩ := List.mem_map.1 hanswer
    exact ⟨_, hpublication.withHeader rfl rfl, rfl, hfanout⟩

/-- What holds while a publication spreads. -/
structure Spreading (W : Topology V) (n start : Mesh V) (destination : ProtoAgent) (v : V)
    (p handled : Nat) : Prop where
  nodes : n.nodes = start.nodes
  sound : n.Sound W
  explores : n.messages.Explores W (start.Passes destination) start.messages.origins.length v p
  toAll : ∀ c ∈ n.messages.inFlight,
    c.tag = start.messages.origins.length ∧ ToAll destination c.message
  taken : n.messages.taken.countP (fun c => c.tag = start.messages.origins.length) = handled

theorem Spreading.step {start n : Mesh V} (hforest : W.IsForest)
    (hrouted : start.Routed destination W) {v : V} {p handled : Nat}
    (hn : n.Spreading W start destination v p handled) {event : MeshEvent V}
    (hevent : n.Reliable event) :
    (n.step W event).Spreading W start destination v p (handled + 1) := by
  obtain ⟨k, conditions, rfl, hk, hsends⟩ := hevent
  have hsound := hn.sound.step hforest (.receive k conditions) trivial
  obtain ⟨c, hget⟩ : ∃ c, n.messages.inFlight[k]? = some c := ⟨_, List.getElem?_eq_getElem hk⟩
  have hmem := List.mem_of_getElem? hget
  obtain ⟨htag, hmsg⟩ := hn.toAll c hmem
  obtain ⟨sent, hresponse, hpasses, hcopies⟩ := respond_toAll hrouted hmsg hsends
  have hstep : n.step W (.receive k conditions) = ⟨n.nodes, n.messages.take W k sent⟩ := by
    simp only [Mesh.step, hget, hn.nodes, hresponse, Function.update_eq_self]
  rw [hstep] at hsound ⊢
  refine ⟨hn.nodes, hsound, ?_, ?_, ?_⟩
  · apply hn.explores.take
    intro d hd _ q
    rw [hget, Option.some.injEq] at hd
    rw [← hd]
    exact hpasses q
  · intro d hd
    simp only [Flooding.State.take_eq hget, List.mem_append, List.mem_filterMap] at hd
    rcases hd with hold | ⟨answer, hanswer, hpass⟩
    · exact hn.toAll d (List.mem_of_mem_eraseIdx hold)
    · obtain ⟨-, hsame, hmessage⟩ := Flooding.Copy.passOn_eq_some_iff.1 hpass
      rw [hsame, hmessage]
      exact ⟨htag, hcopies answer hanswer⟩
  · simp only [Flooding.State.take_eq hget, List.countP_append, List.countP_singleton, htag,
      hn.taken, decide_true, if_true]

theorem Spreading.run {start : Mesh V} (hforest : W.IsForest)
    (hrouted : start.Routed destination W) {v : V} {p : Nat} :
    ∀ (events : List (MeshEvent V)) {n : Mesh V} {handled : Nat},
      n.Spreading W start destination v p handled →
      Runs.Along (Mesh.step W) Reliable n events →
      (Runs.run (Mesh.step W) n events).Spreading W start destination v p
        (handled + events.length) := by
  intro events
  induction events with
  | nil => intro n handled hn _; exact hn
  | cons event events ih =>
      intro n handled hn hevents
      have hrest := ih (hn.step hforest hrouted hevents.1) hevents.2
      rw [List.length_cons, show handled + (events.length + 1) = handled + 1 + events.length by
        omega]
      exact hrest

/-- A publication is handed in while nothing else is on its way. -/
theorem spreading_send {start : Mesh V} (hstart : start.Sound W)
    (hquiet : start.messages.inFlight = []) (hforest : W.IsForest) {v : V} {p : Nat}
    (hlocal : W.isLocal v p = true) {msg : ProtoMessage} (hmsg : ToAll destination msg) :
    (start.step W (.send v p msg)).Spreading W start destination v p 0 := by
  have hsound := hstart.step hforest (.send v p msg) trivial
  have htaken : ∀ c ∈ start.messages.taken, c.tag < start.messages.origins.length := by
    intro c hc
    obtain ⟨origin, horigin, -⟩ := hstart.once.traced c (List.mem_append_left _ hc)
    exact (List.getElem?_eq_some_iff.1 horigin).1
  simp only [Mesh.step, if_pos hlocal] at hsound ⊢
  refine ⟨rfl, hsound, ?_, ?_, ?_⟩
  · apply Flooding.State.Explores.inject hquiet htaken
    intro c hc
    exact hstart.descends.tag_lt (List.mem_append_right _ hc)
  · intro c hc
    simp only [Flooding.State.inject, hquiet, List.nil_append, List.mem_singleton] at hc
    rw [hc]
    exact ⟨rfl, hmsg⟩
  · rw [List.countP_eq_zero]
    intro c hc
    simpa using (htaken c hc).ne

/-- A network without cycles is quiet, its routes for a name are complete and lead nowhere else,
    and every route has a connection that takes messages.  A publication to all subscribers of
    the name, handled while no table changes and no send fails, comes to rest after as many steps
    as there are nodes at most.  Then it has come, once, to exactly those subscribers for which
    there is no other subscriber on the way from the node at which it was published. -/
theorem publication_comes_to_nearest [Fintype V] (hforest : W.IsForest)
    (setup : List (MeshEvent V)) (hsetup : Runs.Along (Mesh.step W) (Respects W) new setup)
    (hquiet : (Runs.run (Mesh.step W) new setup).messages.inFlight = [])
    (hrouted : (Runs.run (Mesh.step W) new setup).Routed destination W) {v : V} {p : Nat}
    (hlocal : W.isLocal v p = true) {msg : ProtoMessage} (hmsg : ToAll destination msg)
    (events : List (MeshEvent V))
    (hevents : Runs.Along (Mesh.step W) Reliable
      ((Runs.run (Mesh.step W) new setup).step W (.send v p msg)) events) :
    let start := Runs.run (Mesh.step W) new setup
    let after := (Runs.run (Mesh.step W) (start.step W (.send v p msg)) events).messages
    events.length ≤ Fintype.card V ∧ (after.delivered.map Copy.position).Nodup ∧
      (after.inFlight = [] → ∀ u conn,
        (start.messages.origins.length, u, conn) ∈ after.delivered.map Copy.position ↔
          start.Leads destination u true conn ∧
            ∃ s, W.Way (start.Vacant destination) v p u s ∧ conn ≠ s) := by
  have hstart := Runs.run_invariant (I := fun n : Mesh V => n.Sound W)
    (fun n event hn hrespects => hn.step hforest event hrespects) setup new hsetup sound_new
  have hspread := Spreading.run hforest hrouted events
    (spreading_send hstart hquiet hforest hlocal hmsg) hevents
  refine ⟨?_, hspread.sound.once.exits, ?_⟩
  · have hbound := hspread.sound.once.countP_taken_le_card
      (Runs.run (Mesh.step W) new setup).messages.origins.length
    rw [hspread.taken] at hbound
    omega
  · intro hrest u conn
    rw [hspread.explores.delivered_iff hrest]
    constructor
    · rintro ⟨s, harrives, ⟨hother, hleads⟩, hpeer⟩
      refine ⟨?_, s, way_of_arrives hrouted harrives, hother⟩
      rcases hleads with hleads | ⟨-, hleads⟩
      · exact hleads
      · -- a route leads to another node
        obtain ⟨w, incoming, hlink, -⟩ := hrouted.route.1 hleads
        rw [hpeer] at hlink
        cases hlink
    · rintro ⟨hleads, s, hway, hother⟩
      exact ⟨s, arrives_of_way hrouted hway hleads .start, ⟨hother, .inl hleads⟩,
        hrouted.subscriber hleads⟩

instance : Fintype SampleNode where
  elems := {.left, .hub, .right}
  complete := by
    intro v
    cases v <;> decide

/-- An application is subscribed at the hub too, and both outer nodes have a route there. -/
def shadowSetup : List (MeshEvent SampleNode) :=
  sampleSetup ++ [.call .hub (.connectionEstablished ⟨.server, .Local⟩ none),
    .call .hub (.subscriptionMsg sampleType (some 1) 2 true true),
    .call .right (.subscriptionMsg sampleType (some 1) 0 false true)]

def sampleDestination : ProtoAgent := ProtoAgent.ofName sampleType (some 1)

def shadowed : Mesh SampleNode := Runs.run (@step _ sampleHash _ sampleTopology) new shadowSetup

omit [NameHash] in
theorem shadowSetup_respects :
    Runs.Along (@step _ sampleHash _ sampleTopology) (Respects sampleTopology) new
      shadowSetup := by
  refine ⟨?_, ?_, ?_, ?_, ?_, ?_, rfl, rfl, rfl, ?_, rfl, rfl, trivial⟩
  all_goals
    intro index g hplaced
    cases hplaced
    rfl

/-- The connections to which the tables of the sample lead. -/
def sampleLeads : SampleNode → Bool → List Nat
  | .left, true => []
  | .left, false => [0]
  | .hub, true => [2]
  | .hub, false => [1]
  | .right, true => [1]
  | .right, false => [0]

omit [NameHash] in
theorem shadowed_leads_iff (v : SampleNode) (isLocal : Bool) (conn : Nat) :
    shadowed.Leads sampleDestination v isLocal conn ↔ conn ∈ sampleLeads v isLocal := by
  cases v <;> cases isLocal <;> exact Iff.rfl

omit [NameHash] in
theorem shadowed_routed : shadowed.Routed sampleDestination sampleTopology where
  subscriber := by
    intro v conn hleads
    rw [shadowed_leads_iff] at hleads
    cases v
    case left => cases hleads
    all_goals
      rw [List.mem_singleton.1 hleads]
      rfl
  route := by
    intro v conn
    simp only [shadowed_leads_iff]
    constructor
    · intro hmem
      cases v with
      | left =>
          rw [List.mem_singleton.1 hmem]
          exact ⟨.hub, 0, rfl, .hub, 0, 2, .here _ _, List.mem_cons_self⟩
      | hub =>
          rw [List.mem_singleton.1 hmem]
          exact ⟨.right, 0, rfl, .right, 0, 1, .here _ _, List.mem_cons_self⟩
      | right =>
          rw [List.mem_singleton.1 hmem]
          exact ⟨.hub, 1, rfl, .hub, 1, 2, .here _ _, List.mem_cons_self⟩
    · rintro ⟨w, incoming, hpeer, u, last, other, hway, hother⟩
      simp only [sampleTopology] at hpeer
      split at hpeer
      all_goals cases hpeer
      · exact List.mem_cons_self
      · exact List.mem_cons_self
      · -- behind this connection is the left node only
        cases hway with
        | here => cases hother
        | onward hgo hpeer hne hrest =>
            simp only [sampleTopology] at hpeer
            split at hpeer
            all_goals cases hpeer
            all_goals contradiction
      · exact List.mem_cons_self
  connected := by
    intro v isLocal conn hleads
    rw [shadowed_leads_iff] at hleads
    cases v <;> cases isLocal
    case left.true => cases hleads
    all_goals
      rw [List.mem_singleton.1 hleads]
      rfl

omit [NameHash] in
theorem samplePublication_toAll : ToAll sampleDestination Forwarder.samplePublication :=
  ⟨_, ⟨rfl, rfl, ⟨_, rfl⟩, rfl, rfl⟩, rfl, by decide⟩

omit [NameHash] in
/-- The application at the right node gets nothing, because one is subscribed at the hub. -/
theorem publication_comes_to_nearest_sample :
    let after := (Runs.run (@step _ sampleHash _ sampleTopology)
      (@step _ sampleHash _ sampleTopology shadowed (.send .left 1 Forwarder.samplePublication))
      [.receive 0 sampleConditions, .receive 0 sampleConditions]).messages
    after.inFlight = [] ∧ after.delivered.map Copy.position = [(0, .hub, 2)] ∧
      shadowed.Leads sampleDestination .right true 1 ∧
      ∀ s, sampleTopology.Way (shadowed.Vacant sampleDestination) .left 1 .right s → 1 = s := by
  obtain ⟨-, -, hdelivered⟩ := @publication_comes_to_nearest _ sampleTopology
    sampleDestination sampleHash _ _ sampleTopology_isForest shadowSetup shadowSetup_respects rfl
    shadowed_routed .left 1 rfl Forwarder.samplePublication samplePublication_toAll
    [.receive 0 sampleConditions, .receive 0 sampleConditions]
    ⟨⟨0, _, rfl, by decide, fun _ => rfl⟩, ⟨0, _, rfl, by decide, fun _ => rfl⟩, trivial⟩
  have hleads : shadowed.Leads sampleDestination .right true 1 :=
    (shadowed_leads_iff .right true 1).2 List.mem_cons_self
  refine ⟨rfl, rfl, hleads, fun s hway => ?_⟩
  by_contra hother
  have hmem := (hdelivered rfl .right 1).2 ⟨hleads, s, hway, hother⟩
  revert hmem
  decide

end Mesh

end Slim
