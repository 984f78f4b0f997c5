import Slim.Forwarder
import Slim.Interleavings

/-!
# Reuse of a connection index

`on_connection_drop` of `forwarder.rs` updates three tables one after the other.  It
frees the index of the connection first and then removes what the other two tables
have under the index.  In between, the connection table can hand the index to a new
connection.  Here the three updates and the calls of the new connection are steps of
their own, in any interleaving.
-/

namespace Slim

open HashKey Interleavings SubscriptionTableImpl

/-! ## Steps -/

/-- The three updates of a drop, and the calls made for the new connection. -/
inductive ReuseStep (T : Type) where
  | removeConnection
  | purgeSubscriptions
  | purgeRemote
  | establish (conn : T)
  | subscribe (agentType : AgentType) (agentId : Option UInt64)
  | forward (source : Agent) (nameType : AgentType) (nameAgentId : Option UInt64)

/-- The connection that is dropped, and whether it and the new one are local. -/
structure ReuseSetup where
  index : Nat
  isLocal : Bool
  order : IterOrder (Agent × Unit)
  newIsLocal : Bool

/-- The forwarder, and the index that the new connection has received. -/
structure ReuseState (T : Type) where
  forwarder : Forwarder T
  newIndex : Option Nat

namespace ReuseStep

variable {T : Type}

def dropSteps : List (ReuseStep T) := [removeConnection, purgeSubscriptions, purgeRemote]

/-- A call that names the new connection by its index. -/
def usesNewIndex : ReuseStep T → Bool
  | subscribe _ _ => true
  | forward _ _ _ => true
  | _ => false

def purgesSubscriptions : ReuseStep T → Bool
  | purgeSubscriptions => true
  | _ => false

def purgesRemote : ReuseStep T → Bool
  | purgeRemote => true
  | _ => false

def Subscribes : ReuseStep T → Agent → Prop
  | subscribe agentType agentId, agent => key agent = key (agentOf agentType agentId)
  | _, _ => False

def Forwards : ReuseStep T → SubscriptionInfo → Prop
  | forward source nameType nameAgentId, info =>
      key info = key (SubscriptionInfo.mk source (agentOf nameType nameAgentId))
  | _, _ => False

end ReuseStep

namespace ReuseState

variable {T : Type} (setup : ReuseSetup)

def step (s : ReuseState T) : ReuseStep T → ReuseState T
  | .removeConnection =>
      { s with forwarder := { s.forwarder with
          connectionTable := (s.forwarder.connectionTable.remove setup.index).2 } }
  | .purgeSubscriptions =>
      { s with forwarder := { s.forwarder with
          subscriptionTable := (s.forwarder.subscriptionTable.removeConnection
            setup.index setup.isLocal setup.order).2 } }
  | .purgeRemote =>
      { s with forwarder := { s.forwarder with
          remoteSubscriptionTable :=
            s.forwarder.remoteSubscriptionTable.removeConnection setup.index } }
  | .establish conn =>
      match s.forwarder.onConnectionEstablished conn none with
      | .error _ => s
      | .ok (index, f) => ⟨f, index⟩
  | .subscribe agentType agentId =>
      match s.newIndex with
      | none => s
      | some index =>
          { s with forwarder :=
              (s.forwarder.onSubscriptionMsg agentType agentId index setup.newIsLocal true).2 }
  | .forward source nameType nameAgentId =>
      match s.newIndex with
      | none => s
      | some index =>
          { s with forwarder :=
              s.forwarder.onForwardedSubscription source nameType nameAgentId index true }

/-- The three updates in a row are the drop. -/
theorem run_dropSteps (s : ReuseState T) :
    Runs.run (step setup) s ReuseStep.dropSteps =
      { s with forwarder :=
          s.forwarder.onConnectionDrop setup.index setup.isLocal setup.order } := rfl

/-! ## The index of the new connection -/

variable {s : ReuseState T} {event : ReuseStep T} {events : List (ReuseStep T)}

theorem newIndex_step (s : ReuseState T)
    (hevent : ∀ conn, event ≠ .establish conn) : (s.step setup event).newIndex = s.newIndex := by
  cases event with
  | establish conn => exact absurd rfl (hevent conn)
  | removeConnection => rfl
  | purgeSubscriptions => rfl
  | purgeRemote => rfl
  | subscribe agentType agentId =>
      simp only [step]
      split
      · rfl
      · rfl
  | forward source nameType nameAgentId =>
      simp only [step]
      split
      · rfl
      · rfl

theorem newIndex_run (hevents : ∀ event ∈ events, ∀ conn, event ≠ .establish conn)
    (s : ReuseState T) :
    (Runs.run (step setup) s events).newIndex = s.newIndex := by
  have halong : Runs.Along (step setup) (fun _ event => ∀ conn, event ≠ .establish conn) s events :=
    Runs.along_of_forall events s hevents
  refine Runs.run_invariant (I := fun left : ReuseState T => left.newIndex = s.newIndex)
    (fun left event hleft hevent => ?_) events s halong rfl
  rw [newIndex_step setup left hevent]
  exact hleft

theorem usesNewIndex_of_mem_dropSteps
    (hmem : event ∈ ReuseStep.dropSteps) : event.usesNewIndex = false := by
  simp only [ReuseStep.dropSteps, List.mem_cons, List.not_mem_nil, or_false] at hmem
  rcases hmem with rfl | rfl | rfl
  · rfl
  · rfl
  · rfl

/-- The call names the index that is dropped. -/
def NamesIndex (s : ReuseState T) (event : ReuseStep T) : Prop :=
  event.usesNewIndex = true → s.newIndex = some setup.index

/-- When the new connection ends up with the dropped index, all its calls name it. -/
theorem along_namesIndex {conn : T} {later schedule : List (ReuseStep T)}
    (hlater : ∀ event ∈ later, event.usesNewIndex = true)
    (hschedule : Interleaves ReuseStep.dropSteps (.establish conn :: later) schedule)
    (hindex : (Runs.run (step setup) s schedule).newIndex = some setup.index) :
    Runs.Along (step setup) (NamesIndex setup) s schedule := by
  obtain ⟨front, back, rest, hdrop, rfl, hrest⟩ := hschedule.split_right
  -- only updates of the drop come before the new connection is established
  have hfront : ∀ event ∈ front, event.usesNewIndex = false := by
    intro event hevent
    have hmem : event ∈ ReuseStep.dropSteps := by
      rw [hdrop]
      exact List.mem_append_left _ hevent
    exact usesNewIndex_of_mem_dropSteps hmem
  have hrest : ∀ event ∈ rest, ∀ conn, event ≠ .establish conn := by
    rintro event hevent conn rfl
    rcases (hrest.mem_iff _).1 hevent with hback | hnew
    · have hmem : ReuseStep.establish conn ∈ ReuseStep.dropSteps := by
        rw [hdrop]
        exact List.mem_append_right _ hback
      simp [ReuseStep.dropSteps] at hmem
    · cases hlater _ hnew
  rw [Runs.run_append, Runs.run_cons, newIndex_run setup hrest] at hindex
  refine (Runs.along_append _ _ _).2 ⟨?_, (fun huses => nomatch huses), ?_⟩
  · refine Runs.along_mono (fun _ event hfalse huses => ?_)
      (Runs.along_of_forall (P := fun event => event.usesNewIndex = false) front s hfront)
    rw [hfalse] at huses
    cases huses
  · apply Runs.along_of_invariant
      (I := fun left : ReuseState T => left.newIndex = some setup.index)
      (P := fun _ event => ∀ conn, event ≠ .establish conn)
    · intro left event hleft hevent
      rw [newIndex_step setup left hevent]
      exact hleft
    · intro left event hleft _ _
      exact hleft
    · exact Runs.along_of_forall rest _ hrest
    · exact hindex

/-! ## The subscription table -/

/-- What a step does to the subscription table. -/
theorem subscriptionTable_step (hnames : s.NamesIndex setup event) :
    (s.step setup event).forwarder.subscriptionTable =
      match event with
      | .purgeSubscriptions => (s.forwarder.subscriptionTable.removeConnection
          setup.index setup.isLocal setup.order).2
      | .subscribe agentType agentId => (s.forwarder.subscriptionTable.addSubscription
          agentType agentId setup.index setup.newIsLocal).2
      | _ => s.forwarder.subscriptionTable := by
  cases event with
  | establish conn => rfl
  | removeConnection => rfl
  | purgeSubscriptions => rfl
  | purgeRemote => rfl
  | subscribe agentType agentId =>
      have hindex := hnames rfl
      simp only [step, hindex]
      rfl
  | forward source nameType nameAgentId =>
      have hindex := hnames rfl
      simp only [step, hindex]
      rfl

/-- The subscription table has the listings of the dropped index on the side of the new
    connection only. -/
structure Ready (s : ReuseState T) : Prop where
  consistent : s.forwarder.subscriptionTable.Consistent
  listed_on : s.forwarder.subscriptionTable.table.ListedOn setup.index
    (sideIndex setup.newIsLocal)

theorem Ready.of_same {left : ReuseState T} (hs : s.Ready setup)
    (hsame : left.forwarder.subscriptionTable = s.forwarder.subscriptionTable)
    (hnot : ∀ agent, ¬ event.Subscribes agent) :
    left.Ready setup ∧
      ∀ agent, left.forwarder.subscriptionTable.table.Listed agent setup.index ↔
        s.forwarder.subscriptionTable.table.Listed agent setup.index ∨
          event.Subscribes agent := by
  refine ⟨⟨?_, ?_⟩, fun agent => ?_⟩
  · rw [hsame]
    exact hs.consistent
  · rw [hsame]
    exact hs.listed_on
  · rw [hsame]
    exact (or_iff_left (hnot agent)).symm

/-- A step that purges no subscriptions adds the agent that it subscribes, if any. -/
theorem Ready.step (hs : s.Ready setup) (hnames : s.NamesIndex setup event)
    (hpurge : event.purgesSubscriptions = false) :
    (s.step setup event).Ready setup ∧
      ∀ agent, (s.step setup event).forwarder.subscriptionTable.table.Listed agent setup.index ↔
        s.forwarder.subscriptionTable.table.Listed agent setup.index ∨
          event.Subscribes agent := by
  have htable := subscriptionTable_step setup hnames
  cases event with
  | purgeSubscriptions => cases hpurge
  | establish conn => exact hs.of_same setup htable fun _ => id
  | removeConnection => exact hs.of_same setup htable fun _ => id
  | purgeRemote => exact hs.of_same setup htable fun _ => id
  | forward source nameType nameAgentId => exact hs.of_same setup htable fun _ => id
  | subscribe agentType agentId =>
      simp only at htable
      refine ⟨⟨?_, ?_⟩, fun agent => ?_⟩
      · rw [htable]
        exact hs.consistent.addSubscription agentType agentId setup.index setup.newIsLocal
          hs.listed_on
      · intro other side hmem
        rw [htable] at hmem
        rcases mem_conns_addSubscription hmem with hold | ⟨hside, -⟩
        · exact hs.listed_on other side hold
        · exact hside
      · rw [htable, hs.consistent.listed_addSubscription]
        simp only [and_true]
        rfl

/-- Without a purge the listings of the index grow by what is subscribed. -/
theorem Ready.run (hs : s.Ready setup)
    (halong : Runs.Along (ReuseState.step setup) (NamesIndex setup) s events)
    (hpurge : ∀ event ∈ events, event.purgesSubscriptions = false) :
    (Runs.run (ReuseState.step setup) s events).Ready setup ∧
      ∀ agent, (Runs.run (ReuseState.step setup) s events).forwarder.subscriptionTable.table.Listed
          agent setup.index ↔
        s.forwarder.subscriptionTable.table.Listed agent setup.index ∨
          ∃ event ∈ events, event.Subscribes agent := by
  have hsteps := Runs.along_and_forall halong hpurge
  have hkeeps : ∀ (left : ReuseState T) event, left.Ready setup →
      left.NamesIndex setup event ∧ event.purgesSubscriptions = false →
      (left.step setup event).Ready setup := by
    intro left event hleft hstep
    exact (hleft.step setup hstep.1 hstep.2).1
  constructor
  · exact Runs.run_invariant (I := Ready setup) hkeeps events s hsteps hs
  · intro agent
    have hready := Runs.along_of_invariant (I := Ready setup)
      (Q := fun left event => left.Ready setup ∧ left.NamesIndex setup event ∧
        event.purgesSubscriptions = false) hkeeps (fun _ _ hleft hstep => ⟨hleft, hstep⟩)
      events s hsteps hs
    apply Runs.run_gains (F := fun left : ReuseState T =>
      left.forwarder.subscriptionTable.table.Listed agent setup.index) _ events s hready
    intro left event hstep
    exact (hstep.1.step setup hstep.2.1 hstep.2.2).2 agent

/-- The purge takes the index out of every list, so the table is ready for a new
    connection, local or remote. -/
theorem ready_purge (hs : s.forwarder.subscriptionTable.Consistent)
    (hside : s.forwarder.subscriptionTable.table.ListedOn setup.index
      (sideIndex setup.isLocal)) :
    (s.step setup .purgeSubscriptions).Ready setup ∧
      ∀ agent, ¬ (s.step setup .purgeSubscriptions).forwarder.subscriptionTable.table.Listed
        agent setup.index := by
  have hnot : ∀ agent,
      ¬ (s.step setup .purgeSubscriptions).forwarder.subscriptionTable.table.Listed
        agent setup.index := by
    intro agent hlisted
    exact ((hs.listed_removeConnection setup.index setup.isLocal setup.order hside agent
      setup.index).1 hlisted).2 rfl
  refine ⟨⟨hs.removeConnection setup.index setup.isLocal setup.order hside, ?_⟩, hnot⟩
  intro agent side hmem
  exact absurd ⟨side, hmem⟩ (hnot agent)

/-- Steps that neither subscribe nor purge leave the subscription table alone. -/
theorem subscriptionTable_run (halong : Runs.Along (step setup) (NamesIndex setup) s events)
    (hpurge : ∀ event ∈ events, event.purgesSubscriptions = false)
    (hsubscribes : ∀ event ∈ events, ∀ agent, ¬ event.Subscribes agent) :
    (Runs.run (step setup) s events).forwarder.subscriptionTable =
      s.forwarder.subscriptionTable := by
  have hsteps := Runs.along_and_forall (Runs.along_and_forall halong hpurge) hsubscribes
  refine Runs.run_invariant (I := fun left : ReuseState T =>
    left.forwarder.subscriptionTable = s.forwarder.subscriptionTable) ?_ events s hsteps rfl
  rintro left event hleft ⟨⟨hnames, hpurge⟩, hsubscribes⟩
  rw [subscriptionTable_step setup hnames, ← hleft]
  cases event with
  | purgeSubscriptions => cases hpurge
  | subscribe agentType agentId => exact absurd rfl (hsubscribes (agentOf agentType agentId))
  | establish conn => rfl
  | removeConnection => rfl
  | purgeRemote => rfl
  | forward source nameType nameAgentId => rfl

/-! ## The remote subscription table -/

/-- The subscription has been forwarded on the connection. -/
def Forwarded (s : ReuseState T) (info : SubscriptionInfo) : Prop :=
  (s.forwarder.remoteSubscriptionTable.getSubscriptionsOnConnection setup.index).contains info =
    true

theorem forwarded_step (hnames : s.NamesIndex setup event) (hpurge : event.purgesRemote = false)
    (info : SubscriptionInfo) :
    (s.step setup event).Forwarded setup info ↔
      s.Forwarded setup info ∨ event.Forwards info := by
  cases event with
  | purgeRemote => cases hpurge
  | establish conn => exact (or_iff_left id).symm
  | removeConnection => exact (or_iff_left id).symm
  | purgeSubscriptions => exact (or_iff_left id).symm
  | subscribe agentType agentId =>
      have hindex := hnames rfl
      simp only [step, hindex]
      exact (or_iff_left id).symm
  | forward source nameType nameAgentId =>
      have hindex := hnames rfl
      simp only [step, hindex]
      exact RemoteSubscriptions.contains_addSubscription _ _ _ _ _

theorem forwarded_run (halong : Runs.Along (step setup) (NamesIndex setup) s events)
    (hpurge : ∀ event ∈ events, event.purgesRemote = false) (info : SubscriptionInfo) :
    (Runs.run (step setup) s events).Forwarded setup info ↔
      s.Forwarded setup info ∨ ∃ event ∈ events, event.Forwards info := by
  apply Runs.run_gains (F := fun left : ReuseState T => left.Forwarded setup info) _ events s
    (Runs.along_and_forall halong hpurge)
  intro left event hstep
  exact forwarded_step setup hstep.1 hstep.2 info

/-! ## Interleavings -/

section Schedule

variable {conn : T} {later schedule : List (ReuseStep T)}

theorem not_purges_of_new (hlater : ∀ event ∈ later, event.usesNewIndex = true) :
    ∀ event ∈ ReuseStep.establish conn :: later,
      event.purgesSubscriptions = false ∧ event.purgesRemote = false := by
  rw [List.forall_mem_cons]
  refine ⟨⟨rfl, rfl⟩, fun event hevent => ?_⟩
  have huses := hlater event hevent
  cases event with
  | subscribe agentType agentId => exact ⟨rfl, rfl⟩
  | forward source nameType nameAgentId => exact ⟨rfl, rfl⟩
  | _ => cases huses

theorem split_purgeSubscriptions (hlater : ∀ event ∈ later, event.usesNewIndex = true)
    (hschedule : Interleaves ReuseStep.dropSteps (.establish conn :: later) schedule) :
    ∃ front back, schedule = front ++ .purgeSubscriptions :: back ∧
      (∀ event ∈ front, event.purgesSubscriptions = false) ∧
      ∀ event ∈ back, event.purgesSubscriptions = false := by
  have hdrop : (ReuseStep.dropSteps : List (ReuseStep T)) =
      [.removeConnection] ++ .purgeSubscriptions :: [.purgeRemote] := rfl
  apply Interleaves.split_at _ hschedule hdrop
  · simp [ReuseStep.purgesSubscriptions]
  · exact fun event hevent => (not_purges_of_new hlater event hevent).1
  · simp [ReuseStep.purgesSubscriptions]

theorem split_purgeRemote (hlater : ∀ event ∈ later, event.usesNewIndex = true)
    (hschedule : Interleaves ReuseStep.dropSteps (.establish conn :: later) schedule) :
    ∃ front back, schedule = front ++ .purgeRemote :: back ∧
      (∀ event ∈ front, event.purgesRemote = false) ∧
      ∀ event ∈ back, event.purgesRemote = false := by
  have hdrop : (ReuseStep.dropSteps : List (ReuseStep T)) =
      [.removeConnection, .purgeSubscriptions] ++ .purgeRemote :: [] := rfl
  apply Interleaves.split_at _ hschedule hdrop
  · simp [ReuseStep.purgesRemote]
  · exact fun event hevent => (not_purges_of_new hlater event hevent).2
  · simp

/-- After a purge that finds the tables in order, the index has the routes that are
    subscribed after it. -/
theorem routed_after_purge {s : ReuseState T} (hs : s.forwarder.subscriptionTable.Consistent)
    (hside : s.forwarder.subscriptionTable.table.ListedOn setup.index (sideIndex setup.isLocal))
    {back : List (ReuseStep T)}
    (halong : Runs.Along (step setup) (NamesIndex setup) (s.step setup .purgeSubscriptions) back)
    (hback : ∀ event ∈ back, event.purgesSubscriptions = false) (agent : Agent) :
    (Runs.run (step setup) (s.step setup .purgeSubscriptions)
        back).forwarder.subscriptionTable.Routed agent setup.index ↔
      ∃ event ∈ back, event.Subscribes agent := by
  obtain ⟨hready, hnot⟩ := ready_purge setup hs hside
  obtain ⟨-, hlisted⟩ := hready.run setup halong hback
  rw [routed_iff_listed, hlisted, or_iff_right (hnot agent)]

theorem forwarded_after_purge {s : ReuseState T}
    (hlater : ∀ event ∈ later, event.usesNewIndex = true)
    (hschedule : Interleaves ReuseStep.dropSteps (.establish conn :: later) schedule)
    (halong : Runs.Along (step setup) (NamesIndex setup) s schedule) (info : SubscriptionInfo) :
    (Runs.run (step setup) s schedule).Forwarded setup info ↔
      ∃ event ∈ after ReuseStep.purgesRemote schedule, event.Forwards info := by
  obtain ⟨front, back, rfl, hfront, hback⟩ := split_purgeRemote hlater hschedule
  obtain ⟨-, -, halong⟩ := (Runs.along_append _ _ _).1 halong
  rw [after_append hfront rfl, Runs.run_append, Runs.run_cons, forwarded_run setup halong hback]
  apply or_iff_right
  simp [Forwarded, step, RemoteSubscriptions.getSubscriptionsOnConnection,
    RemoteSubscriptions.removeConnection]

end Schedule

/-- What is left under the index after a drop that is interleaved with a new connection
    at the same index.  The new connection keeps its subscriptions when all are made
    after the purge; if old and new connection are on the same side it keeps exactly
    those made after the purge.  It keeps exactly the forwarded subscriptions that are
    recorded after the purge of the remote table. -/
theorem reused_index_keeps_late_subscriptions (calls : List (ForwarderCall T))
    (hsteps : Runs.Along Forwarder.exec (fun f call => f.Honest call ∧ ¬ f.Strays call)
      Forwarder.new calls)
    (hside : (Runs.run Forwarder.exec Forwarder.new calls).subscriptionTable.table.ListedOn
      setup.index (sideIndex setup.isLocal))
    (conn : T) (later schedule : List (ReuseStep T))
    (hlater : ∀ event ∈ later, event.usesNewIndex = true)
    (hschedule : Interleaves ReuseStep.dropSteps (.establish conn :: later) schedule) :
    let s := Runs.run (step setup) ⟨Runs.run Forwarder.exec Forwarder.new calls, none⟩ schedule
    s.newIndex = some setup.index →
    ((∀ event ∈ before ReuseStep.purgesSubscriptions schedule, ∀ agent,
        ¬ event.Subscribes agent) →
      ∀ event ∈ later, ∀ agent, event.Subscribes agent →
        s.forwarder.subscriptionTable.Routed agent setup.index) ∧
    (setup.newIsLocal = setup.isLocal → ∀ agent,
      (s.forwarder.subscriptionTable.Routed agent setup.index ↔
        ∃ event ∈ after ReuseStep.purgesSubscriptions schedule, event.Subscribes agent)) ∧
    ∀ info, s.Forwarded setup info ↔
      ∃ event ∈ after ReuseStep.purgesRemote schedule, event.Forwards info := by
  intro s hindex
  have hs := Forwarder.consistent_run hsteps
  have halong := along_namesIndex setup hlater hschedule hindex
  have hforwarded := forwarded_after_purge setup hlater hschedule halong
  obtain ⟨front, back, rfl, hfront, hback⟩ := split_purgeSubscriptions hlater hschedule
  obtain ⟨halongFront, -, halongBack⟩ := (Runs.along_append _ _ _).1 halong
  rw [before_append hfront rfl, after_append hfront rfl]
  simp only [s, Runs.run_append, Runs.run_cons] at hforwarded ⊢
  refine ⟨?_, ?_, hforwarded⟩
  · intro hlate event hevent agent hsubscribes
    have hsame := subscriptionTable_run setup halongFront hfront hlate
    apply (routed_after_purge setup (by rw [hsame]; exact hs) (by rw [hsame]; exact hside)
      halongBack hback agent).2
    have hmem := (hschedule.mem_iff event).2 (Or.inr (List.mem_cons_of_mem _ hevent))
    rw [List.mem_append, List.mem_cons] at hmem
    rcases hmem with hearly | rfl | hback
    · exact absurd hsubscribes (hlate event hearly agent)
    · exact hsubscribes.elim
    · exact ⟨event, hback, hsubscribes⟩
  · intro hsame agent
    have hready : ReuseState.Ready setup
        ⟨Runs.run Forwarder.exec (Forwarder.new : Forwarder T) calls, none⟩ :=
      ⟨hs, by rw [hsame]; exact hside⟩
    obtain ⟨hready, -⟩ := hready.run setup halongFront hfront
    apply routed_after_purge setup hready.consistent _ halongBack hback
    rw [← hsame]
    exact hready.listed_on

/-- A remote connection at index 0, which is dropped and replaced by another one. -/
def remoteSetup : ReuseSetup := ⟨0, false, IterOrder.stored, false⟩

def oneConnection : Forwarder Unit :=
  Runs.run Forwarder.exec Forwarder.new [.connectionEstablished () none]

/-- The new connection is given index 0, subscribes and has a subscription forwarded on
    it before the drop of the old one goes on. -/
def earlySchedule : List (ReuseStep Unit) :=
  [.removeConnection, .establish (), .subscribe sampleType (some 1),
    .forward ⟨sampleType, 3⟩ sampleType (some 2), .purgeSubscriptions, .purgeRemote]

/-- The drop of the old connection takes away the subscription of the new one, and what
    was forwarded on it. -/
theorem reused_index_loses_subscriptions :
    let s := Runs.run (step remoteSetup) ⟨oneConnection, none⟩ earlySchedule
    Interleaves ReuseStep.dropSteps [.establish (), .subscribe sampleType (some 1),
        .forward ⟨sampleType, 3⟩ sampleType (some 2)] earlySchedule ∧
      s.newIndex = some 0 ∧ s.forwarder.connectionTable.get 0 = some () ∧
      s.forwarder.subscriptionTable.matchAll sampleType (some 1) 9 IterOrder.stored =
        .error (noMatch sampleType (some 1)) ∧
      ¬ s.forwarder.subscriptionTable.Routed ⟨sampleType, 1⟩ 0 ∧
      ¬ s.Forwarded remoteSetup ⟨⟨sampleType, 3⟩, ⟨sampleType, 2⟩⟩ := by
  refine ⟨?_, rfl, rfl, rfl, ?_, Bool.false_ne_true⟩
  · exact .left _ (.right _ (.right _ (.right _ (.left _ (.left _ .nil)))))
  · rintro ⟨⟨side, hmem⟩, -⟩
    cases hmem

/-- The same calls, each made after the purge of its table. -/
theorem reused_index_keeps_late_subscriptions_sample :
    let s := Runs.run (step remoteSetup) ⟨oneConnection, none⟩
      [.removeConnection, .establish (), .purgeSubscriptions, .subscribe sampleType (some 1),
        .purgeRemote, .forward ⟨sampleType, 3⟩ sampleType (some 2)]
    s.forwarder.subscriptionTable.Routed ⟨sampleType, 1⟩ 0 ∧
      s.Forwarded remoteSetup ⟨⟨sampleType, 3⟩, ⟨sampleType, 2⟩⟩ := by
  have hsteps : Runs.Along Forwarder.exec (fun f call => f.Honest call ∧ ¬ f.Strays call)
      Forwarder.new [ForwarderCall.connectionEstablished () none] := by
    refine ⟨⟨?_, ?_⟩, trivial⟩
    · intro inner hinner
      cases hinner
    · rintro ⟨inner, hinner, -⟩
      cases hinner
  have hside : oneConnection.subscriptionTable.table.ListedOn remoteSetup.index
      (sideIndex remoteSetup.isLocal) := by
    intro agent side hmem
    cases hmem
  obtain ⟨-, hrouted, hforwarded⟩ := reused_index_keeps_late_subscriptions remoteSetup
    [.connectionEstablished () none] hsteps hside ()
    [.subscribe sampleType (some 1), .forward ⟨sampleType, 3⟩ sampleType (some 2)]
    [.removeConnection, .establish (), .purgeSubscriptions, .subscribe sampleType (some 1),
      .purgeRemote, .forward ⟨sampleType, 3⟩ sampleType (some 2)]
    (by simp [ReuseStep.usesNewIndex])
    (.left _ (.right _ (.left _ (.right _ (.left _ (.right _ .nil)))))) rfl
  constructor
  · exact (hrouted rfl _).2 ⟨.subscribe sampleType (some 1), List.mem_cons_self, rfl⟩
  · exact (hforwarded _).2
      ⟨.forward ⟨sampleType, 3⟩ sampleType (some 2), List.mem_cons_self, rfl⟩

end ReuseState

end Slim
