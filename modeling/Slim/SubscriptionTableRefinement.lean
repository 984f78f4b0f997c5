import Slim.SubscriptionTableMatch
import Mathlib.Data.Set.Basic
import Mathlib.Data.Set.Insert

/-!
# The subscription table refines a relation

What the table is for: it stores a relation between agents and connections, and a
lookup asks the relation.  `Subscriptions` is that relation, with the three updates
as set operations, and `Answers` says what `match_all` has to return.  `Refines`
connects the relation to the four copies kept by the code.
-/

namespace Slim

open HashKey SubscriptionTableImpl

/-! ## The abstract table -/

/-- The subscriptions: the type and the id of an agent, and a connection. -/
abbrev Subscriptions := Set (TypeKey × UInt64 × Nat)

namespace Subscriptions

def step (S : Subscriptions) : Call → Subscriptions
  | .addSubscription agentType agentId conn _ =>
      insert (key agentType, agentId.getD DEFAULT_AGENT_ID, conn) S
  | .removeSubscription agentType agentId conn _ =>
      S \ {(key agentType, agentId.getD DEFAULT_AGENT_ID, conn)}
  | .removeConnection conn _ _ => {entry ∈ S | entry.2.2 ≠ conn}

/-- The local or the remote connections with a subscription that matches, but for the
    one the message came from.  A lookup without an id matches every id. -/
def targets (S : Subscriptions) (isLocal : Nat → Bool) (agentType : AgentType)
    (agentId : Option UInt64) (incomingConn : Nat) (side : Bool) : Set Nat :=
  {conn | conn ≠ incomingConn ∧ isLocal conn = side ∧
    ∃ id, (agentId = none ∨ agentId = some id) ∧ (key agentType, id, conn) ∈ S}

/-- The list has exactly the elements of the set, each once. -/
def Enumerates (out : List Nat) (set : Set Nat) : Prop :=
  out.Nodup ∧ ∀ conn, conn ∈ out ↔ conn ∈ set

/-- The specified answer: the local targets if there are any, else the remote ones
    if there are any, else the error. -/
def Answers (S : Subscriptions) (isLocal : Nat → Bool) (agentType : AgentType)
    (agentId : Option UInt64) (incomingConn : Nat)
    (answer : Except SubscriptionTableError (List Nat)) : Prop :=
  let targets := S.targets isLocal agentType agentId incomingConn
  ((targets true).Nonempty → ∃ out, answer = .ok out ∧ Enumerates out (targets true)) ∧
  (targets true = ∅ → (targets false).Nonempty →
    ∃ out, answer = .ok out ∧ Enumerates out (targets false)) ∧
  (targets true = ∅ → targets false = ∅ → answer = .error (noMatch agentType agentId))

end Subscriptions

/-! ## The refinement relation -/

/-- The state is consistent, stores each connection on the side `isLocal` gives it,
    and holds the subscriptions of the relation. -/
structure Refines (isLocal : Nat → Bool) (s : SubscriptionTableImpl) (S : Subscriptions) :
    Prop where
  consistent : s.Consistent
  listedOn : ∀ conn, s.table.ListedOn conn (sideIndex (isLocal conn))
  holds_iff : ∀ agent conn, s.connections.Holds agent conn ↔
    (key agent.agentType, agent.agentId, conn) ∈ S

theorem prod_key_eq_iff (agent other : Agent) (conn otherConn : Nat) :
    (key agent.agentType, agent.agentId, conn) =
        (key other.agentType, other.agentId, otherConn) ↔
      key agent = key other ∧ conn = otherConn := by
  simp only [SubTable.key_eq_iff, Prod.mk.injEq, and_assoc]

/-- One successful call updates the agent sets as it updates the relation. -/
theorem holds_exec_iff {isLocal : Nat → Bool} {s : SubscriptionTableImpl} {S : Subscriptions}
    (hrefines : Refines isLocal s S) {call : Call} (hflag : call.isLocal = isLocal call.conn)
    (hok : (s.perform call).1 = .ok ()) (agent : Agent) (conn : Nat) :
    (s.exec call).connections.Holds agent conn ↔
      (key agent.agentType, agent.agentId, conn) ∈ S.step call := by
  cases call with
  | addSubscription agentType agentId d flag =>
      have hin : (key agent.agentType, agent.agentId, conn) ∈
          S.step (.addSubscription agentType agentId d flag) ↔
          s.connections.Holds agent conn ∨
            (key agent = key (agentOf agentType agentId) ∧ conn = d) := by
        rw [hrefines.holds_iff, ← prod_key_eq_iff, or_comm]
        rfl
      rw [hin]
      exact s.holds_addSubscription agentType agentId d flag agent conn
  | removeSubscription agentType agentId d flag =>
      have hin : (key agent.agentType, agent.agentId, conn) ∈
          S.step (.removeSubscription agentType agentId d flag) ↔
          s.connections.Holds agent conn ∧
            ¬ (key agent = key (agentOf agentType agentId) ∧ conn = d) := by
        rw [hrefines.holds_iff, ← prod_key_eq_iff]
        rfl
      rw [hin]
      simp only [perform] at hok
      simp only [exec, perform]
      rcases s.removeSubscription_cases agentType agentId d flag with
        ⟨-, e, heq⟩ | ⟨-, e, left, heq, -⟩ | ⟨-, left, connections, heq, -, hholds⟩
      · rw [heq] at hok
        cases hok
      · rw [heq] at hok
        cases hok
      · rw [heq]
        exact hholds agent conn
  | removeConnection d flag order =>
      have hhonest : s.table.ListedOn d (sideIndex flag) := by
        rw [show flag = isLocal d from hflag]
        exact hrefines.listedOn d
      obtain ⟨-, -, hholds⟩ := hrefines.consistent.removeConnection_eq d flag order hhonest
      have hin : (key agent.agentType, agent.agentId, conn) ∈
          S.step (.removeConnection d flag order) ↔
          s.connections.Holds agent conn ∧ conn ≠ d := by
        rw [hrefines.holds_iff]
        rfl
      rw [hin]
      exact hholds agent conn

theorem Refines.exec {isLocal : Nat → Bool} {s : SubscriptionTableImpl} {S : Subscriptions}
    (hrefines : Refines isLocal s S) {call : Call} (hflag : call.isLocal = isLocal call.conn)
    (hok : (s.perform call).1 = .ok ()) : Refines isLocal (s.exec call) (S.step call) where
  consistent := by
    apply hrefines.consistent.exec call
    · rw [Honest, hflag]
      exact hrefines.listedOn call.conn
    · exact not_strays_of_ok hok
  listedOn := listedOn_exec hrefines.listedOn hflag
  holds_iff := holds_exec_iff hrefines hflag hok

/-! ## The answers -/

/-- What a lookup reaches is what the relation gives it. -/
theorem Refines.reaches_iff {isLocal : Nat → Bool} {s : SubscriptionTableImpl}
    {S : Subscriptions} (hrefines : Refines isLocal s S) (agentType : AgentType)
    (agentId : Option UInt64) (incomingConn : Nat) (side : Bool) (conn : Nat) :
    s.table.Reaches agentType agentId (sideIndex side) conn ∧ conn ≠ incomingConn ↔
      conn ∈ S.targets isLocal agentType agentId incomingConn side := by
  have hsides : sideIndex side = sideIndex (isLocal conn) ↔ isLocal conn = side := by
    cases side <;> cases isLocal conn <;> decide
  -- listed on a side is: held, and of that locality
  have hlisted : ∀ id, conn ∈ s.table.conns ⟨agentType, id⟩ (sideIndex side) ↔
      isLocal conn = side ∧ (key agentType, id, conn) ∈ S := by
    intro id
    constructor
    · intro hmem
      exact ⟨hsides.1 (hrefines.listedOn conn _ _ hmem),
        (hrefines.holds_iff ⟨agentType, id⟩ conn).1 (hrefines.consistent.listed_held hmem)⟩
    · rintro ⟨hside, hin⟩
      obtain ⟨found, hmem⟩ :=
        hrefines.consistent.held_listed ((hrefines.holds_iff ⟨agentType, id⟩ conn).2 hin)
      rw [hsides.2 hside, ← hrefines.listedOn conn _ _ hmem]
      exact hmem
  have hreaches : s.table.Reaches agentType agentId (sideIndex side) conn ↔
      isLocal conn = side ∧ ∃ id, (agentId = none ∨ agentId = some id) ∧
        (key agentType, id, conn) ∈ S := by
    rcases agentId with _ | id
    · rw [hrefines.consistent.counted.reaches_none_iff]
      simp only [hlisted, true_or, true_and, exists_and_left]
    · rw [SubTable.reaches_some_iff, hlisted]
      simp
  rw [hreaches, and_comm]
  rfl

/-- In a state that refines the relation, `match_all` gives the specified answer. -/
theorem Refines.answers {isLocal : Nat → Bool} {s : SubscriptionTableImpl} {S : Subscriptions}
    (hrefines : Refines isLocal s S) (agentType : AgentType) (agentId : Option UInt64)
    (incomingConn : Nat) (order : IterOrder (Nat × Nat)) :
    S.Answers isLocal agentType agentId incomingConn
      (s.matchAll agentType agentId incomingConn order) := by
  have hreaches := hrefines.reaches_iff agentType agentId incomingConn
  -- a side without targets reaches at most the incoming connection
  have hnone : ∀ side, (∀ conn, s.table.Reaches agentType agentId (sideIndex side) conn →
      conn = incomingConn) → S.targets isLocal agentType agentId incomingConn side = ∅ := by
    intro side honly
    apply Set.eq_empty_of_forall_notMem
    intro conn hin
    have hboth := (hreaches side conn).2 hin
    exact hboth.2 (honly conn hboth.1)
  rcases s.matchAll_cases agentType agentId incomingConn order with
    ⟨out, side, hout, hne, hnodup, hmem, hlocal⟩ | ⟨herror, honly⟩
  · have henum : Subscriptions.Enumerates out
        (S.targets isLocal agentType agentId incomingConn side) :=
      ⟨hnodup hrefines.consistent.unique, fun conn => (hmem conn).trans (hreaches side conn)⟩
    have hsome : (S.targets isLocal agentType agentId incomingConn side).Nonempty := by
      obtain ⟨conn, hconn⟩ := List.exists_mem_of_ne_nil out hne
      exact ⟨conn, (henum.2 conn).1 hconn⟩
    cases side with
    | true =>
        refine ⟨fun _ => ⟨out, hout, henum⟩, fun hempty => ?_, fun hempty => ?_⟩
        · exact absurd hempty hsome.ne_empty
        · exact absurd hempty hsome.ne_empty
    | false =>
        have hempty := hnone true (hlocal rfl)
        refine ⟨fun hlocals => ?_, fun _ _ => ⟨out, hout, henum⟩, fun _ hremote => ?_⟩
        · exact absurd hempty hlocals.ne_empty
        · exact absurd hremote hsome.ne_empty
  · refine ⟨fun hlocals => ?_, fun _ hremotes => ?_, fun _ _ => herror⟩
    · exact absurd (hnone true (honly true)) hlocals.ne_empty
    · exact absurd (hnone false (honly false)) hremotes.ne_empty

theorem refines_default (isLocal : Nat → Bool) : Refines isLocal default ∅ where
  consistent := consistent_default
  listedOn := fun _ _ _ hmem => nomatch hmem
  holds_iff := fun agent conn =>
    ⟨fun hholds => absurd hholds (ConnTable.not_holds_empty agent conn), fun hin => hin.elim⟩

/-- After every run of successful calls, with the flag a function of the connection,
    `match_all` answers from the relation that the calls describe. -/
theorem matchAll_answers_relation (isLocal : Nat → Bool) (calls : List Call)
    (hflag : ∀ call ∈ calls, call.isLocal = isLocal call.conn)
    (hok : Runs.Along exec (fun s call => (s.perform call).1 = .ok ()) default calls)
    (agentType : AgentType) (agentId : Option UInt64) (incomingConn : Nat)
    (order : IterOrder (Nat × Nat)) :
    (Runs.run Subscriptions.step ∅ calls).Answers isLocal agentType agentId incomingConn
      ((Runs.run exec default calls).matchAll agentType agentId incomingConn order) := by
  have hsteps : Runs.Along exec (fun s call => call.isLocal = isLocal call.conn ∧
      (s.perform call).1 = .ok ()) default calls :=
    (Runs.along_and calls default).2 ⟨Runs.along_of_forall calls default hflag, hok⟩
  have hsimulates : ∀ (s : SubscriptionTableImpl) (S : Subscriptions) (call : Call),
      Refines isLocal s S → (call.isLocal = isLocal call.conn ∧ (s.perform call).1 = .ok ()) →
      Refines isLocal (s.exec call) (S.step call) :=
    fun s S call hrefines hstep => hrefines.exec hstep.1 hstep.2
  have hrefines := Runs.run_simulation hsimulates calls default ∅ hsteps (refines_default isLocal)
  exact hrefines.answers agentType agentId incomingConn order

/-- The hypotheses hold of a run with a local and a remote connection, an
    unsubscription and a removed connection. -/
theorem matchAll_answers_relation_sample :
    let isLocal := fun conn : Nat => decide (conn = 0)
    let calls : List Call :=
      [.addSubscription sampleType (some 1) 0 true, .addSubscription sampleType none 1 false,
        .addSubscription sampleType (some 2) 2 false,
        .removeSubscription sampleType (some 1) 0 true, .removeConnection 2 false IterOrder.stored]
    (Runs.run exec default calls).matchAll sampleType none 5 IterOrder.stored = .ok [1] ∧
      (Runs.run Subscriptions.step ∅ calls).Answers isLocal sampleType none 5
        ((Runs.run exec default calls).matchAll sampleType none 5 IterOrder.stored) :=
  ⟨rfl, matchAll_answers_relation _ [_, _, _, _, _] (by decide)
    ⟨rfl, rfl, rfl, rfl, rfl, trivial⟩ _ _ _ _⟩

end Slim
