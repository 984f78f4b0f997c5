import Slim.SubscriptionTableMatch

/-!
# Anycast: does `match_one` find what `match_all` finds?

`match_all` goes through the index or the list of the id; `match_one` searches.
The search of a type stays below `max_set`, so it can miss a connection that a
removal left above it.  The search of an id looks at one drawn position of the list
only, so it fails when the incoming connection is there.  This file says when the
two lookups agree, and which connections `match_one` can return at all.
-/

namespace Slim

open HashKey Sequences

namespace SubscriptionTableImpl

/-- The two lookups succeed together, and what the one returns is among what the
    other returns. -/
def AnycastAgrees (s : SubscriptionTableImpl) (agentType : AgentType) (agentId : Option UInt64)
    (incomingConn : Nat) (rng : Rng) (order : IterOrder (Nat × Nat)) : Prop :=
  ((∃ conn, s.matchOne agentType agentId incomingConn rng = .ok conn) ↔
    ∃ out, s.matchAll agentType agentId incomingConn order = .ok out) ∧
  ∀ conn out, s.matchOne agentType agentId incomingConn rng = .ok conn →
    s.matchAll agentType agentId incomingConn order = .ok out → conn ∈ out

/-- `match_all` answers from this side: the side reaches a connection other than the
    incoming one, and the local side, which comes first, does not if this is the
    remote side. -/
def Answering (s : SubscriptionTableImpl) (agentType : AgentType) (agentId : Option UInt64)
    (incomingConn : Nat) (isLocal : Bool) : Prop :=
  (∃ conn, s.table.Reaches agentType agentId (sideIndex isLocal) conn ∧ conn ≠ incomingConn) ∧
    (isLocal = false →
      ∀ conn, s.table.Reaches agentType agentId (sideIndex true) conn → conn = incomingConn)

/-- What is found on the answering side is the answer of `match_one`, if the search of the
    local side only finds what it reaches. -/
theorem matchOne_of_answering {s : SubscriptionTableImpl} {agentType : AgentType}
    {agentId : Option UInt64} {incomingConn found : Nat} {rng : Rng} {isLocal : Bool}
    (hsound : ∀ conn,
      (s.table.state agentType).getOneConnection agentId incomingConn true rng = some conn →
      s.table.Reaches agentType agentId (sideIndex true) conn ∧ conn ≠ incomingConn)
    (hanswering : s.Answering agentType agentId incomingConn isLocal)
    (hfound : (s.table.state agentType).getOneConnection agentId incomingConn isLocal rng =
      some found) :
    s.matchOne agentType agentId incomingConn rng = .ok found := by
  have hone := s.matchOne_eq agentType agentId incomingConn rng
  simp only [] at hone
  cases isLocal with
  | true => rw [hone, hfound, Option.some_or]
  | false =>
      -- the local search must have failed, since it could only find what is reached
      rcases hfirst : (s.table.state agentType).getOneConnection agentId incomingConn true rng
        with _ | other
      · rw [hone, hfirst, hfound, Option.none_or]
      · obtain ⟨hreaches, hother⟩ := hsound other hfirst
        exact absurd (hanswering.2 rfl other hreaches) hother

/-- The lookups agree if the search of a side only finds what the side reaches and
    does not fail on the side from which `match_all` answers. -/
theorem agrees_of_sides {s : SubscriptionTableImpl} {agentType : AgentType}
    {agentId : Option UInt64} {incomingConn : Nat} {rng : Rng} (order : IterOrder (Nat × Nat))
    (hsound : ∀ isLocal conn,
      (s.table.state agentType).getOneConnection agentId incomingConn isLocal rng = some conn →
      s.table.Reaches agentType agentId (sideIndex isLocal) conn ∧ conn ≠ incomingConn)
    (hcomplete : ∀ isLocal, s.Answering agentType agentId incomingConn isLocal →
      (s.table.state agentType).getOneConnection agentId incomingConn isLocal rng ≠ none) :
    s.AnycastAgrees agentType agentId incomingConn rng order := by
  rcases s.matchAll_cases agentType agentId incomingConn order with
    ⟨out, isLocal, hout, hne, -, hmem, hlocal⟩ | ⟨herror, honly⟩
  · have hanswering : s.Answering agentType agentId incomingConn isLocal := by
      obtain ⟨conn, hconn⟩ := List.exists_mem_of_ne_nil out hne
      exact ⟨⟨conn, (hmem conn).1 hconn⟩, hlocal⟩
    obtain ⟨found, hfound⟩ := Option.ne_none_iff_exists'.1 (hcomplete isLocal hanswering)
    have hmatch := matchOne_of_answering (hsound true) hanswering hfound
    refine ⟨⟨fun _ => ⟨out, hout⟩, fun _ => ⟨found, hmatch⟩⟩, fun conn out' hconn hout' => ?_⟩
    rw [hmatch, Except.ok.injEq] at hconn
    rw [hout, Except.ok.injEq] at hout'
    rw [← hconn, ← hout', hmem]
    exact hsound isLocal found hfound
  · have hnone : ∀ isLocal,
        (s.table.state agentType).getOneConnection agentId incomingConn isLocal rng = none := by
      intro isLocal
      rcases hfound : (s.table.state agentType).getOneConnection agentId incomingConn isLocal rng
        with _ | conn
      · rfl
      · obtain ⟨hreaches, hne⟩ := hsound isLocal conn hfound
        exact absurd (honly isLocal conn hreaches) hne
    have hone := s.matchOne_eq agentType agentId incomingConn rng
    simp only [hnone, Option.none_or] at hone
    refine ⟨⟨?_, ?_⟩, ?_⟩
    · rintro ⟨conn, hconn⟩
      rw [hone] at hconn
      cases hconn
    · rintro ⟨out, hout⟩
      rw [herror] at hout
      cases hout
    · intro conn out hconn
      rw [hone] at hconn
      cases hconn

/-! ## Anycast to an agent id -/

/-- The list of the id on this side has a choice, and the drawn position holds the
    incoming connection. -/
def Blocked (s : SubscriptionTableImpl) (agentType : AgentType) (id : UInt64)
    (incomingConn : Nat) (rng : Rng) (isLocal : Bool) : Prop :=
  let conns := s.table.conns ⟨agentType, id⟩ (sideIndex isLocal)
  2 ≤ conns.length ∧ conns[rng.draw (sideIndex isLocal) 2]? = some incomingConn

section KnownId

variable {s : SubscriptionTableImpl} {agentType : AgentType} {id : UInt64} {incomingConn : Nat}
  {rng : Rng}

theorem getOneConnection_of_known (hknown : s.table.Known ⟨agentType, id⟩) (isLocal : Bool) :
    (s.table.state agentType).getOneConnection (some id) incomingConn isLocal rng =
      let conns := s.table.conns ⟨agentType, id⟩ (sideIndex isLocal)
      let pos := if conns.length = 1 then 0 else rng.draw (sideIndex isLocal) 2
      conns[pos]?.filter fun conn => decide (conn ≠ incomingConn) := by
  obtain ⟨vec, hget⟩ := hknown
  exact AgentTypeState.getOneConnection_known hget incomingConn isLocal rng

theorem known_sound (hknown : s.table.Known ⟨agentType, id⟩) (isLocal : Bool) (conn : Nat)
    (hfound : (s.table.state agentType).getOneConnection (some id) incomingConn isLocal rng =
      some conn) :
    s.table.Reaches agentType (some id) (sideIndex isLocal) conn ∧ conn ≠ incomingConn := by
  obtain ⟨vec, hget⟩ := hknown
  obtain ⟨hne, -, hlisted⟩ := AgentTypeState.getOneConnection_sound hfound
  exact ⟨hlisted id vec rfl hget, hne⟩

/-- A side that offers a connection fails exactly when it is blocked. -/
theorem getOneConnection_eq_none_iff_blocked (hknown : s.table.Known ⟨agentType, id⟩)
    {isLocal : Bool}
    (hoffers : ∃ conn, s.table.Reaches agentType (some id) (sideIndex isLocal) conn ∧
      conn ≠ incomingConn) :
    (s.table.state agentType).getOneConnection (some id) incomingConn isLocal rng = none ↔
      s.Blocked agentType id incomingConn rng isLocal := by
  obtain ⟨conn, hmem, hne⟩ := hoffers
  rw [SubTable.reaches_some_iff] at hmem
  rw [getOneConnection_of_known hknown, Blocked]
  simp only []
  rcases hconns : s.table.conns ⟨agentType, id⟩ (sideIndex isLocal) with
    _ | ⟨first, _ | ⟨second, rest⟩⟩
  · rw [hconns] at hmem
    cases hmem
  · -- a single connection, which is the one offered
    rw [hconns, List.mem_singleton] at hmem
    subst hmem
    simp [Option.filter, hne]
  · have hdraw : rng.draw (sideIndex isLocal) 2 < (first :: second :: rest).length := by
      have hlt := rng.draw_lt (sideIndex isLocal) 2 (by decide)
      simp only [List.length_cons]
      omega
    have hlength : (first :: second :: rest).length ≠ 1 := by simp
    have htwo : 2 ≤ (first :: second :: rest).length := by simp
    rw [if_neg hlength, List.getElem?_eq_getElem hdraw]
    simp [Option.filter]

/-- A lookup that is blocked on no answering side agrees with `match_all`, in any
    state. -/
theorem agrees_of_not_blocked (hknown : s.table.Known ⟨agentType, id⟩)
    (hfree : ∀ isLocal, s.Answering agentType (some id) incomingConn isLocal →
      ¬ s.Blocked agentType id incomingConn rng isLocal) (order : IterOrder (Nat × Nat)) :
    s.AnycastAgrees agentType (some id) incomingConn rng order := by
  apply agrees_of_sides order (known_sound hknown)
  intro isLocal hanswering hnone
  exact hfree isLocal hanswering
    ((getOneConnection_eq_none_iff_blocked hknown hanswering.1).1 hnone)

/-- When no connection is listed on both sides, a blocked lookup disagrees. -/
theorem not_blocked_of_agrees (hknown : s.table.Known ⟨agentType, id⟩)
    (hsides : ∀ conn, conn ∈ s.table.conns ⟨agentType, id⟩ (sideIndex true) →
      conn ∉ s.table.conns ⟨agentType, id⟩ (sideIndex false))
    {order : IterOrder (Nat × Nat)}
    (hagrees : s.AnycastAgrees agentType (some id) incomingConn rng order) (isLocal : Bool)
    (hanswering : s.Answering agentType (some id) incomingConn isLocal) :
    ¬ s.Blocked agentType id incomingConn rng isLocal := by
  intro hblocked
  have hnone := (getOneConnection_eq_none_iff_blocked hknown hanswering.1).2 hblocked
  -- `match_all` answers from this side
  obtain ⟨out, hout, hmem⟩ : ∃ out, s.matchAll agentType (some id) incomingConn order = .ok out ∧
      ∀ conn, conn ∈ out ↔ s.table.Reaches agentType (some id) (sideIndex isLocal) conn ∧
        conn ≠ incomingConn := by
    obtain ⟨⟨offered, hreaches, hne⟩, hlocal⟩ := hanswering
    rcases s.matchAll_cases agentType (some id) incomingConn order with
      ⟨out, side, hout, hnonempty, -, hmem, hfirst⟩ | ⟨-, honly⟩
    · obtain ⟨conn, hconn⟩ := List.exists_mem_of_ne_nil out hnonempty
      have hsame : side = isLocal := by
        cases side with
        | true =>
            cases isLocal with
            | true => rfl
            | false =>
                have hfound := (hmem conn).1 hconn
                exact absurd (hlocal rfl conn hfound.1) hfound.2
        | false =>
            cases isLocal with
            | true => exact absurd (hfirst rfl offered hreaches) hne
            | false => rfl
      subst hsame
      exact ⟨out, hout, hmem⟩
    · exact absurd (honly isLocal offered hreaches) hne
  obtain ⟨found, hfound⟩ := hagrees.1.2 ⟨out, hout⟩
  have hin := (hmem found).1 (hagrees.2 found out hfound hout)
  obtain ⟨side, hside⟩ := exists_side_of_matchOne hfound
  have hlisted := (known_sound hknown side found hside).1
  cases isLocal with
  | true =>
      cases side with
      | true =>
          rw [hnone] at hside
          cases hside
      | false => exact hsides found hin.1 hlisted
  | false =>
      cases side with
      | true => exact hin.2 (hanswering.2 rfl found hlisted)
      | false =>
          rw [hnone] at hside
          cases hside

end KnownId

/-- In every reachable state an anycast to a subscribed id agrees with `match_all`
    unless the drawn position of the answering side holds the incoming connection.
    With honest flags it then disagrees. -/
theorem anycast_to_id_agrees (calls : List Call) (agentType : AgentType) (id : UInt64)
    (incomingConn : Nat) (rng : Rng) (order : IterOrder (Nat × Nat))
    (hsubscribed : ∃ side conn,
      conn ∈ (Runs.run exec default calls).table.conns ⟨agentType, id⟩ side) :
    let s := Runs.run exec default calls
    ((∀ isLocal, s.Answering agentType (some id) incomingConn isLocal →
        ¬ s.Blocked agentType id incomingConn rng isLocal) →
      s.AnycastAgrees agentType (some id) incomingConn rng order) ∧
    (Runs.Along exec Honest default calls →
      s.AnycastAgrees agentType (some id) incomingConn rng order →
      ∀ isLocal, s.Answering agentType (some id) incomingConn isLocal →
        ¬ s.Blocked agentType id incomingConn rng isLocal) := by
  have hknown := (SubTable.known_iff _ ⟨agentType, id⟩).2 hsubscribed
  refine ⟨fun hfree => agrees_of_not_blocked hknown hfree order, ?_⟩
  intro hhonest hagrees
  apply not_blocked_of_agrees hknown _ hagrees
  intro conn hlocal hremote
  exact absurd ((coherent_run hhonest).one_side hlocal hremote) (by decide)

/-- Two connections subscribed to one id. -/
def sharedId : List Call :=
  [.addSubscription sampleType (some 1) 0 true, .addSubscription sampleType (some 1) 1 true]

/-- A message from the first connection, whose position is drawn, is not delivered to
    the second. -/
theorem anycast_to_id_misses :
    (Runs.run exec default sharedId).matchAll sampleType (some 1) 0 IterOrder.stored = .ok [1] ∧
      (Runs.run exec default sharedId).matchOne sampleType (some 1) 0 Rng.zero =
        .error (noMatch sampleType (some 1)) ∧
      ¬ (Runs.run exec default sharedId).AnycastAgrees sampleType (some 1) 0 Rng.zero
        IterOrder.stored := by
  refine ⟨rfl, rfl, fun hagrees => ?_⟩
  obtain ⟨conn, hconn⟩ := hagrees.1.2 ⟨[1], rfl⟩
  cases hconn

/-- A message from the second connection is delivered to the first. -/
theorem anycast_to_id_agrees_sample :
    (Runs.run exec default sharedId).AnycastAgrees sampleType (some 1) 1 Rng.zero
      IterOrder.stored := by
  have hlisted : 0 ∈ (Runs.run exec default sharedId).table.conns ⟨sampleType, 1⟩ 0 := by decide
  apply (anycast_to_id_agrees sharedId sampleType 1 1 Rng.zero IterOrder.stored
    ⟨0, 0, hlisted⟩).1
  rintro isLocal - ⟨hlength, hpos⟩
  cases isLocal with
  | true => exact absurd hpos (by decide)
  | false => exact absurd hlength (by decide)

end SubscriptionTableImpl

/-! ## Anycast to a type -/

namespace Connections

variable {c left : Connections} {conn : Nat}

/-- Freeing the slot of the connection would leave another one above `max_set`. -/
def Hides (c : Connections) (conn : Nat) : Prop :=
  ∃ pos, c.index.get? conn = some pos ∧ c.pool.Uncovers pos

theorem covered_insert (hcovered : c.pool.Covered) (conn : Nat) :
    (c.insert conn).pool.Covered := by
  unfold insert
  split
  · exact Pool.Covered.insert hcovered _
  · split
    · exact hcovered
    · exact Pool.Covered.modify hcovered _ _

/-- A removal drops the entry of the connection or counts it down. -/
theorem remove_eq_ok (hok : c.remove conn = .ok left) :
    ∃ pos, ∃ hindex : c.index.get? conn = some pos, ∃ entry, c.pool.get pos = some entry ∧
      (entry.counter = 1 ∧ left = c.dropConn conn pos hindex ∨
        ∃ hpos, left = c.setCounter pos (entry.counter - 1) hpos) := by
  unfold remove at hok
  split at hok
  · cases hok
  next pos hindex =>
    split at hok
    · cases hok
    next entry hlive =>
      split at hok
      next hone =>
        cases hok
        exact ⟨pos, hindex, entry, hlive, .inl ⟨hone, rfl⟩⟩
      next =>
        cases hok
        exact ⟨pos, hindex, entry, hlive, .inr ⟨_, rfl⟩⟩

theorem covered_remove (hcovered : c.pool.Covered) (hok : c.remove conn = .ok left)
    (hsafe : c.refs conn = 1 → ¬ c.Hides conn) :
    left.pool.Covered := by
  obtain ⟨pos, hindex, entry, hlive, ⟨hone, rfl⟩ | ⟨_, rfl⟩⟩ := remove_eq_ok hok
  · refine Pool.Covered.remove hcovered fun huncovers => ?_
    obtain ⟨counter, hcounter⟩ := c.index_live conn pos hindex
    have hsame : entry = ⟨conn, counter + 1⟩ := Option.some.inj (hlive.symm.trans hcounter)
    have hrefs : c.refs conn = 1 := by
      rw [hsame] at hlive hone
      rw [← hone]
      exact refs_of_live hlive
    exact hsafe hrefs ⟨pos, hindex, huncovers⟩
  · exact Pool.Covered.modify hcovered _ _

theorem not_hides_of_remove (hsafe : ¬ c.Hides conn)
    (hok : c.remove conn = .ok left) : ¬ left.Hides conn := by
  obtain ⟨pos, hindex, entry, hlive, ⟨_, rfl⟩ | ⟨_, rfl⟩⟩ := remove_eq_ok hok
  · rintro ⟨other, hother, -⟩
    simp only [dropConn, HashMap.get?_remove_self] at hother
    cases hother
  · rintro ⟨other, hother, htop, ⟨below, hbelow, htaken⟩, lower, hlower, hused⟩
    have hslots : ∀ slot counter, ((c.pool.modify pos fun entry =>
        { entry with counter := counter }).get slot).isSome = (c.pool.get slot).isSome := by
      intro slot counter
      rw [Pool.get_modify]
      split <;> simp
    simp only [setCounter, hslots] at htaken hused
    exact hsafe ⟨other, hother, htop, ⟨below, hbelow, htaken⟩, lower, hlower, hused⟩

end Connections

namespace SubTable

variable {table : SubTable} {conn : Nat} {isLocal : Bool}

/-- In every pool of the table `max_set` bounds the slots in use. -/
def AllCovered (table : SubTable) : Prop :=
  ∀ agentType side, ((table.state agentType).connections side).pool.Covered

theorem allCovered_empty : AllCovered HashMap.empty :=
  fun _ _ => Pool.covered_withCapacity 2 (by decide)

theorem AllCovered.add (hcovered : table.AllCovered) (agent : Agent) (conn : Nat) (isLocal : Bool) :
    AllCovered (addSubscriptionToSubTable agent conn isLocal table) := by
  intro other side
  rw [state_add]
  split
  · simp only [AgentTypeState.insert, Function.update_apply]
    split
    next hside =>
      rw [← hside]
      exact Connections.covered_insert (hcovered other side) conn
    next => exact hcovered other side
  · exact hcovered other side

/-- A removal works on the connections of one type and one side, or empties the type. -/
theorem connections_remove_cases {agent : Agent} {left : SubTable}
    (hok : removeSubscriptionFromSubTable agent conn isLocal table = .ok left) (other : AgentType)
    (side : Fin 2) :
    (left.state other).connections side = (table.state other).connections side ∨
      (left.state other).connections side = Connections.default ∨
      (key other = key agent.agentType ∧ side = sideIndex isLocal ∧
        ((table.state other).connections side).remove conn =
          .ok ((left.state other).connections side)) := by
  unfold removeSubscriptionFromSubTable at hok
  rcases hget : table.get? agent.agentType with _ | st
  · rw [hget] at hok
    cases hok
  have hstate := state_of_get hget
  rcases st.remove_cases agent.agentId conn isLocal with
    ⟨-, herror⟩ | ⟨v, -, -, herror⟩ | ⟨v, removed, -, -, hremove, -, -, conns, hconns, hupdate⟩
  · simp only [hget, herror] at hok
    cases hok
  · simp only [hget, herror] at hok
    cases hok
  simp only [hget, hremove] at hok
  by_cases htype : key other = key agent.agentType
  · split at hok
    · cases hok
      rw [state_remove, if_pos htype]
      exact Or.inr (Or.inl rfl)
    · cases hok
      rw [state_insert, if_pos htype, state_congr table htype, hstate, hupdate]
      by_cases hside : side = sideIndex isLocal
      · rw [hside, Function.update_self]
        exact Or.inr (Or.inr ⟨htype, rfl, hconns⟩)
      · rw [Function.update_of_ne hside]
        exact Or.inl rfl
  · split at hok
    · cases hok
      rw [state_remove, if_neg htype]
      exact Or.inl rfl
    · cases hok
      rw [state_insert, if_neg htype]
      exact Or.inl rfl

theorem AllCovered.remove {agent : Agent} {left : SubTable} (hcovered : table.AllCovered)
    (hok : removeSubscriptionFromSubTable agent conn isLocal table = .ok left)
    (hsafe : table.refs agent.agentType (sideIndex isLocal) conn = 1 →
      ¬ ((table.state agent.agentType).connections (sideIndex isLocal)).Hides conn) :
    left.AllCovered := by
  intro other side
  rcases connections_remove_cases hok other side with heq | heq | ⟨hkey, hside, hremove⟩
  · rw [heq]
    exact hcovered other side
  · rw [heq]
    exact Pool.covered_withCapacity 2 (by decide)
  · apply Connections.covered_remove (hcovered other side) hremove
    rw [hside, state_congr table hkey]
    exact hsafe

/-- The loop of `remove_connection` keeps the pools covered if the connection hides
    nothing in the types it goes through. -/
theorem AllCovered.removeAgents (agents : List Agent) (hcovered : table.AllCovered)
    (hsafe : ∀ agent ∈ agents,
      ¬ ((table.state agent.agentType).connections (sideIndex isLocal)).Hides conn) :
    (SubscriptionTableImpl.removeAgents conn isLocal agents table).2.AllCovered := by
  -- along the loop, the connection goes on hiding nothing in any of these types
  have hstep : ∀ agent ∈ agents, ∀ middle left : SubTable,
      (middle.AllCovered ∧ ∀ agent ∈ agents,
        ¬ ((middle.state agent.agentType).connections (sideIndex isLocal)).Hides conn) →
      removeSubscriptionFromSubTable agent conn isLocal middle = .ok left →
      left.AllCovered ∧ ∀ agent ∈ agents,
        ¬ ((left.state agent.agentType).connections (sideIndex isLocal)).Hides conn := by
    rintro agent hagent middle left ⟨hmiddle, hnot⟩ hok
    refine ⟨hmiddle.remove hok fun _ => hnot agent hagent, fun other hother => ?_⟩
    rcases connections_remove_cases hok other.agentType (sideIndex isLocal) with
      heq | heq | ⟨-, -, hremove⟩
    · rw [heq]
      exact hnot other hother
    · rw [heq]
      rintro ⟨pos, hpos, -⟩
      cases hpos
    · exact Connections.not_hides_of_remove (hnot other hother) hremove
  exact (removeAgents_invariant agents hstep table ⟨hcovered, hsafe⟩).1

end SubTable

namespace SubscriptionTableImpl

/-- The call frees the top slot of a pool while the slot next to it and a lower one
    are in use: the new `max_set` then overlooks the slot next to it. -/
def Hides (s : SubscriptionTableImpl) : Call → Prop
  | .addSubscription _ _ _ _ => False
  | .removeSubscription agentType agentId conn isLocal =>
      s.table.Known (agentOf agentType agentId) ∧
        s.table.refs agentType (sideIndex isLocal) conn = 1 ∧
        ((s.table.state agentType).connections (sideIndex isLocal)).Hides conn
  | .removeConnection conn isLocal _ =>
      ∃ agent, s.connections.Holds agent conn ∧
        ((s.table.state agent.agentType).connections (sideIndex isLocal)).Hides conn

/-- One call that hides nothing keeps the pools covered. -/
theorem allCovered_exec {s : SubscriptionTableImpl} (hcovered : s.table.AllCovered) (call : Call)
    (hsafe : ¬ s.Hides call) : (s.exec call).table.AllCovered := by
  cases call with
  | addSubscription agentType agentId conn isLocal =>
      simp only [exec, perform]
      rcases s.addSubscription_cases agentType agentId conn isLocal with ⟨-, heq⟩ | ⟨-, heq⟩
      · rw [heq]
        exact hcovered
      · rw [heq]
        exact hcovered.add _ _ _
  | removeSubscription agentType agentId conn isLocal =>
      simp only [exec, perform, removeSubscription]
      rcases hremove : removeSubscriptionFromSubTable (agentOf agentType agentId) conn isLocal
          s.table with e | left
      · exact hcovered
      have hleft : left.AllCovered := by
        apply hcovered.remove hremove
        intro hrefs hhides
        rcases SubTable.remove_cases (agentOf agentType agentId) conn isLocal s.table with
          ⟨-, e, herror⟩ | ⟨hknown, -, -⟩
        · rw [hremove] at herror
          cases herror
        · exact hsafe ⟨hknown, hrefs, hhides⟩
      rcases removeSubscriptionFromConnection (agentOf agentType agentId) conn s.connections
        with e | connections
      · exact hleft
      · exact hleft
  | removeConnection conn isLocal order =>
      simp only [exec, perform]
      rcases s.removeConnection_cases conn isLocal order with
        ⟨-, heq⟩ | ⟨agents, -, hagents, hcases⟩
      · rw [heq]
        exact hcovered
      have hloop : (removeAgents conn isLocal agents s.table).2.AllCovered := by
        apply hcovered.removeAgents agents
        intro agent hagent hhides
        exact hsafe ⟨agent, (hagents agent).2 ⟨agent, hagent, rfl⟩, hhides⟩
      rcases hcases with ⟨e, -, heq⟩ | ⟨-, heq⟩
      · rw [heq]
        exact hloop
      · rw [heq]
        exact hloop

/-- With covered pools the search of a type finds what the index has. -/
theorem agrees_of_allCovered {s : SubscriptionTableImpl} (hcovered : s.table.AllCovered)
    (agentType : AgentType) (incomingConn : Nat) (rng : Rng) (order : IterOrder (Nat × Nat)) :
    s.AnycastAgrees agentType none incomingConn rng order := by
  apply agrees_of_sides order
  · intro isLocal conn hfound
    exact AgentTypeState.getOne_draw_sound hfound
  · rintro isLocal ⟨⟨conn, hrefs, hne⟩, -⟩
    exact Connections.getOne_ne_none (hcovered agentType (sideIndex isLocal))
      (rng.draw_lt (sideIndex isLocal) _ (Nat.succ_pos _)) hrefs hne

/-- In every state reached by calls that hide nothing, an anycast to a type agrees
    with `match_all`. -/
theorem anycast_to_type_agrees (calls : List Call)
    (hsafe : Runs.Along exec (fun s call => ¬ s.Hides call) default calls)
    (agentType : AgentType) (incomingConn : Nat) (rng : Rng) (order : IterOrder (Nat × Nat)) :
    (Runs.run exec default calls).AnycastAgrees agentType none incomingConn rng order := by
  have hcovered := Runs.run_invariant (I := fun s => s.table.AllCovered)
    (fun _ call hcovered hsafe => allCovered_exec hcovered call hsafe)
    calls default hsafe SubTable.allCovered_empty
  exact agrees_of_allCovered hcovered agentType incomingConn rng order

/-- Three connections of one type, of which the last one leaves. -/
def lastLeaves : List Call :=
  [.addSubscription sampleType (some 1) 0 true, .addSubscription sampleType (some 2) 1 true,
    .addSubscription sampleType (some 3) 2 true, .removeSubscription sampleType (some 3) 2 true]

/-- The second connection is now above `max_set`: a message from the first is lost,
    whatever is drawn. -/
theorem anycast_to_type_misses :
    (Runs.run exec default lastLeaves).matchAll sampleType none 0 IterOrder.stored = .ok [1] ∧
      (((Runs.run exec default lastLeaves).table.state sampleType).connections
        (sideIndex true)).pool.maxSet = 0 ∧
      (Runs.run exec default lastLeaves).matchOne sampleType none 0 Rng.zero =
        .error (noMatch sampleType none) ∧
      ¬ (Runs.run exec default lastLeaves).AnycastAgrees sampleType none 0 Rng.zero
        IterOrder.stored := by
  refine ⟨rfl, rfl, rfl, fun hagrees => ?_⟩
  obtain ⟨conn, hconn⟩ := hagrees.1.2 ⟨[1], rfl⟩
  cases hconn

/-- Of two connections the last one may leave. -/
theorem anycast_to_type_agrees_sample :
    let calls : List Call := [.addSubscription sampleType (some 1) 0 true,
      .addSubscription sampleType (some 2) 1 true, .removeSubscription sampleType (some 2) 1 true]
    (Runs.run exec default calls).matchOne sampleType none 5 Rng.zero = .ok 0 ∧
      (Runs.run exec default calls).AnycastAgrees sampleType none 5 Rng.zero IterOrder.stored := by
  refine ⟨rfl, anycast_to_type_agrees [_, _, _] ⟨id, id, ?_, trivial⟩ _ _ _ _⟩
  rintro ⟨-, -, pos, hpos, -, -, lower, hlower, -⟩
  have hslot : pos = 1 := (Option.some.inj hpos).symm
  omega

end SubscriptionTableImpl

/-! ## Which connections can be drawn -/

theorem sideIndex_injective : ∀ {isLocal other}, sideIndex isLocal = sideIndex other →
    isLocal = other := by decide

/-- The generator that draws `pos` wherever it may. -/
def Rng.pick (pos : Nat) : Rng where
  draw := fun _ bound => if pos < bound then pos else 0
  draw_lt := by
    intro _ bound hbound
    split
    · assumption
    · exact hbound

theorem Rng.draw_pick {pos bound : Nat} (hpos : pos < bound) (side : Fin 2) :
    (Rng.pick pos).draw side bound = pos := if_pos hpos

namespace Connections

/-- The connection is the only one, or its slot is in the range of the search. -/
def InRange (c : Connections) (conn : Nat) : Prop :=
  c.index.len = 1 ∨ ∃ pos, c.index.get? conn = some pos ∧ pos ≤ c.pool.maxSet

theorem getOne_pick {c : Connections} {conn exceptConn : Nat} (hrefs : 0 < c.refs conn)
    (hne : conn ≠ exceptConn) (hrange : c.InRange conn) :
    ∃ pos, ∀ side, c.getOne exceptConn ((Rng.pick pos).draw side) = some conn := by
  unfold getOne
  by_cases hone : c.index.len = 1
  · obtain ⟨only, hkeys, honly⟩ := c.exists_single hone
    have hconn : conn = only := (honly conn).1 hrefs
    subst hconn
    have hexcept : ¬ c.index.contains exceptConn = true := by
      rw [contains_iff_refs_pos, honly]
      exact hne.symm
    refine ⟨0, fun side => ?_⟩
    rw [if_pos hone, if_neg hexcept, ← List.head?_map, hkeys]
    rfl
  · obtain ⟨pos, hindex, hpos⟩ := hrange.resolve_left hone
    obtain ⟨counter, hlive⟩ := c.index_live conn pos hindex
    refine ⟨pos, fun side => ?_⟩
    rw [if_neg hone, Rng.draw_pick (Nat.lt_succ_of_le hpos)]
    apply circularSearch_of_start (Nat.lt_succ_of_le hpos)
    exact (c.probe_eq_some_iff exceptConn pos conn).2 ⟨_, hlive, hne⟩

theorem inRange_of_getOne {c : Connections} {conn exceptConn : Nat} {draw : Nat → Nat}
    (hdraw : draw (c.pool.maxSet + 1) < c.pool.maxSet + 1)
    (hfound : c.getOne exceptConn draw = some conn) : c.InRange conn := by
  unfold getOne at hfound
  by_cases hone : c.index.len = 1
  · exact Or.inl hone
  · rw [if_neg hone] at hfound
    obtain ⟨pos, hpos, hprobe⟩ := exists_of_circularSearch hdraw hfound
    obtain ⟨counter, hlive, -⟩ := (c.probe_eq_some_iff exceptConn pos conn).1 hprobe
    exact Or.inr ⟨pos, c.live_index pos _ hlive, Nat.le_of_lt_succ hpos⟩

end Connections

namespace SubscriptionTableImpl

/-- The search of a side can start at the connection: for a type its slot is in the range
    of the search, for an id it is one of the first two of the list, whose positions are the
    only ones that are drawn. -/
def CanStartAt (s : SubscriptionTableImpl) (agentType : AgentType) (isLocal : Bool)
    (conn : Nat) : Option UInt64 → Prop
  | none => ((s.table.state agentType).connections (sideIndex isLocal)).InRange conn
  | some id => conn ∈ (s.table.conns ⟨agentType, id⟩ (sideIndex isLocal)).take 2

/-- The search of the side from which `match_all` answers can start at the connection. -/
def Drawable (s : SubscriptionTableImpl) (agentType : AgentType) (agentId : Option UInt64)
    (incomingConn conn : Nat) : Prop :=
  ∃ isLocal, s.Answering agentType agentId incomingConn isLocal ∧
    s.CanStartAt agentType isLocal conn agentId

section Drawable

variable {s : SubscriptionTableImpl} {agentType : AgentType} {agentId : Option UInt64}
  {incomingConn conn : Nat}

/-- The search of a side finds what the side reaches, for a type and for an id that has an
    entry. -/
theorem getOneConnection_reaches
    (hknown : ∀ id, agentId = some id → s.table.Known ⟨agentType, id⟩) {rng : Rng} (isLocal : Bool)
    (conn : Nat)
    (hfound : (s.table.state agentType).getOneConnection agentId incomingConn isLocal rng =
      some conn) :
    s.table.Reaches agentType agentId (sideIndex isLocal) conn ∧ conn ≠ incomingConn := by
  cases agentId with
  | none => exact AgentTypeState.getOne_draw_sound hfound
  | some id => exact known_sound (hknown id rfl) isLocal conn hfound

/-- An answer of `match_all` comes from an answering side, and for an id the id has an
    entry. -/
theorem answering_of_matchAll {order : IterOrder (Nat × Nat)} {out : List Nat}
    (hout : s.matchAll agentType agentId incomingConn order = .ok out) :
    (∃ isLocal, s.Answering agentType agentId incomingConn isLocal ∧ ∀ conn, conn ∈ out ↔
        s.table.Reaches agentType agentId (sideIndex isLocal) conn ∧ conn ≠ incomingConn) ∧
      ∀ id, agentId = some id → s.table.Known ⟨agentType, id⟩ := by
  rcases s.matchAll_cases agentType agentId incomingConn order with
    ⟨found, isLocal, hfound, hne, -, hmem, hlocal⟩ | ⟨herror, -⟩
  · rw [hfound, Except.ok.injEq] at hout
    subst hout
    obtain ⟨first, hfirst⟩ := List.exists_mem_of_ne_nil found hne
    refine ⟨⟨isLocal, ⟨⟨first, (hmem first).1 hfirst⟩, hlocal⟩, hmem⟩, ?_⟩
    rintro id rfl
    exact (SubTable.known_iff _ ⟨agentType, id⟩).2
      ⟨_, first, (SubTable.reaches_some_iff _ _ _ _ _).1 ((hmem first).1 hfirst).1⟩
  · rw [herror] at hout
    cases hout

/-- Only one side answers. -/
theorem Answering.unique {isLocal other : Bool}
    (hs : s.Answering agentType agentId incomingConn isLocal)
    (hother : s.Answering agentType agentId incomingConn other) : isLocal = other := by
  obtain ⟨⟨conn, hreaches, hne⟩, hfirst⟩ := hs
  obtain ⟨⟨conn', hreaches', hne'⟩, hfirst'⟩ := hother
  cases isLocal with
  | true =>
      cases other with
      | true => rfl
      | false => exact absurd (hfirst' rfl conn hreaches) hne
  | false =>
      cases other with
      | true => exact absurd (hfirst rfl conn' hreaches') hne'
      | false => rfl

/-- Some draw makes the search of the side find the connection. -/
theorem exists_rng_of_canStartAt {isLocal : Bool}
    (hreaches : s.table.Reaches agentType agentId (sideIndex isLocal) conn)
    (hne : conn ≠ incomingConn) (hknown : ∀ id, agentId = some id → s.table.Known ⟨agentType, id⟩)
    (hstart : s.CanStartAt agentType isLocal conn agentId) :
    ∃ rng, (s.table.state agentType).getOneConnection agentId incomingConn isLocal rng =
      some conn := by
  cases agentId with
  | none =>
      obtain ⟨pos, hfound⟩ := Connections.getOne_pick
        ((SubTable.reaches_none_iff _ _ _ _).1 hreaches) hne hstart
      exact ⟨Rng.pick pos, hfound (sideIndex isLocal)⟩
  | some id =>
      obtain ⟨pos, hpos⟩ := List.mem_iff_getElem?.1 hstart
      rw [List.getElem?_take] at hpos
      split at hpos
      next htwo =>
        refine ⟨Rng.pick pos, ?_⟩
        rw [getOneConnection_of_known (hknown id rfl)]
        simp only [Rng.draw_pick htwo]
        split
        next hone =>
          have hzero : pos = 0 := by
            have hlt := (List.getElem?_eq_some_iff.1 hpos).1
            omega
          rw [← hzero, hpos]
          simp [Option.filter, hne]
        next =>
          rw [hpos]
          simp [Option.filter, hne]
      next => cases hpos

/-- The search of a side finds nothing but what it can start at. -/
theorem canStartAt_of_getOneConnection
    (hknown : ∀ id, agentId = some id → s.table.Known ⟨agentType, id⟩) {rng : Rng} {isLocal : Bool}
    (hfound : (s.table.state agentType).getOneConnection agentId incomingConn isLocal rng =
      some conn) :
    s.CanStartAt agentType isLocal conn agentId := by
  cases agentId with
  | none =>
      exact Connections.inRange_of_getOne (rng.draw_lt (sideIndex isLocal) _ (Nat.succ_pos _))
        hfound
  | some id =>
      rw [getOneConnection_of_known (hknown id rfl)] at hfound
      obtain ⟨hpos, -⟩ := Option.filter_eq_some_iff.1 hfound
      have htwo : (if (s.table.conns ⟨agentType, id⟩ (sideIndex isLocal)).length = 1 then 0
          else rng.draw (sideIndex isLocal) 2) < 2 := by
        split
        · decide
        · exact rng.draw_lt (sideIndex isLocal) 2 (by decide)
      exact List.mem_iff_getElem?.2 ⟨_, (List.getElem?_take_of_lt htwo).trans hpos⟩

end Drawable

/-- In every reachable state, a connection that `match_all` lists is returned by `match_one`
    for some draw if the search of its side can start at it; with honest flags only then. -/
theorem listed_connection_picked (calls : List Call) (agentType : AgentType)
    (agentId : Option UInt64) (incomingConn : Nat) (order : IterOrder (Nat × Nat)) (out : List Nat)
    (hout : (Runs.run exec default calls).matchAll agentType agentId incomingConn order = .ok out)
    (conn : Nat) (hmem : conn ∈ out) :
    let s := Runs.run exec default calls
    (s.Drawable agentType agentId incomingConn conn →
      ∃ rng, s.matchOne agentType agentId incomingConn rng = .ok conn) ∧
    (Runs.Along exec Honest default calls →
      (∃ rng, s.matchOne agentType agentId incomingConn rng = .ok conn) →
      s.Drawable agentType agentId incomingConn conn) := by
  obtain ⟨⟨isLocal, hanswering, houtput⟩, hknown⟩ := answering_of_matchAll hout
  obtain ⟨hreaches, hne⟩ := (houtput conn).1 hmem
  constructor
  · rintro ⟨side, hside, hstart⟩
    obtain rfl := hanswering.unique hside
    obtain ⟨rng, hfound⟩ := exists_rng_of_canStartAt hreaches hne hknown hstart
    exact ⟨rng, matchOne_of_answering (getOneConnection_reaches hknown true) hanswering hfound⟩
  · rintro hhonest ⟨rng, hfound⟩
    obtain ⟨side, hside⟩ := exists_side_of_matchOne hfound
    -- with honest flags the connection is listed on one side only
    obtain ⟨id, hlisted⟩ := SubTable.exists_listed_of_reaches hreaches
    obtain ⟨other, hother⟩ := SubTable.exists_listed_of_reaches
      (getOneConnection_reaches hknown side conn hside).1
    obtain rfl := sideIndex_injective ((coherent_run hhonest).one_side hother hlisted)
    exact ⟨side, hanswering, canStartAt_of_getOneConnection hknown hside⟩

/-- Three connections subscribed to one id. -/
def threeShare : List Call :=
  sharedId ++ [.addSubscription sampleType (some 1) 2 true]

/-- The third connection of an id is never returned, nor is the connection of a type that a
    removal has left above `max_set`. -/
theorem third_subscriber_never_picked :
    ((Runs.run exec default threeShare).matchAll sampleType (some 1) 5 IterOrder.stored =
        .ok [0, 1, 2] ∧
      ∀ rng, (Runs.run exec default threeShare).matchOne sampleType (some 1) 5 rng ≠ .ok 2) ∧
    (Runs.run exec default lastLeaves).matchAll sampleType none 5 IterOrder.stored =
        .ok [0, 1] ∧
      ∀ rng, (Runs.run exec default lastLeaves).matchOne sampleType none 5 rng ≠ .ok 1 := by
  have hid : (Runs.run exec default threeShare).matchAll sampleType (some 1) 5 IterOrder.stored =
    .ok [0, 1, 2] := rfl
  refine ⟨⟨hid, fun rng hfound => ?_⟩, rfl, fun rng hfound => ?_⟩
  · obtain ⟨isLocal, hside⟩ := exists_side_of_matchOne hfound
    have hstart := canStartAt_of_getOneConnection (answering_of_matchAll hid).2 hside
    cases isLocal with
    | true => exact absurd hstart (by decide : 2 ∉ [0, 1])
    | false => exact absurd hstart List.not_mem_nil
  · obtain ⟨isLocal, hside⟩ := exists_side_of_matchOne hfound
    have hstart := canStartAt_of_getOneConnection (by simp) hside
    cases isLocal with
    | true =>
        obtain ⟨pos, hpos, hle⟩ := hstart.resolve_left (by decide)
        have hslot : pos = 1 := (Option.some.inj hpos).symm
        subst hslot
        exact absurd hle (by decide)
    | false =>
        obtain ⟨pos, hpos, -⟩ := hstart.resolve_left (by decide)
        cases hpos

/-- Of two connections of one id both can be drawn. -/
theorem listed_connection_picked_sample :
    ∃ rng, (Runs.run exec default sharedId).matchOne sampleType (some 1) 5 rng = .ok 1 := by
  apply (listed_connection_picked sharedId sampleType (some 1) 5 IterOrder.stored [0, 1] rfl 1
    (by decide)).1
  refine ⟨true, ⟨⟨1, ?_, by decide⟩, by simp⟩, ?_⟩
  · exact (by decide : 1 ∈ [0, 1])
  · exact (by decide : 1 ∈ [0, 1])

end SubscriptionTableImpl

end Slim
