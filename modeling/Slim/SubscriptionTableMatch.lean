import Slim.SubscriptionTableInvariant

/-!
# Matching: `match_one` and `match_all`

A lookup of a type, with or without an agent id, chooses among the connections of
the local side first and of the remote side after that.  `Reaches` says which
connections those are in terms of the views; `matchAll_cases` reads the answer of
`match_all` off it.
-/

namespace Slim

open HashKey Sequences

/-! ## One side of one type -/

namespace AgentTypeState

/-- The connections among which a lookup chooses: the counted ones of the type, or
    the ones listed for the id. -/
def Reaches (state : AgentTypeState) (agentId : Option UInt64) (side : Fin 2) (conn : Nat) :
    Prop :=
  match agentId with
  | none => 0 < state.refs side conn
  | some id => conn ∈ state.conns id side

/-- For an id, `get_all_connections` filters the list of the id. -/
theorem getAllConnections_some (state : AgentTypeState) (id : UInt64) (incomingConn : Nat)
    (isLocal : Bool) (order : IterOrder (Nat × Nat)) :
    state.getAllConnections (some id) incomingConn isLocal order =
      let out := (state.conns id (sideIndex isLocal)).filter fun conn =>
        decide (conn ≠ incomingConn)
      if out.isEmpty then none else some out := by
  unfold getAllConnections conns IdMap.conns
  rcases hget : state.ids.get? id with _ | vec
  · simp only [hget]
    rfl
  simp only [hget]
  rcases vec (sideIndex isLocal) with _ | ⟨first, _ | ⟨second, rest⟩⟩
  · rfl
  · by_cases hfirst : first = incomingConn
    · simp [hfirst]
    · simp [hfirst]
  · rfl

theorem getAllConnections_cases (state : AgentTypeState) (agentId : Option UInt64)
    (incomingConn : Nat) (isLocal : Bool) (order : IterOrder (Nat × Nat)) :
    (state.getAllConnections agentId incomingConn isLocal order = none ∧
        ∀ conn, state.Reaches agentId (sideIndex isLocal) conn → conn = incomingConn) ∨
      ∃ out, state.getAllConnections agentId incomingConn isLocal order = some out ∧ out ≠ [] ∧
        ((∀ id, (state.conns id (sideIndex isLocal)).Nodup) → out.Nodup) ∧
        ∀ conn, conn ∈ out ↔
          state.Reaches agentId (sideIndex isLocal) conn ∧ conn ≠ incomingConn := by
  rcases agentId with _ | id
  · rcases (state.connections (sideIndex isLocal)).getAll_cases incomingConn order with
      hnone | ⟨out, hout, hne, hnodup, hmem⟩
    · exact Or.inl hnone
    · exact Or.inr ⟨out, hout, hne, fun _ => hnodup, hmem⟩
  · rw [getAllConnections_some]
    have hmem : ∀ conn, conn ∈ (state.conns id (sideIndex isLocal)).filter
        (fun conn => decide (conn ≠ incomingConn)) ↔
          state.Reaches (some id) (sideIndex isLocal) conn ∧ conn ≠ incomingConn := by
      intro conn
      rw [List.mem_filter, decide_eq_true_eq]
      rfl
    have hnodup : (∀ id, (state.conns id (sideIndex isLocal)).Nodup) →
        ((state.conns id (sideIndex isLocal)).filter
          fun conn => decide (conn ≠ incomingConn)).Nodup :=
      fun hunique => (hunique id).filter _
    simp only []
    rcases hout : (state.conns id (sideIndex isLocal)).filter
        (fun conn => decide (conn ≠ incomingConn)) with _ | ⟨first, rest⟩
    · refine Or.inl ⟨rfl, fun conn hreaches => ?_⟩
      by_contra hne
      have hin := (hmem conn).2 ⟨hreaches, hne⟩
      rw [hout] at hin
      cases hin
    · rw [hout] at hmem hnodup
      exact Or.inr ⟨_, rfl, List.cons_ne_nil _ _, hnodup, hmem⟩

/-- For an id with an entry, `get_one_connection` reads one position of the list of
    the id, the only one or the drawn one, and gives up if the incoming connection is
    there. -/
theorem getOneConnection_known {state : AgentTypeState} {id : UInt64} {vec : Fin 2 → List Nat}
    (hget : state.ids.get? id = some vec) (incomingConn : Nat) (isLocal : Bool) (rng : Rng) :
    state.getOneConnection (some id) incomingConn isLocal rng =
      let conns := state.conns id (sideIndex isLocal)
      let pos := if conns.length = 1 then 0 else rng.draw (sideIndex isLocal) 2
      conns[pos]?.filter fun conn => decide (conn ≠ incomingConn) := by
  unfold getOneConnection conns IdMap.conns
  simp only [hget]
  rcases vec (sideIndex isLocal) with _ | ⟨first, _ | ⟨second, rest⟩⟩
  · rfl
  · by_cases hfirst : first = incomingConn
    · simp [Option.filter, hfirst]
    · simp [Option.filter, hfirst]
  · have hdraw : rng.draw (sideIndex isLocal) 2 < (first :: second :: rest).length := by
      have hlt := rng.draw_lt (sideIndex isLocal) 2 (by decide)
      simp only [List.length_cons]
      omega
    simp only [circularSearch_const _ hdraw]
    rw [if_neg (by simp)]
    rcases (first :: second :: rest)[rng.draw (sideIndex isLocal) 2]? with _ | conn
    · rfl
    · by_cases hconn : conn = incomingConn
      · simp [Option.filter, hconn]
      · simp [Option.filter, hconn]

/-- For an id without an entry, the connection of the type is tried if there is one. -/
theorem getOneConnection_unknown {state : AgentTypeState} {id : UInt64}
    (hget : state.ids.get? id = none) (incomingConn : Nat) (isLocal : Bool) (rng : Rng) :
    state.getOneConnection (some id) incomingConn isLocal rng =
      if (state.connections (sideIndex isLocal)).index.len = 1 then
        (state.connections (sideIndex isLocal)).getOne incomingConn (rng.draw (sideIndex isLocal))
      else none := by
  simp only [getOneConnection, hget]

theorem getOne_draw_sound {state : AgentTypeState} {side : Fin 2} {incomingConn conn : Nat}
    {rng : Rng}
    (hfound : (state.connections side).getOne incomingConn (rng.draw side) = some conn) :
    0 < state.refs side conn ∧ conn ≠ incomingConn :=
  Connections.getOne_sound (rng.draw_lt side _ (Nat.succ_pos _)) hfound

/-- What `get_one_connection` returns is not the incoming connection, is counted for
    the type or listed for the id, and is listed for the id if the id has an entry. -/
theorem getOneConnection_sound {state : AgentTypeState} {agentId : Option UInt64}
    {incomingConn conn : Nat} {isLocal : Bool} {rng : Rng}
    (hfound : state.getOneConnection agentId incomingConn isLocal rng = some conn) :
    conn ≠ incomingConn ∧
      (state.Reaches none (sideIndex isLocal) conn ∨
        state.Reaches agentId (sideIndex isLocal) conn) ∧
      ∀ id vec, agentId = some id → state.ids.get? id = some vec →
        conn ∈ state.conns id (sideIndex isLocal) := by
  rcases agentId with _ | id
  · obtain ⟨hrefs, hne⟩ := getOne_draw_sound hfound
    exact ⟨hne, Or.inl hrefs, fun id vec hid => nomatch hid⟩
  rcases hget : state.ids.get? id with _ | vec
  · rw [getOneConnection_unknown hget] at hfound
    split at hfound
    · obtain ⟨hrefs, hne⟩ := getOne_draw_sound hfound
      refine ⟨hne, Or.inl hrefs, ?_⟩
      rintro other vec ⟨⟩ hother
      rw [hget] at hother
      cases hother
    · cases hfound
  · rw [getOneConnection_known hget] at hfound
    obtain ⟨hpos, hne⟩ := Option.filter_eq_some_iff.1 hfound
    have hmem : conn ∈ state.conns id (sideIndex isLocal) := List.mem_of_getElem? hpos
    refine ⟨of_decide_eq_true hne, Or.inr hmem, ?_⟩
    rintro other _ ⟨⟩ -
    exact hmem

theorem getOneConnection_default (agentId : Option UInt64) (incomingConn : Nat) (isLocal : Bool)
    (rng : Rng) :
    AgentTypeState.default.getOneConnection agentId incomingConn isLocal rng = none := by
  rcases hfound : AgentTypeState.default.getOneConnection agentId incomingConn isLocal rng with
    _ | conn
  · rfl
  · obtain ⟨-, hreaches | hreaches, -⟩ := getOneConnection_sound hfound
    · exact absurd hreaches (Nat.lt_irrefl 0)
    · rcases agentId with _ | id
      · exact absurd hreaches (Nat.lt_irrefl 0)
      · cases hreaches

end AgentTypeState

/-! ## The whole table -/

namespace SubTable

def Reaches (table : SubTable) (agentType : AgentType) (agentId : Option UInt64) (side : Fin 2)
    (conn : Nat) : Prop :=
  (table.state agentType).Reaches agentId side conn

theorem reaches_some_iff (table : SubTable) (agentType : AgentType) (id : UInt64) (side : Fin 2)
    (conn : Nat) :
    table.Reaches agentType (some id) side conn ↔ conn ∈ table.conns ⟨agentType, id⟩ side :=
  Iff.rfl

theorem reaches_none_iff (table : SubTable) (agentType : AgentType) (side : Fin 2) (conn : Nat) :
    table.Reaches agentType none side conn ↔ 0 < table.refs agentType side conn :=
  Iff.rfl

/-- A type that is not in the table reaches nothing. -/
theorem not_reaches_of_get_none {table : SubTable} {agentType : AgentType}
    (hnone : table.get? agentType = none) (agentId : Option UInt64) (side : Fin 2) (conn : Nat) :
    ¬ table.Reaches agentType agentId side conn := by
  rw [Reaches, state, hnone, Option.getD_none]
  rcases agentId with _ | id
  · exact Nat.lt_irrefl 0
  · exact List.not_mem_nil

/-- Whatever a lookup reaches is listed under the type. -/
theorem exists_listed_of_reaches {table : SubTable} {agentType : AgentType}
    {agentId : Option UInt64} {side : Fin 2} {conn : Nat}
    (hreaches : table.Reaches agentType agentId side conn) :
    ∃ id, conn ∈ table.conns ⟨agentType, id⟩ side := by
  rcases agentId with _ | id
  · apply (listings_pos_iff table agentType side conn).1
    exact Nat.lt_of_lt_of_le hreaches (refs_le_listings table agentType side conn)
  · exact ⟨id, hreaches⟩

/-- With exact counters a lookup of the type alone reaches all connections listed
    under it. -/
theorem Counted.reaches_none_iff {table : SubTable} (hcounted : table.Counted)
    (agentType : AgentType) (side : Fin 2) (conn : Nat) :
    table.Reaches agentType none side conn ↔ ∃ id, conn ∈ table.conns ⟨agentType, id⟩ side := by
  rw [SubTable.reaches_none_iff, hcounted, listings_pos_iff]

end SubTable

namespace SubscriptionTableImpl

variable {s : SubscriptionTableImpl} {agentType : AgentType} {agentId : Option UInt64} {id : UInt64}
  {conn incomingConn : Nat} {rng : Rng}

/-- The answer of `match_all`: the local connections but the incoming one, or, if
    there are none, the remote ones, or no match. -/
theorem matchAll_cases (s : SubscriptionTableImpl) (agentType : AgentType)
    (agentId : Option UInt64) (incomingConn : Nat) (order : IterOrder (Nat × Nat)) :
    (∃ out isLocal, s.matchAll agentType agentId incomingConn order = .ok out ∧ out ≠ [] ∧
        (s.table.Unique → out.Nodup) ∧
        (∀ conn, conn ∈ out ↔
          s.table.Reaches agentType agentId (sideIndex isLocal) conn ∧ conn ≠ incomingConn) ∧
        (isLocal = false →
          ∀ conn, s.table.Reaches agentType agentId (sideIndex true) conn → conn = incomingConn)) ∨
      (s.matchAll agentType agentId incomingConn order = .error (noMatch agentType agentId) ∧
        ∀ isLocal conn, s.table.Reaches agentType agentId (sideIndex isLocal) conn →
          conn = incomingConn) := by
  unfold matchAll
  rcases hget : s.table.get? agentType with _ | state
  · refine Or.inr ⟨rfl, fun isLocal conn hreaches => ?_⟩
    exact absurd hreaches (SubTable.not_reaches_of_get_none hget _ _ _)
  have hstate : s.table.state agentType = state := SubTable.state_of_get hget
  have hunique : s.table.Unique → ∀ side id, (state.conns id side).Nodup := by
    intro hunique side id
    rw [← hstate]
    exact hunique ⟨agentType, id⟩ side
  simp only [SubTable.Reaches, hstate]
  rcases state.getAllConnections_cases agentId incomingConn true order with
    ⟨hnone, hlocal⟩ | ⟨out, hout, hne, hnodup, hmem⟩
  · rcases state.getAllConnections_cases agentId incomingConn false order with
      ⟨hnone', hremote⟩ | ⟨out, hout, hne, hnodup, hmem⟩
    · refine Or.inr ⟨by simp only [hnone, hnone'], fun isLocal => ?_⟩
      cases isLocal with
      | true => exact hlocal
      | false => exact hremote
    · exact Or.inl ⟨out, false, by simp only [hnone, hout], hne, fun h => hnodup (hunique h _),
        hmem, fun _ => hlocal⟩
  · exact Or.inl ⟨out, true, by simp only [hout], hne, fun h => hnodup (hunique h _), hmem,
      fun h => nomatch h⟩

/-- `match_one` asks the local side and then the remote side; a type that is not in
    the table is one without connections. -/
theorem matchOne_eq (s : SubscriptionTableImpl) (agentType : AgentType)
    (agentId : Option UInt64) (incomingConn : Nat) (rng : Rng) :
    s.matchOne agentType agentId incomingConn rng =
      let one := fun isLocal =>
        (s.table.state agentType).getOneConnection agentId incomingConn isLocal rng
      match (one true).or (one false) with
      | some conn => .ok conn
      | none => .error (noMatch agentType agentId) := by
  unfold matchOne
  rcases hget : s.table.get? agentType with _ | state
  · have hstate : s.table.state agentType = AgentTypeState.default := by
      rw [SubTable.state, hget, Option.getD_none]
    simp only [hstate, AgentTypeState.getOneConnection_default, Option.or_none]
  · simp only [SubTable.state_of_get hget]
    rcases state.getOneConnection agentId incomingConn true rng with _ | conn
    · rcases state.getOneConnection agentId incomingConn false rng with _ | conn
      · rfl
      · rfl
    · rfl

/-- The side from which `match_one` took its answer. -/
theorem exists_side_of_matchOne
    (hfound : s.matchOne agentType agentId incomingConn rng = .ok conn) :
    ∃ isLocal, (s.table.state agentType).getOneConnection agentId incomingConn isLocal rng =
      some conn := by
  rw [matchOne_eq] at hfound
  simp only [] at hfound
  rcases hlocal : (s.table.state agentType).getOneConnection agentId incomingConn true rng with
    _ | found
  · rw [hlocal, Option.none_or] at hfound
    rcases hremote : (s.table.state agentType).getOneConnection agentId incomingConn false rng
      with _ | found
    · rw [hremote] at hfound
      cases hfound
    · rw [hremote, Except.ok.injEq] at hfound
      exact ⟨false, hfound ▸ hremote⟩
  · rw [hlocal, Option.some_or, Except.ok.injEq] at hfound
    exact ⟨true, hfound ▸ hlocal⟩

/-! ## Soundness of the answers -/

/-- An answer taken from one side: not empty, without the incoming connection, only
    connections listed under the type, and under the id if the id has an entry. -/
structure SoundAnswer (s : SubscriptionTableImpl) (agentType : AgentType)
    (agentId : Option UInt64) (incomingConn : Nat) (isLocal : Bool) (out : List Nat) : Prop where
  nonempty : out ≠ []
  not_incoming : incomingConn ∉ out
  subscribed : ∀ conn ∈ out, ∃ id, conn ∈ s.table.conns ⟨agentType, id⟩ (sideIndex isLocal)
  subscribed_id : ∀ id, agentId = some id → s.table.Known ⟨agentType, id⟩ →
    ∀ conn ∈ out, conn ∈ s.table.conns ⟨agentType, id⟩ (sideIndex isLocal)

theorem matchAll_sound {order : IterOrder (Nat × Nat)} {out : List Nat}
    (hout : s.matchAll agentType agentId incomingConn order = .ok out) :
    ∃ isLocal, s.SoundAnswer agentType agentId incomingConn isLocal out := by
  rcases s.matchAll_cases agentType agentId incomingConn order with
    ⟨found, isLocal, hfound, hne, -, hmem, -⟩ | ⟨herror, -⟩
  · rw [hfound, Except.ok.injEq] at hout
    subst hout
    refine ⟨isLocal, hne, fun hin => ?_, fun conn hconn => ?_, ?_⟩
    · exact ((hmem incomingConn).1 hin).2 rfl
    · exact SubTable.exists_listed_of_reaches ((hmem conn).1 hconn).1
    · rintro id rfl - conn hconn
      exact ((hmem conn).1 hconn).1
  · rw [herror] at hout
    cases hout

theorem matchOne_sound (hfound : s.matchOne agentType agentId incomingConn rng = .ok conn) :
    ∃ isLocal, s.SoundAnswer agentType agentId incomingConn isLocal [conn] := by
  obtain ⟨isLocal, hside⟩ := exists_side_of_matchOne hfound
  obtain ⟨hne, hreaches, hknown⟩ := AgentTypeState.getOneConnection_sound hside
  refine ⟨isLocal, List.cons_ne_nil _ _, ?_, ?_, ?_⟩
  · rw [List.mem_singleton]
    exact hne.symm
  · intro found hin
    rw [List.mem_singleton.1 hin]
    rcases hreaches with hreaches | hreaches
    · exact SubTable.exists_listed_of_reaches hreaches
    · exact SubTable.exists_listed_of_reaches hreaches
  · rintro id hid ⟨vec, hget⟩ found hin
    rw [List.mem_singleton.1 hin]
    exact hknown id vec hid hget

/-- An id without an entry has no answer from `match_all`. -/
theorem matchAll_unknown (hunknown : ¬ s.table.Known ⟨agentType, id⟩) (incomingConn : Nat)
    (order : IterOrder (Nat × Nat)) :
    s.matchAll agentType (some id) incomingConn order = .error (noMatch agentType (some id)) := by
  rcases s.matchAll_cases agentType (some id) incomingConn order with
    ⟨out, isLocal, -, hne, -, hmem, -⟩ | ⟨herror, -⟩
  · obtain ⟨conn, hconn⟩ := List.exists_mem_of_ne_nil out hne
    have hlisted := ((hmem conn).1 hconn).1
    exact absurd ((SubTable.known_iff s.table ⟨agentType, id⟩).2 ⟨_, conn, hlisted⟩) hunknown
  · exact herror

/-- With exact counters, an answer for an id without an entry is the only connection
    of the type on its side. -/
theorem matchOne_unknown_single (hcounted : s.table.Counted)
    (hunknown : ¬ s.table.Known ⟨agentType, id⟩)
    (hfound : s.matchOne agentType (some id) incomingConn rng = .ok conn) :
    ∃ isLocal, ∀ other,
      (∃ i, other ∈ s.table.conns ⟨agentType, i⟩ (sideIndex isLocal)) ↔ other = conn := by
  obtain ⟨isLocal, hside⟩ := exists_side_of_matchOne hfound
  have hget : (s.table.state agentType).ids.get? id = none := by
    rcases hget : (s.table.state agentType).ids.get? id with _ | vec
    · rfl
    · exact absurd ⟨vec, hget⟩ hunknown
  rw [AgentTypeState.getOneConnection_unknown hget] at hside
  split at hside
  next hone =>
    obtain ⟨only, -, hrefs⟩ := Connections.exists_single _ hone
    have hconn : conn = only := (hrefs conn).1 (AgentTypeState.getOne_draw_sound hside).1
    refine ⟨isLocal, fun other => ?_⟩
    rw [← hcounted.reaches_none_iff, hconn]
    exact hrefs other
  next => cases hside

/-- The answers of every reachable state are sound.  Listed connections hold the
    agent when the flags are honest; an answer for an unknown id is the only
    connection of its side when moreover no unsubscription was stray. -/
theorem match_answers_sound (calls : List Call) (agentType : AgentType)
    (agentId : Option UInt64) (incomingConn : Nat) :
    let s := Runs.run exec default calls
    (∀ order out, s.matchAll agentType agentId incomingConn order = .ok out →
      ∃ isLocal, s.SoundAnswer agentType agentId incomingConn isLocal out) ∧
    (∀ rng conn, s.matchOne agentType agentId incomingConn rng = .ok conn →
      ∃ isLocal, s.SoundAnswer agentType agentId incomingConn isLocal [conn]) ∧
    (Runs.Along exec Honest default calls → ∀ id side conn,
      conn ∈ s.table.conns ⟨agentType, id⟩ side → s.connections.Holds ⟨agentType, id⟩ conn) ∧
    ∀ id, agentId = some id → ¬ s.table.Known ⟨agentType, id⟩ →
      (∀ order, s.matchAll agentType agentId incomingConn order =
        .error (noMatch agentType agentId)) ∧
      (Runs.Along exec (fun s call => s.Honest call ∧ ¬ s.Strays call) default calls →
        ∀ rng conn, s.matchOne agentType agentId incomingConn rng = .ok conn →
          ∃ isLocal, ∀ other,
            (∃ i, other ∈ s.table.conns ⟨agentType, i⟩ (sideIndex isLocal)) ↔ other = conn) := by
  refine ⟨fun _ _ => matchAll_sound, fun _ _ => matchOne_sound, ?_, ?_⟩
  · intro hhonest id side conn hmem
    exact (coherent_run hhonest).listed_held hmem
  · rintro id rfl hunknown
    refine ⟨matchAll_unknown hunknown incomingConn, ?_⟩
    intro hsteps rng conn hfound
    exact matchOne_unknown_single (consistent_run hsteps).counted hunknown hfound

/-- After the stray unsubscription two local connections are subscribed to the type,
    but only one is counted, and an unknown id is answered with it. -/
theorem matchOne_unknown_two_connections :
    let s := Runs.run exec default
      (twoSubscriptions ++ [.removeSubscription sampleType (some 2) 0 true])
    ¬ s.table.Known ⟨sampleType, 9⟩ ∧
      s.table.conns ⟨sampleType, 1⟩ (sideIndex true) = [0] ∧
      s.table.conns ⟨sampleType, 2⟩ (sideIndex true) = [1] ∧
      s.matchOne sampleType (some 9) 5 Rng.zero = .ok 1 := by
  refine ⟨?_, rfl, rfl, rfl⟩
  rintro ⟨vec, hget⟩
  cases hget

/-- Without a stray unsubscription: one connection, which answers for an unknown id. -/
theorem match_answers_sound_sample :
    let s := Runs.run exec default [.addSubscription sampleType (some 1) 0 true]
    s.matchOne sampleType (some 9) 5 Rng.zero = .ok 0 ∧
      ∃ isLocal, ∀ other,
        (∃ i, other ∈ s.table.conns ⟨sampleType, i⟩ (sideIndex isLocal)) ↔ other = 0 := by
  refine ⟨rfl, ?_⟩
  have hunknown : ¬ (Runs.run exec default
      [.addSubscription sampleType (some 1) 0 true]).table.Known ⟨sampleType, 9⟩ := by
    rintro ⟨vec, hget⟩
    cases hget
  have hhonest := along_honest_of_flag (fun _ => true)
    (show ∀ call ∈ [Call.addSubscription sampleType (some 1) 0 true], call.isLocal = true by decide)
  obtain ⟨-, -, -, hlast⟩ := match_answers_sound
    [.addSubscription sampleType (some 1) 0 true] sampleType (some 9) 5
  exact (hlast 9 rfl hunknown).2 ((Runs.along_and _ _).2 ⟨hhonest, id, trivial⟩) Rng.zero 0 rfl

/-! ## Routes -/

/-- Messages for the agent go to the connection: it is listed for the agent, and
    `match_all` answers with it to any other connection, unless it is a remote one and
    the answer is taken from the local side. -/
structure Routed (s : SubscriptionTableImpl) (agent : Agent) (conn : Nat) : Prop where
  listed : s.table.Listed agent conn
  matched : ∀ incomingConn order, incomingConn ≠ conn →
    ∃ out, s.matchAll agent.agentType (some agent.agentId) incomingConn order = .ok out ∧
      (conn ∈ out ∨ conn ∉ s.table.conns agent (sideIndex true) ∧
        ∀ other ∈ out, other ∈ s.table.conns agent (sideIndex true))

theorem routed_iff_listed (s : SubscriptionTableImpl) (agent : Agent) (conn : Nat) :
    s.Routed agent conn ↔ s.table.Listed agent conn := by
  refine ⟨Routed.listed, fun hlisted => ⟨hlisted, fun incomingConn order hne => ?_⟩⟩
  obtain ⟨side, hmem⟩ := hlisted
  obtain ⟨isLocal, rfl⟩ := exists_sideIndex side
  rcases s.matchAll_cases agent.agentType (some agent.agentId) incomingConn order with
    ⟨out, answer, hout, -, -, hin, hlocal⟩ | ⟨-, hnone⟩
  · refine ⟨out, hout, ?_⟩
    by_cases hside : isLocal = answer
    · rw [← hside] at hin
      exact Or.inl ((hin conn).2 ⟨hmem, hne.symm⟩)
    cases answer with
    | true =>
        by_cases hboth : conn ∈ s.table.conns agent (sideIndex true)
        · exact Or.inl ((hin conn).2 ⟨hboth, hne.symm⟩)
        · exact Or.inr ⟨hboth, fun other hother => ((hin other).1 hother).1⟩
    | false =>
        obtain rfl : isLocal = true := by simpa using hside
        exact absurd (hlocal rfl conn hmem).symm hne
  · exact absurd (hnone isLocal conn hmem).symm hne

/-- A local connection that a lookup for an id does not find, and finds after the id has
    been subscribed to. -/
theorem matchAll_addSubscription_ne (hlisted : ¬ s.table.Listed (agentOf agentType agentId) conn)
    (hheld : ¬ s.connections.Holds (agentOf agentType agentId) conn)
    (order : IterOrder (Nat × Nat)) :
    (s.addSubscription agentType agentId conn true).2.matchAll agentType
        (some (agentOf agentType agentId).agentId) (conn + 1) order ≠
      s.matchAll agentType (some (agentOf agentType agentId).agentId) (conn + 1) order := by
  intro hsame
  have hmem : conn ∈ (s.addSubscription agentType agentId conn true).2.table.conns
      (agentOf agentType agentId) (sideIndex true) := by
    rcases s.addSubscription_cases agentType agentId conn true with ⟨hholds, -⟩ | ⟨-, hresult⟩
    · exact absurd hholds hheld
    · rw [hresult]
      exact SubTable.mem_conns_add.2 (Or.inr ⟨rfl, rfl, rfl⟩)
  have hrouted := (routed_iff_listed _ _ _).2 ⟨_, hmem⟩
  obtain ⟨out, hout, hin⟩ := hrouted.matched (conn + 1) order (Nat.succ_ne_self conn)
  have hfound : conn ∈ out := hin.resolve_right fun hremote => hremote.1 hmem
  rcases s.matchAll_cases agentType (some (agentOf agentType agentId).agentId) (conn + 1) order with
    ⟨before, isLocal, hbefore, -, -, hanswer, -⟩ | ⟨herror, -⟩
  · have heq : out = before := Except.ok.inj (hout.symm.trans (hsame.trans hbefore))
    rw [heq] at hfound
    exact hlisted ⟨_, ((hanswer conn).1 hfound).1⟩
  · have hne : (Except.ok out : Except SubscriptionTableError (List Nat)) = .error _ :=
      hout.symm.trans (hsame.trans herror)
    cases hne

/-- No lookup answers with the connection, and the listing does not show it. -/
structure Unrouted (s : SubscriptionTableImpl) (conn : Nat) : Prop where
  no_matchAll : ∀ agentType agentId incomingConn order out,
    s.matchAll agentType agentId incomingConn order = .ok out → conn ∉ out
  no_matchOne : ∀ agentType agentId incomingConn rng found,
    s.matchOne agentType agentId incomingConn rng = .ok found → found ≠ conn
  no_forEach : ∀ agentType id locals remotes,
    (agentType, id, locals, remotes) ∈ s.forEach → conn ∉ locals ∧ conn ∉ remotes

/-- What `for_each` reports of an id is what is listed for it. -/
theorem conns_of_mem_forEach {locals remotes : List Nat}
    (hmem : (agentType, id, locals, remotes) ∈ s.forEach) :
    s.table.conns ⟨agentType, id⟩ (sideIndex true) = locals ∧
      s.table.conns ⟨agentType, id⟩ (sideIndex false) = remotes := by
  simp only [forEach, List.mem_flatMap, List.mem_map] at hmem
  obtain ⟨⟨storedType, state⟩, htype, ⟨storedId, v⟩, hid, heq⟩ := hmem
  simp only [Prod.mk.injEq] at heq
  obtain ⟨rfl, rfl, rfl, rfl⟩ := heq
  have hstate : s.table.state storedType = state :=
    SubTable.state_of_get (HashMap.get?_of_mem htype)
  have hget : state.ids.get? storedId = some v := HashMap.get?_of_mem hid
  constructor
  · rw [SubTable.conns, hstate]
    exact IdMap.conns_of_get hget _
  · rw [SubTable.conns, hstate]
    exact IdMap.conns_of_get hget _

/-- A connection that is not listed is not routed to. -/
theorem unrouted_of_not_listed
    (hlisted : ∀ agent, ¬ s.table.Listed agent conn) : s.Unrouted conn where
  no_matchAll := by
    intro agentType agentId incomingConn order out hout hin
    obtain ⟨isLocal, hsound⟩ := matchAll_sound hout
    obtain ⟨id, hmem⟩ := hsound.subscribed conn hin
    exact hlisted _ ⟨_, hmem⟩
  no_matchOne := by
    rintro agentType agentId incomingConn rng found hfound rfl
    obtain ⟨isLocal, hsound⟩ := matchOne_sound hfound
    obtain ⟨id, hmem⟩ := hsound.subscribed found (List.mem_singleton_self found)
    exact hlisted _ ⟨_, hmem⟩
  no_forEach := by
    intro agentType id locals remotes hmem
    obtain ⟨hlocals, hremotes⟩ := conns_of_mem_forEach hmem
    rw [← hlocals, ← hremotes]
    exact ⟨fun hin => hlisted _ ⟨_, hin⟩, fun hin => hlisted _ ⟨_, hin⟩⟩

end SubscriptionTableImpl

end Slim
