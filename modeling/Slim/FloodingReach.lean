import Mathlib.Data.Fintype.Card
import Slim.Flooding

/-!
# How far a message gets

When every node answers by a fixed rule and no copy is lost, a message that has come to
rest has left on exactly the ports that the rule leads to.
-/

namespace Flooding

variable {V P M : Type}

/-! ## Ways -/

/-- A message that comes in on a port of a node goes on, without turning back, to a port of
    another node.  `free` says where it may go on. -/
inductive Wiring.Way (W : Wiring V P) (free : V → P → Prop) : V → P → V → P → Prop
  | here (v : V) (p : P) : Way W free v p v p
  | onward {v w u : V} {p q r s : P} (hfree : free v p) (hpeer : W.peer v q = some (w, r))
      (hne : q ≠ p) (hrest : Way W free w r u s) : Way W free v p u s

/-- A way that is one link longer at its end. -/
theorem Wiring.Way.snoc {W : Wiring V P} {free : V → P → Prop} {v u w : V} {p s q r : P}
    (hway : W.Way free v p u s) (hfree : free u s) (hpeer : W.peer u q = some (w, r))
    (hne : q ≠ s) : W.Way free v p w r := by
  induction hway with
  | here v p => exact .onward hfree hpeer hne (.here w r)
  | onward hgo hlink hother hrest ih => exact .onward hgo hlink hother (ih hfree hpeer hne)

theorem Wiring.Way.mono {W : Wiring V P} {free more : V → P → Prop}
    (hmore : ∀ v p, free v p → more v p) {v u : V} {p s : P} (hway : W.Way free v p u s) :
    W.Way more v p u s := by
  induction hway with
  | here v p => exact .here v p
  | onward hgo hlink hother _ ih => exact .onward (hmore _ _ hgo) hlink hother ih

/-- Where a message gets from a port of a node, if a node that has it on port `p` sends it
    on the ports `q` with `out v p q`. -/
inductive Arrives (W : Wiring V P) (out : V → P → P → Prop) (v : V) (p : P) : V → P → Prop
  | start : Arrives W out v p v p
  | pass {u w : V} {s q r : P} (harrives : Arrives W out v p u s) (hout : out u s q)
      (hpeer : W.peer u q = some (w, r)) : Arrives W out v p w r

namespace State

variable {W : Wiring V P} {out : V → P → P → Prop} {tag : Nat} {v : V} {p : P}
  {s : State V P M} {k : Nat} {sent : List (P × M)}

/-- What is known of a message under way: its copies are where the rule leads, and the
    copies that were taken were answered by the rule. -/
structure Explores (W : Wiring V P) (out : V → P → P → Prop) (tag : Nat) (v : V) (p : P)
    (s : State V P M) : Prop where
  root : ∃ c ∈ s.copies, c.position = (tag, v, p)
  arrived : ∀ c ∈ s.copies, c.tag = tag → Arrives W out v p c.node c.port
  passed : ∀ c ∈ s.taken, c.tag = tag → ∀ {q w r}, out c.node c.port q →
    W.peer c.node q = some (w, r) → ∃ d ∈ s.copies, d.position = (tag, w, r)
  sentOut : ∀ c ∈ s.taken, c.tag = tag → ∀ {q}, out c.node c.port q →
    W.peer c.node q = none → (tag, c.node, q) ∈ s.delivered.map Copy.position
  leftBy : ∀ d ∈ s.delivered, d.tag = tag → ∃ q, Arrives W out v p d.node q ∧
    out d.node q d.port ∧ W.peer d.node d.port = none

theorem Explores.inject (hempty : s.inFlight = [])
    (htaken : ∀ c ∈ s.taken, c.tag < s.origins.length)
    (hdelivered : ∀ c ∈ s.delivered, c.tag < s.origins.length) (m : M) :
    (s.inject v p m).Explores W out s.origins.length v p where
  root := by
    refine ⟨⟨s.origins.length, v, p, m⟩, ?_, rfl⟩
    rw [copies_inject]
    exact List.mem_append_right _ List.mem_cons_self
  arrived := by
    intro c hc htag
    rw [copies_inject, copies, hempty, List.append_nil] at hc
    rcases List.mem_append.1 hc with hold | hnew
    · exact absurd htag (htaken c hold).ne
    · rw [List.mem_singleton.1 hnew]
      exact .start
  passed := fun c hc htag => absurd htag (htaken c hc).ne
  sentOut := fun c hc htag => absurd htag (htaken c hc).ne
  leftBy := fun d hd htag => absurd htag (hdelivered d hd).ne

/-- A copy is taken and answered by the rule. -/
theorem Explores.take (hs : s.Explores W out tag v p)
    (hrule : ∀ c, s.inFlight[k]? = some c → c.tag = tag →
      ∀ q, q ∈ sent.map Prod.fst ↔ out c.node c.port q) :
    (s.take W k sent).Explores W out tag v p := by
  rcases hget : s.inFlight[k]? with _ | c
  · simpa only [State.take, hget] using hs
  have hold : ∀ {d}, d ∈ s.copies → d ∈ (s.take W k sent).copies := by
    intro d hd
    exact (mem_copies_take hget d).2 (.inl hd)
  have htaken : (s.take W k sent).taken = s.taken ++ [c] := by rw [take_eq hget]
  have hdelivered : (s.take W k sent).delivered = s.delivered ++ sent.filterMap (c.leave W) := by
    rw [take_eq hget]
  refine ⟨?_, ?_, ?_, ?_, ?_⟩
  · obtain ⟨d, hd, hposition⟩ := hs.root
    exact ⟨d, hold hd, hposition⟩
  · intro d hd htag
    rcases (mem_copies_take hget d).1 hd with hd | ⟨answer, hanswer, hpass⟩
    · exact hs.arrived d hd htag
    · obtain ⟨hpeer, hsame, -⟩ := Copy.passOn_eq_some_iff.1 hpass
      have hc : c.tag = tag := hsame.symm.trans htag
      apply Arrives.pass (hs.arrived c (mem_copies_of_get hget) hc) _ hpeer
      exact (hrule c hget hc answer.1).1 (List.mem_map_of_mem hanswer)
  · intro d hd htag q w r hout hpeer
    rw [htaken] at hd
    rcases List.mem_append.1 hd with hd | hd
    · obtain ⟨e, he, hposition⟩ := hs.passed d hd htag hout hpeer
      exact ⟨e, hold he, hposition⟩
    · obtain rfl := List.mem_singleton.1 hd
      obtain ⟨answer, hanswer, rfl⟩ := List.mem_map.1 ((hrule d hget htag q).2 hout)
      refine ⟨⟨d.tag, w, r, answer.2⟩, ?_, by rw [Copy.position, htag]⟩
      exact (mem_copies_take hget _).2 (.inr ⟨answer, hanswer,
        Copy.passOn_eq_some_iff.2 ⟨hpeer, rfl, rfl⟩⟩)
  · intro d hd htag q hout hpeer
    rw [htaken] at hd
    rw [hdelivered, List.map_append, List.mem_append]
    rcases List.mem_append.1 hd with hd | hd
    · exact .inl (hs.sentOut d hd htag hout hpeer)
    · obtain rfl := List.mem_singleton.1 hd
      obtain ⟨answer, hanswer, rfl⟩ := List.mem_map.1 ((hrule d hget htag q).2 hout)
      right
      refine List.mem_map.2 ⟨⟨d.tag, d.node, answer.1, answer.2⟩, ?_, by rw [Copy.position, htag]⟩
      exact List.mem_filterMap.2 ⟨answer, hanswer,
        Copy.leave_eq_some_iff.2 ⟨hpeer, rfl, rfl, rfl, rfl⟩⟩
  · intro d hd htag
    rw [hdelivered] at hd
    rcases List.mem_append.1 hd with hd | hd
    · exact hs.leftBy d hd htag
    · obtain ⟨answer, hanswer, hleave⟩ := List.mem_filterMap.1 hd
      obtain ⟨hpeer, hsame, hnode, hport, -⟩ := Copy.leave_eq_some_iff.1 hleave
      have hc : c.tag = tag := hsame.symm.trans htag
      rw [hnode, hport]
      exact ⟨c.port, hs.arrived c (mem_copies_of_get hget) hc,
        (hrule c hget hc answer.1).1 (List.mem_map_of_mem hanswer), hpeer⟩

/-- At rest, the message has left on the ports to which the rule leads. -/
theorem Explores.delivered_iff (hs : s.Explores W out tag v p) (hrest : s.inFlight = [])
    (u : V) (q : P) :
    (tag, u, q) ∈ s.delivered.map Copy.position ↔
      ∃ r, Arrives W out v p u r ∧ out u r q ∧ W.peer u q = none := by
  have hcopies : s.copies = s.taken := by rw [copies, hrest, List.append_nil]
  constructor
  · intro hmem
    obtain ⟨d, hd, hposition⟩ := List.mem_map.1 hmem
    simp only [Copy.position, Prod.mk.injEq] at hposition
    obtain ⟨htag, rfl, rfl⟩ := hposition
    exact hs.leftBy d hd htag
  · rintro ⟨r, harrives, hout, hpeer⟩
    have htaken : ∃ c ∈ s.taken, c.position = (tag, u, r) := by
      rw [← hcopies]
      clear hout hpeer
      -- along the ports to which the message gets
      induction harrives with
      | start => exact hs.root
      | pass _ hgo hlink ih =>
          obtain ⟨c, hc, hposition⟩ := ih
          simp only [Copy.position, Prod.mk.injEq] at hposition
          obtain ⟨htag, rfl, rfl⟩ := hposition
          rw [hcopies] at hc
          exact hs.passed c hc htag hgo hlink
    obtain ⟨c, hc, hposition⟩ := htaken
    simp only [Copy.position, Prod.mk.injEq] at hposition
    obtain ⟨htag, rfl, rfl⟩ := hposition
    exact hs.sentOut c hc htag hout hpeer

/-- A message is taken at most once for each node. -/
theorem AtMostOnce.countP_taken_le_card [Fintype V] {asksBack : M → Prop}
    (hs : s.AtMostOnce W asksBack) (tag : Nat) :
    s.taken.countP (fun c => c.tag = tag) ≤ Fintype.card V := by
  have hplaces := hs.places
  rw [copies, List.map_append] at hplaces
  have hnodup := hplaces.of_append_left
  rw [List.Nodup, List.pairwise_map] at hnodup
  rw [List.countP_eq_length_filter, ← List.length_map Copy.node]
  apply List.Nodup.length_le_card
  rw [List.Nodup, List.pairwise_map, List.pairwise_filter]
  apply hnodup.imp
  intro c d hne hc hd hnode
  apply hne
  rw [Copy.place, Copy.place, hnode, of_decide_eq_true hc, of_decide_eq_true hd]

end State

end Flooding
