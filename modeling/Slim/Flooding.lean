import Mathlib.Combinatorics.SimpleGraph.Acyclic
import Mathlib.Data.List.Nodup

/-!
# Messages that are passed on from node to node

Nodes have ports, and a port may be wired to another one.  A node that takes a
copy of a message answers it on some of its ports.  What it sends on a wired port is a copy
on its way to the node at the other end; what it sends on any other port has left the
network.  Copies are taken in any order, and a copy that is answered on no port is lost.

No copy knows where the message has been before.  If the wiring is a forest, and no node
answers on the port on which a copy came in, a message still comes to every node at most
once: the links that it has crossed connect all nodes it has come to, so another link to
one of them would close a cycle.
-/

namespace Flooding

variable {V P M : Type}

/-! ## Wirings -/

/-- Links between ports. -/
structure Wiring (V P : Type) where
  peer : V → P → Option (V × P)
  symm : ∀ {v w p q}, peer v p = some (w, q) → peer w q = some (v, p)

namespace Wiring

variable (W : Wiring V P)

def graph : SimpleGraph V where
  Adj v w := v ≠ w ∧ ∃ p q, W.peer v p = some (w, q)
  symm := by
    constructor
    rintro v w ⟨hne, p, q, hpeer⟩
    exact ⟨hne.symm, q, p, W.symm hpeer⟩
  loopless := by
    constructor
    rintro v ⟨hne, -⟩
    exact hne rfl

/-- No link leads back to its node, no two links join the same nodes, and there is no longer
    cycle. -/
structure IsForest : Prop where
  irrefl : ∀ {v p q}, W.peer v p ≠ some (v, q)
  simple : ∀ {v w p p' q q'}, W.peer v p = some (w, q) → W.peer v p' = some (w, q') → p = p'
  acyclic : W.graph.IsAcyclic

variable {W}

/-- Two nodes with a link between them are not connected in any other way. -/
theorem IsForest.not_reachable (hforest : W.IsForest) {crossed : SimpleGraph V}
    (hle : crossed ≤ W.graph) {v w : V} {p q : P} (hpeer : W.peer v p = some (w, q))
    (hnew : ¬ crossed.Adj v w) : ¬ crossed.Reachable v w := by
  intro hreach
  have hne : v ≠ w := by
    rintro rfl
    exact hforest.irrefl hpeer
  have hbridge :=
    SimpleGraph.isAcyclic_iff_forall_adj_isBridge.1 hforest.acyclic ⟨hne, p, q, hpeer⟩
  apply SimpleGraph.isBridge_iff.1 hbridge
  apply hreach.mono
  intro a b hadj
  rw [SimpleGraph.deleteEdges_adj]
  refine ⟨hle hadj, ?_⟩
  rw [Set.mem_singleton_iff, Sym2.eq_iff]
  rintro (⟨rfl, rfl⟩ | ⟨rfl, rfl⟩)
  · exact hnew hadj
  · exact hnew hadj.symm

end Wiring

/-! ## Copies -/

/-- A copy of the message with this number, at a port of a node. -/
structure Copy (V P M : Type) where
  tag : Nat
  node : V
  port : P
  message : M

namespace Copy

def place (c : Copy V P M) : Nat × V := (c.tag, c.node)

def position (c : Copy V P M) : Nat × V × P := (c.tag, c.node, c.port)

/-- What the node of the copy sends to a node at the other end of a link. -/
def passOn (W : Wiring V P) (c : Copy V P M) (sent : P × M) : Option (Copy V P M) :=
  (W.peer c.node sent.1).map fun other => ⟨c.tag, other.1, other.2, sent.2⟩

/-- What the node of the copy sends out of the network. -/
def leave (W : Wiring V P) (c : Copy V P M) (sent : P × M) : Option (Copy V P M) :=
  match W.peer c.node sent.1 with
  | some _ => none
  | none => some ⟨c.tag, c.node, sent.1, sent.2⟩

variable {W : Wiring V P} {c d : Copy V P M} {sent : P × M}

theorem passOn_eq_some_iff :
    c.passOn W sent = some d ↔
      W.peer c.node sent.1 = some (d.node, d.port) ∧ d.tag = c.tag ∧ d.message = sent.2 := by
  unfold passOn
  rcases W.peer c.node sent.1 with _ | ⟨w, q⟩
  · simp
  · rcases d with ⟨tag, node, port, message⟩
    simp only [Option.map_some, Option.some.injEq, Copy.mk.injEq, Prod.mk.injEq]
    tauto

theorem leave_eq_some_iff :
    c.leave W sent = some d ↔
      W.peer c.node sent.1 = none ∧ d.tag = c.tag ∧ d.node = c.node ∧ d.port = sent.1 ∧
        d.message = sent.2 := by
  unfold leave
  rcases W.peer c.node sent.1 with _ | ⟨w, q⟩
  · rcases d with ⟨tag, node, port, message⟩
    simp only [Option.some.injEq, Copy.mk.injEq, true_and]
    tauto
  · simp

end Copy

/-! ## Runs -/

/-- The messages that were put into the network, by number, the copies that are on their
    way, and records of the copies that were taken and of those that have left. -/
structure State (V P M : Type) where
  origins : List (Copy V P M)
  inFlight : List (Copy V P M)
  taken : List (Copy V P M)
  delivered : List (Copy V P M)

namespace State

def empty : State V P M := ⟨[], [], [], []⟩

def inject (s : State V P M) (v : V) (p : P) (m : M) : State V P M :=
  let c : Copy V P M := ⟨s.origins.length, v, p, m⟩
  { s with origins := s.origins ++ [c], inFlight := s.inFlight ++ [c] }

/-- The copy is taken by its node, which sends these messages on these ports. -/
def take (W : Wiring V P) (s : State V P M) (k : Nat) (sent : List (P × M)) : State V P M :=
  match s.inFlight[k]? with
  | none => s
  | some c =>
      { s with
        inFlight := s.inFlight.eraseIdx k ++ sent.filterMap (c.passOn W)
        taken := s.taken ++ [c]
        delivered := s.delivered ++ sent.filterMap (c.leave W) }

/-- All copies that are in the network or were taken. -/
def copies (s : State V P M) : List (Copy V P M) := s.taken ++ s.inFlight

/-- The links that a message has crossed. -/
def crossed (W : Wiring V P) (s : State V P M) (tag : Nat) : SimpleGraph V :=
  SimpleGraph.fromRel fun v w =>
    ∃ c ∈ s.copies, c.place = (tag, v) ∧ ∃ p, W.peer v c.port = some (w, p)

variable {W : Wiring V P} {s : State V P M} {k : Nat} {c : Copy V P M} {sent : List (P × M)}

theorem copies_inject (s : State V P M) (v : V) (p : P) (m : M) :
    (s.inject v p m).copies = s.copies ++ [⟨s.origins.length, v, p, m⟩] := by
  simp [copies, inject]

theorem take_eq (hget : s.inFlight[k]? = some c) (sent : List (P × M)) :
    s.take W k sent =
      { s with
        inFlight := s.inFlight.eraseIdx k ++ sent.filterMap (c.passOn W)
        taken := s.taken ++ [c]
        delivered := s.delivered ++ sent.filterMap (c.leave W) } := by
  simp only [take, hget]

/-- A step adds the copies that are passed on and forgets none. -/
theorem copies_take (hget : s.inFlight[k]? = some c) (sent : List (P × M)) :
    (s.take W k sent).copies.Perm (s.copies ++ sent.filterMap (c.passOn W)) := by
  obtain ⟨hk, rfl⟩ := List.getElem?_eq_some_iff.1 hget
  rw [take_eq hget]
  unfold copies
  simp only [List.append_assoc]
  apply List.Perm.append_left
  rw [← List.append_assoc]
  apply List.Perm.append_right
  exact List.getElem_cons_eraseIdx_perm hk

theorem mem_copies_take (hget : s.inFlight[k]? = some c) (d : Copy V P M) :
    d ∈ (s.take W k sent).copies ↔ d ∈ s.copies ∨ ∃ answer ∈ sent, c.passOn W answer = some d := by
  rw [(copies_take hget sent).mem_iff, List.mem_append, List.mem_filterMap]

theorem mem_copies_of_get (hget : s.inFlight[k]? = some c) : c ∈ s.copies :=
  List.mem_append_right _ (List.mem_of_getElem? hget)

theorem crossed_le_graph (W : Wiring V P) (s : State V P M) (tag : Nat) :
    s.crossed W tag ≤ W.graph := by
  intro v w hadj
  rw [crossed, SimpleGraph.fromRel_adj] at hadj
  rcases hadj.2 with ⟨c, -, -, p, hpeer⟩ | ⟨c, -, -, p, hpeer⟩
  · exact ⟨hadj.1, c.port, p, hpeer⟩
  · exact ⟨hadj.1, p, c.port, W.symm hpeer⟩

theorem crossed_mono {s t : State V P M} (hsub : s.copies ⊆ t.copies) (tag : Nat) :
    s.crossed W tag ≤ t.crossed W tag := by
  intro v w hadj
  rw [crossed, SimpleGraph.fromRel_adj] at hadj ⊢
  refine ⟨hadj.1, hadj.2.imp ?_ ?_⟩
  · rintro ⟨c, hc, hcrossed⟩
    exact ⟨c, hsub hc, hcrossed⟩
  · rintro ⟨c, hc, hcrossed⟩
    exact ⟨c, hsub hc, hcrossed⟩

/-! ## Where a copy comes from -/

/-- Every copy in the network, and every one that has left, is related to the message that
    was put in. -/
def Descends (R : M → M → Prop) (s : State V P M) : Prop :=
  ∀ c ∈ s.inFlight ++ s.delivered, ∃ origin, s.origins[c.tag]? = some origin ∧
    R origin.message c.message

section Descends

variable {R : M → M → Prop}

theorem descends_empty : Descends R (empty : State V P M) := by
  intro c hc
  cases hc

theorem Descends.inject (hs : s.Descends R) (v : V) (p : P) {m : M} (hself : R m m) :
    (s.inject v p m).Descends R := by
  intro c hc
  simp only [State.inject, List.append_assoc, List.mem_append, List.mem_singleton] at hc
  have hold : c ∈ s.inFlight ++ s.delivered → ∃ origin, (s.inject v p m).origins[c.tag]? =
      some origin ∧ R origin.message c.message := by
    intro hc
    obtain ⟨origin, horigin, hrelated⟩ := hs c hc
    exact ⟨origin, (List.getElem?_append_left (List.getElem?_eq_some_iff.1 horigin).1).trans
      horigin, hrelated⟩
  rcases hc with hflight | rfl | hleft
  · exact hold (List.mem_append_left _ hflight)
  · exact ⟨_, List.getElem?_concat_length, hself⟩
  · exact hold (List.mem_append_right _ hleft)

theorem Descends.take (hs : s.Descends R) (W : Wiring V P) (k : Nat) {sent : List (P × M)}
    (hanswers : ∀ c, s.inFlight[k]? = some c → ∀ origin, R origin c.message →
      ∀ answer ∈ sent, R origin answer.2) : (s.take W k sent).Descends R := by
  rcases hget : s.inFlight[k]? with _ | c
  · simpa only [State.take, hget] using hs
  rw [take_eq hget]
  obtain ⟨origin, horigin, hrelated⟩ :=
    hs c (List.mem_append_left _ (List.mem_of_getElem? hget))
  intro d hd
  simp only [List.mem_append, List.mem_filterMap] at hd
  rcases hd with (hold | ⟨answer, hanswer, hpass⟩) | hold | ⟨answer, hanswer, hleave⟩
  · exact hs d (List.mem_append_left _ (List.mem_of_mem_eraseIdx hold))
  · obtain ⟨-, htag, hmessage⟩ := Copy.passOn_eq_some_iff.1 hpass
    rw [htag, hmessage]
    exact ⟨origin, horigin, hanswers c hget _ hrelated answer hanswer⟩
  · exact hs d (List.mem_append_right _ hold)
  · obtain ⟨-, htag, -, -, hmessage⟩ := Copy.leave_eq_some_iff.1 hleave
    rw [htag, hmessage]
    exact ⟨origin, horigin, hanswers c hget _ hrelated answer hanswer⟩

theorem Descends.tag_lt (hs : s.Descends R) (hc : c ∈ s.inFlight ++ s.delivered) :
    c.tag < s.origins.length := by
  obtain ⟨origin, horigin, -⟩ := hs c hc
  exact (List.getElem?_eq_some_iff.1 horigin).1

end Descends

/-! ## Messages with one copy -/

/-- How many copies of a message are on their way or have left. -/
def live (s : State V P M) (tag : Nat) : Nat :=
  (s.inFlight ++ s.delivered).countP fun c => c.tag = tag

/-- What is sent is on its way or has left. -/
theorem countP_answers (W : Wiring V P) (c : Copy V P M) (tag : Nat) (sent : List (P × M)) :
    (sent.filterMap (c.passOn W)).countP (fun d => d.tag = tag) +
        (sent.filterMap (c.leave W)).countP (fun d => d.tag = tag) =
      if c.tag = tag then sent.length else 0 := by
  induction sent with
  | nil => simp
  | cons answer sent ih =>
      rcases hpeer : W.peer c.node answer.1 with _ | ⟨w, q⟩
      · have hpass : c.passOn W answer = none := by simp [Copy.passOn, hpeer]
        have hleave : c.leave W answer = some ⟨c.tag, c.node, answer.1, answer.2⟩ := by
          simp [Copy.leave, hpeer]
        rw [List.filterMap_cons_none hpass, List.filterMap_cons_some hleave, List.countP_cons]
        by_cases htag : c.tag = tag
        · simp only [htag, if_true, decide_true, List.length_cons] at ih ⊢
          omega
        · simp only [htag, if_false, decide_false, Bool.false_eq_true] at ih ⊢
          omega
      · have hpass : c.passOn W answer = some ⟨c.tag, w, q, answer.2⟩ := by
          simp [Copy.passOn, hpeer]
        have hleave : c.leave W answer = none := by simp [Copy.leave, hpeer]
        rw [List.filterMap_cons_some hpass, List.filterMap_cons_none hleave, List.countP_cons]
        by_cases htag : c.tag = tag
        · simp only [htag, if_true, decide_true, List.length_cons] at ih ⊢
          omega
        · simp only [htag, if_false, decide_false, Bool.false_eq_true] at ih ⊢
          omega

/-- A copy that is answered on one port at most leaves no more copies than there were. -/
theorem live_take (W : Wiring V P) (s : State V P M) (k tag : Nat) (sent : List (P × M))
    (hone : ∀ c, s.inFlight[k]? = some c → c.tag = tag → sent.length ≤ 1) :
    (s.take W k sent).live tag ≤ s.live tag := by
  rcases hget : s.inFlight[k]? with _ | c
  · simp only [take, hget, le_refl]
  obtain ⟨hk, hc⟩ := List.getElem?_eq_some_iff.1 hget
  have herase := (List.getElem_cons_eraseIdx_perm hk).countP_eq fun d => d.tag = tag
  have hanswers := countP_answers W c tag sent
  rw [hc, List.countP_cons] at herase
  rw [take_eq hget]
  simp only [live, List.countP_append]
  by_cases htag : c.tag = tag
  · have hlength := hone c hget htag
    simp only [htag, if_true, decide_true] at herase hanswers
    omega
  · simp only [htag, if_false, decide_false, Bool.false_eq_true] at herase hanswers
    omega

/-- The message that is put in is new. -/
theorem live_inject (hfresh : ∀ c ∈ s.inFlight ++ s.delivered, c.tag < s.origins.length)
    (v : V) (p : P) (m : M) (tag : Nat) :
    (s.inject v p m).live tag = if tag = s.origins.length then 1 else s.live tag := by
  by_cases htag : tag = s.origins.length
  · have hnone : (s.inFlight ++ s.delivered).countP (fun c => c.tag = tag) = 0 := by
      rw [List.countP_eq_zero]
      intro c hc
      have hlt := hfresh c hc
      simp only [decide_eq_true_eq]
      omega
    rw [List.countP_append] at hnone
    simp only [live, inject, List.countP_append, List.countP_singleton, ← htag, decide_true,
      if_true]
    omega
  · simp only [live, inject, List.countP_append, List.countP_singleton, Ne.symm htag, htag,
      decide_false, Bool.false_eq_true, if_false]
    omega

/-! ## At most once -/

/-- What a node may answer: one copy on a port, none on the port on which the message came
    in unless the message asks for it, and no copy asks for it. -/
structure Answers (asksBack : M → Prop) (c : Copy V P M) (sent : List (P × M)) : Prop where
  once : (sent.map Prod.fst).Nodup
  back : c.port ∈ sent.map Prod.fst → asksBack c.message
  cleared : ∀ answer ∈ sent, ¬ asksBack answer.2

/-- Where the copy comes from: it is the one that was put in, or it has crossed a link from
    a node that has taken the message. -/
def Traced (W : Wiring V P) (asksBack : M → Prop) (s : State V P M) (c : Copy V P M) : Prop :=
  ∃ origin, s.origins[c.tag]? = some origin ∧ W.peer origin.node origin.port = none ∧
    (s.crossed W c.tag).Reachable origin.node c.node ∧
    (c = origin ∨ ¬ asksBack c.message ∧ ∃ v p, W.peer c.node c.port = some (v, p) ∧
      (c.tag, v) ∈ s.taken.map Copy.place)

/-- No message comes to a node twice, and none leaves on a port twice. -/
structure AtMostOnce (W : Wiring V P) (asksBack : M → Prop) (s : State V P M) : Prop where
  places : (s.copies.map Copy.place).Nodup
  traced : ∀ c ∈ s.copies, s.Traced W asksBack c
  kept : ∀ {tag : Nat} {origin : Copy V P M}, s.origins[tag]? = some origin →
    origin.tag = tag ∧ origin ∈ s.copies
  exits : (s.delivered.map Copy.position).Nodup
  left : ∀ d ∈ s.delivered, ∃ c ∈ s.taken, c.place = d.place ∧
    (c.port = d.port → asksBack c.message)

variable {asksBack : M → Prop}

theorem atMostOnce_empty : AtMostOnce W asksBack (empty : State V P M) where
  places := List.nodup_nil
  traced := by intro c hc; cases hc
  kept := fun horigin => by cases horigin
  exits := List.nodup_nil
  left := by intro d hd; cases hd

namespace AtMostOnce

variable (hs : s.AtMostOnce W asksBack)

include hs

theorem eq_of_place {d : Copy V P M} (hc : c ∈ s.copies) (hd : d ∈ s.copies)
    (hplace : c.place = d.place) : c = d :=
  List.inj_on_of_nodup_map hs.places hc hd hplace

/-- A copy on its way goes to a node that has not taken the message. -/
theorem not_taken (hget : s.inFlight[k]? = some c) : c.place ∉ s.taken.map Copy.place := by
  have hnodup := hs.places
  rw [copies, List.map_append] at hnodup
  intro htaken
  exact (List.disjoint_of_nodup_append hnodup) htaken
    (List.mem_map_of_mem (List.mem_of_getElem? hget))

/-- A copy that was answered on its own port was put in and asks for it. -/
theorem answers_unlinked (hc : c ∈ s.copies) (hanswers : Answers asksBack c sent)
    (hback : c.port ∈ sent.map Prod.fst) : W.peer c.node c.port = none := by
  obtain ⟨origin, -, hunlinked, -, rfl | ⟨hplain, -⟩⟩ := hs.traced c hc
  · exact hunlinked
  · exact absurd (hanswers.back hback) hplain

/-- The link on which a copy is passed on was not crossed before. -/
theorem not_crossed (hforest : W.IsForest) (hget : s.inFlight[k]? = some c)
    (hanswers : Answers asksBack c sent) {answer : P × M} (hanswer : answer ∈ sent) {w : V}
    {q : P} (hpeer : W.peer c.node answer.1 = some (w, q)) :
    ¬ (s.crossed W c.tag).Adj c.node w := by
  have hc := mem_copies_of_get hget
  intro hadj
  rw [crossed, SimpleGraph.fromRel_adj] at hadj
  rcases hadj.2 with ⟨d, hd, hplace, p, hlink⟩ | ⟨d, hd, hplace, p, hlink⟩
  · -- from the other node to this one: the copy came in on this port
    obtain rfl := hs.eq_of_place hd hc hplace
    have hport : d.port = answer.1 := hforest.simple hlink hpeer
    have hback : d.port ∈ sent.map Prod.fst := hport ▸ List.mem_map_of_mem hanswer
    rw [hs.answers_unlinked hc hanswers hback] at hlink
    cases hlink
  · -- from this node to the other one: this node had taken the message
    have hnode : d.node = w := congrArg Prod.snd hplace
    have htag : d.tag = c.tag := congrArg Prod.fst hplace
    obtain ⟨origin, -, hunlinked, -, rfl | ⟨-, v, r, hfrom, htaken⟩⟩ := hs.traced d hd
    · rw [hnode, hlink] at hunlinked
      cases hunlinked
    · rw [hnode, hlink, Option.some.injEq, Prod.mk.injEq] at hfrom
      apply hs.not_taken hget
      rw [Copy.place, hfrom.1, ← htag]
      exact htaken

/-- A copy is passed on to nodes only to which the message has not come. -/
theorem place_passOn (hforest : W.IsForest) (hget : s.inFlight[k]? = some c)
    (hanswers : Answers asksBack c sent) {answer : P × M} (hanswer : answer ∈ sent)
    {d : Copy V P M} (hpass : c.passOn W answer = some d) :
    d.place ∉ s.copies.map Copy.place := by
  obtain ⟨hpeer, htag, -⟩ := Copy.passOn_eq_some_iff.1 hpass
  intro hmem
  obtain ⟨e, he, hplace⟩ := List.mem_map.1 hmem
  have hnode : e.node = d.node := congrArg Prod.snd hplace
  have hsame : e.tag = c.tag := (congrArg Prod.fst hplace).trans htag
  apply hforest.not_reachable (crossed_le_graph W s c.tag) hpeer
    (hs.not_crossed hforest hget hanswers hanswer hpeer)
  obtain ⟨origin, horigin, -, hreach, -⟩ := hs.traced c (mem_copies_of_get hget)
  obtain ⟨other, hother, -, hreach', -⟩ := hs.traced e he
  rw [hsame, horigin, Option.some.injEq] at hother
  rw [hsame, ← hother, hnode] at hreach'
  exact hreach.symm.trans hreach'

theorem places_take (hforest : W.IsForest) (hget : s.inFlight[k]? = some c)
    (hanswers : Answers asksBack c sent) : ((s.take W k sent).copies.map Copy.place).Nodup := by
  rw [((copies_take hget sent).map Copy.place).nodup_iff, List.map_append]
  apply List.Nodup.append hs.places
  · -- two answers go to different nodes
    have honce := hanswers.once
    rw [List.Nodup, List.pairwise_map] at honce
    rw [List.Nodup, List.pairwise_map, List.pairwise_filterMap]
    apply honce.imp
    intro first second hne d hd e he hplace
    obtain ⟨hpeer, -⟩ := Copy.passOn_eq_some_iff.1 hd
    obtain ⟨hpeer', -⟩ := Copy.passOn_eq_some_iff.1 he
    have hnode : d.node = e.node := congrArg Prod.snd hplace
    rw [hnode] at hpeer
    exact hne (hforest.simple hpeer hpeer')
  · intro place hold hnew
    obtain ⟨d, hd, rfl⟩ := List.mem_map.1 hnew
    obtain ⟨answer, hanswer, hpass⟩ := List.mem_filterMap.1 hd
    exact hs.place_passOn hforest hget hanswers hanswer hpass hold

theorem traced_take (hforest : W.IsForest) (hget : s.inFlight[k]? = some c)
    (hanswers : Answers asksBack c sent) :
    ∀ d ∈ (s.take W k sent).copies, (s.take W k sent).Traced W asksBack d := by
  have hmono : ∀ tag, s.crossed W tag ≤ (s.take W k sent).crossed W tag := by
    apply crossed_mono
    intro d hd
    exact (mem_copies_take hget d).2 (.inl hd)
  have horigins : (s.take W k sent).origins = s.origins := by
    rw [take_eq hget]
  have htaken : (s.take W k sent).taken.map Copy.place = s.taken.map Copy.place ++ [c.place] := by
    simp [take_eq hget]
  intro d hd
  rcases (mem_copies_take hget d).1 hd with hold | ⟨answer, hanswer, hpass⟩
  · obtain ⟨origin, horigin, hunlinked, hreach, hfrom⟩ := hs.traced d hold
    rw [Traced, horigins, htaken]
    refine ⟨origin, horigin, hunlinked, hreach.mono (hmono _), hfrom.imp_right ?_⟩
    rintro ⟨hplain, v, p, hpeer, hv⟩
    exact ⟨hplain, v, p, hpeer, List.mem_append_left _ hv⟩
  · obtain ⟨hpeer, htag, hmessage⟩ := Copy.passOn_eq_some_iff.1 hpass
    obtain ⟨origin, horigin, hunlinked, hreach, -⟩ := hs.traced c (mem_copies_of_get hget)
    have hback := W.symm hpeer
    have hstep : ((s.take W k sent).crossed W c.tag).Adj c.node d.node := by
      rw [crossed, SimpleGraph.fromRel_adj]
      refine ⟨?_, .inr ⟨d, hd, ?_, answer.1, hback⟩⟩
      · intro hsame
        rw [← hsame] at hpeer
        exact hforest.irrefl hpeer
      · rw [Copy.place, htag]
    rw [Traced, horigins, htaken, htag]
    refine ⟨origin, horigin, hunlinked, (hreach.mono (hmono _)).trans hstep.reachable, .inr ?_⟩
    refine ⟨hmessage ▸ hanswers.cleared answer hanswer, c.node, answer.1, hback, ?_⟩
    exact List.mem_append_right _ List.mem_cons_self

theorem kept_take (hget : s.inFlight[k]? = some c) {tag : Nat} {origin : Copy V P M}
    (horigin : (s.take W k sent).origins[tag]? = some origin) :
    origin.tag = tag ∧ origin ∈ (s.take W k sent).copies := by
  rw [mem_copies_take hget]
  rw [take_eq hget] at horigin
  exact ⟨(hs.kept horigin).1, .inl (hs.kept horigin).2⟩

theorem exits_take (hget : s.inFlight[k]? = some c) (hanswers : Answers asksBack c sent) :
    ((s.take W k sent).delivered.map Copy.position).Nodup := by
  rw [take_eq hget, List.map_append]
  apply List.Nodup.append hs.exits
  · have honce := hanswers.once
    rw [List.Nodup, List.pairwise_map] at honce
    rw [List.Nodup, List.pairwise_map, List.pairwise_filterMap]
    apply honce.imp
    intro first second hne d hd e he hposition
    obtain ⟨-, -, -, hport, -⟩ := Copy.leave_eq_some_iff.1 hd
    obtain ⟨-, -, -, hport', -⟩ := Copy.leave_eq_some_iff.1 he
    apply hne
    rw [← hport, ← hport']
    exact congrArg (fun position => position.2.2) hposition
  · -- the node of an earlier copy had taken the message, this one has not
    intro position hold hnew
    obtain ⟨d, hd, rfl⟩ := List.mem_map.1 hold
    obtain ⟨e, he, hposition⟩ := List.mem_map.1 hnew
    obtain ⟨answer, -, hleave⟩ := List.mem_filterMap.1 he
    obtain ⟨-, htag, hnode, -⟩ := Copy.leave_eq_some_iff.1 hleave
    obtain ⟨b, hb, hplace, -⟩ := hs.left d hd
    apply hs.not_taken hget
    have hsame : b.place = c.place := by
      rw [hplace, Copy.place, Copy.place, ← htag, ← hnode]
      exact congrArg (fun position => (position.1, position.2.1)) hposition.symm
    exact hsame ▸ List.mem_map_of_mem hb

theorem left_take (hget : s.inFlight[k]? = some c) (hanswers : Answers asksBack c sent) :
    ∀ d ∈ (s.take W k sent).delivered, ∃ b ∈ (s.take W k sent).taken, b.place = d.place ∧
      (b.port = d.port → asksBack b.message) := by
  rw [take_eq hget]
  intro d hd
  rcases List.mem_append.1 hd with hold | hnew
  · obtain ⟨b, hb, hleft⟩ := hs.left d hold
    exact ⟨b, List.mem_append_left _ hb, hleft⟩
  · obtain ⟨answer, hanswer, hleave⟩ := List.mem_filterMap.1 hnew
    obtain ⟨-, htag, hnode, hport, -⟩ := Copy.leave_eq_some_iff.1 hleave
    refine ⟨c, List.mem_append_right _ List.mem_cons_self, ?_, ?_⟩
    · rw [Copy.place, Copy.place, htag, hnode]
    · intro hsame
      apply hanswers.back
      rw [hsame, hport]
      exact List.mem_map_of_mem hanswer

/-- A message leaves on the port on which it was put in only if it asks for it. -/
theorem asksBack_of_origin {d origin : Copy V P M} (hd : d ∈ s.delivered)
    (horigin : s.origins[d.tag]? = some origin) (hnode : origin.node = d.node)
    (hport : origin.port = d.port) : asksBack origin.message := by
  obtain ⟨c, hc, hplace, hback⟩ := hs.left d hd
  obtain ⟨htag, hmem⟩ := hs.kept horigin
  have hsame : c = origin := by
    apply hs.eq_of_place (List.mem_append_left _ hc) hmem
    rw [hplace, Copy.place, Copy.place, hnode, htag]
  rw [← hsame] at hport ⊢
  exact hback hport

/-- The step of a run at which a copy is taken. -/
theorem take (hforest : W.IsForest) (k : Nat) (sent : List (P × M))
    (hanswers : ∀ c, s.inFlight[k]? = some c → Answers asksBack c sent) :
    (s.take W k sent).AtMostOnce W asksBack := by
  rcases hget : s.inFlight[k]? with _ | c
  · have hsame : s.take W k sent = s := by
      simp only [State.take, hget]
    rw [hsame]
    exact hs
  · exact ⟨hs.places_take hforest hget (hanswers c hget),
      hs.traced_take hforest hget (hanswers c hget), hs.kept_take hget,
      hs.exits_take hget (hanswers c hget), hs.left_take hget (hanswers c hget)⟩

/-- The step of a run at which a message is put in. -/
theorem inject {v : V} {p : P} (hunlinked : W.peer v p = none) (m : M) :
    (s.inject v p m).AtMostOnce W asksBack where
  places := by
    rw [copies_inject, List.map_append]
    apply List.Nodup.append hs.places (List.nodup_singleton _)
    intro place hold hnew
    obtain ⟨c, hc, rfl⟩ := List.mem_map.1 hold
    obtain ⟨origin, horigin, -⟩ := hs.traced c hc
    have hlt := (List.getElem?_eq_some_iff.1 horigin).1
    have htag : c.tag = s.origins.length := congrArg Prod.fst (List.mem_singleton.1 hnew)
    omega
  traced := by
    have hmono : ∀ tag, s.crossed W tag ≤ (s.inject v p m).crossed W tag := by
      apply crossed_mono
      rw [copies_inject]
      exact List.subset_append_left _ _
    intro c hc
    rw [copies_inject] at hc
    rcases List.mem_append.1 hc with hold | hnew
    · obtain ⟨origin, horigin, hpeer, hreach, hfrom⟩ := hs.traced c hold
      have hlt := (List.getElem?_eq_some_iff.1 horigin).1
      refine ⟨origin, ?_, hpeer, hreach.mono (hmono _), hfrom⟩
      exact (List.getElem?_append_left hlt).trans horigin
    · obtain rfl := List.mem_singleton.1 hnew
      exact ⟨_, List.getElem?_concat_length, hunlinked, .rfl, .inl rfl⟩
  kept := by
    intro tag origin horigin
    rw [copies_inject, List.mem_append]
    change (s.origins ++ [_])[tag]? = some origin at horigin
    rw [List.getElem?_append] at horigin
    split at horigin
    · exact ⟨(hs.kept horigin).1, .inl (hs.kept horigin).2⟩
    · have hlast : tag - s.origins.length = 0 := by
        simpa using (List.getElem?_eq_some_iff.1 horigin).1
      rw [hlast] at horigin
      cases horigin
      refine ⟨?_, .inr List.mem_cons_self⟩
      change s.origins.length = tag
      omega
  exits := hs.exits
  left := hs.left

end AtMostOnce

end State

end Flooding
