import Mathlib.Data.List.Induction
import Slim.ReceiverCalls
import Slim.Runs

/-!
# The receive buffer over a history of calls

Everything said here is about the calls made so far and what they have returned.  The
first id behind the window, `frontier`, only grows; a message lies below it, a beacon not
above it, and what is asked for begins at it.  From these three facts follow which ids are
asked for, and which of them twice.  What has been released follows from where the loops
of `release_msgs` stop, and from the one branch that does not enter them.
-/

namespace Slim

open Machine

namespace ReceiverBuffer

/-! ## One call and the frontier -/

section Frontier

variable {M : Type} {s t s' : ReceiverBuffer M}

theorem Window.exists_slot (hs : s.Window) {id : Nat} (hlt : s.lastSent < id)
    (hbefore : id < s.frontier) : ∃ slot, s.slotOf id = some slot := by
  have hfirst := hs.first_le
  unfold frontier at hbefore
  have hindex : s.firstEntry + (id - (s.lastSent + 1)) < s.buffer.length := by omega
  rw [hs.slotOf_eq hlt]
  exact ⟨_, List.getElem?_eq_getElem hindex⟩

/-- Releasing uses up slots at the front only. -/
theorem Released.frontier_le (hreleased : Released t s') (ht : t.Window) (hs' : s'.Window) :
    t.frontier ≤ s'.frontier := by
  by_contra hlt
  rw [Nat.not_le] at hlt
  obtain ⟨hpast, hnone⟩ := hs'.slotOf_beyond (Nat.le_refl s'.frontier)
  have hbefore : ¬ t.Past s'.frontier := fun hbefore => hpast (hreleased.past _ hbefore)
  rw [ht.past_iff, Nat.not_le] at hbefore
  obtain ⟨slot, hslot⟩ := ht.exists_slot hbefore hlt
  rw [hreleased.slot _ hpast, hslot] at hnone
  cases hnone

theorem HoleFirst.not_filled (hwindow : s.Window) (hhead : s.HoleFirst) :
    ¬ s.Filled (s.lastSent + 1) := by
  rintro ⟨m, hm⟩
  rw [hwindow.slotOf_eq (Nat.lt_succ_self _), Nat.sub_self, Nat.add_zero] at hm
  rcases hhead with hempty | hnone
  · rw [hempty] at hm
    cases hm
  · rw [hnone] at hm
    cases hm

end Frontier

/-! ## What calls return -/

section Outputs

variable {M : Type}

/-- The items released by the calls with these outputs. -/
def releasedItems (outputs : List (BufferOutput M)) : List (Option M) :=
  (outputs.map Prod.fst).flatten

/-- The ids asked for by the calls with these outputs. -/
def requestedIds (outputs : List (BufferOutput M)) : List UInt32 :=
  (outputs.map Prod.snd).flatten

@[simp] theorem releasedItems_append (outputs more : List (BufferOutput M)) :
    releasedItems (outputs ++ more) = releasedItems outputs ++ releasedItems more := by
  simp only [releasedItems, List.map_append, List.flatten_append]

@[simp] theorem requestedIds_append (outputs more : List (BufferOutput M)) :
    requestedIds (outputs ++ more) = requestedIds outputs ++ requestedIds more := by
  simp only [requestedIds, List.map_append, List.flatten_append]

@[simp] theorem releasedItems_singleton (output : BufferOutput M) :
    releasedItems [output] = output.1 := by
  simp only [releasedItems, List.map_cons, List.map_nil, List.flatten_cons, List.flatten_nil,
    List.append_nil]

@[simp] theorem requestedIds_singleton (output : BufferOutput M) :
    requestedIds [output] = output.2 := by
  simp only [requestedIds, List.map_cons, List.map_nil, List.flatten_cons, List.flatten_nil,
    List.append_nil]

end Outputs

variable {M : Type} [Identified M]

section Moves

variable {s s' : ReceiverBuffer M} {call : BufferCall M} {build : Build}
  {out : List (Option M)} {rtx : List UInt32}

@[simp] theorem frontier_store (s : ReceiverBuffer M) (m : M) :
    (s.store m).frontier = s.frontier := by
  simp only [frontier, store, List.length_set]

theorem Window.frontier_extended (hs : s.Window) (hbeyond : s.frontier ≤ call.msgId)
    (tail : List (Option M)) : (s.extended call tail).frontier = call.msgId + tail.length := by
  have hfirst := hs.first_le
  unfold frontier at hbeyond
  simp only [frontier, ReceiverBuffer.extended, List.length_append, List.length_replicate]
  omega

/-- The ids asked for begin behind the window and end where the call does. -/
theorem Move.requests (hs : s.Window) (hmove : Move build s call (out, rtx) s') :
    rtx = idRange s.frontier call.announcedBelow := by
  cases hmove with
  | delivered hempty hnext =>
      have hid := hnext.resolve_left hs.started
      apply (idRange_eq_nil _).symm
      rw [frontier_of_empty hempty]
      exact Nat.le_of_eq hid
  | @announced msgId hempty hnext =>
      have hfrontier : s.frontier = msgId.toNat := by
        rw [frontier_of_empty hempty, hnext.resolve_left hs.started]
      have hempties : idRange s.frontier msgId.toNat = [] := by
        apply idRange_eq_nil
        exact Nat.le_of_eq hfrontier.symm
      have hlast : idRange s.frontier (msgId.toNat + 1) = [UInt32.ofNat msgId.toNat] := by
        rw [idRange_succ (Nat.le_of_eq hfrontier), hempties, List.nil_append]
      rw [UInt32.ofNat_toNat] at hlast
      exact hlast.symm
  | ignored hwindow hgives hbefore hbrought =>
      apply (idRange_eq_nil _).symm
      by_contra hlt
      have hle := (call.lt_announcedBelow hgives s.frontier).1 (Nat.lt_of_not_le hlt)
      omega
  | grown hwindow hgives hbeyond hgap htail => rfl
  | filled hwindow hhole hrelease =>
      apply (idRange_eq_nil _).symm
      exact Nat.le_of_lt (hwindow.slotOf_eq_some hhole).2
  | givenUp hrelease => exact (idRange_eq_nil (Nat.zero_le _)).symm

theorem Move.mem_rtx_iff (hs : s.Window) (hmove : Move build s call (out, rtx) s') (id : UInt32) :
    id ∈ rtx ↔ s.frontier ≤ id.toNat ∧ id.toNat < call.announcedBelow := by
  rw [hmove.requests hs]
  exact mem_idRange call.announcedBelow_le id

/-- The frontier only grows. -/
theorem Move.frontier_le (hs : s.Sound) (hwindow : s.Window) (hs' : s'.Window)
    (hmove : Move build s call (out, rtx) s') : s.frontier ≤ s'.frontier := by
  cases hmove with
  | @delivered m hempty hnext =>
      have hid := hnext.resolve_left hwindow.started
      rw [frontier_of_empty hempty,
        frontier_of_empty (s := { s with lastSent := (getId m).toNat }) hempty, hid]
      exact Nat.le_succ _
  | announced hempty hnext => exact Nat.le_refl _
  | ignored hwindow hgives hbefore hbrought => exact Nat.le_refl _
  | grown hwindow hgives hbeyond hgap htail =>
      rw [hwindow.frontier_extended hbeyond]
      exact Nat.le_add_right_of_le hbeyond
  | @filled m _ _ hwindow hhole hrelease =>
      have hle := ((hs.store hwindow m).releaseMsgs hrelease).2.1.frontier_le (hwindow.store m) hs'
      rwa [frontier_store] at hle
  | @givenUp msgId _ _ hrelease =>
      have hreleased := ((hs.insert_lost msgId).releaseMsgs hrelease).2.1
      exact hreleased.frontier_le ⟨hwindow.first_le, hwindow.used_le, hwindow.last_lt⟩ hs'

/-- A message lies below the frontier from then on. -/
theorem Move.received_lt {m : M} (hs : s.Sound) (hs' : s'.Window)
    (hmove : Move build s (.received m) (out, rtx) s') : (getId m).toNat < s'.frontier := by
  cases hmove with
  | delivered hempty hnext => exact lastSent_lt_frontier { s with lastSent := (getId m).toNat }
  | ignored hwindow hgives hbefore hbrought => exact hbefore
  | grown hwindow hgives hbeyond hgap htail =>
      rw [hwindow.frontier_extended hbeyond]
      rcases htail with rfl | ⟨-, hnone⟩
      · exact Nat.lt_succ_self _
      · cases hnone
  | filled hwindow hhole hrelease =>
      have hle := ((hs.store hwindow m).releaseMsgs hrelease).2.1.frontier_le (hwindow.store m) hs'
      rw [frontier_store] at hle
      exact Nat.lt_of_lt_of_le (hwindow.slotOf_eq_some hhole).2 hle

/-- A beacon does not lie above the frontier from then on. -/
theorem Move.beacon_le {msgId : UInt32} (hs : s.Window)
    (hmove : Move build s (.beacon msgId) (out, rtx) s') : msgId.toNat ≤ s'.frontier := by
  cases hmove with
  | announced hempty hnext =>
      rw [frontier_of_empty hempty]
      exact Nat.le_of_eq (hnext.resolve_left hs.started)
  | ignored hwindow hgives hbefore hbrought => exact Nat.le_of_lt hbefore
  | grown hwindow hgives hbeyond hgap htail =>
      rw [hwindow.frontier_extended hbeyond]
      exact Nat.le_add_right _ _

/-- What is asked for does not lie above the frontier from then on, and at it only if the call is
    its beacon. -/
theorem Move.rtx_le (hs : s.Sound) (hwindow : s.Window) (hs' : s'.Window)
    (hmove : Move build s call (out, rtx) s') {id : UInt32} (hid : id ∈ rtx) :
    id.toNat ≤ s'.frontier ∧ (id.toNat = s'.frontier → call = .beacon id) := by
  have hlt := ((hmove.mem_rtx_iff hwindow id).1 hid).2
  cases call with
  | received m =>
      have hbefore := Nat.lt_trans hlt (hmove.received_lt hs hs')
      exact ⟨Nat.le_of_lt hbefore, fun heq => absurd heq (Nat.ne_of_lt hbefore)⟩
  | beacon msgId =>
      have hle := hmove.beacon_le hwindow
      have hbefore : id.toNat ≤ msgId.toNat := Nat.le_of_lt_succ hlt
      refine ⟨Nat.le_trans hbefore hle, ?_⟩
      intro heq
      rw [UInt32.toNat_inj.1 (Nat.le_antisymm hbefore (heq ▸ hle))]
  | lost msgId => exact absurd hlt (Nat.not_lt_zero _)

theorem Move.usedUp (hs : s.Sound) (hused : s.UsedUp) (hmove : Move build s call (out, rtx) s') :
    s'.UsedUp := by
  cases hmove with
  | delivered hempty hnext => exact hused
  | announced hempty hnext => exact hused
  | ignored hwindow hgives hbefore hbrought => exact hused
  | grown hwindow hgives hbeyond hgap htail =>
      intro j m hm
      by_cases hold : j < s.buffer.length
      · rw [extended, List.append_assoc, List.getElem?_append_left hold] at hm
        exact hused j m hm
      · exact Nat.le_trans hwindow.first_le (Nat.le_of_not_lt hold)
  | @filled m _ _ hwindow hhole hrelease =>
      apply ((hs.store hwindow m).releaseMsgs hrelease).2.2.2
      intro j other hother
      simp only [store, List.getElem?_set] at hother
      split at hother
      next hpos =>
        rw [← hpos]
        exact Nat.le_add_left _ _
      next => exact hused j other hother
  | @givenUp msgId _ _ hrelease =>
      apply ((hs.insert_lost msgId).releaseMsgs hrelease).2.2.2
      exact hused

theorem Move.holeFirst (hs : s.Sound) (hhead : s.HoleFirst)
    (hmove : Move build s call (out, rtx) s') : s'.HoleFirst := by
  cases hmove with
  | delivered hempty hnext => exact .inl hempty
  | announced hempty hnext => exact hhead
  | ignored hwindow hgives hbefore hbrought => exact hhead
  | grown hwindow hgives hbeyond hgap htail =>
      right
      rcases hhead with hempty | hnone
      · -- there is a hole before the id of the call
        have hfirst := hwindow.firstEntry_eq hempty
        have hlt := hgap hempty
        simp only [extended, hempty, hfirst, List.nil_append, List.length_nil]
        rw [List.getElem?_append_left (by rw [List.length_replicate]; omega),
          List.getElem?_replicate, if_pos (by omega)]
      · have hlt : s.firstEntry < s.buffer.length := (List.getElem?_eq_some_iff.1 hnone).1
        rw [extended, List.append_assoc]
        exact (List.getElem?_append_left hlt).trans hnone
  | @filled m _ _ hwindow hhole hrelease =>
      exact ((hs.store hwindow m).releaseMsgs hrelease).2.2.1.head
  | @givenUp msgId _ _ hrelease => exact ((hs.insert_lost msgId).releaseMsgs hrelease).2.2.1.head

/-- An id that is known to be lost stays so until it is past. -/
theorem Move.lost_or_past (hs : s.Sound) {id : Nat} (hlost : s.Lost id ∨ call.GivesUp id)
    (hmove : Move build s call (out, rtx) s') : s'.Past id ∨ s'.Lost id := by
  cases hmove with
  | delivered hempty hnext => exact .inr (hlost.resolve_right fun hgives => hgives)
  | announced hempty hnext => exact .inr (hlost.resolve_right fun hgives => hgives)
  | ignored hwindow hgives hbefore hbrought => exact .inr (hlost.resolve_right (hgives id))
  | grown hwindow hgives hbeyond hgap htail => exact .inr (hlost.resolve_right (hgives id))
  | @filled m _ _ hwindow hhole hrelease =>
      apply Or.symm
      apply ((hs.store hwindow m).releaseMsgs hrelease).2.1.lost_keep
      exact hlost.resolve_right fun hgives => hgives
  | @givenUp msgId _ _ hrelease =>
      apply Or.symm
      apply ((hs.insert_lost msgId).releaseMsgs hrelease).2.1.lost_keep
      exact (lost_insert s msgId id).2 hlost

end Moves

/-! ## Sequences of calls -/

section Sequences

variable {build : Build}

/-- The last call of a sequence. -/
theorem handleAll_concat (build : Build) (s : ReceiverBuffer M) (calls : List (BufferCall M))
    (call : BufferCall M) :
    handleAll build s (calls ++ [call]) = (do
      let (outputs, middle) ← handleAll build s calls
      let (output, s') ← middle.handle build call
      .ok (outputs ++ [output], s')) := by
  induction calls generalizing s with
  | nil => rfl
  | cons first rest ih =>
      rw [List.cons_append, handleAll, handleAll]
      rcases s.handle build first with panic | ⟨output, middle⟩
      · rfl
      simp only [bind_ok, ih]
      rcases handleAll build middle rest with panic | ⟨outputs, last⟩
      · rfl
      simp only [bind_ok]
      rcases last.handle build call with panic | ⟨final, s'⟩
      · rfl
      · rfl

theorem handleAll_concat_ok {s middle s' : ReceiverBuffer M} {calls : List (BufferCall M)}
    {call : BufferCall M} {before : List (BufferOutput M)} {output : BufferOutput M}
    (hbefore : handleAll build s calls = .ok (before, middle))
    (houtput : middle.handle build call = .ok (output, s')) :
    handleAll build s (calls ++ [call]) = .ok (before ++ [output], s') := by
  simp only [handleAll_concat, hbefore, houtput, bind_ok]

/-- The state of a new buffer after the calls. -/
def After (build : Build) (calls : List (BufferCall M)) (s : ReceiverBuffer M) : Prop :=
  ∃ outputs, handleAll build default calls = .ok (outputs, s)

theorem After.unique {calls : List (BufferCall M)} {s t : ReceiverBuffer M}
    (hs : After build calls s) (ht : After build calls t) : s = t := by
  obtain ⟨outputs, hs⟩ := hs
  obtain ⟨others, ht⟩ := ht
  rw [hs] at ht
  cases ht
  rfl

end Sequences

/-! ## The history -/

/-- The message with the id is in the buffer. -/
def Stored (s : ReceiverBuffer M) (id : Nat) : Prop :=
  ∃ m, some m ∈ s.buffer ∧ (getId m).toNat = id

/-- The calls from the first message on, whose id is `first`, and their outputs. -/
structure History (first : Nat) (calls : List (BufferCall M)) (outputs : List (BufferOutput M))
    (s : ReceiverBuffer M) : Prop where
  inOrder : InOrder first calls (releasedItems outputs) s
  used : s.UsedUp
  head : s.HoleFirst
  received : ∀ m, .received m ∈ calls → (getId m).toNat < s.frontier
  not_hole : ∀ m, .received m ∈ calls → ¬ s.Hole (getId m).toNat
  announced : ∀ id, .beacon id ∈ calls → id.toNat ≤ s.frontier
  gaveUp : ∀ id, .lost id ∈ calls → s.Past id.toNat ∨ s.Lost id.toNat
  holes : ∀ id, s.Hole id → ∃ msgId ∈ requestedIds outputs, msgId.toNat = id
  requested_le : ∀ id ∈ requestedIds outputs, id.toNat ≤ s.frontier
  requested_frontier : ∀ id : UInt32, id.toNat = s.frontier →
    (id ∈ requestedIds outputs ↔ .beacon id ∈ calls)

section History

variable {first : Nat} {calls : List (BufferCall M)} {outputs : List (BufferOutput M)}
  {released : List (Option M)} {s : ReceiverBuffer M} {build : Build}

theorem InOrder.window (hs : InOrder first calls released s) : s.Window :=
  ⟨hs.first_le, hs.used_le, hs.last_lt⟩

theorem InOrder.sound (hs : InOrder first calls released s) : s.Sound := by
  refine ⟨.inr hs.window, ?_⟩
  intro id hlost
  obtain ⟨msgId, rfl, -⟩ := hs.lost id hlost
  exact msgId.toNat_lt

/-- One call returns and goes on with the history. -/
theorem History.handle (hs : History first calls outputs s) (build : Build)
    (call : BufferCall M) :
    ∃ output s', s.handle build call = .ok (output, s') ∧ Move build s call output s' ∧
      History first (calls ++ [call]) (outputs ++ [output]) s' := by
  obtain ⟨⟨out, rtx⟩, s', hrun, hinOrder⟩ := handle_inOrder build hs.inOrder call
  have hsound := hs.inOrder.sound
  have hwindow := hs.inOrder.window
  have hwindow' := hinOrder.window
  have hmove := hsound.move hrun
  have heffect := (hmove.effect hsound).2
  have hfrontier := hmove.frontier_le hsound hwindow hwindow'
  have hrequests := hmove.mem_rtx_iff hwindow
  refine ⟨(out, rtx), s', hrun, hmove, ?_⟩
  constructor
  case inOrder => simpa using hinOrder
  case used => exact hmove.usedUp hsound hs.used
  case head => exact hmove.holeFirst hsound hs.head
  case received =>
    intro m hm
    rcases List.mem_append.1 hm with hm | hm
    · exact Nat.lt_of_lt_of_le (hs.received m hm) hfrontier
    · rw [← List.mem_singleton.1 hm] at hmove
      exact hmove.received_lt hsound hwindow'
  case not_hole =>
    intro m hm hhole
    obtain ⟨hbrings, hfrom⟩ := heffect.hole _ hhole
    rcases List.mem_append.1 hm with hm | hm
    · rcases hfrom with hold | ⟨msgId, hmem, hid⟩
      · exact hs.not_hole m hm hold
      · have hlt := hs.received m hm
        have hle := ((hrequests msgId).1 hmem).1
        omega
    · rw [← List.mem_singleton.1 hm] at hbrings
      exact hbrings ⟨rfl, .inl rfl⟩
  case announced =>
    intro id hid
    rcases List.mem_append.1 hid with hid | hid
    · exact Nat.le_trans (hs.announced id hid) hfrontier
    · rw [← List.mem_singleton.1 hid] at hmove
      exact hmove.beacon_le hwindow
  case gaveUp =>
    intro id hid
    rcases List.mem_append.1 hid with hid | hid
    · rcases hs.gaveUp id hid with hpast | hlost
      · left
        rw [hwindow'.past_iff]
        rw [hwindow.past_iff] at hpast
        have hnext := hs.inOrder.next_eq
        have hnext' := hinOrder.next_eq
        rw [List.length_append] at hnext'
        omega
      · exact hmove.lost_or_past hsound (.inl hlost)
    · have hgives : call.GivesUp id.toNat := by
        rw [← List.mem_singleton.1 hid]
        rfl
      exact hmove.lost_or_past hsound (.inr hgives)
  case holes =>
    intro id hhole
    rw [requestedIds_append, requestedIds_singleton]
    rcases (heffect.hole id hhole).2 with hold | ⟨msgId, hmem, hid⟩
    · obtain ⟨msgId, hmem, hid⟩ := hs.holes id hold
      exact ⟨msgId, List.mem_append_left _ hmem, hid⟩
    · exact ⟨msgId, List.mem_append_right _ hmem, hid⟩
  case requested_le =>
    intro id hid
    rw [requestedIds_append, requestedIds_singleton] at hid
    rcases List.mem_append.1 hid with hid | hid
    · exact Nat.le_trans (hs.requested_le id hid) hfrontier
    · exact (hmove.rtx_le hsound hwindow hwindow' hid).1
  case requested_frontier =>
    intro id hid
    rw [requestedIds_append, requestedIds_singleton, List.mem_append, List.mem_append,
      List.mem_singleton]
    constructor
    · rintro (hmem | hmem)
      · have hold : id.toNat = s.frontier :=
          Nat.le_antisymm (hs.requested_le id hmem) (hid ▸ hfrontier)
        exact .inl ((hs.requested_frontier id hold).1 hmem)
      · exact .inr ((hmove.rtx_le hsound hwindow hwindow' hmem).2 hid).symm
    · rintro (hmem | rfl)
      · have hold : id.toNat = s.frontier :=
          Nat.le_antisymm (hs.announced id hmem) (hid ▸ hfrontier)
        exact .inl ((hs.requested_frontier id hold).2 hmem)
      · exact .inr ((hrequests id).2 ⟨hid ▸ hfrontier, Nat.lt_succ_self _⟩)

/-- The history begins with the first message. -/
theorem history_first (build : Build) (m : M) :
    ∃ s, (default : ReceiverBuffer M).handle build (.received m) = .ok (([some m], []), s) ∧
      History (getId m).toNat [.received m] [([some m], [])] s := by
  obtain ⟨s, hrun, hinOrder⟩ := waiting_default.received build m
  refine ⟨s, hrun, ?_⟩
  have hs : s = { (default : ReceiverBuffer M) with lastSent := (getId m).toNat } := by
    cases sound_default.move hrun with
    | delivered hempty hnext => rfl
    | filled hwindow hhole hrelease => exact absurd rfl hwindow.started
  have hbuffer : s.buffer = [] := by rw [hs]; rfl
  have hfrontier : s.frontier = (getId m).toNat + 1 := by
    rw [frontier_of_empty hbuffer, hs]
  have hslots : ∀ id, s.slotOf id = none := by
    intro id
    unfold slotOf
    split
    next => rfl
    next => rw [hbuffer, List.getElem?_nil]
  constructor
  case inOrder => simpa using hinOrder
  case used =>
    intro j other hother
    rw [hbuffer] at hother
    cases hother
  case head => exact .inl hbuffer
  case received =>
    intro other hother
    rw [List.mem_singleton, BufferCall.received.injEq] at hother
    rw [hother, hfrontier]
    exact Nat.lt_succ_self _
  case not_hole =>
    intro other _ hhole
    rw [Hole, hslots] at hhole
    cases hhole
  case announced => simp
  case gaveUp => simp
  case holes =>
    intro id hhole
    rw [Hole, hslots] at hhole
    cases hhole
  case requested_le => simp
  case requested_frontier => simp

/-- Every sequence of calls from the first message on returns, in either build. -/
theorem history_handleAll (build : Build) (m : M) (calls : List (BufferCall M)) :
    ∃ outputs s, handleAll build default (.received m :: calls) = .ok (outputs, s) ∧
      History (getId m).toNat (.received m :: calls) outputs s := by
  induction calls using List.reverseRecOn with
  | nil =>
      obtain ⟨s, hrun, hs⟩ := history_first build m
      exact ⟨[([some m], [])], s, by simp only [handleAll, hrun, bind_ok], hs⟩
  | append_singleton calls call ih =>
      obtain ⟨outputs, s, hrun, hs⟩ := ih
      obtain ⟨output, s', hcall, -, hs'⟩ := hs.handle build call
      exact ⟨outputs ++ [output], s', handleAll_concat_ok hrun hcall, hs'⟩

/-- The history of a state that the calls lead to. -/
theorem After.history {m : M} (hafter : After build (.received m :: calls) s) :
    ∃ outputs, handleAll build default (.received m :: calls) = .ok (outputs, s) ∧
      History (getId m).toNat (.received m :: calls) outputs s := by
  obtain ⟨outputs, t, hrun, ht⟩ := history_handleAll build m calls
  obtain rfl := hafter.unique ⟨outputs, hrun⟩
  exact ⟨outputs, hrun, ht⟩

/-- Of an id that is not past, the message is in the buffer exactly if it is in its slot. -/
theorem History.stored_iff (hs : History first calls outputs s) {id : Nat}
    (hlt : s.lastSent < id) : s.Stored id ↔ s.Filled id := by
  have hwindow := hs.inOrder.window
  constructor
  · rintro ⟨m, hm, hid⟩
    obtain ⟨j, hj⟩ := List.mem_iff_getElem?.1 hm
    have hle := hs.used j m hj
    obtain ⟨hslot, -⟩ := hs.inOrder.slots (j - s.firstEntry) m
      (by rwa [Nat.add_sub_cancel' hle])
    refine ⟨m, ?_⟩
    rw [hwindow.slotOf_eq hlt, show s.firstEntry + (id - (s.lastSent + 1)) = j by omega]
    exact hj
  · rintro ⟨m, hm⟩
    rw [hwindow.slotOf_eq hlt] at hm
    obtain ⟨hid, -⟩ := hs.inOrder.slots _ m hm
    exact ⟨m, List.mem_of_getElem? hm, by omega⟩

end History

/-! ## What is held back -/

/-- The next id in line is neither in the buffer nor lost. -/
def NextAwaited (s : ReceiverBuffer M) : Prop :=
  ¬ s.Stored (s.lastSent + 1) ∧ ¬ s.Lost (s.lastSent + 1)

/-- The message with the id was received, or its loss was declared. -/
def Settled (calls : List (BufferCall M)) (id : Nat) : Prop :=
  (∃ m, .received m ∈ calls ∧ (getId m).toNat = id) ∨
    ∃ msgId : UInt32, .lost msgId ∈ calls ∧ msgId.toNat = id

/-- Every id that is settled together with all ids before it has been released. -/
def CaughtUp (first : Nat) (calls : List (BufferCall M)) (s : ReceiverBuffer M) : Prop :=
  ∀ id, (∀ k, first ≤ k → k ≤ id → Settled calls k) → id ≤ s.lastSent

/-- The message of the call is next in line with nothing in the buffer, and the id behind it is
    known to be lost: the message is handed over without a look at the lost ids. -/
def LeavesLoss (s : ReceiverBuffer M) : BufferCall M → Prop
  | .received m => s.buffer = [] ∧ (getId m).toNat = s.lastSent + 1 ∧ s.Lost (s.lastSent + 2)
  | _ => False

section HeldBack

variable {first : Nat} {calls : List (BufferCall M)} {outputs : List (BufferOutput M)}
  {s : ReceiverBuffer M} {build : Build}

theorem History.nextAwaited_iff (hs : History first calls outputs s) :
    s.NextAwaited ↔ ¬ s.Lost (s.lastSent + 1) := by
  have hnot := hs.head.not_filled hs.inOrder.window
  rw [← hs.stored_iff (Nat.lt_succ_self _)] at hnot
  exact and_iff_right hnot

/-- What was released is settled, and so is the next id if it is lost. -/
theorem History.settled (hs : History first calls outputs s) {k : Nat} (hfirst : first ≤ k)
    (hle : k ≤ s.lastSent ∨ s.Lost k) : Settled calls k := by
  rcases hle with hle | hlost
  · have hnext := hs.inOrder.next_eq
    have hlt : k - first < (releasedItems outputs).length := by omega
    have hdelivered := hs.inOrder.delivered (k - first) _ (List.getElem?_eq_getElem hlt)
    rcases hitem : (releasedItems outputs)[k - first] with _ | m
    · rw [hitem] at hdelivered
      obtain ⟨msgId, hid, hmem⟩ := hdelivered
      exact .inr ⟨msgId, hmem, by omega⟩
    · rw [hitem] at hdelivered
      obtain ⟨hid, hmem⟩ := hdelivered
      exact .inl ⟨m, hmem, by omega⟩
  · obtain ⟨msgId, hid, hmem⟩ := hs.inOrder.lost k hlost
    exact .inr ⟨msgId, hmem, hid⟩

/-- A settled id is past, in the buffer, or known to be lost. -/
theorem History.of_settled (hs : History first calls outputs s) {id : Nat}
    (hsettled : Settled calls id) : id ≤ s.lastSent ∨ s.Stored id ∨ s.Lost id := by
  have hwindow := hs.inOrder.window
  rcases hsettled with ⟨m, hmem, rfl⟩ | ⟨msgId, hmem, rfl⟩
  · by_cases hle : (getId m).toNat ≤ s.lastSent
    · exact .inl hle
    right
    left
    have hlt := Nat.lt_of_not_le hle
    obtain ⟨slot, hslot⟩ := hwindow.exists_slot hlt (hs.received m hmem)
    rw [hs.stored_iff hlt]
    rcases slot with _ | found
    · exact absurd hslot (hs.not_hole m hmem)
    · exact ⟨found, hslot⟩
  · rcases hs.gaveUp msgId hmem with hpast | hlost
    · exact .inl ((hwindow.past_iff _).1 hpast)
    · exact .inr (.inr hlost)

theorem History.caughtUp_iff (hs : History first calls outputs s) :
    s.NextAwaited ↔ CaughtUp first calls s := by
  have hnext := hs.inOrder.next_eq
  constructor
  · rintro ⟨hstored, hlost⟩ id hall
    by_contra hlt
    rcases hs.of_settled (hall (s.lastSent + 1) (by omega) (by omega)) with hle | hfound | hfound
    · omega
    · exact hstored hfound
    · exact hlost hfound
  · intro hcaught
    rw [hs.nextAwaited_iff]
    intro hlost
    have hle : s.lastSent + 1 ≤ s.lastSent := by
      apply hcaught
      intro k hfirst hk
      apply hs.settled hfirst
      rcases Nat.lt_or_eq_of_le hk with hlt | rfl
      · exact .inl (Nat.le_of_lt_succ hlt)
      · exact .inr hlost
    omega

/-- One call, after which the next id may be held back. -/
theorem Move.nextLost_iff {call : BufferCall M} {out : List (Option M)} {rtx : List UInt32}
    {s' : ReceiverBuffer M} (hs : s.Sound) (hwindow : s.Window)
    (hawaited : ¬ s.Lost (s.lastSent + 1)) (hmove : Move build s call (out, rtx) s') :
    s'.Lost (s'.lastSent + 1) ↔ s.LeavesLoss call := by
  have hcalm : ∀ t : ReceiverBuffer M, t.lastSent = s.lastSent → t.lostMsgs = s.lostMsgs →
      (∀ m, call = .received m → s.buffer = [] → (getId m).toNat ≠ s.lastSent + 1) →
      (t.Lost (t.lastSent + 1) ↔ s.LeavesLoss call) := by
    intro t hlast hlost hother
    refine iff_of_false ?_ ?_
    · rw [hlast, Lost, hlost]
      exact hawaited
    · cases call with
      | received m => exact fun hleaves => hother m rfl hleaves.1 hleaves.2.1
      | beacon msgId => exact id
      | lost msgId => exact id
  cases hmove with
  | @delivered m hempty hnext =>
      have hid := hnext.resolve_left hwindow.started
      simp only [LeavesLoss, hempty, hid, true_and]
      exact Iff.rfl
  | announced hempty hnext =>
      apply hcalm s rfl rfl
      rintro m ⟨⟩
  | ignored hwindow hgives hbefore hbrought =>
      apply hcalm s rfl rfl
      rintro m rfl hempty hid
      rw [frontier_of_empty hempty, ← hid] at hbefore
      exact Nat.lt_irrefl _ hbefore
  | grown hwindow hgives hbeyond hgap htail =>
      apply hcalm _ rfl rfl
      rintro m rfl hempty hid
      exact Nat.ne_of_gt (hgap hempty) hid
  | @filled m _ _ hwindow hhole hrelease =>
      have hstopped := ((hs.store hwindow m).releaseMsgs hrelease).2.2.1
      refine iff_of_false hstopped.next ?_
      rintro ⟨hempty, hid, -⟩
      have hlt := (hwindow.slotOf_eq_some hhole).2
      rw [frontier_of_empty hempty, hid] at hlt
      exact Nat.lt_irrefl _ hlt
  | @givenUp msgId _ _ hrelease =>
      have hstopped := ((hs.insert_lost msgId).releaseMsgs hrelease).2.2.1
      exact iff_of_false hstopped.next id

end HeldBack

/-- From the first message on nothing that could be released is held back after any call,
    exactly if no message that is next in line with nothing in the buffer comes when the id
    behind it is known to be lost. -/
theorem nothing_held_back_iff (build : Build) (m : M) (calls : List (BufferCall M)) :
    (∀ done, done <+: calls → ∃ s, After build (.received m :: done) s ∧ s.NextAwaited ∧
        CaughtUp (getId m).toNat (.received m :: done) s) ↔
      ∀ done call, done ++ [call] <+: calls →
        ∀ s, After build (.received m :: done) s → ¬ s.LeavesLoss call := by
  induction calls using List.reverseRecOn with
  | nil =>
      refine iff_of_true ?_ ?_
      · intro done hdone
        obtain rfl := List.prefix_nil.1 hdone
        obtain ⟨outputs, s, hrun, hs⟩ := history_handleAll build m []
        have hawaited : s.NextAwaited := by
          rw [hs.nextAwaited_iff]
          intro hlost
          obtain ⟨msgId, -, hmem⟩ := hs.inOrder.lost _ hlost
          simp at hmem
        exact ⟨s, ⟨outputs, hrun⟩, hawaited, hs.caughtUp_iff.1 hawaited⟩
      · intro done call hdone
        simp at hdone
  | append_singleton calls call ih =>
      -- the state before the last call and the state after it
      obtain ⟨outputs, s, hrun, hs⟩ := history_handleAll build m calls
      obtain ⟨⟨out, rtx⟩, s', hcall, hmove, hs'⟩ := hs.handle build call
      have hafter : After build (.received m :: calls) s := ⟨outputs, hrun⟩
      have hafter' : After build (.received m :: (calls ++ [call])) s' :=
        ⟨_, handleAll_concat_ok hrun hcall⟩
      have hlast : s.NextAwaited → (s'.NextAwaited ↔ ¬ s.LeavesLoss call) := by
        intro hawaited
        rw [hs.nextAwaited_iff] at hawaited
        rw [hs'.nextAwaited_iff, hmove.nextLost_iff hs.inOrder.sound hs.inOrder.window hawaited]
      rw [Runs.forall_prefix_concat, ← ih]
      constructor
      · intro hall
        have hbefore : ∀ done, done <+: calls → ∃ s, After build (.received m :: done) s ∧
            s.NextAwaited ∧ CaughtUp (getId m).toNat (.received m :: done) s :=
          fun done hdone => hall done (hdone.trans (List.prefix_append _ _))
        refine ⟨hbefore, ?_⟩
        intro t ht
        obtain ⟨u, hu, hawaited, -⟩ := hbefore calls (List.prefix_refl _)
        obtain ⟨u', hu', hawaited', -⟩ := hall _ (List.prefix_refl _)
        rw [hafter.unique ht] at hlast
        rw [hu.unique ht] at hawaited
        rw [hu'.unique hafter'] at hawaited'
        exact (hlast hawaited).1 hawaited'
      · rintro ⟨hbefore, hleaves⟩ done hdone
        rcases List.prefix_concat_iff.1 hdone with rfl | hdone
        · obtain ⟨u, hu, hawaited, -⟩ := hbefore calls (List.prefix_refl _)
          rw [hu.unique hafter] at hawaited
          have hawaited' := (hlast hawaited).2 (hleaves s hafter)
          exact ⟨s', hafter', hawaited', hs'.caughtUp_iff.1 hawaited'⟩
        · exact hbefore done hdone

/-- Messages that are nothing but their id. -/
instance : Identified UInt32 := ⟨id⟩

/-- The loss of 2 is declared before message 1 comes.  Message 1 is handed over, and the loss of
    2 is not reported although 2 is next in line. -/
theorem loss_held_back :
    ∃ s : ReceiverBuffer UInt32, After .debug [.received 0, .lost 2, .received 1] s ∧
      s.lastSent = 1 ∧ s.Lost 2 ∧ ¬ s.NextAwaited ∧
      ¬ CaughtUp 0 [.received 0, .lost 2, .received 1] s := by
  refine ⟨_, ⟨_, rfl⟩, rfl, rfl, fun hawaited => hawaited.2 rfl, ?_⟩
  intro hcaught
  have hle := hcaught 2 ?_
  · exact absurd hle (by decide)
  · intro k _ hk
    have hcases : k = 0 ∨ k = 1 ∨ k = 2 := by omega
    rcases hcases with rfl | rfl | rfl
    · exact .inl ⟨0, by simp, rfl⟩
    · exact .inl ⟨1, by simp, rfl⟩
    · exact .inr ⟨2, by simp, rfl⟩

end ReceiverBuffer

end Slim
