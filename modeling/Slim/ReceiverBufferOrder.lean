import Slim.ReceiverBuffer

/-!
# The receive buffer delivers in order

The invariant `InOrder` ties the state of the buffer to the calls made so far and to
everything released so far: slot `firstEntry + j` is for id `lastSent + 1 + j`, and
`lastSent` counts the released items.  Under it no operation of the buffer overflows,
so a call always returns, in either build.
-/

namespace Slim

open Machine

namespace ReceiverBuffer

section Start

variable {M : Type}

/-- No message has come yet.  Losses may be known already, because a beacon makes the
    receiver ask for the id it announces. -/
structure Waiting (calls : List (BufferCall M)) (s : ReceiverBuffer M) : Prop where
  lastSent_eq : s.lastSent = USIZE_MAX
  firstEntry_eq : s.firstEntry = 0
  buffer_eq : s.buffer = []
  lost : ∀ id, s.lostMsgs.contains id = true →
    ∃ msgId : UInt32, msgId.toNat = id ∧ .lost msgId ∈ calls

theorem waiting_default : Waiting ([] : List (BufferCall M)) default :=
  ⟨rfl, rfl, rfl, fun _ hid => nomatch hid⟩

theorem Waiting.mono {calls : List (BufferCall M)} {s : ReceiverBuffer M}
    (hs : Waiting calls s) (call : BufferCall M) : Waiting (calls ++ [call]) s := by
  refine ⟨hs.lastSent_eq, hs.firstEntry_eq, hs.buffer_eq, ?_⟩
  intro id hid
  obtain ⟨msgId, heq, hlost⟩ := hs.lost id hid
  exact ⟨msgId, heq, List.mem_append_left _ hlost⟩

theorem Waiting.isInOrder {calls : List (BufferCall M)} {s : ReceiverBuffer M}
    (hs : Waiting calls s) (build : Build) (msgId : Nat) :
    s.isInOrder build msgId = .ok true :=
  if_pos hs.lastSent_eq

/-- What is to be released is only ever extended. -/
theorem releaseLost_extends (build : Build) :
    ∀ (fuel : Nat) (s : ReceiverBuffer M) (ret out : List (Option M)) (s' : ReceiverBuffer M),
      releaseLost build fuel s ret = .ok (out, s') → ∃ more, out = ret ++ more := by
  intro fuel
  induction fuel with
  | zero =>
      intro s ret out s' hrun
      cases hrun
      exact ⟨[], (List.append_nil _).symm⟩
  | succ fuel ih =>
      intro s ret out s' hrun
      obtain ⟨lastSent, -, hrun⟩ := bind_eq_ok hrun
      split at hrun
      next =>
        obtain ⟨more, hmore⟩ := ih _ _ _ _ hrun
        exact ⟨none :: more, by rw [hmore, List.append_assoc]; rfl⟩
      next =>
        cases hrun
        exact ⟨[], (List.append_nil _).symm⟩

end Start

variable {M : Type} [Identified M]

/-- The item released at position `k`, after the calls `calls`, is for id `first + k`:
    a message with that id that was received, or the report that the id was lost. -/
def Delivered (first : Nat) (calls : List (BufferCall M)) (k : Nat) : Option M → Prop
  | some m => (getId m).toNat = first + k ∧ .received m ∈ calls
  | none => ∃ msgId : UInt32, msgId.toNat = first + k ∧ .lost msgId ∈ calls

structure InOrder (first : Nat) (calls : List (BufferCall M)) (released : List (Option M))
    (s : ReceiverBuffer M) : Prop where
  next_eq : s.lastSent + 1 = first + released.length
  first_le : s.firstEntry ≤ s.buffer.length
  used_le : s.firstEntry ≤ s.lastSent
  last_lt : s.lastSent + (s.buffer.length - s.firstEntry) < 2 ^ 32
  slots : ∀ j m, s.buffer[s.firstEntry + j]? = some (some m) →
    (getId m).toNat = s.lastSent + 1 + j ∧ .received m ∈ calls
  lost : ∀ id, s.lostMsgs.contains id = true →
    ∃ msgId : UInt32, msgId.toNat = id ∧ .lost msgId ∈ calls
  delivered : ∀ k item, released[k]? = some item → Delivered first calls k item

theorem Delivered.mono {first : Nat} {calls more : List (BufferCall M)}
    (hsub : ∀ call ∈ calls, call ∈ more) {k : Nat} {item : Option M}
    (hdelivered : Delivered first calls k item) : Delivered first more k item := by
  cases item with
  | some m => exact ⟨hdelivered.1, hsub _ hdelivered.2⟩
  | none =>
      obtain ⟨msgId, hid, hmem⟩ := hdelivered
      exact ⟨msgId, hid, hsub _ hmem⟩

section Invariant

variable {first : Nat} {calls : List (BufferCall M)} {released : List (Option M)}
  {s : ReceiverBuffer M}

theorem InOrder.mono {more : List (BufferCall M)} (hs : InOrder first calls released s)
    (hsub : ∀ call ∈ calls, call ∈ more) : InOrder first more released s where
  next_eq := hs.next_eq
  first_le := hs.first_le
  used_le := hs.used_le
  last_lt := hs.last_lt
  slots := fun j m hslot => ⟨(hs.slots j m hslot).1, hsub _ (hs.slots j m hslot).2⟩
  lost := by
    intro id hid
    obtain ⟨msgId, heq, hmem⟩ := hs.lost id hid
    exact ⟨msgId, heq, hsub _ hmem⟩
  delivered := fun k item hitem => (hs.delivered k item hitem).mono hsub

theorem InOrder.delivered_concat (hs : InOrder first calls released s) {item : Option M}
    (hitem : Delivered first calls released.length item) (k : Nat) (found : Option M)
    (hfound : (released ++ [item])[k]? = some found) : Delivered first calls k found := by
  rcases Nat.lt_trichotomy k released.length with hlt | rfl | hgt
  · rw [List.getElem?_append_left hlt] at hfound
    exact hs.delivered k found hfound
  · rw [List.getElem?_append_right (Nat.le_refl _), Nat.sub_self] at hfound
    cases hfound
    exact hitem
  · rw [List.getElem?_eq_none (by simp; omega)] at hfound
    cases hfound

/-- Releasing the first slot in use. -/
theorem InOrder.advance (hs : InOrder first calls released s)
    (hslot : s.firstEntry < s.buffer.length)
    {item : Option M} (hitem : Delivered first calls released.length item)
    {buffer : List (Option M)} (hlength : buffer.length = s.buffer.length)
    (hrest : ∀ j, buffer[s.firstEntry + 1 + j]? = s.buffer[s.firstEntry + 1 + j]?)
    {lostMsgs : HashSet Nat}
    (hlost : ∀ id, lostMsgs.contains id = true → s.lostMsgs.contains id = true) :
    InOrder first calls (released ++ [item])
      ⟨s.lastSent + 1, s.firstEntry + 1, lostMsgs, buffer⟩ where
  next_eq := by
    have hnext := hs.next_eq
    simp only [List.length_append, List.length_singleton]
    omega
  first_le := by simp only [hlength]; omega
  used_le := Nat.succ_le_succ hs.used_le
  last_lt := by
    have hlast := hs.last_lt
    simp only [hlength]
    omega
  slots := by
    intro j m hm
    simp only [] at hm
    rw [hrest j, show s.firstEntry + 1 + j = s.firstEntry + (j + 1) by omega] at hm
    obtain ⟨hid, hmem⟩ := hs.slots (j + 1) m hm
    exact ⟨by rw [hid]; simp only []; omega, hmem⟩
  lost := fun id hid => hs.lost id (hlost id hid)
  delivered := hs.delivered_concat hitem

/-- Releasing the next id with no slot in use. -/
theorem InOrder.advance_empty (hs : InOrder first calls released s) (hempty : s.buffer = [])
    {item : Option M} (hitem : Delivered first calls released.length item)
    (hbound : s.lastSent + 1 < 2 ^ 32) {lostMsgs : HashSet Nat}
    (hlost : ∀ id, lostMsgs.contains id = true → s.lostMsgs.contains id = true) :
    InOrder first calls (released ++ [item])
      { s with lastSent := s.lastSent + 1, lostMsgs := lostMsgs } where
  next_eq := by
    have hnext := hs.next_eq
    simp only [List.length_append, List.length_singleton]
    omega
  first_le := hs.first_le
  used_le := Nat.le_succ_of_le hs.used_le
  last_lt := by simp only [hempty, List.length_nil, Nat.zero_sub]; omega
  slots := by
    intro j m hm
    simp only [hempty] at hm
    cases hm
  lost := fun id hid => hs.lost id (hlost id hid)
  delivered := hs.delivered_concat hitem

theorem InOrder.add_one_lastSent (hs : InOrder first calls released s) (build : Build) :
    build.add s.lastSent 1 = .ok (s.lastSent + 1) := by
  have hlast := hs.last_lt
  exact build.add_ok (by unfold USIZE_MAX; omega)

theorem InOrder.add_one_firstEntry (hs : InOrder first calls released s) (build : Build) :
    build.add s.firstEntry 1 = .ok (s.firstEntry + 1) := by
  have hlast := hs.last_lt
  have hused := hs.used_le
  exact build.add_ok (by unfold USIZE_MAX; omega)

/-- A lost id that is next in line is reported. -/
theorem InOrder.delivered_none (hs : InOrder first calls released s)
    (hlost : s.lostMsgs.contains (s.lastSent + 1) = true) :
    Delivered first calls released.length none := by
  obtain ⟨msgId, hid, hmem⟩ := hs.lost _ hlost
  exact ⟨msgId, by rw [hid, hs.next_eq], hmem⟩

theorem contains_of_contains_remove (lostMsgs : HashSet Nat) (id other : Nat)
    (hcontains : (lostMsgs.remove id).contains other = true) :
    lostMsgs.contains other = true := by
  rw [HashMap.contains_remove, Bool.and_eq_true] at hcontains
  exact hcontains.2

end Invariant

/-! ## The loops -/

section Loops

variable {first : Nat} {calls : List (BufferCall M)}

/-- The first loop releases from the front until all slots are used up or the next id
    is neither there nor lost. -/
theorem releaseBuffered_inOrder (build : Build) :
    ∀ (fuel : Nat) (s : ReceiverBuffer M) (released ret : List (Option M)),
      InOrder first calls released s → s.buffer.length - s.firstEntry ≤ fuel →
      ∃ out s', releaseBuffered build fuel s.firstEntry s ret = .ok (ret ++ out, s') ∧
        InOrder first calls (released ++ out) s' ∧
        (s'.firstEntry = s'.buffer.length ∨
          ¬ s'.lostMsgs.contains (s'.lastSent + 1) = true) := by
  intro fuel
  induction fuel with
  | zero =>
      intro s released ret hs hfuel
      have hfirst := hs.first_le
      refine ⟨[], s, by rw [List.append_nil]; rfl, by rwa [List.append_nil], Or.inl (by omega)⟩
  | succ fuel ih =>
      intro s released ret hs hfuel
      rcases hslot : s.buffer[s.firstEntry]? with _ | _ | m
      · have hfirst := hs.first_le
        have hlength := List.getElem?_eq_none_iff.1 hslot
        refine ⟨[], s, ?_, by rwa [List.append_nil], Or.inl (by omega)⟩
        simp only [releaseBuffered, hslot, List.append_nil]
      · -- an empty slot: it can be given up only if its id is lost
        have hlt : s.firstEntry < s.buffer.length := (List.getElem?_eq_some_iff.1 hslot).1
        by_cases hlost : s.lostMsgs.contains (s.lastSent + 1) = true
        · have hnext := hs.advance hlt (hs.delivered_none hlost) rfl (fun _ => rfl)
            (contains_of_contains_remove s.lostMsgs (s.lastSent + 1))
          obtain ⟨out, s', hrun, hs', hend⟩ := ih _ _ (ret ++ [none]) hnext (by simp only []; omega)
          refine ⟨none :: out, s', ?_, by rwa [List.append_assoc] at hs', hend⟩
          rw [List.append_assoc] at hrun
          simp only [releaseBuffered, hslot, hs.add_one_lastSent, hs.add_one_firstEntry, bind_ok,
            if_pos hlost]
          exact hrun
        · refine ⟨[], s, ?_, by rwa [List.append_nil], Or.inr hlost⟩
          simp only [releaseBuffered, hslot, hs.add_one_lastSent, bind_ok, if_neg hlost,
            List.append_nil]
      · have hlt : s.firstEntry < s.buffer.length := (List.getElem?_eq_some_iff.1 hslot).1
        obtain ⟨hid, hreceived⟩ := hs.slots 0 m hslot
        have hitem : Delivered first calls released.length (some m) :=
          ⟨by rw [hid, Nat.add_zero, hs.next_eq], hreceived⟩
        have hlength : (s.buffer.set s.firstEntry none).length = s.buffer.length :=
          List.length_set
        have hnext := hs.advance hlt hitem hlength
          (fun j => List.getElem?_set_ne (by omega)) (fun id hid => hid)
        obtain ⟨out, s', hrun, hs', hend⟩ := ih _ _ (ret ++ [some m]) hnext
          (by simp only [hlength]; omega)
        refine ⟨some m :: out, s', ?_, by rwa [List.append_assoc] at hs', hend⟩
        rw [List.append_assoc] at hrun
        simp only [releaseBuffered, hslot, hs.add_one_lastSent, hs.add_one_firstEntry, bind_ok]
        exact hrun

/-- The last loop is idle unless the buffer is empty, and with more rounds than there
    are lost ids it stops because the next id is not lost. -/
theorem releaseLost_inOrder (build : Build) :
    ∀ (fuel : Nat) (s : ReceiverBuffer M) (released ret : List (Option M)),
      InOrder first calls released s → s.lostMsgs.len < fuel →
      (s.buffer = [] ∨ ¬ s.lostMsgs.contains (s.lastSent + 1) = true) →
      ∃ out s', releaseLost build fuel s ret = .ok (ret ++ out, s') ∧
        InOrder first calls (released ++ out) s' ∧
        ¬ s'.lostMsgs.contains (s'.lastSent + 1) = true := by
  intro fuel
  induction fuel with
  | zero =>
      intro s released ret hs hfuel
      exact absurd hfuel (Nat.not_lt_zero _)
  | succ fuel ih =>
      intro s released ret hs hfuel hidle
      by_cases hlost : s.lostMsgs.contains (s.lastSent + 1) = true
      · have hempty := hidle.resolve_right fun hnot => hnot hlost
        have hbound : s.lastSent + 1 < 2 ^ 32 := by
          obtain ⟨msgId, hid, -⟩ := hs.lost _ hlost
          rw [← hid]
          exact msgId.toNat_lt
        have hnext := hs.advance_empty hempty (hs.delivered_none hlost) hbound
          (contains_of_contains_remove s.lostMsgs (s.lastSent + 1))
        have hlen := HashMap.len_remove hlost
        obtain ⟨out, s', hrun, hs', hend⟩ := ih _ _ (ret ++ [none]) hnext
          (by simp only []; omega) (Or.inl hempty)
        refine ⟨none :: out, s', ?_, by rwa [List.append_assoc] at hs', hend⟩
        rw [List.append_assoc] at hrun
        simp only [releaseLost, hs.add_one_lastSent, bind_ok, if_pos hlost]
        exact hrun
      · refine ⟨[], s, ?_, by rwa [List.append_nil], hlost⟩
        simp only [releaseLost, hs.add_one_lastSent, bind_ok, if_neg hlost, List.append_nil]

theorem InOrder.resetIfEmpty {released : List (Option M)} {s : ReceiverBuffer M}
    (hs : InOrder first calls released s) : InOrder first calls released s.resetIfEmpty := by
  unfold ReceiverBuffer.resetIfEmpty
  split
  · refine ⟨hs.next_eq, Nat.le_refl 0, Nat.zero_le _, ?_, ?_, hs.lost, hs.delivered⟩
    · have hlast := hs.last_lt
      simp only [List.length_nil]
      omega
    · intro j m hm
      cases hm
  · exact hs

/-- Releasing goes on until the next id is not lost. -/
theorem releaseMsgs_inOrder (build : Build) {released : List (Option M)} {s : ReceiverBuffer M}
    (hs : InOrder first calls released s) :
    ∃ out s', releaseMsgs build s = .ok (out, s') ∧ InOrder first calls (released ++ out) s' ∧
      ¬ s'.lostMsgs.contains (s'.lastSent + 1) = true := by
  obtain ⟨out, middle, hrun, hmiddle, hend⟩ :=
    releaseBuffered_inOrder build s.buffer.length s released [] hs (Nat.sub_le _ _)
  have hidle : middle.resetIfEmpty.buffer = [] ∨
      ¬ middle.resetIfEmpty.lostMsgs.contains (middle.resetIfEmpty.lastSent + 1) = true := by
    unfold ReceiverBuffer.resetIfEmpty
    split
    · exact Or.inl rfl
    next hne => exact Or.inr (hend.resolve_left hne)
  obtain ⟨more, s', hlost, hs', hend'⟩ := releaseLost_inOrder build
    (middle.resetIfEmpty.lostMsgs.len + 1) middle.resetIfEmpty (released ++ out) ([] ++ out)
    hmiddle.resetIfEmpty (Nat.lt_succ_self _) hidle
  refine ⟨out ++ more, s', ?_, by rwa [← List.append_assoc], hend'⟩
  simp only [releaseMsgs, hrun, bind_ok]
  exact hlost

end Loops

/-! ## Receiving a message or a beacon -/

section Receive

variable {first : Nat} {calls : List (BufferCall M)} {released : List (Option M)}
  {s : ReceiverBuffer M} {msgId : Nat} {msg : Option M}

/-- The item that arrives with an id: a received message with that id, or nothing. -/
def Arrives (calls : List (BufferCall M)) (msgId : Nat) (msg : Option M) : Prop :=
  msgId < 2 ^ 32 ∧ ∀ m, msg = some m → (getId m).toNat = msgId ∧ .received m ∈ calls

theorem initBuffer_inOrder (build : Build) (hs : InOrder first calls released s)
    (harrives : Arrives calls msgId msg) (hlate : s.lastSent < msgId) :
    ∃ rtx s', s.initBuffer build msgId msg = .ok (([], rtx), s') ∧
      InOrder first calls released s' := by
  obtain ⟨hbound, hmsg⟩ := harrives
  have hsub := build.sub_ok hlate
  cases msg with
  | some m =>
      refine ⟨_, _, by simp only [initBuffer, hs.add_one_lastSent, bind_ok, hsub]; rfl, ?_⟩
      refine ⟨hs.next_eq, Nat.zero_le _, Nat.zero_le _, ?_, ?_, hs.lost, hs.delivered⟩
      · simp only [List.length_append, List.length_replicate, List.length_singleton]
        omega
      · intro j found hfound
        simp only [Nat.zero_add] at hfound ⊢
        -- only the last slot is taken
        rcases Nat.lt_trichotomy j (msgId - (s.lastSent + 1)) with hlt | heq | hgt
        · rw [List.getElem?_append_left (by simpa using hlt), List.getElem?_replicate,
            if_pos hlt] at hfound
          cases hfound
        · rw [List.getElem?_append_right (by simp [heq]), List.length_replicate, heq,
            Nat.sub_self] at hfound
          cases hfound
          obtain ⟨hid, hreceived⟩ := hmsg m rfl
          exact ⟨by omega, hreceived⟩
        · rw [List.getElem?_eq_none (by simp; omega)] at hfound
          cases hfound
  | none =>
      have hadd : build.add (msgId - (s.lastSent + 1)) 1 = .ok (msgId - (s.lastSent + 1) + 1) :=
        build.add_ok (by unfold USIZE_MAX; omega)
      refine ⟨_, _, by simp only [initBuffer, hs.add_one_lastSent, bind_ok, hsub, hadd]; rfl, ?_⟩
      refine ⟨hs.next_eq, Nat.zero_le _, Nat.zero_le _, ?_, ?_, hs.lost, hs.delivered⟩
      · simp only [List.length_replicate]
        omega
      · intro j found hfound
        rw [List.getElem?_replicate] at hfound
        split at hfound <;> cases hfound

theorem fillSlot_inOrder (build : Build) (hs : InOrder first calls released s)
    (harrives : Arrives calls msgId msg) (hlate : s.lastSent < msgId)
    (hrange : msgId ≤ s.lastSent + (s.buffer.length - s.firstEntry)) :
    ∃ out s', s.fillSlot build msgId msg = .ok ((out, []), s') ∧
      InOrder first calls (released ++ out) s' ∧ (msg = none → out = []) := by
  obtain ⟨hbound, hmsg⟩ := harrives
  cases msg with
  | none => exact ⟨[], s, rfl, by rwa [List.append_nil], fun _ => rfl⟩
  | some m =>
      have hused := hs.used_le
      have hsub := build.sub_ok hlate
      have hadd : build.add (msgId - (s.lastSent + 1)) s.firstEntry =
          .ok (msgId - (s.lastSent + 1) + s.firstEntry) :=
        build.add_ok (by unfold USIZE_MAX; omega)
      have hpos : msgId - (s.lastSent + 1) + s.firstEntry < s.buffer.length := by omega
      rcases hslot : s.buffer[msgId - (s.lastSent + 1) + s.firstEntry]? with _ | _ | other
      · rw [List.getElem?_eq_none_iff] at hslot
        omega
      · have hstored : InOrder first calls released
            { s with
              buffer := s.buffer.set (msgId - (s.lastSent + 1) + s.firstEntry) (some m) } := by
          refine ⟨hs.next_eq, ?_, hs.used_le, ?_, ?_, hs.lost, hs.delivered⟩
          · simp only [List.length_set]
            exact hs.first_le
          · simp only [List.length_set]
            exact hs.last_lt
          · intro j found hfound
            simp only [List.getElem?_set] at hfound
            split at hfound
            next heq =>
              cases hfound
              obtain ⟨hid, hreceived⟩ := hmsg m rfl
              exact ⟨by simp only []; omega, hreceived⟩
            next => exact hs.slots j found hfound
        obtain ⟨out, s', hrun, hs', -⟩ := releaseMsgs_inOrder build hstored
        refine ⟨out, s', ?_, hs', fun hnone => nomatch hnone⟩
        simp only [fillSlot, hs.add_one_lastSent, bind_ok, hsub, hadd, hslot, hrun]
      · refine ⟨[], s, ?_, by rwa [List.append_nil], fun _ => rfl⟩
        simp only [fillSlot, hs.add_one_lastSent, bind_ok, hsub, hadd, hslot]

theorem extendBuffer_inOrder (build : Build) (hs : InOrder first calls released s)
    (harrives : Arrives calls msgId msg)
    (hbeyond : s.lastSent + (s.buffer.length - s.firstEntry) < msgId) :
    ∃ rtx s', s.extendBuffer build (s.buffer.length - s.firstEntry) msgId msg =
        .ok (([], rtx), s') ∧ InOrder first calls released s' := by
  obtain ⟨hbound, hmsg⟩ := harrives
  have hfirst := hs.first_le
  have hadd : build.add (s.lastSent + 1) (s.buffer.length - s.firstEntry) =
      .ok (s.lastSent + 1 + (s.buffer.length - s.firstEntry)) :=
    build.add_ok (by unfold USIZE_MAX; omega)
  -- the new slots come after the old ones and are empty, but for a message at the end
  have hholes : ∀ j found, (s.buffer ++ List.replicate
      (msgId - (s.lastSent + 1 + (s.buffer.length - s.firstEntry)))
        (none : Option M))[s.firstEntry + j]? = some (some found) →
      (getId found).toNat = s.lastSent + 1 + j ∧ .received found ∈ calls := by
    intro j found hfound
    by_cases hold : s.firstEntry + j < s.buffer.length
    · rw [List.getElem?_append_left hold] at hfound
      exact hs.slots j found hfound
    · rw [List.getElem?_append_right (by omega), List.getElem?_replicate] at hfound
      split at hfound <;> cases hfound
  cases msg with
  | some m =>
      refine ⟨_, _, by simp only [extendBuffer, hs.add_one_lastSent, bind_ok, hadd]; rfl, ?_⟩
      refine ⟨hs.next_eq, ?_, hs.used_le, ?_, ?_, hs.lost, hs.delivered⟩
      · simp only [List.length_append]
        omega
      · simp only [List.length_append, List.length_replicate, List.length_singleton]
        omega
      · intro j found hfound
        simp only [] at hfound ⊢
        by_cases hlast : s.firstEntry + j < (s.buffer ++ List.replicate
            (msgId - (s.lastSent + 1 + (s.buffer.length - s.firstEntry)))
              (none : Option M)).length
        · rw [List.getElem?_append_left hlast] at hfound
          exact hholes j found hfound
        · rw [List.getElem?_append_right (by omega), List.getElem?_singleton] at hfound
          split at hfound
          next hzero =>
            cases hfound
            obtain ⟨hid, hreceived⟩ := hmsg m rfl
            simp only [List.length_append, List.length_replicate] at hlast hzero
            exact ⟨by omega, hreceived⟩
          next => cases hfound
  | none =>
      refine ⟨_, _, by simp only [extendBuffer, hs.add_one_lastSent, bind_ok, hadd]; rfl, ?_⟩
      refine ⟨hs.next_eq, ?_, hs.used_le, ?_, hholes, hs.lost, hs.delivered⟩
      · simp only [List.length_append]
        omega
      · simp only [List.length_append, List.length_replicate]
        omega

theorem internal_inOrder (build : Build) (hs : InOrder first calls released s)
    (harrives : Arrives calls msgId msg) :
    ∃ out rtx s', s.internalOnReceivedMessage build msgId msg = .ok ((out, rtx), s') ∧
      InOrder first calls (released ++ out) s' ∧ (msg = none → out = []) := by
  have hlast := hs.last_lt
  have hstarted : s.lastSent ≠ USIZE_MAX := by
    unfold USIZE_MAX
    omega
  have horder : s.isInOrder build msgId =
      .ok (decide (msgId = s.lastSent + 1) && s.buffer.isEmpty) := by
    simp only [isInOrder, if_neg hstarted, hs.add_one_lastSent, bind_ok]
  by_cases hnext : (decide (msgId = s.lastSent + 1) && s.buffer.isEmpty) = true
  · simp only [internalOnReceivedMessage, horder, bind_ok, if_pos hnext]
    rw [Bool.and_eq_true, decide_eq_true_eq, List.isEmpty_iff] at hnext
    obtain ⟨hid, hempty⟩ := hnext
    cases msg with
    | some m =>
        obtain ⟨hmsg, hreceived⟩ := harrives.2 m rfl
        have hitem : Delivered first calls released.length (some m) :=
          ⟨by rw [hmsg, hid, hs.next_eq], hreceived⟩
        refine ⟨[some m], [], _, rfl, ?_, fun hnone => nomatch hnone⟩
        rw [hid]
        exact hs.advance_empty hempty hitem (hid ▸ harrives.1) (fun _ hlost => hlost)
    | none => exact ⟨[], _, s, rfl, by rwa [List.append_nil], fun _ => rfl⟩
  simp only [internalOnReceivedMessage, horder, bind_ok, if_neg hnext]
  by_cases hold : msgId ≤ s.lastSent
  · rw [if_pos hold]
    exact ⟨[], [], s, rfl, by rwa [List.append_nil], fun _ => rfl⟩
  rw [if_neg hold]
  have hlate : s.lastSent < msgId := Nat.lt_of_not_le hold
  by_cases hempty : s.buffer.isEmpty = true
  · rw [if_pos hempty]
    obtain ⟨rtx, s', hrun, hs'⟩ := initBuffer_inOrder build hs harrives hlate
    exact ⟨[], rtx, s', hrun, by rwa [List.append_nil], fun _ => rfl⟩
  rw [if_neg hempty]
  have hadd : build.add s.lastSent (s.buffer.length - s.firstEntry) =
      .ok (s.lastSent + (s.buffer.length - s.firstEntry)) :=
    build.add_ok (by unfold USIZE_MAX; omega)
  simp only [build.sub_ok hs.first_le, bind_ok, hadd]
  by_cases hrange : msgId ≤ s.lastSent + (s.buffer.length - s.firstEntry)
  · rw [if_pos hrange]
    obtain ⟨out, s', hrun, hs', hnone⟩ := fillSlot_inOrder build hs harrives hlate hrange
    exact ⟨out, [], s', hrun, hs', hnone⟩
  · rw [if_neg hrange]
    obtain ⟨rtx, s', hrun, hs'⟩ :=
      extendBuffer_inOrder build hs harrives (Nat.lt_of_not_le hrange)
    exact ⟨[], rtx, s', hrun, by rwa [List.append_nil], fun _ => rfl⟩

end Receive

/-! ## The calls -/

section Calls

variable {first : Nat} {calls : List (BufferCall M)} {released : List (Option M)}
  {s : ReceiverBuffer M}

/-- One call returns and keeps the invariant. -/
theorem handle_inOrder (build : Build) (hs : InOrder first calls released s)
    (call : BufferCall M) :
    ∃ output s', s.handle build call = .ok (output, s') ∧
      InOrder first (calls ++ [call]) (released ++ output.1) s' := by
  have hmore : InOrder first (calls ++ [call]) released s :=
    hs.mono fun other hother => List.mem_append_left _ hother
  have hcall : call ∈ calls ++ [call] := List.mem_append_right _ (List.mem_singleton_self call)
  cases call with
  | received m =>
      have harrives : Arrives (calls ++ [.received m]) (getId m).toNat (some m) := by
        refine ⟨(getId m).toNat_lt, ?_⟩
        rintro _ ⟨⟩
        exact ⟨rfl, hcall⟩
      obtain ⟨out, rtx, s', hrun, hs', -⟩ := internal_inOrder build hmore harrives
      exact ⟨(out, rtx), s', hrun, hs'⟩
  | beacon msgId =>
      have harrives : Arrives (calls ++ [.beacon msgId]) msgId.toNat (none : Option M) :=
        ⟨msgId.toNat_lt, fun m hm => nomatch hm⟩
      obtain ⟨out, rtx, s', hrun, hs', hnone⟩ := internal_inOrder build hmore harrives
      refine ⟨([], rtx), s', ?_, ?_⟩
      · simp only [handle, onBeaconMessage, hrun, bind_ok]
      · rwa [hnone rfl] at hs'
  | lost msgId =>
      have hlost : InOrder first (calls ++ [.lost msgId]) released
          { s with lostMsgs := s.lostMsgs.insert msgId.toNat () } := by
        refine ⟨hmore.next_eq, hmore.first_le, hmore.used_le, hmore.last_lt, hmore.slots, ?_,
          hmore.delivered⟩
        intro id hid
        rw [HashMap.contains_insert, Bool.or_eq_true, decide_eq_true_eq] at hid
        rcases hid with hid | hid
        · exact ⟨msgId, hid.symm, hcall⟩
        · exact hmore.lost id hid
      obtain ⟨out, s', hrun, hs', -⟩ := releaseMsgs_inOrder build hlost
      refine ⟨(out, []), s', ?_, hs'⟩
      simp only [handle, onLostMessage, hrun, bind_ok]

/-- The items released by the first `n` calls. -/
def releasedBy (outputs : List (BufferOutput M)) (n : Nat) : List (Option M) :=
  ((outputs.take n).map Prod.fst).flatten

/-- A sequence of calls returns, and after each of its prefixes the invariant relates
    what the prefix released to the calls of the prefix. -/
theorem handleAll_inOrder (build : Build) :
    ∀ (more calls : List (BufferCall M)) (released : List (Option M)) (s : ReceiverBuffer M),
      InOrder first calls released s →
      ∃ outputs s', handleAll build s more = .ok (outputs, s') ∧
        ∀ n, ∃ sn, InOrder first (calls ++ more.take n) (released ++ releasedBy outputs n) sn := by
  intro more
  induction more with
  | nil =>
      intro calls released s hs
      refine ⟨[], s, rfl, fun n => ⟨s, ?_⟩⟩
      simpa [releasedBy] using hs
  | cons call rest ih =>
      intro calls released s hs
      obtain ⟨output, middle, hrun, hmiddle⟩ := handle_inOrder build hs call
      obtain ⟨outputs, s', hrest, hprefixes⟩ := ih _ _ middle hmiddle
      refine ⟨output :: outputs, s', by simp only [handleAll, hrun, hrest, bind_ok], fun n => ?_⟩
      cases n with
      | zero => exact ⟨s, by simpa [releasedBy] using hs⟩
      | succ n =>
          obtain ⟨sn, hsn⟩ := hprefixes n
          exact ⟨sn, by simpa [releasedBy] using hsn⟩

/-! ## Before the first message -/

/-- The first message fixes the id from which the stream is delivered. -/
theorem Waiting.received (build : Build) (hs : Waiting calls s) (m : M) :
    ∃ s', s.handle build (.received m) = .ok (([some m], []), s') ∧
      InOrder (getId m).toNat (calls ++ [.received m]) [some m] s' := by
  refine ⟨{ s with lastSent := (getId m).toNat }, ?_, ?_⟩
  · simp only [handle, onReceivedMessage, internalOnReceivedMessage, hs.isInOrder, bind_ok,
      if_true]
  have hmem : .received m ∈ calls ++ [BufferCall.received m] :=
    List.mem_append_right _ (List.mem_singleton_self _)
  constructor
  · rfl
  · simp only [hs.firstEntry_eq, hs.buffer_eq, List.length_nil, Nat.le_refl]
  · simp only [hs.firstEntry_eq, Nat.zero_le]
  · simp only [hs.firstEntry_eq, hs.buffer_eq]
    exact (getId m).toNat_lt
  · intro j found hfound
    simp only [hs.buffer_eq, List.getElem?_nil] at hfound
    cases hfound
  · exact (hs.mono _).lost
  · intro k item hitem
    rw [List.getElem?_singleton] at hitem
    split at hitem
    next hzero =>
      cases hitem
      exact ⟨by rw [hzero, Nat.add_zero], hmem⟩
    next => cases hitem

theorem handle_first (build : Build) (m : M) :
    ∃ output s', ReceiverBuffer.default.handle build (.received m) = .ok (output, s') ∧
      InOrder (getId m).toNat [.received m] output.1 s' := by
  obtain ⟨s', hrun, hs'⟩ := waiting_default.received build m
  exact ⟨([some m], []), s', hrun, hs'⟩

/-- A beacon leaves the buffer as it is: the id is asked for, and no slot is kept for it. -/
theorem Waiting.beacon (build : Build) (hs : Waiting calls s) (msgId : UInt32) :
    ∃ rtx, s.handle build (.beacon msgId) = .ok (([], rtx), s) := by
  refine ⟨[UInt32.ofNat msgId.toNat], ?_⟩
  simp only [handle, onBeaconMessage, internalOnReceivedMessage, hs.isInOrder, bind_ok, if_true]

/-- A loss before the first message.  `usize::MAX + 1` stops a debug build; a release build
    takes `0` for the next id, and so reports the loss of that id at once. -/
theorem Waiting.onLost {build : Build} (hs : Waiting calls s) {msgId : UInt32}
    {output : BufferOutput M} {s' : ReceiverBuffer M}
    (hrun : s.handle build (.lost msgId) = .ok (output, s')) :
    (∃ more, output.1 = none :: more) ∨
      output.1 = [] ∧ Waiting (calls ++ [.lost msgId]) s' := by
  obtain ⟨⟨ret, s₁⟩, hreleased, houtput⟩ := bind_eq_ok hrun
  cases houtput
  simp only [onLostMessage, releaseMsgs, hs.buffer_eq, List.length_nil, releaseBuffered, bind_ok,
    resetIfEmpty, hs.firstEntry_eq, if_true] at hreleased
  obtain ⟨next, -, hreleased⟩ := bind_eq_ok hreleased
  split at hreleased
  next =>
    obtain ⟨more, hmore⟩ := releaseLost_extends build _ _ _ _ _ hreleased
    exact .inl ⟨more, hmore⟩
  next =>
    cases hreleased
    refine .inr ⟨rfl, hs.lastSent_eq, rfl, rfl, ?_⟩
    intro id hid
    rw [HashMap.contains_insert, Bool.or_eq_true, decide_eq_true_eq] at hid
    rcases hid with hid | hid
    · exact ⟨msgId, hid.symm, List.mem_append_right _ (List.mem_singleton_self _)⟩
    · exact (hs.mono _).lost id hid

/-- A buffer from its creation on: it waits for the first message, or delivers in order
    from the first message, or has reported a loss before any message. -/
inductive Follows (calls : List (BufferCall M)) : List (Option M) → ReceiverBuffer M → Prop
  | waiting {s : ReceiverBuffer M} : Waiting calls s → Follows calls [] s
  | inOrder {m : M} {rest : List (Option M)} {s : ReceiverBuffer M} :
      InOrder (getId m).toNat calls (some m :: rest) s → Follows calls (some m :: rest) s
  | lossFirst {rest : List (Option M)} {s : ReceiverBuffer M} : Follows calls (none :: rest) s

/-- One call, if it returns. -/
theorem Follows.handle {build : Build} (hs : Follows calls released s) {call : BufferCall M}
    {output : BufferOutput M} {s' : ReceiverBuffer M}
    (hrun : s.handle build call = .ok (output, s')) :
    Follows (calls ++ [call]) (released ++ output.1) s' := by
  cases hs with
  | inOrder hs =>
      obtain ⟨found, t, hfound, ht⟩ := handle_inOrder build hs call
      rw [hrun] at hfound
      cases hfound
      exact .inOrder ht
  | lossFirst => exact .lossFirst
  | waiting hs =>
      cases call with
      | received m =>
          obtain ⟨t, hfound, ht⟩ := hs.received build m
          rw [hrun] at hfound
          cases hfound
          exact .inOrder ht
      | beacon msgId =>
          obtain ⟨rtx, hfound⟩ := hs.beacon build msgId
          rw [hrun] at hfound
          cases hfound
          exact .waiting (hs.mono _)
      | lost msgId =>
          rcases hs.onLost hrun with ⟨more, hmore⟩ | ⟨hnil, ht⟩
          · rw [hmore]
            exact .lossFirst
          · rw [hnil]
            exact .waiting ht

/-- From a first message on, the items are in order. -/
theorem Follows.delivered {m : M} {rest : List (Option M)}
    (hs : Follows calls (some m :: rest) s) (k : Nat) (item : Option M)
    (hitem : (some m :: rest)[k]? = some item) : Delivered (getId m).toNat calls k item := by
  cases hs with
  | inOrder hs => exact hs.delivered k item hitem

end Calls

/-- From the first message on, in either build, every sequence of calls returns, and
    what its prefixes release is, position by position from the id of that message,
    a received message or a reported loss; so no id is released twice. -/
theorem receiverBuffer_delivers_in_order (build : Build) (m : M) (calls : List (BufferCall M)) :
    ∃ outputs s', handleAll build default (.received m :: calls) = .ok (outputs, s') ∧
      (∀ n k item, (releasedBy outputs n)[k]? = some item →
        Delivered (getId m).toNat ((.received m :: calls).take n) k item) ∧
      ∀ (n k l : Nat) (x y : M), (releasedBy outputs n)[k]? = some (some x) →
        (releasedBy outputs n)[l]? = some (some y) → getId x = getId y → k = l := by
  obtain ⟨output, middle, hfirst, hmiddle⟩ := handle_first build m
  obtain ⟨outputs, s', hrest, hprefixes⟩ := handleAll_inOrder build calls _ _ middle hmiddle
  have hdelivered : ∀ n k item, (releasedBy (output :: outputs) n)[k]? = some item →
      Delivered (getId m).toNat ((.received m :: calls).take n) k item := by
    intro n k item hitem
    cases n with
    | zero => cases hitem
    | succ n =>
        obtain ⟨sn, hsn⟩ := hprefixes n
        exact hsn.delivered k item (by simpa [releasedBy] using hitem)
  refine ⟨output :: outputs, s', by simp only [handleAll, hfirst, hrest, bind_ok], hdelivered, ?_⟩
  intro n k l x y hx hy hsame
  have hxid := (hdelivered n k _ hx).1
  have hyid := (hdelivered n l _ hy).1
  rw [hsame] at hxid
  omega

end ReceiverBuffer

end Slim
