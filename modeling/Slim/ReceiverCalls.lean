import Slim.ReceiverWindow

/-!
# What a call on the receive buffer does

Every call on a buffer that was created empty is described id by id: an id that becomes a
hole is asked for, a lost id stays lost while it is a hole, and an id stays missing until
its message comes or its loss is released.
-/

namespace Slim

open Machine

/-! ## Calls -/

namespace BufferCall

variable {M : Type} [Identified M]

/-- The id that a call is about. -/
def msgId : BufferCall M → Nat
  | received m => (getId m).toNat
  | beacon id => id.toNat
  | lost id => id.toNat

/-- The message that a call brings. -/
def message : BufferCall M → Option M
  | received m => some m
  | beacon _ => none
  | lost _ => none

/-- Messages with the ids below this one exist, and the call does not bring them.  A beacon
    announces its own id too. -/
def announcedBelow : BufferCall M → Nat
  | received m => (getId m).toNat
  | beacon id => id.toNat + 1
  | lost _ => 0

/-- The call says that the id is lost. -/
def GivesUp : BufferCall M → Nat → Prop
  | lost id, other => id.toNat = other
  | _, _ => False

theorem msgId_lt (call : BufferCall M) : call.msgId < 2 ^ 32 := by
  cases call with
  | received m => exact (getId m).toNat_lt
  | beacon id => exact id.toNat_lt
  | lost id => exact id.toNat_lt

theorem announcedBelow_le (call : BufferCall M) : call.announcedBelow ≤ 2 ^ 32 := by
  cases call with
  | received m => exact Nat.le_of_lt (getId m).toNat_lt
  | beacon id => exact id.toNat_lt
  | lost id => exact Nat.zero_le _

theorem lt_announcedBelow {call : BufferCall M} (hgives : ∀ id, ¬ call.GivesUp id) (id : Nat) :
    id < call.announcedBelow ↔ id < call.msgId ∨ id = call.msgId ∧ call.message = none := by
  cases call with
  | received m => simp [announcedBelow, msgId, message]
  | beacon other =>
      simp only [announcedBelow, msgId, message, and_true]
      exact Nat.lt_succ_iff_lt_or_eq
  | lost other => exact absurd rfl (hgives other.toNat)

end BufferCall

namespace ReceiverBuffer

variable {M : Type} [Identified M]

/-- The call brings the message with the id.  The first message of all settles the ids
    before its own too, because the stream begins with it. -/
def Brings (s : ReceiverBuffer M) (call : BufferCall M) (id : Nat) : Prop :=
  call.message.isSome = true ∧
    (id = call.msgId ∨ s.lastSent = USIZE_MAX ∧ id ≤ call.msgId)

/-- A call, id by id: where holes come from, what stays missing, what stays lost, and which
    ids are asked for. -/
structure Effect (s s' : ReceiverBuffer M) (call : BufferCall M) (rtx : List UInt32) : Prop where
  hole : ∀ id, s'.Hole id → ¬ s.Brings call id ∧ (s.Hole id ∨ ∃ msgId ∈ rtx, msgId.toNat = id)
  hole_lost : ∀ id, s'.Hole id → s.Lost id ∨ call.GivesUp id → s'.Lost id
  lost_sub : ∀ id, s'.Lost id → s.Lost id ∨ call.GivesUp id
  missing : ∀ id, s.Missing id → ¬ s.Brings call id →
    ¬ (s.Lost id ∨ call.GivesUp id) ∨ s'.Lost id → s'.Missing id
  requested : ∀ msgId ∈ rtx, s'.Missing msgId.toNat ∧ ¬ s.Past msgId.toNat ∧
    s.slotOf msgId.toNat = none ∧ msgId.toNat ≤ call.msgId

/-- The window keeps its slots and may grow at the end.  A new slot is a hole that is asked
    for, or has the message of the call. -/
structure Grown (s s' : ReceiverBuffer M) (call : BufferCall M) (rtx : List UInt32) : Prop where
  past : ∀ id, s'.Past id ↔ s.Past id
  lost : s'.lostMsgs = s.lostMsgs
  kept : ∀ id slot, s.slotOf id = some slot → s'.slotOf id = some slot
  added : ∀ id, s.slotOf id = none → s'.slotOf id = none ∨
    s'.slotOf id = some none ∧ (∃ msgId ∈ rtx, msgId.toNat = id) ∨
    s'.Filled id ∧ s.Brings call id
  brought : call.message.isSome = true → ¬ s'.Hole call.msgId
  requested : ∀ msgId ∈ rtx, ¬ s.Past msgId.toNat ∧ s.slotOf msgId.toNat = none ∧
    msgId.toNat ≤ call.msgId ∧ ¬ s.Brings call msgId.toNat

section Calls

variable {s s' : ReceiverBuffer M} {call : BufferCall M} {rtx : List UInt32}

theorem Grown.missing (hgrown : Grown s s' call rtx) {id : Nat} (hmissing : s.Missing id)
    (hbrings : ¬ s.Brings call id) : s'.Missing id := by
  refine ⟨fun hpast => hmissing.1 ((hgrown.past id).1 hpast), ?_⟩
  rintro ⟨m, hm⟩
  rcases hslot : s.slotOf id with _ | slot
  · rcases hgrown.added id hslot with hnone | ⟨hnone, -⟩ | ⟨-, hbrought⟩
    · rw [hnone] at hm
      cases hm
    · rw [hnone] at hm
      cases hm
    · exact hbrings hbrought
  · rw [hgrown.kept id slot hslot] at hm
    exact hmissing.2 ⟨m, hslot.trans hm⟩

theorem Grown.effect (hgrown : Grown s s' call rtx)
    (hsettled : s.lastSent = USIZE_MAX → call.message.isSome = false)
    (hgives : ∀ id, ¬ call.GivesUp id) : Effect s s' call rtx where
  hole := by
    intro id hhole
    constructor
    · rintro ⟨hsome, hid | ⟨hfirst, -⟩⟩
      · rw [hid] at hhole
        exact hgrown.brought hsome hhole
      · rw [hsettled hfirst] at hsome
        cases hsome
    · rcases hslot : s.slotOf id with _ | slot
      · rcases hgrown.added id hslot with hnone | ⟨-, hasked⟩ | ⟨⟨m, hm⟩, -⟩
        · rw [Hole, hnone] at hhole
          cases hhole
        · exact .inr hasked
        · rw [Hole, hm] at hhole
          cases hhole
      · rw [Hole, hgrown.kept id slot hslot] at hhole
        exact .inl (hslot.trans hhole)
  hole_lost := by
    intro id _ hlost
    rw [Lost, hgrown.lost]
    exact hlost.resolve_right (hgives id)
  lost_sub := by
    intro id hlost
    rw [Lost, hgrown.lost] at hlost
    exact .inl hlost
  missing := fun id hmissing hbrings _ => hgrown.missing hmissing hbrings
  requested := by
    intro msgId hasked
    obtain ⟨hpast, hslot, hle, hbrings⟩ := hgrown.requested msgId hasked
    exact ⟨hgrown.missing (missing_of_slotOf hpast (.inl hslot)) hbrings, hpast, hslot, hle⟩

/-- Nothing changes, and nothing is asked for. -/
theorem Grown.refl (hbrought : call.message.isSome = true → ¬ s.Hole call.msgId) :
    Grown s s call [] where
  past := fun _ => Iff.rfl
  lost := rfl
  kept := fun _ _ hslot => hslot
  added := fun _ hslot => .inl hslot
  brought := hbrought
  requested := List.forall_mem_nil _

/-- The window with holes up to the id of a call, and with what comes after them. -/
def extended (s : ReceiverBuffer M) (call : BufferCall M) (tail : List (Option M)) :
    ReceiverBuffer M :=
  { s with
    buffer := s.buffer ++ List.replicate
      (call.msgId - (s.lastSent + 1 + (s.buffer.length - s.firstEntry))) none ++ tail }

theorem Window.extended (hs : s.Window) (hbeyond : s.frontier ≤ call.msgId)
    {tail : List (Option M)} (htail : tail.length ≤ 1) : (s.extended call tail).Window := by
  have hfirst := hs.first_le
  have hid := call.msgId_lt
  unfold frontier at hbeyond
  refine ⟨?_, hs.used_le, ?_⟩
  · simp only [ReceiverBuffer.extended, List.length_append]
    omega
  · simp only [ReceiverBuffer.extended, List.length_append, List.length_replicate]
    omega

/-- The slots of the longer window. -/
theorem Window.slotOf_extended (hs : s.Window) (hbeyond : s.frontier ≤ call.msgId)
    {tail : List (Option M)} (htail : tail.length ≤ 1) (id : Nat) :
    (s.extended call tail).slotOf id =
      if id < s.frontier then s.slotOf id
      else if id < call.msgId then some none
      else tail[id - call.msgId]? := by
  have hfirst := hs.first_le
  have hlonger := hs.extended hbeyond htail
  unfold frontier at hbeyond ⊢
  by_cases hpast : id ≤ s.lastSent
  · have hsame : s.slotOf id = none := if_pos ((hs.past_iff id).2 hpast)
    rw [if_pos (by omega), hsame]
    exact if_pos ((hlonger.past_iff id).2 hpast)
  · have hlt := Nat.lt_of_not_le hpast
    rw [hlonger.slotOf_eq hlt, hs.slotOf_eq hlt]
    simp only [ReceiverBuffer.extended]
    by_cases hold : id < s.lastSent + 1 + (s.buffer.length - s.firstEntry)
    · rw [if_pos hold, List.append_assoc, List.getElem?_append_left (by omega)]
    rw [if_neg hold]
    by_cases hhole : id < call.msgId
    · rw [if_pos hhole, List.getElem?_append_left
        (by rw [List.length_append, List.length_replicate]; omega),
        List.getElem?_append_right (by omega), List.getElem?_replicate, if_pos (by omega)]
    · rw [if_neg hhole, List.getElem?_append_right
        (by rw [List.length_append, List.length_replicate]; omega)]
      congr 1
      rw [List.length_append, List.length_replicate]
      omega

end Calls

/-! ## The branches -/

theorem mem_idRange {start stop : Nat} (hstop : stop ≤ 2 ^ 32) (msgId : UInt32) :
    msgId ∈ idRange start stop ↔ start ≤ msgId.toNat ∧ msgId.toNat < stop := by
  simp only [idRange, List.mem_map, List.mem_range'_1]
  constructor
  · rintro ⟨id, ⟨hle, hlt⟩, rfl⟩
    rw [UInt32.toNat_ofNat_of_lt' (show id < 2 ^ 32 by omega)]
    omega
  · rintro ⟨hle, hlt⟩
    exact ⟨msgId.toNat, by omega, UInt32.ofNat_toNat⟩

theorem idRange_succ {start stop : Nat} (hle : start ≤ stop) :
    idRange start (stop + 1) = idRange start stop ++ [UInt32.ofNat stop] := by
  rw [idRange, Nat.succ_sub hle, List.range'_1_concat, List.map_append, Nat.add_sub_cancel' hle]
  rfl

theorem idRange_eq_nil {start stop : Nat} (hle : stop ≤ start) : idRange start stop = [] := by
  rw [idRange, Nat.sub_eq_zero_of_le hle]
  rfl

/-- The message goes into its slot. -/
def store (s : ReceiverBuffer M) (m : M) : ReceiverBuffer M :=
  { s with buffer := s.buffer.set ((getId m).toNat - (s.lastSent + 1) + s.firstEntry) (some m) }

/-- What a call does, branch by branch. -/
inductive Move (build : Build) (s : ReceiverBuffer M) :
    BufferCall M → BufferOutput M → ReceiverBuffer M → Prop
  | delivered {m : M} (hempty : s.buffer = [])
      (hnext : s.lastSent = USIZE_MAX ∨ (getId m).toNat = s.lastSent + 1) :
      Move build s (.received m) ([some m], []) { s with lastSent := (getId m).toNat }
  | announced {msgId : UInt32} (hempty : s.buffer = [])
      (hnext : s.lastSent = USIZE_MAX ∨ msgId.toNat = s.lastSent + 1) :
      Move build s (.beacon msgId) ([], [msgId]) s
  | ignored {call : BufferCall M} (hwindow : s.Window) (hgives : ∀ id, ¬ call.GivesUp id)
      (hbefore : call.msgId < s.frontier)
      (hbrought : call.message.isSome = true → ¬ s.Hole call.msgId) : Move build s call ([], []) s
  | grown {call : BufferCall M} {tail : List (Option M)} (hwindow : s.Window)
      (hgives : ∀ id, ¬ call.GivesUp id) (hbeyond : s.frontier ≤ call.msgId)
      (hgap : s.buffer = [] → s.lastSent + 1 < call.msgId)
      (htail : tail = [call.message] ∨ tail = [] ∧ call.message = none) :
      Move build s call ([], idRange s.frontier call.announcedBelow) (s.extended call tail)
  | filled {m : M} {out : List (Option M)} {s' : ReceiverBuffer M} (hwindow : s.Window)
      (hhole : s.Hole (getId m).toNat) (hrelease : (s.store m).releaseMsgs build = .ok (out, s')) :
      Move build s (.received m) (out, []) s'
  | givenUp {msgId : UInt32} {out : List (Option M)} {s' : ReceiverBuffer M}
      (hrelease : s.onLostMessage build msgId = .ok (out, s')) :
      Move build s (.lost msgId) (out, []) s'

section Branches

variable {s s' : ReceiverBuffer M} {call : BufferCall M} {build : Build}
  {output : BufferOutput M}

/-- Nothing is missing before the id. -/
theorem move_inOrder (hempty : s.buffer = []) (hgives : ∀ id, ¬ call.GivesUp id)
    (hnext : s.lastSent = USIZE_MAX ∨ call.msgId = s.lastSent + 1)
    (hrun : (match call.message with
      | some m => .ok (([some m], []), { s with lastSent := call.msgId })
      | none => .ok (([], [UInt32.ofNat call.msgId]), s) :
        Except Panic (BufferOutput M × ReceiverBuffer M)) = .ok (output, s')) :
    Move build s call output s' := by
  cases call with
  | received m =>
      cases hrun
      exact .delivered hempty hnext
  | beacon msgId =>
      cases hrun
      rw [show UInt32.ofNat (BufferCall.beacon msgId : BufferCall M).msgId = msgId from
        UInt32.ofNat_toNat]
      exact .announced hempty hnext
  | lost msgId => exact absurd rfl (hgives msgId.toNat)

theorem Window.move_initBuffer (hs : s.Window) (hgives : ∀ id, ¬ call.GivesUp id)
    (hempty : s.buffer = []) (hgap : s.lastSent + 1 < call.msgId)
    (hrun : s.initBuffer build call.msgId call.message = .ok (output, s')) :
    Move build s call output s' := by
  have hfirst := hs.firstEntry_eq hempty
  have hfrontier := frontier_of_empty hempty
  have hid := call.msgId_lt
  have hmove : Move build s call ([], idRange s.frontier call.announcedBelow)
      (s.extended call [call.message]) :=
    .grown hs hgives (by omega) (fun _ => hgap) (.inl rfl)
  have hextended : s.extended call [call.message] = ⟨s.lastSent, 0, s.lostMsgs,
      List.replicate (call.msgId - (s.lastSent + 1)) none ++ [call.message]⟩ := by
    simp only [ReceiverBuffer.extended, hempty, List.nil_append, hfirst]
    rfl
  rw [hextended, hfrontier] at hmove
  simp only [ReceiverBuffer.initBuffer, hs.add_one_lastSent, bind_ok,
    build.sub_ok (Nat.le_of_lt hgap)] at hrun
  cases call with
  | received m =>
      cases hrun
      exact hmove
  | beacon msgId =>
      have hadd : build.add (msgId.toNat - (s.lastSent + 1)) 1 =
          .ok (msgId.toNat - (s.lastSent + 1) + 1) :=
        build.add_ok (by unfold USIZE_MAX; simp only [BufferCall.msgId] at hid; omega)
      simp only [BufferCall.message, BufferCall.msgId, hadd, bind_ok] at hrun
      cases hrun
      rw [List.replicate_succ']
      exact hmove
  | lost msgId => exact absurd rfl (hgives msgId.toNat)

theorem Window.move_extendBuffer (hs : s.Window) (hgives : ∀ id, ¬ call.GivesUp id)
    (hused : s.buffer ≠ []) (hbeyond : s.frontier ≤ call.msgId)
    (hrun : s.extendBuffer build (s.buffer.length - s.firstEntry) call.msgId call.message =
      .ok (output, s')) : Move build s call output s' := by
  have hid := call.msgId_lt
  have hadd : build.add (s.lastSent + 1) (s.buffer.length - s.firstEntry) = .ok s.frontier := by
    unfold frontier at hbeyond ⊢
    exact build.add_ok (by unfold USIZE_MAX; omega)
  have hgap : s.buffer = [] → s.lastSent + 1 < call.msgId := fun hempty => absurd hempty hused
  simp only [ReceiverBuffer.extendBuffer, hs.add_one_lastSent, bind_ok, hadd] at hrun
  cases call with
  | received m =>
      cases hrun
      exact .grown hs hgives hbeyond hgap (.inl rfl)
  | beacon msgId =>
      -- the id is asked for and gets no slot
      have hmove : Move build s (.beacon msgId)
          ([], idRange s.frontier (BufferCall.beacon msgId : BufferCall M).announcedBelow)
          (s.extended (.beacon msgId) []) :=
        .grown hs hgives hbeyond hgap (.inr ⟨rfl, rfl⟩)
      cases hrun
      rw [ReceiverBuffer.extended, List.append_nil] at hmove
      rw [← idRange_succ hbeyond]
      exact hmove
  | lost msgId => exact absurd rfl (hgives msgId.toNat)

theorem Window.move_fillSlot (hs : s.Window) (hgives : ∀ id, ¬ call.GivesUp id)
    (hlate : s.lastSent < call.msgId) (hrange : call.msgId < s.frontier)
    (hrun : s.fillSlot build call.msgId call.message = .ok (output, s')) :
    Move build s call output s' := by
  cases call with
  | lost msgId => exact absurd rfl (hgives msgId.toNat)
  | beacon msgId =>
      cases hrun
      refine .ignored hs hgives hrange ?_
      intro hsome
      cases hsome
  | received m =>
      have hused := hs.used_le
      have hlast := hs.last_lt
      have hadd : build.add ((getId m).toNat - (s.lastSent + 1)) s.firstEntry =
          .ok ((getId m).toNat - (s.lastSent + 1) + s.firstEntry) := by
        have hid := (getId m).toNat_lt
        exact build.add_ok (by unfold USIZE_MAX; omega)
      simp only [BufferCall.message, BufferCall.msgId] at hlate hrun
      have hslot : s.slotOf (getId m).toNat =
          s.buffer[(getId m).toNat - (s.lastSent + 1) + s.firstEntry]? := by
        rw [hs.slotOf_eq hlate, Nat.add_comm]
      simp only [ReceiverBuffer.fillSlot, hs.add_one_lastSent, bind_ok, build.sub_ok hlate, hadd]
        at hrun
      split at hrun
      next => cases hrun
      next other hother =>
        -- a duplicate
        cases hrun
        refine .ignored hs hgives hrange ?_
        intro _ hhole
        rw [Hole, BufferCall.msgId, hslot, hother] at hhole
        cases hhole
      next hnone =>
        obtain ⟨⟨ret, left⟩, hrelease, hrun⟩ := bind_eq_ok hrun
        cases hrun
        exact .filled hs (hslot.trans hnone) hrelease

theorem Sound.move_internal (hs : s.Sound) (hgives : ∀ id, ¬ call.GivesUp id)
    (hrun : s.internalOnReceivedMessage build call.msgId call.message = .ok (output, s')) :
    Move build s call output s' := by
  obtain ⟨inOrder, horder, hrun⟩ := bind_eq_ok hrun
  rcases hs.phase with hstart | hwindow
  · rw [isInOrder, if_pos hstart.lastSent_eq] at horder
    cases horder
    exact move_inOrder hstart.buffer_eq hgives (.inl hstart.lastSent_eq) hrun
  rw [isInOrder, if_neg hwindow.started, hwindow.add_one_lastSent, bind_ok] at horder
  cases horder
  split at hrun
  next hnext =>
    rw [Bool.and_eq_true, decide_eq_true_eq, List.isEmpty_iff] at hnext
    exact move_inOrder hnext.2 hgives (.inr hnext.1) hrun
  next hnext =>
    rw [Bool.and_eq_true, decide_eq_true_eq, List.isEmpty_iff, not_and] at hnext
    split at hrun
    next hold =>
      -- the id is past
      cases hrun
      refine .ignored hwindow hgives (Nat.lt_of_le_of_lt hold s.lastSent_lt_frontier) ?_
      intro _ hhole
      exact not_hole_of_past ((hwindow.past_iff _).2 hold) hhole
    next hold =>
      split at hrun
      next hempty =>
        rw [List.isEmpty_iff] at hempty
        have hne : call.msgId ≠ s.lastSent + 1 := fun heq => hnext heq hempty
        exact hwindow.move_initBuffer hgives hempty (by omega) hrun
      next hused =>
        rw [List.isEmpty_iff] at hused
        have hlast := hwindow.last_lt
        have hadd : build.add s.lastSent (s.buffer.length - s.firstEntry) =
            .ok (s.lastSent + (s.buffer.length - s.firstEntry)) :=
          build.add_ok (by unfold USIZE_MAX; omega)
        simp only [build.sub_ok hwindow.first_le, bind_ok, hadd] at hrun
        split at hrun
        next hrange =>
          exact hwindow.move_fillSlot hgives (by omega) (by unfold frontier; omega) hrun
        next hrange =>
          exact hwindow.move_extendBuffer hgives hused (by unfold frontier; omega) hrun

/-- One call, if it returns. -/
theorem Sound.move (hs : s.Sound) (hrun : s.handle build call = .ok (output, s')) :
    Move build s call output s' := by
  cases call with
  | received m => exact hs.move_internal (fun _ hgives => hgives) hrun
  | beacon msgId =>
      obtain ⟨⟨found, left⟩, hbeacon, hrun⟩ := bind_eq_ok hrun
      cases hrun
      obtain ⟨⟨⟨ret, asked⟩, left⟩, hinternal, hbeacon⟩ := bind_eq_ok hbeacon
      cases hbeacon
      have hgives : ∀ id, ¬ (BufferCall.beacon msgId : BufferCall M).GivesUp id :=
        fun _ hgives => hgives
      have hmove := hs.move_internal hgives hinternal
      -- a beacon releases nothing
      cases hmove with
      | announced hempty hnext => exact .announced hempty hnext
      | ignored hwindow hgives hbefore hbrought => exact .ignored hwindow hgives hbefore hbrought
      | grown hwindow hgives hbeyond hgap htail => exact .grown hwindow hgives hbeyond hgap htail
  | lost msgId =>
      obtain ⟨⟨ret, left⟩, hlost, hrun⟩ := bind_eq_ok hrun
      cases hrun
      exact .givenUp hlost

end Branches

/-! ## The effect of each branch -/

section Effects

variable {s s' : ReceiverBuffer M} {call : BufferCall M} {build : Build}
  {out : List (Option M)} {rtx : List UInt32}

/-- The window grows up to the id of a call.  The ids between are asked for, and so is the
    id itself if its message has not come. -/
theorem Window.grown_extended (hs : s.Window) (hgives : ∀ id, ¬ call.GivesUp id)
    (hbeyond : s.frontier ≤ call.msgId) {tail : List (Option M)}
    (htail : tail = [call.message] ∨ tail = [] ∧ call.message = none) :
    (s.extended call tail).Window ∧
      Grown s (s.extended call tail) call (idRange s.frontier call.announcedBelow) := by
  have hshort : tail.length ≤ 1 := by
    rcases htail with rfl | ⟨rfl, -⟩
    · exact Nat.le_refl 1
    · exact Nat.zero_le 1
  have hslots := hs.slotOf_extended hbeyond hshort
  have hrtx : ∀ msgId : UInt32, msgId ∈ idRange s.frontier call.announcedBelow ↔
      s.frontier ≤ msgId.toNat ∧ msgId.toNat < call.announcedBelow :=
    mem_idRange call.announcedBelow_le
  have hasked : ∀ id, s.frontier ≤ id → id < call.announcedBelow →
      ∃ msgId ∈ idRange s.frontier call.announcedBelow, msgId.toNat = id := by
    intro id hle hlt
    have hfits : (UInt32.ofNat id).toNat = id :=
      UInt32.toNat_ofNat_of_lt' (Nat.lt_of_lt_of_le hlt call.announcedBelow_le)
    exact ⟨UInt32.ofNat id, (hrtx _).2 (by rw [hfits]; exact ⟨hle, hlt⟩), hfits⟩
  refine ⟨hs.extended hbeyond hshort, ⟨fun _ => Iff.rfl, rfl, ?_, ?_, ?_, ?_⟩⟩
  · intro id slot hslot
    rw [hslots, if_pos, hslot]
    by_contra hlt
    rw [(hs.slotOf_beyond (Nat.le_of_not_lt hlt)).2] at hslot
    cases hslot
  · intro id hslot
    rw [Filled, hslots]
    by_cases hold : id < s.frontier
    · rw [if_pos hold]
      exact .inl hslot
    rw [if_neg hold]
    have hle := Nat.le_of_not_lt hold
    by_cases hlt : id < call.msgId
    · rw [if_pos hlt]
      exact .inr (.inl ⟨rfl, hasked id hle ((call.lt_announcedBelow hgives id).2 (.inl hlt))⟩)
    rw [if_neg hlt]
    by_cases hid : id = call.msgId
    · rw [hid, Nat.sub_self]
      rcases htail with rfl | ⟨rfl, -⟩
      · rcases hmessage : call.message with _ | m
        · exact .inr (.inl ⟨rfl, hasked _ hbeyond
            ((call.lt_announcedBelow hgives _).2 (.inr ⟨rfl, hmessage⟩))⟩)
        · refine .inr (.inr ⟨⟨m, rfl⟩, ?_, .inl rfl⟩)
          rw [hmessage]
          rfl
      · exact .inl rfl
    · refine .inl (List.getElem?_eq_none ?_)
      omega
  · intro hsome hhole
    rw [Hole, hslots, if_neg (Nat.not_lt.2 hbeyond), if_neg (Nat.lt_irrefl _), Nat.sub_self]
      at hhole
    rcases htail with rfl | ⟨-, hnone⟩
    · rw [Option.some.inj hhole] at hsome
      cases hsome
    · rw [hnone] at hsome
      cases hsome
  · intro msgId hmem
    obtain ⟨hle, hlt⟩ := (hrtx msgId).1 hmem
    obtain ⟨hpast, hslot⟩ := hs.slotOf_beyond hle
    rw [call.lt_announcedBelow hgives] at hlt
    refine ⟨hpast, hslot, by omega, ?_⟩
    rintro ⟨hsome, hid | ⟨hfirst, -⟩⟩
    · rcases hlt with hlt | ⟨-, hnone⟩
      · omega
      · rw [hnone] at hsome
        cases hsome
    · exact hs.started hfirst

/-- What is released after the message of a call has its slot, or its id is lost. -/
theorem Released.effect {t : ReceiverBuffer M} (hreleased : Released t s')
    (hpast : ∀ id, t.Past id ↔ s.Past id)
    (hslot : ∀ id, ¬ s.Brings call id → t.slotOf id = s.slotOf id)
    (hbrought : ∀ id, s.Brings call id → ¬ t.Hole id)
    (hlost : ∀ id, t.Lost id ↔ s.Lost id ∨ call.GivesUp id) : Effect s s' call [] where
  hole := by
    intro id hhole
    have hnot : ¬ s'.Past id := fun hnow => not_hole_of_past hnow hhole
    rw [Hole, hreleased.slot id hnot] at hhole
    have hbrings : ¬ s.Brings call id := fun hbrings => hbrought id hbrings hhole
    rw [hslot id hbrings] at hhole
    exact ⟨hbrings, .inl hhole⟩
  hole_lost := by
    intro id hhole hgone
    rcases hreleased.lost_keep id ((hlost id).2 hgone) with hkept | hnow
    · exact hkept
    · exact absurd hhole (not_hole_of_past hnow)
  lost_sub := fun id hgone => (hlost id).1 (hreleased.lost_sub id hgone)
  missing := by
    intro id hmissing hbrings hgone
    have hnot : ¬ t.Past id := fun hbefore => hmissing.1 ((hpast id).1 hbefore)
    have hempty : ¬ t.Filled id := by
      rintro ⟨m, hm⟩
      rw [hslot id hbrings] at hm
      exact hmissing.2 ⟨m, hm⟩
    have hnow : ¬ s'.Past id := by
      intro hnow
      rcases hgone with hgone | hgone
      · rcases hreleased.released id hnot hnow with hfilled | hgone'
        · exact hempty hfilled
        · exact hgone ((hlost id).1 hgone')
      · exact hempty (hreleased.lost_past id hgone hnot hnow)
    exact ⟨hnow, fun hfilled => hempty ((hreleased.filled hnow).1 hfilled)⟩
  requested := List.forall_mem_nil _

theorem Window.not_brings (hs : s.Window) {id : Nat} (hne : id ≠ call.msgId) :
    ¬ s.Brings call id := by
  rintro ⟨-, hid | ⟨hfirst, -⟩⟩
  · exact hne hid
  · exact hs.started hfirst

theorem Grown.window_effect (hgrown : Grown s s' call rtx) (hs : s.Window)
    (hgives : ∀ id, ¬ call.GivesUp id) : Effect s s' call rtx :=
  hgrown.effect (fun hfirst => absurd hfirst hs.started) hgives

theorem Grown.sound (hgrown : Grown s s' call rtx) (hs : s.Sound) (hs' : s'.Window) :
    s'.Sound := by
  refine ⟨.inr hs', ?_⟩
  intro id hlost
  rw [Lost, hgrown.lost] at hlost
  exact hs.lost_lt id hlost

theorem Window.store (hs : s.Window) (m : M) : (s.store m).Window := by
  refine ⟨?_, hs.used_le, ?_⟩
  · simp only [ReceiverBuffer.store, List.length_set]
    exact hs.first_le
  · simp only [ReceiverBuffer.store, List.length_set]
    exact hs.last_lt

theorem Window.slotOf_store (hs : s.Window) {m : M} (hhole : s.Hole (getId m).toNat) (id : Nat) :
    (s.store m).slotOf id = if id = (getId m).toNat then some (some m) else s.slotOf id := by
  obtain ⟨hlate, hrange⟩ := hs.slotOf_eq_some hhole
  have hfirst := hs.first_le
  have hstored := hs.store m
  unfold frontier at hrange
  by_cases hpast : id ≤ s.lastSent
  · have hnone : s.slotOf id = none := if_pos ((hs.past_iff id).2 hpast)
    rw [if_neg (by omega), hnone]
    exact if_pos ((hstored.past_iff id).2 hpast)
  · have hlt := Nat.lt_of_not_le hpast
    rw [hstored.slotOf_eq hlt, hs.slotOf_eq hlt]
    simp only [ReceiverBuffer.store]
    by_cases hid : id = (getId m).toNat
    · rw [if_pos hid, hid, Nat.add_comm]
      exact List.getElem?_set_self (by omega)
    · rw [if_neg hid]
      exact List.getElem?_set_ne (by omega)

theorem Sound.store (hs : s.Sound) (hwindow : s.Window) (m : M) : (s.store m).Sound :=
  ⟨.inr (hwindow.store m), hs.lost_lt⟩

/-- The message has its slot, and what can be released is released. -/
theorem Released.filled_effect {m : M} (hs : s.Window) (hhole : s.Hole (getId m).toNat)
    (hreleased : Released (s.store m) s') : Effect s s' (.received m) [] := by
  have hslots := hs.slotOf_store hhole
  refine hreleased.effect (fun _ => Iff.rfl) ?_ ?_ ?_
  · intro id hbrings
    rw [hslots, if_neg]
    rintro rfl
    exact hbrings ⟨rfl, .inl rfl⟩
  · intro id hbrings hstill
    obtain rfl : id = (getId m).toNat := by
      by_contra hne
      exact hs.not_brings hne hbrings
    rw [Hole, hslots, if_pos rfl] at hstill
    cases hstill
  · intro id
    exact ⟨.inl, fun hgone => hgone.resolve_right fun hgives => hgives⟩

/-- A message that nothing is missing before. -/
theorem Effect.inOrder {m : M} (hempty : s.buffer = [])
    (hnext : s.lastSent = USIZE_MAX ∨ (getId m).toNat = s.lastSent + 1) :
    Effect s { s with lastSent := (getId m).toNat } (.received m) [] := by
  have hslots : ∀ id, slotOf { s with lastSent := (getId m).toNat } id = none := by
    intro id
    unfold slotOf
    split
    next => rfl
    next => simp only [hempty, List.getElem?_nil]
  constructor
  · intro id hhole
    rw [Hole, hslots] at hhole
    cases hhole
  · intro id hhole
    rw [Hole, hslots] at hhole
    cases hhole
  · exact fun id hlost => .inl hlost
  · intro id hmissing hbrings _
    refine missing_of_slotOf ?_ (.inl (hslots id))
    rintro ⟨-, hle⟩
    simp only [] at hle
    by_cases hstarted : s.lastSent = USIZE_MAX
    · exact hbrings ⟨rfl, .inr ⟨hstarted, hle⟩⟩
    · have hid := hnext.resolve_left hstarted
      by_cases hsame : id = (getId m).toNat
      · exact hbrings ⟨rfl, .inl hsame⟩
      · exact hmissing.1 ⟨hstarted, by omega⟩
  · exact List.forall_mem_nil _

/-- A beacon for an id that nothing is missing before: the id is asked for. -/
theorem Effect.announced {msgId : UInt32} (hempty : s.buffer = [])
    (hnext : s.lastSent = USIZE_MAX ∨ msgId.toNat = s.lastSent + 1) :
    Effect s s (.beacon msgId) [msgId] := by
  have hslot : s.slotOf msgId.toNat = none := by
    unfold slotOf
    split
    next => rfl
    next => rw [hempty, List.getElem?_nil]
  have hpast : ¬ s.Past msgId.toNat := by
    rintro ⟨hstarted, hle⟩
    have hid := hnext.resolve_left hstarted
    omega
  have hbrings : ∀ id, ¬ s.Brings (.beacon msgId) id := by
    rintro id ⟨hsome, -⟩
    cases hsome
  refine Grown.effect ⟨fun _ => Iff.rfl, rfl, fun _ _ hslot => hslot, fun _ hnone => .inl hnone,
    ?_, ?_⟩ (fun _ => rfl) (fun _ hgives => hgives)
  · intro hsome
    cases hsome
  · intro other hmem
    rw [List.mem_singleton] at hmem
    rw [hmem]
    exact ⟨hpast, hslot, Nat.le_refl _, hbrings _⟩

/-- From a message that nothing is missing before, ids are being delivered. -/
theorem Sound.delivered (hs : s.Sound) (hempty : s.buffer = []) (m : M) :
    Sound { s with lastSent := (getId m).toNat } := by
  have hfirst : s.firstEntry = 0 := by
    rcases hs.phase with hstart | hwindow
    · exact hstart.firstEntry_eq
    · exact hwindow.firstEntry_eq hempty
  refine ⟨.inr ⟨?_, ?_, ?_⟩, hs.lost_lt⟩
  · simp only [hfirst, Nat.zero_le]
  · simp only [hfirst, Nat.zero_le]
  · simp only [hempty, List.length_nil, Nat.zero_sub]
    exact (getId m).toNat_lt

theorem Move.effect (hs : s.Sound) (hmove : Move build s call (out, rtx) s') :
    s'.Sound ∧ Effect s s' call rtx := by
  cases hmove with
  | @delivered m hempty hnext => exact ⟨hs.delivered hempty m, .inOrder hempty hnext⟩
  | announced hempty hnext => exact ⟨hs, .announced hempty hnext⟩
  | ignored hwindow hgives _ hbrought =>
      exact ⟨hs, (Grown.refl hbrought).window_effect hwindow hgives⟩
  | grown hwindow hgives hbeyond _ htail =>
      obtain ⟨hs', hgrown⟩ := hwindow.grown_extended hgives hbeyond htail
      exact ⟨hgrown.sound hs hs', hgrown.window_effect hwindow hgives⟩
  | @filled m _ _ hwindow hhole hrelease =>
      obtain ⟨hs', hreleased, -⟩ := (hs.store hwindow m).releaseMsgs hrelease
      exact ⟨hs', hreleased.filled_effect hwindow hhole⟩
  | @givenUp msgId _ _ hrelease =>
      obtain ⟨hs', hreleased, -⟩ := (hs.insert_lost msgId).releaseMsgs hrelease
      refine ⟨hs', hreleased.effect (fun _ => Iff.rfl) (fun _ _ => rfl) ?_ (lost_insert s msgId)⟩
      rintro id ⟨hsome, -⟩
      cases hsome

/-- One call, if it returns. -/
theorem Sound.handle (hs : s.Sound) (hrun : s.handle build call = .ok ((out, rtx), s')) :
    s'.Sound ∧ Effect s s' call rtx :=
  (hs.move hrun).effect hs

end Effects

end ReceiverBuffer

end Slim
