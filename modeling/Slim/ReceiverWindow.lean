import Slim.ReceiverBufferOrder

/-!
# The window of the receive buffer

The slots in use are a window of ids that begins behind `lastSent`.  What a call does is
said id by id: which ids are past, which have a slot, whether the slot is taken, and
which ids are lost.
-/

namespace Slim

open Machine

namespace ReceiverBuffer

variable {M : Type}

/-! ## Ids and slots -/

/-- The id is at or below `lastSent`; no id is before the first message. -/
def Past (s : ReceiverBuffer M) (id : Nat) : Prop := s.lastSent ≠ USIZE_MAX ∧ id ≤ s.lastSent

instance (s : ReceiverBuffer M) (id : Nat) : Decidable (s.Past id) :=
  inferInstanceAs (Decidable (_ ∧ _))

/-- The slot of an id, if it has one. -/
def slotOf (s : ReceiverBuffer M) (id : Nat) : Option (Option M) :=
  if s.Past id then none else s.buffer[s.firstEntry + (id - (s.lastSent + 1))]?

/-- The first id behind the window. -/
def frontier (s : ReceiverBuffer M) : Nat := s.lastSent + 1 + (s.buffer.length - s.firstEntry)

/-- The id has a slot, and its message has not come. -/
def Hole (s : ReceiverBuffer M) (id : Nat) : Prop := s.slotOf id = some none

/-- The message with the id waits in its slot. -/
def Filled (s : ReceiverBuffer M) (id : Nat) : Prop := ∃ m, s.slotOf id = some (some m)

/-- The message with the id was neither received nor given up. -/
def Missing (s : ReceiverBuffer M) (id : Nat) : Prop := ¬ s.Past id ∧ ¬ s.Filled id

def Lost (s : ReceiverBuffer M) (id : Nat) : Prop := s.lostMsgs.contains id = true

/-- No message can be released from the front: no slot is in use, or the first one is a hole. -/
def HoleFirst (s : ReceiverBuffer M) : Prop :=
  s.buffer = [] ∨ s.buffer[s.firstEntry]? = some none

/-- Messages wait only in slots that are in use. -/
def UsedUp (s : ReceiverBuffer M) : Prop :=
  ∀ j m, s.buffer[j]? = some (some m) → s.firstEntry ≤ j

theorem not_hole_of_past {s : ReceiverBuffer M} {id : Nat} (hpast : s.Past id) : ¬ s.Hole id := by
  intro hhole
  rw [Hole, slotOf, if_pos hpast] at hhole
  cases hhole

theorem missing_of_slotOf {s : ReceiverBuffer M} {id : Nat} (hpast : ¬ s.Past id)
    (hslot : s.slotOf id = none ∨ s.slotOf id = some none) : s.Missing id := by
  refine ⟨hpast, ?_⟩
  rintro ⟨m, hm⟩
  rcases hslot with hslot | hslot
  · rw [hslot] at hm
    cases hm
  · rw [hslot] at hm
    cases hm

/-- No message has come yet. -/
structure Idle (s : ReceiverBuffer M) : Prop where
  lastSent_eq : s.lastSent = USIZE_MAX
  firstEntry_eq : s.firstEntry = 0
  buffer_eq : s.buffer = []

/-- Ids are being delivered, and all slots are for ids of 32 bits. -/
structure Window (s : ReceiverBuffer M) : Prop where
  first_le : s.firstEntry ≤ s.buffer.length
  used_le : s.firstEntry ≤ s.lastSent
  last_lt : s.lastSent + (s.buffer.length - s.firstEntry) < 2 ^ 32

/-- A buffer from its creation on. -/
structure Sound (s : ReceiverBuffer M) : Prop where
  phase : s.Idle ∨ s.Window
  lost_lt : ∀ id, s.Lost id → id < 2 ^ 32

theorem sound_default : (default : ReceiverBuffer M).Sound :=
  ⟨.inl ⟨rfl, rfl, rfl⟩, fun _ hlost => nomatch hlost⟩

section Slots

variable {s : ReceiverBuffer M} {id : Nat}

theorem Idle.not_past (hs : s.Idle) (id : Nat) : ¬ s.Past id := fun hpast => hpast.1 hs.lastSent_eq

theorem Idle.slotOf_eq (hs : s.Idle) (id : Nat) : s.slotOf id = none := by
  rw [slotOf, if_neg (hs.not_past id), hs.buffer_eq]
  rfl

theorem Window.started (hs : s.Window) : s.lastSent ≠ USIZE_MAX := by
  have hlast := hs.last_lt
  unfold USIZE_MAX
  omega

theorem Window.past_iff (hs : s.Window) (id : Nat) : s.Past id ↔ id ≤ s.lastSent :=
  ⟨fun hpast => hpast.2, fun hle => ⟨hs.started, hle⟩⟩

theorem Window.slotOf_eq (hs : s.Window) (hlt : s.lastSent < id) :
    s.slotOf id = s.buffer[s.firstEntry + (id - (s.lastSent + 1))]? := by
  apply if_neg
  rw [hs.past_iff]
  omega

theorem frontier_of_empty (hempty : s.buffer = []) : s.frontier = s.lastSent + 1 := by
  rw [frontier, hempty, List.length_nil, Nat.zero_sub, Nat.add_zero]

theorem lastSent_lt_frontier (s : ReceiverBuffer M) : s.lastSent < s.frontier := by
  unfold frontier
  omega

/-- An id beyond the window. -/
theorem Window.slotOf_beyond (hs : s.Window) (hbeyond : s.frontier ≤ id) :
    ¬ s.Past id ∧ s.slotOf id = none := by
  have hfirst := hs.first_le
  unfold frontier at hbeyond
  refine ⟨by rw [hs.past_iff]; omega, ?_⟩
  rw [hs.slotOf_eq (by omega), List.getElem?_eq_none (by omega)]

/-- An id with a slot lies in the window. -/
theorem Window.slotOf_eq_some (hs : s.Window) {slot : Option M}
    (hslot : s.slotOf id = some slot) : s.lastSent < id ∧ id < s.frontier := by
  constructor
  · by_contra hle
    rw [slotOf, if_pos ((hs.past_iff id).2 (Nat.le_of_not_lt hle))] at hslot
    cases hslot
  · by_contra hle
    rw [(hs.slotOf_beyond (Nat.le_of_not_lt hle)).2] at hslot
    cases hslot

theorem Window.firstEntry_eq (hs : s.Window) (hempty : s.buffer = []) : s.firstEntry = 0 := by
  have hle := hs.first_le
  rw [hempty] at hle
  exact Nat.le_zero.1 hle

theorem Window.add_one_lastSent (hs : s.Window) (build : Build) :
    build.add s.lastSent 1 = .ok (s.lastSent + 1) := by
  have hlast := hs.last_lt
  exact build.add_ok (by unfold USIZE_MAX; omega)

theorem Window.add_one_firstEntry (hs : s.Window) (build : Build) :
    build.add s.firstEntry 1 = .ok (s.firstEntry + 1) := by
  have hlast := hs.last_lt
  have hused := hs.used_le
  exact build.add_ok (by unfold USIZE_MAX; omega)

theorem lost_insert (s : ReceiverBuffer M) (msgId : UInt32) (id : Nat) :
    Lost { s with lostMsgs := s.lostMsgs.insert msgId.toNat () } id ↔
      s.Lost id ∨ msgId.toNat = id := by
  rw [Lost, HashMap.contains_insert, Bool.or_eq_true, decide_eq_true_eq, or_comm]
  exact or_congr_right eq_comm

theorem Sound.insert_lost (hs : s.Sound) (msgId : UInt32) :
    Sound { s with lostMsgs := s.lostMsgs.insert msgId.toNat () } := by
  refine ⟨?_, ?_⟩
  · rcases hs.phase with hstart | hwindow
    · exact .inl ⟨hstart.lastSent_eq, hstart.firstEntry_eq, hstart.buffer_eq⟩
    · exact .inr ⟨hwindow.first_le, hwindow.used_le, hwindow.last_lt⟩
  · intro id hid
    rcases (lost_insert s msgId id).1 hid with hid | hid
    · exact hs.lost_lt id hid
    · rw [← hid]
      exact msgId.toNat_lt

end Slots

/-! ## Releasing -/

/-- Ids are released from the front: they were taken or lost, the others keep their slot,
    and a lost id stays lost until it is released as such. -/
structure Released (s s' : ReceiverBuffer M) : Prop where
  past : ∀ id, s.Past id → s'.Past id
  slot : ∀ id, ¬ s'.Past id → s'.slotOf id = s.slotOf id
  released : ∀ id, ¬ s.Past id → s'.Past id → s.Filled id ∨ s.Lost id
  lost_sub : ∀ id, s'.Lost id → s.Lost id
  lost_keep : ∀ id, s.Lost id → s'.Lost id ∨ s'.Past id
  lost_past : ∀ id, s'.Lost id → ¬ s.Past id → s'.Past id → s.Filled id

theorem Released.refl (s : ReceiverBuffer M) : Released s s where
  past := fun _ hpast => hpast
  slot := fun _ _ => rfl
  released := fun _ hnot hpast => absurd hpast hnot
  lost_sub := fun _ hlost => hlost
  lost_keep := fun _ hlost => .inl hlost
  lost_past := fun _ _ hnot hpast => absurd hpast hnot

theorem Released.filled {s s' : ReceiverBuffer M} (hs : Released s s') {id : Nat}
    (hpast : ¬ s'.Past id) : s'.Filled id ↔ s.Filled id := by
  simp only [Filled, hs.slot id hpast]

theorem Released.trans {s t u : ReceiverBuffer M} (hst : Released s t) (htu : Released t u) :
    Released s u where
  past := fun id hpast => htu.past id (hst.past id hpast)
  slot := by
    intro id hnot
    have ht : ¬ t.Past id := fun hpast => hnot (htu.past id hpast)
    rw [htu.slot id hnot, hst.slot id ht]
  released := by
    intro id hnot hpast
    by_cases ht : t.Past id
    · exact hst.released id hnot ht
    · rcases htu.released id ht hpast with hfilled | hlost
      · exact .inl ((hst.filled ht).1 hfilled)
      · exact .inr (hst.lost_sub id hlost)
  lost_sub := fun id hlost => hst.lost_sub id (htu.lost_sub id hlost)
  lost_keep := by
    intro id hlost
    rcases hst.lost_keep id hlost with hkept | hpast
    · exact htu.lost_keep id hkept
    · exact .inr (htu.past id hpast)
  lost_past := by
    intro id hlost hnot hpast
    by_cases ht : t.Past id
    · exact hst.lost_past id (htu.lost_sub id hlost) hnot ht
    · exact (hst.filled ht).1 (htu.lost_past id hlost ht hpast)

section Release

variable {s : ReceiverBuffer M}

/-- One round: the next id is taken or lost, and the slots behind it stay. -/
theorem released_next {s' : ReceiverBuffer M} {next : Nat}
    (hpast : ∀ id, s'.Past id ↔ s.Past id ∨ id = next)
    (hslot : ∀ id, ¬ s'.Past id → s'.slotOf id = s.slotOf id)
    (hnext : s.Filled next ∧ s'.lostMsgs = s.lostMsgs ∨
      s.Lost next ∧ s'.lostMsgs = s.lostMsgs.remove next) : Released s s' where
  past := fun id hold => (hpast id).2 (.inl hold)
  slot := hslot
  released := by
    intro id hnot hnew
    rw [((hpast id).1 hnew).resolve_left hnot]
    rcases hnext with ⟨hfilled, -⟩ | ⟨hlost, -⟩
    · exact .inl hfilled
    · exact .inr hlost
  lost_sub := by
    intro id hlost
    rcases hnext with ⟨-, hsame⟩ | ⟨-, hremoved⟩
    · rwa [Lost, hsame] at hlost
    · rw [Lost, hremoved] at hlost
      exact contains_of_contains_remove s.lostMsgs _ id hlost
  lost_keep := by
    intro id hlost
    rcases hnext with ⟨-, hsame⟩ | ⟨-, hremoved⟩
    · exact .inl (by rwa [Lost, hsame])
    · by_cases hid : id = next
      · exact .inr ((hpast id).2 (.inr hid))
      · left
        rw [Lost, hremoved, HashMap.contains_remove, Bool.and_eq_true]
        exact ⟨by simpa using hid, hlost⟩
  lost_past := by
    intro id hlost hnot hnew
    have hid := ((hpast id).1 hnew).resolve_left hnot
    rcases hnext with ⟨hfilled, -⟩ | ⟨-, hremoved⟩
    · rwa [hid]
    · rw [Lost, hremoved, HashMap.contains_remove, Bool.and_eq_true] at hlost
      simp [hid] at hlost

theorem Window.past_succ {s' : ReceiverBuffer M} (hs : s.Window) (hs' : s'.Window)
    (hlast : s'.lastSent = s.lastSent + 1) (id : Nat) :
    s'.Past id ↔ s.Past id ∨ id = s.lastSent + 1 := by
  rw [hs.past_iff, hs'.past_iff]
  omega

/-- One round of the first loop: the first used slot is cleared, and its id is taken or lost. -/
theorem Window.round (hs : s.Window) (hlt : s.firstEntry < s.buffer.length)
    {lostMsgs : HashSet Nat} {buffer : List (Option M)} (hlength : buffer.length = s.buffer.length)
    (hkept : ∀ j, j ≠ s.firstEntry → buffer[j]? = s.buffer[j]?)
    (hcleared : ∀ m, buffer[s.firstEntry]? ≠ some (some m))
    (hnext : s.Filled (s.lastSent + 1) ∧ lostMsgs = s.lostMsgs ∨
      s.Lost (s.lastSent + 1) ∧ lostMsgs = s.lostMsgs.remove (s.lastSent + 1)) :
    let next : ReceiverBuffer M := ⟨s.lastSent + 1, s.firstEntry + 1, lostMsgs, buffer⟩
    next.Window ∧ Released s next ∧ (s.UsedUp → next.UsedUp) := by
  intro next
  have hlast := hs.last_lt
  have hwindow : next.Window := by
    refine ⟨?_, Nat.succ_le_succ hs.used_le, ?_⟩
    · exact hlength ▸ hlt
    · simp only [next, hlength]
      omega
  refine ⟨hwindow, released_next (hs.past_succ hwindow rfl) ?_ hnext, ?_⟩
  · intro id hid
    rw [hwindow.past_iff, Nat.not_le] at hid
    rw [hwindow.slotOf_eq hid, hs.slotOf_eq (Nat.lt_of_succ_lt hid)]
    simp only [next] at hid ⊢
    rw [hkept _ (by omega)]
    congr 1
    omega
  · intro hused j m hm
    have hne : j ≠ s.firstEntry := by
      rintro rfl
      exact hcleared m hm
    rw [show next.buffer[j]? = s.buffer[j]? from hkept j hne] at hm
    exact Nat.lt_of_le_of_ne (hused j m hm) hne.symm

/-- Where releasing stops: the next id is neither there nor lost. -/
structure Stopped (s : ReceiverBuffer M) : Prop where
  head : s.HoleFirst
  next : ¬ s.Lost (s.lastSent + 1)

/-- The first loop goes on until all slots are used up or the next id is neither there nor
    lost. -/
theorem releaseBuffered_released (build : Build) :
    ∀ (fuel : Nat) (s : ReceiverBuffer M) (ret out : List (Option M)) (s' : ReceiverBuffer M),
      s.Window → s.buffer.length - s.firstEntry ≤ fuel →
      releaseBuffered build fuel s.firstEntry s ret = .ok (out, s') →
      s'.Window ∧ Released s s' ∧ (s'.firstEntry = s'.buffer.length ∨ s'.Stopped) ∧
        (s.UsedUp → s'.UsedUp) := by
  intro fuel
  induction fuel with
  | zero =>
      intro s ret out s' hs hfuel hrun
      cases hrun
      have hfirst := hs.first_le
      exact ⟨hs, .refl s, .inl (by omega), id⟩
  | succ fuel ih =>
      intro s ret out s' hs hfuel hrun
      have hfirst := hs.first_le
      have hused := hs.used_le
      have hlast := hs.last_lt
      rcases hslot : s.buffer[s.firstEntry]? with _ | _ | m
      · have hlength := List.getElem?_eq_none_iff.1 hslot
        simp only [releaseBuffered, hslot] at hrun
        cases hrun
        exact ⟨hs, .refl s, .inl (by omega), id⟩
      · have hlt : s.firstEntry < s.buffer.length := (List.getElem?_eq_some_iff.1 hslot).1
        simp only [releaseBuffered, hslot, hs.add_one_lastSent, hs.add_one_firstEntry, bind_ok]
          at hrun
        split at hrun
        next hlost =>
          obtain ⟨hnext, hround, hround'⟩ := hs.round hlt rfl (fun _ _ => rfl)
            (fun m hm => by rw [hslot] at hm; cases hm) (.inr ⟨hlost, rfl⟩)
          obtain ⟨hs', hreleased, hend, hkept⟩ := ih _ _ _ _ hnext (by simp only []; omega) hrun
          exact ⟨hs', hround.trans hreleased, hend, fun hused => hkept (hround' hused)⟩
        next hlost =>
          cases hrun
          exact ⟨hs, .refl s, .inr ⟨.inr hslot, hlost⟩, id⟩
      · have hlt : s.firstEntry < s.buffer.length := (List.getElem?_eq_some_iff.1 hslot).1
        simp only [releaseBuffered, hslot, hs.add_one_lastSent, hs.add_one_firstEntry, bind_ok]
          at hrun
        have hfilled : s.Filled (s.lastSent + 1) := by
          refine ⟨m, ?_⟩
          rw [hs.slotOf_eq (Nat.lt_succ_self _), Nat.sub_self]
          exact hslot
        have hcleared : ∀ other, (s.buffer.set s.firstEntry none)[s.firstEntry]? ≠
            some (some other) := by
          intro other hother
          rw [List.getElem?_set_self hlt] at hother
          cases hother
        obtain ⟨hnext, hround, hround'⟩ := hs.round hlt List.length_set
          (fun j hne => List.getElem?_set_ne hne.symm) hcleared (.inl ⟨hfilled, rfl⟩)
        obtain ⟨hs', hreleased, hend, hkept⟩ := ih _ _ _ _ hnext
          (by simp only [List.length_set]; omega) hrun
        exact ⟨hs', hround.trans hreleased, hend, fun hused => hkept (hround' hused)⟩

/-- No slot is in use when the buffer is dropped. -/
theorem Window.resetIfEmpty (hs : s.Window) :
    s.resetIfEmpty.Window ∧ Released s s.resetIfEmpty := by
  unfold ReceiverBuffer.resetIfEmpty
  split
  next hused =>
    have hempty : Window ⟨s.lastSent, 0, s.lostMsgs, ([] : List (Option M))⟩ := by
      have hlast := hs.last_lt
      exact ⟨Nat.le_refl 0, Nat.zero_le _, by simp only [List.length_nil]; omega⟩
    refine ⟨hempty, ?_⟩
    have hslots : ∀ id, slotOf ⟨s.lastSent, 0, s.lostMsgs, ([] : List (Option M))⟩ id =
        s.slotOf id := by
      intro id
      unfold slotOf
      by_cases hpast : s.Past id
      · rw [if_pos hpast, if_pos (show Past ⟨s.lastSent, 0, s.lostMsgs, []⟩ id from hpast)]
      · rw [if_neg hpast, if_neg (show ¬ Past ⟨s.lastSent, 0, s.lostMsgs, []⟩ id from hpast),
          List.getElem?_nil, List.getElem?_eq_none (by omega)]
    exact ⟨fun _ hpast => hpast, fun id _ => hslots id, fun _ hnot hpast => absurd hpast hnot,
      fun _ hlost => hlost, fun _ hlost => .inl hlost, fun _ _ hnot hpast => absurd hpast hnot⟩
  next => exact ⟨hs, .refl s⟩

/-- Before the first message a release build takes `0` for the next id. -/
theorem Idle.release_zero (hs : s.Idle) (hlost : s.Lost 0) :
    Window { s with lastSent := 0, lostMsgs := s.lostMsgs.remove 0 } ∧
      Released s { s with lastSent := 0, lostMsgs := s.lostMsgs.remove 0 } := by
  have hwindow : Window { s with lastSent := 0, lostMsgs := s.lostMsgs.remove 0 } := by
    refine ⟨?_, ?_, ?_⟩
    · simp only [hs.firstEntry_eq, Nat.zero_le]
    · simp only [hs.firstEntry_eq, Nat.le_refl]
    · simp only [hs.buffer_eq, List.length_nil]
      omega
  refine ⟨hwindow, released_next ?_ ?_ (.inr ⟨hlost, rfl⟩)⟩
  · intro id
    rw [hwindow.past_iff, Nat.le_zero]
    exact ⟨.inr, fun hid => hid.resolve_left (hs.not_past id)⟩
  · intro id hid
    rw [hwindow.past_iff, Nat.not_le] at hid
    rw [hwindow.slotOf_eq hid, hs.slotOf_eq]
    simp only [hs.buffer_eq, List.getElem?_nil]

/-- An id that is next in line and lost, with no slot in use. -/
theorem Window.release_lost (hs : s.Window) (hempty : s.buffer = [])
    (hlost : s.Lost (s.lastSent + 1)) (hbound : s.lastSent + 1 < 2 ^ 32) :
    Window { s with lastSent := s.lastSent + 1, lostMsgs := s.lostMsgs.remove (s.lastSent + 1) } ∧
      Released s
        { s with lastSent := s.lastSent + 1, lostMsgs := s.lostMsgs.remove (s.lastSent + 1) } := by
  have hwindow : Window
      { s with lastSent := s.lastSent + 1, lostMsgs := s.lostMsgs.remove (s.lastSent + 1) } := by
    refine ⟨hs.first_le, Nat.le_succ_of_le hs.used_le, ?_⟩
    simp only [hempty, List.length_nil, Nat.zero_sub]
    exact hbound
  refine ⟨hwindow, released_next (hs.past_succ hwindow rfl) ?_ (.inr ⟨hlost, rfl⟩)⟩
  intro id hid
  rw [hwindow.past_iff, Nat.not_le] at hid
  rw [hwindow.slotOf_eq hid, hs.slotOf_eq (Nat.lt_of_succ_lt hid)]
  simp only [hempty, List.getElem?_nil]

/-- One round of the last loop: the buffer is empty, and the next id is lost. -/
theorem Sound.lost_round (hs : s.Sound) (hidle : s.buffer = [] ∨ ¬ s.Lost (s.lastSent + 1))
    {build : Build} {next : Nat} (hnext : build.add s.lastSent 1 = .ok next)
    (hlost : s.Lost next) :
    Window { s with lastSent := next, lostMsgs := s.lostMsgs.remove next } ∧
      Released s { s with lastSent := next, lostMsgs := s.lostMsgs.remove next } ∧
      s.buffer = [] := by
  rcases hs.phase with hstart | hwindow
  · -- only a release build goes on from the initial `usize::MAX`
    obtain rfl : next = 0 := by
      rw [hstart.lastSent_eq] at hnext
      cases build with
      | debug => cases hnext
      | release =>
          cases hnext
          rfl
    obtain ⟨hwindow, hreleased⟩ := hstart.release_zero hlost
    exact ⟨hwindow, hreleased, hstart.buffer_eq⟩
  · rw [hwindow.add_one_lastSent] at hnext
    cases hnext
    have hempty := hidle.resolve_right fun hnot => hnot hlost
    obtain ⟨hwindow, hreleased⟩ := hwindow.release_lost hempty hlost (hs.lost_lt _ hlost)
    exact ⟨hwindow, hreleased, hempty⟩

/-- The last loop.  With more rounds than there are lost ids it stops because the next id is
    not lost. -/
theorem releaseLost_released (build : Build) :
    ∀ (fuel : Nat) (s : ReceiverBuffer M) (ret out : List (Option M)) (s' : ReceiverBuffer M),
      s.Sound → (s.buffer = [] ∨ ¬ s.Lost (s.lastSent + 1)) →
      s.lostMsgs.len < fuel → releaseLost build fuel s ret = .ok (out, s') →
      s'.Sound ∧ Released s s' ∧ (s.HoleFirst → s'.Stopped) ∧ (s.UsedUp → s'.UsedUp) := by
  intro fuel
  induction fuel with
  | zero =>
      intro s ret out s' hs _ hfuel
      exact absurd hfuel (Nat.not_lt_zero _)
  | succ fuel ih =>
      intro s ret out s' hs hidle hfuel hrun
      obtain ⟨next, hnext, hrun⟩ := bind_eq_ok hrun
      split at hrun
      next hlost =>
        obtain ⟨hwindow, hreleased, hempty⟩ := hs.lost_round hidle hnext hlost
        have hsound : Sound { s with lastSent := next, lostMsgs := s.lostMsgs.remove next } :=
          ⟨.inr hwindow, fun id hid => hs.lost_lt id (hreleased.lost_sub id hid)⟩
        have hlen := HashMap.len_remove hlost
        obtain ⟨hs', hrest, hend, hkept⟩ := ih _ _ _ _ hsound (.inl hempty)
          (by simp only []; omega) hrun
        exact ⟨hs', hreleased.trans hrest, fun _ => hend (.inl hempty), hkept⟩
      next hlost =>
        cases hrun
        refine ⟨hs, .refl s, fun hhead => ⟨hhead, ?_⟩, id⟩
        rcases hs.phase with hstart | hwindow
        · -- `lastSent + 1` is beyond the ids
          intro hbeyond
          have hlt := hs.lost_lt _ hbeyond
          rw [hstart.lastSent_eq, USIZE_MAX] at hlt
          omega
        · rw [hwindow.add_one_lastSent] at hnext
          cases hnext
          exact hlost

theorem Sound.releaseMsgs (hs : s.Sound) {build : Build} {out : List (Option M)}
    {s' : ReceiverBuffer M} (hrun : s.releaseMsgs build = .ok (out, s')) :
    s'.Sound ∧ Released s s' ∧ s'.Stopped ∧ (s.UsedUp → s'.UsedUp) := by
  obtain ⟨⟨ret, middle⟩, hbuffered, hrun⟩ := bind_eq_ok hrun
  rcases hs.phase with hstart | hwindow
  · rw [hstart.buffer_eq] at hbuffered
    cases hbuffered
    have hsame : s.resetIfEmpty = s := by
      rw [ReceiverBuffer.resetIfEmpty, if_pos (by rw [hstart.firstEntry_eq, hstart.buffer_eq]; rfl),
        ← hstart.firstEntry_eq, ← hstart.buffer_eq]
    simp only [hsame] at hrun
    obtain ⟨hs', hreleased, hend, hkept⟩ := releaseLost_released build _ _ _ _ _ hs
      (.inl hstart.buffer_eq) (Nat.lt_succ_self _) hrun
    exact ⟨hs', hreleased, hend (.inl hstart.buffer_eq), hkept⟩
  · obtain ⟨hmiddle, hreleased, hend, hused⟩ :=
      releaseBuffered_released build _ _ _ _ _ hwindow (Nat.sub_le _ _) hbuffered
    obtain ⟨hreset, hdropped⟩ := hmiddle.resetIfEmpty
    have hboth := hreleased.trans hdropped
    obtain ⟨hidle, hhead, hdrop⟩ : (middle.resetIfEmpty.buffer = [] ∨
        ¬ middle.resetIfEmpty.Lost (middle.resetIfEmpty.lastSent + 1)) ∧
        middle.resetIfEmpty.HoleFirst ∧ (middle.UsedUp → middle.resetIfEmpty.UsedUp) := by
      unfold ReceiverBuffer.resetIfEmpty
      split
      · refine ⟨.inl rfl, .inl rfl, fun _ j m hm => ?_⟩
        cases hm
      next hne =>
        have hstopped := hend.resolve_left hne
        exact ⟨.inr hstopped.next, hstopped.head, id⟩
    obtain ⟨hs', hrest, hlast, hkept⟩ := releaseLost_released build _ _ _ _ _
      ⟨.inr hreset, fun id hid => hs.lost_lt id (hboth.lost_sub id hid)⟩ hidle
      (Nat.lt_succ_self _) hrun
    exact ⟨hs', hboth.trans hrest, hlast hhead, fun hold => hkept (hdrop (hused hold))⟩

end Release

end ReceiverBuffer

end Slim
