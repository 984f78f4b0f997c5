import Mathlib.Data.List.Nodup
import Slim.ReceiverHistory

/-!
# Which ids the receive buffer asks for

Before the first message the buffer only answers beacons; a loss declared then stops a
debug build.  From the first message on the ids asked for begin at the frontier of the
window.  So nothing is asked for that has come, nothing that is missing is left out, and an
id is asked for twice only if a beacon left it at the frontier.
-/

namespace Slim

open Machine

namespace ReceiverBuffer

/-! ## The beginning -/

section Beginning

variable {M : Type}

/-- A loss is declared before the first message. -/
def LossFirst : List (BufferCall M) → Prop
  | [] => False
  | .received _ :: _ => False
  | .beacon _ :: calls => LossFirst calls
  | .lost _ :: _ => True

/-- The calls from the first message on. -/
def sinceFirst (calls : List (BufferCall M)) : List (BufferCall M) :=
  calls.dropWhile fun call => call.message.isNone

theorem LossFirst.append {calls : List (BufferCall M)} (hloss : LossFirst calls)
    (more : List (BufferCall M)) : LossFirst (calls ++ more) := by
  induction calls with
  | nil => exact False.elim hloss
  | cons call rest ih =>
      cases call with
      | received m => exact False.elim hloss
      | beacon msgId => exact ih hloss
      | lost msgId => trivial

theorem sinceFirst_append (calls more : List (BufferCall M)) :
    sinceFirst (calls ++ more) =
      if (sinceFirst calls).isEmpty then sinceFirst more else sinceFirst calls ++ more :=
  List.dropWhile_append

/-- A loss declared while no message has come. -/
theorem lossFirst_concat {calls : List (BufferCall M)} (hnone : sinceFirst calls = [])
    (msgId : UInt32) : LossFirst (calls ++ [.lost msgId]) := by
  induction calls with
  | nil => trivial
  | cons call rest ih =>
      cases call with
      | received m => cases hnone
      | beacon other => exact ih hnone
      | lost other => trivial

theorem mem_sinceFirst {calls : List (BufferCall M)} {m : M} :
    .received m ∈ sinceFirst calls ↔ .received m ∈ calls := by
  induction calls with
  | nil => rfl
  | cons call rest ih =>
      cases call with
      | received other => rfl
      | beacon msgId =>
          rw [List.mem_cons, ← ih]
          simp [sinceFirst, BufferCall.message]
      | lost msgId =>
          rw [List.mem_cons, ← ih]
          simp [sinceFirst, BufferCall.message]

end Beginning

variable {M : Type} [Identified M]

/-- A beacon before the first message leaves the buffer as it is. -/
theorem handle_beacon (build : Build) (msgId : UInt32) :
    (default : ReceiverBuffer M).handle build (.beacon msgId) =
      .ok (([], [msgId]), default) := by
  simp only [handle, onBeaconMessage, internalOnReceivedMessage, waiting_default.isInOrder,
    bind_ok, if_true, UInt32.ofNat_toNat]

theorem handleAll_beacon (build : Build) (msgId : UInt32) (calls : List (BufferCall M)) :
    handleAll build default (.beacon msgId :: calls) = (do
      let (outputs, s) ← handleAll build default calls
      .ok (([], [msgId]) :: outputs, s)) := by
  rw [handleAll, handle_beacon]
  rfl

/-- A loss before the first message: `usize::MAX + 1` stops a debug build. -/
theorem handle_lost_debug (msgId : UInt32) :
    (default : ReceiverBuffer M).handle .debug (.lost msgId) = .error .overflow := by
  rfl

/-- A sequence that does not begin with a loss returns.  Until the first message the buffer
    stays as it is and releases nothing; from then on there is a history. -/
theorem handleAll_begin (build : Build) {calls : List (BufferCall M)} (hstart : ¬ LossFirst calls) :
    ∃ before after s, handleAll build default calls = .ok (before ++ after, s) ∧
      releasedItems before = [] ∧
      (sinceFirst calls = [] ∧ after = [] ∧ s = default ∨
        ∃ m rest, sinceFirst calls = .received m :: rest ∧
          History (getId m).toNat (.received m :: rest) after s) := by
  induction calls with
  | nil => exact ⟨[], [], default, rfl, rfl, .inl ⟨rfl, rfl, rfl⟩⟩
  | cons call rest ih =>
      cases call with
      | received m =>
          obtain ⟨outputs, s, hrun, hs⟩ := history_handleAll build m rest
          exact ⟨[], outputs, s, hrun, rfl, .inr ⟨m, rest, rfl, hs⟩⟩
      | beacon msgId =>
          obtain ⟨before, after, s, hrun, hreleased, hphase⟩ := ih hstart
          refine ⟨([], [msgId]) :: before, after, s, ?_, hreleased, hphase⟩
          simp only [handleAll_beacon, hrun, bind_ok, List.cons_append]
      | lost msgId => exact absurd trivial hstart

/-- The calls return in every build, so that no addition, subtraction or index is out of range,
    exactly if no loss is declared before the first message. -/
theorem arithmetic_total_iff (calls : List (BufferCall M)) :
    (∀ build, ∃ outputs s, handleAll build default calls = .ok (outputs, s)) ↔
      ¬ LossFirst calls := by
  constructor
  · intro hall
    obtain ⟨outputs, s, hrun⟩ := hall .debug
    clear hall
    induction calls generalizing outputs with
    | nil => exact id
    | cons call rest ih =>
        cases call with
        | received m => exact id
        | beacon msgId =>
            rw [handleAll_beacon] at hrun
            obtain ⟨⟨others, t⟩, hrest, hrun⟩ := bind_eq_ok hrun
            cases hrun
            exact ih others hrest
        | lost msgId =>
            rw [handleAll, handle_lost_debug] at hrun
            cases hrun
  · intro hstart build
    obtain ⟨before, after, s, hrun, -⟩ := handleAll_begin build hstart
    exact ⟨before ++ after, s, hrun⟩

/-- A beacon for 0 is answered by an error: its loss is declared before any message. -/
theorem loss_first_overflows :
    handleAll .debug (default : ReceiverBuffer UInt32) [.beacon 0, .lost 0] =
      .error .overflow := by
  rfl

/-! ## Nothing needless, nothing left out -/

/-- The highest id that a message or a beacon has. -/
def highest : List (BufferCall M) → Nat
  | [] => 0
  | .lost _ :: calls => highest calls
  | call :: calls => max call.msgId (highest calls)

/-- The id was released: the first message is the first item, and each item is for the id after
    that of the item before it. -/
def WasReleased (calls : List (BufferCall M)) (outputs : List (BufferOutput M)) (id : Nat) : Prop :=
  ∃ m rest, sinceFirst calls = .received m :: rest ∧ (getId m).toNat ≤ id ∧
    id < (getId m).toNat + (releasedItems outputs).length

section Requests

variable {first : Nat} {calls : List (BufferCall M)} {outputs : List (BufferOutput M)}
  {s : ReceiverBuffer M} {build : Build}

theorem exists_of_le_highest {id : Nat} (hpos : 0 < id) (hle : id ≤ highest calls) :
    (∃ m, .received m ∈ calls ∧ id ≤ (getId m).toNat) ∨
      ∃ msgId : UInt32, .beacon msgId ∈ calls ∧ id ≤ msgId.toNat := by
  induction calls with
  | nil => exact absurd hle (Nat.not_le.2 hpos)
  | cons call rest ih =>
      have hrest : id ≤ highest rest → (∃ m, .received m ∈ call :: rest ∧ id ≤ (getId m).toNat) ∨
          ∃ msgId : UInt32, .beacon msgId ∈ call :: rest ∧ id ≤ msgId.toNat := by
        intro hle
        apply Or.imp _ _ (ih hle)
        · rintro ⟨m, hm, hid⟩
          exact ⟨m, List.mem_cons_of_mem _ hm, hid⟩
        · rintro ⟨msgId, hm, hid⟩
          exact ⟨msgId, List.mem_cons_of_mem _ hm, hid⟩
      cases call with
      | received m =>
          by_cases hhere : id ≤ (getId m).toNat
          · exact .inl ⟨m, List.mem_cons_self, hhere⟩
          · simp only [highest, BufferCall.msgId] at hle
            exact hrest (by omega)
      | beacon msgId =>
          by_cases hhere : id ≤ msgId.toNat
          · exact .inr ⟨msgId, List.mem_cons_self, hhere⟩
          · simp only [highest, BufferCall.msgId] at hle
            exact hrest (by omega)
      | lost msgId => exact hrest hle

/-- An id that is known to exist and is not past is in the buffer or was asked for. -/
theorem History.stored_or_requested (hs : History first calls outputs s) {id : Nat}
    (hlt : s.lastSent < id) (hle : id ≤ highest calls) :
    s.Stored id ∨ ∃ msgId ∈ requestedIds outputs, msgId.toNat = id := by
  by_cases hbefore : id < s.frontier
  · obtain ⟨slot, hslot⟩ := hs.inOrder.window.exists_slot hlt hbefore
    rcases slot with _ | m
    · exact .inr (hs.holes id hslot)
    · exact .inl ((hs.stored_iff hlt).2 ⟨m, hslot⟩)
  · -- only a beacon can be at the frontier
    right
    rcases exists_of_le_highest (Nat.zero_lt_of_lt hlt) hle with ⟨m, hm, hid⟩ | ⟨msgId, hm, hid⟩
    · have hbelow := hs.received m hm
      omega
    · have hbelow := hs.announced msgId hm
      have hfrontier : msgId.toNat = s.frontier := by omega
      exact ⟨msgId, (hs.requested_frontier msgId hfrontier).2 hm, by omega⟩

/-- What the next call asks for has not come, and has not been released. -/
theorem History.requested_new {call : BufferCall M} {out : List (Option M)} {rtx : List UInt32}
    {s' : ReceiverBuffer M} (hs : History first calls outputs s)
    (hmove : Move build s call (out, rtx) s')
    (hs' : History first (calls ++ [call]) (outputs ++ [(out, rtx)]) s') {id : UInt32}
    (hid : id ∈ rtx) :
    (∀ m, .received m ∈ calls ++ [call] → getId m ≠ id) ∧
      first + (releasedItems (outputs ++ [(out, rtx)])).length ≤ id.toNat := by
  have hwindow := hs.inOrder.window
  have hrange := (hmove.mem_rtx_iff hwindow id).1 hid
  constructor
  · rintro m hm rfl
    rcases List.mem_append.1 hm with hm | hm
    · exact Nat.not_lt.2 hrange.1 (hs.received m hm)
    · rw [← List.mem_singleton.1 hm] at hrange
      exact Nat.lt_irrefl _ hrange.2
  · have hmissing := ((hmove.effect hs.inOrder.sound).2.requested id hid).1.1
    rw [hs'.inOrder.window.past_iff, Nat.not_le] at hmissing
    rw [← hs'.inOrder.next_eq]
    exact hmissing

end Requests

/-- If no loss is declared before the first message, every call returns.  What it asks for has
    not been received so far and not been released.  After it, from the first message on, every
    id that is not past and not above the highest id of a message or beacon since then is in the
    buffer or was asked for. -/
theorem requests_sound_and_complete (build : Build) (calls : List (BufferCall M))
    (call : BufferCall M) (hstart : ¬ LossFirst (calls ++ [call])) :
    ∃ outputs s out rtx s', handleAll build default calls = .ok (outputs, s) ∧
      s.handle build call = .ok ((out, rtx), s') ∧
      (∀ id ∈ rtx, (∀ m, .received m ∈ calls ++ [call] → getId m ≠ id) ∧
        ¬ WasReleased (calls ++ [call]) (outputs ++ [(out, rtx)]) id.toNat) ∧
      ((∃ m, .received m ∈ calls ++ [call]) →
        ∀ id, s'.lastSent < id → id ≤ highest (sinceFirst (calls ++ [call])) →
          s'.Stored id ∨
            ∃ msgId ∈ requestedIds (outputs ++ [(out, rtx)]), msgId.toNat = id) := by
  have hbefore : ¬ LossFirst calls := fun hloss => hstart (hloss.append _)
  obtain ⟨before, after, s, hrun, hreleased, hphase⟩ := handleAll_begin build hbefore
  rcases hphase with ⟨hnone, rfl, rfl⟩ | ⟨m, rest, hsince, hs⟩
  · -- no message so far
    have hlater : sinceFirst (calls ++ [call]) = sinceFirst [call] := by
      rw [sinceFirst_append, hnone]
      rfl
    have hmessages : ∀ m, .received m ∉ calls := by
      intro m hm
      rw [← mem_sinceFirst, hnone] at hm
      cases hm
    rw [List.append_nil] at hrun
    cases call with
    | received m =>
        obtain ⟨s', hcall, hs'⟩ := history_first build m
        refine ⟨_, _, _, _, s', hrun, hcall, List.forall_mem_nil _, ?_⟩
        intro _ id hlt hle
        rw [hlater] at hle
        apply Or.imp_right _ (hs'.stored_or_requested hlt hle)
        rintro ⟨msgId, hmem, hid⟩
        rw [requestedIds_append]
        exact ⟨msgId, List.mem_append_right _ hmem, hid⟩
    | beacon msgId =>
        refine ⟨_, _, _, _, _, hrun, handle_beacon build msgId, ?_, ?_⟩
        · intro id _
          constructor
          · intro m hm
            simp [hmessages m] at hm
          · rintro ⟨m, rest, hsince, -⟩
            rw [hlater] at hsince
            cases hsince
        · rintro ⟨m, hm⟩
          simp [hmessages m] at hm
    | lost msgId => exact absurd (lossFirst_concat hnone msgId) hstart
  · have hsince' : sinceFirst (calls ++ [call]) = .received m :: rest ++ [call] := by
      rw [sinceFirst_append, hsince]
      rfl
    obtain ⟨⟨out, rtx⟩, s', hcall, hmove, hs'⟩ := hs.handle build call
    refine ⟨_, s, out, rtx, s', hrun, hcall, ?_, ?_⟩
    · intro id hid
      obtain ⟨hnew, hle⟩ := hs.requested_new hmove hs' hid
      constructor
      · intro other hother
        apply hnew
        rw [← hsince']
        exact mem_sinceFirst.2 hother
      · rintro ⟨found, others, hfound, -, hlt⟩
        rw [hsince'] at hfound
        obtain ⟨hfound, -⟩ := List.cons.inj hfound
        cases hfound
        rw [List.append_assoc, releasedItems_append, hreleased, List.nil_append] at hlt
        omega
    · intro _ id hlt hle
      rw [hsince'] at hle
      apply Or.imp_right _ (hs'.stored_or_requested hlt hle)
      rintro ⟨msgId, hmem, hid⟩
      rw [List.append_assoc, requestedIds_append]
      exact ⟨msgId, List.mem_append_right _ hmem, hid⟩

/-- A beacon, the message before the one that it announces, and a gap behind that. -/
theorem requests_sound_and_complete_sample :
    ¬ LossFirst ([.beacon 1, .received 1] ++ [.received 4] : List (BufferCall UInt32)) ∧
      ∃ outputs s out rtx s', handleAll .debug default [.beacon 1, .received (1 : UInt32)] =
          .ok (outputs, s) ∧
        s.handle .debug (.received 4) = .ok ((out, rtx), s') ∧ s'.lastSent < 3 ∧
        (s'.Stored 3 ∨ ∃ msgId ∈ requestedIds (outputs ++ [(out, rtx)]), msgId.toNat = 3) := by
  have hstart :
      ¬ LossFirst ([.beacon 1, .received 1] ++ [.received 4] : List (BufferCall UInt32)) := id
  obtain ⟨outputs, s, out, rtx, s', hrun, hcall, -, hcomplete⟩ :=
    requests_sound_and_complete .debug [.beacon 1, .received (1 : UInt32)] (.received 4) hstart
  cases hrun
  cases hcall
  refine ⟨hstart, _, _, _, _, _, rfl, rfl, by decide, ?_⟩
  exact hcomplete ⟨1, by simp⟩ 3 (by decide) (by decide)

/-! ## Asked for once -/

theorem nodup_idRange {start stop : Nat} (hstop : stop ≤ 2 ^ 32) : (idRange start stop).Nodup := by
  apply List.Nodup.map_on
  · intro x hx y hy hsame
    rw [List.mem_range'_1] at hx hy
    have hnat := congrArg UInt32.toNat hsame
    rwa [UInt32.toNat_ofNat_of_lt' (show x < 2 ^ 32 by omega),
      UInt32.toNat_ofNat_of_lt' (show y < 2 ^ 32 by omega)] at hnat
  · exact List.nodup_range'

/-- What the next call asks for is new, unless it announces the id at the frontier after a beacon
    has left it there. -/
theorem History.requested_again_iff {first : Nat} {calls : List (BufferCall M)}
    {outputs : List (BufferOutput M)} {s s' : ReceiverBuffer M} {build : Build}
    {call : BufferCall M} {out : List (Option M)} {rtx : List UInt32}
    (hs : History first calls outputs s) (hmove : Move build s call (out, rtx) s') :
    (∀ a ∈ requestedIds outputs, ∀ b ∈ rtx, a ≠ b) ↔
      ∀ id : UInt32, .beacon id ∈ calls → id.toNat = s.frontier →
        call.announcedBelow ≤ id.toNat := by
  have hrange := hmove.mem_rtx_iff hs.inOrder.window
  constructor
  · intro hnew id hbeacon hid
    by_contra hlt
    have hmem := (hs.requested_frontier id hid).2 hbeacon
    have hagain : id ∈ rtx := (hrange id).2 ⟨Nat.le_of_eq hid.symm, Nat.lt_of_not_le hlt⟩
    exact hnew id hmem id hagain rfl
  · rintro hold a ha b hb rfl
    obtain ⟨hle, hlt⟩ := (hrange a).1 hb
    have hid : a.toNat = s.frontier := Nat.le_antisymm (hs.requested_le a ha) hle
    have hbeacon := (hs.requested_frontier a hid).1 ha
    exact Nat.not_lt.2 (hold a hbeacon hid) hlt

/-- From the first message on no id is asked for twice, exactly if no call announces an id again
    that a beacon has left at the frontier. -/
theorem requested_once_iff (build : Build) (m : M) (calls : List (BufferCall M)) :
    ∃ outputs s, handleAll build default (.received m :: calls) = .ok (outputs, s) ∧
      ((requestedIds outputs).Nodup ↔
        ∀ done call, done ++ [call] <+: calls → ∀ s, After build (.received m :: done) s →
          ∀ id : UInt32, .beacon id ∈ done → id.toNat = s.frontier →
            call.announcedBelow ≤ id.toNat) := by
  induction calls using List.reverseRecOn with
  | nil =>
      obtain ⟨s, hrun, -⟩ := history_first build m
      refine ⟨[([some m], [])], s, by simp only [handleAll, hrun, bind_ok], ?_⟩
      refine iff_of_true List.nodup_nil ?_
      intro done call hdone
      simp at hdone
  | append_singleton calls call ih =>
      obtain ⟨outputs, s, hrun, hnodup⟩ := ih
      have hafter : After build (.received m :: calls) s := ⟨outputs, hrun⟩
      obtain ⟨others, hothers, hs⟩ := hafter.history
      rw [hrun] at hothers
      cases hothers
      obtain ⟨⟨out, rtx⟩, s', hcall, hmove, -⟩ := hs.handle build call
      have hrtx : rtx.Nodup := by
        rw [hmove.requests hs.inOrder.window]
        exact nodup_idRange call.announcedBelow_le
      refine ⟨outputs ++ [(out, rtx)], s', handleAll_concat_ok hrun hcall, ?_⟩
      rw [Runs.forall_prefix_concat, ← hnodup, requestedIds_append, requestedIds_singleton,
        List.nodup_append, hs.requested_again_iff hmove]
      apply and_congr_right
      intro _
      constructor
      · rintro ⟨-, hlast⟩ t ht id hbeacon hid
        rw [← hafter.unique ht] at hid
        exact hlast id (List.mem_cons_of_mem _ hbeacon) hid
      · intro hlast
        refine ⟨hrtx, ?_⟩
        intro id hbeacon hid
        apply hlast s hafter id _ hid
        rcases List.mem_cons.1 hbeacon with hfirst | hbeacon
        · cases hfirst
        · exact hbeacon

/-- A beacon for the next id is repeated, as producers do, and so is the request. -/
theorem beacon_repeated_requested_twice :
    ∃ outputs, ∃ s : ReceiverBuffer UInt32,
      handleAll .debug default [.received 0, .beacon 1, .beacon 1] = .ok (outputs, s) ∧
        requestedIds outputs = [1, 1] ∧ ¬ (requestedIds outputs).Nodup :=
  ⟨_, _, rfl, rfl, by decide⟩

end ReceiverBuffer

end Slim
