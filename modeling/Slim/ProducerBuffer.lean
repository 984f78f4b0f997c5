import Slim.Messages
import Slim.ReceiverBuffer

/-!
# The send buffer of a stream: `producer_buffer.rs`

A producer keeps its last messages for retransmission.  They stand in a ring of
`capacity` slots, and `map` says in which slot the message with a given id is.
-/

namespace Slim

open HashKey Machine

/-- `get_id` of a message.  Its callers have a message with a session header. -/
instance : Identified ProtoMessage :=
  ⟨fun msg => (msg.getMessageId.toOption).getD 0⟩

theorem getId_of_getMessageId {msg : ProtoMessage} {id : UInt32}
    (hid : msg.getMessageId = .ok id) : getId msg = id := by
  simp only [getId, hid]
  rfl

structure ProducerBuffer where
  capacity : Nat
  next : Nat
  buffer : List (Option ProtoMessage)
  map : HashMap Nat Nat
  destinationName : AgentType
  destinationId : Option UInt64
  length_eq : buffer.length = capacity
  next_lt : next < capacity
  stored : ∀ id index, map.get? id = some index →
    ∃ msg msgId, buffer[index]? = some (some msg) ∧ msg.getMessageId = .ok msgId ∧
      msgId.toNat = id

namespace ProducerBuffer

def withCapacity (capacity : Nat) (hpos : 0 < capacity) : ProducerBuffer where
  capacity := capacity
  next := 0
  buffer := List.replicate capacity none
  map := HashMap.empty
  destinationName := ⟨0, 0, 0, none⟩
  destinationId := none
  length_eq := List.length_replicate
  next_lt := hpos
  stored := fun _ _ hget => nomatch hget

/-- The map without the message that is about to be overwritten. -/
def mapWithoutNext (s : ProducerBuffer) : HashMap Nat Nat :=
  match s.buffer[s.next]? with
  | some (some message) => s.map.remove (getId message).toNat
  | _ => s.map

/-- What stays in the map is in another slot. -/
theorem stored_withoutNext (s : ProducerBuffer) {id index : Nat}
    (hget : s.mapWithoutNext.get? id = some index) :
    index ≠ s.next ∧ ∃ msg msgId, s.buffer[index]? = some (some msg) ∧
      msg.getMessageId = .ok msgId ∧ msgId.toNat = id := by
  unfold mapWithoutNext at hget
  split at hget
  next message hnext =>
    rw [HashMap.get?_remove] at hget
    split at hget
    next => cases hget
    next hne =>
      obtain ⟨msg, msgId, hslot, hmsgId, hid⟩ := s.stored id index hget
      refine ⟨?_, msg, msgId, hslot, hmsgId, hid⟩
      rintro rfl
      rw [hnext] at hslot
      cases hslot
      rw [getId_of_getMessageId hmsgId] at hne
      exact hne hid.symm
  next hnext =>
    obtain ⟨msg, msgId, hslot, hmsgId, hid⟩ := s.stored id index hget
    refine ⟨?_, msg, msgId, hslot, hmsgId, hid⟩
    rintro rfl
    exact hnext msg hslot

/-- Put a message whose id is not in the map into the next slot. -/
def store (s : ProducerBuffer) (msg : ProtoMessage) (id : UInt32)
    (hid : msg.getMessageId = .ok id) : ProducerBuffer where
  capacity := s.capacity
  next := (s.next + 1) % s.capacity
  buffer := s.buffer.set s.next (some msg)
  map := s.mapWithoutNext.insert id.toNat s.next
  destinationName := s.destinationName
  destinationId := s.destinationId
  length_eq := by rw [List.length_set, s.length_eq]
  next_lt := Nat.mod_lt _ (Nat.zero_lt_of_lt s.next_lt)
  stored := by
    intro other index hget
    rw [HashMap.get?_insert] at hget
    split at hget
    next hsame =>
      cases hget
      have hlt : s.next < s.buffer.length := by rw [s.length_eq]; exact s.next_lt
      exact ⟨msg, id, by rw [List.getElem?_set_self hlt], hid, hsame.symm⟩
    next =>
      obtain ⟨hne, found, msgId, hslot, hfound⟩ := s.stored_withoutNext hget
      exact ⟨found, msgId, by rw [List.getElem?_set_ne (Ne.symm hne), hslot], hfound⟩

/-- The name the messages go to, which is set when the map is empty. -/
def destination [NameHash] (s : ProducerBuffer) (msg : ProtoMessage) :
    Except AccessPanic (AgentType × Option UInt64) :=
  if s.map.isEmpty then msg.getName else .ok (s.destinationName, s.destinationId)

/-- The insertion always completes; the result of the source is always `true`. -/
def push [NameHash] (s : ProducerBuffer) (msg : ProtoMessage) :
    Except AccessPanic ProducerBuffer := do
  let (destinationName, destinationId) ← s.destination msg
  let s := { s with destinationName, destinationId }
  match hid : msg.getMessageId with
  | .error panic => .error panic
  | .ok id => if s.map.contains id.toNat then .ok s else .ok (s.store msg id hid)

/-- A message with a name and an id is taken. -/
theorem push_returns [NameHash] (s : ProducerBuffer) {msg : ProtoMessage} {id : UInt32}
    (hname : ProtoMessage.Returns msg.getName) (hid : msg.getMessageId = .ok id) :
    ProtoMessage.Returns (s.push msg) := by
  have hdestination : ProtoMessage.Returns (s.destination msg) := by
    unfold destination
    split
    next => exact hname
    next => exact ⟨_, rfl⟩
  obtain ⟨⟨destinationName, destinationId⟩, hdestination⟩ := hdestination
  simp only [push, hdestination, bind_ok]
  split
  next panic hpanic =>
    rw [hid] at hpanic
    cases hpanic
  next =>
    split
    next => exact ⟨_, rfl⟩
    next => exact ⟨_, rfl⟩

/-- What a push does: the id is there already, or the message gets the next slot. -/
theorem push_cases [NameHash] {s s' : ProducerBuffer} {msg : ProtoMessage}
    (hpush : s.push msg = .ok s') :
    ∃ (id : UInt32) (hid : msg.getMessageId = .ok id) (destinationName : AgentType)
      (destinationId : Option UInt64),
      s.map.contains id.toNat = true ∧ s' = { s with destinationName, destinationId } ∨
        s.map.contains id.toNat = false ∧
          s' = { s with destinationName, destinationId }.store msg id hid := by
  obtain ⟨⟨destinationName, destinationId⟩, -, hpush⟩ := bind_eq_ok hpush
  dsimp only at hpush
  split at hpush
  next => cases hpush
  next id hid =>
    refine ⟨id, hid, destinationName, destinationId, ?_⟩
    split at hpush
    next hold =>
      cases hpush
      exact .inl ⟨hold, rfl⟩
    next hnew =>
      cases hpush
      exact .inr ⟨Bool.eq_false_iff.2 hnew, rfl⟩

/-- Remove all messages.  The name they went to stays. -/
def clear (s : ProducerBuffer) : ProducerBuffer where
  capacity := s.capacity
  next := 0
  buffer := List.replicate s.capacity none
  map := HashMap.empty
  destinationName := s.destinationName
  destinationId := s.destinationId
  length_eq := List.length_replicate
  next_lt := Nat.zero_lt_of_lt s.next_lt
  stored := by
    intro id index hget
    cases hget

def get (s : ProducerBuffer) (id : Nat) : Option ProtoMessage :=
  match s.map.get? id with
  | none => none
  | some index => s.buffer[index]?.join

/-- The message found has the id it is looked for. -/
theorem get_eq_some {s : ProducerBuffer} {id : UInt32} {msg : ProtoMessage}
    (hget : s.get id.toNat = some msg) : msg.getMessageId = .ok id ∧ some msg ∈ s.buffer := by
  unfold get at hget
  split at hget
  next => cases hget
  next index hindex =>
    obtain ⟨found, msgId, hslot, hmsgId, hid⟩ := s.stored id.toNat index hindex
    rw [hslot] at hget
    cases hget
    rw [UInt32.toNat_inj.1 hid] at hmsgId
    exact ⟨hmsgId, List.mem_of_getElem? hslot⟩

theorem mem_push [NameHash] {s s' : ProducerBuffer} {msg found : ProtoMessage}
    (hpush : s.push msg = .ok s') (hfound : some found ∈ s'.buffer) :
    found = msg ∨ some found ∈ s.buffer := by
  obtain ⟨id, hid, destinationName, destinationId, ⟨-, rfl⟩ | ⟨-, rfl⟩⟩ := push_cases hpush
  · exact .inr hfound
  · rcases List.mem_or_eq_of_mem_set hfound with hold | hnew
    · exact .inr hold
    · exact .inl (Option.some.inj hnew)

end ProducerBuffer

end Slim
