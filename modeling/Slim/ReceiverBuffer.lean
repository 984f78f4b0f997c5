import Slim.HashMap
import Slim.Machine

/-!
# The receive buffer of a stream: `receiver_buffer.rs`

The receiver of a stream hands the messages of a producer to its application in the
order of their ids.  `lastSent` is the id handed over last, `usize::MAX` before the
first message.  Messages that arrive early wait in `buffer`, whose slot
`firstEntry + j` is for id `lastSent + 1 + j`; slots before `firstEntry` are used up.
`lostMsgs` are the ids that will not arrive any more.

A message enters only through its id.  The arithmetic is that of `usize`, 64 bits
wide, and may stop the program or wrap, depending on the build.
-/

namespace Slim

open Machine

/-- What the buffer uses of a message: `get_id`. -/
class Identified (M : Type) where
  getId : M → UInt32

export Identified (getId)

structure ReceiverBuffer (M : Type) where
  lastSent : Nat
  firstEntry : Nat
  lostMsgs : HashSet Nat
  buffer : List (Option M)

/-- What a call returns: the messages for the application, `none` for a lost one, and
    the ids to ask for again. -/
abbrev BufferOutput (M : Type) := List (Option M) × List UInt32

namespace ReceiverBuffer

variable {M : Type}

def default : ReceiverBuffer M where
  lastSent := USIZE_MAX
  firstEntry := 0
  lostMsgs := HashMap.empty
  buffer := []

/-! ## `release_msgs` -/

/-- The first loop: release the messages and the lost ids at the front of the buffer.
    Every round uses up a slot, so as many rounds as there are slots are enough. -/
def releaseBuffered (build : Build) : Nat → Nat → ReceiverBuffer M → List (Option M) →
    Except Panic (List (Option M) × ReceiverBuffer M)
  | 0, _, s, ret => .ok (ret, s)
  | fuel + 1, i, s, ret =>
      match s.buffer[i]? with
      | none => .ok (ret, s) -- `i < self.buffer.len()` fails
      | some (some m) => do
          let lastSent ← build.add s.lastSent 1
          let firstEntry ← build.add s.firstEntry 1
          let next ← build.add i 1
          releaseBuffered build fuel next
            { s with lastSent, firstEntry, buffer := s.buffer.set i none } (ret ++ [some m])
      | some none => do
          let lastSent ← build.add s.lastSent 1
          if s.lostMsgs.contains lastSent then
            let firstEntry ← build.add s.firstEntry 1
            let next ← build.add i 1
            releaseBuffered build fuel next
              { s with lastSent, firstEntry, lostMsgs := s.lostMsgs.remove lastSent }
              (ret ++ [none])
          else .ok (ret, s)

/-- The last loop: release lost ids that are next in line.  Every round takes an id out
    of the set, so as many rounds as the set has ids, and one to see that none is left,
    are enough. -/
def releaseLost (build : Build) : Nat → ReceiverBuffer M → List (Option M) →
    Except Panic (List (Option M) × ReceiverBuffer M)
  | 0, s, ret => .ok (ret, s)
  | fuel + 1, s, ret => do
      let lastSent ← build.add s.lastSent 1
      if s.lostMsgs.contains lastSent then
        releaseLost build fuel { s with lastSent, lostMsgs := s.lostMsgs.remove lastSent }
          (ret ++ [none])
      else .ok (ret, s)

/-- The buffer is dropped when all its slots are used up. -/
def resetIfEmpty (s : ReceiverBuffer M) : ReceiverBuffer M :=
  if s.firstEntry = s.buffer.length then { s with firstEntry := 0, buffer := [] } else s

def releaseMsgs (build : Build) (s : ReceiverBuffer M) :
    Except Panic (List (Option M) × ReceiverBuffer M) := do
  let (ret, s) ← releaseBuffered build s.buffer.length s.firstEntry s []
  let s := s.resetIfEmpty
  releaseLost build (s.lostMsgs.len + 1) s ret

/-! ## `internal_on_received_message` -/

/-- The ids from `start` up to but not including `stop`, as `u32`. -/
def idRange (start stop : Nat) : List UInt32 :=
  (List.range' start (stop - start)).map UInt32.ofNat

/-- Nothing is missing before the id: it is the first one, or next in line with an
    empty buffer. -/
def isInOrder (build : Build) (s : ReceiverBuffer M) (msgId : Nat) : Except Panic Bool :=
  if s.lastSent = USIZE_MAX then .ok true
  else do
    let next ← build.add s.lastSent 1
    .ok (decide (msgId = next) && s.buffer.isEmpty)

/-- An early id meets an empty buffer: a slot for every hole.  A beacon announces an
    id without its message, so the id itself is a hole too. -/
def initBuffer (build : Build) (s : ReceiverBuffer M) (msgId : Nat) (msg : Option M) :
    Except Panic (BufferOutput M × ReceiverBuffer M) := do
  let next ← build.add s.lastSent 1
  let holes ← build.sub msgId next
  match msg with
  | some m =>
      .ok (([], idRange next msgId),
        { s with firstEntry := 0, buffer := List.replicate holes none ++ [some m] })
  | none => do
      let slots ← build.add holes 1
      .ok (([], idRange next (msgId + 1)),
        { s with firstEntry := 0, buffer := List.replicate slots none })

/-- The id has a slot. -/
def fillSlot (build : Build) (s : ReceiverBuffer M) (msgId : Nat) (msg : Option M) :
    Except Panic (BufferOutput M × ReceiverBuffer M) :=
  match msg with
  | none => .ok (([], []), s)
  | some m => do
      let next ← build.add s.lastSent 1
      let offset ← build.sub msgId next
      let pos ← build.add offset s.firstEntry
      match s.buffer[pos]? with
      | none => .error .indexOutOfBounds
      | some (some _) => .ok (([], []), s) -- a duplicate
      | some none => do
          let (ret, s) ← releaseMsgs build { s with buffer := s.buffer.set pos (some m) }
          .ok ((ret, []), s)

/-- The id is beyond the last slot; `entries` is the number of slots in use. -/
def extendBuffer (build : Build) (s : ReceiverBuffer M) (entries msgId : Nat)
    (msg : Option M) : Except Panic (BufferOutput M × ReceiverBuffer M) := do
  let next ← build.add s.lastSent 1
  let start ← build.add next entries
  let buffer := s.buffer ++ List.replicate (msgId - start) none
  match msg with
  | some m => .ok (([], idRange start msgId), { s with buffer := buffer ++ [some m] })
  | none => .ok (([], idRange start msgId ++ [UInt32.ofNat msgId]), { s with buffer })

def internalOnReceivedMessage (build : Build) (s : ReceiverBuffer M) (msgId : Nat)
    (msg : Option M) : Except Panic (BufferOutput M × ReceiverBuffer M) := do
  if ← s.isInOrder build msgId then
    match msg with
    | some m => .ok (([some m], []), { s with lastSent := msgId })
    | none => .ok (([], [UInt32.ofNat msgId]), s)
  else if msgId ≤ s.lastSent then .ok (([], []), s)
  else if s.buffer.isEmpty then s.initBuffer build msgId msg
  else do
    let entries ← build.sub s.buffer.length s.firstEntry
    let last ← build.add s.lastSent entries
    if msgId ≤ last then s.fillSlot build msgId msg else s.extendBuffer build entries msgId msg

/-! ## The calls -/

def onReceivedMessage [Identified M] (build : Build) (s : ReceiverBuffer M) (msg : M) :
    Except Panic (BufferOutput M × ReceiverBuffer M) :=
  s.internalOnReceivedMessage build (getId msg).toNat (some msg)

def onLostMessage (build : Build) (s : ReceiverBuffer M) (msgId : UInt32) :
    Except Panic (List (Option M) × ReceiverBuffer M) :=
  releaseMsgs build { s with lostMsgs := s.lostMsgs.insert msgId.toNat () }

def onBeaconMessage (build : Build) (s : ReceiverBuffer M) (msgId : UInt32) :
    Except Panic (List UInt32 × ReceiverBuffer M) := do
  let ((_, rtx), s) ← s.internalOnReceivedMessage build msgId.toNat none
  .ok (rtx, s)

end ReceiverBuffer

/-- The calls on a buffer. -/
inductive BufferCall (M : Type) where
  | received (msg : M)
  | beacon (msgId : UInt32)
  | lost (msgId : UInt32)

namespace ReceiverBuffer

variable {M : Type} [Identified M]

def handle (build : Build) (s : ReceiverBuffer M) :
    BufferCall M → Except Panic (BufferOutput M × ReceiverBuffer M)
  | .received msg => s.onReceivedMessage build msg
  | .beacon msgId => do
      let (rtx, s) ← s.onBeaconMessage build msgId
      .ok (([], rtx), s)
  | .lost msgId => do
      let (ret, s) ← s.onLostMessage build msgId
      .ok ((ret, []), s)

/-- The outputs of a sequence of calls and the state after them. -/
def handleAll (build : Build) : ReceiverBuffer M → List (BufferCall M) →
    Except Panic (List (BufferOutput M) × ReceiverBuffer M)
  | s, [] => .ok ([], s)
  | s, call :: calls => do
      let (output, s) ← s.handle build call
      let (outputs, s) ← handleAll build s calls
      .ok (output :: outputs, s)

end ReceiverBuffer

/-! ## What a buffer holds -/

/-- Every message of the list has the property. -/
def Only {M : Type} (P : M → Prop) (items : List (Option M)) : Prop :=
  ∀ m, some m ∈ items → P m

namespace Only

variable {M : Type} {P : M → Prop} {items more : List (Option M)}

theorem nil : Only P ([] : List (Option M)) := by
  intro m hm
  cases hm

theorem append (hitems : Only P items) (hmore : Only P more) : Only P (items ++ more) := by
  intro m hm
  rcases List.mem_append.1 hm with hm | hm
  · exact hitems m hm
  · exact hmore m hm

theorem replicate_none (n : Nat) : Only P (List.replicate n (none : Option M)) := by
  intro m hm
  cases List.eq_of_mem_replicate hm

theorem singleton_none : Only P [(none : Option M)] := replicate_none 1

theorem singleton {m : M} (hm : P m) : Only P [some m] := by
  intro found hfound
  cases List.mem_singleton.1 hfound
  exact hm

theorem set (hitems : Only P items) (i : Nat) {item : Option M} (hitem : ∀ m, item = some m → P m) :
    Only P (items.set i item) := by
  intro m hm
  rcases List.mem_or_eq_of_mem_set hm with hm | hm
  · exact hitems m hm
  · exact hitem m hm.symm

end Only

namespace ReceiverBuffer

section Content

variable {M : Type} {P : M → Prop} {build : Build} {s s' : ReceiverBuffer M}
  {out : List (Option M)} {output : BufferOutput M}

theorem only_releaseBuffered : ∀ {fuel i : Nat} {s : ReceiverBuffer M} {ret : List (Option M)},
    Only P s.buffer → Only P ret → releaseBuffered build fuel i s ret = .ok (out, s') →
      Only P out ∧ Only P s'.buffer := by
  intro fuel
  induction fuel with
  | zero =>
      intro i s ret hs hret hrun
      cases hrun
      exact ⟨hret, hs⟩
  | succ fuel ih =>
      intro i s ret hs hret hrun
      unfold releaseBuffered at hrun
      split at hrun
      next =>
        cases hrun
        exact ⟨hret, hs⟩
      next m hm =>
        obtain ⟨lastSent, -, hrun⟩ := bind_eq_ok hrun
        obtain ⟨firstEntry, -, hrun⟩ := bind_eq_ok hrun
        obtain ⟨next, -, hrun⟩ := bind_eq_ok hrun
        refine ih (hs.set i ?_) (hret.append (.singleton (hs m (List.mem_of_getElem? hm)))) hrun
        intro found hfound
        cases hfound
      next =>
        obtain ⟨lastSent, -, hrun⟩ := bind_eq_ok hrun
        split at hrun
        next =>
          obtain ⟨firstEntry, -, hrun⟩ := bind_eq_ok hrun
          obtain ⟨next, -, hrun⟩ := bind_eq_ok hrun
          refine ih ?_ (hret.append .singleton_none) hrun
          exact hs
        next =>
          cases hrun
          exact ⟨hret, hs⟩

theorem only_releaseLost : ∀ {fuel : Nat} {s : ReceiverBuffer M} {ret : List (Option M)},
    Only P s.buffer → Only P ret → releaseLost build fuel s ret = .ok (out, s') →
      Only P out ∧ Only P s'.buffer := by
  intro fuel
  induction fuel with
  | zero =>
      intro s ret hs hret hrun
      cases hrun
      exact ⟨hret, hs⟩
  | succ fuel ih =>
      intro s ret hs hret hrun
      obtain ⟨lastSent, -, hrun⟩ := bind_eq_ok hrun
      split at hrun
      next =>
        refine ih ?_ (hret.append .singleton_none) hrun
        exact hs
      next =>
        cases hrun
        exact ⟨hret, hs⟩

theorem only_releaseMsgs (hs : Only P s.buffer) (hrun : releaseMsgs build s = .ok (out, s')) :
    Only P out ∧ Only P s'.buffer := by
  obtain ⟨⟨ret, middle⟩, hbuffered, hrun⟩ := bind_eq_ok hrun
  obtain ⟨hret, hmiddle⟩ := only_releaseBuffered hs .nil hbuffered
  refine only_releaseLost ?_ hret hrun
  unfold resetIfEmpty
  split
  next => exact .nil
  next => exact hmiddle

theorem only_onLostMessage {msgId : UInt32} (hs : Only P s.buffer)
    (hrun : s.onLostMessage build msgId = .ok (out, s')) : Only P out ∧ Only P s'.buffer := by
  refine only_releaseMsgs ?_ hrun
  exact hs

theorem only_initBuffer {msgId : Nat} {msg : Option M} (hmsg : ∀ m, msg = some m → P m)
    (hrun : s.initBuffer build msgId msg = .ok (output, s')) :
    Only P output.1 ∧ Only P s'.buffer := by
  obtain ⟨next, -, hrun⟩ := bind_eq_ok hrun
  obtain ⟨holes, -, hrun⟩ := bind_eq_ok hrun
  cases msg with
  | some m =>
      cases hrun
      exact ⟨.nil, (Only.replicate_none holes).append (.singleton (hmsg m rfl))⟩
  | none =>
      obtain ⟨slots, -, hrun⟩ := bind_eq_ok hrun
      cases hrun
      exact ⟨.nil, .replicate_none slots⟩

theorem only_fillSlot {msgId : Nat} {msg : Option M} (hs : Only P s.buffer)
    (hmsg : ∀ m, msg = some m → P m) (hrun : s.fillSlot build msgId msg = .ok (output, s')) :
    Only P output.1 ∧ Only P s'.buffer := by
  cases msg with
  | none =>
      cases hrun
      exact ⟨.nil, hs⟩
  | some m =>
      obtain ⟨next, -, hrun⟩ := bind_eq_ok hrun
      obtain ⟨offset, -, hrun⟩ := bind_eq_ok hrun
      obtain ⟨pos, -, hrun⟩ := bind_eq_ok hrun
      split at hrun
      next => cases hrun
      next =>
        cases hrun
        exact ⟨.nil, hs⟩
      next =>
        obtain ⟨⟨ret, left⟩, hreleased, hrun⟩ := bind_eq_ok hrun
        cases hrun
        refine only_releaseMsgs (hs.set pos ?_) hreleased
        rintro found ⟨⟩
        exact hmsg m rfl

theorem only_extendBuffer {entries msgId : Nat} {msg : Option M} (hs : Only P s.buffer)
    (hmsg : ∀ m, msg = some m → P m)
    (hrun : s.extendBuffer build entries msgId msg = .ok (output, s')) :
    Only P output.1 ∧ Only P s'.buffer := by
  obtain ⟨next, -, hrun⟩ := bind_eq_ok hrun
  obtain ⟨start, -, hrun⟩ := bind_eq_ok hrun
  have hholes := hs.append (.replicate_none (msgId - start))
  cases msg with
  | some m =>
      cases hrun
      exact ⟨.nil, hholes.append (.singleton (hmsg m rfl))⟩
  | none =>
      cases hrun
      exact ⟨.nil, hholes⟩

theorem only_internal {msgId : Nat} {msg : Option M} (hs : Only P s.buffer)
    (hmsg : ∀ m, msg = some m → P m)
    (hrun : s.internalOnReceivedMessage build msgId msg = .ok (output, s')) :
    Only P output.1 ∧ Only P s'.buffer := by
  obtain ⟨inOrder, -, hrun⟩ := bind_eq_ok hrun
  split at hrun
  next =>
    cases msg with
    | some m =>
        cases hrun
        exact ⟨.singleton (hmsg m rfl), hs⟩
    | none =>
        cases hrun
        exact ⟨.nil, hs⟩
  next =>
    split at hrun
    next =>
      cases hrun
      exact ⟨.nil, hs⟩
    next =>
      split at hrun
      next => exact only_initBuffer hmsg hrun
      next =>
        obtain ⟨entries, -, hrun⟩ := bind_eq_ok hrun
        obtain ⟨last, -, hrun⟩ := bind_eq_ok hrun
        split at hrun
        next => exact only_fillSlot hs hmsg hrun
        next => exact only_extendBuffer hs hmsg hrun

/-- What a call releases and what the buffer holds after it was in the buffer or is brought by
    the call. -/
theorem only_handle [Identified M] {call : BufferCall M} (hs : Only P s.buffer)
    (hcall : ∀ m, call = .received m → P m) (hrun : s.handle build call = .ok (output, s')) :
    Only P output.1 ∧ Only P s'.buffer := by
  cases call with
  | received m =>
      refine only_internal hs ?_ hrun
      rintro found ⟨⟩
      exact hcall m rfl
  | beacon msgId =>
      obtain ⟨⟨rtx, left⟩, hbeacon, hrun⟩ := bind_eq_ok hrun
      obtain ⟨⟨released, found⟩, hinternal, hbeacon⟩ := bind_eq_ok hbeacon
      cases hrun
      cases hbeacon
      refine ⟨.nil, (only_internal hs ?_ hinternal).2⟩
      intro m hm
      cases hm
  | lost msgId =>
      obtain ⟨⟨ret, left⟩, hlost, hrun⟩ := bind_eq_ok hrun
      cases hrun
      exact only_onLostMessage hs hlost

end Content

end ReceiverBuffer

end Slim
