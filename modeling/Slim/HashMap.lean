import Mathlib.Data.List.Nodup
import Mathlib.Data.List.Perm.Basic
import Mathlib.Algebra.BigOperators.Group.List.Basic
import Mathlib.Algebra.GroupWithZero.Nat

/-!
# Hash maps and hash sets keyed through a projection

A `HashMap` of the Rust standard library compares its keys with `Eq`, and a key
type may implement `Eq` on part of its data only.  Here a map is the list of its
live entries, a key is compared through the projection `HashKey.key`, and the
structure carries the proof that no two entries have equal keys.  Inserting
under a key that is present replaces the value and keeps the stored key object,
as the standard library does.

The order in which a hash map hands out its entries is not specified.  Whatever
iterates over a map therefore takes an `IterOrder`: some rearrangement of the
entries, about which nothing else is known.
-/

/-- The data of a key that `Eq` and `Hash` read. -/
class HashKey (K : Type) (κ : outParam Type) where
  key : K → κ

instance : HashKey Nat Nat := ⟨fun n => n⟩
instance : HashKey UInt64 UInt64 := ⟨fun n => n⟩
instance : HashKey UInt32 UInt32 := ⟨fun n => n⟩
instance : HashKey String String := ⟨fun text => text⟩
instance : HashKey (List Char) (List Char) := ⟨fun text => text⟩

@[simp] theorem key_nat (n : Nat) : HashKey.key n = n := rfl
@[simp] theorem key_uint64 (n : UInt64) : HashKey.key n = n := rfl
@[simp] theorem key_uint32 (n : UInt32) : HashKey.key n = n := rfl
@[simp] theorem key_string (text : String) : HashKey.key text = text := rfl

/-- A hash map: its live entries, no two of them with equal keys. -/
structure HashMap (K V : Type) {κ : Type} [HashKey K κ] where
  entries : List (K × V)
  nodup : (entries.map fun entry => HashKey.key entry.1).Nodup

/-- A hash set is a hash map without values. -/
abbrev HashSet (K : Type) {κ : Type} [HashKey K κ] := HashMap K Unit

/-- An order in which a container hands out its entries. -/
structure IterOrder (α : Type) where
  arrange : List α → List α
  perm : ∀ entries, (arrange entries).Perm entries

/-- The order in which the entries are stored. -/
def IterOrder.stored {α : Type} : IterOrder α := ⟨id, fun _ => List.Perm.refl _⟩

namespace HashMap

open HashKey

variable {K V κ : Type} [HashKey K κ]

def empty : HashMap K V := ⟨[], List.nodup_nil⟩

def len (m : HashMap K V) : Nat := m.entries.length

def isEmpty (m : HashMap K V) : Bool := m.entries.isEmpty

/-- The entries in the order in which an iterator yields them. -/
def iter (m : HashMap K V) (order : IterOrder (K × V)) : List (K × V) :=
  order.arrange m.entries

theorem mem_iter {m : HashMap K V} {order : IterOrder (K × V)} {entry : K × V} :
    entry ∈ m.iter order ↔ entry ∈ m.entries :=
  (order.perm m.entries).mem_iff

theorem nodup_iter (m : HashMap K V) (order : IterOrder (K × V)) :
    ((m.iter order).map fun entry => key entry.1).Nodup :=
  ((order.perm m.entries).map _).nodup_iff.2 m.nodup

/-- The sum of `f` over the values of the map. -/
def total (m : HashMap K V) (f : V → Nat) : Nat := (m.entries.map fun entry => f entry.2).sum

theorem len_eq_total (m : HashMap K V) : m.len = m.total fun _ => 1 := by
  simp [len, total]

/-- A map without entries is the empty map. -/
theorem eq_empty_of_isEmpty {m : HashMap K V} (hempty : m.isEmpty = true) : m = empty := by
  rcases m with ⟨entries, hnodup⟩
  have hentries : entries = [] := List.isEmpty_iff.mp hempty
  subst hentries
  rfl

variable [DecidableEq κ] {m : HashMap K V} {k : K} {v : V} {entry : K × V}

def get? (m : HashMap K V) (k : K) : Option V :=
  (m.entries.find? fun entry => decide (key entry.1 = key k)).map Prod.snd

def contains (m : HashMap K V) (k : K) : Bool := (m.get? k).isSome

@[simp] theorem contains_empty (k : K) : (empty : HashMap K V).contains k = false := rfl

theorem contains_eq_false_iff (m : HashMap K V) (k : K) :
    m.contains k = false ↔ m.get? k = none :=
  Option.isSome_eq_false_iff.trans Option.isNone_iff_eq_none

/-- Replace the value of the entry with key `k`, keeping its stored key. -/
def replaceEntry (k : K) (v : V) (entry : K × V) : K × V :=
  if key entry.1 = key k then (entry.1, v) else entry

theorem key_replaceEntry (k : K) (v : V) (entry : K × V) :
    key (replaceEntry k v entry).1 = key entry.1 := by
  unfold replaceEntry
  split <;> rfl

theorem contains_iff (m : HashMap K V) (k : K) :
    m.contains k = true ↔ ∃ entry ∈ m.entries, key entry.1 = key k := by
  simp [contains, get?, List.find?_isSome]

def insert (m : HashMap K V) (k : K) (v : V) : HashMap K V :=
  if h : m.contains k = true then
    { entries := m.entries.map (replaceEntry k v)
      nodup := by
        have hkeys : (m.entries.map (replaceEntry k v)).map (fun entry => key entry.1) =
            m.entries.map fun entry => key entry.1 := by
          rw [List.map_map]
          exact List.map_congr_left fun entry _ => key_replaceEntry k v entry
        rw [hkeys]
        exact m.nodup }
  else
    { entries := m.entries ++ [(k, v)]
      nodup := by
        rw [List.map_append, List.nodup_append]
        refine ⟨m.nodup, by simp, ?_⟩
        intro left hleft right hright heq
        simp only [List.map_cons, List.map_nil, List.mem_singleton] at hright
        obtain ⟨entry, hentry, rfl⟩ := List.mem_map.mp hleft
        exact h ((contains_iff m k).2 ⟨entry, hentry, heq.trans hright⟩) }

def remove (m : HashMap K V) (k : K) : HashMap K V where
  entries := m.entries.filter fun entry => !decide (key entry.1 = key k)
  nodup := m.nodup.sublist (List.filter_sublist.map _)

/-- An entry of the map after an insertion has the inserted key or a stored one. -/
theorem key_of_mem_insert (hentry : entry ∈ (m.insert k v).entries) :
    entry.1 = k ∨ ∃ old ∈ m.entries, old.1 = entry.1 := by
  unfold insert at hentry
  split at hentry
  · obtain ⟨old, hold, rfl⟩ := List.mem_map.mp hentry
    refine Or.inr ⟨old, hold, ?_⟩
    unfold replaceEntry
    split <;> rfl
  · rcases List.mem_append.mp hentry with hold | hnew
    · exact Or.inr ⟨entry, hold, rfl⟩
    · rw [List.mem_singleton] at hnew
      exact Or.inl (by rw [hnew])

theorem mem_of_mem_remove (hentry : entry ∈ (m.remove k).entries) : entry ∈ m.entries :=
  (List.mem_filter.mp hentry).1

/-! ## Looking up -/

theorem get?_eq_some_iff (m : HashMap K V) (k : K) (v : V) :
    m.get? k = some v ↔ ∃ k₀, key k₀ = key k ∧ (k₀, v) ∈ m.entries := by
  constructor
  · intro hget
    obtain ⟨entry, hfind, rfl⟩ := Option.map_eq_some_iff.mp hget
    have hkey := List.find?_some hfind
    exact ⟨entry.1, by simpa using hkey, List.mem_of_find?_eq_some hfind⟩
  · rintro ⟨k₀, hkey, hmem⟩
    have hsome : (m.entries.find? fun entry => decide (key entry.1 = key k)).isSome := by
      rw [List.find?_isSome]
      exact ⟨(k₀, v), hmem, by simpa using hkey⟩
    obtain ⟨entry, hfind⟩ := Option.isSome_iff_exists.mp hsome
    have hentry : key entry.1 = key k := by simpa using List.find?_some hfind
    -- the two entries have equal keys, hence they are the same entry
    have hsame : entry = (k₀, v) :=
      List.inj_on_of_nodup_map m.nodup (List.mem_of_find?_eq_some hfind) hmem
        (hentry.trans hkey.symm)
    simp [get?, hfind, hsame]

theorem get?_eq_none_iff (m : HashMap K V) (k : K) :
    m.get? k = none ↔ ∀ entry ∈ m.entries, key entry.1 ≠ key k := by
  simp [get?, List.find?_eq_none]

theorem get?_of_mem (hentry : entry ∈ m.entries) :
    m.get? entry.1 = some entry.2 :=
  (get?_eq_some_iff m _ _).2 ⟨entry.1, rfl, hentry⟩

/-- Equal keys have the same value. -/
theorem get?_congr (m : HashMap K V) {k' : K} (hkey : key k = key k') :
    m.get? k = m.get? k' := by
  simp only [get?, hkey]

theorem contains_congr (m : HashMap K V) {k' : K} (hkey : key k = key k') :
    m.contains k = m.contains k' := by
  rw [contains, contains, get?_congr m hkey]

@[simp] theorem get?_empty (k : K) : (empty : HashMap K V).get? k = none := rfl

theorem get?_insert (m : HashMap K V) (k k' : K) (v : V) :
    (m.insert k v).get? k' = if key k' = key k then some v else m.get? k' := by
  unfold insert
  split
  next hcontains =>
    by_cases hkey : key k' = key k
    · rw [if_pos hkey, get?_eq_some_iff]
      obtain ⟨entry, hentry, hentryKey⟩ := (contains_iff m k).1 hcontains
      refine ⟨entry.1, hentryKey.trans hkey.symm, List.mem_map.mpr ⟨entry, hentry, ?_⟩⟩
      rw [replaceEntry, if_pos hentryKey]
    · rw [if_neg hkey]
      simp only [get?, List.find?_map, Option.map_map]
      have hsame : ((fun entry : K × V => decide (key entry.1 = key k')) ∘ replaceEntry k v) =
          fun entry => decide (key entry.1 = key k') := by
        funext entry
        simp only [Function.comp_apply, key_replaceEntry]
      rw [hsame]
      -- the entry found, if any, is not the one that was replaced
      refine Option.map_congr fun entry hfind => ?_
      have hentry : key entry.1 = key k' := by simpa using List.find?_some hfind
      have hne : key entry.1 ≠ key k := fun h => hkey (hentry.symm.trans h)
      simp [replaceEntry, hne]
  next hcontains =>
    simp only [get?, List.find?_append]
    by_cases hkey : key k' = key k
    · have hnone : (m.entries.find? fun entry => decide (key entry.1 = key k')) = none := by
        rw [List.find?_eq_none]
        intro entry hentry hentryKey
        exact hcontains ((contains_iff m k).2
          ⟨entry, hentry, (by simpa using hentryKey : key entry.1 = key k').trans hkey⟩)
      rw [hnone, if_pos hkey]
      simp [hkey]
    · have hne : ¬ key k = key k' := fun h => hkey h.symm
      simp [hkey, hne]

@[simp] theorem get?_insert_self (m : HashMap K V) (k : K) (v : V) :
    (m.insert k v).get? k = some v := by
  rw [get?_insert, if_pos rfl]

theorem get?_insert_of_ne (m : HashMap K V) {k' : K} (v : V) (hne : key k' ≠ key k) :
    (m.insert k v).get? k' = m.get? k' := by
  rw [get?_insert, if_neg hne]

theorem get?_remove (m : HashMap K V) (k k' : K) :
    (m.remove k).get? k' = if key k' = key k then none else m.get? k' := by
  by_cases hkey : key k' = key k
  · rw [if_pos hkey, get?_eq_none_iff]
    intro entry hentry hentryKey
    have hne := (List.mem_filter.mp hentry).2
    exact (by simpa using hne : key entry.1 ≠ key k) (hentryKey.trans hkey)
  · rw [if_neg hkey]
    simp only [get?, remove, List.find?_filter]
    congr 2
    funext entry
    by_cases hentry : key entry.1 = key k'
    · simp [hentry, hkey]
    · simp [hentry]

@[simp] theorem get?_remove_self (m : HashMap K V) (k : K) : (m.remove k).get? k = none := by
  rw [get?_remove, if_pos rfl]

theorem get?_remove_of_ne (m : HashMap K V) {k' : K} (hne : key k' ≠ key k) :
    (m.remove k).get? k' = m.get? k' := by
  rw [get?_remove, if_neg hne]

theorem contains_insert (m : HashMap K V) (k k' : K) (v : V) :
    (m.insert k v).contains k' = (decide (key k' = key k) || m.contains k') := by
  rw [contains, get?_insert]
  by_cases hkey : key k' = key k <;> simp [hkey, contains]

theorem contains_remove (m : HashMap K V) (k k' : K) :
    (m.remove k).contains k' = (decide (key k' ≠ key k) && m.contains k') := by
  rw [contains, get?_remove]
  by_cases hkey : key k' = key k <;> simp [hkey, contains]

theorem isEmpty_iff (m : HashMap K V) : m.isEmpty = true ↔ ∀ k, m.get? k = none := by
  constructor
  · intro hempty k
    have hnil : m.entries = [] := by simpa [isEmpty] using hempty
    simp [get?, hnil]
  · intro hnone
    rcases hentries : m.entries with _ | ⟨entry, rest⟩
    · simp [isEmpty, hentries]
    · have hsome : m.get? entry.1 = some entry.2 := get?_of_mem (by simp [hentries])
      rw [hnone entry.1] at hsome
      cases hsome

/-! ## Sums over the entries

How an insertion and a removal change `total`; the statements are additive, so
that no truncated subtraction appears. -/

theorem total_insert_of_none (hnone : m.get? k = none) (v : V)
    (f : V → Nat) : (m.insert k v).total f = m.total f + f v := by
  have hcontains : ¬ m.contains k = true := by simp [contains, hnone]
  simp [total, insert, hcontains]

theorem sum_filter_ne_add {entries : List (K × V)}
    (hnodup : (entries.map fun entry => key entry.1).Nodup) (hentry : entry ∈ entries)
    (f : V → Nat) :
    ((entries.filter fun other => !decide (key other.1 = key entry.1)).map
        fun other => f other.2).sum + f entry.2 =
      (entries.map fun other => f other.2).sum := by
  induction entries with
  | nil => cases hentry
  | cons head tail ih =>
      simp only [List.map_cons, List.nodup_cons] at hnodup
      obtain ⟨hfresh, htail⟩ := hnodup
      rcases List.mem_cons.mp hentry with rfl | hmem
      · -- the removed entry is the head: the filter keeps the whole tail
        have hkeep : tail.filter (fun other => !decide (key other.1 = key entry.1)) = tail := by
          rw [List.filter_eq_self]
          intro other hother
          have hne : key other.1 ≠ key entry.1 := fun h =>
            hfresh (h ▸ List.mem_map.mpr ⟨other, hother, rfl⟩)
          simpa using hne
        rw [List.filter_cons_of_neg (by simp), hkeep, List.map_cons, List.sum_cons]
        exact Nat.add_comm _ _
      · have hne : key head.1 ≠ key entry.1 := fun h =>
          hfresh (h ▸ List.mem_map.mpr ⟨entry, hmem, rfl⟩)
        have htotal := ih htail hmem
        rw [List.filter_cons_of_pos (by simpa using hne)]
        simp only [List.map_cons, List.sum_cons]
        omega

theorem total_remove (hget : m.get? k = some v)
    (f : V → Nat) : (m.remove k).total f + f v = m.total f := by
  obtain ⟨k₀, hkey, hmem⟩ := (get?_eq_some_iff m k v).1 hget
  have hsum := sum_filter_ne_add m.nodup hmem f
  simpa only [total, remove, hkey] using hsum

theorem sum_replaceEntry_add {entries : List (K × V)}
    (hnodup : (entries.map fun entry => key entry.1).Nodup) (hentry : entry ∈ entries)
    (hkey : key entry.1 = key k) (v : V) (f : V → Nat) :
    ((entries.map (replaceEntry k v)).map fun other => f other.2).sum + f entry.2 =
      (entries.map fun other => f other.2).sum + f v := by
  induction entries with
  | nil => cases hentry
  | cons head tail ih =>
      simp only [List.map_cons, List.nodup_cons] at hnodup
      obtain ⟨hfresh, htail⟩ := hnodup
      rcases List.mem_cons.mp hentry with rfl | hmem
      · -- the replaced entry is the head: the tail is left as it is
        have hkeep : tail.map (replaceEntry k v) = tail := by
          refine (List.map_congr_left fun other hother => ?_).trans (List.map_id tail)
          have hne : key other.1 ≠ key k := fun h =>
            hfresh (hkey.trans h.symm ▸ List.mem_map.mpr ⟨other, hother, rfl⟩)
          rw [replaceEntry, if_neg hne, id]
        simp only [List.map_cons, List.sum_cons, hkeep, replaceEntry, if_pos hkey]
        omega
      · have hne : key head.1 ≠ key k := fun h =>
          hfresh (h.trans hkey.symm ▸ List.mem_map.mpr ⟨entry, hmem, rfl⟩)
        have htotal := ih htail hmem
        simp only [List.map_cons, List.sum_cons, replaceEntry, if_neg hne] at htotal ⊢
        omega

theorem total_insert_of_some {old : V} (hget : m.get? k = some old) (v : V)
    (f : V → Nat) : (m.insert k v).total f + f old = m.total f + f v := by
  have hcontains : m.contains k = true := by simp [contains, hget]
  obtain ⟨k₀, hkey, hmem⟩ := (get?_eq_some_iff m k old).1 hget
  have hsum := sum_replaceEntry_add m.nodup hmem hkey v f
  simpa only [total, insert, dif_pos hcontains] using hsum

theorem len_remove (hcontains : m.contains k = true) :
    (m.remove k).len + 1 = m.len := by
  obtain ⟨v, hget⟩ := Option.isSome_iff_exists.1 hcontains
  rw [len_eq_total, len_eq_total]
  exact total_remove hget fun _ => 1

theorem total_congr {f g : V → Nat}
    (hcongr : ∀ k v, m.get? k = some v → f v = g v) : m.total f = m.total g := by
  refine congrArg List.sum (List.map_congr_left ?_)
  intro entry hentry
  exact hcongr entry.1 entry.2 (get?_of_mem hentry)

/-- A positive total has a positive summand. -/
theorem exists_of_total_pos {f : V → Nat} (hpos : 0 < m.total f) :
    ∃ k v, m.get? k = some v ∧ 0 < f v := by
  obtain ⟨summand, hmem, hsummand⟩ : ∃ n ∈ m.entries.map (fun entry => f entry.2), 0 < n := by
    by_contra hno
    have hzero : m.total f = 0 := List.sum_eq_zero fun n hn =>
      Nat.eq_zero_of_not_pos fun hn' => hno ⟨n, hn, hn'⟩
    omega
  obtain ⟨entry, hentry, rfl⟩ := List.mem_map.mp hmem
  exact ⟨entry.1, entry.2, get?_of_mem hentry, hsummand⟩

theorem le_total (hget : m.get? k = some v) (f : V → Nat) :
    f v ≤ m.total f := by
  have htotal := total_remove hget f
  omega

end HashMap
