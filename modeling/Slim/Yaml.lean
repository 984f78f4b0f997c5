import Mathlib.Data.List.Basic

/-!
# YAML values

The values of `serde_yaml`, with an induction rule over the parts of a value.  `leaves` lists
the strings of a value, each with the mark whether a tag stands above it, and `mapStrings`
changes them and nothing else.  The keys of a mapping are not among them.
-/

namespace Yaml

inductive Number where
  | posInt (n : UInt64)
  | negInt (n : Int64)
  | float (bits : UInt64)
deriving DecidableEq, Repr

inductive Value where
  | null
  | bool (b : Bool)
  | number (n : Number)
  | string (text : List Char)
  | sequence (items : List Value)
  | mapping (entries : List (Value × Value))
  | tagged (tag : List Char) (value : Value)

namespace Value

/-- Induction over the items of a sequence, the values of a mapping and what a tag is on. -/
@[elab_as_elim]
theorem induct {motive : Value → Prop} (value : Value)
    (null : motive .null)
    (bool : ∀ b, motive (.bool b))
    (number : ∀ n, motive (.number n))
    (string : ∀ text, motive (.string text))
    (sequence : ∀ items, (∀ item ∈ items, motive item) → motive (.sequence items))
    (mapping : ∀ entries, (∀ entry ∈ entries, motive entry.2) → motive (.mapping entries))
    (tagged : ∀ tag value, motive value → motive (.tagged tag value)) : motive value :=
  @Value.rec motive (fun items => ∀ item ∈ items, motive item)
    (fun entries => ∀ entry ∈ entries, motive entry.2) (fun entry => motive entry.2)
    null bool number string sequence mapping tagged
    (List.forall_mem_nil _) (fun _ _ hhead htail => List.forall_mem_cons.2 ⟨hhead, htail⟩)
    (List.forall_mem_nil _) (fun _ _ hhead htail => List.forall_mem_cons.2 ⟨hhead, htail⟩)
    (fun _ _ _ hvalue => hvalue) value

/-! ## The strings of a value -/

mutual

/-- The strings of a value below a tag, or not. -/
def leaves : Bool → Value → List (Bool × List Char)
  | inTag, .string text => [(inTag, text)]
  | inTag, .sequence items => leavesOfItems inTag items
  | inTag, .mapping entries => leavesOfEntries inTag entries
  | _, .tagged _ value => leaves true value
  | _, .null | _, .bool _ | _, .number _ => []

def leavesOfItems : Bool → List Value → List (Bool × List Char)
  | _, [] => []
  | inTag, item :: items => leaves inTag item ++ leavesOfItems inTag items

def leavesOfEntries : Bool → List (Value × Value) → List (Bool × List Char)
  | _, [] => []
  | inTag, (_, value) :: entries => leaves inTag value ++ leavesOfEntries inTag entries

end

theorem leaves_sequence (inTag : Bool) (items : List Value) :
    leaves inTag (.sequence items) = items.flatMap (leaves inTag) := by
  rw [leaves]
  induction items with
  | nil => rfl
  | cons item items ih => rw [leavesOfItems, ih, List.flatMap_cons]

theorem leaves_mapping (inTag : Bool) (entries : List (Value × Value)) :
    leaves inTag (.mapping entries) = entries.flatMap fun entry => leaves inTag entry.2 := by
  rw [leaves]
  induction entries with
  | nil => rfl
  | cons entry entries ih =>
      rcases entry with ⟨key, value⟩
      rw [leavesOfEntries, ih, List.flatMap_cons]

/-- The strings, wherever they stand. -/
def strings (value : Value) : List (List Char) := (leaves false value).map Prod.snd

/-! ## Changing the strings -/

mutual

/-- Every string is changed by a function that is told whether a tag stands above it. -/
def mapStrings (f : Bool → List Char → List Char) : Bool → Value → Value
  | inTag, .string text => .string (f inTag text)
  | inTag, .sequence items => .sequence (mapItems f inTag items)
  | inTag, .mapping entries => .mapping (mapEntries f inTag entries)
  | _, .tagged tag value => .tagged tag (mapStrings f true value)
  | _, .null => .null
  | _, .bool b => .bool b
  | _, .number n => .number n

def mapItems (f : Bool → List Char → List Char) : Bool → List Value → List Value
  | _, [] => []
  | inTag, item :: items => mapStrings f inTag item :: mapItems f inTag items

def mapEntries (f : Bool → List Char → List Char) :
    Bool → List (Value × Value) → List (Value × Value)
  | _, [] => []
  | inTag, (key, value) :: entries => (key, mapStrings f inTag value) :: mapEntries f inTag entries

end

variable {f g : Bool → List Char → List Char}

theorem mapStrings_sequence (f : Bool → List Char → List Char) (inTag : Bool) (items : List Value) :
    mapStrings f inTag (.sequence items) = .sequence (items.map (mapStrings f inTag)) := by
  rw [mapStrings]
  congr 1
  induction items with
  | nil => rfl
  | cons item items ih => rw [mapItems, ih, List.map_cons]

theorem mapStrings_mapping (f : Bool → List Char → List Char) (inTag : Bool)
    (entries : List (Value × Value)) :
    mapStrings f inTag (.mapping entries) =
      .mapping (entries.map fun entry => (entry.1, mapStrings f inTag entry.2)) := by
  rw [mapStrings]
  congr 1
  induction entries with
  | nil => rfl
  | cons entry entries ih =>
      rcases entry with ⟨key, value⟩
      rw [mapEntries, ih, List.map_cons]

theorem leaves_mapStrings (f : Bool → List Char → List Char) (value : Value) : ∀ inTag,
    leaves inTag (mapStrings f inTag value) =
      (leaves inTag value).map fun leaf => (leaf.1, f leaf.1 leaf.2) := by
  induction value using induct with
  | null | bool | number | string => intro inTag; rfl
  | sequence items ih =>
      intro inTag
      rw [mapStrings_sequence, leaves_sequence, leaves_sequence, List.flatMap_map, List.map_flatMap]
      exact List.flatMap_congr fun item hitem => ih item hitem inTag
  | mapping entries ih =>
      intro inTag
      rw [mapStrings_mapping, leaves_mapping, leaves_mapping, List.flatMap_map, List.map_flatMap]
      exact List.flatMap_congr fun entry hentry => ih entry hentry inTag
  | tagged tag value ih =>
      intro inTag
      exact ih true

/-- Two functions give the same value exactly if they agree on its strings. -/
theorem mapStrings_eq_iff (value : Value) : ∀ inTag,
    mapStrings f inTag value = mapStrings g inTag value ↔
      ∀ leaf ∈ leaves inTag value, f leaf.1 leaf.2 = g leaf.1 leaf.2 := by
  induction value using induct with
  | null | bool | number => intro inTag; simp [mapStrings, leaves]
  | string text => intro inTag; simp [mapStrings, leaves]
  | sequence items ih =>
      intro inTag
      simp only [mapStrings_sequence, leaves_sequence, sequence.injEq, List.map_inj_left,
        List.mem_flatMap]
      constructor
      · rintro hmap leaf ⟨item, hitem, hleaf⟩
        exact (ih item hitem inTag).1 (hmap item hitem) leaf hleaf
      · intro hleaves item hitem
        exact (ih item hitem inTag).2 fun leaf hleaf => hleaves leaf ⟨item, hitem, hleaf⟩
  | mapping entries ih =>
      intro inTag
      simp only [mapStrings_mapping, leaves_mapping, mapping.injEq, List.map_inj_left,
        List.mem_flatMap, Prod.mk.injEq, true_and]
      constructor
      · rintro hmap leaf ⟨entry, hentry, hleaf⟩
        exact (ih entry hentry inTag).1 (hmap entry hentry) leaf hleaf
      · intro hleaves entry hentry
        exact (ih entry hentry inTag).2 fun leaf hleaf => hleaves leaf ⟨entry, hentry, hleaf⟩
  | tagged tag value ih =>
      intro inTag
      simp only [mapStrings, leaves, tagged.injEq, true_and, ih true]

theorem mapStrings_id (value : Value) : ∀ inTag,
    mapStrings (fun _ text => text) inTag value = value := by
  induction value using induct with
  | null | bool | number | string => intro inTag; rfl
  | sequence items ih =>
      intro inTag
      rw [mapStrings_sequence, List.map_congr_left fun item hitem => ih item hitem inTag,
        List.map_id']
  | mapping entries ih =>
      intro inTag
      rw [mapStrings_mapping, List.map_congr_left fun entry hentry =>
        congrArg (Prod.mk entry.1) (ih entry hentry inTag)]
      exact congrArg mapping (List.map_id' entries)
  | tagged tag value ih =>
      intro inTag
      exact congrArg (tagged tag) (ih true)

/-- Below a tag every string is marked. -/
theorem eq_true_of_mem_leaves {value : Value} : ∀ {leaf : Bool × List Char},
    leaf ∈ leaves true value → leaf.1 = true := by
  induction value using induct with
  | null | bool | number => intro leaf hleaf; cases hleaf
  | string text =>
      intro leaf hleaf
      rw [List.mem_singleton.1 hleaf]
  | sequence items ih =>
      intro leaf hleaf
      rw [leaves_sequence] at hleaf
      obtain ⟨item, hitem, hleaf⟩ := List.mem_flatMap.1 hleaf
      exact ih item hitem hleaf
  | mapping entries ih =>
      intro leaf hleaf
      rw [leaves_mapping] at hleaf
      obtain ⟨entry, hentry, hleaf⟩ := List.mem_flatMap.1 hleaf
      exact ih entry hentry hleaf
  | tagged tag value ih => exact ih

end Value

end Yaml
