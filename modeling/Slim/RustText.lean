import Mathlib.Data.List.Basic

/-!
# Parts of a text in Rust

`str::split_once` for a separator of one character, `str::strip_prefix` and
`str::strip_suffix`, on lists.  Each is described by the equation between the text and what
comes out.
-/

namespace RustText

variable {α : Type} [DecidableEq α]

/-- The parts before and after the first occurrence of the separator. -/
def splitOnce (separator : α) : List α → Option (List α × List α)
  | [] => none
  | first :: rest =>
      if first = separator then some ([], rest)
      else (splitOnce separator rest).map fun (before, after) => (first :: before, after)

theorem splitOnce_append {separator : α} {before : List α} (after : List α)
    (hbefore : separator ∉ before) :
    splitOnce separator (before ++ separator :: after) = some (before, after) := by
  induction before with
  | nil => simp [splitOnce]
  | cons first before ih =>
      have hfirst : first ≠ separator := fun heq => hbefore (by simp [heq])
      have hrest : separator ∉ before := fun hmem => hbefore (List.mem_cons_of_mem _ hmem)
      simp [splitOnce, hfirst, ih hrest]

theorem splitOnce_of_not_mem {separator : α} {text : List α} (hnot : separator ∉ text) :
    splitOnce separator text = none := by
  induction text with
  | nil => rfl
  | cons first rest ih =>
      have hfirst : first ≠ separator := fun heq => hnot (by simp [heq])
      have hrest : separator ∉ rest := fun hmem => hnot (List.mem_cons_of_mem _ hmem)
      simp [splitOnce, hfirst, ih hrest]

theorem splitOnce_eq_some_iff {separator : α} {text before after : List α} :
    splitOnce separator text = some (before, after) ↔
      text = before ++ separator :: after ∧ separator ∉ before := by
  constructor
  · intro hsplit
    by_cases hmem : separator ∈ text
    · obtain ⟨front, back, rfl, hfront⟩ := List.eq_append_cons_of_mem hmem
      rw [splitOnce_append back hfront] at hsplit
      cases hsplit
      exact ⟨rfl, hfront⟩
    · rw [splitOnce_of_not_mem hmem] at hsplit
      cases hsplit
  · rintro ⟨rfl, hbefore⟩
    exact splitOnce_append after hbefore

/-- The text without what it starts with. -/
def stripFront (front text : List α) : Option (List α) :=
  if front <+: text then some (text.drop front.length) else none

theorem stripFront_eq_some_iff {front text rest : List α} :
    stripFront front text = some rest ↔ text = front ++ rest := by
  unfold stripFront
  constructor
  · intro hstrip
    by_cases hfront : front <+: text
    · obtain ⟨tail, rfl⟩ := hfront
      simpa using hstrip
    · simp [hfront] at hstrip
  · rintro rfl
    simp

/-- The text without what it ends with. -/
def stripBack (back text : List α) : Option (List α) :=
  if back <:+ text then some (text.take (text.length - back.length)) else none

theorem stripBack_eq_some_iff {back text rest : List α} :
    stripBack back text = some rest ↔ text = rest ++ back := by
  unfold stripBack
  constructor
  · intro hstrip
    by_cases hback : back <:+ text
    · obtain ⟨head, rfl⟩ := hback
      simpa using hstrip
    · simp [hback] at hstrip
  · rintro rfl
    simp

end RustText
