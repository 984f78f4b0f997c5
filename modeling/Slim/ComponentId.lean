import Mathlib.Algebra.GroupWithZero.Nat
import Slim.RustText

/-!
# Component ids: `config/src/component/id.rs`

An id is printed as its kind alone if its name is empty, and as `kind/name` otherwise.  It is
read by splitting at the first `/`, which has to be there.  A kind has no `/` in it, so printing
loses nothing, and every id with a name is read back.  The id without a name is not.

Texts are lists of characters.  The general categories of Unicode that the regular expression
for names excludes are a parameter.
-/

namespace Slim.Component

open RustText

/-- The categories Z, C and S. -/
class UnicodeCategories where
  separator : Char → Bool
  other : Char → Bool
  symbol : Char → Bool

inductive IdError where
  | empty
  | invalidCharacter (text : List Char)
  | nameTooLong (text : List Char)
  | unknown
deriving DecidableEq, Repr

def IdError.display : IdError → List Char
  | empty => "id cannot be emapty".toList
  | invalidCharacter text => "kind contains invalid character(s): ".toList ++ text
  | nameTooLong text => "name part is too long: ".toList ++ text
  | unknown => "unknown error".toList

def KIND_AND_NAME_SEPARATOR : Char := '/'

/-! ## Kinds -/

/-- `^[a-zA-Z][0-9a-zA-Z_]{0,62}$`. -/
def kindRegex : List Char → Bool
  | [] => false
  | first :: rest =>
      first.isAlpha && decide (rest.length ≤ 62) && rest.all fun c => c.isAlphanum || c == '_'

@[ext]
structure Kind where
  name : List Char
  valid : kindRegex name = true
deriving DecidableEq

namespace Kind

def new (ty : List Char) : Except IdError Kind :=
  if ty = [] then .error .empty
  else if hvalid : kindRegex ty = true then .ok ⟨ty, hvalid⟩
  else .error (.invalidCharacter ty)

theorem name_ne_nil (kind : Kind) : kind.name ≠ [] := by
  intro hempty
  have hvalid := kind.valid
  rw [hempty] at hvalid
  exact Bool.false_ne_true hvalid

theorem new_eq_ok_iff {ty : List Char} {kind : Kind} : new ty = .ok kind ↔ ty = kind.name := by
  constructor
  · intro hnew
    unfold new at hnew
    split at hnew
    · cases hnew
    · split at hnew
      · cases hnew
        rfl
      · cases hnew
  · rintro rfl
    rw [new, if_neg kind.name_ne_nil, dif_pos kind.valid]

theorem separator_not_mem (kind : Kind) : KIND_AND_NAME_SEPARATOR ∉ kind.name := by
  have hvalid := kind.valid
  rcases hname : kind.name with _ | ⟨first, rest⟩
  · exact List.not_mem_nil
  · rw [hname] at hvalid
    simp only [kindRegex, Bool.and_eq_true, List.all_eq_true] at hvalid
    rintro hmem
    rcases List.mem_cons.1 hmem with hfirst | hrest
    · rw [← hfirst] at hvalid
      exact absurd hvalid.1.1 (by decide)
    · exact absurd (hvalid.2 _ hrest) (by decide)

end Kind

/-! ## Ids -/

variable [UnicodeCategories]

/-- `^[^\p{Z}\p{C}\p{S}]+$`. -/
def nameRegex (name : List Char) : Bool :=
  decide (name ≠ []) && name.all fun c =>
    !(UnicodeCategories.separator c || UnicodeCategories.other c || UnicodeCategories.symbol c)

/-- The length in bytes is compared. -/
def validateName (name : List Char) : Except IdError Unit :=
  if name = [] then .ok ()
  else if 1024 < (name.map Char.utf8Size).sum then .error (.nameTooLong name)
  else if nameRegex name = true then .ok ()
  else .error (.invalidCharacter name)

@[ext]
structure ID where
  kindVal : Kind
  nameVal : List Char
  valid : validateName nameVal = .ok ()

namespace ID

def new (kindVal : Kind) : ID := ⟨kindVal, [], rfl⟩

def newWithName (kindVal : Kind) (nameVal : List Char) : Except IdError ID :=
  match hvalid : validateName nameVal with
  | .error error => .error error
  | .ok () => .ok ⟨kindVal, nameVal, hvalid⟩

def newWithStr (kindAndName : List Char) : Except IdError ID :=
  let (kind, name) := (splitOnce KIND_AND_NAME_SEPARATOR kindAndName).getD ([], [])
  if kind = [] then .error .empty
  else
    match Kind.new kind with
    | .error error => .error error
    | .ok kindVal => newWithName kindVal name

def marshalText (id : ID) : List Char :=
  if id.nameVal = [] then id.kindVal.name
  else id.kindVal.name ++ KIND_AND_NAME_SEPARATOR :: id.nameVal

theorem newWithName_eq_ok_iff {kindVal : Kind} {nameVal : List Char} {id : ID} :
    newWithName kindVal nameVal = .ok id ↔ kindVal = id.kindVal ∧ nameVal = id.nameVal := by
  unfold newWithName
  constructor
  · intro hnew
    split at hnew
    · cases hnew
    · cases hnew
      exact ⟨rfl, rfl⟩
  · rintro ⟨rfl, rfl⟩
    split
    · rename_i hinvalid
      cases hinvalid.symm.trans id.valid
    · rfl

/-- What is accepted is a kind, the separator and a name. -/
theorem newWithStr_eq_ok_iff {text : List Char} {id : ID} :
    newWithStr text = .ok id ↔
      text = id.kindVal.name ++ KIND_AND_NAME_SEPARATOR :: id.nameVal := by
  constructor
  · intro hread
    unfold newWithStr at hread
    rcases hsplit : splitOnce KIND_AND_NAME_SEPARATOR text with _ | ⟨kind, name⟩
    · simp [hsplit] at hread
    · simp only [hsplit, Option.getD_some] at hread
      split at hread
      · cases hread
      · rcases hkind : Kind.new kind with _ | kindVal
        · simp [hkind] at hread
        · simp only [hkind] at hread
          obtain ⟨rfl, rfl⟩ := newWithName_eq_ok_iff.1 hread
          rw [(splitOnce_eq_some_iff.1 hsplit).1, Kind.new_eq_ok_iff.1 hkind]
  · rintro rfl
    have hsplit := splitOnce_append id.nameVal id.kindVal.separator_not_mem
    simp only [newWithStr, hsplit, Option.getD_some, id.kindVal.name_ne_nil, if_false,
      Kind.new_eq_ok_iff.2 rfl]
    exact newWithName_eq_ok_iff.2 ⟨rfl, rfl⟩

theorem newWithStr_of_not_mem {text : List Char} (hnot : KIND_AND_NAME_SEPARATOR ∉ text) :
    newWithStr text = .error .empty := by
  simp [newWithStr, splitOnce_of_not_mem hnot]

/-- The ids that the three constructors return. -/
inductive Obtainable : ID → Prop
  | new (kindVal : Kind) : Obtainable (new kindVal)
  | newWithName {kindVal : Kind} {nameVal : List Char} {id : ID}
      (hok : newWithName kindVal nameVal = .ok id) : Obtainable id
  | newWithStr {text : List Char} {id : ID} (hok : newWithStr text = .ok id) : Obtainable id

theorem obtainable (id : ID) : id.Obtainable :=
  .newWithName (newWithName_eq_ok_iff.2 ⟨rfl, rfl⟩)

/-! ## Printing and reading -/

/-- The text determines the id. -/
theorem marshalText_injective {id other : ID} (htext : id.marshalText = other.marshalText) :
    id = other := by
  have hsplit := congrArg (splitOnce KIND_AND_NAME_SEPARATOR) htext
  unfold marshalText at htext hsplit
  by_cases hid : id.nameVal = [] <;> by_cases hother : other.nameVal = []
  · rw [if_pos hid, if_pos hother] at htext
    exact ID.ext (Kind.ext htext) (hid.trans hother.symm)
  · rw [if_pos hid, if_neg hother, splitOnce_of_not_mem id.kindVal.separator_not_mem,
      splitOnce_append _ other.kindVal.separator_not_mem] at hsplit
    cases hsplit
  · rw [if_neg hid, if_pos hother, splitOnce_of_not_mem other.kindVal.separator_not_mem,
      splitOnce_append _ id.kindVal.separator_not_mem] at hsplit
    cases hsplit
  · rw [if_neg hid, if_neg hother, splitOnce_append _ id.kindVal.separator_not_mem,
      splitOnce_append _ other.kindVal.separator_not_mem] at hsplit
    simp only [Option.some.injEq, Prod.mk.injEq] at hsplit
    exact ID.ext (Kind.ext hsplit.1) hsplit.2

theorem newWithStr_marshalText_of_empty {id : ID} (hempty : id.nameVal = []) :
    newWithStr id.marshalText = .error .empty := by
  rw [marshalText, if_pos hempty]
  exact newWithStr_of_not_mem id.kindVal.separator_not_mem

/-- An id is read back from its text exactly if it has a name.  Every id can be obtained, see
    `obtainable`. -/
theorem newWithStr_marshalText_iff (id : ID) :
    newWithStr id.marshalText = .ok id ↔ id.nameVal ≠ [] := by
  constructor
  · intro hread hempty
    rw [newWithStr_marshalText_of_empty hempty] at hread
    cases hread
  · intro hname
    rw [newWithStr_eq_ok_iff, marshalText, if_neg hname]

/-- The categories of the characters of ASCII. -/
@[reducible] def asciiCategories : UnicodeCategories where
  separator c := c == ' '
  other c := decide (c.toNat < 32) || c.toNat == 127
  symbol c := "$+<=>^`|~".toList.contains c

omit [UnicodeCategories] in
/-- `slim` is printed for the id of this kind without a name, and is refused as empty. -/
theorem newWithStr_marshalText_slim :
    letI := asciiCategories
    let id := new ⟨['s', 'l', 'i', 'm'], by decide⟩
    id.marshalText = ['s', 'l', 'i', 'm'] ∧ newWithStr id.marshalText = .error .empty ∧
      newWithStr id.marshalText ≠ .ok id := by
  have hread := @newWithStr_marshalText_of_empty asciiCategories
    (@new asciiCategories ⟨['s', 'l', 'i', 'm'], by decide⟩) rfl
  refine ⟨rfl, hread, fun hok => ?_⟩
  cases hread.symm.trans hok

end ID

end Slim.Component
