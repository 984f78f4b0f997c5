import Mathlib.Algebra.Group.Nat.Defs
import Mathlib.Data.List.Basic

/-!
# Addresses and decimal numbers in Go

`net.SplitHostPort`, and `strconv.ParseUint` and `strconv.ParseInt` for base 10, on lists of
characters.  `Splits` says what an address looks like that is accepted, and
`eq_toDigits_iff_of_parseInt` which of the texts of a positive number is the one that
printing the number gives back.
-/

namespace GoText

/-! ## Splitting an address -/

/-- The parts before and after the last occurrence of a character. -/
def splitLast (c : Char) : List Char → Option (List Char × List Char)
  | [] => none
  | first :: rest =>
      match splitLast c rest with
      | some (before, after) => some (first :: before, after)
      | none => if first = c then some ([], rest) else none

theorem splitLast_eq_none_iff {c : Char} {l : List Char} : splitLast c l = none ↔ c ∉ l := by
  induction l with
  | nil => simp [splitLast]
  | cons first rest ih =>
      unfold splitLast
      rcases hrest : splitLast c rest with _ | ⟨before, after⟩
      · have hnot := ih.1 hrest
        by_cases hfirst : first = c
        · simp [hfirst]
        · simp [hfirst, hnot, Ne.symm hfirst]
      · have hmem : c ∈ rest := by
          by_contra hnot
          simp [ih.2 hnot] at hrest
        simp [hmem]

theorem eq_append_of_splitLast {c : Char} {l before after : List Char}
    (hsplit : splitLast c l = some (before, after)) : l = before ++ c :: after ∧ c ∉ after := by
  induction l generalizing before with
  | nil => simp [splitLast] at hsplit
  | cons first rest ih =>
      unfold splitLast at hsplit
      rcases hrest : splitLast c rest with _ | ⟨front, back⟩
      · simp only [hrest, Option.ite_none_right_eq_some, Option.some.injEq, Prod.mk.injEq] at hsplit
        obtain ⟨rfl, rfl, rfl⟩ := hsplit
        exact ⟨rfl, splitLast_eq_none_iff.1 hrest⟩
      · simp only [hrest, Option.some.injEq, Prod.mk.injEq] at hsplit
        obtain ⟨rfl, rfl⟩ := hsplit
        obtain ⟨heq, hnot⟩ := ih hrest
        exact ⟨by rw [heq, List.cons_append], hnot⟩

inductive AddrError where
  | missingPort
  | tooManyColons
  | missingBracket
  | unexpectedOpening
  | unexpectedClosing
deriving DecidableEq, Repr

/-- The host of an address that starts with a bracket, and the position behind it; `colon` is
    the position of the last colon. -/
def bracketedHost (hostport : List Char) (colon : Nat) : Except AddrError (List Char × Nat) :=
  match hostport.idxOf? ']' with
  | none => .error .missingBracket
  | some closing =>
      if closing + 1 = hostport.length then .error .missingPort
      else if closing + 1 = colon then .ok ((hostport.take closing).drop 1, closing + 1)
      else if hostport[closing + 1]? = some ':' then .error .tooManyColons
      else .error .missingPort

/-- The host, and the positions from which opening and closing brackets are not allowed. -/
def hostOf (hostport before : List Char) : Except AddrError (List Char × Nat × Nat) :=
  if hostport.head? = some '[' then
    match bracketedHost hostport before.length with
    | .error e => .error e
    | .ok (host, k) => .ok (host, 1, k)
  else if ':' ∈ before then .error .tooManyColons
  else .ok (before, 0, 0)

def splitHostPort (hostport : List Char) : Except AddrError (List Char × List Char) :=
  match splitLast ':' hostport with
  | none => .error .missingPort
  | some (before, port) =>
      match hostOf hostport before with
      | .error e => .error e
      | .ok (host, j, k) =>
          if '[' ∈ hostport.drop j then .error .unexpectedOpening
          else if ']' ∈ hostport.drop k then .error .unexpectedClosing
          else .ok (host, port)

/-- The two forms of an address that is accepted, with its host and port. -/
inductive Splits : List Char → List Char → List Char → Prop where
  | plain {host port : List Char} (hopening : '[' ∉ host) (hport : ':' ∉ port) :
      Splits (host ++ ':' :: port) host port
  | bracketed {host port : List Char} (hopening : '[' ∉ host) (hport : ':' ∉ port) :
      Splits ('[' :: (host ++ ']' :: ':' :: port)) host port

theorem splits_of_bracketedHost {rest before port host : List Char} {k : Nat}
    (heq : '[' :: rest = before ++ ':' :: port) (hcolons : ':' ∉ port)
    (hhost : bracketedHost ('[' :: rest) before.length = .ok (host, k))
    (hopening : '[' ∉ rest) : Splits ('[' :: rest) host port := by
  unfold bracketedHost at hhost
  rcases hclosing : ('[' :: rest).idxOf? ']' with _ | closing
  · simp [hclosing] at hhost
  obtain ⟨hlt, hget, -⟩ := List.idxOf?_eq_some_iff.1 hclosing
  simp only [hclosing] at hhost
  split at hhost
  · cases hhost
  split at hhost
  next hcolon =>
    simp only [Except.ok.injEq, Prod.mk.injEq] at hhost
    obtain ⟨rfl, -⟩ := hhost
    cases closing with
    | zero => simp at hget
    | succ m =>
        have hm : m < rest.length := by simpa using hlt
        have hbracket : rest[m] = ']' := by simpa using hget
        have hport : rest.drop (m + 1) = ':' :: port := by
          have hdrop : ('[' :: rest).drop (m + 1 + 1) = ':' :: port := by
            rw [heq, hcolon, List.drop_left]
          simpa using hdrop
        have hrest : rest = rest.take m ++ ']' :: ':' :: port := by
          rw [← hport, ← hbracket, ← List.drop_eq_getElem_cons hm, List.take_append_drop]
        have hnot : '[' ∉ rest.take m := fun hmem => hopening (List.mem_of_mem_take hmem)
        rw [List.take_succ_cons, List.drop_succ_cons, List.drop_zero]
        nth_rewrite 1 [hrest]
        exact .bracketed hnot hcolons
  next =>
    split at hhost
    · cases hhost
    · cases hhost

theorem splits_of_hostOf {hostport before port host : List Char} {j k : Nat}
    (heq : hostport = before ++ ':' :: port) (hcolons : ':' ∉ port)
    (hhost : hostOf hostport before = .ok (host, j, k)) (hopening : '[' ∉ hostport.drop j) :
    Splits hostport host port := by
  unfold hostOf at hhost
  split at hhost
  next hhead =>
    obtain ⟨rest, rfl⟩ : ∃ rest, hostport = '[' :: rest := by
      cases hostport with
      | nil => simp at hhead
      | cons first rest => exact ⟨rest, by simpa using hhead⟩
    rcases hinner : bracketedHost ('[' :: rest) before.length with e | ⟨inner, position⟩
    · simp [hinner] at hhost
    · simp only [hinner, Except.ok.injEq, Prod.mk.injEq] at hhost
      obtain ⟨rfl, rfl, -⟩ := hhost
      exact splits_of_bracketedHost heq hcolons hinner (by simpa using hopening)
  next =>
    split at hhost
    · cases hhost
    · simp only [Except.ok.injEq, Prod.mk.injEq] at hhost
      obtain ⟨rfl, rfl, -⟩ := hhost
      rw [heq] at hopening ⊢
      exact .plain (fun hmem => hopening (by simp [hmem])) hcolons

theorem splits_of_splitHostPort {hostport host port : List Char}
    (hsplit : splitHostPort hostport = .ok (host, port)) : Splits hostport host port := by
  unfold splitHostPort at hsplit
  rcases hlast : splitLast ':' hostport with _ | ⟨before, after⟩
  · simp [hlast] at hsplit
  rcases hhost : hostOf hostport before with e | ⟨found, j, k⟩
  · simp [hlast, hhost] at hsplit
  simp only [hlast, hhost] at hsplit
  split at hsplit
  · cases hsplit
  next hopening =>
    split at hsplit
    · cases hsplit
    · simp only [Except.ok.injEq, Prod.mk.injEq] at hsplit
      obtain ⟨rfl, rfl⟩ := hsplit
      obtain ⟨heq, hcolons⟩ := eq_append_of_splitLast hlast
      exact splits_of_hostOf heq hcolons hhost hopening

/-! ## Decimal numbers -/

inductive NumError where
  | malformed
  | outOfRange
deriving DecidableEq, Repr

/-- The loop of `ParseUint`, with the value of the digits before. -/
def parseUintFrom (maxVal : Nat) : Nat → List Char → Except NumError Nat
  | n, [] => .ok n
  | n, c :: rest =>
      if c.isDigit then
        let next := 10 * n + (c.toNat - 48)
        if maxVal < next then .error .outOfRange else parseUintFrom maxVal next rest
      else .error .malformed

def parseUint (bitSize : Nat) (s : List Char) : Except NumError Nat :=
  if s.isEmpty then .error .malformed else parseUintFrom (2 ^ bitSize - 1) 0 s

/-- The sign of a number, if it has one, and the rest. -/
def splitSign : List Char → Bool × List Char
  | '+' :: rest => (false, rest)
  | '-' :: rest => (true, rest)
  | s => (false, s)

/-- For a number that is too large for `ParseUint` the largest value is compared with the
    limit, and found to be out of range too. -/
def parseInt (bitSize : Nat) (s : List Char) : Except NumError Int :=
  if s.isEmpty then .error .malformed
  else
    let (neg, digits) := splitSign s
    match parseUint bitSize digits with
    | .error e => .error e
    | .ok un =>
        let cutoff := 2 ^ (bitSize - 1)
        if !neg && decide (cutoff ≤ un) then .error .outOfRange
        else if neg && decide (cutoff < un) then .error .outOfRange
        else .ok (if neg then -(un : Int) else un)

theorem digitChar_of_isDigit {c : Char} (hdigit : c.isDigit = true) :
    Nat.digitChar (c.toNat - 48) = c ∧ c.toNat - 48 < 10 := by
  have hrange : 48 ≤ c.toNat ∧ c.toNat ≤ 57 := by
    simpa [Char.isDigit, UInt32.le_iff_toNat_le] using hdigit
  have hlt : c.toNat - 48 < 10 := by omega
  refine ⟨Char.toNat_inj.1 ?_, hlt⟩
  rw [Nat.toNat_digitChar_of_lt_ten hlt]
  omega

/-- The characters that are read after a positive number are its further digits. -/
theorem toDigits_append_of_parseUintFrom {maxVal : Nat} {rest : List Char} {n m : Nat}
    (hpos : 0 < n) (hparse : parseUintFrom maxVal n rest = .ok m) :
    Nat.toDigits 10 n ++ rest = Nat.toDigits 10 m := by
  induction rest generalizing n with
  | nil =>
      simp only [parseUintFrom, Except.ok.injEq] at hparse
      simp [hparse]
  | cons c rest ih =>
      unfold parseUintFrom at hparse
      split at hparse
      next hdigit =>
        simp only [] at hparse
        split at hparse
        · cases hparse
        · obtain ⟨hchar, hlt⟩ := digitChar_of_isDigit hdigit
          rw [← ih (by omega) hparse, ← Nat.toDigits_append_toDigits (by decide) hpos hlt,
            Nat.toDigits_of_lt_base hlt, hchar, List.append_assoc, List.singleton_append]
      · cases hparse

/-- The text of a number without leading zero is what printing the number gives. -/
theorem eq_toDigits_of_parseUint {bitSize m : Nat} {s : List Char}
    (hparse : parseUint bitSize s = .ok m) (hzero : s.head? ≠ some '0') :
    s = Nat.toDigits 10 m := by
  unfold parseUint at hparse
  cases s with
  | nil => simp at hparse
  | cons c rest =>
      simp only [List.isEmpty_cons, Bool.false_eq_true, if_false, parseUintFrom, Nat.mul_zero,
        Nat.zero_add] at hparse
      split at hparse
      next hdigit =>
        obtain ⟨hchar, hlt⟩ := digitChar_of_isDigit hdigit
        have hpos : 0 < c.toNat - 48 := by
          rw [Nat.pos_iff_ne_zero]
          intro hnone
          rw [hnone] at hchar
          exact hzero (by simp [← hchar])
        split at hparse
        · cases hparse
        · rw [← toDigits_append_of_parseUintFrom hpos hparse, Nat.toDigits_of_lt_base hlt, hchar,
            List.singleton_append]
      · cases hparse

theorem head_toDigits {n : Nat} (hpos : 0 < n) : (Nat.toDigits 10 n).head? ≠ some '0' := by
  induction n using Nat.strongRecOn with
  | ind n ih =>
      rw [Nat.toDigits_eq_if (by decide)]
      split
      next hlt =>
        intro hhead
        have hchar : Nat.digitChar n = '0' := by simpa using hhead
        have hzero := congrArg Char.toNat hchar
        rw [Nat.toNat_digitChar_of_lt_ten hlt] at hzero
        simp at hzero
        omega
      next hge =>
        have hrest := ih (n / 10) (by omega) (by omega)
        rcases hdigits : Nat.toDigits 10 (n / 10) with _ | ⟨first, rest⟩
        · simp at hdigits
        · rw [hdigits] at hrest
          simpa using hrest

theorem splitSign_cases (s : List Char) :
    (splitSign s).1 = true ∨
      (splitSign s).1 = false ∧ (s = (splitSign s).2 ∨ s = '+' :: (splitSign s).2) := by
  unfold splitSign
  split
  · exact .inr ⟨rfl, .inr rfl⟩
  · exact .inl rfl
  · exact .inr ⟨rfl, .inl rfl⟩

theorem not_mem_toDigits {c : Char} (hdigit : c.isDigit = false) (n : Nat) :
    c ∉ Nat.toDigits 10 n := by
  intro hmem
  have hisDigit := Nat.isDigit_of_mem_toDigits (by decide) (by decide) hmem
  rw [hdigit] at hisDigit
  cases hisDigit

/-- A number is printed without sign and without leading zero. -/
theorem plain_toDigits {n : Nat} (hpos : 0 < n) :
    (Nat.toDigits 10 n).head? ≠ some '+' ∧ (Nat.toDigits 10 n).head? ≠ some '0' := by
  refine ⟨fun hhead => ?_, head_toDigits hpos⟩
  exact not_mem_toDigits (by decide) n (List.mem_of_mem_head? hhead)

/-- What a positive number is read from: its digits, behind a plus sign or without sign. -/
theorem parseUint_of_parseInt {bitSize : Nat} {s : List Char} {n : Int}
    (hparse : parseInt bitSize s = .ok n) (hpos : 0 < n) :
    ∃ digits, parseUint bitSize digits = .ok n.toNat ∧ (s = digits ∨ s = '+' :: digits) := by
  unfold parseInt at hparse
  split at hparse
  · cases hparse
  rcases hun : parseUint bitSize (splitSign s).2 with e | un
  · simp [hun] at hparse
  simp only [hun] at hparse
  rcases splitSign_cases s with hneg | ⟨hneg, hs⟩
  · simp only [hneg, Bool.not_true, Bool.false_and, Bool.false_eq_true, if_false, Bool.true_and,
      decide_eq_true_eq, if_true] at hparse
    split at hparse
    · cases hparse
    · have hvalue : -(un : Int) = n := Except.ok.inj hparse
      omega
  · simp only [hneg, Bool.not_false, Bool.true_and, decide_eq_true_eq, Bool.false_and,
      Bool.false_eq_true, if_false] at hparse
    split at hparse
    · cases hparse
    · have hvalue : (un : Int) = n := Except.ok.inj hparse
      have hnat : n.toNat = un := by omega
      exact ⟨_, by rw [hun, hnat], hs⟩

/-- Of the texts of a positive number, printing it gives the one without sign and without
    leading zero. -/
theorem eq_toDigits_iff_of_parseInt {bitSize : Nat} {s : List Char} {n : Int}
    (hparse : parseInt bitSize s = .ok n) (hpos : 0 < n) :
    s = Nat.toDigits 10 n.toNat ↔ s.head? ≠ some '+' ∧ s.head? ≠ some '0' := by
  constructor
  · intro hs
    rw [hs]
    exact plain_toDigits (by omega)
  · rintro ⟨hplus, hzero⟩
    obtain ⟨digits, hdigits, hs | hs⟩ := parseUint_of_parseInt hparse hpos
    · rw [hs] at hzero ⊢
      exact eq_toDigits_of_parseUint hdigits hzero
    · exact absurd (by rw [hs]; rfl) hplus

end GoText
