import Mathlib.Tactic.Common

/-!
# Signed tokens

The functions of the `jsonwebtoken` library that a verifier calls.  They are parameters, and so
is what they are measured by: the claims that a token carries, and the keys under which its
signature is valid.  What a verifier relies on is stated apart, one assumption at a time; a plain
library that meets the assumptions comes last.
-/

namespace Jsonwebtoken

inductive Algorithm where
  | HS256 | HS384 | HS512
  | ES256 | ES384
  | RS256 | RS384 | RS512
  | PS256 | PS384 | PS512
  | EdDSA
deriving DecidableEq, Repr

inductive AlgorithmFamily where
  | Hmac | Rsa | Ec | Ed
deriving DecidableEq, Repr

def Algorithm.family : Algorithm → AlgorithmFamily
  | HS256 | HS384 | HS512 => .Hmac
  | ES256 | ES384 => .Ec
  | RS256 | RS384 | RS512 | PS256 | PS384 | PS512 => .Rsa
  | EdDSA => .Ed

/-- The name that is printed. -/
def Algorithm.debug : Algorithm → String
  | HS256 => "HS256" | HS384 => "HS384" | HS512 => "HS512"
  | ES256 => "ES256" | ES384 => "ES384"
  | RS256 => "RS256" | RS384 => "RS384" | RS512 => "RS512"
  | PS256 => "PS256" | PS384 => "PS384" | PS512 => "PS512"
  | EdDSA => "EdDSA"

theorem Algorithm.eq_edDSA_of_family {algorithm : Algorithm}
    (hfamily : algorithm.family = Algorithm.EdDSA.family) : algorithm = .EdDSA := by
  cases algorithm <;> simp_all [family]

/-- Only `EdDSA` is alone in its family. -/
theorem Algorithm.exists_ne_of_ne_edDSA {algorithm : Algorithm} (hne : algorithm ≠ .EdDSA) :
    ∃ other : Algorithm, other ≠ algorithm ∧ other.family = algorithm.family := by
  cases algorithm
  case HS256 | HS384 => exact ⟨.HS512, by decide, rfl⟩
  case HS512 => exact ⟨.HS256, by decide, rfl⟩
  case ES256 => exact ⟨.ES384, by decide, rfl⟩
  case ES384 => exact ⟨.ES256, by decide, rfl⟩
  case EdDSA => exact absurd rfl hne
  case RS256 => exact ⟨.RS384, by decide, rfl⟩
  all_goals exact ⟨.RS256, by decide, rfl⟩

structure Header where
  alg : Algorithm
  kid : Option String
deriving DecidableEq, Repr

structure DecodingKey where
  family : AlgorithmFamily
  material : String
deriving DecidableEq, Repr

def DecodingKey.fromSecret (secret : String) : DecodingKey := ⟨.Hmac, secret⟩

/-- A JSON value, as far as the reading of a claim tells values apart: `decimal` is a number
    that is not a whole one, with what it rounds to. -/
inductive ClaimValue where
  | null
  | text (value : String)
  | texts (values : List String)
  | number (value : Nat)
  | decimal (rounded : Nat)
  | other
deriving DecidableEq, Repr

namespace ClaimValue

def text? : ClaimValue → Option String
  | text value => some value
  | _ => none

def number? : ClaimValue → Option Nat
  | number value => some value
  | _ => none

/-- A time, which may be given with a fraction. -/
def seconds? : ClaimValue → Option Nat
  | number value => some value
  | decimal rounded => some rounded
  | _ => none

/-- One name or several. -/
def names? : ClaimValue → Option (List String)
  | text value => some [value]
  | texts values => some values
  | _ => none

/-- A field that may be absent or null. -/
def optional {α : Type} (read : ClaimValue → Option α) : Option ClaimValue → Option (Option α)
  | none => some none
  | some null => some none
  | some value => (read value).map some

theorem eq_text_of_optional {claim : Option ClaimValue} {name : String}
    (hread : optional text? claim = some (some name)) : claim = some (text name) := by
  rcases claim with _ | value
  · simp [optional] at hread
  · cases value <;> simp_all [optional, text?]

end ClaimValue

/-- The claims of a token by their names. -/
abbrev Payload := String → Option ClaimValue

namespace Payload

def seconds? (payload : Payload) (claim : String) : Option Nat :=
  (payload claim).bind ClaimValue.seconds?

def names? (payload : Payload) (claim : String) : Option (List String) :=
  (payload claim).bind ClaimValue.names?

end Payload

/-- The kind of an error, as far as it is told apart. -/
inductive ErrorKind where
  | expiredSignature
  | other (text : String)
deriving DecidableEq, Repr

/-! ## The library -/

/-- What was set for the claims of a token.  Where nothing was set, the library has a default. -/
structure Expectations where
  requiredSpecClaims : Option (List String)
  aud : Option (List String)
  iss : Option (List String)
  sub : Option String
deriving DecidableEq, Repr

/-- What was set for a decoder: its list of algorithms has one, and the check of the signature
    may have been disabled. -/
structure Validation extends Expectations where
  algorithm : Algorithm
  signatureDisabled : Bool
deriving DecidableEq, Repr

namespace Validation

def new (algorithm : Algorithm) : Validation := ⟨⟨none, none, none, none⟩, algorithm, false⟩

def algorithms (validation : Validation) : List Algorithm := [validation.algorithm]

def setAudience (validation : Validation) (names : List String) : Validation :=
  { validation with aud := some names }

def setIssuer (validation : Validation) (names : List String) : Validation :=
  { validation with iss := some names }

def setRequiredSpecClaims (validation : Validation) (claims : List String) : Validation :=
  { validation with requiredSpecClaims := some claims }

def insecureDisableSignatureValidation (validation : Validation) : Validation :=
  { validation with signatureDisabled := true }

end Validation

/-- The functions that are called (`decode` with the time at which it is called), and what the
    assumptions on them speak of: the claims of a token, the keys that validate its signature, the
    checks that `decode` makes of the algorithms and of the claims, and how many seconds a token
    may have expired. -/
structure TokenFormat where
  decodeHeader : String → Except ErrorKind Header
  decode {γ : Type} (read : Payload → Option γ) (validation : Validation) (key : DecodingKey)
    (token : String) (now : Nat) : Except ErrorKind (Header × γ)
  pem : AlgorithmFamily → String → Option String
  payload : String → Option Payload
  verify : String → DecodingKey → Bool
  admits : List Algorithm → DecodingKey → Header → Bool
  validate : Expectations → Payload → Nat → Except ErrorKind Unit
  leeway : Nat

namespace TokenFormat

variable (format : TokenFormat)

/-- `DecodingKey::from_rsa_pem` and its siblings. -/
def fromPem (family : AlgorithmFamily) (text : String) : Option DecodingKey :=
  (format.pem family text).map fun material => ⟨family, material⟩

/-! ## What is assumed of it -/

/-- What a decoded token has: only the signature depends on the key. -/
structure Decoded {γ : Type} (read : Payload → Option γ) (validation : Validation)
    (key : DecodingKey) (token : String) (now : Nat) (header : Header) (claims : γ) : Prop where
  parsed : format.decodeHeader token = .ok header
  signed : validation.signatureDisabled = false →
    format.verify token key = true ∧ format.admits validation.algorithms key header = true
  payload : ∃ payload, format.payload token = some payload ∧ read payload = some claims ∧
    format.validate validation.toExpectations payload now = .ok ()

/-- `decode` checks the signature when that is enabled, and skips only that when it is not. -/
structure ChecksSignature : Prop where
  decode_eq_ok_iff {γ : Type} {read : Payload → Option γ} {validation : Validation}
    {key : DecodingKey} {token : String} {now : Nat} {header : Header} {claims : γ} :
    format.decode read validation key token now = .ok (header, claims) ↔
      format.Decoded read validation key token now header claims

theorem ChecksSignature.decode_disabled {format : TokenFormat} (hsignature : format.ChecksSignature)
    {γ : Type} {read : Payload → Option γ} {validation : Validation} {key : DecodingKey}
    {token : String} {now : Nat} {header : Header} {payload : Payload} {claims : γ}
    (hheader : format.decodeHeader token = .ok header)
    (hpayload : format.payload token = some payload) (hread : read payload = some claims)
    (hvalid : format.validate validation.toExpectations payload now = .ok ()) :
    format.decode read validation.insecureDisableSignatureValidation key token now =
      .ok (header, claims) := by
  refine hsignature.decode_eq_ok_iff.mpr ⟨hheader, ?_, payload, hpayload, hread, hvalid⟩
  intro henabled
  cases henabled

/-- A signed token must name an algorithm of the list, and the whole list must be of the family of
    the key. -/
structure ChecksAlgorithm : Prop where
  admits_iff {algorithms : List Algorithm} {key : DecodingKey} {header : Header} :
    format.admits algorithms key header = true ↔
      header.alg ∈ algorithms ∧ ∀ algorithm ∈ algorithms, key.family = algorithm.family

/-- An issuer that is set is compared with the one a token names. -/
structure EnforcesIssuer : Prop where
  exists_mem_iss {expectations : Expectations} {payload : Payload} {now : Nat}
    (hvalid : format.validate expectations payload now = .ok ()) {names given : List String}
    (hset : expectations.iss = some names) (hclaim : payload.names? "iss" = some given) :
    ∃ name ∈ given, name ∈ names

/-- The time of a token, and each claim it carries for which something is set. -/
structure Compared (expectations : Expectations) (payload : Payload) (now : Nat) : Prop where
  time : ∀ exp, payload.seconds? "exp" = some exp → now ≤ exp + format.leeway
  issuer : ∀ names given, expectations.iss = some names → payload.names? "iss" = some given →
    ∃ name ∈ given, name ∈ names
  audience : ∀ names given, expectations.aud = some names → payload.names? "aud" = some given →
    ∃ name ∈ given, name ∈ names
  subject : ∀ name given, expectations.sub = some name → payload "sub" = some (.text given) →
    given = name

/-- Claims are compared with what is set only if the token carries them, and only a claim that is
    required has to be there, which is `exp` by default. -/
structure ComparesClaims : Prop where
  compared {expectations : Expectations} {payload : Payload} {now : Nat}
    (hvalid : format.validate expectations payload now = .ok ()) :
    format.Compared expectations payload now
  lenient {expectations : Expectations} {payload : Payload} {now : Nat}
    (hcompared : format.Compared expectations payload now)
    (hdefault : expectations.requiredSpecClaims = none) (hexp : payload.seconds? "exp" ≠ none)
    (haud : payload "aud" = none) : format.validate expectations payload now = .ok ()

theorem ComparesClaims.enforcesIssuer {format : TokenFormat} (hclaims : format.ComparesClaims) :
    format.EnforcesIssuer :=
  ⟨fun hvalid _ _ hset hclaim => (hclaims.compared hvalid).issuer _ _ hset hclaim⟩

end TokenFormat

/-! ## A library that meets the assumptions -/

/-- Tokens by their parts. -/
structure TokenParts where
  header : String → Option Header
  payload : String → Option Payload
  verify : String → DecodingKey → Bool

namespace TokenParts

def admits (algorithms : List Algorithm) (key : DecodingKey) (header : Header) : Bool :=
  algorithms.contains header.alg && algorithms.all fun algorithm => key.family == algorithm.family

/-- Nothing is set, nothing is given, or something is given that is set. -/
def agree (names given : Option (List String)) : Bool :=
  names.all fun names => given.all fun given => given.any names.contains

theorem agree_iff {names given : Option (List String)} :
    agree names given = true ↔
      ∀ set, names = some set → ∀ found, given = some found → ∃ name ∈ found, name ∈ set := by
  cases names <;> cases given <;> simp [agree]

def compare (expectations : Expectations) (payload : Payload) (now : Nat) : Bool :=
  (payload.seconds? "exp").all (now ≤ · + 60) &&
    agree expectations.iss (payload.names? "iss") &&
    agree expectations.aud (payload.names? "aud") &&
    expectations.sub.all fun name => ((payload "sub").bind ClaimValue.text?).all (· == name)

def validate (expectations : Expectations) (payload : Payload) (now : Nat) :
    Except ErrorKind Unit :=
  if compare expectations payload now &&
      (expectations.requiredSpecClaims.getD ["exp"]).all fun claim => (payload claim).isSome then
    .ok ()
  else .error (.other "InvalidClaims")

def decode (parts : TokenParts) {γ : Type} (read : Payload → Option γ) (validation : Validation)
    (key : DecodingKey) (token : String) (now : Nat) : Except ErrorKind (Header × γ) :=
  match parts.header token, parts.payload token with
  | some header, some payload =>
    if validation.signatureDisabled ||
        parts.verify token key && admits validation.algorithms key header then
      match read payload, validate validation.toExpectations payload now with
      | some claims, .ok () => .ok (header, claims)
      | none, _ => .error (.other "Json")
      | _, .error kind => .error kind
    else .error (.other "InvalidSignature")
  | _, _ => .error (.other "InvalidToken")

def format (parts : TokenParts) : TokenFormat where
  decodeHeader token := match parts.header token with
    | some header => .ok header
    | none => .error (.other "InvalidToken")
  decode := parts.decode
  pem _ text := some text
  payload := parts.payload
  verify := parts.verify
  admits := admits
  validate := validate
  leeway := 60

theorem decodeHeader_eq_ok_iff {parts : TokenParts} {token : String} {header : Header} :
    parts.format.decodeHeader token = .ok header ↔ parts.header token = some header := by
  simp only [format]
  split <;> simp_all

theorem checksSignature_format (parts : TokenParts) : parts.format.ChecksSignature := by
  constructor
  intro γ read validation key token now header claims
  constructor
  · intro hok
    simp only [format, decode] at hok
    split at hok
    next found payload hheader hpayload =>
      split at hok
      next hsigned =>
        split at hok
        next hread hvalid =>
          cases hok
          refine ⟨decodeHeader_eq_ok_iff.2 hheader, ?_, payload, hpayload, hread, hvalid⟩
          intro henabled
          simpa [format, henabled] using hsigned
        next => cases hok
        next => cases hok
      next => cases hok
    next => cases hok
  · rintro ⟨hheader, hsigned, payload, hpayload, hread, hvalid⟩
    rw [decodeHeader_eq_ok_iff] at hheader
    simp only [format] at hsigned hpayload hvalid
    have hpasses : (validation.signatureDisabled ||
        parts.verify token key && admits validation.algorithms key header) = true := by
      cases hdisabled : validation.signatureDisabled with
      | true => rfl
      | false => simp [hsigned hdisabled]
    simp only [format, decode, hheader, hpayload, if_pos hpasses, hread, hvalid]

theorem checksAlgorithm_format (parts : TokenParts) : parts.format.ChecksAlgorithm :=
  ⟨by simp [format, admits]⟩

theorem compare_iff {parts : TokenParts} {expectations : Expectations} {payload : Payload}
    {now : Nat} : compare expectations payload now = true ↔
      parts.format.Compared expectations payload now := by
  have hsubject (given : String) : (payload "sub").bind ClaimValue.text? = some given ↔
      payload "sub" = some (.text given) := by
    rcases payload "sub" with _ | value
    · simp
    · cases value <;> simp [ClaimValue.text?]
  simp only [compare, Bool.and_eq_true, agree_iff, Option.all_eq_true, decide_eq_true_eq,
    beq_iff_eq, hsubject]
  constructor
  · rintro ⟨⟨⟨htime, hissuer⟩, haudience⟩, hsub⟩
    exact ⟨htime, fun _ _ => (hissuer _ · _), fun _ _ => (haudience _ · _), fun _ _ => (hsub _ · _)⟩
  · rintro ⟨htime, hissuer, haudience, hsub⟩
    exact ⟨⟨⟨htime, fun _ hset _ => hissuer _ _ hset⟩, fun _ hset _ => haudience _ _ hset⟩,
      fun _ hset _ => hsub _ _ hset⟩

theorem comparesClaims_format (parts : TokenParts) : parts.format.ComparesClaims where
  compared := by
    intro expectations payload now hvalid
    simp only [format, validate] at hvalid
    split at hvalid
    next hchecked => exact compare_iff.1 (Bool.and_eq_true_iff.1 hchecked).1
    next => cases hvalid
  lenient := by
    intro expectations payload now hcompared hdefault hexp _
    have hsome : (payload "exp").isSome = true := by
      rw [Option.isSome_iff_ne_none]
      rintro hnone
      exact hexp (by simp [Payload.seconds?, hnone])
    simp [format, validate, compare_iff.2 hcompared, hdefault, hsome]

end TokenParts

end Jsonwebtoken
