import Slim.HashMap
import Slim.RustText
import Slim.Sequences
import Slim.Yaml

/-!
# References in the configuration: `config/src/provider.rs`

A string value `${provider:var}` of the configuration stands for what the provider loads.  The
resolver changes the value in place, and what it has changed before an error stays changed.  It
goes into sequences and into the values of mappings.  A tagged value falls into the arm of
everything else: no string below a tag is resolved, and none of them can make the call fail.
-/

namespace Slim.Config

open Yaml RustText Sequences

inductive ProviderError where
  | notFound
  | unknown
deriving DecidableEq, Repr

def ProviderError.display : ProviderError → String
  | notFound => "not found"
  | unknown => "unknown error"

/-- What a provider loads for a text. -/
abbrev ConfigProvider := List Char → Except ProviderError (List Char)

/-- Both providers of the source answer every failure in the same way. -/
def providerOf (source : List Char → Option (List Char)) : ConfigProvider := fun var =>
  match source var with
  | some text => .ok text
  | none => .error .notFound

structure ConfigResolver where
  providers : HashMap (List Char) ConfigProvider

namespace ConfigResolver

/-- The resolver over the variables of the environment and the files. -/
def new (env file : List Char → Option (List Char)) : ConfigResolver where
  providers := (HashMap.empty.insert ['e', 'n', 'v'] (providerOf env)).insert
    ['f', 'i', 'l', 'e'] (providerOf file)

def register (resolver : ConfigResolver) (name : List Char) (provider : ConfigProvider) :
    ConfigResolver where
  providers := resolver.providers.insert name provider

/-- `splitn(2, ':')` has a second part exactly if there is a colon. -/
def resolveString (resolver : ConfigResolver) (text : List Char) :
    Except ProviderError (List Char) :=
  match (stripFront ['$', '\x7b'] text).bind (stripBack ['\x7d']) with
  | none => .ok text
  | some providerAndRef =>
      match splitOnce ':' providerAndRef with
      | none => .error .notFound
      | some (provider, var) =>
          match resolver.providers.get? provider with
          | none => .error .notFound
          | some load => load var

mutual

/-- The result, and the value that the call leaves. -/
def resolve (resolver : ConfigResolver) : Value → Except ProviderError Unit × Value
  | .string text =>
      match resolver.resolveString text with
      | .error error => (.error error, .string text)
      | .ok loaded => (.ok (), .string loaded)
  | .sequence items => ((resolveItems resolver items).1, .sequence (resolveItems resolver items).2)
  | .mapping entries =>
      ((resolveEntries resolver entries).1, .mapping (resolveEntries resolver entries).2)
  | value => (.ok (), value)

def resolveItems (resolver : ConfigResolver) : List Value → Except ProviderError Unit × List Value
  | [] => (.ok (), [])
  | item :: items =>
      match resolve resolver item with
      | (.error error, left) => (.error error, left :: items)
      | (.ok (), left) => ((resolveItems resolver items).1, left :: (resolveItems resolver items).2)

def resolveEntries (resolver : ConfigResolver) :
    List (Value × Value) → Except ProviderError Unit × List (Value × Value)
  | [] => (.ok (), [])
  | (key, value) :: entries =>
      match resolve resolver value with
      | (.error error, left) => (.error error, (key, left) :: entries)
      | (.ok (), left) =>
          ((resolveEntries resolver entries).1, (key, left) :: (resolveEntries resolver entries).2)

end

variable (resolver : ConfigResolver)

theorem resolveItems_eq (items : List Value) :
    resolver.resolveItems items = tryEach resolver.resolve items := by
  induction items with
  | nil => rw [resolveItems, tryEach]
  | cons item items ih =>
      rw [resolveItems, tryEach, ih]
      rcases resolver.resolve item with ⟨_ | _, left⟩ <;> rfl

theorem resolveEntries_eq (entries : List (Value × Value)) :
    resolver.resolveEntries entries =
      tryEach (fun entry => ((resolver.resolve entry.2).1, entry.1, (resolver.resolve entry.2).2))
        entries := by
  induction entries with
  | nil => rw [resolveEntries, tryEach]
  | cons entry entries ih =>
      rcases entry with ⟨key, value⟩
      rw [resolveEntries, tryEach, ih]
      rcases resolver.resolve value with ⟨_ | _, left⟩ <;> rfl

/-! ## One string -/

variable {text provider var loaded : List Char} {value : Value}

/-- The text stands between `${` and `}`. -/
def Encloses (text inner : List Char) : Prop := text = ['$', '\x7b'] ++ (inner ++ ['\x7d'])

/-- The text is `${provider:var}`. -/
def Reference (text provider var : List Char) : Prop :=
  Encloses text (provider ++ ':' :: var) ∧ ':' ∉ provider

/-- The text is a reference, and `loaded` is what it stands for. -/
def Loads (text loaded : List Char) : Prop :=
  ∃ provider var load, Reference text provider var ∧
    resolver.providers.get? provider = some load ∧ load var = .ok loaded

/-- The text is enclosed and has no colon, or it names no provider, or what it names cannot be
    loaded. -/
def Fails (text : List Char) : Prop :=
  (∃ inner, Encloses text inner ∧ ':' ∉ inner) ∨
    ∃ provider var, Reference text provider var ∧
      (resolver.providers.get? provider = none ∨
        ∃ load error, resolver.providers.get? provider = some load ∧ load var = .error error)

theorem Encloses.inj {inner other : List Char} (hinner : Encloses text inner)
    (hother : Encloses text other) : inner = other := by
  have heq := hinner.symm.trans hother
  simpa [Encloses] using heq

theorem Reference.inj {provider' var' : List Char} (href : Reference text provider var)
    (href' : Reference text provider' var') :
    provider = provider' ∧ var = var' := by
  have hinner := href.1.inj href'.1
  have hsplit := splitOnce_append var href.2
  rw [hinner, splitOnce_append var' href'.2] at hsplit
  simp only [Option.some.injEq, Prod.mk.injEq] at hsplit
  exact ⟨hsplit.1.symm, hsplit.2.symm⟩

theorem strip_eq_some_iff {inner : List Char} :
    (stripFront ['$', '\x7b'] text).bind (stripBack ['\x7d']) = some inner ↔
      Encloses text inner := by
  rw [Option.bind_eq_some_iff]
  simp only [stripFront_eq_some_iff, stripBack_eq_some_iff]
  constructor
  · rintro ⟨rest, rfl, rfl⟩
    rfl
  · intro hencloses
    exact ⟨_, hencloses, rfl⟩

/-- What a string can be, and what it is resolved to. -/
theorem resolveString_cases (text : List Char) :
    ((∀ inner, ¬ Encloses text inner) ∧ resolver.resolveString text = .ok text) ∨
    (∃ loaded, resolver.Loads text loaded ∧ resolver.resolveString text = .ok loaded) ∨
    (resolver.Fails text ∧ ∃ error, resolver.resolveString text = .error error) := by
  unfold resolveString
  rcases hstrip : (stripFront ['$', '\x7b'] text).bind (stripBack ['\x7d']) with _ | inner
  · refine .inl ⟨fun inner hencloses => ?_, rfl⟩
    rw [strip_eq_some_iff.2 hencloses] at hstrip
    cases hstrip
  · have hencloses := strip_eq_some_iff.1 hstrip
    by_cases hcolon : ':' ∈ inner
    · obtain ⟨provider, var, rfl, hprovider⟩ := List.eq_append_cons_of_mem hcolon
      have href : Reference text provider var := ⟨hencloses, hprovider⟩
      simp only [splitOnce_append var hprovider]
      rcases hget : resolver.providers.get? provider with _ | load
      · exact .inr (.inr ⟨.inr ⟨provider, var, href, .inl hget⟩, _, rfl⟩)
      · rcases hload : load var with error | loaded
        · have hfails : resolver.Fails text :=
            .inr ⟨provider, var, href, .inr ⟨load, error, hget, hload⟩⟩
          exact .inr (.inr ⟨hfails, error, hload⟩)
        · exact .inr (.inl ⟨loaded, ⟨provider, var, load, href, hget, hload⟩, hload⟩)
    · simp only [splitOnce_of_not_mem hcolon]
      exact .inr (.inr ⟨.inl ⟨inner, hencloses, hcolon⟩, _, rfl⟩)

theorem fails_iff (text : List Char) :
    resolver.Fails text ↔ ∃ error, resolver.resolveString text = .error error := by
  constructor
  · intro hfails
    rcases resolver.resolveString_cases text with ⟨hplain, -⟩ | ⟨loaded, hloads, -⟩ | ⟨-, herror⟩
    · rcases hfails with ⟨inner, hencloses, -⟩ | ⟨provider, var, href, -⟩
      · exact absurd hencloses (hplain inner)
      · exact absurd href.1 (hplain _)
    · obtain ⟨provider, var, load, href, hget, hload⟩ := hloads
      rcases hfails with ⟨inner, hencloses, hcolon⟩ | ⟨provider', var', href', hfails⟩
      · rw [hencloses.inj href.1] at hcolon
        exact absurd (List.mem_append_right provider List.mem_cons_self) hcolon
      · obtain ⟨rfl, rfl⟩ := href.inj href'
        rcases hfails with hnone | ⟨load', error, hget', herror⟩
        · cases hget.symm.trans hnone
        · cases hget.symm.trans hget'
          cases hload.symm.trans herror
    · exact herror
  · rintro ⟨error, herror⟩
    rcases resolver.resolveString_cases text with ⟨-, hok⟩ | ⟨loaded, -, hok⟩ | ⟨hfails, -⟩
    · cases hok.symm.trans herror
    · cases hok.symm.trans herror
    · exact hfails

/-- The text is what a string is resolved to. -/
def Resolves (text loaded : List Char) : Prop :=
  resolver.Loads text loaded ∨ (∀ inner, ¬ Encloses text inner) ∧ loaded = text

theorem resolves_iff :
    resolver.Resolves text loaded ↔ resolver.resolveString text = .ok loaded := by
  constructor
  · rintro (⟨provider, var, load, href, hget, hload⟩ | ⟨hplain, rfl⟩)
    · have hstrip := strip_eq_some_iff.2 href.1
      simp only [resolveString, hstrip, splitOnce_append var href.2, hget, hload]
    · have hnone : (stripFront ['$', '\x7b'] loaded).bind (stripBack ['\x7d']) = none := by
        rw [Option.eq_none_iff_forall_ne_some]
        exact fun inner hsome => hplain inner (strip_eq_some_iff.1 hsome)
      simp only [resolveString, hnone]
  · intro hok
    rcases resolver.resolveString_cases text with
      ⟨hplain, hsame⟩ | ⟨other, hloads, hother⟩ | ⟨-, error, herror⟩
    · exact .inr ⟨hplain, (Except.ok.inj (hsame.symm.trans hok)).symm⟩
    · rw [Except.ok.inj (hok.symm.trans hother)]
      exact .inl hloads
    · cases hok.symm.trans herror

/-! ## A whole value -/

/-- What a string becomes, if the call returns. -/
def leaf (text : List Char) : List Char :=
  match resolver.resolveString text with
  | .ok loaded => loaded
  | .error _ => text

theorem resolves_leaf (hfine : ¬ resolver.Fails text) :
    resolver.Resolves text (resolver.leaf text) := by
  rw [resolves_iff, leaf]
  rcases hresolve : resolver.resolveString text with error | loaded
  · exact absurd ((resolver.fails_iff text).2 ⟨error, hresolve⟩) hfine
  · rfl

/-- Below a tag nothing changes. -/
def leafOutsideTags (inTag : Bool) (text : List Char) : List Char :=
  if inTag then text else resolver.leaf text

theorem mapStrings_leafOutsideTags (value : Value) :
    Value.mapStrings resolver.leafOutsideTags true value = value := by
  have hsame : Value.mapStrings resolver.leafOutsideTags true value =
      Value.mapStrings (fun _ text => text) true value := by
    rw [Value.mapStrings_eq_iff]
    intro leaf hleaf
    rw [Value.eq_true_of_mem_leaves hleaf]
    rfl
  rw [hsame, Value.mapStrings_id]

/-- Without a failing string outside the tags the call returns, and has changed the strings
    there. -/
theorem resolve_of_fine (value : Value)
    (hfine : ∀ text, (false, text) ∈ value.leaves false → ¬ resolver.Fails text) :
    resolver.resolve value = (.ok (), value.mapStrings resolver.leafOutsideTags false) := by
  induction value using Value.induct with
  | null | bool | number => simp only [resolve, Value.mapStrings]
  | string text =>
      have hok := resolver.resolves_iff.1
        (resolver.resolves_leaf (hfine text (List.mem_singleton.2 rfl)))
      simp only [resolve, hok]
      rfl
  | sequence items ih =>
      rw [resolve, resolveItems_eq, Value.mapStrings_sequence, tryEach_of_forall]
      intro item hitem
      apply ih item hitem
      intro text htext
      apply hfine text
      rw [Value.leaves_sequence, List.mem_flatMap]
      exact ⟨item, hitem, htext⟩
  | mapping entries ih =>
      rw [resolve, resolveEntries_eq, Value.mapStrings_mapping, tryEach_of_forall]
      intro entry hentry
      rw [ih entry hentry]
      intro text htext
      apply hfine text
      rw [Value.leaves_mapping, List.mem_flatMap]
      exact ⟨entry, hentry, htext⟩
  | tagged tag value ih => simp only [resolve, Value.mapStrings, mapStrings_leafOutsideTags]

theorem resolve_of_fails (value : Value)
    (hfails : ∃ text, (false, text) ∈ value.leaves false ∧ resolver.Fails text) :
    ∃ error, (resolver.resolve value).1 = .error error := by
  induction value using Value.induct with
  | null | bool | number => simp [Value.leaves] at hfails
  | string text =>
      obtain ⟨other, hmem, hfails⟩ := hfails
      cases List.mem_singleton.1 hmem
      obtain ⟨error, herror⟩ := (resolver.fails_iff text).1 hfails
      exact ⟨error, by simp only [resolve, herror]⟩
  | sequence items ih =>
      obtain ⟨text, hmem, hfails⟩ := hfails
      rw [Value.leaves_sequence, List.mem_flatMap] at hmem
      obtain ⟨item, hitem, htext⟩ := hmem
      rw [resolve, resolveItems_eq]
      exact tryEach_of_exists ⟨item, hitem, ih item hitem ⟨text, htext, hfails⟩⟩
  | mapping entries ih =>
      obtain ⟨text, hmem, hfails⟩ := hfails
      rw [Value.leaves_mapping, List.mem_flatMap] at hmem
      obtain ⟨entry, hentry, htext⟩ := hmem
      rw [resolve, resolveEntries_eq]
      exact tryEach_of_exists ⟨entry, hentry, ih entry hentry ⟨text, htext, hfails⟩⟩
  | tagged tag value ih =>
      obtain ⟨text, hmem, -⟩ := hfails
      cases Value.eq_true_of_mem_leaves hmem

/-! ## The leafwise map of the providers -/

/-- What resolving a value should do: change each reference, leave the other strings and the
    rest alone, and fail exactly if one of the strings fails. -/
structure LeafwiseMap (value : Value) : Prop where
  returns : ∀ left, resolver.resolve value = (.ok (), left) →
    ∃ change : List Char → List Char, left = value.mapStrings (fun _ => change) false ∧
      ∀ text ∈ value.strings,
        (∀ provider var, Reference text provider var →
          ∃ load, resolver.providers.get? provider = some load ∧ load var = .ok (change text)) ∧
        ((∀ provider var, ¬ Reference text provider var) → change text = text)
  fails : (∃ error, (resolver.resolve value).1 = .error error) ↔
    ∃ text ∈ value.strings, resolver.Fails text
  survives : ∀ left, resolver.resolve value = (.ok (), left) →
    ∀ text ∈ left.strings, ∀ provider var, Reference text provider var →
      ∃ source ∈ value.strings, resolver.Loads source text

theorem mem_strings_iff :
    text ∈ value.strings ↔ ∃ inTag, (inTag, text) ∈ value.leaves false := by
  simp [Value.strings]

theorem resolves_of_reference (hresolves : resolver.Resolves text loaded)
    (href : Reference text provider var) :
    ∃ load, resolver.providers.get? provider = some load ∧ load var = .ok loaded := by
  rcases hresolves with ⟨provider', var', load, href', hget, hload⟩ | ⟨hplain, -⟩
  · obtain ⟨rfl, rfl⟩ := href.inj href'
    exact ⟨load, hget, hload⟩
  · exact absurd href.1 (hplain _)

theorem eq_of_not_reference (hresolves : resolver.Resolves text loaded)
    (hnot : ∀ provider var, ¬ Reference text provider var) : loaded = text := by
  rcases hresolves with ⟨provider, var, _, href, -⟩ | ⟨-, hsame⟩
  · exact absurd href (hnot provider var)
  · exact hsame

/-- If no string fails outside the tags and those below a tag stand for themselves, every string
    has a text that it is resolved to. -/
theorem resolves_of_mem_strings
    (hfine : ∀ text, (false, text) ∈ value.leaves false → ¬ resolver.Fails text)
    (htagged : ∀ text, (true, text) ∈ value.leaves false → resolver.Resolves text text)
    (htext : text ∈ value.strings) :
    resolver.Resolves text (resolver.leaf text) := by
  apply resolver.resolves_leaf
  obtain ⟨inTag, hleaf⟩ := mem_strings_iff.1 htext
  cases inTag with
  | false => exact hfine text hleaf
  | true =>
      rw [fails_iff, resolver.resolves_iff.1 (htagged text hleaf)]
      rintro ⟨error, herror⟩
      cases herror

/-- It makes no difference then that the strings below a tag are left alone. -/
theorem mapStrings_leaf_of_tagged
    (htagged : ∀ text, (true, text) ∈ value.leaves false → resolver.Resolves text text) :
    value.mapStrings resolver.leafOutsideTags false =
      value.mapStrings (fun _ => resolver.leaf) false := by
  rw [Value.mapStrings_eq_iff]
  rintro ⟨inTag, text⟩ hleaf
  cases inTag with
  | false => rfl
  | true =>
      have hself := resolver.resolves_iff.1 (htagged text hleaf)
      simp only [leafOutsideTags, if_true, leaf, hself]

/-- A reference in the result was loaded. -/
theorem loads_of_survives
    (hresolves : ∀ text ∈ value.strings, resolver.Resolves text (resolver.leaf text))
    (htext : text ∈ (value.mapStrings (fun _ => resolver.leaf) false).strings)
    (href : Reference text provider var) :
    ∃ source ∈ value.strings, resolver.Loads source text := by
  obtain ⟨inTag, hleaf⟩ := mem_strings_iff.1 htext
  rw [Value.leaves_mapStrings, List.mem_map] at hleaf
  obtain ⟨⟨inTag, source⟩, hsource, heq⟩ := hleaf
  obtain ⟨-, rfl⟩ := Prod.mk.inj heq
  have hmem : source ∈ value.strings := mem_strings_iff.2 ⟨inTag, hsource⟩
  refine ⟨source, hmem, ?_⟩
  rcases hresolves source hmem with hloads | ⟨hplain, hsame⟩
  · exact hloads
  · rw [hsame] at href
    exact absurd href.1 (hplain _)

theorem leafwiseMap_of_resolves
    (hfine : ∀ text, (false, text) ∈ value.leaves false → ¬ resolver.Fails text)
    (htagged : ∀ text, (true, text) ∈ value.leaves false → resolver.Resolves text text) :
    resolver.LeafwiseMap value := by
  have hresolves : ∀ text ∈ value.strings, resolver.Resolves text (resolver.leaf text) :=
    fun text htext => resolver.resolves_of_mem_strings hfine htagged htext
  have hresolve := resolver.resolve_of_fine value hfine
  rw [resolver.mapStrings_leaf_of_tagged htagged] at hresolve
  constructor
  · intro left hleft
    cases hresolve.symm.trans hleft
    refine ⟨resolver.leaf, rfl, fun text htext => ⟨fun provider var href => ?_, fun hnot => ?_⟩⟩
    · exact resolver.resolves_of_reference (hresolves text htext) href
    · exact resolver.eq_of_not_reference (hresolves text htext) hnot
  · apply iff_of_false
    · rw [hresolve]
      rintro ⟨error, herror⟩
      cases herror
    · rintro ⟨text, htext, hfails⟩
      obtain ⟨error, herror⟩ := (resolver.fails_iff text).1 hfails
      cases (resolver.resolves_iff.1 (hresolves text htext)).symm.trans herror
  · intro left hleft text htext provider var href
    cases hresolve.symm.trans hleft
    exact resolver.loads_of_survives hresolves htext href

/-- A call that has to fail does fail. -/
theorem leafwiseMap_of_fails
    (hfails : ∃ text, (false, text) ∈ value.leaves false ∧ resolver.Fails text) :
    resolver.LeafwiseMap value := by
  obtain ⟨error, herror⟩ := resolver.resolve_of_fails value hfails
  have hnever : ∀ left, resolver.resolve value ≠ (.ok (), left) := by
    intro left hleft
    rw [hleft] at herror
    cases herror
  obtain ⟨text, htext, hfails⟩ := hfails
  constructor
  · intro left hleft
    exact absurd hleft (hnever left)
  · exact iff_of_true ⟨error, herror⟩ ⟨text, mem_strings_iff.2 ⟨false, htext⟩, hfails⟩
  · intro left hleft
    exact absurd hleft (hnever left)

/-- If the map is leafwise and the call returns, a string below a tag, which has not changed,
    stands for itself. -/
theorem resolves_self_of_leafwiseMap (hleafwise : resolver.LeafwiseMap value)
    (hfine : ∀ text, (false, text) ∈ value.leaves false → ¬ resolver.Fails text)
    (htext : (true, text) ∈ value.leaves false) :
    resolver.Resolves text text := by
  have hresolve := resolver.resolve_of_fine value hfine
  have hmem : text ∈ value.strings := mem_strings_iff.2 ⟨true, htext⟩
  have hnot : ¬ resolver.Fails text := by
    intro htextFails
    obtain ⟨error, herror⟩ := hleafwise.fails.2 ⟨text, hmem, htextFails⟩
    rw [hresolve] at herror
    cases herror
  obtain ⟨change, hchange, hstrings⟩ := hleafwise.returns _ hresolve
  have hsame : text = change text :=
    (Value.mapStrings_eq_iff value false).1 hchange (true, text) htext
  have hresolves := resolver.resolves_leaf hnot
  by_cases href : ∃ provider var, Reference text provider var
  · obtain ⟨provider, var, href⟩ := href
    obtain ⟨load, hget, hload⟩ := (hstrings text hmem).1 provider var href
    rw [← hsame] at hload
    exact .inl ⟨provider, var, load, href, hget, hload⟩
  · have hplain := resolver.eq_of_not_reference hresolves
      fun provider var hfound => href ⟨provider, var, hfound⟩
    rwa [hplain] at hresolves

/-- Resolving is the leafwise map exactly if a string outside the tags makes the call fail, or
    every string below a tag stands for itself. -/
theorem leafwiseMap_iff (value : Value) :
    resolver.LeafwiseMap value ↔
      (∃ text, (false, text) ∈ value.leaves false ∧ resolver.Fails text) ∨
        ∀ text, (true, text) ∈ value.leaves false → resolver.Resolves text text := by
  by_cases hfails : ∃ text, (false, text) ∈ value.leaves false ∧ resolver.Fails text
  · exact iff_of_true (resolver.leafwiseMap_of_fails hfails) (.inl hfails)
  · have hfine : ∀ text, (false, text) ∈ value.leaves false → ¬ resolver.Fails text :=
      fun text htext htextFails => hfails ⟨text, htext, htextFails⟩
    constructor
    · intro hleafwise
      exact .inr fun text htext => resolver.resolves_self_of_leafwiseMap hleafwise hfine htext
    · rintro (hcontra | htagged)
      · exact absurd hcontra hfails
      · exact resolver.leafwiseMap_of_resolves hfine htagged

def sampleReference : List Char := ['$', '\x7b', 'e', 'n', 'v', ':', 'A', '\x7d']

/-- The reference below a tag. -/
def sampleValue (text : List Char) : Value :=
  .mapping [(.string ['k'], .tagged ['t'] (.string text))]

/-- Below a tag `${env:A}` stays, with the variable set. -/
theorem tagged_reference_survives :
    let resolver := ConfigResolver.new (fun _ => some ['s']) fun _ => none
    resolver.resolve (.string sampleReference) = (.ok (), .string ['s']) ∧
      resolver.resolve (sampleValue sampleReference) = (.ok (), sampleValue sampleReference) ∧
      ¬ resolver.LeafwiseMap (sampleValue sampleReference) := by
  refine ⟨rfl, rfl, fun hleafwise => ?_⟩
  obtain ⟨change, hchange, hstrings⟩ := hleafwise.returns (sampleValue sampleReference) rfl
  obtain ⟨load, hget, hload⟩ := (hstrings sampleReference (List.mem_singleton.2 rfl)).1
    ['e', 'n', 'v'] ['A'] ⟨rfl, by decide⟩
  obtain rfl : providerOf (fun _ => some ['s']) = load := Option.some.inj hget
  have hloaded : ['s'] = change sampleReference := Except.ok.inj hload
  have hsame : sampleValue sampleReference = sampleValue (change sampleReference) := hchange
  rw [← hloaded] at hsame
  simp [sampleValue, sampleReference] at hsame

end ConfigResolver

end Slim.Config
