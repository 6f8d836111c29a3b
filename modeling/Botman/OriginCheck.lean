import Mathlib.Data.List.DropRight
import Botman.ChatEffects
import Botman.WidgetApi

/-!
`validate_origin` against the allow-list it enforces.

The host that a page is served from is the network location of the header
without userinfo and port.  The check compares the text before the first colon
of the location instead, and a list with an empty entry admits an empty host.
-/

namespace Botman.OriginCheck

open Botman.Library.PythonValue
open Botman.Library.PythonUrl
open Botman.DataModel
open Botman.TenantContext
open Botman.ChatbotSettings
open Botman.WidgetApi
open Botman.ChatEffects

section Hosts

/-- What follows the last `@`. -/
def withoutUserinfo (location : List Char) : List Char :=
  location.rtakeWhile fun c => c ≠ '@'

/-- A bracketed address may have colons of its own. -/
def withoutPort : List Char → List Char
  | '[' :: rest => '[' :: rest.takeWhile (fun c => c ≠ ']') ++ [']']
  | chars => chars.takeWhile fun c => c ≠ ':'

/-- The host of a location: without the user information and without the port. -/
def hostOf (location : String) : String :=
  String.ofList (withoutPort (withoutUserinfo location.toList))

/-- `request.headers.get('Origin') or request.headers.get('Referer')`. -/
def requestOrigin (headers : OriginHeaders) : Option String :=
  firstTruthy headers.origin (firstTruthy headers.referer none)

/-- The network location that the headers name, in lower case; absent where there is no
header, or none that is a URL. -/
def requestLocation (text : TextServices) (headers : OriginHeaders) : Option String :=
  (requestOrigin headers).bind fun origin => (netloc text.acceptsNetloc origin).map text.lower

/-- The host that the request comes from. -/
def requestHost (text : TextServices) (headers : OriginHeaders) : Option String :=
  (requestLocation text headers).map hostOf

/-- What the check takes for the host: the user name where the userinfo has a password,
and everything before the port otherwise. -/
def beforeColon (location : String) : String :=
  String.ofList (location.toList.takeWhile fun c => c ≠ ':')

/-- The entries of the list, as the check compares them. -/
def allowedEntries (text : TextServices) (allowed : String) : List String :=
  (split allowed ',').map fun entry => text.lower (strip entry)

/-- A non-empty entry of the list names the host. -/
def Listed (entries : List String) (host : String) : Prop :=
  host ≠ "" ∧ ∃ entry ∈ entries, entry ≠ "" ∧ entryAdmits entry host = true

/-- What the allow-list says: all hosts, or those that an entry names. -/
def Allowed (text : TextServices) (allowed : String) (headers : OriginHeaders) : Prop :=
  allowed = "*" ∨ ∃ host, requestHost text headers = some host ∧
    Listed (allowedEntries text allowed) host

/-- What the list says where an empty entry names the empty text. -/
def Admitted (entries : List String) (domain : String) : Prop :=
  domain = "" ∧ "" ∈ entries ∨ Listed entries domain

/-- A location without userinfo, and with no bracketed address. -/
def IsPlain (location : String) : Prop :=
  '@' ∉ location.toList ∧ location.toList.head? ≠ some '['

/-- Headers that the check takes for allowed, though the list does not name their host. -/
def Mistaken (text : TextServices) (allowed : String) (headers : OriginHeaders) : Prop :=
  allowed ≠ "*" ∧ ∃ location, requestLocation text headers = some location ∧
    Admitted (allowedEntries text allowed) (beforeColon location) ∧
      ¬ Listed (allowedEntries text allowed) (hostOf location)

theorem withoutUserinfo_eq_self {location : List Char} (h : '@' ∉ location) :
    withoutUserinfo location = location := by
  refine List.rtakeWhile_eq_self_iff.mpr fun c hc => decide_eq_true ?_
  rintro rfl
  exact h hc

theorem withoutPort_of_head {chars : List Char} (h : chars.head? ≠ some '[') :
    withoutPort chars = chars.takeWhile fun c => c ≠ ':' := by
  unfold withoutPort
  split
  · exact absurd rfl h
  · rfl

theorem hostOf_of_isPlain {location : String} (h : IsPlain location) :
    hostOf location = beforeColon location := by
  rw [hostOf, withoutUserinfo_eq_self h.1, withoutPort_of_head h.2, beforeColon]

theorem entryAdmits_empty (entry domain : String) :
    (entryAdmits "" domain = true ↔ domain = "") ∧
      (entryAdmits entry "" = true ↔ entry = "") := by
  constructor
  · simp [entryAdmits]
  · simp only [entryAdmits, Bool.or_eq_true, Bool.and_eq_true, decide_eq_true_eq]
    constructor
    · rintro (hentry | ⟨hdot, hsuffix⟩)
      · exact hentry.symm
      · have hnil : entry.toList = [] := List.suffix_nil.mp (List.isSuffixOf_iff_suffix.mp hsuffix)
        rw [hnil] at hdot
        cases hdot
    · rintro rfl
      exact Or.inl rfl

end Hosts

section Check

variable {text : TextServices} {headers : OriginHeaders} {bot : Chatbot} {allowed : String}

theorem validateOrigin_eq
    (hallowed : getD (getRuntimeConfig bot) "allowed_domains" (.str "*") = .str allowed) :
    validateOrigin text false headers bot = some (decide (allowed = "*") ||
      (requestOrigin headers).any (originAllowed text allowed)) := by
  simp only [validateOrigin, requestOrigin, Bool.false_eq_true, if_false, hallowed]
  cases firstTruthy headers.origin (firstTruthy headers.referer none) with
  | none => simp
  | some origin => rfl

theorem any_entryAdmits_iff (entries : List String) (domain : String) :
    (entries.any fun entry => entryAdmits entry domain) = true ↔ Admitted entries domain := by
  rw [List.any_eq_true, Admitted, Listed]
  by_cases hdomain : domain = ""
  · subst hdomain
    simp [(entryAdmits_empty _ "").2]
  · simp only [hdomain, false_and, false_or, ne_eq, not_false_eq_true, true_and]
    constructor
    · rintro ⟨entry, hentry, hadmits⟩
      refine ⟨entry, hentry, ?_, hadmits⟩
      rintro rfl
      exact hdomain ((entryAdmits_empty "" domain).1.mp hadmits)
    · rintro ⟨entry, hentry, -, hadmits⟩
      exact ⟨entry, hentry, hadmits⟩

theorem originAllowed_iff (origin : String) :
    originAllowed text allowed origin = true ↔
      ∃ location, (netloc text.acceptsNetloc origin).map text.lower = some location ∧
        Admitted (allowedEntries text allowed) (beforeColon location) := by
  unfold originAllowed originDomain
  cases netloc text.acceptsNetloc origin with
  | none => simp
  | some location => simp [← any_entryAdmits_iff, allowedEntries, beforeColon]

theorem validateOrigin_iff
    (hallowed : getD (getRuntimeConfig bot) "allowed_domains" (.str "*") = .str allowed) :
    validateOrigin text false headers bot = some true ↔
      allowed = "*" ∨ ∃ location, requestLocation text headers = some location ∧
        Admitted (allowedEntries text allowed) (beforeColon location) := by
  rw [validateOrigin_eq hallowed, Option.some.injEq, Bool.or_eq_true, decide_eq_true_eq,
    requestLocation]
  refine or_congr_right ?_
  cases requestOrigin headers with
  | none => simp
  | some origin => rw [Option.any_some, Option.bind_some, originAllowed_iff]

theorem allowed_iff : Allowed text allowed headers ↔
    allowed = "*" ∨ ∃ location, requestLocation text headers = some location ∧
      Listed (allowedEntries text allowed) (hostOf location) := by
  unfold Allowed requestHost
  refine or_congr_right ?_
  cases requestLocation text headers <;> simp

theorem admitted_iff_listed_of_isPlain {entries : List String} {location : String}
    (h : IsPlain location) :
    (Admitted entries (beforeColon location) ↔ Listed entries (hostOf location)) ↔
      (hostOf location = "" → "" ∉ entries) := by
  rw [hostOf_of_isPlain h]
  constructor
  · intro hsame hempty hentry
    exact (hsame.mp (Or.inl ⟨hempty, hentry⟩)).1 hempty
  · intro hno
    refine ⟨?_, Or.inr⟩
    rintro (⟨hempty, hentry⟩ | hlisted)
    · exact absurd hentry (hno hempty)
    · exact hlisted

theorem mistaken_iff
    (hallowed : getD (getRuntimeConfig bot) "allowed_domains" (.str "*") = .str allowed) :
    Mistaken text allowed headers ↔
      validateOrigin text false headers bot = some true ∧ ¬ Allowed text allowed headers := by
  rw [validateOrigin_iff hallowed, allowed_iff, Mistaken]
  by_cases hall : allowed = "*"
  · simp [hall]
  · simp only [hall, ne_eq, not_false_eq_true, true_and, false_or]
    cases requestLocation text headers <;> simp

/-- Whatever follows the first colon of a location, be it a password and the host
of another site, an entry before the colon admits it. -/
theorem validateOrigin_of_before_colon {origin location entry : String} {rest : List Char}
    (hallowed : getD (getRuntimeConfig bot) "allowed_domains" (.str "*") = .str allowed)
    (horigin : requestOrigin headers = some origin)
    (hlocation : netloc text.acceptsNetloc origin = some location)
    (hentry : entry ∈ allowedEntries text allowed) (hcolon : ':' ∉ entry.toList)
    (hlower : (text.lower location).toList = entry.toList ++ ':' :: rest) :
    validateOrigin text false headers bot = some true := by
  have hbefore : ∀ c ∈ entry.toList, decide (c ≠ ':') = true := by
    intro c hc
    refine decide_eq_true ?_
    rintro rfl
    exact hcolon hc
  have hdomain : originDomain text origin = some entry := by
    simp only [originDomain, hlocation, Option.map_some, hlower,
      List.takeWhile_append_of_pos hbefore]
    simp
  have hadmits : entryAdmits entry entry = true := by simp [entryAdmits]
  have hany : originAllowed text allowed origin = true := by
    rw [originAllowed, hdomain]
    exact List.any_eq_true.mpr ⟨entry, hentry, hadmits⟩
  rw [validateOrigin_eq hallowed, horigin, Option.any_some, hany, Bool.or_true]

end Check

section Evil

def restrictedBot (allowed : String) : Chatbot :=
  { supportBot with allowedDomains := allowed }

/-- A request with the header `Origin`. -/
def fromOrigin (origin : String) : OriginHeaders where
  origin := some origin
  referer := none

def asciiText : TextServices where
  lower := fun s => String.ofList (s.toList.map Char.toLower)
  acceptsNetloc := fun _ => true

end Evil

end Botman.OriginCheck
