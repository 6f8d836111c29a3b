import Botman.ChatbotLimits

/-!
The two ways to an account: `SignupView`, and `GoogleLoginView`, which looks the
account of a verified email up or creates it.

The column `email` is not unique.  An account that a Google login creates takes
the email as its username, which a sign-up may hold already.
-/

namespace Botman.GoogleSignIn

open Botman.Library.KeyedTable
open Botman.Library.Transition
open Botman.Library.PythonValue
open Botman.ChatbotLimits

section Tables

/-- A row of `User`, as far as a login reads it. -/
structure Account where
  id : Nat
  username : String
  email : String
  firstName : String
  isActive : Bool
  deriving DecidableEq

instance : HasKey Account where
  key := Account.id
  withKey := fun n r => { r with id := n }
  key_withKey := fun _ _ => rfl

/-- The database with its accounts.  The column `username` is unique. -/
structure Registry extends Accounts where
  users : Table Account
  usernameUnique : ∀ r ∈ users.rows, ∀ s ∈ users.rows, r.username = s.username → r = s

/-- How the database refuses a row. -/
inductive RowError where
  | dataError
  | integrityError
  deriving DecidableEq, Repr

theorem usernameUnique_create {db : Registry} {row : Account}
    (h : ∀ r ∈ db.users.rows, r.username ≠ row.username) :
    ∀ r ∈ (db.users.create row).rows, ∀ s ∈ (db.users.create row).rows,
      r.username = s.username → r = s := by
  intro r hr s hs hname
  rcases (db.users.mem_create row r).mp hr with hr | rfl
  · rcases (db.users.mem_create row s).mp hs with hs | rfl
    · exact db.usernameUnique r hr s hs hname
    · exact absurd hname (h r hr)
  · rcases (db.users.mem_create row s).mp hs with hs | rfl
    · exact absurd hname.symm (h s hs)
    · rfl

/-- INSERT of an account.  `accepts n` tells which texts the database takes in a
column of `n` characters. -/
def createUser (accepts : Nat → String → Bool) (db : Registry) (row : Account) :
    Except RowError Registry :=
  if !(accepts 150 row.username && accepts 254 row.email && accepts 150 row.firstName) then
    .error .dataError
  else if h : ∀ r ∈ db.users.rows, r.username ≠ row.username then
    .ok
      { db with
        users := db.users.create row
        usernameUnique := usernameUnique_create h }
  else .error .integrityError

end Tables

section Signup

/-- The validators and conversions of texts: `UnicodeUsernameValidator`,
`EmailValidator`, the normal form NFKC, and `str.lower`. -/
structure TextRules where
  isUsername : String → Bool
  isEmail : String → Bool
  normalizeUsername : String → String
  lower : String → String

/-- The conversion of a `CharField`, before its validators. -/
def charText (repr : Json → String) (required allowBlank : Bool) :
    Option Json → Except String (Option String)
  | none => if required then .error "This field is required." else .ok none
  | some .null => .error "This field may not be null."
  | some (.str s) =>
      if strip s = "" then
        if allowBlank then .ok (some "") else .error "This field may not be blank."
      else .ok (some (strip s))
  | some (.int n) => .ok (some (toString n))
  | some (.float q) => .ok (some (repr (.float q)))
  | some _ => .error "Not a valid string."

/-- A validator as its verdict on a text, and its message. -/
structure Check where
  passes : Bool
  message : String

/-- `run_validation`: a blank that is allowed is not validated. -/
def runValidation (checks : String → List Check) (value : Except String (Option String)) :
    Except (List String) (Option String) :=
  match value with
  | .error message => .error [message]
  | .ok none => .ok none
  | .ok (some text) =>
      let failed := (checks text).filter fun check => !check.passes
      if text = "" || failed.isEmpty then .ok (some text)
      else .error (failed.map Check.message)

/-- `ProhibitNullCharactersValidator`. -/
def prohibitNull (text : String) : Check where
  passes := !text.toList.contains (Char.ofNat 0)
  message := "Null characters are not allowed."

/-- `MaxLengthValidator`. -/
def maxLength (limit : Nat) (text : String) : Check where
  passes := text.length ≤ limit
  message := "Ensure this field has no more than " ++ toString limit ++ " characters."

/-- The validators of the field `username`, in their order. -/
def usernameChecks (rules : TextRules) (db : Registry) (text : String) : List Check :=
  [⟨rules.isUsername text, "Enter a valid username. This value may contain only letters, " ++
      "numbers, and @/./+/-/_ characters."⟩,
    ⟨db.users.rows.all fun r => r.username ≠ text, "A user with that username already exists."⟩,
    maxLength 150 text, prohibitNull text]

def emailChecks (rules : TextRules) (text : String) : List Check :=
  [maxLength 254 text, prohibitNull text,
    ⟨rules.isEmail text, "Enter a valid email address."⟩]

def passwordChecks (text : String) : List Check :=
  [prohibitNull text]

/-- The validated data of `UserSerializer`. -/
structure SignupFields where
  username : String
  email : Option String
  password : String

def fieldErrors (field : String) :
    Except (List String) (Option String) → List (String × List String)
  | .error messages => [(field, messages)]
  | .ok _ => []

/-- `UserSerializer.is_valid`: the fields that passed, or the errors of all that did
not. -/
def userSerializer (rules : TextRules) (repr : Json → String) (db : Registry) (data : Dict) :
    Except (List (String × List String)) SignupFields :=
  let username := runValidation (usernameChecks rules db)
    (charText repr true false (data.lookup "username"))
  let email := runValidation (emailChecks rules) (charText repr false true (data.lookup "email"))
  let password := runValidation passwordChecks
    (charText repr true false (data.lookup "password"))
  match username, email, password with
  | .ok (some username), .ok email, .ok (some password) => .ok ⟨username, email, password⟩
  | username, email, password =>
      .error (fieldErrors "username" username ++ fieldErrors "email" email ++
        fieldErrors "password" password)

/-- `s.rsplit('@', 1)`, absent where there is no such character. -/
def rsplitAt (s : String) : Option (String × String) :=
  let reversed := s.toList.reverse
  match reversed.dropWhile (fun c => c ≠ '@') with
  | [] => none
  | _ :: name =>
      some (String.ofList name.reverse,
        String.ofList (reversed.takeWhile (fun c => c ≠ '@')).reverse)

/-- `BaseUserManager.normalize_email`. -/
def normalizeEmail (rules : TextRules) (email : String) : String :=
  match rsplitAt (strip email) with
  | none => email
  | some (name, domain) => name ++ "@" ++ rules.lower domain

/-- The row that `create_user` makes. -/
def signupUser (rules : TextRules) (fields : SignupFields) : Account where
  id := 0
  username := rules.normalizeUsername fields.username
  email := normalizeEmail rules (fields.email.getD "")
  firstName := ""
  isActive := true

/-- The responses of the sign-up. -/
inductive SignupResponse where
  | created (user : Account)
  | invalid (errors : List (String × List String))
  | serverError
  deriving DecidableEq

/-- `SignupView.post`.  The uniqueness of a username is validated before its
normal form is taken, so the database may still refuse it. -/
def signup (rules : TextRules) (accepts : Nat → String → Bool) (repr : Json → String)
    (db : Registry) (data : Dict) : Registry × SignupResponse :=
  match userSerializer rules repr db data with
  | .error errors => (db, .invalid errors)
  | .ok fields =>
      match createUser accepts db (signupUser rules fields) with
      | .error _ => (db, .serverError)
      | .ok created => (created, .created (db.users.created (signupUser rules fields)))

end Signup

section Login

/-- The claims of an ID token that are read; an absent email reads like an empty
one, and an absent name is empty. -/
structure DecodedToken where
  email : String
  name : String

/-- `decoded` is what `auth.verify_id_token` returns, absent where it raises. -/
structure GoogleRequest where
  idToken : String
  decoded : Option DecodedToken

/-- How a login fails. -/
inductive LoginError where
  | noToken
  | noEmail
  | invalidToken
  | multipleObjectsReturned (count : Nat)
  | row (error : RowError)
  | planDoesNotExist
  deriving DecidableEq, Repr

/-- The text of the answer 400, absent where Firebase or the database writes it. -/
def LoginError.text : LoginError → Option String
  | .noToken => some "No ID token provided"
  | .noEmail => some "Email not found in token"
  | .multipleObjectsReturned count =>
      some ("get() returned more than one User -- it returned " ++
        (if count < 21 then toString count else "more than 20") ++ "!")
  | .planDoesNotExist => some "Plan matching query does not exist."
  | .invalidToken => none
  | .row _ => none

example : (LoginError.multipleObjectsReturned 2).text =
    some "get() returned more than one User -- it returned 2!" := by
  decide

/-- What a login returns beside its tokens. -/
structure LoginResponse where
  user : Account
  isNewUser : Bool
  deriving DecidableEq

/-- The accounts with an email. -/
def usersWith (db : Registry) (email : String) : List Account :=
  db.users.rows.filter fun r => r.email = email

/-- The row that `get_or_create` inserts. -/
def googleUser (email name : String) : Account where
  id := 0
  username := email
  email := email
  firstName := name
  isActive := true

/-- The registry after the account was found or made, and the response with it. -/
structure Found where
  db : Registry
  response : LoginResponse

/-- `User.objects.get_or_create(email=email, defaults=...)`. -/
def getOrCreate (accepts : Nat → String → Bool) (db : Registry) (email name : String) :
    Except LoginError Found :=
  match usersWith db email with
  | [] =>
      match createUser accepts db (googleUser email name) with
      | .error e => .error (.row e)
      | .ok created => .ok ⟨created, db.users.created (googleUser email name), true⟩
  | [user] => .ok ⟨db, user, false⟩
  | users => .error (.multipleObjectsReturned users.length)

/-- `GoogleLoginView.post` once the token is verified.  An account that was
created stays where the free plan is missing. -/
def loginWith (accepts : Nat → String → Bool) (db : Registry) (token : DecodedToken) :
    Registry × Except LoginError LoginResponse :=
  match getOrCreate accepts db token.email token.name with
  | .error e => (db, .error e)
  | .ok found =>
      match ensureSubscription found.db.toAccounts found.response.user.id with
      | none => (found.db, .error .planDoesNotExist)
      | some subscribed => ({ found.db with toAccounts := subscribed.1 }, .ok found.response)

/-- `GoogleLoginView.post`. -/
def googleLogin (accepts : Nat → String → Bool) (db : Registry) (request : GoogleRequest) :
    Registry × Except LoginError LoginResponse :=
  if request.idToken = "" then (db, .error .noToken)
  else
    match request.decoded with
    | none => (db, .error .invalidToken)
    | some token =>
        if token.email = "" then (db, .error .noEmail) else loginWith accepts db token

end Login

section Effects

variable {accepts : Nat → String → Bool} {db : Registry}

/-- The database accepts the texts of the row. -/
def Fits (accepts : Nat → String → Bool) (row : Account) : Prop :=
  (accepts 150 row.username && accepts 254 row.email && accepts 150 row.firstName) = true

theorem createUser_eq_ok {row : Account} {created : Registry}
    (h : createUser accepts db row = .ok created) :
    Fits accepts row ∧ (∀ r ∈ db.users.rows, r.username ≠ row.username) ∧
      created.users = db.users.create row ∧ created.toAccounts = db.toAccounts := by
  unfold createUser at h
  split at h
  · cases h
  · rename_i hfits
    split at h
    · rename_i hfree
      cases h
      exact ⟨by simpa [Fits] using hfits, hfree, rfl, rfl⟩
    · cases h

theorem exists_createUser {row : Account} (hfits : Fits accepts row)
    (hfree : ∀ r ∈ db.users.rows, r.username ≠ row.username) :
    ∃ created, createUser accepts db row = .ok created := by
  rw [createUser, if_neg (by rw [hfits]; decide), dif_pos hfree]
  exact ⟨_, rfl⟩

/-- A login with the email of the token gets past the look-up: one account has the
email, or none has it, none has it as its username, and the database takes the
texts of the new account. -/
def CanLogin (accepts : Nat → String → Bool) (db : Registry) (token : DecodedToken) : Prop :=
  (∃ user, usersWith db token.email = [user]) ∨
    (usersWith db token.email = [] ∧ (∀ r ∈ db.users.rows, r.username ≠ token.email) ∧
      Fits accepts (googleUser token.email token.name))

theorem exists_getOrCreate_iff (token : DecodedToken) :
    (∃ found, getOrCreate accepts db token.email token.name = .ok found) ↔
      CanLogin accepts db token := by
  unfold getOrCreate CanLogin
  rcases usersWith db token.email with _ | ⟨user, _ | ⟨other, rest⟩⟩
  · constructor
    · rintro ⟨found, h⟩
      refine Or.inr ⟨rfl, ?_⟩
      cases hcreate : createUser accepts db (googleUser token.email token.name) with
      | error e => simp [hcreate] at h
      | ok created =>
          obtain ⟨hfits, hfree, -⟩ := createUser_eq_ok hcreate
          exact ⟨hfree, hfits⟩
    · rintro (⟨user, h⟩ | ⟨-, hfree, hfits⟩)
      · cases h
      · obtain ⟨created, hcreate⟩ := exists_createUser hfits hfree
        simp only [hcreate]
        exact ⟨_, rfl⟩
  · exact iff_of_true ⟨_, rfl⟩ (Or.inl ⟨user, rfl⟩)
  · simp

/-- What is left after the account of an email was found or made. -/
structure IsFound (db : Registry) (email : String) (found : Found) : Prop where
  plans : found.db.plans = db.plans
  kept : ∀ r ∈ db.users.rows, r ∈ found.db.users.rows
  stored : found.response.user ∈ found.db.users.rows
  only : ∀ r ∈ usersWith db email, r = found.response.user
  email : found.response.user.email = email

theorem isFound_of_getOrCreate {email name : String} {found : Found}
    (h : getOrCreate accepts db email name = .ok found) : IsFound db email found := by
  unfold getOrCreate at h
  split at h
  · rename_i hnone
    cases hcreate : createUser accepts db (googleUser email name) with
    | error e => simp [hcreate] at h
    | ok created =>
        rw [hcreate] at h
        cases h
        obtain ⟨-, -, husers, haccounts⟩ := createUser_eq_ok hcreate
        refine ⟨congrArg Accounts.plans haccounts, ?_, ?_, ?_, rfl⟩
        · intro r hr
          rw [husers]
          exact (db.users.mem_create _ r).mpr (Or.inl hr)
        · rw [husers]
          exact (db.users.mem_create _ _).mpr (Or.inr rfl)
        · intro r hr
          rw [hnone] at hr
          cases hr
  · rename_i user hone
    cases h
    have huser : user ∈ usersWith db email := by rw [hone]; exact List.mem_cons_self
    obtain ⟨hmem, hemail⟩ := List.mem_filter.mp huser
    refine ⟨rfl, fun r hr => hr, hmem, ?_, of_decide_eq_true hemail⟩
    intro r hr
    rw [hone] at hr
    exact List.mem_singleton.mp hr
  · cases h

def HasFreePlan (accounts : Accounts) : Prop :=
  ∃ plan ∈ accounts.plans.rows, plan.name = "Free"

theorem exists_ensureSubscription {accounts : Accounts} (h : HasFreePlan accounts) (user : Nat) :
    ∃ subscribed, ensureSubscription accounts user = some subscribed := by
  unfold ensureSubscription
  split
  · exact ⟨_, rfl⟩
  · obtain ⟨plan, hplan, hname⟩ := h
    cases hfind : accounts.plans.rows.find? fun p => p.name = "Free" with
    | none => exact absurd hname (by simpa using List.find?_eq_none.mp hfind plan hplan)
    | some free => exact ⟨_, rfl⟩

theorem plans_ensureSubscription {accounts : Accounts} {user : Nat}
    {subscribed : Accounts × Subscription}
    (h : ensureSubscription accounts user = some subscribed) :
    subscribed.1.plans = accounts.plans := by
  unfold ensureSubscription at h
  split at h
  · cases h
    rfl
  · obtain ⟨plan, -, rfl⟩ := Option.map_eq_some_iff.mp h
    rfl

/-- The decoded token, where it was sent and has an email. -/
def GoogleRequest.verified (request : GoogleRequest) : Option DecodedToken :=
  if request.idToken = "" then none else request.decoded.filter fun token => token.email ≠ ""

theorem googleLogin_of_verified {request : GoogleRequest} {token : DecodedToken}
    (h : request.verified = some token) :
    googleLogin accepts db request = loginWith accepts db token := by
  unfold GoogleRequest.verified at h
  split at h
  · cases h
  · rename_i htoken
    obtain ⟨hdecoded, hemail⟩ := Option.filter_eq_some_iff.mp h
    rw [googleLogin, if_neg htoken, hdecoded]
    dsimp only
    rw [if_neg (of_decide_eq_true hemail)]

theorem googleLogin_of_not_verified {request : GoogleRequest} (h : request.verified = none) :
    ∃ e, googleLogin accepts db request = (db, .error e) := by
  unfold GoogleRequest.verified at h
  unfold googleLogin
  split
  · exact ⟨_, rfl⟩
  · rename_i htoken
    rw [if_neg htoken] at h
    cases hdecoded : request.decoded with
    | none => exact ⟨_, rfl⟩
    | some token =>
        rw [hdecoded] at h
        have hempty : token.email = "" := by simpa [Option.filter_some] using h
        dsimp only
        rw [if_pos hempty]
        exact ⟨_, rfl⟩

/-- Plans and accounts stay. -/
structure Leaves (db db' : Registry) : Prop where
  plans : db'.plans = db.plans
  kept : ∀ r ∈ db.users.rows, r ∈ db'.users.rows

theorem leaves_loginWith (token : DecodedToken) :
    Leaves db (loginWith accepts db token).1 := by
  unfold loginWith
  cases hfound : getOrCreate accepts db token.email token.name with
  | error e => exact ⟨rfl, fun r hr => hr⟩
  | ok found =>
      have hspec := isFound_of_getOrCreate hfound
      dsimp only
      cases hsubscribed : ensureSubscription found.db.toAccounts found.response.user.id with
      | none => exact ⟨hspec.plans, hspec.kept⟩
      | some subscribed =>
          exact ⟨(plans_ensureSubscription hsubscribed).trans hspec.plans, hspec.kept⟩

theorem exists_loginWith_iff (hplan : HasFreePlan db.toAccounts) (token : DecodedToken) :
    (∃ response, (loginWith accepts db token).2 = .ok response) ↔ CanLogin accepts db token := by
  rw [← exists_getOrCreate_iff]
  unfold loginWith
  cases hfound : getOrCreate accepts db token.email token.name with
  | error e => simp
  | ok found =>
      have hspec := isFound_of_getOrCreate hfound
      have hkept : HasFreePlan found.db.toAccounts := by
        rw [HasFreePlan, hspec.plans]
        exact hplan
      obtain ⟨subscribed, hsubscribed⟩ :=
        exists_ensureSubscription hkept found.response.user.id
      simp only [hsubscribed]
      exact iff_of_true ⟨_, rfl⟩ ⟨_, rfl⟩

theorem loginWith_eq_ok {token : DecodedToken} {response : LoginResponse}
    (h : (loginWith accepts db token).2 = .ok response) :
    response.user.email = token.email ∧
      response.user ∈ (loginWith accepts db token).1.users.rows ∧
      ∀ r ∈ usersWith db token.email, r = response.user := by
  unfold loginWith at h ⊢
  cases hfound : getOrCreate accepts db token.email token.name with
  | error e => simp [hfound] at h
  | ok found =>
      have hspec := isFound_of_getOrCreate hfound
      rw [hfound] at h
      cases hsubscribed : ensureSubscription found.db.toAccounts found.response.user.id with
      | none => simp [hsubscribed] at h
      | some subscribed =>
          simp only [hsubscribed] at h ⊢
          cases h
          exact ⟨hspec.email, hspec.stored, hspec.only⟩

end Effects

section Runs

/-- The two ways to an account. -/
inductive Event where
  | signup (data : Dict)
  | google (request : GoogleRequest)

variable (rules : TextRules) (accepts : Nat → String → Bool) (repr : Json → String)

def step (db : Registry) : Event → Registry
  | .signup data => (signup rules accepts repr db data).1
  | .google request => (googleLogin accepts db request).1

/-- The event is a login with the email that returns the account. -/
def Returns (visit : Registry × Event) (email : String) (user : Account) : Prop :=
  ∃ request token response, visit.2 = .google request ∧ request.verified = some token ∧
    token.email = email ∧ (googleLogin accepts visit.1 request).2 = .ok response ∧
    response.user = user

/-- Every login with a verified email succeeds, and the logins with one email
return one account, which has that email. -/
structure GoogleWorks (start : Registry) (events : List Event) : Prop where
  succeeds : ∀ visit ∈ visits (step rules accepts repr) start events, ∀ request token,
    visit.2 = .google request → request.verified = some token →
      ∃ user, Returns accepts visit token.email user ∧ user.email = token.email
  same : ∀ visit ∈ visits (step rules accepts repr) start events,
    ∀ later ∈ visits (step rules accepts repr) start events, ∀ email first second,
      Returns accepts visit email first → Returns accepts later email second → second = first

variable {rules accepts repr}

theorem leaves_step (db : Registry) (event : Event) :
    Leaves db (step rules accepts repr db event) := by
  cases event with
  | signup data =>
      rw [step, signup]
      split
      · exact ⟨rfl, fun r hr => hr⟩
      · split
        · exact ⟨rfl, fun r hr => hr⟩
        · rename_i hcreate
          obtain ⟨-, -, husers, haccounts⟩ := createUser_eq_ok hcreate
          refine ⟨congrArg Accounts.plans haccounts, fun r hr => ?_⟩
          dsimp only
          rw [husers]
          exact (db.users.mem_create _ r).mpr (Or.inl hr)
  | google request =>
      rw [step]
      cases hverified : request.verified with
      | none =>
          obtain ⟨e, hrefused⟩ := googleLogin_of_not_verified hverified
          rw [hrefused]
          exact ⟨rfl, fun r hr => hr⟩
      | some token =>
          rw [googleLogin_of_verified hverified]
          exact leaves_loginWith token

theorem returns_spec (rules : TextRules) (repr : Json → String) {db : Registry} {event : Event} {email : String} {user : Account}
    (h : Returns accepts (db, event) email user) :
    user.email = email ∧ user ∈ (step rules accepts repr db event).users.rows ∧
      ∀ r ∈ usersWith db email, r = user := by
  obtain ⟨request, token, response, hevent, hverified, rfl, hresponse, rfl⟩ := h
  dsimp only at hevent hresponse
  rw [googleLogin_of_verified hverified] at hresponse
  rw [hevent, step, googleLogin_of_verified hverified]
  exact loginWith_eq_ok hresponse

theorem returns_unique {visit : Registry × Event} {email : String} {first second : Account}
    (h : Returns accepts visit email first) (h' : Returns accepts visit email second) :
    second = first := by
  obtain ⟨request, token, response, hevent, -, -, hresponse, rfl⟩ := h
  obtain ⟨request', token', response', hevent', -, -, hresponse', rfl⟩ := h'
  rw [hevent] at hevent'
  cases hevent'
  rw [hresponse] at hresponse'
  cases hresponse'
  rfl

theorem same_account (start : Registry) (events : List Event) :
    ∀ visit ∈ visits (step rules accepts repr) start events,
      ∀ later ∈ visits (step rules accepts repr) start events, ∀ email first second,
        Returns accepts visit email first → Returns accepts later email second →
          second = first := by
  -- the account that a login returned stays, so a later login with the email has no other to return
  refine related_of_mem_visits (fun visit db => ∀ email user, Returns accepts visit email user →
    user.email = email ∧ user ∈ db.users.rows) ?_ ?_ ?_ ?_ ?_ events start
  · intro visit email first second
    exact returns_unique
  · intro visit later hrelated email first second hfirst hsecond
    exact (hrelated email second first hsecond hfirst).symm
  · intro db event email user h
    obtain ⟨hemail, hstored, -⟩ := returns_spec rules repr h
    exact ⟨hemail, hstored⟩
  · intro visit db event hkept email user h
    obtain ⟨hemail, hstored⟩ := hkept email user h
    exact ⟨hemail, (leaves_step db event).kept user hstored⟩
  · intro visit db event hkept email first second hfirst hsecond
    obtain ⟨hemail, hstored⟩ := hkept email first hfirst
    obtain ⟨-, -, honly⟩ := returns_spec rules repr hsecond
    exact (honly first (List.mem_filter.mpr ⟨hstored, decide_eq_true hemail⟩)).symm

/-- Google sign-in works in a run exactly when, at each login, one account has the
email, or none has it, none has it as its username, and the new account fits the
columns. -/
theorem googleWorks_iff (start : Registry) (hplan : HasFreePlan start.toAccounts)
    (events : List Event) :
    GoogleWorks rules accepts repr start events ↔
      ∀ visit ∈ visits (step rules accepts repr) start events, ∀ request token,
        visit.2 = .google request → request.verified = some token →
          CanLogin accepts visit.1 token := by
  have hplans : ∀ visit ∈ visits (step rules accepts repr) start events,
      HasFreePlan visit.1.toAccounts := by
    have hstep : ∀ db : Registry, ∀ event ∈ events, HasFreePlan db.toAccounts →
        HasFreePlan (step rules accepts repr db event).toAccounts := by
      intro db event _ hdb
      rw [HasFreePlan, (leaves_step db event).plans]
      exact hdb
    intro visit hvisit
    exact (invariant_of_mem_visits hstep hplan visit hvisit).1
  constructor
  · intro hworks visit hvisit request token hevent hverified
    obtain ⟨user, hreturns, -⟩ := hworks.succeeds visit hvisit request token hevent hverified
    obtain ⟨request', token', response, hevent', -, -, hresponse, -⟩ := hreturns
    rw [hevent] at hevent'
    cases hevent'
    rw [googleLogin_of_verified hverified] at hresponse
    exact (exists_loginWith_iff (hplans visit hvisit) token).mp ⟨response, hresponse⟩
  · intro hcan
    refine ⟨fun visit hvisit request token hevent hverified => ?_, same_account start events⟩
    obtain ⟨response, hresponse⟩ := (exists_loginWith_iff (hplans visit hvisit) token).mpr
      (hcan visit hvisit request token hevent hverified)
    refine ⟨response.user, ⟨request, token, response, hevent, hverified, rfl, ?_, rfl⟩,
      (loginWith_eq_ok hresponse).1⟩
    rw [googleLogin_of_verified hverified]
    exact hresponse

/-- Two accounts with one email lock its owner out for good. -/
theorem refused_of_shared_email {start : Registry} {first second : Account} {email : String}
    (hfirst : first ∈ usersWith start email) (hsecond : second ∈ usersWith start email)
    (hne : first ≠ second) (events : List Event) :
    ∀ visit ∈ visits (step rules accepts repr) start events, ∀ user,
      ¬ Returns accepts visit email user := by
  have hstep : ∀ db : Registry, ∀ event ∈ events,
      (first ∈ usersWith db email ∧ second ∈ usersWith db email) →
        (first ∈ usersWith (step rules accepts repr db event) email ∧
          second ∈ usersWith (step rules accepts repr db event) email) := by
    rintro db event - ⟨hfirst, hsecond⟩
    have hkept : ∀ r ∈ db.users.rows, r ∈ (step rules accepts repr db event).users.rows :=
      (leaves_step db event).kept
    obtain ⟨hmem, hemail⟩ := List.mem_filter.mp hfirst
    obtain ⟨hmem', hemail'⟩ := List.mem_filter.mp hsecond
    exact ⟨List.mem_filter.mpr ⟨hkept first hmem, hemail⟩,
      List.mem_filter.mpr ⟨hkept second hmem', hemail'⟩⟩
  intro visit hvisit user hreturns
  obtain ⟨hfirst, hsecond⟩ := (invariant_of_mem_visits hstep ⟨hfirst, hsecond⟩ visit hvisit).1
  obtain ⟨-, -, honly⟩ := returns_spec rules repr hreturns
  exact hne ((honly first hfirst).trans (honly second hsecond).symm)

end Runs

section Samples

/-- The rules as they are on plain ASCII addresses and names. -/
def asciiRules : TextRules where
  isUsername := fun s => s.toList.all fun c => c.isAlphanum || c ∈ ['_', '.', '@', '+', '-']
  isEmail := fun s => s.toList.contains '@'
  normalizeUsername := fun s => s
  lower := fun s => String.ofList (s.toList.map Char.toLower)

def anyText : Nat → String → Bool := fun _ _ => true

def noText : Json → String := fun _ => ""

/-- No account yet, and the free plan. -/
def newRegistry : Registry where
  toDatabase := .empty
  plans := Table.empty.create { id := 0, name := "Free", botLimit := 1 }
  subscriptions := .empty
  users := .empty
  usernameUnique := fun _ hr => by cases hr

def signupData (username email : String) : Dict :=
  [("username", .str username), ("email", .str email), ("password", .str "secret")]

def adaLogin : GoogleRequest where
  idToken := "token"
  decoded := some { email := "ada@example.org", name := "Ada" }

theorem hasFreePlan_newRegistry : HasFreePlan newRegistry.toAccounts :=
  ⟨_, List.mem_cons_self, rfl⟩

theorem not_googleWorks_of_refused {start : Registry} {events : List Event} {db : Registry}
    {request : GoogleRequest} {token : DecodedToken} {e : LoginError}
    (hvisit : (db, .google request) ∈
      visits (step asciiRules anyText noText) start events)
    (hverified : request.verified = some token)
    (hrefused : (googleLogin anyText db request).2 = .error e) :
    ¬ GoogleWorks asciiRules anyText noText start events := by
  intro hworks
  obtain ⟨user, ⟨request', -, response, hevent, -, -, hresponse, -⟩, -⟩ :=
    hworks.succeeds _ hvisit request token rfl hverified
  cases hevent
  rw [hrefused] at hresponse
  cases hresponse

theorem twoLogins_work :
    GoogleWorks asciiRules anyText noText newRegistry [.google adaLogin, .google adaLogin] := by
  refine (googleWorks_iff newRegistry hasFreePlan_newRegistry _).mpr ?_
  intro visit hvisit request token hevent hverified
  rcases List.mem_cons.mp hvisit with rfl | hvisit
  · cases hevent
    cases hverified
    exact Or.inr ⟨rfl, fun r hr => absurd hr List.not_mem_nil, rfl⟩
  · obtain rfl := List.mem_singleton.mp hvisit
    cases hevent
    cases hverified
    exact Or.inl ⟨_, rfl⟩

/-- Two sign-ups with the email of a third person, or one sign-up that takes the
email as its username, and the login of that person is refused. -/
theorem signups_block_login :
    ¬ GoogleWorks asciiRules anyText noText newRegistry
        [.signup (signupData "ada" "ada@example.org"),
          .signup (signupData "eve" "ada@example.org"), .google adaLogin] ∧
      ¬ GoogleWorks asciiRules anyText noText newRegistry
        [.signup (signupData "ada@example.org" ""), .google adaLogin] := by
  constructor
  · refine not_googleWorks_of_refused (List.mem_cons_of_mem _ (List.mem_cons_of_mem _
      List.mem_cons_self)) rfl (e := .multipleObjectsReturned 2) ?_
    decide
  · refine not_googleWorks_of_refused (List.mem_cons_of_mem _ List.mem_cons_self) rfl
      (e := .row .integrityError) ?_
    decide

end Samples

end Botman.GoogleSignIn
