import Botman.Library.Transition

/-!
The studio's HTTP client: the tokens it keeps in the browser, and the interceptors
that renew an expired access token and send the request once more.

Calls overlap, in one tab or in several, over one local storage.  A call touches the
storage only while one of its callbacks runs; between two callbacks the other calls
run, the server answers, people log in and out, and time passes.
-/

namespace Botman.StudioClient

open Botman.Library.Transition

universe u

/-- The claims of a token that the server checks; times are seconds. -/
structure Claims where
  user : Nat
  exp : Nat
  deriving DecidableEq

/-- `ACCESS_TOKEN_LIFETIME`. -/
def accessTokenLifetime : Nat := 3600

/-- `REFRESH_TOKEN_LIFETIME`. -/
def refreshTokenLifetime : Nat := 604800

/-- What a login returns. -/
structure TokenPair where
  access : Claims
  refresh : Claims
  deriving DecidableEq

/-- `RefreshToken.for_user` and the access token made from it. -/
def tokensFor (user now : Nat) : TokenPair where
  access := ⟨user, now + accessTokenLifetime⟩
  refresh := ⟨user, now + refreshTokenLifetime⟩

/-- `localStorage`, as far as the client uses it. -/
structure Storage where
  accessToken : Option Claims
  refreshToken : Option Claims
  deriving DecidableEq

def Storage.clear : Storage := ⟨none, none⟩

/-- What the calls share.  `isActive` tells which accounts exist and are active, and
`atLogin` whether the browser was last sent to the login page. -/
structure Shared where
  storage : Storage
  atLogin : Bool
  now : Nat
  isActive : Nat → Bool

/-- `Token.check_exp`, and the rule that the account is active. -/
def Shared.accepts (s : Shared) (token : Claims) : Bool :=
  s.now < token.exp ∧ s.isActive token.user

/-- `TokenRefreshSerializer.validate` with `ROTATE_REFRESH_TOKENS`: the old token stays
valid, for rotated tokens are not put on a blacklist. -/
def Shared.tokenRefresh (s : Shared) (refresh : Claims) : Option TokenPair :=
  if s.accepts refresh then some (tokensFor refresh.user s.now) else none

/-- The permission classes of the views. -/
inductive Permission where
  | allowAny
  | isAuthenticated
  deriving DecidableEq

/-- The end of one HTTP request: the view ran for a user or for nobody, or the
authentication refused it, or no response came back. -/
inductive Answer where
  | served (user : Option Nat) (success : Bool)
  | unauthorized
  | unreachable
  deriving DecidableEq

/-- `JWTAuthentication` and the permission of the view.  A token that is refused is an
error even where the view needs none. -/
def Shared.answer (s : Shared) (permission : Permission) (header : Option Claims)
    (success : Bool) : Answer :=
  match header with
  | some token => if s.accepts token then .served (some token.user) success else .unauthorized
  | none => if permission = .allowAny then .served none success else .unauthorized

/-- Where a call waits. -/
inductive Phase where
  | created
  | sent (header : Option Claims)
  | answered (answer : Answer)
  | refreshing (refreshToken : Claims)
  | refreshed (response : Option TokenPair)
  | renewed (access : Claims)
  | settled (answer : Answer)
  deriving DecidableEq

/-- A request of the client; `retry` is the mark `_retry` on its configuration. -/
structure Call where
  permission : Permission
  retry : Bool
  phase : Phase
  deriving DecidableEq

/-- The callbacks of a call and the server's part of it, and what happens around the
calls. -/
inductive Action where
  | send
  | serve (success : Bool)
  | lose
  | receive
  | serveRefresh
  | loseRefresh
  | receiveRefresh
  | resend
  | login (user : Nat)
  | logout
  | tick (seconds : Nat)
  | setActive (user : Nat) (active : Bool)

/-- An action of the call itself, not of the page or the world. -/
@[simp] def Action.isOwn : Action → Bool
  | .login _ | .logout | .tick _ | .setActive _ _ => false
  | _ => true

@[simp] def Action.isSend : Action → Bool
  | .send | .resend => true
  | _ => false

@[simp] def Action.isRefresh : Action → Bool
  | .serveRefresh | .loseRefresh => true
  | _ => false

def Action.isLogin : Action → Bool
  | .login _ => true
  | _ => false

/-- The interceptor of an error, up to its first `await`.  An error without a response
has no status to compare. -/
def receive (s : Shared) (call : Call) (answer : Answer) : Call :=
  match answer with
  | .unauthorized =>
      if call.retry then { call with phase := .settled .unauthorized }
      else
        match s.storage.refreshToken with
        | some refreshToken => { call with retry := true, phase := .refreshing refreshToken }
        | none => { call with retry := true, phase := .settled .unauthorized }
  | _ => { call with phase := .settled answer }

/-- The rest of the interceptor.  Of a response only the access token is kept; a
failure empties the storage and leads to the login page. -/
def receiveRefresh (s : Shared) (call : Call) : Option TokenPair → Shared × Call
  | some response =>
      ({ s with storage := { s.storage with accessToken := some response.access } },
        { call with phase := .renewed response.access })
  | none =>
      ({ s with storage := .clear, atLogin := true },
        { call with phase := .settled .unauthorized })

/-- One action, on what the calls share and on the call. -/
def act : Action → Shared → Call → Option (Shared × Call)
  | .send, s, call =>
      match call.phase with
      | .created => some (s, { call with phase := .sent s.storage.accessToken })
      | _ => none
  | .serve success, s, call =>
      match call.phase with
      | .sent header =>
          some (s, { call with phase := .answered (s.answer call.permission header success) })
      | _ => none
  | .lose, s, call =>
      match call.phase with
      | .sent _ => some (s, { call with phase := .answered .unreachable })
      | _ => none
  | .receive, s, call =>
      match call.phase with
      | .answered answer => some (s, receive s call answer)
      | _ => none
  | .serveRefresh, s, call =>
      match call.phase with
      | .refreshing refreshToken =>
          some (s, { call with phase := .refreshed (s.tokenRefresh refreshToken) })
      | _ => none
  | .loseRefresh, s, call =>
      match call.phase with
      | .refreshing _ => some (s, { call with phase := .refreshed none })
      | _ => none
  | .receiveRefresh, s, call =>
      match call.phase with
      | .refreshed response => some (receiveRefresh s call response)
      | _ => none
  | .resend, s, call =>
      -- the interceptor of requests runs again, over the header that was set
      match call.phase with
      | .renewed access =>
          some (s, { call with phase := .sent (s.storage.accessToken.or (some access)) })
      | _ => none
  | .login user, s, call =>
      let tokens := tokensFor user s.now
      some ({ s with storage := ⟨some tokens.access, some tokens.refresh⟩, atLogin := false },
        call)
  | .logout, s, call => some ({ s with storage := .clear, atLogin := true }, call)
  | .tick seconds, s, call => some ({ s with now := s.now + seconds }, call)
  | .setActive user active, s, call =>
      some ({ s with isActive := Function.update s.isActive user active }, call)

/-- What each action needs and does. -/
inductive Acts (s : Shared) (call : Call) : Action → Shared → Call → Prop where
  | send (hphase : call.phase = .created) :
      Acts s call .send s { call with phase := .sent s.storage.accessToken }
  | serve {header : Option Claims} (success : Bool) (hphase : call.phase = .sent header) :
      Acts s call (.serve success) s
        { call with phase := .answered (s.answer call.permission header success) }
  | lose {header : Option Claims} (hphase : call.phase = .sent header) :
      Acts s call .lose s { call with phase := .answered .unreachable }
  | receive {answer : Answer} (hphase : call.phase = .answered answer) :
      Acts s call .receive s (receive s call answer)
  | serveRefresh {refreshToken : Claims} (hphase : call.phase = .refreshing refreshToken) :
      Acts s call .serveRefresh s
        { call with phase := .refreshed (s.tokenRefresh refreshToken) }
  | loseRefresh {refreshToken : Claims} (hphase : call.phase = .refreshing refreshToken) :
      Acts s call .loseRefresh s { call with phase := .refreshed none }
  | renew {response : TokenPair} (hphase : call.phase = .refreshed (some response)) :
      Acts s call .receiveRefresh
        { s with storage := { s.storage with accessToken := some response.access } }
        { call with phase := .renewed response.access }
  | expel (hphase : call.phase = .refreshed none) :
      Acts s call .receiveRefresh { s with storage := .clear, atLogin := true }
        { call with phase := .settled .unauthorized }
  | resend {access : Claims} (hphase : call.phase = .renewed access) :
      Acts s call .resend s
        { call with phase := .sent (s.storage.accessToken.or (some access)) }
  | login (user : Nat) :
      Acts s call (.login user)
        { s with
          storage := ⟨some (tokensFor user s.now).access, some (tokensFor user s.now).refresh⟩
          atLogin := false } call
  | logout : Acts s call .logout { s with storage := .clear, atLogin := true } call
  | tick (seconds : Nat) : Acts s call (.tick seconds) { s with now := s.now + seconds } call
  | setActive (user : Nat) (active : Bool) :
      Acts s call (.setActive user active)
        { s with isActive := Function.update s.isActive user active } call

theorem acts_of_act {action : Action} {s t : Shared} {call after : Call}
    (h : act action s call = some (t, after)) : Acts s call action t after := by
  cases action with
  | login user => cases h; exact .login user
  | logout => cases h; exact .logout
  | tick seconds => cases h; exact .tick seconds
  | setActive user active => cases h; exact .setActive user active
  | receiveRefresh =>
      simp only [act] at h
      split at h
      · rename_i response hphase
        cases response with
        | some response => cases h; exact .renew hphase
        | none => cases h; exact .expel hphase
      · cases h
  | _ =>
      simp only [act] at h
      split at h
      · rename_i hphase
        cases h
        constructor
        exact hphase
      · cases h

section Runs

variable {ι : Type u} {start c : Config ι Shared Call}

section Renewal

/-- The conditions of a run, by the clock and the network: nobody logs out, who logs in has an
active account, no account is deactivated, a refresh is answered, and time passes before
`deadline` only.  A call that refreshes its token takes each of its steps from the answer to the
refresh on within twenty minutes of the one before; the watch of a call tells when that was. -/
def isPrompt (deadline : Nat) (c : Config ι Shared (Call × Nat)) (move : ι × Action) : Bool :=
  match move.2 with
  | .logout | .loseRefresh => false
  | .login user => c.shared.isActive user
  | .setActive _ active => active
  | .tick seconds => c.shared.now + seconds < deadline
  | .receiveRefresh | .resend => c.shared.now < (c.locals move.1).2 + 1200
  | .serve _ =>
      !(c.locals move.1).1.retry || decide (c.shared.now < (c.locals move.1).2 + 1200)
  | _ => true

def Prompt (deadline : Nat) (c : Config ι Shared (Call × Nat)) (move : ι × Action) : Prop :=
  isPrompt deadline c move = true

instance (deadline : Nat) (c : Config ι Shared (Call × Nat)) (move : ι × Action) :
    Decidable (Prompt deadline c move) :=
  inferInstanceAs (Decidable (_ = true))

/-- The calls, each with a watch that its own actions set. -/
def watched : Action → Shared → Call × Nat → Option (Shared × Call × Nat) :=
  stamped Shared.now Action.isOwn act

/-- The server accepts the token until a time, if the account stays active. -/
def Lasts (s : Shared) (token : Claims) (time : Nat) : Prop :=
  time ≤ token.exp ∧ s.isActive token.user = true

theorem accepts_of_lasts {s : Shared} {token : Claims} {time : Nat} (h : Lasts s token time)
    (hnow : s.now < time) : s.accepts token = true :=
  decide_eq_true ⟨hnow.trans_le h.1, h.2⟩

/-- The session is open, with a refresh token that lasts until the deadline. -/
structure Kept (deadline : Nat) (s : Shared) : Prop where
  page : s.atLogin = false
  now : s.now < deadline
  life : deadline ≤ s.now + refreshTokenLifetime
  refresh : ∃ token, s.storage.refreshToken = some token ∧ Lasts s token deadline

/-- What any action may do to what the others know: an access token that is stored has forty
minutes left. -/
structure Extends (s t : Shared) : Prop where
  now : s.now ≤ t.now
  active : ∀ user, s.isActive user = true → t.isActive user = true
  access : t.storage.accessToken = s.storage.accessToken ∨
    ∃ token, t.storage.accessToken = some token ∧ Lasts t token (t.now + 2400)

theorem Extends.refl (s : Shared) : Extends s s :=
  ⟨le_rfl, fun _ => id, Or.inl rfl⟩

theorem Lasts.of_extends {s t : Shared} {token : Claims} {time : Nat} (h : Lasts s token time)
    (hextends : Extends s t) : Lasts t token time :=
  ⟨h.1, hextends.active _ h.2⟩

theorem Kept.of_extends {deadline : Nat} {s t : Shared} (h : Kept deadline s)
    (hextends : Extends s t) (hpage : t.atLogin = s.atLogin) (hnow : t.now < deadline)
    (hrefresh : t.storage.refreshToken = s.storage.refreshToken) : Kept deadline t := by
  obtain ⟨token, htoken, hlasts⟩ := h.refresh
  exact ⟨hpage.trans h.page, hnow, h.life.trans (Nat.add_le_add_right hextends.now _), token,
    hrefresh.trans htoken, hlasts.of_extends hextends⟩

/-- What a call has to go on with in each of its phases, `since` its last action. -/
def Safe (deadline : Nat) (s : Shared) (call : Call) (since : Nat) : Prop :=
  match call.phase with
  | .created => call.retry = false
  | .sent header =>
      call.retry = true → ∃ token, header = some token ∧ Lasts s token (since + 1200)
  | .answered answer => answer = .unauthorized → call.retry = false
  | .refreshing token => Lasts s token deadline
  | .refreshed response =>
      ∃ tokens, response = some tokens ∧ Lasts s tokens.access (since + accessTokenLifetime)
  | .renewed _ =>
      since ≤ s.now ∧
        ∃ token, s.storage.accessToken = some token ∧ Lasts s token (since + 2400)
  | .settled answer => answer ≠ .unauthorized

theorem safe_of_extends {deadline since : Nat} {s t : Shared} {call : Call}
    (h : Safe deadline s call since) (hextends : Extends s t) : Safe deadline t call since := by
  unfold Safe at h ⊢
  split at h
  · exact h
  · intro hretry
    obtain ⟨token, hheader, hlasts⟩ := h hretry
    exact ⟨token, hheader, hlasts.of_extends hextends⟩
  · exact h
  · exact h.of_extends hextends
  · obtain ⟨tokens, hresponse, hlasts⟩ := h
    exact ⟨tokens, hresponse, hlasts.of_extends hextends⟩
  · obtain ⟨hsince, token, htoken, hlasts⟩ := h
    refine ⟨hsince.trans hextends.now, ?_⟩
    rcases hextends.access with hsame | ⟨new, hnew, hlong⟩
    · exact ⟨token, hsame.trans htoken, hlasts.of_extends hextends⟩
    · have hlater := hsince.trans hextends.now
      exact ⟨new, hnew, (Nat.add_le_add_right hlater 2400).trans hlong.1, hlong.2⟩
  · exact h

theorem safe_receive {deadline since : Nat} {s : Shared} {call : Call} {answer : Answer}
    (h : Kept deadline s) (hanswer : answer = .unauthorized → call.retry = false) :
    Safe deadline s (receive s call answer) since := by
  obtain ⟨token, htoken, hlasts⟩ := h.refresh
  cases answer with
  | unauthorized => simpa [receive, hanswer rfl, htoken, Safe] using hlasts
  | served | unreachable => simp [receive, Safe]

theorem extends_login {s : Shared} {user : Nat} (hactive : s.isActive user = true) :
    Extends s
      { s with
        storage := ⟨some (tokensFor user s.now).access, some (tokensFor user s.now).refresh⟩
        atLogin := false } :=
  ⟨le_rfl, fun _ => id, Or.inr ⟨_, rfl, Nat.add_le_add_left (by decide) _, hactive⟩⟩

theorem extends_tick (s : Shared) (seconds : Nat) :
    Extends s { s with now := s.now + seconds } :=
  ⟨Nat.le_add_right _ _, fun _ => id, Or.inl rfl⟩

theorem extends_activate (s : Shared) (user : Nat) :
    Extends s { s with isActive := Function.update s.isActive user true } := by
  refine ⟨le_rfl, fun other hother => ?_, Or.inl rfl⟩
  by_cases hsame : other = user
  · rw [hsame]
    exact Function.update_self ..
  · exact (Function.update_of_ne hsame ..).trans hother

theorem safe_act {deadline : Nat} {c : Config ι Shared (Call × Nat)} {i : ι} {action : Action}
    {t : Shared} {after : Call × Nat} (hkept : Kept deadline c.shared)
    (hsafe : Safe deadline c.shared (c.locals i).1 (c.locals i).2)
    (hguard : Prompt deadline c (i, action))
    (hact : watched action c.shared (c.locals i) = some (t, after)) :
    Kept deadline t ∧ Extends c.shared t ∧ Safe deadline t after.1 after.2 := by
  obtain ⟨hact, hstamp⟩ := act_of_stamped hact
  obtain ⟨call, stamp⟩ := after
  dsimp only at hact hstamp
  unfold Prompt isPrompt at hguard
  have hcall := hsafe
  unfold Safe at hcall
  cases acts_of_act hact with
  | send hphase =>
      simp only [hphase] at hcall
      exact ⟨hkept, .refl _, by simp [Safe, hcall]⟩
  | @serve header success hphase =>
      simp only [hphase] at hcall
      refine ⟨hkept, .refl _, ?_⟩
      intro hanswer
      -- a repeated request has a token with twenty minutes left when it is sent
      by_contra hfirst
      have hretry : (c.locals i).1.retry = true := Bool.eq_true_of_not_eq_false hfirst
      obtain ⟨token, rfl, hlasts⟩ := hcall hretry
      have hnow : c.shared.now < (c.locals i).2 + 1200 := by simpa [hretry] using hguard
      simp [Shared.answer, accepts_of_lasts hlasts hnow] at hanswer
  | lose hphase => exact ⟨hkept, .refl _, by simp [Safe]⟩
  | receive hphase =>
      simp only [hphase] at hcall
      exact ⟨hkept, .refl _, safe_receive hkept hcall⟩
  | @serveRefresh token hphase =>
      simp only [hphase] at hcall
      have haccepts := accepts_of_lasts hcall hkept.now
      refine ⟨hkept, .refl _, tokensFor token.user c.shared.now, ?_, ?_⟩
      · simp [Shared.tokenRefresh, haccepts]
      · rw [hstamp]
        exact ⟨le_rfl, hcall.2⟩
  | loseRefresh hphase => cases hguard
  | @renew response hphase =>
      simp only [hphase] at hcall
      obtain ⟨tokens, htokens, hlasts⟩ := hcall
      cases htokens
      have hnow : c.shared.now < (c.locals i).2 + 1200 := of_decide_eq_true hguard
      have hlong : Lasts c.shared response.access (c.shared.now + 2400) := by
        refine ⟨le_trans ?_ hlasts.1, hlasts.2⟩
        simp only [accessTokenLifetime]
        omega
      have hextends : Extends c.shared
          { c.shared with
            storage := { c.shared.storage with accessToken := some response.access } } :=
        ⟨le_rfl, fun _ => id, Or.inr ⟨_, rfl, hlong⟩⟩
      refine ⟨hkept.of_extends hextends rfl hkept.now rfl, hextends, ?_⟩
      rw [hstamp]
      exact ⟨le_rfl, _, rfl, hlong⟩
  | expel hphase =>
      simp only [hphase] at hcall
      obtain ⟨tokens, htokens, -⟩ := hcall
      cases htokens
  | resend hphase =>
      simp only [hphase] at hcall
      obtain ⟨-, token, htoken, hlasts⟩ := hcall
      have hnow : c.shared.now < (c.locals i).2 + 1200 := of_decide_eq_true hguard
      refine ⟨hkept, .refl _, fun _ => ⟨token, by rw [htoken]; rfl, le_trans ?_ hlasts.1, hlasts.2⟩⟩
      rw [hstamp]
      simp only [Action.isOwn, if_true]
      omega
  | login user =>
      have hextends := extends_login hguard
      have hlong : Lasts c.shared (tokensFor user c.shared.now).refresh deadline :=
        ⟨hkept.life, hguard⟩
      rw [hstamp]
      exact ⟨⟨rfl, hkept.now, hkept.life, _, rfl, hlong⟩, hextends,
        safe_of_extends hsafe hextends⟩
  | logout => cases hguard
  | tick seconds =>
      have hextends := extends_tick c.shared seconds
      rw [hstamp]
      exact ⟨hkept.of_extends hextends rfl (of_decide_eq_true hguard) rfl, hextends,
        safe_of_extends hsafe hextends⟩
  | setActive user active =>
      have hactive : active = true := hguard
      rw [hactive, hstamp]
      have hextends := extends_activate c.shared user
      exact ⟨hkept.of_extends hextends rfl hkept.now rfl, hextends,
        safe_of_extends hsafe hextends⟩

/-- Two requests of one page, an hour after the login. -/
def expiredPage : Config Bool Shared (Call × Nat) where
  shared :=
    { storage := ⟨some (tokensFor 7 0).access, some (tokensFor 7 0).refresh⟩
      atLogin := false
      now := 3600
      isActive := fun user => user = 7 }
  locals := fun _ => (⟨.isAuthenticated, false, .created⟩, 0)

end Renewal

/-- The tokens that a browser holds after a login at `login`: the refresh token of that
login or none, and access tokens that die within an hour of it. -/
def HoldsTokens (refresh : Claims) (s : Shared) : Prop :=
  (∀ token ∈ s.storage.refreshToken, token = refresh) ∧
    ∀ token ∈ s.storage.accessToken, token.exp ≤ refresh.exp + accessTokenLifetime

/-- A call that carries no other tokens. -/
def CarriesTokens (refresh : Claims) (call : Call) : Prop :=
  match call.phase with
  | .sent header => ∀ token ∈ header, token.exp ≤ refresh.exp + accessTokenLifetime
  | .refreshing token => token = refresh
  | .refreshed response =>
      ∀ tokens ∈ response, tokens.access.exp ≤ refresh.exp + accessTokenLifetime
  | .renewed access => access.exp ≤ refresh.exp + accessTokenLifetime
  | _ => True

theorem exp_of_tokenRefresh {s : Shared} {refresh : Claims} :
    ∀ tokens ∈ s.tokenRefresh refresh,
      tokens.access.exp ≤ refresh.exp + accessTokenLifetime := by
  intro tokens htokens
  unfold Shared.tokenRefresh at htokens
  split at htokens
  · rename_i haccepts
    cases htokens
    have hnow : s.now < refresh.exp := by
      simp only [Shared.accepts, decide_eq_true_eq] at haccepts
      exact haccepts.1
    simp only [tokensFor]
    omega
  · cases htokens

theorem carriesTokens_receive {refresh : Claims} {s : Shared} {call : Call} {answer : Answer}
    (hstored : ∀ token ∈ s.storage.refreshToken, token = refresh) :
    CarriesTokens refresh (receive s call answer) := by
  cases answer with
  | served | unreachable => simp [receive, CarriesTokens]
  | unauthorized =>
      cases hretry : call.retry with
      | true => simp [receive, hretry, CarriesTokens]
      | false =>
          cases htoken : s.storage.refreshToken with
          | none => simp [receive, hretry, htoken, CarriesTokens]
          | some token =>
              simp only [receive, hretry, htoken]
              exact hstored token htoken

theorem carriesTokens_act {refresh : Claims} {c : Config ι Shared Call} {i : ι}
    {action : Action} {t : Shared} {after : Call} (hstored : HoldsTokens refresh c.shared)
    (hcall : CarriesTokens refresh (c.locals i)) (hguard : action.isLogin = false)
    (hact : act action c.shared (c.locals i) = some (t, after)) :
    HoldsTokens refresh t ∧ CarriesTokens refresh after := by
  unfold CarriesTokens at hcall
  cases acts_of_act hact with
  | send hphase => exact ⟨hstored, hstored.2⟩
  | serve success hphase => exact ⟨hstored, trivial⟩
  | lose hphase => exact ⟨hstored, trivial⟩
  | receive hphase => exact ⟨hstored, carriesTokens_receive hstored.1⟩
  | serveRefresh hphase =>
      simp only [hphase] at hcall
      subst hcall
      exact ⟨hstored, exp_of_tokenRefresh⟩
  | loseRefresh hphase =>
      refine ⟨hstored, ?_⟩
      rintro tokens ⟨⟩
  | renew hphase =>
      simp only [hphase] at hcall
      refine ⟨⟨hstored.1, ?_⟩, hcall _ rfl⟩
      rintro token ⟨⟩
      exact hcall _ rfl
  | expel hphase =>
      refine ⟨⟨?_, ?_⟩, trivial⟩
      · rintro token ⟨⟩
      · rintro token ⟨⟩
  | resend hphase =>
      simp only [hphase] at hcall
      refine ⟨hstored, ?_⟩
      intro token htoken
      rcases Option.or_eq_some_iff.mp htoken with hstorage | ⟨-, haccess⟩
      · exact hstored.2 token hstorage
      · rw [← Option.some.inj haccess]
        exact hcall
  | login user => cases hguard
  | logout =>
      refine ⟨⟨?_, ?_⟩, hcall⟩
      · rintro token ⟨⟩
      · rintro token ⟨⟩
  | tick seconds => exact ⟨hstored, hcall⟩
  | setActive user active => exact ⟨hstored, hcall⟩

/-- A session ends a week after its login, at most an hour later for requests that need
no refresh.  The client drops the refresh tokens that the server rotates, so that no
use of the studio prolongs it. -/
theorem session_ends [DecidableEq ι] {user login : Nat}
    (hcreated : ∀ i, (start.locals i).phase = .created)
    (hstorage : start.shared.storage =
      ⟨some (tokensFor user login).access, some (tokensFor user login).refresh⟩)
    (hrun : Reaches (interleave act) (fun _ move => move.2.isLogin = false) start c) :
    (∀ token ∈ c.shared.storage.refreshToken, token = (tokensFor user login).refresh) ∧
      (login + refreshTokenLifetime ≤ c.shared.now →
        ∀ i d, interleave act c (i, .serveRefresh) = some d →
          (d.locals i).phase = .refreshed none) ∧
      (login + refreshTokenLifetime + accessTokenLifetime ≤ c.shared.now →
        ∀ i success d, interleave act c (i, .serve success) = some d →
          ∀ user ok, (d.locals i).phase ≠ .answered (.served (some user) ok)) := by
  have hstart : HoldsTokens (tokensFor user login).refresh start.shared := by
    unfold HoldsTokens
    rw [hstorage]
    refine ⟨?_, ?_⟩
    · rintro token ⟨⟩
      rfl
    · rintro token ⟨⟩
      simp only [tokensFor]
      omega
  have hcalls : ∀ i, CarriesTokens (tokensFor user login).refresh (start.locals i) := by
    intro i
    simp only [CarriesTokens, hcreated i]
  obtain ⟨hstored, hcarries⟩ := invariant_of_interleave (HoldsTokens (tokensFor user login).refresh)
    (CarriesTokens (tokensFor user login).refresh) (fun _ _ _ _ _ => carriesTokens_act)
    hstart hcalls hrun
  refine ⟨hstored.1, ?_, ?_⟩
  · intro hlate i d hd
    obtain ⟨t, after, hacts, rfl⟩ := interleave_eq_some_iff.mp hd
    have hcall := hcarries i
    cases acts_of_act hacts with
    | serveRefresh hphase =>
        simp only [CarriesTokens, hphase] at hcall
        subst hcall
        simp [Shared.tokenRefresh, Shared.accepts, tokensFor, Nat.not_lt.mpr hlate]
  · intro hlate i success d hd otherUser ok
    obtain ⟨t, after, hacts, rfl⟩ := interleave_eq_some_iff.mp hd
    have hcall := hcarries i
    cases acts_of_act hacts with
    | @serve header success hphase =>
        simp only [CarriesTokens, hphase] at hcall
        cases header with
        | none =>
            simp only [Function.update_self, Shared.answer]
            split <;> simp
        | some token =>
            have hexp : token.exp ≤ c.shared.now := by
              have htoken := hcall token rfl
              simp only [tokensFor] at htoken
              omega
            simp [Shared.answer, Shared.accepts, Nat.not_lt.mpr hexp]

/-- The browser right after a login, with one request to come. -/
def freshLogin : Config Unit Shared Call where
  shared :=
    { storage := ⟨some (tokensFor 7 0).access, some (tokensFor 7 0).refresh⟩
      atLogin := false
      now := 0
      isActive := fun user => user = 7 }
  locals := fun _ => ⟨.isAuthenticated, false, .created⟩

theorem freshLogin_ends :
    (∃ c, Reaches (interleave act) (fun _ move => move.2.isLogin = false) freshLogin c ∧
      c.shared.now = 608398 ∧ (c.locals ()).phase = .answered (.served (some 7) true)) ∧
    ∃ c, Reaches (interleave act) (fun _ move => move.2.isLogin = false) freshLogin c ∧
      c.shared.now = 608400 ∧ (c.locals ()).phase = .sent (some (tokensFor 7 0).access) ∧
      ∀ success d, interleave act c ((), .serve success) = some d →
        ∀ user ok, (d.locals ()).phase ≠ .answered (.served (some user) ok) := by
  refine ⟨?_, ?_⟩
  · exact exists_reaches_of_replay
      [((), .tick 604799), ((), .send), ((), .serve true), ((), .receive), ((), .serveRefresh),
        ((), .receiveRefresh), ((), .tick 3599), ((), .resend), ((), .serve true)]
      (by decide)
  · have hexists : ∃ c, Reaches (interleave act) (fun _ move => move.2.isLogin = false)
        freshLogin c ∧ c.shared.now = 608400 ∧
          (c.locals ()).phase = .sent (some (tokensFor 7 0).access) :=
      exists_reaches_of_replay [((), .send), ((), .tick 608400)] (by decide)
    obtain ⟨c, hrun, hnow, hphase⟩ := hexists
    have hends := session_ends (fun _ => rfl) rfl hrun
    exact ⟨c, hrun, hnow, hphase, hends.2.2 (by rw [hnow]; decide) ()⟩

/-- A call refreshes only after it was marked. -/
def Marked (call : Call) : Prop :=
  match call.phase with
  | .refreshing _ | .refreshed _ | .renewed _ => call.retry = true
  | _ => True

/-- The most own actions that a call still has. -/
@[simp] def Call.stepsLeft (call : Call) : Nat :=
  match call.phase with
  | .created => 8
  | .sent _ => if call.retry then 2 else 7
  | .answered _ => if call.retry then 1 else 6
  | .refreshing _ => 5
  | .refreshed _ => 4
  | .renewed _ => 3
  | .settled _ => 0

/-- A call is sent once more after a refresh. -/
@[simp] def Call.sendsLeft (call : Call) : Nat :=
  match call.phase with
  | .created => 2
  | .sent _ | .answered _ => if call.retry then 0 else 1
  | .refreshing _ | .refreshed _ | .renewed _ => 1
  | .settled _ => 0

@[simp] def Call.refreshesLeft (call : Call) : Nat :=
  match call.phase with
  | .created | .refreshing _ => 1
  | .sent _ | .answered _ => if call.retry then 0 else 1
  | .refreshed _ | .renewed _ | .settled _ => 0

/-- What a call has a limited number of. -/
inductive Budget where
  | steps
  | sends
  | refreshes

/-- What a call has left of a budget. -/
@[simp] def Budget.left : Budget → Call → Nat
  | .steps => Call.stepsLeft
  | .sends => Call.sendsLeft
  | .refreshes => Call.refreshesLeft

/-- The actions that a budget is for. -/
@[simp] def Budget.takes : Budget → Action → Bool
  | .steps => Action.isOwn
  | .sends => Action.isSend
  | .refreshes => Action.isRefresh

theorem spends_receive {s : Shared} {call : Call} {answer : Answer}
    (hphase : call.phase = .answered answer) :
    Spends Marked Budget.left Budget.takes .receive call (receive s call answer) := by
  cases hretry : call.retry with
  | true =>
      refine ⟨?_, fun budget => ?_⟩
      · cases answer <;> simp [receive, Marked, hretry]
      · cases budget <;> cases answer <;> simp [receive, hphase, hretry]
  | false =>
      cases htoken : s.storage.refreshToken with
      | none | some token =>
          refine ⟨?_, fun budget => ?_⟩
          · cases answer <;> simp [receive, Marked, hretry, htoken]
          · cases budget <;> cases answer <;> simp [receive, hphase, hretry, htoken]

theorem spends_of_acts {s t : Shared} {call after : Call} {action : Action}
    (hmarked : Marked call) (h : Acts s call action t after) :
    Spends Marked Budget.left Budget.takes action call after := by
  cases h with
  | receive hphase => exact spends_receive hphase
  | login | logout | tick | setActive =>
      refine ⟨hmarked, fun budget => ?_⟩
      cases budget <;> simp
  | send hphase | serve success hphase | lose hphase | expel hphase =>
      refine ⟨by simp [Marked], fun budget => ?_⟩
      cases budget <;> cases hretry : call.retry <;> simp [hphase, hretry]
  | serveRefresh hphase | loseRefresh hphase | renew hphase | resend hphase =>
      simp only [Marked, hphase] at hmarked
      refine ⟨by simp [Marked, hmarked], fun budget => ?_⟩
      cases budget <;> simp [hphase, hmarked]

section Bounds

variable [DecidableEq ι] {schedule : List (ι × Action)} {i : ι}

theorem exists_own_action (s : Shared) (call : Call)
    (h : ¬ ∃ answer, call.phase = .settled answer) :
    ∃ action, action.isOwn = true ∧ (act action s call).isSome = true := by
  cases hphase : call.phase with
  | created => exact ⟨.send, rfl, by simp [act, hphase]⟩
  | sent header => exact ⟨.lose, rfl, by simp [act, hphase]⟩
  | answered answer => exact ⟨.receive, rfl, by simp [act, hphase]⟩
  | refreshing token => exact ⟨.loseRefresh, rfl, by simp [act, hphase]⟩
  | refreshed response => exact ⟨.receiveRefresh, rfl, by simp [act, hphase]⟩
  | renewed access => exact ⟨.resend, rfl, by simp [act, hphase]⟩
  | settled answer => exact absurd ⟨answer, hphase⟩ h

/-- In every schedule of any number of calls, each call is sent at most twice and asks
for a new token at most once; it takes at most eight steps, and where it can take no
more it is settled. -/
theorem call_ends (hcreated : ∀ j, (start.locals j).phase = .created)
    (h : replay (interleave act) anyStep start schedule = some c) (i : ι) :
    schedule.countP (fun move => move.1 = i ∧ move.2.isSend = true) ≤ 2 ∧
      schedule.countP (fun move => move.1 = i ∧ move.2.isRefresh = true) ≤ 1 ∧
      schedule.countP (fun move => move.1 = i ∧ move.2.isOwn = true) ≤ 8 ∧
      ((∀ action, action.isOwn = true → interleave act c (i, action) = none) →
        ∃ answer, (c.locals i).phase = .settled answer) := by
  have hmarked : ∀ j, Marked (start.locals j) := by
    intro j
    simp only [Marked, hcreated j]
  obtain ⟨-, hbounds, hdone⟩ := spends_of_interleave
    (fun _ _ _ _ _ hm hact => spends_of_acts hm (acts_of_act hact)) exists_own_action hmarked h i
  refine ⟨?_, ?_, ?_, hdone⟩
  · exact (hbounds .sends).trans_eq (by simp only [Budget.left, Call.sendsLeft, hcreated i])
  · exact (hbounds .refreshes).trans_eq
      (by simp only [Budget.left, Call.refreshesLeft, hcreated i])
  · exact (hbounds .steps).trans_eq (by simp only [Budget.left, Call.stepsLeft, hcreated i])

theorem freshLogin_call_ends :
    replay (interleave act) anyStep freshLogin
        [((), .tick 3600), ((), .send), ((), .serve true), ((), .receive), ((), .serveRefresh),
          ((), .receiveRefresh), ((), .resend), ((), .serve true), ((), .receive)] ≠ none ∧
      ∀ schedule c, replay (interleave act) anyStep freshLogin schedule = some c →
        schedule.countP (fun move => move.1 = () ∧ move.2.isOwn = true) ≤ 8 := by
  refine ⟨by decide, ?_⟩
  intro schedule c h
  exact (call_ends (fun _ => rfl) h ()).2.2.1

end Bounds

end Runs

end Botman.StudioClient
