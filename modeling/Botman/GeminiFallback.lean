import Botman.LlmCalls

/-!
`call_gemini` and `call_openai` statement by statement: the requests that are
made, the exceptions that are raised, and the handlers that catch them.

A call runs in a state that keeps which models were asked, in order, and how
often `call_openai` was entered.  The answers agree with those of the shorter
description of the same functions, from which the log is absent.
-/

namespace Botman.GeminiFallback

open Botman.Library.KeyedTable
open Botman.Library.PythonValue
open Botman.Library.Retry
open Botman.DataModel
open Botman.ChatbotSettings
open Botman.ChatService
open Botman.ChatEffects
open Botman.ChatPrompt
open Botman.LlmCalls

/-- The models that are asked, in this order. -/
inductive Model where
  | flash
  | flashLite
  | openai
  deriving DecidableEq

/-- The requests that were made, and how often `call_openai` was called. -/
structure Calls where
  requests : List Model
  openai : Nat
  deriving DecidableEq

def Calls.start : Calls where
  requests := []
  openai := 0

/-- An exception, with what its handlers look at. -/
inductive PyError where
  | api (code : Option Nat) (message : String)
  | other (message : String)

/-- `str(e)`. -/
def PyError.text : PyError → String
  | .api _ message => message
  | .other message => message

/-- `on_exception` retries what is a `ClientError` or a `ServerError`, unless
`giveup` holds. -/
def PyError.retryable : PyError → Bool
  | .api code _ => isBusy code
  | .other _ => false

/-- Python code that makes requests and may raise. -/
abbrev Py := EStateM PyError Calls

/-- A text, which may be `None`, and a dictionary. -/
abbrev Answer := Option String × Option Usage

/-- What a request returns or raises. -/
def response : Outcome → Except PyError ModelReply
  | .success reply => .ok reply
  | .apiError code message => .error (.api code message)
  | .exception message => .error (.other message)

/-- Reading `response.text` may raise. -/
def readText (reply : ModelReply) : Py (Option String) :=
  match reply.parts with
  | .ok parts => pure (textOf parts)
  | .error e => throw (.other e)

/-- The counts of a reply; the attribute that holds them may be `None`. -/
def readUsage (firstCount : String) (reply : ModelReply) : Py Usage :=
  match reply.usage with
  | some usage => pure usage
  | none => throw (.other ("'NoneType' object has no attribute " ++ firstCount))

/-- The counts and then the text, as `call_openai` and the fallback read them. -/
def readAnswer (firstCount : String) (reply : ModelReply) : Py Answer := do
  let usage ← readUsage firstCount reply
  let text ← readText reply
  return (text, some usage)

section Program

variable (keys : ApiKeys) (requests : Nat → Outcome)

/-- The next request: what it meets depends on how many there were before. -/
def send (model : Model) : Py ModelReply := fun calls =>
  settle (response (requests calls.requests.length))
    { calls with requests := calls.requests ++ [model] }

/-- `_execute_call`, as decorated. -/
def runExecuteCall (model : Model) : Py ModelReply :=
  onException PyError.retryable (send requests model) 2

/-- `call_openai(prompt)`. -/
def runCallOpenai : Py Answer := do
  modify fun calls => { calls with openai := calls.openai + 1 }
  if isUsable keys.openai = false then
    return (some "Error: OpenAI API key is missing.", none)
  else
    tryCatch
      (do
        let reply ← send requests .openai
        readAnswer "'prompt_tokens'" reply)
      fun e => return (some ("Error calling OpenAI: " ++ e.text), none)

/-- The handler of `call_gemini` for an exhausted or unavailable model. -/
def runFallback : Py Answer :=
  tryCatch
    (do
      let reply ← runExecuteCall requests .flashLite
      readAnswer "'prompt_token_count'" reply)
    fun _ => runCallOpenai keys requests

/-- The `except` clauses of `call_gemini`. -/
def onGeminiError : PyError → Py Answer
  | .api code e =>
      if isBusy code then runFallback keys requests
      else return (some ("Error calling Gemini: " ++ e), none)
  | .other e => return (some ("Error calling Gemini: " ++ e), none)

/-- `call_gemini(prompt)`. -/
def runCallGemini : Py Answer :=
  if isUsable keys.gemini = false then
    return (some "Error: Gemini API key is missing.", none)
  else
    tryCatch
      (do
        let reply ← runExecuteCall requests .flash
        let text ← tryCatch (readText reply) fun _ => return some apologyText
        let usage ← readUsage "'prompt_token_count'" reply
        return (text, some usage))
      (onGeminiError keys requests)

end Program

/-- The pair that `call_gemini` returns. -/
def Returned.pair : Returned → Answer
  | .answer _ text usage => (text, some usage)
  | .apology usage => (some apologyText, some usage)
  | .errorText text => (some text, none)

theorem result_eq_pair (returned : Returned) :
    returned.result = .returned (Returned.pair returned).1 (Returned.pair returned).2 := by
  cases returned <;> rfl

section Runs

variable (keys : ApiKeys) {requests : Nat → Outcome}

/-- The log after the requests of a phase, up to the one with the given
number. -/
def Calls.upTo (calls : Calls) (model : Model) (last : Nat) : Calls :=
  { calls with
    requests := calls.requests ++ List.replicate (last + 1 - calls.requests.length) model }

theorem raisesAgain_response (outcome : Outcome) :
    asksAgain outcome = raisesAgain PyError.retryable (response outcome) := by
  cases outcome <;> rfl

theorem runExecuteCall_eq (requests : Nat → Outcome) (model : Model) (calls : Calls) :
    runExecuteCall requests model calls =
      settle (response (requests (executeCall requests calls.requests.length)))
        (calls.upTo model (executeCall requests calls.requests.length)) := by
  let state : Nat → Calls := fun n =>
    { calls with
      requests := calls.requests ++ List.replicate (n - calls.requests.length) model }
  have hcall : ∀ n, calls.requests.length ≤ n →
      send requests model (state n) = settle (response (requests n)) (state (n + 1)) := by
    intro n hn
    have hlength : (state n).requests.length = n := by
      simp only [state, List.length_append, List.length_replicate]
      omega
    have hnext : (state n).requests ++ [model] = (state (n + 1)).requests := by
      simp only [state, List.append_assoc, Nat.succ_sub hn, List.replicate_succ']
    rw [send, hlength, hnext]
  have hfirst : state calls.requests.length = calls := by
    simp [state]
  have hrun := onException_eq requests raisesAgain_response hcall 2
  rw [hfirst] at hrun
  exact hrun

/-- The pair that is made of a reply.  The usage is read first. -/
def answerIn (firstCount : String) (reply : ModelReply) : Except PyError Answer :=
  match reply.usage, reply.parts with
  | none, _ => .error (.other ("'NoneType' object has no attribute " ++ firstCount))
  | some _, .error e => .error (.other e)
  | some usage, .ok parts => .ok (textOf parts, some usage)

theorem readAnswer_eq (firstCount : String) (reply : ModelReply) (calls : Calls) :
    readAnswer firstCount reply calls = settle (answerIn firstCount reply) calls := by
  rcases reply with ⟨parts, usage⟩
  cases usage with
  | none => rfl
  | some usage => cases parts <;> rfl

/-- What `call_openai` adds: a request where there is a key. -/
def Calls.afterOpenai (calls : Calls) : Calls where
  requests := calls.requests ++ if isUsable keys.openai then [Model.openai] else []
  openai := calls.openai + 1

theorem runCallOpenai_eq (calls : Calls) :
    runCallOpenai keys requests calls =
      .ok (Returned.pair (callOpenai keys requests calls.requests.length))
        (calls.afterOpenai keys) := by
  let entered : Calls := { calls with openai := calls.openai + 1 }
  have henter : runCallOpenai keys requests calls =
      (if isUsable keys.openai = false then
        return (some "Error: OpenAI API key is missing.", none)
      else
        tryCatch (send requests .openai >>= readAnswer "'prompt_tokens'") fun e =>
          return (some ("Error calling OpenAI: " ++ e.text), none) : Py Answer) entered := rfl
  rw [henter]
  cases husable : isUsable keys.openai with
  | false =>
      simp only [callOpenai, Calls.afterOpenai, husable, if_true, Bool.false_eq_true, if_false,
        List.append_nil]
      rfl
  | true =>
      have hrun := bind_of_settle (s := entered)
        (rfl : send requests .openai entered = settle _ _) (readAnswer_eq "'prompt_tokens'" · _)
      simp only [callOpenai, Calls.afterOpenai, husable, Bool.true_eq_false, if_false, if_true]
      rw [tryCatch_of_settle hrun]
      cases requests calls.requests.length with
      | apiError code e => rfl
      | exception e => rfl
      | success reply =>
        rcases reply with ⟨parts, usage⟩
        cases usage with
        | none => rfl
        | some usage => cases parts <;> rfl

/-- A phase ends as its last attempt does. -/
def phaseResult (requests : Nat → Outcome) (last : Nat) : Except PyError Answer :=
  response (requests last) >>= answerIn "'prompt_token_count'"

theorem length_upTo (calls : Calls) (model : Model) {last : Nat}
    (h : calls.requests.length ≤ last) : (calls.upTo model last).requests.length = last + 1 := by
  simp only [Calls.upTo, List.length_append, List.length_replicate]
  omega

theorem length_fallback (requests : Nat → Outcome) :
    ((Calls.start.upTo .flash (executeCall requests 0)).upTo .flashLite
        (executeCall requests (executeCall requests 0 + 1))).requests.length =
      executeCall requests (executeCall requests 0 + 1) + 1 := by
  apply length_upTo
  rw [length_upTo Calls.start .flash (Nat.zero_le _)]
  exact le_lastAttempt requests asksAgain 2 _

theorem pair_callFlashLite (requests : Nat → Outcome) (n : Nat) :
    Returned.pair (callFlashLite keys requests n) =
      match phaseResult requests (executeCall requests n) with
      | .ok answer => answer
      | .error _ => Returned.pair (callOpenai keys requests (executeCall requests n + 1)) := by
  unfold callFlashLite phaseResult
  dsimp only
  cases requests (executeCall requests n) with
  | apiError code e => rfl
  | exception e => rfl
  | success reply =>
      rcases reply with ⟨parts, usage⟩
      cases usage with
      | none => rfl
      | some usage => cases parts <;> rfl

theorem runFallback_eq (requests : Nat → Outcome) (calls : Calls) :
    let last := executeCall requests calls.requests.length
    let asked := calls.upTo .flashLite last
    runFallback keys requests calls =
      .ok (Returned.pair (callFlashLite keys requests calls.requests.length))
        (match phaseResult requests last with
          | .ok _ => asked
          | .error _ => asked.afterOpenai keys) := by
  intro last asked
  have hrun := bind_of_settle (runExecuteCall_eq requests .flashLite calls)
    fun reply => readAnswer_eq "'prompt_token_count'" reply asked
  have hlength : asked.requests.length = last + 1 :=
    length_upTo calls .flashLite (le_lastAttempt requests asksAgain 2 _)
  unfold runFallback
  rw [tryCatch_of_settle hrun, pair_callFlashLite]
  change handled _ asked (phaseResult requests last) = _
  cases phaseResult requests last with
  | ok answer => rfl
  | error e =>
      change runCallOpenai keys requests asked = _
      rw [runCallOpenai_eq, hlength]

/-- What the block after the first phase gives: a text that cannot be read is
replaced. -/
def primaryIn (reply : ModelReply) : Except PyError Answer :=
  match reply.usage, reply.parts with
  | none, _ => .error (.other ("'NoneType' object has no attribute " ++ "'prompt_token_count'"))
  | some usage, .error _ => .ok (some apologyText, some usage)
  | some usage, .ok parts => .ok (textOf parts, some usage)

theorem readPrimary_eq (reply : ModelReply) (calls : Calls) :
    (do
      let text ← tryCatch (readText reply) fun _ => return some apologyText
      let usage ← readUsage "'prompt_token_count'" reply
      return (text, some usage) : Py Answer) calls = settle (primaryIn reply) calls := by
  rcases reply with ⟨parts, usage⟩
  cases usage with
  | none => cases parts <;> rfl
  | some usage => cases parts <;> rfl

/-- The pair that the handler of an exception returns. -/
def errorAnswer (e : PyError) : Answer :=
  (some ("Error calling Gemini: " ++ e.text), none)

/-- How a call with a usable key ends: with the answer of the first model, with
an error text, with the answer of the second model, or with what `call_openai`
returns. -/
inductive Ends (requests : Nat → Outcome) : Answer → Calls → Prop where
  | answered {reply : ModelReply} {answer : Answer}
      (hreply : requests (executeCall requests 0) = .success reply)
      (hanswer : primaryIn reply = .ok answer) :
      Ends requests answer (Calls.start.upTo .flash (executeCall requests 0))
  | unreadable {reply : ModelReply} {e : PyError}
      (hreply : requests (executeCall requests 0) = .success reply)
      (hanswer : primaryIn reply = .error e) :
      Ends requests (errorAnswer e) (Calls.start.upTo .flash (executeCall requests 0))
  | failed {e : PyError} (hfailed : response (requests (executeCall requests 0)) = .error e)
      (hcode : e.retryable = false) :
      Ends requests (errorAnswer e) (Calls.start.upTo .flash (executeCall requests 0))
  | fallback {e : PyError} {answer : Answer}
      (hfailed : response (requests (executeCall requests 0)) = .error e)
      (hcode : e.retryable = true)
      (hanswer : phaseResult requests (executeCall requests (executeCall requests 0 + 1)) =
        .ok answer) :
      Ends requests answer
        ((Calls.start.upTo .flash (executeCall requests 0)).upTo .flashLite
          (executeCall requests (executeCall requests 0 + 1)))
  | openai {e raised : PyError}
      (hfailed : response (requests (executeCall requests 0)) = .error e)
      (hcode : e.retryable = true)
      (hraised : phaseResult requests (executeCall requests (executeCall requests 0 + 1)) =
        .error raised) :
      Ends requests
        (Returned.pair (callOpenai keys requests
          (executeCall requests (executeCall requests 0 + 1) + 1)))
        (((Calls.start.upTo .flash (executeCall requests 0)).upTo .flashLite
          (executeCall requests (executeCall requests 0 + 1))).afterOpenai keys)

theorem onGeminiError_of_retryable {e : PyError} (h : e.retryable = true) (calls : Calls) :
    onGeminiError keys requests e calls = runFallback keys requests calls := by
  cases e with
  | api code message => simp only [onGeminiError, show isBusy code = true from h, if_true]
  | other message => cases h

theorem onGeminiError_of_final {e : PyError} (h : e.retryable = false) (calls : Calls) :
    onGeminiError keys requests e calls = .ok (errorAnswer e) calls := by
  cases e with
  | api code message =>
      simp only [onGeminiError, show isBusy code = false from h, Bool.false_eq_true, if_false]
      rfl
  | other message => rfl

theorem runCallGemini_eq (requests : Nat → Outcome) (husable : isUsable keys.gemini = true) :
    runCallGemini keys requests .start =
      handled (onGeminiError keys requests) (Calls.start.upTo .flash (executeCall requests 0))
        (response (requests (executeCall requests 0)) >>= primaryIn) := by
  have hrun := bind_of_settle (runExecuteCall_eq requests .flash .start)
    fun reply => readPrimary_eq reply _
  rw [runCallGemini, husable, if_neg (by decide)]
  exact tryCatch_of_settle hrun _

theorem pair_callGemini_of_success (husable : isUsable keys.gemini = true) {reply : ModelReply}
    (hreply : requests (executeCall requests 0) = .success reply) :
    Returned.pair (callGemini keys requests) =
      match primaryIn reply with
      | .ok answer => answer
      | .error e => errorAnswer e := by
  rcases reply with ⟨parts, usage⟩
  simp only [callGemini, husable, hreply, Bool.true_eq_false, if_false]
  cases usage with
  | none => rfl
  | some usage => cases parts <;> rfl

theorem pair_callGemini_of_error (husable : isUsable keys.gemini = true) {e : PyError}
    (hfailed : response (requests (executeCall requests 0)) = .error e) :
    Returned.pair (callGemini keys requests) =
      if e.retryable then
        Returned.pair (callFlashLite keys requests (executeCall requests 0 + 1))
      else errorAnswer e := by
  simp only [callGemini, husable, Bool.true_eq_false, if_false]
  cases houtcome : requests (executeCall requests 0) with
  | success reply =>
      rw [houtcome] at hfailed
      cases hfailed
  | apiError code message =>
      rw [houtcome] at hfailed
      cases hfailed
      by_cases hbusy : isBusy code = true
      · rw [if_pos (show (PyError.api code message).retryable = true from hbusy)]
        simp only [hbusy, if_true]
      · rw [if_neg (show ¬ (PyError.api code message).retryable = true from hbusy)]
        simp only [hbusy]
        rfl
  | exception message =>
      rw [houtcome] at hfailed
      cases hfailed
      rfl

theorem success_of_response {outcome : Outcome} {reply : ModelReply}
    (h : response outcome = .ok reply) : outcome = .success reply := by
  cases outcome with
  | success given =>
      cases h
      rfl
  | apiError code message => cases h
  | exception message => cases h

theorem final_of_primaryIn {reply : ModelReply} {e : PyError} (h : primaryIn reply = .error e) :
    e.retryable = false := by
  rcases reply with ⟨parts, usage⟩
  cases usage with
  | none =>
      cases h
      rfl
  | some usage => cases parts <;> cases h

theorem ends_of_success (husable : isUsable keys.gemini = true) {reply : ModelReply}
    (hreply : requests (executeCall requests 0) = .success reply) :
    ∃ answer,
      handled (onGeminiError keys requests) (Calls.start.upTo .flash (executeCall requests 0))
          (primaryIn reply) =
        .ok answer (Calls.start.upTo .flash (executeCall requests 0)) ∧
      answer = Returned.pair (callGemini keys requests) ∧
      Ends keys requests answer (Calls.start.upTo .flash (executeCall requests 0)) := by
  have hpair := pair_callGemini_of_success keys husable hreply
  cases hanswer : primaryIn reply with
  | ok answer =>
      rw [hanswer] at hpair
      exact ⟨answer, rfl, hpair.symm, .answered hreply hanswer⟩
  | error e =>
      rw [hanswer] at hpair
      exact ⟨errorAnswer e, onGeminiError_of_final keys (final_of_primaryIn hanswer) _, hpair.symm,
        .unreadable hreply hanswer⟩

theorem ends_of_error (husable : isUsable keys.gemini = true) {e : PyError}
    (hfailed : response (requests (executeCall requests 0)) = .error e) :
    ∃ answer calls,
      onGeminiError keys requests e (Calls.start.upTo .flash (executeCall requests 0)) =
        .ok answer calls ∧
      answer = Returned.pair (callGemini keys requests) ∧ Ends keys requests answer calls := by
  have hpair := pair_callGemini_of_error keys husable hfailed
  cases hcode : e.retryable with
  | false =>
      rw [hcode, if_neg Bool.false_ne_true] at hpair
      exact ⟨errorAnswer e, _, onGeminiError_of_final keys hcode _, hpair.symm,
        .failed hfailed hcode⟩
  | true =>
      have hfallback := runFallback_eq keys requests
        (Calls.start.upTo .flash (executeCall requests 0))
      have hlite := pair_callFlashLite keys requests (executeCall requests 0 + 1)
      rw [length_upTo Calls.start .flash (Nat.zero_le _)] at hfallback
      rw [hcode, if_pos rfl] at hpair
      rw [onGeminiError_of_retryable keys hcode, hfallback]
      cases hphase : phaseResult requests (executeCall requests (executeCall requests 0 + 1)) with
      | ok answer =>
          rw [hphase] at hlite
          exact ⟨_, _, rfl, hpair.symm, hlite ▸ .fallback hfailed hcode hphase⟩
      | error raised =>
          rw [hphase] at hlite
          exact ⟨_, _, rfl, hpair.symm, hlite ▸ .openai hfailed hcode hphase⟩

/-- `call_gemini` never raises.  Its answer is that of the shorter
description. -/
theorem runCallGemini_ends (requests : Nat → Outcome) (husable : isUsable keys.gemini = true) :
    ∃ answer calls, runCallGemini keys requests .start = .ok answer calls ∧
      answer = Returned.pair (callGemini keys requests) ∧ Ends keys requests answer calls := by
  rw [runCallGemini_eq keys requests husable]
  cases houtcome : response (requests (executeCall requests 0)) with
  | ok reply =>
      obtain ⟨answer, hanswer⟩ := ends_of_success keys husable (success_of_response houtcome)
      exact ⟨answer, _, hanswer⟩
  | error e => exact ends_of_error keys husable houtcome

end Runs

section Selection

variable (keys : ApiKeys) (requests : Nat → Outcome)

/-- The codes for a model that is busy. -/
def IsBusyError (outcome : Outcome) : Prop :=
  ∃ code message, outcome = .apiError (some code) message ∧ (code = 429 ∨ code = 503)

/-- A call that makes `primary` attempts on the first model and `fallback`
attempts on the second one. -/
structure Selects (primary fallback : Nat) (answer : Answer) (calls : Calls) : Prop where
  requests_eq : ∃ more, calls.requests =
    List.replicate primary .flash ++ List.replicate fallback .flashLite ++
      List.replicate more .openai ∧ more ≤ calls.openai
  primary_pos : 0 < primary
  primary_le : primary ≤ 3
  fallback_le : fallback ≤ 3
  fallback_iff : 0 < fallback ↔ IsBusyError (requests (primary - 1))
  openai_le : calls.openai ≤ 1
  openai_iff : calls.openai = 1 ↔
    0 < fallback ∧ ∃ e, phaseResult requests (primary + fallback - 1) = .error e
  succeeded : ∀ k < primary + fallback, ∀ reply, requests k = .success reply →
    ∀ parts usage, reply.parts = .ok parts → reply.usage = some usage →
      k + 1 = primary + fallback ∧ answer = (textOf parts, some usage)
  failed : ∀ e, response (requests (primary - 1)) = .error e →
    ¬ IsBusyError (requests (primary - 1)) →
      answer = (some ("Error calling Gemini: " ++ e.text), none)
  fallen : calls.openai = 1 →
    runCallOpenai keys requests
      { requests := List.replicate primary .flash ++ List.replicate fallback .flashLite
        openai := 0 } = .ok answer calls

variable {requests}

theorem isBusyError_iff {outcome : Outcome} : IsBusyError outcome ↔ asksAgain outcome = true := by
  cases outcome with
  | success reply => simp [IsBusyError, asksAgain]
  | exception message => simp [IsBusyError, asksAgain]
  | apiError code message =>
      cases code with
      | none => simp [IsBusyError, asksAgain, isBusy]
      | some code => simp [IsBusyError, asksAgain, isBusy]

theorem isBusyError_of_error {outcome : Outcome} {e : PyError} (h : response outcome = .error e) :
    IsBusyError outcome ↔ e.retryable = true := by
  rw [isBusyError_iff, raisesAgain_response, h, raisesAgain]

theorem eq_of_success {first k : Nat} {reply : ModelReply} (hfirst : first ≤ k)
    (hlast : k ≤ executeCall requests first) (hreply : requests k = .success reply) :
    k = executeCall requests first := by
  rcases Nat.eq_or_lt_of_le hlast with heq | hlt
  · exact heq
  · have hagain := again_of_lt_lastAttempt hfirst hlt
    rw [hreply] at hagain
    cases hagain

theorem requests_primary (last : Nat) :
    (Calls.start.upTo .flash last).requests = List.replicate (last + 1) .flash := by
  simp [Calls.upTo, Calls.start]

theorem requests_fallback (last lastLite : Nat) :
    ((Calls.start.upTo .flash last).upTo .flashLite lastLite).requests =
      List.replicate (last + 1) .flash ++ List.replicate (lastLite - last) .flashLite := by
  rw [Calls.upTo, requests_primary, List.length_replicate, Nat.add_sub_add_right]

theorem selects_of_settled {answer : Answer}
    (hbusy : ¬ IsBusyError (requests (executeCall requests 0)))
    (hsucceeded : ∀ reply, requests (executeCall requests 0) = .success reply →
      ∀ parts usage, reply.parts = .ok parts → reply.usage = some usage →
        answer = (textOf parts, some usage))
    (hfailed : ∀ e, response (requests (executeCall requests 0)) = .error e →
      answer = errorAnswer e) :
    Selects keys requests (executeCall requests 0 + 1) 0 answer
      (Calls.start.upTo .flash (executeCall requests 0)) := by
  have hlast : executeCall requests 0 ≤ 0 + 2 := lastAttempt_le requests asksAgain 2 0
  constructor
  case requests_eq =>
    refine ⟨0, ?_, Nat.zero_le _⟩
    rw [requests_primary]
    simp
  case primary_pos => exact Nat.succ_pos _
  case primary_le => omega
  case fallback_le => omega
  case fallback_iff => exact iff_of_false (Nat.lt_irrefl 0) hbusy
  case openai_le => exact Nat.zero_le 1
  case openai_iff => exact iff_of_false Nat.zero_ne_one fun h => Nat.lt_irrefl 0 h.1
  case succeeded =>
    intro k hk reply hreply parts usage hparts husage
    have heq := eq_of_success (Nat.zero_le k) (Nat.le_of_lt_succ hk) hreply
    rw [heq] at hreply
    exact ⟨congrArg (· + 1) heq, hsucceeded reply hreply parts usage hparts husage⟩
  case failed =>
    intro e he _
    exact hfailed e he
  case fallen =>
    intro h
    cases h

theorem eq_last_of_success {last lastLite k : Nat} {reply : ModelReply}
    (hlast : last = executeCall requests 0) (hlite : lastLite = executeCall requests (last + 1))
    (hbusy : IsBusyError (requests last)) (hk : k ≤ lastLite)
    (hreply : requests k = .success reply) : k = lastLite := by
  -- the phase ended with a busy model, so no attempt before the last one has succeeded
  rcases Nat.lt_or_ge last k with hlt | hle
  · exact (eq_of_success hlt (hlite ▸ hk) hreply).trans hlite.symm
  · have heq : k = last := (eq_of_success (Nat.zero_le k) (hlast ▸ hle) hreply).trans hlast.symm
    obtain ⟨code, message, herror, -⟩ := hbusy
    rw [heq, herror] at hreply
    cases hreply

theorem phaseResult_of_success {k : Nat} {reply : ModelReply} {parts : List (Option String)}
    {usage : Usage} (hreply : requests k = .success reply) (hparts : reply.parts = .ok parts)
    (husage : reply.usage = some usage) :
    phaseResult requests k = .ok (textOf parts, some usage) := by
  rw [phaseResult, hreply]
  change answerIn _ reply = _
  rw [answerIn, husage, hparts]

theorem selects_of_busy {answer : Answer} {calls : Calls} {last lastLite : Nat}
    (hlast : last = executeCall requests 0) (hlite : lastLite = executeCall requests (last + 1))
    (hbusy : IsBusyError (requests last))
    (hrequests : ∃ more, calls.requests =
      ((Calls.start.upTo .flash last).upTo .flashLite lastLite).requests ++
        List.replicate more .openai ∧ more ≤ calls.openai)
    (hopenai_le : calls.openai ≤ 1)
    (hopenai : calls.openai = 1 ↔ ∃ e, phaseResult requests lastLite = .error e)
    (hanswer : ∀ result, phaseResult requests lastLite = .ok result → answer = result)
    (hfallen : calls.openai = 1 → runCallOpenai keys requests
      ((Calls.start.upTo .flash last).upTo .flashLite lastLite) = .ok answer calls) :
    Selects keys requests (last + 1) (lastLite - last) answer calls := by
  have hlast_le : executeCall requests 0 ≤ 0 + 2 := lastAttempt_le requests asksAgain 2 0
  have hlite_le : executeCall requests (last + 1) ≤ last + 1 + 2 :=
    lastAttempt_le requests asksAgain 2 (last + 1)
  have hle_lite : last + 1 ≤ executeCall requests (last + 1) :=
    le_lastAttempt requests asksAgain 2 (last + 1)
  have htotal : last + 1 + (lastLite - last) = lastLite + 1 := by omega
  have hpositive : 0 < lastLite - last := by omega
  constructor
  case requests_eq =>
    rw [requests_fallback] at hrequests
    exact hrequests
  case primary_pos => exact Nat.succ_pos last
  case primary_le => omega
  case fallback_le => omega
  case fallback_iff => exact iff_of_true hpositive hbusy
  case openai_le => exact hopenai_le
  case openai_iff =>
    rw [htotal, Nat.add_sub_cancel, hopenai]
    exact (and_iff_right hpositive).symm
  case succeeded =>
    intro k hk reply hreply parts usage hparts husage
    rw [htotal] at hk ⊢
    have heq := eq_last_of_success hlast hlite hbusy (Nat.le_of_lt_succ hk) hreply
    refine ⟨congrArg (· + 1) heq, hanswer _ ?_⟩
    rw [← heq]
    exact phaseResult_of_success hreply hparts husage
  case failed =>
    intro e _ hcode
    exact absurd hbusy hcode
  case fallen =>
    intro h
    have hlog : (Calls.start.upTo .flash last).upTo .flashLite lastLite =
        { requests := List.replicate (last + 1) .flash ++
            List.replicate (lastLite - last) .flashLite
          openai := 0 } := by
      rw [← requests_fallback]
      rfl
    rw [hlog] at hfallen
    exact hfallen h

theorem selects_of_success {reply : ModelReply} {answer : Answer}
    (hreply : requests (executeCall requests 0) = .success reply)
    (hanswer : ∀ result, primaryIn reply = .ok result → answer = result) :
    Selects keys requests (executeCall requests 0 + 1) 0 answer
      (Calls.start.upTo .flash (executeCall requests 0)) := by
  refine selects_of_settled keys ?_ ?_ ?_
  · rw [isBusyError_iff, hreply]
    exact Bool.false_ne_true
  · intro given hgiven parts usage hparts husage
    cases hreply.symm.trans hgiven
    apply hanswer
    rw [primaryIn, husage, hparts]
  · intro e he
    rw [hreply] at he
    cases he

theorem Ends.selects {answer : Answer} {calls : Calls} (h : Ends keys requests answer calls) :
    ∃ primary fallback, Selects keys requests primary fallback answer calls := by
  cases h with
  | answered hreply hanswer =>
      refine ⟨_, _, selects_of_success keys hreply ?_⟩
      intro result hresult
      exact Except.ok.inj (hanswer.symm.trans hresult)
  | unreadable hreply hanswer =>
      refine ⟨_, _, selects_of_success keys hreply ?_⟩
      intro result hresult
      cases hanswer.symm.trans hresult
  | failed hfailed hcode =>
      refine ⟨_, _, selects_of_settled keys ?_ ?_ ?_⟩
      · rw [isBusyError_of_error hfailed, hcode]
        exact Bool.false_ne_true
      · intro reply hsuccess
        rw [hsuccess] at hfailed
        cases hfailed
      · intro e he
        rw [Except.error.inj (hfailed.symm.trans he)]
  | fallback hfailed hcode hanswer =>
      refine ⟨_, _, selects_of_busy keys rfl rfl ((isBusyError_of_error hfailed).mpr hcode)
        ⟨0, (List.append_nil _).symm, Nat.zero_le _⟩ (Nat.zero_le 1) ?_ ?_ ?_⟩
      · refine iff_of_false Nat.zero_ne_one ?_
        rintro ⟨e, he⟩
        cases hanswer.symm.trans he
      · intro result hresult
        exact Except.ok.inj (hanswer.symm.trans hresult)
      · intro h
        cases h
  | openai hfailed hcode hraised =>
      refine ⟨_, _, selects_of_busy keys rfl rfl ((isBusyError_of_error hfailed).mpr hcode)
        ?_ (Nat.le_refl 1) (iff_of_true rfl ⟨_, hraised⟩) ?_ ?_⟩
      · cases husable : isUsable keys.openai with
        | false =>
            refine ⟨0, ?_, Nat.zero_le _⟩
            rw [Calls.afterOpenai, husable]
            rfl
        | true =>
            refine ⟨1, ?_, Nat.le_refl 1⟩
            rw [Calls.afterOpenai, husable]
            rfl
      · intro result hresult
        cases hraised.symm.trans hresult
      · intro _
        rw [runCallOpenai_eq, length_fallback]

/-- With a usable key, `call_gemini` returns an answer for every sequence of
outcomes, and it makes the requests and returns the answer that its rules
select. -/
theorem callGemini_selects (keys : ApiKeys) (requests : Nat → Outcome)
    (husable : isUsable keys.gemini = true) :
    ∃ answer calls, runCallGemini keys requests .start = .ok answer calls ∧
      ∃ primary fallback, Selects keys requests primary fallback answer calls := by
  obtain ⟨answer, calls, hrun, -, hends⟩ := runCallGemini_ends keys requests husable
  exact ⟨answer, calls, hrun, hends.selects keys⟩

/-- Both models are busy for all their tries, and OpenAI answers. -/
def busyModels (n : Nat) : Outcome :=
  if n < 6 then .apiError (some 429) "429 RESOURCE_EXHAUSTED" else .success helloReply

theorem busyModels_selects :
    isUsable workingKeys.gemini = true ∧
      ∃ answer calls, runCallGemini workingKeys busyModels .start = .ok answer calls ∧
        ∃ primary fallback, Selects workingKeys busyModels primary fallback answer calls :=
  ⟨by decide, callGemini_selects workingKeys busyModels (by decide)⟩

end Selection

section Usability

/-- The text of a reply, if it can be read. -/
def replyText (reply : ModelReply) : Option String :=
  match reply.parts with
  | .ok parts => textOf parts
  | .error _ => none

/-- `Message.content` and `Message.token_usage` take no null. -/
def Storable (answer : Answer) : Prop :=
  answer.1.isSome = true ∧ (totalTokens answer.2).isSome = true

/-- The answer that a reply should give: its text, or a text in place of it, and
counts that can be stored. -/
structure Usable (reply : ModelReply) (answer : Answer) : Prop where
  text : ∀ t, replyText reply = some t → answer.1 = some t
  substitute : replyText reply = none → ∃ s, answer.1 = some s ∧ s ≠ ""
  storable : Storable answer

/-- The answer to a reply without a usage. -/
def unreadText : String :=
  "Error calling Gemini: " ++ "'NoneType' object has no attribute 'prompt_token_count'"

/-- The replies that `call_gemini` makes use of.  A text that raises is replaced,
one that is `None` is not; the text of a reply without usage is lost. -/
def Served (reply : ModelReply) : Prop :=
  match reply.usage with
  | some usage =>
      usage.totalTokens.isSome = true ∧
        ((replyText reply).isSome = true ∨ ∃ e, reply.parts = .error e)
  | none => ∀ t, replyText reply = some t → t = unreadText

theorem unreadText_ne_empty : unreadText ≠ "" := by decide

theorem apologyText_ne_empty : apologyText ≠ "" := by decide

theorem usable_of_unread {reply : ModelReply} (husage : reply.usage = none) :
    Usable reply (some unreadText, none) ↔ Served reply := by
  rw [Served, husage]
  constructor
  · intro h t ht
    exact (Option.some.inj (h.text t ht)).symm
  · intro h
    refine ⟨?_, fun _ => ⟨unreadText, rfl, unreadText_ne_empty⟩, rfl, rfl⟩
    intro t ht
    rw [h t ht]

theorem usable_of_apology {reply : ModelReply} {usage : Usage} {e : String}
    (husage : reply.usage = some usage) (hparts : reply.parts = .error e) :
    Usable reply (some apologyText, some usage) ↔ Served reply := by
  rw [Served, husage]
  constructor
  · intro h
    exact ⟨h.storable.2, Or.inr ⟨e, hparts⟩⟩
  · rintro ⟨htotal, -⟩
    refine ⟨?_, fun _ => ⟨apologyText, rfl, apologyText_ne_empty⟩, rfl, htotal⟩
    intro t ht
    rw [replyText, hparts] at ht
    cases ht

theorem usable_of_text {reply : ModelReply} {usage : Usage} {parts : List (Option String)}
    (husage : reply.usage = some usage) (hparts : reply.parts = .ok parts) :
    Usable reply (textOf parts, some usage) ↔ Served reply := by
  have htext : replyText reply = textOf parts := by rw [replyText, hparts]
  rw [Served, husage]
  constructor
  · intro h
    refine ⟨h.storable.2, Or.inl ?_⟩
    rw [htext]
    exact h.storable.1
  · rintro ⟨htotal, hsome | ⟨e, he⟩⟩
    · rw [htext] at hsome
      refine ⟨fun t ht => htext ▸ ht, ?_, hsome, htotal⟩
      intro hnone
      rw [← htext, hnone] at hsome
      cases hsome
    · cases hparts.symm.trans he

/-- A reply of the first model gives a usable answer exactly when it is one of
those that `call_gemini` makes use of. -/
theorem callGemini_usable_iff (keys : ApiKeys) (requests : Nat → Outcome) {reply : ModelReply}
    {calls : Calls} (husable : isUsable keys.gemini = true)
    (hreply : runExecuteCall requests .flash .start = .ok reply calls) :
    ∃ answer, runCallGemini keys requests .start = .ok answer calls ∧
      (Usable reply answer ↔ Served reply) := by
  have hrun := runCallGemini_eq keys requests husable
  have hphase := runExecuteCall_eq requests .flash .start
  rw [hreply] at hphase
  change _ = settle (response (requests (executeCall requests 0))) _ at hphase
  cases houtcome : response (requests (executeCall requests 0)) with
  | error e =>
      rw [houtcome] at hphase
      cases hphase
  | ok given =>
      rw [houtcome] at hphase hrun
      cases hphase
      change _ = handled _ _ (primaryIn reply) at hrun
      cases husage : reply.usage with
      | none =>
          rw [primaryIn, husage] at hrun
          exact ⟨_, hrun, usable_of_unread husage⟩
      | some usage =>
          cases hparts : reply.parts with
          | error e =>
              rw [primaryIn, husage, hparts] at hrun
              exact ⟨_, hrun, usable_of_apology husage hparts⟩
          | ok parts =>
              rw [primaryIn, husage, hparts] at hrun
              exact ⟨_, hrun, usable_of_text husage hparts⟩

theorem helloReply_usable :
    ∃ answer calls, runCallGemini workingKeys (fun _ => .success helloReply) .start =
        .ok answer calls ∧ Usable helloReply answer := by
  have hreply : runExecuteCall (fun _ => .success helloReply) .flash .start =
      .ok helloReply ⟨[.flash], 0⟩ := rfl
  obtain ⟨answer, hrun, husable⟩ := callGemini_usable_iff workingKeys _ (by decide) hreply
  exact ⟨answer, _, hrun, husable.mpr ⟨rfl, Or.inl rfl⟩⟩

theorem runCallGemini_answer {keys : ApiKeys} {requests : Nat → Outcome} {answer : Answer}
    {calls : Calls} (hrun : runCallGemini keys requests .start = .ok answer calls) :
    (callGemini keys requests).result = .returned answer.1 answer.2 := by
  cases husable : isUsable keys.gemini with
  | false =>
      rw [runCallGemini, if_pos husable] at hrun
      cases hrun
      rw [callGemini, if_pos husable]
      rfl
  | true =>
      obtain ⟨given, log, hgiven, hpair, -⟩ := runCallGemini_ends keys requests husable
      cases hgiven.symm.trans hrun
      rw [result_eq_pair, hpair]

theorem processChatMessage_of_unstorable (repr : Json → String) {env : ChatEnv} {db : Database}
    {call : ChatCall} {keys : ApiKeys} {requests : Nat → Outcome} {stage : PromptStage}
    {answer : Answer} {calls : Calls}
    (hgemini : isGemini (chatBot call.bot call.previewMode).selectedLlm = true)
    (hstage : promptStage repr (requestEnv keys requests env) db call = some stage)
    (hblocking : call.stream = false) (hlanguage : isEnglish stage.question.language = true)
    (hrun : runCallGemini keys requests .start = .ok answer calls)
    (hunstorable : ¬ Storable answer) :
    (processChatMessage repr (requestEnv keys requests env) db call).2 =
        .raised .integrityError ∧
      (processChatMessage repr (requestEnv keys requests env) db call).1.messages.rows =
        db.messages.rows ++ [db.messages.created (stage.question.row env)] := by
  have hanswer : (requestEnv keys requests env).answer
      (chatBot call.bot call.previewMode).selectedLlm stage.prompt =
        .returned answer.1 answer.2 := by
    rw [← runCallGemini_answer hrun]
    exact if_pos hgemini
  have hreply : replyTo repr (requestEnv keys requests env) call stage =
      failWith .integrityError := by
    rw [replyTo, hblocking, if_neg (fun h => Bool.false_ne_true h.1), blockingReply]
    simp only [hanswer, hlanguage, if_true]
    cases htext : answer.1 with
    | none => rfl
    | some text =>
        cases htotal : totalTokens answer.2 with
        | none => simp only [replyWrites, htotal]
        | some total =>
            refine absurd ⟨?_, ?_⟩ hunstorable
            · rw [htext]
              rfl
            · rw [htotal]
              rfl
  obtain ⟨q, hq, hprompt⟩ := Option.bind_eq_some_iff.mp hstage
  obtain ⟨hrespond, rfl⟩ := respondTo_of_prompt repr hprompt
  rw [processChatMessage_of_question repr hq, hrespond, hreply]
  exact ⟨rfl, messages_of_question repr hq⟩

/-- A blocked candidate: there is no text, and the counts are there. -/
def blockedReply : ModelReply where
  parts := .ok []
  usage := some ⟨some 3, some 0, some 3⟩

/-- The text of a blocked candidate is `None`, and so is the content that is to be
stored. -/
theorem blockedReply_raises :
    (∃ calls, runCallGemini workingKeys (fun _ => .success blockedReply) .start =
        .ok (none, blockedReply.usage) calls) ∧
      ¬ Usable blockedReply (none, blockedReply.usage) ∧
      (processChatMessage noRepr (requestEnv workingKeys (fun _ => .success blockedReply) plainEnv)
        geminiDb { geminiCall with stream := false }).2 = .raised .integrityError ∧
      ∃ m, (processChatMessage noRepr
          (requestEnv workingKeys (fun _ => .success blockedReply) plainEnv)
          geminiDb { geminiCall with stream := false }).1.messages.rows = [m] ∧
        m.sender = .user := by
  have hrun : runCallGemini workingKeys (fun _ => .success blockedReply) .start =
      .ok (none, blockedReply.usage) ⟨[.flash], 0⟩ := rfl
  have hunstorable : ¬ Storable (none, blockedReply.usage) := fun h => Bool.false_ne_true h.1
  obtain ⟨stage, hstage, hlanguage⟩ := exists_geminiStage fun _ => .success blockedReply
  have hblocking : promptStage noRepr
      (requestEnv workingKeys (fun _ => .success blockedReply) plainEnv) geminiDb
      { geminiCall with stream := false } = some stage := hstage
  have henglish : isEnglish stage.question.language = true := by
    rw [hlanguage]
    decide
  obtain ⟨hraised, hrows⟩ := processChatMessage_of_unstorable noRepr (by decide) hblocking rfl
    henglish hrun hunstorable
  exact ⟨⟨_, hrun⟩, fun h => hunstorable h.storable, hraised, _, hrows, rfl⟩

end Usability

end Botman.GeminiFallback
