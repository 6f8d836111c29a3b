import Botman.GeminiFallback
import Botman.StreamAccounting

/-!
The usage rows of blocking replies: whose counts they carry, and whose name.

The counts come from the request that answered.  The name comes from the
configuration of the chatbot, whichever provider was asked in the end.
-/

namespace Botman.TokenLedger

open Botman.Library.KeyedTable
open Botman.Library.PythonValue
open Botman.Library.Retry
open Botman.DataModel
open Botman.ChatbotSettings
open Botman.ChatService
open Botman.ChatEffects
open Botman.ChatPrompt
open Botman.StreamAccounting
open Botman.LlmCalls
open Botman.GeminiFallback

/-- The provider of a model, as `TokenUsage.provider` names it. -/
def providerOf : Model → String
  | .flash => "gemini"
  | .flashLite => "gemini"
  | .openai => "openai"

/-- The call of the selected provider. -/
def runAnswer (keys : ApiKeys) (requests : Nat → Outcome) (selectedLlm : Json) : Py Answer :=
  if isGemini selectedLlm then runCallGemini keys requests else runCallOpenai keys requests

/-- The usage is the one of the last request. -/
def Reported (requests : Nat → Outcome) (calls : Calls) (usage : Usage) : Prop :=
  ∃ reply, requests (calls.requests.length - 1) = .success reply ∧ reply.usage = some usage

/-- An answer with a usage comes from the last request of the log, which the given
model served. -/
def ComesFrom (requests : Nat → Outcome) (answer : Answer) (calls : Calls) (model : Model) :
    Prop :=
  ∀ usage, answer.2 = some usage →
    calls.requests.getLast? = some model ∧ Reported requests calls usage

/-- A request that succeeds with a text that can be read, and a usage. -/
def IsReadable (outcome : Outcome) : Prop :=
  ∃ reply parts usage, outcome = .success reply ∧ reply.parts = .ok parts ∧
    reply.usage = some usage

/-- Neither model of Gemini answers: the three tries of the first find it busy, and so do those of
the second, up to one that gives no readable answer or to the last. -/
def GeminiGivesUp (requests : Nat → Outcome) : Prop :=
  (∀ n ≤ 2, IsBusyError (requests n)) ∧
    ∀ n ≤ 2, (∀ m < n, IsBusyError (requests (3 + m))) → ¬ IsReadable (requests (3 + n))

section Sources

variable (keys : ApiKeys) {requests : Nat → Outcome}

theorem isBusyError_executeCall_iff :
    IsBusyError (requests (executeCall requests 0)) ↔ ∀ n ≤ 2, IsBusyError (requests n) := by
  have hlast := @lastAttempt_iff _ requests asksAgain (fun outcome => asksAgain outcome = true)
    (fun _ h => h) 2 0
  simp only [Nat.zero_add] at hlast
  simp only [isBusyError_iff, executeCall]
  rw [hlast]
  constructor
  · intro h n hn
    induction n using Nat.strong_induction_on with
    | _ n ih => exact h n hn fun m hm => ih m hm (hm.le.trans hn)
  · exact fun h n hn _ => h n hn

theorem geminiGivesUp_iff :
    GeminiGivesUp requests ↔ IsBusyError (requests (executeCall requests 0)) ∧
      ¬ IsReadable (requests (executeCall requests (executeCall requests 0 + 1))) := by
  rw [GeminiGivesUp, ← isBusyError_executeCall_iff]
  refine and_congr_right fun hbusy => ?_
  have hlast : executeCall requests 0 = 0 + 2 := lastAttempt_of_again (isBusyError_iff.mp hbusy)
  have hunreadable : ∀ outcome, asksAgain outcome = true → ¬ IsReadable outcome := by
    rintro _ hagain ⟨reply, parts, usage, rfl, -⟩
    cases hagain
  rw [hlast]
  simp only [isBusyError_iff]
  exact (lastAttempt_iff hunreadable 2 3).symm

theorem not_isReadable_of_phaseResult {last : Nat} {e : PyError}
    (h : phaseResult requests last = .error e) : ¬ IsReadable (requests last) := by
  rintro ⟨reply, parts, usage, hreply, hparts, husage⟩
  rw [phaseResult, hreply] at h
  simp [response, answerIn, hparts, husage, bind, Except.bind] at h

theorem getLast_upTo {calls : Calls} {last : Nat} (model : Model)
    (h : calls.requests.length ≤ last) :
    (calls.upTo model last).requests.getLast? = some model := by
  obtain ⟨more, hmore⟩ : ∃ more, last + 1 - calls.requests.length = more + 1 :=
    ⟨last - calls.requests.length, by omega⟩
  rw [Calls.upTo, hmore, List.replicate_succ', ← List.append_assoc, List.getLast?_concat]

theorem comesFrom_upTo {calls : Calls} {last : Nat} {answer : Answer} {reply : ModelReply}
    (model : Model) (h : calls.requests.length ≤ last) (hreply : requests last = .success reply)
    (husage : ∀ usage, answer.2 = some usage → reply.usage = some usage) :
    ComesFrom requests answer (calls.upTo model last) model := by
  intro usage hanswer
  refine ⟨getLast_upTo model h, reply, ?_, husage usage hanswer⟩
  rw [length_upTo calls model h]
  exact hreply

theorem usage_of_primaryIn {reply : ModelReply} {answer : Answer}
    (h : primaryIn reply = .ok answer) : answer.2 = reply.usage := by
  rcases reply with ⟨parts, usage⟩
  cases usage with
  | none => cases h
  | some usage => cases parts <;> cases h <;> rfl

theorem success_of_phaseResult {last : Nat} {answer : Answer}
    (h : phaseResult requests last = .ok answer) :
    ∃ reply parts usage, requests last = .success reply ∧ reply.parts = .ok parts ∧
      reply.usage = some usage ∧ answer.2 = some usage := by
  unfold phaseResult at h
  cases hrequest : requests last with
  | apiError code e =>
      rw [hrequest] at h
      cases h
  | exception e =>
      rw [hrequest] at h
      cases h
  | success reply =>
      rw [hrequest] at h
      rcases reply with ⟨parts, usage⟩
      cases usage with
      | none => cases h
      | some usage =>
          cases parts with
          | error e => cases h
          | ok parts =>
              cases h
              exact ⟨_, parts, usage, rfl, rfl, rfl, rfl⟩

theorem comesFrom_openai (calls : Calls) :
    ComesFrom requests (Returned.pair (callOpenai keys requests calls.requests.length))
      (calls.afterOpenai keys) .openai := by
  intro usage husage
  rcases callOpenai_cases keys requests calls.requests.length with
    ⟨message, herror⟩ | ⟨hkey, reply, parts, used, hreply, -, hused, hanswer⟩
  · rw [herror] at husage
    cases husage
  · rw [hanswer] at husage
    cases husage
    rw [Reported, Calls.afterOpenai, hkey]
    refine ⟨List.getLast?_concat, reply, ?_, hused⟩
    rw [if_pos rfl, List.length_append, List.length_singleton, Nat.add_sub_cancel]
    exact hreply

theorem comesFrom_of_ends {answer : Answer} {calls : Calls}
    (h : Ends keys requests answer calls) :
    ∃ model, ComesFrom requests answer calls model ∧
      (providerOf model = "gemini" ↔ ¬ GeminiGivesUp requests) := by
  have hsuccess : ∀ reply, requests (executeCall requests 0) = .success reply →
      ¬ GeminiGivesUp requests := by
    intro reply hreply hgives
    have hbusy := isBusyError_iff.mp (geminiGivesUp_iff.mp hgives).1
    rw [hreply] at hbusy
    cases hbusy
  cases h with
  | answered hreply hanswer =>
      refine ⟨.flash, comesFrom_upTo .flash (Nat.zero_le _) hreply ?_,
        iff_of_true rfl (hsuccess _ hreply)⟩
      intro usage husage
      rw [← usage_of_primaryIn hanswer, husage]
  | unreadable hreply hanswer =>
      refine ⟨.flash, ?_, iff_of_true rfl (hsuccess _ hreply)⟩
      intro usage husage
      cases husage
  | failed hfailed hcode =>
      refine ⟨.flash, ?_, iff_of_true rfl fun hgives => ?_⟩
      · intro usage husage
        cases husage
      · have hbusy := (isBusyError_of_error hfailed).mp (geminiGivesUp_iff.mp hgives).1
        cases hcode.symm.trans hbusy
  | fallback hfailed hcode hanswer =>
      obtain ⟨reply, parts, used, hreply, hparts, hused, husage⟩ := success_of_phaseResult hanswer
      refine ⟨.flashLite, comesFrom_upTo .flashLite ?_ hreply ?_, iff_of_true rfl fun hgives => ?_⟩
      · rw [length_upTo Calls.start .flash (Nat.zero_le _)]
        exact le_lastAttempt requests asksAgain 2 _
      · intro usage hanswered
        rw [hused, ← husage, hanswered]
      · exact (geminiGivesUp_iff.mp hgives).2 ⟨reply, parts, used, hreply, hparts, hused⟩
  | openai hfailed hcode hraised =>
      have hgives : GeminiGivesUp requests := geminiGivesUp_iff.mpr
        ⟨(isBusyError_of_error hfailed).mpr hcode, not_isReadable_of_phaseResult hraised⟩
      refine ⟨.openai, ?_, iff_of_false (by decide) (not_not.mpr hgives)⟩
      have hlength := length_fallback requests
      rw [← hlength]
      exact comesFrom_openai keys _

end Sources

section Rows

variable (repr : Json → String) {env : ChatEnv} {db : Database} {call : ChatCall}

theorem writes_blocking {stage : PromptStage} {answer : Answer}
    (hanswer : env.answer (chatBot call.bot call.previewMode).selectedLlm stage.prompt =
      .returned answer.1 answer.2) :
    (blockingReply repr env call stage.question.conversation stage.ground
        stage.question.language stage.prompt).writes = [] ∨
      ∃ row, (blockingReply repr env call stage.question.conversation stage.ground
          stage.question.language stage.prompt).writes =
        .message row :: ((usageRow repr call answer.2).map ReplyWrite.usage).toList := by
  simp only [blockingReply, hanswer]
  split
  · rename_i final writes hfinal hwrites
    right
    unfold replyWrites at hwrites
    split at hwrites
    · cases hwrites
      exact ⟨_, rfl⟩
    · cases hwrites
  · left
    rfl

theorem tokenUsages_of_question {q : Question} (h : question? repr env db call = some q) :
    (q.stored env).tokenUsages = db.tokenUsages := by
  have hsame := openConversation_tokenUsages env db call
  rw [(stages_of_question repr h).2.1] at hsame
  exact hsame

theorem tokenRows_of_stage {stage : PromptStage} {answer : Answer}
    (hstage : promptStage repr env db call = some stage)
    (hblocking : ¬ (call.stream = true ∧ isEnglish stage.question.language = true))
    (hanswer : env.answer (chatBot call.bot call.previewMode).selectedLlm stage.prompt =
      .returned answer.1 answer.2) :
    ∃ row? : Option TokenUsage,
      (processChatMessage repr env db call).1.tokenUsages.rows =
        db.tokenUsages.rows ++ (row?.map db.tokenUsages.created).toList ∧
      ∀ row, row? = some row → usageRow repr call answer.2 = some row := by
  obtain ⟨q, hq, hprompt⟩ := Option.bind_eq_some_iff.mp hstage
  obtain ⟨hrespond, rfl⟩ := respondTo_of_prompt repr hprompt
  have hstored := tokenUsages_of_question repr hq
  rw [processChatMessage_of_question repr hq, hrespond, replyTo, if_neg hblocking]
  rcases writes_blocking repr hanswer with hwrites | ⟨row, hwrites⟩
  · refine ⟨none, ?_, fun row hrow => by cases hrow⟩
    rw [hwrites, List.foldl_nil, hstored, Option.map_none, Option.toList_none, List.append_nil]
  · refine ⟨usageRow repr call answer.2, ?_, fun row hrow => hrow⟩
    rw [hwrites, (foldl_applyWrite_reply _ _ _).2, hstored]

theorem usageRow_fields {usage? : Option Usage} {row : TokenUsage}
    (h : usageRow repr call usage? = some row) :
    ∃ usage, usage? = some usage ∧ usage.promptTokens = some row.tokensInput ∧
      usage.completionTokens = some row.tokensOutput ∧
      usage.totalTokens = some row.totalTokens ∧
      textColumn repr (chatBot call.bot call.previewMode).selectedLlm = some row.provider := by
  cases usage? with
  | none => cases h
  | some usage =>
      simp only [usageRow] at h
      split at h
      · cases h
      · split at h
        · rename_i hprovider hinput houtput htotal
          cases h
          exact ⟨usage, rfl, hinput, houtput, htotal, hprovider⟩
        · cases h

end Rows

section Attribution

theorem runAnswer_returns (keys : ApiKeys) (requests : Nat → Outcome) (selectedLlm : Json) :
    ∃ answer calls, runAnswer keys requests selectedLlm .start = .ok answer calls ∧
      (∀ env prompt, (requestEnv keys requests env).answer selectedLlm prompt =
        .returned answer.1 answer.2) ∧
      ∃ model, ComesFrom requests answer calls model ∧
        if isGemini selectedLlm then (providerOf model = "gemini" ↔ ¬ GeminiGivesUp requests)
        else model = .openai := by
  unfold runAnswer
  cases hgemini : isGemini selectedLlm with
  | false =>
      refine ⟨_, _, runCallOpenai_eq keys .start, ?_, .openai, comesFrom_openai keys .start, rfl⟩
      intro env prompt
      rw [← result_eq_pair]
      simp only [requestEnv, hgemini]
      rfl
  | true =>
      have hanswer : ∀ answer calls, runCallGemini keys requests .start = .ok answer calls →
          ∀ env prompt, (requestEnv keys requests env).answer selectedLlm prompt =
            .returned answer.1 answer.2 := by
        intro answer calls hrun env prompt
        rw [← runCallGemini_answer hrun]
        exact if_pos hgemini
      cases husable : isUsable keys.gemini with
      | false =>
          have hrun : runCallGemini keys requests .start =
              .ok (some "Error: Gemini API key is missing.", none) .start := by
            rw [runCallGemini, if_pos husable]
            rfl
          -- no request is made, so that the answer comes from either provider
          have hnone : ∀ model, ComesFrom requests
              (some "Error: Gemini API key is missing.", none) .start model := by
            rintro model usage ⟨⟩
          by_cases hgives : GeminiGivesUp requests
          · exact ⟨_, _, hrun, hanswer _ _ hrun, .openai, hnone _,
              iff_of_false (by decide) (not_not.mpr hgives)⟩
          · exact ⟨_, _, hrun, hanswer _ _ hrun, .flash, hnone _, iff_of_true rfl hgives⟩
      | true =>
          obtain ⟨answer, calls, hrun, -, hends⟩ := runCallGemini_ends keys requests husable
          exact ⟨answer, calls, hrun, hanswer _ _ hrun, comesFrom_of_ends keys hends⟩

/-- The configured name is the one of the provider that answers, by the outcomes of the
requests. -/
def NamesAnswerer (repr : Json → String) (selectedLlm : Json) (requests : Nat → Outcome) : Prop :=
  if isGemini selectedLlm then ¬ GeminiGivesUp requests
  else textColumn repr selectedLlm = some "openai"

theorem textColumn_gemini (repr : Json → String) {selectedLlm : Json}
    (h : isGemini selectedLlm = true) : textColumn repr selectedLlm = some "gemini" := by
  cases selectedLlm with
  | str s =>
      have hs : s = "gemini" := of_decide_eq_true h
      rw [hs]
      rfl
  | _ => cases h

theorem provider_eq_iff (repr : Json → String) {selectedLlm : Json} {requests : Nat → Outcome}
    {model : Model} {provider : String}
    (hprovider : textColumn repr selectedLlm = some provider)
    (hmodel : if isGemini selectedLlm then
        (providerOf model = "gemini" ↔ ¬ GeminiGivesUp requests)
      else model = .openai) :
    provider = providerOf model ↔ NamesAnswerer repr selectedLlm requests := by
  unfold NamesAnswerer
  cases hgemini : isGemini selectedLlm with
  | true =>
      rw [hgemini, if_pos rfl] at hmodel
      rw [textColumn_gemini repr hgemini] at hprovider
      rw [if_pos rfl, ← hmodel, ← Option.some.inj hprovider]
      exact eq_comm
  | false =>
      rw [hgemini, if_neg Bool.false_ne_true] at hmodel
      rw [if_neg Bool.false_ne_true, hmodel, hprovider]
      exact Option.some_inj.symm

/-- Every usage row of a blocking reply has the counts of the request that
answered.  It has the name of the provider of that request exactly when the configured
provider answers. -/
theorem row_attributed_iff (repr : Json → String) {env : ChatEnv} {db : Database}
    {call : ChatCall} {keys : ApiKeys} {requests : Nat → Outcome} {stage : PromptStage}
    (hstage : promptStage repr (requestEnv keys requests env) db call = some stage)
    (hblocking : ¬ (call.stream = true ∧ isEnglish stage.question.language = true)) :
    let selectedLlm := (chatBot call.bot call.previewMode).selectedLlm
    let out := processChatMessage repr (requestEnv keys requests env) db call
    ∃ answer calls rows, runAnswer keys requests selectedLlm .start = .ok answer calls ∧
      out.1.tokenUsages.rows = db.tokenUsages.rows ++ rows ∧ rows.length ≤ 1 ∧
      ∀ row ∈ rows, ∃ model usage,
        calls.requests.getLast? = some model ∧ Reported requests calls usage ∧
        usage.promptTokens = some row.tokensInput ∧
        usage.completionTokens = some row.tokensOutput ∧
        usage.totalTokens = some row.totalTokens ∧
        (row.provider = providerOf model ↔ NamesAnswerer repr selectedLlm requests) := by
  intro selectedLlm out
  obtain ⟨answer, calls, hrun, hanswer, model, hfrom, hmodel⟩ :=
    runAnswer_returns keys requests selectedLlm
  obtain ⟨row?, hrows, hrow⟩ := tokenRows_of_stage repr hstage hblocking (hanswer env stage.prompt)
  refine ⟨answer, calls, _, hrun, hrows, ?_, ?_⟩
  · cases row? with
    | none => exact Nat.zero_le 1
    | some row => exact Nat.le_refl 1
  · intro row hmem
    cases row? with
    | none => cases hmem
    | some written =>
        cases List.mem_singleton.mp hmem
        obtain ⟨usage, husage, hinput, houtput, htotal, hprovider⟩ :=
          usageRow_fields repr (hrow written rfl)
        obtain ⟨hlast, hreported⟩ := hfrom usage husage
        exact ⟨model, usage, hlast, hreported, hinput, houtput, htotal,
          provider_eq_iff repr hprovider hmodel⟩

theorem geminiRow (requests : Nat → Outcome) {t : String} {tokensInput tokensOutput total : Int}
    (hanswer : (callGemini workingKeys requests).result =
      .returned (some t) (some ⟨some tokensInput, some tokensOutput, some total⟩)) :
    (processChatMessage noRepr (requestEnv workingKeys requests plainEnv) geminiDb
        { geminiCall with stream := false }).1.tokenUsages.rows =
      [⟨1, 1, "gemini", tokensInput, tokensOutput, total⟩] := by
  obtain ⟨stage, hstage, hlanguage⟩ := exists_geminiStage requests
  have hblocking : promptStage noRepr (requestEnv workingKeys requests plainEnv) geminiDb
      { geminiCall with stream := false } = some stage := hstage
  obtain ⟨q, hq, hprompt⟩ := Option.bind_eq_some_iff.mp hblocking
  obtain ⟨hrespond, rfl⟩ := respondTo_of_prompt noRepr hprompt
  have henglish : isEnglish "English" = true := by decide
  have hllm : (requestEnv workingKeys requests plainEnv).answer
      (chatBot geminiBot false).selectedLlm stage.prompt =
        .returned (some t) (some ⟨some tokensInput, some tokensOutput, some total⟩) := hanswer
  rw [processChatMessage_of_question noRepr hq, hrespond]
  simp only [replyTo, blockingReply, hlanguage, henglish, geminiCall, plainCall, hllm,
    Bool.false_eq_true, false_and, if_false, if_true, replyWrites, totalTokens]
  rw [(foldl_applyWrite_reply _ _ _).2, tokenUsages_of_question noRepr hq]
  rfl

theorem helloRow_attributed :
    ∃ answer calls row,
      runAnswer workingKeys (fun _ => .success helloReply) (.str "gemini") .start =
        .ok answer calls ∧
      (processChatMessage noRepr
        (requestEnv workingKeys (fun _ => .success helloReply) plainEnv) geminiDb
        { geminiCall with stream := false }).1.tokenUsages.rows = [row] ∧
      ∃ model, calls.requests.getLast? = some model ∧ row.provider = providerOf model := by
  obtain ⟨stage, hstage, -⟩ := exists_geminiStage fun _ => .success helloReply
  have hblocking : promptStage noRepr
      (requestEnv workingKeys (fun _ => .success helloReply) plainEnv) geminiDb
      { geminiCall with stream := false } = some stage := hstage
  obtain ⟨answer, calls, rows, hrun, hrows, -, hattributed⟩ :=
    row_attributed_iff noRepr hblocking (fun h => Bool.false_ne_true h.1)
  have hrow := geminiRow (fun _ => .success helloReply) rfl
  cases hrows.symm.trans hrow
  obtain ⟨model, -, hlast, -, -, -, -, hprovider⟩ := hattributed _ (List.mem_singleton.mpr rfl)
  cases hrun
  refine ⟨_, _, _, rfl, hrow, model, hlast, hprovider.mpr fun hgives => ?_⟩
  cases isBusyError_iff.mp (hgives.1 0 (Nat.zero_le 2))

/-- Both Gemini models are busy, OpenAI answers, and the row names Gemini. -/
theorem busyModels_misattributed :
    ∃ answer calls row,
      runAnswer workingKeys busyModels (.str "gemini") .start = .ok answer calls ∧
      calls.requests.getLast? = some .openai ∧
      (processChatMessage noRepr (requestEnv workingKeys busyModels plainEnv) geminiDb
        { geminiCall with stream := false }).1.tokenUsages.rows = [row] ∧
      row.provider = "gemini" :=
  ⟨_, _, _, rfl, rfl, geminiRow busyModels rfl, rfl⟩

end Attribution

end Botman.TokenLedger
