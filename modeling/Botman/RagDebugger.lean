import Botman.ChatApi
import Botman.HybridSearch
import Botman.VectorSearch

/-!
`DebugRAGView`, which shows the owner of a chatbot what a search for a question
finds and how the question would be routed, compared with the source that
`process_chat_message` stores with its answer.

The view searches by vector only, with a threshold of its own, and decides by
the similarity of the first chunk; a chat message is routed to the knowledge
base whenever its hybrid search finds something.
-/

namespace Botman.RagDebugger

open Botman.Library.KeyedTable
open Botman.Library.PythonValue
open Botman.DataModel
open Botman.TenantContext
open Botman.Prompts
open Botman.ChatbotSettings
open Botman.KnowledgeTask
open Botman.ChunkOwnership
open Botman.ChatService
open Botman.ChatEffects
open Botman.ChatApi
open Botman.KnowledgeSearch
open Botman.HybridSearch
open Botman.VectorSearch

section View

variable {n : Nat}

/-- A request that passed `JWTAuthentication` as `jwtUser`. -/
structure DebugRequest where
  sessionUser : Option User
  jwtUser : User
  xBotId : Option String
  botIdParam : Option String
  data : Json

/-- The context of a request to the debugger. -/
def DebugRequest.tenant (request : DebugRequest) : Tenant :=
  processView
    { user := request.sessionUser, xBotId := request.xBotId, botIdParam := request.botIdParam }
    { viewClass := some "DebugRAGView", kwargs := [] }

/-- A chunk as the debugger shows it. -/
structure RetrievedChunk where
  id : Nat
  content : String
  distance : Option ℚ
  similarity : Option ℚ

/-- The body of a response. -/
structure RagReport where
  retrievedChunks : List RetrievedChunk
  similarityScore : ℚ
  routingDecision : String
  contextPreview : String
  finalPromptPreview : String

inductive DebugResponse where
  | error (status : Nat) (message : String)
  | failed
  | report (report : RagReport)

def retrievedChunk (c : FoundChunk n) : RetrievedChunk where
  id := c.row.id
  content := c.row.content
  distance := c.distance
  similarity := c.distance.map fun d => 1 - d

/-- The similarity of the first chunk, and zero without chunks. -/
def similarityScore : List (FoundChunk n) → ℚ
  | [] => 0
  | c :: _ => (c.distance.map fun d => max 0 (1 - d)).getD 0

/-- The threshold of the view, which is not the one of the chat. -/
def routingDecision (score : ℚ) : String :=
  if 9 / 20 < score then "knowledge" else "ai_api"

/-- The view from the embedding on.  The chatbot is the stored one, without the
configuration that live traffic is served with. -/
def debugChatbot (repr : Json → String) (services : SearchServices n) (chunks : List (Chunk n))
    (bot : Chatbot) (question : Json) : DebugResponse :=
  match services.embed question with
  | none => .error 500 "Embedding generation failed"
  | some query =>
      if n = 0 then .error 500 "Embedding generation failed"
      else
        let found := searchKnowledge services chunks query .null 5 (9 / 20)
        let context := join "\n\n" (found.map fun c => c.row.content)
        match buildRagPrompt repr (draftBot bot) context "" question with
        | none => .failed
        | some prompt =>
            .report
              { retrievedChunks := found.map retrievedChunk
                similarityScore := similarityScore found
                routingDecision := routingDecision (similarityScore found)
                contextPreview := context
                finalPromptPreview := prompt }

/-- `DebugRAGView.post`; `read` are the chunks of a chatbot, in the order in which
the database returns them. -/
def debugRagView (repr : Json → String) (services : SearchServices n)
    (read : Nat → List (Chunk n)) (db : Database) (request : DebugRequest) : DebugResponse :=
  match request.data with
  | .obj fields =>
      let botId := get fields "bot_id"
      let question := get fields "question"
      if truthy botId = false ∨ truthy question = false then
        .error 400 "bot_id and question are required"
      else
        match (intOf botId).bind fun key =>
          matchingChatbots db request.tenant fun bot =>
            (bot.id : Int) = key && bot.owner = request.jwtUser.id with
        | none => .failed
        | some [] => .error 404 "Chatbot not found"
        | some [bot] => debugChatbot repr services (read bot.id) bot question
        | some (_ :: _ :: _) => .failed
  | _ => .failed

end View

section Nearest

variable {n : Nat} {services : SearchServices n} {query : Embedding n} {chunks : List (Chunk n)}

/-- Some chunk has an embedding whose similarity to the query has the property. -/
def Similar (services : SearchServices n) (query : Embedding n) (chunks : List (Chunk n))
    (p : ℚ → Prop) : Prop :=
  ∃ row ∈ chunks, ∃ e, row.embedding = some e ∧ p (similarity services query e)

theorem Similar.of_perm {more : List (Chunk n)} (h : chunks.Perm more) (p : ℚ → Prop) :
    Similar services query chunks p ↔ Similar services query more p :=
  exists_congr fun _ => and_congr_left fun _ => h.mem_iff

theorem similar_of_qualified {limit : Nat} {threshold : ℚ} {c : FoundChunk n}
    (h : c ∈ qualifiedChunks services query chunks limit threshold) :
    ∃ e, c.row ∈ chunks ∧ c.row.embedding = some e ∧
      c.distance = some (1 - similarity services query e) ∧
      threshold ≤ similarity services query e := by
  obtain ⟨hmem, hdistance⟩ := List.mem_filter.mp h
  obtain ⟨e, he, hmeasured⟩ := measured_of_qualified h
  have hrow := row_mem_of_scored (List.mem_mergeSort.mp (List.mem_of_mem_take hmem))
  rw [hmeasured, Option.any_some] at hdistance
  have hle : 1 - similarity services query e ≤ 1 - threshold := of_decide_eq_true hdistance
  exact ⟨e, hrow, he, hmeasured, sub_le_sub_iff_left 1 |>.mp hle⟩

theorem qualified_ne_nil_iff {limit : Nat} {threshold : ℚ} (hlimit : 0 < limit)
    (hthreshold : 0 < threshold) :
    qualifiedChunks services query chunks limit threshold ≠ [] ↔
      Similar services query chunks (threshold ≤ ·) := by
  constructor
  · intro hne
    obtain ⟨c, rest, hlist⟩ := List.exists_cons_of_ne_nil hne
    obtain ⟨e, hrow, he, -, hle⟩ := similar_of_qualified (hlist ▸ List.mem_cons_self)
    exact ⟨c.row, hrow, e, he, hle⟩
  · rintro ⟨row, hrow, e, he, hle⟩
    obtain ⟨c, hc, hd⟩ := exists_scored hrow he (hthreshold.trans_le hle)
    obtain ⟨first, rest, -, hlist, -, -⟩ :=
      exists_first_qualified hlimit hc hd (sub_le_sub_left hle 1)
    rw [hlist]
    exact List.cons_ne_nil first rest

theorem routes_to_knowledge_iff :
    9 / 20 < similarityScore (searchKnowledge services chunks query .null 5 (9 / 20)) ↔
      Similar services query chunks (9 / 20 < ·) := by
  have hresult : searchKnowledge services chunks query .null 5 (9 / 20) =
      (qualifiedChunks services query chunks 5 (9 / 20)).take 5 := rfl
  rw [hresult]
  constructor
  · intro hscore
    cases hlist : qualifiedChunks services query chunks 5 (9 / 20) with
    | nil =>
        rw [hlist] at hscore
        exact absurd hscore (by norm_num [similarityScore])
    | cons c rest =>
        obtain ⟨e, hrow, he, hd, hle⟩ := similar_of_qualified (hlist ▸ List.mem_cons_self)
        rw [hlist, List.take_succ_cons, similarityScore, hd, Option.map_some, Option.getD_some,
          sub_sub_cancel, lt_max_iff] at hscore
        refine ⟨c.row, hrow, e, he, hscore.resolve_left ?_⟩
        norm_num
  · rintro ⟨row, hrow, e, he, hlt⟩
    have hpositive : 0 < similarity services query e := lt_trans (by norm_num) hlt
    obtain ⟨c, hc, hd⟩ := exists_scored hrow he hpositive
    have hnear : 1 - similarity services query e ≤ 1 - 9 / 20 := sub_le_sub_left hlt.le 1
    have hfive : 0 < 5 := by decide
    obtain ⟨first, rest, nearest, hlist, hnearest, hle⟩ := exists_first_qualified hfive hc hd hnear
    rw [hlist, List.take_succ_cons, similarityScore, hnearest, Option.map_some, Option.getD_some,
      lt_max_iff]
    right
    linarith

end Nearest

section Found

variable {n : Nat} {services : SearchServices n} {query : Embedding n} {chunks : List (Chunk n)}

theorem keywordRows_ne_nil_iff (queryText : Json) :
    keywordRows services queryText chunks ≠ [] ↔
      ∃ row ∈ chunks, matchesText services queryText row = true := by
  constructor
  · intro hne
    obtain ⟨row, hrow⟩ := List.exists_mem_of_ne_nil _ hne
    exact ⟨row, mem_keywordRows.mp hrow⟩
  · rintro ⟨row, hrow⟩
    exact List.ne_nil_of_mem (mem_keywordRows.mpr hrow)

theorem searchKnowledge_ne_nil_iff {queryText : Json} (htruthy : truthy queryText = true)
    {limit : Nat} (hlimit : 0 < limit) (threshold : ℚ) :
    searchKnowledge services chunks query queryText limit threshold ≠ [] ↔
      qualifiedChunks services query chunks limit threshold ≠ [] ∨
        keywordRows services queryText chunks ≠ [] := by
  have hkeyword : keywordChunks services queryText chunks limit ≠ [] ↔
      keywordRows services queryText chunks ≠ [] := by
    rw [keywordChunks, Ne, List.take_eq_nil_iff, or_iff_right (by omega)]
  rw [searchKnowledge_hybrid htruthy, fusedChunks_ne_nil_iff hlimit, hkeyword]

theorem source_of_grounding {hits : List SearchHit} {ground : Grounding}
    (h : grounding (.chunks hits) = some ground) :
    ground.source = if hits = [] then "ai_api" else "knowledge" := by
  cases hits with
  | nil =>
      cases h
      rfl
  | cons hit hits =>
      cases h
      rfl

theorem processing_of_english {env : ChatEnv} {call : ChatCall} {language : String}
    {processing : Json} (h : prepare env call = .ok (language, processing))
    (henglish : isEnglish language = true) : processing = call.message := by
  unfold prepare at h
  split at h
  · cases h
  · split at h
    · cases h
      rw [if_pos henglish]
    · cases h

end Found

section Routing

variable {n : Nat} (repr : Json → String) {services : SearchServices n}

/-- The body asks a question to the chatbot. -/
def DebugRequest.Asks (request : DebugRequest) (bot : Nat) (question : Json) : Prop :=
  ∃ fields, request.data = .obj fields ∧ intOf (get fields "bot_id") = some (bot : Int) ∧
    get fields "question" = question

theorem report_of_chatbot {chunks : List (Chunk n)} {bot : Chatbot} {question : Json}
    {report : RagReport}
    (h : debugChatbot repr services chunks bot question = .report report) :
    0 < n ∧ ∃ query, services.embed question = some query ∧
      report.routingDecision =
        routingDecision (similarityScore
          (searchKnowledge services chunks query .null 5 (9 / 20))) := by
  unfold debugChatbot at h
  split at h
  · cases h
  · rename_i query hembed
    split at h
    · cases h
    · rename_i hsize
      dsimp only at h
      split at h
      · cases h
      · cases h
        exact ⟨Nat.pos_of_ne_zero hsize, query, hembed, rfl⟩

theorem id_of_matching {db : Database} {tenant : Tenant} {key : Int} {owner : Nat}
    {bot : Chatbot}
    (h : matchingChatbots db tenant (fun b => (b.id : Int) = key && b.owner = owner) =
      some [bot]) : (bot.id : Int) = key := by
  obtain ⟨rows, -, hrows⟩ := Option.map_eq_some_iff.mp h
  have hmem : bot ∈ [bot] := List.mem_singleton_self bot
  rw [← hrows] at hmem
  have hkey := (List.mem_filter.mp hmem).2
  rw [Bool.and_eq_true, decide_eq_true_iff] at hkey
  exact hkey.1

theorem report_of_asks {read : Nat → List (Chunk n)} {db : Database} {request : DebugRequest}
    {bot : Nat} {question : Json} {report : RagReport} (hasks : request.Asks bot question)
    (h : debugRagView repr services read db request = .report report) :
    truthy question = true ∧ 0 < n ∧ ∃ query, services.embed question = some query ∧
      report.routingDecision =
        routingDecision (similarityScore
          (searchKnowledge services (read bot) query .null 5 (9 / 20))) := by
  obtain ⟨fields, hdata, hbot, rfl⟩ := hasks
  unfold debugRagView at h
  rw [hdata] at h
  dsimp only at h
  split at h
  · cases h
  · rename_i hgiven
    rw [not_or, Bool.not_eq_false, Bool.not_eq_false] at hgiven
    rw [hbot, Option.bind_some] at h
    split at h
    · cases h
    · cases h
    · rename_i found hmatching
      rw [Int.ofNat_inj.mp (id_of_matching hmatching)] at h
      exact ⟨hgiven.2, report_of_chatbot repr h⟩
    · cases h

theorem source_of_answer {chunks : List (Chunk n)} {db : Database} {env : ChatEnv}
    {call : ChatCall} {query : Embedding n} {m : Message} (hsize : 0 < n)
    (hembed : services.embed call.message = some query)
    (henglish : ∀ language processing, prepare env call = .ok (language, processing) →
      isEnglish language = true)
    (hm : m ∈ (processChatMessage repr (searchEnv services chunks env) db call).1.messages.rows)
    (hnew : m ∉ db.messages.rows) (hbot : m.sender = .bot) :
    m.source = some
      (if searchKnowledge services chunks query call.message 3 (7 / 10) = [] then "ai_api"
      else "knowledge") := by
  rcases new_message_cases repr hm hnew with
    ⟨huser, -⟩ | ⟨-, language, processing, ground, hprepare, hground, hsource, -⟩
  · cases hbot.symm.trans huser
  · have hprocessing : processing = call.message :=
      processing_of_english hprepare (henglish language processing hprepare)
    have hretrieve : retrieve services chunks call.message =
        .chunks ((searchKnowledge services chunks query call.message 3 (7 / 10)).map
          FoundChunk.hit) := by
      rw [retrieve, hembed]
      exact if_neg (Nat.ne_of_gt hsize)
    rw [hprocessing] at hground
    change grounding (retrieve services chunks call.message) = _ at hground
    rw [hretrieve] at hground
    rw [hsource, source_of_grounding hground]
    simp only [List.map_eq_nil_iff]

theorem routes_eq_iff {near empty : Prop} [Decidable near] [Decidable empty] :
    (if empty then "ai_api" else "knowledge") = (if near then "knowledge" else "ai_api") ↔
      (near ↔ ¬ empty) := by
  by_cases hnear : near <;> by_cases hempty : empty <;> simp [hnear, hempty]

/-- The routing that the debugger reports is the source that is stored with the
answer exactly when its criterion and that of the hybrid search coincide: a chunk
is more similar than 0.45 if and only if one is at least as similar as 0.7, or
matches the text of the question. -/
theorem routing_predicted_iff {knowledge : KnowledgeDb (Embedding n)}
    {read : Nat → List (Chunk n)} {chunks : List (Chunk n)} {debugDb db : Database}
    {request : DebugRequest} {report : RagReport} {env : ChatEnv} {call : ChatCall} {m : Message}
    (hread : (read call.bot.id).Perm (searchedChunks knowledge call.bot.id))
    (hchunks : chunks.Perm (searchedChunks knowledge call.bot.id))
    (hasks : request.Asks call.bot.id call.message)
    (hreport : debugRagView repr services read debugDb request = .report report)
    (henglish : ∀ language processing, prepare env call = .ok (language, processing) →
      isEnglish language = true)
    (hm : m ∈ (processChatMessage repr (searchEnv services chunks env) db call).1.messages.rows)
    (hnew : m ∉ db.messages.rows) (hbot : m.sender = .bot) :
    ∃ query, services.embed call.message = some query ∧
      (m.source = some report.routingDecision ↔
        (Similar services query (searchedChunks knowledge call.bot.id) (9 / 20 < ·) ↔
          Similar services query (searchedChunks knowledge call.bot.id) (7 / 10 ≤ ·) ∨
            ∃ row ∈ searchedChunks knowledge call.bot.id,
              matchesText services call.message row = true)) := by
  obtain ⟨htruthy, hsize, query, hembed, hrouting⟩ := report_of_asks repr hasks hreport
  refine ⟨query, hembed, ?_⟩
  have hchat : searchKnowledge services chunks query call.message 3 (7 / 10) ≠ [] ↔
      Similar services query (searchedChunks knowledge call.bot.id) (7 / 10 ≤ ·) ∨
        ∃ row ∈ searchedChunks knowledge call.bot.id,
          matchesText services call.message row = true := by
    rw [searchKnowledge_ne_nil_iff htruthy (by decide),
      qualified_ne_nil_iff (by decide) (by norm_num), keywordRows_ne_nil_iff,
      Similar.of_perm hchunks]
    exact or_congr_right (exists_congr fun row => and_congr_left fun _ => hchunks.mem_iff)
  have hdebug : 9 / 20 < similarityScore
        (searchKnowledge services (read call.bot.id) query .null 5 (9 / 20)) ↔
      Similar services query (searchedChunks knowledge call.bot.id) (9 / 20 < ·) := by
    rw [routes_to_knowledge_iff, Similar.of_perm hread]
  rw [source_of_answer repr hsize hembed henglish hm hnew hbot, hrouting, ← hchat, ← hdebug,
    Option.some_inj, routingDecision]
  exact routes_eq_iff

/-- The owner of the chatbot asks the debugger what the visitor asks the chatbot. -/
def ownerRequest : DebugRequest where
  sessionUser := none
  jwtUser := { id := 1, isSuperuser := false, role := .user, id_pos := Nat.one_pos }
  xBotId := none
  botIdParam := none
  data := .obj [("bot_id", .int 1), ("question", .str "Hi")]

theorem ownerRequest_asks : ownerRequest.Asks supportBot.id (.str "Hi") :=
  ⟨_, rfl, rfl, rfl⟩

theorem exists_report (e : ℚ) :
    ∃ report, debugRagView noRepr unitServices (fun _ => [helloChunk e]) supportDb ownerRequest =
        .report report :=
  ⟨_, rfl⟩

theorem similar_hello_iff (e : ℚ) (p : ℚ → Prop) :
    Similar unitServices (fun _ => 1) [helloChunk e] p ↔
      p (similarity unitServices (fun _ => 1) fun _ => e) := by
  constructor
  · rintro ⟨row, hrow, embedding, hembedding, hp⟩
    cases List.mem_singleton.mp hrow
    cases hembedding
    exact hp
  · intro hp
    exact ⟨helloChunk e, List.mem_singleton_self _, _, rfl, hp⟩

theorem exists_answer_from_knowledge (e : ℚ) :
    ∃ m ∈ (processChatMessage noRepr (searchEnv unitServices [helloChunk e] plainEnv) supportDb
        (plainCall "visitor" false)).1.messages.rows,
      m ∉ supportDb.messages.rows ∧ m.sender = .bot ∧ m.source = some "knowledge" := by
  -- the text of the chunk contains the question, whatever its embedding
  have hfound : searchKnowledge unitServices [helloChunk e] (fun _ => 1) (.str "Hi") 3 (7 / 10) ≠
      [] :=
    (searchKnowledge_ne_nil_iff rfl (by decide) (7 / 10)).mpr (Or.inr (List.cons_ne_nil _ _))
  obtain ⟨c, rest, hresult⟩ := List.exists_cons_of_ne_nil hfound
  have hsearch : retrieve unitServices [helloChunk e] (.str "Hi") =
      .chunks (c.hit :: rest.map FoundChunk.hit) :=
    congrArg (fun found : List (FoundChunk 1) => Retrieval.chunks (found.map FoundChunk.hit))
      hresult
  obtain ⟨m, hm, hnew, hsource, -⟩ := exists_answer_hello hsearch
  refine ⟨m, hm, hnew, ?_, hsource⟩
  rcases new_message_cases noRepr hm hnew with ⟨-, hnone⟩ | ⟨hbot, -⟩
  · cases hnone.symm.trans hsource
  · exact hbot

theorem same_routing_predicted :
    ∃ report m, debugRagView noRepr unitServices (fun _ => [helloChunk 1]) supportDb ownerRequest =
        .report report ∧
      m ∈ (processChatMessage noRepr (searchEnv unitServices [helloChunk 1] plainEnv) supportDb
        (plainCall "visitor" false)).1.messages.rows ∧
      m.sender = .bot ∧ m.source = some report.routingDecision := by
  have hchunks : [helloChunk 1].Perm (searchedChunks (helloKnowledge 1) supportBot.id) :=
    List.Perm.refl _
  have henglish : ∀ language processing,
      prepare plainEnv (plainCall "visitor" false) = .ok (language, processing) →
        isEnglish language = true := by
    intro language processing h
    cases h
    decide
  obtain ⟨report, hreport⟩ := exists_report 1
  obtain ⟨m, hm, hnew, hbot, -⟩ := exists_answer_from_knowledge 1
  obtain ⟨query, hembed, hiff⟩ := routing_predicted_iff noRepr hchunks hchunks ownerRequest_asks
    hreport henglish hm hnew hbot
  cases hembed
  refine ⟨report, m, hreport, hm, hbot, hiff.mpr (iff_of_true ?_ (Or.inl ?_))⟩
  · refine (similar_hello_iff 1 _).mpr ?_
    rw [similarity_same]
    norm_num
  · refine (similar_hello_iff 1 _).mpr ?_
    rw [similarity_same]
    norm_num

/-- A chunk that only the words of the question find: the debugger reports the
language model, and the answer is stored as one from the knowledge base. -/
theorem opposite_routing_missed :
    ∃ report m, debugRagView noRepr unitServices (fun _ => [helloChunk (-1)]) supportDb
          ownerRequest = .report report ∧
      m ∈ (processChatMessage noRepr (searchEnv unitServices [helloChunk (-1)] plainEnv) supportDb
        (plainCall "visitor" false)).1.messages.rows ∧
      m.sender = .bot ∧ report.routingDecision = "ai_api" ∧ m.source = some "knowledge" := by
  obtain ⟨report, hreport⟩ := exists_report (-1)
  obtain ⟨m, hm, -, hbot, hsource⟩ := exists_answer_from_knowledge (-1)
  obtain ⟨-, -, query, hembed, hrouting⟩ := report_of_asks noRepr ownerRequest_asks hreport
  cases hembed
  refine ⟨report, m, hreport, hm, hbot, ?_, hsource⟩
  have hfar : ¬ 9 / 20 < similarityScore
      (searchKnowledge unitServices [helloChunk (-1)] (fun _ => 1) .null 5 (9 / 20)) := by
    rw [routes_to_knowledge_iff, similar_hello_iff, similarity_opposite]
    norm_num
  rw [hrouting, routingDecision, if_neg hfar]

end Routing

end Botman.RagDebugger
