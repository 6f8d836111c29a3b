import Botman.KnowledgeConcurrency
import Botman.RagDebugger

/-!
What the language model is given as knowledge, traced back to the uploads.

Files are stored for a chatbot by requests, read and cut by any number of runs of
`process_knowledge_file`, and searched by `process_chat_message`.  Nothing in between
brings in text from elsewhere.
-/

namespace Botman.KnowledgeProvenance

open Botman.Library.KeyedTable
open Botman.Library.PythonValue
open Botman.Library.Transition
open Botman.Library.RankFusion
open Botman.DataModel
open Botman.KnowledgeTask
open Botman.KnowledgeIngestion hiding Event
open Botman.KnowledgeApi
open Botman.ChunkOwnership
open Botman.KnowledgeConcurrency
open Botman.KnowledgeSearch
open Botman.RagDebugger
open Botman.ChatService
open Botman.ChatEffects

universe u

section Assignment

variable {E : Type u} {assigned : Nat → Nat → Prop}

/-- The requests store files for chatbots as `assigned` says. -/
def Grants (assigned : Nat → Nat → Prop) (w : World E) : Event E → Prop
  | .request request =>
      ∀ f ∈ (handle w.store request).1.knowledge.files.rows, assigned f.id f.chatbot
  | _ => True

/-- All files, chunks and instances in memory are for chatbots that the files were stored
for. -/
structure Assigned (assigned : Nat → Nat → Prop) (w : World E) : Prop where
  files : ∀ f ∈ w.store.knowledge.files.rows, assigned f.id f.chatbot
  chunks : ∀ c ∈ w.store.knowledge.chunks.rows, assigned c.knowledgeFile c.chatbot
  runs : ∀ i f, (w.runs i).2.file = some f → assigned f.id f.chatbot

theorem assigned_statement {w : World E} {run : Nat} {after : KnowledgeStore E}
    {task : TaskState E} (h : Assigned assigned w)
    (hfollows : Follows w.store.knowledge after.knowledge (w.runs run).2 task) :
    Assigned assigned
      { store := after, runs := Function.update w.runs run ((w.runs run).1, task) } := by
  refine ⟨?_, ?_, ?_⟩
  · intro g hg
    rcases hfollows.files g hg with hold | ⟨f, hf, hid, hbot⟩
    · exact h.files g hold
    · rw [hid, hbot]
      exact h.runs run f hf
  · intro c hc
    rcases hfollows.chunks c hc with ⟨r, hr, hbot, hfile⟩ | ⟨f, hf, hbot, hfile⟩
    · rw [hbot, hfile]
      exact h.chunks r hr
    · rw [hbot, hfile]
      exact h.runs run f hf
  · refine (Function.forall_update_iff w.runs fun _ run =>
      ∀ f, run.2.file = some f → assigned f.id f.chatbot).mpr ⟨?_, fun i _ => h.runs i⟩
    intro g hg
    rcases hfollows.file g hg with ⟨f, hf, hid, hbot⟩ | ⟨f, hf, hid, hbot⟩
    · rw [hid, hbot]
      exact h.runs run f hf
    · rw [hid, hbot]
      exact h.files f hf

theorem assigned_next {w t : World E} {event : Event E} (h : Assigned assigned w)
    (hgrants : Grants assigned w event) (hnext : ChunkOwnership.next w event = some t) :
    Assigned assigned t := by
  cases event with
  | request request =>
      cases hnext
      refine ⟨hgrants, ?_, h.runs⟩
      intro c hc
      rcases chunks_handle w.store request with hsame | ⟨fileId, hdeleted⟩
      · exact h.chunks c (hsame ▸ hc)
      · dsimp only at hc
        rw [hdeleted] at hc
        exact h.chunks c ((Table.mem_delete _ _ c).mp hc).1
  | start run fileId =>
      simp only [ChunkOwnership.next] at hnext
      split at hnext
      · cases hnext
        refine ⟨h.files, h.chunks, ?_⟩
        refine (Function.forall_update_iff w.runs fun _ run =>
          ∀ f, run.2.file = some f → assigned f.id f.chatbot).mpr ⟨?_, fun i _ => h.runs i⟩
        intro f hf
        cases hf
      · cases hnext
  | statement run outcome =>
      obtain ⟨⟨after, task⟩, hrun, rfl⟩ := Option.map_eq_some_iff.mp hnext
      exact assigned_statement h (runStatement_eq_some hrun)
  | deleteChatbot chatbot =>
      cases hnext
      refine ⟨?_, ?_, h.runs⟩
      · intro f hf
        exact h.files f ((Table.mem_delete _ _ f).mp hf).1
      · intro c hc
        exact h.chunks c ((Table.mem_delete _ _ c).mp hc).1

end Assignment

section Origin

variable {n : Nat} {world : Outside (Embedding n)} {assigned : Nat → Nat → Prop}

/-- The chunk is a piece of a text that was read from a file which a request stored for
the chatbot, and its vector is one for its content. -/
structure Uploaded (world : Outside (Embedding n)) (assigned : Nat → Nat → Prop) (bot : Nat)
    (c : Chunk n) : Prop where
  chatbot : c.chatbot = bot
  file : assigned c.knowledgeFile bot
  piece : ∃ text, world.reads c.knowledgeFile text ∧ c.content ∈ chunkTexts text
  vector : ∀ e, c.embedding = some e → world.embeds c.content e

/-- The whole of what is kept along a run. -/
structure Sound (world : Outside (Embedding n)) (assigned : Nat → Nat → Prop)
    (w : World (Embedding n)) : Prop where
  tidy : Tidy world w
  matching : Matching world w
  assigned : Assigned assigned w

theorem content_mem_of_wholeCopies {k : Nat} {rows : List (Chunk n)}
    (h : WholeCopies world k rows) {c : Chunk n} (hc : c ∈ rows) :
    ∃ text, world.reads k text ∧ c.content ∈ chunkTexts text := by
  obtain ⟨copies, hreads, hrows⟩ := h
  have hstored : stored c ∈ copies.flatMap copyOf := hrows ▸ List.mem_map_of_mem hc
  obtain ⟨copy, hcopy, hpiece⟩ := List.mem_flatMap.mp hstored
  obtain ⟨piece, hmem, hsame⟩ := List.mem_map.mp hpiece
  refine ⟨copy.2, hreads copy hcopy, ?_⟩
  have hcontent : piece.1 = c.content := congrArg (fun row => row.2.1) hsame
  rw [← hcontent]
  exact List.fst_mem_of_mem_zipIdx hmem

theorem Sound.uploaded {w : World (Embedding n)} (h : Sound world assigned w) {bot : Nat}
    {c : Chunk n} (hc : c ∈ searchedChunks w.store.knowledge bot) :
    Uploaded world assigned bot c := by
  obtain ⟨hmem, hbot⟩ := List.mem_filter.mp hc
  have hbot : c.chatbot = bot := of_decide_eq_true hbot
  refine ⟨hbot, hbot ▸ h.assigned.chunks c hmem, ?_, h.matching.vectors c hmem⟩
  refine content_mem_of_wholeCopies (h.tidy.copies c.knowledgeFile) ?_
  exact List.mem_filter.mpr ⟨hmem, decide_eq_true rfl⟩

theorem sound_of_reaches {w t : World (Embedding n)}
    (hidle : ∀ i, ∃ result, (w.runs i).2 = .ended result)
    (hempty : w.store.knowledge.chunks.rows = [])
    (hfiles : ∀ f ∈ w.store.knowledge.files.rows, assigned f.id f.chatbot)
    (hrun : Reaches ChunkOwnership.next
      (fun w event => Faithful world w event ∧ Grants assigned w event) w t) :
    Sound world assigned t := by
  refine invariant_of_reaches (Sound world assigned) ?_ ?_ hrun
  · rintro w event t h ⟨hfaithful, hgrants⟩ hnext
    exact ⟨tidy_next h.tidy hfaithful hnext, matching_next h.matching hfaithful hnext,
      assigned_next h.assigned hgrants hnext⟩
  · have hnone : ∀ c, c ∉ w.store.knowledge.chunks.rows := by
      intro c hc
      rw [hempty] at hc
      cases hc
    refine ⟨⟨fun i => holds_ended (hidle i).choose_spec, ?_⟩,
      matching_idle hidle fun c hc => absurd hc (hnone c),
      ⟨hfiles, fun c hc => absurd hc (hnone c), ?_⟩⟩
    · intro k
      have hchunks : chunksOf w.store.knowledge k = [] := by
        rw [chunksOf, hempty]
        rfl
      rw [hchunks]
      exact wholeCopies_nil
    · intro i f hf
      rw [(hidle i).choose_spec] at hf
      cases hf

end Origin

section Retrieval

variable {n : Nat} {services : SearchServices n} {chunks : List (Chunk n)}

/-- A hit shows the content of a chunk and how near it is. -/
def Shows (services : SearchServices n) (processing : Json) (hit : SearchHit) (c : Chunk n) :
    Prop :=
  hit.content = c.content ∧ (hit.distance = some 0 ∨ ∃ query e,
    services.embed processing = some query ∧ c.embedding = some e ∧
      hit.distance = some (1 - similarity services query e))

theorem shows_of_retrieve {processing : Json} {hits : List SearchHit}
    (h : retrieve services chunks processing = .chunks hits) :
    hits.length ≤ 3 ∧ ∀ hit ∈ hits, ∃ c ∈ chunks, Shows services processing hit c := by
  unfold retrieve at h
  split at h
  · cases h
  · rename_i query hquery
    split at h
    · cases h
    · cases h
      refine ⟨?_, ?_⟩
      · rw [List.length_map, searchKnowledge]
        dsimp only
        split
        · exact List.length_take_le _ _
        · rw [List.length_map]
          exact List.length_take_le _ _
      · intro hit hhit
        obtain ⟨c, hc, rfl⟩ := List.mem_map.mp hhit
        obtain ⟨hrow, hmeasured | hdistance⟩ := mem_searchKnowledge hc
        · obtain ⟨e, he, hdistance⟩ := hmeasured
          exact ⟨c.row, hrow, rfl, Or.inr ⟨query, e, hquery, he, hdistance⟩⟩
        · exact ⟨c.row, hrow, rfl, Or.inl hdistance⟩

/-- The whole pipeline.  Files are stored by any requests and processed by any number of
runs, which may overlap, fail and be killed anywhere; then a message is answered from the
knowledge base.  The model was given one to three pieces of texts that were read from
files which a request had stored for this chatbot, each ranked by a vector of its own
content, or by its words. -/
theorem answers_rest_on_uploads (repr : Json → String) {world : Outside (Embedding n)}
    {assigned : Nat → Nat → Prop} {w t : World (Embedding n)}
    (hidle : ∀ i, ∃ result, (w.runs i).2 = .ended result)
    (hempty : w.store.knowledge.chunks.rows = [])
    (hfiles : ∀ f ∈ w.store.knowledge.files.rows, assigned f.id f.chatbot)
    (hrun : Reaches ChunkOwnership.next
      (fun w event => Faithful world w event ∧ Grants assigned w event) w t)
    {env : ChatEnv} {db : Database} {call : ChatCall}
    (hchunks : chunks.Perm (searchedChunks t.store.knowledge call.bot.id)) {m : Message}
    (hm : m ∈ (processChatMessage repr (searchEnv services chunks env) db call).1.messages.rows)
    (hnew : m ∉ db.messages.rows) (hsource : m.source = some "knowledge") :
    ∃ language processing hits, prepare env call = .ok (language, processing) ∧
      retrieve services chunks processing = .chunks hits ∧ 0 < hits.length ∧
      hits.length ≤ 3 ∧
      ∀ hit ∈ hits, ∃ c, Uploaded world assigned call.bot.id c ∧
        Shows services processing hit c := by
  obtain ⟨language, processing, first, rest, hprepare, hsearch, -⟩ :=
    search_of_knowledge repr hm hnew hsource
  have hretrieve : retrieve services chunks processing = .chunks (first :: rest) := hsearch
  obtain ⟨hlength, hshown⟩ := shows_of_retrieve hretrieve
  refine ⟨language, processing, first :: rest, hprepare, hretrieve, Nat.succ_pos _, hlength, ?_⟩
  intro hit hhit
  obtain ⟨c, hc, hshows⟩ := hshown hit hhit
  have hsound := sound_of_reaches hidle hempty hfiles hrun
  exact ⟨c, hsound.uploaded (hchunks.mem_iff.mp hc), hshows⟩

end Retrieval

section OneUpload

instance {E : Type u} (assigned : Nat → Nat → Prop) [∀ k bot, Decidable (assigned k bot)]
    (w : World E) (event : Event E) : Decidable (Grants assigned w event) :=
  match event with
  | .request _ => List.decidableBAll (fun f : KnowledgeFile => assigned f.id f.chatbot) _
  | .start _ _ => instDecidableTrue
  | .statement _ _ => instDecidableTrue
  | .deleteChatbot _ => instDecidableTrue

/-- A chatbot without files. -/
def emptyWorld : World (Embedding 1) where
  store :=
    { database := { Database.empty with chatbots := Table.empty.create supportBot }
      knowledge :=
        { chatbots := [1]
          files := Table.empty
          chunks := Table.empty
          disk := []
          fileOwner := fun _ hf => by cases hf
          chunkOwner := fun _ hc => by cases hc
          chunkFile := fun _ hc => by cases hc }
      sameChatbots := rfl }
  runs := fun _ => (0, .ended .killed)

/-- Every file reads as the same greeting, and only that is embedded. -/
def greetings : Outside (Embedding 1) where
  reads := fun _ text => text = "Hi there."
  embeds := fun text _ => text = "Hi there."

instance (k : Nat) (text : String) : Decidable (greetings.reads k text) :=
  inferInstanceAs (Decidable (text = "Hi there."))

instance (text : String) (e : Embedding 1) : Decidable (greetings.embeds text e) :=
  inferInstanceAs (Decidable (text = "Hi there."))

/-- The only file is stored for the only chatbot. -/
def onlyFile (k bot : Nat) : Prop :=
  k = 1 ∧ bot = 1

instance (k bot : Nat) : Decidable (onlyFile k bot) :=
  inferInstanceAs (Decidable (_ ∧ _))

/-- An upload and its run, on a database without full text search. -/
def uploaded : List (Event (Embedding 1)) :=
  [.request (fileFor .upload 1), .start 0 1, .statement 0 .done, .statement 0 .done,
    .statement 0 (.read (.text "Hi there.")), .statement 0 .done, .statement 0 .done,
    .statement 0 .done, .statement 0 (.raise "no such function"), .statement 0 .done,
    .statement 0 (.apiKey true), .statement 0 (.reply [fun _ => 1]), .statement 0 .done,
    .statement 0 .done, .statement 0 .done, .statement 0 .done]

theorem upload_answered :
    ∃ t m, ∃ hits : List SearchHit, Reaches ChunkOwnership.next
        (fun w event => Faithful greetings w event ∧ Grants onlyFile w event) emptyWorld t ∧
      m ∈ (processChatMessage noRepr (hello 1).env supportDb (hello 1).call).1.messages.rows ∧
      m.source = some "knowledge" ∧ 0 < hits.length ∧
      ∀ hit ∈ hits, ∃ c, Uploaded greetings onlyFile 1 c ∧
        Shows unitServices (.str "Hi") hit c := by
  obtain ⟨t, hrun, hsearched⟩ : ∃ t, Reaches ChunkOwnership.next
      (fun w event => Faithful greetings w event ∧ Grants onlyFile w event) emptyWorld t ∧
        searchedChunks t.store.knowledge 1 = [helloChunk 1] :=
    exists_reaches_of_replay uploaded (by decide +kernel)
  have hnodup : ([helloChunk 1].map KnowledgeChunk.id).Nodup := List.nodup_singleton _
  obtain ⟨c, hfirst, -⟩ :
      ∃ c, (searchKnowledge unitServices [helloChunk 1] (fun _ => 1) (.str "Hi") 3
        (7 / 10)).head? = some c ∧ Measured unitServices (fun _ => 1) c :=
    measured_first hnodup (by decide) qualifiedChunks_same
  obtain ⟨rest, hresult⟩ := List.head?_eq_some_iff.mp hfirst
  have hsearch : retrieve unitServices [helloChunk 1] (.str "Hi") =
      .chunks (c.hit :: rest.map FoundChunk.hit) :=
    congrArg (fun found : List (FoundChunk 1) => Retrieval.chunks (found.map FoundChunk.hit))
      hresult
  obtain ⟨m, hm, hnew, hsource, -⟩ := exists_answer_hello hsearch
  have hprepare : prepare plainEnv (plainCall "visitor" false) = .ok ("English", .str "Hi") := rfl
  obtain ⟨language, processing, hits, hprepared, -, hpos, -, hshown⟩ :=
    answers_rest_on_uploads noRepr (fun _ => ⟨_, rfl⟩) rfl (fun f hf => by cases hf) hrun
      (hsearched ▸ List.Perm.refl _) hm hnew hsource
  cases hprepare.symm.trans hprepared
  exact ⟨t, m, hits, hrun, hm, hsource, hpos, hshown⟩

end OneUpload

end Botman.KnowledgeProvenance
