import Botman.ChatbotLimits
import Botman.ChunkOwnership

/-!
`ChatbotViewSet.create` as a sequence of database statements, next to other requests.

The chatbots of the user are counted first and inserted last, with no lock between.  How
far a user can get over the limit of the plan is how many of the user's requests are
between the two statements at once.
-/

namespace Botman.ChatbotQuota

open Botman.Library.KeyedTable
open Botman.Library.Transition
open Botman.Library.PythonValue
open Botman.DataModel
open Botman.TenantContext
open Botman.TenantPrograms
open Botman.ChatbotLimits

section Statements

/-- Where a request to create a chatbot stands, with what it has read. -/
inductive Stage where
  | waiting
  | counted (count : Nat)
  | unsubscribed (count : Nat)
  | freePlan (count : Nat) (plan : Plan)
  | subscribed (count : Nat) (subscription : Subscription)
  | admitted
  | finished (response : CreateResponse)

/-- The next database statement of a request.  A subscription refers to its user by a
unique column. -/
def advance (request : CreateRequest) (db : Accounts) : Stage → Option (Accounts × Stage)
  | .waiting =>
      if request.jwtUser.isSuperuser then some (db, .admitted)
      else
        match botCount db.toDatabase request.tenant request.jwtUser.id with
        | none => some (db, .finished (.error 500 ""))
        | some count => some (db, .counted count)
  | .counted count =>
      match subscriptionOf db request.jwtUser.id with
      | none => some (db, .unsubscribed count)
      | some subscription => some (db, .subscribed count subscription)
  | .unsubscribed count =>
      match db.plans.rows.find? fun p => p.name = "Free" with
      | none => some (db, .finished (.error 500 ""))
      | some plan => some (db, .freePlan count plan)
  | .freePlan count plan =>
      match subscriptionOf db request.jwtUser.id with
      | some _ => some (db, .finished (.error 500 ""))
      | none =>
          let row : Subscription :=
            { id := 0, user := request.jwtUser.id, plan := some plan.id, isActive := true }
          some ({ db with subscriptions := db.subscriptions.create row },
            .subscribed count (db.subscriptions.created row))
  | .subscribed count subscription =>
      match subscription.plan.bind db.plans.get? with
      | none => some (db, .admitted)
      | some plan =>
          if plan.botLimit ≤ (count : Int) then
            some (db, .finished
              (.error 403 "Bot limit reached. Upgrade your plan to create more bots."))
          else some (db, .admitted)
  | .admitted =>
      let out := createChatbot db request
      some (out.1, .finished out.2)
  | .finished _ => none

/-- A request that nothing comes between. -/
def solo (request : CreateRequest) (state : Accounts × Stage) (_ : Unit) :
    Option (Accounts × Stage) :=
  advance request state.1 state.2

variable {request : CreateRequest}

theorem solo_head {db db' : Accounts} {stage stage' : Stage} {last : Accounts × Stage}
    (hstep : advance request db stage = some (db', stage'))
    (hrest : Reaches (solo request) anyStep (db', stage') last) :
    Reaches (solo request) anyStep (db, stage) last :=
  Reaches.head (a := ()) trivial hstep hrest

theorem solo_admitted (db : Accounts) :
    Reaches (solo request) anyStep (db, .admitted)
      ((createChatbot db request).1, .finished (createChatbot db request).2) :=
  solo_head rfl Relation.ReflTransGen.refl

theorem solo_subscribed (db : Accounts) (count : Nat) (subscription : Subscription) :
    let out := match subscription.plan.bind db.plans.get? with
      | none => createChatbot db request
      | some plan =>
          if plan.botLimit ≤ (count : Int) then
            (db, .error 403 "Bot limit reached. Upgrade your plan to create more bots.")
          else createChatbot db request
    Reaches (solo request) anyStep (db, .subscribed count subscription)
      (out.1, .finished out.2) := by
  intro out
  cases hplan : subscription.plan.bind db.plans.get? with
  | none =>
      simp only [out, hplan]
      exact solo_head (by simp only [advance, hplan]) (solo_admitted db)
  | some plan =>
      simp only [out, hplan]
      by_cases hreached : plan.botLimit ≤ (count : Int)
      · simp only [hreached, if_true]
        exact solo_head (by simp only [advance, hplan, hreached, if_true])
          Relation.ReflTransGen.refl
      · simp only [hreached, if_false]
        exact solo_head (by simp only [advance, hplan, hreached, if_false])
          (solo_admitted db)

/-- Left alone, the statements of a request do what `create` does. -/
theorem solo_create (db : Accounts) :
    Reaches (solo request) anyStep (db, .waiting)
      ((create db request).1, .finished (create db request).2) := by
  unfold create
  dsimp only
  cases hsuper : request.jwtUser.isSuperuser with
  | true =>
      refine solo_head (by simp only [advance, hsuper, if_true]; rfl) ?_
      exact solo_admitted db
  | false =>
      simp only [Bool.false_eq_true, if_false]
      cases hcount : botCount db.toDatabase request.tenant request.jwtUser.id with
      | none =>
          exact solo_head
            (by simp only [advance, hsuper, Bool.false_eq_true, if_false, hcount])
            Relation.ReflTransGen.refl
      | some count =>
          refine solo_head
            (by simp only [advance, hsuper, Bool.false_eq_true, if_false, hcount]; rfl) ?_
          unfold ensureSubscription
          cases hsubscription : subscriptionOf db request.jwtUser.id with
          | some subscription =>
              refine solo_head (by simp only [advance, hsubscription]; rfl) ?_
              exact solo_subscribed db count subscription
          | none =>
              refine solo_head (by simp only [advance, hsubscription]; rfl) ?_
              cases hfree : db.plans.rows.find? fun p => p.name = "Free" with
              | none =>
                  exact solo_head (by simp only [advance, hfree]; rfl)
                    Relation.ReflTransGen.refl
              | some plan =>
                  refine solo_head (by simp only [advance, hfree]; rfl) ?_
                  refine solo_head (by simp only [advance, hsubscription]; rfl) ?_
                  exact solo_subscribed _ count _

end Statements

section Requests

/-- A request to create a chatbot, or one that deletes a chatbot. -/
inductive Work where
  | creating (request : CreateRequest) (stage : Stage)
  | deleting (chatbot : Nat) (done : Bool)

/-- DELETE of a chatbot, with the rows that refer to it. -/
def destroyChatbot (db : Accounts) (chatbot : Nat) : Accounts :=
  { db with toDatabase := ChunkOwnership.deleteRows db.toDatabase chatbot }

/-- One statement of a request, or a deletion. -/
def act (_ : Unit) (db : Accounts) : Work → Option (Accounts × Work)
  | .creating request stage =>
      (advance request db stage).map fun out => (out.1, .creating request out.2)
  | .deleting chatbot false => some (destroyChatbot db chatbot, .deleting chatbot true)
  | .deleting _ true => none

/-- The limit that holds for a user: that of the plan, and of the free plan for a user
without a subscription. -/
def limitFor (db : Accounts) (user : Nat) : Option Int :=
  match subscriptionOf db user with
  | some subscription => (subscription.plan.bind db.plans.get?).map Plan.botLimit
  | none => (db.plans.rows.find? fun p => p.name = "Free").map Plan.botLimit

/-- The request was counted below the limit and has not inserted its chatbot yet. -/
def Stage.passes (limit : Int) : Stage → Bool
  | .counted count => count < limit
  | .unsubscribed count => count < limit
  | .freePlan count _ => count < limit
  | .subscribed count _ => count < limit
  | .admitted => true
  | _ => false

/-- The request has counted below the limit and may still insert. -/
def Work.isPending (user : Nat) (limit : Int) : Work → Bool
  | .creating request stage => request.jwtUser.id = user && stage.passes limit
  | .deleting _ _ => false

/-- The next statement of the work counts the chatbots of the user. -/
def Work.isCounting (user : Nat) : Work → Bool
  | .creating request .waiting => request.jwtUser.id = user
  | _ => false

/-- What a stage has read of the plans. -/
def Stage.Read (plans : Table Plan) (limit : Int) : Stage → Prop
  | .unsubscribed _ =>
      (plans.rows.find? fun p => p.name = "Free").map Plan.botLimit = some limit
  | .freePlan _ plan => plan ∈ plans.rows ∧ plan.botLimit = limit
  | .subscribed _ subscription =>
      (subscription.plan.bind plans.get?).map Plan.botLimit = some limit
  | _ => True

/-- A request of the user is no superuser's, is counted in a context that hides no chatbot
of the user, and has read the limit. -/
def Work.Fair (user : Nat) (limit : Int) (plans : Table Plan) : Work → Prop
  | .creating request stage => request.jwtUser.id = user →
      request.jwtUser.isSuperuser = false ∧ SeesAll request.tenant user ∧
        stage.Read plans limit
  | .deleting _ _ => True

variable {user : Nat} {limit : Int}

theorem createChatbot_frame (db : Accounts) (request : CreateRequest) :
    (createChatbot db request).1.plans = db.plans ∧
      (createChatbot db request).1.subscriptions = db.subscriptions := by
  unfold createChatbot
  split <;> exact ⟨rfl, rfl⟩

theorem limitFor_congr {db db' : Accounts} (hplans : db'.plans = db.plans)
    (hsubscriptions : db'.subscriptions = db.subscriptions) (user : Nat) :
    limitFor db' user = limitFor db user := by
  unfold limitFor subscriptionOf
  rw [hplans, hsubscriptions]

theorem limitFor_subscribe {db : Accounts} {row : Subscription} (plan : Plan)
    (hplan : row.plan = some plan.id)
    (hfree : row.user = user → subscriptionOf db user = none ∧ plan ∈ db.plans.rows ∧
      limitFor db user = some plan.botLimit) :
    limitFor { db with subscriptions := db.subscriptions.create row } user =
      limitFor db user := by
  have hfind : subscriptionOf { db with subscriptions := db.subscriptions.create row } user =
      (subscriptionOf db user).or
        (if row.user = user then some (db.subscriptions.created row) else none) := by
    simp only [subscriptionOf, Table.rows_create, List.find?_append, List.find?_singleton]
    congr 1
    simp only [decide_eq_true_eq]
    rfl
  by_cases huser : row.user = user
  · obtain ⟨hnone, hmem, hlimit⟩ := hfree huser
    have hget : db.plans.get? plan.id = some plan :=
      db.plans.get?_eq_some_iff.mpr ⟨hmem, rfl⟩
    have hcreated : (db.subscriptions.created row).plan = some plan.id := hplan
    rw [hlimit, limitFor, hfind]
    simp only [hnone, Option.none_or, huser, if_true, hcreated, Option.bind_some, hget,
      Option.map_some]
  · unfold limitFor
    rw [hfind]
    simp only [huser, if_false, Option.or_none]

theorem limit_advance {request : CreateRequest} {db db' : Accounts} {stage stage' : Stage}
    (hlimit : limitFor db user = some limit)
    (hread : request.jwtUser.id = user → stage.Read db.plans limit)
    (h : advance request db stage = some (db', stage')) :
    db'.plans = db.plans ∧ limitFor db' user = some limit ∧
      (request.jwtUser.id = user → stage'.Read db.plans limit) := by
  cases stage with
  | waiting =>
      simp only [advance] at h
      split at h
      · cases h
        exact ⟨rfl, hlimit, fun _ => trivial⟩
      · split at h <;> cases h <;> exact ⟨rfl, hlimit, fun _ => trivial⟩
  | counted count =>
      simp only [advance] at h
      split at h
      · rename_i hnone
        cases h
        refine ⟨rfl, hlimit, ?_⟩
        rintro rfl
        simpa only [limitFor, hnone, Stage.Read] using hlimit
      · rename_i subscription hsubscription
        cases h
        refine ⟨rfl, hlimit, ?_⟩
        rintro rfl
        simpa only [limitFor, hsubscription, Stage.Read] using hlimit
  | unsubscribed count =>
      simp only [advance] at h
      split at h
      · cases h
        exact ⟨rfl, hlimit, fun _ => trivial⟩
      · rename_i plan hplan
        cases h
        refine ⟨rfl, hlimit, fun huser => ⟨List.mem_of_find?_eq_some hplan, ?_⟩⟩
        have hfree := hread huser
        simp only [Stage.Read, hplan, Option.map_some, Option.some.injEq] at hfree
        exact hfree
  | freePlan count plan =>
      simp only [advance] at h
      split at h
      · cases h
        exact ⟨rfl, hlimit, fun _ => trivial⟩
      · rename_i hnone
        cases h
        refine ⟨rfl, ?_, ?_⟩
        · refine (limitFor_subscribe plan rfl ?_).trans hlimit
          intro huser
          obtain ⟨hmem, hplan⟩ := hread huser
          exact ⟨huser ▸ hnone, hmem, hplan ▸ hlimit⟩
        · intro huser
          obtain ⟨hmem, hplan⟩ := hread huser
          have hget : db.plans.get? plan.id = some plan :=
            db.plans.get?_eq_some_iff.mpr ⟨hmem, rfl⟩
          change (db.plans.get? plan.id).map Plan.botLimit = some limit
          rw [hget, Option.map_some, hplan]
  | subscribed count subscription =>
      simp only [advance] at h
      split at h
      · cases h
        exact ⟨rfl, hlimit, fun _ => trivial⟩
      · split at h <;> cases h <;> exact ⟨rfl, hlimit, fun _ => trivial⟩
  | admitted =>
      cases h
      obtain ⟨hplans, hsubscriptions⟩ := createChatbot_frame db request
      exact ⟨hplans, (limitFor_congr hplans hsubscriptions user).trans hlimit,
        fun _ => trivial⟩
  | finished response => cases h

theorem chatbots_advance {request : CreateRequest} {db db' : Accounts} {stage stage' : Stage}
    (h : advance request db stage = some (db', stage')) :
    db'.chatbots = db.chatbots ∨ db' = (createChatbot db request).1 := by
  cases stage with
  | waiting =>
      simp only [advance] at h
      split at h
      · cases h
        exact Or.inl rfl
      · split at h <;> cases h <;> exact Or.inl rfl
  | counted count =>
      simp only [advance] at h
      split at h <;> cases h <;> exact Or.inl rfl
  | unsubscribed count =>
      simp only [advance] at h
      split at h <;> cases h <;> exact Or.inl rfl
  | freePlan count plan =>
      simp only [advance] at h
      split at h <;> cases h <;> exact Or.inl rfl
  | subscribed count subscription =>
      simp only [advance] at h
      split at h
      · cases h
        exact Or.inl rfl
      · split at h <;> cases h <;> exact Or.inl rfl
  | admitted =>
      cases h
      exact Or.inr rfl
  | finished response => cases h

theorem ownedCount_createChatbot (user : Nat) (db : Accounts) (request : CreateRequest) :
    ownedCount (createChatbot db request).1.toDatabase user ≤
      ownedCount db.toDatabase user + if request.jwtUser.id = user then 1 else 0 := by
  rcases createChatbot_cases db request with ⟨hsame, -⟩ | ⟨row, hrow, hcreate⟩
  · unfold ownedCount
    rw [hsame]
    exact Nat.le_add_right _ _
  · have howner : row.owner = request.jwtUser.id := by
      obtain ⟨fields, -, hfields⟩ := Option.bind_eq_some_iff.mp hrow
      obtain ⟨name, -, hname⟩ := Option.bind_eq_some_iff.mp hfields
      split at hname
      · cases hname
        rfl
      · cases hname
    have hcreated : (db.chatbots.created row).owner = request.jwtUser.id := howner
    unfold ownedCount
    rw [hcreate, Table.rows_create, List.filter_append, List.length_append]
    by_cases huser : request.jwtUser.id = user <;> simp [hcreated, huser]

theorem quota_advance {request : CreateRequest} {db db' : Accounts} {stage stage' : Stage}
    (hsuper : request.jwtUser.id = user → request.jwtUser.isSuperuser = false)
    (hsees : request.jwtUser.id = user → SeesAll request.tenant user)
    (hread : request.jwtUser.id = user → stage.Read db.plans limit)
    (h : advance request db stage = some (db', stage')) :
    ownedCount db'.toDatabase user +
        (if (Work.creating request stage').isPending user limit then 1 else 0) ≤
      ownedCount db.toDatabase user +
        (if (Work.creating request stage).isPending user limit then 1 else 0) ∨
      (Work.creating request stage).isCounting user = true ∧
        (ownedCount db.toDatabase user : Int) < limit ∧
        ownedCount db'.toDatabase user = ownedCount db.toDatabase user := by
  by_cases huser : request.jwtUser.id = user
  · cases stage with
    | waiting =>
        simp only [advance, hsuper huser, Bool.false_eq_true, if_false] at h
        split at h
        · cases h
          exact Or.inl (Nat.le_refl _)
        · rename_i count hcount
          cases h
          rw [botCount_eq] at hcount
          split at hcount
          · cases hcount
          · cases hcount
            rw [huser, shownCount_of_seesAll (hsees huser)]
            by_cases hbelow : (ownedCount db.toDatabase user : Int) < limit
            · exact Or.inr ⟨decide_eq_true huser, hbelow, rfl⟩
            · left
              simp [Work.isPending, Stage.passes, hbelow]
    | counted count =>
        simp only [advance] at h
        split at h <;> cases h <;> exact Or.inl (Nat.le_refl _)
    | unsubscribed count =>
        simp only [advance] at h
        split at h
        · cases h
          left
          simp [Work.isPending, Stage.passes]
        · cases h
          exact Or.inl (Nat.le_refl _)
    | freePlan count plan =>
        simp only [advance] at h
        split at h
        · cases h
          left
          simp [Work.isPending, Stage.passes]
        · cases h
          exact Or.inl (Nat.le_refl _)
    | subscribed count subscription =>
        simp only [advance] at h
        split at h
        · rename_i hnone
          have hplan := hread huser
          simp [Stage.Read, hnone] at hplan
        · rename_i plan hplan
          have hlimit := hread huser
          simp only [Stage.Read, hplan, Option.map_some, Option.some.injEq] at hlimit
          split at h
          · cases h
            left
            simp [Work.isPending, Stage.passes]
          · rename_i hbelow
            cases h
            left
            rw [hlimit, not_le] at hbelow
            simp [Work.isPending, Stage.passes, hbelow]
    | admitted =>
        cases h
        have hcount := ownedCount_createChatbot user db request
        left
        simp only [huser, if_true] at hcount
        simp [Work.isPending, Stage.passes, huser, hcount]
    | finished response => cases h
  · have hsame : ownedCount db'.toDatabase user ≤ ownedCount db.toDatabase user := by
      rcases chatbots_advance h with hchatbots | rfl
      · unfold ownedCount
        rw [hchatbots]
      · simpa only [huser, if_false, Nat.add_zero] using
          ownedCount_createChatbot user db request
    left
    simpa [Work.isPending, huser] using hsame

theorem ownedCount_destroyChatbot_le (user : Nat) (db : Accounts) (chatbot : Nat) :
    ownedCount (destroyChatbot db chatbot).toDatabase user ≤ ownedCount db.toDatabase user := by
  unfold ownedCount destroyChatbot ChunkOwnership.deleteRows
  exact (List.filter_sublist.filter _).length_le

end Requests

section Interleavings

variable {ι : Type} [DecidableEq ι] [Fintype ι] {user : Nat} {limit : Int}

/-- One statement of one request, in any interleaving. -/
def step : Config ι Accounts Work → ι × Unit → Option (Config ι Accounts Work) :=
  interleave act

/-- The requests of the user that may still insert a chatbot. -/
def pendingCount (user : Nat) (limit : Int) (c : Config ι Accounts Work) : Nat :=
  population (Work.isPending user limit) c.locals

/-- The user's chatbots are counted only when fewer than `most` of the user's requests have
counted and not inserted yet. -/
def AtMost (user : Nat) (limit : Int) (most : Nat) (c : Config ι Accounts Work)
    (move : ι × Unit) : Prop :=
  (c.locals move.1).isCounting user = true → pendingCount user limit c < most

instance (most : Nat) (c : Config ι Accounts Work) (move : ι × Unit) :
    Decidable (AtMost user limit most c move) :=
  inferInstanceAs (Decidable (_ → _))

/-- The chatbots of the user and the requests that may add one stay below a bound. -/
structure Bounded (user : Nat) (limit bound : Int) (c : Config ι Accounts Work) : Prop where
  holds : limitFor c.shared user = some limit
  fair : ∀ i, (c.locals i).Fair user limit c.shared.plans
  count : (ownedCount c.shared.toDatabase user + pendingCount user limit c : Int) ≤ bound

theorem Bounded.update {bound : Int} {c : Config ι Accounts Work}
    (h : Bounded user limit bound c) (i : ι) {db' : Accounts} {work' : Work}
    (hlimit : limitFor db' user = some limit) (hplans : db'.plans = c.shared.plans)
    (hfair : work'.Fair user limit c.shared.plans)
    (hcount : ownedCount db'.toDatabase user +
        (if work'.isPending user limit then 1 else 0) ≤
      ownedCount c.shared.toDatabase user +
        (if (c.locals i).isPending user limit then 1 else 0) ∨
      (ownedCount db'.toDatabase user + pendingCount user limit c + 1 : Int) ≤ bound) :
    Bounded user limit bound
      { shared := db', locals := Function.update c.locals i work' } := by
  refine ⟨hlimit, ?_, ?_⟩
  · dsimp only
    rw [hplans]
    intro j
    by_cases hj : j = i
    · subst hj
      rwa [Function.update_self]
    · rw [Function.update_of_ne hj]
      exact h.fair j
  · have hpopulation := population_update (Work.isPending user limit) c.locals i work'
    have hbefore := h.count
    have hone : (if work'.isPending user limit then 1 else 0) ≤ 1 := by
      split <;> decide
    unfold pendingCount at hcount hbefore ⊢
    dsimp only
    rcases hcount with hkept | hroom <;> omega

theorem bounded_step {bound : Int} {most : Nat} (hmost : limit - 1 + most ≤ bound)
    {c d : Config ι Accounts Work} {move : ι × Unit} (h : Bounded user limit bound c)
    (hguard : AtMost user limit most c move) (hstep : step c move = some d) :
    Bounded user limit bound d := by
  obtain ⟨db', work', hact, rfl⟩ := interleave_eq_some_iff.mp hstep
  have hself := h.fair move.1
  unfold AtMost at hguard
  cases hwork : c.locals move.1 with
  | deleting chatbot done =>
      rw [hwork] at hact
      cases done with
      | true => cases hact
      | false =>
          cases hact
          refine h.update move.1 h.holds rfl trivial (Or.inl ?_)
          rw [hwork]
          exact ownedCount_destroyChatbot_le user c.shared chatbot
  | creating request stage =>
      rw [hwork] at hact hself hguard
      obtain ⟨⟨_, stage'⟩, hadvance, hout⟩ := Option.map_eq_some_iff.mp hact
      cases hout
      have hread := fun huser => (hself huser).2.2
      obtain ⟨hplans, hlimit, hread'⟩ := limit_advance h.holds hread hadvance
      refine h.update move.1 hlimit hplans ?_ ?_
      · intro huser
        obtain ⟨hsuper, hsees, -⟩ := hself huser
        exact ⟨hsuper, hsees, hread' huser⟩
      · rw [hwork]
        rcases quota_advance (fun huser => (hself huser).1) (fun huser => (hself huser).2.1)
          hread hadvance with hkept | ⟨hcounting, hbelow, hsame⟩
        · exact Or.inl hkept
        · have hfew := hguard hcounting
          right
          dsimp only
          omega

/-- The work has not begun.  The requests of the user are no superuser's, and the contexts
they are handled in hide no chatbot of the user. -/
def Work.IsNew (user : Nat) : Work → Prop
  | .creating request stage => stage = .waiting ∧ (request.jwtUser.id = user →
      request.jwtUser.isSuperuser = false ∧ SeesAll request.tenant user)
  | .deleting _ done => done = false

omit [DecidableEq ι] in
theorem bounded_of_new {start : Config ι Accounts Work} {bound : Int}
    (hlimit : limitFor start.shared user = some limit)
    (hnew : ∀ i, (start.locals i).IsNew user)
    (hbound : (ownedCount start.shared.toDatabase user : Int) ≤ bound) :
    Bounded user limit bound start := by
  have hnone : ∀ i, (start.locals i).isPending user limit = false := by
    intro i
    have hi := hnew i
    cases hwork : start.locals i with
    | creating request stage =>
        rw [hwork] at hi
        rw [hi.1]
        simp [Work.isPending, Stage.passes]
    | deleting chatbot done => rfl
  refine ⟨hlimit, ?_, ?_⟩
  · intro i
    have hi := hnew i
    cases hwork : start.locals i with
    | creating request stage =>
        rw [hwork] at hi
        obtain ⟨rfl, hfair⟩ := hi
        intro huser
        exact ⟨(hfair huser).1, (hfair huser).2, trivial⟩
    | deleting chatbot done => trivial
  · have hzero : pendingCount user limit start = 0 := by
      simp [pendingCount, population, hnone]
    rw [hzero]
    simpa using hbound

/-- Any number of requests that create or delete chatbots, in any interleaving of their
statements in which a user's chatbots are counted only while fewer than `most` of the
user's requests are between their count and their insert: the user gets at most
`most - 1` chatbots over the limit of the plan, and none where the requests are handled
one after the other. -/
theorem quota_bound {most : Nat} {start c : Config ι Accounts Work}
    (hlimit : limitFor start.shared user = some limit)
    (hnew : ∀ i, (start.locals i).IsNew user)
    (hrun : Reaches step (AtMost user limit most) start c) :
    (ownedCount c.shared.toDatabase user : Int) ≤
      max (ownedCount start.shared.toDatabase user : Int) (limit - 1 + most) := by
  have hbounded := invariant_of_reaches
    (Bounded user limit
      (max (ownedCount start.shared.toDatabase user : Int) (limit - 1 + most)))
    (fun _ _ _ h hguard hstep => bounded_step (le_max_right _ _) h hguard hstep)
    (bounded_of_new hlimit hnew (le_max_left _ _)) hrun
  have hcount := hbounded.count
  omega

end Interleavings

def emptyAccounts : Accounts where
  toDatabase := Database.empty
  plans := Table.empty.create { id := 0, name := "Free", botLimit := 1 }
  subscriptions := Table.empty.create { id := 0, user := 1, plan := some 1, isActive := true }

/-- Two requests of one user at the same time. -/
def twoRequests : Config (Fin 2) Accounts Work where
  shared := emptyAccounts
  locals := fun _ => .creating (secondChatbot none) .waiting

theorem twoRequests_quota :
    ∃ c, Reaches step (AtMost 1 1 2) twoRequests c ∧ ownedCount c.shared.toDatabase 1 = 2 ∧
      (ownedCount c.shared.toDatabase 1 : Int) ≤ max 0 (1 - 1 + (2 : Nat)) := by
  obtain ⟨c, hrun, hcount⟩ : ∃ c, Reaches step (AtMost 1 1 2) twoRequests c ∧
      ownedCount c.shared.toDatabase 1 = 2 :=
    exists_reaches_of_replay
      [(0, ()), (1, ()), (0, ()), (0, ()), (0, ()), (1, ()), (1, ()), (1, ())]
      (by decide +kernel)
  refine ⟨c, hrun, hcount, quota_bound rfl ?_ hrun⟩
  intro i
  exact ⟨rfl, fun _ => ⟨rfl, Or.inr ⟨Or.inl rfl, rfl⟩⟩⟩

end Botman.ChatbotQuota
