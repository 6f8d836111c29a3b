import Botman.Library.Transition
import Botman.ProviderConcurrency

/-!
The audit trail of the provider configurations over runs of requests: which
entry a request that succeeds owes, and whom the versions it creates name as
their author.

Creations, updates, rollbacks and connection tests write to the log in the
view.  A deletion is the inherited one, and an update copies the author of the
version before.
-/

namespace Botman.ProviderAudit

open Botman.Library.KeyedTable
open Botman.Library.Transition
open Botman.Library.PythonValue
open Botman.DataModel
open Botman.ProviderApi
open Botman.ProviderVersions
open Botman.ProviderConcurrency

/-- The entry of `ACTION_CHOICES` for a request. -/
def auditAction : ProviderAction → AuditAction
  | .create _ => .create
  | .update _ _ => .update
  | .rollback _ _ => .rollback
  | .testConnection _ => .test
  | .destroy _ => .delete

/-- The request was carried out. -/
def succeeded : ProviderResponse → Bool
  | .refused _ => false
  | .error _ _ => false
  | .saved _ _ => true
  | .tested _ _ => true
  | .deleted => true

/-- The log, as far as it says who did what. -/
def trail (store : ProviderStore) : List (AuditAction × Nat) :=
  store.auditLogs.rows.map fun log => (log.action, log.user)

section Effects

/-- A row is added to the configurations, and no other key is new. -/
structure Adds (before after : ProviderStore) (new : ProviderConfiguration) : Prop where
  stored : new ∈ after.configurations.rows
  fresh : ∀ c ∈ before.configurations.rows, c.id ≠ new.id
  only : ∀ c ∈ after.configurations.rows, c = new ∨ ∃ d ∈ before.configurations.rows, d.id = c.id

/-- What a request of `user` that succeeds does to the store. -/
inductive Effect (before : ProviderStore) (user : Nat) : ProviderAction → ProviderStore → Prop
  | create {data : NewProvider} {new : ProviderConfiguration} {after : ProviderStore}
      (hadds : Adds before after new) (hauthor : new.createdBy = some user)
      (htrail : trail after = trail before ++ [(.create, user)]) :
      Effect before user (.create (some data)) after
  | update {pk : String} {changes : ProviderChanges} {config new : ProviderConfiguration}
      {after : ProviderStore}
      (hconfig : activeConfiguration before.configurations pk = some config)
      (hadds : Adds before after new) (hauthor : new.createdBy = config.createdBy)
      (htrail : trail after = trail before ++ [(.update, user)]) :
      Effect before user (.update pk (some changes)) after
  | rollback {pk : String} {data : Json} {new : ProviderConfiguration} {after : ProviderStore}
      (hadds : Adds before after new) (hauthor : new.createdBy = some user)
      (htrail : trail after = trail before ++ [(.rollback, user)]) :
      Effect before user (.rollback pk data) after
  | test {pk : String} {after : ProviderStore}
      (hsame : after.configurations = before.configurations)
      (htrail : trail after = trail before ++ [(.test, user)]) :
      Effect before user (.testConnection pk) after
  | destroy {pk : String} {after : ProviderStore}
      (honly : ∀ c ∈ after.configurations.rows, ∃ d ∈ before.configurations.rows, d.id = c.id)
      (htrail : trail after = trail before) :
      Effect before user (.destroy pk) after

theorem trail_writeAudit (store : ProviderStore) (user : Nat) (name : String)
    (action : AuditAction) (details : Dict) (status : String) :
    trail (writeAudit store user name action details status) = trail store ++ [(action, user)] := by
  rw [trail, writeAudit, Table.rows_create]
  exact List.map_append

variable {before after : ProviderStore} {config new : ProviderConfiguration} {user : Nat}

theorem adds_of_rows (hid : new.id = before.configurations.next)
    (hrows : after.configurations.rows = before.configurations.rows ++ [new]) :
    Adds before after new where
  stored := by simp [hrows]
  fresh := fun c hc => hid ▸ Nat.ne_of_lt (before.configurations.fresh c hc)
  only := by
    intro c hc
    rw [hrows] at hc
    rcases List.mem_append.mp hc with hold | hnew
    · exact Or.inr ⟨c, hold, rfl⟩
    · exact Or.inl (List.mem_singleton.mp hnew)

theorem Adds.retire (h : Adds before after new) (hconfig : config ∈ before.configurations.rows)
    {retired : ProviderStore}
    (hretired : retired.configurations = after.configurations.save config.retired) :
    Adds before retired new where
  stored := by
    rw [hretired, Table.mem_save]
    exact Or.inr ⟨h.stored, (h.fresh config hconfig).symm⟩
  fresh := h.fresh
  only := by
    intro c hc
    rw [hretired, Table.mem_save] at hc
    rcases hc with rfl | ⟨hc, -⟩
    · exact Or.inr ⟨config, hconfig, rfl⟩
    · exact h.only c hc

theorem createdBy_withCredentials (services : ProviderServices) (nonce : Nat)
    (changes : ProviderChanges) (inserted : ProviderConfiguration) :
    (withCredentials services nonce config changes inserted).createdBy = inserted.createdBy := by
  unfold withCredentials
  split
  · rfl
  · rfl

theorem effect_performCreate (services : ProviderServices) (nonce user : Nat)
    (store : ProviderStore) (data : NewProvider) :
    Effect store user (.create (some data)) (performCreate services nonce user store data).1 := by
  let row := newConfiguration user data
  have hkey := store.configurations.key_created row
  have hcreated : ∃ new, new.createdBy = some user ∧ new.id = store.configurations.next ∧
      (performCreate services nonce user store data).1.configurations.rows =
        store.configurations.rows ++ [new] := by
    simp only [performCreate, writeAudit, createConfiguration]
    cases data.credentials with
    | none => exact ⟨store.configurations.created row, rfl, hkey, rfl⟩
    | some credentials =>
        dsimp only
        split
        · exact ⟨store.configurations.created row, rfl, hkey, rfl⟩
        · let saved := setCredentials services nonce credentials (store.configurations.created row)
          exact ⟨saved, rfl, hkey, store.configurations.rows_save_create row saved hkey⟩
  obtain ⟨new, hauthor, hid, hrows⟩ := hcreated
  exact .create (adds_of_rows hid hrows) hauthor (trail_writeAudit ..)

theorem effect_performUpdate (services : ProviderServices) (nonce user : Nat)
    {store : ProviderStore} {pk : String} (changes : ProviderChanges)
    (hconfig : activeConfiguration store.configurations pk = some config) :
    Effect store user (.update pk (some changes))
      (performUpdate services nonce user store config changes).1 := by
  let row := nextVersion config changes
  let inserted := store.configurations.created row
  let saved := withCredentials services nonce config changes inserted
  have hid : saved.id = store.configurations.next :=
    (samePlace_withCredentials services nonce config inserted changes).1.1
  have hadds : Adds store
      { store with configurations := (store.configurations.create row).save saved } saved :=
    adds_of_rows hid (store.configurations.rows_save_create row saved hid)
  refine .update hconfig (hadds.retire (mem_of_activeConfiguration hconfig).1 rfl) ?_
    (trail_writeAudit ..)
  exact createdBy_withCredentials services nonce changes inserted

theorem effect_rollback {store : ProviderStore} {pk : String} {current : ProviderConfiguration}
    (hcurrent : activeConfiguration store.configurations pk = some current) (data : Json) :
    (rollback user store current data).1 = store ∧
        succeeded (rollback user store current data).2 = false ∨
      succeeded (rollback user store current data).2 = true ∧
        Effect store user (.rollback pk data) (rollback user store current data).1 := by
  unfold rollback
  split
  · dsimp only
    split
    · split
      · exact Or.inl ⟨rfl, rfl⟩
      · split
        · exact Or.inl ⟨rfl, rfl⟩
        · rename_i target _
          let row := rolledBack current target user
          have hadds : Adds store { store with configurations := store.configurations.create row }
              (store.configurations.created row) :=
            adds_of_rows (store.configurations.key_created row) rfl
          exact Or.inr ⟨rfl, .rollback (hadds.retire (mem_of_activeConfiguration hcurrent).1 rfl)
            rfl (trail_writeAudit ..)⟩
        · exact Or.inl ⟨rfl, rfl⟩
    · exact Or.inl ⟨rfl, rfl⟩
  · exact Or.inl ⟨rfl, rfl⟩

theorem effect_testConnection (services : ProviderServices) (elapsed : ℚ) (store : ProviderStore)
    (pk : String) (config : ProviderConfiguration) :
    (testConnection services elapsed user store config).1 = store ∧
        succeeded (testConnection services elapsed user store config).2 = false ∨
      succeeded (testConnection services elapsed user store config).2 = true ∧
        Effect store user (.testConnection pk)
          (testConnection services elapsed user store config).1 := by
  unfold testConnection
  split
  · exact Or.inl ⟨rfl, rfl⟩
  · split
    · exact Or.inr ⟨rfl, .test rfl (trail_writeAudit ..)⟩
    · exact Or.inr ⟨rfl, .test rfl (trail_writeAudit ..)⟩

theorem effect_destroy (store : ProviderStore) (pk : String) (config : ProviderConfiguration) :
    Effect store user (.destroy pk) (destroy store config).1 := by
  refine .destroy ?_ rfl
  intro c hc
  have hc := ((Table.mem_delete _ _ _).mp hc).1
  rw [Table.rows_modify] at hc
  obtain ⟨d, hd, rfl⟩ := List.mem_map.mp hc
  refine ⟨d, hd, ?_⟩
  split
  · rfl
  · rfl

theorem onActive_cases {store : ProviderStore} {pk : String} {action : ProviderAction}
    {body : ProviderConfiguration → ProviderStore × ProviderResponse}
    (hbody : ∀ config, activeConfiguration store.configurations pk = some config →
      (body config).1 = store ∧ succeeded (body config).2 = false ∨
        succeeded (body config).2 = true ∧ Effect store user action (body config).1) :
    (onActive store pk body).1 = store ∧ succeeded (onActive store pk body).2 = false ∨
      succeeded (onActive store pk body).2 = true ∧
        Effect store user action (onActive store pk body).1 := by
  unfold onActive
  split
  · exact Or.inl ⟨rfl, rfl⟩
  · rename_i config hconfig
    exact hbody config hconfig

theorem dispatch_cases (services : ProviderServices) (store : ProviderStore)
    (call : ProviderCall) (user : Nat) :
    (dispatch services store call user).1 = store ∧
        succeeded (dispatch services store call user).2 = false ∨
      succeeded (dispatch services store call user).2 = true ∧
        Effect store user call.action (dispatch services store call user).1 := by
  unfold dispatch
  cases call.action with
  | create data =>
      cases data with
      | none => exact Or.inl ⟨rfl, rfl⟩
      | some data => exact Or.inr ⟨rfl, effect_performCreate services call.nonce user store data⟩
  | update pk changes =>
      refine onActive_cases fun config hconfig => ?_
      cases changes with
      | none => exact Or.inl ⟨rfl, rfl⟩
      | some changes =>
          exact Or.inr ⟨rfl, effect_performUpdate services call.nonce user changes hconfig⟩
  | rollback pk data => exact onActive_cases fun config hconfig => effect_rollback hconfig data
  | testConnection pk =>
      exact onActive_cases fun config _ =>
        effect_testConnection services call.elapsed store pk config
  | destroy pk =>
      exact onActive_cases fun config _ => Or.inr ⟨rfl, effect_destroy store pk config⟩

theorem handle_cases (services : ProviderServices) (store : ProviderStore) (call : ProviderCall) :
    (handle services store call).1 = store ∧
        succeeded (handle services store call).2 = false ∨
      ∃ user, call.user = some user ∧ succeeded (handle services store call).2 = true ∧
        Effect store user.id call.action (handle services store call).1 := by
  unfold handle
  cases hcall : call.user with
  | none => exact Or.inl ⟨rfl, rfl⟩
  | some user =>
      dsimp only
      cases user.role with
      | user => exact Or.inl ⟨rfl, rfl⟩
      | admin =>
          rcases dispatch_cases services store call user.id with hkept | hdone
          · exact Or.inl hkept
          · exact Or.inr ⟨user, rfl, hdone⟩

def isDestroy : ProviderAction → Bool
  | .destroy _ => true
  | _ => false

theorem Effect.trail_eq {action : ProviderAction} (h : Effect before user action after) :
    trail after = trail before ++ if isDestroy action then [] else [(auditAction action, user)] := by
  cases h with
  | create _ _ htrail => exact htrail
  | update _ _ _ htrail => exact htrail
  | rollback _ _ htrail => exact htrail
  | test _ htrail => exact htrail
  | destroy _ htrail => rw [htrail]; exact (List.append_nil _).symm

/-- Every configuration that a request creates has this author. -/
def NewNames (before after : ProviderStore) (author : Option Nat) : Prop :=
  ∀ c ∈ after.configurations.rows, (∀ d ∈ before.configurations.rows, d.id ≠ c.id) →
    c.createdBy = author

theorem newNames_of_no_new {author : Option Nat}
    (h : ∀ c ∈ after.configurations.rows, ∃ d ∈ before.configurations.rows, d.id = c.id) :
    NewNames before after author := by
  intro c hc hnew
  obtain ⟨d, hd, hid⟩ := h c hc
  exact absurd hid (hnew d hd)

theorem Adds.newNames_iff (h : Adds before after new) {author : Option Nat} :
    NewNames before after author ↔ new.createdBy = author := by
  constructor
  · intro hnames
    exact hnames new h.stored h.fresh
  · intro hauthor c hc hnew
    rcases h.only c hc with rfl | ⟨d, hd, hid⟩
    · exact hauthor
    · exact absurd hid (hnew d hd)

theorem Effect.newNames_iff {action : ProviderAction} (h : Effect before user action after) :
    NewNames before after (some user) ↔
      ∀ pk changes config, action = .update pk changes →
        activeConfiguration before.configurations pk = some config →
          config.createdBy = some user := by
  cases h with
  | create hadds hauthor _ => exact iff_of_true (hadds.newNames_iff.mpr hauthor) (by simp)
  | update hconfig hadds hauthor _ =>
      rw [hadds.newNames_iff, hauthor]
      constructor
      · intro hown pk changes config haction hfound
        cases haction
        cases hconfig.symm.trans hfound
        exact hown
      · intro hown
        exact hown _ _ _ rfl hconfig
  | rollback hadds hauthor _ => exact iff_of_true (hadds.newNames_iff.mpr hauthor) (by simp)
  | test hsame _ =>
      refine iff_of_true (newNames_of_no_new fun c hc => ⟨c, ?_, rfl⟩) (by simp)
      rwa [hsame] at hc
  | destroy honly _ => exact iff_of_true (newNames_of_no_new honly) (by simp)

end Effects

section Runs

variable (services : ProviderServices)

def step (store : ProviderStore) (call : ProviderCall) : ProviderStore :=
  (handle services store call).1

theorem handleAll_eq_foldl (calls : List ProviderCall) (store : ProviderStore) :
    handleAll services store calls = calls.foldl (step services) store := by
  induction calls generalizing store with
  | nil => rfl
  | cons call rest ih => exact ih _

def succeeds (visit : ProviderStore × ProviderCall) : Bool :=
  succeeded (handle services visit.1 visit.2).2

/-- The entry that a request owes the log if it succeeds. -/
def owed (visit : ProviderStore × ProviderCall) : List (AuditAction × Nat) :=
  if succeeds services visit then
    visit.2.user.toList.map fun user => (auditAction visit.2.action, user.id)
  else []

/-- What the request adds to the log: nothing for a deletion. -/
def written (visit : ProviderStore × ProviderCall) : List (AuditAction × Nat) :=
  if isDestroy visit.2.action then [] else owed services visit

/-- New versions name the user of the request as their author. -/
def NamesAuthor (visit : ProviderStore × ProviderCall) : Prop :=
  NewNames visit.1 (step services visit.1 visit.2) (visit.2.user.map User.id)

/-- A request that succeeds is no deletion, and updates only what its own user
created. -/
def KeepsToOwn (visit : ProviderStore × ProviderCall) : Prop :=
  succeeds services visit = true →
    isDestroy visit.2.action = false ∧
      ∀ pk changes config, visit.2.action = .update pk changes →
        activeConfiguration visit.1.configurations pk = some config →
          config.createdBy = visit.2.user.map User.id

theorem owed_of_success {store : ProviderStore} {call : ProviderCall} {user : User}
    (huser : call.user = some user) (hdone : succeeds services (store, call) = true) :
    owed services (store, call) = [(auditAction call.action, user.id)] := by
  rw [owed, if_pos hdone, huser]
  rfl

theorem owed_of_failure {store : ProviderStore} {call : ProviderCall}
    (hfailed : succeeds services (store, call) = false) : owed services (store, call) = [] := by
  rw [owed, hfailed]
  rfl

theorem trail_step (store : ProviderStore) (call : ProviderCall) :
    trail (step services store call) = trail store ++ written services (store, call) := by
  rcases handle_cases services store call with ⟨hsame, hfailed⟩ | ⟨user, huser, hdone, heffect⟩
  · rw [step, hsame, written, owed_of_failure services hfailed, ite_self, List.append_nil]
  · rw [step, heffect.trail_eq, written, owed_of_success services huser hdone]

theorem meets_iff (visit : ProviderStore × ProviderCall) :
    written services visit = owed services visit ∧ NamesAuthor services visit ↔
      KeepsToOwn services visit := by
  obtain ⟨store, call⟩ := visit
  rcases handle_cases services store call with ⟨hsame, hfailed⟩ | ⟨user, huser, hdone, heffect⟩
  · have hnames : NamesAuthor services (store, call) :=
      newNames_of_no_new fun c hc => ⟨c, by rwa [step, hsame] at hc, rfl⟩
    have hwritten : written services (store, call) = owed services (store, call) := by
      rw [written, owed_of_failure services hfailed, ite_self]
    refine iff_of_true ⟨hwritten, hnames⟩ ?_
    intro hdone
    exact absurd (hfailed.symm.trans hdone) Bool.false_ne_true
  · have hnames := heffect.newNames_iff
    rw [← Option.map_some, ← huser] at hnames
    have hwritten : written services (store, call) = owed services (store, call) ↔
        isDestroy call.action = false := by
      rw [written, owed_of_success services huser hdone]
      cases isDestroy call.action with
      | false => simp
      | true => simp
    rw [hwritten, NamesAuthor, step, hnames, KeepsToOwn]
    exact ⟨fun hown _ => hown, fun hown => hown hdone⟩

/-- The audit trail of a run has one entry for every request that succeeds, with
its action and its user, and every version names the user who made it, exactly
when no request deletes a configuration or updates one of another user. -/
theorem run_audited_iff (calls : List ProviderCall) (store : ProviderStore) :
    (trail (handleAll services store calls) =
        trail store ++ (visits (step services) store calls).flatMap (owed services) ∧
      ∀ visit ∈ visits (step services) store calls, NamesAuthor services visit) ↔
    ∀ visit ∈ visits (step services) store calls, KeepsToOwn services visit := by
  have hsublist : ∀ visit ∈ visits (step services) store calls,
      (written services visit).Sublist (owed services visit) := by
    intro visit _
    unfold written
    split
    · exact List.nil_sublist _
    · exact List.Sublist.refl _
  rw [handleAll_eq_foldl, log_foldl (trail_step services), List.append_cancel_left_eq,
    flatMap_eq_iff_of_sublist hsublist, ← forall₂_and]
  exact forall₂_congr fun visit _ => meets_iff services visit

end Runs

section TwoAdministrators

def admin (id : Nat) (h : 0 < id) : User where
  id := id
  isSuperuser := false
  role := .admin
  id_pos := h

def requestBy (user : User) (action : ProviderAction) : ProviderCall where
  user := some user
  nonce := 0
  elapsed := 0
  action := action

def newOpenai : NewProvider where
  providerType := .openai
  name := "OpenAI"
  configData := none
  credentials := none
  isActive := none

def rename (name : String) : ProviderChanges where
  providerType := none
  name := some name
  configData := none
  credentials := none
  isActive := none

/-- The first administrator creates a configuration, which the second renames
and then deletes. -/
def takenOver : List ProviderCall :=
  [requestBy (admin 1 Nat.one_pos) (.create (some newOpenai)),
    requestBy (admin 2 Nat.two_pos) (.update "1" (some (rename "Azure"))),
    requestBy (admin 2 Nat.two_pos) (.destroy "2")]

/-- All three requests succeed; the second creates a version of the first
administrator, and the third is not in the log. -/
theorem takenOver_not_audited :
    (visits (step idleServices) .empty takenOver).map (succeeds idleServices) =
        [true, true, true] ∧
      trail (handleAll idleServices .empty takenOver) = [(.create, 1), (.update, 2)] ∧
      (handleAll idleServices .empty (takenOver.take 2)).configurations.rows.map
          (fun c => (c.id, c.createdBy)) = [(1, some 1), (2, some 1)] := by
  decide

end TwoAdministrators

end Botman.ProviderAudit
