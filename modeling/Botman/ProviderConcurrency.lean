import Mathlib.Data.Fintype.Basic
import Botman.Library.Transition
import Botman.ProviderVersions

/-!
Updates and rollbacks of provider configurations as interleaved sequences of
database statements.  No transaction encloses a request, so another request
can run between any two of its statements.
-/

namespace Botman.ProviderConcurrency

open Botman.Library.KeyedTable
open Botman.Library.PythonValue
open Botman.Library.Transition
open Botman.DataModel
open Botman.ProviderApi
open Botman.ProviderVersions

/-- The two requests that add a version. -/
inductive VersionBody where
  | update (changes : Option ProviderChanges)
  | rollback (data : Json)

/-- An update or rollback by an administrator. -/
structure VersionRequest where
  user : Nat
  nonce : Nat
  pk : String
  body : VersionBody

/-- Where a request stands, with the model instances it holds in memory. -/
inductive Progress where
  | waiting (request : VersionRequest)
  | updating (request : VersionRequest) (config : ProviderConfiguration)
      (changes : ProviderChanges)
  | seeking (request : VersionRequest) (config : ProviderConfiguration) (version : Json)
      (number : Int)
  | targeted (request : VersionRequest) (config target : ProviderConfiguration)
      (version : Json)
  | inserted (request : VersionRequest) (config new : ProviderConfiguration)
  | replaced (request : VersionRequest) (config new : ProviderConfiguration)
      (action : AuditAction) (details : Dict)
  | retired (request : VersionRequest) (new : ProviderConfiguration)
      (action : AuditAction) (details : Dict)
  | finished (response : ProviderResponse)

/-- What a request does once it has read its configuration. -/
def afterRead (request : VersionRequest) (config : ProviderConfiguration) : Progress :=
  match request.body with
  | .update none => .finished (.refused 400)
  | .update (some changes) => .updating request config changes
  | .rollback (.obj fields) =>
      if truthy (get fields "version") then
        match intOf (get fields "version") with
        | none => .finished (.refused 500)
        | some number => .seeking request config (get fields "version") number
      else .finished (.error 400 "Version is required")
  | .rollback _ => .finished (.refused 500)

/-- The next database statement of a request. -/
def advance (services : ProviderServices) (store : ProviderStore) :
    Progress → Option (ProviderStore × Progress)
  | .waiting request =>
      match activeConfiguration store.configurations request.pk with
      | none => some (store, .finished (.refused 404))
      | some config => some (store, afterRead request config)
  | .updating request config changes =>
      let row := nextVersion config changes
      let new := withCredentials services request.nonce config changes
        (store.configurations.created row)
      some ({ store with configurations := store.configurations.create row },
        .inserted request config new)
  | .inserted request config new =>
      some ({ store with configurations := store.configurations.save new },
        .replaced request config new .update
          [("id", .int new.id), ("version", .int new.version)])
  | .seeking request config version number =>
      match rollbackTargets store.configurations config number with
      | [] => some (store, .finished (.error 404 "Version not found"))
      | [target] => some (store, .targeted request config target version)
      | _ :: _ :: _ => some (store, .finished (.refused 500))
  | .targeted request config target version =>
      let row := rolledBack config target request.user
      some ({ store with configurations := store.configurations.create row },
        .replaced request config (store.configurations.created row) .rollback
          [("from_version", .int config.version), ("to_version", version)])
  | .replaced request config new action details =>
      some ({ store with configurations := store.configurations.save config.retired },
        .retired request new action details)
  | .retired request new action details =>
      some (writeAudit store request.user new.name action details "success",
        .finished (.saved 200 new))
  | .finished _ => none

/-- A request left alone for a number of statements. -/
def runAlone (services : ProviderServices) :
    Nat → ProviderStore × Progress → ProviderStore × Progress
  | 0, state => state
  | fuel + 1, state =>
      match advance services state.1 state.2 with
      | none => state
      | some next => runAlone services fuel next

def VersionBody.action (pk : String) : VersionBody → ProviderAction
  | .update changes => .update pk changes
  | .rollback data => .rollback pk data

/-- Left alone, the statements of a request do what the request does. -/
theorem runAlone_eq_dispatch (services : ProviderServices) (store : ProviderStore)
    (request : VersionRequest) (elapsed : ℚ) (user : Option User) :
    runAlone services 6 (store, .waiting request) =
      let result := dispatch services store
        { user := user, nonce := request.nonce, elapsed := elapsed
          action := request.body.action request.pk } request.user
      (result.1, .finished result.2) := by
  cases hactive : activeConfiguration store.configurations request.pk with
  | none =>
      cases hbody : request.body <;>
        simp [runAlone, advance, hactive, VersionBody.action, dispatch, onActive]
  | some config =>
      cases hbody : request.body with
      | update changes =>
          cases changes with
          | none =>
              simp [runAlone, advance, hactive, afterRead, hbody, VersionBody.action,
                dispatch, onActive]
          | some changes =>
              simp [runAlone, advance, hactive, afterRead, hbody, VersionBody.action,
                dispatch, onActive, performUpdate, updateConfiguration, writeAudit]
      | rollback data =>
          cases data with
          | obj fields =>
              by_cases htruthy : truthy (get fields "version")
              · cases hint : intOf (get fields "version") with
                | none =>
                    simp [runAlone, advance, hactive, afterRead, hbody, htruthy, hint,
                      VersionBody.action, dispatch, onActive, rollback]
                | some number =>
                    rcases htargets : rollbackTargets store.configurations config number
                      with _ | ⟨target, _ | ⟨second, rest⟩⟩
                    · simp [runAlone, advance, hactive, afterRead, hbody, htruthy, hint,
                        htargets, VersionBody.action, dispatch, onActive, rollback]
                    · simp [runAlone, advance, hactive, afterRead, hbody, htruthy, hint,
                        htargets, VersionBody.action, dispatch, onActive, rollback,
                        writeAudit]
                    · simp [runAlone, advance, hactive, afterRead, hbody, htruthy, hint,
                        htargets, VersionBody.action, dispatch, onActive, rollback]
              · simp [runAlone, advance, hactive, afterRead, hbody, htruthy,
                  VersionBody.action, dispatch, onActive, rollback]
          | _ =>
              simp [runAlone, advance, hactive, afterRead, hbody, VersionBody.action,
                dispatch, onActive, rollback]

/-- The keys of the rows that a request may still save. -/
def Progress.pendingSaves : Progress → List Nat
  | .updating _ config _ => [config.id]
  | .seeking _ config _ _ => [config.id]
  | .targeted _ config _ _ => [config.id]
  | .inserted _ config new => [new.id, config.id]
  | .replaced _ config _ _ _ => [config.id]
  | _ => []

/-- The configuration a request has inserted a successor of and not retired. -/
def Progress.retiring : Progress → Option Nat
  | .inserted _ config _ => some config.id
  | .replaced _ config _ _ _ => some config.id
  | _ => none

/-- The configuration that a request will make a successor of. -/
def Progress.chosen : Progress → Option ProviderConfiguration
  | .updating _ config _ => some config
  | .seeking _ config _ _ => some config
  | .targeted _ config _ _ => some config
  | _ => none

/-- The request has read, and has not been answered. -/
def Progress.underWay : Progress → Bool
  | .waiting _ => false
  | .finished _ => false
  | _ => true

/-- The instances in memory agree with the stored rows. -/
structure Current (rows : List ProviderConfiguration) (p : Progress) : Prop where
  chosen : ∀ config, p.chosen = some config →
    config ∈ rows ∧ config.isActive = true ∧ IsHead rows config
  inserted : ∀ request config new, p = .inserted request config new →
    config ∈ rows ∧ config.id ≠ new.id ∧
      ∃ row ∈ rows, SamePlace row new ∧ row.isActive = new.isActive
  replaced : ∀ request config new action details,
    p = .replaced request config new action details → config ∈ rows

theorem Progress.retiring_mem_pendingSaves {p : Progress} {k : Nat}
    (h : p.retiring = some k) : k ∈ p.pendingSaves := by
  cases p <;> simp_all [Progress.retiring, Progress.pendingSaves]

theorem Progress.chosen_mem_pendingSaves {p : Progress} {config : ProviderConfiguration}
    (h : p.chosen = some config) : p.pendingSaves = [config.id] := by
  cases p <;> simp_all [Progress.chosen, Progress.pendingSaves]

theorem Current.stored {rows : List ProviderConfiguration} {p : Progress}
    (h : Current rows p) {k : Nat} (hk : k ∈ p.pendingSaves) : ∃ r ∈ rows, r.id = k := by
  cases p with
  | waiting request => simp [Progress.pendingSaves] at hk
  | updating request config changes =>
      have hid : k = config.id := by simpa [Progress.pendingSaves] using hk
      exact ⟨config, (h.chosen config rfl).1, hid.symm⟩
  | seeking request config version number =>
      have hid : k = config.id := by simpa [Progress.pendingSaves] using hk
      exact ⟨config, (h.chosen config rfl).1, hid.symm⟩
  | targeted request config target version =>
      have hid : k = config.id := by simpa [Progress.pendingSaves] using hk
      exact ⟨config, (h.chosen config rfl).1, hid.symm⟩
  | inserted request config new =>
      obtain ⟨hconfig, -, row, hrow, hplace, -⟩ := h.inserted request config new rfl
      have hid : k = new.id ∨ k = config.id := by simpa [Progress.pendingSaves] using hk
      rcases hid with rfl | rfl
      · exact ⟨row, hrow, hplace.1.symm⟩
      · exact ⟨config, hconfig, rfl⟩
  | replaced request config new action details =>
      have hid : k = config.id := by simpa [Progress.pendingSaves] using hk
      exact ⟨config, h.replaced request config new action details rfl, hid.symm⟩
  | retired request new action details => simp [Progress.pendingSaves] at hk
  | finished response => simp [Progress.pendingSaves] at hk

section Frames

variable {table : Table ProviderConfiguration} {p : Progress}

theorem Current.save (h : Current table.rows p) {old new : ProviderConfiguration}
    (hold : old ∈ table.rows) (hplace : SamePlace old new)
    (hother : new.id ∉ p.pendingSaves) : Current (table.save new).rows p := by
  have hkeep : ∀ c ∈ table.rows, c.id ∈ p.pendingSaves → c ∈ (table.save new).rows := by
    intro c hc hpending
    refine (table.mem_save new c).mpr (Or.inr ⟨hc, ?_⟩)
    intro hkey
    have hid : c.id = new.id := hkey
    exact hother (hid ▸ hpending)
  refine ⟨?_, ?_, ?_⟩
  · intro config hchosen
    obtain ⟨hmem, hactive, hhead⟩ := h.chosen config hchosen
    have hpending : config.id ∈ p.pendingSaves := by
      rw [Progress.chosen_mem_pendingSaves hchosen]
      exact List.mem_singleton_self _
    refine ⟨hkeep config hmem hpending, hactive, ?_⟩
    unfold IsHead
    rw [length_family_save hold hplace]
    exact hhead
  · rintro request config inserted rfl
    obtain ⟨hmem, hne, row, hrow, hrowplace, hactive⟩ :=
      h.inserted request config inserted rfl
    have hrowid : row.id = inserted.id := hrowplace.1.symm
    refine ⟨hkeep config hmem (by simp [Progress.pendingSaves]), hne, row, ?_, hrowplace,
      hactive⟩
    exact hkeep row hrow (by simp [Progress.pendingSaves, hrowid])
  · rintro request config inserted action details rfl
    exact hkeep config (h.replaced request config inserted action details rfl)
      (by simp [Progress.pendingSaves])

theorem Current.create (h : Current table.rows p) {new : ProviderConfiguration}
    (hother : ∀ config, p.chosen = some config → config.root ≠ new.root) :
    Current (table.rows ++ [new]) p := by
  refine ⟨?_, ?_, ?_⟩
  · intro config hchosen
    obtain ⟨hmem, hactive, hhead⟩ := h.chosen config hchosen
    exact ⟨List.mem_append_left _ hmem, hactive,
      hhead.append_of_root_ne (hother config hchosen).symm⟩
  · rintro request config inserted rfl
    obtain ⟨hmem, hne, row, hrow, hplace⟩ := h.inserted request config inserted rfl
    exact ⟨List.mem_append_left _ hmem, hne, row, List.mem_append_left _ hrow, hplace⟩
  · rintro request config inserted action details rfl
    exact List.mem_append_left _ (h.replaced request config inserted action details rfl)

end Frames

section Interleavings

variable {ι : Type} [DecidableEq ι]

/-- One statement of one request, in any interleaving. -/
def step (services : ProviderServices) :
    Config ι ProviderStore Progress → ι × Unit →
      Option (Config ι ProviderStore Progress) :=
  interleave fun _ store p => advance services store p

/-- The key of the configuration that the next statement of a request would
read. -/
def readKey (store : ProviderStore) : Progress → Option Nat
  | .waiting request =>
      (activeConfiguration store.configurations request.pk).map ProviderConfiguration.id
  | _ => none

/-- A request reads a configuration only when no request under way may still
save it. -/
def ReadsUnclaimed (c : Config ι ProviderStore Progress) (move : ι × Unit) : Prop :=
  ∀ k ∈ readKey c.shared (c.locals move.1), ∀ j, k ∉ (c.locals j).pendingSaves

instance [Fintype ι] (c : Config ι ProviderStore Progress) (move : ι × Unit) :
    Decidable (ReadsUnclaimed c move) :=
  inferInstanceAs (Decidable (∀ k ∈ readKey c.shared (c.locals move.1),
    ∀ j, k ∉ (c.locals j).pendingSaves))

/-- What the statements of disjoint requests keep: the numbering, instances
that agree with the rows, and active rows that are last or about to be
retired. -/
structure Safe (c : Config ι ProviderStore Progress) : Prop where
  numbered : Numbered c.shared.configurations.rows
  current : ∀ i, Current c.shared.configurations.rows (c.locals i)
  heads : ∀ r ∈ c.shared.configurations.rows, r.isActive = true →
    IsHead c.shared.configurations.rows r ∨ ∃ i, (c.locals i).retiring = some r.id
  apart : ∀ i j, i ≠ j → ∀ k ∈ (c.locals i).pendingSaves, k ∉ (c.locals j).pendingSaves

theorem apart_update {locals : ι → Progress}
    (h : ∀ i j, i ≠ j → ∀ k ∈ (locals i).pendingSaves, k ∉ (locals j).pendingSaves)
    {i : ι} {p : Progress}
    (hp : ∀ j, j ≠ i → ∀ k ∈ p.pendingSaves, k ∉ (locals j).pendingSaves) :
    ∀ a b, a ≠ b → ∀ k ∈ (Function.update locals i p a).pendingSaves,
      k ∉ (Function.update locals i p b).pendingSaves := by
  intro a b hab k hk
  by_cases ha : a = i
  · subst ha
    rw [Function.update_self] at hk
    rw [Function.update_of_ne hab.symm]
    exact hp b hab.symm k hk
  · rw [Function.update_of_ne ha] at hk
    by_cases hb : b = i
    · subst hb
      rw [Function.update_self]
      exact fun hkp => hp a ha k hkp hk
    · rw [Function.update_of_ne hb]
      exact h a b hab k hk

theorem current_update {locals : ι → Progress} {rows : List ProviderConfiguration}
    {i : ι} {p : Progress} (hp : Current rows p)
    (hothers : ∀ j, j ≠ i → Current rows (locals j)) :
    ∀ j, Current rows (Function.update locals i p j) := by
  intro j
  by_cases hj : j = i
  · subst hj
    rw [Function.update_self]
    exact hp
  · rw [Function.update_of_ne hj]
    exact hothers j hj

theorem retiring_update {locals : ι → Progress} {i : ι} {p : Progress} {k : Nat}
    (h : ∃ j, (locals j).retiring = some k)
    (hi : (locals i).retiring = some k → p.retiring = some k) :
    ∃ j, (Function.update locals i p j).retiring = some k := by
  obtain ⟨j, hj⟩ := h
  by_cases hji : j = i
  · subst hji
    exact ⟨j, by rw [Function.update_self]; exact hi hj⟩
  · exact ⟨j, by rw [Function.update_of_ne hji]; exact hj⟩

variable {c : Config ι ProviderStore Progress} {i : ι} {p : Progress}
  {store : ProviderStore}

theorem Safe.read (h : Safe c) (hstore : store.configurations = c.shared.configurations)
    (hretiring : (c.locals i).retiring = none)
    (hcurrent : Current c.shared.configurations.rows p)
    (hpending : ∀ j, j ≠ i → ∀ k ∈ p.pendingSaves, k ∉ (c.locals j).pendingSaves) :
    Safe { shared := store, locals := Function.update c.locals i p } := by
  refine ⟨?_, ?_, ?_, apart_update h.apart hpending⟩
  · rw [hstore]
    exact h.numbered
  · rw [hstore]
    exact current_update hcurrent fun j _ => h.current j
  · rw [hstore]
    intro r hr hactive
    rcases h.heads r hr hactive with hhead | hretire
    · exact Or.inl hhead
    · refine Or.inr (retiring_update hretire ?_)
      intro hsome
      rw [hretiring] at hsome
      cases hsome

omit [DecidableEq ι] in
theorem Safe.chosen_root_ne (h : Safe c) {j : ι} (hj : j ≠ i)
    {config other : ProviderConfiguration} (hchosen : (c.locals i).chosen = some config)
    (hother : (c.locals j).chosen = some other) : other.root ≠ config.root := by
  intro hsame
  obtain ⟨hmem, -, hhead⟩ := (h.current i).chosen config hchosen
  obtain ⟨homem, -, hohead⟩ := (h.current j).chosen other hother
  have heq : other = config := h.numbered.eq_of_isHead homem hmem hsame hohead hhead
  apply h.apart j i hj other.id
  · rw [Progress.chosen_mem_pendingSaves hother]
    exact List.mem_singleton_self _
  · rw [Progress.chosen_mem_pendingSaves hchosen, heq]
    exact List.mem_singleton_self _

theorem Safe.heads_insert (h : Safe c) {config new : ProviderConfiguration}
    (hchosen : (c.locals i).chosen = some config) (hroot : new.root = config.root)
    (hversion : new.version = config.version + 1) (hretires : p.retiring = some config.id)
    {r : ProviderConfiguration} (hr : r ∈ c.shared.configurations.rows ++ [new])
    (hractive : r.isActive = true) :
    IsHead (c.shared.configurations.rows ++ [new]) r ∨
      ∃ j, (Function.update c.locals i p j).retiring = some r.id := by
  -- the next version takes the place of the one that was chosen, which is then to be retired
  obtain ⟨hmem, -, hhead⟩ := (h.current i).chosen config hchosen
  rcases List.mem_append.mp hr with hr | hr
  · rcases h.heads r hr hractive with hrhead | hretire
    · by_cases hsame : r.root = config.root
      · have heq := h.numbered.eq_of_isHead hr hmem hsame hrhead hhead
        refine Or.inr ⟨i, ?_⟩
        rw [Function.update_self, heq]
        exact hretires
      · have hne : new.root ≠ r.root := fun heq => hsame (heq.symm.trans hroot)
        exact Or.inl (hrhead.append_of_root_ne hne)
    · refine Or.inr (retiring_update hretire ?_)
      intro hsome
      have hkeys := Progress.retiring_mem_pendingSaves hsome
      rw [Progress.chosen_mem_pendingSaves hchosen, List.mem_singleton] at hkeys
      rw [hkeys]
      exact hretires
  · rw [List.mem_singleton.mp hr]
    exact Or.inl (hhead.append_next hroot hversion)

theorem Safe.insert (h : Safe c) (config new : ProviderConfiguration)
    (hchosen : (c.locals i).chosen = some config)
    (hid : new.id = c.shared.configurations.next)
    (hparent : new.parentConfig = some config.root)
    (hversion : new.version = config.version + 1)
    (hstore : store.configurations.rows = c.shared.configurations.rows ++ [new])
    (hcurrent : Current store.configurations.rows p)
    (hpending : ∀ k ∈ p.pendingSaves, k = new.id ∨ k = config.id)
    (hretires : p.retiring = some config.id) :
    Safe { shared := store, locals := Function.update c.locals i p } := by
  obtain ⟨hmem, -, hhead⟩ := (h.current i).chosen config hchosen
  have hclaimed : config.id ∈ (c.locals i).pendingSaves := by
    rw [Progress.chosen_mem_pendingSaves hchosen]
    exact List.mem_singleton_self _
  have hroot : new.root = config.root := by simp [ProviderConfiguration.root, hparent]
  refine ⟨?_, ?_, ?_, apart_update h.apart ?_⟩
  · rw [hstore]
    exact h.numbered.append_version hmem hhead hparent hversion
  · apply current_update hcurrent
    intro j hj
    rw [hstore]
    apply (h.current j).create
    intro other hother
    rw [hroot]
    exact h.chosen_root_ne hj hchosen hother
  · intro r hr hractive
    rw [hstore] at hr ⊢
    exact h.heads_insert hchosen hroot hversion hretires hr hractive
  · intro j hj k hk hkj
    rcases hpending k hk with rfl | rfl
    · obtain ⟨r, hr, hrid⟩ := (h.current j).stored hkj
      have hlt := c.shared.configurations.fresh r hr
      rw [hid] at hrid
      exact Nat.ne_of_lt hlt hrid
    · exact h.apart j i hj config.id hkj hclaimed

theorem Safe.saved (h : Safe c) {old new : ProviderConfiguration}
    (hold : old ∈ c.shared.configurations.rows) (hplace : SamePlace old new)
    (hclaimed : new.id ∈ (c.locals i).pendingSaves)
    (hstore : store.configurations = c.shared.configurations.save new)
    (hcurrent : Current store.configurations.rows p)
    (hpending : ∀ k ∈ p.pendingSaves, k ∈ (c.locals i).pendingSaves)
    (hactive : new.isActive = true → old.isActive = true)
    (hretires : ∀ k, (c.locals i).retiring = some k →
      p.retiring = some k ∨ (k = new.id ∧ new.isActive = false)) :
    Safe { shared := store, locals := Function.update c.locals i p } := by
  have hhead : ∀ r, IsHead c.shared.configurations.rows r →
      IsHead store.configurations.rows r := by
    intro r hr
    unfold IsHead
    rw [hstore, length_family_save hold hplace]
    exact hr
  refine ⟨?_, ?_, ?_, apart_update h.apart ?_⟩
  · rw [hstore]
    exact h.numbered.save hold hplace
  · apply current_update hcurrent
    intro j hj
    rw [hstore]
    exact (h.current j).save hold hplace (h.apart i j hj.symm _ hclaimed)
  · intro r hr hractive
    have hstill : ∀ s ∈ c.shared.configurations.rows, s.isActive = true → SamePlace s r →
        (r.id = new.id → r.isActive = new.isActive) →
        IsHead store.configurations.rows r ∨
          ∃ j, (Function.update c.locals i p j).retiring = some r.id := by
      intro s hs hsactive hsr hflag
      rcases h.heads s hs hsactive with hshead | hretire
      · refine Or.inl (hhead r ?_)
        unfold IsHead
        rw [hsr.2.2, hsr.root_eq]
        exact hshead
      · rw [← hsr.1] at hretire
        refine Or.inr (retiring_update hretire ?_)
        intro hsome
        rcases hretires r.id hsome with hp | ⟨hnew, hoff⟩
        · exact hp
        · rw [hflag hnew, hoff] at hractive
          cases hractive
    rw [hstore] at hr
    rcases (c.shared.configurations.mem_save new r).mp hr with rfl | ⟨hr, hne⟩
    · exact hstill old hold (hactive hractive) hplace fun _ => rfl
    · exact hstill r hr hractive ⟨rfl, rfl, rfl⟩ fun heq => absurd heq hne
  · intro j hj k hk hkj
    exact h.apart j i hj k hkj (hpending k hk)

theorem current_of_idle {rows : List ProviderConfiguration}
    (hidle : p.pendingSaves = []) : Current rows p := by
  cases p with
  | waiting | retired | finished =>
      refine ⟨?_, ?_, ?_⟩ <;> simp [Progress.chosen]
  | _ => simp [Progress.pendingSaves] at hidle

theorem current_of_chosen {rows : List ProviderConfiguration}
    {config : ProviderConfiguration} (hchosen : p.chosen = some config)
    (hconfig : config ∈ rows) (hactive : config.isActive = true)
    (hhead : IsHead rows config) : Current rows p := by
  refine ⟨?_, ?_, ?_⟩
  · intro other hother
    rw [← Option.some.inj (hchosen.symm.trans hother)]
    exact ⟨hconfig, hactive, hhead⟩
  · rintro request other new rfl
    cases hchosen
  · rintro request other new action details rfl
    cases hchosen

theorem current_inserted {rows : List ProviderConfiguration}
    {config new row : ProviderConfiguration} (request : VersionRequest)
    (hconfig : config ∈ rows) (hne : config.id ≠ new.id) (hrow : row ∈ rows)
    (hplace : SamePlace row new ∧ row.isActive = new.isActive) :
    Current rows (.inserted request config new) := by
  refine ⟨by simp [Progress.chosen], ?_, by simp⟩
  rintro _ _ _ ⟨⟩
  exact ⟨hconfig, hne, row, hrow, hplace⟩

theorem current_replaced {rows : List ProviderConfiguration}
    {config new : ProviderConfiguration} {action : AuditAction} {details : Dict}
    (request : VersionRequest) (hconfig : config ∈ rows) :
    Current rows (.replaced request config new action details) := by
  refine ⟨by simp [Progress.chosen], by simp, ?_⟩
  rintro _ _ _ _ _ ⟨⟩
  exact hconfig

theorem Safe.leave (h : Safe c) (hstore : store.configurations = c.shared.configurations)
    (hretiring : (c.locals i).retiring = none) (hidle : p.pendingSaves = []) :
    Safe { shared := store, locals := Function.update c.locals i p } :=
  h.read hstore hretiring (current_of_idle hidle) (by simp [hidle])

theorem afterRead_cases (request : VersionRequest) (config : ProviderConfiguration) :
    (∃ response, afterRead request config = .finished response) ∨
      (afterRead request config).chosen = some config := by
  unfold afterRead
  repeat' split
  all_goals first
    | exact Or.inl ⟨_, rfl⟩
    | exact Or.inr rfl

theorem Safe.afterRead (h : Safe c) {request : VersionRequest}
    {config : ProviderConfiguration} (hlocal : c.locals i = .waiting request)
    (hfound : activeConfiguration c.shared.configurations request.pk = some config)
    (hunclaimed : ∀ j, config.id ∉ (c.locals j).pendingSaves) :
    Safe { shared := c.shared
           locals := Function.update c.locals i (afterRead request config) } := by
  obtain ⟨hmem, hactive⟩ := mem_of_activeConfiguration hfound
  have hhead : IsHead c.shared.configurations.rows config := by
    rcases h.heads config hmem hactive with hhead | ⟨j, hj⟩
    · exact hhead
    · exact absurd (Progress.retiring_mem_pendingSaves hj) (hunclaimed j)
  have hretiring : (c.locals i).retiring = none := by rw [hlocal]; rfl
  rcases afterRead_cases request config with ⟨response, hdone⟩ | hchosen
  · rw [hdone]
    exact h.leave rfl hretiring rfl
  · refine h.read rfl hretiring (current_of_chosen hchosen hmem hactive hhead) ?_
    intro j _ k hk
    rw [Progress.chosen_mem_pendingSaves hchosen, List.mem_singleton] at hk
    rw [hk]
    exact hunclaimed j

section Statements

variable {services : ProviderServices} {request : VersionRequest}
  {config target new : ProviderConfiguration} {changes : ProviderChanges}

theorem Safe.waiting (h : Safe c) (hlocal : c.locals i = .waiting request)
    (hguard : ReadsUnclaimed c (i, ()))
    (hadvance : advance services c.shared (.waiting request) = some (store, p)) :
    Safe { shared := store, locals := Function.update c.locals i p } := by
  simp only [ReadsUnclaimed, hlocal, readKey] at hguard
  rw [advance] at hadvance
  cases hfound : activeConfiguration c.shared.configurations request.pk with
  | none =>
      rw [hfound] at hadvance
      cases hadvance
      exact h.leave rfl (by rw [hlocal]; rfl) rfl
  | some config =>
      rw [hfound] at hadvance hguard
      cases hadvance
      exact h.afterRead hlocal hfound (hguard config.id rfl)

theorem Safe.updating (h : Safe c) (hlocal : c.locals i = .updating request config changes)
    (hadvance : advance services c.shared (.updating request config changes) = some (store, p)) :
    Safe { shared := store, locals := Function.update c.locals i p } := by
  cases hadvance
  have hcreated := c.shared.configurations.rows_create (nextVersion config changes)
  have hmem := ((h.current i).chosen config (by rw [hlocal]; rfl)).1
  let row := c.shared.configurations.created (nextVersion config changes)
  let new := withCredentials services request.nonce config changes row
  have hplace := samePlace_withCredentials services request.nonce config row changes
  refine h.insert config row (by rw [hlocal]; rfl)
    (c.shared.configurations.key_created _) rfl rfl hcreated ?_ ?_ rfl
  · have hlt : config.id < new.id := by
      rw [hplace.1.1]
      exact c.shared.configurations.fresh config hmem
    rw [hcreated]
    exact current_inserted request (List.mem_append_left _ hmem) (Nat.ne_of_lt hlt)
      (by simp [row]) hplace
  · intro k hk
    have hid : new.id = row.id := hplace.1.1
    simpa [Progress.pendingSaves, ← hid] using hk

theorem Safe.inserted (h : Safe c) (hlocal : c.locals i = .inserted request config new)
    (hadvance : advance services c.shared (.inserted request config new) = some (store, p)) :
    Safe { shared := store, locals := Function.update c.locals i p } := by
  cases hadvance
  obtain ⟨hmem, hne, row, hrow, hplace, hflag⟩ := (h.current i).inserted _ _ _ hlocal
  refine h.saved hrow hplace (by simp [hlocal, Progress.pendingSaves]) rfl ?_ ?_ ?_ ?_
  · exact current_replaced request
      ((c.shared.configurations.mem_save new config).mpr (Or.inr ⟨hmem, hne⟩))
  · intro k hk
    have hid : k = config.id := by simpa [Progress.pendingSaves] using hk
    simp [hlocal, Progress.pendingSaves, hid]
  · intro hactive
    rw [hflag, hactive]
  · intro k hk
    rw [hlocal] at hk
    exact Or.inl hk

theorem Safe.seeking {version : Json} {number : Int} (h : Safe c)
    (hlocal : c.locals i = .seeking request config version number)
    (hadvance : advance services c.shared (.seeking request config version number) =
      some (store, p)) :
    Safe { shared := store, locals := Function.update c.locals i p } := by
  have hchosen : (c.locals i).chosen = some config := by rw [hlocal]; rfl
  obtain ⟨hmem, hactive, hhead⟩ := (h.current i).chosen config hchosen
  have hretiring : (c.locals i).retiring = none := by rw [hlocal]; rfl
  rw [advance] at hadvance
  split at hadvance
  · cases hadvance
    exact h.leave rfl hretiring rfl
  · cases hadvance
    refine h.read rfl hretiring (current_of_chosen rfl hmem hactive hhead) ?_
    intro j hj k hk
    apply h.apart i j hj.symm
    rw [hlocal]
    exact hk
  · cases hadvance
    exact h.leave rfl hretiring rfl

theorem Safe.targeted {version : Json} (h : Safe c)
    (hlocal : c.locals i = .targeted request config target version)
    (hadvance : advance services c.shared (.targeted request config target version) =
      some (store, p)) :
    Safe { shared := store, locals := Function.update c.locals i p } := by
  cases hadvance
  have hchosen : (c.locals i).chosen = some config := by rw [hlocal]; rfl
  have hmem := ((h.current i).chosen config hchosen).1
  let row := rolledBack config target request.user
  have hcreated := c.shared.configurations.rows_create row
  refine h.insert config (c.shared.configurations.created row) hchosen
    (c.shared.configurations.key_created _) rfl rfl hcreated ?_ ?_ rfl
  · rw [hcreated]
    exact current_replaced request (List.mem_append_left _ hmem)
  · intro k hk
    exact Or.inr (by simpa [Progress.pendingSaves] using hk)

theorem Safe.replaced {action : AuditAction} {details : Dict} (h : Safe c)
    (hlocal : c.locals i = .replaced request config new action details)
    (hadvance : advance services c.shared (.replaced request config new action details) =
      some (store, p)) :
    Safe { shared := store, locals := Function.update c.locals i p } := by
  cases hadvance
  have hmem := (h.current i).replaced _ _ _ _ _ hlocal
  have hplace : SamePlace config config.retired := ⟨rfl, rfl, rfl⟩
  refine h.saved hmem hplace ?_ rfl (current_of_idle rfl) ?_ ?_ ?_
  · rw [hlocal]
    exact List.mem_singleton_self _
  · simp [Progress.pendingSaves]
  · intro hactive
    cases hactive
  · intro k hk
    rw [hlocal] at hk
    exact Or.inr ⟨(Option.some.inj hk).symm, rfl⟩

end Statements

theorem safe_step (services : ProviderServices) (c d : Config ι ProviderStore Progress)
    (move : ι × Unit) (h : Safe c) (hguard : ReadsUnclaimed c move)
    (hstep : step services c move = some d) : Safe d := by
  obtain ⟨store, p, hadvance, rfl⟩ := interleave_eq_some_iff.mp hstep
  obtain ⟨i, label⟩ := move
  dsimp only at hadvance ⊢
  cases hlocal : c.locals i with
  | waiting request => exact h.waiting hlocal hguard (hlocal ▸ hadvance)
  | updating request config changes => exact h.updating hlocal (hlocal ▸ hadvance)
  | inserted request config new => exact h.inserted hlocal (hlocal ▸ hadvance)
  | seeking request config version number => exact h.seeking hlocal (hlocal ▸ hadvance)
  | targeted request config target version => exact h.targeted hlocal (hlocal ▸ hadvance)
  | replaced request config new action details => exact h.replaced hlocal (hlocal ▸ hadvance)
  | retired request new action details =>
      rw [hlocal] at hadvance
      cases hadvance
      exact h.leave rfl (by rw [hlocal]; rfl) rfl
  | finished response => simp [hlocal, advance] at hadvance

omit [DecidableEq ι] in
theorem safe_of_versioned {start : Config ι ProviderStore Progress}
    (hstart : Versioned start.shared.configurations)
    (hidle : ∀ i, (start.locals i).underWay = false) : Safe start := by
  have hpending : ∀ i, (start.locals i).pendingSaves = [] := by
    intro i
    have hi := hidle i
    cases hlocal : start.locals i <;>
      simp_all [Progress.underWay, Progress.pendingSaves]
  refine ⟨hstart.numbered, fun i => current_of_idle (hpending i), ?_, ?_⟩
  · intro r hr hactive
    exact Or.inl (hstart.heads r hr hactive)
  · intro i j _ k hk
    rw [hpending i] at hk
    cases hk

/-- No two versions of a family have one number. -/
def DistinctVersions (table : Table ProviderConfiguration) : Prop :=
  ∀ root ∈ table.rows, root.parentConfig = none →
    ((lineage table.rows root).map ProviderConfiguration.version).Nodup

/-- A family has at most one active version. -/
def OneActive (table : Table ProviderConfiguration) : Prop :=
  ∀ root ∈ table.rows, root.parentConfig = none →
    ∀ c ∈ lineage table.rows root, ∀ d ∈ lineage table.rows root,
      c.isActive = true → d.isActive = true → c.id = d.id

instance (table : Table ProviderConfiguration) : Decidable (DistinctVersions table) :=
  inferInstanceAs (Decidable (∀ root ∈ table.rows, root.parentConfig = none →
    ((lineage table.rows root).map ProviderConfiguration.version).Nodup))

instance (table : Table ProviderConfiguration) : Decidable (OneActive table) :=
  inferInstanceAs (Decidable (∀ root ∈ table.rows, root.parentConfig = none →
    ∀ c ∈ lineage table.rows root, ∀ d ∈ lineage table.rows root,
      c.isActive = true → d.isActive = true → c.id = d.id))

theorem Numbered.distinctVersions {table : Table ProviderConfiguration}
    (h : Numbered table.rows) : DistinctVersions table := by
  intro root hroot hparent
  rw [lineage_eq_family hroot hparent]
  exact (h.numbered root.id).nodup_iff.mpr (List.nodup_range' ..)

/-- Any number of concurrent updates and rollbacks, in any interleaving in
which a request reads a configuration only when no request under way may still
save it: the versions of a lineage stay distinct, and whenever no request is
under way at most one of them is active. -/
theorem reaches_distinctVersions (services : ProviderServices)
    {start c : Config ι ProviderStore Progress}
    (hstart : Versioned start.shared.configurations)
    (hidle : ∀ i, (start.locals i).underWay = false)
    (hrun : Reaches (step services) ReadsUnclaimed start c) :
    DistinctVersions c.shared.configurations ∧
      ((∀ i, (c.locals i).underWay = false) → OneActive c.shared.configurations) := by
  have hsafe : Safe c := invariant_of_reaches Safe
    (fun s a t h hguard hnext => safe_step services s t a h hguard hnext)
    (safe_of_versioned hstart hidle) hrun
  refine ⟨Numbered.distinctVersions hsafe.numbered, ?_⟩
  intro hquiet root hroot hparent r hr s hs hractive hsactive
  have hhead : ∀ q ∈ c.shared.configurations.rows, q.isActive = true →
      IsHead c.shared.configurations.rows q := by
    intro q hq hqactive
    rcases hsafe.heads q hq hqactive with hqhead | ⟨i, hi⟩
    · exact hqhead
    · have hi' := hquiet i
      cases hlocal : c.locals i <;>
        simp_all [Progress.underWay, Progress.retiring]
  have hversioned : Versioned c.shared.configurations := ⟨hsafe.numbered, hhead⟩
  rw [hversioned.versionLaw.unique root hroot hparent r hr s hs hractive hsactive]

end Interleavings

/-- Services that are not called: the requests below carry no credentials. -/
def idleServices : ProviderServices where
  dumps := fun _ => "{}"
  loads := fun _ => some (.obj [])
  encrypt := fun _ data => data
  decrypt := some
  connect := fun _ _ => .ok ()

def oneConfiguration : ProviderStore :=
  handleAll idleServices .empty
    [{ user := some { id := 1, isSuperuser := false, role := .admin, id_pos := by decide }
       nonce := 0
       elapsed := 0
       action := .create (some
         { providerType := .openai, name := "OpenAI", configData := none
           credentials := none, isActive := none }) }]

/-- A PATCH of the configuration numbered `pk` by its name. -/
def renameRequest (pk name : String) : VersionRequest where
  user := 1
  nonce := 0
  pk := pk
  body := .update (some
    { providerType := none, name := some name, configData := none
      credentials := none, isActive := none })

def twoUpdates (second : String) : Config Bool ProviderStore Progress where
  shared := oneConfiguration
  locals := fun i =>
    if i then .waiting (renameRequest "1" "first")
    else .waiting (renameRequest second "second")

/-- Both requests read version 1 before either inserts its successor. -/
theorem twoUpdates_collide :
    ∃ c, Reaches (step idleServices) anyStep (twoUpdates "1") c ∧
      (∀ i, (c.locals i).underWay = false) ∧
      ¬ DistinctVersions c.shared.configurations ∧
      ¬ OneActive c.shared.configurations :=
  exists_reaches_of_replay
    [(true, ()), (false, ()), (true, ()), (false, ()), (true, ()), (false, ()),
      (true, ()), (false, ()), (true, ()), (false, ())] (by decide +kernel)

theorem twoUpdates_in_turn :
    ∃ c, Reaches (step idleServices) ReadsUnclaimed (twoUpdates "2") c ∧
      c.shared.configurations.rows.map ProviderConfiguration.version = [1, 2, 3] ∧
      DistinctVersions c.shared.configurations ∧
      ((∀ i, (c.locals i).underWay = false) → OneActive c.shared.configurations) := by
  obtain ⟨c, hrun, hversions⟩ : ∃ c,
      Reaches (step idleServices) ReadsUnclaimed (twoUpdates "2") c ∧
        c.shared.configurations.rows.map ProviderConfiguration.version = [1, 2, 3] :=
    exists_reaches_of_replay
      [(true, ()), (true, ()), (true, ()), (true, ()), (false, ()), (true, ()),
        (false, ()), (false, ()), (false, ()), (false, ())] (by decide +kernel)
  refine ⟨c, hrun, hversions, ?_⟩
  refine reaches_distinctVersions idleServices ?_ ?_ hrun
  · exact handleAll_versioned idleServices _ versioned_empty
  · decide

end Botman.ProviderConcurrency
