import Mathlib.Data.List.Range
import Botman.ProviderApi

/-!
The version store of provider configurations.  A root and the configurations
that name it as their parent form a lineage, numbered without gaps, whose only
active member can be the last.  Every request keeps this, and changes nothing
but the active flag of a stored configuration.
-/

namespace Botman.ProviderVersions

open Botman.Library.KeyedTable
open Botman.Library.PythonValue
open Botman.DataModel
open Botman.ProviderApi

/-- The versions that share a root. -/
def family (rows : List ProviderConfiguration) (root : Nat) :
    List ProviderConfiguration :=
  rows.filter fun c => c.root = root

theorem mem_family {rows : List ProviderConfiguration} {root : Nat}
    {c : ProviderConfiguration} : c ∈ family rows root ↔ c ∈ rows ∧ c.root = root := by
  simp [family]

theorem family_append (rows more : List ProviderConfiguration) (root : Nat) :
    family (rows ++ more) root = family rows root ++ family more root := by
  simp [family]

/-- Parents are stored roots, roots are first versions, and every family is
numbered from one without gaps. -/
structure Numbered (rows : List ProviderConfiguration) : Prop where
  parents : ∀ c ∈ rows, ∀ p, c.parentConfig = some p →
    ∃ r ∈ rows, r.id = p ∧ r.parentConfig = none
  roots : ∀ c ∈ rows, c.parentConfig = none → c.version = 1
  numbered : ∀ root, ((family rows root).map ProviderConfiguration.version).Perm
    (List.range' 1 (family rows root).length)

/-- The last version of its family. -/
def IsHead (rows : List ProviderConfiguration) (c : ProviderConfiguration) : Prop :=
  c.version = (family rows c.root).length

/-- The two columns that place a row in its family, and its key. -/
def SamePlace (c d : ProviderConfiguration) : Prop :=
  d.id = c.id ∧ d.parentConfig = c.parentConfig ∧ d.version = c.version

theorem SamePlace.root_eq {c d : ProviderConfiguration} (h : SamePlace c d) :
    d.root = c.root := by
  simp [ProviderConfiguration.root, h.1, h.2.1]

section Maps

variable {rows : List ProviderConfiguration}
  {f : ProviderConfiguration → ProviderConfiguration}

theorem family_map (hf : ∀ c ∈ rows, SamePlace c (f c)) (root : Nat) :
    family (rows.map f) root = (family rows root).map f := by
  unfold family
  rw [List.filter_map]
  congr 1
  apply List.filter_congr
  intro c hc
  simp [(hf c hc).root_eq]

theorem length_family_map (hf : ∀ c ∈ rows, SamePlace c (f c)) (root : Nat) :
    (family (rows.map f) root).length = (family rows root).length := by
  rw [family_map hf, List.length_map]

theorem Numbered.map (h : Numbered rows) (hf : ∀ c ∈ rows, SamePlace c (f c)) :
    Numbered (rows.map f) := by
  refine ⟨?_, ?_, ?_⟩
  · intro d hd p hp
    obtain ⟨c, hc, rfl⟩ := List.mem_map.mp hd
    rw [(hf c hc).2.1] at hp
    obtain ⟨r, hr, hid, hroot⟩ := h.parents c hc p hp
    refine ⟨f r, List.mem_map_of_mem hr, ?_, ?_⟩
    · rw [(hf r hr).1, hid]
    · rw [(hf r hr).2.1, hroot]
  · intro d hd hroot
    obtain ⟨c, hc, rfl⟩ := List.mem_map.mp hd
    rw [(hf c hc).2.1] at hroot
    rw [(hf c hc).2.2, h.roots c hc hroot]
  · intro root
    have hversions : ((family rows root).map f).map ProviderConfiguration.version =
        (family rows root).map ProviderConfiguration.version := by
      rw [List.map_map]
      apply List.map_congr_left
      intro c hc
      exact (hf c (mem_family.mp hc).1).2.2
    rw [family_map hf, List.length_map, hversions]
    exact h.numbered root

end Maps

section Rows

variable {rows : List ProviderConfiguration}

theorem Numbered.exists_root (h : Numbered rows) {c : ProviderConfiguration}
    (hc : c ∈ rows) : ∃ r ∈ rows, r.id = c.root ∧ r.parentConfig = none := by
  cases hparent : c.parentConfig with
  | none => exact ⟨c, hc, by simp [ProviderConfiguration.root, hparent], hparent⟩
  | some p =>
      obtain ⟨r, hr, hid, hroot⟩ := h.parents c hc p hparent
      exact ⟨r, hr, by simp [ProviderConfiguration.root, hparent, hid], hroot⟩

theorem Numbered.eq_of_version_eq (h : Numbered rows) {c d : ProviderConfiguration}
    (hc : c ∈ rows) (hd : d ∈ rows) (hroot : c.root = d.root)
    (hversion : c.version = d.version) : c = d := by
  have hnodup : ((family rows d.root).map ProviderConfiguration.version).Nodup :=
    (h.numbered d.root).nodup_iff.mpr (List.nodup_range' ..)
  exact List.inj_on_of_nodup_map hnodup (mem_family.mpr ⟨hc, hroot⟩)
    (mem_family.mpr ⟨hd, rfl⟩) hversion

theorem Numbered.eq_of_isHead (h : Numbered rows) {c d : ProviderConfiguration}
    (hc : c ∈ rows) (hd : d ∈ rows) (hroot : c.root = d.root) (hchead : IsHead rows c)
    (hdhead : IsHead rows d) : c = d := by
  apply h.eq_of_version_eq hc hd hroot
  rw [hchead, hdhead, hroot]

theorem Numbered.family_eq_nil (h : Numbered rows) {k : Nat}
    (hfresh : ∀ c ∈ rows, c.id ≠ k) : family rows k = [] := by
  apply List.filter_eq_nil_iff.mpr
  intro c hc
  have hne : c.root ≠ k := by
    intro hroot
    obtain ⟨r, hr, hid, -⟩ := h.exists_root hc
    exact hfresh r hr (hid.trans hroot)
  simpa using hne

theorem family_singleton (c : ProviderConfiguration) (root : Nat) :
    family [c] root = if c.root = root then [c] else [] := by
  by_cases hroot : c.root = root <;> simp [family, hroot]

theorem IsHead.append_of_root_ne {c new : ProviderConfiguration} (h : IsHead rows c)
    (hne : new.root ≠ c.root) : IsHead (rows ++ [new]) c := by
  rw [IsHead, family_append, family_singleton, if_neg hne, List.append_nil]
  exact h

theorem IsHead.append_next {old new : ProviderConfiguration} (h : IsHead rows old)
    (hroot : new.root = old.root) (hversion : new.version = old.version + 1) :
    IsHead (rows ++ [new]) new := by
  rw [IsHead, family_append, family_singleton, if_pos rfl, hversion, h, hroot,
    List.length_append, List.length_singleton]

theorem Numbered.append (h : Numbered rows) {new : ProviderConfiguration}
    (hparent : ∀ p, new.parentConfig = some p →
      ∃ r ∈ rows, r.id = p ∧ r.parentConfig = none)
    (hfirst : new.parentConfig = none → new.version = 1)
    (hversion : new.version = 1 + (family rows new.root).length) :
    Numbered (rows ++ [new]) := by
  refine ⟨?_, ?_, ?_⟩
  · intro c hc p hp
    have hstored : ∃ r ∈ rows, r.id = p ∧ r.parentConfig = none := by
      rcases List.mem_append.mp hc with hc | hc
      · exact h.parents c hc p hp
      · rw [List.mem_singleton.mp hc] at hp
        exact hparent p hp
    obtain ⟨r, hr, hrp⟩ := hstored
    exact ⟨r, List.mem_append_left _ hr, hrp⟩
  · intro c hc hnone
    rcases List.mem_append.mp hc with hc | hc
    · exact h.roots c hc hnone
    · rw [List.mem_singleton.mp hc] at hnone ⊢
      exact hfirst hnone
  · intro root
    rw [family_append, family_singleton]
    by_cases hnew : new.root = root
    · subst hnew
      simp only [if_true, List.map_append, List.map_cons, List.map_nil,
        List.length_append, List.length_cons, List.length_nil, hversion]
      rw [List.range'_concat, Nat.one_mul]
      exact (h.numbered new.root).append_right _
    · simpa [hnew] using h.numbered root

theorem Numbered.append_root (h : Numbered rows) {new : ProviderConfiguration}
    (hfresh : ∀ c ∈ rows, c.id ≠ new.id) (hparent : new.parentConfig = none)
    (hversion : new.version = 1) : Numbered (rows ++ [new]) := by
  have hroot : new.root = new.id := by simp [ProviderConfiguration.root, hparent]
  refine h.append ?_ (fun _ => hversion) ?_
  · intro p hp
    rw [hparent] at hp
    cases hp
  · rw [hversion, hroot, h.family_eq_nil hfresh]
    rfl

theorem Numbered.append_version (h : Numbered rows) {old new : ProviderConfiguration}
    (hold : old ∈ rows) (hhead : IsHead rows old)
    (hparent : new.parentConfig = some old.root)
    (hversion : new.version = old.version + 1) : Numbered (rows ++ [new]) := by
  have hroot : new.root = old.root := by simp [ProviderConfiguration.root, hparent]
  refine h.append ?_ ?_ ?_
  · intro p hp
    obtain ⟨r, hr, hid, hnone⟩ := h.exists_root hold
    rw [hparent] at hp
    exact ⟨r, hr, hid.trans (Option.some.inj hp), hnone⟩
  · intro hnone
    rw [hparent] at hnone
    cases hnone
  · rw [hversion, hhead, hroot, Nat.add_comm]

end Rows

section Saving

variable {table : Table ProviderConfiguration} {old new : ProviderConfiguration}

theorem samePlace_overwrite (hold : old ∈ table.rows) (hplace : SamePlace old new) :
    ∀ c ∈ table.rows, SamePlace c (Table.overwrite new c) := by
  intro c hc
  unfold Table.overwrite
  split
  · rename_i hkey
    have hcold : c = old := table.eq_of_key_eq hc hold (hkey.trans hplace.1)
    rwa [hcold]
  · exact ⟨rfl, rfl, rfl⟩

theorem Numbered.save (h : Numbered table.rows) (hold : old ∈ table.rows)
    (hplace : SamePlace old new) : Numbered (table.save new).rows := by
  rw [table.rows_save_of_exists new ⟨old, hold, hplace.1.symm⟩]
  exact h.map (samePlace_overwrite hold hplace)

theorem length_family_save (hold : old ∈ table.rows) (hplace : SamePlace old new)
    (root : Nat) :
    (family (table.save new).rows root).length = (family table.rows root).length := by
  rw [table.rows_save_of_exists new ⟨old, hold, hplace.1.symm⟩]
  exact length_family_map (samePlace_overwrite hold hplace) root

end Saving

/-- The state of the version store between two requests. -/
structure Versioned (table : Table ProviderConfiguration) : Prop where
  numbered : Numbered table.rows
  heads : ∀ c ∈ table.rows, c.isActive = true → IsHead table.rows c

theorem versioned_empty : Versioned Table.empty := by
  refine ⟨⟨?_, ?_, ?_⟩, ?_⟩ <;> simp [Table.empty, family]

/-- No request changes more of a stored configuration than to retire it. -/
def Frozen (before after : Table ProviderConfiguration) : Prop :=
  ∀ c ∈ before.rows, ∀ d ∈ after.rows, d.id = c.id →
    d.providerType = c.providerType ∧ d.name = c.name ∧ d.configData = c.configData ∧
      d.encryptedCredentials = c.encryptedCredentials ∧ d.version = c.version ∧
      d.parentConfig = c.parentConfig ∧ (c.isActive = false → d.isActive = false)

theorem frozen_refl (table : Table ProviderConfiguration) : Frozen table table := by
  intro c hc d hd hid
  rw [table.eq_of_key_eq hd hc hid]
  exact ⟨rfl, rfl, rfl, rfl, rfl, rfl, id⟩

section Requests

variable {table after : Table ProviderConfiguration} {config new : ProviderConfiguration}

theorem versioned_of_create (h : Versioned table) (hid : new.id = table.next)
    (hparent : new.parentConfig = none) (hversion : new.version = 1)
    (hrows : after.rows = table.rows ++ [new]) :
    Versioned after ∧ Frozen table after := by
  have hfresh : ∀ c ∈ table.rows, c.id ≠ new.id := by
    intro c hc
    rw [hid]
    exact Nat.ne_of_lt (table.fresh c hc)
  have hroot : new.root = new.id := by simp [ProviderConfiguration.root, hparent]
  refine ⟨⟨?_, ?_⟩, ?_⟩
  · rw [hrows]
    exact h.numbered.append_root hfresh hparent hversion
  · intro c hc hactive
    rw [hrows] at hc ⊢
    rcases List.mem_append.mp hc with hc | hc
    · apply (h.heads c hc hactive).append_of_root_ne
      obtain ⟨r, hr, hrid, -⟩ := h.numbered.exists_root hc
      rw [hroot, ← hrid]
      exact (hfresh r hr).symm
    · rw [List.mem_singleton.mp hc, IsHead, family_append, family_singleton, hversion, hroot,
        h.numbered.family_eq_nil hfresh]
      simp
  · intro c hc d hd hid
    rw [hrows] at hd
    rcases List.mem_append.mp hd with hd | hd
    · exact frozen_refl table c hc d hd hid
    · rw [List.mem_singleton.mp hd] at hid
      exact absurd hid.symm (hfresh c hc)

theorem versioned_of_supersede (h : Versioned table) (hconfig : config ∈ table.rows)
    (hactive : config.isActive = true) (hid : new.id = table.next)
    (hparent : new.parentConfig = some config.root)
    (hversion : new.version = config.version + 1)
    (hrows : after.rows = table.rows ++ [new]) :
    Versioned (after.save config.retired) ∧ Frozen table (after.save config.retired) := by
  have hhead := h.heads config hconfig hactive
  have hconfig' : config ∈ after.rows := by
    rw [hrows]
    exact List.mem_append_left _ hconfig
  have hplace : SamePlace config config.retired := ⟨rfl, rfl, rfl⟩
  have hroot : new.root = config.root := by simp [ProviderConfiguration.root, hparent]
  refine ⟨⟨?_, ?_⟩, ?_⟩
  · apply Numbered.save _ hconfig' hplace
    rw [hrows]
    exact h.numbered.append_version hconfig hhead hparent hversion
  · intro c hc hcactive
    rw [IsHead, length_family_save hconfig' hplace, hrows]
    rcases (after.mem_save _ c).mp hc with rfl | ⟨hc, hne⟩
    · cases hcactive
    · rw [hrows] at hc
      rcases List.mem_append.mp hc with hc | hc
      · apply (h.heads c hc hcactive).append_of_root_ne
        intro heq
        have hsame : c = config := h.numbered.eq_of_isHead hc hconfig
          (heq.symm.trans hroot) (h.heads c hc hcactive) hhead
        exact hne (by rw [hsame]; rfl)
      · rw [List.mem_singleton.mp hc]
        exact hhead.append_next hroot hversion
  · intro c hc d hd hdc
    rcases (after.mem_save _ d).mp hd with rfl | ⟨hd, -⟩
    · have hsame : config = c := table.eq_of_key_eq hconfig hc hdc
      rw [← hsame]
      exact ⟨rfl, rfl, rfl, rfl, rfl, rfl, fun _ => rfl⟩
    · rw [hrows] at hd
      rcases List.mem_append.mp hd with hd | hd
      · exact frozen_refl table c hc d hd hdc
      · have hlt := table.fresh c hc
        rw [List.mem_singleton.mp hd, hid] at hdc
        exact absurd hdc (Nat.ne_of_gt hlt)

theorem Versioned.no_children (h : Versioned table) (hconfig : config ∈ table.rows)
    (hactive : config.isActive = true) :
    ∀ c ∈ table.rows, c.parentConfig ≠ some config.id := by
  -- a root with versions after it is not the last of its family
  intro c hc hparent
  obtain ⟨r, hr, hrid, hrnone⟩ := h.numbered.parents c hc _ hparent
  have hrc : r = config := table.eq_of_key_eq hr hconfig hrid
  rw [hrc] at hrnone
  have hroot : config.root = config.id := by
    simp [ProviderConfiguration.root, hrnone]
  have hcroot : c.root = config.root := by
    rw [hroot]
    simp [ProviderConfiguration.root, hparent]
  have hlength : (family table.rows config.root).length = 1 := by
    rw [← h.heads config hconfig hactive]
    exact h.numbered.roots config hconfig hrnone
  obtain ⟨single, hsingle⟩ := List.length_eq_one_iff.mp hlength
  have hcmem : c ∈ family table.rows config.root := mem_family.mpr ⟨hc, hcroot⟩
  have hconfigmem : config ∈ family table.rows config.root :=
    mem_family.mpr ⟨hconfig, rfl⟩
  rw [hsingle, List.mem_singleton] at hcmem hconfigmem
  rw [hcmem, ← hconfigmem, hrnone] at hparent
  cases hparent

theorem rows_destroy (store : ProviderStore) (h : Versioned store.configurations)
    (hconfig : config ∈ store.configurations.rows) (hactive : config.isActive = true) :
    (destroy store config).1.configurations.rows =
      store.configurations.rows.filter fun c => c.id ≠ config.id := by
  have hdetach : (store.configurations.rows.map fun c =>
      if c.parentConfig = some config.id then
        HasKey.withKey (HasKey.key c) { c with parentConfig := none } else c) =
      store.configurations.rows := by
    refine (List.map_congr_left fun c hc => ?_).trans (List.map_id _)
    simp [h.no_children hconfig hactive c hc]
  simp only [destroy, Table.rows_delete, Table.rows_modify, decide_eq_true_eq]
  rw [hdetach]
  simp

theorem numbered_filter (h : Versioned table) (hconfig : config ∈ table.rows)
    (hactive : config.isActive = true) (root : Nat) :
    ((family (table.rows.filter fun c => c.id ≠ config.id) root).map
        ProviderConfiguration.version).Perm
      (List.range' 1 (family (table.rows.filter fun c => c.id ≠ config.id) root).length) := by
  -- the family of a deleted last version ends one number earlier
  have hcomm : family (table.rows.filter fun c => c.id ≠ config.id) root =
      (family table.rows root).filter fun c => c.id ≠ config.id := by
    simp only [family, List.filter_filter, Bool.and_comm]
  rw [hcomm]
  by_cases hroot : config.root = root
  · have hnodup : ((family table.rows root).map HasKey.key).Nodup :=
      table.nodup.sublist (List.filter_sublist.map HasKey.key)
    have hperm : (family table.rows root).Perm
        (config :: (family table.rows root).filter fun c => c.id ≠ config.id) :=
      Table.perm_cons_filter_key hnodup (mem_family.mpr ⟨hconfig, hroot⟩)
    generalize ((family table.rows root).filter fun c => c.id ≠ config.id) = rest at hperm ⊢
    have hlength : (family table.rows root).length = rest.length + 1 := by
      simpa using hperm.length_eq
    have hversion : config.version = rest.length + 1 := by
      rw [h.heads config hconfig hactive, hroot, hlength]
    have hall := (hperm.map ProviderConfiguration.version).symm.trans
      (h.numbered.numbered root)
    rw [hlength, List.range'_concat, List.map_cons, hversion, Nat.one_mul,
      Nat.add_comm 1] at hall
    exact (hall.trans (List.perm_append_singleton _ _)).cons_inv
  · have hkeep : ((family table.rows root).filter fun c => c.id ≠ config.id) =
        family table.rows root := by
      apply List.filter_eq_self.mpr
      intro c hc
      obtain ⟨hmem, hcroot⟩ := mem_family.mp hc
      have hne : c.id ≠ config.id := by
        intro hid
        rw [table.eq_of_key_eq hmem hconfig hid] at hcroot
        exact hroot hcroot
      simpa using hne
    rw [hkeep]
    exact h.numbered.numbered root

theorem versioned_of_destroy (h : Versioned table) (hconfig : config ∈ table.rows)
    (hactive : config.isActive = true)
    (hrows : after.rows = table.rows.filter fun c => c.id ≠ config.id) :
    Versioned after ∧ Frozen table after := by
  have hmem : ∀ c, c ∈ after.rows ↔ c ∈ table.rows ∧ c.id ≠ config.id := by
    intro c
    rw [hrows, List.mem_filter]
    simp
  refine ⟨⟨⟨?_, ?_, ?_⟩, ?_⟩, ?_⟩
  · intro c hc p hp
    obtain ⟨r, hr, hrid, hrnone⟩ := h.numbered.parents c ((hmem c).mp hc).1 p hp
    refine ⟨r, (hmem r).mpr ⟨hr, ?_⟩, hrid, hrnone⟩
    intro hid
    rw [← hrid, hid] at hp
    exact h.no_children hconfig hactive c ((hmem c).mp hc).1 hp
  · intro c hc hnone
    exact h.numbered.roots c ((hmem c).mp hc).1 hnone
  · rw [hrows]
    exact numbered_filter h hconfig hactive
  · intro c hc hcactive
    obtain ⟨hct, hne⟩ := (hmem c).mp hc
    have hkeep : family after.rows c.root = family table.rows c.root := by
      rw [hrows]
      unfold family
      rw [List.filter_filter]
      apply List.filter_congr
      intro d hd
      by_cases hdroot : d.root = c.root
      · have hdne : d.id ≠ config.id := by
          intro hid
          have hdconfig : d = config := table.eq_of_key_eq hd hconfig hid
          rw [hdconfig] at hdroot
          have hsame := h.numbered.eq_of_isHead hct hconfig hdroot.symm
            (h.heads c hct hcactive) (h.heads config hconfig hactive)
          exact hne (by rw [hsame])
        simp [hdroot, hdne]
      · simp [hdroot]
    unfold IsHead
    rw [hkeep]
    exact h.heads c hct hcactive
  · intro c hc d hd hid
    exact frozen_refl table c hc d ((hmem d).mp hd).1 hid

end Requests

theorem mem_of_activeConfiguration {table : Table ProviderConfiguration} {pk : String}
    {config : ProviderConfiguration} (h : activeConfiguration table pk = some config) :
    config ∈ table.rows ∧ config.isActive = true := by
  obtain ⟨key, -, hfind⟩ := Option.bind_eq_some_iff.mp h
  have hsome := List.find?_some hfind
  simp only [Bool.and_eq_true] at hsome
  exact ⟨List.mem_of_find?_eq_some hfind, hsome.1⟩

/-- A request keeps the numbering, and changes nothing that versions have stored. -/
def KeepsVersions (before after : Table ProviderConfiguration) : Prop :=
  Versioned before → Versioned after ∧ Frozen before after

theorem keepsVersions_refl (table : Table ProviderConfiguration) :
    KeepsVersions table table :=
  fun h => ⟨h, frozen_refl table⟩

theorem performCreate_keepsVersions (services : ProviderServices) (nonce user : Nat)
    (store : ProviderStore) (data : NewProvider) :
    KeepsVersions store.configurations
      (performCreate services nonce user store data).1.configurations := by
  intro h
  let row := newConfiguration user data
  have hkey := store.configurations.key_created row
  have hinsert : Versioned (store.configurations.create row) ∧
      Frozen store.configurations (store.configurations.create row) :=
    versioned_of_create h hkey rfl rfl rfl
  simp only [performCreate, writeAudit, createConfiguration]
  cases hcredentials : data.credentials with
  | none => exact hinsert
  | some credentials =>
      dsimp only
      split
      · exact hinsert
      · let saved := setCredentials services nonce credentials
          (store.configurations.created row)
        have hsaved : saved.id = store.configurations.next := hkey
        exact versioned_of_create h hsaved rfl rfl
          (store.configurations.rows_save_create row saved hsaved)

theorem samePlace_withCredentials (services : ProviderServices) (nonce : Nat)
    (config row : ProviderConfiguration) (changes : ProviderChanges) :
    SamePlace row (withCredentials services nonce config changes row) ∧
      row.isActive = (withCredentials services nonce config changes row).isActive := by
  unfold withCredentials
  split <;> exact ⟨⟨rfl, rfl, rfl⟩, rfl⟩

theorem performUpdate_keepsVersions (services : ProviderServices) (nonce user : Nat)
    {store : ProviderStore} {config : ProviderConfiguration} (changes : ProviderChanges)
    (hconfig : config ∈ store.configurations.rows) (hactive : config.isActive = true) :
    KeepsVersions store.configurations
      (performUpdate services nonce user store config changes).1.configurations := by
  intro h
  let row := nextVersion config changes
  let inserted := store.configurations.created row
  let saved := withCredentials services nonce config changes inserted
  have hplace : SamePlace inserted saved :=
    (samePlace_withCredentials services nonce config inserted changes).1
  exact versioned_of_supersede h hconfig hactive hplace.1 hplace.2.1 hplace.2.2
    (store.configurations.rows_save_create row saved hplace.1)

theorem rollback_keepsVersions (user : Nat) {store : ProviderStore}
    {current : ProviderConfiguration} (data : Json)
    (hcurrent : current ∈ store.configurations.rows)
    (hactive : current.isActive = true) :
    KeepsVersions store.configurations
      (rollback user store current data).1.configurations := by
  unfold rollback
  split
  · dsimp only
    split
    · split
      · exact keepsVersions_refl _
      · split
        · exact keepsVersions_refl _
        · rename_i target _
          intro h
          exact versioned_of_supersede h hcurrent hactive
            (store.configurations.key_created (rolledBack current target user)) rfl rfl
            (store.configurations.rows_create _)
        · exact keepsVersions_refl _
    · exact keepsVersions_refl _
  · exact keepsVersions_refl _

theorem testConnection_configurations (services : ProviderServices) (elapsed : ℚ)
    (user : Nat) (store : ProviderStore) (config : ProviderConfiguration) :
    (testConnection services elapsed user store config).1.configurations =
      store.configurations := by
  unfold testConnection
  split
  · rfl
  · split <;> rfl

theorem onActive_keepsVersions {store : ProviderStore} {pk : String}
    {body : ProviderConfiguration → ProviderStore × ProviderResponse}
    (hbody : ∀ config ∈ store.configurations.rows, config.isActive = true →
      KeepsVersions store.configurations (body config).1.configurations) :
    KeepsVersions store.configurations (onActive store pk body).1.configurations := by
  unfold onActive
  split
  · exact keepsVersions_refl _
  · rename_i config hfound
    obtain ⟨hconfig, hactive⟩ := mem_of_activeConfiguration hfound
    exact hbody config hconfig hactive

theorem handle_keepsVersions (services : ProviderServices) (store : ProviderStore)
    (call : ProviderCall) :
    KeepsVersions store.configurations
      (handle services store call).1.configurations := by
  unfold handle
  split
  · exact keepsVersions_refl _
  · split
    · exact keepsVersions_refl _
    · rename_i user _ _
      unfold dispatch
      split
      · exact keepsVersions_refl _
      · exact performCreate_keepsVersions services _ _ store _
      · apply onActive_keepsVersions
        intro config hconfig hactive
        split
        · exact keepsVersions_refl _
        · exact performUpdate_keepsVersions services _ _ _ hconfig hactive
      · apply onActive_keepsVersions
        intro config hconfig hactive
        exact rollback_keepsVersions _ _ hconfig hactive
      · apply onActive_keepsVersions
        intro config hconfig hactive
        rw [testConnection_configurations]
        exact keepsVersions_refl _
      · apply onActive_keepsVersions
        intro config hconfig hactive h
        exact versioned_of_destroy h hconfig hactive
          (rows_destroy store h hconfig hactive)

theorem handleAll_versioned (services : ProviderServices) (calls : List ProviderCall)
    {store : ProviderStore} (h : Versioned store.configurations) :
    Versioned (handleAll services store calls).configurations := by
  induction calls generalizing store with
  | nil => exact h
  | cons call rest ih => exact ih (handle_keepsVersions services store call h).1

/-- A configuration without a parent together with the configurations whose
parent it is. -/
def lineage (rows : List ProviderConfiguration) (root : ProviderConfiguration) :
    List ProviderConfiguration :=
  rows.filter fun c => c.id = root.id || c.parentConfig = some root.id

/-- The law of the version store.  The numbers of a lineage of `m` rows are
`1, …, m` in some order; an active row is the one with number `m`, and no
second row is active; parents are stored roots. -/
structure VersionLaw (table : Table ProviderConfiguration) : Prop where
  numbers : ∀ root ∈ table.rows, root.parentConfig = none →
    ((lineage table.rows root).map ProviderConfiguration.version).Perm
      (List.range' 1 (lineage table.rows root).length)
  last : ∀ root ∈ table.rows, root.parentConfig = none →
    ∀ c ∈ lineage table.rows root, c.isActive = true →
      c.version = (lineage table.rows root).length
  unique : ∀ root ∈ table.rows, root.parentConfig = none →
    ∀ c ∈ lineage table.rows root, ∀ d ∈ lineage table.rows root,
      c.isActive = true → d.isActive = true → c = d
  parents : ∀ c ∈ table.rows, ∀ p, c.parentConfig = some p →
    ∃ root ∈ table.rows, root.id = p ∧ root.parentConfig = none

theorem lineage_eq_family {table : Table ProviderConfiguration}
    {root : ProviderConfiguration} (hroot : root ∈ table.rows)
    (hparent : root.parentConfig = none) :
    lineage table.rows root = family table.rows root.id := by
  apply List.filter_congr
  intro c hc
  cases hcparent : c.parentConfig with
  | none => simp [ProviderConfiguration.root, hcparent]
  | some p =>
      have hne : c.id ≠ root.id := by
        intro hid
        rw [table.eq_of_key_eq hc hroot hid, hparent] at hcparent
        cases hcparent
      simp [ProviderConfiguration.root, hcparent, hne]

theorem Versioned.versionLaw {table : Table ProviderConfiguration} (h : Versioned table) :
    VersionLaw table := by
  have hlast : ∀ root ∈ table.rows, root.parentConfig = none →
      ∀ c ∈ lineage table.rows root, c.isActive = true →
        c.version = (lineage table.rows root).length := by
    intro root hroot hparent c hc hactive
    rw [lineage_eq_family hroot hparent] at hc ⊢
    obtain ⟨hmem, hcroot⟩ := mem_family.mp hc
    rw [← hcroot]
    exact h.heads c hmem hactive
  refine ⟨?_, hlast, ?_, h.numbered.parents⟩
  · intro root hroot hparent
    rw [lineage_eq_family hroot hparent]
    exact h.numbered.numbered root.id
  · intro root hroot hparent c hc d hd hcactive hdactive
    have hversion : c.version = d.version := by
      rw [hlast root hroot hparent c hc hcactive, hlast root hroot hparent d hd hdactive]
    rw [lineage_eq_family hroot hparent] at hc hd
    obtain ⟨hcmem, hcroot⟩ := mem_family.mp hc
    obtain ⟨hdmem, hdroot⟩ := mem_family.mp hd
    exact h.numbered.eq_of_version_eq hcmem hdmem (hcroot.trans hdroot.symm) hversion

end Botman.ProviderVersions
