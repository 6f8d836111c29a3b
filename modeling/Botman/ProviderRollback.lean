import Botman.ProviderAudit

/-!
`rollback` and the version it is asked for.

The version is looked up among the configurations whose parent is the root of
the lineage.  All versions but the first are there; the root has no parent.
-/

namespace Botman.ProviderRollback

open Botman.Library.KeyedTable
open Botman.Library.PythonValue
open Botman.DataModel
open Botman.ProviderApi
open Botman.ProviderVersions
open Botman.ProviderConcurrency
open Botman.ProviderAudit

theorem truthy_of_intOf {value : Json} {n : Int} (h : intOf value = some n) (hn : n ≠ 0) :
    truthy value = true := by
  cases value with
  | null => cases h
  | bool b =>
      cases b with
      | false =>
          cases h
          exact absurd rfl hn
      | true => rfl
  | int m =>
      cases h
      exact decide_eq_true hn
  | float q =>
      refine decide_eq_true ?_
      rintro rfl
      cases h
      exact hn rfl
  | str s =>
      refine decide_eq_true ?_
      rintro rfl
      have hnone : intOf (.str "") = none := by decide
      rw [hnone] at h
      cases h
  | arr items => cases h
  | obj fields => cases h

section Targets

variable {table : Table ProviderConfiguration} {current target : ProviderConfiguration}

theorem version_pos_of_numbered {rows : List ProviderConfiguration} (h : Numbered rows)
    {c : ProviderConfiguration} (hc : c ∈ rows) : 0 < c.version := by
  have hmem : c.version ∈ (family rows c.root).map ProviderConfiguration.version :=
    List.mem_map_of_mem (mem_family.mpr ⟨hc, rfl⟩)
  have hrange := (h.numbered c.root).mem_iff.mp hmem
  rw [List.mem_range'_1] at hrange
  exact hrange.1

theorem mem_rollbackTargets {version : Int} {c : ProviderConfiguration} :
    c ∈ rollbackTargets table current version ↔
      c ∈ table.rows ∧ c.parentConfig = some current.root ∧ (c.version : Int) = version := by
  simp [rollbackTargets]

theorem rollbackTargets_of_family (h : Versioned table)
    (htarget : target ∈ family table.rows current.root) :
    rollbackTargets table current target.version =
      if target.parentConfig = none then [] else [target] := by
  obtain ⟨hmem, hroot⟩ := mem_family.mp htarget
  have honly : ∀ c ∈ rollbackTargets table current target.version, c = target := by
    intro c hc
    obtain ⟨hcmem, hcparent, hcversion⟩ := mem_rollbackTargets.mp hc
    have hcroot : c.root = current.root := by
      simp [ProviderConfiguration.root, hcparent]
    exact h.numbered.eq_of_version_eq hcmem hmem (hcroot.trans hroot.symm)
      (Int.ofNat.inj hcversion)
  split
  · rename_i hnone
    rw [List.eq_nil_iff_forall_not_mem]
    intro c hc
    have hparent := (mem_rollbackTargets.mp hc).2.1
    rw [honly c hc, hnone] at hparent
    cases hparent
  · rename_i hparent
    obtain ⟨p, hp⟩ := Option.ne_none_iff_exists'.mp hparent
    have hproot : target.parentConfig = some current.root := by
      rw [← hroot, ProviderConfiguration.root, hp, Option.getD_some]
    have hnodup : (rollbackTargets table current target.version).Nodup :=
      (List.Nodup.of_map _ table.nodup).filter _
    refine List.perm_singleton.mp ((List.perm_ext_iff_of_nodup hnodup
      (List.nodup_singleton target)).mpr fun c => ?_)
    rw [List.mem_singleton]
    refine ⟨honly c, ?_⟩
    rintro rfl
    exact mem_rollbackTargets.mpr ⟨hmem, hproot, rfl⟩

end Targets

section Restoring

/-- `new` is the one active configuration of the lineage of `current`: the target
under the next version number. -/
structure Restored (services : ProviderServices) (rows : List ProviderConfiguration)
    (current target new : ProviderConfiguration) : Prop where
  active_iff : ∀ c, c ∈ family rows current.root ∧ c.isActive = true ↔ c = new
  providerType : new.providerType = target.providerType
  name : new.name = target.name
  configData : new.configData = target.configData
  credentials : getCredentials services new = getCredentials services target
  version : new.version = current.version + 1

/-- The rollback succeeds, with a new version made of the target. -/
def Restores (services : ProviderServices) (current target : ProviderConfiguration)
    (result : ProviderStore × ProviderResponse) : Prop :=
  ∃ new, result.2 = .saved 200 new ∧
    Restored services result.1.configurations.rows current target new

variable {table : Table ProviderConfiguration} {current target : ProviderConfiguration}

theorem restored_rolledBack (services : ProviderServices) (h : Versioned table)
    (hcurrent : current ∈ table.rows) (hactive : current.isActive = true) (user : Nat) :
    Restored services ((table.create (rolledBack current target user)).save
      current.retired).rows current target (table.created (rolledBack current target user)) := by
  have hkey : (table.created (rolledBack current target user)).id = table.next :=
    table.key_created (rolledBack current target user)
  have hafter : Versioned ((table.create (rolledBack current target user)).save
      current.retired) :=
    (versioned_of_supersede h hcurrent hactive hkey rfl rfl (table.rows_create _)).1
  have hne : (table.created (rolledBack current target user)).id ≠ current.retired.id := by
    rw [hkey]
    exact Nat.ne_of_gt (table.fresh current hcurrent)
  have hstored : table.created (rolledBack current target user) ∈
      ((table.create (rolledBack current target user)).save current.retired).rows :=
    (Table.mem_save _ _ _).mpr (Or.inr ⟨(table.mem_create _ _).mpr (Or.inr rfl), hne⟩)
  refine ⟨?_, rfl, rfl, rfl, rfl, rfl⟩
  intro c
  constructor
  · rintro ⟨hfamily, hcactive⟩
    obtain ⟨hmem, hroot⟩ := mem_family.mp hfamily
    exact hafter.numbered.eq_of_isHead hmem hstored hroot (hafter.heads c hmem hcactive)
      (hafter.heads _ hstored rfl)
  · rintro rfl
    exact ⟨mem_family.mpr ⟨hstored, rfl⟩, rfl⟩

end Restoring

section Renamed

/-- A configuration with three versions. -/
def renamedTwice : List ProviderCall :=
  [requestBy (admin 1 Nat.one_pos) (.create (some newOpenai)),
    requestBy (admin 1 Nat.one_pos) (.update "1" (some (rename "Second"))),
    requestBy (admin 1 Nat.one_pos) (.update "2" (some (rename "Third")))]

def rollbackTo (version : Nat) : ProviderCall :=
  requestBy (admin 1 Nat.one_pos) (.rollback "3" (.obj [("version", .int version)]))

def versionRow (version : Nat) (name : String) : ProviderConfiguration where
  id := version
  providerType := .openai
  name := name
  configData := .obj []
  encryptedCredentials := none
  isActive := version = 3
  version := version
  parentConfig := if version = 1 then none else some 1
  createdBy := some 1

theorem rows_renamedTwice :
    (handleAll idleServices .empty renamedTwice).configurations.rows =
      [versionRow 1 "OpenAI", versionRow 2 "Second", versionRow 3 "Third"] := rfl

theorem mem_family_renamedTwice {c : ProviderConfiguration}
    (hc : c ∈ [versionRow 1 "OpenAI", versionRow 2 "Second", versionRow 3 "Third"])
    (hroot : c.root = 1) :
    c ∈ family (handleAll idleServices .empty renamedTwice).configurations.rows
      (versionRow 3 "Third").root := by
  rw [mem_family, rows_renamedTwice]
  exact ⟨hc, hroot⟩

end Renamed

end Botman.ProviderRollback
