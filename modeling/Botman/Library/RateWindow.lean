import Mathlib.Algebra.Order.Group.Defs
import Mathlib.Data.List.DropRight

/-!
Limits on the number of events in a sliding window of time.

The limiter that an application uses keeps the times of the events it admitted, newest
first, in a store whose records expire, and drops from the end of the list what is too
old.  It decides as the limiter does that forgets nothing, and no window has more events
than the limit.
-/

namespace Botman.Library.RateWindow

variable {T : Type*} [AddCommGroup T] [LinearOrder T]

/-- The times that the window which ends now has not left behind. -/
def recent (span now : T) (times : List T) : List T :=
  times.filter fun t => now - span < t

/-- The times that are stored under a key, until they expire. -/
structure Record (T : Type*) where
  history : List T
  expires : T

/-- What the store still has of a record. -/
def remembered (now : T) : Option (Record T) → List T
  | none => []
  | some record => if now < record.expires then record.history else []

/-- Pop the last time as long as it is too old. -/
def dropOld (span now : T) (history : List T) : List T :=
  history.rdropWhile fun t => t ≤ now - span

/-- The limiter over the store.  Only an event that is admitted is written back. -/
def allow (limit : Nat) (span now : T) (stored : Option (Record T)) :
    Option (Record T) × Bool :=
  let history := dropOld span now (remembered now stored)
  if limit ≤ history.length then (stored, false)
  else (some ⟨now :: history, now + span⟩, true)

/-- The limiter that forgets nothing. -/
def grant (limit : Nat) (span now : T) (log : List T) : List T × Bool :=
  if limit ≤ (recent span now log).length then (log, false) else (now :: log, true)

theorem grant_fst (limit : Nat) (span now : T) (log : List T) :
    (grant limit span now log).1 = if (grant limit span now log).2 then now :: log else log := by
  unfold grant
  split <;> rfl

theorem grant_snd_eq_false_iff (limit : Nat) (span now : T) (log : List T) :
    (grant limit span now log).2 = false ↔ limit ≤ (recent span now log).length := by
  unfold grant
  split <;> rename_i h <;> simp [h]

/-- The order in which a limiter keeps its times. -/
def NewestFirst (times : List T) : Prop :=
  times.Pairwise fun a b => b ≤ a

theorem dropOld_eq_recent {times : List T} (h : NewestFirst times) (span now : T) :
    dropOld span now times = recent span now times := by
  induction times using List.reverseRecOn with
  | nil => rfl
  | append_singleton times t ih =>
      obtain ⟨htimes, -, hlast⟩ := List.pairwise_append.mp h
      by_cases hold : t ≤ now - span
      · rw [dropOld, List.rdropWhile_concat_pos _ _ _ (by simpa using hold), recent,
          List.filter_append, List.filter_cons_of_neg (by simpa using hold), List.filter_nil,
          List.append_nil]
        exact ih htimes
      · -- the last time is the oldest, so nothing is dropped
        have hall : ∀ s ∈ times ++ [t], now - span < s := by
          intro s hs
          rcases List.mem_append.mp hs with hs | hs
          · exact (not_le.mp hold).trans_le (hlast s hs t List.mem_cons_self)
          · rw [List.mem_singleton.mp hs]
            exact not_le.mp hold
        rw [dropOld, List.rdropWhile_concat_neg _ _ _ (by simpa using hold), recent,
          List.filter_eq_self.mpr fun s hs => by simpa using hall s hs]

/-- A record stands for all the events that were admitted until now. -/
structure Represents (span now : T) (stored : Option (Record T)) (log : List T) : Prop where
  sorted : NewestFirst log
  past : ∀ t ∈ log, t ≤ now
  history : ∀ later, NewestFirst (remembered later stored)
  same : ∀ later, now ≤ later →
    recent span later (remembered later stored) = recent span later log

theorem represents_nil (span now : T) : Represents span now none [] :=
  ⟨.nil, by simp, fun _ => .nil, fun _ _ => rfl⟩

theorem Represents.later {span now later : T} {stored : Option (Record T)} {log : List T}
    (h : Represents span now stored log) (hlater : now ≤ later) :
    Represents span later stored log :=
  ⟨h.sorted, fun t ht => (h.past t ht).trans hlater, h.history,
    fun other hother => h.same other (hlater.trans hother)⟩

theorem Represents.dropOld {span now : T} {stored : Option (Record T)} {log : List T}
    (h : Represents span now stored log) :
    dropOld span now (remembered now stored) = recent span now log := by
  rw [dropOld_eq_recent (h.history now), h.same now le_rfl]

/-- The times of a window. -/
def window (span last : T) (times : List T) : List T :=
  times.filter fun t => last - span < t ∧ t ≤ last

/-- No window has more times than the limit. -/
def Bounded (limit : Nat) (span : T) (times : List T) : Prop :=
  ∀ last, (window span last times).length ≤ limit

theorem Bounded.of_sublist {limit : Nat} {span : T} {times more : List T}
    (h : Bounded limit span more) (hsub : times.Sublist more) : Bounded limit span times :=
  fun last => ((hsub.filter _).length_le).trans (h last)

variable [IsOrderedAddMonoid T]

theorem recent_recent {span now later : T} (h : now ≤ later) (times : List T) :
    recent span later (recent span now times) = recent span later times := by
  rw [recent, recent, List.filter_filter, recent]
  refine List.filter_congr fun t _ => ?_
  have hbound : now - span ≤ later - span := sub_le_sub_right h span
  by_cases ht : later - span < t
  · simp [ht, hbound.trans_lt ht]
  · simp [ht]

theorem Represents.admitted {span now : T} {stored : Option (Record T)} {log : List T}
    (h : Represents span now stored log) :
    Represents span now (some ⟨now :: recent span now log, now + span⟩) (now :: log) := by
  have hnew : NewestFirst (now :: log) := List.pairwise_cons.mpr ⟨h.past, h.sorted⟩
  have hkept : NewestFirst (now :: recent span now log) :=
    hnew.sublist (List.filter_sublist.cons_cons now)
  refine ⟨hnew, ?_, ?_, ?_⟩
  · intro t ht
    rcases List.mem_cons.mp ht with rfl | ht
    · exact le_rfl
    · exact h.past t ht
  · intro later
    rw [remembered]
    split
    · exact hkept
    · exact .nil
  · intro later hlater
    by_cases hexpired : later < now + span
    · have hhead : later - span < now := sub_lt_iff_lt_add.mpr hexpired
      have hrest : recent span later (recent span now log) = recent span later log :=
        recent_recent hlater log
      simp only [recent] at hrest
      simp only [remembered, hexpired, if_true, recent, hhead, List.filter_cons_of_pos,
        decide_true, hrest]
    · -- the record expires when its newest time is too old
      have hall : ∀ t ∈ now :: log, ¬ later - span < t := by
        intro t ht
        have hpast : t ≤ now := by
          rcases List.mem_cons.mp ht with rfl | ht
          · exact le_rfl
          · exact h.past t ht
        exact not_lt.mpr (hpast.trans (le_sub_iff_add_le.mpr (not_lt.mp hexpired)))
      have hnone : recent span later (now :: log) = [] :=
        List.filter_eq_nil_iff.mpr fun t ht => by simpa using hall t ht
      simp only [remembered, hexpired, if_false, hnone]
      rfl

/-- The limiter over the store is the one that forgets nothing. -/
theorem represents_allow (limit : Nat) {span now : T} {stored : Option (Record T)}
    {log : List T} (h : Represents span now stored log) :
    (allow limit span now stored).2 = (grant limit span now log).2 ∧
      Represents span now (allow limit span now stored).1 (grant limit span now log).1 := by
  simp only [allow, grant, h.dropOld]
  split
  · exact ⟨rfl, h⟩
  · exact ⟨rfl, h.admitted⟩

theorem bounded_grant {limit : Nat} {span : T} (now : T) {log : List T}
    (h : Bounded limit span log) : Bounded limit span (grant limit span now log).1 := by
  unfold grant
  split
  · exact h
  · rename_i hfree
    intro last
    by_cases hnow : last - span < now ∧ now ≤ last
    · -- the window ends after the new event, so its other events are recent
      have hsub : (window span last log).Sublist (recent span now log) := by
        refine List.monotone_filter_right log fun t ht => ?_
        simp only [decide_eq_true_eq] at ht ⊢
        exact (sub_le_sub_right hnow.2 span).trans_lt ht.1
      rw [window, List.filter_cons_of_pos (by simpa using hnow), List.length_cons]
      exact (Nat.succ_le_succ hsub.length_le).trans (not_le.mp hfree)
    · rw [window, List.filter_cons_of_neg (by simpa using hnow)]
      exact h last

end Botman.Library.RateWindow
