import Mathlib.Data.List.Basic
import Mathlib.Data.List.Induction

/-!
Cache-aside: a value is looked up under a key before it is computed, and stored
under that key afterwards.

The state that values are computed from changes at any time, entries expire or
are evicted, and requests overlap: a request that missed holds its value until
it is scheduled again, and only then stores it.  Whatever the schedule, a reply
was computed in the run for a query with the same key.
-/

namespace Botman.Library.CacheAside

/-- A value under its key, until a time. -/
structure Entry (K V : Type*) where
  key : K
  value : V
  expires : Nat

/-- Computations behind a cache.  A value that is not usable is taken for a miss. -/
structure Service (S Q K V E : Type*) where
  key : Q → K
  compute : S → Nat → Q → Except E V
  usable : V → Bool
  timeout : Q → Nat

/-- A value that was computed and is not stored yet. -/
structure Pending (Q V : Type*) where
  query : Q
  value : V

/-- The state that values are computed from, the time, the cache, and the requests
between computation and storage. -/
structure World (S Q K V : Type*) where
  state : S
  now : Nat
  cache : List (Entry K V)
  pending : List (Pending Q V)

/-- A request comes in, or stores its value; the state changes; time passes; the cache
drops entries. -/
inductive Event (S Q K V : Type*) where
  | ask (query : Q)
  | finish (index : Nat)
  | change (state : S)
  | wait (time : Nat)
  | evict (keep : Entry K V → Bool)

/-- The answer to a request. -/
structure Answer (Q V E : Type*) where
  query : Q
  result : Except E V

variable {S Q K V E : Type*} [DecidableEq K] (service : Service S Q K V E)

/-- The newest entry of a key counts. -/
def lookup (cache : List (Entry K V)) (query : Q) (now : Nat) : Option V :=
  (cache.find? fun entry => entry.key = service.key query).bind fun entry =>
    if now < entry.expires ∧ service.usable entry.value = true then some entry.value else none

/-- A value is stored under the key of its request. -/
def put (cache : List (Entry K V)) (query : Q) (value : V) (now : Nat) : List (Entry K V) :=
  { key := service.key query, value := value, expires := now + service.timeout query } :: cache

/-- A request that nothing interrupts. -/
def fetch (state : S) (cache : List (Entry K V)) (query : Q) (now : Nat) :
    List (Entry K V) × Except E V :=
  match lookup service cache query now with
  | some value => (cache, .ok value)
  | none =>
      match service.compute state now query with
      | .error e => (cache, .error e)
      | .ok value => (put service cache query value now, .ok value)

def step (w : World S Q K V) : Event S Q K V → World S Q K V
  | .ask query =>
      match lookup service w.cache query w.now, service.compute w.state w.now query with
      | none, .ok value => { w with pending := w.pending ++ [⟨query, value⟩] }
      | _, _ => w
  | .finish index =>
      match w.pending[index]? with
      | some p =>
          { w with
            cache := put service w.cache p.query p.value w.now
            pending := w.pending.eraseIdx index }
      | none => w
  | .change state => { w with state := state }
  | .wait time => { w with now := w.now + time }
  | .evict keep => { w with cache := w.cache.filter keep }

/-- The answer that an event gives rise to, if it is one to a request. -/
def reply (w : World S Q K V) : Event S Q K V → Option (Answer Q V E)
  | .ask query =>
      match lookup service w.cache query w.now, service.compute w.state w.now query with
      | some value, _ => some ⟨query, .ok value⟩
      | none, .error e => some ⟨query, .error e⟩
      | none, .ok _ => none
  | .finish index => (w.pending[index]?).map fun p => ⟨p.query, .ok p.value⟩
  | _ => none

/-- The events one after the other. -/
def run (w : World S Q K V) (events : List (Event S Q K V)) : World S Q K V :=
  events.foldl (step service) w

theorem fetch_eq_step (w : World S Q K V) (hidle : w.pending = []) (query : Q) :
    let asked := step service w (.ask query)
    (step service asked (.finish 0)).cache = (fetch service w.state w.cache query w.now).1 ∧
      (reply service w (.ask query)).or (reply service asked (.finish 0)) =
        some ⟨query, (fetch service w.state w.cache query w.now).2⟩ := by
  intro asked
  cases hlookup : lookup service w.cache query w.now with
  | some value => simp [asked, step, reply, fetch, hlookup, hidle]
  | none =>
      cases hcompute : service.compute w.state w.now query with
      | error e => simp [asked, step, reply, fetch, hlookup, hcompute, hidle]
      | ok value => simp [asked, step, reply, fetch, hlookup, hcompute, hidle]

/-- The value was computed at an `ask` of the events, for a query with this
key. -/
def Computed (start : World S Q K V) (events : List (Event S Q K V)) (key : K) (value : V) :
    Prop :=
  ∃ earlier asked, earlier ++ [.ask asked] <+: events ∧ service.key asked = key ∧
    service.compute (run service start earlier).state (run service start earlier).now asked =
      .ok value

variable {service} {start w : World S Q K V} {events : List (Event S Q K V)}

theorem Computed.append {key : K} {value : V} (h : Computed service start events key value)
    (event : Event S Q K V) : Computed service start (events ++ [event]) key value := by
  obtain ⟨earlier, asked, hprefix, hrest⟩ := h
  exact ⟨earlier, asked, hprefix.trans (List.prefix_append events [event]), hrest⟩

/-- What is kept of values, stored or not, was computed in the run. -/
structure Sound (service : Service S Q K V E) (start : World S Q K V)
    (events : List (Event S Q K V)) (w : World S Q K V) : Prop where
  cache : ∀ entry ∈ w.cache, Computed service start events entry.key entry.value
  pending : ∀ p ∈ w.pending, Computed service start events (service.key p.query) p.value

theorem Sound.append (h : Sound service start events w) (event : Event S Q K V) :
    Sound service start (events ++ [event]) w :=
  ⟨fun entry hentry => (h.cache entry hentry).append event,
    fun p hp => (h.pending p hp).append event⟩

theorem computed_now {query : Q} {value : V}
    (h : service.compute (run service start events).state (run service start events).now query =
      .ok value) :
    Computed service start (events ++ [.ask query]) (service.key query) value :=
  ⟨events, query, List.prefix_rfl, rfl, h⟩

theorem mem_of_lookup {cache : List (Entry K V)} {query : Q} {now : Nat} {value : V}
    (h : lookup service cache query now = some value) :
    ∃ entry ∈ cache, entry.key = service.key query ∧ entry.value = value := by
  obtain ⟨entry, hfind, hentry⟩ := Option.bind_eq_some_iff.mp h
  refine ⟨entry, List.mem_of_find?_eq_some hfind, by simpa using List.find?_some hfind, ?_⟩
  split at hentry
  · exact Option.some.inj hentry
  · cases hentry

theorem sound_step (event : Event S Q K V)
    (h : Sound service start events (run service start events)) :
    Sound service start (events ++ [event])
      (step service (run service start events) event) := by
  have hkept := h.append event
  cases event with
  | ask query =>
      rw [step]
      split
      · rename_i value _ hcompute
        refine ⟨hkept.cache, fun p hp => ?_⟩
        rcases List.mem_append.mp hp with hp | hp
        · exact hkept.pending p hp
        · rw [List.mem_singleton] at hp
          subst hp
          exact computed_now hcompute
      · exact hkept
  | finish index =>
      rw [step]
      split
      · rename_i p hp
        refine ⟨fun entry hentry => ?_, fun p hp => hkept.pending p (List.mem_of_mem_eraseIdx hp)⟩
        rcases List.mem_cons.mp hentry with rfl | hold
        · exact hkept.pending p (List.mem_of_getElem? hp)
        · exact hkept.cache entry hold
      · exact hkept
  | change state => exact ⟨hkept.cache, hkept.pending⟩
  | wait time => exact ⟨hkept.cache, hkept.pending⟩
  | evict keep => exact ⟨fun entry hentry => hkept.cache entry (List.mem_filter.mp hentry).1,
      hkept.pending⟩

/-- The rule of cache-aside, by induction over the events. -/
theorem sound_run (hcache : start.cache = []) (hpending : start.pending = []) :
    Sound service start events (run service start events) := by
  induction events using List.reverseRecOn with
  | nil =>
      refine ⟨fun entry hentry => ?_, fun p hp => ?_⟩
      · rw [run, List.foldl_nil, hcache] at hentry
        cases hentry
      · rw [run, List.foldl_nil, hpending] at hp
        cases hp
  | append_singleton events event ih =>
      rw [run, List.foldl_append]
      exact sound_step event ih

theorem computed_of_reply (hcache : start.cache = []) (hpending : start.pending = [])
    {event : Event S Q K V} {query : Q} {value : V}
    (h : reply service (run service start events) event = some ⟨query, .ok value⟩) :
    Computed service start (events ++ [event]) (service.key query) value := by
  have hsound : Sound service start events (run service start events) :=
    sound_run hcache hpending
  cases event with
  | ask asked =>
      rw [reply] at h
      split at h
      · rename_i value hlookup
        cases h
        obtain ⟨entry, hentry, hkey, rfl⟩ := mem_of_lookup hlookup
        rw [← hkey]
        exact (hsound.cache entry hentry).append _
      · cases h
      · cases h
  | finish index =>
      obtain ⟨p, hp, hanswer⟩ := Option.map_eq_some_iff.mp h
      cases hanswer
      exact (hsound.pending p (List.mem_of_getElem? hp)).append _
  | change state => cases h
  | wait time => cases h
  | evict keep => cases h

theorem append_separator_inj {A : Type*} {separator : A} {first second rest rest' : List A}
    (hfirst : separator ∉ first) (hsecond : separator ∉ second)
    (h : first ++ separator :: rest = second ++ separator :: rest') :
    first = second ∧ rest = rest' := by
  induction first generalizing second with
  | nil =>
      cases second with
      | nil => exact ⟨rfl, List.tail_eq_of_cons_eq h⟩
      | cons a second => exact absurd (List.head_eq_of_cons_eq h ▸ List.mem_cons_self) hsecond
  | cons a first ih =>
      cases second with
      | nil => exact absurd (List.head_eq_of_cons_eq h ▸ List.mem_cons_self) hfirst
      | cons b second =>
          obtain ⟨rfl, htail⟩ := List.cons_eq_cons.mp h
          obtain ⟨rfl, hrest⟩ := ih (fun hmem => hfirst (List.mem_cons_of_mem _ hmem))
            (fun hmem => hsecond (List.mem_cons_of_mem _ hmem)) htail
          exact ⟨rfl, hrest⟩

end Botman.Library.CacheAside
