import EntityMapper.Driver.Scripted
import EntityMapper.Proofs.Schema.Described

/-!
# The memo of schemas

The cache of schemas is followed through runs in which schemas are asked for, put in and taken out,
while the database changes in between or ceases to answer. What is known for a type at the end of a
run was either put in, or was described by the driver at a request that found nothing known; and
nothing that is about other types has changed it since (`brought_of_cached?`).

## Structure

* `SchemaRequest.Answered` — the outcomes of a request, with its calls and the state it leaves.
  `SchemaRequest.answered` is the step lemma of the module.
* `SchemaEvent` — a request, or something that happens to the cache or to the database.
* `cached?_after_of_not_concerns`, `cached?_after_of_not_renews` — what an event leaves alone.
* `Brought` — where a schema comes from that is known after a run: an event that brought it, and
  none behind that which renews it.
* `get_memoizes` — what this says of the next request, in any state that can be reached.

The database may change between any two events, and the driver may be of any kind: nothing is
assumed of its answers.
-/

namespace EntityMapper

open Traced (calls)

instance {σ : Type} [Traced σ] : Traced (SchemaCache × σ) := ⟨fun s => calls s.2⟩

variable {σ τ : Type}

/-! ## Looking up

A cache is a dictionary by the names of entity types, so what is put in under one name leaves the
others alone. -/

namespace SchemaCache

variable {cache : SchemaCache} {schema : Schema} {entity other : String}

theorem cached?_insert_self (cache : SchemaCache) (schema : Schema) :
    (cache.insert schema).cached? schema.entity = some schema :=
  Dict.get?_insert_self _ _ _

theorem cached?_insert_of_ne (h : other ≠ schema.entity) :
    (cache.insert schema).cached? other = cache.cached? other :=
  Dict.get?_insert_of_ne _ h _

theorem cached?_invalidate_self (cache : SchemaCache) (entity : String) :
    (cache.invalidate entity).cached? entity = none :=
  Dict.get?_erase_self _ _

theorem cached?_invalidate_of_ne (h : other ≠ entity) :
    (cache.invalidate entity).cached? other = cache.cached? other :=
  Dict.get?_erase_of_ne _ h

theorem cached?_empty (entity : String) : ({} : SchemaCache).cached? entity = none := rfl

end SchemaCache

/-! ## Requests

A single request. `Answered` says all that may come of one, and `answered` that nothing else may:
its calls, its result and the state it leaves are tied to each other there, so all that is said of
runs below is a case analysis of `Answered`. -/

/-- What a schema is asked for with. -/
structure SchemaRequest where
  entity : String
  table? : Option String := none
  naming : Naming := .english

namespace SchemaRequest

/-- The table that is asked for. -/
def table (r : SchemaRequest) : String := r.table?.getD (r.naming.tableName r.entity)

/-- What comes of a request: the calls that are made for it, its result, and the state that is left.
-/
inductive Answered (r : SchemaRequest) (s : SchemaCache × σ) :
    List Call → Except Error Schema → SchemaCache × σ → Prop
  /-- A known schema is answered, and nothing happens. -/
  | known {schema : Schema} (h : s.1.cached? r.entity = some schema) : Answered r s []
      (.ok schema) s
  /-- What the driver describes is kept. -/
  | described {made : List Call} {schema : Schema} {left : σ} (h : s.1.cached? r.entity = none)
      (hdescribed : Described r.entity r.table made (.ok schema)) :
      Answered r s made (.ok schema) (s.1.insert schema, left)
  | failed {made : List Call} {e : Error} {left : σ} (h : s.1.cached? r.entity = none)
      (hdescribed : Described r.entity r.table made (.error e)) : Answered r s made
        (.error e) (s.1, left)

namespace Answered

variable {r : SchemaRequest} {s left : SchemaCache × σ} {made : List Call}
  {result : Except Error Schema} {schema : Schema}

/-- A request does not look at the driver's state beyond its answers, so its outcome stays one if
another state takes its place. -/
theorem map (f : σ → τ) (h : Answered r s made result left) :
    Answered r (s.1, f s.2) made result (left.1, f left.2) := by
  cases h with
  | known h => exact .known h
  | described h hdescribed => exact .described h hdescribed
  | failed h hdescribed => exact .failed h hdescribed

/-- Whatever comes of a request, nothing is executed for it. -/
theorem prepares (h : Answered r s made result left) : ∀ c ∈ made, c.Prepares := by
  cases h with
  | known h => simp
  | described h hdescribed => exact hdescribed.prepares
  | failed h hdescribed => exact hdescribed.prepares

theorem eq_of_known (h : Answered r s made result left) (hs : s.1.cached? r.entity = some schema) :
    made = [] ∧ result = .ok schema ∧ left = s := by
  cases h with
  | known h => exact ⟨rfl, by rw [Option.some.inj (h.symm.trans hs)], rfl⟩
  | described h hdescribed => exact absurd (h.symm.trans hs) (by simp)
  | failed h hdescribed => exact absurd (h.symm.trans hs) (by simp)

/-- The driver is asked just when nothing is known. -/
theorem ne_nil_iff (h : Answered r s made result left) :
    made ≠ [] ↔ s.1.cached? r.entity = none := by
  cases h with
  | known h => simp [h]
  | described h hdescribed => simp [h, hdescribed.ne_nil]
  | failed h hdescribed => simp [h, hdescribed.ne_nil]

theorem cached? (h : Answered r s made (.ok schema) left) :
    left.1.cached? r.entity = some schema := by
  cases h with
  | known h => exact h
  | described h hdescribed =>
    rw [← hdescribed.ok.1]
    exact SchemaCache.cached?_insert_self _ _

theorem cached?_of_ne {other : String} (h : Answered r s made result left)
    (hne : other ≠ r.entity) :
    left.1.cached? other = s.1.cached? other := by
  cases h with
  | known h => rfl
  | described h hdescribed => exact SchemaCache.cached?_insert_of_ne (hdescribed.ok.1 ▸ hne)
  | failed h hdescribed => rfl

/-- A request that fails leaves the cache as it was. -/
theorem cache_eq_of_error {e : Error} (h : Answered r s made (.error e) left) : left.1 = s.1 := by
  cases h with
  | failed h hdescribed => rfl

/-- What is answered without being known was described for this request. -/
theorem described_of_unknown (h : Answered r s made (.ok schema) left)
    (hs : s.1.cached? r.entity = none) :
    Described r.entity r.table made (.ok schema) := by
  cases h with
  | known h => exact absurd (hs.symm.trans h) (by simp)
  | described h hdescribed => exact hdescribed

end Answered

variable [Driver σ]

/-- The request as it is made to a cache and its driver. -/
def get (r : SchemaRequest) : Action (SchemaCache × σ) Schema :=
  SchemaCache.get r.entity r.table? r.naming

/-- The answer to a request. -/
def answer (r : SchemaRequest) (s : SchemaCache × σ) : Except Error Schema := (r.get.perform s).1

/-- What an event leaves. -/
def after (r : SchemaRequest) (s : SchemaCache × σ) : SchemaCache × σ := (r.get.perform s).2

/-- With a driver that is watched, the calls are at hand. What is not known is described, by
`Schema.ensures_introspect`. -/
theorem ensures_get (r : SchemaRequest) (s : SchemaCache × Watched σ) :
    r.get.Ensures s (Answered r s) := by
  obtain ⟨cache, w⟩ := s
  cases hknown : cache.cached? r.entity with
  | some schema =>
    have hget : r.get.perform (cache, w) = (.ok schema, cache, w) :=
      SchemaCache.perform_get_of_known hknown w
    refine .still (by rw [hget]) ?_
    rw [hget]
    exact .known hknown
  | none =>
    -- nothing is known, so the driver is asked, and its calls are those of a description
    obtain ⟨made, hcalls, hdescribed⟩ := Schema.ensures_introspect r.entity r.table w
    rw [Action.Ensures, get, SchemaCache.perform_get_of_unknown hknown, ← table]
    rcases hp : (Schema.introspect r.entity r.table).perform w with ⟨result, left⟩
    rw [hp] at hcalls hdescribed
    cases result with
    | ok schema => exact ⟨made, hcalls, .described hknown hdescribed⟩
    | error e => exact ⟨made, hcalls, .failed hknown hdescribed⟩

/-- Drivers that answer alike answer requests alike, with equal caches before and after. -/
theorem mirrors_get {τ : Type} [Driver τ] {f : σ → τ} (hf : Driver.Mirrored f) (r : SchemaRequest) :
    Action.Mirrors (Prod.map id f) r.get r.get := by
  -- the cache decides in the same way on both sides, since only drivers differ
  rintro ⟨cache, d⟩
  rw [Prod.map, id, get, get]
  cases hknown : cache.cached? r.entity with
  | some schema =>
    rw [SchemaCache.perform_get_of_known hknown, SchemaCache.perform_get_of_known hknown,
      Prod.map, id]
  | none =>
    rw [SchemaCache.perform_get_of_unknown hknown, SchemaCache.perform_get_of_unknown hknown,
      ← table, Schema.mirrors_introspect hf r.entity r.table d]
    rcases (Schema.introspect r.entity r.table).perform d with ⟨result, left⟩
    cases result <;> rfl

/-- What a driver is asked for a request, beginning with nothing. -/
def calls (r : SchemaRequest) (s : SchemaCache × σ) : List Call :=
  (r.after (s.1, ({ driver := s.2 } : Watched σ))).2.calls

/-- **What comes of a request**, whatever is known and whatever the driver answers. -/
theorem answered (r : SchemaRequest) (s : SchemaCache × σ) :
    Answered r s (r.calls s) (r.answer s) (r.after s) := by
  -- any driver is that of a watched one that has seen no calls yet
  obtain ⟨made, hcalls, hanswered⟩ := r.ensures_get (s.1, ({ driver := s.2 } : Watched σ))
  have hmirrors := r.mirrors_get Driver.mirrored_watched (s.1, ({ driver := s.2 } : Watched σ))
  have hcalls : r.calls s = made := hcalls
  rw [hcalls, answer, after,
    show s = Prod.map id Watched.driver (s.1, ({ driver := s.2 } : Watched σ)) from rfl, hmirrors]
  exact hanswered.map Watched.driver

end SchemaRequest

/-! ## Runs

Events of every kind that can happen to a cache, in any order. Besides requests these are the ones
that change the cache from outside, and those that change the driver. `Concerns` and `Renews` tell
which events can touch what is known for a type: a request concerns its type, but it renews nothing,
since a schema that is known stays. -/

/-- What may happen to a cache and its driver. -/
inductive SchemaEvent (σ : Type) where
  | get (r : SchemaRequest)
  | insert (schema : Schema)
  | invalidate (entity : String)
  | clear
  /-- The database changes, or ceases to answer, or answers again. -/
  | drift (f : σ → σ)

namespace SchemaEvent

/-- The events that may change what is known for a type: those about it, and the one that forgets
all. -/
def Concerns (entity : String) : SchemaEvent σ → Prop
  | .get r => r.entity = entity
  | .insert schema => schema.entity = entity
  | .invalidate e => e = entity
  | .clear => True
  | .drift _ => False

/-- The events that change what is known for a type also if there is something known. -/
def Renews (entity : String) : SchemaEvent σ → Prop
  | .get _ => False
  | event => event.Concerns entity

variable [Driver σ] {s : SchemaCache × σ} {entity : String} {schema : Schema}
    {event : SchemaEvent σ}
  {events : List (SchemaEvent σ)}

def after : SchemaEvent σ → SchemaCache × σ → SchemaCache × σ
  | .get r, s => r.after s
  | .insert schema, (cache, driver) => (cache.insert schema, driver)
  | .invalidate entity, (cache, driver) => (cache.invalidate entity, driver)
  | .clear, (_, driver) => ({}, driver)
  | .drift f, (cache, driver) => (cache, f driver)

/-- What a run leaves. -/
def afterAll (events : List (SchemaEvent σ)) (s : SchemaCache × σ) : SchemaCache × σ :=
  events.foldl (fun s event => event.after s) s

/-- An event about other types changes nothing for this one. -/
theorem cached?_after_of_not_concerns (event : SchemaEvent σ) (s : SchemaCache × σ)
    (h : ¬ event.Concerns entity) :
    (event.after s).1.cached? entity = s.1.cached? entity := by
  cases event with
  | get r => exact (r.answered s).cached?_of_ne fun heq => h heq.symm
  | insert schema => exact SchemaCache.cached?_insert_of_ne fun heq => h heq.symm
  | invalidate e => exact SchemaCache.cached?_invalidate_of_ne fun heq => h heq.symm
  | clear => exact absurd trivial h
  | drift f => rfl

/-- What is known stays so through events that do not renew it. -/
theorem cached?_after_of_not_renews (event : SchemaEvent σ) (hs : s.1.cached? entity = some schema)
    (h : ¬ event.Renews entity) :
    (event.after s).1.cached? entity = some schema := by
  cases event with
  | get r =>
    by_cases hr : r.entity = entity
    · subst hr
      obtain ⟨-, -, hleft⟩ := (r.answered s).eq_of_known hs
      rwa [after, hleft]
    · rw [cached?_after_of_not_concerns (.get r) s hr, hs]
  | insert inserted => rw [cached?_after_of_not_concerns (.insert inserted) s h, hs]
  | invalidate e => rw [cached?_after_of_not_concerns (.invalidate e) s h, hs]
  | clear => exact absurd trivial h
  | drift f => exact hs

/-- Induction on the run by `cached?_after_of_not_renews`. -/
theorem cached?_afterAll (hs : s.1.cached? entity = some schema)
    (h : ∀ event ∈ events, ¬ event.Renews entity) :
    (afterAll events s).1.cached? entity = some schema := by
  induction events generalizing s with
  | nil => exact hs
  | cons event rest ih =>
    obtain ⟨hevent, hrest⟩ := List.forall_mem_cons.mp h
    exact ih (cached?_after_of_not_renews event hs hevent) hrest

/-! ## Where schemas come from

The invariant of runs is about where each schema that is known came from. `brings_or_known` is what
one event does for it and `brought_or_known` carries it through a run. -/

/-- The event by which a schema comes to be known: it is put in, or it is answered from a state in
which nothing is known. -/
def Brings (s : SchemaCache × σ) (schema : Schema) : SchemaEvent σ → Prop
  | .get r => s.1.cached? r.entity = none ∧ r.answer s = .ok schema
  | .insert inserted => inserted = schema
  | _ => False

/-- The step: what is known after an event was brought by it, or was known before and was not
renewed. -/
theorem brings_or_known (h : (event.after s).1.cached? entity = some schema) :
    (event.Brings s schema ∧ schema.entity = entity)
      ∨ (s.1.cached? entity = some schema ∧ ¬ event.Renews entity) := by
  by_cases hconcerns : event.Concerns entity
  · cases event with
    | get r =>
      obtain rfl : r.entity = entity := hconcerns
      have hanswered := r.answered s
      have h : (r.after s).1.cached? r.entity = some schema := h
      cases hanswer : r.answer s with
      | error e =>
        rw [hanswer] at hanswered
        exact .inr ⟨hanswered.cache_eq_of_error ▸ h, id⟩
      | ok answered =>
        rw [hanswer] at hanswered
        obtain rfl := Option.some.inj (hanswered.cached?.symm.trans h)
        -- answered by the driver, or known all along
        cases hknown : s.1.cached? r.entity with
        | none => exact .inl ⟨⟨hknown, hanswer⟩, (hanswered.described_of_unknown hknown).ok.1⟩
        | some known =>
          have hafter := cached?_after_of_not_renews (.get r) hknown id
          exact .inr ⟨by rw [← h]; exact hafter.symm, id⟩
    | insert inserted =>
      obtain rfl : inserted.entity = entity := hconcerns
      obtain rfl := Option.some.inj ((SchemaCache.cached?_insert_self _ _).symm.trans h)
      exact .inl ⟨rfl, rfl⟩
    | invalidate e =>
      obtain rfl : e = entity := hconcerns
      exact absurd ((SchemaCache.cached?_invalidate_self _ _).symm.trans h) (by simp)
    | clear => exact absurd ((SchemaCache.cached?_empty _).symm.trans h) (by simp)
    | drift f => exact absurd hconcerns id
  · rw [cached?_after_of_not_concerns event s hconcerns] at h
    -- what renews a type concerns it
    refine .inr ⟨h, fun hrenews => hconcerns ?_⟩
    cases event <;> first | exact hrenews | exact absurd hrenews id

/-- A schema came to be known for its type by an event of a run, and nothing renewed it since. -/
def Brought (events : List (SchemaEvent σ)) (s : SchemaCache × σ) (schema : Schema) : Prop :=
  ∃ earlier event later, events = earlier ++ event :: later
    ∧ event.Brings (afterAll earlier s) schema
    ∧ ∀ next ∈ later, ¬ next.Renews schema.entity

/-- The run: induction on the events, where what the later ones did not bring was known behind the
first one. -/
theorem brought_or_known (h : (afterAll events s).1.cached? entity = some schema) :
    (Brought events s schema ∧ schema.entity = entity)
      ∨ (s.1.cached? entity = some schema ∧ ∀ event ∈ events, ¬ event.Renews entity) := by
  induction events generalizing s with
  | nil => exact .inr ⟨h, by simp⟩
  | cons event rest ih =>
    -- what is known at the end came with a later event, or was known behind the first one
    rcases ih h with ⟨⟨earlier, bringing, later, rfl, hbrings, hlater⟩, hentity⟩ | ⟨hknown, hrest⟩
    · exact .inl ⟨⟨event :: earlier, bringing, later, rfl, hbrings, hlater⟩, hentity⟩
    · rcases brings_or_known hknown with ⟨hbrings, rfl⟩ | ⟨hknown, hevent⟩
      · exact .inl ⟨⟨[], event, rest, rfl, hbrings, hrest⟩, rfl⟩
      · exact .inr ⟨hknown, List.forall_mem_cons.mpr ⟨hevent, hrest⟩⟩

/-- Beginning with nothing, all that is known was brought by an event of the run. -/
theorem brought_of_cached? {driver : σ}
    (h : (afterAll events ({}, driver)).1.cached? entity = some schema) :
    Brought events ({}, driver) schema ∧ schema.entity = entity := by
  rcases brought_or_known h with hbrought | ⟨hknown, -⟩
  · exact hbrought
  · exact absurd hknown (by simp [SchemaCache.cached?_empty])

/-- A schema was put in, and nothing renewed it since. -/
def Seeded (events : List (SchemaEvent σ)) (schema : Schema) : Prop :=
  ∃ earlier later, events = earlier ++ .insert schema :: later ∧ ∀ next ∈ later,
    ¬ next.Renews schema.entity

theorem Brought.keyIsFirst_or_seeded (h : Brought events s schema) :
    schema.KeyIsFirst ∨ Seeded events schema := by
  obtain ⟨earlier, event, later, rfl, hbrings, hlater⟩ := h
  cases event with
  | get r =>
    obtain ⟨hnone, hanswer⟩ := hbrings
    exact .inl ((hanswer ▸ r.answered _).described_of_unknown hnone).ok.2.2
  | insert inserted =>
    obtain rfl : inserted = schema := hbrings
    exact .inr ⟨earlier, later, rfl, hlater⟩
  | invalidate e => exact absurd hbrings id
  | clear => exact absurd hbrings id
  | drift f => exact absurd hbrings id

/-- **Schemas are memoized.** Take any run from a new cache, with any driver. The next request asks
the driver just when nothing is known for its type, and then for the tables once, and at most once
for the columns of the table that is meant (`Described`). If it fails, all that is known stays. If
it succeeds, what it answers is known from then on, is a schema of the type, has the first key
column as its key unless it was put in, and is answered to each request for the type until it is
renewed. Whatever happens next changes nothing for types that it does not concern. -/
theorem get_memoizes (events : List (SchemaEvent σ)) (driver : σ) (r : SchemaRequest) :
    let s := afterAll events ({}, driver)
    r.Answered s (r.calls s) (r.answer s) (r.after s)
    ∧ (r.calls s ≠ [] ↔ s.1.cached? r.entity = none)
    ∧ (∀ e, r.answer s = .error e → (r.after s).1 = s.1)
    ∧ (∀ schema, r.answer s = .ok schema →
        (r.after s).1.cached? r.entity = some schema ∧ schema.entity = r.entity
        ∧ (schema.KeyIsFirst ∨ Seeded events schema)
        ∧ ∀ later, (∀ event ∈ later, ¬ event.Renews r.entity) →
            ∀ again : SchemaRequest, again.entity = r.entity →
              again.answer (afterAll later (r.after s)) = .ok schema
              ∧ again.calls (afterAll later (r.after s)) = [])
    ∧ ∀ (event : SchemaEvent σ) (other : String), ¬ event.Concerns other →
        (event.after s).1.cached? other = s.1.cached? other := by
  intro s
  have hanswered := r.answered s
  refine ⟨hanswered, hanswered.ne_nil_iff, fun e he => ?_, fun schema hschema => ?_,
    fun event other h => ?_⟩
  · rw [he] at hanswered
    exact hanswered.cache_eq_of_error
  · rw [hschema] at hanswered
    have hknown := hanswered.cached?
    -- what is answered was known before, and then comes from the run, or is described for this
    -- request
    have horigin : schema.entity = r.entity ∧ (schema.KeyIsFirst ∨ Seeded events schema) := by
      cases hbefore : s.1.cached? r.entity with
      | some known =>
        obtain ⟨-, hresult, -⟩ := hanswered.eq_of_known hbefore
        obtain rfl := Except.ok.inj hresult
        obtain ⟨hbrought, hentity⟩ := brought_of_cached? hbefore
        exact ⟨hentity, hbrought.keyIsFirst_or_seeded⟩
      | none =>
        obtain ⟨hentity, -, hkey⟩ := (hanswered.described_of_unknown hbefore).ok
        exact ⟨hentity, .inl hkey⟩
    refine ⟨hknown, horigin.1, horigin.2, fun later hlater again hagain => ?_⟩
    have hstill := cached?_afterAll hknown hlater
    rw [← hagain] at hstill
    obtain ⟨hcalls, hanswer, -⟩ := (again.answered _).eq_of_known hstill
    exact ⟨hanswer, hcalls⟩
  · exact cached?_after_of_not_concerns event s h

/-- Posts, with their first column as the key. -/
def posts : Table :=
  ⟨"posts", [⟨"id", "INTEGER", false, true, none⟩, ⟨"title", "TEXT", true, false, none⟩]⟩

theorem get_memoizes_posts :
    let r : SchemaRequest := { entity := "Post", table? := some "posts" }
    let s : SchemaCache × Scripted := ({}, { tables := [posts] })
    r.answer s = .ok ⟨"Post", "posts", posts.columns, "id"⟩
    ∧ r.calls s ≠ []
    ∧ ∀ again : SchemaRequest, again.entity = "Post" →
        again.answer
          (afterAll [.get { entity := "Tag" }, .drift (Scripted.dropTable · "posts")] (r.after s))
          = .ok ⟨"Post", "posts", posts.columns, "id"⟩ := by
  intro r s
  have hanswer : r.answer s = .ok ⟨"Post", "posts", posts.columns, "id"⟩ := rfl
  obtain ⟨-, hasked, -, hanswered, -⟩ := get_memoizes [] s.2 r
  obtain ⟨-, -, -, hagain⟩ := hanswered _ hanswer
  exact ⟨hanswer, hasked.mpr rfl, fun again hentity =>
    (hagain _ (by simp [Renews, Concerns]) again hentity).1⟩

/-- A schema that is put in may have another key than the first key column. -/
theorem seeded_key_is_not_first :
    let seeded : Schema := ⟨"Post", "posts", posts.columns, "title"⟩
    let s := afterAll [.insert seeded] ({}, ({} : Scripted))
    ({ entity := "Post" } : SchemaRequest).answer s = .ok seeded ∧ ¬ seeded.KeyIsFirst := by
  refine ⟨rfl, ?_⟩
  simp [Schema.KeyIsFirst, posts]

end SchemaEvent

end EntityMapper
