import EntityMapper.Proofs.Schema.Memo

/-!
# Types of one name

A schema is kept under the short name of its entity type, and the table that is asked for is looked
at only while nothing is known. So what a request is answered was described for the first request of
that name that was answered at all; if the two ask for different tables, the answer is about the
table of the other one (`table_of_first_request`).

## Structure

* `table_of_first_request` — the event that brought a schema has to be a request, if nothing was put
  in. It was of the same name, and its table is the one that was described.
* `archive_answers_posts` — a database in which the two tables are different ones.
-/

namespace EntityMapper

/-- Names that are the same but for ASCII case are the same as the same others. -/
theorem Text.sameIgnoringAsciiCase_congr {a b : String} (h : sameIgnoringAsciiCase a b = true)
    (c : String) :
    sameIgnoringAsciiCase a c = sameIgnoringAsciiCase b c := by
  rw [sameIgnoringAsciiCase, sameIgnoringAsciiCase, beq_iff_eq.mp h]

namespace SchemaEvent

variable {σ : Type} [Driver σ]

/-- **A schema is that of the first request.** In a run without schemas that are put in, whatever
the database does meanwhile, a request that succeeds is answered the schema that was described for
the first one, with nothing renewed since. Its table is one that was asked for then, and so is one
that is asked for now just when the two requests agree in it. -/
theorem table_of_first_request (events : List (SchemaEvent σ))
    (hseeds : ∀ seeded, .insert seeded ∉ events) (driver : σ) (r : SchemaRequest) (schema : Schema)
    (hanswer : r.answer (afterAll events ({}, driver)) = .ok schema) :
    ∃ earlier first later, events ++ [.get r] = earlier ++ .get first :: later
      ∧ (∀ next ∈ later, ¬ next.Renews r.entity)
      ∧ first.entity = r.entity
      ∧ (afterAll earlier ({}, driver)).1.cached? r.entity = none
      ∧ first.answer (afterAll earlier ({}, driver)) = .ok schema
      ∧ Text.sameIgnoringAsciiCase schema.table first.table = true
      ∧ (Text.sameIgnoringAsciiCase schema.table r.table = true
          ↔ Text.sameIgnoringAsciiCase first.table r.table = true) := by
  have hknown : (r.after (afterAll events ({}, driver))).1.cached? r.entity = some schema :=
    (hanswer ▸ r.answered _).cached?
  -- the request itself is the last event of the run, and perhaps the first one of its name
  have hrun :
      afterAll (events ++ [.get r]) ({}, driver) = r.after (afterAll events ({}, driver)) := by
    rw [afterAll, List.foldl_append]
    rfl
  rw [← hrun] at hknown
  obtain ⟨⟨earlier, event, later, hsplit, hbrings, hlater⟩, hentity⟩ := brought_of_cached? hknown
  rw [hentity] at hlater
  have hmem : event ∈ events ++ [.get r] := by simp [hsplit]
  -- only requests bring a schema here, as no schema is put in
  cases event with
  | get first =>
    obtain ⟨hnone, hfirst⟩ := hbrings
    obtain ⟨hname, hsame, -⟩ := ((hfirst ▸ first.answered _).described_of_unknown hnone).ok
    have hfirstname : first.entity = r.entity := hname.symm.trans hentity
    refine ⟨earlier, first, later, hsplit, hlater, hfirstname, hfirstname ▸ hnone,
      hfirst, hsame, ?_⟩
    rw [Text.sameIgnoringAsciiCase_congr hsame]
  | insert seeded => exact absurd (by simpa using hmem) (hseeds seeded)
  | invalidate e => exact absurd hbrings id
  | clear => exact absurd hbrings id
  | drift f => exact absurd hbrings id

/-- A blog and its archive, whose posts are of one name. -/
def archive : Scripted :=
  { tables := [posts, { posts with name := "archived_posts" }] }

/-- A second request for the posts, by another spelling and with another type in between, is
answered what the first one was. -/
theorem table_of_first_request_archive :
    let events : List (SchemaEvent Scripted) :=
      [.get { entity := "Post" }, .get { entity := "Tag" }]
    let r : SchemaRequest := { entity := "Post", table? := some "POSTS" }
    (∀ seeded, .insert seeded ∉ events)
    ∧ r.answer (afterAll events ({}, archive)) = .ok ⟨"Post", "posts", posts.columns, "id"⟩
    ∧ ∃ earlier first later, events ++ [.get r] = earlier ++ .get first :: later
        ∧ Text.sameIgnoringAsciiCase "posts" first.table = true := by
  intro events r
  have hseeds : ∀ seeded, .insert seeded ∉ events := by simp [events]
  have hanswer :
    r.answer (afterAll events ({}, archive)) = .ok ⟨"Post", "posts", posts.columns, "id"⟩ := rfl
  obtain ⟨earlier, first, later, hsplit, -, -, -, -, hsame, -⟩ :=
    table_of_first_request events hseeds archive r _ hanswer
  exact ⟨hseeds, hanswer, earlier, first, later, hsplit, hsame⟩

/-- Whoever asks for the archived posts after the posts is answered the table of the posts. -/
theorem archive_answers_posts :
    let r : SchemaRequest := { entity := "Post", table? := some "archived_posts" }
    r.answer (afterAll [.get { entity := "Post" }] ({}, archive)) =
      .ok ⟨"Post", "posts", posts.columns, "id"⟩
    ∧ Text.sameIgnoringAsciiCase "posts" r.table = false
    -- although the archive has the table that is asked for
    ∧ r.answer ({}, archive) = .ok ⟨"Post", "archived_posts", posts.columns, "id"⟩ :=
  ⟨rfl, by decide, rfl⟩

end SchemaEvent

end EntityMapper
