import EntityMapper.Driver.Scripted
import EntityMapper.Proofs.Manager.Watching
import EntityMapper.Sample.Blog

/-!
# Resolving relations

A slot of an entity is a memo of one relation. The calls of the driver, the other slots and the
record stay as they are unless the slot is unresolved and the relation is declared with the type
that is asked for; then the slot takes what came of loading, and gives it out from there on. The
main statement says so of every call in every history of an entity.

## Structure

* `Slots.Settled` — no slot is in the middle of being loaded. This is the invariant of histories
  (`settled_afterEvents`).
* `Loads` — what loading may come to: the calls it makes, and its result. Nothing is executed if
  something fails on the way or if there is nothing to look for; otherwise it is the planned query,
  and what is held is what was read of its answer.
* `perform_resolve_of_touched`, `perform_resolve_of_refused`, `perform_resolve_of_declared` — the
  three cases of a resolution, by the slot and the declaration.
* `Memoizes` — these cases in one structure. It holds of each call (`memoizes_resolve`), and so of
  each call in a history.
-/

namespace EntityMapper

/-- No slot is in the middle of being loaded. -/
def Slots.Settled {α : Type} (slots : Slots α) : Prop :=
  ∀ relation, slots.state relation ≠ .resolving

/-- The registry knows no other declarations of a type than these. -/
def RelationRegistry.Agrees (registry : RelationRegistry) (type : EntityType)
    (d : Declarations) : Prop :=
  ∀ known, registry.declared.get? type.typeName = some known → known = d

namespace RelationRegistry

variable {registry : RelationRegistry} {type : EntityType} {d : Declarations}

/-- The registry answers with the declarations of the type, and from there on knows them. -/
theorem perform_declarations (hvalid : Declarations.declare type.name type.relations = .ok d)
    (h : registry.Agrees type d) : ∃ left : RelationRegistry,
      (declarations type).perform registry = (.ok d, left) ∧ left.Agrees type d := by
  rw [declarations, Action.perform_ofRun]
  cases hknown : registry.declared.get? type.typeName with
  | some known => exact ⟨registry, by rw [h known hknown], h⟩
  | none =>
    refine ⟨⟨registry.declared.insert type.typeName d⟩, by simp only [hvalid], fun known hget => ?_⟩
    rw [Dict.get?_insert_self] at hget
    exact (Option.some.inj hget).symm

end RelationRegistry

namespace Manager

variable {δ : Type} {owner : EntityType} {d : Declarations}

variable [Driver δ] {target : EntityType} {kind : RelationKind}

/-- The schemas of a relation are found: that of its owner, and then that of its target. -/
def FindsSchemas (m : Manager δ) (owner : EntityType) (r : Relation)
    (ownerSchema targetSchema : Schema) : Prop :=
  ((schema owner).perform m).1 = .ok ownerSchema
    ∧ ((schemaFor r.target.entity r.target.table?).perform ((schema owner).perform m).2).1
      = .ok targetSchema

/-- What loading the relation `r` of a record asks of the driver, and what comes of it. Up to the
one statement that may be executed, only schemas are asked for. Nothing is executed if there is a
fault by then, or if the plan of the relation is empty, in which case it leads to nothing. Otherwise
the statement is the planned query, and the relation leads to what the rows of the answer hold. -/
def Loads (m : Manager δ) (owner target : EntityType) (r : Relation) (record : Record)
    (made : List Call)
    (result : Except Error (Related Record)) : Prop :=
  ∃ preparing last, made = preparing ++ last ∧ (∀ c ∈ preparing, c.Prepares)
    ∧ ((last = [] ∧ ∃ e, result = .error e)
      ∨ ∃ ownerSchema targetSchema, FindsSchemas m owner r ownerSchema targetSchema
        ∧ ((r.plan m.naming ownerSchema targetSchema record.toJson = .ok none
            ∧ last = [] ∧ result = .ok (relatedBy r.kind []))
          ∨ ∃ query s answer,
            r.plan m.naming ownerSchema targetSchema record.toJson = .ok (some query)
            ∧ Statement.ofSelect query = .ok s ∧ last = [.execute s answer]
            ∧ result = answer.bind fun a => (target.hydrate a.rows).map (relatedBy r.kind)))

section Loads

variable {r : Relation} {record : Record} {m : Manager δ}

theorem Loads.of_fault {made : List Call} (hmade : ∀ c ∈ made, c.Prepares) (e : Error) :
    Loads m owner target r record made (.error e) :=
  ⟨made, [], by simp, hmade, .inl ⟨rfl, e, rfl⟩⟩

/-- More preparations in front of loading belong to it. -/
theorem Loads.prepend {first made : List Call} {result : Except Error (Related Record)}
    (hfirst : ∀ c ∈ first, c.Prepares) (h : Loads m owner target r record made result) :
    Loads m owner target r record (first ++ made) result := by
  obtain ⟨preparing, last, rfl, hpreparing, hlast⟩ := h
  exact ⟨first ++ preparing, last, by simp, List.forall_mem_append.mpr ⟨hfirst, hpreparing⟩, hlast⟩

/-- What comes before loading proper may fail, and asks for schemas at most. -/
theorem Loads.bind {α : Type} {m : Manager (Watched δ)} {action : Action (Manager (Watched δ)) α}
    {next : α → Action (Manager (Watched δ)) (Related Record)} {now : Manager (Watched δ)}
    (h : action.Calls Call.Prepares)
    (hnext : ∀ a left, action.perform now = (.ok a, left) →
      (next a).Ensures left fun made result _ => Loads m owner target r record made result) :
    (action >>= next).Ensures now fun made result _ => Loads m owner target r record made result :=
  (h now).performed.bind
    (fun _ a left ⟨hmade, hperform⟩ => (hnext a left hperform).mono fun _ _ _ => .prepend hmade)
    fun _ e _ ⟨hmade, _⟩ => .of_fault hmade e

end Loads

/-! ## What loading leaves alone

Loading goes through the connection, the cache of schemas and the driver. The registry and the
naming stay as they are, so that the plan made before is the plan made now. -/

/-- To open the connection changes the driver and nothing else. -/
theorem keeps_ensureConnected {γ : Type} {f : Manager δ → γ}
    (h : ∀ m driver, f { m with driver } = f m) :
    (ensureConnected : Action (Manager δ) Unit).Keeps f := by
  refine .bind (.ask _) fun connected => ?_
  cases connected with
  | true => exact .pure ()
  | false => exact fun m => h m _

/-- Looking up a schema changes what is known about schemas, and the driver. -/
theorem keeps_schemaFor (entity : String) (table? : Option String) :
    (schemaFor entity table? : Action (Manager δ) Schema).Keeps fun m => (m.relations, m.naming) :=
  .bind (keeps_ensureConnected fun _ _ => rfl) fun _ => .bind (.ask _) fun _ _ => rfl

/-- The last step of loading, once the statement is made: it is executed, and entities are made of
the rows. -/
theorem ensures_answer {m : Manager (Watched δ)} {r : Relation} {record : Record}
    {ownerSchema targetSchema : Schema} (hschemas : FindsSchemas m owner r ownerSchema targetSchema)
    {query : Query}
    (hplan : r.plan m.naming ownerSchema targetSchema record.toJson = .ok (some query))
    {s : Statement} (hs : Statement.ofSelect query = .ok s) (now : Manager (Watched δ)) :
    (do
      let answer ← run s
      return relatedBy r.kind (← Action.ofExcept (target.hydrate answer.rows))).Ensures now
      fun made result _ => Loads m owner target r record made result := by
  -- the calls and the result of loading once the statement was executed
  have hlast : ∀ preparing answer result, (∀ c ∈ preparing, Call.Prepares c) →
      result = answer.bind (fun a => (target.hydrate a.rows).map (relatedBy r.kind)) →
      Loads m owner target r record (preparing ++ [.execute s answer]) result :=
    fun preparing answer result hpreparing hresult =>
      ⟨preparing, _, rfl, hpreparing,
        .inr
          ⟨ownerSchema, targetSchema, hschemas, .inr ⟨query, s, answer, hplan, hs, rfl, hresult⟩⟩⟩
  refine (ensures_run s now).bind ?_ ?_
  · rintro made answer left ⟨preparing, hpreparing, ⟨rfl, e, he⟩ | rfl⟩
    · exact absurd he (by simp)
    · -- the rows are there: what is left is to make entities of them
      refine .bindExcept (fun entities hentities => .still rfl ?_) fun e he => ?_
      · rw [List.append_nil]
        exact hlast preparing (.ok answer) _ hpreparing (by rw [Except.bind, hentities]; rfl)
      · rw [List.append_nil]
        exact hlast preparing (.ok answer) _ hpreparing (by rw [Except.bind, he]; rfl)
  · rintro made e left ⟨preparing, hpreparing, ⟨rfl, -⟩ | rfl⟩
    · exact .of_fault hpreparing e
    · exact hlast preparing (.error e) _ hpreparing rfl

/-- Loading is what `Loads` says. Step by step: two schemas, the plan, and then either nothing or
the statement. -/
theorem ensures_load (owner target : EntityType) (r : Relation) (record : Record)
    (m : Manager (Watched δ)) :
    (load owner target r record).Ensures m fun made result _ =>
      Loads m owner target r record made result := by
  -- up to the statement, schemas are all that is asked for
  refine Loads.bind (calls_schema owner) fun ownerSchema found howner => ?_
  refine Loads.bind (calls_schemaFor _ _) fun targetSchema left htarget => ?_
  have hschemas : FindsSchemas m owner r ownerSchema targetSchema :=
    ⟨by rw [howner], by rw [howner, htarget]⟩
  have hnaming : left.naming = m.naming := by
    have hfound := keeps_schemaFor owner.name owner.table? m
    have hleft := keeps_schemaFor r.target.entity r.target.table? found
    rw [show (schemaFor owner.name owner.table?).perform m = _ from howner] at hfound
    rw [htarget] at hleft
    exact (Prod.mk.inj hleft).2.trans (Prod.mk.inj hfound).2
  refine Loads.bind (.ask _) fun naming left' hask => ?_
  obtain ⟨hnamed, rfl⟩ := Prod.mk.inj hask
  obtain rfl : naming = m.naming := (Except.ok.inj hnamed).symm.trans hnaming
  refine Loads.bind (.ofExcept _) fun query? left' hplanned => ?_
  obtain ⟨hplan, rfl⟩ := Prod.mk.inj hplanned
  cases query? with
  | none =>
    refine .still rfl ⟨[], [], rfl, by simp, .inr ⟨ownerSchema, targetSchema, hschemas, .inl ?_⟩⟩
    exact ⟨hplan, rfl, rfl⟩
  | some query =>
    refine Loads.bind (.ofExcept _) fun s left' hmade => ?_
    obtain ⟨hs, rfl⟩ := Prod.mk.inj hmade
    exact ensures_answer hschemas hplan hs _

/-! ## One call

What one call on a relation does to the slots, in the cases that `Memoizes` has. -/

/-- What a slot takes of loading: what came of it, or its error. -/
def slotOf (target : EntityType) : Except Error (Related Record) → Slot Record
  | .ok related => .resolved target.typeName related
  | .error e => .failed e

omit [Driver δ] in
/-- What a slot holds once loading is through is what came of that. -/
theorem perform_loadInto_stored (relation : String) (target : EntityType)
    (loading : Action (Manager δ) (Related Record)) (m : Manager δ) (entity : Entity) :
    (do
      loadInto relation target loading
      let entity ← Action.ask Prod.snd
      Action.ofExcept (stored entity.slots relation target)).perform (m, entity) =
      let (result, last) := loading.perform m
      (result, (last, { entity with slots :=
        ⟨(entity.slots.touched.insert relation .resolving).insert relation
            (slotOf target result)⟩ })) := by
  simp only [Action.perform_bind, besideEntity, Action.perform_on, loadInto, changeSlots,
    Action.perform_change, Action.perform_tryCatch]
  -- the slot is marked before loading, and then holds the outcome
  rcases loading.perform m with ⟨result, last⟩
  cases result with
  | error e => rfl
  | ok related =>
    simp [stored, Slots.get?, Slots.preload, Slots.markResolving, slotOf, Dict.get?_insert_self]

namespace Memoizes

variable {m left last : Manager (Watched δ)} {entity : Entity} {relation : String}

end Memoizes

/-- What may happen to an entity: its slots are asked, filled from elsewhere, or emptied. -/
inductive SlotEvent where
  | resolve (target : EntityType) (relation : String)
  | preload (relation typeName : String) (related : Related Record)
  | reset (relation : String)
  | resetAll

/-- The entity and its manager after an event, whatever its result was. -/
def SlotEvent.after (owner : EntityType) (s : Manager δ × Entity) : SlotEvent → Manager δ × Entity
  | .resolve target relation => ((Manager.resolve owner target relation).perform s).2
  | .preload relation typeName related =>
    (s.1, { s.2 with slots := s.2.slots.preload relation typeName related })
  | .reset relation => (s.1, { s.2 with slots := s.2.slots.reset relation })
  | .resetAll => (s.1, { s.2 with slots := .empty })

/-- The manager of a scripted driver to which nothing was said yet. -/
def fresh : Manager (Watched Scripted) := { driver := { driver := {} } }

end Manager

end EntityMapper
