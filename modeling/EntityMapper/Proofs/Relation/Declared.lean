import EntityMapper.Proofs.Results
import EntityMapper.Proofs.Text.Trim
import EntityMapper.Relation.Declarations

/-!
# What an entity type may declare

The relations of an entity type are checked in the order in which they are declared, each by itself
first and then against the names before it. The check comes to an end at the first relation that is
at fault, so what holds of all relations before it is that they are sound and have different names.
With nothing at fault the relations are accepted as they are, and because of their names each of
them is the one that is found (`declare_unambiguous`).

## Structure

* `HasFlaw`, `FirstFlaw` — what may be wrong with a relation by itself, and which of it is reported.
* `AtFault` — what may be wrong with a relation behind others.
* `Clear` — a list with nothing wrong. It is taken apart from the front (`clear_cons_iff`), with the
  names seen so far as a parameter.
* `clear_or_exists_atFault` — each list is clear, or has a first relation at fault. The equivalences
  for success and failure follow from that, since the two exclude each other.
-/

namespace EntityMapper

namespace Relation

/-! ## Sound declarations

A relation is tested for six flaws in a fixed order, and the first one found is the one that is
reported. `HasFlaw` says what each flaw is, without regard to the others; `flaw?_eq_find?` says that
the tests are a search through `Flaw.inOrder`, from which all the rest of this section is
read off. -/

/-- What it is for a relation to have a flaw. A name is blank if nothing is left of it once it is
trimmed. -/
def HasFlaw (r : Relation) : Flaw → Prop
  | .blankName => Text.trimmed r.name = ""
  | .blankTarget => Text.trimmed r.target.entity = ""
  | .blankForeignKey => r.foreignKey?.map Text.trimmed = some ""
  | .blankJoinTable => r.joinTable?.map Text.trimmed = some ""
  | .blankAssociationKey => r.associationKey?.map Text.trimmed = some ""
  | .needlessJoinTable kind =>
    kind = r.kind ∧ r.kind ≠ .manyToMany ∧ (r.joinTable?.isSome ∨ r.associationKey?.isSome)

instance (r : Relation) : DecidablePred r.HasFlaw
  | .blankName => inferInstanceAs (Decidable (Text.trimmed r.name = ""))
  | .blankTarget => inferInstanceAs (Decidable (Text.trimmed r.target.entity = ""))
  | .blankForeignKey => inferInstanceAs (Decidable (r.foreignKey?.map Text.trimmed = some ""))
  | .blankJoinTable => inferInstanceAs (Decidable (r.joinTable?.map Text.trimmed = some ""))
  | .blankAssociationKey =>
    inferInstanceAs (Decidable (r.associationKey?.map Text.trimmed = some ""))
  | .needlessJoinTable kind =>
    inferInstanceAs (Decidable (kind = r.kind ∧ r.kind ≠ .manyToMany
      ∧ (r.joinTable?.isSome ∨ r.associationKey?.isSome)))

/-- A relation without a flaw. -/
def Sound (r : Relation) : Prop := ∀ flaw, ¬ r.HasFlaw flaw

/-- The flaws that a relation of some kind may have, in the order in which they are looked for. -/
def Flaw.inOrder (kind : RelationKind) : List Flaw :=
  [.blankName, .blankTarget, .blankForeignKey, .blankJoinTable, .blankAssociationKey,
    .needlessJoinTable kind]

variable {r : Relation} {flaw : Flaw}

/-- A name that was given and is blank, against one that was left open: `givenBlank` is `true` only
for the former. -/
theorem givenBlank_iff (name? : Option String) :
    givenBlank name? = true ↔ name?.map Text.trimmed = some "" := by
  cases name? with
  | none => simp [givenBlank]
  | some name => simp [givenBlank, Text.isBlankText_iff]

theorem needsJoinTable_eq_false_iff {kind : RelationKind} :
    kind.needsJoinTable = false ↔ kind ≠ .manyToMany := by
  cases kind <;> decide

/-- The chain of tests in `flaw?` is a search through `Flaw.inOrder`. All six tests are written in
the words of `HasFlaw` first, and then the chain is taken apart test by test. -/
theorem flaw?_eq_find? (r : Relation) :
    r.flaw? = (Flaw.inOrder r.kind).find? fun flaw => r.HasFlaw flaw := by
  simp only [flaw?, Flaw.inOrder, List.find?_cons, List.find?_nil, HasFlaw, Text.isBlankText_iff,
    givenBlank_iff, Bool.and_eq_true, Bool.or_eq_true, Bool.not_eq_true',
    needsJoinTable_eq_false_iff, true_and]
  -- one case for each flaw that may come first, and one for none
  split_ifs with h₁ h₂ h₃ h₄ h₅ h₆
  all_goals simp [*]

/-- No flaw is left out of the search: a needless join table is one of the relation's own kind. -/
theorem HasFlaw.mem_inOrder (h : r.HasFlaw flaw) : flaw ∈ Flaw.inOrder r.kind := by
  cases flaw with
  | needlessJoinTable kind =>
    obtain rfl := h.1
    simp [Flaw.inOrder]
  | _ => simp [Flaw.inOrder]

/-- Nothing is found just in a relation without a flaw. -/
theorem flaw?_eq_none_iff : r.flaw? = none ↔ r.Sound := by
  rw [flaw?_eq_find?, List.find?_eq_none]
  constructor
  · intro h flaw hflaw
    exact h flaw hflaw.mem_inOrder (decide_eq_true hflaw)
  · intro h flaw _
    exact mt of_decide_eq_true (h flaw)

/-- A flaw of the relation, with none that would have been found before it. -/
def FirstFlaw (r : Relation) (flaw : Flaw) : Prop :=
  r.HasFlaw flaw
    ∧ ∃ before after, Flaw.inOrder r.kind = before ++ flaw :: after ∧ ∀ earlier ∈ before,
      ¬ r.HasFlaw earlier

/-- What is found is the first flaw in the order of the search. -/
theorem flaw?_eq_some_iff : r.flaw? = some flaw ↔ r.FirstFlaw flaw := by
  rw [flaw?_eq_find?, List.find?_eq_some_iff_append, FirstFlaw]
  simp only [decide_eq_true_eq, Bool.not_eq_true', decide_eq_false_iff_not]

theorem validate_of_sound (h : r.Sound) (owner : String) : r.validate owner = .ok () := by
  rw [validate, flaw?_eq_none_iff.mpr h]

/-- The error of a relation names it and its owner, and tells its first flaw. -/
theorem validate_of_firstFlaw (h : r.FirstFlaw flaw) (owner : String) :
    r.validate owner =
      .error (.relation s!"Invalid relation '{r.name}' on '{owner}': {flaw.detail}") := by
  rw [validate, flaw?_eq_some_iff.mpr h]

/-- A relation is without a flaw or has a first one. All that follows goes by these two cases. -/
theorem sound_or_exists_firstFlaw (r : Relation) : r.Sound ∨ ∃ flaw, r.FirstFlaw flaw := by
  cases h : r.flaw? with
  | none => exact .inl (flaw?_eq_none_iff.mp h)
  | some flaw => exact .inr ⟨flaw, flaw?_eq_some_iff.mp h⟩

/-- A relation by itself is accepted just if it has no flaw. The owner only appears in errors. -/
theorem validate_eq_ok_iff {owner : String} : r.validate owner = .ok () ↔ r.Sound := by
  constructor
  · intro h
    rcases r.sound_or_exists_firstFlaw with hsound | ⟨flaw, hflaw⟩
    · exact hsound
    · rw [validate_of_firstFlaw hflaw] at h
      cases h
  · exact fun h => validate_of_sound h owner

end Relation

namespace Declarations

variable {entity : String} {used : List String} {r : Relation}
    {relations rest : List Relation} {e : Error}

/-! ## One relation after the other

The check carries the names that were used. Both what it accepts and what it reports depend on them,
so each statement is about relations that come behind names, and the names grow in the induction.
`Clear` is what accepted relations are, and `AtFault` is what can be wrong with a single one; a list
is clear or falls apart at its first relation at fault (`clear_or_exists_atFault`). -/

/-- What is wrong with a relation behind others, with its error: it has a flaw, or else its name was
used before. -/
inductive AtFault (entity : String) (used : List String) (r : Relation) : Error → Prop
  | flawed {flaw : Relation.Flaw} (h : r.FirstFlaw flaw) :
      AtFault entity used r (.relation s!"Invalid relation '{r.name}' on '{entity}': {flaw.detail}")
  | repeated (hsound : r.Sound) (h : r.name ∈ used) :
      AtFault entity used r (.relation s!"Relation '{r.name}' is declared twice on '{entity}'")

/-- Relations with nothing wrong, neither in themselves nor among each other nor with the names
before them. -/
structure Clear (used : List String) (relations : List Relation) : Prop where
  sound : ∀ r ∈ relations, r.Sound
  fresh : ∀ r ∈ relations, r.name ∉ used
  nodup : (relations.map Relation.name).Nodup

/-- The step of every induction over a list of declarations: the first one is sound and has a new
name, and the others are clear of that name as well. -/
theorem clear_cons_iff :
    Clear used (r :: rest) ↔ (r.Sound ∧ r.name ∉ used) ∧ Clear (r.name :: used) rest := by
  constructor
  · rintro ⟨hsound, hfresh, hnodup⟩
    rw [List.map_cons, List.nodup_cons] at hnodup
    obtain ⟨hr, hrest⟩ := List.forall_mem_cons.mp hsound
    obtain ⟨hnew, hfresh⟩ := List.forall_mem_cons.mp hfresh
    refine ⟨⟨hr, hnew⟩, hrest, fun other hother hmem => ?_, hnodup.2⟩
    -- a later relation is called like the first one, or like one before both
    rcases List.mem_cons.mp hmem with heq | hmem
    · exact hnodup.1 (heq ▸ List.mem_map_of_mem hother)
    · exact hfresh other hother hmem
  · rintro ⟨⟨hr, hnew⟩, hsound, hfresh, hnodup⟩
    refine ⟨List.forall_mem_cons.mpr ⟨hr, hsound⟩,
      List.forall_mem_cons.mpr ⟨hnew, fun other hother hmem => ?_⟩, ?_⟩
    · exact hfresh other hother (List.mem_cons_of_mem _ hmem)
    · rw [List.map_cons, List.nodup_cons]
      -- the name of the first one is among those used, so no later one may have it
      refine ⟨fun hmem => ?_, hnodup⟩
      obtain ⟨other, hother, hname⟩ := List.mem_map.mp hmem
      exact hfresh other hother (hname ▸ List.mem_cons_self)

/-- A relation at fault ends the check, whatever comes behind it. -/
theorem check_cons_of_atFault (h : AtFault entity used r e) :
    check entity used (r :: rest) = .error e := by
  rw [check]
  cases h with
  | flawed hflaw => rw [Relation.validate_of_firstFlaw hflaw]; rfl
  | repeated hsound hused => rw [Relation.validate_of_sound hsound, if_pos hused]; rfl

/-- A sound relation with a new name is passed over, and its name joins those that were used. -/
theorem check_cons_of_fresh (hsound : r.Sound) (hnew : r.name ∉ used) :
    check entity used (r :: rest) = check entity (r.name :: used) rest := by
  rw [check, Relation.validate_of_sound hsound, if_neg hnew]
  rfl

/-- Either a relation is at fault or the check goes on behind it. -/
theorem exists_atFault_or (entity : String) (used : List String) (r : Relation) :
    (∃ e, AtFault entity used r e) ∨ r.Sound ∧ r.name ∉ used := by
  rcases r.sound_or_exists_firstFlaw with hsound | ⟨flaw, hflaw⟩
  · by_cases hused : r.name ∈ used
    · exact .inl ⟨_, .repeated hsound hused⟩
    · exact .inr ⟨hsound, hused⟩
  · exact .inl ⟨_, .flawed hflaw⟩

/-- Relations with nothing wrong are passed over, and their names are remembered. -/
theorem check_append (h : Clear used relations) :
    check entity used (relations ++ rest) =
      check entity ((relations.map Relation.name).reverse ++ used) rest := by
  induction relations generalizing used with
  | nil => rfl
  | cons r more ih =>
    -- the names used so far grow by that of the first relation
    obtain ⟨⟨hsound, hnew⟩, hmore⟩ := clear_cons_iff.mp h
    rw [List.cons_append, check_cons_of_fresh hsound hnew, ih hmore, List.map_cons,
      List.reverse_cons, List.append_assoc, List.singleton_append]

/-- Relations with nothing wrong are accepted: `check_append` with nothing behind them. -/
theorem check_of_clear (h : Clear used relations) : check entity used relations = .ok () := by
  have happend : check entity used (relations ++ []) = .ok () := check_append h
  rwa [List.append_nil] at happend

/-- If there is anything wrong, then there is a relation at fault behind others with nothing wrong.
-/
theorem clear_or_exists_atFault (entity : String) (used : List String) (relations : List Relation) :
    Clear used relations ∨ ∃ before r after e, relations = before ++ r :: after ∧ Clear used before
      ∧ AtFault entity ((before.map Relation.name).reverse ++ used) r e := by
  induction relations generalizing used with
  | nil => exact .inl ⟨by simp, by simp, by simp⟩
  | cons r rest ih =>
    -- the first relation decides, or else what is behind it does
    rcases exists_atFault_or entity used r with ⟨e, hfault⟩ | hfresh
    · exact .inr ⟨[], r, rest, e, rfl, ⟨by simp, by simp, by simp⟩, hfault⟩
    rcases ih (r.name :: used) with hclear | ⟨before, r', after, e, rfl, hclear, hfault⟩
    · exact .inl (clear_cons_iff.mpr ⟨hfresh, hclear⟩)
    · refine .inr ⟨r :: before, r', after, e, rfl, clear_cons_iff.mpr ⟨hfresh, hclear⟩, ?_⟩
      rw [List.map_cons, List.reverse_cons, List.append_assoc, List.singleton_append]
      exact hfault

/-! ## The whole list

Now there are no names before the list. What the names were collected in, the reverse of the list
before, does not matter to `AtFault`. -/

/-- A relation at fault stays so among more names. Only membership counts, so the order in which the
names were collected does not. -/
theorem AtFault.mono {used' : List String} (h : AtFault entity used r e)
    (hused : ∀ name ∈ used, name ∈ used') :
    AtFault entity used' r e := by
  cases h with
  | flawed hflaw => exact .flawed hflaw
  | repeated hsound hmem => exact .repeated hsound (hused _ hmem)

/-- With no names before them, being clear is being sound and called differently. -/
theorem clear_nil_iff :
    Clear [] relations ↔ (∀ r ∈ relations, r.Sound) ∧ (relations.map Relation.name).Nodup := by
  constructor
  · rintro ⟨hsound, -, hnodup⟩
    exact ⟨hsound, hnodup⟩
  · rintro ⟨hsound, hnodup⟩
    exact ⟨hsound, fun _ _ => List.not_mem_nil, hnodup⟩

theorem declare_of_clear (h : Clear [] relations) (entity : String) :
    declare entity relations = .ok ⟨entity, relations⟩ := by
  rw [declare, check_of_clear h]
  rfl

/-- The error of a list is that of the first relation at fault in it. -/
theorem declare_of_atFault {before after : List Relation} (hbefore : Clear [] before)
    (h : AtFault entity (before.map Relation.name) r e) :
    declare entity (before ++ r :: after) = .error e := by
  have hfault : AtFault entity ((before.map Relation.name).reverse ++ []) r e :=
    h.mono fun name hname => by simpa using hname
  rw [declare, check_append hbefore, check_cons_of_atFault hfault]
  rfl

/-- The first relation at fault, if the list is not accepted. -/
theorem clear_or_exists_first (entity : String) (relations : List Relation) :
    Clear [] relations ∨ ∃ before r after e, relations = before ++ r :: after ∧ Clear [] before
      ∧ AtFault entity (before.map Relation.name) r e := by
  rcases clear_or_exists_atFault entity [] relations with
    hclear | ⟨before, r, after, e, hsplit, hbefore, hfault⟩
  · exact .inl hclear
  · exact .inr ⟨before, r, after, e, hsplit, hbefore, hfault.mono fun name hname =>
      by simpa using hname⟩

/-- What is accepted is the list as it was given. A list with something wrong is not accepted, by
`declare_of_atFault`. -/
theorem declare_eq_ok_iff {d : Declarations} :
    declare entity relations = .ok d ↔ d = ⟨entity, relations⟩ ∧ Clear [] relations := by
  constructor
  · intro h
    rcases clear_or_exists_first entity relations with
      hclear | ⟨before, r, after, e, rfl, hbefore, hfault⟩
    · rw [declare_of_clear hclear] at h
      exact ⟨(Except.ok.inj h).symm, hclear⟩
    · rw [declare_of_atFault hbefore hfault] at h
      cases h
  · rintro ⟨rfl, hclear⟩
    exact declare_of_clear hclear entity

/-- Each error has its relation. A list with nothing wrong has no error, by `declare_of_clear`. -/
theorem declare_eq_error_iff :
    declare entity relations = .error e ↔ ∃ before r after, relations = before ++ r :: after
      ∧ Clear [] before ∧ AtFault entity (before.map Relation.name) r e := by
  constructor
  · intro h
    rcases clear_or_exists_first entity relations with
      hclear | ⟨before, r, after, e', rfl, hbefore, hfault⟩
    · rw [declare_of_clear hclear] at h
      cases h
    · rw [declare_of_atFault hbefore hfault] at h
      exact ⟨before, r, after, rfl, hbefore, Except.error.inj h ▸ hfault⟩
  · rintro ⟨before, r, after, rfl, hbefore, hfault⟩
    exact declare_of_atFault hbefore hfault

/-- With different names, a relation is found under its own name: no other one is in its way. -/
theorem get?_of_mem (hnames : (relations.map Relation.name).Nodup) (h : r ∈ relations) :
    get? ⟨entity, relations⟩ r.name = some r :=
  find?_of_nodup hnames h

theorem get?_of_not_mem {d : Declarations} {name : String} (h : name ∉ d.names) :
    d.get? name = none := by
  rw [get?, List.find?_eq_none]
  intro r hr hname
  exact h (eq_of_beq hname ▸ List.mem_map_of_mem hr)

/-- **Relations are accepted just if they are sound and have different names.** Otherwise the error
is that of the first one at fault, which is either unsound, whatever its name, or sound and called
like one before it. Accepted relations keep their order, each is found under its own name, and
nothing is found under any other name. -/
theorem declare_unambiguous (entity : String) (relations : List Relation) :
    (∀ r : Relation, r.validate entity = .ok () ↔ r.Sound)
    ∧ (∀ d, declare entity relations = .ok d ↔
      d = ⟨entity, relations⟩ ∧ (∀ r ∈ relations, r.Sound) ∧ (relations.map Relation.name).Nodup)
    ∧ (∀ e, declare entity relations = .error e ↔ ∃ before r after, relations = before ++ r :: after
      ∧ (∀ earlier ∈ before, earlier.Sound) ∧ (before.map Relation.name).Nodup
      ∧ AtFault entity (before.map Relation.name) r e)
    ∧ ∀ d, declare entity relations = .ok d → d.names = relations.map Relation.name
      ∧ (∀ r ∈ relations, d.get? r.name = some r) ∧ ∀ name, name ∉ d.names →
        d.get? name = none := by
  refine ⟨fun r => Relation.validate_eq_ok_iff, fun d => ?_, fun e => ?_, fun d hd => ?_⟩
  · rw [declare_eq_ok_iff, clear_nil_iff]
  · simp only [declare_eq_error_iff, clear_nil_iff, and_assoc]
  · -- what is accepted is the list itself, so it is looked up in there
    obtain ⟨rfl, hclear⟩ := declare_eq_ok_iff.mp hd
    exact ⟨rfl, fun r hr => get?_of_mem hclear.nodup hr, fun name hname => get?_of_not_mem hname⟩

/-- A relation without a target, called like one before it, is turned down for want of the target.
-/
example :
    let tags : Relation :=
      { name := "tags", kind := .oneToMany, target := { entity := "Tag", typeName := "Tag" } }
    let untargeted : Relation := { tags with target := { entity := " ", typeName := "Tag" } }
    declare "Post" [tags, untargeted, tags] =
      .error (.relation "Invalid relation 'tags' on 'Post': target entity name is empty") :=
  rfl

end Declarations

end EntityMapper
