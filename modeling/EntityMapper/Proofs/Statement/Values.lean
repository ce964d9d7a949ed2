import EntityMapper.Proofs.Condition.Outline
import EntityMapper.Statement

/-!
# Values stay out of the text

The text of a statement is made before anyone looks at a value: two documents that differ in values
only are both no conditions, or are conditions with the same predicate, and two sets of fields that
differ in values only are written by the same statement. The main statement is `text_of_outline`.

What may differ is read off a document by its outline. Names, the order of keys and the nesting
show, and so does a text in a place where ready-made SQL is expected. Of what a field is compared
with shows whether it is null, and if it is a list, how long it is. A null in place of a condition
shows as well, as it is read as the condition that restricts nothing, where any other scalar is
refused.

## Structure

* `Json.outline` — what of a document may show.
* `Condition.shape` — what of a condition may show, if a document is read as one.
* `shape_outline` — a document and its outline have one shape. The lemmas before it go along the
  branches of reading.
* `Fields.outline` — what of fields may show.
-/

namespace EntityMapper

namespace Json

/-! ## Documents

The outline of a document is a document again. It keeps all that decides whether the document is a
condition and what its text is; values are replaced by one value for all of them. What a value is
depends on where it stands, so there is one function for a document in place of a condition and one
for what stands under a key. -/

/-- An item of a list that a field is compared with; only scalars may stand there. -/
def listedOutline : Json → Json
  | .arr _ => .arr []
  | .obj _ => .arr []
  | _ => .null

/-- Whether the value under a key is made up of conditions. -/
def opensGroup (key : String) : Bool :=
  (Connective.ofKey? key).isSome || Condition.isPosition key

mutual

/-- The outline of a document in place of a condition. -/
def outline : Json → Json
  | .null => .null
  | .bool _ => .bool true
  | .num _ => .bool true
  | .str sql => .str sql
  | .arr items => .arr (outlineItems items)
  | .obj members => .obj (outlineEntries members)

/-- The outlines of the items of a list in place of conditions. -/
def outlineItems : List Json → List Json
  | [] => []
  | item :: rest => outline item :: outlineItems rest

/-- The outlines of members, each under its key. -/
def outlineEntries : List (String × Json) → List (String × Json)
  | [] => []
  | (key, value) :: rest => (key, outlineAt key value) :: outlineEntries rest

/-- The outline of what stands under a key. -/
def outlineAt (key : String) : Json → Json
  | .arr items => .arr (if opensGroup key then outlineItems items else items.map listedOutline)
  | .obj members => .obj (if opensGroup key then outlineEntries members else [])
  | .str s =>
    if (Connective.ofKey? key).isSome then .null
    else if Condition.isPosition key then .str s
    else .bool true
  | .null => .null
  | .bool _ => if opensGroup key then .null else .bool true
  | .num _ => if opensGroup key then .null else .bool true

end

end Json

namespace Condition

open Json (outlineItems outlineEntries outlineAt opensGroup listedOutline)

/-! ## What documents are read as

A document and its outline are read as conditions of one shape. Since outlines that are equal are
read alike, documents of one outline have one shape. -/

/-- What of a condition is known before its values are, if a document is one. -/
def shape (read : Except Fault Condition) : Option Condition := read.toOption.map Condition.outline

/-- What of several conditions is known before their values are, if all documents are conditions. -/
def shapes (read : Except Fault (List Condition)) : Option (List Condition) :=
  read.toOption.map outlines

/-! ### Comparisons

Under a field stands a scalar or a list of scalars. What is read of it shows only whether it is
null, or how many items there are. -/

/-- The value of an item of a list that a field is compared with. -/
def listed (key : String) : Json → Except Fault Value
  | .arr _ => .error (.nestedList key)
  | .obj _ => .error (.nestedList key)
  | scalar => .ok (Value.ofJson scalar)

/-- A list is read item by item, each of which has to be a scalar. -/
theorem operand_arr (key : String) (items : List Json) :
    operand key (.arr items) = (items.mapM (listed key)).map .oneOf := by
  show (items.mapM (listed key) >>= fun values => pure (Operand.oneOf values)) = _
  cases items.mapM (listed key) <;> rfl

/-- With one more item there is one more mark, if both are read at all. -/
theorem counted_cons (first : Except Fault Value) (rest : Except Fault (List Value)) :
    Option.map counted (Except.toOption do return (← first) :: (← rest)) =
      first.toOption.bind fun _ => (rest.toOption.map counted).map (.null :: ·) := by
  cases first <;> cases rest <;> rfl

/-- Whether all items of a list are scalars, and how many there are, shows; the items do not. -/
theorem toOption_listed (key : String) (items : List Json) :
    ((items.map listedOutline).mapM (listed key)).toOption.map counted =
      (items.mapM (listed key)).toOption.map counted := by
  induction items with
  | nil => rfl
  | cons item rest ih =>
    rw [List.map_cons, List.mapM_cons, List.mapM_cons, counted_cons, counted_cons, ih]
    cases item <;> rfl

/-- A comparison shows its token, and what its operand shows. -/
theorem shape_comparisonOf {key : String} {a b : Json}
    (h : (operand key a).toOption.map Operand.outline =
      (operand key b).toOption.map Operand.outline) :
    shape (comparisonOf key a) = shape (comparisonOf key b) := by
  -- the token and the operand are read apart from each other
  have hshape : ∀ json : Json, shape (comparisonOf key json) =
      ((operand key json).toOption.map Operand.outline).bind fun right =>
        (FieldToken.read key).toOption.map fun t => .compare t.field t.comparison right := by
    intro json
    rw [comparisonOf]
    cases operand key json with
    | error fault => rfl
    | ok right => cases FieldToken.read key <;> rfl
  rw [hshape a, hshape b, h]

/-- A list that a field is compared with shows how long it is. -/
theorem shape_comparisonOf_arr (key : String) (items : List Json) :
    shape (comparisonOf key (.arr (items.map listedOutline))) =
      shape (comparisonOf key (.arr items)) := by
  have hmap : ∀ read : Except Fault (List Value),
    (read.map Operand.oneOf).toOption.map Operand.outline =
      (read.toOption.map counted).map .oneOf := fun read => by cases read <;> rfl
  apply shape_comparisonOf
  rw [operand_arr, operand_arr, hmap, hmap, toOption_listed]

/-- A scalar that is not null stands for any other. -/
theorem shape_comparisonOf_scalar (key : String) {a b : Json} (ha : a ≠ .null) (hb : b ≠ .null)
    (hoperandA : operand key a = .ok (.scalar (.ofJson a)))
    (hoperandB : operand key b = .ok (.scalar (.ofJson b))) :
    shape (comparisonOf key a) = shape (comparisonOf key b) := by
  have houtline : ∀ json : Json, json ≠ .null → (Value.ofJson json).outline = .bool true := by
    intro json hjson
    rw [Value.outline, Value.isNull_ofJson hjson]
    rfl
  apply shape_comparisonOf
  rw [hoperandA, hoperandB]
  show some (Operand.scalar (Value.ofJson a).outline) =
    some (Operand.scalar (Value.ofJson b).outline)
  rw [houtline a ha, houtline b hb]

/-! ### Groups

Under a connective or a position stand conditions, of which the outline is taken in turn. -/

/-- What conditions are put together to shows what they show, and how. -/
theorem shape_make {make : List Condition → Condition} (made : List Condition → Condition)
    (h : ∀ children, (make children).outline = made (outlines children))
    (read : Except Fault (List Condition)) :
    shape (do return make (← read)) = (shapes read).map made := by
  cases read with
  | error fault => rfl
  | ok children => exact congrArg some (h children)

/-- One document more, which has to be a condition as well. -/
theorem shapes_cons (first : Except Fault Condition) (rest : Except Fault (List Condition)) :
    shapes (do return (← first) :: (← rest)) =
      (shape first).bind fun c => (shapes rest).map (c :: ·) := by
  cases first <;> cases rest <;> rfl

/-- What a list or a map under a key makes up: a group of conditions, or else something that a field
is compared with. -/
def grouped (key : String) (children : Except Fault (List Condition))
    (compared : Except Fault Condition) :
    Except Fault Condition :=
  match Connective.ofKey? key with
  | some connective => do return .group connective (← children)
  | none => if isPosition key then do return .all (← children) else compared

/-- A list under a key. Whether it is a group is up to the key. -/
theorem ofEntry_arr (key : String) (items : List Json) :
    ofEntry key (.arr items) = grouped key (ofItems items) (comparisonOf key (.arr items)) := by
  cases hkey : Connective.ofKey? key <;> simp only [ofEntry, grouped, hkey]

theorem ofEntry_obj (key : String) (members : List (String × Json)) :
    ofEntry key (.obj members) = grouped key (ofEntries members)
      (comparisonOf key (.obj members)) := by
  cases hkey : Connective.ofKey? key <;> simp only [ofEntry, grouped, hkey]

/-- Two documents under one key are read alike if their conditions show the same where the key opens
a group, and if the comparisons do where it is a field. -/
theorem shape_grouped {key : String} {a b : Except Fault (List Condition)}
    {x y : Except Fault Condition} (hgroup : opensGroup key = true → shapes a = shapes b)
    (hfield : opensGroup key = false → shape x = shape y) :
    shape (grouped key a x) = shape (grouped key b y) := by
  rw [grouped, grouped]
  cases hkey : Connective.ofKey? key with
  | some connective =>
    show shape (do return .group connective (← a)) = shape (do return .group connective (← b))
    rw [shape_make (.group connective) fun _ => rfl,
      shape_make (.group connective) fun _ => rfl, hgroup (by simp [opensGroup, hkey])]
  | none =>
    cases hposition : isPosition key with
    | true =>
      show shape (do return .all (← a)) = shape (do return .all (← b))
      rw [shape_make .all fun _ => rfl, shape_make .all fun _ => rfl,
        hgroup (by simp [opensGroup, hposition])]
    | false => exact hfield (by simp [opensGroup, hkey, hposition])

theorem shape_ofScalar (key : String) {json : Json} (hnull : json ≠ .null)
    (hoperand : operand key json = .ok (.scalar (.ofJson json))) :
    shape (ofEntry key (if opensGroup key then .null else .bool true)) =
      shape (ofScalar key json) := by
  cases hkey : Connective.ofKey? key with
  | some connective => simp [opensGroup, hkey, ofEntry, ofScalar, shape, Except.toOption]
  | none =>
    -- in place of ready-made SQL a number or a flag is refused, as null is
    cases hposition : isPosition key with
    | true => simp [opensGroup, hkey, hposition, ofEntry, ofScalar, shape, Except.toOption]
    | false =>
      simp only [opensGroup, hkey, hposition, Option.isSome_none, Bool.or_false, Bool.false_eq_true,
        if_false, ofEntry, ofScalar]
      exact shape_comparisonOf_scalar key (by simp) hnull rfl hoperand

mutual

/-- Reading the outline of a document shows what reading the document shows. Induction on documents,
with a theorem for each of the functions of the outline; all the cases are in `shape_outlineAt`. -/
theorem shape_outline : ∀ json : Json, shape (ofDocument json.outline) = shape (ofDocument json)
  | .null => rfl
  | .bool _ => rfl
  | .num _ => rfl
  | .str _ => rfl
  | .arr items => by
    rw [Json.outline, ofDocument, ofDocument, shape_make .all fun _ => rfl,
      shape_make .all fun _ => rfl, shapes_outlineItems items]
  | .obj members => by
    rw [Json.outline, ofDocument, ofDocument, shape_make .all fun _ => rfl,
      shape_make .all fun _ => rfl, shapes_outlineEntries members]

theorem shapes_outlineItems : ∀ items : List Json,
    shapes (ofItems (outlineItems items)) = shapes (ofItems items)
  | [] => rfl
  | item :: rest => by
    rw [outlineItems, ofItems, ofItems, shapes_cons, shapes_cons, shape_outline item,
      shapes_outlineItems rest]

theorem shapes_outlineEntries : ∀ members : List (String × Json),
    shapes (ofEntries (outlineEntries members)) = shapes (ofEntries members)
  | [] => rfl
  | (key, value) :: rest => by
    rw [outlineEntries, ofEntries, ofEntries, shapes_cons, shapes_cons, shape_outlineAt key value,
      shapes_outlineEntries rest]

/-- What stands under a key. It is a group, ready-made SQL or something that is compared, as the key
has it. -/
theorem shape_outlineAt (key : String) : ∀ json : Json,
    shape (ofEntry key (outlineAt key json)) = shape (ofEntry key json)
  | .arr items => by
    rw [outlineAt, ofEntry_arr, ofEntry_arr]
    refine shape_grouped (fun hkey => ?_) fun hkey => ?_
    · rw [if_pos hkey, shapes_outlineItems items]
    · rw [if_neg (by simp [hkey])]
      exact shape_comparisonOf_arr key items
  | .obj members => by
    rw [outlineAt, ofEntry_obj, ofEntry_obj]
    refine shape_grouped (fun hkey => ?_) fun hkey => ?_
    · rw [if_pos hkey, shapes_outlineEntries members]
    · -- no field is compared with a map, whatever is in it
      exact shape_comparisonOf rfl
  | .str s => by
    rw [outlineAt]
    cases hkey : (Connective.ofKey? key).isSome with
    | true => simp [ofEntry, ofScalar, hkey, shape, Except.toOption]
    | false =>
      cases hposition : isPosition key with
      | true => simp
      | false =>
        simp only [ofEntry, ofScalar, hkey, hposition, Bool.false_eq_true, if_false]
        exact shape_comparisonOf_scalar key (by simp) (by simp) rfl rfl
  | .null => rfl
  | .bool b => shape_ofScalar key (by simp) rfl
  | .num n => shape_ofScalar key (by simp) rfl

end

/-- Documents of one outline are read as conditions of one outline, or neither is one. -/
theorem shape_congr {a b : Json} (h : a.outline = b.outline) :
    shape (ofDocument a) = shape (ofDocument b) := by
  rw [← shape_outline a, h, shape_outline b]

/-- The same for `ofJson`: conditions of one outline, or none on either side. -/
theorem ofJson_congr {a b : Json} (h : a.outline = b.outline) :
    (ofJson a).isOk = (ofJson b).isOk ∧
      ∀ c d, ofJson a = .ok c → ofJson b = .ok d → c.outline = d.outline := by
  have hshape := shape_congr h
  unfold ofJson
  cases ha : ofDocument a <;> cases hb : ofDocument b <;> rw [ha, hb] at hshape
  case error.error => exact ⟨rfl, fun c d hc => nomatch hc⟩
  case error.ok => exact nomatch hshape
  case ok.error => exact nomatch hshape
  -- both are conditions
  case ok.ok c d =>
    refine ⟨rfl, fun c' d' hc hd => ?_⟩
    obtain rfl := Except.ok.inj hc
    obtain rfl := Except.ok.inj hd
    exact Option.some.inj hshape

end Condition

/-! ## Fields

Fields are written entry by entry. A null is written out, so it shows which values are null. -/

namespace Fields

/-- The columns of fields, and which of them are set to null. -/
def outline (fields : Fields) : List (String × Bool) :=
  fields.entries.map fun (column, v) => (column, v.isNull)

theorem isEmpty_congr {f g : Fields} (h : f.outline = g.outline) : f.isEmpty = g.isEmpty := by
  have hempty : ∀ f : Fields, f.isEmpty = f.outline.isEmpty := fun f => by
    rw [Dict.isEmpty, outline, List.isEmpty_map]
  rw [hempty f, hempty g, h]

theorem keys_congr {f g : Fields} (h : f.outline = g.outline) : f.keys = g.keys := by
  have hkeys : ∀ f : Fields, f.keys = f.outline.map Prod.fst := fun f => by
    rw [Dict.keys, outline, List.map_map]
    rfl
  rw [hkeys f, hkeys g, h]

/-- A list that is written entry by entry shows no more of each than its column and whether it is
null. -/
theorem outline_joined_congr {f g : Fields} (h : f.outline = g.outline)
    (write : String × Value → Sql)
    (written : String × Bool → Sql) (hwrite : ∀ e, (write e).outline = written (e.1, e.2.isNull)) :
    (Sql.joined ", " (f.entries.map write)).outline =
      (Sql.joined ", " (g.entries.map write)).outline := by
  have hentries :
      ∀ f : Fields, (f.entries.map write).map Sql.outline = f.outline.map written := fun f => by
    rw [List.map_map, outline, List.map_map]
    exact List.map_congr_left fun e _ => hwrite e
  rw [Sql.outline_joined, Sql.outline_joined, hentries f, hentries g, h]

end Fields

namespace Statement

/-- The place of a written value in outline. -/
def slotOutline (isNull : Bool) : Sql := if isNull then Sql.plain "NULL" else [.slot .null]

/-- A value shows whether it is null, since then it is written out. -/
theorem outline_valueSlot (v : Value) : (valueSlot v).outline = slotOutline v.isNull := by
  rw [valueSlot, slotOutline]
  cases v.isNull <;> rfl

/-- Inserts of fields of one outline are the same but for their values. -/
theorem outline_insert (table : String) {f g : Fields} (h : f.outline = g.outline) :
    (insert table f).sql.outline = (insert table g).sql.outline := by
  have hslots := Fields.outline_joined_congr h (fun e => valueSlot e.2) (fun e => slotOutline e.2)
    fun e => outline_valueSlot e.2
  rw [sql, sql, Fields.isEmpty_congr h, Fields.keys_congr h]
  split
  · rfl
  · simp only [Sql.outline_append, Sql.outline_cons, hslots]

theorem outline_update (table : String) {f g : Fields} {c d : Condition}
    (hfields : f.outline = g.outline) (hconditions : c.outline = d.outline) :
    (update table f c).sql.outline = (update table g d).sql.outline := by
  have hslots := Fields.outline_joined_congr hfields
    (fun e => .text s!"{e.1} = " :: valueSlot e.2) (fun e => .text s!"{e.1} = " :: slotOutline e.2)
    fun e => by
      rw [Sql.outline_cons, outline_valueSlot]
      rfl
  rw [sql, sql]
  simp only [Sql.outline_append, Sql.outline_cons, hslots, Condition.outline_clause hconditions]

/-! ## Texts

The text of a statement is a function of the outline of its pieces, by `Sql.eq_of_outline`. -/

/-- **Values stay out of the text.** Two documents of one outline are both conditions or neither is,
and their predicates are one text that binds as many values. Two sets of fields of one outline, with
conditions of one outline, are written by one text. -/
theorem text_of_outline :
    (∀ a b : Json, a.outline = b.outline →
      (Condition.ofJson a).isOk = (Condition.ofJson b).isOk
      ∧ ∀ c d, Condition.ofJson a = .ok c → Condition.ofJson b = .ok d →
        c.predicate.text = d.predicate.text
        ∧ c.predicate.bindings.length = d.predicate.bindings.length)
    ∧ ∀ (table : String) (f g : Fields), f.outline = g.outline →
      (insert table f).text = (insert table g).text
      ∧ ∀ (a b : Json) (c d : Condition), a.outline = b.outline →
        Condition.ofJson a = .ok c → Condition.ofJson b = .ok d →
        (ofUpdate table f c).map text = (ofUpdate table g d).map text := by
  refine ⟨fun a b h => ?_, fun table f g hfields => ⟨?_, fun a b c d h hc hd => ?_⟩⟩
  · obtain ⟨hok, houtline⟩ := Condition.ofJson_congr h
    exact ⟨hok, fun c d hc hd =>
      Sql.eq_of_outline (Condition.outline_predicate (houtline c d hc hd))⟩
  · exact (Sql.eq_of_outline (outline_insert table hfields)).1
  · rw [ofUpdate, ofUpdate, Fields.isEmpty_congr hfields]
    split
    · rfl
    · -- both documents are conditions here
      have hconditions := (Condition.ofJson_congr h).2 c d hc hd
      exact congrArg Except.ok (Sql.eq_of_outline (outline_update table hfields hconditions)).1

/-- Searches by a title, by a list of keys and by some ready-made SQL. -/
def search (title : Json) (keys : List Json) (views : Json) : Json :=
  .obj [("title LIKE", title), ("or", .obj [("id", .arr keys), ("views >", views)]),
    ("0", .str "open = 1")]

/-- A title that is SQL itself stays a value, and a number may be of any size. -/
theorem text_of_outline_search :
    ∃ c d, Condition.ofJson (search (.str "rust%") [.ofInt 1, .ofInt 2] (.ofInt 100)) = .ok c
      ∧ Condition.ofJson (search (.str "' OR 1 = 1 --") [.str "?", .bool true]
        (.ofInt 100000000000000000000)) = .ok d
      ∧ c.predicate.text = d.predicate.text
      ∧ c.predicate.bindings.length = d.predicate.bindings.length
      ∧ (ofUpdate "posts" (.ofMembers [("title", .str "a"), ("note", .null)]) c).map text
        = (ofUpdate "posts" (.ofMembers [("title", .str "', x = '"), ("note", .null)]) d).map
          text := by
  have houtline : (search (.str "rust%") [.ofInt 1, .ofInt 2] (.ofInt 100)).outline =
      (search (.str "' OR 1 = 1 --") [.str "?", .bool true]
        (.ofInt 100000000000000000000)).outline := rfl
  refine ⟨_, _, rfl, rfl, ?_⟩
  obtain ⟨htext, hlength⟩ := (text_of_outline.1 _ _ houtline).2 _ _ rfl rfl
  exact ⟨htext, hlength, (text_of_outline.2 "posts" _ _ rfl).2 _ _ _ _ houtline rfl rfl⟩

/-- Null in place of a condition restricts nothing, while another scalar is none. So the outline
cannot pass over it. -/
theorem null_is_a_condition :
    Condition.ofJson (.obj [("and", .arr [.null])]) = .ok (.all [.group .and [.empty]])
    ∧ Condition.ofJson (.obj [("and", .arr [.ofInt 5])]) =
      .error (.condition "Expected a condition map, got '5'") := by
  constructor <;> rfl

end Statement

end EntityMapper
