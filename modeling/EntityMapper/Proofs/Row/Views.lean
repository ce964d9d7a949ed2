import EntityMapper.Row

/-!
# Views of a row

A row keeps its cells in the order in which they were pushed, and nothing keeps two of them from
having one name: a join that reads all columns answers such rows. A cell is looked up by its name,
or in the row as a document. The one finds the first cell of a name and the other the last, so the
main statement is that the two views agree on a name just if these cells look the same as documents
(`views_agree_iff`).

Dictionaries and objects are filled entry by entry as well; in both the last entry of a key counts.

## Structure

* `valuesUnder` — the values under a key, in their order.
* `lookup_stored` — what is found in a store that was filled entry by entry is the last value under
  the key. Objects and dictionaries are cases, by their laws of insertion alone.
* `get?_eq`, `get?_toJson` — the two views of a row, as the head and the last item of one list.
-/

namespace EntityMapper

/-! ## Repeated keys

Rows, objects and dictionaries are all made of entries, and they differ in which entry of a key they
find. `valuesUnder` lists all values of a key; the first or the last of this list is what
is found. -/

section Keyed

variable {α β : Type} {key other : String}

/-- The values that entries have under a key, in their order. -/
def valuesUnder (key : String) (entries : List (String × α)) : List α :=
  (entries.filter (·.1 == key)).map Prod.snd

/-- An entry of the key comes first among the values under it. -/
theorem valuesUnder_cons_self (key : String) (value : α) (entries : List (String × α)) :
    valuesUnder key ((key, value) :: entries) = value :: valuesUnder key entries := by
  simp [valuesUnder]

theorem valuesUnder_cons_of_ne (h : other ≠ key) (value : α) (entries : List (String × α)) :
    valuesUnder key ((other, value) :: entries) = valuesUnder key entries := by
  simp [valuesUnder, h]

/-- Values under a key are in the order of the entries, over lists that are put together as well. -/
theorem valuesUnder_append (key : String) (before after : List (String × α)) :
    valuesUnder key (before ++ after) = valuesUnder key before ++ valuesUnder key after := by
  simp [valuesUnder]

/-- A function on the values leaves the keys alone. -/
theorem valuesUnder_map (key : String) (f : α → β) (entries : List (String × α)) :
    valuesUnder key (entries.map fun (k, v) => (k, f v)) = (valuesUnder key entries).map f := by
  unfold valuesUnder
  rw [List.filter_map, List.map_map, List.map_map]
  rfl

/-- There is none under a key just if no entry has it. -/
theorem valuesUnder_eq_nil_iff {entries : List (String × α)} :
    valuesUnder key entries = [] ↔ key ∉ entries.map Prod.fst := by
  unfold valuesUnder
  simp only [List.map_eq_nil_iff, List.filter_eq_nil_iff, List.mem_map, beq_iff_eq,
    not_exists, not_and]

/-- Entries that are stored one after the other leave the last value under each key, whatever they
are stored in. -/
theorem lookup_stored {σ : Type} (store : σ → String → α → σ) (lookup : σ → String → Option α)
    (hself : ∀ s k v, lookup (store s k v) k = some v)
    (hother : ∀ s k v key, key ≠ k → lookup (store s k v) key = lookup s key)
    (key : String) (entries : List (String × α)) (s : σ) :
    lookup (entries.foldl (fun s (k, v) => store s k v) s) key =
      (valuesUnder key entries).getLast?.or (lookup s key) := by
  induction entries generalizing s with
  | nil => rfl
  | cons entry rest ih =>
    obtain ⟨k, v⟩ := entry
    rw [List.foldl_cons, ih]
    -- an entry of the key replaces what was stored, unless there is a later one of the key
    by_cases hkey : k = key
    · subst hkey
      rw [valuesUnder_cons_self, hself, List.getLast?_cons]
      cases (valuesUnder k rest).getLast? <;> rfl
    · rw [valuesUnder_cons_of_ne hkey, hother s k v key (Ne.symm hkey)]

theorem Json.get?_ofEntries (key : String) (entries : List (String × Json)) :
    (Json.ofEntries entries).get? key = (valuesUnder key entries).getLast? := by
  have hstored :=
    lookup_stored (fun members k v => put k v members) (fun members k => lookup k members)
    (fun members k v => lookup_put_self k v members)
      (fun members _ v _ hne => lookup_put_of_ne hne v members)
    key entries []
  exact hstored.trans (Option.or_none)

theorem Dict.get?_ofList (key : String) (entries : List (String × α)) :
    (Dict.ofList entries).get? key = (valuesUnder key entries).getLast? := by
  have hstored := lookup_stored Dict.insert Dict.get? get?_insert_self
    (fun d _ v _ hne => get?_insert_of_ne d hne v) key entries Dict.empty
  exact hstored.trans (Option.or_none)

end Keyed

namespace Row

/-! ## The two views

Both views are told by `named`, the values of all cells of one name: `get?` takes the head of this
list and the document has its last item. What the main statement says of the two views is what can
be said of the head and the last item of a list. -/

/-- The values of all cells with a name, in the order of the cells. -/
def named (row : Row) (column : String) : List Value := valuesUnder column row.cells

theorem named_eq_nil_iff {row : Row} {column : String} :
    row.named column = [] ↔ column ∉ row.columns :=
  valuesUnder_eq_nil_iff

theorem get?_eq (row : Row) (column : String) : row.get? column = (row.named column).head? := by
  unfold get? named valuesUnder
  rw [List.head?_map, List.head?_filter]

/-- In the row as a document, the last cell is found. -/
theorem get?_toJson (row : Row) (column : String) :
    row.toJson.get? column = (row.named column).getLast?.map Value.toJson := by
  unfold toJson named
  rw [Json.get?_ofEntries, valuesUnder_map, List.getLast?_map]

/-- The document has a value for each column of the row. -/
theorem isSome_get?_toJson {row : Row} {column : String} (h : column ∈ row.columns) :
    (row.toJson.get? column).isSome := by
  have hne : row.named column ≠ [] := fun hnil => named_eq_nil_iff.mp hnil h
  rw [get?_toJson, List.getLast?_eq_some_getLast hne]
  rfl

theorem get?_toJson_eq_none {row : Row} {column : String} (h : column ∉ row.columns) :
    row.toJson.get? column = none := by
  rw [get?_toJson, named_eq_nil_iff.mpr h]
  rfl

/-- The row that cells make up which are pushed one after the other. -/
def ofPushes (cells : List (String × Value)) : Row :=
  cells.foldl (fun row cell => row.push cell.1 cell.2) empty

theorem cells_ofPushes (cells : List (String × Value)) : (ofPushes cells).cells = cells := by
  -- of any row that is pushed to, so that the induction goes through
  have hpushed : ∀ row : Row,
      (cells.foldl (fun row cell => row.push cell.1 cell.2) row).cells = row.cells ++ cells := by
    induction cells with
    | nil => simp
    | cons cell rest ih =>
      intro row
      rw [List.foldl_cons, ih]
      simp [push]
  exact hpushed empty

/-- The two views agree on a column: they find the same value, or neither finds any. -/
def ViewsAgree (row : Row) (column : String) : Prop :=
  row.toJson.get? column = (row.get? column).map Value.toJson

/-- **The views of a row.** Of the cells that were pushed under a name, the name finds the first and
the document has the last, so the one finds a value just when the other does; and they agree just if
the two cells are the same as documents, which they are if the name was pushed once. -/
theorem views_agree_iff (pushes : List (String × Value)) (column : String) :
    (ofPushes pushes).get? column = (valuesUnder column pushes).head?
    ∧ (ofPushes pushes).toJson.get? column = (valuesUnder column pushes).getLast?.map Value.toJson
    ∧ ((ofPushes pushes).toJson.get? column).isSome = ((ofPushes pushes).get? column).isSome
    ∧ ((ofPushes pushes).ViewsAgree column ↔
      ∀ first last, (valuesUnder column pushes).head? = some first →
        (valuesUnder column pushes).getLast? = some last → last.toJson = first.toJson)
    ∧ ((pushes.map Prod.fst).count column ≤ 1 → (ofPushes pushes).ViewsAgree column) := by
  have hnamed : (ofPushes pushes).named column = valuesUnder column pushes := by
    rw [named, cells_ofPushes]
  -- the values under a name are counted by the entries with the name
  have hcount : (pushes.map Prod.fst).count column = (valuesUnder column pushes).length := by
    rw [valuesUnder, List.length_map, List.count, List.countP_map, List.countP_eq_length_filter]
    rfl
  unfold ViewsAgree
  rw [get?_toJson, get?_eq, hnamed, hcount]
  refine ⟨rfl, rfl, ?_⟩
  -- with no value under the name there is nothing to compare, and otherwise there is a first and a
  -- last one
  cases valuesUnder column pushes with
  | nil => simp
  | cons first rest =>
    rw [List.getLast?_cons, List.head?_cons]
    refine ⟨rfl, ?_, fun hone => ?_⟩
    · simp
    · have hrest : rest = [] :=
        List.length_eq_zero_iff.mp (Nat.le_zero.mp (Nat.le_of_succ_le_succ hone))
      rw [hrest]
      rfl

/-- A post joined with its author, and both have an `id`. -/
def joinedPost : List (String × Value) :=
  [("id", .int32 1), ("title", .text "Orphan"), ("author_id", .int32 2), ("id", .int32 2)]

/-- The title was pushed once. The two values of `id` are different, also as documents. -/
theorem views_agree_iff_joinedPost :
    (ofPushes joinedPost).ViewsAgree "title" ∧ ¬ (ofPushes joinedPost).ViewsAgree "id" := by
  refine ⟨(views_agree_iff joinedPost "title").2.2.2.2 (by decide), fun hagree => ?_⟩
  have hsame := (views_agree_iff joinedPost "id").2.2.2.1.mp hagree (.int32 1) (.int32 2) rfl rfl
  exact absurd (Json.num.inj hsame) (by decide)

/-- Of a name that was pushed twice the two views show different cells. -/
theorem views_disagree_on_joins :
    (ofPushes joinedPost).get? "id" = some (.int32 1)
    ∧ (ofPushes joinedPost).toJson.get? "id" = some (.ofInt 2)
    ∧ ¬ ∀ (pushes : List (String × Value)) (column : String) (v : Value),
      (ofPushes pushes).get? column = some v → (ofPushes pushes).toJson.get? column =
        some v.toJson := by
  refine ⟨rfl, rfl, fun h => ?_⟩
  have hsame := Option.some.inj (h joinedPost "id" (.int32 1) rfl)
  exact absurd (Json.num.inj hsame) (by decide)

end Row

end EntityMapper
