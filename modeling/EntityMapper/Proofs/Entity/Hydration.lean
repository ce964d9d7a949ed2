import EntityMapper.Proofs.Results
import EntityMapper.Proofs.Value.Stored
import EntityMapper.Sample.Blog

/-!
# Entities through rows

The fields of an entity are written to a row and entities are read from rows, and on the way an
attribute becomes a document, a value, a document again and at last an attribute. The order of the
columns does not matter, because an attribute is read from the column of its name
(`readContent_eq_ok_iff`), and neither do the columns that are no attributes. So what was written is
read again (`hydrate_rows`), and of rows from anywhere else either all are read, or the first that
is no entity is reported.

## Structure

* `readFrom` — reading an attribute from the members of a document. Every member counts by its name
  alone, so the order does not matter (`lookup_readMembers`).
* `readContent_eq_ok_iff` — what a record holds is read from a document just if each attribute is
  read from the member of its name.
* `Attribute.read_toJson` — an attribute is read back from its document.
* `Entity.WrittenTo`, `IsRead` — the two halves, for a row: fields that were written to its columns,
  and attributes that are read from them. `isRead_of_writtenTo` ties them together.
-/

namespace EntityMapper

/-! ## Keys that occur once

Rows, dictionaries and objects are all found through by key. With no key twice, the order of the
entries is of no account. -/

section Keyed

variable {α : Type}

/-- Where keys occur once, one value is found under a key. -/
theorem valuesUnder_of_nodup {entries : List (String × α)} {key : String} {value : α}
    (hkeys : (entries.map Prod.fst).Nodup) (h : (key, value) ∈ entries) :
    valuesUnder key entries = [value] := by
  induction entries with
  | nil => cases h
  | cons entry rest ih =>
    obtain ⟨k, v⟩ := entry
    rw [List.map_cons, List.nodup_cons] at hkeys
    rcases List.mem_cons.mp h with heq | hrest
    · obtain ⟨rfl, rfl⟩ := Prod.mk.inj heq
      rw [valuesUnder_cons_self, valuesUnder_eq_nil_iff.mpr hkeys.1]
    · have hmem : key ∈ rest.map Prod.fst := List.mem_map_of_mem hrest
      have hne : k ≠ key := fun hk => hkeys.1 (hk ▸ hmem)
      rw [valuesUnder_cons_of_ne hne, ih hkeys.2 hrest]

/-- The values under a key are the same in any order of the entries, but for their own order. -/
theorem valuesUnder_perm {entries others : List (String × α)} (h : entries.Perm others)
    (key : String) :
    (valuesUnder key entries).Perm (valuesUnder key others) :=
  (h.filter _).map _

theorem Dict.nodup_keys (d : Dict α) : d.keys.Nodup := by
  refine List.pairwise_map.mpr (List.Pairwise.imp ?_ d.ascending)
  exact fun hlt heq => String.lt_irrefl _ (heq ▸ hlt)

/-- What is found in a dictionary is an entry of it. -/
theorem Dict.mem_of_get? {d : Dict α} {key : String} {value : α} (h : d.get? key = some value) :
    (key, value) ∈ d.entries := by
  obtain ⟨⟨k, v⟩, hfound, rfl⟩ := Option.map_eq_some_iff.mp h
  have hkey : k = key := by simpa using List.find?_some hfound
  exact hkey ▸ List.mem_of_find?_eq_some hfound

/-- Each member of an object with different keys is found by its key. -/
theorem Json.lookup_of_mem {members : List (String × Json)} {key : String} {json : Json}
    (hkeys : (members.map Prod.fst).Nodup) (h : (key, json) ∈ members) :
    lookup key members = some json := by
  induction members with
  | nil => cases h
  | cons member rest ih =>
    obtain ⟨k, v⟩ := member
    rw [List.map_cons, List.nodup_cons] at hkeys
    rw [lookup]
    rcases List.mem_cons.mp h with heq | hrest
    · obtain ⟨rfl, rfl⟩ := Prod.mk.inj heq
      rw [if_pos rfl]
    · have hmem : key ∈ rest.map Prod.fst := List.mem_map_of_mem hrest
      have hne : k ≠ key := fun hk => hkeys.1 (hk ▸ hmem)
      rw [if_neg hne, ih hkeys.2 hrest]

/-- An object that is put together entry by entry has different keys, since an entry under a key
that is there replaces it. -/
theorem Json.nodup_ofEntries (entries : List (String × Json)) :
    ∃ members, ofEntries entries = .obj members ∧ (members.map Prod.fst).Nodup := by
  -- whatever is there already, what is added keeps the keys different
  have hfilled : ∀ members : List (String × Json), (members.map Prod.fst).Nodup →
      ((entries.foldl (fun members entry => put entry.1 entry.2 members) members).map
          Prod.fst).Nodup := by
    induction entries with
    | nil => exact fun _ h => h
    | cons entry rest ih =>
      intro members h
      refine ih _ ?_
      rw [keys_put]
      split
      · exact h
      next hnew =>
        refine List.nodup_append.mpr ⟨h, by simp, fun key hkey other hother => ?_⟩
        rw [List.mem_singleton.mp hother]
        exact fun heq => hnew (heq ▸ hkey)
  exact ⟨_, rfl, hfilled [] List.nodup_nil⟩

end Keyed

/-! ## Reading an object

`Record.readContent` goes through the members of an object first and arranges what it found
afterwards. For objects with different keys this is the same as to read each attribute from the
member of its name (`readContent_eq_ok_iff`). -/

namespace Attribute

variable {attributes : List Attribute} {members : List (String × Json)}
    {found : List (String × Datum)}

/-- An attribute read from the member of its name, if there is one. -/
def readMember (a : Attribute) : Option Json → Except Record.Fault Datum
  | some json => a.read json
  | none => if a.isOptional then .ok .absent else .error (.missing a.name)

/-- An attribute with its name, read from an object. -/
def readFrom (json : Json) (a : Attribute) : Except Record.Fault (String × Datum) :=
  (a.readMember (json.get? a.name)).map fun datum => (a.name, datum)

/-- Members are read if those of them are which are attributes. -/
theorem readMembers_ok (h : ∀ key json a, (key, json) ∈ members →
      attributes.find? (·.name == key) = some a → ∃ datum, a.read json = .ok datum) :
    ∃ found, readMembers attributes members = .ok found := by
  induction members with
  | nil => exact ⟨[], rfl⟩
  | cons member rest ih =>
    obtain ⟨key, json⟩ := member
    obtain ⟨found, hfound⟩ := ih fun k j a hmem => h k j a (List.mem_cons_of_mem _ hmem)
    cases hfind : attributes.find? (·.name == key) with
    | none => exact ⟨found, by rw [readMembers, hfind]; exact hfound⟩
    | some a =>
      obtain ⟨datum, hread⟩ := h key json a List.mem_cons_self hfind
      exact ⟨(key, datum) :: found, by rw [readMembers, hfind]; simp only [hread, hfound]; rfl⟩

/-- What is found of an attribute is what it is read as. -/
theorem lookup_readMembers {name : String} {a : Attribute}
    (hfind : attributes.find? (·.name == name) = some a)
    (h : readMembers attributes members = .ok found) :
    (found.lookup name).map .ok = (Json.lookup name members).map a.read := by
  induction members generalizing found with
  | nil =>
    obtain rfl := Except.ok.inj h
    rfl
  | cons member rest ih =>
    obtain ⟨key, json⟩ := member
    rw [readMembers] at h
    rw [Json.lookup]
    -- a member under a key that is no attribute is passed over
    cases hkey : attributes.find? (·.name == key) with
    | none =>
      have hne : key ≠ name := fun he => by rw [he, hfind] at hkey; cases hkey
      rw [hkey] at h
      rw [if_neg hne, ih h]
    | some b =>
      rw [hkey] at h
      cases hread : b.read json with
      | error fault => simp only [hread] at h; cases h
      | ok datum =>
        cases hrest : readMembers attributes rest with
        | error fault => simp only [hread, hrest] at h; cases h
        | ok more =>
          simp only [hread, hrest] at h
          obtain rfl : (key, datum) :: more = found := Except.ok.inj h
          by_cases heq : key = name
          · subst heq
            obtain rfl : b = a := Option.some.inj (hkey.symm.trans hfind)
            rw [List.lookup_cons_self, if_pos rfl, Option.map_some, Option.map_some, hread]
          · rw [List.lookup_cons, beq_false_of_ne (Ne.symm heq), if_neg heq]
            exact ih hrest

/-- To arrange what was found is to read the attributes one by one. Induction on the attributes. -/
theorem arrange_eq (h : ∀ a ∈ attributes, (found.lookup a.name).map .ok =
      (Json.lookup a.name members).map a.read) :
    arrange found attributes = attributes.mapM (readFrom (.obj members)) := by
  induction attributes with
  | nil => rfl
  | cons a rest ih =>
    have ha := h a List.mem_cons_self
    rw [arrange, List.mapM_cons, ih fun b hb => h b (List.mem_cons_of_mem _ hb),
      readFrom, Json.get?]
    cases hfound : found.lookup a.name with
    -- nothing was found just because there is no member of the name
    | none =>
      rw [hfound] at ha
      rw [Option.map_eq_none_iff.mp ha.symm, readMember]
      cases a.isOptional
      · simp [bind, Except.bind, Except.map]
      · simp [bind, Except.bind, Except.map]
    | some datum =>
      rw [hfound] at ha
      obtain ⟨json, hmember, hread⟩ := Option.map_eq_some_iff.mp ha.symm
      rw [hmember, readMember, hread]
      rfl

end Attribute

/-- An object is read attribute by attribute, each from the member of its name. -/
theorem Record.readContent_eq_ok_iff {attributes : List Attribute} {members : List (String × Json)}
    (hnames : (attributes.map (·.name)).Nodup) (hkeys : (members.map Prod.fst).Nodup)
    (entity : String) (content : Content) :
    readContent entity (.attributes attributes) (.obj members) = .ok content ↔
      ∃ data, content = .attributes data
        ∧ List.Forall₂ (fun a datum => a.readFrom (.obj members) = .ok datum) attributes data := by
  -- once the members are read, the attributes decide
  have hcontent : ∀ found, Attribute.readMembers attributes members = .ok found →
      readContent entity (.attributes attributes) (.obj members) =
        (attributes.mapM (Attribute.readFrom (.obj members))).map .attributes := by
    intro found hfound
    have harrange := Attribute.arrange_eq fun a ha =>
      Attribute.lookup_readMembers (find?_of_nodup hnames ha) hfound
    rw [readContent, hfound, ← harrange]
    show (Attribute.arrange found attributes >>= _) = _
    cases Attribute.arrange found attributes <;> rfl
  simp only [← mapM_eq_ok_iff]
  constructor
  · intro h
    cases hfound : Attribute.readMembers attributes members with
    | error fault => rw [readContent, hfound] at h; cases h
    | ok found =>
      rw [hcontent found hfound] at h
      cases hdata : attributes.mapM (Attribute.readFrom (.obj members)) with
      | error fault => rw [hdata] at h; cases h
      | ok data =>
        rw [hdata] at h
        exact ⟨data, (Except.ok.inj h).symm, rfl⟩
  · rintro ⟨data, rfl, hdata⟩
    -- each attribute is read from the first member of its name, and each member is the only one of
    -- its name
    have hmembers : ∃ found, Attribute.readMembers attributes members = .ok found := by
      refine Attribute.readMembers_ok fun key json a hmember hfind => ?_
      have hname : a.name = key := by simpa using List.find?_some hfind
      obtain ⟨datum, hread⟩ := result_of_mapM_eq_ok hdata (List.mem_of_find?_eq_some hfind)
      rw [Attribute.readFrom, Json.get?, hname, Json.lookup_of_mem hkeys hmember,
        Attribute.readMember] at hread
      cases hjson : a.read json with
      | error fault => rw [hjson] at hread; cases hread
      | ok datum => exact ⟨datum, rfl⟩
    obtain ⟨found, hfound⟩ := hmembers
    rw [hcontent found hfound, hdata]
    rfl

/-! ## Writing and reading an attribute

The way of a single datum. It is shown as a document, stored as a value, shown again and read. -/

/-- A datum that an attribute may hold, and that a document can show. -/
def Attribute.Holds (a : Attribute) : Datum → Prop
  | .absent => a.isOptional = true
  | .integer _ => a.primitive = .integer
  | .real x => a.primitive = .real ∧ x.isFinite = true
  | .boolean _ => a.primitive = .boolean
  | .text _ => a.primitive = .text

/-- A datum comes back of the document that shows it. An integer is within bounds, and a real number
that is finite has a form; the rest is read as it is written. -/
theorem Attribute.read_toJson {a : Attribute} {d : Datum} (h : a.Holds d) :
    a.read d.toJson = .ok d := by
  cases d with
  | absent => exact if_pos h
  | integer n =>
    show a.primitive.read (.ofInt n.toInt) = _
    rw [show a.primitive = .integer from h, Json.ofInt, Primitive.read, if_pos, Int64.ofInt_toInt]
    rw [Bool.and_eq_true, decide_eq_true_iff, decide_eq_true_iff]
    exact ⟨n.minValue_le_toInt, n.toInt_le⟩
  -- a real attribute holds finite numbers only, and those are written as they are
  | real x =>
    rw [Datum.toJson, if_pos h.2]
    show a.primitive.read (.num (.real x)) = _
    rw [h.1, Primitive.read]
  | boolean b =>
    show a.primitive.read (.bool b) = _
    rw [show a.primitive = .boolean from h, Primitive.read]
  | text t =>
    show a.primitive.read (.str t) = _
    rw [show a.primitive = .text from h, Primitive.read]

/-- No document of a datum loses anything when it is stored as a value: integers have 64 bits, and
no other number is written. -/
theorem Datum.isHeld_toJson (d : Datum) : d.toJson.isHeld = true := by
  cases d with
  | integer n =>
    show (decide (-2 ^ 63 ≤ n.toInt) && decide (n.toInt < 2 ^ 63)) = true
    rw [Bool.and_eq_true, decide_eq_true_iff, decide_eq_true_iff]
    exact ⟨n.le_toInt, n.toInt_lt⟩
  | real x =>
    rw [toJson]
    split
    next hfinite => exact hfinite
    · rfl
  | _ => rfl

/-! ## Writing and reading an entity

The way of a whole entity. `WrittenTo` says which rows have its fields, `IsInstance` what an entity
of a type is, and `IsRead` what is read from a row. -/

/-- A row with the fields of an entity, in any order, and with any further columns of other names.
-/
def Entity.WrittenTo (e : Entity) (row : Row) : Prop :=
  ∃ fields others, e.record.fields = .ok fields ∧ row.cells.Perm (fields.entries ++ others)
    ∧ ∀ other ∈ others, other.1 ∉ fields.keys

namespace EntityType

/-- An instance of a type: it has all attributes of the type in their order, each with a datum that
it may hold. -/
structure IsInstance (type : EntityType) (attributes : List Attribute) (e : Entity) : Prop where
  entity : e.record.entity = type.name
  content : ∃ data, e.record.content = .attributes data
    ∧ List.Forall₂ (fun a datum => datum.1 = a.name ∧ a.Holds datum.2) attributes data

/-- An entity that has just been read from a row: each attribute was read from the column of its
name, and nothing is known of the relations. -/
structure IsRead (type : EntityType) (attributes : List Attribute) (row : Row)
    (e : Entity) : Prop where
  entity : e.record.entity = type.name
  content : ∃ data, e.record.content = .attributes data
    ∧ List.Forall₂ (fun a datum => a.readFrom row.toJson = .ok datum) attributes data
  slots : e.slots = .empty

section Reading

variable {type : EntityType} {attributes : List Attribute} {row : Row} {e : Entity}

/-- The fields of an instance can be written, since it is an object. -/
theorem IsInstance.fields (h : type.IsInstance attributes e) :
    ∃ fields, e.record.fields = .ok fields := by
  obtain ⟨data, hdata, -⟩ := h.content
  exact ⟨_, by rw [Record.fields, Record.toJson, hdata]⟩

/-- To read an entity from a row is to read each attribute of its type. -/
theorem ofRow_eq_ok_iff (hshape : type.shape = .attributes attributes)
    (hnames : (attributes.map (·.name)).Nodup) :
    type.ofRow row = .ok e ↔ type.IsRead attributes row e := by
  -- the row is an object with different keys, whatever columns it has
  obtain ⟨members, hrow, hkeys⟩ : ∃ members, row.toJson = .obj members
      ∧ (members.map Prod.fst).Nodup :=
    Json.nodup_ofEntries _
  have hcontent := Record.readContent_eq_ok_iff hnames hkeys type.name
  rw [← hrow] at hcontent
  rw [ofRow, Record.read, hshape]
  constructor
  · intro h
    cases hread : Record.readContent type.name (.attributes attributes) row.toJson with
    | error fault => rw [hread] at h; cases h
    | ok content =>
      rw [hread] at h
      obtain rfl := Except.ok.inj h
      exact ⟨rfl, (hcontent content).mp hread, rfl⟩
  · rintro ⟨hentity, hdata, hslots⟩
    rw [(hcontent e.record.content).mpr hdata, ← hentity]
    show Except.ok { record := e.record, slots := .empty } = Except.ok e
    rw [← hslots]

/-- A row to which an entity was written shows each of its attributes as the entity does. -/
theorem get?_toJson_of_writtenTo {data : List (String × Datum)} {name : String} {d : Datum}
    (hdata : e.record.content = .attributes data) (hnames : (data.map Prod.fst).Nodup)
    (h : (name, d) ∈ data)
    (hwritten : e.WrittenTo row) : row.toJson.get? name = some d.toJson := by
  obtain ⟨fields, others, hfields, hcells, hothers⟩ := hwritten
  have hget : fields.get? name = some (Value.ofJson d.toJson) := by
    rw [Record.fields, Record.toJson, hdata] at hfields
    obtain rfl := Except.ok.inj hfields
    rw [Fields.get?_ofMembers, Json.get?_ofEntries, valuesUnder_map, valuesUnder_of_nodup hnames h]
    rfl
  -- neither the order of the columns nor the further ones bring another value of this name
  have hunder : valuesUnder name (fields.entries ++ others) = [Value.ofJson d.toJson] := by
    have hentry := Dict.mem_of_get? hget
    have hother : name ∉ others.map Prod.fst := by
      intro hmem
      obtain ⟨other, hother, hname⟩ := List.mem_map.mp hmem
      have hkey : name ∈ fields.keys := List.mem_map_of_mem hentry
      exact hothers other hother (hname ▸ hkey)
    rw [valuesUnder_append, valuesUnder_of_nodup fields.nodup_keys hentry,
      valuesUnder_eq_nil_iff.mpr hother]
    rfl
  have hnamed : row.named name = [Value.ofJson d.toJson] :=
    List.perm_singleton.mp (hunder ▸ valuesUnder_perm hcells name)
  rw [Row.get?_toJson, hnamed, List.getLast?_singleton, Option.map_some,
    (Value.toJson_ofJson_iff _).mpr d.isHeld_toJson]

/-- So what was written is what is read, attribute by attribute. -/
theorem isRead_of_writtenTo (hnames : (attributes.map (·.name)).Nodup)
    (h : type.IsInstance attributes e)
    (hwritten : e.WrittenTo row) : type.IsRead attributes row { e with slots := .empty } := by
  obtain ⟨data, hdata, hheld⟩ := h.content
  have hkeys : data.map Prod.fst = attributes.map (·.name) := by
    rw [← List.forall₂_eq_eq_eq, List.forall₂_map_left_iff, List.forall₂_map_right_iff]
    exact hheld.flip.imp fun _ _ hboth => hboth.1
  refine ⟨h.entity, ⟨data, hdata, ?_⟩, rfl⟩
  have hshown : ∀ datum ∈ data, row.toJson.get? datum.1 = some datum.2.toJson := fun datum hdatum =>
    get?_toJson_of_writtenTo hdata (hkeys ▸ hnames) hdatum hwritten
  refine ((List.forall₂_and_left _ _).mpr ⟨hshown, hheld.flip⟩).flip.imp ?_
  rintro a ⟨name, d⟩ ⟨hget, rfl, hholds⟩
  rw [Attribute.readFrom, hget, Attribute.readMember, Attribute.read_toJson hholds]
  rfl

/-- **Entities through rows.** The fields of an instance can be written, and rows to which instances
were written are read as the same instances in the same order, with nothing known of their
relations. Of any rows, either each is read as an entity, or the first which is none is reported,
with what is wrong with it. -/
theorem hydrate_rows (hshape : type.shape = .attributes attributes)
    (hnames : (attributes.map (·.name)).Nodup) :
    (∀ e, type.IsInstance attributes e → ∃ fields, e.record.fields = .ok fields)
    ∧ (∀ entities rows, (∀ e ∈ entities, type.IsInstance attributes e) →
      List.Forall₂ Entity.WrittenTo entities rows →
      ∃ read, type.hydrate rows = .ok read ∧ read.map Entity.record = entities.map Entity.record
        ∧ ∀ e ∈ read, ∀ relation, e.slots.state relation = .unresolved)
    ∧ ∀ rows,
      (∃ read, type.hydrate rows = .ok read ∧ List.Forall₂ (type.IsRead attributes) rows read)
      ∨ ∃ before row after fault, rows = before ++ row :: after
        ∧ (∀ earlier ∈ before, ∃ e, type.IsRead attributes earlier e)
        ∧ Record.read type.name type.shape row.toJson = .error fault
        ∧ type.hydrate rows = .error
          (.hydration s!"Cannot hydrate {type.name}: {fault.message}") := by
  refine ⟨fun e h => h.fields, fun entities rows hinstances hwritten => ?_, fun rows => ?_⟩
  · refine ⟨entities.map fun e => { e with slots := .empty }, mapM_eq_ok_iff.mpr ?_, ?_, ?_⟩
    · rw [List.forall₂_map_right_iff]
      refine ((List.forall₂_and_left _ _).mpr ⟨hinstances, hwritten⟩).flip.imp fun row e h => ?_
      exact (ofRow_eq_ok_iff hshape hnames).mpr (isRead_of_writtenTo hnames h.1 h.2)
    · rw [List.map_map]
      rfl
    · intro e he relation
      obtain ⟨_, -, rfl⟩ := List.mem_map.mp he
      rfl
  · cases hrows : type.hydrate rows with
    | ok read =>
      exact .inl
        ⟨read, rfl, (mapM_eq_ok_iff.mp hrows).imp fun row e => (ofRow_eq_ok_iff hshape hnames).mp⟩
    | error reported =>
      -- the first row that is no entity is the one whose fault is reported
      obtain ⟨before, row, after, rfl, hbefore, hrow⟩ := first_of_mapM_eq_error hrows
      rw [ofRow] at hrow
      split at hrow
      · cases hrow
      next fault hfault =>
        obtain rfl := Except.error.inj hrow
        refine .inr ⟨before, row, after, fault, rfl, fun earlier hearlier => ?_, hfault, rfl⟩
        obtain ⟨e, he⟩ := hbefore earlier hearlier
        exact ⟨e, (ofRow_eq_ok_iff hshape hnames).mp he⟩

end Reading

/-- Two posts at the ends of the range of identifiers; the first has no author. -/
def farPosts : List Entity :=
  [{ record := ⟨"Post", .attributes
      [("id", .integer Int64.minValue), ("author_id", .absent), ("title", .text "First")]⟩ },
   { record := ⟨"Post", .attributes
      [("id", .integer Int64.maxValue), ("author_id", .integer 2147483648), ("title", .text "")]⟩ }]

/-- Rows with the columns of these posts in reverse, and with the votes for the first. -/
def farPostRows : List Row :=
  [⟨List.reverse [("author_id", .null), ("id", .int64 Int64.minValue), ("title", .text "First"),
      ("votes", .int32 3)]⟩,
   ⟨List.reverse [("author_id", .int64 2147483648), ("id", .int64 Int64.maxValue),
     ("title", .text "")]⟩]

/-- Identifiers of 64 bits, a missing author and columns in another order. -/
theorem hydrate_rows_farPosts :
    ∃ read, (Blog.post "blog::").hydrate farPostRows = .ok read
      ∧ read.map Entity.record = farPosts.map Entity.record
      ∧ ∀ e ∈ read, ∀ relation, e.slots.state relation = .unresolved := by
  refine (@hydrate_rows (Blog.post "blog::") _ rfl (by decide)).2.1 farPosts farPostRows ?_ ?_
  · intro e he
    rcases List.mem_pair.mp he with rfl | rfl
    · exact ⟨rfl, _, rfl, .cons ⟨rfl, rfl⟩ (.cons ⟨rfl, rfl⟩ (.cons ⟨rfl, rfl⟩ .nil))⟩
    · exact ⟨rfl, _, rfl, .cons ⟨rfl, rfl⟩ (.cons ⟨rfl, rfl⟩ (.cons ⟨rfl, rfl⟩ .nil))⟩
  · have hfirst :
      ∀ other ∈ [("votes", Value.int32 3)], other.1 ∉ ["author_id", "id", "title"] := by decide
    have hlast : ∀ other ∈ ([] : List (String × Value)),
      other.1 ∉ ["author_id", "id", "title"] := nofun
    exact .cons ⟨_, _, rfl, List.reverse_perm _, hfirst⟩
      (.cons ⟨_, _, rfl, List.reverse_perm _, hlast⟩ .nil)

end EntityType

end EntityMapper
