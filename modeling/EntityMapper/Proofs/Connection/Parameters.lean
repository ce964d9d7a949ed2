import EntityMapper.Connection.Address
import EntityMapper.Proofs.Url.Form

/-!
# Options by way of a query

The options of a connection are the form in the query of its URL. Read back they are the same
options, since a dictionary is determined by its entries in their order; only the names under which
a URL gives the schema and the encoding are taken for these.

## Structure

* `ofList_entries` — a dictionary is made up of its own entries.
* `liftedNames` — the names of a query that are not options.
* `foldl_addParameter_entries` — options that are added one after the other make up the options that
  were written, unless one of them has such a name.
* `formPairs_optionQuery?` — the query of the URL has just these options.
-/

namespace EntityMapper

namespace Dict

variable {α : Type}

/-- A key that comes behind all others is put at the end. -/
theorem insertEntry_of_forall_lt {key : String} {value : α} {entries : List (String × α)}
    (h : ∀ e ∈ entries, e.1 < key) : insertEntry key value entries = entries ++ [(key, value)] := by
  induction entries with
  | nil => rfl
  | cons entry rest ih =>
    obtain ⟨k, v⟩ := entry
    obtain ⟨hk, hrest⟩ := List.forall_mem_cons.mp h
    -- the key is neither in front of the first one nor equal to it
    have hge : ¬ key < k := fun hlt => String.lt_irrefl k (String.lt_trans hk hlt)
    have hne : key ≠ k := fun heq => String.lt_irrefl k (heq ▸ hk)
    rw [insertEntry, if_neg hge, if_neg hne, ih hrest, List.cons_append]

/-- Entries that come in the order of their keys are put behind each other. -/
theorem entries_foldl_insert {entries : List (String × α)} (d : Dict α)
    (h : Ascending (d.entries ++ entries)) :
    (entries.foldl (fun d (key, value) => d.insert key value) d).entries =
      d.entries ++ entries := by
  induction entries generalizing d with
  | nil => exact (List.append_nil _).symm
  | cons entry rest ih =>
    obtain ⟨key, value⟩ := entry
    -- whatever is in the dictionary already comes before the next key
    have hlt : ∀ e ∈ d.entries, e.1 < key := by
      intro e he
      exact (List.pairwise_append.mp h).2.2 e he (key, value) List.mem_cons_self
    have hinsert : (d.insert key value).entries = d.entries ++ [(key, value)] :=
      insertEntry_of_forall_lt hlt
    have happend : d.entries ++ (key, value) :: rest = (d.insert key value).entries ++ rest := by
      rw [hinsert, List.append_assoc, List.singleton_append]
    rw [List.foldl_cons, ih _ (happend ▸ h), happend]

/-- **A dictionary is made up of its entries.** -/
theorem ofList_entries (d : Dict α) : ofList d.entries = d := by
  have hentries : (ofList d.entries).entries = d.entries := entries_foldl_insert empty d.ascending
  generalize ofList d.entries = read at hentries
  obtain ⟨entries, _⟩ := read
  obtain ⟨_, _⟩ := d
  dsimp only at hentries
  subst hentries
  rfl

end Dict

theorem Backend.ofName_name (b : Backend) : ofName b.name = .ok b := by
  have hlower : Text.lowercase b.name = b.name := by cases b <;> decide
  rw [ofName, hlower]
  cases b <;> rfl

namespace Connection

/-- The names of parameters that do not stand for an option. -/
def liftedNames : List String := ["search_path", "schema", "encoding", "client_encoding"]

/-- A parameter with any other name becomes an option. -/
theorem addParameter_of_not_mem {name : String} (h : name ∉ liftedNames) (c : Connection)
    (value : String) :
    c.addParameter name value = { c with options := c.options.insert name value } := by
  simp only [liftedNames, List.mem_cons, List.not_mem_nil, or_false, not_or] at h
  rw [addParameter, if_neg (by simp [h]), if_neg (by simp [h])]

/-- Parameters with such names only add to the options, one after the other. -/
theorem foldl_addParameter {pairs : List (String × String)}
    (h : ∀ pair ∈ pairs, pair.1 ∉ liftedNames) (c : Connection) :
    pairs.foldl (fun c (name, value) => c.addParameter name value) c =
      { c with options := pairs.foldl (fun d (name, value) => d.insert name value) c.options } := by
  induction pairs generalizing c with
  | nil => rfl
  | cons pair rest ih =>
    obtain ⟨name, value⟩ := pair
    obtain ⟨hpair, hrest⟩ := List.forall_mem_cons.mp h
    show rest.foldl _ (c.addParameter name value) = _
    rw [addParameter_of_not_mem hpair, ih hrest]
    rfl

/-- No parameter is about the driver or the database. -/
theorem foldl_addParameter_beside (pairs : List (String × String)) (c : Connection)
    (driver database : String) :
    pairs.foldl (fun c (name, value) => c.addParameter name value) { c with driver, database } =
      { pairs.foldl (fun c (name, value) => c.addParameter name value)
          c with driver, database } := by
  induction pairs generalizing c with
  | nil => rfl
  | cons pair rest ih =>
    obtain ⟨name, value⟩ := pair
    -- a parameter sets the schema, the encoding or an option, and nothing else
    have hadd : ({ c with driver, database } : Connection).addParameter name value =
        { c.addParameter name value with driver, database } := by
      unfold addParameter
      split
      next => rfl
      next => split <;> rfl
    show rest.foldl _ (({ c with driver, database } : Connection).addParameter name value) = _
    rw [hadd, ih]
    rfl

theorem database_foldl_addParameter (pairs : List (String × String)) (c : Connection) :
    (pairs.foldl (fun c (name, value) => c.addParameter name value) c).database = c.database := by
  have hbeside := congrArg database (foldl_addParameter_beside pairs c c.driver c.database)
  exact hbeside

theorem driver_foldl_addParameter (pairs : List (String × String)) (c : Connection) :
    (pairs.foldl (fun c (name, value) => c.addParameter name value) c).driver = c.driver := by
  have hbeside := congrArg driver (foldl_addParameter_beside pairs c c.driver c.database)
  exact hbeside

/-- **Parameters that are options make up the options.** -/
theorem foldl_addParameter_entries {options : Dict String}
    (h : ∀ name ∈ options.keys, name ∉ liftedNames)
    {c : Connection} (hc : c.options = .empty) :
    options.entries.foldl (fun c (name, value) => c.addParameter name value) c =
      { c with options } := by
  have hnames : ∀ pair ∈ options.entries, pair.1 ∉ liftedNames :=
    fun pair hpair => h _ (List.mem_map_of_mem hpair)
  rw [foldl_addParameter hnames, hc]
  exact congrArg (fun options => { c with options }) options.ofList_entries

/-- The options as the query of a URL; without options there is none. -/
def optionQuery? (options : Dict String) : Option String :=
  if options.isEmpty then none else some (String.ofList (Url.formOf options.entries))

/-- A form has no character that a query would have to encode. -/
theorem optionQuery?_kept {options : Dict String} :
    ∀ query ∈ optionQuery? options, ∀ c ∈ query.toList, Url.isQueryEncoded c = false := by
  intro query hquery c hc
  rw [optionQuery?] at hquery
  split at hquery
  next => cases hquery
  next =>
    obtain rfl := Option.some.inj hquery
    rw [String.toList_ofList] at hc
    exact Url.isQueryEncoded_of_mem_formOf hc

/-- What is read from the query are the entries that were written (`formPairs_formOf`); no query is
read as no entries. -/
theorem formPairs_optionQuery? (options : Dict String) :
    Url.formPairs ((optionQuery? options).getD "").toList = options.entries := by
  rw [optionQuery?]
  cases hempty : options.isEmpty with
  | true =>
    have hnone : options.entries = [] := List.isEmpty_iff.mp hempty
    rw [hnone]
    rfl
  | false =>
    rw [if_neg Bool.false_ne_true, Option.getD_some, String.toList_ofList, Url.formPairs_formOf]

/-- What a text stands for that can be read as a URL: the settings of its backend, with its
parameters. -/
theorem ofUrl_of_read {text : String} {url : Url} (hread : Url.read text = .ok url) {b : Backend}
    (hbackend : Backend.ofName url.scheme = .ok b) :
    ofUrl text =
      (match b with
        | .sqlite => ofFileUrl url text
        | .postgres => ofServerUrl url).map
        fun c => url.queryPairs.foldl (fun c (name, value) => c.addParameter name value) c := by
  rw [ofUrl, hread]
  show (Backend.ofName url.scheme >>= _) = _
  rw [hbackend]
  -- a fault of the settings comes before the parameters, which have none
  cases b with
  | sqlite =>
    show (ofFileUrl url text >>= _) = _
    cases ofFileUrl url text <;> rfl
  | postgres =>
    show (ofServerUrl url >>= _) = _
    cases ofServerUrl url <;> rfl

/-- The connection that a URL of a file stands for. -/
theorem ofUrl_file {text : String} {url : Url} (hread : Url.read text = .ok url)
    (hbackend : Backend.ofName url.scheme = .ok .sqlite) {path : List Char}
    (hpath : filePath url.scheme.length text.toList = path) :
    ofUrl text =
      if path.isEmpty then .error (.configuration "Missing database path in SQLite URL")
      else .ok (url.queryPairs.foldl (fun c (name, value) => c.addParameter name value)
        (sqlite (String.ofList path))) := by
  rw [ofUrl_of_read hread hbackend]
  show (ofFileUrl url text).map _ = _
  rw [ofFileUrl, hpath]
  split <;> rfl

end Connection

end EntityMapper
