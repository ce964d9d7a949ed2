import EntityMapper.Driver.Registry
import EntityMapper.Driver.Unopened
import EntityMapper.Proofs.Connection.Padding

/-!
# Identifiers of drivers

What the settings of a connection call its driver is read in two places: as the name of a backend,
and as the identifier under which a driver is registered. Both go by its lower case, and both know
the backends by their usual names; two further names of theirs are no identifiers
(`create_iff_named`). A URL may have any of the names for its scheme, because the settings that are
read from it have the usual name of the backend in its place.

## Structure

* `Backend.names` — the names of the backends; `ofName_eq_ok_iff` says that they are all.
* `IsAlias` — the names by which a backend is known, but no driver.
* `FailsBySettings` — settings may be refused for their contents, and then not for want of a driver.
  The property goes through every step of making a URL, and so tells the two kinds of error apart
  (`ne_missingDriver`).
* `create_iff_named` — a driver is made just for a name that is no alias.
-/

namespace EntityMapper

/-! ## Names of backends

The names that `Backend.ofName` knows, as lists (`Backend.names`). -/

namespace Backend

/-- The names of a backend, in lower case. -/
def names : Backend → List String
  | .postgres => ["postgresql", "postgres", "pgsql"]
  | .sqlite => ["sqlite", "sqlite3"]

variable {s : String} {b : Backend} {e : Error}

/-- What `ofName` takes for a backend are the names of that backend, in any case. -/
theorem ofName_eq_ok_iff : ofName s = .ok b ↔ Text.lowercase s ∈ b.names := by
  unfold ofName
  split
  -- each name is that of one backend, and what is none of them is in neither list
  all_goals cases b <;> simp_all [names]

/-- The two backends have dialects of their own, so a backend can be told by its dialect. -/
theorem dialect_injective : Function.Injective dialect := by
  intro a b h
  cases a <;> cases b <;> first | rfl | cases h

/-- Whatever is no name is turned down as the name of a driver that is missing. -/
theorem eq_of_ofName_eq_error (h : ofName s = .error e) : e = .missingDriver s := by
  unfold ofName at h
  split at h
  case h_6 => exact (Except.error.inj h).symm
  all_goals cases h

end Backend

/-! ## Identifiers of the registered drivers

The registry is a dictionary from lower-case identifiers to drivers. It knows fewer names than
`Backend.names`: the two that are missing are the aliases. -/

namespace DriverRegistry

variable {δ : Type} {make : Backend → Connection → Except Error δ}

/-- Whether an identifier is, in any case, a name of a backend under which no driver is registered.
-/
def IsAlias (identifier : String) : Prop := Text.lowercase identifier ∈ ["pgsql", "sqlite3"]

instance (identifier : String) : Decidable (IsAlias identifier) :=
  inferInstanceAs (Decidable (Text.lowercase identifier ∈ ["pgsql", "sqlite3"]))

/-- Three drivers are registered, two of them for the same backend. Later registrations are looked
at first. -/
theorem get?_makers_standard (identifier : String) :
    (standard make).makers.get? identifier =
      if identifier = "sqlite" then some (make .sqlite)
      else if identifier = "postgresql" ∨ identifier = "postgres" then some (make .postgres)
      else none := by
  have hpostgres : Text.lowercase "postgres" = "postgres" := by decide
  have hpostgresql : Text.lowercase "postgresql" = "postgresql" := by decide
  have hsqlite : Text.lowercase "sqlite" = "sqlite" := by decide
  simp only [standard, register, hpostgres, hpostgresql, hsqlite]
  -- the last registration, and then the two before it
  by_cases h₁ : identifier = "sqlite"
  · rw [h₁, Dict.get?_insert_self, if_pos rfl]
  rw [Dict.get?_insert_of_ne _ h₁, if_neg h₁]
  by_cases h₂ : identifier = "postgresql"
  · rw [h₂, Dict.get?_insert_self, if_pos (.inl rfl)]
  rw [Dict.get?_insert_of_ne _ h₂]
  by_cases h₃ : identifier = "postgres"
  · rw [h₃, Dict.get?_insert_self, if_pos (.inr rfl)]
  rw [Dict.get?_insert_of_ne _ h₃, if_neg (not_or.mpr ⟨h₂, h₃⟩)]
  rfl

/-- The driver that is made is that of the backend which the settings name, but for the aliases. -/
theorem create_standard (c : Connection) :
    (standard make).create c =
      if IsAlias c.driver then .error (.missingDriver c.driver) else c.backend.bind fun b =>
        make b c := by
  rw [create, get?_makers_standard]
  cases hbackend : c.backend with
  | ok b =>
    have hname := Backend.ofName_eq_ok_iff.mp hbackend
    cases b with
    | postgres =>
      have hname : Text.lowercase c.driver = "postgresql" ∨ Text.lowercase c.driver = "postgres"
          ∨ Text.lowercase c.driver = "pgsql" := by simpa [Backend.names] using hname
      -- two of the names are identifiers, the third one is the alias
      rcases hname with h | h | h <;> simp [IsAlias, h, Except.bind]
    | sqlite =>
      have hname : Text.lowercase c.driver = "sqlite" ∨ Text.lowercase c.driver = "sqlite3" := by
        simpa [Backend.names] using hname
      rcases hname with h | h <;> simp [IsAlias, h, Except.bind]
  | error e =>
    -- what is no name at all is no identifier either
    obtain rfl := Backend.eq_of_ofName_eq_error hbackend
    have hname (b : Backend) : Text.lowercase c.driver ∉ b.names := fun hmem => by
      have hok : c.backend = .ok b := Backend.ofName_eq_ok_iff.mpr hmem
      rw [hbackend] at hok
      cases hok
    have hpostgres := hname .postgres
    have hsqlite := hname .sqlite
    simp only [Backend.names, List.mem_cons, List.not_mem_nil, or_false, not_or]
      at hpostgres hsqlite
    rw [if_neg hsqlite.1, if_neg (not_or.mpr ⟨hpostgres.1, hpostgres.2.1⟩), Except.bind, ite_self]

/-- An alias is the name of a backend all the same. -/
theorem exists_backend_of_isAlias {c : Connection} (h : IsAlias c.driver) :
    ∃ b, c.backend = .ok b := by
  rcases List.mem_pair.mp h with h | h
  · exact ⟨.postgres, Backend.ofName_eq_ok_iff.mpr (by rw [h]; decide)⟩
  · exact ⟨.sqlite, Backend.ofName_eq_ok_iff.mpr (by rw [h]; decide)⟩

end DriverRegistry

/-! ## What URLs are turned down for

Errors of two kinds can come of reading or writing a URL, and `FailsBySettings` separates them. All
that is worked out once the backend is known fails by the settings. -/

namespace Connection

variable {α β : Type}

/-- Whether something fails only for a fault in the settings, and not for want of a driver. -/
def FailsBySettings (x : Except Error α) : Prop :=
  ∀ e, x = .error e → ∃ message, e = .configuration message

namespace FailsBySettings

theorem ok (a : α) : FailsBySettings (.ok a) := nofun

theorem configuration (message : String) :
    FailsBySettings (.error (.configuration message) : Except Error α) :=
  fun _ h => ⟨message, (Except.error.inj h).symm⟩

/-- Two steps fail by the settings if both do. -/
theorem bind {x : Except Error α} {f : α → Except Error β} (hx : FailsBySettings x)
    (hf : ∀ a, FailsBySettings (f a)) : FailsBySettings (x >>= f) := by
  intro e he
  cases x with
  | error fault => exact hx e (congrArg Except.error (Except.error.inj he))
  | ok a => exact hf a e he

/-- What is made of a result does not fail by itself. -/
theorem map {x : Except Error α} (hx : FailsBySettings x) (f : α → β) :
    FailsBySettings (x.map f) := by
  cases x with
  | error fault => exact fun e he => hx e (congrArg Except.error (Except.error.inj he))
  | ok a => exact .ok (f a)

theorem ne_missingDriver {x : Except Error α} (hx : FailsBySettings x) (s : String) :
    x ≠ .error (.missingDriver s) := by
  intro h
  obtain ⟨message, hmessage⟩ := hx _ h
  cases hmessage

end FailsBySettings

/-- A part of a URL that cannot be set is a fault in the settings. -/
theorem failsBySettings_setting (what : String) (url? : Option Url) :
    FailsBySettings (setting what url?) := by
  cases url? with
  | none => exact .configuration _
  | some url => exact .ok url

/-- The URL of a server is written in steps, each of which may find a fault in the settings. -/
theorem failsBySettings_serverUrl (c : Connection) : FailsBySettings c.serverUrl := by
  have hread : FailsBySettings
      ((Url.read ("postgres://" ++ c.host?.getD "localhost")).mapError urlError) := by
    cases Url.read ("postgres://" ++ c.host?.getD "localhost") with
    | error fault => exact .configuration _
    | ok url => exact .ok url
  -- the last steps are the same with a user name and a password or without
  have hend (url : Url) : FailsBySettings (do
      let url ← setting "port" (url.setPort? c.port?)
      let url := url.setPath c.database
      return if c.options.isEmpty then url else url.appendPairs c.options.entries) :=
    .bind (failsBySettings_setting _ _) fun _ => .ok _
  unfold serverUrl
  refine .bind hread fun url => ?_
  cases c.username? with
  | none =>
    refine .bind (.ok url) fun url => ?_
    cases c.password? with
    | none => exact .bind (.ok url) hend
    | some password => exact .bind (failsBySettings_setting _ _) hend
  | some username =>
    refine .bind (failsBySettings_setting _ _) fun url => ?_
    cases c.password? with
    | none => exact .bind (.ok url) hend
    | some password => exact .bind (failsBySettings_setting _ _) hend

/-- Read as that of a server, a URL may lack a host or a name. -/
theorem failsBySettings_ofServerUrl (url : Url) : FailsBySettings (ofServerUrl url) := by
  unfold ofServerUrl
  cases url.host? with
  | none => exact .configuration _
  | some host =>
    show FailsBySettings (if _ then _ else _)
    split
    · exact .configuration _
    · exact .ok _

/-- Read as that of a file, it may lack a path. -/
theorem failsBySettings_ofFileUrl (url : Url) (text : String) :
    FailsBySettings (ofFileUrl url text) := by
  show FailsBySettings (if _ then _ else _)
  split
  · exact .configuration _
  · exact .ok _

/-- A URL is turned down for want of a driver if there is no backend of the name, and for nothing
else. -/
theorem toUrl_eq_missingDriver_iff (c : Connection) (s : String) :
    c.toUrl = .error (.missingDriver s) ↔ c.backend = .error (.missingDriver s) := by
  unfold toUrl
  cases c.backend with
  | error e =>
    show Except.error e = _ ↔ _
    rw [Except.error.injEq, Except.error.injEq]
  | ok b =>
    -- once there is a backend, only the settings can be at fault
    refine iff_of_false ?_ nofun
    cases b with
    | sqlite => exact FailsBySettings.ne_missingDriver (.ok c.fileUrl) s
    | postgres =>
      cases hserver : c.serverUrl with
      | ok url => exact nofun
      | error e =>
        obtain ⟨message, rfl⟩ := failsBySettings_serverUrl c e hserver
        exact nofun

/-- A URL that is read lacks a driver just if the name that is its scheme does. -/
theorem ofUrl_eq_missingDriver_iff {text : String} {url : Url} (hread : Url.read text = .ok url)
    (s : String) :
    ofUrl text = .error (.missingDriver s)
      ↔ Backend.ofName url.scheme = .error (.missingDriver s) := by
  cases hbackend : Backend.ofName url.scheme with
  | error e =>
    have hofUrl : ofUrl text = .error e := by
      rw [ofUrl, hread]
      show (Backend.ofName url.scheme >>= _) = _
      rw [hbackend]
      rfl
    rw [hofUrl, Except.error.injEq, Except.error.injEq]
  | ok b =>
    -- with a backend, no later step fails for want of one
    refine iff_of_false ?_ fun h => by cases h
    rw [ofUrl_of_read hread hbackend]
    apply FailsBySettings.ne_missingDriver
    apply FailsBySettings.map
    cases b with
    | sqlite => exact failsBySettings_ofFileUrl url text
    | postgres => exact failsBySettings_ofServerUrl url

end Connection

/-! ## Drivers for what is named

Both readings of a name side by side. -/

namespace DriverRegistry

/-- The registry of the two backends, whose drivers are made of any settings. -/
def unopened : DriverRegistry Unopened := standard fun b c => .ok ⟨b, c⟩

variable {c : Connection}

theorem create_unopened_of_isAlias (h : IsAlias c.driver) :
    unopened.create c = .error (.missingDriver c.driver) := by
  rw [unopened, create_standard, if_pos h]

/-- For any other name of a backend there is one. -/
theorem create_unopened_of_not_isAlias (h : ¬ IsAlias c.driver) :
    unopened.create c = c.backend.map fun b => ⟨b, c⟩ := by
  rw [unopened, create_standard, if_neg h]
  cases c.backend <;> rfl

/-- So a driver is made just for what is a name and no alias. -/
theorem create_unopened_eq_ok_iff {d : Unopened} :
    unopened.create c = .ok d ↔ ∃ b, c.backend = .ok b ∧ ¬ IsAlias c.driver ∧ d = ⟨b, c⟩ := by
  by_cases halias : IsAlias c.driver
  · rw [create_unopened_of_isAlias halias]
    exact iff_of_false nofun fun ⟨_, _, hnot, _⟩ => hnot halias
  · rw [create_unopened_of_not_isAlias halias]
    cases c.backend with
    | error e => exact iff_of_false nofun nofun
    | ok b =>
      constructor
      · intro h
        exact ⟨b, rfl, halias, (Except.ok.inj h).symm⟩
      · rintro ⟨b', hb, -, rfl⟩
        rw [Except.ok.inj hb]
        rfl

/-- Whatever is turned down is turned down for want of a driver. -/
theorem create_unopened_eq_error_iff {e : Error} :
    unopened.create c = .error e ↔ e = .missingDriver c.driver
      ∧ (IsAlias c.driver ∨ c.backend = .error e) := by
  by_cases halias : IsAlias c.driver
  · rw [create_unopened_of_isAlias halias, Except.error.injEq, and_iff_left (.inl halias), eq_comm]
  · rw [create_unopened_of_not_isAlias halias, or_iff_right halias]
    cases hbackend : c.backend with
    | ok b => exact iff_of_false nofun fun h => nomatch h.2
    | error fault =>
      obtain rfl := Backend.eq_of_ofName_eq_error hbackend
      show Except.error _ = _ ↔ _
      rw [Except.error.injEq, Except.error.injEq, eq_comm, and_self]

/-- The settings that are read from a URL call their backend by the name under which its driver is
registered. -/
theorem not_isAlias_of_ofUrl {text : String} (h : Connection.ofUrl text = .ok c) :
    ¬ IsAlias c.driver := by
  obtain ⟨url, b, -, -, hdriver⟩ := Connection.exists_driver_of_ofUrl h
  rw [hdriver]
  cases b <;> decide

/-- **A driver is made for what is the name of a backend**, and it is of that backend's dialect;
only for the two aliases there is none, although they are names as well. What is turned down for
want of a driver is one of them or no name at all, and a URL is turned down so only for what is no
name, be it the driver of settings from which a URL is written or the scheme of one that is read.
For settings that are read from a URL there is always a driver. -/
theorem create_iff_named (c : Connection) :
    (∀ b, c.backend = .ok b ∧ ¬ IsAlias c.driver ↔
      ∃ d, unopened.create c = .ok d ∧ Driver.dialect d = b.dialect)
    ∧ (∀ e, unopened.create c = .error e ↔
      e = .missingDriver c.driver ∧ (IsAlias c.driver ∨ c.backend = .error e))
    ∧ (IsAlias c.driver → ∃ b, c.backend = .ok b)
    ∧ (∀ s, c.toUrl = .error (.missingDriver s) ↔ c.backend = .error (.missingDriver s))
    ∧ (∀ text url, Url.read text = .ok url → ∀ s,
      Connection.ofUrl text = .error (.missingDriver s)
        ↔ Backend.ofName url.scheme = .error (.missingDriver s))
    ∧ ∀ text, Connection.ofUrl text = .ok c → ∃ d, unopened.create c = .ok d := by
  refine ⟨fun b => ⟨?_, ?_⟩, fun e => create_unopened_eq_error_iff, exists_backend_of_isAlias,
    c.toUrl_eq_missingDriver_iff, fun text url hread => Connection.ofUrl_eq_missingDriver_iff hread,
    fun text hread => ?_⟩
  · rintro ⟨hbackend, halias⟩
    exact ⟨⟨b, c⟩, create_unopened_eq_ok_iff.mpr ⟨b, hbackend, halias, rfl⟩, rfl⟩
  · rintro ⟨d, hcreate, hdialect⟩
    obtain ⟨b', hbackend, halias, rfl⟩ := create_unopened_eq_ok_iff.mp hcreate
    -- a driver tells its backend by its dialect
    obtain rfl : b' = b := Backend.dialect_injective hdialect
    exact ⟨hbackend, halias⟩
  · obtain ⟨-, b, -, -, hbackend⟩ := Connection.exists_of_ofUrl hread
    exact ⟨⟨b, c⟩, create_unopened_eq_ok_iff.mpr ⟨b, hbackend, not_isAlias_of_ofUrl hread, rfl⟩⟩

/-- The name of a backend by which no driver goes. -/
theorem alias_has_no_driver :
    let c : Connection := { driver := "pgsql", database := "app" }
    c.backend = .ok .postgres ∧ c.toUrl = .ok "postgres://localhost/app"
    ∧ unopened.create c = .error (.missingDriver "pgsql") :=
  ⟨by decide, rfl, rfl⟩

end DriverRegistry

end EntityMapper
