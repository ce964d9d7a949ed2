import Mathlib.Data.Bool.AllAny
import EntityMapper.Proofs.Connection.Parameters
import EntityMapper.Proofs.Url.Reader

/-!
# Settings of a server by way of its URL

The URL of a server shows user name, password and path encoded, and its options as a form. When it
is read, the options are decoded, but user name, password and path are taken as the URL shows them.
So what comes back is the connection with these three as they were encoded, the path also without
dots and without the slashes at its front, and it is the same connection just if there was nothing
to encode, to resolve or to cut off.

## Structure

* `shown` — the settings as the URL shows them: user name and password encoded, and the path
  encoded, rid of dots and cut.
* `shownUrl` — the URL of the settings. Its parts are in the form in which reading leaves them
  (`canonical_shownUrl`), so `Url.Canonical.read_text` applies.
* `ofServerUrl_shownUrl` — what is taken from that URL is `shown`.
* `shown_eq_self_iff` — when nothing was changed (`Verbatim`), part by part.
-/

namespace EntityMapper.Connection

open Url (PlainHost Settled isUserEncoded isPathEncoded isDropped encode rootedPath formOf)

/-- A user name or a password as a URL shows it. -/
def shownUser (s : String) : String := String.ofList (encode isUserEncoded s.toList)

/-- The path of a URL that is set to the name of a database. -/
def shownPath (database : String) : List Char :=
  rootedPath (database.toList.filter fun c => !isDropped c)

/-- The name of a database as it is read from the path of a URL. -/
def nameOfPath (database : String) : String :=
  String.ofList ((shownPath database).dropWhile (· == '/'))

/-- A connection as it is read from its URL. -/
def shown (c : Connection) : Connection :=
  { c with
    driver := Backend.postgres.name
    username? := c.username?.map shownUser
    password? := c.password?.map shownUser
    database := nameOfPath c.database }

/-- What stands in front of the path: user name and password as the URL shows them, the host and the
port. -/
def shownAuthority (c : Connection) (host : String) : Url.Authority where
  username := shownUser (c.username?.getD "")
  password? := c.password?.map shownUser
  host
  port? := c.port?

/-- The URL of a connection to a server. -/
def shownUrl (c : Connection) (host : String) : Url where
  scheme := "postgres"
  authority? := some (c.shownAuthority host)
  path := String.ofList (shownPath c.database)
  query? := optionQuery? c.options

/-- Whether a URL shows user name, password and database as they are. -/
structure Verbatim (c : Connection) : Prop where
  username : ∀ name ∈ c.username?, ∀ ch ∈ name.toList, isUserEncoded ch = false
  password : ∀ word ∈ c.password?, ∀ ch ∈ word.toList, isUserEncoded ch = false
  database : Settled c.database.toList
  unrooted : c.database.toList.head? ≠ some '/'

/-! ## The parts of the URL

When what is shown of a part is the part itself. Encoding is idempotent only on texts with nothing
to encode, and a path is shown after its dots have been resolved. -/

/-- A text is shown as it is just if nothing in it has to be encoded. What is encoded has a percent
sign, which is encoded itself (`lasting_isUserEncoded`). -/
theorem shownUser_eq_self_iff {s : String} :
    shownUser s = s ↔ ∀ c ∈ s.toList, isUserEncoded c = false := by
  rw [← Url.lasting_isUserEncoded.encode_eq_self_iff, shownUser, ← String.toList_inj,
    String.toList_ofList]

theorem map_shownUser_eq_self_iff {s? : Option String} :
    s?.map shownUser = s? ↔ ∀ s ∈ s?, ∀ c ∈ s.toList, isUserEncoded c = false := by
  cases s? with
  | none => simp
  | some s => simpa using shownUser_eq_self_iff

theorem shownUser_eq_empty_iff {s : String} : shownUser s = "" ↔ s = "" := by
  rw [shownUser, ← String.toList_inj, String.toList_ofList, ← String.toList_inj]
  exact Url.encode_eq_nil_iff

/-- A name of a database comes back if its path has nothing to settle, and no slash at its front. -/
theorem nameOfPath_eq_self_iff {database : String} :
    nameOfPath database = database ↔ Settled database.toList
      ∧ database.toList.head? ≠ some '/' := by
  rw [nameOfPath, ← String.toList_inj, String.toList_ofList]
  constructor
  · intro hname
    obtain ⟨p, hp, hsettled⟩ := Url.exists_settled (database.toList.filter fun c => !isDropped c)
    rw [shownPath, hp, List.dropWhile_cons_of_pos (by simp)] at hname
    rw [← hname]
    -- once the slashes at the front are gone, the name cannot begin with one
    refine ⟨hsettled.dropSlashes, fun hhead => ?_⟩
    have hslash := List.head?_dropWhile_not (· == '/') p
    rw [hhead] at hslash
    exact absurd hslash (by simp)
  · rintro ⟨hsettled, hhead⟩
    -- tabs and line feeds are encoded in a path, so a settled one has none to drop
    have hkept : database.toList.filter (fun c => !isDropped c) = database.toList := by
      refine List.filter_eq_self.mpr fun c hc => ?_
      rw [Bool.not_eq_true', Bool.eq_false_iff]
      intro hdropped
      exact absurd (Url.isOuter_of_isDropped hdropped)
        (by simp [Url.isOuter_of_not_isPathEncoded (hsettled.kept c hc)])
    rw [shownPath, hkept, Url.rootedPath_of_settled hsettled, List.dropWhile_cons_of_pos (by simp)]
    -- nothing else is cut off, since no slash is in front
    cases hdatabase : database.toList with
    | nil => rfl
    | cons c rest =>
      rw [List.dropWhile_cons_of_neg]
      rw [hdatabase] at hhead
      simpa using hhead

/-! ## Writing the URL

`serverUrl` reads the URL of the host and sets the other parts one by one. What comes out is
`shownUrl`, a URL in canonical form. -/

variable {c : Connection} {host : String}

/-- Encoded texts are in canonical form. A password that is missing is not shown at all, so an empty
one must not be set. -/
theorem canonical_shownAuthority (hplain : PlainHost host.toList)
    (hpassword : c.password? ≠ some "") :
    (c.shownAuthority host).Canonical where
  host := hplain
  username ch hch := by
    rw [shownAuthority, shownUser, String.toList_ofList] at hch
    exact Url.lasting_isUserEncoded.not_of_mem hch
  password word hword := by
    obtain ⟨password, hsome, rfl⟩ := Option.map_eq_some_iff.mp hword
    -- what is shown of a password is not empty, and nothing in it has to be encoded once more
    refine ⟨fun hempty => ?_, fun ch hch => ?_⟩
    · rw [String.toList_eq_nil_iff, shownUser_eq_empty_iff] at hempty
      exact hpassword (hsome.trans (congrArg some hempty))
    · rw [shownUser, String.toList_ofList] at hch
      exact Url.lasting_isUserEncoded.not_of_mem hch

/-- The scheme of servers is written in small letters, so it is read as it is written. -/
theorem lower_postgres : "postgres".toList ≠ [] ∧ ∀ c ∈ "postgres".toList, c.isLower = true :=
  ⟨by decide, List.all_eq_true.mp (by decide)⟩

/-- The whole URL is in canonical form: its path is settled by `exists_settled`, and the query is a
form. -/
theorem canonical_shownUrl (hplain : PlainHost host.toList) (hpassword : c.password? ≠ some "") :
    (c.shownUrl host).Canonical where
  named := lower_postgres.1
  scheme := lower_postgres.2
  family := rfl
  authority := ⟨_, rfl, canonical_shownAuthority hplain hpassword⟩
  path := by
    obtain ⟨p, hp, hsettled⟩ := Url.exists_settled (c.database.toList.filter fun c => !isDropped c)
    have hpath : (c.shownUrl host).path.toList = '/' :: p := by
      rw [shownUrl, String.toList_ofList, shownPath, hp]
    rw [hpath]
    exact .inr ⟨p, rfl, hsettled⟩
  query := optionQuery?_kept
  fragment := rfl

theorem read_host (hplain : PlainHost host.toList) :
    Url.read ("postgres://" ++ host) =
      .ok { scheme := "postgres", authority? := some { host }, path := "" } := by
  have hcanonical :
      Url.Canonical { scheme := "postgres", authority? := some { host }, path := "" } :=
    { named := lower_postgres.1
      scheme := lower_postgres.2
      family := rfl
      authority := ⟨_, rfl, hplain, by simp, by simp⟩
      path := .inl rfl
      query := by simp
      fragment := rfl }
  -- this is the text of the URL, so it is read back
  have htext : Url.text { scheme := "postgres", authority? := some { host }, path := "" } =
      "postgres://" ++ host := by
    simp [Url.text, Url.Authority.text, Url.Authority.userText, ← String.toList_inj]
  rw [← htext, hcanonical.read_text]

/-- The last two steps of writing, setting the path and adding the options, give the path and the
query of the URL. -/
theorem setPath_appendPairs (a : Url.Authority) (database : String) (options : Dict String) :
    (let url := ({ scheme := "postgres", authority? := some a, path := "" } : Url).setPath database
      if options.isEmpty then url else url.appendPairs options.entries) =
      { scheme := "postgres", authority? := some a, path := String.ofList (shownPath database)
        query? := optionQuery? options } := by
  dsimp only
  rw [optionQuery?]
  split
  next => rfl
  next => simp [Url.appendPairs, Url.setPath, shownPath]

/-- Settings for a plain host are always written. -/
theorem serverUrl_eq (hhost : c.host? = some host) (hplain : PlainHost host.toList)
    (hpassword : c.password? ≠ some "") : c.serverUrl = .ok (c.shownUrl host) := by
  have hne : ¬ host.isEmpty = true := by simpa using hplain.ne_nil
  -- there is a host, so whatever is set is taken
  have hmodify (a : Url.Authority) (ha : a.host = host) (f : Url.Authority → Url.Authority) :
      Url.modifyAuthority? { scheme := "postgres", authority? := some a, path := "" } f
        = some { scheme := "postgres", authority? := some (f a), path := "" } := by
    subst ha
    exact if_neg hne
  have hset : ∀ password, c.password? = some password → ¬ password.isEmpty = true := by
    intro password hsome hempty
    exact hpassword (hsome.trans (congrArg some (String.isEmpty_iff.mp hempty)))
  rw [serverUrl, hhost, Option.getD_some, read_host hplain, shownUrl, ← setPath_appendPairs,
    shownAuthority]
  -- the steps of writing run on the text of the host alone, with a user and a password or without
  cases c.username? with
  | none =>
    cases hsome : c.password? with
    | none =>
      simp only [setting, Url.setPort?, hmodify, Except.mapError, bind, Except.bind, pure,
        Except.pure]
      rfl
    | some password =>
      simp only [setting, Url.setPassword?, Url.setPort?, hmodify, if_neg (hset password hsome),
        Except.mapError, bind, Except.bind, pure, Except.pure]
      rfl
  | some username =>
    cases hsome : c.password? with
    | none =>
      simp only [setting, Url.setUsername?, Url.setPort?, hmodify, Except.mapError, bind,
        Except.bind, pure, Except.pure]
      rfl
    | some password =>
      simp only [setting, Url.setUsername?, Url.setPassword?, Url.setPort?, hmodify,
        if_neg (hset password hsome), Except.mapError, bind, Except.bind, pure, Except.pure]
      rfl

/-- So the text of these settings is the text of their URL. -/
theorem toUrl_eq (hbackend : c.backend = .ok .postgres) (hhost : c.host? = some host)
    (hplain : PlainHost host.toList) (hpassword : c.password? ≠ some "") :
    c.toUrl = .ok (c.shownUrl host).text := by
  have hserver := serverUrl_eq hhost hplain hpassword
  simp only [toUrl, hbackend, hserver, bind, Except.bind, pure, Except.pure]

/-! ## Reading it back

Since the URL is canonical, its text is read as itself (`Canonical.read_text`). User name, password
and path are taken from it as they are shown. -/

/-- The error of a URL with no name of a database in it. -/
def missingName : Error := .configuration "Missing database name in URL"

/-- Without its options, a connection is read from its URL as the URL shows it. -/
theorem ofServerUrl_shownUrl (hhost : c.host? = some host) (hplain : PlainHost host.toList)
    (husername : c.username? ≠ some "") (hschema : c.schema? = none)
    (hencoding : c.encoding? = none) :
    ofServerUrl (c.shownUrl host) =
      if (nameOfPath c.database).isEmpty then .error missingName
      else .ok { c.shown with options := .empty } := by
  have hne : ¬ host.isEmpty = true := by simpa using hplain.ne_nil
  have hshown : (c.shownUrl host).host? = some host := if_neg hne
  have hname : String.ofList ((c.shownUrl host).path.toList.dropWhile (· == '/')) =
      nameOfPath c.database := by
    rw [shownUrl, String.toList_ofList, nameOfPath]
  have huser :
    (if (c.shownUrl host).username.isEmpty then none else some (c.shownUrl host).username) =
      c.username?.map shownUser := by
    -- encoding leaves something of a name, so that it is not taken for a missing one
    show (if (shownUser (c.username?.getD "")).isEmpty then none
      else some (shownUser (c.username?.getD ""))) = _
    cases hsome : c.username? with
    | none => rfl
    | some username =>
      refine if_neg fun hempty => ?_
      rw [String.isEmpty_iff, shownUser_eq_empty_iff] at hempty
      exact husername (hsome.trans (congrArg some hempty))
  unfold ofServerUrl
  simp only [hshown, hname, huser]
  split
  next => rfl
  next =>
    rw [shown, hhost, hschema, hencoding]
    rfl

/-- The parameters of the URL are the options. -/
theorem queryPairs_shownUrl (c : Connection) (host : String) :
    (c.shownUrl host).queryPairs = c.options.entries :=
  formPairs_optionQuery? c.options

/-- Read from its URL, a connection is what the URL shows of it, unless the URL shows no name of a
database. -/
theorem ofUrl_shownUrl (hhost : c.host? = some host) (hplain : PlainHost host.toList)
    (husername : c.username? ≠ some "") (hpassword : c.password? ≠ some "")
    (hschema : c.schema? = none)
    (hencoding : c.encoding? = none) (hoptions : ∀ name ∈ c.options.keys, name ∉ liftedNames) :
    ofUrl (c.shownUrl host).text =
      if (nameOfPath c.database).isEmpty then .error missingName else .ok c.shown := by
  have hscheme : (c.shownUrl host).scheme = Backend.postgres.name := rfl
  have hbackend : Backend.ofName (c.shownUrl host).scheme = .ok .postgres := by
    rw [hscheme, Backend.ofName_name]
  -- the URL is canonical, so its text is read as the URL
  have hread : Url.read (c.shownUrl host).text = .ok (c.shownUrl host) :=
    (canonical_shownUrl hplain hpassword).read_text
  rw [ofUrl_of_read hread hbackend]
  show (ofServerUrl (c.shownUrl host)).map _ = _
  rw [ofServerUrl_shownUrl hhost hplain husername hschema hencoding, queryPairs_shownUrl]
  split
  next => rfl
  next => exact congrArg Except.ok (foldl_addParameter_entries hoptions rfl)

/-! ## There and back

What comes back, and when it is what was written. -/

/-- A connection is shown as it is just if it is `Verbatim`. Field by field: all but user name,
password and database are shown as they are anyway. -/
theorem shown_eq_self_iff : c.shown = { c with driver := Backend.postgres.name } ↔ c.Verbatim := by
  constructor
  · intro hshown
    rw [shown] at hshown
    obtain ⟨-, -, -, husername, hpassword, hdatabase, -⟩ := Connection.mk.inj hshown
    obtain ⟨hsettled, hhead⟩ := nameOfPath_eq_self_iff.mp hdatabase
    exact ⟨map_shownUser_eq_self_iff.mp husername, map_shownUser_eq_self_iff.mp hpassword,
      hsettled, hhead⟩
  · intro h
    rw [shown, map_shownUser_eq_self_iff.mpr h.username, map_shownUser_eq_self_iff.mpr h.password,
      nameOfPath_eq_self_iff.mpr ⟨h.database, h.unrooted⟩]

/-- **Only what a URL shows as it is comes back.** The settings of a server with a plain host always
have a URL. Read back, user name and password are what the URL shows of them, and so is the name of
the database, less the slashes at its front; without a name there is no connection. All else is
kept. So these are the settings that were written just if there was nothing to encode in them, and
nothing to resolve or to cut off in the name of the database. -/
theorem server_url_read_back (hbackend : c.backend = .ok .postgres) (hhost : c.host? = some host)
    (hplain : PlainHost host.toList) (hdatabase : c.database ≠ "")
    (husername : c.username? ≠ some "")
    (hpassword : c.password? ≠ some "") (hschema : c.schema? = none)
    (hencoding : c.encoding? = none) (hoptions : ∀ name ∈ c.options.keys, name ∉ liftedNames) :
    ∃ url, c.toUrl = .ok url
      ∧ ofUrl url = (if (nameOfPath c.database).isEmpty then .error missingName else .ok c.shown)
      ∧ (ofUrl url = .ok { c with driver := Backend.postgres.name } ↔ c.Verbatim) := by
  have hread := ofUrl_shownUrl hhost hplain husername hpassword hschema hencoding hoptions
  refine ⟨_, toUrl_eq hbackend hhost hplain hpassword, hread, ?_⟩
  rw [hread]
  split
  -- a verbatim connection is shown with its name, which is not empty
  next hempty =>
    refine iff_of_false (fun hok => nomatch hok) fun h => hdatabase ?_
    rw [nameOfPath_eq_self_iff.mpr ⟨h.database, h.unrooted⟩] at hempty
    exact String.isEmpty_iff.mp hempty
  next =>
    rw [← shown_eq_self_iff]
    exact ⟨Except.ok.inj, congrArg Except.ok⟩

/-- A connection in which a URL shows everything as it is, except perhaps the password. -/
def reporter (password : String) : Connection :=
  { postgres "db.local" "reports/2024" with
    username? := some "app"
    password? := some password
    port? := some 5433
    options := Dict.ofList [("application name", "a&b=c"), ("sslmode", "require")] }

theorem backend_reporter (password : String) : (reporter password).backend = .ok .postgres := by
  rw [backend, reporter]
  exact Backend.ofName_name .postgres

theorem plainHost_reporter : PlainHost "db.local".toList :=
  ⟨by decide, List.all_iff_forall_prop.mp (by decide)⟩

/-- A password without special characters comes back, and so do options that have to be encoded. -/
theorem server_url_read_back_reporter :
    ∃ url, (reporter "s3cret").toUrl = .ok url ∧ ofUrl url = .ok (reporter "s3cret") := by
  have hsettled : Settled "reports/2024".toList :=
    ⟨List.all_iff_forall_prop.mp (by decide), by decide⟩
  have huser {s : String} (h : (s.toList.all fun ch => !isUserEncoded ch) = true) :
      ∀ name ∈ some s, ∀ ch ∈ name.toList, isUserEncoded ch = false := by
    simpa using h
  have hback := server_url_read_back (backend_reporter "s3cret") rfl
    plainHost_reporter (by decide) (by decide) (by decide) rfl rfl (by decide)
  obtain ⟨url, hurl, -, hread⟩ := hback
  exact ⟨url, hurl, hread.mpr ⟨huser (by decide), huser (by decide), hsettled, by decide⟩⟩

/-- A password with an at sign comes back with what stands for the at sign in the URL. -/
theorem password_comes_back_encoded :
    ∃ url, (reporter "p@ss").toUrl = .ok url ∧ ofUrl url = .ok (reporter "p%40ss")
      ∧ reporter "p%40ss" ≠ reporter "p@ss" := by
  have hwritten := toUrl_eq (backend_reporter "p@ss") rfl plainHost_reporter (by decide)
  have hread :=
    ofUrl_shownUrl (c := reporter "p@ss") rfl plainHost_reporter (by decide) (by decide) rfl rfl
    (by decide)
  -- only the at sign of the password is encoded
  have hshown : (reporter "p@ss").shown = reporter "p%40ss" := by
    have huser : shownUser "app" = "app" := by decide
    have hpassword : shownUser "p@ss" = "p%40ss" := by decide
    have hdatabase : nameOfPath "reports/2024" = "reports/2024" := by decide
    rw [shown, reporter, reporter, ← hpassword]
    simp only [huser, hdatabase, postgres, Option.map_some]
  have hname : ¬ (nameOfPath (reporter "p@ss").database).isEmpty = true := by decide
  rw [if_neg hname, hshown] at hread
  exact ⟨_, hwritten, hread, fun heq => absurd (congrArg Connection.password? heq) (by decide)⟩

end EntityMapper.Connection
