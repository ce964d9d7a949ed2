import Mathlib.Data.Bool.AllAny
import EntityMapper.Proofs.Connection.Parameters
import EntityMapper.Proofs.Url.Authority

/-!
# Settings of a file by way of its URL

The path of a file is written into a URL as it is, and is cut out of the URL up to the first
question mark. In between, the same text is read as a URL: what stands up to the first slash is read
as a host with a user and a port, and behind a number sign there is a fragment and no query. So a
path with a question mark comes back shorter, behind a path with a number sign the options are lost,
and a path that begins with what cannot be a host leads to no connection at all.

## Structure

* `queryOf` — the query of a text behind the first question mark in front of any number sign. This
  is all that the reader of URLs finds of a path with options.
* `filePath_authority` — the path that is cut out of the text of the URL.
* `exists_read` — when there is a URL at all: up to its first slash the path has to be fit for an
  authority.
* `file_url_read_back` — the parts together. `paths_do_not_come_back` has a path for each of the
  three ways in which it may come back as another, or not at all.
-/

namespace EntityMapper.Connection

open Url (counted endsPath endsAuthority isDropped isForbiddenInHost isOuter isQueryEncoded
  queryAndFragment
  queryChars readAuthority)

/-! ## Queries behind a path

A URL is not read from the text but from what counts of it (`Url.counted`). Whatever is dropped of a
path, the query begins at the same question mark, unless a number sign comes first. -/

/-- The query of a text that begins with a path. -/
def queryOf (s : List Char) : Option String :=
  (queryAndFragment (s.dropWhile fun c => !endsPath c)).1

/-- Without a question mark there is no query: what the path leaves begins with a number sign, or is
nothing. -/
theorem queryOf_of_not_mem {s : List Char} (h : '?' ∉ s) : queryOf s = none := by
  rw [queryOf]
  cases hrest : s.dropWhile fun c => !endsPath c with
  | nil => rfl
  | cons c rest =>
    -- whatever is first behind the path comes from the text
    have hc : c ∈ s := (List.dropWhile_sublist _).mem (hrest ▸ List.mem_cons_self)
    unfold queryAndFragment
    split
    next heq => exact absurd ((List.cons.inj heq).1 ▸ hc) h
    next => rfl

theorem queryOf_append_of_mem {s : List Char} (hquestion : '?' ∉ s) (hnumber : '#' ∈ s)
    (t : List Char) :
    queryOf (s ++ t) = none := by
  induction s with
  | nil => exact absurd hnumber List.not_mem_nil
  | cons c s ih =>
    rw [List.mem_cons, not_or] at hquestion
    by_cases hc : c = '#'
    · subst hc
      rfl
    · -- the first character is none at which a path ends
      have hs : '#' ∈ s := (List.mem_cons.mp hnumber).resolve_left (Ne.symm hc)
      rw [← ih hquestion.2 hs, queryOf, queryOf, List.cons_append, List.dropWhile_cons_of_pos]
      simp [endsPath, hc, Ne.symm hquestion.1]

/-- With neither sign in the path, the query is the one that was written behind it. -/
theorem queryOf_append_queryChars {s : List Char} (hquestion : '?' ∉ s) (hnumber : '#' ∉ s)
    {query? : Option String} (h : ∀ query ∈ query?, ∀ c ∈ query.toList, isQueryEncoded c = false) :
    queryOf (s ++ queryChars query?) = query? := by
  have hpath : ∀ c ∈ s, (!endsPath c) = true := by
    intro c hc
    have hne : c ≠ '?' ∧ c ≠ '#' := ⟨fun heq => hquestion (heq ▸ hc), fun heq => hnumber (heq ▸ hc)⟩
    simp [endsPath, hne]
  have hstop : ∀ c ∈ (queryChars query?).head?, (!endsPath c) = false := by
    intro c hc
    cases query? with
    | none => cases hc
    | some query => exact Option.some.inj hc ▸ rfl
  rw [queryOf, dropWhile_append hpath hstop, Url.queryAndFragment_queryChars h]

/-- The query behind a path, of what counts of the text. -/
theorem queryOf_counted {s : List Char} (hquestion : '?' ∉ s) {query? : Option String}
    (h : ∀ query ∈ query?, ∀ c ∈ query.toList, isQueryEncoded c = false) :
    queryOf (counted (s ++ queryChars query?)) = if '#' ∈ s then none else query? := by
  -- without a query, controls and spaces at the end of the path do not count, but no query comes of
  -- that
  cases query? with
  | none =>
    rw [queryChars, List.append_nil, ite_self]
    exact queryOf_of_not_mem fun hmem => hquestion (Url.mem_of_mem_counted hmem)
  | some query =>
    have hfilter {c : Char} (hc : c ∈ s.filter fun c => !isDropped c) : c ∈ s :=
      (List.mem_filter.mp hc).1
    rw [Url.counted_append (by simp [queryChars]) fun c hc => Url.isOuter_of_mem_queryChars h hc]
    split
    next hnumber =>
      have hkept : '#' ∈ s.filter fun c => !isDropped c := List.mem_filter.mpr ⟨hnumber, by decide⟩
      exact queryOf_append_of_mem (fun hmem => hquestion (hfilter hmem)) hkept _
    next hnumber =>
      exact queryOf_append_queryChars (fun hmem => hquestion (hfilter hmem))
        (fun hmem => hnumber (hfilter hmem)) h

/-! ## Writing the URL

`fileUrl` writes the path as it stands, with nothing encoded. -/

variable {c : Connection}

/-- The URL of a path: the scheme, two slashes, the path as it is and the options. -/
theorem toList_fileUrl (h : c.database ≠ ":memory:") :
    c.fileUrl.toList =
      "sqlite".toList
        ++ ':' :: '/' :: '/' :: (c.database.toList ++ queryChars (optionQuery? c.options)) := by
  have hplace : (c.database == ":memory:") = false := by simpa using h
  unfold fileUrl optionQuery?
  cases c.options.isEmpty <;> simp [hplace, queryChars]

/-- The URL of a database in memory has no slashes, so it has no authority either. -/
theorem toList_fileUrl_memory (h : c.database = ":memory:") :
    c.fileUrl.toList = "sqlite::memory:".toList ++ queryChars (optionQuery? c.options) := by
  unfold fileUrl optionQuery?
  cases c.options.isEmpty <;> simp [h, queryChars]

/-! ## Reading it back

The path is cut out of the text by `filePath`, while the options come from the URL as it was read.
That the URL can be read at all depends on the front of the path, which is taken for an authority
(`exists_read_fileUrl`). -/

theorem takeWhile_append_queryChars {s : List Char} (h : '?' ∉ s) (query? : Option String) :
    (s ++ queryChars query?).takeWhile (· != '?') = s := by
  refine takeWhile_append (fun c hc => ?_) fun c hc => ?_
  · simpa using fun heq : c = '?' => h (heq ▸ hc)
  · cases query? with
    | none => cases hc
    | some query => exact Option.some.inj hc ▸ rfl

/-- The path that `filePath` cuts out is what stands behind the two slashes, up to the first
question mark. -/
theorem filePath_authority (scheme s : List Char) :
    filePath scheme.length (scheme ++ ':' :: '/' :: '/' :: s) = s.takeWhile (· != '?') := by
  have hdrop : (scheme ++ ':' :: '/' :: '/' :: s).drop (scheme.length + 1) = '/' :: '/' :: s := by
    rw [← List.drop_drop, List.drop_left, List.drop_one, List.tail_cons]
  rw [filePath, hdrop]
  rfl

/-- The scheme of such a URL names the backend of files. -/
theorem ofName_sqlite : Backend.ofName (String.ofList "sqlite".toList) = .ok .sqlite := by
  rw [String.ofList_toList]
  exact Backend.ofName_name .sqlite

/-- The scheme is written in small letters, so it is read as it is written. -/
theorem lower_sqlite : "sqlite".toList ≠ [] ∧ ∀ c ∈ "sqlite".toList, c.isLower = true :=
  ⟨by decide, List.all_eq_true.mp (by decide)⟩

/-- In memory there is no path, and nothing to lose. No character of the URL is outside of it or
dropped, and neither a question mark nor a number sign is in the place. -/
theorem ofUrl_memory (h : c.database = ":memory:")
    (hoptions : ∀ name ∈ c.options.keys, name ∉ liftedNames) :
    ofUrl c.fileUrl = .ok { sqlite ":memory:" with options := c.options } := by
  have htext := toList_fileUrl_memory h
  have hsignificant : Url.significant c.fileUrl.toList =
      "sqlite".toList ++ ':' :: (":memory:".toList ++ queryChars (optionQuery? c.options)) := by
    have hfront : ∀ ch ∈ "sqlite::memory:".toList, isOuter ch = false :=
      List.all_iff_forall_prop.mp (by decide)
    rw [htext, Url.significant_eq_self]
    · rfl
    · intro ch hch
      exact (List.mem_append.mp hch).elim (hfront ch)
        (Url.isOuter_of_mem_queryChars optionQuery?_kept)
  -- without slashes there is no authority, and all behind the colon is path and query
  have hread : Url.read c.fileUrl = .ok (Url.withoutAuthority "sqlite".toList
      (":memory:".toList ++ queryChars (optionQuery? c.options))) := by
    rw [Url.read, hsignificant, Url.scheme?_append lower_sqlite.1 lower_sqlite.2]
    rfl
  have hquery : queryOf (":memory:".toList ++ queryChars (optionQuery? c.options)) =
      optionQuery? c.options :=
    queryOf_append_queryChars (by decide) (by decide) optionQuery?_kept
  have hpath : filePath "sqlite".toList.length c.fileUrl.toList = ":memory:".toList := by
    have hmemory : '?' ∉ ":memory:".toList := by decide
    rw [htext]
    exact takeWhile_append_queryChars hmemory _
  rw [ofUrl_file hread ofName_sqlite hpath, if_neg (by decide)]
  show Except.ok ((Url.formPairs ((queryOf _).getD "").toList).foldl _ _) = _
  rw [hquery, formPairs_optionQuery?]
  exact congrArg Except.ok (foldl_addParameter_entries hoptions rfl)

theorem exists_read (hmemory : c.database ≠ ":memory:") {url : Url}
    (hread : Url.read c.fileUrl = .ok url) :
    ∃ a rest, url = Url.afterAuthority .other "sqlite".toList a rest
      ∧ Url.Skips (counted (c.database.toList ++ queryChars (optionQuery? c.options))) rest := by
  have hauthority := Url.read_authority lower_sqlite.1 lower_sqlite.2 rfl (toList_fileUrl hmemory)
  rw [hread] at hauthority
  cases hplace : readAuthority .other
    (counted (c.database.toList ++ queryChars (optionQuery? c.options))) with
  | error fault =>
    rw [hplace] at hauthority
    cases hauthority
  | ok place =>
    obtain ⟨a, rest⟩ := place
    rw [hplace] at hauthority
    exact ⟨a, rest, Except.ok.inj hauthority, Url.skips_readAuthority hplace⟩

/-- A path comes back up to its first question mark. -/
theorem database_of_ofUrl_fileUrl (hmemory : c.database ≠ ":memory:") {url : Url}
    (hread : Url.read c.fileUrl = .ok url) {read : Connection} (hok : ofUrl c.fileUrl = .ok read) :
    read.database.toList =
      (c.database.toList ++ queryChars (optionQuery? c.options)).takeWhile (· != '?') := by
  obtain ⟨a, rest, rfl, -⟩ := exists_read hmemory hread
  have hpath :=
    filePath_authority "sqlite".toList (c.database.toList ++ queryChars (optionQuery? c.options))
  rw [← toList_fileUrl hmemory] at hpath
  rw [ofUrl_file hread ofName_sqlite hpath] at hok
  rw [← Url.eq_of_ite_error hok, database_foldl_addParameter]
  exact String.toList_ofList

/-- Unless there is a question mark in it, a path comes back if its URL can be read at all. Behind a
number sign there are no options. -/
theorem ofUrl_fileUrl (hmemory : c.database ≠ ":memory:") (hdatabase : c.database ≠ "")
    (hoptions : ∀ name ∈ c.options.keys, name ∉ liftedNames)
    (hquestion : '?' ∉ c.database.toList) {url : Url}
    (hread : Url.read c.fileUrl = .ok url) :
    ofUrl c.fileUrl = .ok { sqlite c.database with
      options := if '#' ∈ c.database.toList then .empty else c.options } := by
  obtain ⟨a, rest, rfl, hrest⟩ := exists_read hmemory hread
  -- whatever became of the front of the path, the query begins where it begins in the whole text
  have hquery : queryOf rest = if '#' ∈ c.database.toList then none
      else optionQuery? c.options := by
    rw [← queryOf_counted hquestion optionQuery?_kept, queryOf, queryOf, hrest.dropWhile_eq]
  have hpath : filePath "sqlite".toList.length c.fileUrl.toList = c.database.toList := by
    rw [toList_fileUrl hmemory, filePath_authority, takeWhile_append_queryChars hquestion]
  rw [ofUrl_file hread ofName_sqlite hpath, if_neg (by simpa using hdatabase), String.ofList_toList]
  show Except.ok ((Url.formPairs ((queryOf rest).getD "").toList).foldl _ _) = _
  rw [hquery]
  split
  next => rfl
  next =>
    rw [formPairs_optionQuery?]
    exact congrArg Except.ok (foldl_addParameter_entries hoptions rfl)

/-- Without any punctuation of hosts up to its first slash, a path makes up a URL that can be read.
-/
theorem exists_read_fileUrl (hmemory : c.database ≠ ":memory:")
    (h : ∀ ch ∈ c.database.toList.takeWhile (· != '/'), isForbiddenInHost ch = false) :
    ∃ url, Url.read c.fileUrl = .ok url := by
  -- what is in front of the first slash is all of the authority, since else it ends with the path
  have hrest :
    ∀ ch ∈ (c.database.toList.dropWhile (· != '/') ++ queryChars (optionQuery? c.options)).head?,
      endsAuthority .other ch = true := by
    intro ch hch
    cases hslash : c.database.toList.dropWhile (· != '/') with
    | nil =>
      rw [hslash, List.nil_append] at hch
      cases hquery : optionQuery? c.options with
      | none =>
        rw [hquery] at hch
        cases hch
      | some query =>
        rw [hquery] at hch
        exact Option.some.inj hch ▸ rfl
    | cons slash rest =>
      have hstop := List.head?_dropWhile_not (· != '/') c.database.toList
      rw [hslash] at hch hstop
      obtain rfl := Option.some.inj hch
      rw [Url.endsAuthority_other]
      exact .inl (by simpa using hstop)
  have hcut : c.database.toList ++ queryChars (optionQuery? c.options) =
      c.database.toList.takeWhile (· != '/') ++
        (c.database.toList.dropWhile (· != '/') ++ queryChars (optionQuery? c.options)) := by
    rw [← List.append_assoc, List.takeWhile_append_dropWhile]
  have hread := Url.read_authority lower_sqlite.1 lower_sqlite.2 rfl (toList_fileUrl hmemory)
  rw [hcut] at hread
  obtain ⟨a, rest, hplace⟩ :=
    Url.exists_readAuthority fun ch hch => h ch (Url.mem_takeWhile_counted hrest hch)
  rw [hplace] at hread
  exact ⟨_, hread⟩

/-! ## There and back

The exact condition, over all paths and options, and two paths that do not meet it. -/

/-- **When a path and its options come back.** The settings of a file always have a URL. Path and
options are read from it as they were just if the database is in memory, or the URL can be read,
there is no question mark in the path, and with a number sign in the path there are no options. The
URL of a path can be read if there is no punctuation of hosts up to the first slash, so in
particular if the path begins at the root. -/
theorem file_url_read_back (hbackend : c.backend = .ok .sqlite) (hdatabase : c.database ≠ "")
    (hoptions : ∀ name ∈ c.options.keys, name ∉ liftedNames) :
    ∃ url, c.toUrl = .ok url
      ∧ ((∃ read, ofUrl url = .ok read ∧ read.database = c.database ∧ read.options = c.options) ↔
          c.database = ":memory:"
            ∨ ('?' ∉ c.database.toList ∧ ('#' ∈ c.database.toList → c.options = .empty)
              ∧ ∃ parsed, Url.read url = .ok parsed))
      ∧ ((∀ ch ∈ c.database.toList.takeWhile (· != '/'), isForbiddenInHost ch = false) →
          ∃ parsed, Url.read url = .ok parsed) := by
  have hwritten : c.toUrl = .ok c.fileUrl := by
    rw [toUrl, hbackend]
    rfl
  refine ⟨_, hwritten, ?_, fun hfirst => ?_⟩
  · by_cases hmemory : c.database = ":memory:"
    · refine iff_of_true ⟨_, ofUrl_memory hmemory hoptions, hmemory.symm, rfl⟩ (.inl hmemory)
    · constructor
      · rintro ⟨read, hok, hsame, hkept⟩
        cases hread : Url.read c.fileUrl with
        | error fault =>
          rw [ofUrl, hread] at hok
          cases hok
        | ok url =>
          -- what comes back is cut off at a question mark, so there is none in a path that comes
          -- back
          have hquestion : '?' ∉ c.database.toList := by
            intro hmem
            have hcut := database_of_ofUrl_fileUrl hmemory hread hok
            rw [hsame] at hcut
            rw [hcut] at hmem
            exact absurd (List.mem_takeWhile_imp hmem) (by simp)
          rw [ofUrl_fileUrl hmemory hdatabase hoptions hquestion hread] at hok
          obtain rfl := Except.ok.inj hok
          refine .inr ⟨hquestion, fun hnumber => ?_, url, rfl⟩
          rw [← hkept]
          exact if_pos hnumber
      · -- conversely, each of the two ways that are left brings both back
        rintro (h | ⟨hquestion, hnumber, url, hread⟩)
        · exact absurd h hmemory
        · refine ⟨_, ofUrl_fileUrl hmemory hdatabase hoptions hquestion hread, rfl, ?_⟩
          show (if _ then _ else _) = _
          split
          next h => exact (hnumber h).symm
          next => rfl
  · refine exists_read_fileUrl (fun hmemory => ?_) hfirst
    rw [hmemory] at hfirst
    exact absurd (hfirst ':' (by decide)) (by decide)

/-- A path from the root with a space in it, and options that have to be encoded. -/
theorem file_url_read_back_root :
    let c :=
      { sqlite "/data/my app.db" with options := Dict.ofList [("mode", "rwc"), ("name", "a&b=c")] }
    ∃ url read, c.toUrl = .ok url ∧ ofUrl url = .ok read ∧ read.database = c.database
      ∧ read.options = c.options := by
  intro c
  have hback := file_url_read_back (c := c) (Backend.ofName_name .sqlite) (by decide) (by decide)
  obtain ⟨url, hurl, hiff, hread⟩ := hback
  have hfirst : ∀ ch ∈ c.database.toList.takeWhile (· != '/'), isForbiddenInHost ch = false :=
    List.all_iff_forall_prop.mp (by decide)
  have hsame := hiff.mpr (.inr ⟨by decide, fun hnumber => absurd hnumber (by decide), hread hfirst⟩)
  obtain ⟨read, hok, hdatabase, hoptions⟩ := hsame
  exact ⟨url, read, hurl, hok, hdatabase, hoptions⟩

/-- A path with a space is refused as a host, and one with a question mark is cut off there; what
stands behind it becomes an option. -/
theorem paths_do_not_come_back :
    (sqlite "my app.db").toUrl = .ok "sqlite://my app.db"
      ∧ ofUrl "sqlite://my app.db" = .error
        (.configuration "Invalid database URL: invalid domain character")
      ∧ (sqlite "what?.db").toUrl = .ok "sqlite://what?.db"
      ∧ (ofUrl "sqlite://what?.db").toOption.map Connection.database = some "what" := by
  have hread : Url.read "sqlite://my app.db" = .error .hostCharacter := by rfl
  refine ⟨rfl, ?_, rfl, by decide +kernel⟩
  rw [ofUrl, hread]
  rfl

end EntityMapper.Connection
