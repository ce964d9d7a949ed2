import EntityMapper.Proofs.Connection.Parameters
import EntityMapper.Proofs.Results
import EntityMapper.Proofs.Url.Authority

/-!
# Blanks around a URL

Controls and spaces around a URL are passed over when it is read, and what is taken from the URL as
it was read does not depend on them. The path of a file is cut out of the text as it was given: what
stands in front of the URL shifts the cut, so that the path comes with more in front, and what
stands behind a path goes to the path.

## Structure

* `significant_prepend`, `significant_append_outer` — reading a URL does not see what is put around
  it (`read_prepend`, `read_append_outer`).
* `unslashed` — what a path is cut from: the text behind the first two slashes in front. What is put
  in front of the text shifts this cut, and `exists_filePath_prepend` says by how much.
* `exists_front_of_read` — the converse for texts that are URLs: the scheme is in front, with
  nothing but outer characters before it.
* `ofUrl_padded` — both readings of a text with blanks around it.
-/

namespace EntityMapper

namespace Url

variable {s w : List Char}

/-! ## What counts of a padded text

`significant` leaves out what is around a URL. So everything that is read from it alone is the same
with padding and without. -/

/-- What is outside of a URL is passed over in front of it. -/
theorem significant_prepend (hw : ∀ c ∈ w, isOuter c = true) (s : List Char) :
    significant (w ++ s) = significant s := by
  rw [significant, significant, List.dropWhile_append_of_pos hw]

/-- Outer characters behind a text do not count. -/
theorem significant_append_outer (hw : ∀ c ∈ w, isOuter c = true) (s : List Char) :
    significant (s ++ w) = significant s := by
  have hreverse : ∀ c ∈ w.reverse, isOuter c = true := fun c hc => hw c (List.mem_reverse.mp hc)
  rw [significant, significant, List.dropWhile_append]
  split
  next hempty =>
    -- the whole text is outside of the URL
    rw [List.isEmpty_iff.mp hempty, List.dropWhile_eq_nil_iff.mpr hw]
  next =>
    show ((_ ++ w).reverse.dropWhile isOuter).reverse.filter _ = _
    rw [List.reverse_append, List.dropWhile_append_of_pos hreverse]

/-- So a URL is read alike with controls and spaces in front of it. -/
theorem read_prepend {pad : String} (hpad : ∀ c ∈ pad.toList, isOuter c = true) (text : String) :
    read (pad ++ text) = read text := by
  rw [read, read, String.toList_append, significant_prepend hpad]

theorem read_append_outer {pad : String} (hpad : ∀ c ∈ pad.toList, isOuter c = true)
    (text : String) :
    read (text ++ pad) = read text := by
  rw [read, read, String.toList_append, significant_append_outer hpad]

/-! ## Where the scheme ends

In the text as it was given there may be characters between those of the scheme that do not count.
-/

/-- What counts of a text is what is kept of a part of it, around which nothing counts. -/
theorem exists_significant (s : List Char) :
    ∃ before core after, s = before ++ (core ++ after) ∧ (∀ c ∈ before, isOuter c = true)
      ∧ significant s = core.filter fun c => !isDropped c := by
  have hbefore : s.takeWhile isOuter ++ s.dropWhile isOuter = s := List.takeWhile_append_dropWhile
  have hafter : ((s.dropWhile isOuter).reverse.dropWhile isOuter).reverse
      ++ ((s.dropWhile isOuter).reverse.takeWhile isOuter).reverse = s.dropWhile isOuter := by
    rw [← List.reverse_append, List.takeWhile_append_dropWhile, List.reverse_reverse]
  exact ⟨_, _, _, by rw [hafter, hbefore], fun c => List.mem_takeWhile_imp, rfl⟩

/-- A character of what counts is found again in the text, with at least as many characters in front
of it. Those in front count as well, or are outer ones. -/
theorem exists_of_significant {written behind : List Char} {c : Char}
    (h : significant s = written ++ c :: behind) :
    ∃ front back, s = front ++ c :: back ∧ written.length ≤ front.length
      ∧ ∀ d ∈ front, d ∈ written ∨ isOuter d = true := by
  obtain ⟨before, core, after, rfl, hbefore, hcore⟩ := exists_significant s
  -- the core is cut where its kept characters are cut, and what is dropped before `c` goes to the
  -- front
  obtain ⟨front, tail, rfl, hfront, htail⟩ := List.filter_eq_append_iff.mp (hcore.symm.trans h)
  obtain ⟨skipped, back, rfl, hskipped, -, -⟩ := List.filter_eq_cons_iff.mp htail
  refine ⟨before ++ front ++ skipped, back ++ after, by simp, ?_, fun d hd => ?_⟩
  · have hlength : written.length ≤ front.length := hfront ▸ List.length_filter_le _ front
    rw [List.length_append, List.length_append]
    omega
  · rw [List.mem_append, List.mem_append] at hd
    rcases hd with (hd | hd) | hd
    · exact .inr (hbefore d hd)
    · cases hdropped : isDropped d with
      | true => exact .inr (isOuter_of_isDropped hdropped)
      | false => exact .inl (hfront ▸ List.mem_filter.mpr ⟨hd, by rw [hdropped]; rfl⟩)
    · exact .inr (isOuter_of_isDropped (by simpa using hskipped d hd))

/-- The scheme was written in characters of schemes, of which there are as many as it has, and a
colon stands behind it. -/
theorem exists_of_scheme? {scheme rest : List Char} (h : scheme? s = some (scheme, rest)) :
    ∃ written, s = written ++ ':' :: rest ∧ written.length = scheme.length
      ∧ ∀ c ∈ written, isSchemeChar c = true := by
  have hcut : s.takeWhile isSchemeChar ++ s.dropWhile isSchemeChar = s :=
    List.takeWhile_append_dropWhile
  rw [scheme?] at h
  split at h
  next behind hbehind =>
    obtain ⟨-, h⟩ := Option.ite_none_right_eq_some.mp h
    obtain ⟨rfl, rfl⟩ := Prod.mk.inj (Option.some.inj h)
    rw [hbehind] at hcut
    exact ⟨_, hcut.symm, (List.length_map _).symm, fun c => List.mem_takeWhile_imp⟩
  next => cases h

/-- Whatever is read as a URL has its scheme from the front of what counts. -/
theorem exists_scheme_of_read {text : String} {url : Url} (h : read text = .ok url) :
    ∃ rest, scheme? (significant text.toList) = some (url.scheme.toList, rest) := by
  rw [read] at h
  cases hscheme : scheme? (significant text.toList) with
  | none => rw [hscheme] at h; cases h
  | some found =>
    obtain ⟨scheme, rest⟩ := found
    rw [hscheme] at h
    suffices url.scheme = String.ofList scheme by
      rw [this, String.toList_ofList]
      exact ⟨rest, rfl⟩
    -- of whatever family the scheme is, the URL has it as it was found
    dsimp only at h
    split at h
    next port _ =>
      obtain ⟨place, -, rfl⟩ := exists_of_made h
      rfl
    next =>
      split at h
      next =>
        obtain ⟨place, -, rfl⟩ := exists_of_made h
        rfl
      next => exact Except.ok.inj h ▸ rfl
    next =>
      split at h
      next behind =>
        obtain ⟨place, -, rfl⟩ := exists_of_made h
        rfl
      next => exact Except.ok.inj h ▸ rfl

/-- In front of the colon that ends the scheme there are at least as many characters as the scheme
has, and none that begins a path, a query or a fragment. -/
theorem exists_front_of_read {text : String} {url : Url} (h : read text = .ok url) :
    ∃ front back, text.toList = front ++ ':' :: back ∧ url.scheme.length ≤ front.length
      ∧ ∀ c ∈ front, c ≠ '/' ∧ c ≠ '?' := by
  obtain ⟨rest, hscheme⟩ := exists_scheme_of_read h
  obtain ⟨written, hwritten, hlength, hchars⟩ := exists_of_scheme? hscheme
  obtain ⟨front, back, htext, hle, hfront⟩ := exists_of_significant hwritten
  refine ⟨front, back, htext, ?_, fun c hc => ?_⟩
  · rwa [← String.length_toList, ← hlength]
  · constructor <;> rintro rfl
    · exact (hfront _ hc).elim (fun hmem => absurd (hchars _ hmem) (by decide))
        (absurd · (by decide))
    · exact (hfront _ hc).elim (fun hmem => absurd (hchars _ hmem) (by decide))
        (absurd · (by decide))

end Url

namespace Connection

/-! ## The cut

`filePath` counts characters from the front of the text as it was given, as many as the scheme has
and one for the colon. That is the right place only if nothing stands in front of the scheme and
nothing in it was dropped; in any case it is not behind the colon. -/

/-- A place without the two slashes that it may begin with. -/
def unslashed : List Char → List Char
  | '/' :: '/' :: rest => rest
  | place => place

/-- What is left without the slashes is the end of the place. -/
theorem unslashed_suffix (s : List Char) : unslashed s <:+ s := by
  unfold unslashed
  split
  next rest => exact ⟨['/', '/'], rfl⟩
  next => exact List.suffix_refl s

/-- Without two slashes in front, all of it is left. -/
theorem unslashed_eq_self {s : List Char} (h : ¬ ['/', '/'] <+: s) : unslashed s = s := by
  unfold unslashed
  split
  next rest => exact absurd ⟨rest, rfl⟩ h
  next => rfl

/-- Slashes are looked for in front only, and nothing that is put behind adds one. -/
theorem unslashed_append {w : List Char} (hw : '/' ∉ w) (s : List Char) :
    unslashed (s ++ w) = unslashed s ++ w := by
  by_cases hs : ['/', '/'] <+: s
  · obtain ⟨rest, rfl⟩ := hs
    rfl
  · rw [unslashed_eq_self hs, unslashed_eq_self]
    rintro ⟨rest, heq⟩
    rcases List.append_eq_append_iff.mp heq with ⟨more, hmore, -⟩ | ⟨slashes, hslashes, hrest⟩
    · exact hs ⟨more, hmore.symm⟩
    · cases slashes with
      | nil => exact hs ⟨[], by rw [hslashes, List.append_nil, List.append_nil]⟩
      | cons c slashes =>
        -- the second slash would be one of those that were put behind
        have hc : c ∈ ['/', '/'] := hslashes ▸ by simp
        obtain rfl : c = '/' := by simpa using hc
        exact hw (hrest ▸ by simp)

/-- No question mark is among the slashes, so it does not matter what is cut off first. -/
theorem takeWhile_unslashed (s : List Char) :
    (unslashed s).takeWhile (· != '?') = unslashed (s.takeWhile (· != '?')) := by
  by_cases hs : ['/', '/'] <+: s
  · obtain ⟨rest, rfl⟩ := hs
    rfl
  · rw [unslashed_eq_self hs, unslashed_eq_self fun h => hs (h.trans (List.takeWhile_prefix _))]

/-- The path is what stands behind as many characters as the scheme has and the colon, up to the
first question mark; in front of that many there is none. -/
theorem filePath_append {n : Nat} {front : List Char} (hn : n < front.length) (hfront : '?' ∉ front)
    (back : List Char) :
    filePath n (front ++ back) = unslashed (front.drop (n + 1) ++ back.takeWhile (· != '?')) := by
  have hkept : ∀ c ∈ front.drop (n + 1), (c != '?') = true := fun c hc => by
    simpa using fun heq : c = '?' => hfront (heq ▸ List.mem_of_mem_drop hc)
  show (unslashed ((front ++ back).drop (n + 1))).takeWhile (· != '?') = _
  rw [takeWhile_unslashed, List.drop_append_of_le_length hn, List.takeWhile_append_of_pos hkept]

/-- Blanks in front of a text bring more of it into the path.

The cut is as many characters behind the front of the text as before, so it moves into what was in
front of the path. Both paths end with the text up to the first question mark, and the shorter one
ends the longer one. -/
theorem exists_filePath_prepend {n : Nat} {front w : List Char} (hn : n < front.length)
    (hfront : ∀ c ∈ front, c ≠ '/' ∧ c ≠ '?') (hw : ∀ c ∈ w, c ≠ '/' ∧ c ≠ '?') (back : List Char) :
    ∃ before, filePath n (w ++ (front ++ back)) = before ++ filePath n (front ++ back)
      ∧ (before = [] ↔ w = []) := by
  by_cases hne : w = []
  · subst hne
    exact ⟨[], rfl, Iff.rfl⟩
  · have hwfront : ∀ c ∈ w ++ front, c ≠ '/' ∧ c ≠ '?' := List.forall_mem_append.mpr ⟨hw, hfront⟩
    have hlength : 0 < w.length := List.length_pos_iff.mpr hne
    -- the cut is in front of the colon, so no slashes stand behind it
    have hplace : unslashed ((w ++ front).drop (n + 1) ++ back.takeWhile (· != '?')) =
        (w ++ front).drop (n + 1) ++ back.takeWhile (· != '?') := by
      refine unslashed_eq_self fun ⟨rest, hrest⟩ => ?_
      cases hdrop : (w ++ front).drop (n + 1) with
      | nil =>
        have hnil := List.drop_eq_nil_iff.mp hdrop
        rw [List.length_append] at hnil
        omega
      | cons c more =>
        rw [hdrop] at hrest
        obtain ⟨rfl, -⟩ := List.cons.inj hrest
        exact (hwfront '/' (List.mem_of_mem_drop (hdrop ▸ List.mem_cons_self))).1 rfl
    have hlonger : n < (w ++ front).length := by rw [List.length_append]; omega
    have hpath := filePath_append hn (fun hmem => (hfront _ hmem).2 rfl) back
    have hpadded := filePath_append hlonger (fun hmem => (hwfront _ hmem).2 rfl) back
    rw [hplace] at hpadded
    -- both paths stand at the end of the same text, and the one of the padded text is longer
    have hdrop : ∀ a b : List Char, a.drop (n + 1) ++ b <:+ a ++ b := fun a b =>
      ⟨a.take (n + 1), by rw [← List.append_assoc, List.take_append_drop]⟩
    have hshort : filePath n (front ++ back) <:+ (w ++ front) ++ back.takeWhile (· != '?') := by
      rw [hpath, List.append_assoc]
      exact ((unslashed_suffix _).trans (hdrop _ _)).trans (List.suffix_append w _)
    have hlong :
        filePath n ((w ++ front) ++ back) <:+ (w ++ front) ++ back.takeWhile (· != '?') := by
      rw [hpadded]
      exact hdrop _ _
    have hlt :
        (filePath n (front ++ back)).length < (filePath n ((w ++ front) ++ back)).length := by
      have hle := (unslashed_suffix (front.drop (n + 1) ++ back.takeWhile (· != '?'))).length_le
      rw [hpath, hpadded]
      simp only [List.length_append, List.length_drop] at hle ⊢
      omega
    obtain ⟨before, hbefore⟩ := List.suffix_of_suffix_length_le hshort hlong (Nat.le_of_lt hlt)
    rw [← List.append_assoc]
    refine ⟨before, hbefore.symm, iff_of_false ?_ hne⟩
    rintro rfl
    rw [← hbefore] at hlt
    exact absurd hlt (Nat.lt_irrefl _)

/-- Blanks behind a text belong to its path, unless the path has ended before. -/
theorem filePath_append_blank {n : Nat} {front w : List Char} (hn : n < front.length)
    (hfront : '?' ∉ front) (hw : ∀ c ∈ w, c ≠ '/' ∧ c ≠ '?') (back : List Char) :
    filePath n (front ++ back ++ w) =
      if '?' ∈ front ++ back then filePath n (front ++ back)
        else filePath n (front ++ back) ++ w := by
  have hmem : '?' ∈ front ++ back ↔ '?' ∈ back := by rw [List.mem_append, or_iff_right hfront]
  have hblank : ∀ c ∈ w, (c != '?') = true := fun c hc => by simpa using (hw c hc).2
  rw [List.append_assoc, filePath_append hn hfront, filePath_append hn hfront]
  split
  next hquestion =>
    -- a question mark ends the path before the blanks
    have hlength : (back.takeWhile (· != '?')).length ≠ back.length := fun heq => by
      have hself := (List.takeWhile_prefix (· != '?')).eq_of_length heq
      simpa using List.takeWhile_eq_self_iff.mp hself '?' (hmem.mp hquestion)
    rw [List.takeWhile_append, if_neg hlength]
  next hquestion =>
    -- without one, the path goes on to the end of the text
    have hback : ∀ c ∈ back, (c != '?') = true := fun c hc => by
      simpa using fun heq : c = '?' => hquestion (hmem.mpr (heq ▸ hc))
    rw [List.takeWhile_append_of_pos hback, List.takeWhile_eq_self_iff.mpr hback,
      List.takeWhile_eq_self_iff.mpr hblank, ← List.append_assoc,
      unslashed_append fun h => (hw _ h).1 rfl]

/-! ## Reading a padded URL

What a connection takes from the URL, and what from the text. Everything but the database of a file
comes from the URL (`ofUrl_file_of_path`). -/

variable {u w : String} {c : Connection}

/-- What the settings of a server are for is the driver of servers. -/
theorem driver_of_ofServerUrl {url : Url} (h : ofServerUrl url = .ok c) :
    c.driver = Backend.postgres.name := by
  unfold ofServerUrl at h
  cases hhost : url.host? with
  | none => rw [hhost] at h; cases h
  | some host =>
    rw [hhost] at h
    dsimp only [bind, Except.bind, pure, Except.pure] at h
    split at h
    next => cases h
    next => exact Except.ok.inj h ▸ rfl

/-- What a text stands for was read from it as a URL, and has the backend of its scheme for its
driver, by the name of the backend. -/
theorem exists_driver_of_ofUrl (h : ofUrl u = .ok c) :
    ∃ url b, Url.read u = .ok url ∧ Backend.ofName url.scheme = .ok b ∧ c.driver = b.name := by
  cases hread : Url.read u with
  | error fault => rw [ofUrl, hread] at h; cases h
  | ok url =>
    cases hbackend : Backend.ofName url.scheme with
    | error e =>
      rw [ofUrl, hread] at h
      have h : (Backend.ofName url.scheme >>= _) = Except.ok c := h
      rw [hbackend] at h
      cases h
    | ok b =>
      refine ⟨url, b, rfl, hbackend, ?_⟩
      -- both backends bring their name, and no parameter changes it
      cases b with
      | sqlite =>
        rw [ofUrl_file hread hbackend rfl] at h
        rw [← Url.eq_of_ite_error h, driver_foldl_addParameter]
        rfl
      | postgres =>
        rw [ofUrl_of_read hread hbackend] at h
        have h : (ofServerUrl url).map _ = Except.ok c := h
        cases hsettings : ofServerUrl url with
        | error e => rw [hsettings] at h; cases h
        | ok settings =>
          rw [hsettings] at h
          rw [← Except.ok.inj h, driver_foldl_addParameter, driver_of_ofServerUrl hsettings]

/-- So the backend of a connection is that of its scheme. -/
theorem exists_of_ofUrl (h : ofUrl u = .ok c) :
    ∃ url b, Url.read u = .ok url ∧ Backend.ofName url.scheme = .ok b ∧ c.backend = .ok b := by
  obtain ⟨url, b, hread, hscheme, hdriver⟩ := exists_driver_of_ofUrl h
  exact ⟨url, b, hread, hscheme, by rw [backend, hdriver, Backend.ofName_name]⟩

/-- With another path in front of the same parameters, a URL stands for the same connection to
another file. -/
theorem ofUrl_file_of_path {text other : String} {url : Url} {path path' : List Char}
    (hread : Url.read text = .ok url) (hread' : Url.read other = .ok url)
    (hbackend : Backend.ofName url.scheme = .ok .sqlite)
    (hpath : filePath url.scheme.length text.toList = path) (hok : ofUrl text = .ok c)
    (hpath' : filePath url.scheme.length other.toList = path') (hne : path' ≠ []) :
    c.database = String.ofList path
      ∧ ofUrl other = .ok { c with database := String.ofList path' } := by
  rw [ofUrl_file hread hbackend hpath] at hok
  obtain rfl := Url.eq_of_ite_error hok
  refine ⟨database_foldl_addParameter _ _, ?_⟩
  rw [ofUrl_file hread' hbackend hpath', if_neg (by simpa using hne), ← foldl_addParameter_beside,
    driver_foldl_addParameter]
  rfl

/-- **What blanks around a URL do.** Whatever a text stands for, with controls and spaces in front
of it or behind it the URL is read alike, and of a server it is the same connection. Of a file, the
path has more in front of it as soon as there is anything in front of the text, and what stands
behind the text behind it, unless there is a question mark in the text. -/
theorem ofUrl_padded (hw : ∀ ch ∈ w.toList, Url.isOuter ch = true) (hok : ofUrl u = .ok c) :
    Url.read (w ++ u) = Url.read u ∧ Url.read (u ++ w) = Url.read u
    ∧ (c.backend = .ok .postgres → ofUrl (w ++ u) = .ok c ∧ ofUrl (u ++ w) = .ok c)
    ∧ (c.backend = .ok .sqlite →
      (∃ before, ofUrl (w ++ u) = .ok { c with database := before ++ c.database }
        ∧ (before = "" ↔ w = ""))
      ∧ ofUrl (u ++ w) = .ok { c with database := if '?' ∈ u.toList then c.database
          else c.database ++ w }) := by
  obtain ⟨url, b, hread, hscheme, hbackend⟩ := exists_of_ofUrl hok
  have hprepend := (Url.read_prepend hw u).trans hread
  have happend := (Url.read_append_outer hw u).trans hread
  refine ⟨Url.read_prepend hw u, Url.read_append_outer hw u, fun hpostgres => ?_, fun hsqlite => ?_⟩
  · -- of a server nothing is taken from the text
    obtain rfl : b = .postgres := Except.ok.inj (hbackend.symm.trans hpostgres)
    rw [ofUrl_of_read hprepend hscheme, ofUrl_of_read happend hscheme, ← hok,
      ofUrl_of_read hread hscheme]
    exact ⟨rfl, rfl⟩
  · obtain rfl : b = .sqlite := Except.ok.inj (hbackend.symm.trans hsqlite)
    obtain ⟨front, back, htext, hlength, hfront⟩ := Url.exists_front_of_read hread
    have hblank : ∀ ch ∈ w.toList, ch ≠ '/' ∧ ch ≠ '?' := fun ch hch => by
      constructor <;> rintro rfl <;> exact absurd (hw _ hch) (by decide)
    -- with the colon, the front of the text is longer than the scheme
    generalize hn : url.scheme.length = n at hlength
    have hcolon : ∀ ch ∈ front ++ [':'], ch ≠ '/' ∧ ch ≠ '?' :=
      List.forall_mem_append.mpr ⟨hfront, List.forall_mem_singleton.mpr (by decide)⟩
    have hlonger : n < (front ++ [':']).length := by
      rw [List.length_append, List.length_singleton]
      omega
    have htext : u.toList = (front ++ [':']) ++ back := by
      rw [htext, List.append_assoc, List.singleton_append]
    have hpath : filePath url.scheme.length u.toList ≠ [] := by
      intro hnil
      rw [ofUrl_file hread hscheme hnil] at hok
      cases hok
    constructor
    · obtain ⟨before, hbefore, hnil⟩ := exists_filePath_prepend hlonger hcolon hblank back
      rw [← htext, ← String.toList_append, ← hn] at hbefore
      obtain ⟨hdatabase, hother⟩ :=
        ofUrl_file_of_path hread hprepend hscheme rfl hok hbefore (by simp [hpath])
      refine ⟨String.ofList before, ?_, ?_⟩
      · rw [hother, hdatabase, String.ofList_append]
      · rw [String.ofList_eq_empty_iff, hnil, String.toList_eq_nil_iff]
    · have happended :=
        filePath_append_blank hlonger (fun hmem => (hcolon _ hmem).2 rfl) hblank back
      rw [← htext, ← String.toList_append, ← hn] at happended
      obtain ⟨hdatabase, hother⟩ := ofUrl_file_of_path hread happend hscheme rfl hok happended
        (by split <;> simp [hpath])
      rw [hother, hdatabase]
      split
      next => rfl
      next => rw [String.ofList_append, String.ofList_toList]

/-- A database in memory, with a line feed and a space on either side. -/
theorem ofUrl_padded_memory :
    (∀ ch ∈ "\n ".toList, Url.isOuter ch = true) ∧ ofUrl "sqlite::memory:" = .ok (sqlite ":memory:")
    ∧ (∃ before, ofUrl ("\n " ++ "sqlite::memory:") = .ok (sqlite (before ++ ":memory:"))
      ∧ before ≠ "")
    ∧ ofUrl ("sqlite::memory:" ++ "\n ") = .ok (sqlite ":memory:\n ") := by
  have hw : ∀ ch ∈ "\n ".toList, Url.isOuter ch = true := List.all_eq_true.mp (by decide)
  have hok : ofUrl "sqlite::memory:" = .ok (sqlite ":memory:") := rfl
  obtain ⟨-, -, -, hfile⟩ := ofUrl_padded hw hok
  obtain ⟨⟨before, hbefore, hempty⟩, hafter⟩ := hfile (Backend.ofName_name .sqlite)
  exact ⟨hw, hok, ⟨before, hbefore, fun h => absurd (hempty.mp h) (by decide)⟩, hafter⟩

/-- A blank in front of a URL brings its colon into the path, and a line end behind it ends up in
the path. -/
theorem blanks_reach_the_path :
    Url.isOuter ' ' = true ∧ Url.isOuter '\n' = true
    ∧ ofUrl "sqlite:app.db" = .ok (sqlite "app.db")
    ∧ ofUrl (" " ++ "sqlite:app.db") = .ok (sqlite ":app.db")
    ∧ ofUrl ("sqlite:app.db" ++ "\n") = .ok (sqlite "app.db\n") :=
  ⟨by decide, by decide, rfl, rfl, rfl⟩

end Connection

end EntityMapper
