import EntityMapper.Proofs.Url.Path
import EntityMapper.Url.Reader

/-!
# Reading what a URL shows

A URL whose parts are all in the form in which reading leaves them is read back from its text
(`read_text`).

## Structure

* `Authority.Canonical`, `Canonical` — an authority and a URL with each part as it is shown.
* `counted` — what counts of a text behind the beginning of a URL.
* `readHostAndPort_append`, `user_userChars` — the parts of an authority are read back.
* `cutUser_eq` — the authority is divided where it was joined.
* `readAuthority_text`, `afterAuthority_eq` — the two halves of a URL.

The reader itself works on any text. What is shown here is only about texts that were written by
`Url.text`; other texts are the concern of the module on authorities.
-/

namespace EntityMapper.Url

/-! ## Characters that count

Before anything is read, controls and spaces at the ends are dropped, and tabs and line ends
everywhere. A URL that is shown has neither, so `significant` leaves it alone; and of a text behind
the beginning of a URL, `counted` says what is left. -/

/-- Controls are encoded everywhere, so a character that is kept somewhere is none. -/
theorem isOuter_of_not_isOpaqueEncoded {c : Char} (h : isOpaqueEncoded c = false)
    (hspace : c ≠ ' ') :
    isOuter c = false := by
  simp only [isOpaqueEncoded, Bool.or_eq_false_iff, decide_eq_false_iff_not] at h
  have hne : c.toNat ≠ 0x20 := fun heq => hspace (Char.toNat_inj.mp heq)
  simp only [isOuter, decide_eq_false_iff_not]
  omega

/-- In paths and queries spaces are encoded as well. -/
theorem isOuter_of_not_isPathEncoded {c : Char} (h : isPathEncoded c = false) :
    isOuter c = false := by
  refine isOuter_of_not_isOpaqueEncoded (isOpaqueEncoded_of_not_isPathEncoded h) ?_
  rintro rfl
  exact absurd h (by decide)

theorem isOuter_of_not_isQueryEncoded {c : Char} (h : isQueryEncoded c = false) :
    isOuter c = false := by
  refine isOuter_of_not_isOpaqueEncoded (isOpaqueEncoded_of_not_isQueryEncoded h) ?_
  rintro rfl
  exact absurd h (by decide)

theorem isOuter_of_isAlphanum {c : Char} (h : c.isAlphanum = true) : isOuter c = false :=
  isOuter_of_not_isPathEncoded
    (isPathEncoded_of_not_isUserEncoded (not_isEncoded_of_isAlphanum h).1)

/-- What is dropped within a text is also dropped at its ends. -/
theorem isOuter_of_isDropped {c : Char} (h : isDropped c = true) : isOuter c = true := by
  simp only [isDropped, Bool.or_eq_true, beq_iff_eq] at h
  obtain (rfl | rfl) | rfl := h <;> decide

theorem filter_isDropped_eq_self {s : List Char} (h : ∀ c ∈ s, isOuter c = false) :
    s.filter (fun c => !isDropped c) = s := by
  refine List.filter_eq_self.mpr fun c hc => ?_
  cases hdropped : isDropped c with
  | false => rfl
  | true => exact absurd (isOuter_of_isDropped hdropped) (by simp [h c hc])

theorem dropWhile_isOuter_eq_self {s : List Char} (h : ∀ c ∈ s, isOuter c = false) :
    s.dropWhile isOuter = s := by
  cases s with
  | nil => rfl
  | cons c rest => rw [List.dropWhile_cons_of_neg (by simp [h c])]

/-- What counts of a text that does not stand at the beginning of a URL. -/
def counted (s : List Char) : List Char :=
  (s.reverse.dropWhile isOuter).reverse.filter fun c => !isDropped c

theorem mem_of_mem_counted {s : List Char} {c : Char} (h : c ∈ counted s) : c ∈ s := by
  have hc := (List.mem_filter.mp h).1
  rw [List.mem_reverse] at hc
  exact List.mem_reverse.mp ((List.dropWhile_sublist _).mem hc)

/-- In front of something that counts as it is, only the characters are lost that count nowhere. -/
theorem counted_append {t : List Char} (hne : t ≠ []) (h : ∀ c ∈ t, isOuter c = false)
    (s : List Char) :
    counted (s ++ t) = s.filter (fun c => !isDropped c) ++ t := by
  have hreverse : ∀ c ∈ t.reverse, isOuter c = false := fun c hc => h c (List.mem_reverse.mp hc)
  have hkept : t.reverse.dropWhile isOuter = t.reverse := dropWhile_isOuter_eq_self hreverse
  have hend : (s ++ t).reverse.dropWhile isOuter = t.reverse ++ s.reverse := by
    rw [List.reverse_append, List.dropWhile_append, hkept, if_neg (by simpa using hne)]
  rw [counted, hend, List.reverse_append, List.reverse_reverse, List.reverse_reverse,
    List.filter_append, filter_isDropped_eq_self h]

/-- Behind the beginning of a URL, all that counts of a text is what counts of it alone. -/
theorem significant_append {front : List Char} (hne : front ≠ [])
    (h : ∀ c ∈ front, isOuter c = false)
    (s : List Char) : significant (front ++ s) = front ++ counted s := by
  have hreverse : ∀ c ∈ front.reverse, isOuter c = false := fun c hc => h c (List.mem_reverse.mp hc)
  have hstart : (front ++ s).dropWhile isOuter = front ++ s := by
    rw [List.dropWhile_append, dropWhile_isOuter_eq_self h, if_neg (by simpa using hne)]
  -- from behind, nothing of the front is lost
  have hend : (front ++ s).reverse.dropWhile isOuter = s.reverse.dropWhile isOuter
      ++ front.reverse := by
    rw [List.reverse_append, List.dropWhile_append]
    split
    next hempty =>
      rw [List.isEmpty_iff.mp hempty, List.nil_append, dropWhile_isOuter_eq_self hreverse]
    next => rfl
  show ((((front ++ s).dropWhile isOuter).reverse.dropWhile isOuter).reverse).filter _ = _
  rw [hstart, hend, List.reverse_append, List.reverse_reverse, List.filter_append,
    filter_isDropped_eq_self h]
  rfl

/-- A text without controls and spaces is read as it is. -/
theorem significant_eq_self {s : List Char} (h : ∀ c ∈ s, isOuter c = false) :
    significant s = s := by
  by_cases hne : s = []
  · rw [hne]
    rfl
  · have happend := significant_append hne h []
    rwa [List.append_nil, show counted [] = [] from rfl, List.append_nil] at happend

/-! ## Schemes

A scheme ends at its colon. -/

/-- A scheme in lower case is read up to its colon. -/
theorem scheme?_append {scheme : List Char} (hne : scheme ≠ []) (h : ∀ c ∈ scheme, c.isLower = true)
    (rest : List Char) : scheme? (scheme ++ ':' :: rest) = some (scheme, rest) := by
  have hchars : ∀ c ∈ scheme, isSchemeChar c = true := by
    intro c hc
    simp [isSchemeChar, Ascii.isAlphanum_of_isAlpha (Ascii.isAlpha_of_isLower (h c hc))]
  -- the colon is no character of a scheme
  have hcolon : ∀ c ∈ (':' :: rest).head?, isSchemeChar c = false :=
    fun c hc => Option.some.inj hc ▸ rfl
  have hhead : ∃ c, scheme.head? = some c ∧ c.isAlpha = true := by
    exact ⟨_, List.head?_eq_some_head hne, Ascii.isAlpha_of_isLower (h _ (List.head_mem hne))⟩
  have hlower : scheme.map Char.toLower = scheme := by
    exact (List.map_congr_left fun c hc => Ascii.toLower_of_isLower (h c hc)).trans (List.map_id _)
  obtain ⟨c, hc, halpha⟩ := hhead
  rw [scheme?, takeWhile_append hchars hcolon, dropWhile_append hchars hcolon]
  simp [hc, halpha, hlower]

/-! ## Users

The user stands in front of the last at sign of an authority, and the name in front of the first
colon of that. -/

theorem aroundLast?_of_not_mem {separator : Char} {s : List Char} (h : separator ∉ s) :
    aroundLast? separator s = none := by
  have hnone : s.reverse.dropWhile (· != separator) = [] := by
    refine List.dropWhile_eq_nil_iff.mpr fun c hc => ?_
    simpa using fun heq : c = separator => h (heq ▸ List.mem_reverse.mp hc)
  rw [aroundLast?, hnone]

/-- The last separator is the one that has none behind it. -/
theorem aroundLast?_append {separator : Char} {after : List Char} (h : separator ∉ after)
    (before : List Char) :
    aroundLast? separator (before ++ separator :: after) = some (before, after) := by
  have hafter : ∀ c ∈ after.reverse, (c != separator) = true := by
    intro c hc
    simpa using fun heq : c = separator => h (heq ▸ List.mem_reverse.mp hc)
  have hreverse :
      (before ++ separator :: after).reverse = after.reverse ++ separator :: before.reverse := by
    simp
  rw [aroundLast?, hreverse, List.dropWhile_append_of_pos hafter,
    List.takeWhile_append_of_pos hafter, List.dropWhile_cons_of_neg (by simp),
    List.takeWhile_cons_of_neg (by simp)]
  simp

/-- The characters of user name and password as a URL shows them. -/
def userChars (username : List Char) : Option (List Char) → List Char
  | some password => username ++ ':' :: password
  | none => username

/-- A user is read back: the name has no colon, so the first one is that in front of the password.
-/
theorem user_userChars {username : List Char} (h : ∀ c ∈ username, isUserEncoded c = false)
    {password? : Option (List Char)}
    (hpassword : ∀ p ∈ password?, p ≠ [] ∧ ∀ c ∈ p, isUserEncoded c = false) :
    user (userChars username password?) = (username, password?) := by
  have hcolon : ∀ c ∈ username, (c != ':') = true := by
    intro c hc
    simp only [bne_iff_ne]
    rintro rfl
    exact absurd (h _ hc) (by decide)
  cases password? with
  | none =>
    -- without a colon there is no password
    have hnone : username.dropWhile (· != ':') = [] := List.dropWhile_eq_nil_iff.mpr hcolon
    rw [userChars, user, hnone, List.takeWhile_eq_self_iff.mpr hcolon, encode_eq_self h]
    rfl
  | some password =>
    obtain ⟨hne, hkept⟩ := hpassword password rfl
    have hstop : ∀ c ∈ (':' :: password).head?, (c != ':') = false := by simp
    rw [userChars, user, dropWhile_append hcolon hstop, takeWhile_append hcolon hstop,
      List.drop_one, List.tail_cons, encode_eq_self h]
    cases password with
    | nil => exact absurd rfl hne
    | cons c password => exact congrArg (fun p => (username, some p)) (encode_eq_self hkept)

/-! ## Hosts and ports

A host is measured before it is looked at, and a port is read from what is behind it. For servers
beyond the web a host is any text without punctuation, so both are read back under the conditions of
`PlainHost`. -/

/-- A host that is a name without punctuation, as a URL keeps it. -/
structure PlainHost (host : List Char) : Prop where
  ne_nil : host ≠ []
  kept : ∀ c ∈ host, isForbiddenInHost c = false ∧ isOpaqueEncoded c = false

/-- The end of an authority, or of the whole text. -/
def Beyond (s : List Char) : Prop := ∀ c ∈ s.head?, endsAuthority .other c = true

/-- Beyond the web, an authority ends at one of three characters. -/
theorem endsAuthority_other {c : Char} :
    endsAuthority .other c = true ↔ c = '/' ∨ c = '?' ∨ c = '#' := by
  simp [endsAuthority, Family.foldsBackslash, or_assoc]

/-- An empty host, in front of its port or of what ends the authority. -/
theorem hostLength_of_ends {s : List Char}
    (h : ∀ c ∈ s.head?, c = ':' ∨ endsAuthority .other c = true) :
    hostLength .other false s = 0 := by
  cases s with
  | nil => rfl
  | cons c rest =>
    rw [hostLength, if_pos]
    rcases h c rfl with rfl | hends
    · decide
    · simp [hends]

/-- A host without punctuation goes on up to its port or to the end of the authority. -/
theorem hostLength_append {host rest : List Char} (h : ∀ c ∈ host, isForbiddenInHost c = false)
    (hrest : ∀ c ∈ rest.head?, c = ':' ∨ endsAuthority .other c = true) :
    hostLength .other false (host ++ rest) = host.length := by
  induction host with
  | nil => exact hostLength_of_ends hrest
  | cons c host ih =>
    obtain ⟨hc, hhost⟩ := List.forall_mem_cons.mp h
    -- no character of the host is one at which a host is cut or brackets begin
    have hplain : (c == ':') = false ∧ endsAuthority .other c = false ∧ (c == '[') = false
        ∧ (c == ']') = false := by
      simp only [isForbiddenInHost, Bool.or_eq_false_iff] at hc
      simp [endsAuthority, Family.foldsBackslash, hc]
    rw [List.cons_append, hostLength, if_neg (by simp [hplain])]
    simp only [hplain]
    simp [ih hhost]

theorem plainHost_eq {host : List Char} (h : ∀ c ∈ host, isForbiddenInHost c = false) :
    plainHost host = .ok (encode isOpaqueEncoded host) := by
  unfold plainHost
  split
  next rest => exact absurd (h '[' (by simp)) (by decide)
  next => rw [if_neg (by simpa using h)]

theorem readPort_digits (n : UInt16) {beyond : List Char} (h : Beyond beyond) :
    readPort (Nat.toDigits 10 n.toNat ++ beyond) = .ok (some n, beyond) := by
  have hdigits : ∀ c ∈ Nat.toDigits 10 n.toNat, c.isDigit = true :=
    fun c hc => Nat.isDigit_of_mem_toDigits (by decide) (by decide) hc
  have hstop : ∀ c ∈ beyond.head?, c.isDigit = false := by
    intro c hc
    rcases endsAuthority_other.mp (h c hc) with rfl | rfl | rfl <;> decide
  have hvalue : (Nat.toDigits 10 n.toNat).foldl (fun n c => n * 10 + (c.toNat - '0'.toNat)) 0 =
      n.toNat := by
    have hfold := Nat.ofDigitChars_ten_toDigits (n := n.toNat)
    simpa only [Nat.ofDigitChars, Nat.mul_comm 10] using hfold
  -- a port of sixteen bits is in the range of ports
  have hsize : ¬ 65535 < n.toNat := by
    have hlt : n.toNat < 65536 := n.toNat_lt
    omega
  have hempty : (Nat.toDigits 10 n.toNat).isEmpty = false := by
    rw [List.isEmpty_eq_false_iff]
    exact Nat.toDigits_ne_nil
  rw [readPort]
  simp only [takeWhile_append hdigits hstop, dropWhile_append hdigits hstop, hvalue]
  cases beyond with
  | nil => simp [hsize, hempty]
  | cons c beyond =>
    rcases endsAuthority_other.mp (h c rfl) with rfl | rfl | rfl <;> simp [hsize, hempty]

/-- What stands behind a host: a port after a colon, or at once the rest. -/
def readBehindHost (host s : List Char) : Except Fault (List Char × Option UInt16 × List Char) :=
  if host.isEmpty && s.head? == some ':' then .error .emptyHost
  else
    match s with
    | ':' :: rest => (readPort rest).map fun (port?, rest) => (host, port?, rest)
    | rest => .ok (host, none, rest)

/-- Host and port, one after the other: what is read behind a host depends on the host only by
whether it is empty. -/
theorem readHostAndPort_other (s : List Char) :
    readHostAndPort .other s =
      (plainHost (s.take (hostLength .other false s))).bind fun host =>
        readBehindHost host (s.drop (hostLength .other false s)) := by
  rw [readHostAndPort]
  show (plainHost _ >>= _) = _
  refine congrArg (Except.bind _) (funext fun host => ?_)
  generalize s.drop (hostLength .other false s) = rest
  unfold readBehindHost
  dsimp only
  split
  next => rfl
  next =>
    cases rest with
    | nil => rfl
    | cons c digits =>
      -- a colon is what tells a port from the rest
      by_cases hcolon : c = ':'
      · subst hcolon
        show (readPort digits >>= _) = (readPort digits).map _
        cases readPort digits <;> rfl
      · simp [hcolon, pure, Except.pure]

/-- The port behind its colon, or nothing. -/
def portChars : Option UInt16 → List Char
  | some n => ':' :: Nat.toDigits 10 n.toNat
  | none => []

/-- A port or none is read back behind a host. -/
theorem readBehindHost_portChars {host : List Char} (hne : host ≠ []) (port? : Option UInt16)
    {beyond : List Char} (h : Beyond beyond) :
    readBehindHost host (portChars port? ++ beyond) = .ok (host, port?, beyond) := by
  have hempty : host.isEmpty = false := by simpa using hne
  unfold readBehindHost
  rw [if_neg (by simp [hempty])]
  cases port? with
  | none =>
    rw [portChars, List.nil_append]
    split
    next rest => exact absurd (h ':' rfl) (by decide)
    next => rfl
  | some n =>
    show (readPort (Nat.toDigits 10 n.toNat ++ beyond)).map _ = _
    rw [readPort_digits n h]
    rfl

theorem readHostAndPort_append {host : List Char} (hhost : PlainHost host) (port? : Option UInt16)
    {beyond : List Char} (h : Beyond beyond) :
    readHostAndPort .other (host ++ (portChars port? ++ beyond)) = .ok (host, port?, beyond) := by
  have hrest : ∀ c ∈ (portChars port? ++ beyond).head?, c = ':'
      ∨ endsAuthority .other c = true := by
    cases port? with
    | none => exact fun c hc => .inr (h c hc)
    | some n => exact fun c hc => .inl (Option.some.inj hc).symm
  have hlength := hostLength_append (fun c hc => (hhost.kept c hc).1) hrest
  have hplain : plainHost host = .ok host := by
    rw [plainHost_eq fun c hc => (hhost.kept c hc).1, encode_eq_self fun c hc =>
      (hhost.kept c hc).2]
  rw [readHostAndPort_other, hlength, List.take_left, List.drop_left, hplain]
  exact readBehindHost_portChars hhost.ne_nil port? h

/-! ## Authorities

`Authority.Canonical` asks of each part what is shown of it. The characters of the parts do not
include those at which an authority is divided, and so each part is found where it was written. -/

/-- The authority of a server, with each part in the form in which a URL shows it. -/
structure Authority.Canonical (a : Authority) : Prop where
  host : PlainHost a.host.toList
  username : ∀ c ∈ a.username.toList, isUserEncoded c = false
  password : ∀ p ∈ a.password?, p.toList ≠ [] ∧ ∀ c ∈ p.toList, isUserEncoded c = false

/-- The authority of a text: what stands before the last at sign, if there is one, and what stands
behind it. -/
def cutUser (s : List Char) : List Char × List Char :=
  match aroundLast? '@' (s.takeWhile fun c => !endsAuthority .other c) with
  | some (written, place) => (written, place ++ s.dropWhile fun c => !endsAuthority .other c)
  | none => ([], s)

/-- An authority in three steps: it is divided at its last at sign, host and port are read behind
it, and the user in front of it. -/
theorem readAuthority_other (s : List Char) :
    readAuthority .other s =
      if (cutUser s).1.isEmpty && (s.takeWhile fun c => !endsAuthority .other c).head? == some '@'
          && ((cutUser s).2.head?.map (endsAuthority .other)).getD false then .error .emptyHost
      else (readHostAndPort .other (cutUser s).2).bind fun (host, port?, rest) =>
        if host.isEmpty && !((user (cutUser s).1).1.isEmpty && (user (cutUser s).1).2.isNone) then
          .error .emptyHost
        else
          .ok ({ username := String.ofList (user (cutUser s).1).1
                 password? := (user (cutUser s).1).2.map String.ofList
                 host := String.ofList host
                 port? }, rest) := by
  rfl

namespace Authority

variable {a : Authority}

/-- User name and password as the text of a URL shows them, without the sign that ends them. -/
def userChars (a : Authority) : List Char :=
  Url.userChars a.username.toList (a.password?.map String.toList)

/-- Host and port as the text of a URL shows them. -/
def placeChars (a : Authority) : List Char := a.host.toList ++ portChars a.port?

/-- An authority with the two slashes in front of it. -/
theorem toList_text (a : Authority) :
    a.text.toList = '/' :: '/' :: (a.userText.toList ++ a.placeChars) := by
  rw [text, placeChars]
  cases a.port? with
  | none => simp [portChars]
  | some n => simp [portChars, toString, Nat.toList_repr]

/-- There is a sign behind user name and password just if there are any. -/
theorem toList_userText (a : Authority) :
    (a.userText.toList = [] ∧ a.userChars = []) ∨ a.userText.toList = a.userChars ++ ['@'] := by
  rw [userText, userChars]
  cases a.password? with
  | some password => exact .inr (by simp [Url.userChars])
  | none =>
    dsimp only
    split
    next hempty =>
      have hnone : a.username.toList = [] := by simpa using hempty
      exact .inl ⟨rfl, hnone⟩
    next => exact .inr (by simp [Url.userChars])

namespace Canonical

/-- The characters of a user are kept by users, but for the colon. -/
theorem mem_userChars (h : a.Canonical) {c : Char} (hc : c ∈ a.userChars) :
    isUserEncoded c = false ∨ c = ':' := by
  rw [userChars] at hc
  cases hpassword : a.password? with
  | none =>
    rw [hpassword] at hc
    exact .inl (h.username c hc)
  | some password =>
    rw [hpassword, Option.map_some, Url.userChars, List.mem_append, List.mem_cons] at hc
    rcases hc with hc | hc | hc
    · exact .inl (h.username c hc)
    · exact .inr hc
    · exact .inl ((h.password password hpassword).2 c hc)

/-- Those of a host and a port are plain, or digits, or the colon. -/
theorem mem_placeChars (h : a.Canonical) {c : Char} (hc : c ∈ a.placeChars) :
    (isForbiddenInHost c = false ∧ isOpaqueEncoded c = false) ∨ c = ':' ∨ c.isDigit = true := by
  rw [placeChars, List.mem_append] at hc
  rcases hc with hc | hc
  · exact .inl (h.host.kept c hc)
  · cases hport : a.port? with
    | none =>
      rw [hport] at hc
      exact absurd hc List.not_mem_nil
    | some n =>
      rw [hport, portChars, List.mem_cons] at hc
      exact .inr (hc.imp_right fun hc => Nat.isDigit_of_mem_toDigits (by decide) (by decide) hc)

theorem not_ends_userChars (h : a.Canonical) :
    ∀ c ∈ a.userChars, endsAuthority .other c = false := by
  intro c hc
  rw [Bool.eq_false_iff]
  intro hends
  rcases h.mem_userChars hc with hkept | rfl
  · rcases endsAuthority_other.mp hends with rfl | rfl | rfl <;> exact absurd hkept (by decide)
  · exact absurd hends (by decide)

theorem not_ends_placeChars (h : a.Canonical) :
    ∀ c ∈ a.placeChars, endsAuthority .other c = false := by
  intro c hc
  rw [Bool.eq_false_iff]
  intro hends
  rcases h.mem_placeChars hc with ⟨hkept, -⟩ | rfl | hdigit
  · rcases endsAuthority_other.mp hends with rfl | rfl | rfl <;> exact absurd hkept (by decide)
  · exact absurd hends (by decide)
  · rcases endsAuthority_other.mp hends with rfl | rfl | rfl <;> exact absurd hdigit (by decide)

theorem at_not_mem_placeChars (h : a.Canonical) : '@' ∉ a.placeChars := by
  intro hat
  rcases h.mem_placeChars hat with ⟨hkept, -⟩ | hcolon | hdigit
  · exact absurd hkept (by decide)
  · exact absurd hcolon (by decide)
  · exact absurd hdigit (by decide)

/-- No part of an authority has a control or a space. -/
theorem isOuter_eq_false (h : a.Canonical) :
    ∀ c ∈ a.userText.toList ++ a.placeChars, isOuter c = false := by
  -- a user keeps less than a path does
  have huser : ∀ c ∈ a.userChars, isOuter c = false := by
    intro c hc
    rcases h.mem_userChars hc with hkept | rfl
    · exact isOuter_of_not_isPathEncoded (isPathEncoded_of_not_isUserEncoded hkept)
    · decide
  intro c hc
  rcases List.mem_append.mp hc with hc | hc
  · rcases a.toList_userText with ⟨htext, -⟩ | htext
    · rw [htext] at hc
      exact absurd hc List.not_mem_nil
    · rw [htext, List.mem_append, List.mem_singleton] at hc
      rcases hc with hc | rfl
      · exact huser c hc
      · decide
  · rcases h.mem_placeChars hc with ⟨hplain, hkept⟩ | rfl | hdigit
    · refine isOuter_of_not_isOpaqueEncoded hkept ?_
      rintro rfl
      exact absurd hplain (by decide)
    · decide
    · exact isOuter_of_isAlphanum (Ascii.isAlphanum_of_isDigit hdigit)

/-- The division of an authority is the right one. -/
theorem cutUser_eq (h : a.Canonical) {beyond : List Char} (hbeyond : Beyond beyond) :
    cutUser (a.userText.toList ++ (a.placeChars ++ beyond)) =
      (a.userChars, a.placeChars ++ beyond) := by
  have hends : ∀ c ∈ beyond.head?, (!endsAuthority .other c) = false := by
    intro c hc
    rw [hbeyond c hc]
    rfl
  have hplace : ∀ c ∈ a.placeChars, (!endsAuthority .other c) = true := by
    intro c hc
    rw [h.not_ends_placeChars c hc]
    rfl
  -- the last at sign is the one behind the user, since there is none in host and port
  rcases a.toList_userText with ⟨htext, huser⟩ | htext
  · rw [htext, huser, List.nil_append, cutUser, takeWhile_append hplace hends,
      aroundLast?_of_not_mem h.at_not_mem_placeChars]
  · have hregion : ∀ c ∈ a.userChars ++ '@' :: a.placeChars, (!endsAuthority .other c) = true := by
      intro c hc
      rcases List.mem_append.mp hc with hc | hc
      · rw [h.not_ends_userChars c hc]
        rfl
      · rcases List.mem_cons.mp hc with rfl | hc
        · decide
        · exact hplace c hc
    have happend : a.userText.toList ++ (a.placeChars ++ beyond) =
        (a.userChars ++ '@' :: a.placeChars) ++ beyond := by
      rw [htext]
      simp
    rw [happend, cutUser, takeWhile_append hregion hends, dropWhile_append hregion hends,
      aroundLast?_append h.at_not_mem_placeChars]

/-- **An authority is read back from its text.** -/
theorem readAuthority_text (h : a.Canonical) {beyond : List Char} (hbeyond : Beyond beyond) :
    readAuthority .other (a.userText.toList ++ (a.placeChars ++ beyond)) = .ok (a, beyond) := by
  -- the user is decided by the first colon
  have huser : user a.userChars = (a.username.toList, a.password?.map String.toList) := by
    refine user_userChars h.username fun p hp => ?_
    obtain ⟨password, hpassword, rfl⟩ := Option.map_eq_some_iff.mp hp
    exact h.password password hpassword
  have hplace :
      readHostAndPort .other (a.placeChars ++ beyond) = .ok (a.host.toList, a.port?, beyond) := by
    rw [placeChars, List.append_assoc]
    exact readHostAndPort_append h.host a.port? hbeyond
  have hhost : a.host.toList.isEmpty = false := by simpa using h.host.ne_nil
  -- the host stands directly behind the user, so there is no user without a host
  have hhead : ((a.placeChars ++ beyond).head?.map (endsAuthority .other)).getD false = false := by
    cases hchars : a.host.toList with
    | nil => exact absurd hchars h.host.ne_nil
    | cons c host =>
      rw [placeChars, hchars]
      exact h.not_ends_placeChars c (by simp [placeChars, hchars])
  rw [readAuthority_other, h.cutUser_eq hbeyond, hhead, Bool.and_false, if_neg Bool.false_ne_true,
    hplace, huser]
  show (if _ then _ else _) = _
  rw [hhost, Bool.false_and, if_neg Bool.false_ne_true]
  simp [Function.comp_def]

end Canonical

end Authority

/-! ## Path and query

What is behind the authority: a path that was settled when it was set, and a query. -/

/-- The query behind its sign, or nothing. -/
def queryChars : Option String → List Char
  | some query => '?' :: query.toList
  | none => []

theorem isOuter_of_mem_queryChars {query? : Option String}
    (h : ∀ query ∈ query?, ∀ c ∈ query.toList, isQueryEncoded c = false) {c : Char}
    (hc : c ∈ queryChars query?) : isOuter c = false := by
  cases query? with
  | none => exact absurd hc List.not_mem_nil
  | some query =>
    rcases List.mem_cons.mp hc with rfl | hc
    · decide
    · exact isOuter_of_not_isQueryEncoded (h query rfl c hc)

/-- A path as a URL with an authority keeps it: none, or one from the root. -/
def SettledPath (path : List Char) : Prop := path = [] ∨ ∃ p, path = '/' :: p ∧ Settled p

theorem SettledPath.kept {path : List Char} (h : SettledPath path) :
    ∀ c ∈ path, isPathEncoded c = false := by
  obtain rfl | ⟨p, rfl, hp⟩ := h
  · exact fun c hc => absurd hc List.not_mem_nil
  · exact List.forall_mem_cons.mpr ⟨by decide, hp.kept⟩

theorem SettledPath.pathAfterAuthority_eq {path : List Char} (h : SettledPath path) :
    pathAfterAuthority .other path = path := by
  obtain rfl | ⟨p, rfl, hp⟩ := h
  · rfl
  · exact rootedPath_of_settled hp

theorem endsPath_of_not_isPathEncoded {c : Char} (h : isPathEncoded c = false) :
    (!endsPath c) = true := by
  rw [Bool.not_eq_true', Bool.eq_false_iff]
  intro hends
  simp only [endsPath, Bool.or_eq_true, beq_iff_eq] at hends
  obtain rfl | rfl := hends <;> exact absurd h (by decide)

/-- A query goes on to the end of the text, as there is no number sign in it. -/
theorem queryAndFragment_queryChars {query? : Option String}
    (h : ∀ query ∈ query?, ∀ c ∈ query.toList, isQueryEncoded c = false) :
    queryAndFragment (queryChars query?) = (query?, none) := by
  cases query? with
  | none => rfl
  | some query =>
    have hmark : ∀ c ∈ query.toList, (c != '#') = true := by
      intro c hc
      rw [bne_iff_ne]
      rintro rfl
      exact absurd (h query rfl _ hc) (by decide)
    have hnone : query.toList.dropWhile (· != '#') = [] := List.dropWhile_eq_nil_iff.mpr hmark
    rw [queryChars, queryAndFragment, List.takeWhile_eq_self_iff.mpr hmark, hnone,
      encode_eq_self (h query rfl), String.ofList_toList]

/-! ## Whole URLs

The parts are put together. Each is read where the one before it ends. -/

/-- A URL of a server beyond the web, with each part in the form in which the URL shows it. -/
structure Canonical (url : Url) : Prop where
  named : url.scheme.toList ≠ []
  scheme : ∀ c ∈ url.scheme.toList, c.isLower = true
  family : Family.ofScheme url.scheme = .other
  authority : ∃ a, url.authority? = some a ∧ a.Canonical
  path : SettledPath url.path.toList
  query : ∀ query ∈ url.query?, ∀ c ∈ query.toList, isQueryEncoded c = false
  fragment : url.fragment? = none

namespace Canonical

variable {url : Url}

/-- Path and query are read back, whatever the authority is. -/
theorem afterAuthority_eq (h : url.Canonical) {a : Authority} (ha : url.authority? = some a) :
    afterAuthority .other url.scheme.toList a (url.path.toList ++ queryChars url.query?) = url := by
  have hpath : ∀ c ∈ url.path.toList, (!endsPath c) = true :=
    fun c hc => endsPath_of_not_isPathEncoded (h.path.kept c hc)
  have hquery : ∀ c ∈ (queryChars url.query?).head?, (!endsPath c) = false := by
    cases url.query? with
    | none => simp [queryChars]
    | some query =>
      intro c hc
      obtain rfl := Option.some.inj hc
      decide
  rw [afterAuthority, dropWhile_append hpath hquery, takeWhile_append hpath hquery,
    queryAndFragment_queryChars h.query, h.path.pathAfterAuthority_eq]
  simp only [String.ofList_toList, ← ha, ← h.fragment]

theorem toList_text (h : url.Canonical) {a : Authority} (ha : url.authority? = some a) :
    url.text.toList = url.scheme.toList ++ ':' :: '/' :: '/' ::
      (a.userText.toList ++ (a.placeChars ++ (url.path.toList ++ queryChars url.query?))) := by
  rw [text, ha, h.fragment]
  cases hquery : url.query? <;> simp [queryChars, a.toList_text]

/-- No part of a URL has a control or a space, so all of its text counts. -/
theorem isOuter_eq_false (h : url.Canonical) : ∀ c ∈ url.text.toList, isOuter c = false := by
  obtain ⟨a, ha, hcanonical⟩ := h.authority
  intro c hc
  rw [h.toList_text ha, ← List.append_assoc a.userText.toList] at hc
  simp only [List.mem_append, List.mem_cons] at hc
  rcases hc with hc | rfl | rfl | rfl | hc | hc | hc
  · exact isOuter_of_isAlphanum
      (Ascii.isAlphanum_of_isAlpha (Ascii.isAlpha_of_isLower (h.scheme c hc)))
  · decide
  · decide
  · decide
  · exact hcanonical.isOuter_eq_false c (List.mem_append.mpr hc)
  · exact isOuter_of_not_isPathEncoded (h.path.kept c hc)
  · exact isOuter_of_mem_queryChars h.query hc

/-- **A URL is read back from its text.** -/
theorem read_text (h : url.Canonical) : read url.text = .ok url := by
  obtain ⟨a, ha, hcanonical⟩ := h.authority
  -- the authority ends at the root of the path, or else at the query, or with the text
  have hbeyond : Beyond (url.path.toList ++ queryChars url.query?) := by
    obtain hpath | ⟨p, hpath, -⟩ := h.path
    · rw [hpath, List.nil_append]
      cases url.query? with
      | none => exact fun c hc => nomatch hc
      | some query => exact fun c hc => Option.some.inj hc ▸ rfl
    · rw [hpath]
      exact fun c hc => Option.some.inj hc ▸ rfl
  rw [read, significant_eq_self h.isOuter_eq_false, h.toList_text ha,
    scheme?_append h.named h.scheme]
  simp only [String.ofList_toList, h.family]
  -- the authority is read first, and then what is behind it
  show (readAuthority .other _ >>= _) = _
  rw [hcanonical.readAuthority_text hbeyond]
  exact congrArg Except.ok (h.afterAuthority_eq ha)

end Canonical

end EntityMapper.Url
