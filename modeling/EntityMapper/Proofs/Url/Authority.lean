import EntityMapper.Proofs.Url.Reader

/-!
# Authorities in any text

Whatever an authority looks like, it ends before the first question mark and the first number sign.
So what stands from there on is read in the same way, whether or not the text in front was meant to
be an authority.

## Structure

* `Skips` — a rest of a text, with no query and no fragment begun before it. It is transitive, so
  the steps of reading can be followed one by one.
* `skips_readAuthority` — all steps together.
* `exists_readAuthority` — texts that can be read as authorities.
* `read_authority` — URLs, once the scheme is taken off.
-/

namespace EntityMapper.Url

/-! ## Up to the query

Users, hosts and ports are read in turn, and each of them leaves a rest of the text. `Skips` says of
such a rest that nothing in front of it begins a query or a fragment, so where the query begins does
not depend on how the authority was divided. -/

/-- The rest of a text behind a part of it in which neither a query nor a fragment begins. -/
def Skips (s rest : List Char) : Prop :=
  ∃ front, s = front ++ rest ∧ ∀ c ∈ front, endsPath c = false

namespace Skips

theorem refl (s : List Char) : Skips s s := ⟨[], rfl, by simp⟩

theorem trans {s t rest : List Char} (h : Skips s t) (hrest : Skips t rest) : Skips s rest := by
  obtain ⟨front, rfl, hfront⟩ := h
  obtain ⟨back, rfl, hback⟩ := hrest
  refine ⟨front ++ back, (List.append_assoc _ _ _).symm, fun c hc => ?_⟩
  exact (List.mem_append.mp hc).elim (hfront c) (hback c)

/-- The query begins where it would begin without that part. -/
theorem dropWhile_eq {s rest : List Char} (h : Skips s rest) :
    rest.dropWhile (fun c => !endsPath c) = s.dropWhile fun c => !endsPath c := by
  obtain ⟨front, rfl, hfront⟩ := h
  exact (List.dropWhile_append_of_pos fun c hc => by simp [hfront c hc]).symm

end Skips

/-- Question marks and number signs end an authority as well as a path. -/
theorem endsPath_of_not_endsAuthority {c : Char} (h : endsAuthority .other c = false) :
    endsPath c = false := by
  simp only [endsAuthority, Bool.or_eq_false_iff] at h
  simp [endsPath, h]

/-- The two sides of the last separator, with the separator between them, make up the text. -/
theorem aroundLast?_eq_some {separator : Char} {s before after : List Char}
    (h : aroundLast? separator s = some (before, after)) : s = before ++ separator :: after := by
  have hreverse :
      s.reverse = s.reverse.takeWhile (· != separator) ++ s.reverse.dropWhile (· != separator) :=
    List.takeWhile_append_dropWhile.symm
  unfold aroundLast? at h
  split at h
  next => cases h
  next mark rest hrest =>
    obtain ⟨rfl, rfl⟩ := Prod.mk.inj (Option.some.inj h)
    -- the search stops at a separator
    obtain rfl : mark = separator := by
      have hmark := List.head?_dropWhile_not (· != separator) s.reverse
      rw [hrest] at hmark
      simpa using hmark
    rw [hrest] at hreverse
    have hs := congrArg List.reverse hreverse
    rw [List.reverse_reverse, List.reverse_append, List.reverse_cons, ← List.append_cons] at hs
    exact hs

/-- A user stands in the authority, and so does the sign behind it. -/
theorem skips_cutUser (s : List Char) : Skips s (cutUser s).2 := by
  -- a user is looked for only up to where the authority ends
  have hregion : ∀ c ∈ s.takeWhile (fun c => !endsAuthority .other c), endsPath c = false := by
    intro c hc
    have hends := List.mem_takeWhile_imp hc
    exact endsPath_of_not_endsAuthority (by simpa using hends)
  rw [cutUser]
  split
  next written place hcut =>
    have hs := aroundLast?_eq_some hcut
    refine ⟨written ++ ['@'], ?_, fun c hc => hregion c ?_⟩
    · rw [List.append_assoc, List.singleton_append, ← List.cons_append, ← List.append_assoc, ← hs,
        List.takeWhile_append_dropWhile]
    · rw [hs]
      rw [List.mem_append, List.mem_singleton] at hc
      exact List.mem_append.mpr (hc.imp_right fun hat => List.mem_cons.mpr (.inl hat))
  next => exact .refl s

theorem endsAuthority_of_mem_take_hostLength {inBrackets : Bool} {s : List Char} {c : Char}
    (h : c ∈ s.take (hostLength .other inBrackets s)) : endsAuthority .other c = false := by
  induction s generalizing inBrackets with
  | nil => exact absurd h (by simp)
  | cons d rest ih =>
    rw [hostLength] at h
    split at h
    next => exact absurd h (by simp)
    next hd =>
      rw [List.take_succ_cons, List.mem_cons] at h
      -- the first character is of the host, so it does not end the authority
      rcases h with rfl | h
      · rw [Bool.or_eq_true, not_or] at hd
        simpa using hd.2
      · exact ih h

theorem eq_of_ite_error {ε α : Type} {p : Prop} [Decidable p] {e : ε} {x y : α}
    (h : (if p then Except.error e else .ok x) = .ok y) : x = y := by
  split at h
  next => cases h
  next => exact Except.ok.inj h

theorem skips_readPort {s rest : List Char} {port? : Option UInt16}
    (h : readPort s = .ok (port?, rest)) :
    Skips s rest := by
  rw [readPort] at h
  obtain ⟨-, rfl⟩ := Prod.mk.inj (eq_of_ite_error h)
  refine ⟨s.takeWhile Char.isDigit, List.takeWhile_append_dropWhile.symm, fun c hc => ?_⟩
  have hdigit : c.isDigit = true := List.mem_takeWhile_imp hc
  rw [Bool.eq_false_iff]
  intro hends
  simp only [endsPath, Bool.or_eq_true, beq_iff_eq] at hends
  obtain rfl | rfl := hends <;> exact absurd hdigit (by decide)

/-- Behind a host there is a port after its colon, or nothing that is skipped. -/
theorem skips_readBehindHost {host found s rest : List Char} {port? : Option UInt16}
    (h : readBehindHost host s = .ok (found, port?, rest)) : Skips s rest := by
  unfold readBehindHost at h
  split at h
  next => cases h
  next =>
    split at h
    next digits _ =>
      cases hport : readPort digits with
      | error fault =>
        rw [hport] at h
        cases h
      | ok port =>
        rw [hport] at h
        obtain ⟨-, h⟩ := Prod.mk.inj (Except.ok.inj h)
        obtain ⟨-, rfl⟩ := Prod.mk.inj h
        exact Skips.trans ⟨[':'], rfl, by simp; decide⟩ (skips_readPort hport)
    next =>
      obtain ⟨-, h⟩ := Prod.mk.inj (Except.ok.inj h)
      obtain ⟨-, rfl⟩ := Prod.mk.inj h
      exact .refl s

theorem skips_readHostAndPort {host s rest : List Char} {port? : Option UInt16}
    (h : readHostAndPort .other s = .ok (host, port?, rest)) : Skips s rest := by
  rw [readHostAndPort_other] at h
  cases hplain : plainHost (s.take (hostLength .other false s)) with
  | error fault =>
    rw [hplain] at h
    cases h
  | ok name =>
    rw [hplain] at h
    have hhost : Skips s (s.drop (hostLength .other false s)) :=
      ⟨_, (List.take_append_drop _ _).symm,
        fun c hc => endsPath_of_not_endsAuthority (endsAuthority_of_mem_take_hostLength hc)⟩
    exact hhost.trans (skips_readBehindHost h)

/-- **An authority reaches into no query and no fragment.** -/
theorem skips_readAuthority {s rest : List Char} {a : Authority}
    (h : readAuthority .other s = .ok (a, rest)) :
    Skips s rest := by
  rw [readAuthority_other] at h
  split at h
  next => cases h
  next =>
    -- a user is not read before the host is, but stands in front of it
    cases hplace : readHostAndPort .other (cutUser s).2 with
    | error fault =>
      rw [hplace] at h
      cases h
    | ok place =>
      obtain ⟨host, port?, last⟩ := place
      rw [hplace] at h
      obtain ⟨-, rfl⟩ := Prod.mk.inj (eq_of_ite_error h)
      exact (skips_cutUser s).trans (skips_readHostAndPort hplace)

/-! ## Authorities that can be read

Conversely there are texts of which it is certain that they are authorities. Where no character has
a meaning in hosts, all up to the first slash is a name. -/

/-- Without any punctuation of hosts, a text up to the first slash is an authority. -/
theorem exists_readAuthority {s : List Char}
    (h : ∀ c ∈ s.takeWhile (fun c => !endsAuthority .other c), isForbiddenInHost c = false) :
    ∃ a rest, readAuthority .other s = .ok (a, rest) := by
  generalize hregion : s.takeWhile (fun c => !endsAuthority .other c) = region at h
  generalize hbeyond : s.dropWhile (fun c => !endsAuthority .other c) = beyond
  have hs : region ++ beyond = s := by rw [← hregion, ← hbeyond, List.takeWhile_append_dropWhile]
  have hends : Beyond beyond := by
    intro c hc
    have hstop := List.head?_dropWhile_not (fun c => !endsAuthority .other c) s
    rw [hbeyond, hc] at hstop
    simpa using hstop
  -- neither a user nor a port, as both need punctuation
  have hat : '@' ∉ region := fun hat => absurd (h _ hat) (by decide)
  have hcut : cutUser s = ([], s) := by rw [cutUser, hregion, aroundLast?_of_not_mem hat]
  have hhead : (region.head? == some '@') = false := by
    rw [beq_eq_false_iff_ne]
    exact fun hhead => hat (List.mem_of_mem_head? hhead)
  have hlength : hostLength .other false s = region.length := by
    rw [← hs]
    exact hostLength_append h fun c hc => .inr (hends c hc)
  have hbehind : readBehindHost (encode isOpaqueEncoded region) beyond =
      .ok (encode isOpaqueEncoded region, none, beyond) := by
    have hcolon : (beyond.head? == some ':') = false := by
      rw [beq_eq_false_iff_ne]
      exact fun hcolon => absurd (hends _ hcolon) (by decide)
    unfold readBehindHost
    rw [hcolon, Bool.and_false, if_neg Bool.false_ne_true]
    split
    next => exact absurd hcolon (by simp)
    next => rfl
  have hplace : readHostAndPort .other s = .ok (encode isOpaqueEncoded region, none, beyond) := by
    rw [readHostAndPort_other, hlength, ← hs, List.take_left, List.drop_left, plainHost_eq h]
    exact hbehind
  rw [readAuthority_other, hcut, hregion, hhead, Bool.and_false, Bool.false_and,
    if_neg Bool.false_ne_true, hplace]
  refine ⟨_, _, if_neg ?_⟩
  simp [user, encode]

/-- Up to where an authority ends, no more counts of a text than stands in front of the first such
place. -/
theorem mem_takeWhile_counted {s t : List Char}
    (ht : ∀ c ∈ t.head?, endsAuthority .other c = true) {c : Char}
    (hc : c ∈ (counted (s ++ t)).takeWhile fun c => !endsAuthority .other c) : c ∈ s := by
  generalize hend : ((s ++ t).reverse.dropWhile isOuter).reverse = kept
  have hkept : kept <+: s ++ t := by
    rw [← hend, ← List.reverse_suffix, List.reverse_reverse]
    exact List.dropWhile_suffix _
  rw [counted, hend] at hc
  obtain ⟨lost, hlost⟩ := hkept
  rcases List.append_eq_append_iff.mp hlost with ⟨back, hs, -⟩ | ⟨back, hkept, hback⟩
  · have hmem : c ∈ kept := (List.mem_filter.mp ((List.takeWhile_sublist _).mem hc)).1
    rw [hs]
    exact List.mem_append_left _ hmem
  · cases back with
    | nil =>
      rw [List.append_nil] at hkept
      exact hkept ▸ (List.mem_filter.mp ((List.takeWhile_sublist _).mem hc)).1
    | cons d back =>
      -- the place at which the authority ends is kept, and nothing behind it is taken
      have hends : endsAuthority .other d = true := ht d (by rw [hback]; rfl)
      have hd : (!isDropped d) = true := by
        rcases endsAuthority_other.mp hends with rfl | rfl | rfl <;> decide
      have hstop : ¬ (!endsAuthority .other d) = true := by simp [hends]
      rw [hkept, List.filter_append, List.filter_cons_of_pos (p := fun c => !isDropped c) hd,
        List.takeWhile_append,
        List.takeWhile_cons_of_neg (p := fun c => !endsAuthority .other c) hstop,
        List.append_nil] at hc
      split at hc
      · exact (List.mem_filter.mp hc).1
      · exact (List.mem_filter.mp ((List.takeWhile_sublist _).mem hc)).1

/-! ## Behind a scheme

What is read of a URL, once its scheme is known to be one beyond the web. -/

/-- **Beyond the web, a URL with an authority is whatever the authority lets through.** -/
theorem read_authority {scheme : List Char} (hne : scheme ≠ [])
    (hscheme : ∀ c ∈ scheme, c.isLower = true)
    (hfamily : Family.ofScheme (String.ofList scheme) = .other) {text : String} {s : List Char}
    (htext : text.toList = scheme ++ ':' :: '/' :: '/' :: s) :
    read text = (readAuthority .other (counted s)).map fun (a, rest) =>
      afterAuthority .other scheme a rest := by
  -- no part of the scheme is lost with the characters that do not count
  have hfront : ∀ c ∈ scheme ++ [':', '/', '/'], isOuter c = false := by
    intro c hc
    simp only [List.mem_append, List.mem_cons, List.not_mem_nil, or_false] at hc
    rcases hc with hc | rfl | rfl | rfl
    · exact isOuter_of_isAlphanum
        (Ascii.isAlphanum_of_isAlpha (Ascii.isAlpha_of_isLower (hscheme c hc)))
    all_goals decide
  have hsignificant : significant text.toList = scheme ++ ':' :: '/' :: '/' :: counted s := by
    have happend : text.toList = (scheme ++ [':', '/', '/']) ++ s := by
      rw [htext, List.append_assoc]
      rfl
    rw [happend, significant_append (by simp) hfront, List.append_assoc]
    rfl
  rw [read, hsignificant, scheme?_append hne hscheme]
  simp only [hfamily]
  cases readAuthority .other (counted s) <;> rfl

end EntityMapper.Url
