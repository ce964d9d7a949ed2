import EntityMapper.Proofs.Lists
import EntityMapper.Proofs.Url.Percent
import EntityMapper.Url.Basic

/-!
# Paths without anything to settle

A path from the root is encoded and rid of its dots when it is read or set. What comes of this is a
path in which nothing is left to do (`Settled`), so that reading it once more leaves it alone.

## Structure

* `Settled` — no character to encode, and no segment that is a way.
* `withoutDots_of_undotted`, `mem_withoutDots` — what taking out dots does to a path without them,
  and what it leaves of any path.
* `rootedPath_of_settled`, `exists_settled` — settled paths are the fixed points, and all paths
  become settled.
-/

namespace EntityMapper.Url

/-- A segment that stands for a way and not for a name. -/
def isDotted (segment : List Char) : Bool := isDoubleDot segment || isSingleDot segment

/-- The part of a path behind its first slash, with nothing in it to encode or to resolve. -/
structure Settled (p : List Char) : Prop where
  kept : ∀ c ∈ p, isPathEncoded c = false
  undotted : ∀ segment ∈ p.splitOn '/', isDotted segment = false

/-! ## Dots

`withoutDots` goes through segments with those that are done beside it. What is said of it is said
for any that are done, and its induction principle gives a case for each of its branches. -/

theorem isDotted_eq_false {segment : List Char} (hdouble : ¬ isDoubleDot segment = true)
    (hsingle : ¬ isSingleDot segment = true) : isDotted segment = false := by
  simp [isDotted, hdouble, hsingle]

/-- Names are kept in their order. The cases are those of `withoutDots`; all but one of them have a
segment that is a way. -/
theorem withoutDots_of_undotted (done segments : List (List Char))
    (h : ∀ segment ∈ segments, isDotted segment = false) :
    withoutDots done segments = done.reverse ++ segments := by
  fun_induction withoutDots done segments with
  | case1 done => exact (List.append_nil _).symm
  | case2 done last hdouble => exact absurd (h last (by simp)) (by simp [isDotted, hdouble])
  | case3 done last _ hsingle => exact absurd (h last (by simp)) (by simp [isDotted, hsingle])
  | case4 done last _ _ => exact List.reverse_cons
  | case5 done segment rest _ hdouble _ =>
    exact absurd (h segment (by simp)) (by simp [isDotted, hdouble])
  | case6 done segment rest _ _ hsingle _ =>
    exact absurd (h segment (by simp)) (by simp [isDotted, hsingle])
  | case7 done segment rest _ _ _ ih =>
    rw [ih fun s hs => h s (List.mem_cons_of_mem _ hs), List.reverse_cons, List.append_assoc]
    rfl

/-- To go up is to lose a segment, not to gain one. -/
theorem mem_above {done : List (List Char)} {segment : List Char} (h : segment ∈ above done) :
    segment ∈ done := by
  cases done with
  | nil => exact h
  | cons last rest =>
    rw [above] at h
    split at h
    · exact h
    · exact List.mem_cons_of_mem _ h

/-- Only names are left, and the empty segments that close a path. -/
theorem mem_withoutDots {done segments : List (List Char)} {s : List Char}
    (h : s ∈ withoutDots done segments) :
    s ∈ done ∨ s = [] ∨ (s ∈ segments ∧ isDotted s = false) := by
  have hlater {rest : List (List Char)} {segment : List Char} (h : s ∈ rest ∧ isDotted s = false) :
      s ∈ segment :: rest ∧ isDotted s = false := h.imp_left (List.mem_cons_of_mem _)
  fun_induction withoutDots done segments with
  | case1 done => exact .inl (List.mem_reverse.mp h)
  -- a way up at the end leaves an empty segment
  | case2 done last _ =>
    rcases List.mem_cons.mp (List.mem_reverse.mp h) with h | h
    · exact .inr (.inl h)
    · exact .inl (mem_above h)
  | case3 done last _ _ =>
    rcases List.mem_cons.mp (List.mem_reverse.mp h) with h | h
    · exact .inr (.inl h)
    · exact .inl h
  | case4 done last hdouble hsingle =>
    rcases List.mem_cons.mp (List.mem_reverse.mp h) with rfl | h
    · exact .inr (.inr ⟨by simp, isDotted_eq_false hdouble hsingle⟩)
    · exact .inl h
  | case5 done segment rest _ _ ih =>
    rcases ih h with h | h | h
    · exact .inl (mem_above h)
    · exact .inr (.inl h)
    · exact .inr (.inr (hlater h))
  | case6 done segment rest _ _ _ ih => exact (ih h).imp_right (Or.imp_right hlater)
  | case7 done segment rest _ hdouble hsingle ih =>
    rcases ih h with h | h | h
    · rcases List.mem_cons.mp h with rfl | h
      · exact .inr (.inr ⟨by simp, isDotted_eq_false hdouble hsingle⟩)
      · exact .inl h
    · exact .inr (.inl h)
    · exact .inr (.inr (hlater h))

/-- A path keeps at least one segment, which is empty if all others are gone. -/
theorem withoutDots_ne_nil (done : List (List Char)) {segments : List (List Char)}
    (hne : segments ≠ []) :
    withoutDots done segments ≠ [] := by
  fun_induction withoutDots done segments with
  | case1 done => exact absurd rfl hne
  | case2 done last _ => simp
  | case3 done last _ _ => simp
  | case4 done last _ _ => simp
  | case5 done segment rest hrest _ ih => exact ih hrest
  | case6 done segment rest hrest _ _ ih => exact ih hrest
  | case7 done segment rest hrest _ _ ih => exact ih hrest

/-! ## Paths from the root

A path is divided at its slashes, encoded, rid of its dots and joined again. Both statements are
about the segments, and the laws of `List.splitOn` and `List.intercalate` carry them to paths. -/

theorem rootedPath_of_settled {p : List Char} (h : Settled p) : rootedPath p = '/' :: p := by
  have hkept : (p.splitOn '/').map (encode isPathEncoded) = p.splitOn '/' := by
    refine (List.map_congr_left fun segment hsegment => ?_).trans (List.map_id _)
    exact encode_eq_self fun c hc => h.kept c (mem_splitOn hsegment hc).1
  rw [rootedPath, hkept, withoutDots_of_undotted _ _ h.undotted, List.reverse_nil, List.nil_append,
    List.intercalate_splitOn]

/-- Whatever is read becomes a settled path. Segments are encoded before dots are looked for, so
what is left has nothing to encode, and none of it is a way. -/
theorem exists_settled (s : List Char) : ∃ p, rootedPath s = '/' :: p ∧ Settled p := by
  have hne : withoutDots [] ((s.splitOn '/').map (encode isPathEncoded)) ≠ [] :=
    withoutDots_ne_nil _ (by simp)
  -- no segment has a slash, and so splitting the path again gives the same segments
  have hsegments : ∀ segment ∈ withoutDots [] ((s.splitOn '/').map (encode isPathEncoded)),
      (∀ c ∈ segment, isPathEncoded c = false ∧ c ≠ '/') ∧ isDotted segment = false := by
    intro segment hsegment
    rcases mem_withoutDots hsegment with h | rfl | ⟨h, hdotted⟩
    · exact absurd h List.not_mem_nil
    · exact ⟨by simp, by decide⟩
    · obtain ⟨part, hpart, rfl⟩ := List.mem_map.mp h
      refine ⟨fun c hc => ⟨lasting_isPathEncoded.not_of_mem hc, ?_⟩, hdotted⟩
      rintro rfl
      rcases mem_encode hc with ⟨-, hslash⟩ | h | h
      · exact (mem_splitOn hpart hslash).2 rfl
      · exact absurd h (by decide)
      · exact absurd h (by decide)
  refine ⟨_, rfl, fun c hc => ?_, fun segment hsegment => ?_⟩
  · rcases mem_intercalate hc with ⟨segment, hsegment, hc⟩ | rfl
    · exact ((hsegments segment hsegment).1 c hc).1
    · decide
  · -- joined and divided again, the segments are the same
    rw [List.splitOn_intercalate '/' (fun segment hsegment hslash =>
      ((hsegments segment hsegment).1 _ hslash).2 rfl) hne] at hsegment
    exact (hsegments segment hsegment).2

/-- Further slashes at the front of a settled path can go. -/
theorem Settled.dropSlashes {p : List Char} (h : Settled p) : Settled (p.dropWhile (· == '/')) := by
  induction p with
  | nil => exact h
  | cons c rest ih =>
    by_cases hc : c = '/'
    · subst hc
      rw [List.dropWhile_cons_of_pos (by simp)]
      refine ih ⟨fun c hc => h.kept c (List.mem_cons_of_mem _ hc), fun segment hsegment => ?_⟩
      refine h.undotted segment ?_
      rw [List.splitOn_cons_eq_if_modifyHead, if_pos (beq_self_eq_true _)]
      exact List.mem_cons_of_mem _ hsegment
    · rw [List.dropWhile_cons_of_neg (by simpa using hc)]
      exact h

end EntityMapper.Url
