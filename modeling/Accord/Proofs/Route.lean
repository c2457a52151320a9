import Accord.Route

/-!
# `Accord.Proofs.Route`: the normal form is made of the pieces

`Route.normalizeChars` works on characters, in five passes over the path. `Route.pieces` says
what is left in the end: the segments of the path without those that are parameters, but for the
first one. The statements:

* `segmentsFrom_eq_splitOn`: the segments are what is left of a path that is cut at its slashes
  when empty parts are dropped;
* `collapse_slash_append`: after the first pass the path is its segments, a slash before each of
  them, and perhaps one slash more at the end;
* `dropParameters_slashed`: the third pass drops segments from this form and changes nothing
  else;
* `normalizeChars_eq`: the normal form joins the pieces of the path;
* `normalize_eq_iff`: two paths have one normal form when they have the same pieces.

The slash before each segment is what makes the passes compositional (`slashed`): a pass that
starts at such a slash can be followed segment by segment.
-/

set_option autoImplicit false

namespace Accord.Route

variable {segment rest path : List Char} {c : Char}

/-! ### Segments -/

/-- A segment of a path: a run of characters other than the slash. -/
structure IsSegment (segment : List Char) : Prop where
  nonempty : segment ≠ []
  plain : '/' ∉ segment

/-- The segments of a path are its parts between slashes, empty ones left aside. -/
theorem segmentsFrom_eq_splitOn (plain : '/' ∉ segment) :
    segmentsFrom segment path =
      ((segment ++ path).splitOn '/').filter fun part => !part.isEmpty := by
  induction path generalizing segment with
  | nil =>
    rw [List.append_nil, List.splitOn_eq_singleton plain, segmentsFrom]
    cases segment <;> simp
  | cons c rest ih =>
    rw [segmentsFrom]
    split
    · next slash =>
      subst slash
      rw [List.splitOn_append_cons_self_of_not_mem plain, ih List.not_mem_nil, List.nil_append]
      cases segment <;> simp
    · next other =>
      rw [ih (by simpa [plain] using Ne.symm other), List.append_assoc, List.singleton_append]

/-- Parts without slashes that are joined with slashes are found again, empty ones left aside. -/
theorem segmentsFrom_intercalate {parts : List (List Char)} (plain : ∀ part ∈ parts, '/' ∉ part) :
    segmentsFrom [] (['/'].intercalate parts) = parts.filter fun part => !part.isEmpty := by
  rw [segmentsFrom_eq_splitOn List.not_mem_nil, List.nil_append]
  cases parts with
  | nil => rfl
  | cons first later => rw [List.splitOn_intercalate '/' plain (by simp)]

/-- What is cut between slashes is not empty and has no slash. -/
theorem isSegment_of_mem_segmentsFrom {part : List Char} (plain : '/' ∉ segment)
    (h : part ∈ segmentsFrom segment path) : IsSegment part := by
  induction path generalizing segment with
  | nil =>
    rw [segmentsFrom] at h
    -- A slash ends a segment, which is left out if it is empty; any other character goes on with
    -- it.
    split at h
    · cases h
    · next nonempty =>
      obtain rfl := List.mem_singleton.1 h
      exact ⟨by simpa using nonempty, plain⟩
  | cons c rest ih =>
    rw [segmentsFrom] at h
    split at h
    · split at h
      · exact ih List.not_mem_nil h
      · next nonempty =>
        rcases List.mem_cons.1 h with rfl | later
        · exact ⟨by simpa using nonempty, plain⟩
        · exact ih List.not_mem_nil later
    · next other => exact ih (by simpa [plain] using Ne.symm other) h

/-- Segments with a slash before each of them. -/
def slashed (segments : List (List Char)) : List Char :=
  segments.flatMap fun segment => '/' :: segment

/-- No segments write nothing. -/
@[simp]
theorem slashed_nil : slashed [] = [] :=
  rfl

/-- A slash stands in front of every segment. -/
@[simp]
theorem slashed_cons (first : List Char) (later : List (List Char)) :
    slashed (first :: later) = '/' :: (first ++ slashed later) :=
  rfl

/-- Joining puts a slash before every segment but the first one. -/
theorem intercalate_cons (first : List Char) (later : List (List Char)) :
    ['/'].intercalate (first :: later) = first ++ slashed later := by
  induction later generalizing first with
  | nil => simp
  | cons second later ih => rw [List.intercalate_cons_cons, ih, slashed_cons]; simp

/-! ### Collapsing slashes -/

/-- Collapsing keeps every character but the slash. -/
theorem collapse_cons_of_ne (other : c ≠ '/') : collapse (c :: rest) = c :: collapse rest := by
  rw [collapse]
  exact fun _ same => absurd same other

/-- Collapsing keeps a segment. -/
theorem collapse_append (plain : '/' ∉ segment) :
    collapse (segment ++ rest) = segment ++ collapse rest := by
  induction segment with
  | nil => rfl
  | cons c segment ih =>
    have parts : c ≠ '/' ∧ '/' ∉ segment := by simpa [eq_comm] using plain
    rw [List.cons_append, collapse_cons_of_ne parts.1, ih parts.2, List.cons_append]

/-- A slash before a segment stays. -/
theorem collapse_slash_segment (h : IsSegment segment) :
    collapse ('/' :: (segment ++ rest)) = '/' :: (segment ++ collapse rest) := by
  cases segment with
  | nil => exact absurd rfl h.nonempty
  | cons c segment =>
    have other : c ≠ '/' := fun same => h.plain (by simp [same])
    rw [← collapse_append h.plain, List.cons_append, collapse]
    rintro _ - same
    exact other (List.cons.inj same).1

/-- What is left of slashes at the end of a path. -/
def IsTrailing (trailing : List Char) : Prop :=
  trailing = [] ∨ trailing = ['/']

/-- Behind a slash, collapsing writes the segments of a path with a slash before each of them. The
induction is on the path, with the run of characters read so far as the start of a segment. -/
theorem collapse_slash_append (plain : '/' ∉ segment) :
    ∃ trailing, IsTrailing trailing ∧
      collapse ('/' :: (segment ++ path)) = slashed (segmentsFrom segment path) ++ trailing := by
  induction path generalizing segment with
  | nil =>
    cases segment with
    | nil => exact ⟨['/'], .inr rfl, rfl⟩
    | cons c segment =>
      refine ⟨[], .inl rfl, ?_⟩
      rw [collapse_slash_segment ⟨by simp, plain⟩]
      simp [segmentsFrom, collapse]
  | cons c rest ih =>
    rw [segmentsFrom]
    split
    · next slash =>
      subst slash
      obtain ⟨trailing, isTrailing, written⟩ := ih List.not_mem_nil
      refine ⟨trailing, isTrailing, ?_⟩
      rw [List.nil_append] at written
      -- The slash ends a segment, or it is one more of a run of slashes.
      cases segment with
      | nil =>
        rw [List.nil_append, collapse, written]
        rfl
      | cons c segment =>
        rw [collapse_slash_segment ⟨by simp, plain⟩, written]
        simp
    · next other =>
      -- Any other character goes on with the segment, and the two sides only group it differently.
      have longer : '/' ∉ segment ++ [c] := by simpa [plain] using Ne.symm other
      obtain ⟨trailing, isTrailing, written⟩ := ih longer
      refine ⟨trailing, isTrailing, ?_⟩
      rw [← written, List.append_assoc, List.singleton_append]

/-- Collapsing has no work on segments with single slashes. -/
theorem collapse_slashed {segments : List (List Char)}
    (h : ∀ segment ∈ segments, IsSegment segment) :
    collapse (slashed segments) = slashed segments := by
  induction segments with
  | nil => rfl
  | cons first later ih =>
    have parts := List.forall_mem_cons.1 h
    rw [slashed_cons, collapse_slash_segment parts.1, ih parts.2]

/-- The slash that is dropped from the start is there or may be added. -/
theorem dropLeading_collapse (path : List Char) :
    dropLeading (collapse path) = dropLeading (collapse ('/' :: path)) := by
  cases path with
  | nil => rfl
  | cons c rest =>
    by_cases slash : c = '/'
    · -- The added slash joins the one that is there.
      subst slash
      rw [collapse]
    · -- The added slash is the one that is dropped.
      rw [collapse_cons_of_ne slash, collapse, collapse_cons_of_ne slash]
      · show dropLeading (c :: collapse rest) = c :: collapse rest
        rw [dropLeading]
        exact fun _ same => slash (List.cons.inj same).1
      · exact fun _ _ same => slash (List.cons.inj same).1

/-! ### Dropping parameters -/

/-- A segment in the middle of which the scan stands is kept. -/
theorem dropParameters_append (plain : '/' ∉ segment) :
    dropParameters .nothing (segment ++ rest) = segment ++ dropParameters .nothing rest := by
  induction segment with
  | nil => rfl
  | cons c segment ih =>
    have parts : c ≠ '/' ∧ '/' ∉ segment := by simpa [eq_comm] using plain
    rw [List.cons_append, dropParameters, if_neg parts.1, ih parts.2, List.cons_append]

/-- The rest of a parameter is dropped. -/
theorem dropParameters_parameter_append (plain : '/' ∉ segment) :
    dropParameters .parameter (segment ++ rest) = dropParameters .parameter rest := by
  induction segment with
  | nil => rfl
  | cons c segment ih =>
    have parts : c ≠ '/' ∧ '/' ∉ segment := by simpa [eq_comm] using plain
    rw [List.cons_append, dropParameters, if_neg parts.1, ih parts.2]

/-- Nothing follows, or a slash does. -/
def EndsSegment (rest : List Char) : Prop :=
  rest = [] ∨ ∃ more, rest = '/' :: more

/-- A segment behind a slash is dropped as a whole or kept with its slash. -/
theorem dropParameters_segment (h : IsSegment segment) (ends : EndsSegment rest) :
    dropParameters .nothing ('/' :: (segment ++ rest)) =
      if isParameter segment then dropParameters .nothing rest
      else '/' :: (segment ++ dropParameters .nothing rest) := by
  rw [dropParameters, if_pos rfl]
  cases segment with
  | nil => exact absurd rfl h.nonempty
  | cons c name =>
    have parts : c ≠ '/' ∧ '/' ∉ name := by simpa [eq_comm] using h.plain
    rw [List.cons_append, dropParameters]
    by_cases colon : c = ':'
    · subst colon
      rw [if_pos rfl]
      cases name with
      | nil =>
        -- A colon without a name is kept.
        rcases ends with rfl | ⟨more, rfl⟩ <;> simp [dropParameters, isParameter]
      | cons d name =>
        have inner : d ≠ '/' ∧ '/' ∉ name := by simpa [eq_comm] using parts.2
        rw [List.cons_append, dropParameters, if_neg inner.1,
          dropParameters_parameter_append inner.2]
        rcases ends with rfl | ⟨more, rfl⟩ <;> simp [dropParameters, isParameter]
    · have kept : isParameter (c :: name) = false := by
        unfold isParameter
        split
        · next same => exact absurd (List.cons.inj same).1 colon
        · rfl
      rw [if_neg colon, if_neg parts.1, dropParameters_append parts.2, kept]
      rfl

/-- Behind a segment there is a slash or nothing. -/
theorem endsSegment_slashed (segments : List (List Char)) {trailing : List Char}
    (h : IsTrailing trailing) : EndsSegment (slashed segments ++ trailing) := by
  cases segments with
  | nil =>
    rcases h with rfl | rfl
    · exact .inl rfl
    · exact .inr ⟨[], rfl⟩
  | cons first later => exact .inr ⟨_, rfl⟩

/-- Dropping parameters keeps the other segments as they are. -/
theorem dropParameters_slashed {segments : List (List Char)}
    (h : ∀ segment ∈ segments, IsSegment segment) {trailing : List Char}
    (isTrailing : IsTrailing trailing) :
    dropParameters .nothing (slashed segments ++ trailing) =
      slashed (segments.filter fun segment => !isParameter segment) ++ trailing := by
  induction segments with
  | nil => rcases isTrailing with rfl | rfl <;> rfl
  | cons first later ih =>
    have parts := List.forall_mem_cons.1 h
    rw [slashed_cons, List.cons_append, List.append_assoc,
      dropParameters_segment parts.1 (endsSegment_slashed later isTrailing), ih parts.2]
    cases kept : isParameter first <;> simp [kept]

/-! ### The normal form -/

/-- Joined segments do not end with a slash. -/
theorem getLast?_segments_ne_slash {first : List Char} {later : List (List Char)}
    (isSegment : IsSegment first) (h : ∀ segment ∈ later, IsSegment segment) :
    (first ++ slashed later).getLast? ≠ some '/' := by
  induction later generalizing first with
  | nil =>
    rw [slashed_nil, List.append_nil]
    exact fun last => isSegment.plain (List.mem_of_getLast? last)
  | cons second later ih =>
    have parts := List.forall_mem_cons.1 h
    have nonempty : second ++ slashed later ≠ [] := by simp [parts.1.nonempty]
    have last := ih parts.1 parts.2
    rw [List.getLast?_eq_some_getLast nonempty] at last
    rw [slashed_cons, List.getLast?_append, List.getLast?_cons_of_ne_nil nonempty,
      List.getLast?_eq_some_getLast nonempty]
    exact last

/-- The slash at the end goes, and nothing else does. -/
theorem dropTrailing_append {body trailing : List Char} (h : body.getLast? ≠ some '/')
    (isTrailing : IsTrailing trailing) : dropTrailing (body ++ trailing) = body := by
  rcases isTrailing with rfl | rfl
  · rw [List.append_nil, dropTrailing, if_neg h]
  · rw [dropTrailing, List.getLast?_concat, if_pos rfl, List.dropLast_concat]

/-- The normal form of a path joins its pieces with slashes. -/
theorem normalizeChars_eq (path : List Char) :
    normalizeChars path = ['/'].intercalate (pieces path) := by
  have nothing : '/' ∉ ([] : List Char) := List.not_mem_nil
  obtain ⟨trailing, isTrailing, written⟩ := collapse_slash_append nothing
  have segments : ∀ part ∈ segmentsFrom [] path, IsSegment part := fun part member =>
    isSegment_of_mem_segmentsFrom List.not_mem_nil member
  rw [List.nil_append] at written
  rw [normalizeChars, dropLeading_collapse, written, pieces]
  cases split : segmentsFrom [] path with
  | nil => rcases isTrailing with rfl | rfl <;> rfl
  | cons first later =>
    rw [split] at segments
    have parts := List.forall_mem_cons.1 segments
    have kept : ∀ part ∈ later.filter fun segment => !isParameter segment, IsSegment part :=
      fun part member => parts.2 part (List.mem_filter.1 member).1
    -- The first segment has lost the slash before it, so the third pass does not take it for a
    -- parameter.
    show collapse (dropTrailing (dropParameters .nothing (first ++ slashed later ++ trailing))) = _
    rw [List.append_assoc, dropParameters_append parts.1.plain,
      dropParameters_slashed parts.2 isTrailing, ← List.append_assoc,
      dropTrailing_append (getLast?_segments_ne_slash parts.1 kept) isTrailing,
      collapse_append parts.1.plain, collapse_slashed kept, intercalate_cons]

/-- The pieces of a path are segments of it. -/
theorem isSegment_of_mem_pieces {part : List Char} (h : part ∈ pieces path) : IsSegment part := by
  suffices part ∈ segmentsFrom [] path from isSegment_of_mem_segmentsFrom List.not_mem_nil this
  rw [pieces] at h
  cases split : segmentsFrom [] path with
  | nil => rw [split] at h; cases h
  | cons first later =>
    rw [split] at h
    rcases List.mem_cons.1 h with rfl | kept
    · exact List.mem_cons_self
    · exact List.mem_cons_of_mem _ (List.mem_filter.1 kept).1

/-- The pieces of a path can be read off its normal form. -/
theorem segmentsFrom_normalizeChars (path : List Char) :
    segmentsFrom [] (normalizeChars path) = pieces path := by
  have plain : ∀ part ∈ pieces path, '/' ∉ part := fun part member =>
    (isSegment_of_mem_pieces member).plain
  rw [normalizeChars_eq, segmentsFrom_intercalate plain, List.filter_eq_self]
  intro part member
  simpa using (isSegment_of_mem_pieces member).nonempty

/-- Two paths have one normal form when they have the same pieces. -/
theorem normalize_eq_iff {first second : String} :
    normalize first = normalize second ↔ pieces first.toList = pieces second.toList := by
  rw [normalize, normalize, String.ofList_inj]
  constructor
  · intro same
    rw [← segmentsFrom_normalizeChars, same, segmentsFrom_normalizeChars]
  · intro same
    rw [normalizeChars_eq, normalizeChars_eq, same]

end Accord.Route
