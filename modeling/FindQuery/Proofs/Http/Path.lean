import FindQuery.Http.Url
import FindQuery.Proofs.Http.Url

namespace FindQuery.Http

def withoutLast (path : List Char) : List Char := (path.rdropWhile (· ≠ '/')).dropLast

/-- The removal of dot segments by two buffers: the input is read a segment at a time, and what is kept goes to the
output. Where a dot segment is last, its slash is read again. -/
def reduceDots (input output : List Char) : List Char :=
  match input with
  | '/' :: '.' :: '/' :: rest => reduceDots ('/' :: rest) output
  | ['/', '.'] => reduceDots ['/'] output
  | '/' :: '.' :: '.' :: '/' :: rest => reduceDots ('/' :: rest) (withoutLast output)
  | ['/', '.', '.'] => reduceDots ['/'] (withoutLast output)
  | '/' :: rest => reduceDots (rest.dropWhile (· ≠ '/')) (output ++ '/' :: rest.takeWhile (· ≠ '/'))
  | _ => output
termination_by input.length
decreasing_by
  all_goals simp only [List.length_cons]
  all_goals first
    | omega
    | exact Nat.lt_succ_of_le (List.length_dropWhile_le _ _)

def Whole (parts : List (List Char)) : Prop := ∀ part ∈ parts, '/' ∉ part

theorem joinSegments_concat (parts : List (List Char)) (part : List Char) :
    joinSegments (parts ++ [part]) = joinSegments parts ++ '/' :: part := by simp [joinSegments]

theorem joinSegments_cons (part : List Char) (parts : List (List Char)) :
    joinSegments (part :: parts) = '/' :: (part ++ joinSegments parts) := rfl

theorem withoutLast_joinSegments {kept : List (List Char)} (whole : Whole kept) :
    withoutLast (joinSegments kept.reverse) = joinSegments kept.tail.reverse := by
  cases kept with
  | nil => rfl
  | cons part kept =>
    have slashless : '/' ∉ part := whole part List.mem_cons_self
    have dropped : (joinSegments kept.reverse ++ '/' :: part).rdropWhile (· ≠ '/') =
        joinSegments kept.reverse ++ ['/'] := by
      have parts := List.rdropWhile_append_rtakeWhile (p := (· ≠ '/')) (l := joinSegments kept.reverse ++ '/' :: part)
      rw [rtakeWhile_append_slash slashless] at parts
      refine List.append_cancel_right (parts.trans ?_)
      rw [List.append_cons]
    rw [List.reverse_cons, joinSegments_concat, withoutLast, dropped, List.dropLast_concat, List.tail_cons]

theorem takeWhile_segment {part : List Char} (whole : '/' ∉ part) (others : List (List Char)) :
    (part ++ joinSegments others).takeWhile (· ≠ '/') = part ∧
      (part ++ joinSegments others).dropWhile (· ≠ '/') = joinSegments others := by
  have inside := each_ne_slash whole
  rw [List.takeWhile_append_of_pos inside, List.dropWhile_append_of_pos inside]
  cases others with
  | nil => simp [joinSegments]
  | cons other others => simp [joinSegments_cons]

theorem reduceDots_segment {part : List Char} (whole : '/' ∉ part) (one : part ≠ ['.']) (two : part ≠ ['.', '.'])
    (others : List (List Char)) (output : List Char) :
    reduceDots (joinSegments (part :: others)) output = reduceDots (joinSegments others) (output ++ '/' :: part) := by
  obtain ⟨taken, left⟩ := takeWhile_segment whole others
  rw [joinSegments_cons, reduceDots, taken, left]
  -- Where another rule of the procedure fitted, the segment would be one of the two that are excluded.
  · intro rest same
    rw [same] at taken
    exact one (by simpa using taken.symm)
  · intro same
    rw [same] at taken
    exact one (by simpa using taken.symm)
  · intro rest same
    rw [same] at taken
    exact two (by simpa using taken.symm)
  · intro same
    rw [same] at taken
    exact two (by simpa using taken.symm)

theorem reduceDots_joinSegments {parts kept : List (List Char)} (whole : Whole parts) (keptWhole : Whole kept) :
    reduceDots (joinSegments parts) (joinSegments kept.reverse) = joinSegments (resolveFrom kept parts) := by
  -- The output holds what is kept, front to back; a dot segment at the end leaves one more, without characters.
  fun_induction resolveFrom kept parts with
  | case1 kept => simp [joinSegments, reduceDots]
  | case2 kept rest ih =>
    obtain ⟨_, restWhole⟩ := List.forall_mem_cons.mp whole
    cases rest with
    | nil =>
      have slash : reduceDots (joinSegments [['.']]) (joinSegments kept.reverse) =
          reduceDots [] (joinSegments ([] :: kept).reverse) := by
        rw [List.reverse_cons, joinSegments_concat]
        simp [joinSegments, reduceDots]
      rw [slash]
      exact ih restWhole (List.forall_mem_cons.mpr ⟨List.not_mem_nil, keptWhole⟩)
    | cons part rest =>
      rw [joinSegments_cons, joinSegments_cons]
      simp only [List.cons_append, List.nil_append, reduceDots]
      exact ih restWhole keptWhole
  | case3 kept rest ih =>
    obtain ⟨_, restWhole⟩ := List.forall_mem_cons.mp whole
    have tailWhole : Whole kept.tail := fun part member => keptWhole part (List.mem_of_mem_tail member)
    cases rest with
    | nil =>
      have slash : reduceDots (joinSegments [['.', '.']]) (joinSegments kept.reverse) =
          reduceDots [] (joinSegments ([] :: kept.tail).reverse) := by
        rw [List.reverse_cons, joinSegments_concat, ← withoutLast_joinSegments keptWhole]
        simp [joinSegments, reduceDots]
      rw [slash]
      exact ih restWhole (List.forall_mem_cons.mpr ⟨List.not_mem_nil, tailWhole⟩)
    | cons part rest =>
      rw [joinSegments_cons, joinSegments_cons]
      simp only [List.cons_append, List.nil_append, reduceDots, withoutLast_joinSegments keptWhole]
      exact ih restWhole tailWhole
  | case4 kept part rest one two ih =>
    obtain ⟨partWhole, restWhole⟩ := List.forall_mem_cons.mp whole
    have more := ih restWhole (List.forall_mem_cons.mpr ⟨partWhole, keptWhole⟩)
    rw [List.reverse_cons, joinSegments_concat] at more
    rw [reduceDots_segment partWhole (fun dot => one dot) (fun dots => two dots), more]

theorem intercalate_eq_joinSegments (first : List Char) (parts : List (List Char)) :
    ['/'].intercalate (first :: parts) = first ++ joinSegments parts := by
  induction parts generalizing first with
  | nil => rw [List.intercalate_singleton, joinSegments, List.flatMap_nil, List.append_nil]
  | cons part parts ih =>
    rw [List.intercalate_cons_cons, ih, joinSegments_cons, List.append_assoc, List.singleton_append]

theorem segments_joinSegments {parts : List (List Char)} (whole : Whole parts) :
    segments (joinSegments parts) = [] :: parts := by
  have joined := intercalate_eq_joinSegments [] parts
  rw [List.nil_append] at joined
  rw [← joined, segments, List.splitOn_intercalate]
  · exact List.forall_mem_cons.mpr ⟨List.not_mem_nil, whole⟩
  · exact List.cons_ne_nil _ _

theorem whole_segments (path : List Char) : Whole (segments path) := by
  unfold segments
  induction path with
  | nil => simp [Whole]
  | cons c rest ih =>
    rw [List.splitOn_cons_eq_if_modifyHead]
    split
    · exact List.forall_mem_cons.mpr ⟨List.not_mem_nil, ih⟩
    · next other =>
      cases parts : rest.splitOn '/' with
      | nil => exact absurd parts (List.splitOn_ne_nil _ _)
      | cons first others =>
        rw [parts] at ih
        obtain ⟨firstWhole, othersWhole⟩ := List.forall_mem_cons.mp ih
        refine List.forall_mem_cons.mpr ⟨?_, othersWhole⟩
        rw [List.mem_cons, not_or]
        exact ⟨fun same => other (beq_iff_eq.mpr same.symm), firstWhole⟩

theorem joinSegments_segments (path : List Char) : joinSegments (segments path) = '/' :: path := by
  have parts : ['/'].intercalate (segments path) = path := List.intercalate_splitOn '/'
  cases found : segments path with
  | nil => exact absurd found (List.splitOn_ne_nil _ _)
  | cons first others =>
    rw [found, intercalate_eq_joinSegments] at parts
    rw [joinSegments_cons, parts]

theorem exists_joinSegments_afterHost (url : List Char) :
    ∃ parts, Whole parts ∧ afterHost url = joinSegments parts := by
  fun_induction afterHost url with
  | case1 rest =>
    cases path : rest.dropWhile (· ≠ '/') with
    | nil => exact ⟨[], List.forall_mem_nil _, rfl⟩
    | cons c more =>
      have slash : c = '/' := by
        have first := List.head?_dropWhile_not (· ≠ '/') rest
        rw [path] at first
        simpa using first
      subst slash
      exact ⟨segments more, whole_segments more, (joinSegments_segments more).symm⟩
  | case2 => exact ⟨[], List.forall_mem_nil _, rfl⟩
  | case3 c rest _ ih => exact ih

theorem requestPath_eq_reduceDots (url : String) :
    requestPath url = String.ofList (reduceDots (afterHost url.toList) []) := by
  obtain ⟨parts, whole, path⟩ := exists_joinSegments_afterHost url.toList
  have reduced := reduceDots_joinSegments whole (List.forall_mem_nil _ : Whole [])
  rw [requestPath, path, removeDotSegments, segments_joinSegments whole, List.drop_one, List.tail_cons, ← reduced]
  rfl

example : requestPath "http://localhost/a/./b//../c/.." = "/a/b/" := by decide

theorem resolveFrom_append {parts : List (List Char)}
    (ordinary : ∀ part ∈ parts, part ≠ ['.'] ∧ part ≠ ['.', '.']) (kept others : List (List Char)) :
    resolveFrom kept (parts ++ others) = resolveFrom (parts.reverse ++ kept) others := by
  induction parts generalizing kept with
  | nil => rfl
  | cons part parts ih =>
    obtain ⟨⟨one, two⟩, rest⟩ := List.forall_mem_cons.mp ordinary
    rw [List.cons_append, resolveFrom, ih rest, List.reverse_cons, List.append_assoc, List.singleton_append]
    · exact one
    · exact two

end FindQuery.Http
