import PortRelease.Disk.Path
/-!
# The names along a path

Slashes and single dots at the end of a path add nothing to its names (`names_trimmed`). What is left without them is
either nothing, the root, a single dot, or a text that ends in a name (`trimmed_cases`); the parent of a path and the
path beside it are read off that text. A path beside another has the same names up to the last, and a last name of its
own, unless it ends in two dots (`withExtension_of_named`).
-/

namespace PortRelease.Path

/-- The paths above a path: its parent, the parent of that, and so on. -/
inductive Above : Path → Path → Prop
  | parent {path parent : Path} (above : path.parent? = some parent) : Above parent path
  | further {path parent other : Path} (above : path.parent? = some parent) (upward : Above other parent) :
    Above other path

variable {path parent other : Path} {before name rest s : Text}

/-! ## Names -/

theorem names_append_slash (before rest : Text) : names (before ++ '/' :: rest) = names before ++ names rest := by
  rw [names, Text.pieces_append (by decide), List.filter_append]
  rfl

theorem pieces_of_no_slash (no_slash : '/' ∉ name) : Text.pieces (· = '/') name = [name] := by
  induction name with
  | nil => rfl
  | cons c name ih =>
    have differs : '/' ≠ c := List.ne_of_not_mem_cons no_slash
    simp [Text.pieces, ih (List.not_mem_of_not_mem_cons no_slash), differs.symm]

/-- **A name, and a text that it can stand behind**: an empty one, or one that ends in a slash. -/
structure Named (before name : Text) : Prop where
  leads : before = [] ∨ ∃ start, before = start ++ ['/']
  no_slash : '/' ∉ name
  some_char : name ≠ []
  no_dot : name ≠ ['.']

theorem Named.rename (named : Named before name) {other : Text} (no_slash : '/' ∉ other) (some_char : other ≠ [])
    (no_dot : other ≠ ['.']) : Named before other :=
  ⟨named.leads, no_slash, some_char, no_dot⟩

theorem names_named (named : Named before name) : names (before ++ name) = names before ++ [name] := by
  have alone : names name = [name] := by
    simp [names, pieces_of_no_slash named.no_slash, named.some_char, named.no_dot]
  obtain rfl | ⟨start, rfl⟩ := named.leads
  · exact alone
  · have ended : names (start ++ ['/']) = names start := by
      rw [names_append_slash]
      exact List.append_nil _
    rw [ended, List.append_assoc, List.singleton_append, names_append_slash, alone]

theorem isAbsolute_named (named : Named before name) : isAbsolute (before ++ name) = isAbsolute before := by
  obtain rfl | ⟨start, rfl⟩ := named.leads
  · obtain ⟨c, more, rfl⟩ := List.exists_cons_of_ne_nil named.some_char
    have differs : '/' ≠ c := List.ne_of_not_mem_cons named.no_slash
    simp [isAbsolute, differs.symm]
  · cases start <;> rfl

/-! ## Trimmed paths -/

theorem dropFiller_ne_dot (s rest : Text) : dropFiller s ≠ '.' :: '/' :: rest := by
  fun_induction dropFiller s with
  | case1 _ ih => exact ih
  | case2 _ ih => exact ih
  | case3 s slash dot =>
    rintro rfl
    exact dot rest rfl

theorem dropFiller_eq_self (slash : ∀ rest, s ≠ '/' :: rest) (dot : ∀ rest, s ≠ '.' :: '/' :: rest) :
    dropFiller s = s := by
  fun_cases dropFiller s with
  | case1 rest => exact absurd rfl (slash rest)
  | case2 rest => exact absurd rfl (dot rest)
  | case3 => rfl

theorem names_dropFiller (s : Text) : names (dropFiller s).reverse = names s.reverse := by
  fun_induction dropFiller s with
  | case1 rest ih =>
    rw [ih, List.reverse_cons, names_append_slash]
    exact (List.append_nil _).symm
  | case2 rest ih =>
    rw [ih, List.reverse_cons, List.reverse_cons, List.append_assoc, List.singleton_append, names_append_slash]
    exact (List.append_nil _).symm
  | case3 rest => rfl

theorem dropFiller_suffix (s : Text) : dropFiller s <:+ s := by
  fun_induction dropFiller s with
  | case1 rest ih => exact ih.trans (List.suffix_cons '/' rest)
  | case2 rest ih => exact ih.trans ((List.suffix_cons '/' rest).trans (List.suffix_cons '.' _))
  | case3 rest => exact List.suffix_refl rest

/-- **The end that is trimmed has no names.** -/
theorem names_trimmed (path : Path) : path.trimmed.names = path.names := by
  have kept := names_dropFiller path.reverse
  rw [List.reverse_reverse] at kept
  unfold trimmed
  dsimp only
  split
  next none =>
    obtain ⟨empty, -⟩ := Bool.and_eq_true_iff.mp none
    rw [← kept, List.isEmpty_iff.mp empty]
    rfl
  next => exact kept

theorem trimmed_of_some (some_char : dropFiller path.reverse ≠ []) :
    path.trimmed = (dropFiller path.reverse).reverse := by
  simp [trimmed, some_char]

theorem isAbsolute_trimmed (path : Path) : path.trimmed.isAbsolute = path.isAbsolute := by
  by_cases some_char : dropFiller path.reverse = []
  · cases absolute : path.isAbsolute <;> simp [trimmed, some_char, absolute] <;> rfl
  · rw [trimmed_of_some some_char]
    obtain ⟨filler, split⟩ := dropFiller_suffix path.reverse
    have front : path = (dropFiller path.reverse).reverse ++ filler.reverse := by
      rw [← List.reverse_append, split, List.reverse_reverse]
    obtain ⟨c, more, starts⟩ := List.exists_cons_of_ne_nil (List.reverse_ne_nil_iff.mpr some_char)
    calc isAbsolute (dropFiller path.reverse).reverse
      _ = isAbsolute ((dropFiller path.reverse).reverse ++ filler.reverse) := by rw [starts]; rfl
      _ = path.isAbsolute := by rw [← front]

theorem trimmed_named (named : Named before name) : trimmed (before ++ name) = before ++ name := by
  obtain ⟨c, more, ends⟩ := List.exists_cons_of_ne_nil (List.reverse_ne_nil_iff.mpr named.some_char)
  have no_slash : '/' ∉ c :: more := by
    rw [← ends, List.mem_reverse]
    exact named.no_slash
  have kept : dropFiller (before ++ name).reverse = (before ++ name).reverse := by
    rw [List.reverse_append, ends]
    apply dropFiller_eq_self
    · rintro rest same
      obtain rfl := (List.cons.inj same).1
      exact no_slash List.mem_cons_self
    · rintro rest same
      obtain ⟨rfl, tail⟩ := List.cons.inj same
      cases more with
      | nil => exact named.no_dot (List.reverse_eq_cons_iff.mp ends)
      | cons d more =>
        obtain rfl := (List.cons.inj tail).1
        exact no_slash (List.mem_cons_of_mem _ List.mem_cons_self)
  have some_char : dropFiller (before ++ name).reverse ≠ [] := by
    rw [kept]
    simp [named.some_char]
  rw [trimmed_of_some some_char, kept, List.reverse_reverse]

theorem splitName_named (named : Named before name) : splitName (before ++ name) = (before, name) := by
  obtain rfl | ⟨start, rfl⟩ := named.leads
  · rw [splitName, List.nil_append, Text.splitLast_eq_none named.no_slash]
  · rw [splitName, List.append_assoc, List.singleton_append, Text.splitLast_append named.no_slash]

/-- **What a trimmed path is.** -/
theorem trimmed_cases (path : Path) :
    path.trimmed = [] ∨ path.trimmed = ['/'] ∨ path.trimmed = ['.'] ∨
      ∃ before name, Named before name ∧ path.trimmed = before ++ name := by
  by_cases root : path.trimmed = ['/']
  · exact .inr (.inl root)
  by_cases empty : path.trimmed = []
  · exact .inl empty
  by_cases dot : path.trimmed = ['.']
  · exact .inr (.inr (.inl dot))
  refine .inr (.inr (.inr ?_))
  cases split : Text.splitLast '/' path.trimmed with
  | none => exact ⟨[], path.trimmed, ⟨.inl rfl, Text.not_mem_of_splitLast_eq_none split, empty, dot⟩, rfl⟩
  | some parts =>
    obtain ⟨start, name⟩ := parts
    have whole := Text.eq_of_splitLast split
    refine ⟨start ++ ['/'], name, ⟨.inr ⟨start, rfl⟩, Text.not_mem_of_splitLast split, ?_, ?_⟩, by simpa using whole⟩
    · rintro rfl
      exact trimmed_ne root start whole
    · rintro rfl
      have some_char : dropFiller path.reverse ≠ [] := by
        intro none
        have few : path.trimmed.length ≤ 1 := by
          unfold trimmed
          dsimp only
          split <;> simp [none]
        rw [whole] at few
        simp at few
      rw [trimmed_of_some some_char] at whole
      apply dropFiller_ne_dot path.reverse start.reverse
      rw [← List.reverse_reverse (dropFiller path.reverse), whole]
      simp

/-! ## Parents and file names -/

/-- **A parent has the names up to the last, and begins where its path begins.** -/
theorem names_parent? (h : path.parent? = some parent) :
    parent.names = path.names.dropLast ∧ parent.isAbsolute = path.isAbsolute := by
  rw [← names_trimmed path, ← isAbsolute_trimmed path]
  unfold parent? at h
  obtain empty | root | dot | ⟨before, name, named, whole⟩ := trimmed_cases path
  · simp [empty] at h
  · simp [root] at h
  · rw [dot] at h ⊢
    cases h
    exact ⟨rfl, rfl⟩
  · have some_name : before ++ name ≠ [] := by simp [named.some_char]
    have no_root : before ++ name ≠ ['/'] := by
      intro root
      have parts := splitName_named named
      rw [root] at parts
      exact named.some_char (Prod.mk.inj parts).2.symm
    rw [whole] at h ⊢
    simp only [splitName_named named, List.isEmpty_eq_false_iff.mpr some_name, no_root, decide_false, Bool.or_self,
      Bool.false_eq_true, if_false, Option.some.injEq] at h
    rw [← h, names_trimmed, isAbsolute_trimmed, names_named named, isAbsolute_named named, List.dropLast_concat]
    exact ⟨rfl, rfl⟩

/-- What is above a path has the names of the path up to some name before the last, and begins where it begins. -/
theorem names_above (upward : Above other path) :
    other.names <+: path.names.dropLast ∧ other.isAbsolute = path.isAbsolute := by
  induction upward with
  | parent above =>
    obtain ⟨names, absolute⟩ := names_parent? above
    exact ⟨names ▸ List.prefix_refl _, absolute⟩
  | further above _ ih =>
    obtain ⟨names, absolute⟩ := names_parent? above
    rw [names, absolute] at ih
    exact ⟨ih.1.trans (List.dropLast_prefix _), ih.2⟩

theorem file?_of_named (named : Named before name) (whole : path.trimmed = before ++ name) :
    path.file? = if name = above then none else some (before, name) := by
  simp [file?, whole, splitName_named named, named.some_char, named.no_dot]

/-- Whether a path has a file name: it has none if there is no name at its end, or two dots. -/
theorem file?_cases (path : Path) :
    (path.file? = none ∧ (path.names.getLast? = none ∨ path.names.getLast? = some above)) ∨
      ∃ before name, Named before name ∧ name ≠ above ∧ path.trimmed = before ++ name := by
  rw [← names_trimmed path]
  obtain empty | root | dot | ⟨before, name, named, whole⟩ := trimmed_cases path
  · exact .inl (by rw [file?, empty]; exact ⟨rfl, .inl rfl⟩)
  · exact .inl (by rw [file?, root]; exact ⟨rfl, .inl rfl⟩)
  · exact .inl (by rw [file?, dot]; exact ⟨rfl, .inl rfl⟩)
  · by_cases ascent : name = above
    · refine .inl ⟨?_, .inr ?_⟩
      · rw [file?_of_named named whole, if_pos ascent]
      · rw [whole, names_named named, List.getLast?_concat, ascent]
    · exact .inr ⟨before, name, named, ascent, whole⟩

/-! ## The path beside another -/

/-- A name with an extension is its stem, a dot and the extension; another is its own stem. -/
theorem splitExtension_cases (name : Text) :
    splitExtension name = (name, []) ∨
      ∃ stem extension, stem ≠ [] ∧ '.' ∉ extension ∧ name = stem ++ '.' :: extension ∧
        splitExtension name = (stem, extension) := by
  unfold splitExtension
  cases split : Text.splitLast '.' name with
  | none => exact .inl rfl
  | some parts =>
    obtain ⟨stem, extension⟩ := parts
    cases stem with
    | nil => exact .inl rfl
    | cons c stem =>
      exact .inr ⟨c :: stem, extension, List.cons_ne_nil c stem, Text.not_mem_of_splitLast split,
        Text.eq_of_splitLast split, rfl⟩

theorem splitExtension_append {stem extension : Text} (some_char : stem ≠ []) (no_dot : '.' ∉ extension) :
    splitExtension (stem ++ '.' :: extension) = (stem, extension) := by
  obtain ⟨c, more, rfl⟩ := List.exists_cons_of_ne_nil some_char
  rw [splitExtension, Text.splitLast_append no_dot]

theorem dropFiller_drop (s : Text) (count : Nat) : dropFiller (s.drop count) = dropFiller s ∨
    ∃ inside, 0 < inside ∧ inside ≤ count ∧ s.drop count = (dropFiller s).drop inside := by
  fun_induction dropFiller s generalizing count with
  | case1 rest ih =>
    cases count with
    | zero => exact .inl (by rw [List.drop_zero, dropFiller])
    | succ count =>
      obtain same | ⟨inside, some, le, cut⟩ := ih count
      · exact .inl same
      · exact .inr ⟨inside, some, Nat.le_succ_of_le le, cut⟩
  | case2 rest ih =>
    match count with
    | 0 => exact .inl (by rw [List.drop_zero, dropFiller])
    | 1 => exact .inl (by rw [List.drop_succ_cons, List.drop_zero, dropFiller])
    | count + 2 =>
      obtain same | ⟨inside, some, le, cut⟩ := ih count
      · exact .inl same
      · exact .inr ⟨inside, some, by omega, cut⟩
  | case3 rest slash dot =>
    cases count with
    | zero => exact .inl (dropFiller_eq_self (fun _ => slash _) (fun _ => dot _))
    | succ count => exact .inr ⟨count + 1, Nat.succ_pos count, Nat.le_refl _, rfl⟩

/-- A path that is cut at its end is trimmed to the same text, or what is cut reaches into that text. -/
theorem cut_cases (some_char : dropFiller path.reverse ≠ []) (count : Nat) :
    trimmed (path.take (path.length - count)) = path.trimmed ∨
      ∃ inside, 0 < inside ∧ inside ≤ count ∧
        path.take (path.length - count) = path.trimmed.take (path.trimmed.length - inside) := by
  have cut : (path.take (path.length - count)).reverse = path.reverse.drop count := List.drop_reverse.symm
  obtain same | ⟨inside, some, le, reaches⟩ := dropFiller_drop path.reverse count
  · left
    rw [← cut] at same
    rw [trimmed_of_some some_char, ← same, trimmed_of_some]
    rw [same]
    exact some_char
  · refine .inr ⟨inside, some, le, ?_⟩
    apply List.reverse_inj.mp
    rw [trimmed_of_some some_char, cut, reaches, ← List.drop_reverse, List.reverse_reverse]

theorem dropFiller_ne_nil (named : Named before name) (whole : path.trimmed = before ++ name) :
    dropFiller path.reverse ≠ [] := by
  intro none
  have parts := splitName_named named
  rw [← whole, trimmed, none] at parts
  split at parts <;> exact named.some_char (Prod.mk.inj parts).2.symm

/-- The path beside a path with a file name has another extension at that name, or two dots in its place. -/
theorem withExtension_of_named (extension : Text) (named : Named before name) (no_ascent : name ≠ above)
    (whole : path.trimmed = before ++ name) :
    withExtension extension path = before ++ ((splitExtension name).1 ++ '.' :: extension) ∨
      withExtension extension path = before ++ above := by
  have file : path.file? = some (before, name) := by rw [file?_of_named named whole, if_neg no_ascent]
  rw [withExtension, file, Option.map_some, Option.getD_some, replaceExtension]
  obtain same | ⟨inside, some, le, cut⟩ :=
    cut_cases (dropFiller_ne_nil named whole) (splitExtension name).2.length
  · left
    have file' : file? (path.take (path.length - (splitExtension name).2.length)) = some (before, name) := by
      rw [file?_of_named named (same.trans whole), if_neg no_ascent]
    rw [file']
    exact List.append_assoc ..
  · obtain plain | ⟨stem, old, some_stem, no_dot, rfl, parts⟩ := splitExtension_cases name
    · rw [plain] at le
      exact absurd le (Nat.not_le.mpr some)
    · rw [parts] at le cut ⊢
      dsimp only at le cut ⊢
      -- What is left of the name is its stem, the dot, and the extension as far as it was not cut.
      generalize kept : old.take (old.length - inside) = rest
      have remains : path.take (path.length - old.length) = before ++ (stem ++ '.' :: rest) := by
        have count : path.trimmed.length - inside = (before ++ (stem ++ ['.'])).length + (old.length - inside) := by
          rw [whole]
          simp only [List.length_append, List.length_cons, List.length_nil]
          omega
        have parted : path.trimmed = (before ++ (stem ++ ['.'])) ++ old := by simp [whole]
        rw [cut, count, parted, List.take_length_add_append, kept]
        simp
      have no_slash : '/' ∉ stem ++ '.' :: rest := by
        have fewer : (stem ++ '.' :: rest).Sublist (stem ++ '.' :: old) := by
          rw [← kept]
          exact ((List.take_sublist ..).cons_cons '.').append_left stem
        exact fun mem => named.no_slash (fewer.mem mem)
      have no_dot' : '.' ∉ rest := by
        rw [← kept]
        exact fun mem => no_dot (List.mem_of_mem_take mem)
      have named' : Named before (stem ++ '.' :: rest) :=
        named.rename no_slash (by simp) (by simp [List.append_eq_cons_iff, some_stem])
      rw [remains, file?_of_named named' (trimmed_named named')]
      by_cases ascent : stem ++ '.' :: rest = above
      · right
        rw [if_pos ascent, ascent]
      · left
        rw [if_neg ascent]
        dsimp only
        rw [splitExtension_append some_stem no_dot']
        exact List.append_assoc ..

/-- Another extension makes another name of a name, if there is a dot in the extension. -/
theorem named_stem {extension : Text} (dot : '.' ∈ extension) (no_slash : '/' ∉ extension)
    (named : Named before name) :
    Named before ((splitExtension name).1 ++ '.' :: extension) ∧
      (splitExtension name).1 ++ '.' :: extension ≠ name ∧ (splitExtension name).1 ++ '.' :: extension ≠ above := by
  have some_stem : (splitExtension name).1 ≠ [] ∧ '/' ∉ (splitExtension name).1 ∧
      (splitExtension name).1 ++ '.' :: extension ≠ name := by
    obtain plain | ⟨stem, old, some_stem, no_dot, rfl, parts⟩ := splitExtension_cases name
    · rw [plain]
      exact ⟨named.some_char, named.no_slash, by simp⟩
    · rw [parts]
      refine ⟨some_stem, fun mem => named.no_slash (List.mem_append_left _ mem), fun same => ?_⟩
      obtain rfl := (List.cons.inj (List.append_cancel_left same)).2
      exact no_dot dot
  obtain ⟨some_stem, no_slash', differs⟩ := some_stem
  obtain ⟨c, stem, starts⟩ := List.exists_cons_of_ne_nil some_stem
  obtain ⟨d, more, continues⟩ := List.exists_cons_of_ne_nil (List.ne_nil_of_mem dot)
  refine ⟨named.rename ?_ ?_ ?_, differs, ?_⟩
  · simp [no_slash, no_slash']
  · simp
  · simp [List.append_eq_cons_iff, some_stem]
  · intro short
    have length := congrArg List.length short
    simp [starts, continues, above] at length
    omega

/-- **A path beside another has the same names up to the last**, and a last name of its own, unless there is no name at
its end, or two dots. -/
theorem names_withExtension {extension : Text} (dot : '.' ∈ extension) (no_slash : '/' ∉ extension) (path : Path) :
    (∃ front last other, path.names = front ++ [last] ∧ (withExtension extension path).names = front ++ [other] ∧
        other ≠ last ∧ other ≠ above ∧ (withExtension extension path).isAbsolute = path.isAbsolute) ∨
      (withExtension extension path).names.getLast? = none ∨
      (withExtension extension path).names.getLast? = some above := by
  obtain ⟨none, ends⟩ | ⟨before, name, named, no_ascent, whole⟩ := file?_cases path
  · right
    have same : withExtension extension path = path := by simp [withExtension, replaceExtension, none]
    rwa [same]
  · obtain beside | dots := withExtension_of_named extension named no_ascent whole
    · left
      obtain ⟨named', differs, no_ascent'⟩ := named_stem dot no_slash named
      refine ⟨names before, name, _, ?_, ?_, differs, no_ascent', ?_⟩
      · rw [← names_trimmed path, whole, names_named named]
      · rw [beside, names_named named']
      · rw [← isAbsolute_trimmed path, whole, beside, isAbsolute_named named, isAbsolute_named named']
    · right
      have named' : Named before above := named.rename (by decide) (by decide) (by decide)
      rw [dots, names_named named', List.getLast?_concat]
      exact .inr rfl

end PortRelease.Path
