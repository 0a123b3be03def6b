import PortRelease.Text.Words
/-!
# Paths

A path is a text whose slashes separate names. Empty names and single dots say nothing; two dots lead to the
directory above. What is asked about a path here is answered from its text alone: its names, its file name,
its parent, and the path beside it that has another extension.

A parent is shorter than its path (`length_parent?_lt`).
-/

namespace PortRelease

/-- The text of a path. -/
abbrev Path := Text

namespace Path

/-- The path of the directory above. -/
def above : Text := ['.', '.']

/-- Whether the path begins at the root. -/
def isAbsolute (path : Path) : Bool := path.head? = some '/'

/-- The names along a path, two dots included. -/
def names (path : Path) : List Text :=
  (Text.pieces (· = '/') path).filter fun name => !name.isEmpty && name != ['.']

/-! ## The end of a path -/

/-- A reversed path without the slashes and single dots that it begins with. A dot that is all there is
stays. -/
def dropFiller : Text → Text
  | '/' :: rest => dropFiller rest
  | '.' :: '/' :: rest => dropFiller rest
  | rest => rest

/-- **A path without the slashes and single dots that it ends with.** The root stays itself. -/
def trimmed (path : Path) : Path :=
  let kept := (dropFiller path.reverse).reverse
  if kept.isEmpty && path.isAbsolute then ['/'] else kept

/-- What stands before the last name of a trimmed path, and that name. -/
def splitName (path : Path) : Text × Text :=
  match Text.splitLast '/' path with
  | some (before, name) => (before ++ ['/'], name)
  | none => ([], path)

/-- The text before the file name, and the file name. A path that ends in two dots, or that has no name at its
end, has none. -/
def file? (path : Path) : Option (Text × Text) :=
  let (before, name) := splitName path.trimmed
  if name.isEmpty || name = ['.'] || name = above then none else some (before, name)

/-- **The path of the directory that holds what the path leads to**; the root and the empty path have none. -/
def parent? (path : Path) : Option Path :=
  let path := path.trimmed
  if path.isEmpty || path = ['/'] then none else some (trimmed (splitName path).1)

/-- A path below a directory. -/
def under (directory : Path) (path : Path) : Path :=
  if directory.getLast? = some '/' then directory ++ path else directory ++ '/' :: path

/-! ## Extensions -/

/-- The stem of a file name and its extension, which is what follows the last dot unless that is the first
character. -/
def splitExtension (name : Text) : Text × Text :=
  match Text.splitLast '.' name with
  | some ([], _) => (name, [])
  | some (stem, extension) => (stem, extension)
  | none => (name, [])

/-- The path with another extension at its file name, if it has a file name. -/
def replaceExtension (extension : Text) (path : Path) : Path :=
  match path.file? with
  | some (before, name) => before ++ (splitExtension name).1 ++ '.' :: extension
  | none => path

/-- **The path beside this one that has another extension.** As many characters as the old extension has are
cut off the end of the path first; if two dots are left, as from `..a`, then there is no name for an extension,
and they are the answer. -/
def withExtension (extension : Text) (path : Path) : Path :=
  let old := (path.file?.map fun file => (splitExtension file.2).2).getD []
  replaceExtension extension (path.take (path.length - old.length))

example : withExtension "tmp".toList "a/b.c.json/.".toList = "a/b.c.tmp".toList := by decide
example : withExtension "tmp".toList ".a".toList = ".a.tmp".toList := by decide
example : withExtension "tmp".toList "..a".toList = "..".toList := by decide
example : withExtension "tmp".toList "..a/".toList = "..tmp".toList := by decide
example : withExtension "tmp".toList "a/..".toList = "a/..".toList := by decide

/-! ## Lengths -/

theorem length_dropFiller_le (s : Text) : (dropFiller s).length ≤ s.length := by
  fun_induction dropFiller s with
  | case1 rest ih => simp only [List.length_cons]; omega
  | case2 rest ih => simp only [List.length_cons]; omega
  | case3 rest => exact Nat.le_refl _

theorem length_trimmed_le (path : Path) : path.trimmed.length ≤ path.length := by
  have dropped := length_dropFiller_le path.reverse
  unfold trimmed
  dsimp only
  split
  next h =>
    obtain ⟨_, absolute⟩ := Bool.and_eq_true_iff.1 h
    cases path with
    | nil => simp [isAbsolute] at absolute
    | cons c rest => simp
  next => simpa using dropped

theorem length_splitName (path : Path) :
    (splitName path).1.length + (splitName path).2.length = path.length := by
  unfold splitName
  split
  next before name h =>
    rw [Text.eq_of_splitLast h]
    simp only [List.length_append, List.length_cons, List.length_nil]
    omega
  next => simp

theorem dropFiller_ne (s rest : Text) : dropFiller s ≠ '/' :: rest := by
  fun_induction dropFiller s with
  | case1 _ ih => exact ih
  | case2 _ ih => exact ih
  | case3 s slash dot =>
    rintro rfl
    exact slash rest rfl

/-- Only the root ends in a slash when it is trimmed. -/
theorem trimmed_ne {path : Path} (root : path.trimmed ≠ ['/']) (before : Text) :
    path.trimmed ≠ before ++ ['/'] := by
  intro h
  unfold trimmed at root h
  dsimp only at root h
  split at h
  next absolute => exact root (if_pos absolute)
  next =>
    refine dropFiller_ne path.reverse before.reverse ?_
    rw [← List.reverse_reverse (dropFiller path.reverse), h, List.reverse_append]
    rfl

/-- **A parent is shorter than its path.** -/
theorem length_parent?_lt {path parent : Path} (h : path.parent? = some parent) :
    parent.length < path.length := by
  unfold parent? at h
  dsimp only at h
  split at h
  next => simp at h
  next named =>
    obtain ⟨nonempty, root⟩ := not_or.1 (by simpa using named)
    obtain rfl := Option.some.inj h
    have lengths := length_splitName path.trimmed
    have name : 0 < (splitName path.trimmed).2.length := by
      refine List.length_pos_iff.2 fun none => ?_
      unfold splitName at none
      split at none
      next before name split =>
        refine trimmed_ne root before ?_
        rw [Text.eq_of_splitLast split]
        exact congrArg (before ++ '/' :: ·) none
      next => exact nonempty none
    have := length_trimmed_le (splitName path.trimmed).1
    have := length_trimmed_le path
    omega

end Path

end PortRelease
