import PortRelease.Proofs.Disk.Path
import PortRelease.Disk.Basic
/-!
# Where paths lead

A disk has grown (`Grown`) if it has all the directories that it had, and lies where it lay. On a disk that has grown a path that could be
followed leads where it led (`locate_of_grown`), so several calls with the same path mean the same place.

A path without two dots leads to the place that its names spell (`place_of_locate`), whatever is on the disk.
-/

namespace PortRelease.Disk

variable {a b disk : Disk} {place other : Place} {path : Path} {target : Target}

/-! ## Entries -/

theorem lookup_filter_self (place : Place) (entries : List (Place × Entry)) :
    (entries.filter fun entry => entry.1 != place).lookup place = none := by
  rw [List.lookup_eq_none_iff]
  intro entry mem
  have differs : (entry.1 != place) = true := (List.mem_filter.mp mem).2
  rw [bne_comm]
  exact differs

theorem entryAt?_clear_self (some_name : place ≠ []) (disk : Disk) : (disk.clear place).entryAt? place = none := by
  rw [entryAt?, if_neg some_name, clear, lookup_filter_self]

/-! ## Growth -/

/-- A disk has all the directories that another has and the same current one, and is on the same medium. -/
structure Grown (before after : Disk) : Prop where
  here_eq : after.here = before.here
  medium_eq : after.medium = before.medium
  kept : ∀ place, before.entryAt? place = some .directory → after.entryAt? place = some .directory

namespace Grown

theorem refl (disk : Disk) : Grown disk disk := ⟨rfl, rfl, fun _ => id⟩

theorem trans (first : Grown a b) (second : Grown b c) : Grown a c :=
  ⟨second.here_eq.trans first.here_eq, second.medium_eq.trans first.medium_eq,
    fun place directory => second.kept place (first.kept place directory)⟩

/-- A change at one place takes no directory away unless there was one. -/
theorem of_ne (here_eq : b.here = a.here) (medium_eq : b.medium = a.medium)
    (no_directory : a.entryAt? place ≠ some .directory)
    (same : ∀ other, other ≠ place → b.entryAt? other = a.entryAt? other) : Grown a b where
  here_eq := here_eq
  medium_eq := medium_eq
  kept other directory := by
    rw [same]
    · exact directory
    · rintro rfl
      exact no_directory directory

end Grown

theorem walk_of_grown (grown : Grown a b) {start : Place} {names : List Text}
    (led : a.walk start names = .ok place) : b.walk start names = .ok place := by
  induction names generalizing start with
  | nil => exact led
  | cons name names ih =>
    unfold walk at led ⊢
    cases entered : a.enter start name with
    | error e =>
      rw [entered] at led
      cases led
    | ok next =>
      rw [entered] at led
      have same : b.enter start name = .ok next := by
        unfold enter at entered ⊢
        split
        next up => rwa [if_pos up] at entered
        next down =>
          rw [if_neg down] at entered
          split at entered
          next => cases entered
          next fitting =>
            rw [if_neg fitting]
            cases found : a.entryAt? (name :: start) with
            | none =>
              rw [found] at entered
              cases entered
            | some entry =>
              cases entry with
              | file =>
                rw [found] at entered
                cases entered
              | directory =>
                rw [found] at entered
                rw [grown.kept _ found]
                exact entered
      rw [same]
      exact ih led

theorem start_of_grown (grown : Grown a b) (path : Path) : b.start path = a.start path := by
  rw [start, start, grown.here_eq]

theorem map_walk_of_grown (grown : Grown a b) {start : Place} {names : List Text} {f : Place → Target}
    (led : (a.walk start names).map f = .ok target) : (b.walk start names).map f = .ok target := by
  cases walked : a.walk start names with
  | error e =>
    rw [walked] at led
    cases led
  | ok place =>
    rw [walked] at led
    rw [walk_of_grown grown walked]
    exact led

theorem follow_of_grown (grown : Grown a b) (led : a.follow path = .ok target) : b.follow path = .ok target := by
  simp only [follow, start_of_grown grown path] at led ⊢
  cases last : path.names.getLast? with
  | none =>
    rw [last] at led
    exact led
  | some name =>
    rw [last] at led
    dsimp only at led ⊢
    split
    next dots =>
      rw [if_pos dots] at led
      exact map_walk_of_grown grown led
    next named =>
      rw [if_neg named] at led
      exact map_walk_of_grown grown led

theorem locate_eq_ok_iff : disk.locate path = .ok target ↔
    '\x00' ∉ path ∧ path ≠ [] ∧ (Utf8.encode path).length < pathLimit ∧ disk.follow path = .ok target := by
  unfold locate
  split
  next nul => simp [nul]
  next no_nul =>
    split
    next none => simp [List.isEmpty_iff.mp none]
    next some =>
      split
      next long => simp [Nat.not_lt.mpr long]
      next short =>
        have some_char : path ≠ [] := by simpa using some
        cases disk.follow path <;> simp [no_nul, some_char, Nat.not_le.mp short]

/-- **On a disk that has grown a path leads where it led.** -/
theorem locate_of_grown (grown : Grown a b) (led : a.locate path = .ok target) : b.locate path = .ok target := by
  rw [locate_eq_ok_iff] at led ⊢
  exact ⟨led.1, led.2.1, led.2.2.1, follow_of_grown grown led.2.2.2⟩

/-! ## Places that paths spell -/

/-- The place that the names along a path spell, two dots being a name like any other. -/
def spelledPlace (disk : Disk) (path : Path) : Place := path.names.reverse ++ disk.start path

theorem spelledPlace_of_grown (grown : Grown a b) (path : Path) : b.spelledPlace path = a.spelledPlace path := by
  rw [spelledPlace, spelledPlace, start_of_grown grown]

theorem walk_of_no_ascent {start : Place} {names : List Text} (no_ascent : Path.above ∉ names)
    (led : disk.walk start names = .ok place) : place = names.reverse ++ start := by
  induction names generalizing start with
  | nil =>
    cases led
    rfl
  | cons name names ih =>
    unfold walk at led
    cases entered : disk.enter start name with
    | error e =>
      rw [entered] at led
      cases led
    | ok next =>
      rw [entered] at led
      have below : next = name :: start := by
        unfold enter at entered
        rw [if_neg (List.ne_of_not_mem_cons no_ascent).symm] at entered
        split at entered
        next => cases entered
        next =>
          split at entered <;> cases entered
          rfl
      rw [ih (List.not_mem_of_not_mem_cons no_ascent) led, below]
      simp

/-- The name to which a path leads is the last of its names, and no two dots. -/
theorem walk_of_locate {directory : Place} {name : Text} {slash : Bool}
    (led : disk.locate path = .ok (.name directory name slash)) :
    path.names.getLast? = some name ∧ name ≠ Path.above ∧
      disk.walk (disk.start path) path.names.dropLast = .ok directory := by
  have followed := (locate_eq_ok_iff.mp led).2.2.2
  simp only [follow] at followed
  cases last : path.names.getLast? with
  | none =>
    rw [last] at followed
    cases followed
  | some ending =>
    rw [last] at followed
    dsimp only at followed
    split at followed
    next => cases walked : disk.walk (disk.start path) path.names <;> simp [walked, Except.map] at followed
    next named =>
      cases walked : disk.walk (disk.start path) path.names.dropLast with
      | error e => simp [walked, Except.map] at followed
      | ok place =>
        rw [walked] at followed
        cases followed
        exact ⟨rfl, fun ascent => named (by simp [ascent]), rfl⟩

/-- **A path without two dots leads to the place that its names spell.** -/
theorem place_of_locate {directory : Place} {name : Text} {slash : Bool} (no_ascent : Path.above ∉ path.names)
    (led : disk.locate path = .ok (.name directory name slash)) : name :: directory = disk.spelledPlace path := by
  obtain ⟨last, -, walked⟩ := walk_of_locate led
  obtain ⟨front, split⟩ := List.getLast?_eq_some_iff.mp last
  rw [split, List.dropLast_concat] at walked
  rw [split, List.mem_append, not_or] at no_ascent
  rw [walk_of_no_ascent no_ascent.1 walked, spelledPlace, split]
  simp

end PortRelease.Disk
