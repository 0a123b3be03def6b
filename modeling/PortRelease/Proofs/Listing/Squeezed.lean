import PortRelease.Proofs.Listing.Owners
import PortRelease.Proofs.Text.Written
/-!
# Owners and blanks

A line is cut into words, and the words of its last column are joined again with one space between them. Names may hold
blanks, so the text that is searched is not the text that was printed: its runs of blanks are shorter (`Squeezed`).

The same owners are found in it (`ownerTexts_join_words`). No blank is part of what an owner is recognised by, so each
part of an owner is found in both texts or in neither, with the rest of one the squeezed rest of the other.
-/

namespace PortRelease.Listing

open Text (StartsBlank startsBlank_cons)

variable {s : Text}

/-- A text, and the same text with its runs of blanks made shorter: a space stands for each run, but for the last one,
which may be gone, if it ends the text. -/
inductive Squeezed : Text → Text → Prop
  | nil : Squeezed [] []
  | solid {c : Char} {s t : Text} (solid : isBlank c = false) (rest : Squeezed s t) : Squeezed (c :: s) (c :: t)
  | space {b : Char} {s t : Text} (blank : isBlank b = true) (rest : Squeezed s t) : Squeezed (b :: s) (' ' :: t)
  | dropped {b : Char} {s t : Text} (blank : isBlank b = true) (rest : Squeezed s t) (starts : StartsBlank t) :
    Squeezed (b :: s) t

theorem ne_of_isBlank {b c : Char} (blank : isBlank b = true) (solid : isBlank c = false) : c ≠ b := by
  rintro rfl
  cases solid.symm.trans blank

theorem startsBlank_space (s : Text) : StartsBlank (' ' :: s) := startsBlank_cons (by decide) s

theorem endsDigits_of_startsBlank (starts : StartsBlank s) : EndsDigits s :=
  fun c first => not_isDecimalDigit_of_isBlank (starts c first)

/-- A text with a blank in front does not start with a word. -/
theorem after?_of_startsBlank {p : Char} (solid : isBlank p = false) (part : Text) (starts : StartsBlank s) :
    Text.after? (p :: part) s = none := by
  cases s with
  | nil => rfl
  | cons c s => exact if_neg (ne_of_isBlank (starts c rfl) solid)

/-- Steps that go on alike from related results have related results. -/
theorem rel_bind {α β γ δ : Type} {r : α → β → Prop} {r' : γ → δ → Prop} {a : Option α} {b : Option β}
    {f : α → Option γ} {g : β → Option δ} (first : Option.Rel r a b) (next : ∀ x y, r x y → Option.Rel r' (f x) (g y)) :
    Option.Rel r' (a.bind f) (b.bind g) := by
  cases first with
  | none => exact .none
  | some related => exact next _ _ related

theorem exists_of_rel_some {α β γ : Type} {r : β → γ → Prop} {a : α} {b : β} {there : Option (α × γ)}
    (related : Option.Rel (fun x y => x.1 = y.1 ∧ r x.2 y.2) (some (a, b)) there) :
    ∃ a' c, there = some (a', c) ∧ a = a' ∧ r b c := by
  cases related with
  | some related => exact ⟨_, _, rfl, related⟩

namespace Squeezed

variable {t : Text}

theorem after? {part : Text} (solid : Text.Solid part) (squeezed : Squeezed s t) :
    Option.Rel Squeezed (Text.after? part s) (Text.after? part t) := by
  induction part generalizing s t with
  | nil => exact .some squeezed
  | cons p part ih =>
    have p_solid := solid p List.mem_cons_self
    cases squeezed with
    | nil => exact .none
    | solid _ rest =>
      rw [Text.after?, Text.after?]
      split
      · exact ih (fun c mem => solid c (List.mem_cons_of_mem p mem)) rest
      · exact .none
    | space blank rest =>
      rw [after?_of_startsBlank p_solid part (startsBlank_space _), Text.after?, if_neg (ne_of_isBlank blank p_solid)]
      exact .none
    | dropped blank _ starts =>
      rw [after?_of_startsBlank p_solid part starts, Text.after?, if_neg (ne_of_isBlank blank p_solid)]
      exact .none

theorem splitFirst {mark : Char} (solid : isBlank mark = false) (squeezed : Squeezed s t) :
    Option.Rel (fun a b => Squeezed a.2 b.2) (Text.splitFirst mark s) (Text.splitFirst mark t) := by
  have skip {c : Char} {s : Text} (differs : c ≠ mark) : Text.splitFirst mark (c :: s) =
      (Text.splitFirst mark s).bind fun parts => some (c :: parts.1, parts.2) := by
    rw [Text.splitFirst, if_neg differs, Option.map_eq_bind]
    rfl
  induction squeezed with
  | nil => exact .none
  | @solid c _ _ _ rest ih =>
    by_cases same : c = mark
    · rw [Text.splitFirst, Text.splitFirst, if_pos same, if_pos same]
      exact .some rest
    · rw [skip same, skip same]
      exact rel_bind ih fun _ _ related => .some related
  | space blank _ ih =>
    rw [skip (ne_of_isBlank blank solid).symm, skip (ne_of_isBlank (startsBlank_space [] _ rfl) solid).symm]
    exact rel_bind ih fun _ _ related => .some related
  | @dropped _ _ t blank _ _ ih =>
    rw [skip (ne_of_isBlank blank solid).symm, ← Option.bind_fun_some (Text.splitFirst mark t)]
    exact rel_bind ih fun _ _ related => .some related

theorem digits? (squeezed : Squeezed s t) :
    Option.Rel (fun a b => a.1 = b.1 ∧ Squeezed a.2 b.2) (Listing.digits? s) (Listing.digits? t) := by
  have same : s.takeWhile isDecimalDigit = t.takeWhile isDecimalDigit ∧
      Squeezed (s.dropWhile isDecimalDigit) (t.dropWhile isDecimalDigit) := by
    induction squeezed with
    | nil => exact ⟨rfl, .nil⟩
    | @solid c _ _ solid rest ih =>
      rw [List.takeWhile_cons, List.takeWhile_cons, List.dropWhile_cons, List.dropWhile_cons]
      split
      · exact ⟨congrArg (c :: ·) ih.1, ih.2⟩
      · exact ⟨rfl, .solid solid rest⟩
    | @space b s t blank rest _ =>
      have of_s := (endsDigits_of_startsBlank (startsBlank_cons blank s)).takeWhile_dropWhile
      have of_t := (endsDigits_of_startsBlank (startsBlank_space t)).takeWhile_dropWhile
      rw [of_s.1, of_s.2, of_t.1, of_t.2]
      exact ⟨rfl, .space blank rest⟩
    | @dropped b s t blank rest starts _ =>
      have of_s := (endsDigits_of_startsBlank (startsBlank_cons blank s)).takeWhile_dropWhile
      have of_t := (endsDigits_of_startsBlank starts).takeWhile_dropWhile
      rw [of_s.1, of_s.2, of_t.1, of_t.2]
      exact ⟨rfl, .dropped blank rest starts⟩
  unfold Listing.digits?
  rw [same.1]
  split
  · exact .none
  · exact .some ⟨rfl, same.2⟩

theorem ownerHere? (squeezed : Squeezed s t) :
    Option.Rel (fun a b => a.1 = b.1 ∧ Squeezed a.2 b.2) (Listing.ownerHere? s) (Listing.ownerHere? t) := by
  have marks : Text.Solid ",pid=".toList ∧ Text.Solid ",fd=".toList ∧ Text.Solid ['"'] := by decide
  unfold Listing.ownerHere?
  refine rel_bind (squeezed.after? marks.2.2) fun _ _ opened => ?_
  refine rel_bind (opened.splitFirst (by decide)) fun _ _ closed => ?_
  refine rel_bind (closed.after? marks.1) fun _ _ marked => ?_
  refine rel_bind marked.digits? fun _ _ ⟨same, read⟩ => ?_
  refine rel_bind (read.after? marks.2.1) fun _ _ marked => ?_
  refine rel_bind marked.digits? fun _ _ ⟨_, rest⟩ => ?_
  exact .some ⟨same, rest⟩

theorem ownerTexts_eq (squeezed : Squeezed s t) : ownerTexts s = ownerTexts t := by
  -- along the search in the longer text; a blank that was dropped is a step that the other search does not make
  fun_induction ownerTexts s generalizing t with
  | case1 =>
    cases squeezed
    rw [ownerTexts]
  | case2 c s pid rest found ih =>
    have related := squeezed.ownerHere?
    rw [found] at related
    obtain ⟨_, rest', found', rfl, later⟩ := exists_of_rel_some related
    rw [ownerTexts_of_owner found', ih later]
  | case3 c s none_here ih =>
    have related := squeezed.ownerHere?
    rw [none_here] at related
    have none_there : Listing.ownerHere? t = none := by
      generalize Listing.ownerHere? t = there at related
      cases related
      rfl
    cases squeezed with
    | solid _ rest => rw [ownerTexts_of_none none_there, ih rest]
    | space _ rest => rw [ownerTexts_of_none none_there, ih rest]
    | dropped _ rest _ => exact ih rest

theorem append_of_blank {gap : Text} (blank : Text.Blank gap) (squeezed : Squeezed s t) (starts : StartsBlank t) :
    Squeezed (gap ++ s) t := by
  induction gap with
  | nil => exact squeezed
  | cons b gap ih =>
    exact .dropped (blank b List.mem_cons_self) (ih fun c mem => blank c (List.mem_cons_of_mem b mem)) starts

theorem append_of_gap {gap : Text} (some_gap : gap ≠ []) (blank : Text.Blank gap) (squeezed : Squeezed s t) :
    Squeezed (gap ++ s) (' ' :: t) := by
  induction gap with
  | nil => exact absurd rfl some_gap
  | cons b gap ih =>
    cases gap with
    | nil => exact .space (blank b List.mem_cons_self) squeezed
    | cons b' gap =>
      refine .dropped (blank b List.mem_cons_self) (ih (List.cons_ne_nil b' gap) fun c mem => ?_) (startsBlank_space t)
      exact blank c (List.mem_cons_of_mem b mem)

end Squeezed

/-! ## Words joined again -/

/-- A character that is no blank, with a blank behind it or nothing, is a word. -/
theorem words_cons_of_startsBlank {c : Char} (solid : isBlank c = false) (starts : StartsBlank s) :
    Text.words (c :: s) = [c] :: Text.words s :=
  Text.words_word (List.cons_ne_nil c []) (List.forall_mem_singleton.mpr solid) starts

/-- The end of a word: the blanks behind it become one space, or nothing if no word follows. -/
theorem squeezed_cons_of_startsBlank {c : Char} (solid : isBlank c = false) (starts : StartsBlank s)
    (later : Squeezed (s.dropWhile isBlank) (Text.join [' '] (Text.words s))) :
    Squeezed (c :: s) (Text.join [' '] (Text.words (c :: s))) := by
  have split : s.takeWhile isBlank ++ s.dropWhile isBlank = s := List.takeWhile_append_dropWhile
  have gap : Text.Blank (s.takeWhile isBlank) := List.all_eq_true.mp List.all_takeWhile
  rw [words_cons_of_startsBlank solid starts]
  by_cases last : Text.words s = []
  · rw [last] at later ⊢
    have ended := later.append_of_blank gap nofun
    rw [split] at ended
    exact .solid solid ended
  · have some_gap : s.takeWhile isBlank ≠ [] := by
      cases s with
      | nil => exact absurd rfl last
      | cons b s =>
        rw [List.takeWhile_cons_of_pos (starts b rfl)]
        exact List.cons_ne_nil _ _
    have spaced := later.append_of_gap some_gap gap
    rw [split] at spaced
    rw [Text.join_word _ _ last]
    exact .solid solid spaced

/-- The words of a text, joined with spaces, are the text with its runs of blanks made shorter. -/
theorem squeezed_join_words (s : Text) : Squeezed (s.dropWhile isBlank) (Text.join [' '] (Text.words s)) := by
  induction s with
  | nil => exact .nil
  | cons c s ih =>
    cases blank : isBlank c with
    | true =>
      rw [List.dropWhile_cons_of_pos blank, Text.words_cons_of_isBlank blank]
      exact ih
    | false =>
      rw [List.dropWhile_cons_of_neg (Bool.eq_false_iff.mp blank)]
      cases s with
      | nil => exact squeezed_cons_of_startsBlank blank nofun ih
      | cons d s =>
        cases d_blank : isBlank d with
        | true => exact squeezed_cons_of_startsBlank blank (startsBlank_cons d_blank s) ih
        | false =>
          obtain ⟨word, more, words_eq, words_eq'⟩ := Text.words_cons_cons blank d_blank s
          rw [List.dropWhile_cons_of_neg (Bool.eq_false_iff.mp d_blank), words_eq] at ih
          rw [words_eq', Text.join_cons_cons]
          exact .solid blank ih

/-- **The owners in a text do not depend on its blanks**: joined words show the same ones. -/
theorem ownerTexts_join_words (s : Text) : ownerTexts (Text.join [' '] (Text.words s)) = ownerTexts s := by
  rw [← (squeezed_join_words s).ownerTexts_eq]
  induction s with
  | nil => rfl
  | cons c s ih =>
    rw [List.dropWhile_cons]
    split
    next blank =>
      rw [ih, ownerTexts_of_none (ownerHere?_of_ne (ne_of_isBlank blank (by decide)).symm s)]
    next => rfl

end PortRelease.Listing
