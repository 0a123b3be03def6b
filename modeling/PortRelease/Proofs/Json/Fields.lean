import PortRelease.Proofs.Json.Grammar
/-!
# The fields of a record

What `fields?` finds in an object is decided, name by name, by the values of the members of that name
(`fields?_object`): none or one is found, more than one is refused. Nothing else in the object has a say, so its other
members and the order of its members do not matter (`fields?_of_perm`). Two fields can be the items of an array instead
(`fields?_pair`).
-/

namespace PortRelease.Json

variable {names : List Text} {name : Text} {members others : List (Literal × Json)}

/-! ## Documents -/

/-- A text is a value with any space around it. -/
def Document (j : Json) (text : Text) : Prop :=
  ∃ before s after, Space before ∧ Spelled (.value j) s ∧ Space after ∧ text = before ++ (s ++ after)

theorem read?_of_document {j : Json} {text : Text} (document : Document j text) : read? text = some j := by
  obtain ⟨before, s, after, leading, spelled, trailing, rfl⟩ := document
  exact read?_of_spelled leading spelled trailing

/-! ## Members by name -/

/-- Every member has a name that is a text. -/
def Named (members : List (Literal × Json)) : Prop := ∀ member ∈ members, member.1.isSome = true

instance (members : List (Literal × Json)) : Decidable (Named members) := List.decidableBAll _ members

/-- The members of a record have names. -/
theorem named_record (members : List (String × Json)) :
    Named (members.map fun (name, value) => (some name.toList, value)) := by
  intro member mem
  obtain ⟨given, -, rfl⟩ := List.mem_map.mp mem
  rfl

/-- The members that have one of some names. -/
def membersOf (names : List Text) (members : List (Literal × Json)) : List (Literal × Json) :=
  members.filter fun member => decide (∃ name ∈ names, member.1 = some name)

/-- The values of the members of a name. -/
def valuesOf (name : Text) (members : List (Literal × Json)) : List Json :=
  (members.filter fun member => member.1 == some name).map Prod.snd

theorem mem_valuesOf {value : Json} : value ∈ valuesOf name members ↔ (some name, value) ∈ members := by
  constructor
  · intro mem
    obtain ⟨⟨found, value⟩, kept, rfl⟩ := List.mem_map.mp mem
    obtain ⟨here, same⟩ := List.mem_filter.mp kept
    obtain rfl := eq_of_beq same
    exact here
  · intro mem
    exact List.mem_map.mpr ⟨_, List.mem_filter.mpr ⟨mem, beq_self_eq_true _⟩, rfl⟩

/-- A value that may be missing but is not given twice. -/
def atMostOne? : List Json → Option (Option Json)
  | [] => some none
  | [value] => some (some value)
  | _ => none

theorem atMostOne?_toList (value : Option Json) : atMostOne? value.toList = some value := by
  cases value with
  | none => rfl
  | some value => rfl

theorem atMostOne?_eq_some_iff {values : List Json} {value : Option Json} :
    atMostOne? values = some value ↔ values = value.toList := by
  constructor
  · intro one
    unfold atMostOne? at one
    split at one
    · cases one
      rfl
    · cases one
      rfl
    · cases one
  · rintro rfl
    exact atMostOne?_toList value

theorem atMostOne?_of_two {values : List Json} (two : 2 ≤ values.length) : atMostOne? values = none := by
  match values, two with
  | _ :: _ :: _, _ => rfl

/-- One value or none has one order only, and more than one is refused in any. -/
theorem atMostOne?_of_perm {values values' : List Json} (perm : values.Perm values') :
    atMostOne? values = atMostOne? values' := by
  rcases Nat.lt_or_ge values.length 2 with few | two
  · match values, few with
    | [], _ => rw [List.nil_perm.mp perm]
    | [value], _ => rw [List.singleton_perm.mp perm]
  · rw [atMostOne?_of_two two, atMostOne?_of_two (perm.length_eq ▸ two)]

theorem valuesOf_membersOf (known : name ∈ names) (members : List (Literal × Json)) :
    valuesOf name (membersOf names members) = valuesOf name members := by
  have same (member : Literal × Json) :
      (member.1 == some name && decide (∃ name ∈ names, member.1 = some name)) = (member.1 == some name) := by
    cases here : member.1 == some name with
    | false => rfl
    | true => simpa using ⟨name, known, eq_of_beq here⟩
  rw [valuesOf, membersOf, List.filter_filter]
  simp only [same, valuesOf]

/-- The members of one name have no say in the values of another. -/
theorem valuesOf_filter_ne {other : Text} (different : name ≠ other) (members : List (Literal × Json)) :
    valuesOf name (members.filter fun member => !(member.1 == some other)) = valuesOf name members := by
  have same (member : Literal × Json) :
      (member.1 == some name && !(member.1 == some other)) = (member.1 == some name) := by
    cases here : member.1 == some name with
    | false => rfl
    | true =>
      rw [eq_of_beq here]
      simpa using different
  rw [valuesOf, List.filter_filter]
  simp only [same, valuesOf]

/-- Leaving out the members of a name that is a text, there is no name that is no text if there was none before. -/
theorem named_filter_ne {other : Text} :
    Named (members.filter fun member => !(member.1 == some other)) ↔ Named members := by
  constructor
  · intro named member mem
    by_cases here : member.1 = some other
    · rw [here]
      rfl
    · exact named member (List.mem_filter.mpr ⟨mem, by simpa using here⟩)
  · intro named member mem
    exact named member (List.mem_filter.mp mem).1

/-! ## Fields -/

theorem mapM_congr {f g : Text → Option (Option Json)} (alike : ∀ name ∈ names, f name = g name) :
    names.mapM f = names.mapM g := by
  induction names with
  | nil => rfl
  | cons name rest ih =>
    rw [List.mapM_cons, List.mapM_cons, alike name List.mem_cons_self,
      ih fun later mem => alike later (List.mem_cons_of_mem name mem)]

/-- **A field is found in the values of its name.** -/
theorem fields?_object (named : Named members) :
    fields? names (.object members) = names.mapM fun name => atMostOne? (valuesOf name members) := by
  rw [fields?, if_pos (List.all_eq_true.mpr named)]
  congr 1
  funext name
  rw [valuesOf]
  cases members.filter fun member => member.1 == some name with
  | nil => rfl
  | cons member more =>
    cases more with
    | nil => rfl
    | cons second more => rfl

/-- **A field that is given twice is refused**, whatever its values and whatever else is given. -/
theorem fields?_of_two (known : name ∈ names) (two : 2 ≤ (valuesOf name members).length) :
    fields? names (.object members) = none := by
  by_cases named : Named members
  · rw [fields?_object named]
    induction names with
    | nil => cases known
    | cons first rest ih =>
      rw [List.mapM_cons]
      rcases List.mem_cons.mp known with rfl | later
      · rw [atMostOne?_of_two two]
        rfl
      · rw [ih later]
        cases atMostOne? (valuesOf first members) with
        | none => rfl
        | some value => rfl
  · rw [fields?, if_neg fun all => named (List.all_eq_true.mp all)]

/-- **Neither the order of the members nor the members of other names matter.** -/
theorem fields?_of_perm (named : Named members) (named' : Named others)
    (perm : (membersOf names members).Perm (membersOf names others)) :
    fields? names (.object members) = fields? names (.object others) := by
  have alike : ∀ name ∈ names, atMostOne? (valuesOf name members) = atMostOne? (valuesOf name others) := by
    intro name known
    refine atMostOne?_of_perm ?_
    rw [← valuesOf_membersOf known members, ← valuesOf_membersOf known others]
    exact (perm.filter _).map Prod.snd
  rw [fields?_object named, fields?_object named', mapM_congr alike]

/-- **Two fields that are both given**: each is the one member of its name, or they are the two items of an array. -/
theorem fields?_pair {first second : Text} {j x y : Json} :
    fields? [first, second] j = some [some x, some y] ↔
      (∃ members, j = .object members ∧ Named members ∧
        valuesOf first members = [x] ∧ valuesOf second members = [y]) ∨ j = .array [x, y] := by
  cases j with
  | object members =>
    by_cases named : Named members
    · rw [fields?_object named]
      simp [List.mapM_cons, Option.bind_eq_some_iff, atMostOne?_eq_some_iff, named]
    · have refused : fields? [first, second] (.object members) = none :=
        if_neg fun all => named (List.all_eq_true.mp all)
      simp [refused, named]
  | array items =>
    rcases items with _ | ⟨one, _ | ⟨two, _ | ⟨three, more⟩⟩⟩ <;> simp [fields?]
  | null | bool | number | string => simp [fields?]

end PortRelease.Json
