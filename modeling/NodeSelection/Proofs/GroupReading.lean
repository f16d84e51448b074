import Mathlib.Data.List.Forall2
import NodeSelection.Group

/-!
Reading the groups of a text, word by word and part by part.

The words and parts of a text are cut out here with the list library alone, so that
what is said about a text does not rest on the reader of the selectors.

* `selectorsOf`: all selectors, group after group.
* `words_eq`, `pieces_comma_eq`: the reader cuts at the same places.
* `bind_eq_ok_iff`, `mapM_eq_ok_iff`: a reading of several members succeeds member by member.
* `mapM_eq_error_iff`: and fails as the first does that cannot be read.
* `mapM_flatMap`: reading list after list is reading all of their members.
* `parseAll_eq_ok_iff`: the groups of a text are those of its words, and each word
  holds the selectors of its parts.
-/

namespace NodeSelection

/-- The words of a text: what is not empty between two blanks. -/
def textWords (text : String) : List (List Char) :=
  (text.toList.splitOnP Text.isBlank).filter (· ≠ [])

/-- The parts of a word: what is not empty between two commas. -/
def wordParts (word : List Char) : List String :=
  ((word.splitOn ',').filter (· ≠ [])).map String.ofList

/-- The selectors of all groups in the order of reading. -/
def selectorsOf (groups : List Group) : List Selector := groups.flatMap Group.selectors

@[simp] theorem selectorsOf_cons (g : Group) (groups : List Group) :
    selectorsOf (g :: groups) = g.selectors ++ selectorsOf groups := by
  simp [selectorsOf]

@[simp] theorem selectorsOf_append (one two : List Group) :
    selectorsOf (one ++ two) = selectorsOf one ++ selectorsOf two := by
  simp [selectorsOf]

/-! ### Cutting -/

theorem fields_eq_splitOnP (sep : Char → Bool) (text : List Char) :
    Text.fields sep text = text.splitOnP sep := by
  induction text with
  | nil => simp
  | cons c rest ih =>
    rw [List.splitOnP_cons_eq_if_modifyHead, Text.fields, ih]

theorem words_eq (text : String) : Text.words text.toList = textWords text := by
  rw [Text.words, Text.pieces, fields_eq_splitOnP, textWords]

theorem pieces_comma_eq (word : List Char) :
    (Text.pieces (· == ',') word).map String.ofList = wordParts word := by
  rw [Text.pieces, fields_eq_splitOnP, wordParts, List.splitOn_eq_splitOnP]

/-! ### Reading several members -/

variable {α β γ ε : Type}

/-- Two readings in a row succeed when both of them do. -/
theorem bind_eq_ok_iff {x : Except ε α} {f : α → Except ε β} {b : β} :
    x >>= f = .ok b ↔ ∃ a, x = .ok a ∧ f a = .ok b := by
  cases x with
  | error e => exact ⟨nofun, fun ⟨_, same, _⟩ => nomatch same⟩
  | ok a =>
    constructor
    · exact fun h => ⟨a, rfl, h⟩
    · rintro ⟨_, same, h⟩
      cases same
      exact h

/-- A reading of several members succeeds exactly when each member is read, and
gives what they give in order. -/
theorem mapM_eq_ok_iff {read : α → Except ε β} {members : List α} {results : List β} :
    members.mapM read = .ok results ↔
      List.Forall₂ (fun a b => read a = .ok b) members results := by
  induction members generalizing results with
  | nil =>
    rw [List.mapM_nil, List.forall₂_nil_left_iff]
    exact ⟨fun h => (Except.ok.inj h).symm, fun h => h ▸ rfl⟩
  | cons a rest ih =>
    rw [List.mapM_cons]
    constructor
    · intro whole
      obtain ⟨b, first, behind⟩ := bind_eq_ok_iff.mp whole
      obtain ⟨bs, others, same⟩ := bind_eq_ok_iff.mp behind
      cases same
      exact .cons first (ih.mp others)
    · intro each
      cases each with
      | cons head tail =>
        refine bind_eq_ok_iff.mpr ⟨_, head, ?_⟩
        exact bind_eq_ok_iff.mpr ⟨_, ih.mpr tail, rfl⟩

/-- Functions that agree on related members map related lists to one list. -/
theorem map_eq_map_of_related {R : α → β → Prop} {f : α → γ} {g : β → γ} {as : List α}
    {bs : List β} (related : List.Forall₂ R as bs) (agree : ∀ a b, R a b → f a = g b) :
    as.map f = bs.map g := by
  have each := List.rel_map (P := Eq) agree related
  rwa [List.forall₂_eq_eq_eq] at each

/-- Reading list after list is reading all of their members in turn. -/
theorem mapM_flatMap {m : Type → Type} [Monad m] [LawfulMonad m] (cut : α → List β)
    (read : β → m γ) (members : List α) :
    (members.flatMap cut).mapM read =
      List.flatten <$> members.mapM fun a => (cut a).mapM read := by
  induction members with
  | nil => simp
  | cons a rest ih =>
    rw [List.flatMap_cons, List.mapM_append, ih, List.mapM_cons]
    simp

theorem mapM_cons_eq_error_iff {read : α → Except ε β} {a : α} {rest : List α} {e : ε} :
    (a :: rest).mapM read = .error e ↔
      read a = .error e ∨ (∃ r, read a = .ok r) ∧ rest.mapM read = .error e := by
  rw [List.mapM_cons]
  cases first : read a with
  | error e' =>
    constructor
    · intro same
      cases same
      exact .inl rfl
    · rintro (same | ⟨⟨_, absent⟩, _⟩)
      · cases same
        rfl
      · cases absent
  | ok r =>
    refine ⟨fun whole => .inr ⟨⟨r, rfl⟩, ?_⟩, ?_⟩
    · cases others : rest.mapM read with
      | error e' =>
        rw [others] at whole
        exact whole
      | ok rs =>
        rw [others] at whole
        cases whole
    · rintro (absent | ⟨-, others⟩)
      · cases absent
      · rw [others]
        rfl

/-- A reading of several members fails with the error of the first that cannot be read. -/
theorem mapM_eq_error_iff {read : α → Except ε β} {members : List α} {e : ε} :
    members.mapM read = .error e ↔ ∃ before a after, members = before ++ a :: after ∧
      (∀ b ∈ before, ∃ r, read b = .ok r) ∧ read a = .error e := by
  induction members with
  | nil => exact ⟨nofun, by simp⟩
  | cons a rest ih =>
    rw [mapM_cons_eq_error_iff, ih]
    constructor
    · rintro (fails | ⟨first, before, b, after, rfl, fine, fails⟩)
      · exact ⟨[], a, rest, rfl, by simp, fails⟩
      · exact ⟨a :: before, b, after, rfl, List.forall_mem_cons.mpr ⟨first, fine⟩, fails⟩
    · rintro ⟨before, b, after, split, fine, fails⟩
      cases before with
      | nil =>
        cases split
        exact .inl fails
      | cons c before =>
        cases split
        obtain ⟨first, fine⟩ := List.forall_mem_cons.mp fine
        exact .inr ⟨first, before, b, after, rfl, fine, fails⟩

theorem mapM_append_eq_ok {read : α → Except ε β} {one two : List α} {results : List β}
    (whole : (one ++ two).mapM read = .ok results) :
    ∃ first second, one.mapM read = .ok first ∧ two.mapM read = .ok second ∧
      results = first ++ second := by
  rw [List.mapM_append] at whole
  obtain ⟨first, hone, behind⟩ := bind_eq_ok_iff.mp whole
  obtain ⟨second, htwo, same⟩ := bind_eq_ok_iff.mp behind
  exact ⟨first, second, hone, htwo, (Except.ok.inj same).symm⟩

theorem exists_mapM_eq_ok_iff {read : α → Except ε β} {members : List α} :
    (∃ results, members.mapM read = .ok results) ↔ ∀ a ∈ members, ∃ r, read a = .ok r := by
  induction members with
  | nil => exact ⟨fun _ => nofun, fun _ => ⟨[], rfl⟩⟩
  | cons a rest ih =>
    rw [List.forall_mem_cons, ← ih]
    constructor
    · rintro ⟨results, whole⟩
      cases mapM_eq_ok_iff.mp whole with
      | cons first others => exact ⟨⟨_, first⟩, _, mapM_eq_ok_iff.mpr others⟩
    · rintro ⟨⟨r, first⟩, rs, others⟩
      exact ⟨r :: rs, mapM_eq_ok_iff.mpr (.cons first (mapM_eq_ok_iff.mp others))⟩

namespace Group

/-- The word is read as these selectors, one for each of its parts. -/
def Reads (word : List Char) (selectors : List Selector) : Prop :=
  List.Forall₂ (fun part s => Selector.parse part = .ok s) (wordParts word) selectors

theorem parseWord_eq_ok_iff {word : List Char} {selectors : List Selector} :
    parseWord word = .ok selectors ↔ Reads word selectors := by
  rw [parseWord, mapM_eq_ok_iff, Reads, ← pieces_comma_eq, List.forall₂_map_left_iff]

theorem parseAll_eq_ok_iff {text : String} {groups : List Group} :
    parseAll text = .ok groups ↔
      ∃ read, List.Forall₂ Reads (textWords text) read ∧ groups = read.filterMap ofSelectors := by
  rw [parseAll, bind_eq_ok_iff]
  simp only [mapM_eq_ok_iff, words_eq, parseWord_eq_ok_iff]
  refine exists_congr fun read => and_congr_right fun _ => ?_
  exact ⟨fun same => (Except.ok.inj same).symm, fun same => congrArg Except.ok same.symm⟩

end Group

end NodeSelection
