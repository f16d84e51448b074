import NodeSelection.Proofs.Grouping

/-!
Writing groups as a text again: selectors joined by commas, groups by spaces.

What was read from a text is read from such a text again, whether each selector is
written as it was or in its canonical form. So a canonical text does not change when it
is read and written once more.

* `value_infix_of_parse`: a value consists of characters that were written.
* `Selector.Writes.canonical`: so its canonical text stays one piece.
* `parseAll_joined_of_writes`: groups whose selectors are written as pieces are read back.
* `parseAll_joined`: raw texts and canonical texts are.
-/

namespace NodeSelection

/-- The text reads as the selector and stays one piece wherever it is put. -/
structure Selector.Writes (text : String) (s : Selector) : Prop where
  parse_eq : Selector.parse text = .ok s
  ne_nil : text.toList ≠ []
  free : ∀ c ∈ text.toList, separates c = false

/-- The selector as it is read from its canonical text. -/
def Selector.normal (s : Selector) : Selector := { s with raw := s.canonical }

namespace Group

/-- The group with every selector read from its canonical text. -/
def normal (g : Group) : Group := { g with selectors := g.selectors.map Selector.normal }

/-- The groups as a text, with each selector written by `write`. -/
def joined (write : Selector → String) (groups : List Group) : String :=
  " ".intercalate (groups.map fun g => ",".intercalate (g.selectors.map write))

/-- A text with its selectors in canonical form. -/
def canonicalText (text : String) : Except SyntaxError String :=
  (parseAll text).map (joined Selector.canonical)

end Group

/-! ### Selectors as pieces -/

namespace Selector

theorem takeMark_suffix (mark : Char) (text : List Char) : (Text.takeMark mark text).2 <:+ text :=
  ⟨_, marked_takeMark_append mark text⟩

theorem takeKind_suffix (text : List Char) : (takeKind text).2 <:+ text := by
  rcases takeKind_append text with written | whole
  · exact ⟨_, written.symm⟩
  · exact ⟨[], congrArg Prod.snd whole⟩

theorem takeValue_prefix (text : List Char) : (takeValue text).1 <+: text :=
  ⟨_, takeValue_append text⟩

theorem value_infix_of_parse {text : String} {s : Selector}
    (parsed : Selector.parse text = .ok s) : s.value.toList <:+: text.toList := by
  have front := takeMark_suffix '@' text.toList
  have plus := takeMark_suffix '+' (Text.takeMark '@' text.toList).2
  have lead := takeKind_suffix (Text.takeMark '+' (Text.takeMark '@' text.toList).2).2
  have value := takeValue_prefix
    (takeKind (Text.takeMark '+' (Text.takeMark '@' text.toList).2).2).2
  unfold Selector.parse at parsed
  dsimp only at parsed
  split at parsed
  · cases parsed
  · split at parsed
    · cases parsed
    · cases parsed
      rw [String.toList_ofList]
      exact value.isInfix.trans ((lead.trans (plus.trans front)).isInfix)

theorem not_separates_kindLead (kind : Kind) : ∀ c ∈ kindLead kind, separates c = false := by
  have free : (kindLead kind).all (fun c => !separates c) = true := by
    cases kind <;> decide
  simpa using free

theorem not_separates_marked {mark : Char} (free : separates mark = false) (on : Bool) :
    ∀ c ∈ marked on mark, separates c = false := by
  cases on with
  | true => simpa [marked] using free
  | false => simp [marked]

theorem not_separates_canonical {s : Selector} (free : ∀ c ∈ s.value.toList, separates c = false) :
    ∀ c ∈ s.canonical.toList, separates c = false := by
  intro c mem
  rw [canonical, String.toList_ofList, canonicalChars_eq] at mem
  simp only [List.mem_append] at mem
  rcases mem with mem | mem | mem | mem | mem
  · exact not_separates_marked (by decide) s.exact c mem
  · exact not_separates_marked (by decide) s.parents c mem
  · exact not_separates_kindLead s.kind c mem
  · exact free c mem
  · exact not_separates_marked (by decide) s.children c mem

@[simp] theorem canonical_normal (s : Selector) : s.normal.canonical = s.canonical := rfl

theorem canonical_ne_nil (s : Selector) : s.canonical.toList ≠ [] := by
  rw [canonical, String.toList_ofList, canonicalChars]
  simp

/-- The canonical text of a selector that was read from a piece is a piece again. -/
theorem Writes.canonical {text : String} {s : Selector} (writes : Writes text s) :
    Writes s.canonical s.normal where
  parse_eq := parse_canonical (wellFormed_of_parse writes.parse_eq)
  ne_nil := canonical_ne_nil s
  free := not_separates_canonical fun c mem =>
    writes.free c ((value_infix_of_parse writes.parse_eq).subset mem)

end Selector

/-! ### Groups as texts -/

namespace Group

variable {text : String} {groups : List Group} {write : Selector → String}
  {read : Selector → Selector}

theorem writes_raw_of_mem (parsed : parseAll text = .ok groups) {s : Selector}
    (mem : s ∈ selectorsOf groups) : Selector.Writes s.raw s := by
  have raws := map_raw_selectorsOf parsed
  have among : s.raw ∈ (selectorsOf groups).map Selector.raw := List.mem_map_of_mem mem
  rw [raws] at among
  obtain ⟨piece, inside, same⟩ := List.mem_map.mp among
  rw [← String.toList_inj, String.toList_ofList] at same
  refine ⟨parse_raw_of_mem parsed mem, ?_, ?_⟩
  · rw [← same]
    exact Text.ne_nil_of_mem_pieces inside
  · rw [← same]
    exact Text.not_sep_of_mem_pieces inside

/-- The method of a group depends on the number of its selectors alone. -/
theorem ofSelectors_map (read : Selector → Selector) (selectors : List Selector) :
    ofSelectors (selectors.map read) =
      (ofSelectors selectors).map fun g => { g with selectors := g.selectors.map read } := by
  match selectors with
  | [] => rfl
  | [s] => rfl
  | s :: t :: others => rfl

theorem parseWord_joined {selectors : List Selector}
    (writes : ∀ s ∈ selectors, Selector.Writes (write s) (read s)) :
    parseWord ([','].intercalate (selectors.map fun s => (write s).toList)) =
      .ok (selectors.map read) := by
  have fine : ∀ part ∈ selectors.map fun s => (write s).toList,
      part ≠ [] ∧ ∀ c ∈ part, (c == ',') = false := by
    intro part mem
    obtain ⟨s, among, rfl⟩ := List.mem_map.mp mem
    have written := writes s among
    exact ⟨written.ne_nil, fun c inside => (Bool.or_eq_false_iff.mp (written.free c inside)).2⟩
  rw [parseWord, Text.pieces_intercalate (by simp) fine, mapM_eq_ok_iff, List.forall₂_map_left_iff,
    List.forall₂_map_right_iff, List.forall₂_same]
  intro s among
  rw [String.ofList_toList]
  exact (writes s among).parse_eq

theorem toList_joined (write : Selector → String) (groups : List Group) :
    (joined write groups).toList = [' '].intercalate (groups.map fun g =>
      [','].intercalate (g.selectors.map fun s => (write s).toList)) := by
  rw [joined, String.toList_intercalate, List.map_map]
  simp [Function.comp_def, String.toList_intercalate]

/-- A word of selectors that are written as pieces is one word. -/
theorem not_blank_of_word {selectors : List Selector} (ne : selectors ≠ [])
    (writes : ∀ s ∈ selectors, Selector.Writes (write s) (read s)) :
    [','].intercalate (selectors.map fun s => (write s).toList) ≠ [] ∧
      ∀ c ∈ [','].intercalate (selectors.map fun s => (write s).toList),
        Text.isBlank c = false := by
  constructor
  · obtain ⟨s, rest, rfl⟩ := List.exists_cons_of_ne_nil ne
    have written := (writes s List.mem_cons_self).ne_nil
    cases rest with
    | nil => simpa using written
    | cons t rest => simp
  · intro c mem
    rcases Text.mem_intercalate mem with rfl | ⟨part, among, inside⟩
    · decide
    · obtain ⟨s, member, rfl⟩ := List.mem_map.mp among
      exact (Bool.or_eq_false_iff.mp ((writes s member).free c inside)).1

/-- Groups whose selectors are written as pieces are read back, with the selectors as
they are read from those pieces and nothing else changed. -/
theorem parseAll_joined_of_writes (made : ∀ g ∈ groups, ofSelectors g.selectors = some g)
    (writes : ∀ s ∈ selectorsOf groups, Selector.Writes (write s) (read s)) :
    parseAll (joined write groups) =
      .ok (groups.map fun g => { g with selectors := g.selectors.map read }) := by
  have within : ∀ g ∈ groups, ∀ s ∈ g.selectors, Selector.Writes (write s) (read s) :=
    fun g mem s among => writes s (List.mem_flatMap.mpr ⟨g, mem, among⟩)
  have words : Text.words (joined write groups).toList = groups.map fun g =>
      [','].intercalate (g.selectors.map fun s => (write s).toList) := by
    rw [toList_joined, Text.words, Text.pieces_intercalate (by decide)]
    intro word mem
    obtain ⟨g, among, rfl⟩ := List.mem_map.mp mem
    refine not_blank_of_word (fun none => ?_) (within g among)
    have absent := made g among
    rw [none] at absent
    cases absent
  have reads : (Text.words (joined write groups).toList).mapM parseWord =
      .ok (groups.map fun g => g.selectors.map read) := by
    rw [words, mapM_eq_ok_iff, List.forall₂_map_left_iff, List.forall₂_map_right_iff,
      List.forall₂_same]
    exact fun g mem => parseWord_joined (within g mem)
  rw [parseAll_eq, reads]
  refine congrArg Except.ok ?_
  rw [List.filterMap_map]
  calc groups.filterMap (ofSelectors ∘ fun g => g.selectors.map read)
      = groups.filterMap (some ∘ fun g => { g with selectors := g.selectors.map read }) := by
        refine List.filterMap_congr fun g mem => ?_
        rw [Function.comp_apply, ofSelectors_map, made g mem]
        rfl
    _ = groups.map fun g => { g with selectors := g.selectors.map read } := by
        rw [List.filterMap_eq_map]

/-- A text that can be read is read alike when its groups are joined again, with their raw
texts or in canonical form. In the latter case only the raw texts change, to the canonical
ones, and reading and writing once more changes nothing. -/
theorem parseAll_joined (parsed : parseAll text = .ok groups) :
    parseAll (joined Selector.raw groups) = .ok groups ∧
    parseAll (joined Selector.canonical groups) = .ok (groups.map normal) ∧
    canonicalText text = .ok (joined Selector.canonical groups) ∧
    canonicalText (joined Selector.canonical groups) =
      .ok (joined Selector.canonical groups) := by
  have made : ∀ g ∈ groups, ofSelectors g.selectors = some g :=
    fun g mem => ofSelectors_of_mem parsed mem
  have raw : parseAll (joined Selector.raw groups) =
      .ok (groups.map fun g => { g with selectors := g.selectors.map id }) :=
    parseAll_joined_of_writes made fun s mem => writes_raw_of_mem parsed mem
  have canonical := parseAll_joined_of_writes made
    fun s mem => (writes_raw_of_mem parsed mem).canonical
  have again : joined Selector.canonical (groups.map normal) =
      joined Selector.canonical groups := by
    simp [joined, normal, Function.comp_def, Selector.canonical_normal]
  refine ⟨?_, canonical, ?_, ?_⟩
  · simpa using raw
  · rw [canonicalText, parsed]
    rfl
  · rw [canonicalText, canonical]
    exact congrArg Except.ok again

/-- Commas at the ends and side by side, a wide blank, and all modifiers. -/
theorem parseAll_joined_modifiers :
    ∃ groups, parseAll ",+tag:a+,,@b \u2003source:c.+d," = .ok groups ∧
      parseAll (joined Selector.raw groups) = .ok groups ∧
      parseAll (joined Selector.canonical groups) = .ok (groups.map normal) ∧
      canonicalText ",+tag:a+,,@b \u2003source:c.+d," =
        .ok (joined Selector.canonical groups) ∧
      canonicalText (joined Selector.canonical groups) =
        .ok (joined Selector.canonical groups) := by
  have parsed : parseAll ",+tag:a+,,@b \u2003source:c.+d," = .ok
      [⟨.intersect, [⟨.tag, "a", false, true, true, "+tag:a+"⟩,
        ⟨.fqn, "b", true, false, false, "@b"⟩]⟩,
       ⟨.unite, [⟨.source, "c.+d", false, false, false, "source:c.+d"⟩]⟩] := by decide
  exact ⟨_, parsed, parseAll_joined parsed⟩

example : canonicalText ",+tag:a+,,@b \u2003source:c.+d," = .ok "+tag:a+,@fqn:b source:c.+d" := by
  decide

end Group

end NodeSelection
