import NodeSelection.Proofs.Canonical
import NodeSelection.Proofs.GroupReading
import NodeSelection.Proofs.Layout

/-!
How the groups of a text stand in its characters.

A piece is a run of characters that are neither blanks nor commas. A text is cut twice,
at the blanks into words and at the commas inside a word, and that is the same as cutting
it once, at both, and forgetting which of them stood between two pieces. What was
forgotten is the grouping: it is read off the gaps.

* `map_selectorsOf_parseAll`: the selectors of a text are what its pieces are read as.
* `parseAll_append`: blanks keep the groups of two texts apart.
* `not_together_of_blank`, `together_of_not_blank`: two neighbours belong to one group
  when no blank stands between them.
* `parseAll_regroups`: nothing is lost, added or misplaced.
-/

namespace NodeSelection

/-- The character stands between two pieces of a text: a blank or a comma. -/
def separates (c : Char) : Bool := Text.isBlank c || c == ','

/-- The selectors at the places `i` and `i + 1`, counted over all groups, belong to one
group. -/
def Together (groups : List Group) (i : Nat) : Prop :=
  ∃ before g after, groups = before ++ g :: after ∧ (selectorsOf before).length ≤ i ∧
    i + 1 < (selectorsOf before).length + g.selectors.length

/-- The groups hold the pieces of a text that is laid out: all of them, nothing else, and
grouped as they stand. -/
structure Holds (groups : List Group) (l : Text.Layout separates) : Prop where
  /-- The pieces are the raw texts of the selectors, in the order of reading. -/
  raws : (selectorsOf groups).map Selector.raw = l.pieces.map String.ofList
  /-- A selector is what its piece is read as. -/
  parse_raw : ∀ s ∈ selectorsOf groups, Selector.parse s.raw = .ok s
  /-- Two neighbours belong to one group when no blank stands between them. -/
  together_iff : ∀ front one two back, l.cells = front ++ one :: two :: back →
    (Together groups front.length ↔ ∀ c ∈ one.gap, Text.isBlank c = false)
  /-- No group is empty, and its method tells whether it holds one selector or more. -/
  method : ∀ g ∈ groups, g.selectors ≠ [] ∧
    (g.method = .unite ↔ g.selectors.length = 1) ∧
    (g.method = .intersect ↔ 2 ≤ g.selectors.length)
  /-- Every selector has a value, and `@` stands without a `+`. -/
  formed : ∀ s ∈ selectorsOf groups, s.value ≠ "" ∧
    (s.exact = true → s.parents = false ∧ s.children = false)

/-- A selector keeps the text that it was read from. -/
theorem Selector.raw_of_parse {text : String} {s : Selector}
    (parsed : Selector.parse text = .ok s) : s.raw = text := by
  unfold Selector.parse at parsed
  dsimp only at parsed
  split at parsed
  · cases parsed
  · split at parsed
    · cases parsed
    · cases parsed
      rfl

namespace Group

theorem parseAll_eq (text : String) :
    parseAll text = List.filterMap ofSelectors <$> (Text.words text.toList).mapM parseWord := by
  rw [parseAll, map_eq_pure_bind]

/-- The selectors of the groups that are made of some lists are those of the lists. -/
theorem selectorsOf_filterMap (read : List (List Selector)) :
    selectorsOf (read.filterMap ofSelectors) = read.flatten := by
  induction read with
  | nil => rfl
  | cons selectors rest ih =>
    rw [List.flatten_cons, ← ih]
    match selectors with
    | [] => rfl
    | [s] => rfl
    | s :: t :: others => rfl

theorem words_flatMap_pieces (text : List Char) :
    (Text.words text).flatMap (Text.pieces (· == ',')) = Text.pieces separates text :=
  (Text.pieces_or text).symm

/-- The selectors of a text are what its pieces are read as, one after the other. -/
theorem map_selectorsOf_parseAll (text : String) :
    selectorsOf <$> parseAll text =
      (Text.pieces separates text.toList).mapM fun piece =>
        Selector.parse (String.ofList piece) := by
  rw [← words_flatMap_pieces, mapM_flatMap, parseAll_eq, Functor.map_map]
  simp only [selectorsOf_filterMap]
  rfl

/-! ### Groups that are read -/

theorem selectors_eq_of_ofSelectors {selectors : List Selector} {g : Group}
    (made : ofSelectors selectors = some g) : g.selectors = selectors := by
  match selectors, made with
  | [_], rfl => rfl
  | _ :: _ :: _, rfl => rfl

theorem exists_ofSelectors_eq {selectors : List Selector} (ne : selectors ≠ []) :
    ∃ g, ofSelectors selectors = some g ∧ g.selectors = selectors := by
  match selectors with
  | [] => exact absurd rfl ne
  | [s] => exact ⟨_, rfl, rfl⟩
  | s :: t :: others => exact ⟨_, rfl, rfl⟩

variable {text : String} {groups : List Group}

/-- A group that is read has the method that belongs to the number of its selectors. -/
theorem ofSelectors_of_mem (parsed : parseAll text = .ok groups) {g : Group} (mem : g ∈ groups) :
    ofSelectors g.selectors = some g := by
  obtain ⟨read, -, rfl⟩ := parseAll_eq_ok_iff.mp parsed
  obtain ⟨selectors, -, made⟩ := List.mem_filterMap.mp mem
  rw [selectors_eq_of_ofSelectors made, made]

theorem method_of_mem (parsed : parseAll text = .ok groups) {g : Group} (mem : g ∈ groups) :
    g.selectors ≠ [] ∧ (g.method = .unite ↔ g.selectors.length = 1) ∧
      (g.method = .intersect ↔ 2 ≤ g.selectors.length) := by
  have made := ofSelectors_of_mem parsed mem
  obtain ⟨method, selectors⟩ := g
  match selectors, made with
  | [_], made =>
    cases made
    simp
  | _ :: _ :: _, made =>
    cases made
    simp

/-- The selectors of a text are read from its pieces, one from each. -/
theorem reads_pieces (parsed : parseAll text = .ok groups) :
    List.Forall₂ (fun piece s => Selector.parse (String.ofList piece) = .ok s)
      (Text.pieces separates text.toList) (selectorsOf groups) := by
  have whole := map_selectorsOf_parseAll text
  rw [parsed] at whole
  exact mapM_eq_ok_iff.mp whole.symm

theorem map_raw_selectorsOf (parsed : parseAll text = .ok groups) :
    (selectorsOf groups).map Selector.raw =
      (Text.pieces separates text.toList).map String.ofList := by
  refine (map_eq_map_of_related (reads_pieces parsed) fun piece s read => ?_).symm
  exact (Selector.raw_of_parse read).symm

theorem parse_raw_of_mem (parsed : parseAll text = .ok groups) {s : Selector}
    (mem : s ∈ selectorsOf groups) : Selector.parse s.raw = .ok s := by
  have reads := reads_pieces parsed
  generalize Text.pieces separates text.toList = pieces, selectorsOf groups = selectors at *
  induction reads with
  | nil => cases mem
  | cons head _ ih =>
    rcases List.mem_cons.mp mem with rfl | mem
    · rw [Selector.raw_of_parse head, head]
    · exact ih mem

theorem exists_parseAll_eq_ok_iff (text : String) :
    (∃ groups, parseAll text = .ok groups) ↔
      ∀ piece ∈ Text.pieces separates text.toList,
        ∃ s, Selector.parse (String.ofList piece) = .ok s := by
  rw [← exists_mapM_eq_ok_iff, ← map_selectorsOf_parseAll]
  cases parseAll text with
  | error e => exact ⟨nofun, nofun⟩
  | ok groups => exact ⟨fun _ => ⟨_, rfl⟩, fun _ => ⟨_, rfl⟩⟩

theorem parseAll_eq_error_iff (text : String) (e : SyntaxError) :
    parseAll text = .error e ↔ ∃ before piece after,
      Text.pieces separates text.toList = before ++ piece :: after ∧
        (∀ p ∈ before, ∃ s, Selector.parse (String.ofList p) = .ok s) ∧
        Selector.parse (String.ofList piece) = .error e := by
  rw [← mapM_eq_error_iff, ← map_selectorsOf_parseAll]
  cases parseAll text with
  | error e' => exact ⟨fun same => congrArg _ same, fun same => by cases same; rfl⟩
  | ok groups => exact ⟨nofun, nofun⟩

theorem length_selectorsOf (parsed : parseAll text = .ok groups) :
    (selectorsOf groups).length = (Text.pieces separates text.toList).length :=
  (reads_pieces parsed).length_eq.symm

/-! ### Neighbours -/

theorem words_append_gap {gap : List Char} (blank : ∀ c ∈ gap, Text.isBlank c = true)
    (ne : gap ≠ []) (one two : List Char) :
    Text.words (one ++ (gap ++ two)) = Text.words one ++ Text.words two := by
  obtain ⟨c, gap, rfl⟩ := List.exists_cons_of_ne_nil ne
  obtain ⟨hc, blank⟩ := List.forall_mem_cons.mp blank
  rw [List.cons_append, Text.words, Text.pieces_append_sep hc, Text.pieces_gap_append blank]
  rfl

/-- Blanks keep the groups of two texts apart. -/
theorem parseAll_append {one gap two : List Char} (blank : ∀ c ∈ gap, Text.isBlank c = true)
    (ne : gap ≠ []) :
    parseAll (String.ofList (one ++ (gap ++ two))) = (do
      let first ← parseAll (String.ofList one)
      let second ← parseAll (String.ofList two)
      return first ++ second) := by
  simp only [parseAll_eq, String.toList_ofList]
  rw [words_append_gap blank ne, List.mapM_append]
  simp

theorem not_together_append {one two : List Group} {i : Nat}
    (size : (selectorsOf one).length = i + 1) : ¬ Together (one ++ two) i := by
  rintro ⟨before, g, after, split, front, behind⟩
  rcases List.append_eq_append_iff.mp split with ⟨between, rfl, -⟩ | ⟨between, rfl, ends⟩
  · rw [selectorsOf_append, List.length_append] at front
    omega
  · cases between with
    | nil =>
      rw [List.append_nil] at size
      omega
    | cons first between =>
      obtain ⟨rfl, -⟩ := List.cons.inj ends
      rw [selectorsOf_append, selectorsOf_cons, List.length_append, List.length_append] at size
      omega

theorem exists_mapM_of_parseAll (parsed : parseAll text = .ok groups) :
    ∃ read, (Text.words text.toList).mapM parseWord = .ok read ∧
      groups = read.filterMap ofSelectors := by
  obtain ⟨read, reads, same⟩ := bind_eq_ok_iff.mp parsed
  exact ⟨read, reads, (Except.ok.inj same).symm⟩

theorem length_of_parseWord {word : List Char} {selectors : List Selector}
    (parsed : parseWord word = .ok selectors) :
    selectors.length = (Text.pieces (· == ',') word).length :=
  (mapM_eq_ok_iff.mp parsed).length_eq.symm

theorem length_flatten_of_mapM {words : List (List Char)} {read : List (List Selector)}
    (parsed : words.mapM parseWord = .ok read) :
    read.flatten.length = (words.flatMap (Text.pieces (· == ','))).length := by
  have whole := mapM_flatMap (Text.pieces (· == ','))
    (fun piece => Selector.parse (String.ofList piece)) words
  have each : (words.mapM fun word => (Text.pieces (· == ',') word).mapM fun piece =>
      Selector.parse (String.ofList piece)) = .ok read := parsed
  rw [each] at whole
  exact (mapM_eq_ok_iff.mp whole).length_eq.symm

/-- Selectors on the two sides of a comma in one word belong to one group. -/
theorem together_of_words {before after : List (List Char)} {x y : List Char} {i : Nat}
    (parsed : parseAll text = .ok groups)
    (cut : Text.words text.toList = before ++ (x ++ ',' :: y) :: after)
    (front : Text.pieces (· == ',') x ≠ []) (behind : Text.pieces (· == ',') y ≠ [])
    (size : i + 1 = (before.flatMap (Text.pieces (· == ','))).length +
      (Text.pieces (· == ',') x).length) : Together groups i := by
  obtain ⟨read, reads, rfl⟩ := exists_mapM_of_parseAll parsed
  rw [cut] at reads
  obtain ⟨first, others, hfirst, hothers, rfl⟩ := mapM_append_eq_ok reads
  cases mapM_eq_ok_iff.mp hothers with
  | @cons _ selectors _ rest head _ =>
    have sizeFront := length_flatten_of_mapM hfirst
    have sizeWord := length_of_parseWord head
    rw [Text.pieces_append_sep (by simp), List.length_append] at sizeWord
    have someFront := List.length_pos_iff.mpr front
    have someBehind := List.length_pos_iff.mpr behind
    have ne : selectors ≠ [] := List.length_pos_iff.mp (by omega)
    obtain ⟨g, made, same⟩ := exists_ofSelectors_eq ne
    refine ⟨first.filterMap ofSelectors, g, rest.filterMap ofSelectors, ?_, ?_, ?_⟩
    · rw [List.filterMap_append, List.filterMap_cons, made]
    · rw [selectorsOf_filterMap]
      omega
    · rw [selectorsOf_filterMap, same]
      omega

theorem not_blank_of_piece (cell : Text.Cell separates) :
    ∀ c ∈ cell.piece, Text.isBlank c = false := by
  intro c mem
  exact (Bool.or_eq_false_iff.mp (cell.piece_free c mem)).1

theorem not_comma_of_piece (cell : Text.Cell separates) :
    ∀ c ∈ cell.piece, (c == ',') = false := by
  intro c mem
  exact (Bool.or_eq_false_iff.mp (cell.piece_free c mem)).2

theorem comma_pieces_ne_nil {x y : List Char} (cell : Text.Cell separates) :
    Text.pieces (· == ',') (x ++ (cell.piece ++ y)) ≠ [] := by
  obtain ⟨c, rest, whole⟩ := List.exists_cons_of_ne_nil cell.piece_ne
  have inside : c ∈ cell.piece := whole ▸ List.mem_cons_self
  refine Text.pieces_ne_nil ?_ (not_comma_of_piece cell c inside)
  exact List.mem_append_right _ (List.mem_append_left _ inside)

section Layouts

open Text.Layout (chars)

variable {l : Text.Layout separates} {front back : List (Text.Cell separates)}
  {one two : Text.Cell separates}

theorem not_together_of_blank (parsed : parseAll (String.ofList l.text) = .ok groups)
    (split : l.cells = front ++ one :: two :: back) {c : Char} (mem : c ∈ one.gap)
    (blank : Text.isBlank c = true) : ¬ Together groups front.length := by
  obtain ⟨before, after, cut⟩ := List.append_of_mem mem
  have whole : l.text = (l.lead ++ (chars front ++ (one.piece ++ before))) ++
      ([c] ++ (after ++ chars (two :: back))) := by
    simp [Text.Layout.text, split, cut]
  rw [whole, parseAll_append (by simpa using blank) (List.cons_ne_nil c [])] at parsed
  obtain ⟨first, hfirst, behind⟩ := bind_eq_ok_iff.mp parsed
  obtain ⟨second, -, same⟩ := bind_eq_ok_iff.mp behind
  cases same
  refine not_together_append ?_
  rw [length_selectorsOf hfirst, String.toList_ofList, l.pieces_upTo split cut]
  simp

/-- A gap between two pieces that holds no blank begins with a comma. -/
theorem exists_comma_gap (split : l.cells = front ++ one :: two :: back)
    (free : ∀ c ∈ one.gap, Text.isBlank c = false) :
    ∃ gap, one.gap = ',' :: gap ∧ ∀ c ∈ gap, Text.isBlank c = false := by
  have between : one.gap ≠ [] := by
    refine l.gap_ne one ?_
    rw [split, List.dropLast_append_cons, List.dropLast_cons_cons]
    exact List.mem_append_right _ List.mem_cons_self
  obtain ⟨c, gap, cut⟩ := List.exists_cons_of_ne_nil between
  rw [cut] at free
  obtain ⟨hc, others⟩ := List.forall_mem_cons.mp free
  have apart := one.gap_sep c (cut ▸ List.mem_cons_self)
  have comma : c = ',' := by simpa [separates, hc] using apart
  exact ⟨gap, comma ▸ cut, others⟩

theorem together_of_not_blank (parsed : parseAll (String.ofList l.text) = .ok groups)
    (split : l.cells = front ++ one :: two :: back)
    (free : ∀ c ∈ one.gap, Text.isBlank c = false) : Together groups front.length := by
  obtain ⟨gap, cut, others⟩ := exists_comma_gap split free
  -- The word in which the two pieces stand is cut at the comma behind the first of them.
  have inner : ∀ d ∈ ',' :: (gap ++ two.piece), Text.isBlank d = false := by
    refine List.forall_mem_cons.mpr ⟨by decide, fun d mem => ?_⟩
    rcases List.mem_append.mp mem with mem | mem
    · exact others d mem
    · exact not_blank_of_piece two d mem
  obtain ⟨before, last, first, after, upTo, word⟩ := Text.pieces_across one.piece_ne
    (not_blank_of_piece one) inner (l.lead ++ chars front) (two.gap ++ chars back)
  have words : Text.words (String.ofList l.text).toList =
      before ++ ((last ++ one.piece) ++ ',' :: (gap ++ (two.piece ++ first))) :: after := by
    simpa [Text.words, Text.Layout.text, split, cut] using word
  refine together_of_words parsed words ?_ ?_ ?_
  · simpa using comma_pieces_ne_nil (x := last) (y := []) one
  · exact comma_pieces_ne_nil two
  · have size := congrArg List.length (l.pieces_upTo split (List.nil_append one.gap).symm)
    rw [← words_flatMap_pieces, List.append_nil, ← List.append_assoc, Text.words, upTo] at size
    simpa using size.symm

theorem holds_of_parseAll (parsed : parseAll (String.ofList l.text) = .ok groups) :
    Holds groups l := by
  constructor
  · rw [map_raw_selectorsOf parsed, String.toList_ofList, l.pieces_text]
  · exact fun s mem => parse_raw_of_mem parsed mem
  · intro front one two back split
    refine ⟨fun together c mem => ?_, together_of_not_blank parsed split⟩
    cases blank : Text.isBlank c with
    | false => rfl
    | true => exact absurd together (not_together_of_blank parsed split mem blank)
  · exact fun g mem => method_of_mem parsed mem
  · intro s mem
    obtain ⟨ne, alone, -⟩ := Selector.wellFormed_of_parse (parse_raw_of_mem parsed mem)
    exact ⟨ne, alone⟩

end Layouts

/-- Reading a text loses, adds and misplaces nothing. Every text is laid out as pieces
between blanks and commas. It can be read when each of its pieces can, and otherwise
fails as the first piece does that cannot be read, whatever stands behind it. What is
read holds the pieces. -/
theorem parseAll_regroups :
    (∀ text : String, ∃ l : Text.Layout separates, String.ofList l.text = text) ∧
    ∀ l : Text.Layout separates,
      ((∃ groups, parseAll (String.ofList l.text) = .ok groups) ↔
        ∀ piece ∈ l.pieces, ∃ s, Selector.parse (String.ofList piece) = .ok s) ∧
      (∀ e, parseAll (String.ofList l.text) = .error e ↔
        ∃ before piece after, l.pieces = before ++ piece :: after ∧
          (∀ p ∈ before, ∃ s, Selector.parse (String.ofList p) = .ok s) ∧
          Selector.parse (String.ofList piece) = .error e) ∧
      ∀ groups, parseAll (String.ofList l.text) = .ok groups → Holds groups l := by
  refine ⟨?_, fun l => ⟨?_, ?_, fun groups => holds_of_parseAll⟩⟩
  · intro text
    obtain ⟨l, whole⟩ := Text.exists_layout separates text.toList
    exact ⟨l, by rw [whole, String.ofList_toList]⟩
  · rw [exists_parseAll_eq_ok_iff, String.toList_ofList, l.pieces_text]
  · intro e
    rw [parseAll_eq_error_iff, String.toList_ofList, l.pieces_text]

/-- A comma alone joins, an ideographic space parts, and a comma beside a gap does nothing. -/
example : parseAll "a,,b,\u3000,c" =
    .ok [⟨.intersect, [⟨.fqn, "a", false, false, false, "a"⟩,
        ⟨.fqn, "b", false, false, false, "b"⟩]⟩,
      ⟨.unite, [⟨.fqn, "c", false, false, false, "c"⟩]⟩] := by
  decide

end Group

end NodeSelection
