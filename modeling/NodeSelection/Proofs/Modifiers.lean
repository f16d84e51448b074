import NodeSelection.Manifest.Basic
import NodeSelection.Proofs.Exclusion
import NodeSelection.Proofs.LookupOrder

/-!
What the modifiers of selectors do to a selection from a manifest: nothing but warn.

A manifest knows no edges, so a selector that asks for parents or children finds what it would
find without. The mark for an exact node counts for names alone, and the text of a selector and
the number of hops are for others. So selections that aim alike find the same, and what sets
their runs apart are records.

* `Selector.AimsLike`, `Group.AimsLike`, `Selection.AimsLike`: all that a manifest looks at.
* `Selection.hits_find_congr`: selections that aim alike find the same.
* `Manifest.run_select`, `Manifest.run_select_recorded`: the run of a selection, with its log.
* `Manifest.warnings_selectionLog`: whom the warnings of a run are about.
* `Selection.modifiers_only_warn`: what modifiers change in a run, and what they do not.
-/

namespace NodeSelection

open Session

variable {σ ε : Type}

/-! ### Selectors that aim alike -/

/-- The selectors aim at the same nodes of any manifest: they have one kind and one value, and
if they are for names, both are exact or neither is. -/
structure Selector.AimsLike (s t : Selector) : Prop where
  kind : s.kind = t.kind
  value : s.value = t.value
  exact : s.kind = .fqn → s.exact = t.exact

/-- The groups have one method, and their selectors aim alike, each like the one in its place. -/
structure Group.AimsLike (g h : Group) : Prop where
  method : g.method = h.method
  selectors : List.Forall₂ Selector.AimsLike g.selectors h.selectors

/-- The groups to include aim alike, each like the one in its place, and so do those to
exclude. The hops may differ. -/
structure Selection.AimsLike (s t : Selection) : Prop where
  included : List.Forall₂ Group.AimsLike s.included t.included
  excluded : List.Forall₂ Group.AimsLike s.excluded t.excluded

theorem Node.meets_congr {s t : Selector} (alike : s.AimsLike t) (node : Node) :
    node.meets s = node.meets t := by
  obtain ⟨kind, value, exact⟩ := alike
  cases named : s.kind with
  | fqn => simp only [meets, nameMeets, Selector.parts, ← kind, named, ← value, ← exact named]
  | tag => simp only [meets, ← kind, named, ← value]
  | source => simp only [meets, ← kind, named, ← value]

theorem Manifest.find_congr (m : Manifest) {s t : Selector} (alike : s.AimsLike t) :
    m.find s = m.find t := by
  simp only [find, Node.meets_congr alike]

theorem Group.hits_find_congr (m : Manifest) {g h : Group} (alike : g.AimsLike h) :
    g.hits m.find = h.hits m.find := by
  have found := map_eq_map_of_related alike.selectors fun _ _ => m.find_congr
  rw [hits, hits, alike.method, found]

theorem hitsOf_find_congr (m : Manifest) {one two : List Group}
    (alike : List.Forall₂ Group.AimsLike one two) : hitsOf m.find one = hitsOf m.find two := by
  have found := map_eq_map_of_related alike fun _ _ => Group.hits_find_congr m
  rw [hitsOf, hitsOf, found]

theorem Selection.hits_find_congr (m : Manifest) {s t : Selection} (alike : s.AimsLike t) :
    s.hits m.find = t.hits m.find := by
  rw [hits_eq, hits_eq, hitsOf_find_congr m alike.included, hitsOf_find_congr m alike.excluded]

/-! ### Runs -/

/-- All selectors of a selection, those to include in front. -/
def Selection.selectors (s : Selection) : List Selector :=
  selectorsOf s.included ++ selectorsOf s.excluded

namespace Manifest

/-- The records that a lookup in a manifest makes itself: a warning about a selector that
expands. -/
def lookupLog (t : Selector) : Log := if t.expands then [.withoutEdges t.raw] else []

/-- The records of resolving groups in a manifest. -/
def groupsLog (m : Manifest) (groups : List Group) : Log :=
  (selectorsOf groups).flatMap (fun t => askedLog t (lookupLog t)) ++
    [.applied groups.length (hitsOf m.find groups).matched.length
      (hitsOf m.find groups).selected.length]

/-- The records of a selection from a manifest. -/
def selectionLog (m : Manifest) (s : Selection) : Log :=
  m.groupsLog s.included ++ (m.groupsLog s.excluded ++
    [.narrowed (s.hits m.find).selected.length (hitsOf m.find s.included).selected.length])

theorem resolvedLog_find (m : Manifest) (groups : List Group) :
    resolvedLog groups ((selectorsOf groups).map lookupLog) (hitsOf m.find groups) =
      m.groupsLog groups := by
  rw [resolvedLog, List.zipWith_map_right, List.zipWith_self, ← List.flatMap_def, groupsLog]

/-- A lookup that answers and records as the manifest does, whatever it does with its state,
makes a selection that finds and records the same. -/
theorem run_select_of_steps {m : Manifest} {s : Selection} {lookup : Lookup σ Empty String}
    {state mid after : σ}
    (first : Steps lookup state (selectorsOf s.included) ((selectorsOf s.included).map m.find)
      mid ((selectorsOf s.included).map lookupLog))
    (second : Steps lookup mid (selectorsOf s.excluded) ((selectorsOf s.excluded).map m.find)
      after ((selectorsOf s.excluded).map lookupLog)) :
    (s.select lookup).run state = ⟨.ok (s.hits m.find), after, m.selectionLog s⟩ := by
  rw [Selection.select, run_trySelect_of_steps first second]
  simp only [Hits.ofAnswers_map, resolvedLog_find, selectionLog, Selection.hits_eq]

theorem steps_lookup (m : Manifest) (state : σ) (wanted : List Selector) :
    Steps (m.lookup : Lookup σ ε String) state wanted (wanted.map m.find) state
      (wanted.map lookupLog) :=
  steps_of_answers (fun t => m.run_lookup t state) wanted

theorem run_select (m : Manifest) (s : Selection) (state : σ) :
    (s.select m.lookup).run state = ⟨.ok (s.hits m.find), state, m.selectionLog s⟩ :=
  run_select_of_steps (m.steps_lookup state _) (m.steps_lookup state _)

/-- The selectors that are looked up are those of the selection, and no others. -/
theorem run_select_recorded (m : Manifest) (s : Selection) (state : σ) :
    (s.select (Lookup.recorded m.lookup)).run (state, []) =
      ⟨.ok (s.hits m.find), (state, s.selectors), m.selectionLog s⟩ :=
  run_select_of_steps ((m.steps_lookup state _).recorded []) ((m.steps_lookup state _).recorded _)

/-! ### Logs -/

/-- The warnings of lookups are about the selectors that expand. -/
theorem warnings_lookups (wanted : List Selector) :
    Log.atLeast .warn (wanted.flatMap fun t => askedLog t (lookupLog t)) =
      (wanted.filter Selector.expands).map fun t => .withoutEdges t.raw := by
  induction wanted with
  | nil => rfl
  | cons t rest ih =>
    rw [List.flatMap_cons, Log.atLeast_append, ih]
    cases expands : t.expands <;>
      simp [askedLog, lookupLog, expands, Log.atLeast, LogRecord.level, Level.rank]

/-- Lookups make no summaries. -/
theorem summaries_lookups (wanted : List Selector) :
    (wanted.flatMap fun t => askedLog t (lookupLog t)).filter (·.level = .debug) = [] := by
  rw [List.filter_eq_nil_iff]
  intro r made
  obtain ⟨t, -, made⟩ := List.mem_flatMap.mp made
  cases expands : t.expands <;> simp [askedLog, lookupLog, expands] at made
  · simp [made, LogRecord.level]
  · rcases made with rfl | rfl <;> simp [LogRecord.level]

theorem warnings_groupsLog (m : Manifest) (groups : List Group) :
    Log.atLeast .warn (m.groupsLog groups) =
      ((selectorsOf groups).filter Selector.expands).map fun t => .withoutEdges t.raw := by
  rw [groupsLog, Log.atLeast_append, warnings_lookups]
  exact List.append_nil _

theorem summaries_groupsLog (m : Manifest) (groups : List Group) :
    (m.groupsLog groups).filter (·.level = .debug) =
      [.applied groups.length (hitsOf m.find groups).matched.length
        (hitsOf m.find groups).selected.length] := by
  rw [groupsLog, List.filter_append, summaries_lookups]
  rfl

theorem warnings_selectionLog (m : Manifest) (s : Selection) :
    Log.atLeast .warn (m.selectionLog s) =
      (s.selectors.filter Selector.expands).map fun t => .withoutEdges t.raw := by
  rw [selectionLog, Log.atLeast_append, Log.atLeast_append, warnings_groupsLog,
    warnings_groupsLog, Selection.selectors, List.filter_append, List.map_append]
  exact congrArg _ (List.append_nil _)

theorem summaries_selectionLog_congr (m : Manifest) {s t : Selection} (alike : s.AimsLike t) :
    (m.selectionLog s).filter (·.level = .debug) =
      (m.selectionLog t).filter (·.level = .debug) := by
  simp only [selectionLog, List.filter_append, summaries_groupsLog,
    hitsOf_find_congr m alike.included, hitsOf_find_congr m alike.excluded,
    Selection.hits_find_congr m alike, alike.included.length_eq, alike.excluded.length_eq]

end Manifest

/-- Selections that aim alike find the same in a manifest. Their runs differ in the log alone,
and there only in the records of single selectors. A run looks up every selector of the
selection, and warns just about those that expand: in the order of the lookups, and each time. -/
theorem Selection.modifiers_only_warn (m : Manifest) {s t : Selection} (alike : s.AimsLike t)
    (state : σ) :
    (∃ found, ((s.select m.lookup).run state).Ends (.ok found) state ∧
      ((t.select m.lookup).run state).Ends (.ok found) state) ∧
    ((s.select m.lookup).run state).log.filter (·.level = .debug) =
      ((t.select m.lookup).run state).log.filter (·.level = .debug) ∧
    ∀ u : Selection, ∃ found log,
      (u.select m.lookup).run state = ⟨.ok found, state, log⟩ ∧
      (u.select (Lookup.recorded m.lookup)).run (state, []) =
        ⟨.ok found, (state, u.selectors), log⟩ ∧
      Log.atLeast .warn log =
        (u.selectors.filter Selector.expands).map fun v => .withoutEdges v.raw := by
  refine ⟨⟨s.hits m.find, ?_, ?_⟩, ?_, fun u => ?_⟩
  · rw [m.run_select]
    exact ⟨rfl, rfl⟩
  · rw [m.run_select, ← hits_find_congr m alike]
    exact ⟨rfl, rfl⟩
  · rw [m.run_select, m.run_select]
    exact m.summaries_selectionLog_congr alike
  · exact ⟨_, _, m.run_select u state, m.run_select_recorded u state, m.warnings_selectionLog u⟩

/-- Two selections that aim alike, the first with all modifiers and the second with none. -/
theorem Selection.modifiers_only_warn_all :
    let m : Manifest := ⟨[⟨"u", ["a", "b"], ["x"], none⟩, ⟨"v", ["a"], ["x", "y"], none⟩,
      ⟨"w", ["c"], ["x"], some ⟨"a", none⟩⟩]⟩
    let s : Selection := ⟨[⟨.intersect, [⟨.tag, "x", true, true, false, "one"⟩,
        ⟨.fqn, "a", false, true, true, "two"⟩, ⟨.fqn, "a", false, true, true, "two"⟩]⟩,
        ⟨.unite, [⟨.source, "a", true, false, true, "three"⟩]⟩],
      [⟨.unite, [⟨.fqn, "a", true, true, false, "four"⟩]⟩], 7⟩
    let t : Selection := ⟨[⟨.intersect, [⟨.tag, "x", false, false, false, "tag:x"⟩,
        ⟨.fqn, "a", false, false, false, "a"⟩, ⟨.fqn, "a", false, false, false, "a"⟩]⟩,
        ⟨.unite, [⟨.source, "a", false, false, false, "source:a"⟩]⟩],
      [⟨.unite, [⟨.fqn, "a", true, false, false, "@a"⟩]⟩], 0⟩
    s.AimsLike t ∧ ((s.select m.lookup).run ()).outcome = .ok (.both ["u", "w"]) ∧
      ((t.select m.lookup).run ()).outcome = .ok (.both ["u", "w"]) ∧
      Log.atLeast .warn ((s.select m.lookup).run ()).log = [.withoutEdges "one",
        .withoutEdges "two", .withoutEdges "two", .withoutEdges "three", .withoutEdges "four"] ∧
      Log.atLeast .warn ((t.select m.lookup).run ()).log = [] := by
  intro m s t
  have alike : s.AimsLike t := by
    refine ⟨.cons ⟨rfl, ?_⟩ (.cons ⟨rfl, ?_⟩ .nil), .cons ⟨rfl, ?_⟩ .nil⟩
    · exact .cons ⟨rfl, rfl, nofun⟩ (.cons ⟨rfl, rfl, fun _ => rfl⟩
        (.cons ⟨rfl, rfl, fun _ => rfl⟩ .nil))
    · exact .cons ⟨rfl, rfl, nofun⟩ .nil
    · exact .cons ⟨rfl, rfl, fun _ => rfl⟩ .nil
  obtain ⟨⟨found, ends, ends'⟩, -, warns⟩ := modifiers_only_warn m alike ()
  have known : ((s.select m.lookup).run ()).outcome = .ok (.both ["u", "w"]) := by decide
  obtain ⟨_, _, run, -, warnings⟩ := warns s
  obtain ⟨_, _, run', -, warnings'⟩ := warns t
  refine ⟨alike, known, ends'.1.trans (ends.1.symm.trans known), ?_, ?_⟩
  · rw [run]
    exact warnings
  · rw [run']
    exact warnings'

end NodeSelection
