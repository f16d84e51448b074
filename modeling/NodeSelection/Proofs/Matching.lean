import Mathlib.Data.List.Basic
import NodeSelection.Proofs.Results

/-!
Which values a node goes by.

A selector is matched by cutting its value at dots and comparing what comes of it with the
node. Here it is the other way round: a node is given, and the values are told that it meets.
What stands in front of a cut holds no dot. So a component that holds one is met only as a
whole value, and an origin whose name holds one is not met at all.

* `parts_eq_iff`: cutting at dots and joining by dots undo each other, without dots inside.
* `Node.meets_iff_last_or_first`, `Node.meets_iff_all`: the parts of a value for a name.
* `Node.meets_iff_goesBy`, `Node.meets_iff_isNamed`: the values for a name.
* `Origin.meets_iff`: the values for an origin.
* `Node.meets_name_iff`, `Manifest.lookup_origin`: what that means for selectors and lookups.
-/

namespace NodeSelection

/-! ### Dotted names -/

/-- No component holds a dot. -/
def DotFree (components : List String) : Prop := ∀ c ∈ components, '.' ∉ c.toList

instance (components : List String) : Decidable (DotFree components) := by
  unfold DotFree
  infer_instance

/-- The components joined by dots. -/
def dotted (components : List String) : String := ".".intercalate components

theorem toList_dotted (components : List String) :
    (dotted components).toList = ['.'].intercalate (components.map String.toList) := by
  rw [dotted, String.toList_intercalate]
  rfl

theorem fields_dot_eq (text : List Char) : Text.fields (· == '.') text = text.splitOn '.' := by
  rw [fields_eq_splitOnP, List.splitOn_eq_splitOnP]

/-- The parts of a value are the components without a dot that it is joined of. -/
theorem parts_eq_iff {s : Selector} {components : List String} :
    s.parts = components ↔
      components ≠ [] ∧ DotFree components ∧ s.value = dotted components := by
  have back : ∀ fields : List (List Char), (fields.map String.ofList).map String.toList = fields :=
    fun fields => by simp [Function.comp_def]
  rw [Selector.parts]
  constructor
  · rintro rfl
    refine ⟨?_, ?_, ?_⟩
    · simp
    · intro c mem
      obtain ⟨field, inside, rfl⟩ := List.mem_map.mp mem
      rw [String.toList_ofList]
      exact fun dot => by simpa using Text.not_sep_of_mem_fields inside '.' dot
    · rw [← String.toList_inj, toList_dotted, back, fields_dot_eq, List.intercalate_splitOn]
  · rintro ⟨some, free, value⟩
    have cut : (dotted components).toList.splitOn '.' = components.map String.toList := by
      rw [toList_dotted]
      refine List.splitOn_intercalate '.' ?_ (by simpa using some)
      simpa [DotFree] using free
    rw [value, fields_dot_eq, cut]
    simp [Function.comp_def]

/-! ### Names -/

namespace Node

/-- A value for names that the node goes by: its last component, or its first components
joined by dots, none of which holds a dot. -/
def GoesBy (node : Node) (value : String) : Prop :=
  node.fqn.getLast? = some value ∨
    ∃ front, front ≠ [] ∧ front <+: node.fqn ∧ DotFree front ∧ value = dotted front

/-- The value is all of the node's name, joined by dots. It has components, and none of them
holds a dot. -/
def IsNamed (node : Node) (value : String) : Prop :=
  node.fqn ≠ [] ∧ DotFree node.fqn ∧ value = dotted node.fqn

variable {node : Node} {s : Selector}

theorem GoesBy.fqn_ne_nil {value : String} (goes : node.GoesBy value) : node.fqn ≠ [] := by
  intro nameless
  rcases goes with last | ⟨front, some, before, -⟩
  · simp [nameless] at last
  · rw [nameless] at before
    exact some (List.prefix_nil.mp before)

theorem meets_iff_last_or_first (kind : s.kind = .fqn) (loose : s.exact = false) :
    node.meets s = true ↔ node.fqn.getLast? = some s.value ∨ s.parts <+: node.fqn := by
  simp [meets, kind, nameMeets, loose]

theorem meets_iff_all (kind : s.kind = .fqn) (exact : s.exact = true) :
    node.meets s = true ↔ node.fqn = s.parts := by
  simp [meets, kind, nameMeets, exact]

theorem meets_iff_goesBy (kind : s.kind = .fqn) (loose : s.exact = false) :
    node.meets s = true ↔ node.GoesBy s.value := by
  rw [meets_iff_last_or_first kind loose, GoesBy]
  refine or_congr_right ⟨fun before => ?_, ?_⟩
  · obtain ⟨some, free, value⟩ := parts_eq_iff.mp (Eq.refl s.parts)
    exact ⟨s.parts, some, before, free, value⟩
  · rintro ⟨front, some, before, free, value⟩
    rwa [parts_eq_iff.mpr ⟨some, free, value⟩]

theorem meets_iff_isNamed (kind : s.kind = .fqn) (exact : s.exact = true) :
    node.meets s = true ↔ node.IsNamed s.value := by
  rw [meets_iff_all kind exact, eq_comm, parts_eq_iff, IsNamed]

/-- A selector for names reaches a node by the last component of its name, or by first
components that hold no dot; an exact one by all components, none of which may hold a dot.
No selector reaches a name without components. -/
theorem meets_name_iff (node : Node) {s : Selector} (kind : s.kind = .fqn) :
    (s.exact = false → (node.meets s = true ↔ node.GoesBy s.value)) ∧
    (s.exact = true → (node.meets s = true ↔ node.IsNamed s.value)) ∧
    (node.fqn = [] → node.meets s = false) ∧
    ((∃ c ∈ node.fqn, '.' ∈ c.toList) → s.exact = true → node.meets s = false) := by
  refine ⟨meets_iff_goesBy kind, meets_iff_isNamed kind, ?_, ?_⟩
  · intro nameless
    rw [← Bool.not_eq_true]
    intro meets
    cases exact : s.exact with
    | true => exact ((meets_iff_isNamed kind exact).mp meets).1 nameless
    | false => exact ((meets_iff_goesBy kind exact).mp meets).fqn_ne_nil nameless
  · rintro ⟨c, mem, dot⟩ exact
    rw [← Bool.not_eq_true]
    exact fun meets => ((meets_iff_isNamed kind exact).mp meets).2.1 c mem dot

/-- A name with an empty component and a last one with a dot: the last component and the
first two reach it, but not all components together. -/
theorem meets_name_iff_dot_inside :
    let node : Node := ⟨"u", ["a", "", "b.c"], [], none⟩
    let last : Selector := ⟨.fqn, "b.c", false, true, false, "+b.c"⟩
    let first : Selector := ⟨.fqn, "a.", false, false, false, "a."⟩
    let whole : Selector := ⟨.fqn, "a..b.c", true, false, false, "@a..b.c"⟩
    last.kind = .fqn ∧ first.kind = .fqn ∧ whole.kind = .fqn ∧ node.GoesBy "b.c" ∧
      node.meets last = true ∧ node.GoesBy "a." ∧ node.meets first = true ∧
      ¬ node.IsNamed "a..b.c" ∧ node.meets whole = false := by
  intro node last first whole
  have byLast : node.GoesBy "b.c" := .inl rfl
  have byFirst : node.GoesBy "a." :=
    .inr ⟨["a", ""], List.cons_ne_nil _ _, ⟨["b.c"], rfl⟩, by decide, by decide⟩
  have notNamed : ¬ node.IsNamed "a..b.c" := fun named => absurd named.2.1 (by decide)
  obtain ⟨-, -, -, unreached⟩ := meets_name_iff node (s := whole) rfl
  exact ⟨rfl, rfl, rfl, byLast, ((meets_name_iff node (s := last) rfl).1 rfl).mpr byLast,
    byFirst, ((meets_name_iff node (s := first) rfl).1 rfl).mpr byFirst, notNamed,
    unreached ⟨"b.c", by decide, by decide⟩ rfl⟩

end Node

/-! ### Origins -/

/-- A value for origins that the origin goes by: its name, alone or with its table behind a
dot, if no dot is in the name. -/
def Origin.GoesBy (o : Origin) (value : String) : Prop :=
  '.' ∉ o.name.toList ∧
    (value = o.name ∨ ∃ table, o.table = some table ∧ value = o.name ++ "." ++ table)

/-- The node has an origin with a dot in its name. -/
def Node.originDotted (node : Node) : Bool := node.origin.any fun o => '.' ∈ o.name.toList

theorem toList_append_dot (front back : String) :
    (front ++ "." ++ back).toList = front.toList ++ '.' :: back.toList := by
  simp

theorem Origin.meets_iff {o : Origin} {value : String} :
    o.meets value = true ↔ o.GoesBy value := by
  unfold Origin.meets
  cases cut : Text.cutAt? '.' value.toList with
  | none =>
    have free := Text.cutAt?_eq_none_iff.mp cut
    constructor
    · intro same
      obtain rfl := beq_iff_eq.mp same
      exact ⟨free, .inl rfl⟩
    · rintro ⟨-, rfl | ⟨table, -, rfl⟩⟩
      · exact beq_self_eq_true _
      · exact absurd (by simp) free
  | some parts =>
    obtain ⟨name, table⟩ := parts
    obtain ⟨split, free⟩ := Text.cutAt?_eq_some_iff.mp cut
    simp only [Bool.and_eq_true, beq_iff_eq]
    constructor
    · rintro ⟨sameName, sameTable⟩
      refine ⟨by rwa [sameName, String.toList_ofList], .inr ⟨_, sameTable, ?_⟩⟩
      rw [← String.toList_inj, toList_append_dot, sameName, String.toList_ofList,
        String.toList_ofList, split]
    · rintro ⟨nameFree, rfl | ⟨other, present, rfl⟩⟩
      · exact absurd (by simp [split]) nameFree
      · -- The name ends at the first dot of the value, for it has none itself.
        have again := Text.cutAt?_eq_some_iff.mpr ⟨toList_append_dot o.name other, nameFree⟩
        rw [cut] at again
        cases again
        simpa using present

/-- A value behind a dot narrows the value in front of it. -/
theorem Origin.GoesBy.of_append_dot {o : Origin} {value rest : String}
    (free : '.' ∉ value.toList) (goes : o.GoesBy (value ++ "." ++ rest)) : o.GoesBy value := by
  obtain ⟨nameFree, whole | ⟨table, -, same⟩⟩ := goes
  · exact absurd (by simp [← whole]) nameFree
  · have one := Text.cutAt?_eq_some_iff.mpr ⟨toList_append_dot value rest, free⟩
    have two := Text.cutAt?_eq_some_iff.mpr ⟨toList_append_dot o.name table, nameFree⟩
    rw [same, two] at one
    have names : o.name.toList = value.toList := congrArg Prod.fst (Option.some.inj one)
    exact ⟨nameFree, .inl (String.toList_inj.mp names.symm)⟩

theorem Node.meets_source_iff {node : Node} {s : Selector} (kind : s.kind = .source) :
    node.meets s = true ↔ ∃ o, node.origin = some o ∧ o.GoesBy s.value := by
  simp only [meets, kind, Option.any_eq_true, Origin.meets_iff]

/-- A dot in the name of its origin puts a node out of reach. -/
theorem Node.meets_eq_false_of_originDotted {node : Node} {s : Selector} (kind : s.kind = .source)
    (dot : node.originDotted = true) : node.meets s = false := by
  rw [← Bool.not_eq_true]
  intro meets
  obtain ⟨o, origin, free, -⟩ := (meets_source_iff kind).mp meets
  simp [originDotted, origin, free] at dot

/-! ### Lookups -/

namespace Manifest

variable {m : Manifest} {s t : Selector}

/-- The manifest without the nodes that are dropped. -/
def without (m : Manifest) (drop : Node → Bool) : Manifest :=
  ⟨m.nodes.filter fun node => !drop node⟩

/-- A lookup that is asked once gives what the manifest finds. -/
theorem value_lookup (m : Manifest) (s : Selector) : (m.lookup s).value = m.find s :=
  Session.value_eq_of_outcome (m.outcome_lookup s)

theorem on_find (m : Manifest) (s : Selector) (side : Side) :
    (m.find s).on side = (m.nodes.filter (·.meets s)).map Node.id := by
  cases side <;> rfl

/-- What is met by fewer nodes finds fewer of them, in the same order. -/
theorem find_sublist (narrower : ∀ node : Node, node.meets t = true → node.meets s = true)
    (side : Side) : ((m.find t).on side).Sublist ((m.find s).on side) := by
  rw [on_find, on_find]
  exact (List.monotone_filter_right m.nodes narrower).map Node.id

/-- Nodes that do not meet the selector may as well be absent. -/
theorem find_without {drop : Node → Bool}
    (unmet : ∀ node : Node, drop node = true → node.meets s = false) :
    (m.without drop).find s = m.find s := by
  refine Hits.ext_on fun side => ?_
  rw [on_find, on_find, without, List.filter_filter]
  refine congrArg _ (List.filter_congr fun node _ => ?_)
  cases dropped : drop node with
  | true => simp [unmet node dropped]
  | false => simp

/-- A selector for origins reaches a node by the name of its origin, alone or with its table
behind a dot, and only if the name holds no dot. So a value that goes on behind a dot finds
no others, and nodes whose origin has a dot in its name are not found by any value. -/
theorem lookup_origin (m : Manifest) {s : Selector} (kind : s.kind = .source) :
    (∀ node : Node, node.origin = none → node.meets s = false) ∧
    (∀ (node : Node) (o : Origin), node.origin = some o →
      (node.meets s = true ↔ o.GoesBy s.value)) ∧
    (∀ (t : Selector) (rest : String), t.kind = .source → '.' ∉ s.value.toList →
      t.value = s.value ++ "." ++ rest →
      ∀ side, ((m.lookup t).value.on side).Sublist ((m.lookup s).value.on side)) ∧
    ((m.without Node.originDotted).lookup s).value = (m.lookup s).value ∧
    ∀ node ∈ m.nodes, node.originDotted = true →
      (∀ other ∈ m.nodes, other.id = node.id → other = node) →
      ∀ side, node.id ∉ (m.lookup s).value.on side := by
  refine ⟨?_, ?_, ?_, ?_, ?_⟩
  · intro node absent
    simp [Node.meets, kind, absent]
  · intro node o origin
    rw [Node.meets_source_iff kind]
    simp [origin]
  · intro t rest kind' free value side
    rw [value_lookup, value_lookup]
    refine find_sublist (fun node meets => ?_) side
    obtain ⟨o, origin, goes⟩ := (Node.meets_source_iff kind').mp meets
    exact (Node.meets_source_iff kind).mpr ⟨o, origin, (value ▸ goes).of_append_dot free⟩
  · rw [value_lookup, value_lookup, find_without]
    exact fun node => Node.meets_eq_false_of_originDotted kind
  · intro node mem dot alone side found
    rw [value_lookup, on_find] at found
    obtain ⟨other, met, same⟩ := List.mem_map.mp found
    obtain ⟨there, meets⟩ := List.mem_filter.mp met
    rw [alone other there same, Node.meets_eq_false_of_originDotted kind dot] at meets
    cases meets

/-- The origin "raw" with the table "x.y", and the origin "raw.x" with the table "y": the
value "raw.x.y" finds the former alone. -/
theorem lookup_origin_dots :
    let m : Manifest := ⟨[⟨"a", [], [], some ⟨"raw", some "x.y"⟩⟩,
      ⟨"b", [], [], some ⟨"raw", none⟩⟩, ⟨"c", [], [], some ⟨"raw.x", some "y"⟩⟩,
      ⟨"d", ["raw"], ["raw"], none⟩]⟩
    let wide : Selector := ⟨.source, "raw", false, true, false, "+source:raw"⟩
    let narrow : Selector := ⟨.source, "raw.x.y", true, false, false, "@source:raw.x.y"⟩
    wide.kind = .source ∧ narrow.kind = .source ∧ '.' ∉ wide.value.toList ∧
      narrow.value = wide.value ++ "." ++ "x.y" ∧ (m.lookup wide).value = .both ["a", "b"] ∧
      (m.lookup narrow).value = .both ["a"] ∧
      (∀ side, ((m.lookup narrow).value.on side).Sublist ((m.lookup wide).value.on side)) ∧
      ∀ side, "c" ∉ (m.lookup narrow).value.on side := by
  intro m wide narrow
  have free : '.' ∉ wide.value.toList := by decide
  have value : narrow.value = wide.value ++ "." ++ "x.y" := by decide
  obtain ⟨-, -, narrows, -, -⟩ := lookup_origin m (s := wide) rfl
  obtain ⟨-, -, -, -, unfound⟩ := lookup_origin m (s := narrow) rfl
  refine ⟨rfl, rfl, free, value, by decide, by decide, narrows narrow "x.y" rfl free value, ?_⟩
  exact unfound ⟨"c", [], [], some ⟨"raw.x", some "y"⟩⟩ (by decide) (by decide) (by decide)

end Manifest

end NodeSelection
