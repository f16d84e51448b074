import NodeSelection.Proofs.Matching

/-!
Selectors for names that narrow each other.

A value that goes on behind a dot has the parts of the shorter value in front of its own. So
the nodes that it reaches by their first components are reached by the shorter value, too. It
may also be the whole last component of a name, dots and all, and then the shorter value need
not reach the node. An exact selector asks for all components where a loose one asks for the
first.

* `Selector.parts_prefix`: the parts of a value that goes on behind a dot.
* `Node.last_or_meets_of_append_dot`, `Node.meets_of_exact`: which nodes stay.
* `Manifest.lookup_narrows`: what that means for lookups.
-/

namespace NodeSelection

/-- Behind a dot, a value goes on with further parts. -/
theorem Selector.parts_prefix {s t : Selector} {rest : String}
    (value : t.value = s.value ++ "." ++ rest) : s.parts <+: t.parts := by
  have cut : Text.fields (· == '.') (s.value.toList ++ '.' :: rest.toList) =
      Text.fields (· == '.') s.value.toList ++ Text.fields (· == '.') rest.toList :=
    Text.fields_append_sep (by rfl) _ _
  rw [parts, parts, value, toList_append_dot, cut, List.map_append]
  exact List.prefix_append ..

namespace Node

variable {node : Node} {s t : Selector} {rest : String}

/-- The value is, as it stands, the last component of the node's name. -/
def endsIn (node : Node) (value : String) : Bool := node.fqn.getLast? == some value

/-- A node that is met by a longer value is met by the shorter one, too, or its last component
is the longer value. -/
theorem last_or_meets_of_append_dot (kind : s.kind = .fqn) (loose : s.exact = false)
    (kind' : t.kind = .fqn) (loose' : t.exact = false) (value : t.value = s.value ++ "." ++ rest)
    (meets : node.meets t = true) :
    node.fqn.getLast? = some t.value ∨ node.meets s = true := by
  refine ((meets_iff_last_or_first kind' loose').mp meets).imp_right fun first => ?_
  exact (meets_iff_last_or_first kind loose).mpr (.inr ((Selector.parts_prefix value).trans first))

/-- A name that is the longer value and nothing else is not met by the shorter one: neither is
its last component the shorter value, nor does a part of that hold a dot. -/
theorem not_meets_of_fqn_eq (kind : s.kind = .fqn) (loose : s.exact = false)
    (value : t.value = s.value ++ "." ++ rest) (name : node.fqn = [t.value]) :
    node.meets s = false := by
  have dot : '.' ∈ t.value.toList := by
    rw [value, toList_append_dot]
    simp
  rw [← Bool.not_eq_true, meets_iff_last_or_first kind loose, name]
  rintro (last | first)
  · have same : t.value = s.value := Option.some.inj last
    have lengths := congrArg (·.toList.length) (value.symm.trans same)
    simp at lengths
  · obtain ⟨some, free, -⟩ := parts_eq_iff.mp (Eq.refl s.parts)
    obtain ⟨part, mem⟩ := List.exists_mem_of_ne_nil _ some
    obtain rfl := List.mem_singleton.mp (first.subset mem)
    exact free t.value mem dot

/-- Asking for all components asks for the first ones. -/
theorem meets_of_exact (meets : node.meets { s with exact := true } = true) :
    node.meets { s with exact := false } = true := by
  obtain ⟨kind, value, exact, parents, children, raw⟩ := s
  cases kind with
  | fqn =>
    have all := (meets_iff_all rfl rfl).mp meets
    refine (meets_iff_last_or_first rfl rfl).mpr (.inr ?_)
    rw [all]
    exact List.prefix_refl _
  | tag => exact meets
  | source => exact meets

end Node

namespace Manifest

/-- What is met by fewer of the nodes that are not dropped finds fewer of them. -/
theorem find_without_sublist {m : Manifest} {s t : Selector} {drop : Node → Bool}
    (narrower : ∀ node : Node, node.meets t = true → drop node = false → node.meets s = true)
    (side : Side) : (((m.without drop).find t).on side).Sublist ((m.find s).on side) := by
  rw [on_find, on_find, without, List.filter_filter]
  refine (List.monotone_filter_right m.nodes fun node kept => ?_).map Node.id
  obtain ⟨meets, stays⟩ := Bool.and_eq_true_iff.mp kept
  exact narrower node meets (by simpa using stays)

/-- A value for names that goes on behind a dot reaches fewer nodes, and finds fewer of them in
the same order. Left out are the nodes whose last component is the whole longer value; whatever
the values are, there can be such a node that the shorter one does not reach. An exact selector
finds no others than the same selector that is not exact, in the same order. -/
theorem lookup_narrows (m : Manifest) :
    (∀ (s t : Selector) (rest : String), s.kind = .fqn → s.exact = false → t.kind = .fqn →
      t.exact = false → t.value = s.value ++ "." ++ rest →
      (∀ node : Node, node.meets t = true →
        node.fqn.getLast? = some t.value ∨ node.meets s = true) ∧
      (∀ side, (((m.without (·.endsIn t.value)).lookup t).value.on side).Sublist
        ((m.lookup s).value.on side)) ∧
      ∃ node : Node, node.fqn.getLast? = some t.value ∧ node.meets t = true ∧
        node.meets s = false) ∧
    ∀ (s : Selector) (side : Side), ((m.lookup { s with exact := true }).value.on side).Sublist
      ((m.lookup { s with exact := false }).value.on side) := by
  refine ⟨fun s t rest kind loose kind' loose' value => ⟨?_, fun side => ?_, ?_⟩,
    fun s side => ?_⟩
  · exact fun node => Node.last_or_meets_of_append_dot kind loose kind' loose' value
  · rw [value_lookup, value_lookup]
    refine find_without_sublist (fun node meets other => ?_) side
    refine (Node.last_or_meets_of_append_dot kind loose kind' loose' value meets).resolve_left ?_
    simpa [Node.endsIn] using other
  · exact ⟨⟨"", [t.value], [], none⟩, rfl,
      (Node.meets_iff_last_or_first kind' loose').mpr (.inl rfl),
      Node.not_meets_of_fqn_eq kind loose value rfl⟩
  · rw [value_lookup, value_lookup]
    exact find_sublist (fun _ => Node.meets_of_exact) side

/-- An empty value that goes on with an empty part, and a name that ends in a component with a
dot: of the nodes that the longer value finds, the one without that component stays. -/
theorem lookup_narrows_dots :
    let m : Manifest := ⟨[⟨"u", ["", ""], [], none⟩, ⟨"v", ["a", "."], [], none⟩,
      ⟨"w", ["", "b"], [], none⟩, ⟨"u", ["", "", "c"], [], none⟩]⟩
    let short : Selector := ⟨.fqn, "", false, true, false, "+fqn:"⟩
    let long : Selector := ⟨.fqn, ".", false, false, false, "."⟩
    short.kind = .fqn ∧ short.exact = false ∧ long.kind = .fqn ∧ long.exact = false ∧
      long.value = short.value ++ "." ++ "" ∧ (m.lookup long).value = .both ["u", "v", "u"] ∧
      (m.lookup short).value = .both ["u", "w", "u"] ∧
      (∀ side, (((m.without (·.endsIn ".")).lookup long).value.on side).Sublist
        ((m.lookup short).value.on side)) ∧
      (m.lookup { long with exact := true }).value = .both ["u"] ∧
      ∀ side, ((m.lookup { long with exact := true }).value.on side).Sublist
        ((m.lookup { long with exact := false }).value.on side) := by
  intro m short long
  obtain ⟨longer, exacter⟩ := lookup_narrows m
  obtain ⟨-, narrows, -⟩ := longer short long "" rfl rfl rfl rfl rfl
  exact ⟨rfl, rfl, rfl, rfl, rfl, by decide, by decide, narrows, by decide, exacter long⟩

end Manifest

end NodeSelection
