import NodeSelection.Proofs.Exclusion
import NodeSelection.Proofs.Grouping

/-!
What a selection finds when one of its texts grows.

A blank keeps the groups of two texts apart, so a text that goes on behind a blank has
the groups of both parts. More to include is united with what was found, behind it;
more to exclude is taken away from it.

* `hitsOf_append`: what the groups of two lists find.
* `hits_append_included`, `hits_append_excluded`: a selection with more groups.
* `found_append`: the same for texts, with the order of what was found before.
-/

namespace NodeSelection

variable {N : Type} [DecidableEq N]

/-! ### Hits -/

namespace Hits

theorem difference_union_left (hits : List (Hits N)) (remove : Hits N) :
    (union hits).difference remove = union (hits.map fun h => h.difference remove) := by
  refine ext_on fun side => ?_
  rw [on_difference, on_union, on_union, Ordered.difference_union_left, List.map_map, List.map_map]
  simp only [Function.comp_def, on_difference]

theorem difference_union_pair (keep one two : Hits N) :
    keep.difference (union [one, two]) = (keep.difference one).difference two := by
  refine ext_on fun side => ?_
  simp only [on_difference, on_union, Ordered.difference_union_right, List.map_cons, List.map_nil,
    List.foldl_cons, List.foldl_nil]

end Hits

/-! ### Groups -/

/-- What the groups of two lists find is what the lists find, united. -/
theorem hitsOf_append (find : Selector → Hits N) (one two : List Group) :
    hitsOf find (one ++ two) = Hits.union [hitsOf find one, hitsOf find two] := by
  refine Hits.ext_on fun side => ?_
  have families := Ordered.union_map_union
    [one.map (Group.sequence fun s => (find s).on side),
      two.map (Group.sequence fun s => (find s).on side)]
  simpa [on_hitsOf] using families.symm

namespace Selection

variable (find : Selector → Hits N)

theorem hits_append_included (one two excluded : List Group) (hops : Int64) :
    hits find ⟨one ++ two, excluded, hops⟩ =
      Hits.union [hits find ⟨one, excluded, hops⟩, hits find ⟨two, excluded, hops⟩] := by
  simp only [hits_eq, hitsOf_append, Hits.difference_union_left, List.map_cons, List.map_nil]

theorem hits_append_excluded (included one two : List Group) (hops : Int64) :
    hits find ⟨included, one ++ two, hops⟩ =
      (hits find ⟨included, one, hops⟩).difference (hitsOf find two) := by
  simp only [hits_eq, hitsOf_append, Hits.difference_union_pair]

theorem prefix_union_hits (side : Side) (s : Selection) (others : List (Hits N)) :
    (s.hits find).on side <+: (Hits.union (s.hits find :: others)).on side := by
  rw [Hits.on_union, List.map_cons]
  exact Ordered.prefix_union (keeps_on_hits side s find).nodup _

end Selection

/-! ### Texts -/

namespace Group

/-- Every selector of the text can be read. -/
def Readable (text : String) : Prop := ∃ groups, parseAll text = .ok groups

instance (text : String) : Decidable (Readable text) :=
  decidable_of_iff ((parseAll text).toBool = true) <| by
    unfold Readable
    cases parseAll text <;> simp [Except.toBool]

variable {gap : String}

/-- A text that goes on behind a blank has the groups of both parts, and fails as the
first part does that cannot be read. -/
theorem parseAll_append_blank (blank : ∀ c ∈ gap.toList, Text.isBlank c = true) (ne : gap ≠ "")
    (one two : String) :
    parseAll (one ++ gap ++ two) = (do
      let first ← parseAll one
      let second ← parseAll two
      return first ++ second) := by
  have chars : one ++ gap ++ two = String.ofList (one.toList ++ (gap.toList ++ two.toList)) := by
    rw [← List.append_assoc, ← String.toList_append, ← String.toList_append, String.ofList_toList]
  have some : gap.toList ≠ [] := fun none => ne (String.toList_eq_nil_iff.mp none)
  rw [chars, parseAll_append blank some, String.ofList_toList, String.ofList_toList]

theorem parseAll_append_of_ok (blank : ∀ c ∈ gap.toList, Text.isBlank c = true) (ne : gap ≠ "")
    {one two : String} {first second : List Group} (hone : parseAll one = .ok first)
    (htwo : parseAll two = .ok second) : parseAll (one ++ gap ++ two) = .ok (first ++ second) := by
  rw [parseAll_append_blank blank ne, hone, htwo]
  rfl

end Group

namespace Selection

/-- What the texts of a request find when each selector has a fixed answer. -/
def found (find : Selector → Hits N) (request : Request) : Except SyntaxError (Hits N) :=
  (parse request).map (hits find)

theorem found_of_ok {select exclude : String} {included excluded : List Group}
    (hi : Group.parseAll select = .ok included) (he : Group.parseAll exclude = .ok excluded)
    (find : Selector → Hits N) (hops : Int64) :
    found find ⟨select, exclude, hops⟩ = .ok (hits find ⟨included, excluded, hops⟩) := by
  have parsed : parse ⟨select, exclude, hops⟩ = .ok ⟨included, excluded, hops⟩ :=
    parse_of_ok hi he
  rw [found, parsed]
  rfl

variable {gap : String}

/-- Behind a blank, a text goes on with the groups of another one. More to include is
found behind what was found before, which stays as it is. More to exclude only takes nodes
away, and leaves the others in order. -/
theorem found_append (blank : ∀ c ∈ gap.toList, Text.isBlank c = true) (ne : gap ≠ "") :
    (∀ one two, Group.parseAll (one ++ gap ++ two) = do
      let first ← Group.parseAll one
      let second ← Group.parseAll two
      return first ++ second) ∧
    (∀ (find : Selector → Hits N) (one two exclude : String) (hops : Int64),
      Group.Readable one → Group.Readable two → Group.Readable exclude →
      ∃ first second, found find ⟨one, exclude, hops⟩ = .ok first ∧
        found find ⟨two, exclude, hops⟩ = .ok second ∧
        found find ⟨one ++ gap ++ two, exclude, hops⟩ = .ok (Hits.union [first, second]) ∧
        ∀ side, first.on side <+: (Hits.union [first, second]).on side) ∧
    ∀ (find : Selector → Hits N) (select one two : String) (hops : Int64),
      Group.Readable select → Group.Readable one → Group.Readable two →
      ∃ before more, found find ⟨select, one, hops⟩ = .ok before ∧
        applyTo find two = .ok more ∧
        found find ⟨select, one ++ gap ++ two, hops⟩ = .ok (before.difference more) ∧
        ∀ side, ((before.difference more).on side).Sublist (before.on side) := by
  refine ⟨Group.parseAll_append_blank blank ne, ?_, ?_⟩
  · rintro find one two exclude hops ⟨g₁, h₁⟩ ⟨g₂, h₂⟩ ⟨ge, he⟩
    refine ⟨hits find ⟨g₁, ge, hops⟩, hits find ⟨g₂, ge, hops⟩, found_of_ok h₁ he find hops,
      found_of_ok h₂ he find hops, ?_, fun side => prefix_union_hits find side ..⟩
    have reads := Group.parseAll_append_of_ok blank ne h₁ h₂
    rw [← hits_append_included]
    exact found_of_ok reads he find hops
  · rintro find select one two hops ⟨gs, hs⟩ ⟨g₁, h₁⟩ ⟨g₂, h₂⟩
    refine ⟨hits find ⟨gs, g₁, hops⟩, hitsOf find g₂, found_of_ok hs h₁ find hops,
      applyTo_of_ok h₂ find, ?_, ?_⟩
    · have reads := Group.parseAll_append_of_ok blank ne h₁ h₂
      rw [← hits_append_excluded]
      exact found_of_ok hs reads find hops
    · intro side
      rw [Hits.on_difference]
      exact Ordered.difference_sublist _ _

/-- Two texts on the two sides of a wide blank, with repeats in the answers. -/
theorem found_append_wide_blank :
    let gap := " \u3000\n"
    let find : Selector → Hits Nat := fun s =>
      if s.parents then ⟨[3, 1, 3], [1, 2]⟩ else ⟨[2, 1], [1]⟩
    (∀ c ∈ gap.toList, Text.isBlank c = true) ∧ gap ≠ "" ∧
    (∃ first second, found find ⟨"+a,+b", "@c", 1⟩ = .ok first ∧
      found find ⟨"b +a", "@c", 1⟩ = .ok second ∧
      found find ⟨"+a,+b" ++ gap ++ "b +a", "@c", 1⟩ = .ok (Hits.union [first, second]) ∧
      ∀ side, first.on side <+: (Hits.union [first, second]).on side) ∧
    ∃ before more, found find ⟨"+a b", "@c", 1⟩ = .ok before ∧
      applyTo find "+tag:d" = .ok more ∧
      found find ⟨"+a b", "@c" ++ gap ++ "+tag:d", 1⟩ = .ok (before.difference more) ∧
      ∀ side, ((before.difference more).on side).Sublist (before.on side) := by
  intro gap find
  have blank : ∀ c ∈ gap.toList, Text.isBlank c = true := List.all_eq_true.mp (by decide)
  have ne : gap ≠ "" := by decide
  obtain ⟨-, included, excluded⟩ := found_append (N := Nat) blank ne
  exact ⟨blank, ne, included find "+a,+b" "b +a" "@c" 1 (by decide) (by decide) (by decide),
    excluded find "+a b" "@c" "+tag:d" 1 (by decide) (by decide) (by decide)⟩

end Selection

end NodeSelection
