import NodeSelection.Proofs.Keyed
import NodeSelection.Toml.Reader

/-!
No table of a document gives a key twice.

Tables grow by keys that they do not have yet: a pair is added by `assign`, a header by
`openAt`, and both go down to the table that a path names. Each step keeps the keys of every
table apart, so the tree of a whole document has them apart too.

* `Entries.apart_assign`, `Entries.apart_openAt`, `Entries.apart_within`: one step.
* `distinct_of_nested`: the value of a pair.
* `apart_of_read?`: a document.
-/

namespace NodeSelection.Toml

/-- No table in the value gives a key twice. -/
inductive Distinct : Toml → Prop
  | str (s : String) : Distinct (.str s)
  | int (n : Int64) : Distinct (.int n)
  | bool (b : Bool) : Distinct (.bool b)
  | float (literal : String) : Distinct (.float literal)
  | moment (literal : String) : Distinct (.moment literal)
  | arr {items : List Toml} (each : ∀ value ∈ items, Distinct value) : Distinct (.arr items)
  | table {form : TableForm} {entries : Entries} (keys : (entries.map Prod.fst).Nodup)
      (each : ∀ e ∈ entries, Distinct e.2) : Distinct (.table form entries)
  | tables {elements : List Entries} (keys : ∀ entries ∈ elements, (entries.map Prod.fst).Nodup)
      (each : ∀ entries ∈ elements, ∀ e ∈ entries, Distinct e.2) : Distinct (.tables elements)

namespace Entries

/-- No table of the entries gives a key twice, the one that they make up included. -/
structure Apart (entries : Entries) : Prop where
  keys : (entries.map Prod.fst).Nodup
  each : ∀ e ∈ entries, Distinct e.2

variable {entries entries' below : Entries} {key : String} {value : Toml} {form : TableForm}

theorem apart_nil : Apart [] := ⟨List.nodup_nil, nofun⟩

theorem Apart.of_table (distinct : Distinct (.table form entries)) : entries.Apart := by
  cases distinct with
  | table keys each => exact ⟨keys, each⟩

theorem Apart.table (apart : entries.Apart) (form : TableForm) : Distinct (.table form entries) :=
  .table apart.keys apart.each

theorem Apart.distinct_of_lookup (apart : entries.Apart) (found : entries.lookup key = some value) :
    value.Distinct :=
  apart.each _ ((Keyed.lookup_eq_some_iff_mem apart.keys).mp found)

/-- A new key may be added. -/
theorem Apart.concat (apart : entries.Apart) (fresh : entries.lookup key = none)
    (distinct : value.Distinct) : Apart (entries ++ [(key, value)]) where
  keys := by
    rw [List.map_append, List.nodup_append]
    refine ⟨apart.keys, List.nodup_singleton _, ?_⟩
    rintro _ mem _ (_ | ⟨_, ⟨⟩⟩) rfl
    exact Keyed.lookup_eq_none_iff_notMem.mp fresh mem
  each := by
    simp only [List.forall_mem_append, List.forall_mem_singleton]
    exact ⟨apart.each, distinct⟩

/-- A value may be replaced. -/
theorem Apart.put (apart : entries.Apart) (key : String) (distinct : value.Distinct) :
    Apart (entries.put key value) where
  keys := by
    rw [keys_put]
    exact apart.keys
  each := by
    rw [Entries.put, List.forall_mem_map]
    intro e mem
    split
    · exact distinct
    · exact apart.each e mem

theorem distinct_tables_iff {elements : List Entries} :
    Distinct (.tables elements) ↔ ∀ entries ∈ elements, Apart entries := by
  constructor
  · intro distinct
    cases distinct with
    | tables keys each => exact fun entries mem => ⟨keys entries mem, each entries mem⟩
  · exact fun apart => .tables (fun entries mem => (apart entries mem).keys)
      fun entries mem => (apart entries mem).each

/-- A table may be put at the end of a repeated header's tables. -/
theorem distinct_tables_concat {elements : List Entries}
    (each : ∀ entries ∈ elements, Apart entries) (apart : below.Apart) :
    Distinct (.tables (elements ++ [below])) := by
  simp only [distinct_tables_iff, List.forall_mem_append, List.forall_mem_singleton]
  exact ⟨each, apart⟩

/-- The last table of a repeated header may be replaced. -/
theorem distinct_tables_last {elements : List Entries} (distinct : Distinct (.tables elements))
    (apart : below.Apart) : Distinct (.tables (elements.dropLast ++ [below])) :=
  distinct_tables_concat
    (fun entries mem => distinct_tables_iff.mp distinct entries (List.dropLast_subset _ mem)) apart

theorem Apart.of_last {elements : List Entries} (distinct : Distinct (.tables elements)) :
    Apart (elements.getLast?.getD []) := by
  cases last : elements.getLast? with
  | none => exact apart_nil
  | some entries => exact distinct_tables_iff.mp distinct entries (List.mem_of_getLast? last)

/-! ### Steps -/

/-- Giving a value to a dotted key keeps the keys apart. -/
theorem apart_assign {path : List String} (distinct : value.Distinct) (apart : entries.Apart)
    (assigned : assign value path entries = some entries') : entries'.Apart := by
  fun_induction assign value path entries generalizing entries' with
  | case1 => cases assigned
  | case2 key entries fresh =>
    cases assigned
    exact apart.concat fresh distinct
  | case3 => cases assigned
  | case4 key path entries _ fresh ih =>
    obtain ⟨below, below_assigned, rfl⟩ := Option.map_eq_some_iff.mp assigned
    exact apart.concat fresh ((ih apart_nil below_assigned).table _)
  | case5 key path entries _ below found ih =>
    obtain ⟨below', below_assigned, rfl⟩ := Option.map_eq_some_iff.mp assigned
    have below_apart := Apart.of_table (apart.distinct_of_lookup found)
    exact apart.put key ((ih below_apart below_assigned).table _)
  | case6 => cases assigned

/-- What a header opens has its keys apart, if what it found has. -/
def KeepsDistinct (opened : Option Toml → Option Toml) : Prop :=
  ∀ {found value}, (∀ old ∈ found, old.Distinct) → opened found = some value → value.Distinct

/-- A header that opens a table keeps the keys apart. -/
theorem apart_openAt {opened : Option Toml → Option Toml} {path : List String}
    (opens : KeepsDistinct opened) (apart : entries.Apart)
    (done : openAt opened path entries = some entries') : entries'.Apart := by
  fun_induction openAt opened path entries generalizing entries' with
  | case1 => cases done
  | case2 key entries fresh =>
    obtain ⟨value, new, rfl⟩ := Option.map_eq_some_iff.mp done
    exact apart.concat fresh (opens (by simp) new)
  | case3 key entries found at_key =>
    obtain ⟨value, changed, rfl⟩ := Option.map_eq_some_iff.mp done
    have distinct := apart.distinct_of_lookup at_key
    exact apart.put key (opens (by simpa using distinct) changed)
  | case4 key path entries _ fresh ih =>
    obtain ⟨below, below_done, rfl⟩ := Option.map_eq_some_iff.mp done
    exact apart.concat fresh ((ih apart_nil below_done).table _)
  | case5 => cases done
  | case6 key path entries _ form below _ at_key ih =>
    obtain ⟨below', below_done, rfl⟩ := Option.map_eq_some_iff.mp done
    have below_apart := Apart.of_table (apart.distinct_of_lookup at_key)
    exact apart.put key ((ih below_apart below_done).table _)
  | case7 key path entries _ elements at_key ih =>
    obtain ⟨last, last_done, rfl⟩ := Option.map_eq_some_iff.mp done
    have distinct := apart.distinct_of_lookup at_key
    exact apart.put key (distinct_tables_last distinct (ih (.of_last distinct) last_done))
  | case8 => cases done

/-- A change inside the table that a header has opened keeps the keys apart. -/
theorem apart_within {change : Entries → Option Entries} {path : List String}
    (changes : ∀ entries entries', Apart entries → change entries = some entries' → Apart entries')
    (apart : entries.Apart) (done : within change path entries = some entries') :
    entries'.Apart := by
  fun_induction within change path entries generalizing entries' with
  | case1 entries => exact changes _ _ apart done
  | case2 key path entries form below at_key ih =>
    obtain ⟨below', below_done, rfl⟩ := Option.map_eq_some_iff.mp done
    have below_apart := Apart.of_table (apart.distinct_of_lookup at_key)
    exact apart.put key ((ih below_apart below_done).table _)
  | case3 key path entries elements at_key ih =>
    obtain ⟨last, last_done, rfl⟩ := Option.map_eq_some_iff.mp done
    have distinct := apart.distinct_of_lookup at_key
    exact apart.put key (distinct_tables_last distinct (ih (.of_last distinct) last_done))
  | case4 => cases done

theorem keepsDistinct_openHeader : KeepsDistinct openHeader := by
  intro found value distinct opened
  unfold openHeader at opened
  split at opened <;> cases opened
  · exact apart_nil.table _
  · exact (Apart.of_table (distinct _ rfl)).table _

theorem keepsDistinct_openElement : KeepsDistinct openElement := by
  intro found value distinct opened
  unfold openElement at opened
  split at opened <;> cases opened
  · have none : ∀ entries ∈ ([] : List Entries), Apart entries := nofun
    exact distinct_tables_concat none apart_nil
  · exact distinct_tables_concat (distinct_tables_iff.mp (distinct _ rfl)) apart_nil

end Entries

/-! ### Documents -/

theorem distinct_of_scalarOf? {text : List Char} {found : Toml}
    (read : scalarOf? text = some found) : found.Distinct := by
  unfold scalarOf? at read
  split at read
  · cases read
    exact .bool _
  split at read
  · cases read
    exact .bool _
  split at read
  · cases read
    exact .int _
  split at read
  · cases read
    exact .float _
  split at read <;> cases read
  exact .moment _

theorem distinct_of_scalar {text rest : List Char} {found : Toml}
    (read : scalar text = some (found, rest)) : found.Distinct := by
  have of_word : ∀ {word after : List Char},
      (scalarOf? word).map (·, after) = some (found, rest) → found.Distinct := by
    intro word after mapped
    obtain ⟨_, scalar_read, ⟨⟩⟩ := Option.map_eq_some_iff.mp mapped
    exact distinct_of_scalarOf? scalar_read
  unfold scalar at read
  split at read
  split at read
  · split at read
    split at read
    · cases read
      exact .moment _
    · exact of_word read
  · exact of_word read

/-- Values have their keys apart, as far as the bound goes. -/
theorem distinct_of_nested (bound : Nat) :
    (∀ room text found rest, value bound room text = some (found, rest) → found.Distinct) ∧
    (∀ room text found rest, items bound room text = some (found, rest) →
      ∀ v ∈ found, v.Distinct) ∧
    ∀ room text entries found rest, Entries.Apart entries →
      pairs bound room text entries = some (found, rest) → Entries.Apart found := by
  induction bound with
  | zero => exact ⟨nofun, nofun, nofun⟩
  | succ bound ih =>
    obtain ⟨values, lists, tables⟩ := ih
    refine ⟨fun room text found rest read => ?_, fun room text found rest read => ?_,
      fun room text entries found rest apart read => ?_⟩
    · unfold value at read
      split at read
      · obtain ⟨_, _, ⟨⟩⟩ := Option.map_eq_some_iff.mp read
        exact .str _
      · obtain ⟨_, _, ⟨⟩⟩ := Option.map_eq_some_iff.mp read
        exact .str _
      · split at read
        · cases read
        · obtain ⟨_, listed, ⟨⟩⟩ := Option.map_eq_some_iff.mp read
          exact .arr (lists _ _ _ _ listed)
      · split at read
        · cases read
        · split at read
          · cases read
            exact Entries.apart_nil.table _
          · obtain ⟨_, paired, ⟨⟩⟩ := Option.map_eq_some_iff.mp read
            exact (tables _ _ _ _ _ Entries.apart_nil paired).table _
      · exact distinct_of_scalar read
    · unfold items at read
      split at read
      · cases read
        nofun
      · simp only [Option.bind_eq_bind, Option.bind_eq_some_iff] at read
        obtain ⟨⟨first, after⟩, first_read, read⟩ := read
        have first_distinct := values _ _ _ _ first_read
        split at read
        · obtain ⟨⟨others, after⟩, others_read, ⟨⟩⟩ := Option.bind_eq_some_iff.mp read
          rw [List.forall_mem_cons]
          exact ⟨first_distinct, lists _ _ _ _ others_read⟩
        · cases read
          rwa [List.forall_mem_singleton]
        · cases read
    · unfold pairs at read
      simp only [Option.bind_eq_bind, Option.bind_eq_some_iff] at read
      obtain ⟨⟨path, after⟩, _, ⟨v, after'⟩, value_read, entries', assigned, read⟩ := read
      have apart' := Entries.apart_assign (values _ _ _ _ value_read) apart assigned
      split at read
      · exact tables _ _ _ _ _ apart' read
      · cases read
        exact apart'
      · cases read

/-- A statement whose value has its keys apart. -/
def Statement.Distinct : Statement → Prop
  | .pair _ value => value.Distinct
  | _ => True

theorem distinct_of_statement {text rest : List Char} {s : Statement}
    (read : statement text = some (s, rest)) : s.Distinct := by
  unfold statement at read
  split at read <;> simp only [Option.bind_eq_bind, Option.bind_eq_some_iff] at read
  · obtain ⟨_, _, _, _, ⟨⟩⟩ := read
    trivial
  · obtain ⟨_, _, _, _, ⟨⟩⟩ := read
    trivial
  · obtain ⟨_, _, ⟨v, after⟩, value_read, ⟨⟩⟩ := read
    exact (distinct_of_nested _).1 _ _ _ _ value_read

theorem distinct_of_statements {bound : Nat} {text : List Char} {list : List Statement}
    (read : statements bound text = some list) : ∀ s ∈ list, s.Distinct := by
  induction bound generalizing text list with
  | zero => cases read
  | succ bound ih =>
    unfold statements at read
    split at read
    · cases read
      nofun
    · split at read
      · exact ih read
      · simp only [Option.bind_eq_bind, Option.bind_eq_some_iff] at read
        obtain ⟨⟨first, after⟩, first_read, after', _, others, others_read, ⟨⟩⟩ := read
        rw [List.forall_mem_cons]
        exact ⟨distinct_of_statement first_read, ih others_read⟩

/-- One more statement keeps the keys apart. -/
theorem Draft.apart_add {draft draft' : Draft} {s : Statement} (distinct : s.Distinct)
    (apart : draft.root.Apart) (added : draft.add s = some draft') : draft'.root.Apart := by
  cases s with
  | header path =>
    obtain ⟨root, opened, rfl⟩ := Option.map_eq_some_iff.mp added
    exact Entries.apart_openAt Entries.keepsDistinct_openHeader apart opened
  | element path =>
    obtain ⟨root, opened, rfl⟩ := Option.map_eq_some_iff.mp added
    exact Entries.apart_openAt Entries.keepsDistinct_openElement apart opened
  | pair path value =>
    obtain ⟨root, changed, rfl⟩ := Option.map_eq_some_iff.mp added
    exact Entries.apart_within (fun _ _ => Entries.apart_assign distinct) apart changed

/-- The tree of a list of statements has its keys apart. -/
theorem apart_of_ofStatements? {list : List Statement} {root : Entries}
    (distinct : ∀ s ∈ list, s.Distinct) (built : ofStatements? list = some root) : root.Apart := by
  obtain ⟨draft, folded, rfl⟩ := Option.map_eq_some_iff.mp built
  have start : (⟨[], []⟩ : Draft).root.Apart := Entries.apart_nil
  clear built
  generalize (⟨[], []⟩ : Draft) = begun at start folded
  induction list generalizing begun with
  | nil =>
    cases folded
    exact start
  | cons s rest ih =>
    rw [List.foldlM_cons] at folded
    obtain ⟨next, added, folded⟩ := Option.bind_eq_some_iff.mp folded
    obtain ⟨head, tail⟩ := List.forall_mem_cons.mp distinct
    exact ih tail _ (Draft.apart_add head start added) folded

/-- The tree of a document has its keys apart. -/
theorem apart_of_read? {text : String} {root : Entries} (read : read? text = some root) :
    root.Apart := by
  obtain ⟨list, listed, built⟩ := Option.bind_eq_some_iff.mp read
  exact apart_of_ofStatements? (distinct_of_statements listed) built

end NodeSelection.Toml
