import Mathlib.Data.List.Forall2
import NodeSelection.Proofs.DistinctKeys

/-!
Documents that hold the same tree.

A table may stand under a header, in dotted keys or between braces, and its keys in any
order; the tables of a repeated header are the items of an array. Two values are alike if
they differ in nothing else.

* `Alike`: values that differ in the order of keys and the forms of tables alone.
* `lookup_of_alike`: alike tables have alike values under each key.
* `ofStatements?_of_gives`: the three ways to give a table make one tree up to its form.
-/

namespace NodeSelection.Toml

/-! ### Values that are alike -/

/-- The items of an array, or the tables of a repeated header. -/
def members? : Toml → Option (List Toml)
  | .arr items => some items
  | .tables elements => some (elements.map (.table .header))
  | _ => none

/-- The values differ at most in the order of keys and in the forms of tables. -/
inductive Alike : Toml → Toml → Prop
  | str (s : String) : Alike (.str s) (.str s)
  | int (n : Int64) : Alike (.int n) (.int n)
  | bool (b : Bool) : Alike (.bool b) (.bool b)
  | float (literal : String) : Alike (.float literal) (.float literal)
  | moment (literal : String) : Alike (.moment literal) (.moment literal)
  | items {one two : Toml} {xs ys : List Toml} (left : one.members? = some xs)
      (right : two.members? = some ys) (each : List.Forall₂ Alike xs ys) : Alike one two
  | table {form form' : TableForm} {one sorted two : Entries} (order : one.Perm sorted)
      (keys : sorted.map Prod.fst = two.map Prod.fst)
      (values : List.Forall₂ Alike (sorted.map Prod.snd) (two.map Prod.snd)) :
      Alike (.table form one) (.table form' two)

/-- A value is like itself. -/
theorem Alike.refl : ∀ value : Toml, Alike value value
  | .str s => .str s
  | .int n => .int n
  | .bool b => .bool b
  | .float literal => .float literal
  | .moment literal => .moment literal
  | .arr values => .items rfl rfl (List.forall₂_same.mpr fun v inside => Alike.refl v)
  | .table form entries =>
    .table (.refl entries) rfl <| List.forall₂_same.mpr fun v mem => by
      obtain ⟨e, inside, rfl⟩ := List.mem_map.mp mem
      exact Alike.refl e.2
  | .tables elements =>
    .items rfl rfl <| List.forall₂_same.mpr fun v mem => by
      obtain ⟨entries, inside, rfl⟩ := List.mem_map.mp mem
      refine .table (.refl entries) rfl <| List.forall₂_same.mpr fun w mem' => ?_
      obtain ⟨e, inside', rfl⟩ := List.mem_map.mp mem'
      exact Alike.refl e.2
termination_by value => sizeOf value
decreasing_by
  · have := List.sizeOf_lt_of_mem inside
    simp only [Toml.arr.sizeOf_spec]
    omega
  · obtain ⟨key, value⟩ := e
    have := List.sizeOf_lt_of_mem ‹(key, value) ∈ entries›
    simp only [Prod.mk.sizeOf_spec, Toml.table.sizeOf_spec] at this ⊢
    omega
  · obtain ⟨key, value⟩ := e
    have := List.sizeOf_lt_of_mem ‹entries ∈ elements›
    have := List.sizeOf_lt_of_mem ‹(key, value) ∈ entries›
    simp only [Prod.mk.sizeOf_spec, Toml.tables.sizeOf_spec] at this ⊢
    omega

/-- Tables with the same pairs are alike. -/
theorem alike_of_perm {one two : Entries} (order : one.Perm two) (form form' : TableForm) :
    Alike (.table form one) (.table form' two) :=
  .table order rfl (List.forall₂_same.mpr fun v _ => .refl v)

/-- The values that two tables have under a key are alike, or neither has one. -/
def AlikeAt (key : String) (one two : Entries) : Prop :=
  (one.lookup key = none ∧ two.lookup key = none) ∨
    ∃ v w, one.lookup key = some v ∧ two.lookup key = some w ∧ Alike v w

theorem alikeAt_of_same_keys {one two : Entries} (keys : one.map Prod.fst = two.map Prod.fst)
    (values : List.Forall₂ Alike (one.map Prod.snd) (two.map Prod.snd)) (key : String) :
    AlikeAt key one two := by
  induction one generalizing two with
  | nil =>
    obtain rfl : two = [] := List.map_eq_nil_iff.mp keys.symm
    exact .inl ⟨rfl, rfl⟩
  | cons e one ih =>
    cases two with
    | nil => cases keys
    | cons f two =>
      obtain ⟨name, v⟩ := e
      obtain ⟨name', w⟩ := f
      obtain ⟨rfl, keys'⟩ := List.cons.inj keys
      cases values with
      | cons alike values =>
        by_cases same : key = name
        · subst same
          exact .inr ⟨v, w, Keyed.lookup_cons_self _ _ _, Keyed.lookup_cons_self _ _ _, alike⟩
        · rw [AlikeAt, Keyed.lookup_cons_of_ne same, Keyed.lookup_cons_of_ne same]
          exact ih keys' values

/-- Alike tables have alike values under each key. -/
theorem lookup_of_alike {one sorted two : Entries} (distinct : (one.map Prod.fst).Nodup)
    (order : one.Perm sorted) (keys : sorted.map Prod.fst = two.map Prod.fst)
    (values : List.Forall₂ Alike (sorted.map Prod.snd) (two.map Prod.snd)) (key : String) :
    AlikeAt key one two := by
  rw [AlikeAt, Keyed.lookup_eq_of_perm distinct order]
  exact alikeAt_of_same_keys keys values key

/-- Alike tables have keys of the same kinds. -/
theorem all_keys_of_alike {one sorted two : Entries} (order : one.Perm sorted)
    (keys : sorted.map Prod.fst = two.map Prod.fst) (test : String → Bool) :
    (two.all fun e => test e.1) = one.all fun e => test e.1 := by
  have names : (two.map Prod.fst).Perm (one.map Prod.fst) := keys ▸ (order.map Prod.fst).symm
  have all := names.all_eq (f := test)
  rwa [List.all_map, List.all_map] at all

/-! ### Ways to give a table -/

/-- The statements give the table with this name its entries. -/
inductive Gives (name : String) (entries : Entries) : List Statement → Prop
  | header : Gives name entries (.header [name] :: entries.map fun e => .pair [e.1] e.2)
  | dotted : Gives name entries (entries.map fun e => .pair [name, e.1] e.2)
  | inline : Gives name entries [.pair [name] (.table .inline entries)]

/-- What the lines of a text say. -/
def statements? (text : String) : Option (List Statement) :=
  let chars := (Text.takeMark '\ufeff' text.toList).2
  statements (chars.length + 1) chars

theorem read?_eq (text : String) : read? text = (statements? text).bind ofStatements? := rfl

section Pairs

variable {name : String} {form : TableForm} {current : List String}
  {pair : String × Toml → Statement} {entries : Entries} {list : List Statement}

/-- Pairs that are added one by one are added in their order. -/
theorem foldlM_add_pairs
    (adds : ∀ (before : Entries) (e : String × Toml), before.lookup e.1 = none →
      Draft.add ⟨[(name, .table form before)], current⟩ (pair e) =
        some ⟨[(name, .table form (before ++ [e]))], current⟩)
    (before entries : Entries) (distinct : ((before ++ entries).map Prod.fst).Nodup) :
    (entries.map pair).foldlM Draft.add ⟨[(name, .table form before)], current⟩ =
      some ⟨[(name, .table form (before ++ entries))], current⟩ := by
  induction entries generalizing before with
  | nil =>
    rw [List.append_nil]
    rfl
  | cons e rest ih =>
    have fresh : before.lookup e.1 = none := by
      rw [List.map_append, List.nodup_append] at distinct
      refine Keyed.lookup_eq_none_iff_notMem.mpr fun mem => ?_
      exact distinct.2.2 _ mem _ List.mem_cons_self rfl
    rw [List.append_cons] at distinct
    rw [List.map_cons, List.foldlM_cons, adds before e fresh, Option.bind_eq_bind,
      Option.bind_some, ih _ distinct, ← List.append_cons]

/-- A pair under a header goes to the end of its table. -/
theorem add_under_header (before : Entries) (e : String × Toml) (fresh : before.lookup e.1 = none) :
    Draft.add ⟨[(name, .table .header before)], [name]⟩ (.pair [e.1] e.2) =
      some ⟨[(name, .table .header (before ++ [e]))], [name]⟩ := by
  simp [Draft.add, Entries.within, Entries.assign, Entries.put, fresh]

/-- A pair with a dotted key goes to the end of the table that such keys have made. -/
theorem add_dotted (before : Entries) (e : String × Toml) (fresh : before.lookup e.1 = none) :
    Draft.add ⟨[(name, .table .dotted before)], []⟩ (.pair [name, e.1] e.2) =
      some ⟨[(name, .table .dotted (before ++ [e]))], []⟩ := by
  simp [Draft.add, Entries.within, Entries.assign, Entries.put, fresh]

/-- Each way to give a table makes the tree that holds it alone, in a form of its own.
Dotted keys make no table if there are none. -/
theorem ofStatements?_of_gives (distinct : (entries.map Prod.fst).Nodup)
    (gives : Gives name entries list) :
    (∃ form, ofStatements? list = some [(name, .table form entries)]) ∨
      entries = [] ∧ ofStatements? list = some [] := by
  cases gives with
  | header =>
    refine .inl ⟨.header, ?_⟩
    have run := foldlM_add_pairs (@add_under_header name) [] entries distinct
    rw [ofStatements?, List.foldlM_cons]
    have opened : Draft.add ⟨[], []⟩ (.header [name]) =
        some ⟨[(name, .table .header [])], [name]⟩ := rfl
    rw [opened, Option.bind_eq_bind, Option.bind_some, run]
    rfl
  | dotted =>
    cases entries with
    | nil => exact .inr ⟨rfl, rfl⟩
    | cons e rest =>
      refine .inl ⟨.dotted, ?_⟩
      have run := foldlM_add_pairs (@add_dotted name) [e] rest distinct
      have first : Draft.add ⟨[], []⟩ (.pair [name, e.1] e.2) =
          some ⟨[(name, .table .dotted [e])], []⟩ := rfl
      rw [ofStatements?, List.map_cons, List.foldlM_cons, first, Option.bind_eq_bind,
        Option.bind_some, run]
      rfl
  | inline => exact .inl ⟨.inline, rfl⟩

end Pairs

end NodeSelection.Toml
