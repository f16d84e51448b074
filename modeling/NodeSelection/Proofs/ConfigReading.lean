import Mathlib.Data.List.Forall2
import NodeSelection.Config
import NodeSelection.Proofs.TreeForms

/-!
What a config file sets, and what makes it fail.

`InRoot` says which settings the tree of a document holds, and `Faulty` that something in it
is wrong. No file is read in part: it has the settings of its whole tree, or it fails because
of one entry, whatever else it holds. How the tree was written does not show.

* `parse?_eq_some_iff`, `parse?_eq_none_iff`: which files are read, and which fail.
* `ofEntries?_of_alike`: alike trees have the same settings.
* `parse?_of_gives`: the ways to give the table `selection` set the same.
* `read_all_or_nothing`: these together.
-/

namespace NodeSelection

namespace Settings

open Toml (Entries)

/-! ### What is set -/

/-- The keys of the settings. -/
def keys : List String := ["select", "exclude", "hops"]

/-- What the entries set under a key, with a value of the right type: nothing if there is no
such key. -/
def IsSet {α : Type} (entries : Entries) (key : String) (write : α → Toml) : Option α → Prop
  | none => key ∉ entries.map Prod.fst
  | some a => (key, write a) ∈ entries

/-- The value of `selection` has these settings. -/
inductive InSection : Toml → Settings → Prop
  /-- A table sets what it has a key for, and has no other keys. -/
  | table {form : TableForm} {entries : Entries} {s : Settings}
      (known : ∀ e ∈ entries, e.1 ∈ keys) (select : IsSet entries "select" .str s.select)
      (exclude : IsSet entries "exclude" .str s.exclude)
      (hops : IsSet entries "hops" .int s.hops) : InSection (.table form entries) s
  /-- An array sets everything, with its first three items. -/
  | array (select exclude : String) (hops : Int64) (others : List Toml) :
      InSection (.arr (.str select :: .str exclude :: .int hops :: others))
        ⟨some select, some exclude, some hops⟩

/-- The document with this tree has these settings. -/
inductive InRoot (root : Entries) : Settings → Prop
  | empty (nothing : root = []) : InRoot root .empty
  | selection {value : Toml} {s : Settings} (only : ∀ e ∈ root, e.1 = "selection")
      (there : ("selection", value) ∈ root) (inside : InSection value s) : InRoot root s

theorem textOf?_eq_some_iff (value : Toml) (s : String) :
    textOf? value = some s ↔ value = .str s := by
  cases value <;> simp [textOf?]

theorem hopsOf?_eq_some_iff (value : Toml) (n : Int64) :
    hopsOf? value = some n ↔ value = .int n := by
  cases value <;> simp [hopsOf?]

section Tables

variable {entries root : Entries} {value : Toml} {s : Settings}

theorem setting?_eq_some_iff {α : Type} {read : Toml → Option α} {write : α → Toml}
    (reads : ∀ value a, read value = some a ↔ value = write a)
    (distinct : (entries.map Prod.fst).Nodup) (key : String) (a : Option α) :
    setting? read key entries = some a ↔ IsSet entries key write a := by
  unfold setting?
  cases found : entries.lookup key with
  | none =>
    have absent := Keyed.lookup_eq_none_iff_notMem.mp found
    cases a with
    | none => simpa [IsSet] using absent
    | some a =>
      have never : (key, write a) ∉ entries := fun mem => absent (List.mem_map_of_mem mem)
      simpa [IsSet] using never
  | some value =>
    have there := (Keyed.lookup_eq_some_iff_mem distinct).mp found
    cases a with
    | none => simpa [IsSet] using ⟨value, there⟩
    | some a =>
      have only : (key, write a) ∈ entries ↔ value = write a := by
        rw [← Keyed.lookup_eq_some_iff_mem distinct, found, Option.some.injEq]
      simp [IsSet, only, reads]

theorem ofSection?_eq_some_iff (distinct : value.Distinct) :
    ofSection? value = some s ↔ InSection value s := by
  cases distinct with
  | @table form entries distinct each =>
    have all : (entries.all fun e => e.1 ∈ ["select", "exclude", "hops"]) = true ↔
        ∀ e ∈ entries, e.1 ∈ keys := by
      simp [keys]
    rw [ofSection?]
    constructor
    · intro read
      split at read
      · next known =>
        simp only [Option.bind_eq_bind, Option.bind_eq_some_iff] at read
        obtain ⟨select, h₁, exclude, h₂, hops, h₃, ⟨⟩⟩ := read
        exact .table (all.mp known) ((setting?_eq_some_iff textOf?_eq_some_iff distinct _ _).mp h₁)
          ((setting?_eq_some_iff textOf?_eq_some_iff distinct _ _).mp h₂)
          ((setting?_eq_some_iff hopsOf?_eq_some_iff distinct _ _).mp h₃)
      · cases read
    · intro inside
      cases inside with
      | table known select exclude hops =>
        rw [if_pos (all.mpr known),
          (setting?_eq_some_iff textOf?_eq_some_iff distinct _ _).mpr select,
          (setting?_eq_some_iff textOf?_eq_some_iff distinct _ _).mpr exclude,
          (setting?_eq_some_iff hopsOf?_eq_some_iff distinct _ _).mpr hops]
        rfl
  | @arr items each =>
    constructor
    · intro read
      unfold ofSection? at read
      split at read
      · next same => cases same
      · next same =>
        cases same
        cases read
        exact .array _ _ _ _
      · cases read
    · intro inside
      cases inside
      rfl
  | _ => exact ⟨nofun, nofun⟩

/-- A document has the settings that its tree has, and no others. -/
theorem ofEntries?_eq_some_iff (apart : root.Apart) :
    ofEntries? root = some s ↔ InRoot root s := by
  have all : (root.all fun e => e.1 == "selection") = true ↔ ∀ e ∈ root, e.1 = "selection" := by
    simp
  rw [ofEntries?]
  constructor
  · intro read
    split at read
    · next only =>
      have only := all.mp only
      cases found : root.lookup "selection" with
      | none =>
        rw [found] at read
        cases read
        refine .empty (List.eq_nil_iff_forall_not_mem.mpr fun e mem => ?_)
        exact Keyed.lookup_eq_none_iff_notMem.mp found
          (List.mem_map.mpr ⟨e, mem, only e mem⟩)
      | some value =>
        rw [found] at read
        exact .selection only ((Keyed.lookup_eq_some_iff_mem apart.keys).mp found)
          ((ofSection?_eq_some_iff (apart.distinct_of_lookup found)).mp read)
    · cases read
  · intro inside
    cases inside with
    | empty nothing =>
      subst nothing
      rfl
    | selection only there inside =>
      have found := (Keyed.lookup_eq_some_iff_mem apart.keys).mpr there
      rw [if_pos (all.mpr only), found]
      exact (ofSection?_eq_some_iff (apart.distinct_of_lookup found)).mpr inside

end Tables

/-- A config file has the settings of its tree, if it has a tree. -/
theorem parse?_eq_some_iff {text : String} {s : Settings} :
    parse? text = some s ↔ ∃ root, Toml.read? text = some root ∧ InRoot root s := by
  rw [parse?, Option.bind_eq_some_iff]
  exact exists_congr fun root => and_congr_right fun read =>
    ofEntries?_eq_some_iff (Toml.apart_of_read? read)

/-! ### What makes a file fail -/

/-- The key is that of a setting, and the value has its type. -/
def Fits (key : String) (value : Toml) : Prop :=
  (key = "select" ∨ key = "exclude") ∧ (∃ s, value = .str s) ∨
    key = "hops" ∧ ∃ n, value = .int n

/-- The value of `selection` is at fault: an entry of the table has an unknown key or a value
of another type, or the array does not begin with the settings, or it is neither of them. -/
def FaultIn : Toml → Prop
  | .table _ entries => ∃ e ∈ entries, ¬ Fits e.1 e.2
  | .arr items => ∀ select exclude hops others,
      items ≠ .str select :: .str exclude :: .int hops :: others
  | _ => True

/-- The document is at fault: it has an unknown key, or its settings are at fault. -/
def Faulty (root : Entries) : Prop := ∃ e ∈ root, e.1 ≠ "selection" ∨ FaultIn e.2

section Faults

variable {entries root : Entries} {value : Toml} {s : Settings} {α : Type} {key : String}
  {write : α → Toml}

theorem IsSet.fits {a : Option α} (set : IsSet entries key write a)
    (distinct : (entries.map Prod.fst).Nodup) (there : (key, value) ∈ entries) :
    ∃ b, value = write b := by
  cases a with
  | none => exact absurd (List.mem_map.mpr ⟨_, there, rfl⟩) set
  | some b => exact ⟨b, Keyed.eq_of_mem distinct set there⟩

theorem exists_isSet (fits : ∀ value, (key, value) ∈ entries → ∃ b, value = write b) :
    ∃ a, IsSet entries key write a := by
  by_cases there : key ∈ entries.map Prod.fst
  · obtain ⟨⟨_, value⟩, mem, rfl⟩ := List.mem_map.mp there
    obtain ⟨b, rfl⟩ := fits value mem
    exact ⟨some b, mem⟩
  · exact ⟨none, there⟩

/-- A value of `selection` has settings when nothing in it is at fault. -/
theorem exists_inSection_iff (distinct : value.Distinct) :
    (∃ s, InSection value s) ↔ ¬ FaultIn value := by
  constructor
  · rintro ⟨s, inside⟩ fault
    cases inside with
    | @table form entries s known select exclude hops =>
      -- The entry at fault would be one of those that are set, as no key is given twice.
      obtain ⟨⟨key, value⟩, mem, unfit⟩ := fault
      have distinct := (Entries.Apart.of_table distinct).keys
      obtain rfl | rfl | rfl : key = "select" ∨ key = "exclude" ∨ key = "hops" := by
        simpa [keys] using known _ mem
      · exact unfit (.inl ⟨.inl rfl, select.fits distinct mem⟩)
      · exact unfit (.inl ⟨.inr rfl, exclude.fits distinct mem⟩)
      · exact unfit (.inr ⟨rfl, hops.fits distinct mem⟩)
    | array select exclude hops others => exact fault select exclude hops others rfl
  · intro fine
    cases value with
    | table form entries =>
      have fits : ∀ e ∈ entries, Fits e.1 e.2 := by simpa [FaultIn] using fine
      have known : ∀ e ∈ entries, e.1 ∈ keys := by
        intro e mem
        rcases fits e mem with ⟨same | same, -⟩ | ⟨same, -⟩ <;> simp [keys, same]
      obtain ⟨select, h₁⟩ : ∃ a, IsSet entries "select" .str a :=
        exists_isSet fun value mem => by simpa [Fits] using fits _ mem
      obtain ⟨exclude, h₂⟩ : ∃ a, IsSet entries "exclude" .str a :=
        exists_isSet fun value mem => by simpa [Fits] using fits _ mem
      obtain ⟨hops, h₃⟩ : ∃ a, IsSet entries "hops" .int a :=
        exists_isSet fun value mem => by simpa [Fits] using fits _ mem
      exact ⟨⟨select, exclude, hops⟩, .table known h₁ h₂ h₃⟩
    | arr items =>
      simp only [FaultIn, not_forall, not_not] at fine
      obtain ⟨select, exclude, hops, others, rfl⟩ := fine
      exact ⟨_, .array select exclude hops others⟩
    | _ => exact absurd trivial fine

/-- A tree has settings when nothing in it is at fault. -/
theorem exists_inRoot_iff (apart : root.Apart) : (∃ s, InRoot root s) ↔ ¬ Faulty root := by
  constructor
  · rintro ⟨s, inside⟩ ⟨⟨key, value⟩, mem, fault⟩
    cases inside with
    | empty nothing =>
      subst nothing
      cases mem
    | @selection value' s only there inside =>
      obtain rfl : key = "selection" := only _ mem
      obtain rfl := Keyed.eq_of_mem apart.keys there mem
      exact (exists_inSection_iff (apart.each _ mem)).mp ⟨s, inside⟩
        (fault.resolve_left fun ne => ne rfl)
  · intro fine
    cases root with
    | nil => exact ⟨.empty, .empty rfl⟩
    | cons e rest =>
      have each : ∀ f ∈ e :: rest, f.1 = "selection" ∧ ¬ FaultIn f.2 := by
        intro f mem
        by_contra fault
        exact fine ⟨f, mem, by tauto⟩
      obtain ⟨key, value⟩ := e
      have first : (key, value) ∈ (key, value) :: rest := List.mem_cons_self
      obtain rfl : key = "selection" := (each _ first).1
      obtain ⟨s, inside⟩ := (exists_inSection_iff (apart.each _ first)).mpr (each _ first).2
      exact ⟨s, .selection (fun f mem => (each f mem).1) first inside⟩

end Faults

/-- A file fails if it has no tree, or if one thing in its tree is at fault. -/
theorem parse?_eq_none_iff {text : String} :
    parse? text = none ↔
      Toml.read? text = none ∨ ∃ root, Toml.read? text = some root ∧ Faulty root := by
  cases read : Toml.read? text with
  | none => simp [parse?, read]
  | some root =>
    have some_iff : (∃ s, parse? text = some s) ↔ ¬ Faulty root := by
      rw [← exists_inRoot_iff (Toml.apart_of_read? read)]
      simp [parse?_eq_some_iff, read]
    rw [Option.eq_none_iff_forall_ne_some, ← not_exists, some_iff]
    simp

/-! ### Documents that hold the same tree -/

section Alike

variable {one two value : Toml} {root root' : Entries}

theorem textOf?_of_alike (alike : one.Alike two) : textOf? two = textOf? one := by
  cases alike with
  | @items _ _ _ _ left right => cases one <;> cases left <;> cases two <;> cases right <;> rfl
  | _ => rfl

theorem hopsOf?_of_alike (alike : one.Alike two) : hopsOf? two = hopsOf? one := by
  cases alike with
  | @items _ _ _ _ left right => cases one <;> cases left <;> cases two <;> cases right <;> rfl
  | _ => rfl

theorem setting?_of_alikeAt {α : Type} {read : Toml → Option α}
    (same : ∀ {v w : Toml}, v.Alike w → read w = read v) {key : String} {entries entries' : Entries}
    (alike : Toml.AlikeAt key entries entries') :
    setting? read key entries' = setting? read key entries := by
  rcases alike with ⟨absent, absent'⟩ | ⟨v, w, found, found', alike⟩
  · rw [setting?, setting?, absent, absent']
  · rw [setting?, setting?, found, found']
    simp only [same alike]

/-- The settings that items begin with. -/
def ofItems? : List Toml → Option Settings
  | select :: exclude :: hops :: _ => do
    let select ← textOf? select
    let exclude ← textOf? exclude
    let hops ← hopsOf? hops
    return ⟨some select, some exclude, some hops⟩
  | _ => none

theorem ofSection?_arr (items : List Toml) : ofSection? (.arr items) = ofItems? items := by
  rcases items with _ | ⟨select, _ | ⟨exclude, _ | ⟨hops, others⟩⟩⟩
  · rfl
  · cases select <;> rfl
  · cases select <;> cases exclude <;> rfl
  · cases select with
    | str => cases exclude <;> cases hops <;> rfl
    | _ => rfl

/-- Items count alike in an array and under a repeated header, whose tables are no settings. -/
theorem ofSection?_of_members {items : List Toml} (members : value.members? = some items) :
    ofSection? value = ofItems? items := by
  cases value with
  | arr items' =>
    cases members
    exact ofSection?_arr items
  | tables elements =>
    cases members
    rcases elements with _ | ⟨_, _ | ⟨_, _ | ⟨_, _⟩⟩⟩ <;> rfl
  | _ => cases members

theorem ofItems?_of_alike {items items' : List Toml}
    (each : List.Forall₂ Toml.Alike items items') : ofItems? items' = ofItems? items := by
  rcases each with _ | ⟨select, _ | ⟨exclude, _ | ⟨hops, others⟩⟩⟩
  case cons.cons.cons =>
    rw [ofItems?, ofItems?, textOf?_of_alike select, textOf?_of_alike exclude,
      hopsOf?_of_alike hops]
  all_goals rfl

theorem ofSection?_table_of_alike {form form' : TableForm} {entries entries' : Entries}
    (distinct : (entries.map Prod.fst).Nodup)
    (alike : (Toml.table form entries).Alike (.table form' entries')) :
    ofSection? (.table form' entries') = ofSection? (.table form entries) := by
  cases alike with
  | items left => cases left
  | table order same values =>
    have at_key := Toml.lookup_of_alike distinct order same values
    have known := Toml.all_keys_of_alike order same (· ∈ ["select", "exclude", "hops"])
    rw [ofSection?, ofSection?, known,
      setting?_of_alikeAt textOf?_of_alike (at_key "select"),
      setting?_of_alikeAt textOf?_of_alike (at_key "exclude"),
      setting?_of_alikeAt hopsOf?_of_alike (at_key "hops")]

theorem ofSection?_of_alike (distinct : one.Distinct) (alike : one.Alike two) :
    ofSection? two = ofSection? one := by
  cases alike with
  | items left right each =>
    rw [ofSection?_of_members left, ofSection?_of_members right, ofItems?_of_alike each]
  | table order same values =>
    exact ofSection?_table_of_alike (Entries.Apart.of_table distinct).keys
      (.table order same values)
  | _ => rfl

theorem ofEntries?_of_alike {form form' : TableForm} (apart : root.Apart)
    (alike : (Toml.table form root).Alike (.table form' root')) :
    ofEntries? root' = ofEntries? root := by
  cases alike with
  | items left => cases left
  | table order same values =>
    rw [ofEntries?, ofEntries?, Toml.all_keys_of_alike order same (· == "selection")]
    rcases Toml.lookup_of_alike apart.keys order same values "selection" with
      ⟨absent, absent'⟩ | ⟨v, w, found, found', alike⟩
    · rw [absent, absent']
    · simp only [found, found', ofSection?_of_alike (apart.distinct_of_lookup found) alike]

end Alike

/-- The text gives `selection` a table with these entries, in one of the ways to give it. -/
def GivesSelection (text : String) (entries : Entries) : Prop :=
  ∃ list, Toml.statements? text = some list ∧ Toml.Gives "selection" entries list

/-- The way to give the table does not matter. -/
theorem parse?_of_gives {text : String} {entries : Entries}
    (distinct : (entries.map Prod.fst).Nodup) (gives : GivesSelection text entries) :
    parse? text = ofSection? (.table .inline entries) := by
  obtain ⟨list, told, gives⟩ := gives
  rw [parse?, Toml.read?_eq, told, Option.bind_some]
  rcases Toml.ofStatements?_of_gives distinct gives with ⟨form, built⟩ | ⟨rfl, built⟩
  · rw [built]
    rfl
  · rw [built]
    rfl

/-! ### All or nothing -/

/-- A config file is read as a whole or not at all: it sets what its tree holds, and one fault
in the tree makes all of it fail. Files with alike trees set the same, so neither the order of
keys nor the way to write the table shows. -/
theorem read_all_or_nothing (text : String) :
    (∀ s, parse? text = some s ↔ ∃ root, Toml.read? text = some root ∧ InRoot root s) ∧
    (parse? text = none ↔
      Toml.read? text = none ∨ ∃ root, Toml.read? text = some root ∧ Faulty root) ∧
    (∀ text' root root', Toml.read? text = some root → Toml.read? text' = some root' →
      (Toml.table .implied root).Alike (.table .implied root') → parse? text' = parse? text) ∧
    ∀ text' entries entries', (entries.map Prod.fst).Nodup → entries.Perm entries' →
      GivesSelection text entries → GivesSelection text' entries' →
        parse? text' = parse? text := by
  refine ⟨fun s => parse?_eq_some_iff, parse?_eq_none_iff, ?_, ?_⟩
  · intro text' root root' read read' alike
    rw [parse?, parse?, read, read', Option.bind_some, Option.bind_some]
    exact ofEntries?_of_alike (Toml.apart_of_read? read) alike
  · intro text' entries entries' distinct order gives gives'
    have distinct' : (entries'.map Prod.fst).Nodup := (order.map Prod.fst).nodup_iff.mp distinct
    rw [parse?_of_gives distinct gives, parse?_of_gives distinct' gives']
    exact ofSection?_table_of_alike distinct (Toml.alike_of_perm order _ _)

theorem read_all_or_nothing_forms :
    let one := "[selection]\nselect = 'a'  # a comment\nhops = -2\n"
    let two := "selection.\"hops\" = -2\nselection . select = \"\\u0061\""
    let three := "selection = \x7b hops = -2, select = 'a' \x7d"
    let wrong := "[selection]\nselect = 'a'\nhop = -2\n"
    let s : Settings := ⟨some "a", none, some (-2)⟩
    (∃ root, Toml.read? one = some root ∧ InRoot root s) ∧
      parse? one = some s ∧ parse? two = parse? one ∧ parse? three = parse? two ∧
      ∃ root, Toml.read? wrong = some root ∧ Faulty root := by
  intro one two three wrong s
  have parsed : parse? one = some s := by decide +kernel
  have failed : parse? wrong = none := by decide +kernel
  have there : Toml.read? wrong ≠ none := by decide +kernel
  have first : Toml.statements? one =
      some [.header ["selection"], .pair ["select"] (.str "a"), .pair ["hops"] (.int (-2))] := by
    simp only [one, Toml.statements?, String.reduceToList]
    rfl
  have second : Toml.statements? two =
      some [.pair ["selection", "hops"] (.int (-2)), .pair ["selection", "select"] (.str "a")] := by
    simp only [two, Toml.statements?, String.reduceToList]
    rfl
  have third : Toml.statements? three = some [.pair ["selection"]
      (.table .inline [("hops", .int (-2)), ("select", .str "a")])] := by
    simp only [three, Toml.statements?, String.reduceToList]
    rfl
  obtain ⟨reads, -, -, forms⟩ := read_all_or_nothing one
  obtain ⟨-, -, alike, -⟩ := read_all_or_nothing two
  obtain ⟨-, fails, -, -⟩ := read_all_or_nothing wrong
  refine ⟨(reads s).mp parsed, parsed, ?_, ?_, (fails.mp failed).resolve_left there⟩
  · exact forms two [("select", .str "a"), ("hops", .int (-2))]
      [("hops", .int (-2)), ("select", .str "a")] (by decide) (.swap _ _ _)
      ⟨_, first, .header⟩ ⟨_, second, .dotted⟩
  · have root : Toml.read? two = some
        [("selection", .table .dotted [("hops", .int (-2)), ("select", .str "a")])] := by
      rw [Toml.read?_eq, second]
      rfl
    have root' : Toml.read? three = some
        [("selection", .table .inline [("hops", .int (-2)), ("select", .str "a")])] := by
      rw [Toml.read?_eq, third]
      rfl
    exact alike three _ _ root root' <|
      .table (.refl _) rfl (.cons (Toml.alike_of_perm (.refl _) _ _) .nil)

/-- An array may go on after the settings. -/
theorem not_only_arrays_of_three :
    ¬ ∀ text s, parse? text = some s → ∃ root, Toml.read? text = some root ∧
      ∀ value, ("selection", value) ∈ root →
        (∃ form entries, value = .table form entries) ∨
          ∃ select exclude hops, value = .arr [.str select, .str exclude, .int hops] := by
  intro only
  have parsed : parse? "selection = ['a', 'b', 3, 4]" = some ⟨some "a", some "b", some 3⟩ := by
    decide +kernel
  have told : Toml.statements? "selection = ['a', 'b', 3, 4]" =
      some [.pair ["selection"] (.arr [.str "a", .str "b", .int 3, .int 4])] := by
    simp only [Toml.statements?, String.reduceToList]
    rfl
  have read : Toml.read? "selection = ['a', 'b', 3, 4]" =
      some [("selection", .arr [.str "a", .str "b", .int 3, .int 4])] := by
    rw [Toml.read?_eq, told]
    rfl
  obtain ⟨root, read', shape⟩ := only _ _ parsed
  rw [read, Option.some.injEq] at read'
  subst read'
  simpa using shape _ List.mem_cons_self

end Settings

end NodeSelection
