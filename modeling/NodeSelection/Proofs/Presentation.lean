import Mathlib.Data.List.Count
import Mathlib.Data.List.Forall2
import Mathlib.Data.Option.Basic
import NodeSelection.Json.Fields
import NodeSelection.Proofs.Keyed

/-!
The ways to write a record as a JSON value.

A record is an object or an array. An object gives each field under its name, in any order
and among members of other names; an array gives the fields in their order. A field that may
be missing can be left out, in an array together with all that follow it.

What presents a record is said here by the values of its fields alone, apart from any reader.

* `Presents`: the presentations of a list of fields.
* `presents_iff`: a value presents the fields when it says what they need, each under its
  name.
* `ReadsByField`: what it is for a reader of records to go by the fields alone.
* `ReadsByField.of_fields`: a reader that fetches field after field does.
-/

namespace NodeSelection.Json

/-! ### Presentations -/

/-- A field of a record: its name, the values that show what it holds, and whether it may
be missing. -/
structure Field where
  name : String
  Shown : Json → Prop
  Omissible : Prop

/-- What is said of the field, if anything, is what it holds. -/
def Field.Meets (f : Field) : Option Json → Prop
  | none => f.Omissible
  | some value => f.Shown value

/-- The members that give the fields one after the other. -/
inductive GivenByName : List Field → List (String × Json) → Prop
  | nil : GivenByName [] []
  | shown {f : Field} {value : Json} {fields : List Field} {members : List (String × Json)}
      (shown : f.Shown value) (rest : GivenByName fields members) :
      GivenByName (f :: fields) ((f.name, value) :: members)
  | omitted {f : Field} {fields : List Field} {members : List (String × Json)}
      (omissible : f.Omissible) (rest : GivenByName fields members) :
      GivenByName (f :: fields) members

/-- The items that give the fields one after the other. -/
inductive GivenInOrder : List Field → List Json → Prop
  | omitted {fields : List Field} (omissible : ∀ f ∈ fields, f.Omissible) :
      GivenInOrder fields []
  | shown {f : Field} {value : Json} {fields : List Field} {items : List Json}
      (shown : f.Shown value) (rest : GivenInOrder fields items) :
      GivenInOrder (f :: fields) (value :: items)

/-- The values that present the fields. -/
inductive Presents (fields : List Field) : Json → Prop
  /-- An object, in any order and with any other keys. -/
  | object {members given others : List (String × Json)} (order : members.Perm (given ++ others))
      (gives : GivenByName fields given) (unknown : ∀ m ∈ others, m.1 ∉ fields.map Field.name) :
      Presents fields (.record members)
  | array {items : List Json} (gives : GivenInOrder fields items) : Presents fields (.arr items)

/-! ### Presented values -/

section Fields

variable {fields : List Field} {members given : List (String × Json)} {items : List Json}
  {value : Json} {found : Fields}

theorem GivenByName.keys_sublist (gives : GivenByName fields given) :
    (given.map Prod.fst).Sublist (fields.map Field.name) := by
  induction gives with
  | nil => exact .slnil
  | shown _ _ ih => exact ih.cons_cons _
  | omitted _ _ ih => exact ih.cons _

/-- What is given under the names is what the fields need. -/
theorem GivenByName.meets (gives : GivenByName fields given)
    (distinct : (fields.map Field.name).Nodup) : ∀ f ∈ fields, f.Meets (given.lookup f.name) := by
  induction gives with
  | nil => nofun
  | @shown f value fields members shown rest ih =>
    obtain ⟨fresh, distinct⟩ := List.nodup_cons.mp distinct
    rw [List.forall_mem_cons]
    refine ⟨?_, fun g mem => ?_⟩
    · rwa [Keyed.lookup_cons_self]
    · have ne : g.name ≠ f.name := fun same => fresh (same ▸ List.mem_map_of_mem mem)
      rw [Keyed.lookup_cons_of_ne ne]
      exact ih distinct g mem
  | @omitted f fields members omissible rest ih =>
    obtain ⟨fresh, distinct⟩ := List.nodup_cons.mp distinct
    rw [List.forall_mem_cons]
    refine ⟨?_, ih distinct⟩
    rw [Keyed.lookup_eq_none_iff_notMem.mpr fun mem => fresh (rest.keys_sublist.subset mem)]
    exact omissible

/-- Members that say what the fields need give them in some order. -/
theorem exists_givenByName (distinct : (fields.map Field.name).Nodup)
    (single : (members.map Prod.fst).Nodup) (known : ∀ m ∈ members, m.1 ∈ fields.map Field.name)
    (meets : ∀ f ∈ fields, f.Meets (members.lookup f.name)) :
    ∃ given, members.Perm given ∧ GivenByName fields given := by
  induction fields generalizing members with
  | nil =>
    obtain rfl : members = [] := List.eq_nil_iff_forall_not_mem.mpr fun m mem => by
      simpa using known m mem
    exact ⟨[], .nil, .nil⟩
  | cons f fields ih =>
    obtain ⟨fresh, distinct⟩ := List.nodup_cons.mp distinct
    obtain ⟨head, tail⟩ := List.forall_mem_cons.mp meets
    cases at_f : members.lookup f.name with
    | none =>
      have absent := Keyed.lookup_eq_none_iff_notMem.mp at_f
      have others : ∀ m ∈ members, m.1 ∈ fields.map Field.name := fun m mem =>
        (List.mem_cons.mp (known m mem)).resolve_left fun same =>
          absent (same ▸ List.mem_map_of_mem mem)
      obtain ⟨given, order, gives⟩ := ih distinct single others tail
      rw [at_f] at head
      exact ⟨given, order, .omitted head gives⟩
    | some value =>
      have mem := (Keyed.lookup_eq_some_iff_mem single).mp at_f
      obtain ⟨before, after, rfl⟩ := List.append_of_mem mem
      have order : (before ++ (f.name, value) :: after).Perm
          ((f.name, value) :: (before ++ after)) := List.perm_middle
      obtain ⟨apart, single'⟩ := List.nodup_cons.mp ((order.map Prod.fst).nodup_iff.mp single)
      have others : ∀ m ∈ before ++ after, m.1 ∈ fields.map Field.name := fun m mem =>
        (List.mem_cons.mp (known m (order.mem_iff.mpr (.tail _ mem)))).resolve_left fun same =>
          apart (List.mem_map.mpr ⟨m, mem, same⟩)
      have tail' : ∀ g ∈ fields, g.Meets ((before ++ after).lookup g.name) := fun g mem => by
        have ne : g.name ≠ f.name := fun same => fresh (same ▸ List.mem_map_of_mem mem)
        rw [← Keyed.lookup_cons_of_ne ne value, ← Keyed.lookup_eq_of_perm single order]
        exact tail g mem
      obtain ⟨given, order', gives⟩ := ih distinct single' others tail'
      rw [at_f] at head
      exact ⟨_, order.trans (order'.cons _), .shown head gives⟩

/-- Items give the fields when each is what the field in its place needs. -/
theorem givenInOrder_iff (distinct : (fields.map Field.name).Nodup) :
    GivenInOrder fields items ↔ items.length ≤ fields.length ∧
      ∀ f ∈ fields, f.Meets (((fields.map Field.name).zip items).lookup f.name) := by
  induction fields generalizing items with
  | nil =>
    cases items with
    | nil => exact ⟨fun _ => ⟨Nat.le_refl _, nofun⟩, fun _ => .omitted nofun⟩
    | cons value items => exact ⟨nofun, fun ⟨le, _⟩ => absurd le (by simp)⟩
  | cons f fields ih =>
    cases items with
    | nil =>
      rw [List.zip_nil_right]
      constructor
      · rintro ⟨omissible⟩
        exact ⟨Nat.zero_le _, omissible⟩
      · exact fun ⟨_, omissible⟩ => .omitted omissible
    | cons value items =>
      obtain ⟨fresh, distinct⟩ := List.nodup_cons.mp distinct
      have behind : ∀ g ∈ fields,
          ((f.name :: fields.map Field.name).zip (value :: items)).lookup g.name =
            ((fields.map Field.name).zip items).lookup g.name := fun g mem =>
        Keyed.lookup_cons_of_ne (fun same : g.name = f.name =>
          fresh (same ▸ List.mem_map_of_mem mem)) _ _
      rw [List.map_cons, List.forall_mem_cons, List.zip_cons_cons, Keyed.lookup_cons_self]
      simp only [List.length_cons, Nat.add_le_add_iff_right]
      constructor
      · rintro (_ | ⟨shown, rest⟩)
        obtain ⟨le, meets⟩ := (ih distinct).mp rest
        refine ⟨le, shown, fun g mem => ?_⟩
        rw [← List.zip_cons_cons, behind g mem]
        exact meets g mem
      · rintro ⟨le, shown, meets⟩
        refine .shown shown ((ih distinct).mpr ⟨le, fun g mem => ?_⟩)
        rw [← behind g mem]
        exact meets g mem

/-- Items stand for the fields in their places, and the fields left out may be missing. -/
theorem GivenInOrder.itemwise (gives : GivenInOrder fields items) :
    items.length ≤ fields.length ∧ (∀ f ∈ fields.drop items.length, f.Omissible) ∧
      ∀ pair ∈ fields.zip items, pair.1.Shown pair.2 := by
  induction gives with
  | omitted omissible => exact ⟨Nat.zero_le _, omissible, by simp⟩
  | shown shown _ ih =>
    obtain ⟨le, omissible, others⟩ := ih
    refine ⟨Nat.succ_le_succ le, omissible, ?_⟩
    rw [List.zip_cons_cons, List.forall_mem_cons]
    exact ⟨shown, others⟩

/-- A reading of several members succeeds member by member. -/
theorem mapM_eq_some_iff {α β : Type} {read : α → Option β} {members : List α} {results : List β} :
    members.mapM read = some results ↔
      List.Forall₂ (fun a b => read a = some b) members results := by
  induction members generalizing results with
  | nil => simp [eq_comm]
  | cons a rest ih =>
    rw [List.mapM_cons, List.forall₂_cons_left_iff]
    simp only [Option.bind_eq_bind, Option.bind_eq_some_iff, ih, Option.pure_def,
      Option.some.injEq]
    constructor
    · rintro ⟨b, first, bs, others, rfl⟩
      exact ⟨b, bs, first, others, rfl⟩
    · rintro ⟨b, bs, first, others, rfl⟩
      exact ⟨b, first, bs, others, rfl⟩

/-- The keys of an object that presents anything have a text. -/
theorem mapM_key_eq_some_iff {members : List (Option String × Json)}
    {named : List (String × Json)} :
    members.mapM (fun (key, value) => key.map (·, value)) = some named ↔
      obj members = record named := by
  have each : ∀ (m : Option String × Json) (n : String × Json),
      m.1.map (·, m.2) = some n ↔ m = (some n.1, n.2) := by
    rintro ⟨key, value⟩ ⟨name, value'⟩
    cases key <;> simp
  rw [mapM_eq_some_iff, record, obj.injEq, ← List.forall₂_eq_eq_eq, List.forall₂_map_right_iff]
  simp only [each]

theorem fields?_record (names : List String) (members : List (String × Json)) :
    (record members).fields? names =
      let known := members.filter fun m => m.1 ∈ names
      if (known.map Prod.fst).Nodup then some known else none := by
  simp only [fields?, record, Option.bind_eq_bind, mapM_key_eq_some_iff.mpr rfl, Option.bind_some]

theorem fields?_obj_eq_some_iff {names : List String} {members : List (Option String × Json)} :
    (obj members).fields? names = some found ↔
      ∃ named, obj members = record named ∧ named.filter (fun m => m.1 ∈ names) = found ∧
        (found.map Prod.fst).Nodup := by
  simp only [fields?, Option.bind_eq_bind, Option.bind_eq_some_iff, mapM_key_eq_some_iff]
  refine exists_congr fun named => and_congr_right fun _ => ?_
  split
  · next single =>
    rw [Option.some.injEq]
    exact ⟨fun same => ⟨same, same ▸ single⟩, And.left⟩
  · next double =>
    constructor
    · intro read
      cases read
    · rintro ⟨rfl, single⟩
      exact absurd single double

/-- A value presents the fields when it says what they need, each under its name. -/
theorem presents_iff (distinct : (fields.map Field.name).Nodup) :
    Presents fields value ↔ ∃ found, value.fields? (fields.map Field.name) = some found ∧
      ∀ f ∈ fields, f.Meets (found.lookup f.name) := by
  constructor
  · rintro (⟨order, gives, unknown⟩ | ⟨gives⟩)
    · rename_i members given others
      have known : ∀ m ∈ given, m.1 ∈ fields.map Field.name := fun m mem =>
        gives.keys_sublist.subset (List.mem_map_of_mem mem)
      have kept : (members.filter fun m => m.1 ∈ fields.map Field.name).Perm given := by
        refine (order.filter _).trans ?_
        rw [List.filter_append, List.filter_eq_self.mpr fun m mem => decide_eq_true (known m mem),
          List.filter_eq_nil_iff.mpr fun m mem => by simpa using unknown m mem, List.append_nil]
      have single : ((members.filter fun m => m.1 ∈ fields.map Field.name).map Prod.fst).Nodup :=
        (kept.map Prod.fst).nodup_iff.mpr (gives.keys_sublist.nodup distinct)
      refine ⟨_, fields?_obj_eq_some_iff.mpr ⟨members, rfl, rfl, single⟩, fun f mem => ?_⟩
      rw [Keyed.lookup_eq_of_perm single kept]
      exact gives.meets distinct f mem
    · obtain ⟨le, meets⟩ := (givenInOrder_iff distinct).mp gives
      exact ⟨_, by rw [fields?, if_pos (by simpa using le)], meets⟩
  · rintro ⟨found, presented, meets⟩
    cases value with
    | null | bool | int | real | str => cases presented
    | obj members =>
      obtain ⟨named, same, rfl, single⟩ := fields?_obj_eq_some_iff.mp presented
      obtain ⟨given, order, gives⟩ := exists_givenByName distinct single
        (fun m mem => by simpa using (List.mem_filter.mp mem).2) meets
      have parted := List.filter_append_perm (fun m => m.1 ∈ fields.map Field.name) named
      rw [same]
      exact .object (parted.symm.trans (order.append_right _)) gives fun m mem => by
        simpa using (List.mem_filter.mp mem).2
    | arr items =>
      simp only [fields?, List.length_map] at presented
      split at presented
      · next le =>
        obtain rfl := Option.some.inj presented
        exact .array ((givenInOrder_iff distinct).mpr ⟨le, meets⟩)
      · cases presented

/-- An object says at most one thing of each field, and nothing only if the field may be
missing. -/
theorem Presents.memberwise {members : List (Option String × Json)}
    (presents : Presents fields (.obj members)) (distinct : (fields.map Field.name).Nodup) :
    ∀ f ∈ fields, (members.map Prod.fst).count (some f.name) ≤ 1 ∧
      (some f.name ∉ members.map Prod.fst → f.Omissible) ∧
      ∀ value, (some f.name, value) ∈ members → f.Shown value := by
  intro f mem
  obtain ⟨_, presented, meets⟩ := (presents_iff distinct).mp presents
  obtain ⟨named, same, rfl, single⟩ := fields?_obj_eq_some_iff.mp presented
  obtain rfl := obj.inj same
  have keys : (named.map fun m => (some m.1, m.2)).map Prod.fst =
      (named.map Prod.fst).map some := by
    rw [List.map_map, List.map_map]
    rfl
  have known : f.name ∈ fields.map Field.name := List.mem_map_of_mem mem
  rw [keys]
  refine ⟨?_, fun absent => ?_, fun value there => ?_⟩
  · have kept : (named.filter fun m => m.1 ∈ fields.map Field.name).map Prod.fst =
        (named.map Prod.fst).filter (· ∈ fields.map Field.name) := by
      rw [List.filter_map]
      rfl
    have counted : ((named.map Prod.fst).filter (· ∈ fields.map Field.name)).count f.name =
        (named.map Prod.fst).count f.name := List.count_filter (decide_eq_true known)
    rw [List.count_map_of_injective _ _ (Option.some_injective _), ← counted, ← kept]
    exact List.nodup_iff_count_le_one.mp single f.name
  · have absent' : f.name ∉ (named.filter fun m => m.1 ∈ fields.map Field.name).map Prod.fst :=
      fun there => absent (List.mem_map_of_mem ((List.filter_sublist.map _).subset there))
    have nothing := meets f mem
    rwa [Keyed.lookup_eq_none_iff_notMem.mpr absent'] at nothing
  · obtain ⟨⟨name, value'⟩, mem', pair⟩ := List.mem_map.mp there
    obtain ⟨rfl, rfl⟩ : name = f.name ∧ value' = value := by simpa using pair
    have something := meets f mem
    rwa [(Keyed.lookup_eq_some_iff_mem single).mpr
      (List.mem_filter.mpr ⟨mem', decide_eq_true known⟩)] at something

end Fields

/-! ### Readers of records -/

/-- A field of the records of a type: its name, what it holds, the values that show this,
and the value that it has when it is missing. -/
structure Slot (α : Type) where
  name : String
  Value : Type
  get : α → Value
  Shows : Value → Json → Prop
  default : Option Value

section Slots

variable {α : Type}

/-- The field as it is in a given record. -/
def Slot.field (slot : Slot α) (a : α) : Field :=
  ⟨slot.name, slot.Shows (slot.get a), slot.default = some (slot.get a)⟩

/-- The field in whatever record. -/
def Slot.someField (slot : Slot α) : Field :=
  ⟨slot.name, fun value => ∃ x, slot.Shows x value, ∃ x, slot.default = some x⟩

/-- Records are read by their fields alone. -/
structure ReadsByField (slots : List (Slot α)) (read : Json → Option α) : Prop where
  /-- A record is read from its presentations, and from nothing else. -/
  reads_iff : ∀ value a, read value = some a ↔ Presents (slots.map (·.field a)) value
  /-- Any values of the fields make a record together. -/
  accepts_iff : ∀ value, (∃ a, read value = some a) ↔ Presents (slots.map Slot.someField) value
  /-- No field is given twice. -/
  repeated : ∀ members, ∀ slot ∈ slots, 2 ≤ (members.map Prod.fst).count (some slot.name) →
    read (.obj members) = none
  /-- No field is missing but those with a default. -/
  missing : ∀ members, ∀ slot ∈ slots, slot.default = none →
    some slot.name ∉ members.map Prod.fst → read (.obj members) = none
  /-- A field that is missing has its default, as if that were given. -/
  defaulted : ∀ members, ∀ slot ∈ slots, ∀ x value, slot.default = some x → slot.Shows x value →
    slot.name ∉ members.map Prod.fst →
    read (.record members) = read (.record ((slot.name, value) :: members))
  /-- No field has a value of another type. -/
  mistyped : ∀ members, ∀ slot ∈ slots, ∀ value, (∀ x, ¬ slot.Shows x value) →
    (some slot.name, value) ∈ members → read (.obj members) = none
  /-- No item stands for what is no field. -/
  tooLong : ∀ items, slots.length < items.length → read (.arr items) = none
  /-- No field is left out of an array but those with a default. -/
  tooShort : ∀ items, ∀ slot ∈ slots.drop items.length, slot.default = none →
    read (.arr items) = none
  /-- No item is of another type than its field. -/
  mistypedItem : ∀ items, ∀ pair ∈ slots.zip items, (∀ x, ¬ pair.1.Shows x pair.2) →
    read (.arr items) = none

variable {slots : List (Slot α)}

/-- What is said of the field is right for some value of it. -/
theorem Slot.someField_meets_iff {slot : Slot α} {said : Option Json} :
    slot.someField.Meets said ↔
      ∃ x, Field.Meets ⟨slot.name, slot.Shows x, slot.default = some x⟩ said := by
  cases said <;> rfl

/-- A field that is missing holds the same as one with its default. -/
theorem Slot.meets_default {slot : Slot α} {x : slot.Value} {value : Json}
    (sharp : ∀ y, slot.Shows y value → y = x) (default : slot.default = some x)
    (shows : slot.Shows x value) (a : α) :
    (slot.field a).Meets none ↔ (slot.field a).Meets (some value) := by
  show slot.default = some (slot.get a) ↔ slot.Shows (slot.get a) value
  rw [default, Option.some.injEq]
  exact ⟨fun same => same ▸ shows, fun shows => (sharp _ shows).symm⟩

section Readers

variable {names : List String}

/-- What is read from the presentations alone is read from no near miss. -/
theorem ReadsByField.of_presents {read : Json → Option α} (distinct : (slots.map Slot.name).Nodup)
    (reads : ∀ value a, read value = some a ↔ Presents (slots.map (·.field a)) value)
    (accepts : ∀ value, (∃ a, read value = some a) ↔ Presents (slots.map Slot.someField) value)
    (defaulted : ∀ members, ∀ slot ∈ slots, ∀ x value, slot.default = some x →
      slot.Shows x value → slot.name ∉ members.map Prod.fst →
      read (.record members) = read (.record ((slot.name, value) :: members))) :
    ReadsByField slots read := by
  have unread : ∀ value, (∀ a, ¬ Presents (slots.map (·.field a)) value) → read value = none :=
    fun value never =>
      Option.eq_none_iff_forall_ne_some.mpr fun a found => never a ((reads value a).mp found)
  have named : ∀ a, (slots.map (·.field a)).map Field.name = slots.map Slot.name := fun a => by
    rw [List.map_map]
    rfl
  have memberwise := fun a members (presents : Presents (slots.map (·.field a)) (.obj members))
      (slot : Slot α) (mem : slot ∈ slots) =>
    presents.memberwise (named a ▸ distinct) (slot.field a) (List.mem_map_of_mem mem)
  have itemwise : ∀ items a, Presents (slots.map (·.field a)) (.arr items) → _ :=
    fun items a presents => by
      cases presents with
      | array gives => exact gives.itemwise
  exact
    { reads_iff := reads
      accepts_iff := accepts
      repeated := fun members slot mem twice => unread _ fun a presents =>
        absurd (memberwise a members presents slot mem).1 (Nat.not_le.mpr twice)
      missing := fun members slot mem needed absent => unread _ fun a presents => by
        have lacks : slot.default = some _ := (memberwise a members presents slot mem).2.1 absent
        simp [needed] at lacks
      defaulted := defaulted
      mistyped := fun members slot mem value never there => unread _ fun a presents =>
        never _ ((memberwise a members presents slot mem).2.2 value there)
      tooLong := fun items long => unread _ fun a presents =>
        absurd (itemwise items a presents).1 (by simpa using long)
      tooShort := fun items slot mem needed => unread _ fun a presents => by
        have left : slot.field a ∈ (slots.map (·.field a)).drop items.length := by
          rw [← List.map_drop]
          exact List.mem_map_of_mem mem
        have lacks : slot.default = some _ := (itemwise items a presents).2.1 _ left
        simp [needed] at lacks
      mistypedItem := fun items pair mem never => unread _ fun a presents => by
        refine never _ ((itemwise items a presents).2.2 (pair.1.field a, pair.2) ?_)
        rw [List.zip_map_left]
        exact List.mem_map_of_mem mem }

/-- A field that is missing is fetched like one with its default. -/
theorem read_defaulted {ofFields? : Fields → Option α} (distinct : (slots.map Slot.name).Nodup)
    (fetches : ∀ found a, ofFields? found = some a ↔
      ∀ slot ∈ slots, (slot.field a).Meets (found.lookup slot.name))
    {slot : Slot α} (mem : slot ∈ slots) {x : slot.Value} {value : Json}
    (sharp : ∀ y, slot.Shows y value → y = x) (default : slot.default = some x)
    (shows : slot.Shows x value) {members : List (String × Json)}
    (absent : slot.name ∉ members.map Prod.fst) :
    ((record members).fields? (slots.map Slot.name)).bind ofFields? =
      ((record ((slot.name, value) :: members)).fields? (slots.map Slot.name)).bind ofFields? := by
  have known : slot.name ∈ slots.map Slot.name := List.mem_map_of_mem mem
  have absent' : slot.name ∉ (members.filter fun m => m.1 ∈ slots.map Slot.name).map Prod.fst :=
    fun there => absent ((List.filter_sublist.map _).subset there)
  have same : ∀ found : Fields, slot.name ∉ found.map Prod.fst →
      ofFields? found = ofFields? ((slot.name, value) :: found) := by
    intro found fresh
    refine Option.ext fun a => ?_
    rw [fetches, fetches]
    refine forall₂_congr fun other mem' => ?_
    by_cases name : other.name = slot.name
    · obtain rfl := List.inj_on_of_nodup_map distinct mem' mem name
      rw [Keyed.lookup_eq_none_iff_notMem.mpr fresh, Keyed.lookup_cons_self]
      exact Slot.meets_default sharp default shows a
    · rw [Keyed.lookup_cons_of_ne name]
  rw [fields?_record, fields?_record]
  simp only [List.filter_cons, known, decide_true, if_true, List.map_cons, List.nodup_cons,
    absent', not_false_eq_true, true_and]
  split
  · exact same _ absent'
  · rfl

/-- Records are read by their fields if the reader fetches the fields one by one, and any
values of them make a record. -/
theorem ReadsByField.of_fields {ofFields? : Fields → Option α}
    (named : slots.map Slot.name = names) (distinct : names.Nodup)
    (sharp : ∀ slot ∈ slots, ∀ value x y, slot.Shows x value → slot.Shows y value → y = x)
    (fetches : ∀ found a, ofFields? found = some a ↔
      ∀ slot ∈ slots, (slot.field a).Meets (found.lookup slot.name))
    (makes : ∀ said : String → Option Json,
      (∀ slot ∈ slots, slot.someField.Meets (said slot.name)) →
      ∃ a, ∀ slot ∈ slots, (slot.field a).Meets (said slot.name)) :
    ReadsByField slots fun value => (value.fields? names).bind ofFields? := by
  subst named
  have given : ∀ fields : Slot α → Field, (∀ slot, (fields slot).name = slot.name) →
      (slots.map fields).map Field.name = slots.map Slot.name := fun fields same => by
    rw [List.map_map]
    exact List.map_congr_left fun slot _ => same slot
  refine .of_presents distinct (fun value a => ?_) (fun value => ?_) ?_
  · have names := given (·.field a) fun _ => rfl
    rw [presents_iff (names ▸ distinct), names, Option.bind_eq_some_iff]
    simp only [fetches, List.forall_mem_map]
    rfl
  · have names := given Slot.someField fun _ => rfl
    rw [presents_iff (names ▸ distinct), names]
    simp only [Option.bind_eq_some_iff, fetches, List.forall_mem_map]
    constructor
    · rintro ⟨a, found, presented, meets⟩
      exact ⟨found, presented, fun slot mem => Slot.someField_meets_iff.mpr ⟨_, meets slot mem⟩⟩
    · rintro ⟨found, presented, meets⟩
      obtain ⟨a, meets⟩ := makes (found.lookup ·) meets
      exact ⟨a, found, presented, meets⟩
  · intro members slot mem x value default shows absent
    exact read_defaulted distinct fetches mem (fun y => sharp slot mem value x y shows) default
      shows absent

end Readers

end Slots

end NodeSelection.Json
