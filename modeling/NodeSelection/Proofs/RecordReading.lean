import NodeSelection.Manifest.Record
import NodeSelection.Proofs.Presentation
import NodeSelection.Record.Hits
import NodeSelection.Record.Selection

/-!
What is read as a record.

Each record is given by its fields, and every way to write the fields is read as the record:
objects in any order and with other keys, arrays, and both at every level of a record.

* `Selector.readsByField` and its kin: the readers go by the fields of the records.
* `records_read_by_field`: all of them, and what this means for manifests.
-/

namespace NodeSelection

open Json (Slot ReadsByField)

/-! ### Values of fields -/

namespace Json

variable {α β : Type} {read : Json → Option β} {shows : β → Json → Prop}

/-- The value is an array, and its items show the members one by one. -/
def ShowsEach (shows : β → Json → Prop) (members : List β) (value : Json) : Prop :=
  ∃ items, value = .arr items ∧ List.Forall₂ shows members items

/-- The value shows what there is, and is `null` if there is nothing. -/
def ShowsOption (shows : β → Json → Prop) : Option β → Json → Prop
  | none, value => value = .null
  | some x, value => shows x value

/-- The value is the name, alone or with `null` under it. -/
def ShowsName (name : String) (value : Json) : Prop :=
  value = .text name ∨ value = .record [(name, .null)]

theorem text?_eq_some_iff (value : Json) (s : String) :
    value.text? = some s ↔ value = .text s := by
  cases value <;> simp [text?, text]

theorem bool?_eq_some_iff (value : Json) (b : Bool) : value.bool? = some b ↔ value = .bool b := by
  cases value <;> simp [bool?]

theorem int64?_eq_some_iff (value : Json) (n : Int64) :
    value.int64? = some n ↔ value = .int n.toInt := by
  cases value with
  | int i =>
    rw [int64?, Text.int64?_eq_some_iff, int.injEq]
    exact eq_comm
  | _ => simp [int64?]

theorem list?_eq_some_iff (reads : ∀ value x, read value = some x ↔ shows x value)
    (value : Json) (members : List β) :
    value.list? read = some members ↔ ShowsEach shows members value := by
  cases value with
  | arr items =>
    simp only [list?, mapM_eq_some_iff, reads]
    constructor
    · exact fun each => ⟨items, rfl, each.flip⟩
    · rintro ⟨_, ⟨⟩, each⟩
      exact each.flip
  | _ => simp [list?, ShowsEach]

theorem nullable?_eq_some_iff (reads : ∀ value x, read value = some x ↔ shows x value)
    (not_null : read .null = none) (value : Json) (x : Option β) :
    value.nullable? read = some x ↔ ShowsOption shows x value := by
  have null_shows : ∀ x, ¬ shows x .null := fun x h => by
    simpa [not_null] using (reads .null x).mpr h
  cases x with
  | none => cases value <;> simp [nullable?, ShowsOption]
  | some x => cases value <;> simp [nullable?, ShowsOption, reads, null_shows]

theorem constant?_eq_some_iff {ofName? : String → Option β} {name : β → String}
    (named : ∀ text x, ofName? text = some x ↔ name x = text) (value : Json) (x : β) :
    value.constant? ofName? = some x ↔ ShowsName (name x) value := by
  unfold constant?
  split
  · next word => simp [named, ShowsName, Json.text, record, eq_comm]
  · next word => simp [named, ShowsName, Json.text, record, eq_comm]
  · next not_text not_object =>
    constructor
    · intro read
      cases read
    · rintro (rfl | rfl)
      · exact absurd rfl (not_text _)
      · exact absurd rfl (not_object _)

/-- What a reader reads from a value is the one thing that the value shows. -/
theorem sharp_of_reads (reads : ∀ value x, read value = some x ↔ shows x value) :
    ∀ value x y, shows x value → shows y value → y = x := fun value x y one other =>
  Option.some.inj (((reads value y).mpr other).symm.trans ((reads value x).mpr one))

/-- A field without a default must be there to be fetched. -/
theorem meets_iff_required (reads : ∀ value x, read value = some x ↔ shows x value)
    (name : String) (get : α → β) (found : Fields) (a : α) :
    (Slot.field ⟨name, β, get, shows, none⟩ a).Meets (found.lookup name) ↔
      found.required name read = some (get a) := by
  rw [Fields.required]
  cases found.lookup name with
  | none => exact iff_of_false (Option.some_ne_none _).symm (Option.some_ne_none _).symm
  | some value => exact (reads value _).symm

/-- A field with a default may as well be missing. -/
theorem meets_iff_optional (reads : ∀ value x, read value = some x ↔ shows x value)
    (name : String) (get : α → β) (default : β) (found : Fields) (a : α) :
    (Slot.field ⟨name, β, get, shows, some default⟩ a).Meets (found.lookup name) ↔
      found.optional name default read = some (get a) := by
  rw [Fields.optional]
  cases found.lookup name with
  | none => exact Iff.rfl
  | some value => exact (reads value _).symm

end Json

theorem Kind.ofJson?_eq_some_iff (value : Json) (kind : Kind) :
    ofJson? value = some kind ↔ Json.ShowsName kind.name value := by
  refine Json.constant?_eq_some_iff (fun text kind => ⟨fun found => ?_, ?_⟩) value kind
  · unfold ofName? at found
    split at found <;> cases found <;> rfl
  · rintro rfl
    exact ofName?_name kind

theorem Method.ofJson?_eq_some_iff (value : Json) (method : Method) :
    ofJson? value = some method ↔ Json.ShowsName method.name value := by
  refine Json.constant?_eq_some_iff (fun text method => ⟨fun found => ?_, ?_⟩) value method
  · unfold ofName? at found
    split at found <;> cases found <;> rfl
  · rintro rfl
    exact ofName?_name method

open Json

/-! ### Selectors, groups and selections -/

namespace Selector

/-- The fields of a selector. -/
def slots : List (Slot Selector) :=
  [⟨"selector_type", Kind, kind, fun kind => ShowsName kind.name, none⟩,
    ⟨"selector_value", String, value, fun s v => v = .text s, none⟩,
    ⟨"select_at", Bool, exact, fun b v => v = .bool b, none⟩,
    ⟨"select_parents", Bool, parents, fun b v => v = .bool b, none⟩,
    ⟨"select_children", Bool, children, fun b v => v = .bool b, none⟩,
    ⟨"raw", String, raw, fun s v => v = .text s, none⟩]

/-- The value presents the selector. -/
def Presented (s : Selector) : Json → Prop := Presents (slots.map (·.field s))

theorem readsByField : ReadsByField slots ofJson? := by
  refine .of_fields rfl (by decide) ?_ (fun found s => ?_) fun said meets => ?_
  · simp only [slots, List.forall_mem_cons]
    exact ⟨sharp_of_reads Kind.ofJson?_eq_some_iff, sharp_of_reads text?_eq_some_iff,
      sharp_of_reads bool?_eq_some_iff, sharp_of_reads bool?_eq_some_iff,
      sharp_of_reads bool?_eq_some_iff, sharp_of_reads text?_eq_some_iff, List.forall_mem_nil _⟩
  · simp only [slots, List.forall_mem_cons, meets_iff_required Kind.ofJson?_eq_some_iff,
      meets_iff_required text?_eq_some_iff, meets_iff_required bool?_eq_some_iff]
    constructor
    · intro fetched
      simp only [ofFields?, Option.bind_eq_bind, Option.bind_eq_some_iff] at fetched
      obtain ⟨kind, h₁, value, h₂, exact, h₃, parents, h₄, children, h₅, raw, h₆, ⟨⟩⟩ := fetched
      exact ⟨h₁, h₂, h₃, h₄, h₅, h₆, List.forall_mem_nil _⟩
    · rintro ⟨h₁, h₂, h₃, h₄, h₅, h₆, -⟩
      simp [ofFields?, h₁, h₂, h₃, h₄, h₅, h₆]
  · simp only [slots, List.forall_mem_cons, Slot.someField_meets_iff] at meets ⊢
    obtain ⟨⟨kind, h₁⟩, ⟨value, h₂⟩, ⟨exact, h₃⟩, ⟨parents, h₄⟩, ⟨children, h₅⟩, ⟨raw, h₆⟩, -⟩ :=
      meets
    exact ⟨⟨kind, value, exact, parents, children, raw⟩, h₁, h₂, h₃, h₄, h₅, h₆,
      List.forall_mem_nil _⟩

end Selector

namespace Group

/-- The fields of a group. -/
def slots : List (Slot Group) :=
  [⟨"method", Method, method, fun method => ShowsName method.name, none⟩,
    ⟨"selectors", List Selector, selectors, ShowsEach Selector.Presented, none⟩]

/-- The value presents the group. -/
def Presented (g : Group) : Json → Prop := Presents (slots.map (·.field g))

theorem readsByField : ReadsByField slots ofJson? := by
  have each : ∀ value selectors, value.list? Selector.ofJson? = some selectors ↔
      ShowsEach Selector.Presented selectors value :=
    list?_eq_some_iff Selector.readsByField.reads_iff
  refine .of_fields rfl (by decide) ?_ (fun found g => ?_) fun said meets => ?_
  · simp only [slots, List.forall_mem_cons]
    exact ⟨sharp_of_reads Method.ofJson?_eq_some_iff, sharp_of_reads each, List.forall_mem_nil _⟩
  · simp only [slots, List.forall_mem_cons, meets_iff_required Method.ofJson?_eq_some_iff,
      meets_iff_required each]
    constructor
    · intro fetched
      simp only [ofFields?, Option.bind_eq_bind, Option.bind_eq_some_iff] at fetched
      obtain ⟨method, h₁, selectors, h₂, ⟨⟩⟩ := fetched
      exact ⟨h₁, h₂, List.forall_mem_nil _⟩
    · rintro ⟨h₁, h₂, -⟩
      simp [ofFields?, h₁, h₂]
  · simp only [slots, List.forall_mem_cons, Slot.someField_meets_iff] at meets ⊢
    obtain ⟨⟨method, h₁⟩, ⟨selectors, h₂⟩, -⟩ := meets
    exact ⟨⟨method, selectors⟩, h₁, h₂, List.forall_mem_nil _⟩

end Group

namespace Selection

/-- The fields of a selection. -/
def slots : List (Slot Selection) :=
  [⟨"include", List Group, included, ShowsEach Group.Presented, none⟩,
    ⟨"exclude", List Group, excluded, ShowsEach Group.Presented, none⟩,
    ⟨"hops", Int64, hops, fun n v => v = .int n.toInt, none⟩]

/-- The value presents the selection. -/
def Presented (s : Selection) : Json → Prop := Presents (slots.map (·.field s))

theorem readsByField : ReadsByField slots ofJson? := by
  have each : ∀ value groups, value.list? Group.ofJson? = some groups ↔
      ShowsEach Group.Presented groups value :=
    list?_eq_some_iff Group.readsByField.reads_iff
  refine .of_fields rfl (by decide) ?_ (fun found s => ?_) fun said meets => ?_
  · simp only [slots, List.forall_mem_cons]
    exact ⟨sharp_of_reads each, sharp_of_reads each, sharp_of_reads int64?_eq_some_iff,
      List.forall_mem_nil _⟩
  · simp only [slots, List.forall_mem_cons, meets_iff_required each,
      meets_iff_required int64?_eq_some_iff]
    constructor
    · intro fetched
      simp only [ofFields?, Option.bind_eq_bind, Option.bind_eq_some_iff] at fetched
      obtain ⟨included, h₁, excluded, h₂, hops, h₃, ⟨⟩⟩ := fetched
      exact ⟨h₁, h₂, h₃, List.forall_mem_nil _⟩
    · rintro ⟨h₁, h₂, h₃, -⟩
      simp [ofFields?, h₁, h₂, h₃]
  · simp only [slots, List.forall_mem_cons, Slot.someField_meets_iff] at meets ⊢
    obtain ⟨⟨included, h₁⟩, ⟨excluded, h₂⟩, ⟨hops, h₃⟩, -⟩ := meets
    exact ⟨⟨included, excluded, hops⟩, h₁, h₂, h₃, List.forall_mem_nil _⟩

end Selection

/-! ### Hits -/

namespace Hits

variable {N : Type} {node : Json → Option N}

/-- The fields of hits, whose nodes are shown in some way. -/
def slots (shows : N → Json → Prop) : List (Slot (Hits N)) :=
  [⟨"matched", List N, matched, ShowsEach shows, none⟩,
    ⟨"selected", List N, selected, ShowsEach shows, none⟩]

theorem readsByField {shows : N → Json → Prop}
    (reads : ∀ value n, node value = some n ↔ shows n value) :
    ReadsByField (slots shows) (ofJson? node) := by
  have each := list?_eq_some_iff reads
  refine .of_fields rfl (by decide) ?_ (fun found h => ?_) fun said meets => ?_
  · simp only [slots, List.forall_mem_cons]
    exact ⟨sharp_of_reads each, sharp_of_reads each, List.forall_mem_nil _⟩
  · simp only [slots, List.forall_mem_cons, meets_iff_required each]
    constructor
    · intro fetched
      simp only [ofFields?, Option.bind_eq_bind, Option.bind_eq_some_iff] at fetched
      obtain ⟨matched, h₁, selected, h₂, ⟨⟩⟩ := fetched
      exact ⟨h₁, h₂, List.forall_mem_nil _⟩
    · rintro ⟨h₁, h₂, -⟩
      simp [ofFields?, h₁, h₂]
  · simp only [slots, List.forall_mem_cons, Slot.someField_meets_iff] at meets ⊢
    obtain ⟨⟨matched, h₁⟩, ⟨selected, h₂⟩, -⟩ := meets
    exact ⟨⟨matched, selected⟩, h₁, h₂, List.forall_mem_nil _⟩

end Hits

/-! ### Manifests -/

namespace Origin

/-- The fields of an origin. -/
def slots : List (Slot Origin) :=
  [⟨"name", String, name, fun s v => v = .text s, none⟩,
    ⟨"table", Option String, table, ShowsOption fun s v => v = .text s, some none⟩]

/-- The value presents the origin. -/
def Presented (o : Origin) : Json → Prop := Presents (slots.map (·.field o))

theorem readsByField : ReadsByField slots ofJson? := by
  have table := nullable?_eq_some_iff text?_eq_some_iff rfl
  refine .of_fields rfl (by decide) ?_ (fun found o => ?_) fun said meets => ?_
  · simp only [slots, List.forall_mem_cons]
    exact ⟨sharp_of_reads text?_eq_some_iff, sharp_of_reads table, List.forall_mem_nil _⟩
  · simp only [slots, List.forall_mem_cons, meets_iff_required text?_eq_some_iff,
      meets_iff_optional table]
    constructor
    · intro fetched
      simp only [ofFields?, Option.bind_eq_bind, Option.bind_eq_some_iff] at fetched
      obtain ⟨name, h₁, table, h₂, ⟨⟩⟩ := fetched
      exact ⟨h₁, h₂, List.forall_mem_nil _⟩
    · rintro ⟨h₁, h₂, -⟩
      simp [ofFields?, h₁, h₂]
  · simp only [slots, List.forall_mem_cons, Slot.someField_meets_iff] at meets ⊢
    obtain ⟨⟨name, h₁⟩, ⟨table, h₂⟩, -⟩ := meets
    exact ⟨⟨name, table⟩, h₁, h₂, List.forall_mem_nil _⟩

end Origin

namespace Node

/-- The fields of a node. -/
def slots : List (Slot Node) :=
  [⟨"unique_id", String, id, fun s v => v = .text s, none⟩,
    ⟨"fqn", List String, fqn, ShowsEach fun s v => v = .text s, none⟩,
    ⟨"tags", List String, tags, ShowsEach fun s v => v = .text s, some []⟩,
    ⟨"source", Option Origin, origin, ShowsOption Origin.Presented, some none⟩]

/-- The value presents the node. -/
def Presented (node : Node) : Json → Prop := Presents (slots.map (·.field node))

theorem readsByField : ReadsByField slots ofJson? := by
  have texts := list?_eq_some_iff text?_eq_some_iff
  have origin : ∀ value origin, value.nullable? Origin.ofJson? = some origin ↔
      ShowsOption Origin.Presented origin value :=
    nullable?_eq_some_iff Origin.readsByField.reads_iff rfl
  refine .of_fields rfl (by decide) ?_ (fun found node => ?_) fun said meets => ?_
  · simp only [slots, List.forall_mem_cons]
    exact ⟨sharp_of_reads text?_eq_some_iff, sharp_of_reads texts, sharp_of_reads texts,
      sharp_of_reads origin, List.forall_mem_nil _⟩
  · simp only [slots, List.forall_mem_cons, meets_iff_required text?_eq_some_iff,
      meets_iff_required texts, meets_iff_optional texts, meets_iff_optional origin]
    constructor
    · intro fetched
      simp only [ofFields?, Option.bind_eq_bind, Option.bind_eq_some_iff] at fetched
      obtain ⟨id, h₁, fqn, h₂, tags, h₃, origin, h₄, ⟨⟩⟩ := fetched
      exact ⟨h₁, h₂, h₃, h₄, List.forall_mem_nil _⟩
    · rintro ⟨h₁, h₂, h₃, h₄, -⟩
      simp [ofFields?, h₁, h₂, h₃, h₄]
  · simp only [slots, List.forall_mem_cons, Slot.someField_meets_iff] at meets ⊢
    obtain ⟨⟨id, h₁⟩, ⟨fqn, h₂⟩, ⟨tags, h₃⟩, ⟨origin, h₄⟩, -⟩ := meets
    exact ⟨⟨id, fqn, tags, origin⟩, h₁, h₂, h₃, h₄, List.forall_mem_nil _⟩

end Node

namespace Manifest

/-- The fields of a manifest. -/
def slots : List (Slot Manifest) := [⟨"nodes", List Node, nodes, ShowsEach Node.Presented, none⟩]

/-- The value presents the manifest. -/
def Presented (m : Manifest) : Json → Prop := Presents (slots.map (·.field m))

theorem readsByField : ReadsByField slots ofJson? := by
  have each : ∀ value nodes, value.list? Node.ofJson? = some nodes ↔
      ShowsEach Node.Presented nodes value :=
    list?_eq_some_iff Node.readsByField.reads_iff
  refine .of_fields rfl (by decide) ?_ (fun found m => ?_) fun said meets => ?_
  · simp only [slots, List.forall_mem_cons]
    exact ⟨sharp_of_reads each, List.forall_mem_nil _⟩
  · simp only [slots, List.forall_mem_cons, meets_iff_required each]
    constructor
    · intro fetched
      simp only [ofFields?, Option.bind_eq_bind, Option.bind_eq_some_iff] at fetched
      obtain ⟨nodes, h, ⟨⟩⟩ := fetched
      exact ⟨h, List.forall_mem_nil _⟩
    · rintro ⟨h, -⟩
      simp [ofFields?, h]
  · simp only [slots, List.forall_mem_cons, Slot.someField_meets_iff] at meets ⊢
    obtain ⟨⟨nodes, h⟩, -⟩ := meets
    exact ⟨⟨nodes⟩, h, List.forall_mem_nil _⟩

/-- A manifest is read from the texts that hold a presentation of it. -/
theorem parse?_eq_some_iff {text : String} {m : Manifest} :
    parse? text = some m ↔ ∃ value, Json.read? text = some value ∧ m.Presented value := by
  rw [parse?, Option.bind_eq_some_iff]
  exact exists_congr fun value => and_congr_right fun _ => readsByField.reads_iff value m

end Manifest

/-- Records are read by their fields alone: any presentation of a record is read as the
record, at whatever level it stands, and nothing else is. In a manifest only labels, an
origin and its part may be missing, and `null` stands for the latter two. So manifests that
present the same nodes answer every lookup in the same way. -/
theorem records_read_by_field :
    ReadsByField Selector.slots Selector.ofJson? ∧ ReadsByField Group.slots Group.ofJson? ∧
    ReadsByField Selection.slots Selection.ofJson? ∧
    (∀ (N : Type) (node : Json → Option N),
      ReadsByField (Hits.slots fun n value => node value = some n) (Hits.ofJson? node)) ∧
    ReadsByField Origin.slots Origin.ofJson? ∧ ReadsByField Node.slots Node.ofJson? ∧
    ReadsByField Manifest.slots Manifest.ofJson? ∧
    (∀ members, "tags" ∉ members.map Prod.fst → Node.ofJson? (.record members) =
      Node.ofJson? (.record (("tags", .arr []) :: members))) ∧
    (∀ members, "source" ∉ members.map Prod.fst → Node.ofJson? (.record members) =
      Node.ofJson? (.record (("source", .null) :: members))) ∧
    (∀ members, "table" ∉ members.map Prod.fst → Origin.ofJson? (.record members) =
      Origin.ofJson? (.record (("table", .null) :: members))) ∧
    (∀ members, (some "tags", .null) ∈ members → Node.ofJson? (.obj members) = none) ∧
    (∀ id fqn rest, Node.ofJson? (.arr (id :: fqn :: .null :: rest)) = none) ∧
    (∀ text m, Manifest.parse? text = some m ↔
      ∃ value, Json.read? text = some value ∧ m.Presented value) ∧
    ∀ (one two : Json) (m : Manifest), m.Presented one → m.Presented two →
      ∃ n n', Manifest.ofJson? one = some n ∧ Manifest.ofJson? two = some n' ∧
        ∀ (σ ε : Type) (s : Selector), (n.lookup s : Session σ ε (Hits String)) = n'.lookup s := by
  have tags : ∀ tags : List String, ¬ ShowsEach (fun s v => v = .text s) tags .null := by
    rintro tags ⟨items, ⟨⟩, -⟩
  refine ⟨Selector.readsByField, Group.readsByField, Selection.readsByField,
    fun N node => Hits.readsByField fun _ _ => Iff.rfl, Origin.readsByField, Node.readsByField,
    Manifest.readsByField, fun members absent => ?_, fun members absent => ?_,
    fun members absent => ?_, fun members there => ?_, fun id fqn rest => ?_,
    fun text m => Manifest.parse?_eq_some_iff, fun one two m presents presents' => ?_⟩
  · exact Node.readsByField.defaulted members Node.slots[2] (by simp [Node.slots]) [] _ rfl
      ⟨[], rfl, .nil⟩ absent
  · exact Node.readsByField.defaulted members Node.slots[3] (by simp [Node.slots]) none _ rfl rfl
      absent
  · exact Origin.readsByField.defaulted members Origin.slots[1] (by simp [Origin.slots]) none _ rfl
      rfl absent
  · exact Node.readsByField.mistyped members Node.slots[2] (by simp [Node.slots]) .null tags there
  · exact Node.readsByField.mistypedItem _ (Node.slots[2], .null) (by simp [Node.slots]) tags
  · exact ⟨m, m, (Manifest.readsByField.reads_iff one m).mpr presents,
      (Manifest.readsByField.reads_iff two m).mpr presents', fun _ _ _ => rfl⟩

/-- Two texts of one manifest: its nodes as objects and as arrays, with keys in any order,
with other keys, one of them repeated, and with fields left out or `null`. -/
theorem records_read_by_field_two_texts :
    let m : Manifest := ⟨[⟨"u", ["x", "a"], [], none⟩, ⟨"v", ["b"], ["t"], some ⟨"raw", none⟩⟩]⟩
    let one := "\x7b\"z\":1e999,\"nodes\":[\x7b\"fqn\":[\"x\",\"a\"],\"z\":[\x7b\x7d]," ++
      "\"unique_id\":\"u\",\"z\":\"\\ud800\"\x7d,[\"v\",[\"b\"],[\"t\"],[\"raw\"]]]\x7d"
    let two := "[[[\"u\",[\"x\",\"a\"],[]],\x7b\"source\":\x7b\"table\":null," ++
      "\"name\":\"raw\"\x7d,\"tags\":[\"t\"],\"fqn\":[\"b\"],\"unique_id\":\"v\"\x7d]]"
    ∃ value value', Json.read? one = some value ∧ Json.read? two = some value' ∧
      m.Presented value ∧ m.Presented value' ∧
      ∃ n n', Manifest.ofJson? value = some n ∧ Manifest.ofJson? value' = some n' ∧
        ∀ (σ ε : Type) (s : Selector), (n.lookup s : Session σ ε (Hits String)) = n'.lookup s := by
  intro m one two
  obtain ⟨-, -, -, -, -, -, -, -, -, -, -, -, texts, same⟩ := records_read_by_field
  have first : Manifest.parse? one = some m := by decide +kernel
  have second : Manifest.parse? two = some m := by decide +kernel
  obtain ⟨value, read, presents⟩ := (texts one m).mp first
  obtain ⟨value', read', presents'⟩ := (texts two m).mp second
  exact ⟨value, value', read, read', presents, presents', same value value' m presents presents'⟩

end NodeSelection
