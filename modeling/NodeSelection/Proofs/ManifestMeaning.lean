import Mathlib.Data.List.Nodup
import NodeSelection.Proofs.Growth
import NodeSelection.Proofs.Meaning
import NodeSelection.Proofs.Results

/-!
The meaning of two texts against a manifest, in terms of its nodes.

Words are matched against nodes, and what is found are identifiers. So where identifiers
repeat, the parts of a word may be met by different nodes of the same identifier. Where they
do not, two texts are a formula that a node satisfies or does not.

* `on_hits_text`: what two texts find, whatever the lookup.
* `wordAdmits_iff`, `earlier_textMention_iff`: words admit and mention identifiers by nodes.
* `admits_iff_satisfies`: without repeats, a word admits what satisfies it.
* `Manifest.means_of_parse`: what two texts find in a manifest is what they mean there.
* `Manifest.apply_means`: and it is what a run against the manifest prints.
-/

namespace NodeSelection

/-! ### Words and nodes -/

/-- The node meets a part of a word, which must be a selector. -/
def Node.meetsPart (node : Node) (part : String) : Bool :=
  match Selector.parse part with
  | .ok s => node.meets s
  | .error _ => false

/-- The node satisfies a word: the word has a part, and the node meets all of its parts. -/
def Node.Satisfies (node : Node) (word : List Char) : Prop :=
  wordParts word ≠ [] ∧ ∀ part ∈ wordParts word, node.meetsPart part = true

/-- The node satisfies a word to include, and no word to exclude. -/
def Node.Fits (node : Node) (request : Request) : Prop :=
  (∃ word ∈ textWords request.select, node.Satisfies word) ∧
    ¬ ∃ word ∈ textWords request.exclude, node.Satisfies word

instance (node : Node) (word : List Char) : Decidable (node.Satisfies word) := by
  unfold Node.Satisfies
  infer_instance

instance (node : Node) (request : Request) : Decidable (node.Fits request) := by
  unfold Node.Fits
  infer_instance

namespace Manifest

/-- The word lets the identifier in: it has a part, and each of its parts is met by a node
of that identifier. -/
def Admits (m : Manifest) (word : List Char) (id : String) : Prop :=
  wordParts word ≠ [] ∧
    ∀ part ∈ wordParts word, ∃ node ∈ m.nodes, node.id = id ∧ node.meetsPart part = true

instance (m : Manifest) (word : List Char) (id : String) : Decidable (m.Admits word id) := by
  unfold Admits
  infer_instance

/-- Where a text mentions an identifier first: the number of the first word that admits it,
and the place in the manifest of the first node with that identifier that meets the first
part of that word. -/
def mention (m : Manifest) (text : String) (id : String) : Nat × Nat :=
  let first := ((textWords text).find? (m.Admits · id)).bind fun word => (wordParts word).head?
  ((textWords text).findIdx (m.Admits · id),
    m.nodes.findIdx fun node => first.any node.meetsPart && node.id == id)

/-- A list of identifiers is what a request means in a manifest. -/
structure Means (m : Manifest) (request : Request) (found : List String) : Prop where
  /-- An identifier is found when a word to include admits it, and no word to exclude does. -/
  mem_iff : ∀ id, id ∈ found ↔ (∃ word ∈ textWords request.select, m.Admits word id) ∧
    ¬ ∃ word ∈ textWords request.exclude, m.Admits word id
  /-- Each identifier is found once. -/
  nodup : found.Nodup
  /-- They stand in the order in which the text to include mentions them first. -/
  before_iff : ∀ x ∈ found, ∀ y ∈ found, found.idxOf x < found.idxOf y ↔
    Ordered.Earlier (m.mention request.select x) (m.mention request.select y)
  /-- Where no identifier repeats, just the nodes that fit the request are found. -/
  perm : (m.nodes.map Node.id).Nodup →
    found.Perm ((m.nodes.filter fun node => node.Fits request).map Node.id)

end Manifest

/-! ### What two texts find -/

section Texts

variable {N : Type} [DecidableEq N] {request : Request} {s : Selection}

/-- What two texts find on a side: what the words of one have in common, joined, without what
a word of the other admits. -/
theorem on_hits_text (parsed : Selection.parse request = .ok s) (find : Selector → Hits N)
    (side : Side) : (s.hits find).on side =
      (Ordered.union ((textWords request.select).map
        (wordSequence fun t => (find t).on side))).filter fun n =>
          ¬ ∃ word ∈ textWords request.exclude, WordAdmits (fun t => (find t).on side) word n := by
  obtain ⟨included, excluded, -⟩ := Selection.parse_eq_ok_iff.mp parsed
  rw [Selection.hits_eq, Hits.on_difference, on_hitsOf_text included, on_hitsOf_text excluded,
    Ordered.difference]
  refine List.filter_congr fun n _ => ?_
  simp [mem_wordSequence_iff]

end Texts

namespace Manifest

variable {m : Manifest} {word : List Char} {id : String}

/-- The answer of a manifest to a selector. -/
def answer (m : Manifest) (s : Selector) : List String := (m.find s).matched

theorem partAnswer_answer (m : Manifest) (part : String) :
    partAnswer m.answer part = (m.nodes.filter (·.meetsPart part)).map Node.id := by
  unfold partAnswer Node.meetsPart
  cases Selector.parse part with
  | error e => simp
  | ok s => rfl

theorem wordAdmits_iff : WordAdmits m.answer word id ↔ m.Admits word id := by
  unfold WordAdmits Admits
  simp only [partAnswer_answer, List.mem_map, List.mem_filter]
  refine and_congr_right fun _ => forall₂_congr fun part _ => exists_congr fun node => ?_
  exact and_assoc.trans (and_congr_right fun _ => and_comm)

/-! ### Order -/

/-- The first answer to a word, by the nodes that meet the first part of it. -/
theorem firstAnswer_eq (m : Manifest) (word : Option (List Char)) :
    (word.map (firstAnswer m.answer)).getD [] =
      (m.nodes.filter fun node => (word.bind fun w => (wordParts w).head?).any node.meetsPart).map
        Node.id := by
  cases word with
  | none => simp
  | some word =>
    rw [Option.map_some, Option.getD_some, firstAnswer, Option.bind_some]
    cases (wordParts word).head? with
    | none => simp
    | some part => exact partAnswer_answer m part

/-- The text mentions identifiers in the order of the nodes that are behind them. -/
theorem earlier_textMention_iff (m : Manifest) (text : String) (x y : String) :
    Ordered.Earlier (textMention m.answer text x) (textMention m.answer text y) ↔
      Ordered.Earlier (m.mention text x) (m.mention text y) := by
  rw [Ordered.Earlier, Ordered.Earlier, Prod.lex_def, Prod.lex_def]
  simp only [textMention, mention, wordAdmits_iff]
  refine or_congr_right (and_congr_right fun same => ?_)
  -- Both identifiers are mentioned first in the same word, if at all.
  have word : (textWords text).find? (m.Admits · y) = (textWords text).find? (m.Admits · x) := by
    rw [List.find?_eq_getElem?_findIdx, List.find?_eq_getElem?_findIdx, same]
  rw [word, firstAnswer_eq]
  exact Ordered.idxOf_map_filter_lt_iff _ _ _ _ _

/-! ### Identifiers without repeats -/

/-- Where no identifier repeats, a word admits that of a node when the node satisfies it. -/
theorem admits_iff_satisfies (distinct : (m.nodes.map Node.id).Nodup) {node : Node}
    (mem : node ∈ m.nodes) : m.Admits word node.id ↔ node.Satisfies word := by
  refine and_congr_right fun _ => forall₂_congr fun part _ => ?_
  constructor
  · rintro ⟨other, there, same, meets⟩
    exact List.inj_on_of_nodup_map distinct there mem same ▸ meets
  · exact fun meets => ⟨node, mem, rfl, meets⟩

/-- What a word admits is the identifier of a node. -/
theorem Admits.exists_node (admits : m.Admits word id) : ∃ node ∈ m.nodes, node.id = id := by
  obtain ⟨some, all⟩ := admits
  obtain ⟨part, first⟩ := List.exists_mem_of_ne_nil _ some
  obtain ⟨node, mem, same, -⟩ := all part first
  exact ⟨node, mem, same⟩

/-! ### What two texts find in a manifest -/

theorem means_of_parse {request : Request} {s : Selection}
    (parsed : Selection.parse request = .ok s) (m : Manifest) :
    m.Means request (s.hits m.find).matched := by
  have found : (s.hits m.find).matched =
      (Ordered.union ((textWords request.select).map (wordSequence m.answer))).filter fun id =>
        ¬ ∃ word ∈ textWords request.exclude, WordAdmits m.answer word id :=
    on_hits_text parsed m.find .matched
  have meaning := means_union request.select m.answer
  have mem : ∀ id, id ∈ (s.hits m.find).matched ↔
      (∃ word ∈ textWords request.select, m.Admits word id) ∧
        ¬ ∃ word ∈ textWords request.exclude, m.Admits word id := fun id => by
    rw [found, List.mem_filter, meaning.mem_iff, decide_eq_true_iff]
    simp only [wordAdmits_iff]
  have nodup : (s.hits m.find).matched.Nodup := found ▸ meaning.nodup.filter _
  refine ⟨mem, nodup, fun x hx y hy => ?_, fun distinct => ?_⟩
  · rw [found] at hx hy ⊢
    obtain ⟨hx, keptX⟩ := List.mem_filter.mp hx
    obtain ⟨hy, keptY⟩ := List.mem_filter.mp hy
    rw [Ordered.idxOf_filter_lt_iff (p := fun id =>
        ¬ ∃ word ∈ textWords request.exclude, WordAdmits m.answer word id) keptX keptY,
      meaning.before_iff x hx y hy, earlier_textMention_iff]
  · refine (List.perm_ext_iff_of_nodup nodup (distinct.sublist (List.filter_sublist.map _))).mpr ?_
    intro id
    rw [mem, List.mem_map]
    constructor
    · rintro ⟨⟨word, there, admits⟩, unexcluded⟩
      obtain ⟨node, mem, rfl⟩ := admits.exists_node
      have fits : node.Fits request := by
        refine ⟨⟨word, there, (admits_iff_satisfies distinct mem).mp admits⟩, ?_⟩
        simpa only [admits_iff_satisfies distinct mem] using unexcluded
      exact ⟨node, List.mem_filter.mpr ⟨mem, decide_eq_true fits⟩, rfl⟩
    · rintro ⟨node, kept, rfl⟩
      obtain ⟨mem, fits⟩ := List.mem_filter.mp kept
      simp only [admits_iff_satisfies distinct mem]
      exact of_decide_eq_true fits

/-- A manifest knows no edges, so the nodes that match are the nodes that are selected. -/
theorem hits_find_eq_both (m : Manifest) (s : Selection) :
    s.hits m.find = .both (s.hits m.find).matched := by
  refine Hits.ext_on fun side => ?_
  cases side with
  | matched => rfl
  | selected =>
    show (s.hits m.find).on .selected = (s.hits m.find).on .matched
    rw [Selection.on_hits_eq_filter, Selection.on_hits_eq_filter]
    rfl

/-- Two texts whose selectors can be read select from a manifest what they mean there,
and whatever is asked to select them prints just that. -/
theorem apply_means (m : Manifest) (request : Request)
    (select : Group.Readable request.select) (exclude : Group.Readable request.exclude) :
    ∃ s found, Selection.parse request = .ok s ∧
      (s.select m.lookup).outcome = .ok (.both found) ∧ m.Means request found ∧
      ∀ complain files args i path text, Invocation.read args = .ok i →
        i.command = .apply path → i.request complain files = .ok request →
        files path = .ok text → Manifest.parse? text = some m →
        (runProgram complain files args).1 =
          .success (printed ((Hits.both found).toJson .text)) := by
  obtain ⟨included, hi⟩ := select
  obtain ⟨excluded, he⟩ := exclude
  have parsed := Selection.parse_of_ok hi he
  refine ⟨_, _, parsed, ?_, means_of_parse parsed m, ?_⟩
  · rw [Selection.outcome_select_manifest, ← hits_find_eq_both]
  · intro complain files args i path text read command asked found holds
    refine (runProgram_eq_success_iff read).mpr ⟨request, _, asked, parsed, ?_⟩
    rw [command, Command.prints, outcome_load_eq_ok_iff.mpr ⟨text, found, holds⟩,
      ← hits_find_eq_both]
    rfl

/-- Different nodes of one identifier meet the parts of a word to include, and those of a
word to exclude. -/
theorem apply_means_shared_id :
    let m : Manifest := ⟨[⟨"u", ["x", "a"], [], none⟩, ⟨"v", ["b"], ["t"], none⟩,
      ⟨"w", ["c"], ["t"], none⟩, ⟨"u", ["d"], ["t"], none⟩, ⟨"w", ["a"], [], none⟩]⟩
    let text := "[[[\"u\",[\"x\",\"a\"]],[\"v\",[\"b\"],[\"t\"]],[\"w\",[\"c\"],[\"t\"]]," ++
      "[\"u\",[\"d\"],[\"t\"]],[\"w\",[\"a\"]]]]"
    let complain : Complaints := fun _ _ => ""
    let files : Files := fun path => if path = "m" then .ok text else .error .notFound
    m.Means ⟨"b a,tag:t", "a,d", 0⟩ ["v", "w"] ∧
      (runProgram complain files
          ["apply", "--manifest=m", "--select=b a,tag:t", "--exclude=a,d"]).1 =
        .success (printed ((Hits.both ["v", "w"]).toJson .text)) := by
  intro m text complain files
  obtain ⟨s, found, parsed, selected, means, prints⟩ :=
    apply_means m ⟨"b a,tag:t", "a,d", 0⟩ (by decide +kernel) (by decide +kernel)
  have known : Selection.parse ⟨"b a,tag:t", "a,d", 0⟩ = .ok
      ⟨[⟨.unite, [⟨.fqn, "b", false, false, false, "b"⟩]⟩,
        ⟨.intersect, [⟨.fqn, "a", false, false, false, "a"⟩,
          ⟨.tag, "t", false, false, false, "tag:t"⟩]⟩],
       [⟨.intersect, [⟨.fqn, "a", false, false, false, "a"⟩,
          ⟨.fqn, "d", false, false, false, "d"⟩]⟩], 0⟩ := by decide +kernel
  obtain rfl := Except.ok.inj (parsed.symm.trans known)
  have kept : Except.ok (.both found) = (.ok (.both ["v", "w"]) : Except Empty (Hits String)) :=
    selected.symm.trans (by decide +kernel)
  obtain rfl : found = ["v", "w"] := congrArg Hits.matched (Except.ok.inj kept)
  have read : Invocation.read ["apply", "--manifest=m", "--select=b a,tag:t", "--exclude=a,d"] =
      .ok ⟨.apply "m", none, ⟨some "b a,tag:t", some "a,d", none⟩⟩ := by decide +kernel
  have holds : Manifest.parse? text = some m := by decide +kernel
  exact ⟨means, prints complain files _ _ "m" text read rfl rfl (if_pos rfl) holds⟩

end Manifest

end NodeSelection
