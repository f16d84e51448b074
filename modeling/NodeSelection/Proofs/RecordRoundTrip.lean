import NodeSelection.Proofs.Printing
import NodeSelection.Proofs.Results

/-!
Printed records are read back.

A selection and its hits are printed as records. Whoever reads the text of a record again
has what was printed, so no two records share a text, and a selection may as well be
printed first and resolved later.

* `Selection.written_toJson`, `Hits.written_toJson`: records hold only what is read back.
* `Selection.decode?_pretty`, `Hits.decode?_pretty`: what the program prints is read back.
* `printed_records_read_back`: the records, and the two commands one after the other.
-/

namespace NodeSelection

/-- The selection whose record a text holds. -/
def Selection.decode? (text : String) : Option Selection := (Json.read? text).bind ofJson?

/-- The hits whose record a text holds, if their nodes are named by strings. -/
def Hits.decode? (text : String) : Option (Hits String) :=
  (Json.read? text).bind (ofJson? Json.text?)

/-! ### Records -/

theorem Selector.written_toJson (s : Selector) : s.toJson.Written := by
  refine .obj ?_
  simp only [List.forall_mem_cons]
  exact ⟨.str _, .str _, .bool _, .bool _, .bool _, .str _, nofun⟩

theorem Group.written_toJson (g : Group) : g.toJson.Written := by
  refine .obj ?_
  simp only [List.forall_mem_cons]
  refine ⟨.str _, .arr ?_, nofun⟩
  rw [List.forall_mem_map]
  exact fun s _ => s.written_toJson

theorem Selection.written_toJson (s : Selection) : s.toJson.Written := by
  have groups : ∀ list : List Group, (Json.arr (list.map Group.toJson)).Written := fun list => by
    refine .arr ?_
    rw [List.forall_mem_map]
    exact fun g _ => g.written_toJson
  refine .obj ?_
  simp only [List.forall_mem_cons]
  exact ⟨groups _, groups _, .int _, nofun⟩

theorem Hits.written_toJson (h : Hits String) : (h.toJson .text).Written := by
  have nodes : ∀ list : List String, (Json.arr (list.map .text)).Written := fun list => by
    refine .arr ?_
    rw [List.forall_mem_map]
    exact fun s _ => .str s
  refine .obj ?_
  simp only [List.forall_mem_cons]
  exact ⟨nodes _, nodes _, nofun⟩

/-! ### Texts of records -/

section Gap

variable {gap : String}

/-- A selection is read back from its text, also with blanks behind it. -/
theorem Selection.decode?_pretty (blank : ∀ c ∈ gap.toList, Json.isBlank c = true) (s : Selection) :
    decode? (s.toJson.pretty ++ gap) = some s := by
  rw [decode?, Json.read?_pretty s.written_toJson blank, Option.bind_some, ofJson?_toJson]

theorem Hits.decode?_pretty (blank : ∀ c ∈ gap.toList, Json.isBlank c = true) (h : Hits String) :
    decode? ((h.toJson .text).pretty ++ gap) = some h := by
  rw [decode?, Json.read?_pretty h.written_toJson blank, Option.bind_some,
    ofJson?_toJson Json.text?_text]

end Gap

theorem isBlank_of_mem_lineEnd : ∀ c ∈ "\n".toList, Json.isBlank c = true := by
  simp [Json.isBlank]

theorem Selection.decode?_pretty_toJson (s : Selection) : decode? s.toJson.pretty = some s := by
  have whole : decode? (s.toJson.pretty ++ "") = some s := decode?_pretty (by simp) s
  rwa [String.append_empty] at whole

theorem Hits.decode?_pretty_toJson (h : Hits String) :
    decode? (h.toJson .text).pretty = some h := by
  have whole : decode? ((h.toJson .text).pretty ++ "") = some h := decode?_pretty (by simp) h
  rwa [String.append_empty] at whole

/-- Printed records are read back, so that no two of them share a text. The record that
one command prints is the selection that the other one resolves: with the same settings,
on any manifest, it finds what the other one prints. -/
theorem printed_records_read_back :
    (∀ s : Selection, Selection.decode? s.toJson.pretty = some s) ∧
    (∀ h : Hits String, Hits.decode? (h.toJson .text).pretty = some h) ∧
    (∀ s t : Selection, s.toJson.pretty = t.toJson.pretty → s = t) ∧
    (∀ h k : Hits String, (h.toJson .text).pretty = (k.toJson .text).pretty → h = k) ∧
    ∀ (complain : Complaints) (files : Files) (args : List String) (i : Invocation)
      (output : String), Invocation.read args = .ok i → i.command = .parse →
      (runProgram complain files args).1 = .success output →
      ∃ s, Selection.decode? output = some s ∧
        ∀ (others : Files) (more : List String) (j : Invocation) (path text : String)
          (m : Manifest), Invocation.read more = .ok j → j.command = .apply path →
          j.request complain others = i.request complain files →
          others path = .ok text → Manifest.parse? text = some m →
          ∃ found, (s.select m.lookup).outcome = .ok found ∧
            (runProgram complain others more).1 = .success (printed (found.toJson .text)) ∧
            Hits.decode? (printed (found.toJson .text)) = some found := by
  refine ⟨Selection.decode?_pretty_toJson, Hits.decode?_pretty_toJson, ?_, ?_, ?_⟩
  · intro s t same
    have back := s.decode?_pretty_toJson
    rw [same, t.decode?_pretty_toJson] at back
    exact (Option.some.inj back).symm
  · intro h k same
    have back := h.decode?_pretty_toJson
    rw [same, k.decode?_pretty_toJson] at back
    exact (Option.some.inj back).symm
  · intro complain files args i output read command success
    obtain ⟨request, s, asked, parsed, prints⟩ := (runProgram_eq_success_iff read).mp success
    rw [command, Command.prints] at prints
    obtain rfl := Except.ok.inj prints
    refine ⟨s, Selection.decode?_pretty isBlank_of_mem_lineEnd s, ?_⟩
    intro others more j path text m readMore applied same found holds
    refine ⟨s.hits m.find, s.outcome_select_manifest m, ?_,
      Hits.decode?_pretty isBlank_of_mem_lineEnd _⟩
    refine (runProgram_eq_success_iff readMore).mpr ⟨request, s, same.trans asked, parsed, ?_⟩
    have loaded : (load complain others .manifest Manifest.parse? path :
        Session Unit Failure Manifest).outcome = .ok m :=
      outcome_load_eq_ok_iff.mpr ⟨text, found, holds⟩
    rw [applied, Command.prints, loaded]
    rfl

/-- A record with groups that no text makes and characters that must be escaped, and the
two commands on a manifest in its array form. -/
theorem printed_records_read_back_escapes :
    let s : Selection := ⟨[⟨.intersect, []⟩,
      ⟨.unite, [⟨.tag, "\"\\\u0001\u007f😀", true, true, false, "\n"⟩]⟩], [], Int64.minValue⟩
    let h : Hits String := ⟨["\u001f"], []⟩
    let complain : Complaints := fun _ _ => ""
    let files : Files := fun path =>
      if path = "m" then .ok "[[[\"u\",[\"x\",\"a\"]]]]" else .error .notFound
    Selection.decode? s.toJson.pretty = some s ∧ Hits.decode? (h.toJson .text).pretty = some h ∧
    ∃ output found, (runProgram complain files ["parse", "-sa"]).1 = .success output ∧
      (∃ t, Selection.decode? output = some t ∧
        (t.select (Manifest.mk [⟨"u", ["x", "a"], [], none⟩]).lookup).outcome = .ok found) ∧
      (runProgram complain files ["apply", "--manifest", "m", "--select=a"]).1 =
        .success (printed (found.toJson .text)) := by
  intro s h complain files
  obtain ⟨selections, hits, -, -, runs⟩ := printed_records_read_back
  let flags : Settings := ⟨some "a", none, none⟩
  have read : Invocation.read ["parse", "-sa"] = .ok ⟨.parse, none, flags⟩ := by decide +kernel
  have more : Invocation.read ["apply", "--manifest", "m", "--select=a"] =
      .ok ⟨.apply "m", none, flags⟩ := by decide +kernel
  have parsed : Selection.parse ⟨"a", "", 0⟩ =
      .ok ⟨[⟨.unite, [⟨.fqn, "a", false, false, false, "a"⟩]⟩], [], 0⟩ := by decide +kernel
  have manifest : Manifest.parse? "[[[\"u\",[\"x\",\"a\"]]]]" =
      some ⟨[⟨"u", ["x", "a"], [], none⟩]⟩ := by decide +kernel
  have success : (runProgram complain files ["parse", "-sa"]).1 = .success _ :=
    (runProgram_eq_success_iff read).mpr ⟨_, _, rfl, parsed, rfl⟩
  obtain ⟨t, back, resolved⟩ := runs complain files _ _ _ read rfl success
  obtain ⟨found, selected, printed, -⟩ := resolved files _ _ "m" _ _ more rfl rfl rfl manifest
  exact ⟨selections s, hits h, _, found, success, ⟨t, back, selected⟩, printed⟩

end NodeSelection
