import NodeSelection.Config
import NodeSelection.Manifest.Record

/-!
No text is both a config file and a manifest.

A manifest begins with a brace, or with two brackets and then another bracket or a brace,
perhaps with blanks between them. Where a statement of a config file may begin, a brace
says nothing, and behind brackets there must be a key. So a path that names a config file
names no manifest, whatever the other settings are.

* `Json.begins_of_value`: how a value begins.
* `Manifest.leads_of_parse?`: how a manifest begins.
* `Toml.statement_brace`, `Toml.statement_brackets`: nothing that begins so is a statement.
* `Manifest.parse?_eq_none_of_settings`: a config file is no manifest.
-/

namespace NodeSelection

/-! ### How a manifest begins -/

namespace Json

/-- Nothing but blanks stands in front of the rest of the text. -/
def Behind (text rest : List Char) : Prop :=
  ∃ gap : List Char, (∀ c ∈ gap, isBlank c = true) ∧ text = gap ++ rest

theorem behind_skipBlanks (text : List Char) : Behind text (skipBlanks text) := by
  refine ⟨text.takeWhile isBlank, fun c mem => ?_, List.takeWhile_append_dropWhile.symm⟩
  exact List.all_eq_true.mp List.all_takeWhile c mem

theorem Behind.of_skipBlanks {text rest : List Char} (behind : Behind (skipBlanks text) rest) :
    Behind text rest := by
  obtain ⟨outer, blank, whole⟩ := behind_skipBlanks text
  obtain ⟨inner, blank', whole'⟩ := behind
  refine ⟨outer ++ inner, fun c mem => ?_, ?_⟩
  · rcases List.mem_append.mp mem with mem | mem
    · exact blank c mem
    · exact blank' c mem
  · rw [List.append_assoc, ← whole', ← whole]

theorem behind_of_eq {text rest : List Char} (opened : skipBlanks text = rest) :
    Behind text rest :=
  opened ▸ behind_skipBlanks text

/-- The value holds others: it is an array or an object. -/
def isNested : Json → Bool
  | .arr _ | .obj _ => true
  | _ => false

/-- How the text of a value begins, as far as brackets and braces tell. -/
inductive Begins : List Char → Json → Prop where
  | obj {text tail : List Char} {members : List (Option String × Json)}
      (opened : Behind text ('{' :: tail)) : Begins text (.obj members)
  | empty {text tail after : List Char} (opened : Behind text ('[' :: tail))
      (closed : Behind tail (']' :: after)) : Begins text (.arr [])
  | arr {text tail : List Char} {first : Json} {others : List Json}
      (opened : Behind text ('[' :: tail)) (inner : Begins tail first) :
      Begins text (.arr (first :: others))
  | plain {text : List Char} {v : Json} (flat : isNested v = false) : Begins text v

theorem Begins.of_skipBlanks {text : List Char} {v : Json} (begins : Begins (skipBlanks text) v) :
    Begins text v := by
  cases begins with
  | obj opened => exact .obj opened.of_skipBlanks
  | empty opened closed => exact .empty opened.of_skipBlanks closed
  | arr opened inner => exact .arr opened.of_skipBlanks inner
  | plain flat => exact .plain flat

theorem isNested_of_number {text rest : List Char} {v : Json}
    (read : number text = some (v, rest)) : isNested v = false := by
  simp only [number, Option.bind_eq_bind, Option.bind_eq_some_iff] at read
  obtain ⟨n, -, read⟩ := read
  split at read
  · cases read
  · obtain ⟨_, -, read⟩ := Option.bind_eq_some_iff.mp read
    obtain ⟨_, -, read⟩ := Option.bind_eq_some_iff.mp read
    split at read <;> cases read <;> rfl

theorem isNested_of_atom {text rest : List Char} {v : Json}
    (read : atom text = some (v, rest)) : isNested v = false := by
  unfold atom at read
  split at read
  · next found word =>
    cases read
    obtain ⟨⟨keyword, value⟩, mem, taken⟩ := List.exists_of_findSome?_eq_some word
    obtain ⟨_, -, same⟩ := Option.map_eq_some_iff.mp taken
    cases same
    simp only [keywords, List.mem_cons, Prod.mk.injEq, List.not_mem_nil, or_false] at mem
    rcases mem with ⟨-, rfl⟩ | ⟨-, rfl⟩ | ⟨-, rfl⟩ <;> rfl
  · exact isNested_of_number read

theorem exists_value_of_items {bound : Nat} {text after : List Char} {list : List Json}
    (read : items bound text = some (list, after)) :
    ∃ b first rest others, b < bound ∧ value b text = some (first, rest) ∧
      list = first :: others := by
  obtain _ | bound := bound
  · cases read
  rw [items, Option.bind_eq_bind, Option.bind_eq_some_iff] at read
  obtain ⟨⟨first, rest⟩, head, read⟩ := read
  dsimp only at read
  split at read
  · obtain ⟨⟨others, _⟩, -, same⟩ := Option.bind_eq_some_iff.mp read
    cases same
    exact ⟨bound, first, rest, others, Nat.lt_succ_self _, head, rfl⟩
  · cases read
    exact ⟨bound, first, rest, [], Nat.lt_succ_self _, head, rfl⟩
  · cases read

/-- A value begins as its kind tells. -/
theorem begins_of_value {bound : Nat} {text rest : List Char} {v : Json}
    (read : value bound text = some (v, rest)) : Begins text v := by
  induction bound using Nat.strongRecOn generalizing text rest v with
  | ind bound ih =>
    obtain _ | bound := bound
    · cases read
    rw [value] at read
    split at read
    · obtain ⟨_, -, same⟩ := Option.map_eq_some_iff.mp read
      cases same
      exact .plain rfl
    · next tail opened =>
      split at read
      · next after closed =>
        cases read
        exact .empty (behind_of_eq opened) (behind_of_eq closed)
      · obtain ⟨⟨list, after⟩, inner, same⟩ := Option.map_eq_some_iff.mp read
        cases same
        obtain ⟨b, first, _, others, below, head, rfl⟩ := exists_value_of_items inner
        exact .arr (behind_of_eq opened) (ih b (by omega) head).of_skipBlanks
    · next tail opened =>
      split at read
      · cases read
        exact .obj (behind_of_eq opened)
      · obtain ⟨_, -, same⟩ := Option.map_eq_some_iff.mp read
        cases same
        exact .obj (behind_of_eq opened)
    · exact .plain (isNested_of_atom read)

theorem begins_of_read? {text : String} {v : Json} (read : read? text = some v) :
    Begins text.toList v := by
  unfold read? at read
  split at read
  · next found =>
    split at read
    · cases read
      exact begins_of_value found
    · cases read
  · cases read

theorem isNested_of_fields? {names : List String} {v : Json} {fields : Fields}
    (presents : v.fields? names = some fields) : isNested v = true := by
  cases v with
  | arr | obj => rfl
  | null | bool | int | real | str => cases presents

end Json

/-- How the text of a manifest begins: with a brace, or with two brackets and then the
beginning of a node or the end of the nodes. -/
inductive Leads (text : List Char) : Prop where
  | brace {tail : List Char} (opened : Json.Behind text ('{' :: tail)) : Leads text
  | brackets {outer inner rest : List Char} {c : Char}
      (opened : Json.Behind text ('[' :: outer)) (again : Json.Behind outer ('[' :: inner))
      (next : Json.Behind inner (c :: rest)) (mark : c ∈ ['{', '[', ']']) : Leads text

theorem Manifest.leads_of_parse? {text : String} {m : Manifest}
    (parsed : Manifest.parse? text = some m) : Leads text.toList := by
  obtain ⟨v, read, record⟩ := Option.bind_eq_some_iff.mp parsed
  obtain ⟨fields, presents, holds⟩ := Option.bind_eq_some_iff.mp record
  obtain ⟨nodes, required, -⟩ := Option.bind_eq_some_iff.mp holds
  cases Json.begins_of_read? read with
  | obj opened => exact .brace opened
  | empty opened closed =>
    obtain rfl : [] = fields := Option.some.inj presents
    cases required
  | @arr _ _ first others opened inner =>
    have listed : Json.list? Node.ofJson? first = some nodes := by
      rw [Json.fields?] at presents
      split at presents
      · obtain rfl := Option.some.inj presents
        exact required
      · cases presents
    cases inner with
    | obj => cases listed
    | empty again closed => exact .brackets opened again closed (by simp)
    | @arr _ _ node others again inner =>
      rw [Json.list?, List.mapM_cons, Option.bind_eq_bind, Option.bind_eq_some_iff] at listed
      obtain ⟨_, first, -⟩ := listed
      obtain ⟨_, nested, -⟩ := Option.bind_eq_some_iff.mp first
      cases inner with
      | obj next | empty next | arr next => exact .brackets opened again next (by simp)
      | plain flat =>
        rw [Json.isNested_of_fields? nested] at flat
        cases flat
    | plain flat =>
      cases first with
      | arr => cases flat
      | null | bool | int | real | str | obj => cases listed
  | plain flat =>
    rw [Json.isNested_of_fields? presents] at flat
    cases flat

/-! ### Where no statement begins -/

namespace Toml

theorem simpleKey_eq_none {c : Char} (mark : c ∈ ['{', '[', ']', '\n', '\r']) (rest : List Char) :
    simpleKey (c :: rest) = none := by
  simp only [List.mem_cons, List.not_mem_nil, or_false] at mark
  rcases mark with rfl | rfl | rfl | rfl | rfl <;> rfl

/-- A blank of the one format is a blank or the end of a line in the other. -/
theorem isBlank_or_lineEnd {c : Char} (blank : Json.isBlank c = true) :
    isBlank c = true ∨ c = '\n' ∨ c = '\r' := by
  simp only [Json.isBlank, isBlank, Bool.or_eq_true, beq_iff_eq] at blank ⊢
  rcases blank with ((rfl | rfl) | rfl) | rfl <;> simp

/-- No key begins behind blanks with a bracket or a brace, even where lines end. -/
theorem simpleKey_skipBlanks_eq_none {text rest : List Char} {c : Char}
    (behind : Json.Behind text (c :: rest)) (mark : c ∈ ['{', '[', ']']) :
    simpleKey (skipBlanks text) = none := by
  obtain ⟨gap, blank, rfl⟩ := behind
  induction gap with
  | nil =>
    simp only [List.mem_cons, List.not_mem_nil, or_false] at mark
    rcases mark with rfl | rfl | rfl <;> exact simpleKey_eq_none (by simp) rest
  | cons d gap ih =>
    obtain ⟨first, blank⟩ := List.forall_mem_cons.mp blank
    rcases isBlank_or_lineEnd first with skipped | rfl | rfl
    · rw [List.cons_append, skipBlanks, List.dropWhile_cons_of_pos skipped]
      exact ih blank
    · exact simpleKey_eq_none (by simp) _
    · exact simpleKey_eq_none (by simp) _

theorem keyPath_eq_none {text : List Char} (noKey : simpleKey (skipBlanks text) = none) :
    keyPath text = none := by
  have noPath : dottedKey text.length text = none := by
    cases text.length with
    | zero => rfl
    | succ bound => rw [dottedKey, noKey]; rfl
  rw [keyPath, noPath]
  rfl

theorem statement_eq_none {text : List Char} (noKey : simpleKey (skipBlanks text) = none)
    (noHeader : ∀ rest, text ≠ '[' :: rest) : statement text = none := by
  have noPair : keyBefore text = none := by
    rw [keyBefore, keyPath_eq_none noKey]
    rfl
  unfold statement
  split
  · exact absurd rfl (noHeader _)
  · exact absurd rfl (noHeader _)
  · rw [noPair]
    rfl

/-- A brace says nothing. -/
theorem statement_brace (rest : List Char) : statement ('{' :: rest) = none :=
  statement_eq_none (simpleKey_eq_none (by simp) rest) (by simp)

/-- Neither does half of a line end. -/
theorem statement_return (rest : List Char) : statement ('\r' :: rest) = none :=
  statement_eq_none (simpleKey_eq_none (by simp) rest) (by simp)

/-- Behind brackets there must be a key, and no further bracket or brace. -/
theorem statement_brackets {outer inner rest : List Char} {c : Char}
    (again : Json.Behind outer ('[' :: inner)) (next : Json.Behind inner (c :: rest))
    (mark : c ∈ ['{', '[', ']']) : statement ('[' :: outer) = none := by
  have noElement := keyPath_eq_none (simpleKey_skipBlanks_eq_none next mark)
  have noHeader := keyPath_eq_none (simpleKey_skipBlanks_eq_none again (by simp))
  obtain ⟨gap, blank, rfl⟩ := again
  cases gap with
  | nil =>
    show (keyPath inner >>= _) = none
    rw [noElement]
    rfl
  | cons d gap =>
    have noBracket : d ≠ '[' := by
      rintro rfl
      exact absurd (blank '[' List.mem_cons_self) (by decide)
    unfold statement
    split
    · next same => exact absurd (List.cons.inj (List.cons.inj same).2).1 noBracket
    · next same =>
      cases same
      rw [noHeader]
      rfl
    · next notBracket => exact absurd rfl (notBracket _)

/-! ### Documents -/

theorem statements_blank {c : Char} (blank : isBlank c = true) (bound : Nat) (text : List Char) :
    statements bound (c :: text) = statements bound text := by
  cases bound with
  | zero => rfl
  | succ bound =>
    rw [statements, statements, skipBlanks, List.dropWhile_cons_of_pos blank]
    rfl

theorem statements_newLine (bound : Nat) (text : List Char) :
    statements (bound + 1) ('\n' :: text) = statements bound text := rfl

theorem statements_return_newLine (bound : Nat) (text : List Char) :
    statements (bound + 1) ('\r' :: '\n' :: text) = statements bound text := rfl

/-- Where no line ends and no statement begins, no document does. -/
theorem statements_solid {c : Char} {text : List Char}
    (solid : skipBlanks (c :: text) = c :: text) (noEnd : lineEnd? (c :: text) = none)
    (nothing : statement (c :: text) = none) (bound : Nat) :
    statements bound (c :: text) = none := by
  cases bound with
  | zero => rfl
  | succ bound =>
    rw [statements, solid]
    dsimp only
    rw [noEnd, nothing]
    rfl

theorem statements_return {text : List Char} (noEnd : ∀ rest, text ≠ '\n' :: rest) (bound : Nat) :
    statements bound ('\r' :: text) = none := by
  refine statements_solid rfl ?_ (statement_return text) bound
  show newLine? ('\r' :: text) = none
  unfold newLine?
  split
  · next same => cases same
  · next same => exact absurd (List.cons.inj same).2 (noEnd _)
  · rfl

/-- Blanks and line ends in front do not help what is no statement. -/
theorem statements_eq_none {text rest : List Char} {c : Char}
    (behind : Json.Behind text (c :: rest)) (mark : c = '{' ∨ c = '[')
    (nothing : statement (c :: rest) = none) (bound : Nat) : statements bound text = none := by
  obtain ⟨gap, blank, rfl⟩ := behind
  induction gap generalizing bound with
  | nil => rcases mark with rfl | rfl <;> exact statements_solid rfl rfl nothing bound
  | cons d gap ih =>
    obtain ⟨first, others⟩ := List.forall_mem_cons.mp blank
    rcases isBlank_or_lineEnd first with skipped | rfl | rfl
    · rw [List.cons_append, statements_blank skipped]
      exact ih bound others
    · cases bound with
      | zero => rfl
      | succ bound => exact ih bound others
    · by_cases ends : ∃ after, gap ++ c :: rest = '\n' :: after
      · obtain ⟨after, same⟩ := ends
        cases bound with
        | zero => rfl
        | succ bound =>
          -- both line ends of the two leave the same, so the shorter text tells
          have shorter := ih (bound + 1) others
          rw [same, statements_newLine] at shorter
          rw [List.cons_append, same, statements_return_newLine, shorter]
      · exact statements_return (fun after same => ends ⟨after, same⟩) bound

theorem statements_eq_none_of_leads {text : List Char} (leads : Leads text) (bound : Nat) :
    statements bound text = none := by
  cases leads with
  | brace opened => exact statements_eq_none opened (.inl rfl) (statement_brace _) bound
  | brackets opened again next mark =>
    exact statements_eq_none opened (.inr rfl) (statement_brackets again next mark) bound

/-- Such a text has no mark in front. -/
theorem takeMark_of_behind {text rest : List Char} {c : Char}
    (behind : Json.Behind text (c :: rest)) (mark : c = '{' ∨ c = '[') :
    (Text.takeMark '\ufeff' text).2 = text := by
  obtain ⟨gap, blank, rfl⟩ := behind
  cases gap with
  | nil => rcases mark with rfl | rfl <;> rfl
  | cons d gap =>
    have noMark : d ≠ '\ufeff' := by
      rintro rfl
      exact absurd (blank '\ufeff' List.mem_cons_self) (by decide)
    rw [List.cons_append, Text.takeMark_of_ne noMark]

theorem read?_eq_none_of_leads {text : String} (leads : Leads text.toList) : read? text = none := by
  have unmarked : (Text.takeMark '\ufeff' text.toList).2 = text.toList := by
    cases leads with
    | brace opened => exact takeMark_of_behind opened (.inl rfl)
    | brackets opened => exact takeMark_of_behind opened (.inr rfl)
  rw [read?, unmarked, statements_eq_none_of_leads leads]
  rfl

end Toml

/-- A config file is no manifest. -/
theorem Manifest.parse?_eq_none_of_settings {text : String} {config : Settings}
    (holds : Settings.parse? text = some config) : Manifest.parse? text = none := by
  refine Option.eq_none_iff_forall_ne_some.mpr fun m parsed => ?_
  rw [Settings.parse?, Toml.read?_eq_none_of_leads (leads_of_parse? parsed)] at holds
  cases holds

end NodeSelection
