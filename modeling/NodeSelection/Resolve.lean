import NodeSelection.Hits
import NodeSelection.Session

/-!
Resolving groups: asking a lookup for every selector and combining the answers.

A lookup may keep a state, make records of its own and fail. It is asked once per
selector, in the order of the text, and not at all when the text has an error.

* `run_resolve`: with a lookup that only answers, the groups find `hitsOf`.
* `applyTo_eq`: with such a lookup, a text finds what its groups find.
-/

namespace NodeSelection

/-- Finds the nodes of a selector. -/
abbrev Lookup (σ ε N : Type) := Selector → Session σ ε (Hits N)

/-- Why a text could not be applied. -/
inductive ApplyError (ε : Type) where
  /-- A selector of the text is malformed. -/
  | badSelector (error : SyntaxError)
  /-- The lookup failed, with an error that is passed on as it is. -/
  | lookupFailed (error : ε)
deriving DecidableEq, Repr

variable {σ ε N : Type} [DecidableEq N]

/-! ### With a lookup that keeps a state -/

/-- Looks one selector up, with a record in front. -/
def ask (lookup : Lookup σ ε N) (s : Selector) : Session σ ε (Hits N) := do
  Session.note (.lookingUp s.raw)
  lookup s

/-- The answer to a group: its selectors are looked up in order. -/
def Group.answer (lookup : Lookup σ ε N) (g : Group) : Session σ ε (Hits N) := do
  return Hits.combine g.method (← g.selectors.mapM (ask lookup))

/-- The answer to a list of groups: what some of them find. -/
def resolve (lookup : Lookup σ ε N) (groups : List Group) : Session σ ε (Hits N) := do
  let found := Hits.union (← groups.mapM (Group.answer lookup))
  Session.note (.applied groups.length found.matched.length found.selected.length)
  return found

/-- Reads the groups of a text. -/
def readGroups (text : String) : Session σ SyntaxError (List Group) := do
  let groups ← Session.ofExcept (Group.parseAll text)
  Session.note (.parsed groups.length text)
  return groups

/-- Reads a text and resolves its groups with a lookup that may fail. -/
def tryApply (lookup : Lookup σ ε N) (text : String) : Session σ (ApplyError ε) (Hits N) := do
  let groups ← (readGroups text).mapError .badSelector
  (resolve lookup groups).mapError .lookupFailed

/-- Reads a text and resolves its groups with a lookup that cannot fail. -/
def apply (lookup : Lookup σ Empty N) (text : String) : Session σ SyntaxError (Hits N) :=
  (tryApply lookup text).mapError fun
    | .badSelector error => error
    | .lookupFailed error => nomatch error

/-! ### With a lookup that only answers -/

/-- What a group finds when each selector has a fixed answer. -/
def Group.hits (find : Selector → Hits N) (g : Group) : Hits N :=
  Hits.combine g.method (g.selectors.map find)

/-- What a list of groups finds when each selector has a fixed answer. -/
def hitsOf (find : Selector → Hits N) (groups : List Group) : Hits N :=
  Hits.union (groups.map (Group.hits find))

/-- What a text finds when each selector has a fixed answer. -/
def applyTo (find : Selector → Hits N) (text : String) : Except SyntaxError (Hits N) :=
  (apply (fun s => pure (find s)) text).outcome

omit [DecidableEq N] in
/-- A lookup that only answers is recorded, and leaves the state alone. -/
theorem run_ask (find : Selector → Hits N) (t : Selector) (s : σ) :
    (ask (fun u => pure (find u)) t : Session σ ε (Hits N)).run s =
      ⟨.ok (find t), s, [.lookingUp t.raw]⟩ := by
  rw [ask, Session.run_bind_of_ok (Session.run_note _ s)]
  simp

theorem run_answer (find : Selector → Hits N) (g : Group) (s : σ) :
    (g.answer (fun u => pure (find u)) : Session σ ε (Hits N)).run s =
      ⟨.ok (g.hits find), s, g.selectors.flatMap fun t => [.lookingUp t.raw]⟩ := by
  rw [Group.answer, Session.run_bind_of_ok (Session.run_mapM_of_ok
    (fun t => run_ask find t s) g.selectors)]
  simp [Group.hits]

/-- With a lookup that only answers, the groups find `hitsOf`; every lookup is
recorded, and then the lengths of what was found. -/
theorem run_resolve (find : Selector → Hits N) (groups : List Group) (s : σ) :
    (resolve (fun u => pure (find u)) groups : Session σ ε (Hits N)).run s =
      ⟨.ok (hitsOf find groups), s,
        (groups.flatMap fun g => g.selectors.flatMap fun t => [.lookingUp t.raw]) ++
          [.applied groups.length (hitsOf find groups).matched.length
            (hitsOf find groups).selected.length]⟩ := by
  rw [resolve, Session.run_bind_of_ok (Session.run_mapM_of_ok
    (fun g => run_answer find g s) groups)]
  simp only [hitsOf]
  rw [Session.run_bind_of_ok (Session.run_note _ s)]
  simp

theorem run_readGroups_of_ok {text : String} {groups : List Group}
    (h : Group.parseAll text = .ok groups) (s : σ) :
    (readGroups text).run s = ⟨.ok groups, s, [.parsed groups.length text]⟩ := by
  rw [readGroups, h]
  rfl

theorem run_readGroups_of_error {text : String} {error : SyntaxError}
    (h : Group.parseAll text = .error error) (s : σ) :
    (readGroups text).run s = ⟨.error error, s, []⟩ := by
  rw [readGroups, h]
  rfl

/-- With a lookup that only answers, a text finds what its groups find. -/
theorem applyTo_eq (find : Selector → Hits N) (text : String) :
    applyTo find text = (Group.parseAll text).map (hitsOf find) := by
  cases h : Group.parseAll text with
  | error e =>
    have read := run_readGroups_of_error h ()
    simp only [applyTo, Session.outcome, apply, tryApply, Session.run_mapError]
    rw [Session.run_bind_of_error (by rw [Session.run_mapError, read]; rfl)]
    rfl
  | ok groups =>
    have read := run_readGroups_of_ok h ()
    simp only [applyTo, Session.outcome, apply, tryApply, Session.run_mapError]
    rw [Session.run_bind_of_ok (by rw [Session.run_mapError, read]; rfl)]
    simp only [Session.run_mapError, run_resolve]
    rfl

theorem applyTo_of_ok {text : String} {groups : List Group}
    (h : Group.parseAll text = .ok groups) (find : Selector → Hits N) :
    applyTo find text = .ok (hitsOf find groups) := by
  rw [applyTo_eq, h]
  rfl

end NodeSelection
