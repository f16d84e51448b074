import NodeSelection.Toml.Basic

/-!
Building tables from keys, dotted keys and headers.

No key is given twice and no table is defined twice: a dotted key only adds to
tables that dotted keys have made, and a header only opens a table that none but
longer headers have mentioned.

* `keys_put`: replacing a value keeps the keys.
-/

namespace NodeSelection.Toml.Entries

/-- The entries with the value of `key` replaced. -/
def put (key : String) (value : Toml) (entries : Entries) : Entries :=
  entries.map fun e => if e.1 = key then (key, value) else e

/-- Gives a value to a dotted key that has none. -/
def assign (value : Toml) : List String → Entries → Option Entries
  | [], _ => none
  | [key], entries =>
    match entries.lookup key with
    | none => some (entries ++ [(key, value)])
    | some _ => none
  | key :: path, entries =>
    match entries.lookup key with
    | none => (assign value path []).map fun below => entries ++ [(key, .table .dotted below)]
    | some (.table .dotted below) =>
      (assign value path below).map fun below => entries.put key (.table .dotted below)
    | some _ => none

/-- Adds what a header opens at the end of a path: `opened none` if nothing is there
yet, else `opened (some value)`. The tables on the way are made if they are missing;
of a repeated header, the last table counts. -/
def openAt (opened : Option Toml → Option Toml) : List String → Entries → Option Entries
  | [], _ => none
  | [key], entries =>
    match entries.lookup key with
    | none => (opened none).map fun value => entries ++ [(key, value)]
    | some found => (opened (some found)).map fun value => entries.put key value
  | key :: path, entries =>
    match entries.lookup key with
    | none => (openAt opened path []).map fun below => entries ++ [(key, .table .implied below)]
    | some (.table .inline _) => none
    | some (.table form below) =>
      (openAt opened path below).map fun below => entries.put key (.table form below)
    | some (.tables elements) =>
      (openAt opened path (elements.getLast?.getD [])).map fun last =>
        entries.put key (.tables (elements.dropLast ++ [last]))
    | some _ => none

/-- What a header makes of its table: a new one, or one that longer headers mention. -/
def openHeader : Option Toml → Option Toml
  | none => some (.table .header [])
  | some (.table .implied below) => some (.table .header below)
  | some _ => none

/-- What a repeated header makes of its tables: one more of them. -/
def openElement : Option Toml → Option Toml
  | none => some (.tables [[]])
  | some (.tables elements) => some (.tables (elements ++ [[]]))
  | some _ => none

/-- Changes the table that a header has opened. -/
def within (change : Entries → Option Entries) : List String → Entries → Option Entries
  | [], entries => change entries
  | key :: path, entries =>
    match entries.lookup key with
    | some (.table form below) =>
      (within change path below).map fun below => entries.put key (.table form below)
    | some (.tables elements) =>
      (within change path (elements.getLast?.getD [])).map fun last =>
        entries.put key (.tables (elements.dropLast ++ [last]))
    | _ => none

/-- Replacing a value keeps the keys. -/
@[simp] theorem keys_put (key : String) (value : Toml) (entries : Entries) :
    (put key value entries).map Prod.fst = entries.map Prod.fst := by
  rw [put, List.map_map]
  refine List.map_congr_left fun e _ => ?_
  by_cases h : e.1 = key <;> simp [h]

end NodeSelection.Toml.Entries
