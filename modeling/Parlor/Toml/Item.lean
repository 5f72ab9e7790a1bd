import Parlor.Decimal.Shortest

/-!
# TOML documents

What a document holds, and how its lines build it up.  A table remembers how it came to be, because
that decides what later lines may add to it: a table is opened by one header only, dotted names extend
no table that a header has opened, and a table written within braces is complete.
-/

namespace Parlor.Toml

open Decimal (Binary64)

/-- How a table came to be. -/
inductive Origin where
  /-- Written within braces. -/
  | inline
  /-- Passed through by a header of a table inside it. -/
  | implied
  /-- Made by a dotted name. -/
  | dotted
  /-- Opened by a header. -/
  | header
  deriving DecidableEq, Repr

/-- What a name of a document stands for. -/
inductive Item where
  | string (s : String)
  | integer (n : Int)
  | real (x : Binary64)
  | bool (b : Bool)
  /-- A date, a time or both, in the normal form of its text. -/
  | moment (text : String)
  | array (items : List Item)
  | table (origin : Origin) (entries : List (String × Item))
  /-- Tables under one repeated header, the latest first. -/
  | tables (all : List (List (String × Item)))

/-- The names of a table with what they stand for. -/
abbrev Entries := List (String × Item)

namespace Entries

/-- What a name stands for. -/
def find? (name : String) : Entries → Option Item
  | [] => none
  | (key, item) :: rest => if key = name then some item else find? name rest

/-- Makes a name stand for something. -/
def put (name : String) (item : Item) : Entries → Entries
  | [] => [(name, item)]
  | (key, old) :: rest => if key = name then (name, item) :: rest else (key, old) :: put name item rest

/--
Changes the table at the end of a path that starts in a table.  Tables that are missing on the way
are made, by dotted names or by a header.
-/
def changeAt (isDotted : Bool) (change : Origin → Entries → Option Entries) :
    (path : List String) → Origin → Entries → Option Entries
  | [], origin, entries => change origin entries
  | name :: path, _, entries =>
    match entries.find? name with
    | none => do
      let origin := if isDotted then Origin.dotted else .implied
      let inner ← changeAt isDotted change path origin []
      some (entries.put name (.table origin inner))
    | some (.table .inline _) => none
    | some (.table origin inner) =>
      if isDotted && origin = .header then none
      else do
        let inner ← changeAt isDotted change path origin inner
        some (entries.put name (.table origin inner))
    | some (.tables (latest :: others)) => do
      let latest ← changeAt isDotted change path .header latest
      some (entries.put name (.tables (latest :: others)))
    | some _ => none

/-- Gives a new name in a table, at the end of a dotted name whose beginning is `path`. -/
def giveAt (path : List String) (name : String) (item : Item) (entries : Entries) : Option Entries :=
  changeAt true
    (fun origin entries =>
      if (!path.isEmpty && origin = .header) || (entries.find? name).isSome then none
      else some (entries.put name item))
    path .header entries

/-- Opens the table of a header. -/
def openTable (name : String) (entries : Entries) : Option Entries :=
  match entries.find? name with
  | none => some (entries.put name (.table .header []))
  | some (.table .implied inner) => some (entries.put name (.table .header inner))
  | some _ => none

/-- Opens one more table under a repeated header. -/
def appendTable (name : String) (entries : Entries) : Option Entries :=
  match entries.find? name with
  | none => some (entries.put name (.tables [[]]))
  | some (.tables all) => some (entries.put name (.tables ([] :: all)))
  | some _ => none

end Entries

/-- A line of a document that says something. -/
inductive Line where
  /-- A header, by the path and the name of its table. -/
  | header (path : List String) (name : String)
  /-- A repeated header. -/
  | repeated (path : List String) (name : String)
  /-- A name with its value. -/
  | entry (path : List String) (name : String) (item : Item)

/-- A document so far, and the path of the table that its last header has opened. -/
structure Draft where
  entries : Entries := []
  current : List String := []

/-- Adds a line to a document. -/
def Draft.add (d : Draft) : Line → Option Draft
  | .header path name => do
    let entries ← d.entries.changeAt false (fun _ es => es.openTable name) path .header
    some { entries, current := path ++ [name] }
  | .repeated path name => do
    let entries ← d.entries.changeAt false (fun _ es => es.appendTable name) path .header
    some { entries, current := path ++ [name] }
  | .entry path name item => do
    let entries ← d.entries.changeAt false (fun _ es => es.giveAt path name item) d.current .header
    some { d with entries }

end Parlor.Toml
