/-
Module: Netplay.Toml.Insert
Purpose: The rules by which keys and headers build up tables.
Main exports:
  Toml.Fields.within, Toml.Fields.assign, Toml.Fields.assignAll,
  Toml.Heading, Toml.Fields.addSection
-/
import Netplay.Toml.Value

namespace Netplay.Toml

/-- A header in single or in double brackets. -/
inductive Heading where
  | plain (key : List String)
  /-- Each use opens a table more. -/
  | repeated (key : List String)
deriving Repr, Inhabited, DecidableEq

namespace Fields

/-- Changes the table at a path and gives the whole back.  Tables missing on
the way are made with origin `made`, and a repeated header stands for its
last table.  A dotted key does not lead through a table with a header of its
own, and nothing leads into braces. -/
def within (made : Origin) (change : Origin → Fields → Option Fields) :
    List String → Origin → Fields → Option Fields
  | [], origin, fields => change origin fields
  | key :: path, _, fields =>
    match fields.find? key with
    | none => do
      let inner ← within made change path made []
      return fields.put key (.table made inner)
    | some (.table origin inner) =>
      if origin = .braces ∨ (made = .dotted ∧ origin = .header) then none
      else do
        let inner ← within made change path origin inner
        return fields.put key (.table origin inner)
    | some (.tables rows) => do
      let last ← rows.getLast?
      let inner ← within made change path .header last
      return fields.put key (.tables (rows.dropLast ++ [inner]))
    | some _ => none

/-- Gives a new name its value.  A plain key belongs to a table that is not
made by dotted keys, a dotted key to one that is. -/
def assignHere (isDotted : Bool) (name : String) (value : Value)
    (origin : Origin) (fields : Fields) : Option Fields :=
  if (origin == .dotted) != isDotted then none
  else if (fields.find? name).isSome then none
  else some (fields ++ [(name, value)])

/-- Assigns a value under a plain or dotted key. -/
def assign (fields : Fields) (key : List String) (value : Value) : Option Fields := do
  let name ← key.getLast?
  let path := key.dropLast
  fields.within .dotted (assignHere (!path.isEmpty) name value) path .header

/-- Assigns all values in turn. -/
def assignAll (fields : Fields) : List (List String × Value) → Option Fields
  | [] => some fields
  | (key, value) :: rest => do (← fields.assign key value).assignAll rest

/-- Adds a table of its own under a name that is free, or that only the ways
to other headers have passed. -/
def addTable (name : String) (pairs : List (List String × Value))
    (fields : Fields) : Option Fields :=
  match fields.find? name with
  | none => do return fields ++ [(name, .table .header (← assignAll [] pairs))]
  | some (.table .passed inner) => do
    return fields.put name (.table .header (← assignAll inner pairs))
  | some _ => none

/-- Adds the next table of a repeated header. -/
def addRow (name : String) (pairs : List (List String × Value))
    (fields : Fields) : Option Fields :=
  match fields.find? name with
  | none => do return fields ++ [(name, .tables [← assignAll [] pairs])]
  | some (.tables rows) => do
    return fields.put name (.tables (rows ++ [← assignAll [] pairs]))
  | some _ => none

/-- Adds a header with the values below it. -/
def addSection (root : Fields) (heading : Heading)
    (pairs : List (List String × Value)) : Option Fields :=
  match heading with
  | .plain key => do
    let name ← key.getLast?
    root.within .passed (fun _ => addTable name pairs) key.dropLast .header
  | .repeated key => do
    let name ← key.getLast?
    root.within .passed (fun _ => addRow name pairs) key.dropLast .header

end Fields

end Netplay.Toml
