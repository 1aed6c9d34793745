/-
Module: Netplay.Toml.Value
Purpose: The values of a TOML document.
Main exports:
  Toml.Origin, Toml.Value, Toml.Fields, Toml.Fields.find?
-/

namespace Netplay.Toml

/-- How a table came about, which settles what may still be added to it. -/
inductive Origin where
  /-- Written in braces; nothing can be added. -/
  | braces
  /-- Named by a header; dotted keys from outside add nothing to it. -/
  | header
  /-- On the way to a header; a header of its own may still name it. -/
  | passed
  /-- On the way to a dotted key; further dotted keys add to it. -/
  | dotted
deriving Repr, Inhabited, DecidableEq

/-- Numbers with a fraction, dates and times are kept as written. -/
inductive Value where
  | text (text : String)
  | integer (value : Int)
  | fraction (literal : String)
  | boolean (value : Bool)
  | moment (literal : String)
  | array (items : List Value)
  | table (origin : Origin) (fields : List (String × Value))
  /-- The tables named by one repeated header, in order. -/
  | tables (rows : List (List (String × Value)))

instance : Inhabited Value := ⟨.boolean false⟩

/-- Names with their values, in the order in which they were added. -/
abbrev Fields := List (String × Value)

namespace Fields

/-- The value of a name. -/
def find? (name : String) : Fields → Option Value
  | [] => none
  | (other, value) :: rest => if other = name then some value else find? name rest

/-- Gives a name a value, in place of its earlier one. -/
def put (name : String) (value : Value) : Fields → Fields
  | [] => [(name, value)]
  | (other, old) :: rest =>
    if other = name then (name, value) :: rest else (other, old) :: put name value rest

end Fields

end Netplay.Toml
