import Bindery.OrderedMap

/-!
# Items of a TOML document

A document is a table of items.  Tables remember how they came to be, because
that decides whether a later line may add to them: an inline table is closed, a
table with a header of its own takes no dotted keys from elsewhere, and a table
that was only passed through on the way to another one may still get its header.
-/

namespace Bindery.Toml

/-- How a table came to be. -/
inductive Origin where
  /-- Written in braces. -/
  | inline
  /-- Passed through by a header. -/
  | implied
  /-- Passed through by a dotted key. -/
  | dotted
  /-- Opened by a header, or the document itself. -/
  | headed
  deriving DecidableEq, Repr

/-- A value, a table or an array of tables. -/
inductive Item where
  | string (text : String)
  | integer (value : Int)
  | float
  | boolean (value : Bool)
  /-- A date, a time or both. -/
  | moment
  | array (items : List Item)
  | table (origin : Origin) (entries : List (String × Item))
  /-- The elements that headers in double brackets opened. -/
  | tables (elements : List (List (String × Item)))
  deriving Repr

/-- The contents of a table. -/
abbrev Entries := List (String × Item)

/-- A table in hand. -/
structure Table where
  origin : Origin
  entries : Entries
  deriving Repr

namespace Table

/-- The table of an empty document. -/
def empty : Table :=
  ⟨.headed, []⟩

/-- The table with an item under a key. -/
def put (table : Table) (key : String) (item : Item) : Table :=
  { table with entries := OrderedMap.place key item table.entries }

/-- The item under a key. -/
def get? (table : Table) (key : String) : Option Item :=
  OrderedMap.lookup key table.entries

/-- Whether a path may pass through a table.  A dotted key may not enter a
table that has its own header. -/
def isOpen (dotted : Bool) : Origin → Bool
  | .inline => false
  | .headed => !dotted
  | .implied | .dotted => true

/-- Change the table at the end of a path.  Tables that are missing on the way
are made; an array of tables is entered at its last element. -/
def within (dotted : Bool) (change : Table → Option Table) :
    (path : List String) → Table → Option Table
  | [], table => change table
  | key :: path, table =>
      match table.get? key with
      | none => do
          let made : Table := ⟨if dotted then .dotted else .implied, []⟩
          let child ← within dotted change path made
          return table.put key (.table child.origin child.entries)
      | some (.table origin entries) =>
          if isOpen dotted origin then do
            let child ← within dotted change path ⟨origin, entries⟩
            return table.put key (.table child.origin child.entries)
          else none
      | some (.tables elements) =>
          match elements.getLast? with
          | none => none
          | some last => do
              let child ← within dotted change path ⟨.headed, last⟩
              return table.put key (.tables (elements.dropLast ++ [child.entries]))
      | some _ => none

/-! ## Lines that change a document -/

/-- Give a new key an item. -/
def add (key : String) (item : Item) (table : Table) : Option Table :=
  match table.get? key with
  | none => some (table.put key item)
  | some _ => none

/-- Give a new key an item in a table that a dotted key leads to.  Such a table
must have been made by dotted keys. -/
def assign (path : List String) (key : String) (item : Item) (table : Table) :
    Option Table :=
  if path.isEmpty then table.add key item
  else
    within true (fun target => if target.origin = .dotted then target.add key item else none)
      path table

/-- Open the table of a header. -/
def openTable (parents : List String) (key : String) (table : Table) : Option Table :=
  within false
    (fun parent =>
      match parent.get? key with
      | none => some (parent.put key (.table .headed []))
      | some (.table .implied entries) => some (parent.put key (.table .headed entries))
      | some _ => none)
    parents table

/-- Open the next element of an array of tables. -/
def openElement (parents : List String) (key : String) (table : Table) : Option Table :=
  within false
    (fun parent =>
      match parent.get? key with
      | none => some (parent.put key (.tables [[]]))
      | some (.tables elements) => some (parent.put key (.tables (elements ++ [[]])))
      | some _ => none)
    parents table

end Table

end Bindery.Toml
