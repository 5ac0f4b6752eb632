import Bindery.Settings
import Bindery.Toml.Document

/-!
# Settings in a config file

A config file is a TOML document whose item `generate` holds a section of
settings.  Keys that mean nothing here are passed over; a setting that is no
text is an error.
-/

namespace Bindery

/-- The name of the config file that is looked for by default. -/
def configFileName : String :=
  "mbedwrap.toml"

namespace Section

open Bindery.Toml

/-- The text under a key, if the key is there. -/
def textUnder? (entries : Entries) (key : String) : Option (Option String) :=
  match OrderedMap.lookup key entries with
  | none => some none
  | some (.string text) => some (some text)
  | some _ => none

/-- The text at a place of an array, if the array is long enough. -/
def textAt? (items : List Item) (place : Nat) : Option (Option String) :=
  match items[place]? with
  | none => some none
  | some (.string text) => some (some text)
  | some _ => none

/-- The section that an item holds.  A table names the settings; an array lists
their texts in a fixed order, and further items mean nothing.  A date holds no
setting, for it counts as a table without a known key. -/
def ofItem? : Item → Option Section
  | .table _ entries => do
      return {
        symbols := ← textUnder? entries "symbols"
        className := ← textUnder? entries "class"
        scriptName := ← textUnder? entries "js-class"
        library := ← textUnder? entries "library"
        output := ← textUnder? entries "output"
      }
  | .array items => do
      return {
        symbols := ← textAt? items 0
        className := ← textAt? items 1
        scriptName := ← textAt? items 2
        library := ← textAt? items 3
        output := ← textAt? items 4
      }
  | .moment => some {}
  | _ => none

/-- The section of a config file.  A file without one leaves all open. -/
def ofConfig? (text : String) : Option Section := do
  let table ← document? text
  match table.get? "generate" with
  | none => return {}
  | some item => ofItem? item

end Section

end Bindery
