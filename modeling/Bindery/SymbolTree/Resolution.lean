import Std.Data.HashMap
import Bindery.Record.Block
import Bindery.SymbolTree.Builder

/-!
# Resolving links and reading dumps

A raw link such as `<0x4a>` names the entry at that address, wherever in the
dump it stands.  All addresses are known before the first link is resolved, so
one pass over the nodes is enough.  Raw text of any other form is left alone.

A link without a target stays raw and is reported.

Reading a dump, building its tree and resolving the links are done in one go.
Bad lines, dropped records and dangling links are only reported; a dump is
refused when it holds no record at all.
-/

namespace Bindery

namespace SymbolTree

open Bindery.Text

/-- The address digits of a raw link. -/
def reference? (text : List Char) : Option (List Char) := do
  let rest ← after? ['<', '0', 'x'] (trim text)
  let (digits, rest) ← run? isHexDigit rest
  let _ ← after? ['>'] rest
  return digits

/-- The last entry at each address. -/
def addressIndex (tree : SymbolTree) : Std.HashMap String NodeId :=
  tree.ids.foldl (fun index id => index.insert (tree.node id).address id) ∅

theorem getElem?_foldl_insert (tree : SymbolTree) (ids : List NodeId)
    (index : Std.HashMap String NodeId) (address : String) :
    (ids.foldl (fun index id => index.insert (tree.node id).address id) index)[address]? =
      (ids.reverse.find? fun id => (tree.node id).address = address).or index[address]? := by
  induction ids generalizing index with
  | nil => simp
  | cons id rest ih =>
      rw [List.foldl_cons, ih, Std.HashMap.getElem?_insert]
      by_cases same : (tree.node id).address = address <;>
        simp [same, List.find?_append]

/-- The index finds the last entry at an address. -/
theorem getElem?_addressIndex (tree : SymbolTree) (address : String) :
    tree.addressIndex[address]? =
      tree.ids.reverse.find? fun id => (tree.node id).address = address := by
  simp [addressIndex, getElem?_foldl_insert]

/-- What resolving does to the link of a node. -/
inductive Resolution where
  /-- The link is absent, already resolved or no reference. -/
  | untouched
  | linked (target : NodeId)
  /-- The reference names an address without an entry. -/
  | dangling (text : String)
  deriving DecidableEq, Repr

/-- Decide about the link of a node by an index of addresses. -/
def resolution (index : Std.HashMap String NodeId) (node : Node) : Resolution :=
  match node.link with
  | .raw text =>
      match reference? text.toList with
      | none => .untouched
      | some digits =>
          match index[addressKey (String.ofList digits)]? with
          | some target => .linked target
          | none => .dangling (trimmed text)
  | _ => .untouched

/-- What a link without a target is reported as. -/
def danglingWarning (node : Node) (text : String) : Diagnostic :=
  let finding :=
    Diagnostic.warning ("Unresolved type reference " ++ text ++ " on <" ++ node.address ++ ">")
  match node.line with
  | some line => finding.atLine line
  | none => finding

/-- The outcome of one pass over the links. -/
structure Resolved where
  tree : SymbolTree
  /-- The number of links that were made. -/
  linked : Nat
  findings : Diagnostics

/-- The number of references without a target. -/
def Resolved.dangling (resolved : Resolved) : Nat :=
  resolved.findings.length

/-- Resolve every raw link. -/
def resolve (tree : SymbolTree) : Resolved :=
  let index := tree.addressIndex
  { tree :=
      ⟨tree.nodes.map fun node =>
        match resolution index node with
        | .linked target => { node with link := .target target }
        | _ => node⟩
    linked :=
      tree.nodes.toList.countP fun node =>
        match resolution index node with
        | .linked _ => true
        | _ => false
    findings :=
      tree.nodes.toList.filterMap fun node =>
        match resolution index node with
        | .dangling text => some (danglingWarning node text)
        | _ => none }

end SymbolTree

/-! ## The tree of a dump -/

/-- Why a dump has no tree. -/
inductive DumpError where
  | noRecords
  deriving DecidableEq, Repr

/-- The wording of a refused dump. -/
def DumpError.message : DumpError → String
  | .noRecords => "No debug-info records found in dump"

namespace SymbolTree

/-- The resolved tree of a dump, with all that was found on the way. -/
def ofDump (dump : String) : Except DumpError SymbolTree × Diagnostics :=
  match Record.ofDump dump with
  | ([], findings) => (.error .noRecords, findings)
  | (records, findings) =>
      let (tree, dropped) := ofRecords records
      let resolved := tree.resolve
      (.ok resolved.tree, findings ++ dropped ++ resolved.findings)

end SymbolTree

end Bindery
