import Bindery.NativeType

/-!
# The rules of native types

What a type means, said by rules without a bound on the length of a chain.  A
derivation is finite, so nothing is derived for a chain that runs in a circle,
whatever its length.

Each derivation comes with its *walk*: the `const` and typedef links that it
followed.  A chain leaves no choice, so a type has at most one walk and at most
one meaning.
-/

namespace Bindery

/-- The kinds of types that only lead on to another type. -/
inductive Wrapper where
  | const
  | typedef
  deriving DecidableEq, Repr

/-- The links that a derivation follows. -/
structure Walk where
  /-- Those up to the type itself, or up to the pointer or reference. -/
  front : List Wrapper := []
  /-- Those behind the pointer or reference. -/
  behind : List Wrapper := []
  deriving DecidableEq, Repr

namespace Walk

/-- The number of links. -/
def length (walk : Walk) : Nat :=
  walk.front.length + walk.behind.length

/-- A walk that begins with one more link. -/
def after (wrapper : Wrapper) (walk : Walk) : Walk :=
  { walk with front := wrapper :: walk.front }

end Walk

/-- No more than a number of `const` links follow each other. -/
def ConstRunsWithin (bound : Nat) (links : List Wrapper) : Prop :=
  ∀ count, List.replicate count Wrapper.const <:+: links → count ≤ bound

namespace SymbolTree

/-! ## The rules -/

section Rules

variable (tree : SymbolTree)

/-- How a type is written, however many types it wraps. -/
inductive Spells : NodeId → String → Prop
  | pointer {id inner : NodeId} {spelling : String}
      (tag : (tree.node id).tag = .pointerType) (typed : tree.typeOf? id = some inner)
      (below : Spells inner spelling) : Spells id (spelling ++ "*")
  | untypedPointer {id : NodeId}
      (tag : (tree.node id).tag = .pointerType) (untyped : tree.typeOf? id = none) :
      Spells id "void*"
  | reference {id inner : NodeId} {spelling : String}
      (tag : (tree.node id).tag = .referenceType) (typed : tree.typeOf? id = some inner)
      (below : Spells inner spelling) : Spells id (spelling ++ "&")
  | const {id inner : NodeId} {spelling : String}
      (tag : (tree.node id).tag = .constType) (typed : tree.typeOf? id = some inner)
      (below : Spells inner spelling) : Spells id ("const " ++ spelling)
  | untypedConst {id : NodeId}
      (tag : (tree.node id).tag = .constType) (untyped : tree.typeOf? id = none) :
      Spells id "const void"
  | base {id : NodeId} {name : String}
      (tag : (tree.node id).tag = .baseType) (named : (tree.node id).name = some name) :
      Spells id name
  | libraryString {id : NodeId}
      (tag : (tree.node id).tag.isRecord = true)
      (template : (tree.node id).name.any isStringTemplate = true) : Spells id "std::string"
  | named {id : NodeId} {qualified : String}
      (tag : (tree.node id).tag ∉ [.pointerType, .referenceType, .constType, .baseType])
      (plain : ((tree.node id).tag.isRecord && (tree.node id).name.any isStringTemplate) = false)
      (qualifies : tree.qualifiedName? id = some qualified) : Spells id qualified

/-- The type behind a run of `const`. -/
inductive Unqualified : NodeId → List Wrapper → NodeId → Prop
  | here {id : NodeId} (tag : (tree.node id).tag ≠ .constType) : Unqualified id [] id
  | const {id inner target : NodeId} {links : List Wrapper}
      (tag : (tree.node id).tag = .constType) (typed : tree.typeOf? id = some inner)
      (below : Unqualified inner links target) : Unqualified id (.const :: links) target

/-- The type that a pointer or reference stands before.  Only `const` is looked
through behind a typedef named like a string, because such a typedef counts as
the record that it names. -/
inductive Reaches : NodeId → List Wrapper → NodeId → Prop
  | here {id : NodeId} (notConst : (tree.node id).tag ≠ .constType)
      (notTypedef : (tree.node id).tag ≠ .typedef) : Reaches id [] id
  | const {id inner target : NodeId} {links : List Wrapper}
      (tag : (tree.node id).tag = .constType) (typed : tree.typeOf? id = some inner)
      (below : Reaches inner links target) : Reaches id (.const :: links) target
  | typedef {id inner target : NodeId} {links : List Wrapper}
      (tag : (tree.node id).tag = .typedef) (ordinary : tree.isNamedString id = false)
      (typed : tree.typeOf? id = some inner)
      (below : Reaches inner links target) : Reaches id (.typedef :: links) target
  | stringTypedef {id inner target : NodeId} {links : List Wrapper}
      (tag : (tree.node id).tag = .typedef) (string : tree.isNamedString id = true)
      (typed : tree.typeOf? id = some inner)
      (below : Unqualified tree inner links target) : Reaches id (.typedef :: links) target

/-- What a node means as a type. -/
inductive Denotes : NodeId → Walk → NativeType → Prop
  | boolean {id : NodeId}
      (tag : (tree.node id).tag = .baseType) (named : (tree.node id).name = some "bool") :
      Denotes id {} ⟨.boolean, "bool"⟩
  | numeric {id : NodeId} {name : String}
      (tag : (tree.node id).tag = .baseType) (named : (tree.node id).name = some name)
      (number : name ∈ numericBaseTypes) : Denotes id {} ⟨.numeric, name⟩
  | const {id inner : NodeId} {walk : Walk} {native : NativeType}
      (tag : (tree.node id).tag = .constType) (typed : tree.typeOf? id = some inner)
      (below : Denotes inner walk native) : Denotes id (walk.after .const) native
  | stringTypedef {id : NodeId} {name spelling : String}
      (tag : (tree.node id).tag = .typedef) (named : (tree.node id).name = some name)
      (string : isStringLike name = true) (spelled : Spells tree id spelling) :
      Denotes id {} ⟨.ownedString, spelling⟩
  | typedef {id inner : NodeId} {name spelling : String} {walk : Walk} {native : NativeType}
      (tag : (tree.node id).tag = .typedef) (named : (tree.node id).name = some name)
      (ordinary : isStringLike name = false) (typed : tree.typeOf? id = some inner)
      (spelled : Spells tree id spelling) (below : Denotes inner walk native) :
      Denotes id (walk.after .typedef)
        ⟨native.category, if native.category.heldByValue then spelling else native.spelling⟩
  | integerTypedef {id : NodeId} {name spelling : String}
      (tag : (tree.node id).tag = .typedef) (named : (tree.node id).name = some name)
      (ordinary : isStringLike name = false) (untyped : tree.typeOf? id = none)
      (integer : isIntegerAlias name = true) (spelled : Spells tree id spelling) :
      Denotes id {} ⟨.numeric, spelling⟩
  | text {id pointee target : NodeId} {links : List Wrapper}
      (tag : (tree.node id).tag = .pointerType) (typed : tree.typeOf? id = some pointee)
      (reached : Reaches tree pointee links target)
      (base : (tree.node target).tag = .baseType) (char : (tree.node target).name = some "char") :
      Denotes id ⟨[], links⟩
        ⟨.cString, if (tree.node pointee).tag = .constType then "const char*" else "char*"⟩
  | handle {id pointee target : NodeId} {links : List Wrapper} {spelling : String}
      (tag : (tree.node id).tag = .pointerType) (typed : tree.typeOf? id = some pointee)
      (reached : Reaches tree pointee links target)
      (record : (tree.node target).tag.isRecord = true) (spelled : Spells tree pointee spelling) :
      Denotes id ⟨[], links⟩ ⟨.handle target, spelling ++ "*"⟩
  | reference {id referent target : NodeId} {links : List Wrapper} {spelling : String}
      (tag : (tree.node id).tag = .referenceType) (typed : tree.typeOf? id = some referent)
      (reached : Reaches tree referent links target)
      (record : (tree.node target).tag.isRecord = true) (spelled : Spells tree target spelling) :
      Denotes id ⟨[], links⟩
        (if tree.isNamedString target then ⟨.ownedString, spelling⟩
         else ⟨.byReference target, spelling ++ "&"⟩)
  | record {id : NodeId} {spelling : String}
      (tag : (tree.node id).tag.isRecord = true) (spelled : Spells tree id spelling) :
      Denotes id {} ⟨if tree.isNamedString id then .ownedString else .object id, spelling⟩
  | enumeration {id : NodeId} {spelling : String}
      (tag : (tree.node id).tag = .enumerationType) (spelled : Spells tree id spelling) :
      Denotes id {} ⟨.enumeration id, spelling⟩

/-- What a link means as a type.  A link that was never resolved means
nothing. -/
inductive LinkDenotes : Link → Walk → NativeType → Prop
  | absent : LinkDenotes .absent {} ⟨.void, "void"⟩
  | target {id : NodeId} {walk : Walk} {native : NativeType}
      (denotes : Denotes tree id walk native) :
      LinkDenotes (.target id) walk native

/-- A chain of `const` and typedefs that never ends and meets no typedef named
like a string. -/
def RunsForever (id : NodeId) : Prop :=
  ∃ chain : Nat → NodeId, chain 0 = id ∧ ∀ place,
    ((tree.node (chain place)).tag = .constType ∨
      (tree.node (chain place)).tag = .typedef ∧ tree.isNamedString (chain place) = false) ∧
    tree.typeOf? (chain place) = some (chain (place + 1))

end Rules

variable {tree : SymbolTree}

/-! ## A chain leaves no choice

Two derivations for one node use the same rule, because the rules ask for
different tags, names or links.
-/

theorem Spells.unique {id : NodeId} {first second : String} (spelled : tree.Spells id first)
    (again : tree.Spells id second) : first = second := by
  induction spelled generalizing second with
  | pointer tag typed below ih =>
      cases again with
      | pointer _ typedAgain belowAgain =>
          cases typed.symm.trans typedAgain
          rw [ih belowAgain]
      | _ => grind [Tag.isRecord]
  | reference tag typed below ih =>
      cases again with
      | reference _ typedAgain belowAgain =>
          cases typed.symm.trans typedAgain
          rw [ih belowAgain]
      | _ => grind [Tag.isRecord]
  | const tag typed below ih =>
      cases again with
      | const _ typedAgain belowAgain =>
          cases typed.symm.trans typedAgain
          rw [ih belowAgain]
      | _ => grind [Tag.isRecord]
  | named tag plain qualifies =>
      cases again with
      | named _ _ qualifiesAgain => exact Option.some.inj (qualifies.symm.trans qualifiesAgain)
      | _ => grind [Tag.isRecord]
  | untypedPointer | untypedConst | base | libraryString =>
      cases again <;> grind [Tag.isRecord]

theorem Unqualified.unique {id first second : NodeId} {links others : List Wrapper}
    (found : tree.Unqualified id links first) (again : tree.Unqualified id others second) :
    links = others ∧ first = second := by
  induction found generalizing others second with
  | here tag =>
      cases again with
      | here => exact ⟨rfl, rfl⟩
      | const tagAgain => contradiction
  | const tag typed below ih =>
      cases again with
      | here tagAgain => contradiction
      | const _ typedAgain belowAgain =>
          cases typed.symm.trans typedAgain
          obtain ⟨rfl, rfl⟩ := ih belowAgain
          exact ⟨rfl, rfl⟩

theorem Reaches.unique {id first second : NodeId} {links others : List Wrapper}
    (found : tree.Reaches id links first) (again : tree.Reaches id others second) :
    links = others ∧ first = second := by
  induction found generalizing others second with
  | here notConst notTypedef =>
      cases again with
      | here => exact ⟨rfl, rfl⟩
      | _ => contradiction
  | const tag typed below ih =>
      cases again with
      | const _ typedAgain belowAgain =>
          cases typed.symm.trans typedAgain
          obtain ⟨rfl, rfl⟩ := ih belowAgain
          exact ⟨rfl, rfl⟩
      | _ => simp_all
  | typedef tag ordinary typed below ih =>
      cases again with
      | typedef _ _ typedAgain belowAgain =>
          cases typed.symm.trans typedAgain
          obtain ⟨rfl, rfl⟩ := ih belowAgain
          exact ⟨rfl, rfl⟩
      | _ => simp_all
  | stringTypedef tag string typed below =>
      cases again with
      | stringTypedef _ _ typedAgain belowAgain =>
          cases typed.symm.trans typedAgain
          obtain ⟨rfl, rfl⟩ := below.unique belowAgain
          exact ⟨rfl, rfl⟩
      | _ => simp_all

theorem bool_not_mem_numericBaseTypes : "bool" ∉ numericBaseTypes := by
  decide

theorem Denotes.unique {id : NodeId} {walk other : Walk} {first second : NativeType}
    (denotes : tree.Denotes id walk first) (again : tree.Denotes id other second) :
    walk = other ∧ first = second := by
  induction denotes generalizing other second with
  | const tag typed below ih =>
      cases again with
      | const _ typedAgain belowAgain =>
          cases typed.symm.trans typedAgain
          obtain ⟨rfl, rfl⟩ := ih belowAgain
          exact ⟨rfl, rfl⟩
      | _ => grind [Tag.isRecord]
  | typedef tag named ordinary typed spelled below ih =>
      cases again with
      | typedef _ _ _ typedAgain spelledAgain belowAgain =>
          cases typed.symm.trans typedAgain
          obtain ⟨rfl, rfl⟩ := ih belowAgain
          rw [spelled.unique spelledAgain]
          exact ⟨rfl, rfl⟩
      | _ => grind [Tag.isRecord]
  | text tag typed reached base char =>
      cases again with
      | text _ typedAgain reachedAgain | handle _ typedAgain reachedAgain =>
          cases typed.symm.trans typedAgain
          obtain ⟨rfl, rfl⟩ := reached.unique reachedAgain
          grind [Tag.isRecord]
      | _ => grind [Tag.isRecord]
  | handle tag typed reached record spelled =>
      cases again with
      | text _ typedAgain reachedAgain =>
          cases typed.symm.trans typedAgain
          obtain ⟨rfl, rfl⟩ := reached.unique reachedAgain
          grind [Tag.isRecord]
      | handle _ typedAgain reachedAgain _ spelledAgain =>
          cases typed.symm.trans typedAgain
          obtain ⟨rfl, rfl⟩ := reached.unique reachedAgain
          rw [spelled.unique spelledAgain]
          exact ⟨rfl, rfl⟩
      | _ => grind [Tag.isRecord]
  | reference tag typed reached record spelled =>
      cases again with
      | reference _ typedAgain reachedAgain _ spelledAgain =>
          cases typed.symm.trans typedAgain
          obtain ⟨rfl, rfl⟩ := reached.unique reachedAgain
          rw [spelled.unique spelledAgain]
          exact ⟨rfl, rfl⟩
      | _ => grind [Tag.isRecord]
  | boolean | numeric | stringTypedef | integerTypedef | record | enumeration =>
      cases again <;> grind [Tag.isRecord, Spells.unique, bool_not_mem_numericBaseTypes]

theorem LinkDenotes.unique {link : Link} {walk other : Walk} {first second : NativeType}
    (denotes : tree.LinkDenotes link walk first) (again : tree.LinkDenotes link other second) :
    walk = other ∧ first = second := by
  cases denotes with
  | absent =>
      cases again
      exact ⟨rfl, rfl⟩
  | target denotes =>
      cases again with
      | target denotesAgain => exact denotes.unique denotesAgain

end SymbolTree

end Bindery
