import Bindery.Proofs.Lowering
import Bindery.Proofs.Payload

/-!
# The enumerations that a function uses

A function uses the enumerations among the types of its parameters and of its
result, the receiver left out.  The lowering of a function lists them in this
order.  That of a constructor does not look at the result, which is a pointer to
the class and never an enumeration.
-/

namespace Bindery

namespace SymbolTree

section Uses

variable (tree : SymbolTree)

/-- The native type of a link is the given enumeration. -/
def HasEnumeration (link : Link) (enumeration : NodeId) : Prop :=
  ∃ native, tree.nativeType link = .ok native ∧ native.category = .enumeration enumeration

/-- A parameter after the receiver or the result has the given enumeration as
its type. -/
def UsesEnumeration (function enumeration : NodeId) : Prop :=
  (∃ parameter ∈ (tree.parameters function).drop 1,
    tree.HasEnumeration (tree.node parameter).link enumeration) ∨
  tree.HasEnumeration (tree.node function).link enumeration

/-- The enumeration that is the native type of a link, if it is one. -/
def enumerationsOfLink (link : Link) : List NodeId :=
  match tree.nativeType link with
  | .ok native => enumerationOf native
  | .error _ => []

/-- The enumerations that a function uses, those of the parameters before that
of the result. -/
def enumerationUses (function : NodeId) : List NodeId :=
  ((tree.parameters function).drop 1).flatMap
      (fun parameter => tree.enumerationsOfLink (tree.node parameter).link) ++
    tree.enumerationsOfLink (tree.node function).link

end Uses

variable {tree : SymbolTree}

theorem enumerationsOfLink_of_nativeType {link : Link} {native : NativeType}
    (found : tree.nativeType link = .ok native) :
    tree.enumerationsOfLink link = enumerationOf native := by
  rw [enumerationsOfLink, found]

theorem mem_enumerationOf_iff (native : NativeType) (enumeration : NodeId) :
    enumeration ∈ enumerationOf native ↔ native.category = .enumeration enumeration := by
  rcases native with ⟨category, spelling⟩
  cases category with
  | enumeration node => simp [enumerationOf, eq_comm]
  | _ => simp [enumerationOf]

theorem mem_enumerationsOfLink_iff (link : Link) (enumeration : NodeId) :
    enumeration ∈ tree.enumerationsOfLink link ↔ tree.HasEnumeration link enumeration := by
  unfold HasEnumeration
  cases found : tree.nativeType link with
  | error reason => simp [enumerationsOfLink, found]
  | ok native => simp [enumerationsOfLink_of_nativeType found, mem_enumerationOf_iff]

theorem mem_enumerationUses_iff (function enumeration : NodeId) :
    enumeration ∈ tree.enumerationUses function ↔ tree.UsesEnumeration function enumeration := by
  simp only [enumerationUses, UsesEnumeration, List.mem_append, List.mem_flatMap,
    mem_enumerationsOfLink_iff]

/-- Every enumeration that is used has a name, or its type would have no
spelling. -/
theorem UsesEnumeration.isSome_name {function enumeration : NodeId}
    (uses : tree.UsesEnumeration function enumeration) :
    (tree.node enumeration).name.isSome := by
  rcases uses with ⟨_, _, native, found, speaks⟩ | ⟨native, found, speaks⟩ <;>
    exact isSome_name_of_nativeType found speaks

/-! ## Lowering -/

theorem Unqualified.not_enumeration {id target enumeration : NodeId} {links : List Wrapper}
    {walk : Walk} {native : NativeType} (plain : tree.Unqualified id links target)
    (pointer : (tree.node target).tag = .pointerType) (denotes : tree.Denotes id walk native) :
    native.category ≠ .enumeration enumeration := by
  induction plain generalizing walk with
  | here =>
      cases denotes with
      | text | handle => nofun
      | record record => exact absurd pointer (Tag.ne_of_isRecord record (by decide))
      | _ => simp_all
  | const tag typed _ ih =>
      cases denotes with
      | const _ typedAgain below =>
          cases typed.symm.trans typedAgain
          exact ih pointer below
      | record record => exact absurd tag (Tag.ne_of_isRecord record (by decide))
      | _ => simp_all

/-- A pointer to a class is no enumeration. -/
theorem not_hasEnumeration_of_isPointerTo {link : Link} {owner enumeration : NodeId}
    (pointer : tree.isPointerTo link owner = true) : ¬ tree.HasEnumeration link enumeration := by
  rintro ⟨native, found, speaks⟩
  obtain ⟨walk, denotes⟩ := linkDenotes_of_nativeType found
  cases denotes with
  | absent => cases speaks
  | target denotes =>
      rename_i id
      simp only [isPointerTo, Link.node?, Option.bind_some] at pointer
      cases plainly : tree.withoutConst? id with
      | none => simp [plainly] at pointer
      | some target =>
          simp only [plainly, Bool.and_eq_true, decide_eq_true_eq] at pointer
          obtain ⟨links, plain⟩ := unqualified_of_withoutConstIn? plainly
          exact plain.not_enumeration pointer.1 denotes speaks

theorem receiverKind_ne_constructor (owner : NodeId) (parameters : List NodeId) :
    tree.receiverKind owner parameters ≠ .bindable .constructor := by
  cases parameters with
  | nil => nofun
  | cons receiver rest =>
      rw [receiverKind]
      split <;> nofun

/-- Constructors are told apart by what they give back. -/
theorem isPointerTo_of_memberKind {owner function : NodeId}
    (kind : tree.memberKind owner function = .bindable .constructor) :
    tree.isPointerTo (tree.node function).link owner = true := by
  unfold memberKind at kind
  split at kind
  · cases kind
  · cases kind
  · dsimp only at kind
    split at kind
    · cases kind
    · split at kind
      · cases kind
      · split at kind
        · cases kind
        · split at kind
          · rename_i makes
            rw [Bool.and_eq_true] at makes
            exact makes.2
          · exact absurd kind (receiverKind_ne_constructor owner _)

theorem enumerations_of_lowerParameters {index : Nat} {parameters : List NodeId}
    {plans : List ArgumentPlan} {enumerations : List NodeId}
    (lowered : tree.lowerParameters index parameters = .ok (plans, enumerations)) :
    enumerations = parameters.flatMap fun parameter =>
      tree.enumerationsOfLink (tree.node parameter).link := by
  induction parameters generalizing index plans enumerations with
  | nil =>
      cases lowered
      rfl
  | cons parameter rest ih =>
      obtain ⟨native, _, _, _, found, _, loweredRest, _, rfl⟩ :=
        exists_of_lowerParameters_cons lowered
      rw [List.flatMap_cons, enumerationsOfLink_of_nativeType found, ih loweredRest]

/-- A lowering lists what the function uses. -/
theorem enumerations_of_lower {owner function : NodeId} {role : Role} {overload : Overload}
    (kind : tree.memberKind owner function = .bindable role)
    (lowered : tree.lower owner function role = .ok overload) :
    overload.enumerations = tree.enumerationUses function := by
  obtain ⟨plans, enumerations, loweredParameters,
    ⟨rfl, rfl⟩ | ⟨_, _, native, _, _, found, _, rfl⟩⟩ := cases_of_lower lowered
  · have none : tree.enumerationsOfLink (tree.node function).link = [] := by
      rw [List.eq_nil_iff_forall_not_mem]
      intro enumeration
      rw [mem_enumerationsOfLink_iff]
      exact not_hasEnumeration_of_isPointerTo (isPointerTo_of_memberKind kind)
    rw [enumerationUses, ← enumerations_of_lowerParameters loweredParameters, none,
      List.append_nil]
  · rw [enumerationUses, ← enumerations_of_lowerParameters loweredParameters,
      enumerationsOfLink_of_nativeType found]

end SymbolTree

end Bindery
