/-!
# Tags

The kind of a debug-info record.  The tags that decide something have their own
constructors; every other tag is kept as the text that stood in the dump.
-/

namespace Bindery

/-- The kind of a record, as named by the suffix of its `DW_TAG_` word. -/
inductive Tag where
  | baseType
  | typedef
  | pointerType
  | referenceType
  | constType
  | classType
  | structureType
  | enumerationType
  | enumerator
  | subprogram
  | formalParameter
  | member
  | nameSpace
  | compileUnit
  | other (name : String)
  deriving DecidableEq, Repr

namespace Tag

/-- The tag with a suffix. -/
def ofName : String → Tag
  | "base_type" => .baseType
  | "typedef" => .typedef
  | "pointer_type" => .pointerType
  | "reference_type" => .referenceType
  | "const_type" => .constType
  | "class_type" => .classType
  | "structure_type" => .structureType
  | "enumeration_type" => .enumerationType
  | "enumerator" => .enumerator
  | "subprogram" => .subprogram
  | "formal_parameter" => .formalParameter
  | "member" => .member
  | "namespace" => .nameSpace
  | "compile_unit" => .compileUnit
  | name => .other name

/-- The suffix of a tag. -/
def name : Tag → String
  | .baseType => "base_type"
  | .typedef => "typedef"
  | .pointerType => "pointer_type"
  | .referenceType => "reference_type"
  | .constType => "const_type"
  | .classType => "class_type"
  | .structureType => "structure_type"
  | .enumerationType => "enumeration_type"
  | .enumerator => "enumerator"
  | .subprogram => "subprogram"
  | .formalParameter => "formal_parameter"
  | .member => "member"
  | .nameSpace => "namespace"
  | .compileUnit => "compile_unit"
  | .other name => name

/-- A tag keeps the suffix that it was made of. -/
@[simp]
theorem name_ofName (suffix : String) : (ofName suffix).name = suffix := by
  unfold ofName
  split <;> rfl

/-- The whole word of a tag. -/
def word (tag : Tag) : String :=
  "DW_TAG_" ++ tag.name

/-- Whether a tag is that of a class or structure. -/
def isRecord : Tag → Bool
  | .classType | .structureType => true
  | _ => false

theorem isRecord_iff (tag : Tag) :
    tag.isRecord = true ↔ tag = .classType ∨ tag = .structureType := by
  cases tag <;> simp [isRecord]

end Tag

end Bindery
