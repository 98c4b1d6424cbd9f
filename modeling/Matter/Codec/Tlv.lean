import Matter.Base.LittleEndian

/-! The value space of Matter TLV: tags, element types and value trees. Floats
are their bit patterns. A byte slice or string carries the bound every Rust
allocation obeys, so lengths and positions stay below the range of `usize`. -/
namespace Matter.Codec

/-- One past `isize::MAX`, the largest size of a slice, vector or string. -/
def allocLimit : Nat := 2 ^ 63

/-- A byte slice or vector. -/
structure Octets where
  bytes : Bytes
  addressable : bytes.length < allocLimit
  deriving DecidableEq

theorem nil_short : ([] : Bytes).length < allocLimit := by decide

/-- An encoded point of the curve. -/
theorem point_short : 65 < allocLimit := by decide

/-- A UTF-8 string. -/
structure Text where
  string : String
  addressable : string.utf8ByteSize < allocLimit
  deriving DecidableEq

/-- `usize::MAX + 1` on a 64-bit target. -/
def usizeLimit : Nat := 2 ^ 64

/-- The reader's and writer's limit on container nesting. -/
def maxDepth : Nat := 32

/-- The errors the reader and the writer return. -/
inductive Error where
  | unexpectedEof
  | invalidTagControl (bits : UInt8)
  | invalidElementType (code : UInt8)
  | invalidUtf8
  | lengthOverflow
  | unexpectedEndOfContainer
  | unclosedContainer
  | containerTooDeep
  | nonAnonymousArrayTag
  | elementBudgetExceeded
  | trailingData
  deriving DecidableEq, Repr

inductive Tag where
  | anonymous
  | context (n : UInt8)
  | commonProfile (n : UInt32)
  | implicitProfile (n : UInt32)
  | fullyQualified (vendor profile : UInt16) (tag : UInt32)
  deriving DecidableEq, Repr

inductive TagControl where
  | anonymous
  | context
  | commonProfile2
  | commonProfile4
  | implicitProfile2
  | implicitProfile4
  | fullyQualified6
  | fullyQualified8
  deriving DecidableEq, Repr

/-- Width of an integer payload or length field. -/
inductive Width where
  | w8
  | w16
  | w32
  | w64
  deriving DecidableEq, Repr

inductive ContainerKind where
  | struct
  | array
  | list
  deriving DecidableEq, Repr

inductive ElementType where
  | int (width : Width)
  | uint (width : Width)
  | bool (value : Bool)
  | float32
  | float64
  | utf8 (width : Width)
  | bytes (width : Width)
  | null
  | container (kind : ContainerKind)
  | endOfContainer
  deriving DecidableEq, Repr

def tagControlMask : UInt8 := 0xe0
def elementTypeMask : UInt8 := 0x1f

namespace TagControl

def bits : TagControl → UInt8
  | anonymous => 0x00
  | context => 0x20
  | commonProfile2 => 0x40
  | commonProfile4 => 0x60
  | implicitProfile2 => 0x80
  | implicitProfile4 => 0xa0
  | fullyQualified6 => 0xc0
  | fullyQualified8 => 0xe0

def ofBits? (bits : UInt8) : Option TagControl :=
  [anonymous, context, commonProfile2, commonProfile4, implicitProfile2, implicitProfile4,
    fullyQualified6, fullyQualified8].find? fun form => form.bits = bits

theorem ofBits?_bits (form : TagControl) : ofBits? form.bits = some form := by
  cases form <;> decide

end TagControl

namespace Width

def bytes : Width → Nat
  | w8 => 1
  | w16 => 2
  | w32 => 4
  | w64 => 8

/-- The two low bits of the element types that have a width. -/
def code : Width → UInt8
  | w8 => 0
  | w16 => 1
  | w32 => 2
  | w64 => 3

def all : List Width := [w8, w16, w32, w64]

end Width

namespace ElementType

def code : ElementType → UInt8
  | int width => 0x00 + width.code
  | uint width => 0x04 + width.code
  | bool value => if value then 0x09 else 0x08
  | float32 => 0x0a
  | float64 => 0x0b
  | utf8 width => 0x0c + width.code
  | bytes width => 0x10 + width.code
  | null => 0x14
  | container .struct => 0x15
  | container .array => 0x16
  | container .list => 0x17
  | endOfContainer => 0x18

def all : List ElementType :=
  Width.all.map int ++ Width.all.map uint ++ [bool false, bool true, float32, float64] ++
    Width.all.map utf8 ++ Width.all.map bytes ++
    [null, container .struct, container .array, container .list, endOfContainer]

/-- The element type of the low five bits of a control octet, if there is one. -/
def ofCode? (code : UInt8) : Option ElementType :=
  all.find? fun type => type.code = code

theorem mem_all (type : ElementType) : type ∈ all := by
  cases type with
  | int width | uint width => cases width <;> decide
  | bool value | container value => cases value <;> decide
  | utf8 width | bytes width => cases width <;> decide
  | _ => decide

theorem ofCode?_all : ∀ type ∈ all, ofCode? type.code = some type := by
  decide

theorem ofCode?_code (type : ElementType) : ofCode? type.code = some type :=
  ofCode?_all type (mem_all type)

end ElementType

/-- The control octet of a tag form and an element type. -/
def controlOctet (form : TagControl) (type : ElementType) : UInt8 := form.bits ||| type.code

theorem masks_all : ∀ type ∈ ElementType.all, ∀ form : TagControl,
    controlOctet form type &&& elementTypeMask = type.code ∧
      controlOctet form type &&& tagControlMask = form.bits := by
  intro type member form
  revert type
  cases form <;> decide

theorem controlOctet_type (form : TagControl) (type : ElementType) :
    controlOctet form type &&& elementTypeMask = type.code :=
  (masks_all type type.mem_all form).1

theorem controlOctet_form (form : TagControl) (type : ElementType) :
    controlOctet form type &&& tagControlMask = form.bits :=
  (masks_all type type.mem_all form).2

/-- A decoded value that is not a container. -/
inductive ValueRef where
  | bool (b : Bool)
  | uint (n : UInt64)
  | int (n : Int64)
  | float (bits : UInt32)
  | double (bits : UInt64)
  | utf8 (text : Text)
  | bytes (octets : Octets)
  | null
  deriving DecidableEq

inductive Value where
  | bool (b : Bool)
  | uint (n : UInt64)
  | int (n : Int64)
  | float (bits : UInt32)
  | double (bits : UInt64)
  | utf8 (text : Text)
  | bytes (octets : Octets)
  | struct (members : List (Tag × Value))
  | array (elements : List Value)
  | list (members : List (Tag × Value))
  | null

namespace Value

/-- `Value::from(ValueRef)`. -/
def ofRef : ValueRef → Value
  | .bool b => bool b
  | .uint n => uint n
  | .int n => int n
  | .float bits => float bits
  | .double bits => double bits
  | .utf8 text => utf8 text
  | .bytes octets => bytes octets
  | .null => null

/-- The tree a container of `kind` with these members is. Array members carry
no tags. -/
def ofMembers : ContainerKind → List (Tag × Value) → Value
  | .struct, members => struct members
  | .array, members => array (members.map Prod.snd)
  | .list, members => list members

mutual

/-- How deep containers nest in a value. -/
def nesting : Value → Nat
  | struct members => 1 + nestingMembers members
  | array elements => 1 + nestingElements elements
  | list members => 1 + nestingMembers members
  | _ => 0

def nestingMembers : List (Tag × Value) → Nat
  | [] => 0
  | (_, value) :: rest => max value.nesting (nestingMembers rest)

def nestingElements : List Value → Nat
  | [] => 0
  | value :: rest => max value.nesting (nestingElements rest)

end

mutual

/-- How many values a tree holds, itself included. -/
def count : Value → Nat
  | struct members => 1 + countMembers members
  | array elements => 1 + countElements elements
  | list members => 1 + countMembers members
  | _ => 1

def countMembers : List (Tag × Value) → Nat
  | [] => 0
  | (_, value) :: rest => value.count + countMembers rest

def countElements : List Value → Nat
  | [] => 0
  | value :: rest => value.count + countElements rest

end

/-- The elements of an array as anonymous members. -/
def untagged (elements : List Value) : List (Tag × Value) := elements.map (Prod.mk .anonymous)

theorem nestingElements_eq (elements : List Value) :
    nestingElements elements = nestingMembers (untagged elements) := by
  induction elements with
  | nil => rfl
  | cons value rest ih => simp only [nestingElements, untagged, List.map_cons, nestingMembers, ih]

theorem countMembers_append (a b : List (Tag × Value)) :
    countMembers (a ++ b) = countMembers a + countMembers b := by
  induction a with
  | nil => exact (Nat.zero_add _).symm
  | cons member rest ih => simp only [List.cons_append, countMembers, ih, Nat.add_assoc]

theorem countElements_eq (elements : List Value) :
    countElements elements = countMembers (untagged elements) := by
  induction elements with
  | nil => rfl
  | cons value rest ih => simp only [countElements, untagged, List.map_cons, countMembers, ih]

theorem nestingMembers_le (each : ∀ member ∈ members, member.2.nesting ≤ n) :
    nestingMembers members ≤ n := by
  induction members with
  | nil => exact Nat.zero_le n
  | cons member rest ih =>
    simp only [List.forall_mem_cons] at each
    exact Nat.max_le.mpr ⟨each.1, ih each.2⟩

theorem nestingElements_le (each : ∀ value ∈ elements, value.nesting ≤ n) :
    nestingElements elements ≤ n := by
  induction elements with
  | nil => exact Nat.zero_le n
  | cons value rest ih =>
    simp only [List.forall_mem_cons] at each
    exact Nat.max_le.mpr ⟨each.1, ih each.2⟩

/-- The members a container of `kind` may have: an array's are anonymous. -/
def Permitted (kind : ContainerKind) (members : List (Tag × Value)) : Prop :=
  kind = .array → ∀ member ∈ members, member.1 = .anonymous

theorem untagged_map_snd (permitted : Permitted .array members) :
    untagged (members.map Prod.snd) = members := by
  have anonymous := permitted rfl
  rw [untagged, List.map_map]
  refine (List.map_congr_left fun member found => ?_).trans (List.map_id members)
  exact Prod.ext (anonymous member found).symm rfl

theorem array_eq_ofMembers (elements : List Value) :
    array elements = ofMembers .array (untagged elements) := by
  rw [ofMembers, untagged, List.map_map]
  exact congrArg array (List.map_id elements).symm

theorem permitted_untagged (kind : ContainerKind) (elements : List Value) :
    Permitted kind (untagged elements) := by
  intro _ member found
  obtain ⟨value, _, rfl⟩ := List.mem_map.mp found
  rfl

theorem Permitted.of_ne (other : kind ≠ .array) (members : List (Tag × Value)) :
    Permitted kind members :=
  fun same => absurd same other

@[simp] theorem nesting_ofRef (value : ValueRef) : (ofRef value).nesting = 0 := by
  cases value <;> simp only [ofRef, nesting]

theorem nesting_ofMembers (permitted : Permitted kind members) :
    (ofMembers kind members).nesting = 1 + nestingMembers members := by
  cases kind with
  | array => simp only [ofMembers, nesting, nestingElements_eq, untagged_map_snd permitted]
  | _ => simp only [ofMembers, nesting]

@[simp] theorem count_ofRef (value : ValueRef) : (ofRef value).count = 1 := by
  cases value <;> simp only [ofRef, count]

theorem count_ofMembers (permitted : Permitted kind members) :
    (ofMembers kind members).count = 1 + countMembers members := by
  cases kind with
  | array => simp only [ofMembers, count, countElements_eq, untagged_map_snd permitted]
  | _ => simp only [ofMembers, count]

theorem sizeOf_snd_lt {members : List (Tag × Value)} (found : member ∈ members) :
    sizeOf member.2 < sizeOf members := by
  have pair := List.sizeOf_lt_of_mem found
  obtain ⟨tag, value⟩ := member
  simp only [Prod.mk.sizeOf_spec] at pair
  dsimp only
  omega

/-- Every value is a scalar or a container of permitted members. -/
theorem ref_or_members {P : Value → Prop} (ref : ∀ value, P (ofRef value))
    (members : ∀ kind members, Permitted kind members → (∀ member ∈ members, P member.2) →
      P (ofMembers kind members)) (value : Value) : P value := by
  match value with
  | bool b => exact ref (.bool b)
  | uint n => exact ref (.uint n)
  | int n => exact ref (.int n)
  | float bits => exact ref (.float bits)
  | double bits => exact ref (.double bits)
  | utf8 text => exact ref (.utf8 text)
  | bytes octets => exact ref (.bytes octets)
  | null => exact ref .null
  | struct inner =>
    refine members .struct inner (.of_ne (by decide) inner) fun member found => ?_
    have smaller := sizeOf_snd_lt found
    exact ref_or_members ref members member.2
  | list inner =>
    refine members .list inner (.of_ne (by decide) inner) fun member found => ?_
    have smaller := sizeOf_snd_lt found
    exact ref_or_members ref members member.2
  | array elements =>
    rw [array_eq_ofMembers]
    refine members .array _ (permitted_untagged .array elements) fun member found => ?_
    obtain ⟨value, inside, rfl⟩ := List.mem_map.mp found
    have smaller := List.sizeOf_lt_of_mem inside
    exact ref_or_members ref members value
termination_by value
decreasing_by
  all_goals
    simp only [struct.sizeOf_spec, list.sizeOf_spec, array.sizeOf_spec]
    omega

theorem eq_ofRef_or_ofMembers (value : Value) :
    (∃ ref, value = ofRef ref) ∨
      ∃ kind members, Permitted kind members ∧ value = ofMembers kind members := by
  induction value using ref_or_members with
  | ref ref => exact .inl ⟨ref, rfl⟩
  | members kind members permitted _ => exact .inr ⟨kind, members, permitted, rfl⟩

end Value
end Matter.Codec
