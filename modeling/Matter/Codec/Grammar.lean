import Matter.Codec.Elements

/-! The grammar of TLV elements, without a limit on how deep they nest. An
element is delimited by its own bytes, so a sequence of elements before an end
marker can be cut in one way only. -/
namespace Matter.Codec
open LittleEndian

/-- What may follow the tag of a scalar. -/
def IsBody : ElementType → Bytes → Prop
  | .int width, body => body.length = width.bytes
  | .uint width, body => body.length = width.bytes
  | .bool _, body => body = []
  | .float32, body => body.length = 4
  | .float64, body => body.length = 8
  | .utf8 width, body => body.length = width.bytes + decode (body.take width.bytes)
  | .bytes width, body => body.length = width.bytes + decode (body.take width.bytes)
  | .null, body => body = []
  | .container _, _ => False
  | .endOfContainer, _ => False

/-- One complete element under a tag of the given form. -/
inductive IsElement : TagControl → Bytes → Prop
  | scalar {form : TagControl} {type : ElementType} {tag body : Bytes}
    (tagged : tag.length = form.size) (valid : IsBody type body) :
    IsElement form (controlOctet form type :: tag ++ body)
  | container {form : TagControl} {kind : ContainerKind} {tag : Bytes} {children : List Bytes}
    (forms : Bytes → TagControl) (tagged : tag.length = form.size)
    (inner : ∀ child ∈ children, IsElement (forms child) child) :
    IsElement form (controlOctet form (.container kind) :: tag ++
      (children.flatten ++ [ElementType.endOfContainer.code]))

theorem controlOctet_inj (same : controlOctet form type = controlOctet form' type') :
    form = form' ∧ type = type' := by
  have forms := congrArg (· &&& tagControlMask) same
  have types := congrArg (· &&& elementTypeMask) same
  simp only [controlOctet_form] at forms
  simp only [controlOctet_type] at types
  constructor
  · have found := TagControl.ofBits?_bits form
    rw [forms, TagControl.ofBits?_bits] at found
    exact (Option.some.inj found).symm
  · exact ElementType.code_inj types

/-- A length field says how far a string reaches. -/
theorem lengthPrefixed_split {body body' s t : Bytes}
    (sized : body.length = width + decode (body.take width))
    (sized' : body'.length = width + decode (body'.take width)) (same : body ++ s = body' ++ t) :
    body = body' ∧ s = t := by
  have field : body.take width = body'.take width := by
    have prefixes := congrArg (List.take width) same
    rwa [List.take_append_of_le_length (by omega), List.take_append_of_le_length (by omega)]
      at prefixes
  exact List.append_inj same (by rw [sized, sized', field])

theorem IsBody.split (valid : IsBody type body) (valid' : IsBody type body')
    (same : body ++ s = body' ++ t) : body = body' ∧ s = t := by
  cases type with
  | utf8 width | bytes width => exact lengthPrefixed_split valid valid' same
  | bool b | null =>
    obtain rfl : body = [] := valid
    obtain rfl : body' = [] := valid'
    exact ⟨rfl, same⟩
  | container kind | endOfContainer => exact valid.elim
  | _ => exact List.append_inj same (Eq.trans valid valid'.symm)

theorem IsElement.head (valid : IsElement form element) :
    ∃ type rest, element = controlOctet form type :: rest ∧ type ≠ .endOfContainer := by
  cases valid with
  | scalar tagged body =>
    refine ⟨_, _, rfl, fun stop => ?_⟩
    rw [stop] at body
    exact body
  | container forms tagged inner => exact ⟨_, _, rfl, by simp⟩

theorem IsElement.ne_end (valid : IsElement form element)
    (same : ElementType.endOfContainer.code :: s = element ++ t) : False := by
  obtain ⟨type, rest, rfl, other⟩ := valid.head
  rw [List.cons_append, List.cons.injEq] at same
  have stop : controlOctet .anonymous .endOfContainer = controlOctet form type := same.1
  exact other (controlOctet_inj stop).2.symm

/-- The sequence of elements before an end marker is determined by the bytes, if
each of the first ones is. -/
theorem flatten_split {children children' : List Bytes}
    (cuts : ∀ child ∈ children, ∀ form' other s t, IsElement form' other →
      child ++ s = other ++ t → child = other ∧ s = t)
    (valid : ∀ child ∈ children, ∃ form, IsElement form child)
    (valid' : ∀ child ∈ children', ∃ form, IsElement form child)
    (same : children.flatten ++ ElementType.endOfContainer.code :: s =
      children'.flatten ++ ElementType.endOfContainer.code :: t) :
    children = children' ∧ s = t := by
  induction children generalizing children' with
  | nil =>
    cases children' with
    | nil => exact ⟨rfl, (List.cons.inj same).2⟩
    | cons child' rest' =>
      obtain ⟨form, element⟩ := valid' child' List.mem_cons_self
      rw [List.flatten_cons, List.append_assoc] at same
      exact (element.ne_end same).elim
  | cons child rest ih =>
    cases children' with
    | nil =>
      obtain ⟨form, element⟩ := valid child List.mem_cons_self
      rw [List.flatten_cons, List.append_assoc] at same
      exact (element.ne_end same.symm).elim
    | cons child' rest' =>
      obtain ⟨form', element'⟩ := valid' child' List.mem_cons_self
      rw [List.flatten_cons, List.flatten_cons, List.append_assoc, List.append_assoc] at same
      obtain ⟨rfl, remaining⟩ := cuts child List.mem_cons_self form' child' _ _ element' same
      obtain ⟨rfl, tail⟩ := ih (fun other member => cuts other (List.mem_cons_of_mem _ member))
        (fun other member => valid other (List.mem_cons_of_mem _ member))
        (fun other member => valid' other (List.mem_cons_of_mem _ member)) remaining
      exact ⟨rfl, tail⟩

/-- An element at the start of some bytes is the only one there. -/
theorem IsElement.split (valid : IsElement form element) (valid' : IsElement form' other)
    (same : element ++ s = other ++ t) : element = other ∧ s = t := by
  induction valid generalizing form' other s t with
  | @scalar form type tag body tagged body_ =>
    cases valid' with
    | @scalar _ type' tag' body' tagged' body_' =>
      simp only [List.cons_append, List.append_assoc, List.cons.injEq] at same
      obtain ⟨rfl, rfl⟩ := controlOctet_inj same.1
      obtain ⟨rfl, bodies⟩ := List.append_inj same.2 (tagged.trans tagged'.symm)
      obtain ⟨rfl, rest⟩ := body_.split body_' bodies
      exact ⟨rfl, rest⟩
    | container forms tagged' inner =>
      simp only [List.cons_append, List.cons.injEq] at same
      obtain ⟨rfl, rfl⟩ := controlOctet_inj same.1
      exact body_.elim
  | @container form kind tag children forms tagged inner ih =>
    cases valid' with
    | scalar tagged' body' =>
      simp only [List.cons_append, List.cons.injEq] at same
      obtain ⟨rfl, rfl⟩ := controlOctet_inj same.1
      exact body'.elim
    | @container _ kind' tag' children' forms' tagged' inner' =>
      simp only [List.cons_append, List.append_assoc, List.cons.injEq] at same
      obtain ⟨rfl, kinds⟩ := controlOctet_inj same.1
      obtain rfl := ElementType.container.inj kinds
      obtain ⟨rfl, bodies⟩ := List.append_inj same.2 (tagged.trans tagged'.symm)
      obtain ⟨rfl, rest⟩ := flatten_split
        (fun child member form' other s t valid' same => ih child member valid' same)
        (fun child member => ⟨_, inner child member⟩)
        (fun child member => ⟨_, inner' child member⟩) bodies
      exact ⟨rfl, rest⟩

/-- What a container holds is determined by its bytes. -/
theorem enclose_inj {children children' : List Bytes}
    (valid : ∀ child ∈ children, ∃ form, IsElement form child)
    (valid' : ∀ child ∈ children', ∃ form, IsElement form child)
    (same : enclose tag kind children.flatten = enclose tag kind children'.flatten) :
    children = children' := by
  simp only [enclose, List.append_assoc, List.append_cancel_left_eq] at same
  refine (flatten_split (s := []) (t := []) ?_ valid valid' same).1
  intro child member form' other s t element'
  obtain ⟨form, element⟩ := valid child member
  exact element.split element'

theorem length_encodeTag (tag : Tag) (type : ElementType) :
    (encodeTag tag type).length = tag.form.size + 1 := by
  obtain ⟨payload, sized, header⟩ := encodeTag_shape tag
  rw [header, List.length_cons, sized]

theorem isElement_enclose (tag : Tag) (kind : ContainerKind) {children : List Bytes}
    (valid : ∀ child ∈ children, ∃ form, IsElement form child) :
    IsElement tag.form (enclose tag kind children.flatten) := by
  obtain ⟨payload, sized, header⟩ := encodeTag_shape tag
  have chosen : ∃ forms : Bytes → TagControl, ∀ child ∈ children, IsElement (forms child) child := by
    classical
    refine ⟨fun child => if member : child ∈ children then (valid child member).choose
      else .anonymous, fun child member => ?_⟩
    simp only [member, dif_pos]
    exact (valid child member).choose_spec
  obtain ⟨forms, inner⟩ := chosen
  rw [enclose, header, List.append_assoc]
  exact .container forms sized inner

theorem isBody_lengthPrefixed (addressable : bytes.length < allocLimit) :
    (lengthPrefixed bytes).length = (Width.ofUnsigned bytes.length).bytes +
      decode ((lengthPrefixed bytes).take (Width.ofUnsigned bytes.length).bytes) := by
  have limit : allocLimit = 2 ^ 63 := rfl
  have fits : bytes.length < 256 ^ (Width.ofUnsigned bytes.length).bytes :=
    Width.ofUnsigned_fits (by omega)
  have field : (lengthPrefixed bytes).take (Width.ofUnsigned bytes.length).bytes =
      LittleEndian.encode (Width.ofUnsigned bytes.length).bytes bytes.length := by
    rw [lengthPrefixed, List.take_append_of_le_length (Nat.le_of_eq (length_encode _ _).symm)]
    exact List.take_of_length_le (Nat.le_of_eq (length_encode _ _))
  rw [field, decode_encode fits, lengthPrefixed, List.length_append, length_encode]

theorem isElement_scalar (tag : Tag) (value : ValueRef) : IsElement tag.form (value.encode tag) := by
  obtain ⟨payload, sized, header⟩ := encodeTag_shape tag
  rw [ValueRef.encode, header]
  refine .scalar sized ?_
  cases value with
  | utf8 text =>
    have addressable : text.bytes.length < allocLimit := text.length_bytes ▸ text.addressable
    exact isBody_lengthPrefixed addressable
  | bytes octets => exact isBody_lengthPrefixed octets.addressable
  | bool b => rfl
  | null => rfl
  | _ => exact length_encode _ _

/-- The tag and the value of a scalar can be read off its bytes. -/
theorem scalar_inj {value value' : ValueRef} (short : (value.encode tag).length < allocLimit)
    (same : value.encode tag = value'.encode tag') :
    tag = tag' ∧ value.beforeIs1 = value'.beforeIs1 := by
  let r := TlvReader.new ⟨value.encode tag, short⟩
  have bound : r.InBounds := Nat.zero_le _
  have here : r.rest = value.encode tag ++ [] := (List.append_nil _).symm
  have there : r.rest = value'.encode tag' ++ [] := same.trans (List.append_nil _).symm
  obtain ⟨_, first, _⟩ := TlvReader.nextRef_scalar bound here
  obtain ⟨_, second, _⟩ := TlvReader.nextRef_scalar bound there
  rw [first] at second
  simp only [EStateM.Result.ok.injEq, Option.some.injEq, ElementRef.scalar.injEq] at second
  exact second.1

def encodings (members : List (Tag × Value)) : List Bytes :=
  members.map fun member => member.2.encode member.1

theorem encodeMembers_flatten (members : List (Tag × Value)) :
    Value.encodeMembers members = (encodings members).flatten := by
  induction members with
  | nil => rfl
  | cons member rest ih =>
    rw [encodings, List.map_cons, List.flatten_cons, ← encodings, ← ih]
    rfl

theorem isElement_encode (value : Value) (tag : Tag) : IsElement tag.form (value.encode tag) := by
  induction value using Value.ref_or_members generalizing tag with
  | ref value =>
    rw [Value.encode_ofRef]
    exact isElement_scalar tag value
  | members kind members permitted ih =>
    rw [Value.encode_ofMembers tag permitted, encodeMembers_flatten]
    refine isElement_enclose tag kind fun child member => ?_
    obtain ⟨pair, found, rfl⟩ := List.mem_map.mp member
    exact ⟨_, ih pair found pair.1⟩

theorem header_inj (same : encodeTag tag type ++ rest = encodeTag tag' type' ++ rest') :
    encodeTag tag type = encodeTag tag' type' ∧ type = type' ∧ rest = rest' := by
  obtain ⟨payload, sized, header⟩ := encodeTag_shape tag
  obtain ⟨payload', sized', header'⟩ := encodeTag_shape tag'
  rw [header, header', List.cons_append, List.cons_append, List.cons.injEq] at same
  obtain ⟨forms, types⟩ := controlOctet_inj same.1
  have lengths : payload.length = payload'.length := by rw [sized, sized', forms]
  obtain ⟨payloads, rests⟩ := List.append_inj same.2 lengths
  rw [header, header', same.1, payloads]
  exact ⟨rfl, types, rests⟩

theorem encodeTag_container_inj
    (same : encodeTag tag (.container kind) = encodeTag tag' (.container kind')) :
    tag = tag' ∧ kind = kind' := by
  have short : (encodeTag tag (.container kind)).length < allocLimit := by
    have bound : tag.form.size ≤ 8 := by cases tag.form <;> decide
    rw [length_encodeTag, allocLimit]
    omega
  let r := TlvReader.new ⟨encodeTag tag (.container kind), short⟩
  have bound : r.InBounds := Nat.zero_le _
  have here : r.rest = encodeTag tag (.container kind) ++ [] := (List.append_nil _).symm
  have there : r.rest = encodeTag tag' (.container kind') ++ [] :=
    same.trans (List.append_nil _).symm
  have shallow : r.depth < maxDepth := show 0 < maxDepth by decide
  obtain ⟨_, first, _⟩ := TlvReader.nextRef_start bound here shallow
  obtain ⟨_, second, _⟩ := TlvReader.nextRef_start bound there shallow
  rw [first] at second
  simp only [EStateM.Result.ok.injEq, Option.some.injEq, ElementRef.containerStart.injEq] at second
  exact second.1

theorem isElement_encodings (members : List (Tag × Value)) :
    ∀ child ∈ encodings members, ∃ form, IsElement form child := by
  intro child found
  obtain ⟨member, -, rfl⟩ := List.mem_map.mp found
  exact ⟨_, isElement_encode member.2 member.1⟩

/-- A tree whose scalars the reader gives back as they are. -/
inductive Value.Plain : Value → Prop
  | ref {value : ValueRef} (kept : value.beforeIs1 = value)
    (short : ∀ tag, (value.encode tag).length < allocLimit) : Plain (ofRef value)
  | members {kind : ContainerKind} {members : List (Tag × Value)}
    (permitted : Permitted kind members) (each : ∀ member ∈ members, Plain member.2) :
    Plain (ofMembers kind members)

/-- A plain tree and its tag can be read off the bytes. -/
theorem Value.Plain.encode_inj {value other : Value} (plain : value.Plain) (plain' : other.Plain)
    (same : value.encode tag = other.encode tag') : tag = tag' ∧ value = other := by
  induction plain generalizing other tag tag' with
  | @ref value kept short =>
    cases plain' with
    | @ref value' kept' short' =>
      rw [encode_ofRef, encode_ofRef] at same
      obtain ⟨tags, values⟩ := scalar_inj (short tag) same
      rw [kept, kept'] at values
      exact ⟨tags, congrArg ofRef values⟩
    | members permitted' each' =>
      rw [encode_ofRef, encode_ofMembers _ permitted', ValueRef.encode, enclose,
        List.append_assoc] at same
      have types := (header_inj same).2.1
      cases value <;> cases types
  | @members kind members permitted each ih =>
    cases plain' with
    | @ref value' kept' short' =>
      rw [encode_ofRef, encode_ofMembers _ permitted, ValueRef.encode, enclose,
        List.append_assoc] at same
      have types := (header_inj same).2.1
      cases value' <;> cases types
    | @members kind' members' permitted' each' =>
      rw [encode_ofMembers _ permitted, encode_ofMembers _ permitted', enclose, enclose,
        List.append_assoc, List.append_assoc] at same
      obtain ⟨headers, -, bodies⟩ := header_inj same
      obtain ⟨rfl, rfl⟩ := encodeTag_container_inj headers
      have wrapped : enclose tag kind (encodings members).flatten =
          enclose tag kind (encodings members').flatten := by
        rw [enclose, enclose, List.append_assoc, List.append_assoc, ← encodeMembers_flatten,
          ← encodeMembers_flatten, bodies]
      have children := enclose_inj (isElement_encodings members) (isElement_encodings members')
        wrapped
      refine ⟨rfl, congrArg (ofMembers kind) (map_inj_between (fun m found m' found' wire => ?_)
        children)⟩
      obtain ⟨tags, values⟩ := ih m found (each' m' found') wire
      exact Prod.ext tags values

/-- An anonymous element under another tag. -/
def retag (tag : Tag) : Bytes → Bytes
  | [] => []
  | control :: rest => TlvWriter.encodeTagCode tag (control &&& elementTypeMask) ++ rest

theorem encodeTagCode_eq (tag : Tag) (type : ElementType) :
    TlvWriter.encodeTagCode tag type.code = encodeTag tag type := by
  have same : ∀ form : TagControl,
      controlOctet form .null &&& tagControlMask ||| type.code = controlOctet form type := by
    intro form
    rw [controlOctet_form]
    rfl
  obtain ⟨payload, _, shape⟩ := encodeTag_shape tag
  rw [TlvWriter.encodeTagCode, shape, shape, ← same]

section
variable (valid : IsElement .anonymous element)
include valid

/-- Retagging replaces the header and nothing else. -/
theorem IsElement.retag_eq (tag : Tag) :
    ∃ type rest, type ≠ .endOfContainer ∧ element = controlOctet .anonymous type :: rest ∧
      retag tag element = encodeTag tag type ++ rest := by
  obtain ⟨type, rest, rfl, other⟩ := valid.head
  refine ⟨type, rest, other, rfl, ?_⟩
  rw [retag, controlOctet_type, encodeTagCode_eq]

theorem IsElement.retag (tag : Tag) :
    IsElement tag.form (retag tag element) := by
  cases valid with
  | @scalar _ type bare body tagged body_ =>
    obtain rfl := List.eq_nil_of_length_eq_zero tagged
    obtain ⟨payload, sized, header⟩ := encodeTag_shape tag
    rw [List.cons_append, List.nil_append, Codec.retag, controlOctet_type, encodeTagCode_eq, header]
    exact .scalar sized body_
  | @container _ kind bare children forms tagged inner =>
    obtain rfl := List.eq_nil_of_length_eq_zero tagged
    obtain ⟨payload, sized, header⟩ := encodeTag_shape tag
    rw [List.cons_append, List.nil_append, Codec.retag, controlOctet_type, encodeTagCode_eq, header]
    exact .container forms sized inner

/-- The anonymous element can be read off the retagged one. -/
theorem retag_inj (valid' : IsElement .anonymous other)
    (same : retag tag element = retag tag other) : element = other := by
  obtain ⟨type, rest, _, rfl, first⟩ := valid.retag_eq tag
  obtain ⟨type', rest', _, rfl, second⟩ := valid'.retag_eq tag
  rw [first, second] at same
  obtain ⟨payload, sized, header⟩ := encodeTag_shape tag
  rw [header, header, List.cons_append, List.cons_append, List.cons.injEq] at same
  obtain ⟨_, rfl⟩ := controlOctet_inj same.1
  rw [List.append_cancel_left same.2]

/-- An anonymous tag takes no bytes, a context tag one. -/
theorem IsElement.length_retag_context (n : UInt8) :
    (Codec.retag (.context n) element).length = element.length + 1 := by
  obtain ⟨type, rest, _, rfl, wire⟩ := valid.retag_eq (.context n)
  rw [wire]
  simp [encodeTag]

theorem IsElement.retag_anonymous :
    Codec.retag .anonymous element = element := by
  obtain ⟨type, rest, _, rfl, wire⟩ := valid.retag_eq .anonymous
  exact wire

/-- `put_preencoded` takes every anonymous element. -/
theorem putPreencoded_run (tag : Tag) (out : Bytes) :
    (TlvWriter.putPreencoded tag element).run out = .ok () (out ++ retag tag element) := by
  obtain ⟨type, rest, other, rfl, wire⟩ := valid.retag_eq tag
  have differs : type.code ≠ ElementType.endOfContainer.code :=
    fun same => other (ElementType.code_inj same)
  simp only [TlvWriter.putPreencoded, controlOctet_form, ne_eq, not_true_eq_false, if_false,
    controlOctet_type, if_neg differs]
  rw [EStateM.run_modify, wire, encodeTagCode_eq]

end

end Matter.Codec
