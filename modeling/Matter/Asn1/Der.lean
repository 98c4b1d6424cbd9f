import Mathlib.Data.List.TakeWhile
import Mathlib.Tactic.Ring
import Matter.Base.LittleEndian

/-! The distinguished encoding of ASN.1 values: identifier, definite length and
content octets. The encoding of a value tree determines the tree, as long as
lengths fit a machine word. -/
namespace Matter.Asn1
open LittleEndian

/-- The octets of a length without its leading zeros. -/
def lengthOctets (len : Nat) : Bytes := (encode 8 len).reverse.dropWhile (· == 0)

/-- Short form below 128, long form otherwise. -/
def definiteLength (len : Nat) : Bytes :=
  if len < 0x80 then [UInt8.ofNat len]
  else (0x80 ||| UInt8.ofNat (lengthOctets len).length) :: lengthOctets len

/-- Identifier octet, length and content. -/
def element (tag : UInt8) (content : Bytes) : Bytes :=
  tag :: (definiteLength content.length ++ content)

theorem decode_append (xs ys : Bytes) :
    decode (xs ++ ys) = decode xs + 256 ^ xs.length * decode ys := by
  induction xs with
  | nil => simp [decode]
  | cons b rest ih =>
    rw [List.cons_append, decode, ih, decode, List.length_cons, Nat.pow_succ]
    ring

theorem decode_zeros (all : ∀ b ∈ zeros, b = 0) : decode zeros = 0 := by
  induction zeros with
  | nil => rfl
  | cons b rest ih =>
    rw [List.forall_mem_cons] at all
    simp [decode, all.1, ih all.2]

theorem decode_lengthOctets (fits : len < 256 ^ 8) : decode (lengthOctets len).reverse = len := by
  have whole := List.takeWhile_append_dropWhile (p := (· == (0 : UInt8)))
    (l := (encode 8 len).reverse)
  have zeros : ∀ b ∈ ((encode 8 len).reverse.takeWhile (· == 0)).reverse, b = 0 := by
    intro b found
    have passed := List.mem_takeWhile_imp (List.mem_reverse.mp found)
    exact eq_of_beq passed
  have reversed : encode 8 len = (lengthOctets len).reverse ++
      ((encode 8 len).reverse.takeWhile (· == 0)).reverse := by
    rw [lengthOctets, ← List.reverse_append, whole, List.reverse_reverse]
  have value := decode_encode fits
  rw [reversed, decode_append, decode_zeros zeros] at value
  simpa using value

theorem length_lengthOctets_le (len : Nat) : (lengthOctets len).length ≤ 8 := by
  have short := (List.dropWhile_sublist (l := (encode 8 len).reverse) (· == 0)).length_le
  rwa [List.length_reverse, length_encode] at short

theorem long_form_inj : ∀ n < 9, ∀ m < 9, (0x80 ||| UInt8.ofNat n) = (0x80 ||| UInt8.ofNat m) →
    n = m := by
  decide

theorem long_form_ne_short : ∀ n < 9, ∀ len < 0x80, (0x80 ||| UInt8.ofNat n) ≠ UInt8.ofNat len := by
  decide

/-- A length ends where it says. -/
theorem definiteLength_split (nFits : n < 256 ^ 8) (mFits : m < 256 ^ 8)
    (same : definiteLength n ++ s = definiteLength m ++ t) : n = m ∧ s = t := by
  have short := Nat.lt_succ_of_le (length_lengthOctets_le n)
  have short' := Nat.lt_succ_of_le (length_lengthOctets_le m)
  unfold definiteLength at same
  split at same <;> split at same
  · rename_i small small'
    obtain ⟨first, rest⟩ := List.cons.inj same
    have values := congrArg UInt8.toNat first
    rw [UInt8.toNat_ofNat', UInt8.toNat_ofNat'] at values
    exact ⟨by omega, rest⟩
  · rename_i small _
    exact absurd (List.cons.inj same).1.symm (long_form_ne_short _ short' _ small)
  · rename_i _ small
    exact absurd (List.cons.inj same).1 (long_form_ne_short _ short _ small)
  · obtain ⟨first, rest⟩ := List.cons.inj same
    have counts := long_form_inj _ short _ short' first
    obtain ⟨octets, rest⟩ := List.append_inj rest counts
    refine ⟨?_, rest⟩
    rw [← decode_lengthOctets nFits, octets, decode_lengthOctets mFits]

theorem length_element (tag : UInt8) (content : Bytes) :
    content.length < (element tag content).length := by
  rw [element, List.length_cons, List.length_append]
  omega

/-- An element ends where its length says. -/
theorem element_split (fits : (element tag content ++ s).length < 256 ^ 8)
    (same : element tag content ++ s = element tag' content' ++ t) :
    tag = tag' ∧ content = content' ∧ s = t := by
  have fits' := same ▸ fits
  have first := length_element tag content
  have second := length_element tag' content'
  rw [List.length_append] at fits fits'
  rw [element, element, List.cons_append, List.cons_append, List.append_assoc,
    List.append_assoc] at same
  obtain ⟨tags, rest⟩ := List.cons.inj same
  obtain ⟨lengths, rest⟩ := definiteLength_split (by omega) (by omega) rest
  obtain ⟨contents, rest⟩ := List.append_inj rest lengths
  exact ⟨tags, contents, rest⟩

/-- Values by their encoding. Bit 6 of an identifier octet says whether the
content is made of elements. -/
inductive Der where
  | primitive (tag : UInt8) (simple : tag &&& 0x20 = 0) (content : Bytes)
  | constructed (tag : UInt8) (nested : tag &&& 0x20 ≠ 0) (elements : List Der)

namespace Der

mutual

def encode : Der → Bytes
  | primitive tag _ content => element tag content
  | constructed tag _ elements => element tag (encodeAll elements)

def encodeAll : List Der → Bytes
  | [] => []
  | value :: rest => value.encode ++ encodeAll rest

end

theorem encode_eq_element (value : Der) : ∃ tag content, value.encode = element tag content := by
  cases value with
  | primitive tag _ content => exact ⟨tag, content, by rw [encode]⟩
  | constructed tag _ elements => exact ⟨tag, encodeAll elements, by rw [encode]⟩

/-- The encodings of two values stand apart. -/
theorem encode_split {x y : Der} (fits : (x.encode ++ s).length < 256 ^ 8)
    (same : x.encode ++ s = y.encode ++ t) : x.encode = y.encode ∧ s = t := by
  obtain ⟨tag, content, first⟩ := encode_eq_element x
  obtain ⟨tag', content', second⟩ := encode_eq_element y
  rw [first, second] at same
  rw [first] at fits
  obtain ⟨rfl, rfl, rest⟩ := element_split fits same
  exact ⟨first.trans second.symm, rest⟩

theorem encode_ne_nil (value : Der) : value.encode ≠ [] := by
  obtain ⟨tag, content, shape⟩ := encode_eq_element value
  rw [shape]
  exact List.cons_ne_nil _ _

theorem encodeAll_append (xs ys : List Der) :
    encodeAll (xs ++ ys) = encodeAll xs ++ encodeAll ys := by
  induction xs with
  | nil => rw [encodeAll, List.nil_append, List.nil_append]
  | cons x rest ih => rw [List.cons_append, encodeAll, encodeAll, ih, List.append_assoc]

theorem length_primitive_lt (simple : tag &&& 0x20 = 0) (content : Bytes) :
    content.length < (primitive tag simple content).encode.length := by
  rw [encode]
  exact length_element tag content

theorem length_encode_lt (part : x ∈ xs) :
    x.encode.length < (constructed tag nested xs).encode.length := by
  obtain ⟨before, after, rfl⟩ := List.append_of_mem part
  have inner := length_element tag (encodeAll (before ++ x :: after))
  rw [encodeAll_append, encodeAll, List.length_append, List.length_append] at inner
  rw [encode, encodeAll_append, encodeAll]
  omega

theorem encodeAll_inj
    (each : ∀ x ∈ xs, ∀ y : Der, x.encode.length < 256 ^ 8 → x.encode = y.encode → x = y)
    (fits : (encodeAll xs).length < 256 ^ 8) (same : encodeAll xs = encodeAll ys) : xs = ys := by
  induction xs generalizing ys with
  | nil =>
    cases ys with
    | nil => rfl
    | cons y rest =>
      rw [encodeAll, encodeAll] at same
      exact absurd (List.append_eq_nil_iff.mp same.symm).1 (encode_ne_nil y)
  | cons x rest ih =>
    rw [encodeAll] at fits same
    cases ys with
    | nil =>
      rw [encodeAll] at same
      exact absurd (List.append_eq_nil_iff.mp same).1 (encode_ne_nil x)
    | cons y others =>
      rw [encodeAll] at same
      obtain ⟨first, later⟩ := encode_split fits same
      rw [List.forall_mem_cons] at each
      rw [List.length_append] at fits
      rw [each.1 y (by omega) first, ih each.2 (by omega) later]

theorem encode_inj {x y : Der} (fits : x.encode.length < 256 ^ 8) (same : x.encode = y.encode) :
    x = y := by
  match x, y with
  | primitive tag simple content, primitive tag' simple' content' =>
    rw [encode, encode, ← List.append_nil (element tag _), ← List.append_nil (element tag' _)] at same
    rw [encode, ← List.append_nil (element tag _)] at fits
    obtain ⟨rfl, rfl, _⟩ := element_split fits same
    rfl
  | primitive tag simple content, constructed tag' nested elements
  | constructed tag nested elements, primitive tag' simple content =>
    rw [encode, encode] at same
    exact absurd ((List.cons.inj same).1 ▸ simple) nested
  | constructed tag nested elements, constructed tag' nested' elements' =>
    rw [encode, encode, ← List.append_nil (element tag _), ← List.append_nil (element tag' _)] at same
    rw [encode] at fits
    have inner := length_element tag (encodeAll elements)
    obtain ⟨rfl, contents, _⟩ := element_split (by rwa [List.append_nil]) same
    rw [encodeAll_inj (fun x member y => encode_inj) (by omega) contents]
termination_by sizeOf x
decreasing_by
  have smaller := List.sizeOf_lt_of_mem member
  simp only [constructed.sizeOf_spec]
  omega

end Der

/-! Object identifiers. -/

/-- A component in groups of seven bits, the last without the continuation bit. -/
def component : Nat → UInt8 → Nat → Bytes
  | 0, _, _ => []
  | groups + 1, more, n =>
    (if n < 128 then [] else component groups 0x80 (n / 128)) ++ [more ||| UInt8.ofNat (n % 128)]

/-- Components are 32-bit numbers; the first two share one. -/
def oidContent : List Nat → Bytes
  | first :: second :: rest => ((40 * first + second) :: rest).flatMap (component 5 0)
  | _ => []

/-- `ObjectIdentifier::encode_to_vec`. -/
def encodeOid (oid : List Nat) : Bytes := element 0x06 (oidContent oid)

example : encodeOid [1, 2, 840, 10045, 4, 3, 2] =
    [0x06, 0x08, 0x2a, 0x86, 0x48, 0xce, 0x3d, 0x04, 0x03, 0x02] := by decide

end Matter.Asn1
