import Matter.Codec.Writer

/-! What a writer adds to its buffer: always given bytes, or these bytes exactly
when a condition holds, and an error otherwise. -/
namespace Matter.Codec.TlvWriter
open Value Exits
variable {ε α : Type}

/-- A writer that appends given bytes. -/
def Appends (m : EStateM ε Bytes Unit) (bytes : Bytes) : Prop :=
  ∀ out, m.run out = .ok () (out ++ bytes)

namespace Appends
variable {m : EStateM ε Bytes Unit} {next : Unit → EStateM ε Bytes Unit} {first second : Bytes}

theorem pure : Appends (Pure.pure () : EStateM ε Bytes Unit) [] := by
  intro out
  rw [List.append_nil]
  rfl

theorem bind (head : Appends m first) (tail : Appends (next ()) second) :
    Appends (m >>= next) (first ++ second) := by
  intro out
  rw [run_bind_ok (head out), tail, List.append_assoc]

theorem congr (appends : Appends m first) (same : first = second) : Appends m second :=
  same ▸ appends

theorem forM {elems : List α} (each : ∀ e ∈ elems, Appends (write e) (wire e)) :
    Appends (elems.forM write) (elems.map wire).flatten := by
  induction elems with
  | nil => exact pure
  | cons e rest ih =>
    exact (each e List.mem_cons_self).bind
      (ih fun other member => each other (List.mem_cons_of_mem _ member))

theorem option (slot : Option α) (each : ∀ a, Appends (write a) (wire a)) :
    Appends (slot.forM write) ((slot.map wire).getD []) := by
  cases slot with
  | none => exact pure
  | some a => exact each a

end Appends

/-- A writer that appends `bytes` if `p` holds and fails otherwise. -/
def AppendsIff (m : EStateM ε Bytes Unit) (p : Prop) (bytes : Bytes) : Prop :=
  ∀ out out', m.run out = .ok () out' ↔ p ∧ out' = out ++ bytes

namespace AppendsIff
variable {m : EStateM ε Bytes Unit} {next : Unit → EStateM ε Bytes Unit} {first second : Bytes}
  {p q : Prop}

theorem of_appends (appends : Appends m first) : AppendsIff m True first := by
  intro out out'
  rw [appends out]
  simp [eq_comm]

theorem throw (e : ε) (bytes : Bytes) :
    AppendsIff (MonadExcept.throw e : EStateM ε Bytes Unit) False bytes := by
  intro out out'
  constructor
  · intro ran
    cases ran
  · exact fun absurd => absurd.1.elim

theorem bind (head : AppendsIff m p first) (tail : AppendsIff (next ()) q second) :
    AppendsIff (m >>= next) (p ∧ q) (first ++ second) := by
  intro out out'
  constructor
  · intro ran
    obtain ⟨_, middle, ranFirst, ranSecond⟩ := of_run_bind_ok ran
    obtain ⟨first, rfl⟩ := (head _ _).mp ranFirst
    obtain ⟨second, rfl⟩ := (tail _ _).mp ranSecond
    exact ⟨⟨first, second⟩, List.append_assoc ..⟩
  · rintro ⟨⟨first, second⟩, rfl⟩
    rw [run_bind_ok ((head out _).mpr ⟨first, rfl⟩)]
    exact (tail _ _).mpr ⟨second, (List.append_assoc ..).symm⟩

theorem congr (appends : AppendsIff m p first) (same : p ↔ q) (bytes : first = second) :
    AppendsIff m q second :=
  fun out out' => (appends out out').trans (by rw [same, bytes])

theorem forM {elems : List α} {good : α → Prop} (each : ∀ e, AppendsIff (write e) (good e) (wire e)) :
    AppendsIff (elems.forM write) (∀ e ∈ elems, good e) (elems.map wire).flatten := by
  induction elems with
  | nil => exact (of_appends .pure).congr (by simp) rfl
  | cons e rest ih => exact ((each e).bind ih).congr (by simp) rfl

end AppendsIff

theorem appends_start (tag : Tag) (kind : ContainerKind) :
    Appends (startContainer tag kind) (encodeTag tag (.container kind)) := fun _ => rfl

theorem appends_end : Appends endContainer [ElementType.endOfContainer.code] := fun _ => rfl

theorem appends_putBool (tag : Tag) (b : Bool) :
    Appends (putBool tag b) ((ValueRef.bool b).encode tag) := fun _ => rfl

theorem appends_putUint (tag : Tag) (n : UInt64) :
    Appends (putUint tag n) ((ValueRef.uint n).encode tag) := fun _ => rfl

theorem appends_putNull (tag : Tag) : Appends (putNull tag) (ValueRef.null.encode tag) :=
  fun _ => rfl

theorem appends_putUtf8 (tag : Tag) (text : Text) :
    Appends (putUtf8 tag text) ((ValueRef.utf8 text).encode tag) :=
  putStringPayload_run tag .utf8 (text.length_bytes ▸ text.addressable)

theorem appends_putBytes (tag : Tag) (octets : Octets) :
    Appends (putBytes tag octets) ((ValueRef.bytes octets).encode tag) :=
  putStringPayload_run tag .bytes octets.addressable

end Matter.Codec.TlvWriter
