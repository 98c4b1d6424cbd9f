import Mathlib.Data.List.Chain
import Matter.Codec.Appends
import Matter.Codec.Grammar
import Matter.Interaction.Messages

/-! Chunked list writes. The packer predicts the size of a message from probe
encodings; a reference packer encodes every candidate. Both fill messages
greedily, and the messages carry the elements of the list, in order, byte for
byte. -/
namespace Matter.Interaction
open Codec TlvWriter

/-- The writer's buffer; an error is where `expect` panics. -/
def written (m : WriterM Unit) : Except Codec.Error Bytes :=
  match m.run [] with
  | .ok _ out => .ok out
  | .error e _ => .error e

/-- The `AttributePathIB`, with `ListIndex` null in an append. -/
def writePath (path : AttributePath) (append : Bool) : WriterM Unit := do
  startList (.context 1)
  putUint (.context 2) path.endpoint.toUInt64
  putUint (.context 3) path.cluster.toUInt64
  putUint (.context 4) path.attr.toUInt64
  if append then putNull (.context 5) else pure ()
  endContainer

/-- The members before the write requests, and the start of their array. -/
def writeHead (timed : Bool) : WriterM Unit := do
  startStructure .anonymous
  putBool (.context 0) false
  putBool (.context 1) timed
  startArray (.context 2)

def writeTail (moreChunked : Option Bool) : WriterM Unit := do
  endContainer
  match moreChunked with
  | some more => putBool (.context 3) more
  | none => pure ()
  putUint (.context 0xff) imRevision.toUInt64
  endContainer

def encodeReplaceAll (path : AttributePath) (elems : List Bytes) (timed : Bool)
    (moreChunked : Option Bool) : Except Codec.Error Bytes := written do
  writeHead timed
  startStructure .anonymous
  writePath path false
  startArray (.context 2)
  elems.forM fun e => putPreencoded .anonymous e
  endContainer
  endContainer
  writeTail moreChunked

def encodeAppendItems (path : AttributePath) (elems : List Bytes) (timed : Bool)
    (moreChunked : Option Bool) : Except Codec.Error Bytes := written do
  writeHead timed
  elems.forM fun e => do
    startStructure .anonymous
    writePath path true
    putPreencoded (.context 2) e
    endContainer
  writeTail moreChunked

def encodedReplaceAllLen (path : AttributePath) (timed : Bool) (elems : List Bytes) :
    Except Codec.Error Nat := do
  return (← encodeReplaceAll path elems timed none).length

def encodedAppendLen (path : AttributePath) (timed : Bool) (elems : List Bytes) :
    Except Codec.Error Nat := do
  return (← encodeAppendItems path elems timed none).length

def chunkFlagReserve : Nat := 4

def probe : Bytes := [0x14]

/-- The loop that fills one batch: what it takes, and what it leaves. -/
def fillBatch (cost : Bytes → Nat) (budget : Nat) :
    Nat → List Bytes → List Bytes → List Bytes × List Bytes
  | _, batch, [] => (batch, [])
  | size, batch, e :: rest =>
    if size + cost e + chunkFlagReserve > budget ∧ batch ≠ [] then (batch, e :: rest)
    else fillBatch cost budget (size + cost e) (batch ++ [e]) rest

/-- The loop over batches of appended items; each takes an element at least. -/
def appendBatches (fill : List Bytes → List Bytes × List Bytes) :
    Nat → List Bytes → List (List Bytes)
  | _, [] => []
  | 0, _ => []
  | fuel + 1, e :: rest =>
    let (batch, left) := fill (e :: rest)
    batch :: appendBatches fill fuel left

/-- The messages of a first batch and the batches after it. -/
def encodeBatches (path : AttributePath) (timed : Bool) (first : List Bytes)
    (batches : List (List Bytes)) : Except Codec.Error (List Bytes) := do
  let firstMore := if batches.isEmpty then none else some true
  let head ← encodeReplaceAll path first timed firstMore
  let rest ← batches.zipIdx.mapM fun (batch, i) =>
    encodeAppendItems path batch timed (some (i + 1 < batches.length))
  return head :: rest

def buildListWriteChunks (path : AttributePath) (elements : List Bytes) (budget : Nat)
    (timed : Bool) : Except Codec.Error (List Bytes) := do
  let replaceBase ← encodedReplaceAllLen path timed []
  let appendBase ← encodedAppendLen path timed []
  let probed ← encodedAppendLen path timed [probe]
  let overhead := probed - appendBase - probe.length
  let (first, rest) := fillBatch List.length budget replaceBase [] elements
  let batches := appendBatches
    (fillBatch (fun e => overhead + e.length) budget appendBase []) rest.length rest
  encodeBatches path timed first batches

/-- The reference packer's loop, which encodes each candidate batch. -/
def fillReference (encodedLen : List Bytes → Except Codec.Error Nat) (budget : Nat) :
    List Bytes → List Bytes → Except Codec.Error (List Bytes × List Bytes)
  | batch, [] => .ok (batch, [])
  | batch, e :: rest => do
    let size ← encodedLen (batch ++ [e])
    if size + chunkFlagReserve > budget ∧ batch ≠ [] then return (batch, e :: rest)
    else fillReference encodedLen budget (batch ++ [e]) rest

def appendBatchesReference
    (fill : List Bytes → Except Codec.Error (List Bytes × List Bytes)) :
    Nat → List Bytes → Except Codec.Error (List (List Bytes))
  | _, [] => .ok []
  | 0, _ => .ok []
  | fuel + 1, e :: rest => do
    let (batch, left) ← fill (e :: rest)
    return batch :: (← appendBatchesReference fill fuel left)

def buildListWriteChunksReference (path : AttributePath) (elements : List Bytes) (budget : Nat)
    (timed : Bool) : Except Codec.Error (List Bytes) := do
  let (first, rest) ← fillReference (encodedReplaceAllLen path timed) budget [] elements
  let batches ← appendBatchesReference
    (fillReference (encodedAppendLen path timed) budget []) rest.length rest
  encodeBatches path timed first batches

/-- What a message of a list write says. -/
structure ListWrite where
  path : AttributePath
  timed : Bool
  append : Bool
  elements : List Bytes
  more : Option Bool
  deriving DecidableEq

namespace ListWrite

def pathFields (path : AttributePath) (append : Bool) : List Bytes :=
  [(ValueRef.uint path.endpoint.toUInt64).encode (.context 2),
    (ValueRef.uint path.cluster.toUInt64).encode (.context 3),
    (ValueRef.uint path.attr.toUInt64).encode (.context 4)] ++
    if append then [ValueRef.null.encode (.context 5)] else []

/-- An `AttributeDataIB` of a path and data that carry their tags. -/
def entry (path : AttributePath) (append : Bool) (data : Bytes) : Bytes :=
  enclose .anonymous .struct
    [enclose (.context 1) .list (pathFields path append).flatten, data].flatten

/-- One block that replaces the list, or one for each appended item. -/
def entries (m : ListWrite) : List Bytes :=
  if m.append then m.elements.map fun e => entry m.path true (retag (.context 2) e)
  else [entry m.path false (enclose (.context 2) .array m.elements.flatten)]

def flag : Option Bool → List Bytes
  | none => []
  | some more => [(ValueRef.bool more).encode (.context 3)]

def members (m : ListWrite) : List Bytes :=
  [(ValueRef.bool false).encode (.context 0), (ValueRef.bool m.timed).encode (.context 1),
    enclose (.context 2) .array m.entries.flatten] ++ flag m.more ++
    [(ValueRef.uint imRevision.toUInt64).encode (.context 0xff)]

def layout (m : ListWrite) : Bytes := enclose .anonymous .struct m.members.flatten

structure Valid (m : ListWrite) : Prop where
  complete : ∀ e ∈ m.elements, IsElement .anonymous e
  present : m.append = true → m.elements ≠ []

end ListWrite

open ListWrite

theorem written_of_appends (appends : Appends m bytes) : written m = .ok bytes := by
  rw [written, appends []]
  rfl

theorem appends_writePath (path : AttributePath) (append : Bool) :
    Appends (writePath path append)
      (enclose (.context 1) .list (pathFields path append).flatten) := by
  cases append with
  | false =>
    refine Appends.congr (.bind (appends_start _ _) <| .bind (appends_putUint _ _) <|
      .bind (appends_putUint _ _) <| .bind (appends_putUint _ _) appends_end) ?_
    simp [enclose, pathFields]
  | true =>
    refine Appends.congr (.bind (appends_start _ _) <| .bind (appends_putUint _ _) <|
      .bind (appends_putUint _ _) <| .bind (appends_putUint _ _) <|
      .bind (appends_putNull _) appends_end) ?_
    simp [enclose, pathFields]

theorem appends_writeHead (timed : Bool) :
    Appends (writeHead timed) (encodeTag .anonymous (.container .struct) ++
      ((ValueRef.bool false).encode (.context 0) ++ ((ValueRef.bool timed).encode (.context 1) ++
        encodeTag (.context 2) (.container .array)))) :=
  .bind (appends_start _ _) <| .bind (appends_putBool _ _) <| .bind (appends_putBool _ _) <|
    appends_start _ _

theorem appends_writeTail (more : Option Bool) :
    Appends (writeTail more) ([ElementType.endOfContainer.code] ++
      ((flag more).flatten ++
        ((ValueRef.uint imRevision.toUInt64).encode (.context 0xff) ++
          [ElementType.endOfContainer.code]))) := by
  cases more with
  | none =>
    refine .bind appends_end (.congr (.bind (appends_putUint _ _) appends_end) ?_)
    simp [flag]
  | some more =>
    refine .bind appends_end (.congr (.bind (appends_putBool _ more)
      (.bind (appends_putUint _ _) appends_end)) ?_)
    simp [flag]

theorem encodeReplaceAll_eq (path : AttributePath) (timed : Bool) (more : Option Bool)
    (complete : ∀ e ∈ elems, IsElement .anonymous e) :
    encodeReplaceAll path elems timed more =
      .ok (layout ⟨path, timed, false, elems, more⟩) := by
  have each : ∀ e ∈ elems, Appends (putPreencoded .anonymous e) e := fun e member out => by
    rw [putPreencoded_run (complete e member), (complete e member).retag_anonymous]
  refine written_of_appends (.congr (.bind (appends_writeHead timed) <| .bind (appends_start _ _) <|
    .bind (appends_writePath path false) <| .bind (appends_start _ _) <| .bind (.forM each) <|
    .bind appends_end <| .bind appends_end <| appends_writeTail more) ?_)
  simp [layout, ListWrite.members, entries, entry, enclose]

theorem encodeAppendItems_eq (path : AttributePath) (timed : Bool) (more : Option Bool)
    (complete : ∀ e ∈ elems, IsElement .anonymous e) :
    encodeAppendItems path elems timed more =
      .ok (layout ⟨path, timed, true, elems, more⟩) := by
  have each : ∀ e ∈ elems, Appends (do
      startStructure .anonymous
      writePath path true
      putPreencoded (.context 2) e
      endContainer) (entry path true (retag (.context 2) e)) := fun e member => by
    refine .congr (.bind (appends_start _ _) <| .bind (appends_writePath path true) <|
      .bind (putPreencoded_run (complete e member) _) appends_end) ?_
    simp [entry, enclose]
  refine written_of_appends (.congr (.bind (appends_writeHead timed) <| .bind (.forM each) <|
    appends_writeTail more) ?_)
  simp [layout, ListWrite.members, entries, enclose]

namespace ListWrite

def size (path : AttributePath) (timed append : Bool) (elems : List Bytes) : Nat :=
  (layout ⟨path, timed, append, elems, none⟩).length

theorem length_layout_le (m : ListWrite) :
    m.layout.length ≤ size m.path m.timed m.append m.elements + 2 := by
  obtain ⟨path, timed, append, elems, more⟩ := m
  cases more with
  | none => exact Nat.le_add_right _ _
  | some more =>
    simp [size, layout, members, entries, flag, enclose, ValueRef.encode, ValueRef.body, encodeTag]
    omega

theorem size_replace_concat (path : AttributePath) (timed : Bool) (elems : List Bytes) (e : Bytes) :
    size path timed false (elems ++ [e]) = size path timed false elems + e.length := by
  simp [size, layout, members, entries, entry, enclose]
  omega

theorem size_replace_mono (path : AttributePath) (timed : Bool) (elems more : List Bytes) :
    size path timed false elems ≤ size path timed false (elems ++ more) := by
  induction more using List.reverseRecOn with
  | nil => rw [List.append_nil]
  | append_singleton more e ih =>
    rw [← List.append_assoc, size_replace_concat]
    exact Nat.le_add_right_of_le ih

/-- What an appended item adds besides its own bytes. -/
def overhead (path : AttributePath) : Nat := (entry path true []).length + 1

theorem size_append_concat (path : AttributePath) (timed : Bool) (elems : List Bytes)
    (complete : IsElement .anonymous e) :
    size path timed true (elems ++ [e]) =
      size path timed true elems + (overhead path + e.length) := by
  have retagged := complete.length_retag_context 2
  simp [size, layout, members, entries, entry, enclose, overhead, retagged]
  omega

theorem isElement_probe : IsElement .anonymous probe :=
  isElement_scalar .anonymous .null

theorem size_probe (path : AttributePath) (timed : Bool) :
    size path timed true [probe] - size path timed true [] - probe.length = overhead path := by
  have grown := size_append_concat path timed [] isElement_probe
  rw [List.nil_append] at grown
  omega

end ListWrite

/-- A batch that was filled from `pending`: nothing is lost, what is taken fits unless it
is a single element, and the next element would not have. -/
structure Packs (size : List Bytes → Nat) (budget : Nat) (pending : List Bytes)
    (out : List Bytes × List Bytes) : Prop where
  whole : out.1 ++ out.2 = pending
  fits : 2 ≤ out.1.length → size out.1 + chunkFlagReserve ≤ budget
  taken : pending ≠ [] → out.1 ≠ []
  greedy : ∀ e left, out.2 = e :: left → budget < size (out.1 ++ [e]) + chunkFlagReserve

/-- The first element of `next` no longer fits into `batch`. -/
def Overflows (size : List Bytes → Nat) (budget : Nat) (batch next : List Bytes) : Prop :=
  ∃ e, next.head? = some e ∧ budget < size (batch ++ [e]) + chunkFlagReserve

section Packing
variable {size : List Bytes → Nat} {cost : Bytes → Nat} {budget : Nat}

/-- The predicted size is the size, so the batch is packed by it. -/
theorem fillBatch_packs (grows : ∀ e ∈ rest, ∀ batch, size (batch ++ [e]) = size batch + cost e)
    (batch : List Bytes) (fits : 2 ≤ batch.length → size batch + chunkFlagReserve ≤ budget) :
    Packs size budget (batch ++ rest) (fillBatch cost budget (size batch) batch rest) := by
  induction rest generalizing batch with
  | nil =>
    refine ⟨rfl, fits, fun present => ?_, fun e left empty => by cases empty⟩
    rwa [List.append_nil] at present
  | cons e rest ih =>
    have grown := grows e List.mem_cons_self batch
    rw [fillBatch]
    split
    · rename_i full
      refine ⟨rfl, fits, fun _ => full.2, fun e' left same => ?_⟩
      cases same
      rw [grown]
      exact full.1
    · rename_i room
      rw [← grown, List.append_cons]
      refine ih (fun other member => grows other (List.mem_cons_of_mem _ member)) _ fun two => ?_
      have nonempty : batch ≠ [] := by
        rintro rfl
        simp at two
      rw [grown]
      exact Nat.not_lt.mp fun over_ => room ⟨over_, nonempty⟩

/-- The elements of a batch are those up to which everything fits. -/
theorem Packs.length_iff (packs : Packs size budget pending out)
    (mono : ∀ elems more, size elems ≤ size (elems ++ more)) (inside : i < pending.length) :
    i < out.1.length ↔ i = 0 ∨ size (pending.take (i + 1)) + chunkFlagReserve ≤ budget := by
  constructor
  · intro taken
    rw [or_iff_not_imp_left]
    intro later
    have fits := packs.fits (by omega)
    have grown := mono (out.1.take (i + 1)) (out.1.drop (i + 1))
    rw [List.take_append_drop] at grown
    rw [← packs.whole, List.take_append_of_le_length (show i + 1 ≤ out.1.length from taken)]
    omega
  · rintro (rfl | fits)
    · exact List.length_pos_iff.mpr (packs.taken (List.length_pos_iff.mp inside))
    · by_contra before
      cases rest : out.2 with
      | nil =>
        rw [← packs.whole, rest, List.append_nil] at inside
        exact before inside
      | cons e left =>
        have over_ := packs.greedy e left rest
        have grown := mono (out.1 ++ [e]) (left.take (i - out.1.length))
        have same : pending.take (i + 1) = out.1 ++ [e] ++ left.take (i - out.1.length) := by
          have length : i + 1 - out.1.length = i - out.1.length + 1 := by omega
          rw [← packs.whole, rest, List.take_append, List.take_of_length_le (by omega), length,
            List.take_succ_cons, List.append_assoc, List.singleton_append]
        rw [← same] at grown
        omega

theorem fillReference_eq (batch : List Bytes)
    (grows : ∀ e ∈ rest, ∀ batch, size (batch ++ [e]) = size batch + cost e)
    (encodes : ∀ elems, (∀ e ∈ elems, e ∈ batch ++ rest) → encodedLen elems = .ok (size elems)) :
    fillReference encodedLen budget batch rest =
      .ok (fillBatch cost budget (size batch) batch rest) := by
  induction rest generalizing batch with
  | nil => rfl
  | cons e rest ih =>
    have grown := grows e List.mem_cons_self batch
    have candidate : encodedLen (batch ++ [e]) = .ok (size batch + cost e) := by
      rw [encodes _ fun other member => ?_, grown]
      rw [List.append_cons]
      exact List.mem_append_left _ member
    rw [fillReference, fillBatch, candidate]
    change (if _ then Except.ok _ else _) = _
    split
    · rfl
    · rw [← grown]
      refine ih _ (fun other member => grows other (List.mem_cons_of_mem _ member)) ?_
      rw [← List.append_cons]
      exact encodes

variable {fill : List Bytes → List Bytes × List Bytes} {pending : List Bytes}
  (packs : ∀ left, left <:+ pending → Packs size budget left (fill left))
include packs

theorem fill_shrinks (suffix : left <:+ pending) (nonempty : left ≠ []) :
    (fill left).2 <:+ pending ∧ (fill left).2.length < left.length := by
  have packed := packs left suffix
  have size := congrArg List.length packed.whole
  have taken := List.length_pos_of_ne_nil (packed.taken nonempty)
  rw [List.length_append] at size
  have inside : (fill left).2 <:+ left := ⟨_, packed.whole⟩
  exact ⟨inside.trans suffix, by omega⟩

/-- The batches hold everything that was pending, and each is packed. -/
theorem appendBatches_packs (suffix : left <:+ pending) (enough : left.length ≤ fuel) :
    (appendBatches fill fuel left).flatten = left ∧
      (∀ batch ∈ appendBatches fill fuel left,
        batch ≠ [] ∧ (2 ≤ batch.length → size batch + chunkFlagReserve ≤ budget)) ∧
      (appendBatches fill fuel left).IsChain (Overflows size budget) ∧
      ∀ batch ∈ (appendBatches fill fuel left).head?, batch.head? = left.head? := by
  induction fuel generalizing left with
  | zero =>
    obtain rfl := List.eq_nil_of_length_eq_zero (Nat.le_zero.mp enough)
    exact ⟨rfl, by simp [appendBatches], .nil, by simp [appendBatches]⟩
  | succ fuel ih =>
    cases left with
    | nil => exact ⟨rfl, by simp [appendBatches], .nil, by simp [appendBatches]⟩
    | cons e rest =>
      have packed := packs _ suffix
      obtain ⟨inner, shorter⟩ := fill_shrinks packs suffix (List.cons_ne_nil e rest)
      obtain ⟨whole, each, chain, first⟩ := ih inner (by omega)
      have nonempty := packed.taken (List.cons_ne_nil e rest)
      simp only [appendBatches]
      refine ⟨?_, ?_, ?_, ?_⟩
      · rw [List.flatten_cons, whole, packed.whole]
      · intro batch member
        obtain rfl | later := List.mem_cons.mp member
        · exact ⟨nonempty, packed.fits⟩
        · exact each batch later
      · refine List.isChain_cons.mpr ⟨fun batch here => ?_, chain⟩
        have begins := first batch here
        cases remaining : (fill (e :: rest)).2 with
        | nil =>
          rw [remaining] at here
          cases fuel <;> simp [appendBatches] at here
        | cons e' left =>
          rw [remaining] at begins
          exact ⟨e', begins, packed.greedy e' left remaining⟩
      · intro batch here
        obtain rfl : (fill (e :: rest)).1 = batch := by simpa using here
        obtain ⟨e', batch', same⟩ := List.exists_cons_of_ne_nil nonempty
        have whole := packed.whole
        rw [same] at whole ⊢
        rw [← whole]
        rfl

theorem appendBatchesReference_eq (same : ∀ left, left <:+ pending → fillRef left = .ok (fill left))
    (fuel : Nat) (suffix : left <:+ pending) :
    appendBatchesReference fillRef fuel left = .ok (appendBatches fill fuel left) := by
  induction fuel generalizing left with
  | zero => cases left <;> rfl
  | succ fuel ih =>
    cases left with
    | nil => rfl
    | cons e rest =>
      obtain ⟨inner, _⟩ := fill_shrinks packs suffix (List.cons_ne_nil e rest)
      rw [appendBatchesReference, same _ suffix]
      change (appendBatchesReference fillRef fuel (fill (e :: rest)).2 >>= fun _ => _) = _
      rw [ih inner]
      rfl

end Packing

namespace ListWrite

theorem someElement_scalar (tag : Tag) (value : ValueRef) :
    ∃ form, IsElement form (value.encode tag) := ⟨_, isElement_scalar tag value⟩

theorem isElement_pathField (path : AttributePath) (append : Bool) :
    ∀ field ∈ pathFields path append, ∃ form, IsElement form field := by
  cases append <;> simp [pathFields, someElement_scalar]

/-- The path and the data of a block are elements. -/
theorem isElement_parts (path : AttributePath) (append : Bool) (complete : IsElement form data) :
    ∀ part ∈ [enclose (.context 1) .list (pathFields path append).flatten, data],
      ∃ form, IsElement form part := by
  rw [List.forall_mem_cons, List.forall_mem_singleton]
  exact ⟨⟨_, isElement_enclose _ _ (isElement_pathField path append)⟩, form, complete⟩

theorem isElement_array {elems : List Bytes} (complete : ∀ e ∈ elems, IsElement .anonymous e) :
    IsElement .context (enclose (.context 2) .array elems.flatten) :=
  isElement_enclose (.context 2) .array fun e found => ⟨.anonymous, complete e found⟩

theorem isElement_entries {m : ListWrite} (valid : m.Valid) :
    ∀ block ∈ m.entries, ∃ form, IsElement form block := by
  intro block member
  rw [entries] at member
  split at member
  · obtain ⟨e, found, rfl⟩ := List.mem_map.mp member
    have data := (valid.complete e found).retag (.context 2)
    exact ⟨_, isElement_enclose _ _ (isElement_parts m.path true data)⟩
  · obtain rfl := List.mem_singleton.mp member
    have data := isElement_array valid.complete
    exact ⟨_, isElement_enclose _ _ (isElement_parts m.path false data)⟩

theorem isElement_members {m : ListWrite} (valid : m.Valid) :
    ∀ member ∈ m.members, ∃ form, IsElement form member := by
  have blocks : ∃ form, IsElement form (enclose (.context 2) .array m.entries.flatten) :=
    ⟨_, isElement_enclose _ _ (isElement_entries valid)⟩
  cases more : m.more <;> simp [members, flag, more, someElement_scalar, blocks]

theorem encode_bool_inj (same : (ValueRef.bool a).encode tag = (ValueRef.bool b).encode tag) :
    a = b := by
  obtain ⟨payload, _, header⟩ := encodeTag_shape tag
  simp only [ValueRef.encode, ValueRef.type, header, List.cons_append,
    List.cons.injEq] at same
  exact ElementType.bool.inj (controlOctet_inj same.1).2

theorem encode_uint_inj
    (same : (ValueRef.uint a).encode (.context n) = (ValueRef.uint b).encode (.context n)) :
    a = b := by
  have short : ((ValueRef.uint a).encode (.context n)).length < allocLimit := by
    have width := (Width.ofUnsigned a.toNat).bytes_le
    simp only [ValueRef.encode, ValueRef.body, encodeTag, List.length_append, List.length_cons,
      List.length_nil, LittleEndian.length_encode, allocLimit]
    omega
  have values := (scalar_inj short same).2
  simpa [ValueRef.beforeIs1] using values

theorem pathFields_inj {path path' : AttributePath} {append append' : Bool}
    (same : pathFields path append = pathFields path' append') : path = path' ∧ append = append' := by
  simp only [pathFields, List.cons_append, List.nil_append, List.cons.injEq] at same
  obtain ⟨endpoint, cluster, attr, index⟩ := same
  constructor
  · have first := encode_uint_inj endpoint
    have second := encode_uint_inj cluster
    have third := encode_uint_inj attr
    cases path
    cases path'
    simp only [AttributePath.mk.injEq]
    exact ⟨UInt16.toUInt64_inj.mp first, UInt32.toUInt64_inj.mp second,
      UInt32.toUInt64_inj.mp third⟩
  · cases append <;> cases append' <;> first | rfl | cases index

theorem entry_inj {path path' : AttributePath} {append append' : Bool}
    (complete : IsElement form data) (complete' : IsElement form' data')
    (same : entry path append data = entry path' append' data') :
    (path = path' ∧ append = append') ∧ data = data' := by
  have parts := enclose_inj (isElement_parts path append complete)
    (isElement_parts path' append' complete') same
  simp only [List.cons.injEq, and_true] at parts
  have fields := enclose_inj (isElement_pathField path append) (isElement_pathField path' append')
    parts.1
  exact ⟨pathFields_inj fields, parts.2⟩

/-- The first block of a message says which path is written, and how. -/
theorem entries_cons {m : ListWrite} (valid : m.Valid) : ∃ data blocks form,
    m.entries = entry m.path m.append data :: blocks ∧ IsElement form data := by
  obtain ⟨path, timed, append, elements, more⟩ := m
  cases append with
  | false => exact ⟨_, [], _, rfl, isElement_array valid.complete⟩
  | true =>
    obtain ⟨e, rest, rfl⟩ := List.exists_cons_of_ne_nil (valid.present rfl)
    exact ⟨_, _, _, rfl, (valid.complete e List.mem_cons_self).retag (.context 2)⟩

/-- The blocks of a message say which path is written, how, and with what. -/
theorem entries_inj {m m' : ListWrite} (valid : m.Valid) (valid' : m'.Valid)
    (same : m.entries = m'.entries) :
    m.path = m'.path ∧ m.append = m'.append ∧ m.elements = m'.elements := by
  obtain ⟨data, blocks, _, first, element⟩ := entries_cons valid
  obtain ⟨data', blocks', _, first', element'⟩ := entries_cons valid'
  have heads := same
  rw [first, first', List.cons.injEq] at heads
  obtain ⟨⟨paths, kinds⟩, _⟩ := entry_inj element element' heads.1
  refine ⟨paths, kinds, ?_⟩
  rw [entries, entries, paths, kinds] at same
  split at same
  · refine map_inj_between (fun e found e' found' alike => ?_) same
    have complete := valid.complete e found
    have complete' := valid'.complete e' found'
    exact retag_inj complete complete' (entry_inj (complete.retag _) (complete'.retag _) alike).2
  · have arrays := (entry_inj (isElement_array valid.complete) (isElement_array valid'.complete)
      (List.cons.inj same).1).2
    exact enclose_inj (fun e found => ⟨_, valid.complete e found⟩)
      (fun e found => ⟨_, valid'.complete e found⟩) arrays

theorem flag_inj (same : flag a = flag b) : a = b := by
  cases a <;> cases b <;> first
    | rfl
    | cases same
    | exact congrArg some (encode_bool_inj (List.cons.inj same).1)

/-- A message can be read in one way only. -/
theorem layout_inj {m m' : ListWrite} (valid : m.Valid) (valid' : m'.Valid)
    (same : m.layout = m'.layout) : m = m' := by
  have members := enclose_inj (isElement_members valid) (isElement_members valid') same
  simp only [ListWrite.members, List.cons_append, List.nil_append, List.cons.injEq, true_and]
    at members
  obtain ⟨timed, blocks, rest⟩ := members
  obtain ⟨path, append, elems⟩ := entries_inj valid valid'
    (enclose_inj (isElement_entries valid) (isElement_entries valid') blocks)
  cases m
  cases m'
  simp only [mk.injEq]
  exact ⟨path, encode_bool_inj timed, append, elems, flag_inj (List.append_cancel_right rest)⟩

/-- In `next` comes an element that did not fit into `m` with the reserve. -/
def Follows (budget : Nat) (m next : ListWrite) : Prop :=
  Overflows (size m.path m.timed m.append) budget m.elements next.elements

/-- The messages of a list write. -/
structure Faithful (path : AttributePath) (elements : List Bytes) (budget : Nat) (timed : Bool)
    (contents : List ListWrite) : Prop where
  some_message : contents ≠ []
  valid : ∀ m ∈ contents, m.Valid
  whole : contents.flatMap ListWrite.elements = elements
  addressed : ∀ m ∈ contents, m.path = path ∧ m.timed = timed
  kinds : ∀ i m, contents[i]? = some m → m.append = decide (0 < i)
  flags : ∀ i m, contents[i]? = some m →
    m.more = if contents.length = 1 then none else some (decide (i + 1 < contents.length))
  bounded : ∀ m ∈ contents, 2 ≤ m.elements.length → m.layout.length ≤ budget
  greedy : contents.IsChain (Follows budget)

def ofBatches (path : AttributePath) (timed : Bool) (first : List Bytes)
    (batches : List (List Bytes)) : List ListWrite :=
  ⟨path, timed, false, first, if batches.isEmpty then none else some true⟩ ::
    batches.zipIdx.map fun (batch, i) =>
      ⟨path, timed, true, batch, some (decide (i + 1 < batches.length))⟩

end ListWrite

theorem mapM_ok {f : α → Except ε β} {l : List α} (each : ∀ a ∈ l, f a = .ok (g a)) :
    l.mapM f = .ok (l.map g) := by
  induction l with
  | nil => rfl
  | cons a rest ih =>
    rw [List.mapM_cons, each a List.mem_cons_self,
      ih fun other member => each other (List.mem_cons_of_mem _ member)]
    rfl

theorem encodeBatches_eq (path : AttributePath) (timed : Bool) {batches : List (List Bytes)}
    (complete : ∀ e ∈ first ++ batches.flatten, IsElement .anonymous e) :
    encodeBatches path timed first batches =
      .ok ((ofBatches path timed first batches).map layout) := by
  have head := encodeReplaceAll_eq path timed (if batches.isEmpty then none else some true)
    fun e member => complete e (List.mem_append_left _ member)
  have rest : ∀ pair ∈ batches.zipIdx,
      encodeAppendItems path pair.1 timed (some (decide (pair.2 + 1 < batches.length))) =
        .ok (layout ⟨path, timed, true, pair.1,
          some (decide (pair.2 + 1 < batches.length))⟩) := by
    intro pair member
    refine encodeAppendItems_eq path timed _ fun e found => complete e ?_
    have listed : pair.1 ∈ batches := by
      have mapped := List.mem_map_of_mem (f := Prod.fst) member
      rwa [List.zipIdx_map_fst] at mapped
    exact List.mem_append_right _ (List.mem_flatten.mpr ⟨pair.1, listed, found⟩)
  have appended := mapM_ok rest
  rw [encodeBatches, head]
  rw [appended]
  simp only [ofBatches, List.map_cons, List.map_map]
  rfl

namespace ListWrite
section Contents
variable {path : AttributePath} {timed : Bool} {budget : Nat} {first : List Bytes}
  {batches : List (List Bytes)}

theorem length_ofBatches : (ofBatches path timed first batches).length = batches.length + 1 := by
  simp [ofBatches]

theorem mem_ofBatches (member : m ∈ ofBatches path timed first batches) :
    m.path = path ∧ m.timed = timed ∧
      ((m.append = false ∧ m.elements = first) ∨ (m.append = true ∧ m.elements ∈ batches)) := by
  obtain rfl | later := List.mem_cons.mp member
  · exact ⟨rfl, rfl, .inl ⟨rfl, rfl⟩⟩
  · obtain ⟨pair, found, rfl⟩ := List.mem_map.mp later
    have listed := List.mem_map_of_mem (f := Prod.fst) found
    rw [List.zipIdx_map_fst] at listed
    exact ⟨rfl, rfl, .inr ⟨rfl, listed⟩⟩

theorem getElem?_ofBatches (found : (ofBatches path timed first batches)[i]? = some m) :
    m.append = decide (0 < i) ∧
      m.more = if batches.length + 1 = 1 then none
        else some (decide (i + 1 < batches.length + 1)) := by
  cases i with
  | zero =>
    cases found
    refine ⟨rfl, ?_⟩
    cases batches with
    | nil => rfl
    | cons batch rest => simp
  | succ i =>
    rw [ofBatches, List.getElem?_cons_succ, List.getElem?_map, List.getElem?_zipIdx] at found
    cases there : batches[i]? with
    | none =>
      rw [there] at found
      cases found
    | some batch =>
      rw [there] at found
      cases found
      have nonempty : batches.length ≠ 0 := by
        have inside := (List.getElem?_eq_some_iff.mp there).1
        omega
      simp [nonempty]

theorem isChain_ofBatches (chain : batches.IsChain (Overflows (size path timed true) budget))
    (start : ∀ batch ∈ batches.head?, Overflows (size path timed false) budget first batch) :
    (ofBatches path timed first batches).IsChain (Follows budget) := by
  refine List.isChain_cons.mpr ⟨fun m here => ?_, ?_⟩
  · rw [List.head?_map] at here
    obtain ⟨pair, begins, rfl⟩ := Option.map_eq_some_iff.mp here
    refine start pair.1 ?_
    rw [← List.zipIdx_map_fst 0 batches, List.head?_map]
    exact Option.map_eq_some_iff.mpr ⟨pair, begins, rfl⟩
  · rw [List.isChain_map]
    rw [← List.zipIdx_map_fst 0 batches, List.isChain_map] at chain
    exact chain

theorem flatMap_ofBatches :
    (ofBatches path timed first batches).flatMap ListWrite.elements = first ++ batches.flatten := by
  rw [ofBatches, List.flatMap_cons, List.flatMap_map]
  have taken : batches.zipIdx.flatMap Prod.fst = batches.flatten := by
    rw [List.flatMap_def, List.zipIdx_map_fst]
  exact congrArg (first ++ ·) taken

end Contents
end ListWrite

theorem encodedReplaceAllLen_eq (path : AttributePath) (timed : Bool)
    (complete : ∀ e ∈ elems, IsElement .anonymous e) :
    encodedReplaceAllLen path timed elems = .ok (size path timed false elems) := by
  rw [encodedReplaceAllLen, encodeReplaceAll_eq path timed none complete]
  rfl

theorem encodedAppendLen_eq (path : AttributePath) (timed : Bool)
    (complete : ∀ e ∈ elems, IsElement .anonymous e) :
    encodedAppendLen path timed elems = .ok (size path timed true elems) := by
  rw [encodedAppendLen, encodeAppendItems_eq path timed none complete]
  rfl

section Messages
variable (path : AttributePath) {elements : List Bytes} (budget : Nat) (timed : Bool)

/-- The batch that replaces the list, and what it leaves. -/
def firstFill (elements : List Bytes) : List Bytes × List Bytes :=
  fillBatch List.length budget (ListWrite.size path timed false []) [] elements

/-- A batch of appended items, and what it leaves. -/
def appendFill (left : List Bytes) : List Bytes × List Bytes :=
  fillBatch (fun e => ListWrite.overhead path + e.length) budget
    (ListWrite.size path timed true []) [] left

def packedContents (elements : List Bytes) : List ListWrite :=
  let filled := firstFill path budget timed elements
  ListWrite.ofBatches path timed filled.1
    (appendBatches (appendFill path budget timed) filled.2.length filled.2)

theorem firstFill_packs (elements : List Bytes) :
    Packs (size path timed false) budget ([] ++ elements)
      (firstFill path budget timed elements) :=
  fillBatch_packs (fun e _ batch => size_replace_concat path timed batch e) []
    fun two => absurd two (by simp)

variable (complete : ∀ e ∈ elements, IsElement .anonymous e)
include complete

theorem appendFill_packs (left : List Bytes) (suffix : left <:+ elements) :
    Packs (size path timed true) budget ([] ++ left)
      (appendFill path budget timed left) := by
  refine fillBatch_packs (fun e member batch => ?_) [] fun two => absurd two (by simp)
  exact size_append_concat path timed batch (complete e (suffix.subset member))

theorem packedContents_faithful :
    ListWrite.Faithful path elements budget timed (packedContents path budget timed elements) := by
  have filled := firstFill_packs path budget timed elements
  have packs := appendFill_packs path budget timed complete
  have rest : (firstFill path budget timed elements).2 <:+ elements := ⟨_, filled.whole⟩
  obtain ⟨whole, each, chain, begins⟩ :=
    appendBatches_packs packs rest (Nat.le_refl _)
  have gathered : (packedContents path budget timed elements).flatMap ListWrite.elements =
      elements := by
    rw [packedContents, flatMap_ofBatches, whole]
    exact filled.whole
  have inside : ∀ m ∈ packedContents path budget timed elements, ∀ e ∈ m.elements, e ∈ elements :=
    fun m member e found => gathered ▸ List.mem_flatMap.mpr ⟨m, member, found⟩
  refine ⟨List.cons_ne_nil _ _, fun m member => ⟨fun e found => complete e (inside m member e found),
      fun append => ?_⟩, gathered, fun m member => ?_, fun i m found => ?_, fun i m found => ?_,
    fun m member two => ?_, ?_⟩
  · obtain ⟨_, _, ⟨replaces, _⟩ | ⟨_, batch⟩⟩ := mem_ofBatches member
    · rw [append] at replaces
      cases replaces
    · exact (each _ batch).1
  · obtain ⟨same, flag, _⟩ := mem_ofBatches member
    exact ⟨same, flag⟩
  · exact (getElem?_ofBatches found).1
  · rw [packedContents, length_ofBatches]
    exact (getElem?_ofBatches found).2
  · have length := m.length_layout_le
    obtain ⟨samePath, sameTimed, kind⟩ := mem_ofBatches member
    have fits : size m.path m.timed m.append m.elements + chunkFlagReserve ≤ budget := by
      rw [samePath, sameTimed]
      rcases kind with ⟨replaces, batch⟩ | ⟨appends, batch⟩
      · rw [replaces, batch]
        exact filled.fits (batch ▸ two)
      · rw [appends]
        exact (each _ batch).2 two
    simp only [chunkFlagReserve] at fits
    omega
  · refine isChain_ofBatches chain fun batch here => ?_
    have first := begins batch here
    cases left : (firstFill path budget timed elements).2 with
    | nil =>
      rw [left] at here
      cases here
    | cons e more =>
      rw [left] at first
      exact ⟨e, first, filled.greedy e more left⟩

theorem encodeBatches_packed :
    encodeBatches path timed (firstFill path budget timed elements).1
        (appendBatches (appendFill path budget timed) (firstFill path budget timed elements).2.length
          (firstFill path budget timed elements).2) =
      .ok ((packedContents path budget timed elements).map layout) := by
  have whole := (packedContents_faithful path budget timed complete).whole
  rw [packedContents, flatMap_ofBatches] at whole
  exact encodeBatches_eq path timed (whole.symm ▸ complete)

theorem buildListWriteChunks_eq : buildListWriteChunks path elements budget timed =
    .ok ((packedContents path budget timed elements).map layout) := by
  have none : ∀ e ∈ ([] : List Bytes), IsElement .anonymous e := fun e member => by cases member
  have one : ∀ e ∈ [probe], IsElement .anonymous e := fun e member =>
    List.mem_singleton.mp member ▸ isElement_probe
  rw [buildListWriteChunks, encodedReplaceAllLen_eq path timed none,
    encodedAppendLen_eq path timed none, encodedAppendLen_eq path timed one]
  simp only [bind, Except.bind, size_probe]
  exact encodeBatches_packed path budget timed complete

theorem buildListWriteChunksReference_eq :
    buildListWriteChunksReference path elements budget timed =
      .ok ((packedContents path budget timed elements).map layout) := by
  have packs := appendFill_packs path budget timed complete
  have first : fillReference (encodedReplaceAllLen path timed) budget [] elements =
      .ok (firstFill path budget timed elements) := by
    refine fillReference_eq []
      (fun e _ batch => size_replace_concat path timed batch e) fun elems within => ?_
    exact encodedReplaceAllLen_eq path timed fun e member => complete e (within e member)
  have each : ∀ left, left <:+ elements →
      fillReference (encodedAppendLen path timed) budget [] left =
        .ok (appendFill path budget timed left) := by
    intro left suffix
    have valid : ∀ e ∈ left, IsElement .anonymous e := fun e member =>
      complete e (suffix.subset member)
    refine fillReference_eq [] (fun e member batch =>
      size_append_concat path timed batch (valid e member)) fun elems within => ?_
    exact encodedAppendLen_eq path timed fun e member => valid e (within e member)
  have rest : (firstFill path budget timed elements).2 <:+ elements :=
    ⟨_, (firstFill_packs path budget timed elements).whole⟩
  have batches := appendBatchesReference_eq packs each
    (firstFill path budget timed elements).2.length rest
  rw [buildListWriteChunksReference, first]
  simp only [bind, Except.bind] at batches ⊢
  rw [batches]
  exact encodeBatches_packed path budget timed complete

end Messages

/-- The messages of a chunked list write carry the list, for every path, budget
and timed flag; each can be read in one way only, and the reference packer
produces the same bytes. -/
theorem list_write_faithful (path : AttributePath) (elements : List Bytes) (budget : Nat)
    (timed : Bool) (complete : ∀ e ∈ elements, IsElement .anonymous e) :
    ∃ contents : List ListWrite,
      buildListWriteChunks path elements budget timed = .ok (contents.map layout) ∧
      ListWrite.Faithful path elements budget timed contents ∧
      (∀ m ∈ contents, ∀ other : ListWrite, other.Valid → other.layout = m.layout → other = m) ∧
      buildListWriteChunksReference path elements budget timed =
        .ok (contents.map layout) := by
  have faithful := packedContents_faithful path budget timed complete
  refine ⟨packedContents path budget timed elements,
    buildListWriteChunks_eq path budget timed complete, faithful, fun m member other valid same => ?_,
    buildListWriteChunksReference_eq path budget timed complete⟩
  exact layout_inj valid (faithful.valid m member) same

/-- Three numbers do not fit in one message of thirty-eight bytes. -/
theorem three_numbers_written :
    ∃ contents : List ListWrite, contents.length = 2 ∧
      buildListWriteChunks ⟨0, 0x1f, 0⟩ [[0x04, 1], [0x04, 2], [0x04, 3]] 38 false =
        .ok (contents.map layout) ∧
      ListWrite.Faithful ⟨0, 0x1f, 0⟩ [[0x04, 1], [0x04, 2], [0x04, 3]] 38 false contents := by
  have complete : ∀ e ∈ [[0x04, 1], [0x04, 2], [0x04, 3]], IsElement .anonymous e := by
    intro e member
    simp only [List.mem_cons, List.not_mem_nil, or_false] at member
    rcases member with rfl | rfl | rfl
    · exact isElement_scalar .anonymous (.uint 1)
    · exact isElement_scalar .anonymous (.uint 2)
    · exact isElement_scalar .anonymous (.uint 3)
  obtain ⟨contents, built, faithful, _⟩ := list_write_faithful ⟨0, 0x1f, 0⟩ _ 38 false complete
  have two : (buildListWriteChunks ⟨0, 0x1f, 0⟩ [[0x04, 1], [0x04, 2], [0x04, 3]] 38 false).map
      List.length = .ok 2 := by
    decide +kernel
  rw [built] at two
  exact ⟨contents, by simpa [Except.map] using two, built, faithful⟩

end Matter.Interaction
