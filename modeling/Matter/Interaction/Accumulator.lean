import Mathlib.Data.List.Induction
import Matter.Base.Tables
import Matter.Interaction.Reports

/-! Reassembly of a report that arrives in chunks. The accumulator keeps one slot
for each path, the order in which paths were first seen, and a running estimate of
the bytes it holds; what it returns is, path by path, the fold of the reports for
that path. -/
namespace Matter.Interaction
open Codec

def saturatingAdd (a b : Nat) : Nat := min (a + b) (usizeLimit - 1)

/-- What a scalar and the frame of a container are charged. -/
def scalarBytes : Nat := 8

mutual

def estimateValueBytes : Value → Nat
  | .utf8 text => text.string.utf8ByteSize
  | .bytes octets => octets.bytes.length
  | .array elements => estimateElements elements + scalarBytes
  | .struct members => estimateMembers members + scalarBytes
  | .list members => estimateMembers members + scalarBytes
  | _ => scalarBytes

def estimateMembers : List (Tag × Value) → Nat
  | [] => 0
  | (_, value) :: rest => estimateValueBytes value + estimateMembers rest

def estimateElements : List Value → Nat
  | [] => 0
  | value :: rest => estimateValueBytes value + estimateElements rest

end

structure Slot where
  value : Value
  version : Option UInt32

abbrev PathKey := UInt16 × UInt32 × UInt32

def AttributePath.key (path : AttributePath) : PathKey := (path.endpoint, path.cluster, path.attr)

theorem AttributePath.key_inj {p q : AttributePath} (same : p.key = q.key) : p = q := by
  cases p
  cases q
  simpa [key] using same

structure ReportAccumulator where
  order : List AttributePath
  slots : Table PathKey Slot
  bytes : Nat
  maxElements : Nat
  maxBytes : Nat

def defaultMaxElements : Nat := 100000

def defaultMaxBytes : Nat := 4 * 1024 * 1024

namespace ReportAccumulator

def withLimits (maxElements maxBytes : Nat) : ReportAccumulator where
  order := []
  slots := ∅
  bytes := 0
  maxElements := maxElements
  maxBytes := maxBytes

def new : ReportAccumulator := withLimits defaultMaxElements defaultMaxBytes

def overflow (acc : ReportAccumulator) : ImError :=
  .accumulatorOverflow acc.order.length acc.bytes acc.maxElements acc.maxBytes

/-- Whether a report of version `incoming` may touch a slot of version `held`. -/
def newer (held incoming : Option UInt32) : Bool :=
  match held, incoming with
  | some old, some new => new ≥ old
  | _, _ => true

/-- The list after an append; a value that is no list is dropped for a fresh one. -/
def appended (held item : Value) : Value :=
  match held with
  | .array list => .array (list ++ [item])
  | _ => .array [item]

/-- The entry of a path that has not been seen before. -/
def place (acc : ReportAccumulator) (item : AttributeReportItem) (value : Value) :
    Except ImError ReportAccumulator :=
  if acc.order.length ≥ acc.maxElements then .error acc.overflow
  else .ok { acc with
    order := acc.order ++ [item.path]
    bytes := saturatingAdd acc.bytes (estimateValueBytes item.value)
    slots := acc.slots.insert item.path.key ⟨value, item.dataVersion⟩ }

def pushItem (acc : ReportAccumulator) (item : AttributeReportItem) :
    Except ImError ReportAccumulator :=
  let itemBytes := estimateValueBytes item.value
  if saturatingAdd acc.bytes itemBytes > acc.maxBytes then .error acc.overflow
  else
    match item.op, acc.slots.lookup item.path.key with
    | .replace, some slot =>
      if newer slot.version item.dataVersion then
        .ok { acc with
          bytes := saturatingAdd (acc.bytes - estimateValueBytes slot.value) itemBytes
          slots := acc.slots.insert item.path.key ⟨item.value, item.dataVersion⟩ }
      else .ok acc
    | .replace, none => acc.place item item.value
    | .append, some slot =>
      if newer slot.version item.dataVersion then
        .ok { acc with
          bytes := saturatingAdd acc.bytes itemBytes
          slots := acc.slots.insert item.path.key
            ⟨appended slot.value item.value, item.dataVersion⟩ }
      else .ok acc
    | .append, none => acc.place item (.array [item.value])

/-- The loop of `push`: an error leaves what was merged before it. -/
def pushItems (acc : ReportAccumulator) :
    List AttributeReportItem → ReportAccumulator × Except ImError Unit
  | [] => (acc, .ok ())
  | item :: rest =>
    match acc.pushItem item with
    | .ok next => next.pushItems rest
    | .error e => (acc, .error e)

def push (acc : ReportAccumulator) (report : ReportData) :
    ReportAccumulator × Except ImError Unit :=
  acc.pushItems report.items

/-- Push chunks as long as none overflows. -/
def pushAll (acc : ReportAccumulator) : List ReportData → Except ImError ReportAccumulator
  | [] => .ok acc
  | chunk :: rest =>
    match acc.push chunk with
    | (next, .ok ()) => next.pushAll rest
    | (_, .error e) => .error e

def drain : List AttributePath → Table PathKey Slot → List (AttributePath × Value)
  | [], _ => []
  | path :: rest, slots =>
    match slots.lookup path.key with
    | some slot => (path, slot.value) :: drain rest (slots.erase path.key)
    | none => drain rest slots

def finish (acc : ReportAccumulator) : List (AttributePath × Value) := drain acc.order acc.slots

def settled (item : AttributeReportItem) (held : Option Value) : Value :=
  match item.op, held with
  | .replace, _ => item.value
  | .append, some value => appended value item.value
  | .append, none => .array [item.value]

def charged (acc : ReportAccumulator) (item : AttributeReportItem) (held : Option Value) : Nat :=
  match item.op, held with
  | .replace, some value =>
    saturatingAdd (acc.bytes - estimateValueBytes value) (estimateValueBytes item.value)
  | _, _ => saturatingAdd acc.bytes (estimateValueBytes item.value)

/-- Everything an item can do. -/
inductive Merges (acc : ReportAccumulator) (item : AttributeReportItem) :
    Except ImError ReportAccumulator → Prop
  | exceeding (exceeds : acc.maxBytes < saturatingAdd acc.bytes (estimateValueBytes item.value)) :
    Merges acc item (.error acc.overflow)
  | crowded (vacant : acc.slots.lookup item.path.key = none)
    (full : acc.maxElements ≤ acc.order.length) : Merges acc item (.error acc.overflow)
  | stale (slot : Slot) (found : acc.slots.lookup item.path.key = some slot)
    (older : newer slot.version item.dataVersion = false) : Merges acc item (.ok acc)
  | updated (slot : Slot)
    (room : saturatingAdd acc.bytes (estimateValueBytes item.value) ≤ acc.maxBytes)
    (found : acc.slots.lookup item.path.key = some slot)
    (fresh : newer slot.version item.dataVersion = true) :
    Merges acc item (.ok { acc with
      bytes := acc.charged item (some slot.value)
      slots := acc.slots.insert item.path.key
        ⟨settled item (some slot.value), item.dataVersion⟩ })
  | admitted
    (room : saturatingAdd acc.bytes (estimateValueBytes item.value) ≤ acc.maxBytes)
    (vacant : acc.slots.lookup item.path.key = none) (space : acc.order.length < acc.maxElements) :
    Merges acc item (.ok { acc with
      order := acc.order ++ [item.path]
      bytes := acc.charged item none
      slots := acc.slots.insert item.path.key ⟨settled item none, item.dataVersion⟩ })

theorem pushItem_cases (acc : ReportAccumulator) (item : AttributeReportItem) :
    Merges acc item (acc.pushItem item) := by
  unfold pushItem
  by_cases exceeds : saturatingAdd acc.bytes (estimateValueBytes item.value) > acc.maxBytes
  · rw [if_pos exceeds]
    exact .exceeding exceeds
  · rw [if_neg exceeds]
    have room := Nat.not_lt.mp exceeds
    cases found : acc.slots.lookup item.path.key with
    | none =>
      cases op : item.op with
      | replace | append =>
        simp only [place]
        split
        · rename_i full
          exact .crowded found full
        · rename_i space
          simpa [settled, charged, op] using Merges.admitted room found (Nat.not_le.mp space)
    | some slot =>
      cases fresh : newer slot.version item.dataVersion with
      | false => cases item.op <;> simpa [fresh] using Merges.stale slot found fresh
      | true =>
        have updated := Merges.updated slot room found fresh
        cases op : item.op <;> simpa [settled, charged, op, fresh] using updated

theorem pushItems_append (acc : ReportAccumulator) (first second : List AttributeReportItem) :
    acc.pushItems (first ++ second) =
      match acc.pushItems first with
      | (next, .ok ()) => next.pushItems second
      | (next, .error e) => (next, .error e) := by
  induction first generalizing acc with
  | nil => rfl
  | cons item rest ih =>
    simp only [List.cons_append, pushItems]
    cases acc.pushItem item with
    | ok next => exact ih next
    | error e => rfl

/-- Only the sequence of items matters, not how it is cut into chunks. -/
theorem pushAll_ok {acc final : ReportAccumulator} :
    acc.pushAll chunks = .ok final ↔
      acc.pushItems (chunks.flatMap ReportData.items) = (final, .ok ()) := by
  induction chunks generalizing acc with
  | nil => simp [pushAll, pushItems]
  | cons chunk rest ih =>
    rw [List.flatMap_cons, pushItems_append, pushAll, push]
    match acc.pushItems chunk.items with
    | (next, .ok ()) => exact ih
    | (next, .error e) => simp

end ReportAccumulator

open ReportAccumulator

def firstAppearances (items : List AttributeReportItem) : List AttributePath :=
  (items.map AttributeReportItem.path).eraseDups

/-- The elements an append starts from. -/
def listed : Option Value → List Value
  | some (.array elements) => elements
  | _ => []

/-- A replacement sets the value, an append adds to the end of the list. -/
def foldItem (value : Option Value) (item : AttributeReportItem) : Option Value :=
  match item.op with
  | .replace => some item.value
  | .append => some (.array (listed value ++ [item.value]))

/-- The value of a path after all items for it, in order. -/
def folded (items : List AttributeReportItem) (path : AttributePath) : Option Value :=
  (items.filter (·.path = path)).foldl foldItem none

/-- Versions are absent or the same among the items for one path. -/
def VersionsAgree (items : List AttributeReportItem) : Prop :=
  ∀ a ∈ items, ∀ b ∈ items, a.path = b.path →
    ∀ v w, a.dataVersion = some v → b.dataVersion = some w → v = w

theorem settled_eq_foldItem (item : AttributeReportItem) (held : Option Value) :
    some (settled item held) = foldItem held item := by
  unfold settled foldItem
  cases item.op with
  | replace => rfl
  | append =>
    cases held with
    | none => rfl
    | some value => cases value <;> rfl

theorem folded_concat (items : List AttributeReportItem) (item : AttributeReportItem)
    (path : AttributePath) :
    folded (items ++ [item]) path =
      if item.path = path then foldItem (folded items path) item else folded items path := by
  unfold folded
  rw [List.filter_append, List.foldl_append]
  by_cases same : item.path = path <;> simp [same]

theorem foldItem_isSome (value : Option Value) (item : AttributeReportItem) :
    (foldItem value item).isSome = true := by
  unfold foldItem
  cases item.op <;> rfl

theorem folded_isSome (items : List AttributeReportItem) (path : AttributePath) :
    (folded items path).isSome = true ↔ path ∈ items.map AttributeReportItem.path := by
  induction items using List.reverseRecOn with
  | nil => simp [folded]
  | append_singleton items item ih =>
    rw [folded_concat, List.map_append, List.mem_append]
    by_cases same : item.path = path
    · simp [same, foldItem_isSome]
    · have differs : path ≠ item.path := fun equal => same equal.symm
      simp [same, ih, differs]

theorem firstAppearances_concat (items : List AttributeReportItem) (item : AttributeReportItem) :
    firstAppearances (items ++ [item]) =
      if item.path ∈ items.map AttributeReportItem.path then firstAppearances items
      else firstAppearances items ++ [item.path] := by
  unfold firstAppearances
  rw [List.map_append, List.eraseDups_append, List.map_singleton, List.removeAll,
    List.filter_singleton]
  by_cases seen : item.path ∈ items.map AttributeReportItem.path
  · simp [seen, cond_false]
  · simp only [List.elem_eq_mem, seen, decide_false, Bool.not_false, cond_true, if_false]
    rfl

theorem mem_firstAppearances :
    path ∈ firstAppearances items ↔ path ∈ items.map AttributeReportItem.path := by
  exact List.mem_eraseDups

theorem nodup_firstAppearances (items : List AttributeReportItem) :
    (firstAppearances items).Nodup := by
  induction items using List.reverseRecOn with
  | nil => exact List.nodup_nil
  | append_singleton items item ih =>
    rw [firstAppearances_concat]
    split
    · exact ih
    · rename_i unseen
      rw [← mem_firstAppearances] at unseen
      rw [← List.concat_eq_append]
      exact ih.concat unseen

theorem length_firstAppearances_le (first second : List AttributeReportItem) :
    (firstAppearances first).length ≤ (firstAppearances (first ++ second)).length := by
  unfold firstAppearances
  rw [List.map_append, List.eraseDups_append, List.length_append]
  exact Nat.le_add_right _ _

def totalBytes (items : List AttributeReportItem) : Nat :=
  (items.map fun item => estimateValueBytes item.value).sum

theorem totalBytes_append (first second : List AttributeReportItem) :
    totalBytes (first ++ second) = totalBytes first + totalBytes second := by
  simp [totalBytes]

namespace ReportAccumulator

/-- The accumulator after `items`: one slot for each path seen, with the fold of
its items and a version that one of them carried. -/
structure Holds (items : List AttributeReportItem) (acc : ReportAccumulator) : Prop where
  order : acc.order = firstAppearances items
  value : ∀ path, (acc.slots.lookup path.key).map Slot.value = folded items path
  version : ∀ path slot v, acc.slots.lookup path.key = some slot → slot.version = some v →
    ∃ item ∈ items, item.path = path ∧ item.dataVersion = some v

theorem holds_withLimits (maxElements maxBytes : Nat) :
    Holds [] (withLimits maxElements maxBytes) := by
  refine ⟨rfl, fun path => rfl, fun path slot v found => ?_⟩
  cases found

theorem Holds.step {item : AttributeReportItem} {held : Option Value} {order : List AttributePath}
    {bytes : Nat} (holds : Holds items acc) (before : folded items item.path = held)
    (listed : order = firstAppearances (items ++ [item])) :
    Holds (items ++ [item]) { acc with
      order := order
      bytes := bytes
      slots := acc.slots.insert item.path.key ⟨settled item held, item.dataVersion⟩ } := by
  refine ⟨listed, fun path => ?_, fun path slot v found carried => ?_⟩
  · rw [folded_concat]
    by_cases same : item.path = path
    · subst same
      rw [if_pos rfl, AList.lookup_insert, before]
      exact settled_eq_foldItem item held
    · rw [if_neg same, AList.lookup_insert_ne fun equal => same (AttributePath.key_inj equal).symm]
      exact holds.value path
  · by_cases same : item.path = path
    · subst same
      rw [AList.lookup_insert] at found
      cases found
      exact ⟨item, List.mem_append_right _ (List.mem_singleton.mpr rfl), rfl, carried⟩
    · rw [AList.lookup_insert_ne fun equal => same (AttributePath.key_inj equal).symm] at found
      obtain ⟨source, member, path_, version⟩ := holds.version path slot v found carried
      exact ⟨source, List.mem_append_left _ member, path_, version⟩

theorem Holds.newer (holds : Holds items acc) (agree : VersionsAgree (items ++ [item]))
    (found : acc.slots.lookup item.path.key = some slot) :
    newer slot.version item.dataVersion = true := by
  cases held : slot.version with
  | none => rfl
  | some old =>
    cases incoming : item.dataVersion with
    | none => rfl
    | some new =>
      obtain ⟨source, member, path, version⟩ := holds.version item.path slot old found held
      have same := agree source (List.mem_append_left _ member) item
        (List.mem_append_right _ (List.mem_singleton.mpr rfl)) path old new version incoming
      simp [ReportAccumulator.newer, same]

theorem Holds.pushItem (holds : Holds items acc) (agree : VersionsAgree (items ++ [item]))
    (pushed : acc.pushItem item = .ok next) : Holds (items ++ [item]) next := by
  have cases_ := acc.pushItem_cases item
  rw [pushed] at cases_
  have present : ∀ held, (acc.slots.lookup item.path.key).map Slot.value = held →
      folded items item.path = held := fun held same => (holds.value item.path).symm.trans same
  have seen := folded_isSome items item.path
  cases cases_ with
  | stale slot found older =>
    rw [holds.newer agree found] at older
    cases older
  | updated slot room found fresh =>
    have before := present (some slot.value) (by rw [found]; rfl)
    refine holds.step before ?_
    rw [firstAppearances_concat, if_pos (seen.mp (by rw [before]; rfl))]
    exact holds.order
  | admitted room vacant space =>
    have before := present none (by rw [vacant]; rfl)
    refine holds.step before ?_
    have unseen : item.path ∉ items.map AttributeReportItem.path := by
      rw [← seen, before]
      simp
    rw [firstAppearances_concat, if_neg unseen, holds.order]

theorem VersionsAgree.of_append (agree : VersionsAgree (first ++ second)) : VersionsAgree first :=
  fun a inA b inB => agree a (List.mem_append_left _ inA) b (List.mem_append_left _ inB)

theorem Holds.pushItems (holds : Holds before acc) (agree : VersionsAgree (before ++ items))
    (pushed : acc.pushItems items = (final, .ok ())) : Holds (before ++ items) final := by
  induction items generalizing before acc with
  | nil =>
    cases pushed
    rw [List.append_nil]
    exact holds
  | cons item rest ih =>
    rw [ReportAccumulator.pushItems] at pushed
    rw [List.append_cons] at agree ⊢
    cases step : acc.pushItem item with
    | error e =>
      rw [step] at pushed
      cases pushed
    | ok next =>
      rw [step] at pushed
      exact ih (holds.pushItem (VersionsAgree.of_append agree) step) agree pushed

/-- A path is drained once, so erasing its slot changes nothing for the others. -/
theorem drain_eq {order : List AttributePath} (distinct : order.Nodup) (slots : Table PathKey Slot) :
    drain order slots =
      order.filterMap fun path => (slots.lookup path.key).map fun slot => (path, slot.value) := by
  induction order generalizing slots with
  | nil => rfl
  | cons path rest ih =>
    obtain ⟨absent, distinct⟩ := List.nodup_cons.mp distinct
    cases found : slots.lookup path.key with
    | none => simp only [drain, found, List.filterMap_cons, Option.map_none, ih distinct]
    | some slot =>
      simp only [drain, found, List.filterMap_cons, Option.map_some, ih distinct]
      refine congrArg _ (List.filterMap_congr fun other member => ?_)
      have differs : other.key ≠ path.key := fun same =>
        absent (AttributePath.key_inj same ▸ member)
      rw [AList.lookup_erase_ne differs]

theorem Holds.finish (holds : Holds items acc) :
    acc.finish = (firstAppearances items).filterMap fun path =>
      (folded items path).map fun value => (path, value) := by
  have distinct : acc.order.Nodup := holds.order ▸ nodup_firstAppearances items
  rw [ReportAccumulator.finish, drain_eq distinct, holds.order]
  refine List.filterMap_congr fun path _ => ?_
  rw [← holds.value path, Option.map_map]
  rfl

theorem Holds.finish_paths (holds : Holds items acc) :
    acc.finish.map Prod.fst = firstAppearances items := by
  rw [holds.finish, List.map_filterMap]
  refine (List.filterMap_congr fun path member => ?_).trans List.filterMap_some
  obtain ⟨value, found⟩ := Option.isSome_iff_exists.mp
    ((folded_isSome items path).mpr (mem_firstAppearances.mp member))
  rw [found]
  rfl

theorem Holds.finish_value {path : AttributePath} {value : Value} (holds : Holds items acc)
    (returned : (path, value) ∈ acc.finish) : folded items path = some value := by
  rw [holds.finish, List.mem_filterMap] at returned
  obtain ⟨source, _, found⟩ := returned
  obtain ⟨held, fold, pair⟩ := Option.map_eq_some_iff.mp found
  cases pair
  exact fold

theorem saturatingAdd_le (a b : Nat) : saturatingAdd a b ≤ a + b := Nat.min_le_left _ _

theorem pushItem_charge {acc next : ReportAccumulator} (pushed : acc.pushItem item = .ok next) :
    next.bytes ≤ acc.bytes + estimateValueBytes item.value ∧
      next.maxElements = acc.maxElements ∧ next.maxBytes = acc.maxBytes := by
  have cases_ := acc.pushItem_cases item
  have charge : ∀ held, acc.charged item held ≤ acc.bytes + estimateValueBytes item.value := by
    intro held
    unfold charged
    split
    · exact (saturatingAdd_le _ _).trans (Nat.add_le_add_right (Nat.sub_le _ _) _)
    · exact saturatingAdd_le _ _
  rw [pushed] at cases_
  cases cases_ with
  | stale =>
    exact ⟨Nat.le_add_right _ _, rfl, rfl⟩
  | updated slot =>
    exact ⟨charge (some slot.value), rfl, rfl⟩
  | admitted =>
    exact ⟨charge none, rfl, rfl⟩

/-- Items that stay under the caps altogether are all accepted. -/
theorem Holds.accepts {before items : List AttributeReportItem} (holds : Holds before acc)
    (agree : VersionsAgree (before ++ items)) (charge : acc.bytes ≤ totalBytes before)
    (elements : (firstAppearances (before ++ items)).length ≤ acc.maxElements)
    (bytes : totalBytes (before ++ items) ≤ acc.maxBytes) :
    ∃ final, acc.pushItems items = (final, .ok ()) := by
  induction items generalizing before acc with
  | nil => exact ⟨acc, rfl⟩
  | cons item rest ih =>
    rw [List.append_cons] at agree elements bytes
    have total := bytes
    rw [totalBytes_append, totalBytes_append] at total
    have single : totalBytes [item] = estimateValueBytes item.value := by simp [totalBytes]
    cases step : acc.pushItem item with
    | error e =>
      have cases_ := acc.pushItem_cases item
      rw [step] at cases_
      cases cases_ with
      | exceeding exceeds =>
        have := saturatingAdd_le acc.bytes (estimateValueBytes item.value)
        omega
      | crowded vacant full =>
        have unseen : item.path ∉ before.map AttributeReportItem.path := by
          rw [← folded_isSome, ← holds.value item.path, vacant]
          simp
        have grown := length_firstAppearances_le (before ++ [item]) rest
        rw [firstAppearances_concat, if_neg unseen, List.length_append, ← holds.order] at grown
        simp only [List.length_singleton] at grown
        omega
    | ok next =>
      obtain ⟨spent, sameElements, sameBytes⟩ := pushItem_charge step
      have merged := holds.pushItem (VersionsAgree.of_append agree) step
      rw [ReportAccumulator.pushItems, step]
      refine ih merged agree ?_ (sameElements ▸ elements) (sameBytes ▸ bytes)
      rw [totalBytes_append, single]
      omega

/-- An older version than the slot's leaves the whole accumulator alone. -/
theorem pushItems_stale {acc : ReportAccumulator} {old new : UInt32}
    (found : acc.slots.lookup item.path.key = some slot) (held : slot.version = some old)
    (incoming : item.dataVersion = some new) (older : new < old) :
    (acc.pushItems [item]).1 = acc := by
  have cases_ := acc.pushItem_cases item
  rw [ReportAccumulator.pushItems]
  generalize acc.pushItem item = result at cases_
  cases cases_ with
  | exceeding => rfl
  | crowded => rfl
  | stale => rfl
  | admitted room vacant =>
    rw [found] at vacant
    cases vacant
  | updated other room there fresh =>
    obtain rfl : slot = other := Option.some.inj (found.symm.trans there)
    rw [held, incoming, newer, decide_eq_true_eq] at fresh
    exact absurd older (UInt32.not_lt.mpr fresh)

end ReportAccumulator

/-- Chunked reports come back as one value for each path, in the order of first
appearance, whatever the chunks; items under the caps are accepted; and an item
that is older than its path's slot changes nothing. -/
theorem report_reassembly :
    (∀ (maxElements maxBytes : Nat) (chunks : List ReportData) (acc : ReportAccumulator),
      VersionsAgree (chunks.flatMap ReportData.items) →
      (withLimits maxElements maxBytes).pushAll chunks = .ok acc →
      acc.finish.map Prod.fst = firstAppearances (chunks.flatMap ReportData.items) ∧
        (acc.finish.map Prod.fst).Nodup ∧
        ∀ path value, (path, value) ∈ acc.finish →
          folded (chunks.flatMap ReportData.items) path = some value) ∧
    (∀ (maxElements maxBytes : Nat) (chunks : List ReportData),
      VersionsAgree (chunks.flatMap ReportData.items) →
      (firstAppearances (chunks.flatMap ReportData.items)).length ≤ maxElements →
      totalBytes (chunks.flatMap ReportData.items) ≤ maxBytes →
      ∃ acc, (withLimits maxElements maxBytes).pushAll chunks = .ok acc) ∧
    ∀ (acc : ReportAccumulator) (item : AttributeReportItem) (slot : Slot) (old new : UInt32),
      acc.slots.lookup item.path.key = some slot → slot.version = some old →
      item.dataVersion = some new → new < old → (acc.pushItems [item]).1 = acc := by
  refine ⟨fun maxElements maxBytes chunks acc agree pushed => ?_,
    fun maxElements maxBytes chunks agree elements bytes => ?_,
    fun acc item slot old new found held incoming older =>
      pushItems_stale found held incoming older⟩
  · have holds := (holds_withLimits maxElements maxBytes).pushItems agree (pushAll_ok.mp pushed)
    rw [List.nil_append] at holds
    have paths := holds.finish_paths
    refine ⟨paths, paths ▸ nodup_firstAppearances _, fun path value => holds.finish_value⟩
  · obtain ⟨final, accepted⟩ := (holds_withLimits maxElements maxBytes).accepts agree
      (Nat.zero_le _) elements bytes
    exact ⟨final, pushAll_ok.mpr accepted⟩

/-- The parts of a list, in a report of two chunks. -/
def listChunks : List ReportData := [
  { items := [⟨⟨1, 6, 0⟩, .replace, .array [.uint 1], some 7⟩], moreChunkedMessages := true },
  { items := [⟨⟨1, 6, 0⟩, .append, .uint 2, some 7⟩] }]

theorem two_chunks_reassembled : ∃ acc, (withLimits 1 100).pushAll listChunks = .ok acc ∧
    acc.finish = [(⟨1, 6, 0⟩, .array [.uint 1, .uint 2])] := by
  have versions : ∀ item ∈ listChunks.flatMap ReportData.items, item.dataVersion = some 7 := by
    simp [listChunks]
  have agree : VersionsAgree (listChunks.flatMap ReportData.items) := by
    intro a first b second _ v w isV isW
    rw [versions a first] at isV
    rw [versions b second] at isW
    exact Option.some.inj (isV.symm.trans isW)
  obtain ⟨acc, pushed⟩ := report_reassembly.2.1 1 100 listChunks agree (by decide) (by decide)
  obtain ⟨paths, _, values⟩ := report_reassembly.1 1 100 listChunks acc agree pushed
  obtain ⟨⟨path, value⟩, sole, rfl⟩ := List.map_eq_singleton_iff.mp paths
  have merged := values _ value (by rw [sole]; exact List.mem_cons_self)
  rw [← Option.some.inj merged] at sole
  exact ⟨acc, pushed, sole⟩

end Matter.Interaction
