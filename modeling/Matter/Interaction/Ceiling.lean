import Matter.Base.Runs
import Matter.Interaction.Accumulator

/-! The memory ceiling of the accumulator. The byte counter is an estimate that
charges nothing for empty strings, and that loses track when an append turns a
short string into a list; either lets a device grow what is held without end.
Where neither happens, what is held is bounded by the two caps. -/
namespace Matter.Interaction
open Codec Runs

namespace Ceiling

mutual

/-- The bytes of the strings in a value. -/
def payload : Value → Nat
  | .utf8 text => text.string.utf8ByteSize
  | .bytes octets => octets.bytes.length
  | .array elements => payloadElements elements
  | .struct members => payloadMembers members
  | .list members => payloadMembers members
  | _ => 0

def payloadMembers : List (Tag × Value) → Nat
  | [] => 0
  | (_, value) :: rest => payload value + payloadMembers rest

def payloadElements : List Value → Nat
  | [] => 0
  | value :: rest => payload value + payloadElements rest

end

/-- Nodes and payload bytes of a value. -/
def footprint (value : Value) : Nat := value.count + payload value

mutual

/-- No string anywhere in the value is empty. -/
def Filled : Value → Prop
  | .utf8 text => 0 < text.string.utf8ByteSize
  | .bytes octets => 0 < octets.bytes.length
  | .array elements => FilledElements elements
  | .struct members => FilledMembers members
  | .list members => FilledMembers members
  | _ => True

def FilledMembers : List (Tag × Value) → Prop
  | [] => True
  | (_, value) :: rest => Filled value ∧ FilledMembers rest

def FilledElements : List Value → Prop
  | [] => True
  | value :: rest => Filled value ∧ FilledElements rest

end

/-- No string inside a container is empty; the value itself may be. -/
def Lined : Value → Prop
  | .utf8 _ => True
  | .bytes _ => True
  | value => Filled value

/-- A string that is charged less than the frame of a list. -/
def ShortString : Value → Prop
  | .utf8 text => text.string.utf8ByteSize < scalarBytes
  | .bytes octets => octets.bytes.length < scalarBytes
  | _ => False

mutual

theorem footprint_le_of_filled : ∀ value : Value, Filled value →
    value.count + payload value ≤ 2 * estimateValueBytes value
  | .bool _, _ | .uint _, _
  | .int _, _ | .float _, _
  | .double _, _ | .null, _ => by simp [Value.count, payload, estimateValueBytes, scalarBytes]
  | .utf8 text, filled | .bytes octets, filled => by
    simp only [Filled] at filled
    simp only [Value.count, payload, estimateValueBytes]
    omega
  | .array elements, filled => by
    simp only [Filled] at filled
    have inner := footprintElements_le elements filled
    simp only [Value.count, payload, estimateValueBytes, scalarBytes]
    omega
  | .struct members, filled | .list members, filled => by
    simp only [Filled] at filled
    have inner := footprintMembers_le members filled
    simp only [Value.count, payload, estimateValueBytes, scalarBytes]
    omega

theorem footprintMembers_le : ∀ members : List (Tag × Value), FilledMembers members →
    Value.countMembers members + payloadMembers members ≤ 2 * estimateMembers members
  | [], _ => by simp [Value.countMembers, payloadMembers, estimateMembers]
  | (_, value) :: rest, filled => by
    simp only [FilledMembers] at filled
    have head := footprint_le_of_filled value filled.1
    have tail := footprintMembers_le rest filled.2
    simp only [Value.countMembers, payloadMembers, estimateMembers]
    omega

theorem footprintElements_le : ∀ elements : List Value, FilledElements elements →
    Value.countElements elements + payloadElements elements ≤ 2 * estimateElements elements
  | [], _ => by simp [Value.countElements, payloadElements, estimateElements]
  | value :: rest, filled => by
    simp only [FilledElements] at filled
    have head := footprint_le_of_filled value filled.1
    have tail := footprintElements_le rest filled.2
    simp only [Value.countElements, payloadElements, estimateElements]
    omega

end

theorem footprint_le_of_lined (lined : Lined value) :
    footprint value ≤ 2 * estimateValueBytes value + 1 := by
  have filled := footprint_le_of_filled value
  unfold footprint
  cases value with
  | utf8 text | bytes octets =>
    simp only [Value.count, payload, estimateValueBytes]
    omega
  | _ => exact (filled lined).trans (Nat.le_succ _)

theorem filledElements_concat (filled : FilledElements elements) (last : Filled value) :
    FilledElements (elements ++ [value]) := by
  induction elements with
  | nil => simpa [FilledElements] using last
  | cons head rest ih =>
    simp only [FilledElements] at filled
    simp only [List.cons_append, FilledElements]
    exact ⟨filled.1, ih filled.2⟩

theorem estimateElements_concat (elements : List Value) (value : Value) :
    estimateElements (elements ++ [value]) =
      estimateElements elements + estimateValueBytes value := by
  induction elements with
  | nil => simp [estimateElements]
  | cons head rest ih =>
    simp only [List.cons_append, estimateElements, ih]
    omega

/-- A value that is neither a list nor a short string covers the frame of the
list that replaces it. -/
theorem estimate_appended_le (long : ¬ ShortString held) (item : Value) :
    estimateValueBytes (ReportAccumulator.appended held item) ≤
      estimateValueBytes held + estimateValueBytes item := by
  cases held with
  | array elements =>
    simp only [ReportAccumulator.appended, estimateValueBytes, estimateElements_concat]
    omega
  | utf8 text | bytes octets =>
    simp only [ShortString] at long
    simp only [ReportAccumulator.appended, estimateValueBytes, estimateElements]
    omega
  | _ =>
    simp only [ReportAccumulator.appended, estimateValueBytes, estimateElements]
    omega

theorem lined_appended (lined : Lined held) (filled : Filled item) :
    Lined (ReportAccumulator.appended held item) := by
  cases held with
  | array elements =>
    simp only [Lined, Filled] at lined
    simp only [ReportAccumulator.appended, Lined, Filled]
    exact filledElements_concat lined filled
  | _ => simpa [ReportAccumulator.appended, Lined, Filled, FilledElements] using filled

end Ceiling

open Ceiling

namespace ReportAccumulator

open ReportAccumulator

/-- Nodes and payload bytes the accumulator holds. -/
def retained (acc : ReportAccumulator) : Nat :=
  (acc.slots.entries.map fun entry => footprint entry.2.value).sum

/-- What the values that are held would be charged now. -/
def estimated (acc : ReportAccumulator) : Nat :=
  (acc.slots.entries.map fun entry => estimateValueBytes entry.2.value).sum

/-- An item whose merge the counter accounts for: no empty string where it is
charged nothing, and no append that turns a short string into a list. -/
def Accounted (acc : ReportAccumulator) (item : AttributeReportItem) : Prop :=
  match item.op with
  | .replace => Lined item.value
  | .append => Filled item.value ∧ ∀ slot, acc.slots.lookup item.path.key = some slot →
      newer slot.version item.dataVersion = true → ¬ ShortString slot.value

/-- Every item that the push of a report reaches is accounted for. -/
def AccountedPush (acc : ReportAccumulator) (report : ReportData) : Prop :=
  ∀ before item after, report.items = before ++ item :: after →
    (acc.pushItems before).2 = .ok () → Accounted (acc.pushItems before).1 item

/-- What the counter and the two caps say about the slots. -/
structure Within (maxElements maxBytes : Nat) (acc : ReportAccumulator) : Prop where
  elements : acc.maxElements = maxElements
  cap : acc.maxBytes = maxBytes
  counted : acc.bytes ≤ maxBytes
  ordered : acc.order.length = acc.slots.entries.length
  placed : acc.order.length ≤ maxElements
  charged : acc.estimated ≤ acc.bytes + scalarBytes * acc.slots.entries.length
  lined : ∀ entry ∈ acc.slots.entries, Lined entry.2.value

section
variable {maxElements maxBytes : Nat} {acc : ReportAccumulator}

theorem within_withLimits : Within maxElements maxBytes (withLimits maxElements maxBytes) := by
  refine ⟨rfl, rfl, Nat.zero_le _, rfl, Nat.zero_le _, Nat.zero_le _, fun entry member => ?_⟩
  cases member

/-- Each value takes at most twice its estimate and one node. -/
theorem Within.retained_le (within : Within maxElements maxBytes acc) :
    acc.retained ≤ 2 * maxBytes + 17 * maxElements := by
  have each : ∀ entries : List (Σ _ : PathKey, Slot),
      (∀ entry ∈ entries, Lined entry.2.value) →
      (entries.map fun entry => footprint entry.2.value).sum ≤
        2 * (entries.map fun entry => estimateValueBytes entry.2.value).sum + entries.length := by
    intro entries lined
    induction entries with
    | nil => simp
    | cons entry rest ih =>
      have head := footprint_le_of_lined (lined entry List.mem_cons_self)
      have tail := ih fun other member => lined other (List.mem_cons_of_mem _ member)
      simp only [List.map_cons, List.sum_cons, List.length_cons]
      omega
  have total := each acc.slots.entries within.lined
  have charged := within.charged
  have counted := within.counted
  have placed := within.placed
  have ordered := within.ordered
  unfold retained
  unfold estimated scalarBytes at charged
  omega

/-- The estimate after a slot is written, in terms of what it held. -/
theorem estimated_insert (acc : ReportAccumulator) (key : PathKey) (slot : Slot) :
    ((acc.slots.insert key slot).entries.map fun entry => estimateValueBytes entry.2.value).sum +
        ((acc.slots.lookup key).map fun held => estimateValueBytes held.value).getD 0 =
      acc.estimated + estimateValueBytes slot.value := by
  unfold estimated
  rw [Table.entries_insert, List.map_cons, List.sum_cons]
  cases found : acc.slots.lookup key with
  | none =>
    rw [Table.erase_of_lookup_none found]
    simp only [Option.map_none, Option.getD_none]
    omega
  | some held =>
    have perm := (Table.entries_perm_of_lookup found).map fun entry : (Σ _ : PathKey, Slot) =>
      estimateValueBytes entry.2.value
    rw [perm.sum_nat, List.map_cons, List.sum_cons]
    simp only [Option.map_some, Option.getD_some]
    omega

theorem length_insert (acc : ReportAccumulator) (key : PathKey) (slot : Slot) :
    (acc.slots.insert key slot).entries.length =
      acc.slots.entries.length + if (acc.slots.lookup key).isSome then 0 else 1 := by
  rw [Table.entries_insert, List.length_cons]
  cases found : acc.slots.lookup key with
  | none =>
    rw [Table.erase_of_lookup_none found]
    rfl
  | some held =>
    have size := (Table.entries_perm_of_lookup found).length_eq
    rw [List.length_cons] at size
    simp only [Option.isSome_some, if_true]
    omega

theorem saturatingAdd_exact (room : saturatingAdd a b ≤ maxBytes)
    (small : maxBytes < usizeLimit - 1) : saturatingAdd a b = a + b := by
  unfold saturatingAdd at room ⊢
  omega

theorem lined_settled (accounted : acc.Accounted item)
    (lined : ∀ value, held = some value → Lined value) : Lined (settled item held) := by
  unfold Accounted at accounted
  unfold settled
  cases op : item.op with
  | replace =>
    rw [op] at accounted
    exact accounted
  | append =>
    rw [op] at accounted
    cases held with
    | none => simpa [Lined, Filled, FilledElements] using accounted.1
    | some value => exact lined_appended (lined value rfl) accounted.1

/-- The estimate of a slot grows by no more than the counter. -/
theorem estimate_settled_le (within : Within maxElements maxBytes acc)
    (small : maxBytes < usizeLimit - 1) (accounted : acc.Accounted item)
    (found : acc.slots.lookup item.path.key = some slot)
    (fresh : newer slot.version item.dataVersion = true)
    (room : saturatingAdd acc.bytes (estimateValueBytes item.value) ≤ acc.maxBytes) :
    acc.charged item (some slot.value) ≤ maxBytes ∧
      acc.estimated + estimateValueBytes (settled item (some slot.value)) ≤
        acc.charged item (some slot.value) + scalarBytes * acc.slots.entries.length +
          estimateValueBytes slot.value := by
  rw [within.cap] at room
  have counted := within.counted
  have bound := within.charged
  have added := saturatingAdd_exact room small
  unfold Accounted at accounted
  unfold charged settled
  cases op : item.op with
  | replace =>
    simp only
    have sum : saturatingAdd (acc.bytes - estimateValueBytes slot.value)
        (estimateValueBytes item.value) =
          acc.bytes - estimateValueBytes slot.value + estimateValueBytes item.value := by
      unfold saturatingAdd at room ⊢
      omega
    rw [sum]
    omega
  | append =>
    rw [op] at accounted
    have grown := estimate_appended_le (accounted.2 slot found fresh) item.value
    simp only
    rw [added]
    omega

theorem Within.pushItem (within : Within maxElements maxBytes acc)
    (small : maxBytes < usizeLimit - 1) (accounted : acc.Accounted item)
    (pushed : acc.pushItem item = .ok next) : Within maxElements maxBytes next := by
  have cases_ := acc.pushItem_cases item
  rw [pushed] at cases_
  cases cases_ with
  | stale =>
    exact within
  | updated slot room found fresh =>
    have entry : (⟨item.path.key, slot⟩ : Σ _ : PathKey, Slot) ∈ acc.slots.entries :=
      Table.lookup_eq_some.mp found
    have sum := acc.estimated_insert item.path.key
      ⟨settled item (some slot.value), item.dataVersion⟩
    have size := acc.length_insert item.path.key
      ⟨settled item (some slot.value), item.dataVersion⟩
    rw [found] at sum size
    simp only [Option.map_some, Option.getD_some] at sum
    simp only [Option.isSome_some, if_true, Nat.add_zero] at size
    obtain ⟨counted, charged⟩ := estimate_settled_le within small accounted found fresh room
    refine ⟨within.elements, within.cap, counted, within.ordered.trans size.symm, within.placed,
      ?_, fun other member => ?_⟩
    · simp only [estimated, size]
      omega
    · obtain rfl | ⟨_, member⟩ := Table.mem_entries_insert.mp member
      · refine lined_settled accounted fun value same => ?_
        cases same
        exact within.lined _ entry
      · exact within.lined other member
  | admitted room vacant space =>
    have sum := acc.estimated_insert item.path.key ⟨settled item none, item.dataVersion⟩
    have size := acc.length_insert item.path.key ⟨settled item none, item.dataVersion⟩
    rw [vacant] at sum size
    simp only [Option.map_none, Option.getD_none, Nat.add_zero] at sum
    simp only [Option.isSome_none, Bool.false_eq_true, if_false] at size
    rw [within.cap] at room
    rw [within.elements] at space
    have added := saturatingAdd_exact room small
    have charge : acc.charged item none = acc.bytes + estimateValueBytes item.value := by
      unfold ReportAccumulator.charged
      split
      · rename_i held
        cases held
      · exact added
    have framed : estimateValueBytes (settled item none) ≤
        estimateValueBytes item.value + scalarBytes := by
      unfold settled
      cases item.op with
      | replace => exact Nat.le_add_right _ _
      | append => simp only [estimateValueBytes, estimateElements, Nat.add_zero, Nat.le_refl]
    have ordered := within.ordered
    have bound := within.charged
    refine ⟨within.elements, within.cap, ?_, ?_, ?_, ?_, fun other member => ?_⟩
    · simp only [charge]
      omega
    · simp only [List.length_append, List.length_singleton, size, ordered]
    · simp only [List.length_append, List.length_singleton]
      omega
    · simp only [estimated, size, charge]
      unfold scalarBytes at *
      omega
    · obtain rfl | ⟨_, member⟩ := Table.mem_entries_insert.mp member
      · exact lined_settled accounted fun value same => by cases same
      · exact within.lined other member

/-- What every merged item keeps, a push keeps. -/
theorem push_invariant {P : ReportAccumulator → Prop}
    {guard : ReportAccumulator → AttributeReportItem → Prop}
    (preserves : ∀ acc item next, P acc → guard acc item → acc.pushItem item = .ok next → P next)
    (initial : P acc) (along : ∀ before item after, report.items = before ++ item :: after →
      (acc.pushItems before).2 = .ok () → guard (acc.pushItems before).1 item) :
    P (acc.push report).1 := by
  unfold push
  generalize report.items = items at along
  induction items generalizing acc with
  | nil => exact initial
  | cons item rest ih =>
    have head := along [] item rest rfl rfl
    rw [pushItems]
    cases step : acc.pushItem item with
    | error e => exact initial
    | ok next =>
      refine ih (preserves acc item next initial head step) fun before other after split reached => ?_
      have later := along (item :: before) other after (by rw [split]; rfl)
      simp only [pushItems, step] at later
      exact later reached

theorem Within.push (within : Within maxElements maxBytes acc) (small : maxBytes < usizeLimit - 1)
    (accounted : acc.AccountedPush report) : Within maxElements maxBytes (acc.push report).1 :=
  push_invariant (fun _ _ _ within accounted => within.pushItem small accounted) within accounted

end

/-- In every run whose pushes are accounted for, what is held stays under a
bound of the two caps, in every state. -/
theorem retention_bounded (maxElements maxBytes : Nat) (reports : List ReportData)
    (small : maxBytes < usizeLimit - 1)
    (accounted : EveryStep (fun acc report => (push acc report).1)
      AccountedPush (withLimits maxElements maxBytes) reports) :
    EveryState (fun acc report => (push acc report).1)
      (fun acc => acc.retained ≤ 2 * maxBytes + 17 * maxElements)
      (withLimits maxElements maxBytes) reports := by
  intro pre within
  refine Within.retained_le (invariant_of_guard (P := Within maxElements maxBytes)
    (fun acc report held ok => held.push small ok) within_withLimits ?_)
  intro earlier report inside
  exact accounted earlier report (inside.trans within)

def lampPath : AttributePath := ⟨1, 6, 0⟩

def labelPath : AttributePath := ⟨1, 0x28, 5⟩

def numberReport (op : ReportOp) : ReportData := { items := [⟨lampPath, op, .uint 1, none⟩] }

theorem numberReport_split (split : (numberReport op).items = before ++ item :: after) :
    before = [] ∧ item = ⟨lampPath, op, .uint 1, none⟩ := by
  cases before with
  | nil => exact ⟨rfl, (List.cons.inj split).1.symm⟩
  | cons head tail => simp [numberReport] at split

theorem number_held : (push (withLimits 10 100) (numberReport .replace)).1.slots.lookup
    lampPath.key = some ⟨.uint 1, none⟩ := rfl

/-- A number and one appended to it, under caps of ten paths and a hundred bytes. -/
theorem number_retained :
    EveryState (fun acc report => (push acc report).1)
      (fun acc => acc.retained ≤ 2 * 100 + 17 * 10) (withLimits 10 100)
      [numberReport .replace, numberReport .append] := by
  refine retention_bounded 10 100 _ (by decide) ?_
  simp only [everyStep_cons]
  refine ⟨fun before item after split _ => ?_, fun before item after split _ => ?_, everyStep_nil⟩
  · obtain ⟨rfl, rfl⟩ := numberReport_split split
    simp [Accounted, Lined, Filled]
  · obtain ⟨rfl, rfl⟩ := numberReport_split split
    refine ⟨by simp [Filled], fun slot found _ => ?_⟩
    cases found.symm.trans number_held
    simp [ShortString]

theorem le_sum_of_lookup {slots : Table PathKey Slot} (found : slots.lookup key = some slot)
    (size : Value → Nat) :
    size slot.value ≤ (slots.entries.map fun entry => size entry.2.value).sum := by
  have perm := (Table.entries_perm_of_lookup found).map fun entry : (Σ _ : PathKey, Slot) =>
    size entry.2.value
  rw [perm.sum_nat, List.map_cons, List.sum_cons]
  exact Nat.le_add_right _ _

/-- The counter is what the values that are held would be charged now, under the cap. -/
structure Exact (acc : ReportAccumulator) : Prop where
  counted : acc.bytes = acc.estimated
  capped : acc.bytes ≤ acc.maxBytes

/-- An item by which the counter and the estimate change alike. An append to a new path is
not charged the frame of its list, and one to a value that is no list takes back nothing. -/
def Tracked (acc : ReportAccumulator) (item : AttributeReportItem) : Prop :=
  acc.bytes + estimateValueBytes item.value < usizeLimit ∧ (item.op = .append →
    ∃ slot, acc.slots.lookup item.path.key = some slot ∧
      (newer slot.version item.dataVersion = true →
        (∃ list, slot.value = .array list) ∨ estimateValueBytes slot.value = scalarBytes))

def TrackedPush (acc : ReportAccumulator) (report : ReportData) : Prop :=
  ∀ before item after, report.items = before ++ item :: after →
    (acc.pushItems before).2 = .ok () → Tracked (acc.pushItems before).1 item

theorem estimate_appended (held : (∃ list, value = .array list) ∨
    estimateValueBytes value = scalarBytes) (item : Value) :
    estimateValueBytes (appended value item) = estimateValueBytes value + estimateValueBytes item := by
  cases value with
  | array list =>
    simp only [appended, estimateValueBytes, estimateElements_concat]
    omega
  | _ =>
    have frame := held.resolve_left (by simp)
    rw [frame]
    simp only [appended, estimateValueBytes, estimateElements]
    omega

theorem saturatingAdd_of_lt (fits : a + b < usizeLimit) : saturatingAdd a b = a + b := by
  unfold saturatingAdd
  omega

theorem Exact.pushItem (exact_ : Exact acc) (tracked : acc.Tracked item)
    (pushed : acc.pushItem item = .ok next) : Exact next := by
  obtain ⟨counted, capped⟩ := exact_
  obtain ⟨fits, appends⟩ := tracked
  have added := saturatingAdd_of_lt fits
  have cases_ := acc.pushItem_cases item
  rw [pushed] at cases_
  cases cases_ with
  | stale =>
    exact ⟨counted, capped⟩
  | updated slot room found fresh =>
    have sum := acc.estimated_insert item.path.key
      ⟨settled item (some slot.value), item.dataVersion⟩
    have part := le_sum_of_lookup found estimateValueBytes
    change _ ≤ acc.estimated at part
    rw [found] at sum
    simp only [Option.map_some, Option.getD_some] at sum
    suffices charge : acc.charged item (some slot.value) + estimateValueBytes slot.value =
        acc.bytes + estimateValueBytes (settled item (some slot.value)) ∧
        acc.charged item (some slot.value) ≤ acc.maxBytes by
      refine ⟨?_, charge.2⟩
      unfold estimated
      dsimp only
      omega
    unfold charged settled
    cases op : item.op with
    | replace =>
      dsimp only
      rw [saturatingAdd_of_lt (by omega)]
      omega
    | append =>
      obtain ⟨held, there, list⟩ := appends op
      obtain rfl : slot = held := Option.some.inj (found.symm.trans there)
      dsimp only
      rw [estimate_appended (list fresh), added]
      omega
  | admitted room vacant space =>
    have sum := acc.estimated_insert item.path.key ⟨settled item none, item.dataVersion⟩
    rw [vacant] at sum
    cases op : item.op with
    | append =>
      obtain ⟨_, there, _⟩ := appends op
      rw [vacant] at there
      cases there
    | replace =>
      simp only [settled, charged, op, Option.map_none, Option.getD_none, Nat.add_zero] at sum ⊢
      rw [added]
      refine ⟨?_, added ▸ room⟩
      unfold estimated
      dsimp only
      omega

/-- In every run whose items are tracked the counter is exact, in every state. -/
theorem byte_counter_exact (maxElements maxBytes : Nat) (reports : List ReportData)
    (tracked : EveryStep (fun acc report => (push acc report).1)
      TrackedPush (withLimits maxElements maxBytes) reports) :
    EveryState (fun acc report => (push acc report).1) Exact
      (withLimits maxElements maxBytes) reports :=
  everyState_of_guard (fun _ _ held tracked =>
    push_invariant (fun _ _ _ held tracked => held.pushItem tracked) held tracked)
    ⟨rfl, Nat.zero_le _⟩ tracked

theorem number_counted :
    EveryState (fun acc report => (push acc report).1) Exact (withLimits 10 100)
      [numberReport .replace, numberReport .append] := by
  refine byte_counter_exact 10 100 _ ?_
  simp only [everyStep_cons]
  refine ⟨fun before item after split _ => ?_, fun before item after split _ => ?_, everyStep_nil⟩
  · obtain ⟨rfl, rfl⟩ := numberReport_split split
    exact ⟨by simp [pushItems, withLimits, estimateValueBytes, scalarBytes, usizeLimit], by simp⟩
  · obtain ⟨rfl, rfl⟩ := numberReport_split split
    exact ⟨by decide, fun _ => ⟨_, number_held, fun _ => .inr rfl⟩⟩

/-- A number appended to a new path is charged eight bytes, and its list is estimated at
sixteen. -/
theorem appended_number_miscounted :
    ¬ EveryState (fun acc report => (push acc report).1) Exact (withLimits 10 100)
      [numberReport .append] := by
  intro every
  have counted := (every _ (List.prefix_refl _)).counted
  revert counted
  decide

theorem count_replicate (n : Nat) (value : Value) :
    n ≤ footprint (.array (List.replicate n value)) := by
  have each : ∀ n, n ≤ Value.countElements (List.replicate n value) := by
    intro n
    induction n with
    | zero => exact Nat.zero_le _
    | succ n ih =>
      have node : 1 ≤ value.count := by cases value <;> simp [Value.count]
      simp only [List.replicate_succ, Value.countElements]
      omega
  have inside := each n
  simp only [footprint, Value.count]
  omega

/-- A chunk that takes every state of a family to the next one can be pushed any
number of times. -/
theorem pushAll_replicate {family : Nat → ReportAccumulator → Prop}
    (step : ∀ n acc, family n acc → ∃ next, acc.push report = (next, .ok ()) ∧ family (n + 1) next)
    (initial : family start acc) (n : Nat) :
    ∃ final, acc.pushAll (List.replicate n report) = .ok final ∧ family (start + n) final := by
  induction n generalizing acc start with
  | zero => exact ⟨acc, rfl, initial⟩
  | succ n ih =>
    obtain ⟨next, pushed, reached⟩ := step start acc initial
    obtain ⟨final, rest, last⟩ := ih reached
    refine ⟨final, ?_, (by rw [Nat.add_right_comm] at last; exact last)⟩
    rw [List.replicate_succ, pushAll, pushed]
    exact rest

theorem pushItem_onto (acc : ReportAccumulator) (item : AttributeReportItem)
    (found : acc.slots.lookup item.path.key = some slot) (unversioned : item.dataVersion = none)
    (room : acc.bytes + estimateValueBytes item.value ≤ acc.maxBytes) :
    ∃ next, acc.pushItem item = .ok next ∧ next.maxBytes = acc.maxBytes ∧
      next.bytes = acc.charged item (some slot.value) ∧
      next.slots.lookup item.path.key = some ⟨settled item (some slot.value), none⟩ ∧
      ∀ key, key ≠ item.path.key → next.slots.lookup key = acc.slots.lookup key := by
  have cases_ := acc.pushItem_cases item
  generalize acc.pushItem item = result at cases_
  cases cases_ with
  | exceeding exceeds =>
    have := saturatingAdd_le acc.bytes (estimateValueBytes item.value)
    omega
  | crowded vacant | admitted _ vacant =>
    rw [found] at vacant
    cases vacant
  | stale other _ older =>
    rw [unversioned] at older
    cases held : other.version <;> rw [held] at older <;> cases older
  | updated other _ there _ =>
    obtain rfl : slot = other := Option.some.inj (found.symm.trans there)
    refine ⟨_, rfl, rfl, rfl, ?_, fun key differs => AList.lookup_insert_ne differs⟩
    rw [← unversioned]
    exact AList.lookup_insert _

theorem pushItem_new (acc : ReportAccumulator) (item : AttributeReportItem)
    (vacant : acc.slots.lookup item.path.key = none)
    (room : acc.bytes + estimateValueBytes item.value ≤ acc.maxBytes)
    (space : acc.order.length < acc.maxElements) :
    ∃ next, acc.pushItem item = .ok next ∧ next.maxBytes = acc.maxBytes ∧
      next.maxElements = acc.maxElements ∧ next.order.length = acc.order.length + 1 ∧
      next.bytes = acc.charged item none ∧
      next.slots.lookup item.path.key = some ⟨settled item none, item.dataVersion⟩ ∧
      ∀ key, key ≠ item.path.key → next.slots.lookup key = acc.slots.lookup key := by
  have cases_ := acc.pushItem_cases item
  generalize acc.pushItem item = result at cases_
  cases cases_ with
  | exceeding exceeds =>
    have := saturatingAdd_le acc.bytes (estimateValueBytes item.value)
    omega
  | crowded _ full => omega
  | stale other found | updated other _ found =>
    rw [vacant] at found
    cases found
  | admitted =>
    exact ⟨_, rfl, rfl, rfl, List.length_append, rfl, AList.lookup_insert _,
      fun key differs => AList.lookup_insert_ne differs⟩

def emptyText : Value := .utf8 ⟨"", by decide⟩

/-- An append of an empty string, which is charged nothing. -/
def emptyAppend : ReportData := { items := [⟨lampPath, .append, emptyText, none⟩] }

/-- The lamp's list holds `n` empty strings and the counter is at zero. -/
structure Empties (n : Nat) (acc : ReportAccumulator) : Prop where
  free : acc.bytes = 0
  list : acc.slots.lookup lampPath.key = some ⟨.array (List.replicate n emptyText), none⟩

theorem Empties.step (n : Nat) (acc : ReportAccumulator) (held : Empties n acc) :
    ∃ next, acc.push emptyAppend = (next, .ok ()) ∧ Empties (n + 1) next := by
  have free : estimateValueBytes emptyText = 0 := by simp [emptyText, estimateValueBytes]
  have room : acc.bytes + estimateValueBytes emptyText ≤ acc.maxBytes := by
    rw [held.free, free]
    exact Nat.zero_le _
  obtain ⟨next, pushed, _, bytes, list, _⟩ :=
    pushItem_onto acc ⟨lampPath, .append, emptyText, none⟩ held.list rfl room
  refine ⟨next, by simp only [push, emptyAppend, pushItems, pushed], ?_, ?_⟩
  · simp [bytes, charged, held.free, free, saturatingAdd]
  · simp [list, settled, appended, List.replicate_succ']

theorem Empties.start :
    ∃ next, (withLimits 1 0).push emptyAppend = (next, .ok ()) ∧ Empties 1 next := by
  have free : estimateValueBytes emptyText = 0 := by simp [emptyText, estimateValueBytes]
  obtain ⟨next, pushed, _, _, _, bytes, list, _⟩ :=
    pushItem_new (withLimits 1 0) ⟨lampPath, .append, emptyText, none⟩ rfl
      (Nat.le_of_eq free) Nat.one_pos
  refine ⟨next, by simp only [push, emptyAppend, pushItems, pushed], ?_, ?_⟩
  · rw [bytes]
    simp [charged, free, saturatingAdd, withLimits]
  · rw [list]
    rfl

def letter : Value := .utf8 ⟨"a", by decide⟩

theorem estimate_letter : estimateValueBytes letter = 1 := by
  simp only [letter, estimateValueBytes]
  decide

/-- A list that grows beside a label. The label is replaced by a short string and
then appended to, and the next replacement takes back more than that was charged. -/
def drainingRound : ReportData where
  items := [⟨lampPath, .append, letter, none⟩, ⟨labelPath, .replace, letter, none⟩,
    ⟨labelPath, .append, letter, none⟩]

def drainingStart : ReportData where
  items := [⟨lampPath, .append, letter, none⟩, ⟨labelPath, .append, letter, none⟩]

/-- The lamp's list holds `n` letters and the counter is at two. -/
structure Drained (n : Nat) (acc : ReportAccumulator) : Prop where
  cap : acc.maxBytes = 4
  count : acc.bytes = 2
  list : acc.slots.lookup lampPath.key = some ⟨.array (List.replicate n letter), none⟩
  label : acc.slots.lookup labelPath.key = some ⟨.array [letter], none⟩

theorem Drained.start :
    ∃ next, (withLimits 2 4).push drainingStart = (next, .ok ()) ∧ Drained 1 next := by
  have one := estimate_letter
  obtain ⟨first, pushed, cap, elements, order, bytes, list, rest⟩ :=
    pushItem_new (withLimits 2 4) ⟨lampPath, .append, letter, none⟩ rfl
      (by simp only [withLimits, one]; decide) (Nat.succ_pos 1)
  have count : first.bytes = 1 := by
    rw [bytes]
    simp only [charged, one]
    rfl
  obtain ⟨next, pushed', cap', _, _, bytes', label, rest'⟩ :=
    pushItem_new first ⟨labelPath, .append, letter, none⟩
      (rest labelPath.key (by decide)) (by rw [count, cap, one]; decide)
      (by rw [order, elements]; decide)
  refine ⟨next, by simp only [push, drainingStart, pushItems, pushed, pushed'], cap'.trans cap,
    ?_, (rest' lampPath.key (by decide)).trans list, label⟩
  rw [bytes']
  simp only [charged, one, count]
  rfl

theorem Drained.step (n : Nat) (acc : ReportAccumulator) (held : Drained n acc) :
    ∃ next, acc.push drainingRound = (next, .ok ()) ∧ Drained (n + 1) next := by
  have one := estimate_letter
  obtain ⟨first, pushed₁, cap₁, bytes₁, list₁, rest₁⟩ :=
    pushItem_onto acc ⟨lampPath, .append, letter, none⟩ held.list rfl
      (by simp only [held.count, held.cap, one]; decide)
  have count₁ : first.bytes = 3 := by
    rw [bytes₁]
    simp only [charged, one, held.count]
    rfl
  have label₁ := (rest₁ labelPath.key (by decide)).trans held.label
  obtain ⟨second, pushed₂, cap₂, bytes₂, label₂, rest₂⟩ :=
    pushItem_onto first ⟨labelPath, .replace, letter, none⟩ label₁ rfl
      (by simp only [count₁, cap₁, held.cap, one]; decide)
  -- nine bytes are taken back for a list that was charged two
  have count₂ : second.bytes = 1 := by
    rw [bytes₂]
    simp only [charged, estimateValueBytes, estimateElements, one, count₁]
    rfl
  obtain ⟨third, pushed₃, cap₃, bytes₃, label₃, rest₃⟩ :=
    pushItem_onto second ⟨labelPath, .append, letter, none⟩ label₂ rfl
      (by simp only [count₂, cap₂, cap₁, held.cap, one]; decide)
  refine ⟨third, by simp only [push, drainingRound, pushItems, pushed₁, pushed₂, pushed₃],
    cap₃.trans (cap₂.trans (cap₁.trans held.cap)), ?_, ?_, label₃⟩
  · rw [bytes₃]
    simp only [charged, one, count₂]
    rfl
  · rw [rest₃ lampPath.key (by decide), rest₂ lampPath.key (by decide), list₁]
    simp [settled, appended, List.replicate_succ']

theorem filled_draining : ∀ report ∈ [drainingStart, drainingRound], ∀ item ∈ report.items,
    Filled item.value := by
  have filled : Filled letter := by
    simp only [letter, Filled]
    decide
  simp [drainingStart, drainingRound, filled]

/-- No function of the caps bounds what is held, though no push overflows: with
empty strings, and also with none, by appends that turn short strings into lists. -/
theorem retention_unbounded :
    (¬ ∃ bound : Nat → Nat → Nat, ∀ maxElements maxBytes reports acc,
      (withLimits maxElements maxBytes).pushAll reports = .ok acc →
        acc.retained ≤ bound maxElements maxBytes) ∧
    ¬ ∃ bound : Nat → Nat → Nat, ∀ maxElements maxBytes reports acc,
      (∀ report ∈ reports, ∀ item ∈ report.items, Filled item.value) →
        (withLimits maxElements maxBytes).pushAll reports = .ok acc →
        acc.retained ≤ bound maxElements maxBytes := by
  constructor
  · rintro ⟨bound, bounded⟩
    obtain ⟨first, pushed, start⟩ := Empties.start
    obtain ⟨final, rest, last⟩ := pushAll_replicate Empties.step start (bound 1 0)
    have run : (withLimits 1 0).pushAll (emptyAppend :: List.replicate (bound 1 0) emptyAppend) =
        .ok final := by
      rw [pushAll, pushed]
      exact rest
    have atMost := bounded 1 0 _ final run
    have atLeast : _ ≤ final.retained :=
      (count_replicate _ _).trans (le_sum_of_lookup last.list footprint)
    omega
  · rintro ⟨bound, bounded⟩
    obtain ⟨first, pushed, start⟩ := Drained.start
    obtain ⟨final, rest, last⟩ := pushAll_replicate Drained.step start (bound 2 4)
    have run : (withLimits 2 4).pushAll (drainingStart :: List.replicate (bound 2 4) drainingRound) =
        .ok final := by
      rw [pushAll, pushed]
      exact rest
    have filled : ∀ report ∈ drainingStart :: List.replicate (bound 2 4) drainingRound,
        ∀ item ∈ report.items, Filled item.value := by
      intro report member
      apply filled_draining
      obtain rfl | later := List.mem_cons.mp member
      · exact List.mem_cons_self
      · exact List.mem_cons_of_mem _ (List.mem_singleton.mpr (List.eq_of_mem_replicate later))
    have atMost := bounded 2 4 _ final filled run
    have atLeast : _ ≤ final.retained :=
      (count_replicate _ _).trans (le_sum_of_lookup last.list footprint)
    omega

end ReportAccumulator
end Matter.Interaction
