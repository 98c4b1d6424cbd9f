import Mathlib.Data.List.DropRight
import Matter.Base.Runs
import Matter.Interaction.Ceiling

/-! The notifications of a subscription, put together from chunks. A notification
that grows beyond a cap is dropped in the middle, and nothing remembers that it was:
its last chunk is delivered as if it were all of it. -/
namespace Matter.Controller
open Codec Interaction Runs ReportAccumulator

def maxSubChunks : Nat := 64

structure ReportReassembler where
  acc : ReportAccumulator := .new
  pendingChunks : Nat := 0

namespace ReportReassembler

def pushParsed (r : ReportReassembler) (rd : ReportData) :
    Option (List (AttributePath × Value)) × ReportReassembler :=
  match r.acc.push rd with
  | (_, .error _) => (none, {})
  | (acc, .ok ()) =>
    if !rd.moreChunkedMessages then (some acc.finish, {})
    else if r.pendingChunks + 1 > maxSubChunks then (none, {})
    else (none, { acc, pendingChunks := r.pendingChunks + 1 })

def after (chunks : List ReportData) : ReportReassembler :=
  run (fun r rd => (r.pushParsed rd).2) {} chunks

end ReportReassembler

/-! What a notification is, without the reassembler. -/

/-- The chunks since the last final one. -/
def openNotification (chunks : List ReportData) : List ReportData :=
  chunks.rtakeWhile (·.moreChunkedMessages)

/-- The merge of all chunks, unless they exceed the ceiling. -/
def merged (chunks : List ReportData) : Option (List (AttributePath × Value)) :=
  (ReportAccumulator.new.pushAll chunks).toOption.map ReportAccumulator.finish

/-- What the final chunk `last` completes the notification to. -/
def completed (notification : List ReportData) (last : ReportData) :
    Option (List (AttributePath × Value)) :=
  if notification.length ≤ maxSubChunks then merged (notification ++ [last]) else none

structure Within (notification : List ReportData) : Prop where
  chunks : notification.length ≤ maxSubChunks
  size : ∃ acc, ReportAccumulator.new.pushAll notification = .ok acc

theorem pushAll_concat (acc : ReportAccumulator) (chunks : List ReportData) (last : ReportData) :
    acc.pushAll (chunks ++ [last]) = (do
      let before ← acc.pushAll chunks
      before.pushAll [last]) := by
  induction chunks generalizing acc with
  | nil => rfl
  | cons chunk rest ih =>
    rw [List.cons_append, pushAll, pushAll]
    rcases acc.push chunk with ⟨next, _ | _⟩
    · rfl
    · exact ih next

theorem Within.of_concat (within : Within (notification ++ [last])) : Within notification := by
  obtain ⟨chunks, acc, size⟩ := within
  rw [List.length_append, List.length_singleton] at chunks
  rw [pushAll_concat] at size
  obtain ⟨before, ran, -⟩ := Exits.of_bind_ok size
  exact ⟨by omega, before, ran⟩

namespace ReportReassembler

structure Keeps (notification : List ReportData) (r : ReportReassembler) : Prop where
  acc : ReportAccumulator.new.pushAll notification = .ok r.acc
  pendingChunks : r.pendingChunks = notification.length

theorem keeps_nil : Keeps [] {} := ⟨rfl, rfl⟩

/-- The final chunk clears the reassembler, whatever comes of it. -/
theorem pushParsed_final (r : ReportReassembler) (final : rd.moreChunkedMessages = false) :
    (r.pushParsed rd).2 = {} := by
  rw [pushParsed, final]
  rcases r.acc.push rd with ⟨acc, _ | _⟩ <;> rfl

theorem Keeps.pushAll_concat (keeps : Keeps notification r) (last : ReportData) :
    new.pushAll (notification ++ [last]) = r.acc.pushAll [last] := by
  rw [Controller.pushAll_concat, keeps.acc]
  rfl

theorem Keeps.pushParsed (keeps : Keeps notification r) (more : rd.moreChunkedMessages = true)
    (within : Within (notification ++ [rd])) :
    Keeps (notification ++ [rd]) (r.pushParsed rd).2 := by
  obtain ⟨chunks, acc, size⟩ := within
  have count : (notification ++ [rd]).length = r.pendingChunks + 1 := by
    rw [List.length_append, List.length_singleton, keeps.pendingChunks]
  have room : ¬ r.pendingChunks + 1 > maxSubChunks := by omega
  rw [keeps.pushAll_concat, pushAll] at size
  rw [ReportReassembler.pushParsed, more]
  cases pushed : r.acc.push rd with
  | mk next result =>
    rw [pushed] at size
    cases result with
    | error e => cases size
    | ok =>
      dsimp only
      rw [if_neg (show ¬ (!true) = true from Bool.false_ne_true), if_neg room]
      refine ⟨?_, count.symm⟩
      rw [keeps.pushAll_concat, pushAll, pushed]
      rfl

theorem keeps_after (within : Within (openNotification chunks)) :
    Keeps (openNotification chunks) (after chunks) := by
  induction chunks using List.reverseRecOn with
  | nil => exact keeps_nil
  | append_singleton chunks rd ih =>
    rw [after, run_concat]
    cases more : rd.moreChunkedMessages with
    | false =>
      rw [pushParsed_final _ more, openNotification, List.rtakeWhile_concat_neg _ _ _ (by simp [more])]
      exact keeps_nil
    | true =>
      rw [openNotification, List.rtakeWhile_concat_pos _ _ _ more] at within ⊢
      exact (ih within.of_concat).pushParsed more within

theorem Keeps.completed (keeps : Keeps notification r) (chunks : notification.length ≤ maxSubChunks)
    (final : last.moreChunkedMessages = false) :
    (r.pushParsed last).1 = completed notification last := by
  rw [Controller.completed, if_pos chunks, merged, keeps.pushAll_concat, pushAll,
    ReportReassembler.pushParsed, final]
  rcases r.acc.push last with ⟨next, _ | _⟩ <;> rfl

theorem completed_of_not_within (exceeds : ¬ Within notification) (last : ReportData) :
    Controller.completed notification last = none := by
  unfold Controller.completed
  split
  · rename_i chunks
    rw [merged, Controller.pushAll_concat]
    cases size : new.pushAll notification with
    | error e => rfl
    | ok acc => exact absurd ⟨chunks, acc, size⟩ exceeds
  · rfl

/-- There is room for a value without bytes. -/
structure Ready (acc : ReportAccumulator) : Prop where
  held : ∀ path ∈ acc.order, (acc.slots.lookup path.key).isSome
  counted : acc.bytes ≤ acc.maxBytes
  space : 0 < acc.maxElements

theorem charged_le (acc : ReportAccumulator) (item : AttributeReportItem) (held : Option Value) :
    acc.charged item held ≤ saturatingAdd acc.bytes (estimateValueBytes item.value) := by
  unfold charged saturatingAdd
  split <;> omega

theorem Ready.pushItem {acc : ReportAccumulator} (ready : Ready acc)
    (pushed : acc.pushItem item = .ok next) : Ready next := by
  obtain ⟨held, counted, space⟩ := ready
  have written : ∀ slot path, path ∈ acc.order ∨ path = item.path →
      ((acc.slots.insert item.path.key slot).lookup path.key).isSome := by
    intro slot path seen
    by_cases same : path.key = item.path.key
    · rw [same, AList.lookup_insert]
      rfl
    · rw [AList.lookup_insert_ne same]
      exact held path (seen.resolve_right fun equal => same (congrArg _ equal))
  have merges := acc.pushItem_cases item
  rw [pushed] at merges
  cases merges with
  | stale => exact ⟨held, counted, space⟩
  | updated slot room =>
    exact ⟨fun path seen => written _ path (.inl seen), (charged_le ..).trans room, space⟩
  | admitted room =>
    refine ⟨fun path seen => written _ path ?_, (charged_le ..).trans room, space⟩
    simpa using seen

theorem ready_after (chunks : List ReportData) : Ready (after chunks).acc := by
  have fresh : Ready ReportAccumulator.new := ⟨nofun, Nat.zero_le _, by decide⟩
  refine invariant (P := fun r : ReportReassembler => Ready r.acc) (fun r rd ready => ?_) fresh chunks
  have pushed : Ready (r.acc.push rd).1 :=
    push_invariant (fun _ _ _ ready (_ : True) => ready.pushItem) ready fun _ _ _ _ _ => trivial
  unfold pushParsed
  split
  · exact fresh
  · rename_i next merged
    rw [merged] at pushed
    split
    · exact fresh
    · split
      · exact fresh
      · exact pushed

def closing (path : AttributePath) : ReportData := { items := [⟨path, .replace, emptyText, none⟩] }

theorem Ready.closes {r : ReportReassembler} (ready : Ready r.acc) :
    ∃ path values, (r.pushParsed (closing path)).1 = some values := by
  obtain ⟨path, placed⟩ : ∃ path : AttributePath,
      r.acc.slots.lookup path.key = none → r.acc.order.length < r.acc.maxElements := by
    cases order : r.acc.order with
    | nil => exact ⟨⟨0, 0, 0⟩, fun _ => ready.space⟩
    | cons path rest =>
      have held := ready.held path (order ▸ List.mem_cons_self)
      exact ⟨path, fun vacant => by simp [vacant] at held⟩
  have merges := r.acc.pushItem_cases ⟨path, .replace, emptyText, none⟩
  refine ⟨path, ?_⟩
  simp only [pushParsed, push, closing, pushItems]
  generalize r.acc.pushItem ⟨path, .replace, emptyText, none⟩ = result at merges
  cases merges with
  | exceeding exceeds =>
    have counted := ready.counted
    have blank : estimateValueBytes emptyText = 0 := by decide
    simp only [saturatingAdd, blank] at exceeds
    omega
  | crowded vacant full => exact absurd (placed vacant) (Nat.not_lt.mpr full)
  | stale | updated | admitted => exact ⟨_, rfl⟩

/-- The next notification to be completed is delivered whole or not at all exactly if it has
been within the caps so far. Final chunks that carry a value are enough to tell. -/
theorem delivered_whole_iff (chunks : List ReportData) :
    ((∀ last : ReportData, last.moreChunkedMessages = false →
        ((after chunks).pushParsed last).1 = completed (openNotification chunks) last) ↔
      Within (openNotification chunks)) ∧
    ((∀ last : ReportData, last.moreChunkedMessages = false → last.items ≠ [] →
        ((after chunks).pushParsed last).1 = completed (openNotification chunks) last) ↔
      Within (openNotification chunks)) := by
  have whole (within : Within (openNotification chunks)) (last : ReportData)
      (final : last.moreChunkedMessages = false) :
      ((after chunks).pushParsed last).1 = completed (openNotification chunks) last :=
    (keeps_after within).completed within.chunks final
  have fits (carried : ∀ last : ReportData, last.moreChunkedMessages = false → last.items ≠ [] →
      ((after chunks).pushParsed last).1 = completed (openNotification chunks) last) :
      Within (openNotification chunks) := by
    by_contra exceeds
    obtain ⟨path, values, answered⟩ := (ready_after chunks).closes
    have delivered := carried (closing path) rfl (List.cons_ne_nil _ _)
    rw [answered, completed_of_not_within exceeds] at delivered
    cases delivered
  refine ⟨⟨fun every => fits fun last final _ => every last final, whole⟩, fits, ?_⟩
  exact fun within last final _ => whole within last final

def sampleChunk (entry : UInt64) (more : Bool) : ReportData where
  items := [⟨⟨0, 0x1f, 0⟩, .append, .uint entry, none⟩]
  moreChunkedMessages := more

def sampleChunks : List ReportData :=
  (List.range 65).map fun i => sampleChunk (UInt64.ofNat i) true

set_option maxRecDepth 4000 in
/-- Of a list sent in 66 chunks only the last entry is delivered. -/
theorem beginning_missing :
    completed (openNotification sampleChunks) (sampleChunk 65 false) = none ∧
      ((after sampleChunks).pushParsed (sampleChunk 65 false)).1 =
        some [(⟨0, 0x1f, 0⟩, .array [.uint 65])] := by
  constructor
  · rfl
  · rfl

end ReportReassembler

end Matter.Controller
