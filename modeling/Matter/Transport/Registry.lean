import Matter.Transport.Flood

/-! The session table. Registering a session evicts at most one other, chosen idle
before busy and then by age. That keeps the table within its cap exactly as long as
the cap is not lowered below the number of sessions before a registration. -/
namespace Matter.Transport
open Crypto

/-- What can be done to a session manager. A session may be registered under any id. -/
inductive TableOperation where
  | register (r : Registration) (draws : Draws)
  | remove (id : SessionId)
  | setMaxSessions (maxSessions : Nat)
  | setTransportReliable (id : SessionId) (reliable : Bool)
  | traffic (op : Operation)

def TableOperation.isRegistration : TableOperation → Bool
  | .register .. => true
  | _ => false

namespace SessionManager

def sessionCount (m : SessionManager) : Nat := m.sessions.keys.length

/-- The table must hold at least the session being registered. -/
def setMaxSessions (m : SessionManager) (maxSessions : Nat) : SessionManager :=
  { m with maxSessions := max maxSessions 1 }

def remove (m : SessionManager) (id : SessionId) : Option Session × SessionManager :=
  (m.sessions.lookup id, { m with sessions := m.sessions.erase id })

def change (aead : Aead) (m : SessionManager) : TableOperation → SessionManager
  | .register r draws => m.register r draws
  | .remove id => (m.remove id).2
  | .setMaxSessions maxSessions => m.setMaxSessions maxSessions
  | .setTransportReliable id reliable => (m.setTransportReliable id reliable).2
  | .traffic op => m.next aead op

variable {aead : Aead} {m : SessionManager} {id : SessionId} {s : Session}

structure SameSize (m n : SessionManager) : Prop where
  maxSessions : n.maxSessions = m.maxSessions
  sessionCount : n.sessionCount = m.sessionCount

theorem SameSize.refl (m : SessionManager) : SameSize m m := ⟨rfl, rfl⟩

theorem SameSize.trans (first : SameSize m n) (second : SameSize n o) :
    SameSize m o :=
  ⟨second.maxSessions.trans first.maxSessions, second.sessionCount.trans first.sessionCount⟩

theorem SameSize.stored (found : m.sessions.lookup id = some s) (t : Session) (nextId : UInt16) :
    SameSize m { m with sessions := m.sessions.insert id t, nextExchangeId := nextId } := by
  refine ⟨rfl, ?_⟩
  simp only [SessionManager.sessionCount]
  rw [Table.length_keys_insert, if_pos (Table.mem_of_lookup found)]

theorem forSessions_sameSize (f : SessionId → Session → List MrpEvent × Session)
    (ids : List SessionId) : SameSize m (m.forSessions f ids).2 := by
  induction ids generalizing m with
  | nil => exact .refl m
  | cons id ids ih =>
    simp only [forSessions]
    split
    · exact ih
    · rename_i session found
      exact (SameSize.stored found _ _).trans ih

theorem encodeOn_sameSize (sessionId : SessionId) (target : OutboundExchange) (message : Message)
    (now : Instant) : SameSize m (m.encodeOn aead sessionId target message now).2 := by
  simp only [encodeOn]
  split
  · exact .refl m
  · rename_i session found
    exact .stored found _ _

theorem endExchange_sameSize (sessionId : SessionId) (target : ExchangeTarget) (abort : Bool) :
    SameSize m (m.endExchange aead sessionId target abort).2 := by
  simp only [endExchange]
  split
  · exact .refl m
  · rename_i session found
    exact .stored found _ _

theorem next_sameSize (aead : Aead) (m : SessionManager) (op : Operation) :
    SameSize m (m.next aead op) := by
  cases op with
  | encodeOutbound | encodeOutboundWithRole => exact encodeOn_sameSize _ _ _ _
  | decodeInbound packet now =>
    simp only [next, perform, decodeInbound]
    split
    · exact .refl m
    · split
      · exact .refl m
      · rename_i session found
        exact .stored found _ _
  | handleTimeout | flushPendingAcks => exact forSessions_sameSize _ _
  | finishExchange | finishExchangeWithRole | abortExchange
  | abortExchangeWithRole => exact endExchange_sameSize _ _ _
  | flushSessionAcks sessionId =>
    simp only [next, perform, Outcome.ofFired, flushSessionAcks]
    split
    · exact .refl m
    · rename_i session found
      exact .stored found _ _

theorem change_positive (aead : Aead) (m : SessionManager) (op : TableOperation)
    (positive : 0 < m.maxSessions) : 0 < (m.change aead op).maxSessions := by
  cases op with
  | register | remove => exact positive
  | setMaxSessions maxSessions => exact Nat.lt_of_lt_of_le Nat.one_pos (Nat.le_max_right _ _)
  | setTransportReliable id reliable =>
    simp only [change, setTransportReliable]
    split <;> exact positive
  | traffic op =>
    rw [change, (next_sameSize aead m op).maxSessions]
    exact positive

def evictionKey (s : Session) : Bool ×ₗ Nat := toLex (s.mrp.hasPending, s.createdSeq.toNat)

theorem victim_eq_none : m.victim = none ↔ m.sessionCount = 0 := by
  simp [victim, sessionCount, AList.keys, List.keys]

theorem of_victim {victim : SessionId} (chosen : m.victim = some victim) :
    ∃ s, m.sessions.lookup victim = some s ∧
      ∀ id t, m.sessions.lookup id = some t → evictionKey s ≤ evictionKey t := by
  obtain ⟨⟨id, s⟩, least, rfl⟩ := Option.map_eq_some_iff.mp chosen
  refine ⟨s, Table.lookup_eq_some.mpr (List.argmin_mem least), fun id' t found => ?_⟩
  have le := List.le_of_mem_argmin (Table.lookup_eq_some.mp found) least
  exact le

theorem evictionKey_le (le : evictionKey s ≤ evictionKey t) :
    (s.mrp.hasPending = true → t.mrp.hasPending = true) ∧
      (t.mrp.hasPending = s.mrp.hasPending → s.createdSeq ≤ t.createdSeq) := by
  rw [evictionKey, evictionKey, Prod.Lex.toLex_le_toLex] at le
  rcases le with idle | ⟨same, older⟩
  · obtain ⟨mine, theirs⟩ := Bool.lt_iff.mp idle
    simp only at mine theirs
    simp [mine, theirs]
  · exact ⟨fun busy => same.symm.trans busy, fun _ => UInt64.le_iff_toNat_le.mpr older⟩

/-- What a registration does to the other sessions: nothing, or it evicts one. -/
inductive Registers (m : SessionManager) (r : Registration) (draws : Draws) : Prop where
  | keeps (spared : r.localId ∈ m.sessions ∨ m.sessionCount < m.maxSessions ∨ m.sessionCount = 0)
      (after : (m.register r draws).sessions =
        m.sessions.insert r.localId (m.freshSession r draws))
  | evicts (victim : SessionId) (s : Session) (new : r.localId ∉ m.sessions)
      (full : m.maxSessions ≤ m.sessionCount) (found : m.sessions.lookup victim = some s)
      (least : ∀ id t, m.sessions.lookup id = some t → evictionKey s ≤ evictionKey t)
      (after : (m.register r draws).sessions =
        (m.sessions.erase victim).insert r.localId (m.freshSession r draws))

theorem registers (m : SessionManager) (r : Registration) (draws : Draws) :
    Registers m r draws := by
  by_cases crowded : m.sessions.keys.length ≥ m.maxSessions ∧ r.localId ∉ m.sessions
  · cases chosen : m.victim with
    | none =>
      apply Registers.keeps (Or.inr (Or.inr (victim_eq_none.mp chosen)))
      simp [register, chosen]
    | some victim =>
      obtain ⟨s, found, least⟩ := of_victim chosen
      apply Registers.evicts victim s crowded.2 crowded.1 found least
      simp [register, if_pos crowded, chosen]
  · have spared : r.localId ∈ m.sessions ∨ m.sessionCount < m.maxSessions := by
      by_cases known : r.localId ∈ m.sessions
      · exact Or.inl known
      · exact Or.inr (Nat.lt_of_not_ge fun full => crowded ⟨full, known⟩)
    apply Registers.keeps (spared.imp_right Or.inl)
    simp [register, if_neg crowded]

/-- A registration leaves the table within its cap exactly if it found it so. -/
theorem sessionCount_register (positive : 0 < m.maxSessions) (r : Registration) (draws : Draws) :
    (m.register r draws).sessionCount ≤ m.maxSessions ↔ m.sessionCount ≤ m.maxSessions := by
  cases m.registers r draws with
  | keeps spared after =>
    simp only [sessionCount, after, Table.length_keys_insert] at spared ⊢
    split
    · rfl
    · rename_i new
      rcases spared with known | room | empty
      · exact absurd known new
      · omega
      · omega
  | evicts victim s new full found least after =>
    have gone : r.localId ∉ m.sessions.erase victim := fun kept => new (AList.mem_erase.mp kept).2
    have held := List.length_pos_of_mem (AList.mem_keys.mp (Table.mem_of_lookup found))
    simp only [sessionCount, after, Table.length_keys_insert, if_neg gone, Table.length_keys_erase,
      if_pos (Table.mem_of_lookup found)] at full ⊢
    rw [Nat.sub_add_cancel held]

/-- With room in the table, or for an id that is taken, no other session is touched. -/
theorem register_spares (draws : Draws)
    (spared : r.localId ∈ m.sessions ∨ m.sessionCount < m.maxSessions) (id : SessionId)
    (other : id ≠ r.localId) : (m.register r draws).sessions.lookup id = m.sessions.lookup id := by
  cases m.registers r draws with
  | keeps _ after => rw [after, AList.lookup_insert_ne other]
  | evicts victim s new full =>
    rcases spared with known | room
    · exact absurd known new
    · omega

/-- In a full table a new id takes the place of the first session in eviction order. -/
theorem register_evicts (positive : 0 < m.maxSessions) (draws : Draws)
    (new : r.localId ∉ m.sessions) (full : m.maxSessions ≤ m.sessionCount) :
    ∃ victim s, victim ≠ r.localId ∧ m.sessions.lookup victim = some s ∧
      (∀ id, id ≠ r.localId → (m.register r draws).sessions.lookup id =
        if id = victim then none else m.sessions.lookup id) ∧
      ∀ id t, m.sessions.lookup id = some t →
        (s.mrp.hasPending = true → t.mrp.hasPending = true) ∧
        (t.mrp.hasPending = s.mrp.hasPending → s.createdSeq ≤ t.createdSeq) := by
  cases m.registers r draws with
  | keeps spared =>
    rcases spared with known | room | empty
    · exact absurd known new
    · omega
    · omega
  | evicts victim s _ _ found least after =>
    refine ⟨victim, s, ?_, found, ?_, fun id t held => evictionKey_le (least id t held)⟩
    · rintro rfl
      exact new (Table.mem_of_lookup found)
    · intro id other
      rw [after, AList.lookup_insert_ne other]
      split
      · rename_i same
        rw [same, AList.lookup_erase]
      · rename_i different
        exact AList.lookup_erase_ne different

/-- The cap is not lowered below the number of sessions. -/
def Raises (m : SessionManager) : TableOperation → Prop
  | .setMaxSessions maxSessions => m.sessionCount ≤ max maxSessions 1
  | _ => True

/-- As long as the cap is never lowered below it, the number of sessions is within the
cap. -/
theorem change_within (aead : Aead) (m : SessionManager) (op : TableOperation)
    (within : 0 < m.maxSessions ∧ m.sessionCount ≤ m.maxSessions) (raises : m.Raises op) :
    0 < (m.change aead op).maxSessions ∧
      (m.change aead op).sessionCount ≤ (m.change aead op).maxSessions := by
  refine ⟨change_positive aead m op within.1, ?_⟩
  cases op with
  | register r draws => exact (sessionCount_register within.1 r draws).mpr within.2
  | remove id =>
    simp only [change, remove, sessionCount, Table.length_keys_erase]
    have bound : m.sessions.keys.length ≤ m.maxSessions := within.2
    split <;> omega
  | setMaxSessions maxSessions => exact raises
  | setTransportReliable id reliable =>
    simp only [change, setTransportReliable]
    split
    · exact within.2
    · rename_i session found
      rw [(SameSize.stored found _ m.nextExchangeId).sessionCount]
      exact within.2
  | traffic op =>
    have same := next_sameSize aead m op
    rw [change, same.maxSessions, same.sessionCount]
    exact within.2

end SessionManager

open SessionManager

/-- After a registration the number of sessions is within the cap exactly if it was
before, which holds whenever the cap is not lowered below the number of sessions.
Another session is evicted only for a new id in a full table: one without pending work
if there is one, and the oldest of those. -/
theorem session_table_bounded (aead : Aead) (seed : UInt16) (ops : List TableOperation) :
    let start := new seed
    let step := change aead
    (Runs.EveryStep step (fun m op => op.isRegistration = true →
        (step m op).sessionCount ≤ (step m op).maxSessions) start ops ↔
      Runs.EveryStep step (fun m op => op.isRegistration = true →
        m.sessionCount ≤ m.maxSessions) start ops) ∧
    (Runs.EveryStep step SessionManager.Raises start ops →
      Runs.EveryState step (fun m => m.sessionCount ≤ m.maxSessions) start ops) ∧
    Runs.EveryState step (fun m => ∀ r draws,
      let after := m.register r draws
      after.sessions.lookup r.localId = some (m.freshSession r draws) ∧
      ((r.localId ∈ m.sessions ∨ m.sessionCount < m.maxSessions) →
        ∀ id, id ≠ r.localId → after.sessions.lookup id = m.sessions.lookup id) ∧
      (r.localId ∉ m.sessions → m.maxSessions ≤ m.sessionCount →
        ∃ victim s, victim ≠ r.localId ∧ m.sessions.lookup victim = some s ∧
          (∀ id, id ≠ r.localId → after.sessions.lookup id =
            if id = victim then none else m.sessions.lookup id) ∧
          ∀ id t, m.sessions.lookup id = some t →
            (s.mrp.hasPending = true → t.mrp.hasPending = true) ∧
            (t.mrp.hasPending = s.mrp.hasPending → s.createdSeq ≤ t.createdSeq))) start ops := by
  intro start step
  have positive : ∀ pre, 0 < (Runs.run step start pre).maxSessions :=
    Runs.invariant (change_positive aead) (Nat.succ_pos 255)
  refine ⟨?_, ?_, ?_⟩
  · have exactly : ∀ pre op, (op.isRegistration = true →
        (step (Runs.run step start pre) op).sessionCount ≤
          (step (Runs.run step start pre) op).maxSessions) ↔
        (op.isRegistration = true →
          (Runs.run step start pre).sessionCount ≤ (Runs.run step start pre).maxSessions) := by
      intro pre op
      cases op with
      | register r draws =>
        exact imp_congr_right fun _ => sessionCount_register (positive pre) r draws
      | remove | setMaxSessions | setTransportReliable | traffic =>
        exact imp_congr_right fun registration => by cases registration
    exact forall_congr' fun pre => forall_congr' fun op => imp_congr_right fun _ => exactly pre op
  · intro raises
    have first : 0 < start.maxSessions ∧ start.sessionCount ≤ start.maxSessions :=
      ⟨Nat.succ_pos 255, Nat.zero_le 256⟩
    have within := Runs.everyState_of_guard (change_within aead) first raises
    exact within.imp fun _ => And.right
  · intro pre _ r draws
    exact ⟨lookup_register _ r draws, register_spares draws,
      register_evicts (positive pre) draws⟩

/-- With three sessions registered, the cap is lowered to one and a fourth is
registered. -/
theorem lowered_cap_exceeded :
    let m := (((new 0).register { pairing with localId := 1 } pairingDraws).register
      { pairing with localId := 2 } pairingDraws).register { pairing with localId := 3 } pairingDraws
    let after := (m.setMaxSessions 1).register { pairing with localId := 4 } pairingDraws
    after.sessionCount = 3 ∧ after.maxSessions = 1 := by
  decide

end Matter.Transport
