import Matter.Base.Runs
import Matter.Transport.Session

/-! Runs of a session manager, and the steps one session takes in them. Every
operation of the manager performs at most one act on a given session, so a run of
the manager is, seen from one session, a run of that session alone. -/
namespace Matter.Transport
open Crypto

inductive Act where
  | send (nextExchangeId : UInt16) (target : OutboundExchange) (message : Message) (now : Instant)
  | receive (packet : Bytes) (now : Instant)
  | timeout (now : Instant) (order : List MessageCounter)
  | endExchange (target : ExchangeTarget) (abort : Bool)
  | flush

inductive Outcome where
  | sent (result : Except Error EncodeOutboundOutput)
  | received (result : Except Error DecodeInboundOutput)
  | fired (events : List MrpEvent)

open Outcome

structure Step where
  before : Session
  act : Act
  outcome : Outcome
  after : Session

namespace Session
variable (aead : Aead) (id : SessionId)

def perform (s : Session) : Act → Outcome × Session
  | .send nextExchangeId target message now =>
    let encoded := s.encodeOn aead nextExchangeId target message now
    (.sent encoded.1, encoded.2)
  | .receive packet now =>
    match decodeHeader packet with
    | .error e => (.received (.error e), s)
    | .ok (header, rest) =>
      let decoded := s.receive aead packet header (packet.length - rest.length) now
      (.received decoded.1, decoded.2)
  | .timeout now order =>
    let timer := s.handleTimeout aead id now order
    (.fired timer.1, timer.2)
  | .endExchange target abort =>
    let ended := s.endExchange aead id target abort
    (.fired ended.1, ended.2)
  | .flush =>
    let flushed := s.flushAcks aead id
    (.fired flushed.1, flushed.2)

def step (s : Session) (act : Act) : Step :=
  ⟨s, act, (s.perform aead id act).1, (s.perform aead id act).2⟩

def run (s : Session) (acts : List Act) : Session :=
  Runs.run (fun s act => (s.step aead id act).after) s acts

def trace (s : Session) : List Act → List Step
  | [] => []
  | act :: acts => s.step aead id act :: (s.step aead id act).after.trace acts

variable {aead id} {s : Session}

theorem mem_trace {step : Step} (member : step ∈ s.trace aead id acts) :
    step = step.before.step aead id step.act := by
  induction acts generalizing s with
  | nil => cases member
  | cons act acts ih =>
    rcases List.mem_cons.mp member with rfl | later
    · rfl
    · exact ih later

theorem trace_split {step : Step} (split : s.trace aead id acts = pre ++ step :: post) :
    ∃ front act, pre = s.trace aead id front ∧ step = (s.run aead id front).step aead id act := by
  induction acts generalizing s pre with
  | nil => simp [trace] at split
  | cons act acts ih =>
    cases pre with
    | nil =>
      obtain ⟨rfl, _⟩ := List.cons.inj split
      exact ⟨[], act, rfl, rfl⟩
    | cons first pre =>
      obtain ⟨rfl, later⟩ := List.cons.inj split
      obtain ⟨front, act', rfl, rfl⟩ := ih later
      exact ⟨act :: front, act', rfl, rfl⟩

end Session

inductive Operation where
  | encodeOutbound (sessionId : SessionId) (exchangeId : Option UInt16) (message : Message)
      (now : Instant)
  | encodeOutboundWithRole (sessionId : SessionId) (exchangeId : UInt16) (isLocalInitiator : Bool)
      (message : Message) (now : Instant)
  | decodeInbound (packet : Bytes) (now : Instant)
  | handleTimeout (now : Instant) (sessionOrder : List SessionId)
      (order : SessionId → List MessageCounter)
  | finishExchange (sessionId : SessionId) (exchangeId : UInt16)
  | finishExchangeWithRole (sessionId : SessionId) (exchangeId : UInt16) (isLocalInitiator : Bool)
  | abortExchange (sessionId : SessionId) (exchangeId : UInt16)
  | abortExchangeWithRole (sessionId : SessionId) (exchangeId : UInt16) (isLocalInitiator : Bool)
  | flushSessionAcks (sessionId : SessionId)
  | flushPendingAcks

def outboundTarget : Option UInt16 → OutboundExchange
  | none => .new
  | some id => .byId id

/-- The act an operation performs on session `id`, if that session is registered. -/
def Operation.actOn (id : SessionId) (nextExchangeId : UInt16) : Operation → Option Act
  | .encodeOutbound sessionId exchangeId message now =>
    if sessionId = id then some (.send nextExchangeId (outboundTarget exchangeId) message now)
    else none
  | .encodeOutboundWithRole sessionId exchangeId isLocalInitiator message now =>
    if sessionId = id then
      some (.send nextExchangeId (.exact ⟨exchangeId, isLocalInitiator⟩) message now)
    else none
  | .decodeInbound packet now =>
    match decodeHeader packet with
    | .error _ => none
    | .ok (header, _) => if header.sessionId = id then some (.receive packet now) else none
  | .handleTimeout now _ order => some (.timeout now (order id))
  | .finishExchange sessionId exchangeId =>
    if sessionId = id then some (.endExchange (.byId exchangeId) false) else none
  | .finishExchangeWithRole sessionId exchangeId isLocalInitiator =>
    if sessionId = id then some (.endExchange (.exact ⟨exchangeId, isLocalInitiator⟩) false) else none
  | .abortExchange sessionId exchangeId =>
    if sessionId = id then some (.endExchange (.byId exchangeId) true) else none
  | .abortExchangeWithRole sessionId exchangeId isLocalInitiator =>
    if sessionId = id then some (.endExchange (.exact ⟨exchangeId, isLocalInitiator⟩) true) else none
  | .flushSessionAcks sessionId => if sessionId = id then some .flush else none
  | .flushPendingAcks => some .flush

/-- The part of an outcome that concerns one session. -/
def Outcome.about (id : SessionId) : Outcome → Outcome
  | .fired events => .fired (events.filter (·.sessionId = id))
  | outcome => outcome

/-- The outcome of a call that sends, with the state it leaves. -/
def Outcome.ofSent (result : Except Error EncodeOutboundOutput × SessionManager) :
    Outcome × SessionManager :=
  (.sent result.1, result.2)

/-- The outcome of a call that reports events, with the state it leaves. -/
def Outcome.ofFired (result : List MrpEvent × SessionManager) : Outcome × SessionManager :=
  (.fired result.1, result.2)

namespace SessionManager
variable (aead : Aead) (id : SessionId)

def perform (m : SessionManager) : Operation → Outcome × SessionManager
  | .encodeOutbound sessionId exchangeId message now =>
    Outcome.ofSent (m.encodeOutbound aead sessionId exchangeId message now)
  | .encodeOutboundWithRole sessionId exchangeId isLocalInitiator message now =>
    Outcome.ofSent (m.encodeOutboundWithRole aead sessionId exchangeId isLocalInitiator message now)
  | .decodeInbound packet now =>
    let decoded := m.decodeInbound aead packet now
    (.received decoded.1, decoded.2)
  | .handleTimeout now sessionOrder order => Outcome.ofFired (m.handleTimeout aead now sessionOrder order)
  | .finishExchange sessionId exchangeId => Outcome.ofFired (m.finishExchange aead sessionId exchangeId)
  | .finishExchangeWithRole sessionId exchangeId isLocalInitiator =>
    Outcome.ofFired (m.finishExchangeWithRole aead sessionId exchangeId isLocalInitiator)
  | .abortExchange sessionId exchangeId => Outcome.ofFired (m.abortExchange aead sessionId exchangeId)
  | .abortExchangeWithRole sessionId exchangeId isLocalInitiator =>
    Outcome.ofFired (m.abortExchangeWithRole aead sessionId exchangeId isLocalInitiator)
  | .flushSessionAcks sessionId => Outcome.ofFired (m.flushSessionAcks aead sessionId)
  | .flushPendingAcks => Outcome.ofFired (m.flushPendingAcks aead)

/-- The manager after one operation. -/
def next (m : SessionManager) (op : Operation) : SessionManager := (m.perform aead op).2

def run (m : SessionManager) (ops : List Operation) : SessionManager := Runs.run (next aead) m ops

def acts (m : SessionManager) : List Operation → List Act
  | [] => []
  | op :: ops => (op.actOn id m.nextExchangeId).toList ++ (m.next aead op).acts ops

def trace (m : SessionManager) : List Operation → List Step
  | [] => []
  | op :: ops =>
    match m.sessions.lookup id, op.actOn id m.nextExchangeId, (m.next aead op).sessions.lookup id with
    | some before, some act, some after =>
      ⟨before, act, (m.perform aead op).1.about id, after⟩ :: (m.next aead op).trace ops
    | _, _, _ => (m.next aead op).trace ops

end SessionManager

section Projection
variable {aead : Aead} {id sessionId : SessionId} {s : Session} {m : SessionManager}

theorem Session.foldTimerEvent_sessionId (event : MrpTimerEvent) :
    ∀ e ∈ (s.foldTimerEvent aead sessionId event).1, e.sessionId = sessionId := by
  intro e member
  cases event with
  | retransmit | expired =>
    obtain rfl := Option.mem_some_iff.mp member
    rfl
  | standaloneAckDeadlineFired exchangeId ackCounter isLocalInitiator =>
    simp only [Session.foldTimerEvent] at member
    split at member
    · obtain rfl := Option.mem_some_iff.mp member
      rfl
    · obtain rfl := Option.mem_some_iff.mp member
      rfl
    · cases member

theorem Session.foldTimerEvents_sessionId (events : List MrpTimerEvent) :
    ∀ e ∈ (s.foldTimerEvents aead sessionId events).1, e.sessionId = sessionId := by
  induction events generalizing s with
  | nil =>
    intro e member
    cases member
  | cons event rest ih =>
    intro e member
    rcases List.mem_append.mp member with first | later
    · exact s.foldTimerEvent_sessionId event e (Option.mem_toList.mp first)
    · exact ih e later

theorem Outcome.about_fired (own : ∀ e ∈ events, e.sessionId = id) :
    (fired events).about id = .fired events := by
  simp only [about]
  congr
  apply List.filter_eq_self.mpr
  intro e member
  exact decide_eq_true (own e member)

namespace SessionManager

section Loop
variable {f : SessionId → Session → List MrpEvent × Session}

/-- A loop over other sessions does not concern this one. -/
theorem forSessions_other (own : ∀ k t, ∀ e ∈ (f k t).1, e.sessionId = k) (absent : id ∉ ids) :
    (m.forSessions f ids).2.sessions.lookup id = m.sessions.lookup id ∧
      (m.forSessions f ids).1.filter (·.sessionId = id) = [] := by
  induction ids generalizing m with
  | nil => exact ⟨rfl, rfl⟩
  | cons k rest ih =>
    obtain ⟨different, later⟩ := List.ne_and_not_mem_of_not_mem_cons absent
    simp only [forSessions]
    split
    · exact ih later
    · rename_i t found
      obtain ⟨same, nothing⟩ := ih later
      constructor
      · rw [same, AList.lookup_insert_ne different]
      · rw [List.filter_append, nothing, List.append_nil]
        apply List.filter_eq_nil_iff.mpr
        intro e member
        have named := own k t e member
        simp [named, Ne.symm different]

/-- A loop over distinct sessions handles each of them once. -/
theorem forSessions_session (own : ∀ k t, ∀ e ∈ (f k t).1, e.sessionId = k) (distinct : ids.Nodup)
    (listed : id ∈ ids) (found : m.sessions.lookup id = some s) :
    (m.forSessions f ids).2.sessions.lookup id = some (f id s).2 ∧
      (m.forSessions f ids).1.filter (·.sessionId = id) = (f id s).1 := by
  induction ids generalizing m with
  | nil => cases listed
  | cons k rest ih =>
    obtain ⟨absent, later⟩ := List.nodup_cons.mp distinct
    simp only [forSessions]
    rcases List.mem_cons.mp listed with rfl | inside
    · rw [found]
      obtain ⟨same, nothing⟩ := forSessions_other own absent
        (m := { m with sessions := m.sessions.insert id (f id s).2 })
      constructor
      · rw [same, AList.lookup_insert]
      · rw [List.filter_append, nothing, List.append_nil]
        apply List.filter_eq_self.mpr
        intro e member
        exact decide_eq_true (own id s e member)
    · have different : id ≠ k := by
        rintro rfl
        exact absent inside
      split
      · exact ih later inside found
      · rename_i t other
        have kept : (m.sessions.insert k (f k t).2).lookup id = some s := by
          rw [AList.lookup_insert_ne different, found]
        obtain ⟨after, events⟩ := ih later inside kept
          (m := { m with sessions := m.sessions.insert k (f k t).2 })
        refine ⟨after, ?_⟩
        have skipped : (f k t).1.filter (·.sessionId = id) = [] := by
          apply List.filter_eq_nil_iff.mpr
          intro e member
          have named := own k t e member
          simp [named, Ne.symm different]
        rw [List.filter_append, skipped, events, List.nil_append]

end Loop

/-- What an operation does to a registered session: the act addressed to it, with
the outcome the caller sees, or nothing. -/
inductive Projects (aead : Aead) (id : SessionId) (m : SessionManager) (s : Session)
    (op : Operation) : Prop where
  | acts (act : Act) (addressed : op.actOn id m.nextExchangeId = some act)
      (after : (m.next aead op).sessions.lookup id = some (s.perform aead id act).2)
      (outcome : (m.perform aead op).1.about id = (s.perform aead id act).1)
  | keeps (ignored : op.actOn id m.nextExchangeId = none)
      (after : (m.next aead op).sessions.lookup id = some s)

section
variable (found : m.sessions.lookup id = some s)
include found

theorem projects_encodeOn (target : OutboundExchange) (message : Message) (now : Instant)
    (performs : m.perform aead op = ofSent (m.encodeOn aead sessionId target message now))
    (acts : op.actOn id m.nextExchangeId =
      if sessionId = id then some (.send m.nextExchangeId target message now) else none) :
    Projects aead id m s op := by
  by_cases same : sessionId = id
  · subst same
    rw [if_pos rfl] at acts
    apply Projects.acts _ acts
    · rw [next, performs, ofSent, encodeOn, found]
      exact AList.lookup_insert _
    · rw [performs, ofSent, encodeOn, found]
      rfl
  · rw [if_neg same] at acts
    apply Projects.keeps acts
    rw [next, performs, ofSent, encodeOn]
    split
    · exact found
    · rw [AList.lookup_insert_ne (Ne.symm same), found]

theorem projects_decodeInbound (packet : Bytes) (now : Instant) :
    Projects aead id m s (.decodeInbound packet now) := by
  cases decoded : decodeHeader packet with
  | error e =>
    apply Projects.keeps
    · simp [Operation.actOn, decoded]
    · simp [next, perform, decodeInbound, decoded, found]
  | ok parsed =>
    obtain ⟨header, rest⟩ := parsed
    by_cases same : header.sessionId = id
    · subst same
      apply Projects.acts (.receive packet now)
      · simp [Operation.actOn, decoded]
      · simp [next, perform, decodeInbound, decoded, found, Session.perform]
      · simp [perform, decodeInbound, decoded, found, Session.perform, about]
    · apply Projects.keeps
      · simp [Operation.actOn, decoded, if_neg same]
      · simp only [next, perform, decodeInbound, decoded]
        split
        · exact found
        · rw [AList.lookup_insert_ne (Ne.symm same), found]

theorem projects_endExchange (target : ExchangeTarget) (abort : Bool)
    (performs : m.perform aead op = ofFired (m.endExchange aead sessionId target abort))
    (acts : op.actOn id m.nextExchangeId =
      if sessionId = id then some (.endExchange target abort) else none) :
    Projects aead id m s op := by
  by_cases same : sessionId = id
  · subst same
    rw [if_pos rfl] at acts
    apply Projects.acts _ acts
    · rw [next, performs, ofFired, endExchange, found]
      exact AList.lookup_insert _
    · rw [performs, ofFired, endExchange, found]
      exact about_fired (Session.foldTimerEvents_sessionId _)
  · rw [if_neg same] at acts
    apply Projects.keeps acts
    rw [next, performs, ofFired, endExchange]
    split
    · exact found
    · rw [AList.lookup_insert_ne (Ne.symm same), found]

theorem projects_flushSessionAcks : Projects aead id m s (.flushSessionAcks sessionId) := by
  by_cases same : sessionId = id
  · subst same
    apply Projects.acts .flush
    · exact if_pos rfl
    · simp only [next, perform, ofFired, flushSessionAcks, found, AList.lookup_insert]
      rfl
    · simp only [perform, ofFired, flushSessionAcks, found]
      exact about_fired (Session.foldTimerEvents_sessionId _)
  · apply Projects.keeps
    · exact if_neg same
    · simp only [next, perform, ofFired, flushSessionAcks]
      split
      · exact found
      · rw [AList.lookup_insert_ne (Ne.symm same), found]

theorem projects_forSessions (act : Act) (ids : List SessionId)
    (own : ∀ k t, ∀ e ∈ (f k t).1, e.sessionId = k) (perm : ids.Perm m.sessions.keys)
    (performs : m.perform aead op = ofFired (m.forSessions f ids))
    (acts : op.actOn id m.nextExchangeId = some act)
    (agrees : s.perform aead id act = (.fired (f id s).1, (f id s).2)) :
    Projects aead id m s op := by
  have distinct : ids.Nodup := perm.nodup_iff.mpr m.sessions.keys_nodup
  have listed : id ∈ ids := by
    apply perm.mem_iff.mpr
    rw [← AList.mem_keys, ← AList.lookup_isSome, found]
    rfl
  obtain ⟨after, events⟩ := forSessions_session own distinct listed found
  apply Projects.acts act acts
  · rw [next, performs, agrees]
    exact after
  · rw [performs, agrees]
    simp [ofFired, about, events]

/-- Every operation acts on a registered session at most once. -/
theorem projects (op : Operation) : Projects aead id m s op := by
  cases op with
  | encodeOutbound sessionId exchangeId message now =>
    apply projects_encodeOn found (outboundTarget exchangeId) message now
    · cases exchangeId <;> rfl
    · rfl
  | encodeOutboundWithRole sessionId exchangeId isLocalInitiator message now =>
    exact projects_encodeOn found (.exact ⟨exchangeId, isLocalInitiator⟩) message now rfl rfl
  | decodeInbound packet now => exact projects_decodeInbound found packet now
  | handleTimeout now sessionOrder order =>
    exact projects_forSessions found (.timeout now (order id)) _
      (fun _ _ => Session.foldTimerEvents_sessionId _)
      (Table.arrange_perm m.sessions.keys_nodup) rfl rfl rfl
  | finishExchange sessionId exchangeId =>
    exact projects_endExchange found (.byId exchangeId) false rfl rfl
  | finishExchangeWithRole sessionId exchangeId isLocalInitiator =>
    exact projects_endExchange found (.exact ⟨exchangeId, isLocalInitiator⟩) false rfl rfl
  | abortExchange sessionId exchangeId =>
    exact projects_endExchange found (.byId exchangeId) true rfl rfl
  | abortExchangeWithRole sessionId exchangeId isLocalInitiator =>
    exact projects_endExchange found (.exact ⟨exchangeId, isLocalInitiator⟩) true rfl rfl
  | flushSessionAcks sessionId => exact projects_flushSessionAcks found
  | flushPendingAcks =>
    exact projects_forSessions found .flush _ (fun _ _ => Session.foldTimerEvents_sessionId _)
      (List.perm_insertionSort _ _) rfl rfl rfl

/-- The manager hands a packet to the session it is addressed to. -/
theorem decodeInbound_addressed (parsed : decodeHeader packet = .ok (header, rest))
    (addressed : header.sessionId = id) (now : Instant) :
    .received (m.decodeInbound aead packet now).1 = (s.perform aead id (.receive packet now)).1 ∧
      (m.decodeInbound aead packet now).2.sessions.lookup id =
        some (s.perform aead id (.receive packet now)).2 := by
  subst addressed
  simp [decodeInbound, parsed, found, Session.perform]

end

theorem lookup_register (m : SessionManager) (r : Registration) (draws : Draws) :
    (m.register r draws).sessions.lookup r.localId = some (m.freshSession r draws) :=
  AList.lookup_insert _

/-- A run of the manager is a run of each registered session. -/
theorem run_session (aead : Aead) (found : m.sessions.lookup id = some s) (ops : List Operation) :
    m.trace aead id ops = s.trace aead id (m.acts aead id ops) ∧
      (m.run aead ops).sessions.lookup id = some (s.run aead id (m.acts aead id ops)) := by
  induction ops generalizing m s with
  | nil => exact ⟨rfl, found⟩
  | cons op ops ih =>
    have projected : Projects aead id m s op := projects found op
    cases projected with
    | acts act addressed after outcome =>
      obtain ⟨traced, ran⟩ := ih after
      simp only [trace, acts, found, addressed, after, outcome, traced]
      exact ⟨rfl, ran⟩
    | keeps ignored after =>
      obtain ⟨traced, ran⟩ := ih after
      simp only [trace, acts, found, ignored, traced]
      exact ⟨rfl, ran⟩

/-- Every step of a session is taken by an operation of the run, in the state the
operation finds the session in. -/
theorem of_mem_trace (found : m.sessions.lookup id = some s) (member : step ∈ m.trace aead id ops) :
    ∃ pre op, pre ++ [op] <+: ops ∧
      (m.run aead pre).sessions.lookup id = some step.before ∧
      op.actOn id (m.run aead pre).nextExchangeId = some step.act ∧
      step = step.before.step aead id step.act := by
  induction ops generalizing m s with
  | nil => cases member
  | cons op ops ih =>
    have later : ∀ t, (m.next aead op).sessions.lookup id = some t →
        step ∈ (m.next aead op).trace aead id ops →
        ∃ pre op', pre ++ [op'] <+: op :: ops ∧
          (m.run aead pre).sessions.lookup id = some step.before ∧
          op'.actOn id (m.run aead pre).nextExchangeId = some step.act ∧
          step = step.before.step aead id step.act := by
      intro t after inside
      obtain ⟨pre, op', within, before, addressed, taken⟩ := ih after inside
      exact ⟨op :: pre, op', List.prefix_cons_inj op |>.mpr within, before, addressed, taken⟩
    have projected : Projects aead id m s op := projects found op
    cases projected with
    | acts act addressed after outcome =>
      simp only [trace, found, addressed, after, outcome] at member
      rcases List.mem_cons.mp member with rfl | inside
      · exact ⟨[], op, ⟨ops, rfl⟩, found, addressed, rfl⟩
      · exact later _ after inside
    | keeps ignored after =>
      simp only [trace, found, ignored] at member
      exact later s after member

end SessionManager
end Projection

end Matter.Transport
