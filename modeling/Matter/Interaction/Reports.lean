import Matter.Interaction.Messages

/-! `ReportDataMessage`: the attribute reports, per-path statuses and events a
device returns for a read or a subscription. -/
namespace Matter.Interaction
open Codec TlvReader

/-- How a report merges into what has been received before. -/
inductive ReportOp where
  | replace
  | append
  deriving DecidableEq, Repr

structure AttributeReportItem where
  path : AttributePath
  op : ReportOp
  value : Value
  dataVersion : Option UInt32

structure EventPath where
  node : Option UInt64 := none
  endpoint : Option UInt16 := none
  cluster : Option UInt32 := none
  event : Option UInt32 := none
  isUrgent : Option Bool := none
  deriving DecidableEq, Repr

inductive EventPriority where
  | debug
  | info
  | critical
  | unknown (value : UInt8)
  deriving DecidableEq, Repr

def EventPriority.fromU8 (value : UInt8) : EventPriority :=
  if value = 0 then .debug
  else if value = 1 then .info
  else if value = 2 then .critical
  else .unknown value

inductive EventTimestamp where
  | epoch (millis : UInt64)
  | system (millis : UInt64)
  | deltaEpoch (millis : UInt64)
  | deltaSystem (millis : UInt64)
  | none
  deriving DecidableEq, Repr

structure EventReportItem where
  path : EventPath
  eventNumber : UInt64
  priority : EventPriority
  timestamp : EventTimestamp
  value : Value

inductive EventReport where
  | data (item : EventReportItem)
  | status (path : EventPath) (status : UInt8)

structure ReportData where
  items : List AttributeReportItem := []
  subscriptionId : Option UInt32 := none
  moreChunkedMessages : Bool := false
  suppressResponse : Bool := false
  events : List EventReport := []
  statuses : List (AttributePath × ImStatus) := []

def eventPathMember (path : EventPath) : ElementRef → ImM EventPath
  | .scalar (.context 0) (.uint n) => return { path with node := some n }
  | .scalar (.context 1) (.uint n) => return { path with endpoint := u16TryFrom n }
  | .scalar (.context 2) (.uint n) => return { path with cluster := u32TryFrom n }
  | .scalar (.context 3) (.uint n) => return { path with event := u32TryFrom n }
  | .scalar (.context 4) (.bool b) => return { path with isUrgent := some b }
  | element => skipMember path element

def eventPathFromReader : ImM EventPath := eachMember unclosed eventPathMember {}

structure EventDataFields where
  path : EventPath := {}
  eventNumber : UInt64 := 0
  priority : EventPriority := .unknown 0xff
  timestamp : EventTimestamp := .none
  value : Option Value := none

def eventDataMember (fields : EventDataFields) : ElementRef → ImM EventDataFields
  | .containerStart (.context 0) .list => do
    let path ← eventPathFromReader
    return { fields with path := path }
  | .scalar (.context 1) (.uint n) => return { fields with eventNumber := n }
  | .scalar (.context 2) (.uint n) =>
    return { fields with priority := .fromU8 ((u8TryFrom n).getD 0xff) }
  | .scalar (.context 3) (.uint n) => return { fields with timestamp := .epoch n }
  | .scalar (.context 4) (.uint n) => return { fields with timestamp := .system n }
  | .scalar (.context 5) (.uint n) => return { fields with timestamp := .deltaEpoch n }
  | .scalar (.context 6) (.uint n) => return { fields with timestamp := .deltaSystem n }
  | .scalar (.context 7) value => return { fields with value := some (.ofRef value) }
  | .containerStart (.context 7) kind => do
    let value ← readContainerValue kind
    return { fields with value := some value }
  | element => skipMember fields element

def parseEventData : ImM EventReportItem := do
  let fields ← eachMember unclosed eventDataMember {}
  let value ← okOr (.missingField "EventData.Data") fields.value
  return ⟨fields.path, fields.eventNumber, fields.priority, fields.timestamp, value⟩

/-- The status of an event, where a code that is out of range counts as 0. -/
def eventStatusIbMember (status : UInt8) : ElementRef → ImM UInt8
  | .scalar (.context 0) (.uint n) => return (u8TryFrom n).getD 0
  | element => skipMember status element

def eventStatusMember (fields : EventPath × UInt8) : ElementRef → ImM (EventPath × UInt8)
  | .containerStart (.context 0) .list => do
    let path ← eventPathFromReader
    return (path, fields.2)
  | .containerStart (.context 1) .struct => do
    let status ← eachMember unclosed eventStatusIbMember fields.2
    return (fields.1, status)
  | element => skipMember fields element

def parseEventStatus : ImM EventReport := do
  let (path, status) ← eachMember unclosed eventStatusMember ({}, 0)
  return .status path status

def eventReportIbMember (out : Option EventReport) : ElementRef → ImM (Option EventReport)
  | .containerStart (.context 1) .struct => do
    let item ← parseEventData
    return some (.data item)
  | .containerStart (.context 0) .struct => do
    let report ← parseEventStatus
    return some report
  | element => skipMember out element

def parseEventReportIb : ImM (Option EventReport) := eachMember unclosed eventReportIbMember none

def eventReportsMember (out : List EventReport) : ElementRef → ImM (List EventReport)
  | .containerStart _ .struct => do
    match ← parseEventReportIb with
    | some report => return out ++ [report]
    | none => return out
  | element => skipMember out element

def parseEventReports (out : List EventReport) : ImM (List EventReport) :=
  eachMember unclosed eventReportsMember out

/-- The locals of `parse_attribute_report_ib`. Several `AttributeData` members
of one block write to the same locals. -/
structure ReportIbFields where
  path : Option AttributePath := none
  value : Option Value := none
  dataVersion : Option UInt32 := none
  append : Bool := false
  status : Option (AttributePath × ImStatus) := none

def attributeDataMember (fields : ReportIbFields) : ElementRef → ImM ReportIbFields
  | .scalar (.context 0) (.uint n) => do
    let version ← okOr (.unexpectedValue "AttributeData.DataVersion exceeds u32") (u32TryFrom n)
    return { fields with dataVersion := some version }
  | .containerStart (.context 1) .list => do
    let (path, append) ← attributePathFromReader
    return { fields with path := some path, append := append }
  | .scalar (.context 2) value => return { fields with value := some (.ofRef value) }
  | .containerStart (.context 2) kind => do
    let value ← readContainerValue kind
    return { fields with value := some value }
  | element => skipMember fields element

def parseAttributeData (fields : ReportIbFields) : ImM ReportIbFields :=
  eachMember unclosed attributeDataMember fields

inductive ReportIb where
  | data (item : AttributeReportItem)
  | status (path : AttributePath) (status : ImStatus)
  | empty

def reportIbMember (fields : ReportIbFields) : ElementRef → ImM ReportIbFields
  | .containerStart (.context 1) .struct => parseAttributeData fields
  | .containerStart (.context 0) .struct => do
    let status ← parseAttributeStatusIb
    return { fields with status := some status }
  | element => skipMember fields element

/-- The end of `parse_attribute_report_ib`; a status outranks data. -/
def ReportIbFields.close (fields : ReportIbFields) : ImM ReportIb :=
  match fields.status with
  | some (path, status) => return .status path status
  | none =>
    match fields.path, fields.value with
    | some path, some value =>
      return .data ⟨path, if fields.append then .append else .replace, value, fields.dataVersion⟩
    | none, none => return .empty
    | some _, none => throw (.missingField "AttributeData.Data")
    | none, some _ => throw (.missingField "AttributeData.Path")

def parseAttributeReportIb : ImM ReportIb := do
  let fields ← eachMember unclosed reportIbMember {}
  fields.close

def attributeReportsMember (report : ReportData) : ElementRef → ImM ReportData
  | .containerStart _ .struct => do
    match ← parseAttributeReportIb with
    | .data item => return { report with items := report.items ++ [item] }
    | .status path status => return { report with statuses := report.statuses ++ [(path, status)] }
    | .empty => return report
  | element => skipMember report element

/-- `parse_attribute_reports`, which adds to the items and the statuses. -/
def parseAttributeReports (report : ReportData) : ImM ReportData :=
  eachMember unclosed attributeReportsMember report

def reportDataMember (report : ReportData) : ElementRef → ImM ReportData
  | .scalar (.context 0) (.uint n) => do
    let id ← okOr (.unexpectedValue "ReportData.subscriptionId exceeds u32") (u32TryFrom n)
    return { report with subscriptionId := some id }
  | .containerStart (.context 1) .array => parseAttributeReports report
  | .scalar (.context 3) (.bool b) => return { report with moreChunkedMessages := b }
  | .scalar (.context 4) (.bool b) => return { report with suppressResponse := b }
  | .containerStart (.context 2) .array => do
    let events ← parseEventReports report.events
    return { report with events := events }
  | element => skipMember report element

def reportDataMessage : ImM ReportData := do
  expectMessageStruct
  let report ← eachMember unclosed reportDataMember {}
  fromCodec .codec finish
  return report

def parseReportData (bytes : Octets) : Except ImError ReportData :=
  parseWhole reportDataMessage bytes

theorem forward_eventPathFromReader : Forward eventPathFromReader := by
  refine forward_eachMember (fun path element => ?_) _
  unfold eventPathMember
  split
  · exact .pure _
  · exact .pure _
  · exact .pure _
  · exact .pure _
  · exact .pure _
  · exact forward_skipMember path _

theorem forward_parseEventData : Forward parseEventData := by
  refine (forward_eachMember (fun fields element => ?_) _).bind fun fields => ?_
  · unfold eventDataMember
    split
    · exact forward_eventPathFromReader.bind_pure
    · exact .pure _
    · exact .pure _
    · exact .pure _
    · exact .pure _
    · exact .pure _
    · exact .pure _
    · exact .pure _
    · exact (forward_readContainerValue _).bind_pure
    · exact forward_skipMember fields _
  · exact (forward_okOr _ _).bind_pure

theorem forward_parseEventStatus : Forward parseEventStatus := by
  refine (forward_eachMember (fun fields element => ?_) _).bind_pure
  unfold eventStatusMember
  split
  · exact forward_eventPathFromReader.bind_pure
  · refine (forward_eachMember (fun status element => ?_) _).bind_pure
    unfold eventStatusIbMember
    split
    · exact .pure _
    · exact forward_skipMember status _
  · exact forward_skipMember fields _

theorem forward_parseEventReports (out : List EventReport) : Forward (parseEventReports out) := by
  have block : Forward parseEventReportIb := by
    refine forward_eachMember (fun report element => ?_) none
    unfold eventReportIbMember
    split
    · exact forward_parseEventData.bind_pure
    · exact forward_parseEventStatus.bind_pure
    · exact forward_skipMember report _
  refine forward_eachMember (fun reports element => ?_) out
  unfold eventReportsMember
  split
  · refine block.bind fun report => ?_
    split
    · exact .pure _
    · exact .pure _
  · exact forward_skipMember reports _

theorem forward_parseAttributeData (fields : ReportIbFields) :
    Forward (parseAttributeData fields) := by
  refine forward_eachMember (fun fields element => ?_) fields
  unfold attributeDataMember
  split
  · exact (forward_okOr _ _).bind_pure
  · exact forward_attributePathFromReader.bind_pure
  · exact .pure _
  · exact (forward_readContainerValue _).bind_pure
  · exact forward_skipMember fields _

theorem ReportIbFields.forward_close (fields : ReportIbFields) : Forward fields.close := by
  unfold close
  split
  · exact .pure _
  · split
    · exact .pure _
    · exact .pure _
    · exact .throw _
    · exact .throw _

theorem forward_parseAttributeReportIb : Forward parseAttributeReportIb := by
  refine (forward_eachMember (fun fields element => ?_) _).bind ReportIbFields.forward_close
  unfold reportIbMember
  split
  · exact forward_parseAttributeData fields
  · exact forward_parseAttributeStatusIb.bind_pure
  · exact forward_skipMember fields _

theorem forward_parseAttributeReports (report : ReportData) :
    Forward (parseAttributeReports report) := by
  refine forward_eachMember (fun report element => ?_) report
  unfold attributeReportsMember
  split
  · refine forward_parseAttributeReportIb.bind fun block => ?_
    split
    · exact .pure _
    · exact .pure _
    · exact .pure _
  · exact forward_skipMember report _

theorem forward_reportDataMember (report : ReportData) (element : ElementRef) :
    Forward (reportDataMember report element) := by
  unfold reportDataMember
  split
  · exact (forward_okOr _ _).bind_pure
  · exact forward_parseAttributeReports report
  · exact .pure _
  · exact .pure _
  · exact (forward_parseEventReports _).bind_pure
  · exact forward_skipMember report _

theorem closing_reportDataMessage : Closing reportDataMessage := by
  refine .bind forward_expectMessageStruct fun _ => ?_
  refine .bind (forward_eachMember forward_reportDataMember _) fun report => ?_
  exact closing_finish.fromCodec.followed

end Matter.Interaction
