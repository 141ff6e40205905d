import Wareboxes.CloudCommands
import Wareboxes.EdgeCommands
import Wareboxes.JsonValues
import Wareboxes.Transactions

/-!
# Commands and results on the wire

The agent turns a command of the cloud into one of its own by way of JSON, and
its results into those of the cloud the same way. This module has the two
encodings and the two decodings, word for word, and shows that they fit: a
command that the cloud accepts is always decoded, to the command of the same
class with the same texts, and so is every result of the agent.
-/

namespace Wareboxes.CommandWire

open RustText RustTime EdgeTypes EdgeCommands CloudCommands JsonValues Transactions DeviceCommand

/-- The word of each mission kind. -/
def missionKindJson : AutomationRobotMissionKind → Json
  | .pick => .string "pick"
  | .place => .string "place"
  | .transport => .string "transport"
  | .charge => .string "charge"

/-- The word of each print format. -/
def printFormatJson : AutomationPrintFormat → Json
  | .zpl => .string "zpl"
  | .pdf => .string "pdf"
  | .png => .string "png"
  | .html => .string "html"

/-- The word of each unit. -/
def weightUnitJson : AutomationWeightUnit → Json
  | .gram => .string "gram"
  | .kilogram => .string "kilogram"
  | .pound => .string "pound"

/-- The encoding of a controller command. -/
def plcJson : AutomationPlcCommand → Json
  | .setDiscreteOutput point value =>
    .object [("operation", .string "set_discrete_output"), ("point", .string point),
      ("value", .bool value)]
  | .pulseDiscreteOutput point durationMs =>
    .object [("operation", .string "pulse_discrete_output"), ("point", .string point),
      ("duration_ms", .number durationMs.toNat)]
  | .resetFault faultCode =>
    .object [("operation", .string "reset_fault"), ("fault_code", .string faultCode)]

/-- The encoding of a conveyor command. -/
def conveyorJson : AutomationConveyorCommand → Json
  | .routeCarrier carrierId destination =>
    .object [("operation", .string "route_carrier"), ("carrier_id", .string carrierId),
      ("destination", .string destination)]
  | .startZone zone => .object [("operation", .string "start_zone"), ("zone", .string zone)]
  | .stopZone zone => .object [("operation", .string "stop_zone"), ("zone", .string zone)]

/-- The encoding of a robot command. -/
def roboticsJson : AutomationRoboticsCommand → Json
  | .dispatchMission missionId missionKind source destination payloadId =>
    .object [("operation", .string "dispatch_mission"), ("mission_id", .string missionId),
      ("mission_kind", missionKindJson missionKind), ("source", .string source),
      ("destination", .string destination), ("payload_id", .nullable .string payloadId)]
  | .cancelMission missionId =>
    .object [("operation", .string "cancel_mission"), ("mission_id", .string missionId)]

/-- The encoding of a sorter command. -/
def sortationJson : AutomationSortationCommand → Json
  | .divert trackingId chute =>
    .object [("operation", .string "divert"), ("tracking_id", .string trackingId),
      ("chute", .string chute)]
  | .reject trackingId lane reasonCode =>
    .object [("operation", .string "reject"), ("tracking_id", .string trackingId),
      ("lane", .string lane), ("reason_code", .string reasonCode)]

/-- The encoding of a printer command. -/
def printerJson : AutomationPrinterCommand → Json
  | .printDocument documentId format content copies =>
    .object [("operation", .string "print_document"), ("document_id", .string documentId),
      ("format", printFormatJson format), ("content", .string content),
      ("copies", .number copies.toNat)]
  | .cancelPrintJob spoolJobId =>
    .object [("operation", .string "cancel_print_job"), ("spool_job_id", .string spoolJobId)]

/-- The encoding of a scale command. -/
def scaleJson : AutomationScaleCommand → Json
  | .readStableWeight requestedUnit timeoutMs =>
    .object [("operation", .string "read_stable_weight"),
      ("requested_unit", weightUnitJson requestedUnit), ("timeout_ms", .number timeoutMs.toNat)]
  | .tare => .object [("operation", .string "tare")]

/-- `serde_json::to_value` of a command of the cloud. -/
def commandJson : AutomationDeviceCommand → Json
  | .plc command => .tagged "device_class" "plc" "command" (plcJson command)
  | .conveyor command => .tagged "device_class" "conveyor" "command" (conveyorJson command)
  | .robotics command => .tagged "device_class" "robotics" "command" (roboticsJson command)
  | .sortation command => .tagged "device_class" "sortation" "command" (sortationJson command)
  | .printer command => .tagged "device_class" "printer" "command" (printerJson command)
  | .scale command => .tagged "device_class" "scale" "command" (scaleJson command)

/-- A number of type `NonZeroU32`. -/
def nonZeroU32? : Json → Option NonZeroU32
  | .number value =>
    if h : 0 < value ∧ value ≤ maxU32 then
      some ⟨value.toNat, Int.lt_toNat.mpr h.1, Int.toNat_le.mpr h.2⟩
    else none
  | _ => none

/-- A number of type `NonZeroU16`. -/
def nonZeroU16? : Json → Option NonZeroU16
  | .number value =>
    if h : 0 < value ∧ value < 65536 then some ⟨value.toNat, by omega, by omega⟩ else none
  | _ => none

/-- The mission kinds by their words. -/
def missionKindWords : List (String × RobotMissionKind) :=
  [("pick", .pick), ("place", .place), ("transport", .transport), ("charge", .charge)]

/-- The print formats by their words. -/
def printFormatWords : List (String × PrintFormat) :=
  [("zpl", .zpl), ("pdf", .pdf), ("png", .png), ("html", .html)]

/-- The units by their words. -/
def weightUnitWords : List (String × WeightUnit) :=
  [("gram", .gram), ("kilogram", .kilogram), ("pound", .pound)]

/-- The operation of an internally tagged command. -/
def operation? (json : Json) : Option String := json.required Json.text? "operation"

/-- The decoding of a controller command. -/
def plcCommand? (json : Json) : Option PlcCommand := do
  match ← operation? json with
  | "set_discrete_output" =>
    return .setDiscreteOutput (← json.required Json.text? "point")
      (← json.required Json.bool? "value")
  | "pulse_discrete_output" =>
    return .pulseDiscreteOutput (← json.required Json.text? "point")
      (← json.required nonZeroU32? "duration_ms")
  | "reset_fault" => return .resetFault (← json.required Json.text? "fault_code")
  | _ => none

/-- The decoding of a conveyor command. -/
def conveyorCommand? (json : Json) : Option ConveyorCommand := do
  match ← operation? json with
  | "route_carrier" =>
    return .routeCarrier (← json.required Json.text? "carrier_id")
      (← json.required Json.text? "destination")
  | "start_zone" => return .startZone (← json.required Json.text? "zone")
  | "stop_zone" => return .stopZone (← json.required Json.text? "zone")
  | _ => none

/-- The decoding of a robot command. -/
def roboticsCommand? (json : Json) : Option RoboticsCommand := do
  match ← operation? json with
  | "dispatch_mission" =>
    return .dispatchMission (← json.required Json.text? "mission_id")
      (← json.required (Json.word? missionKindWords) "mission_kind")
      (← json.required Json.text? "source") (← json.required Json.text? "destination")
      (← json.optional Json.text? "payload_id")
  | "cancel_mission" => return .cancelMission (← json.required Json.text? "mission_id")
  | _ => none

/-- The decoding of a sorter command. -/
def sortationCommand? (json : Json) : Option SortationCommand := do
  match ← operation? json with
  | "divert" =>
    return .divert (← json.required Json.text? "tracking_id") (← json.required Json.text? "chute")
  | "reject" =>
    return .reject (← json.required Json.text? "tracking_id") (← json.required Json.text? "lane")
      (← json.required Json.text? "reason_code")
  | _ => none

/-- The decoding of a printer command. -/
def printerCommand? (json : Json) : Option PrinterCommand := do
  match ← operation? json with
  | "print_document" =>
    return .printDocument (← json.required Json.text? "document_id")
      (← json.required (Json.word? printFormatWords) "format")
      (← json.required Json.text? "content") (← json.required nonZeroU16? "copies")
  | "cancel_print_job" => return .cancelPrintJob (← json.required Json.text? "spool_job_id")
  | _ => none

/-- The decoding of a scale command. -/
def scaleCommand? (json : Json) : Option ScaleCommand := do
  match ← operation? json with
  | "read_stable_weight" =>
    return .readStableWeight (← json.required (Json.word? weightUnitWords) "requested_unit")
      (← json.required nonZeroU32? "timeout_ms")
  | "tare" => return .tare
  | _ => none

/-- `serde_json::from_value` of a command of the agent. -/
def deviceCommand? (json : Json) : Option DeviceCommand := do
  match ← json.required Json.text? "device_class" with
  | "plc" => return .plc (← json.required plcCommand? "command")
  | "conveyor" => return .conveyor (← json.required conveyorCommand? "command")
  | "robotics" => return .robotics (← json.required roboticsCommand? "command")
  | "sortation" => return .sortation (← json.required sortationCommand? "command")
  | "printer" => return .printer (← json.required printerCommand? "command")
  | "scale" => return .scale (← json.required scaleCommand? "command")
  | _ => none

/-- `transcode` of a command, which fails with an incompatible payload. -/
def transcodeCommand (command : AutomationDeviceCommand) : Option DeviceCommand :=
  deviceCommand? (commandJson command)

/-- `device_class`: the class of the agent for each class of the cloud. -/
def localDeviceClass : AutomationDeviceClass → DeviceClass
  | .plc => .plc
  | .conveyor => .conveyor
  | .robotics => .robotics
  | .sortation => .sortation
  | .printer => .printer
  | .scale => .scale

/-- `serde_json::to_value` of a result of the agent. -/
def resultJson : CommandResult → Json
  | .plc result => .tagged "device_class" "plc" "result"
    (.object [("controller_reference", .nullable .string result.controllerReference),
      ("output_state", .nullable .bool result.outputState)])
  | .conveyor result => .tagged "device_class" "conveyor" "result"
    (.object [("controller_reference", .nullable .string result.controllerReference),
      ("observed_zone", .nullable .string result.observedZone)])
  | .robotics result => .tagged "device_class" "robotics" "result"
    (.object [("controller_reference", .string result.controllerReference),
      ("mission_state", .string result.missionState)])
  | .sortation result => .tagged "device_class" "sortation" "result"
    (.object [("controller_reference", .nullable .string result.controllerReference),
      ("observed_lane", .string result.observedLane)])
  | .printer result => .tagged "device_class" "printer" "result"
    (.object [("spool_job_id", .string result.spoolJobId)])
  | .scale result => .tagged "device_class" "scale" "result"
    (.object [("mass_milligrams", .number result.massMilligrams), ("stable", .bool result.stable)])

/-- The decoding of a controller result. -/
def plcResult? (json : Json) : Option AutomationPlcResult := do
  json.denyUnknownFields ["controller_reference", "output_state"]
  return ⟨← json.optional Json.text? "controller_reference",
    ← json.optional Json.bool? "output_state"⟩

/-- The decoding of a conveyor result. -/
def conveyorResult? (json : Json) : Option AutomationConveyorResult := do
  json.denyUnknownFields ["controller_reference", "observed_zone"]
  return ⟨← json.optional Json.text? "controller_reference",
    ← json.optional Json.text? "observed_zone"⟩

/-- The decoding of a robot result. -/
def roboticsResult? (json : Json) : Option AutomationRoboticsResult := do
  json.denyUnknownFields ["controller_reference", "mission_state"]
  return ⟨← json.required Json.text? "controller_reference",
    ← json.required Json.text? "mission_state"⟩

/-- The decoding of a sorter result. -/
def sortationResult? (json : Json) : Option AutomationSortationResult := do
  json.denyUnknownFields ["controller_reference", "observed_lane"]
  return ⟨← json.optional Json.text? "controller_reference",
    ← json.required Json.text? "observed_lane"⟩

/-- The decoding of a printer result. -/
def printerResult? (json : Json) : Option AutomationPrinterResult := do
  json.denyUnknownFields ["spool_job_id"]
  return ⟨← json.required Json.text? "spool_job_id"⟩

/-- The decoding of a scale result. -/
def scaleResult? (json : Json) : Option AutomationScaleResult := do
  json.denyUnknownFields ["mass_milligrams", "stable"]
  return ⟨← json.required Json.integer? "mass_milligrams", ← json.required Json.bool? "stable"⟩

/-- `serde_json::from_value` of a result of the cloud. -/
def automationResult? (json : Json) : Option AutomationCommandResult := do
  match ← json.required Json.text? "device_class" with
  | "plc" => return .plc (← json.required plcResult? "result")
  | "conveyor" => return .conveyor (← json.required conveyorResult? "result")
  | "robotics" => return .robotics (← json.required roboticsResult? "result")
  | "sortation" => return .sortation (← json.required sortationResult? "result")
  | "printer" => return .printer (← json.required printerResult? "result")
  | "scale" => return .scale (← json.required scaleResult? "result")
  | _ => none

/-- `command_result`: `transcode` of a result. -/
def transcodeResult (result : CommandResult) : Option AutomationCommandResult :=
  automationResult? (resultJson result)

section Results

/-- The result of the cloud with the texts of a result of the agent. -/
def mirroredResult : CommandResult → AutomationCommandResult
  | .plc result => .plc ⟨result.controllerReference, result.outputState⟩
  | .conveyor result => .conveyor ⟨result.controllerReference, result.observedZone⟩
  | .robotics result => .robotics ⟨result.controllerReference, result.missionState⟩
  | .sortation result => .sortation ⟨result.controllerReference, result.observedLane⟩
  | .printer result => .printer ⟨result.spoolJobId⟩
  | .scale result => .scale ⟨result.massMilligrams, result.stable⟩

theorem transcodeResult_eq (result : CommandResult) :
    transcodeResult result = some (mirroredResult result) := by
  cases result with
  | plc result =>
    obtain ⟨reference, state⟩ := result
    cases reference <;> cases state <;> rfl
  | conveyor result =>
    obtain ⟨reference, zone⟩ := result
    cases reference <;> cases zone <;> rfl
  | robotics | printer | scale => rfl
  | sortation result =>
    obtain ⟨reference, lane⟩ := result
    cases reference <;> rfl

theorem mirroredResult_class (result : CommandResult) :
    localDeviceClass (mirroredResult result).deviceClass = result.deviceClass := by
  cases result <;> rfl

end Results

theorem localDeviceClass_injective {first second : AutomationDeviceClass}
    (h : localDeviceClass first = localDeviceClass second) : first = second := by
  cases first <;> cases second <;> first | rfl | cases h

section Commands

variable {arrived : DeviceCommand} {text field : String} {max : ℕ}

/-- A command that is wrapped after its decoding is of the class of the wrapper. -/
theorem class_of_wrapped {α : Type} {decoded : Option α} {f : α → DeviceCommand}
    {deviceClass : DeviceClass} (hwrap : ∀ inner, (f inner).deviceClass = deviceClass)
    (h : (decoded.bind fun inner => some (f inner)) = some arrived) :
    arrived.deviceClass = deviceClass := by
  obtain ⟨inner, _, hinner⟩ := Option.bind_eq_some_iff.mp h
  cases hinner
  exact hwrap inner

theorem transcodeCommand_class {command : AutomationDeviceCommand}
    (h : transcodeCommand command = some arrived) :
    arrived.deviceClass = localDeviceClass command.deviceClass := by
  cases command with
  | plc => exact class_of_wrapped (f := .plc) (fun _ => rfl) h
  | conveyor => exact class_of_wrapped (f := .conveyor) (fun _ => rfl) h
  | robotics => exact class_of_wrapped (f := .robotics) (fun _ => rfl) h
  | sortation => exact class_of_wrapped (f := .sortation) (fun _ => rfl) h
  | printer => exact class_of_wrapped (f := .printer) (fun _ => rfl) h
  | scale => exact class_of_wrapped (f := .scale) (fun _ => rfl) h

/-- The texts of a command that both sides check as references. -/
def references : AutomationDeviceCommand → List String
  | .plc (.setDiscreteOutput point _) | .plc (.pulseDiscreteOutput point _) => [point]
  | .plc (.resetFault faultCode) => [faultCode]
  | .conveyor (.routeCarrier carrierId destination) => [carrierId, destination]
  | .conveyor (.startZone zone) | .conveyor (.stopZone zone) => [zone]
  | .robotics (.dispatchMission missionId _ source destination payloadId) =>
    [missionId, source, destination] ++ payloadId.toList
  | .robotics (.cancelMission missionId) => [missionId]
  | .sortation (.divert trackingId chute) => [trackingId, chute]
  | .sortation (.reject trackingId lane reasonCode) => [trackingId, lane, reasonCode]
  | .printer (.printDocument documentId _ _ _) => [documentId]
  | .printer (.cancelPrintJob spoolJobId) => [spoolJobId]
  | .scale _ => []

/-- The agent accepts a reference of the cloud when it is short enough in bytes. -/
theorem validateText_iff {field' : String} (h : validateReference text field' = .ok ()) :
    EdgeCommands.validateText text field max = .ok () ↔ len text ≤ max := by
  have hvisible : isEmpty (trim text) = false := by
    unfold validateReference CloudCommands.validateText at h
    split_ifs at h with hcheck
    simp only [Bool.or_eq_true, not_or, Bool.not_eq_true] at hcheck
    exact hcheck.1.1.1
  unfold EdgeCommands.validateText
  simp [hvisible]

theorem checks_ok {ε : Type} {first second : Except ε Unit} :
    (first >>= fun _ => second) = .ok () ↔ first = .ok () ∧ second = .ok () := by
  rw [except_bind_ok]
  constructor
  · rintro ⟨_, h⟩
    exact h
  · intro h
    exact ⟨(), h⟩

theorem nonZeroU32?_number {value : UInt32} (h : 1 ≤ value.toNat) :
    ∃ number, nonZeroU32? (.number value.toNat) = some number ∧ number.get = value.toNat := by
  have hbound : value.toNat ≤ maxU32 := by
    have := value.toNat_lt
    unfold maxU32
    omega
  refine ⟨⟨value.toNat, h, hbound⟩, ?_, rfl⟩
  exact dif_pos ⟨by omega, by omega⟩

theorem nonZeroU16?_number {value : UInt16} (h : value ≠ 0) :
    ∃ number, nonZeroU16? (.number value.toNat) = some number := by
  have hpositive : value.toNat ≠ 0 := by
    intro hzero
    exact h (UInt16.toNat_inj.mp hzero)
  have hbound := value.toNat_lt
  refine ⟨⟨value.toNat, by omega, hbound⟩, ?_⟩
  exact dif_pos ⟨by omega, by omega⟩

/-- What becomes of a command on the way to the agent. -/
structure Arrives (command : AutomationDeviceCommand) (arrived : DeviceCommand) : Prop where
  decoded : transcodeCommand command = some arrived
  /-- The agent accepts it when the references are short enough in bytes. -/
  accepted : arrived.validate = .ok () ↔ ∀ text ∈ references command, len text ≤ maxReferenceLength

theorem plc_arrives {command : AutomationPlcCommand}
    (hvalid : (AutomationDeviceCommand.plc command).validate = .ok ()) :
    ∃ arrived, Arrives (.plc command) arrived := by
  cases command with
  | setDiscreteOutput point value =>
    refine ⟨.plc (.setDiscreteOutput point value), rfl, ?_⟩
    simp [validate, references, validateText_iff hvalid]
  | pulseDiscreteOutput point durationMs =>
    obtain ⟨hpoint, hduration⟩ := checks_ok.mp hvalid
    split_ifs at hduration with hrange
    obtain ⟨number, hdecode, hnumber⟩ := nonZeroU32?_number hrange.1
    refine ⟨.plc (.pulseDiscreteOutput point number), ?_, ?_⟩
    · change (((nonZeroU32? (.number durationMs.toNat)).bind fun number =>
        some (PlcCommand.pulseDiscreteOutput point number)).bind fun command =>
          some (plc command)) = _
      rw [hdecode]
      rfl
    · simp [validate, references, checks_ok, validateText_iff hpoint, hnumber,
        hrange.2]
  | resetFault faultCode =>
    refine ⟨.plc (.resetFault faultCode), rfl, ?_⟩
    simp [validate, references, validateText_iff hvalid]

theorem conveyor_arrives {command : AutomationConveyorCommand}
    (hvalid : (AutomationDeviceCommand.conveyor command).validate = .ok ()) :
    ∃ arrived, Arrives (.conveyor command) arrived := by
  cases command with
  | routeCarrier carrierId destination =>
    obtain ⟨hcarrier, hdestination⟩ := checks_ok.mp hvalid
    refine ⟨.conveyor (.routeCarrier carrierId destination), rfl, ?_⟩
    simp [validate, references, checks_ok, validateText_iff hcarrier,
      validateText_iff hdestination]
  | startZone zone =>
    refine ⟨.conveyor (.startZone zone), rfl, ?_⟩
    simp [validate, references, validateText_iff hvalid]
  | stopZone zone =>
    refine ⟨.conveyor (.stopZone zone), rfl, ?_⟩
    simp [validate, references, validateText_iff hvalid]

/-- An optional reference of the cloud is accepted when it is short enough in bytes. -/
theorem validateOptionalText_iff {text : Option String} {field field' : String}
    (h : validateOptionalReference text field' = .ok ()) :
    validateOptionalText text field max = .ok () ↔ ∀ present ∈ text, len present ≤ max := by
  cases text with
  | none => simp [validateOptionalText]
  | some =>
    simp [validateOptionalText, validateText_iff h]

/-- The mission kind of the agent for each one of the cloud. -/
def localMissionKind : AutomationRobotMissionKind → RobotMissionKind
  | .pick => .pick
  | .place => .place
  | .transport => .transport
  | .charge => .charge

theorem robotics_arrives {command : AutomationRoboticsCommand}
    (hvalid : (AutomationDeviceCommand.robotics command).validate = .ok ()) :
    ∃ arrived, Arrives (.robotics command) arrived := by
  cases command with
  | dispatchMission missionId missionKind source destination payloadId =>
    obtain ⟨hmission, hvalid⟩ := checks_ok.mp hvalid
    obtain ⟨hsource, hvalid⟩ := checks_ok.mp hvalid
    obtain ⟨hdestination, hpayload⟩ := checks_ok.mp hvalid
    refine ⟨.robotics (.dispatchMission missionId (localMissionKind missionKind) source destination
      payloadId), ?_, ?_⟩
    · cases missionKind <;> cases payloadId <;> rfl
    · simp only [validate, references, checks_ok, validateText_iff hmission,
        validateText_iff hsource, validateText_iff hdestination,
        validateOptionalText_iff hpayload]
      simp [or_imp, forall_and]
  | cancelMission missionId =>
    refine ⟨.robotics (.cancelMission missionId), rfl, ?_⟩
    simp [validate, references, validateText_iff hvalid]

theorem sortation_arrives {command : AutomationSortationCommand}
    (hvalid : (AutomationDeviceCommand.sortation command).validate = .ok ()) :
    ∃ arrived, Arrives (.sortation command) arrived := by
  cases command with
  | divert trackingId chute =>
    obtain ⟨htracking, hchute⟩ := checks_ok.mp hvalid
    refine ⟨.sortation (.divert trackingId chute), rfl, ?_⟩
    simp [validate, references, checks_ok, validateText_iff htracking,
      validateText_iff hchute]
  | reject trackingId lane reasonCode =>
    obtain ⟨htracking, hvalid⟩ := checks_ok.mp hvalid
    obtain ⟨hlane, hreason⟩ := checks_ok.mp hvalid
    refine ⟨.sortation (.reject trackingId lane reasonCode), rfl, ?_⟩
    simp [validate, references, checks_ok, validateText_iff htracking,
      validateText_iff hlane, validateText_iff hreason]

/-- The print format of the agent for each one of the cloud. -/
def localPrintFormat : AutomationPrintFormat → PrintFormat
  | .zpl => .zpl
  | .pdf => .pdf
  | .png => .png
  | .html => .html

theorem printer_arrives {command : AutomationPrinterCommand}
    (hvalid : (AutomationDeviceCommand.printer command).validate = .ok ()) :
    ∃ arrived, Arrives (.printer command) arrived := by
  cases command with
  | printDocument documentId format content copies =>
    obtain ⟨hdocument, hcontent⟩ := checks_ok.mp hvalid
    split_ifs at hcontent with hempty hlong hcopies
    obtain ⟨number, hdecode⟩ := nonZeroU16?_number hcopies
    have hlong : ¬maxPrintPayloadBytes < len content := hlong
    refine ⟨.printer (.printDocument documentId (localPrintFormat format) content number), ?_,
      ?_⟩
    · have hformat : (printFormatJson format).word? printFormatWords =
          some (localPrintFormat format) := by
        cases format <;> rfl
      change (((Json.word? printFormatWords (printFormatJson format)).bind fun format =>
        (nonZeroU16? (.number copies.toNat)).bind fun copies =>
          some (PrinterCommand.printDocument documentId format content copies)).bind fun command =>
            some (printer command)) = _
      rw [hformat, hdecode]
      rfl
    · simp [validate, references, checks_ok, validateText_iff hdocument, hempty,
        hlong]
  | cancelPrintJob spoolJobId =>
    refine ⟨.printer (.cancelPrintJob spoolJobId), rfl, ?_⟩
    simp [validate, references, validateText_iff hvalid]

/-- The unit of the agent for each one of the cloud. -/
def localWeightUnit : AutomationWeightUnit → WeightUnit
  | .gram => .gram
  | .kilogram => .kilogram
  | .pound => .pound

theorem scale_arrives {command : AutomationScaleCommand}
    (hvalid : (AutomationDeviceCommand.scale command).validate = .ok ()) :
    ∃ arrived, Arrives (.scale command) arrived := by
  cases command with
  | readStableWeight requestedUnit timeoutMs =>
    simp only [AutomationDeviceCommand.validate] at hvalid
    split_ifs at hvalid with hrange
    obtain ⟨number, hdecode, hnumber⟩ := nonZeroU32?_number hrange.1
    refine ⟨.scale (.readStableWeight (localWeightUnit requestedUnit) number), ?_, ?_⟩
    · have hunit : (weightUnitJson requestedUnit).word? weightUnitWords =
          some (localWeightUnit requestedUnit) := by
        cases requestedUnit <;> rfl
      change (((Json.word? weightUnitWords (weightUnitJson requestedUnit)).bind fun unit =>
        (nonZeroU32? (.number timeoutMs.toNat)).bind fun timeout =>
          some (ScaleCommand.readStableWeight unit timeout)).bind fun command =>
            some (scale command)) = _
      rw [hunit, hdecode]
      rfl
    · simp [validate, references, hnumber, hrange.2]
  | tare =>
    refine ⟨.scale .tare, rfl, ?_⟩
    simp [validate, references]

/-- A command that the cloud accepts is decoded at the agent as a command of the same
class. The agent accepts it if and only if every reference has at most 200 bytes, where
the cloud admits 128 characters of up to four bytes each. -/
theorem cloud_commands_arrive (command : AutomationDeviceCommand)
    (hvalid : command.validate = .ok ()) :
    ∃ arrived, transcodeCommand command = some arrived ∧
      arrived.deviceClass = localDeviceClass command.deviceClass ∧
      (arrived.validate = .ok () ↔
        ∀ text ∈ references command, len text ≤ maxReferenceLength) := by
  have harrives : ∃ arrived, Arrives command arrived := by
    cases command with
    | plc => exact plc_arrives hvalid
    | conveyor => exact conveyor_arrives hvalid
    | robotics => exact robotics_arrives hvalid
    | sortation => exact sortation_arrives hvalid
    | printer => exact printer_arrives hvalid
    | scale => exact scale_arrives hvalid
  obtain ⟨arrived, hdecoded, haccepted⟩ := harrives
  exact ⟨arrived, hdecoded, transcodeCommand_class hdecoded, haccepted⟩

/-- A command whose references are plain words is accepted on both sides. -/
theorem plain_mission_arrives :
    ∃ arrived, transcodeCommand (.robotics (.dispatchMission "mission-7" .transport "A-01" "B-02"
        (some "tote-9"))) = some arrived ∧ arrived.deviceClass = .robotics ∧
      arrived.validate = .ok () := by
  obtain ⟨arrived, hdecoded, hclass, haccepted⟩ :=
    cloud_commands_arrive (.robotics (.dispatchMission "mission-7" .transport "A-01" "B-02"
      (some "tote-9"))) (by decide +kernel)
  exact ⟨arrived, hdecoded, hclass, haccepted.mpr (by decide +kernel)⟩

/-- A zone name of 67 characters, which take 201 bytes. -/
def longZone : String := String.ofList (List.replicate 67 '荷')

/-- The cloud accepts a command for that zone and the agent refuses it. -/
theorem long_zone_is_refused :
    (AutomationDeviceCommand.conveyor (.startZone longZone)).validate = .ok () ∧
      transcodeCommand (.conveyor (.startZone longZone)) =
        some (.conveyor (.startZone longZone)) ∧
      (DeviceCommand.conveyor (.startZone longZone)).validate =
        .error (.invalidText "conveyor zone" 200) :=
  ⟨by decide +kernel, rfl, by decide +kernel⟩

end Commands

end Wareboxes.CommandWire
