import PowerRails.Fault.Exchange
import PowerRails.Report

/-! # Reports as data

The form in which findings, readings and whole reports are handed to other programs. -/

namespace PowerRails

def Finding.toDatum (f : Finding) : Datum :=
  .object [("severity", .text f.severity.name), ("code", .text f.code), ("device_id", .text f.device),
    ("rail_id", .ofOptionalText f.rail), ("captured", f.captured.elim .null .ofBytes), ("message", .text f.message)]

def Reading.toDatum (r : Reading) : Datum :=
  .object [("device_id", .text r.device), ("rail_id", .ofOptionalText r.rail), ("name", .text r.name),
    ("sensor_type", .text r.kind.name), ("value", .integer r.value)]

/-- Captures as an object, in the order of their keys. -/
def Captures.toDatum (c : Captures) : Datum := .object (c.listed.map fun e => (e.1, .text e.2))

def DeviceRow.toDatum (r : DeviceRow) : Datum :=
  .object [("chassis_id", .text r.chassis), ("device_id", .text r.device),
    ("present", r.present.elim .null .boolean), ("state", .text r.stage.name)]

def RecordedFault.toDatum (r : RecordedFault) : Datum :=
  .object [("chassis_id", .text r.chassis), ("device_id", .text r.device), ("rail_id", .ofOptionalText r.rail),
    ("error", r.fault.toDatum), ("additional_data", r.captures.toDatum)]

def Report.toDatum (r : Report) : Datum :=
  .object [("kind", .text r.kind.name), ("devices", .list (r.rows.map DeviceRow.toDatum)),
    ("findings", .list (r.findings.map Finding.toDatum)), ("errors", .list (r.faults.map RecordedFault.toDatum)),
    ("additional_data", r.captures.toDatum), ("sensors", .list (r.readings.map Reading.toDatum)),
    ("finished", .boolean r.finished), ("status", .text r.status.name), ("succeeded", .boolean r.succeeded)]

end PowerRails
