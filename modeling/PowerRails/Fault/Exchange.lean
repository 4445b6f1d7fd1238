import PowerRails.Datum
import PowerRails.Fault

/-! # Faults as data

A fault is exchanged as nested objects: one object per frame, the outermost first, each holding the next one
as its source, and the cause innermost. Every object has a single field named for what it is. `ofDatum?`
accepts exactly such objects, with fields in any order and unknown fields passed over. -/

namespace PowerRails

namespace Frame

/-- The kind of a frame. -/
def tag : Frame → String
  | .device _ => "device"
  | .rail _ => "rail"
  | .rule _ => "rule"
  | .action _ => "action"

/-- What a frame names: an identifier, or the text of an action. -/
def content : Frame → String
  | .device id => id
  | .rail id => id
  | .rule id => id
  | .action text => text

/-- A frame with its tag beside its content. -/
def toDatum (f : Frame) : Datum := .object [("frame", .text f.tag), ("id", .text f.content)]

/-- The frame with a tag and a content. -/
def ofTag? : String → String → Option Frame
  | "device", id => some (.device id)
  | "rail", id => some (.rail id)
  | "rule", id => some (.rule id)
  | "action", text => some (.action text)
  | _, _ => none

/-- The tag in a field: its text, or an object whose only field is named so and holds nothing. -/
def tag? : Datum → Option String
  | .text tag => some tag
  | .object [(tag, .null)] => some tag
  | _ => none

/-- Reads a frame from an object, or from a list of its tag, which is then a text, and its content. -/
def ofDatum? : Datum → Option Frame
  | .list [tag, content] => do ofTag? (← tag.text?) (← content.text?)
  | .list _ => none
  | d => do ofTag? (← tag? (← d.field? "frame")) (← (← d.field? "id").text?)

theorem ofDatum?_toDatum (f : Frame) : ofDatum? f.toDatum = some f := by cases f <;> rfl

end Frame

namespace Cause

/-- A cause as an object with one field. -/
def toDatum : Cause → Datum
  | .busAccess device rail register details =>
    .object [("BusAccess", .object [("device_id", .text device), ("rail_id", .ofOptionalText rail),
      ("register", .integer register.toNat), ("details", .text details)])]
  | .ruleNotFound rule => .object [("RuleNotFound", .object [("rule_id", .text rule)])]
  | .ruleRecursion rule depth reason chain =>
    .object [("RuleRecursion", .object [("rule_id", .text rule), ("depth", .integer depth),
      ("reason", .text reason), ("chain", .list (chain.map .text))])]
  | .invalidAction action details =>
    .object [("ActionType", .object [("action", .text action), ("details", .text details)])]
  | .deviceNotFound device => .object [("DeviceNotFound", .object [("device_id", .text device)])]
  | .railNotFound device rail =>
    .object [("RailNotFound", .object [("device_id", .text device), ("rail_id", .text rail)])]
  | .writeMismatch device register expected actual =>
    .object [("WriteVerification", .object [("device_id", .text device), ("register", .integer register.toNat),
      ("expected", .ofBytes expected), ("actual", .ofBytes actual)])]
  | .duplicateId kind id => .object [("DuplicateId", .object [("kind", .text kind), ("id", .text id)])]

/-- The cause with a tag whose fields are those of the object `d`. -/
def ofFields? (tag : String) (d : Datum) : Option Cause :=
  let text (name : String) : Option String := d.field? name >>= Datum.text?
  let byte (name : String) : Option UInt8 := d.field? name >>= Datum.byte?
  let bytes (name : String) : Option Bytes := d.field? name >>= Datum.list? Datum.byte?
  match tag with
  | "BusAccess" => do
    pure (.busAccess (← text "device_id") (← d.optionalText? "rail_id") (← byte "register")
      (← text "details"))
  | "RuleNotFound" => do pure (.ruleNotFound (← text "rule_id"))
  | "RuleRecursion" => do
    pure (.ruleRecursion (← text "rule_id") (← d.field? "depth" >>= Datum.natBelow? 0x10000000000000000)
      (← text "reason") (← d.field? "chain" >>= Datum.list? Datum.text?))
  | "ActionType" => do pure (.invalidAction (← text "action") (← text "details"))
  | "DeviceNotFound" => do pure (.deviceNotFound (← text "device_id"))
  | "RailNotFound" => do pure (.railNotFound (← text "device_id") (← text "rail_id"))
  | "WriteVerification" => do
    pure (.writeMismatch (← text "device_id") (← byte "register") (← bytes "expected") (← bytes "actual"))
  | "DuplicateId" => do pure (.duplicateId (← text "kind") (← text "id"))
  | _ => none

end Cause

namespace Fault

/-- A fault as one object per frame around the object of its cause. -/
def toDatum (f : Fault) : Datum :=
  f.frames.foldr (fun frame source => .object [("Context", .object [("frame", frame.toDatum), ("source", source)])])
    f.cause.toDatum

mutual

/-- Reads a fault. An object with one field is a frame around a source, or a cause. -/
def ofDatum? : Datum → Option Fault
  | .object [("Context", .object fields)] => do
    let frame ← fields.lookup "frame" >>= Frame.ofDatum?
    let source ← source? fields
    pure (source.within frame)
  | .object [(tag, .object fields)] => do pure ⟨← Cause.ofFields? tag (.object fields), []⟩
  | _ => none
  termination_by structural d => d

/-- Reads the fault that stands in the first field named as the source. -/
def source? : List (String × Datum) → Option Fault
  | [] => none
  | ("source", d) :: _ => ofDatum? d
  | _ :: rest => source? rest
  termination_by structural fields => fields

end

end Fault
end PowerRails
