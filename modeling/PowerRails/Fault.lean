import PowerRails.Text.Hex

/-! # Faults

Everything that can go wrong while regulators are driven. A fault is a cause together with the frames it
passed on its way out, the outermost first: the device, rail and rule that were active and the action that
raised it. -/

namespace PowerRails

/-- One level of context that a fault passed on its way out. -/
inductive Frame where
  | device (id : String)
  | rail (id : String)
  | rule (id : String)
  | action (text : String)
deriving DecidableEq, Repr

namespace Frame

/-- How a frame is named in front of a fault. -/
def text : Frame → String
  | .device id => s!"device \"{id}\""
  | .rail id => s!"rail \"{id}\""
  | .rule id => s!"rule \"{id}\""
  | .action text => text

def device? : Frame → Option String
  | .device id => some id
  | _ => none

def rail? : Frame → Option String
  | .rail id => some id
  | _ => none

end Frame

/-- What went wrong, without the context. -/
inductive Cause where
  /-- A bus could not be opened, or a transfer on it failed. -/
  | busAccess (device : String) (rail : Option String) (register : UInt8) (details : String)
  | ruleNotFound (rule : String)
  /-- A rule was called while it was active already, or below too many others. -/
  | ruleRecursion (rule : String) (depth : Nat) (reason : String) (chain : List String)
  /-- An action is malformed or cannot be carried out. -/
  | invalidAction (action details : String)
  | deviceNotFound (device : String)
  | railNotFound (device rail : String)
  /-- What was read back differs from what was written. -/
  | writeMismatch (device : String) (register : UInt8) (expected actual : Bytes)
  | duplicateId (kind id : String)
deriving DecidableEq, Repr

namespace Cause

/-- A cause as messages show it. -/
def text : Cause → String
  | .busAccess device _ register details =>
    s!"BusAccessError: device \"{device}\", register {Hex.byte register}: {details}"
  | .ruleNotFound rule => s!"RuleNotFoundError: unable to find rule with ID \"{rule}\""
  | .ruleRecursion rule depth reason chain =>
    s!"RuleRecursionError: rule \"{rule}\" at depth {depth}: {reason} (chain: "
      ++ " -> ".intercalate chain ++ ")"
  | .invalidAction action details => s!"ActionTypeError: {action}: {details}"
  | .deviceNotFound device => s!"DeviceNotFoundError: unable to find device with ID \"{device}\""
  | .railNotFound device rail => s!"RailNotFoundError: device \"{device}\" has no rail with ID \"{rail}\""
  | .writeMismatch device register expected actual =>
    s!"WriteVerificationError: device \"{device}\", register {Hex.byte register}: "
      ++ s!"wrote {Hex.bytes expected} but read back {Hex.bytes actual}"
  | .duplicateId kind id => s!"DuplicateIdError: {kind} ID \"{id}\" is defined more than once"

/-- The stable code under which findings report a cause. -/
def code : Cause → String
  | .busAccess .. => "bus_access_error"
  | .ruleNotFound .. => "rule_not_found_error"
  | .ruleRecursion .. => "rule_recursion_error"
  | .invalidAction .. => "action_type_error"
  | .deviceNotFound .. => "device_not_found_error"
  | .railNotFound .. => "rail_not_found_error"
  | .writeMismatch .. => "write_verification_error"
  | .duplicateId .. => "duplicate_id_error"

def device? : Cause → Option String
  | .busAccess device .. => some device
  | .deviceNotFound device => some device
  | .railNotFound device _ => some device
  | .writeMismatch device .. => some device
  | _ => none

end Cause

/-- A cause with the frames around it, the outermost first. -/
structure Fault where
  cause : Cause
  frames : List Frame := []
deriving DecidableEq, Repr

namespace Fault

/-- The fault of an action that does not make sense, or cannot be carried out as it stands. -/
def invalidAction (action details : String) : Fault := ⟨.invalidAction action details, []⟩

/-- The fault seen from outside one more frame. -/
def within (f : Fault) (frame : Frame) : Fault := { f with frames := frame :: f.frames }

/-- The frames and the message of the cause, from the outside to the inside. -/
def text (f : Fault) : String := f.frames.foldr (fun frame rest => frame.text ++ ": " ++ rest) f.cause.text

/-- The code of the finding that is made of a fault. -/
def code (f : Fault) : String := f.cause.code

/-- The device of the outermost device frame, or else the device of the cause. -/
def device? (f : Fault) : Option String := (f.frames.findSome? Frame.device?).or f.cause.device?

/-- The rail of the outermost rail frame, or else the rail of a failed bus access. -/
def rail? (f : Fault) : Option String :=
  (f.frames.findSome? Frame.rail?).or
    (match f.cause with
    | .busAccess _ rail _ _ => rail
    | _ => none)

@[simp] theorem cause_within (f : Fault) (frame : Frame) : (f.within frame).cause = f.cause := rfl

@[simp] theorem frames_within (f : Fault) (frame : Frame) : (f.within frame).frames = frame :: f.frames := rfl

theorem text_within (f : Fault) (frame : Frame) : (f.within frame).text = frame.text ++ ": " ++ f.text := rfl

theorem code_within (f : Fault) (frame : Frame) : (f.within frame).code = f.code := rfl

end Fault
end PowerRails
