import PowerRails.Action

/-! # Text of actions

How an action is named in the frames of a fault and in listings. Combinators show what they are made of;
actions that work elsewhere name only the place, and the others their operands. -/

namespace PowerRails

def BlockRead.text (b : BlockRead) : String :=
  s!"capture_bytes: \x7b register: {Hex.byte b.register}, count: {b.count} \x7d"

def RegisterComparison.text (c : RegisterComparison) : String :=
  s!"compare_register: \x7b register: {Hex.byte c.register}, format: {c.format.text}, "
    ++ s!"mask: {Hex.upper 1 c.mask}, op: {c.comparison.name}, operand: {c.operand.text} \x7d"

def RegisterWrite.text (w : RegisterWrite) : String :=
  s!"write_register: \x7b register: {Hex.byte w.register}, data: {Hex.bytes w.data}, mask: "
    ++ w.mask.elim "none" Hex.bytes ++ " \x7d"

def SensorRead.text (r : SensorRead) : String :=
  s!"read_sensor: \x7b register: {Hex.byte r.register}, format: {r.format.text}, type: {r.kind.name}, "
    ++ s!"name: {r.name} \x7d"

def FindingLog.text (l : FindingLog) : String :=
  s!"log_finding: \x7b severity: {l.severity.name}, code: {l.code} \x7d"

/-- The text of an output-voltage command; what is left open is not mentioned. -/
def VoutCommand.text (c : VoutCommand) : String :=
  "pmbus_write_vout_command: \x7b"
    ++ c.volts.elim "" (fun v => s!" volts: {v.plain},")
    ++ c.exponent.elim "" (fun e => s!" exponent: {e},")
    ++ s!" format: linear, is_verified: {c.verify} \x7d"

namespace Action

mutual

/-- The text of an action, by which the frames of faults name it. Only combinators show the actions in them. -/
def text : Action → String
  | .allOf as => "and: " ++ sequenceText as
  | .anyOf as => "or: " ++ sequenceText as
  | .negation a => "not: \x7b " ++ text a ++ " \x7d"
  | .branch condition as alternative =>
    "if: \x7b condition: " ++ text condition ++ ", then: " ++ sequenceText as ++ alternativeText alternative
      ++ " \x7d"
  | .runRule rule => "run_rule: " ++ rule
  | .inDevice device rail _ => "set_device: " ++ device ++ rail.elim "" ("/" ++ ·)
  | .inRail rail _ => "set_rail: " ++ rail
  | .comparePresence device expected => s!"compare_presence: \x7b device: {device}, expected: {expected} \x7d"
  | .compareRegister c => c.text
  | .writeRegister w => w.text
  | .capture b => b.text
  | .readSensor r => r.text
  | .logFinding l => l.text
  | .setVout c => c.text
  termination_by structural a => a

/-- The texts of the actions of a procedure, in brackets. -/
def sequenceText : Sequence Action → String
  | ⟨a, as⟩ => "[ " ++ text a ++ restText as ++ " ]"
  termination_by structural as => as

/-- The actions after the first one, each after a comma. -/
def restText : List Action → String
  | [] => ""
  | a :: as => ", " ++ text a ++ restText as
  termination_by structural as => as

/-- The other branch, if there is one. -/
def alternativeText : Option (Sequence Action) → String
  | none => ""
  | some as => ", else: " ++ sequenceText as
  termination_by structural as => as

end

end Action
end PowerRails
