import PowerRails.Action.Register
import PowerRails.Action.Vout
import PowerRails.Sequence

/-! # Actions

The closed instruction set in which regulators are described. An action answers yes or no: tests answer with
what they found out, and actions that only have an effect answer yes, so that a procedure can serve both as a
condition and as a series of steps. -/

namespace PowerRails

/-- What a device is asked to do. Every action answers yes or no, or fails. -/
inductive Action where
  /-- Yes if every action answers yes; stops at the first no. -/
  | allOf (actions : Sequence Action)
  /-- Yes if some action answers yes; stops at the first yes. -/
  | anyOf (actions : Sequence Action)
  | negation (action : Action)
  /-- Carries out one of two branches, and answers yes where there is none. -/
  | branch (condition : Action) (consequent : Sequence Action) (alternative : Option (Sequence Action))
  /-- Carries out the rule that has this identifier at that time. -/
  | runRule (rule : String)
  /-- Carries out actions on another device, or one of its rails, if that device is present. -/
  | inDevice (device : String) (rail : Option String) (actions : Sequence Action)
  /-- Carries out actions on a rail of the active device. -/
  | inRail (rail : String) (actions : Sequence Action)
  /-- Whether a device is present, or absent, in this cycle. -/
  | comparePresence (device : String) (expected : Bool)
  | compareRegister (comparison : RegisterComparison)
  | writeRegister (write : RegisterWrite)
  /-- Keeps the contents of a register as diagnostic data. -/
  | capture (block : BlockRead)
  | readSensor (read : SensorRead)
  | logFinding (log : FindingLog)
  | setVout (command : VoutCommand)

/-- Actions that are carried out in order and answer with the last answer. -/
abbrev Procedure := Sequence Action

/-- The procedure of some actions. There must be at least one; the fault names the owner of the list. -/
def Procedure.make (owner : String) (actions : List Action) : Except Fault Procedure :=
  match Sequence.ofList? actions with
  | some procedure => .ok procedure
  | none => .error (.invalidAction owner "action list must contain at least one action")

namespace Action

/-- A conjunction of at least one action. -/
def makeAllOf (actions : List Action) : Except Fault Action := .allOf <$> Procedure.make "and" actions

/-- A disjunction of at least one action. -/
def makeAnyOf (actions : List Action) : Except Fault Action := .anyOf <$> Procedure.make "or" actions

/-- A conditional. The first branch must not be empty; an empty second branch is none. -/
def makeBranch (condition : Action) (consequent alternative : List Action) : Except Fault Action := do
  pure (.branch condition (← Procedure.make "if" consequent) (Sequence.ofList? alternative))

/-- Actions on behalf of another device, or of one of its rails. -/
def makeInDevice (device : String) (rail : Option String) (actions : List Action) : Except Fault Action :=
  .inDevice device rail <$> Procedure.make "set_device" actions

/-- Actions on behalf of a rail of the active device. -/
def makeInRail (rail : String) (actions : List Action) : Except Fault Action :=
  .inRail rail <$> Procedure.make "set_rail" actions

mutual

/-- Whether two actions ask for the same. Voltages are compared as numbers. -/
def same : Action → Action → Bool
  | .allOf as, .allOf bs => sameSequence as bs
  | .anyOf as, .anyOf bs => sameSequence as bs
  | .negation a, .negation b => same a b
  | .branch a as none, .branch b bs none => same a b && sameSequence as bs
  | .branch a as (some as'), .branch b bs (some bs') => same a b && sameSequence as bs && sameSequence as' bs'
  | .runRule r, .runRule s => r == s
  | .inDevice d r as, .inDevice e s bs => d == e && r == s && sameSequence as bs
  | .inRail r as, .inRail s bs => r == s && sameSequence as bs
  | .comparePresence d p, .comparePresence e q => d == e && p == q
  | .compareRegister a, .compareRegister b => a == b
  | .writeRegister a, .writeRegister b => a == b
  | .capture a, .capture b => a == b
  | .readSensor a, .readSensor b => a == b
  | .logFinding a, .logFinding b => a == b
  | .setVout a, .setVout b => a.same b
  | _, _ => false
  termination_by structural a => a

/-- Whether two sequences hold the same actions. -/
def sameSequence : Sequence Action → Sequence Action → Bool
  | ⟨a, as⟩, ⟨b, bs⟩ => same a b && sameList as bs
  termination_by structural as => as

/-- Whether two lists hold the same actions. -/
def sameList : List Action → List Action → Bool
  | [], [] => true
  | a :: as, b :: bs => same a b && sameList as bs
  | _, _ => false
  termination_by structural as => as

end

end Action
end PowerRails
