import PowerRails.Proofs.Task

/-! # Guards

`Context.carryOut` hands a context down. The machine here does the same work in one environment that everything
shares, and which is changed on entering a device, a rail, a rule or a presence detection. What is entered with
a guard is left when the guard is released, after success and after a fault alike: the lists are cut back to the
length they had, and the voltage is put back. A presence detection takes the rule chain and the voltage away and
puts them back itself.

`execute` gives up where work would nest deeper than allowed; everything it does otherwise is done by `body`,
which leaves nested work to its argument. -/

namespace PowerRails

/-- What a guard puts back when it is released. -/
inductive Guard where
  | scopes (length : Nat)
  | ruleChain (length : Nat)
  | volts (volts : Option Binary64)

/-- All that actions share while they are carried out. -/
structure Environment (σ : Type) where
  plant : Plant σ
  cycle : Cycle
  maxRuleDepth : Nat
  earlier : Captures := {}
  sensorsService : Option String := none
  held : List String := []
  /-- The scope that is never left. -/
  base : Scope
  /-- The scopes entered since, the active one last. -/
  entered : List Scope := []
  ruleChain : List String := []
  volts : Option Binary64 := none
  /-- The devices whose presence is being found out, the outermost first. -/
  detecting : List String := []
  state : State σ

/-- Something that is done to an environment. There is no outcome where it would nest too deep. -/
def Guarded (σ α : Type) : Type := Environment σ → Option (Except Fault α × Environment σ)

section
variable {σ α β : Type}

namespace Environment

/-- All scopes that are active, the innermost last. -/
def scopes (env : Environment σ) : List Scope := env.base :: env.entered

/-- What an action can see of an environment. -/
def context (env : Environment σ) : Context σ where
  plant := env.plant
  cycle := env.cycle
  maxRuleDepth := env.maxRuleDepth
  earlier := env.earlier
  sensorsService := env.sensorsService
  scope := env.scopes.getLast (List.cons_ne_nil _ _)
  outer := env.scopes.dropLast.reverse
  ruleChain := env.ruleChain
  detecting := env.detecting
  held := env.held
  volts := env.volts

/-- The environment with another state. -/
def withState (env : Environment σ) (state : State σ) : Environment σ := { env with state }

/-- The environment with one more scope, as the innermost one. -/
def push (env : Environment σ) (scope : Scope) : Environment σ := { env with entered := env.entered ++ [scope] }

/-- Puts back what a guard has kept: the scopes and the rules above a height, and the voltage itself. -/
def release (env : Environment σ) : Guard → Environment σ
  | .scopes length => { env with entered := env.entered.take length }
  | .ruleChain length => { env with ruleChain := env.ruleChain.take length }
  | .volts volts => { env with volts }

/-- Enters a device, or a rail of it, if the plant has it. -/
def enterDevice (device : String) (rail : Option String) (env : Environment σ) :
    Except Fault (Guard × Environment σ) := do
  env.context.requireScope device rail
  pure (.scopes env.entered.length, env.push ⟨device, rail⟩)

/-- Enters a rail of the active device, if it has it. -/
def enterRail (rail : String) (env : Environment σ) : Except Fault (Guard × Environment σ) := do
  let device ← env.context.device
  Context.requireRail device rail
  pure (.scopes env.entered.length, env.push ⟨device.id, some rail⟩)

/-- Enters a rule, if the chain of active rules allows it. -/
def enterRule (rule : String) (env : Environment σ) : Except Fault (Guard × Environment σ) := do
  env.context.requireCallable rule
  pure (.ruleChain env.ruleChain.length, { env with ruleChain := env.ruleChain ++ [rule] })

/-- Puts the voltage of a configuration in the place of the one before. -/
def enterVolts (volts : Option Binary64) (env : Environment σ) : Except Fault (Guard × Environment σ) :=
  pure (.volts env.volts, { env with volts })

end Environment

namespace Guarded

/-- Answers without doing anything. -/
protected def pure (a : α) : Guarded σ α := fun env => some (.ok a, env)

/-- One thing after another, as long as there is no fault. -/
protected def bind (x : Guarded σ α) (f : α → Guarded σ β) : Guarded σ β := fun env =>
  match x env with
  | some (.ok a, env) => f a env
  | some (.error fault, env) => some (.error fault, env)
  | none => none

instance : Monad (Guarded σ) where
  pure := Guarded.pure
  bind := Guarded.bind

/-- Faults pass one more frame. -/
def framed (frame : Frame) (x : Guarded σ α) : Guarded σ α := fun env =>
  (x env).map fun (outcome, env) => (outcome.mapError (·.within frame), env)

/-- Work on the state that enters nothing. -/
def leaf (x : Context σ → Op σ α) : Guarded σ α := fun env =>
  let (outcome, state) := x env.context env.state
  some (outcome, env.withState state)

/-- Work between entering something and leaving it again. -/
def within (enter : Environment σ → Except Fault (Guard × Environment σ)) (x : Guarded σ α) : Guarded σ α :=
  fun env =>
    match enter env with
    | .error fault => some (.error fault, env)
    | .ok (guard, inner) => (x inner).map fun (outcome, env) => (outcome, env.release guard)

/-- A presence detection, detached from what asked. The outcome is a value, so that a fault stops nothing. -/
def detached (id : String) (x : Guarded σ α) : Guarded σ (Except Fault α) := fun env =>
  let { ruleChain, volts, .. } := env
  let inner := { env with detecting := env.detecting ++ [id], ruleChain := [], volts := none }
  (within (Environment.enterDevice id none) x inner).map fun (outcome, env) =>
    (.ok outcome, { env with ruleChain, volts, detecting := env.detecting.dropLast })

/-- Has `nested` carry out the actions of a rule, within its guard. -/
def callRule (nested : Task → Guarded σ Bool) (id : String) : Guarded σ Bool := fun env =>
  match env.plant.rule? id with
  | none => leaf (fun _ => Op.fail ⟨.ruleNotFound id, []⟩) env
  | some rule => within (Environment.enterRule id) (framed (.rule id) (nested (.inOrder rule.actions))) env

/-- Whether a device is there. Its detection is detached from what asked, and left to `nested`. -/
def resolvePresence (nested : Task → Guarded σ Bool) (id : String) : Guarded σ Bool := fun env =>
  match env.state.presence.get? id env.cycle with
  | some present => leaf (fun _ => pure present) env
  | none =>
    match env.plant.device? id with
    | none => leaf (fun _ => Op.fail ⟨.deviceNotFound id, []⟩) env
    | some device =>
      if id ∈ env.detecting then
        leaf (fun _ => Op.fail
          (.invalidAction "presence_detection" s!"presence of device \"{id}\" depends on itself")) env
      else
        match device.detection with
        | none => leaf (fun ctx => ctx.keepPresence id true) env
        | some detection =>
          (do
            leaf fun _ => Op.note (.detection id)
            let outcome ← detached id (nested (.inOrder detection))
            leaf fun ctx => do ctx.keepPresence id (← Context.detectionVerdict id outcome) : Guarded σ Bool) env

/-- Carries out an action and leaves what it is made of to `nested`. -/
def perform (nested : Task → Guarded σ Bool) : Action → Guarded σ Bool
  | .allOf as => nested (.every as.toList)
  | .anyOf as => nested (.any as.toList)
  | .negation a => do pure (!(← nested (.action a)))
  | .branch condition consequent alternative => do
    if ← nested (.action condition) then nested (.inOrder consequent)
    else
      match alternative with
      | some as => nested (.inOrder as)
      | none => pure true
  | .runRule rule => nested (.rule rule)
  | .inDevice device rail as =>
    framed (.action (Action.inDevice device rail as).text) do
      if ← nested (.presence device) then within (Environment.enterDevice device rail) (nested (.inOrder as))
      else
        leaf fun ctx =>
          ctx.addFinding .notice "device_not_present" none s!"skipped actions for absent device \"{device}\""
        pure false
  | .inRail rail as =>
    framed (.action (Action.inRail rail as).text) (within (Environment.enterRail rail) (nested (.inOrder as)))
  | .comparePresence device expected =>
    framed (.action (Action.comparePresence device expected).text) do
      pure ((← nested (.presence device)) == expected)
  | .compareRegister c => framed (.action c.text) (leaf fun ctx => ctx.compareRegister c)
  | .writeRegister w => framed (.action w.text) (leaf fun ctx => ctx.writeRegister w)
  | .capture b => framed (.action b.text) (leaf fun ctx => ctx.captureBlock b)
  | .readSensor r => framed (.action r.text) (leaf fun ctx => ctx.readSensor r)
  | .logFinding l => framed (.action l.text) (leaf fun ctx => ctx.logFinding l)
  | .setVout c => framed (.action c.text) (leaf fun ctx => ctx.setVout c)

/-- Carries out a task and leaves what it consists of to `nested`. -/
def body (nested : Task → Guarded σ Bool) : Task → Guarded σ Bool
  | .action a => perform nested a
  | .every [] => pure true
  | .every (a :: as) => do if ← nested (.action a) then nested (.every as) else pure false
  | .any [] => pure false
  | .any (a :: as) => do if ← nested (.action a) then pure true else nested (.any as)
  | .inOrder ⟨a, []⟩ => nested (.action a)
  | .inOrder ⟨a, b :: bs⟩ => do
    let _ ← nested (.action a)
    nested (.inOrder ⟨b, bs⟩)
  | .rule id => callRule nested id
  | .presence id => resolvePresence nested id

/-- Carries out a task, if its work nests less deep than `depth`. -/
def execute (depth : Nat) (t : Task) : Guarded σ Bool :=
  match depth with
  | 0 => fun _ => none
  | depth + 1 => body (execute depth) t

end Guarded
end
end PowerRails
