import PowerRails.Action.Text
import PowerRails.Environment.Hardware
import PowerRails.Environment.Recording

/-! # Carrying out actions

`Context.perform` carries out an action and `Context.resolvePresence` finds out whether a device is there; each
may need the other, and both may call rules. They end for every plant, also one whose rules call themselves or
whose devices ask for each other's presence: a presence detection is never entered while it is under way, nor,
within one detection, a rule; and all else works on parts of an action. -/

namespace PowerRails.Context

variable {σ : Type}

/-! ### Single actions -/

/-- The value an operand stands for. -/
def operandValue (operand : Operand) : Op σ Int :=
  match operand with
  | .literal value => pure value
  | .sensor name => do
    match Reading.latest? (← Op.state).readings name with
    | some value => pure value
    | none => Op.fail (.invalidAction "compare_register" s!"no sensor value named \"{name}\" has been read")

/-- Reads a register and compares it. The register is read before the operand is looked up. -/
def compareRegister (ctx : Context σ) (c : RegisterComparison) : Op σ Bool := do
  let bytes ← ctx.readBlock c.register c.format.byteLength
  let expected ← operandValue c.operand
  pure (c.comparison.holds (c.format.decode bytes c.mask) expected)

/-- The bytes that a write stores: its data, or under a mask the register's contents merged with them. -/
def bytesToWrite (ctx : Context σ) (w : RegisterWrite) : Op σ Bytes :=
  match w.mask with
  | none => pure w.data
  | some mask => do
    let current ← ctx.readBlock w.register w.data.length
    pure (RegisterWrite.merge current w.data mask)

/-- Writes a register; under a mask its contents are read first. -/
def writeRegister (ctx : Context σ) (w : RegisterWrite) : Op σ Bool := do
  let bytes ← ctx.bytesToWrite w
  ctx.writeBlock w.register bytes
  pure true

/-- Reads a register and keeps its contents for the report. -/
def captureBlock (ctx : Context σ) (b : BlockRead) : Op σ Bool := do
  let bytes ← ctx.readBlock b.register b.count
  let _ ← ctx.capture b.register bytes
  pure true

/-- Reads a register and records its value as a reading. -/
def readSensor (ctx : Context σ) (r : SensorRead) : Op σ Bool := do
  let bytes ← ctx.readBlock r.register r.format.byteLength
  ctx.recordReading r.name r.kind (r.format.decode bytes r.format.fullMask)
  pure true

/-- The bytes that go with a logged finding, if it asks for any. -/
def bytesToLog (ctx : Context σ) (l : FindingLog) : Op σ (Option Bytes) :=
  match l.capture with
  | none => pure none
  | some b => do pure (some (← ctx.readBlock b.register b.count))

/-- Logs a finding, with the contents of a register if it asks for them. -/
def logFinding (ctx : Context σ) (l : FindingLog) : Op σ Bool := do
  let captured ← ctx.bytesToLog l
  ctx.addFinding l.severity l.code captured l.message
  pure true

/-- The exponent of an output-voltage command: its own, or the one the device tells. -/
def voutExponent (ctx : Context σ) (c : VoutCommand) : Op σ Int :=
  match c.exponent with
  | some exponent => pure exponent
  | none => do Op.ofExcept (Linear16.exponentOfMode (← ctx.readByte Linear16.modeRegister))

/-- Accepts what was read back if it is what was written. -/
def confirmWrite (ctx : Context σ) (register : UInt8) (data actual : Bytes) : Op σ Bool :=
  if actual = data then pure true else Op.fail ⟨.writeMismatch ctx.scope.device register data actual, []⟩

/-- Sets the output voltage. Voltage, exponent and encoding are settled, in this order, before anything is written;
the voltage is the command's own, or that of the configuration being applied. -/
def setVout (ctx : Context σ) (c : VoutCommand) : Op σ Bool :=
  match c.volts.or ctx.volts with
  | none => Op.fail (.invalidAction Linear16.action "no volts value defined by the action or configuration")
  | some volts => do
    let exponent ← ctx.voutExponent c
    let word ← Op.ofExcept (Linear16.encode volts exponent)
    let data := Linear16.wordBytes word
    ctx.writeBlock Linear16.commandRegister data
    if c.verify then
      let actual ← ctx.readBlock Linear16.commandRegister data.length
      ctx.confirmWrite Linear16.commandRegister data actual
    else pure true

/-- What the outcome of a presence detection says. A detection that failed says that the device is absent, and leaves a
finding about it. -/
def detectionVerdict (id : String) : Except Fault Bool → Op σ Bool
  | .ok present => pure present
  | .error fault => do
    Op.note (.log (.detectionFailed id fault))
    pushFinding { severity := .warning, code := "presence_detection_failed", device := id, message := fault.text }
    pure false

/-- Keeps the presence of a device for the rest of the cycle. -/
def keepPresence (ctx : Context σ) (id : String) (present : Bool) : Op σ Bool := do
  Op.update fun s => { s with presence := s.presence.insert id present ctx.cycle }
  pure present

/-! ### Whole trees -/

/-- The devices whose presence detection is not under way. -/
def undetected (ctx : Context σ) : Nat := (ctx.plant.devices.filter fun d => d.id ∉ ctx.detecting).length

/-- The rules that are not under way. -/
def uncalled (ctx : Context σ) : Nat := (ctx.plant.rules.filter fun r => r.id ∉ ctx.ruleChain).length

theorem length_filter_lt {α : Type} {p q : α → Bool} {l : List α} {a : α} (hpq : ∀ x, p x = true → q x = true)
    (ha : a ∈ l) (hp : p a = false) (hq : q a = true) : (l.filter p).length < (l.filter q).length := by
  induction l with
  | nil => cases ha
  | cons x l ih =>
    have hle : (l.filter p).length ≤ (l.filter q).length := by
      simp only [← List.countP_eq_length_filter]
      exact List.countP_mono_left fun x _ => hpq x
    rcases List.mem_cons.mp ha with rfl | ha
    · simp only [List.filter_cons, hp, hq, if_true, Bool.false_eq_true, if_false, List.length_cons]
      omega
    · have := ih ha
      cases hx : p x
      · cases hy : q x <;> simp [hx, hy] <;> omega
      · simp [hx, hpq x hx, this]

theorem undetected_detached {ctx : Context σ} {id : String} {d : Device σ} (hd : ctx.plant.device? id = some d)
    (hnew : id ∉ ctx.detecting) : (ctx.detached id).undetected < ctx.undetected := by
  obtain ⟨hmem, rfl⟩ := Plant.device?_eq_some hd
  refine length_filter_lt (a := d) (fun x hx => ?_) hmem ?_ ?_
  · simp only [detached, enter, List.mem_append, not_or, decide_eq_true_eq] at hx ⊢
    exact hx.1
  · simp [detached]
  · simpa using hnew

theorem uncalled_inRule {ctx : Context σ} {id : String} {r : Rule} (hr : ctx.plant.rule? id = some r)
    (hnew : id ∉ ctx.ruleChain) : (ctx.inRule id).uncalled < ctx.uncalled := by
  obtain ⟨hmem, rfl⟩ := Plant.rule?_eq_some hr
  refine length_filter_lt (a := r) (fun x hx => ?_) hmem ?_ ?_
  · simp only [inRule, List.mem_append, not_or, decide_eq_true_eq] at hx ⊢
    exact hx.1
  · simp [inRule]
  · simpa using hnew

theorem not_mem_of_requireCallable {ctx : Context σ} {id : String} {u : Unit} (h : ctx.requireCallable id = .ok u) :
    id ∉ ctx.ruleChain := by
  intro hmem
  simp [requireCallable, hmem] at h

-- The hypotheses that the matches name are for the termination proofs.
set_option linter.unusedVariables false in
mutual

/-- Carries out an action and answers yes or no. Faults of single actions, and of actions that work elsewhere, pass
a frame with the text of the action; combinators add none. -/
def perform (ctx : Context σ) : Action → Op σ Bool
  | .allOf as => ctx.everyOf as.toList
  | .anyOf as => ctx.someOf as.toList
  | .negation a => do pure (!(← ctx.perform a))
  | .branch condition consequent alternative => do
    if ← ctx.perform condition then ctx.inOrder consequent
    else
      match alternative with
      | some as => ctx.inOrder as
      | none => pure true
  | .runRule rule => ctx.callRule rule
  | .inDevice device rail as =>
    Op.framed (.action (Action.inDevice device rail as).text) do
      if ← ctx.resolvePresence device then
        Op.ofExcept (ctx.requireScope device rail)
        (ctx.enter ⟨device, rail⟩).inOrder as
      else
        ctx.addFinding .notice "device_not_present" none s!"skipped actions for absent device \"{device}\""
        pure false
  | .inRail rail as =>
    Op.framed (.action (Action.inRail rail as).text) do
      Op.ofExcept (ctx.requireActiveRail rail)
      (ctx.inRail rail).inOrder as
  | .comparePresence device expected =>
    Op.framed (.action (Action.comparePresence device expected).text) do
      pure ((← ctx.resolvePresence device) == expected)
  | .compareRegister c => Op.framed (.action c.text) (ctx.compareRegister c)
  | .writeRegister w => Op.framed (.action w.text) (ctx.writeRegister w)
  | .capture b => Op.framed (.action b.text) (ctx.captureBlock b)
  | .readSensor r => Op.framed (.action r.text) (ctx.readSensor r)
  | .logFinding l => Op.framed (.action l.text) (ctx.logFinding l)
  | .setVout c => Op.framed (.action c.text) (ctx.setVout c)
  termination_by a => (ctx.undetected, ctx.uncalled, sizeOf a)

/-- Carries out actions up to the first one that answers no. -/
def everyOf (ctx : Context σ) : List Action → Op σ Bool
  | [] => pure true
  | a :: as => do if ← ctx.perform a then ctx.everyOf as else pure false
  termination_by as => (ctx.undetected, ctx.uncalled, sizeOf as)

/-- Carries out actions up to the first one that answers yes. -/
def someOf (ctx : Context σ) : List Action → Op σ Bool
  | [] => pure false
  | a :: as => do if ← ctx.perform a then pure true else ctx.someOf as
  termination_by as => (ctx.undetected, ctx.uncalled, sizeOf as)

/-- Carries out all actions of a procedure, and answers with the last answer. -/
def inOrder (ctx : Context σ) : Procedure → Op σ Bool
  | ⟨a, []⟩ => ctx.perform a
  | ⟨a, b :: bs⟩ => do
    let _ ← ctx.perform a
    ctx.inOrder ⟨b, bs⟩
  termination_by as => (ctx.undetected, ctx.uncalled, sizeOf as)

/-- Carries out the rule with an identifier, as one more rule under way. Faults of its actions pass its frame; the
refusal to call it does not. -/
def callRule (ctx : Context σ) (id : String) : Op σ Bool :=
  match hr : ctx.plant.rule? id with
  | none => Op.fail ⟨.ruleNotFound id, []⟩
  | some rule =>
    match hc : ctx.requireCallable id with
    | .error fault => Op.fail fault
    | .ok _ => Op.framed (.rule id) ((ctx.inRule id).inOrder rule.actions)
  termination_by (ctx.undetected, ctx.uncalled, 0)
  decreasing_by exact Prod.Lex.right _ (Prod.Lex.left _ _ (uncalled_inRule hr (not_mem_of_requireCallable hc)))

/-- Whether a device is there in this cycle. The first to ask in a cycle has the presence detection of the device
carried out, detached from whatever asked, and the answer is kept for all others. A device without detection is
there. -/
def resolvePresence (ctx : Context σ) (id : String) : Op σ Bool := do
  match (← Op.state).presence.get? id ctx.cycle with
  | some present => pure present
  | none =>
    match hd : ctx.plant.device? id with
    | none => Op.fail ⟨.deviceNotFound id, []⟩
    | some device =>
      if hnew : id ∈ ctx.detecting then
        Op.fail (.invalidAction "presence_detection" s!"presence of device \"{id}\" depends on itself")
      else
        match device.detection with
        | none => ctx.keepPresence id true
        | some detection => do
          Op.note (.detection id)
          let outcome ← Op.attempt ((ctx.detached id).inOrder detection)
          ctx.keepPresence id (← detectionVerdict id outcome)
  termination_by (ctx.undetected, ctx.uncalled, 0)
  decreasing_by exact Prod.Lex.left _ _ (undetected_detached hd hnew)

end

end PowerRails.Context
