import PowerRails.Execution

/-! # Visiting devices

A device is configured, or monitored, by its own actions first and then rail by rail; the first fault stops it.
A visit finds out whether the device is there before anything else, and keeps account of how far it comes. -/

namespace PowerRails

namespace Context

variable {σ : Type}

/-- Applies a configuration: its voltage, or that it has none, holds for its actions. -/
def applyConfiguration (ctx : Context σ) (c : Configuration) : Op σ Bool := (ctx.withVolts c.volts).inOrder c.actions

/-- Carries something out on a rail of the active device. -/
def onRail (ctx : Context σ) (rail : String) (body : Context σ → Op σ Bool) : Op σ Unit :=
  Op.framed (.rail rail) do
    Op.ofExcept (ctx.requireActiveRail rail)
    let _ ← body (ctx.inRail rail)

/-- Configures a rail of the active device, if it has a configuration. -/
def configureRail (ctx : Context σ) (r : Rail) : Op σ Unit :=
  match r.configuration with
  | none => pure ()
  | some c => ctx.onRail r.id (·.applyConfiguration c)

/-- Monitors a rail of the active device, if it has anything to monitor. Whoever was told of the start is told of the
end, whether or not the monitoring fails. -/
def monitorRail (ctx : Context σ) (r : Rail) : Op σ Unit :=
  match r.monitoring with
  | none => pure ()
  | some procedure => do
    Op.framed (.rail r.id) (ctx.startRail r.id)
    let outcome ← Op.attempt (ctx.onRail r.id (·.inOrder procedure))
    ctx.endRail (outcome matches .error _)
    Op.ofExcept outcome

/-- Does something for each rail in turn. -/
def eachRail (act : Rail → Op σ Unit) : List Rail → Op σ Unit
  | [] => pure ()
  | r :: rs => do
    act r
    eachRail act rs

/-- Applies the configuration of a device, if it has one, and then those of its rails. -/
def configureDevice (ctx : Context σ) (d : Device σ) : Op σ Unit :=
  Op.framed (.device d.id) do
    match d.configuration with
    | none => eachRail ctx.configureRail d.rails
    | some c => do
      let _ ← ctx.applyConfiguration c
      eachRail ctx.configureRail d.rails

/-- Has a device monitored, if it is to be, and then its rails. -/
def monitorDevice (ctx : Context σ) (d : Device σ) : Op σ Unit :=
  Op.framed (.device d.id) do
    match d.monitoring with
    | none => eachRail ctx.monitorRail d.rails
    | some procedure => do
      let _ ← ctx.inOrder procedure
      eachRail ctx.monitorRail d.rails

/-- What a run of a kind does with a device that is there. -/
def work (ctx : Context σ) : RunKind → Device σ → Op σ Unit
  | .configure => ctx.configureDevice
  | .monitor => ctx.monitorDevice

end Context

/-- The stage of a device that a run of some kind works on. -/
def RunKind.stage : RunKind → Stage
  | .configure => .configuring
  | .monitor => .monitoring

/-- The row after a step that may be refused. -/
def DeviceRow.toward (row : DeviceRow) (next : Stage) : DeviceRow := (row.advance next).2

/-- How a visit ended: with a fault or without, in which row, and in which state. -/
structure VisitOutcome (σ : Type) where
  fault : Option Fault
  row : DeviceRow
  state : State σ

/-- Visits a device. Nothing is done with a device that is absent. -/
def Context.visit {σ : Type} (ctx : Context σ) (kind : RunKind) (d : Device σ) (row : DeviceRow) (s : State σ) :
    VisitOutcome σ :=
  match Op.framed (.device d.id) (ctx.resolvePresence d.id) s with
  | (.error fault, s) => ⟨some fault, row, s⟩
  | (.ok false, s) =>
    let row := { row with present := some false }.toward .presenceResolved
    ⟨none, row.toward .done, (Op.note (.log (.deviceSkipped d.id)) s).2⟩
  | (.ok true, s) =>
    let row := ({ row with present := some true }.toward .presenceResolved).toward kind.stage
    match (do Op.note (.log (.deviceVisited kind d.id)); ctx.work kind d : Op σ Unit) s with
    | (.error fault, s) => ⟨some fault, row, s⟩
    | (.ok _, s) => ⟨none, row.toward .done, s⟩

section
variable {σ : Type} {ctx : Context σ} {kind : RunKind} {d : Device σ} {row : DeviceRow} {s t u : State σ}

theorem Context.visit_of_fault {fault : Fault} (h : ctx.resolvePresence d.id s = (.error fault, t)) :
    ctx.visit kind d row s = ⟨some (fault.within (.device d.id)), row, t⟩ := by
  unfold visit
  rw [Op.framed_of_error h]

theorem Context.visit_of_absent (h : ctx.resolvePresence d.id s = (.ok false, t)) :
    ctx.visit kind d row s =
      ⟨none, ({ row with present := some false }.toward .presenceResolved).toward .done,
        (Op.note (.log (.deviceSkipped d.id)) t).2⟩ := by
  unfold visit
  rw [Op.framed_of_ok h]

theorem Context.visit_of_work_fault {fault : Fault} (h : ctx.resolvePresence d.id s = (.ok true, t))
    (hw : (Op.note (.log (.deviceVisited kind d.id)) >>= fun _ => ctx.work kind d) t = (.error fault, u)) :
    ctx.visit kind d row s =
      ⟨some fault, ({ row with present := some true }.toward .presenceResolved).toward kind.stage, u⟩ := by
  unfold visit
  rw [Op.framed_of_ok h]
  simp only [hw]

theorem Context.visit_of_work (h : ctx.resolvePresence d.id s = (.ok true, t))
    (hw : (Op.note (.log (.deviceVisited kind d.id)) >>= fun _ => ctx.work kind d) t = (.ok (), u)) :
    ctx.visit kind d row s =
      ⟨none, (({ row with present := some true }.toward .presenceResolved).toward kind.stage).toward .done, u⟩ := by
  unfold visit
  rw [Op.framed_of_ok h]
  simp only [hw]

end
end PowerRails
