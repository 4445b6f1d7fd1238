import Mathlib.Data.List.DropRight
import PowerRails.Proofs.Streaks

/-! # Debouncing

Calls from outside, changes of the settings and of the hardware follow on one another in any order. A streak of a
device is a stretch of them in which it is never monitored with success and no streaks are cleared. The failures in
it, each under the limit in force, settle what is told of each of them and what the controller knows of the streak. -/

namespace PowerRails

/-- What may happen between two looks at a controller. -/
inductive Event (σ : Type) where
  | step (step : Step)
  | settings (settings : Settings)
  /-- The hardware does something by itself. -/
  | hardware (change : σ → σ)

/-- An event, and the controller that it happens to. -/
structure Moment (σ : Type) where
  controller : Controller σ
  event : Event σ

section
variable {σ : Type}

namespace Controller

/-- The controller after an event. -/
def occur (ctl : Controller σ) : Event σ → Controller σ
  | .step step => (ctl.act step).1
  | .settings settings => { ctl with settings }
  | .hardware change => { ctl with hardware := change ctl.hardware }

/-- The controller after some events. -/
def occurs (ctl : Controller σ) (events : List (Event σ)) : Controller σ := events.foldl occur ctl

/-- The events in order, each with the controller that it happens to. -/
def moments (ctl : Controller σ) : List (Event σ) → List (Moment σ)
  | [] => []
  | e :: es => ⟨ctl, e⟩ :: (ctl.occur e).moments es

end Controller

namespace Moment

/-- Monitoring a device fails. -/
def fails (m : Moment σ) (device : String) : Bool :=
  match m.event with
  | .step .monitor => m.controller.fails device
  | _ => false

/-- The streak of a device is over: it is monitored with success while it is there, or all streaks are cleared. -/
def ends (m : Moment σ) (device : String) : Bool :=
  match m.event with
  | .step .monitor => m.controller.passes device
  | .step .clearStreaks => true
  | _ => false

end Moment

namespace Controller

/-- The failures in the last streak of a device after some events: the controllers that were about to monitor it. -/
def failures (ctl : Controller σ) (device : String) (events : List (Event σ)) : List (Controller σ) :=
  (((ctl.moments events).rtakeWhile fun m => !m.ends device).filter (·.fails device)).map (·.controller)

/-- The limits under which some failures happened. -/
def limits (failures : List (Controller σ)) : List Nat := failures.map (·.settings.maxMonitorErrors)

/-- What is told of the failures in a streak of a device, and what is known of the streak. -/
structure Debounces (ctl : Controller σ) (device : String) (failures : List (Controller σ)) : Prop where
  streak : ctl.streak device = .after (limits failures)
  told : ∀ before f after, failures = before ++ f :: after →
    f.Tells device (FailureStreak.escalation (limits before) f.settings.maxMonitorErrors).severity?

variable {ctl : Controller σ}

theorem plant_occur (ctl : Controller σ) (e : Event σ) : (ctl.occur e).plant = ctl.plant := by
  cases e with
  | step step => cases step <;> rfl
  | settings => rfl
  | hardware => rfl

theorem occurs_concat (ctl : Controller σ) (es : List (Event σ)) (e : Event σ) :
    ctl.occurs (es ++ [e]) = (ctl.occurs es).occur e := List.foldl_concat _ _ _ _

theorem plant_occurs (ctl : Controller σ) (es : List (Event σ)) : (ctl.occurs es).plant = ctl.plant := by
  induction es using List.reverseRecOn with
  | nil => rfl
  | append_singleton es e ih => rw [occurs_concat, plant_occur, ih]

theorem moments_concat (ctl : Controller σ) (es : List (Event σ)) (e : Event σ) :
    ctl.moments (es ++ [e]) = ctl.moments es ++ [⟨ctl.occurs es, e⟩] := by
  induction es generalizing ctl with
  | nil => rfl
  | cons e' es ih => exact congrArg (⟨ctl, e'⟩ :: ·) (ih (ctl.occur e'))

theorem failures_concat (ctl : Controller σ) (device : String) (es : List (Event σ)) (e : Event σ) :
    ctl.failures device (es ++ [e]) =
      if (Moment.mk (ctl.occurs es) e).ends device then []
      else ctl.failures device es ++ if (Moment.mk (ctl.occurs es) e).fails device then [ctl.occurs es] else [] := by
  unfold failures
  rw [moments_concat, List.rtakeWhile_concat]
  cases (Moment.mk (ctl.occurs es) e).ends device with
  | true => rfl
  | false =>
    cases hf : (Moment.mk (ctl.occurs es) e).fails device <;> simp [hf]

/-- Monitoring that fails goes on with the streak of the device. -/
theorem failures_concat_monitor {device : String} {es : List (Event σ)} (h : (ctl.occurs es).fails device = true) :
    ctl.failures device (es ++ [.step .monitor]) = ctl.failures device es ++ [ctl.occurs es] := by
  have hends : (Moment.mk (ctl.occurs es) (.step .monitor)).ends device = false := passes_of_fails h
  have hfails : (Moment.mk (ctl.occurs es) (.step .monitor)).fails device = true := h
  rw [failures_concat, hends, hfails]
  rfl

/-- Whatever happens, presence results are of runs that have been. -/
theorem dated_occurs (h : ctl.Dated) (es : List (Event σ)) : (ctl.occurs es).Dated := by
  induction es using List.reverseRecOn with
  | nil => exact h
  | append_singleton es e ih =>
    rw [occurs_concat]
    cases e with
    | step step => exact dated_act ih step
    | settings => exact ih
    | hardware => exact ih

/-- An event that ends the streak of a device leaves nothing of it. -/
theorem debounces_of_ends (hvalid : ctl.plant.validate = .ok ()) {d : Device σ} (hd : d ∈ ctl.plant.devices)
    {e : Event σ} (h : (Moment.mk ctl e).ends d.id = true) : (ctl.occur e).Debounces d.id [] := by
  refine ⟨?_, fun before f after hsplit => by simp at hsplit⟩
  cases e with
  | step step =>
    cases step with
    | monitor =>
      have hpasses : ctl.passes d.id = true := h
      cases monitors hvalid hd with
      | failed hrow _ hstage => simp [passes, hrow, hstage] at hpasses
      | passed _ _ _ hstreak => exact hstreak
      | absent hrow hpresent => simp [passes, hrow, hpresent] at hpasses
    | clearStreaks => rfl
    | configure => cases h
    | closeDevices => cases h
  | settings => cases h
  | hardware => cases h

/-- An event that does not end the streak of a device goes on with it, by one failure or by none. -/
theorem debounces_occur (hvalid : ctl.plant.validate = .ok ()) {d : Device σ} (hd : d ∈ ctl.plant.devices)
    {e : Event σ} (hends : (Moment.mk ctl e).ends d.id = false) {fs : List (Controller σ)}
    (hcount : (Moment.mk ctl e).fails d.id = true → fs.length < FailureStreak.maxCount) (h : ctl.Debounces d.id fs) :
    (ctl.occur e).Debounces d.id (fs ++ if (Moment.mk ctl e).fails d.id then [ctl] else []) := by
  have quiet : (Moment.mk ctl e).fails d.id = false → (ctl.occur e).streak d.id = ctl.streak d.id →
      (ctl.occur e).Debounces d.id (fs ++ if (Moment.mk ctl e).fails d.id then [ctl] else []) := by
    intro hfails hstreak
    rw [hfails, if_neg Bool.false_ne_true, List.append_nil]
    exact ⟨hstreak.trans h.streak, h.told⟩
  cases e with
  | step step =>
    cases step with
    | monitor =>
      cases monitors hvalid hd with
      | failed hrow _ hstage htells hstreak =>
        have hfails : (Moment.mk ctl (.step .monitor)).fails d.id = true := by
          simp [Moment.fails, fails, hrow, hstage]
        have hbelow : (limits fs).length < FailureStreak.maxCount := by simpa [limits] using hcount hfails
        rw [h.streak, FailureStreak.recordFailure_after hbelow] at htells hstreak
        rw [hfails, if_pos rfl]
        refine ⟨hstreak.trans ?_, fun before f after hsplit => ?_⟩
        · simp [limits]
        · rcases List.eq_nil_or_concat after with rfl | ⟨after, last, rfl⟩
          · obtain ⟨rfl, hlast⟩ := List.append_inj' hsplit rfl
            cases hlast
            exact htells
          · rw [List.concat_eq_append, ← List.cons_append, ← List.append_assoc] at hsplit
            exact h.told before f after (List.append_inj' hsplit rfl).1
      | passed hrow hpresent hstage =>
        have hpasses : (Moment.mk ctl (.step .monitor)).ends d.id = true := by
          simp [Moment.ends, passes, hrow, hpresent, hstage]
        cases hpasses.symm.trans hends
      | absent hrow _ hstage hstreak => exact quiet (by simp [Moment.fails, fails, hrow, hstage]) hstreak
    | clearStreaks => cases hends
    | configure => exact quiet rfl (ctl.streak_configure d.id)
    | closeDevices => exact quiet rfl rfl
  | settings => exact quiet rfl rfl
  | hardware => exact quiet rfl rfl

/-- From the beginning on, a controller knows of each device the failures in its last streak. -/
theorem debounces_occurs (hvalid : ctl.plant.validate = .ok ()) (hnone : ctl.streaks = {}) {d : Device σ}
    (hd : d ∈ ctl.plant.devices) (es : List (Event σ))
    (hcount : (ctl.failures d.id es).length ≤ FailureStreak.maxCount) :
    (ctl.occurs es).Debounces d.id (ctl.failures d.id es) := by
  induction es using List.reverseRecOn with
  | nil =>
    refine ⟨?_, fun before f after hsplit => by simp [failures, moments] at hsplit⟩
    show ctl.streak d.id = {}
    rw [streak, hnone]
    rfl
  | append_singleton es e ih =>
    have hplant := ctl.plant_occurs es
    rw [failures_concat] at hcount
    rw [occurs_concat, failures_concat]
    cases hends : (Moment.mk (ctl.occurs es) e).ends d.id with
    | true =>
      rw [if_pos rfl]
      exact debounces_of_ends (hplant ▸ hvalid) (hplant ▸ hd) hends
    | false =>
      rw [hends, if_neg Bool.false_ne_true, List.length_append] at hcount
      rw [if_neg Bool.false_ne_true]
      refine debounces_occur (hplant ▸ hvalid) (hplant ▸ hd) hends (fun hfails => ?_) (ih (by omega))
      rw [hfails, if_pos rfl, List.length_singleton] at hcount
      exact hcount

/-- What leaves the streak of a device as it is: configuring, monitoring that finds it absent, and all visits of other
devices. -/
structure Spares (ctl : Controller σ) (device : String) : Prop where
  configuring : ctl.configure.1.streak device = ctl.streak device
  absent : (ctl.monitored? device).map (·.present) = some (some false) →
    ctl.monitor.1.streak device = ctl.streak device
  others : ∀ kind p (place : Chassis σ × Device σ), place.2.id ≠ device →
    (ctl.visitPlace kind ctl.cycles p place).streaks.get? device = p.streaks.get? device

theorem spares (hvalid : ctl.plant.validate = .ok ()) {d : Device σ} (hd : d ∈ ctl.plant.devices) :
    ctl.Spares d.id where
  configuring := ctl.streak_configure d.id
  absent habsent := by
    cases monitors hvalid hd with
    | failed hrow hpresent => simp [hrow, hpresent] at habsent
    | passed hrow hpresent => simp [hrow, hpresent] at habsent
    | absent _ _ _ hstreak => exact hstreak
  others _ p _ hne := (sameFor_visitPlace p hne).streak

/-- Faults are made errors of whenever a device is configured. -/
theorem configure_tells_errors (ctl : Controller σ) : ∃ r, ctl.configure.1.lastReport = some r ∧
    ∀ f ∈ r.faults, ∃ before place, ctl.TellsOf .configure before place f (some .error) := by
  refine ⟨_, rfl, fun f hf => ?_⟩
  obtain ⟨before, place, hfails⟩ := failsAt_of_mem hf
  exact ⟨before, place, hfails.tellsOf⟩

/-- Whatever has happened to the controller of a valid plant, as long as failures can be counted: each failure in the
streak of a device has been recorded once; a warning was made of it if no failure in the streak had reached its limit
by then, an error if it was the first to reach it, and nothing if it came later. The controller knows just the number
of these failures and whether the error has been made. Nothing else advances or ends a streak, and while configuring
every fault is an error. -/
theorem monitoring_debounces {plant : Plant σ} {hardware : σ} (h : make plant hardware = .ok ctl) {d : Device σ}
    (hd : d ∈ plant.devices) (events : List (Event σ))
    (hcount : (ctl.failures d.id events).length ≤ FailureStreak.maxCount) :
    (ctl.occurs events).Debounces d.id (ctl.failures d.id events) ∧ (ctl.occurs events).Spares d.id ∧
      ∃ r, (ctl.occurs events).configure.1.lastReport = some r ∧
        ∀ f ∈ r.faults, ∃ before place, (ctl.occurs events).TellsOf .configure before place f (some .error) := by
  unfold make at h
  cases hvalid : plant.validate with
  | error fault =>
    rw [hvalid] at h
    cases h
  | ok _ =>
    rw [hvalid] at h
    cases h
    have hplant := plant_occurs { plant, hardware } events
    exact ⟨debounces_occurs hvalid rfl hd events hcount, spares (hplant ▸ hvalid) (hplant ▸ hd),
      configure_tells_errors _⟩

end Controller
end

/-! ### A supply that always fails -/

/-- A supply that is monitored on a rail that it does not have. -/
def strayedSupply : Device RegisterFile where
  id := "psu"
  isRegulator := true
  inventoryPath := ""
  bus := RegisterFile.bus ⟨"i2c0", 0x40⟩
  monitoring := some ⟨.inRail "12v" ⟨.comparePresence "psu" true, []⟩, []⟩

/-- A controller of the supply. -/
def straying (settings : Settings) : Controller RegisterFile where
  plant := ⟨[⟨"chassis", "", [strayedSupply]⟩], []⟩
  hardware := {}
  settings

namespace Controller

/-- Monitoring the supply fails in every cycle and under all settings, whatever the hardware is. -/
theorem fails_straying {ctl : Controller RegisterFile} (hplant : ctl.plant = (straying {}).plant)
    (hdated : ctl.Dated) : ctl.fails "psu" = true := by
  obtain ⟨other, rfl⟩ : ∃ other : Controller RegisterFile, ctl = { other with plant := (straying {}).plant } :=
    ⟨ctl, by rw [← hplant]⟩
  let ctl : Controller RegisterFile := { other with plant := (straying {}).plant }
  let chassis : Chassis RegisterFile := ⟨"chassis", "", [strayedSupply]⟩
  let c := ctl.visitContext ctl.cycles {} "psu"
  let s : State RegisterFile := { hardware := ctl.hardware, presence := ctl.presence.insert "psu" true ctl.cycles }
  have hhere : c.resolvePresence "psu" { hardware := ctl.hardware, presence := ctl.presence } = (.ok true, s) :=
    (Context.resolvePresence_of_device (hdated.fresh "psu") rfl).trans rfl
  have hwork : ∃ fault, (Op.note (.log (.deviceVisited .monitor "psu")) >>= fun _ => c.work .monitor strayedSupply) s =
      (.error fault, (Op.note (.log (.deviceVisited .monitor "psu")) s).2) := by
    -- The rail is looked for first, so neither the hardware nor the history matters.
    show ∃ fault, c.monitorDevice strayedSupply _ = (.error fault, _)
    simp only [Context.monitorDevice, strayedSupply, Context.inOrder, Context.perform]
    exact ⟨_, rfl⟩
  obtain ⟨fault, hfault⟩ := hwork
  have hvisit :
      (ctl.visitOf .monitor ctl.cycles (ctl.progress .monitor []) (chassis, strayedSupply)).fault = some fault :=
    congrArg VisitOutcome.fault (Context.visit_of_work_fault hhere hfault)
  have hturn : ctl.plant.Turn [] (chassis, strayedSupply) [] := ⟨rfl, by simp, by simp⟩
  have hrow : ctl.monitored? "psu" = some _ := row?_turn hturn .monitor
  have hplace : (chassis, strayedSupply) ∈ ctl.plant.places := List.mem_cons_self
  obtain ⟨present, hsettles⟩ := settles .monitor (ctl.progress .monitor []) hplace
  have hstage := congrArg DeviceRow.stage hsettles.row
  rw [hvisit] at hstage
  show ctl.fails "psu" = true
  rw [fails, hrow, Option.any_some, hstage]
  rfl

/-- Under a limit of two the first failure is a warning, the second one is the error, and nothing is told of the
third. -/
theorem straying_debounces :
    let events : List (Event RegisterFile) :=
      [.settings { maxMonitorErrors := 2 }, .step .monitor, .step .monitor, .step .monitor]
    let first := straying { maxMonitorErrors := 2 }
    let second := first.monitor.1
    let third := second.monitor.1
    make (straying {}).plant {} = .ok (straying {}) ∧ (straying {}).failures "psu" events = [first, second, third] ∧
      ((straying {}).occurs events).streak "psu" = ⟨3, true⟩ ∧
      first.Tells "psu" (some .warning) ∧ second.Tells "psu" (some .error) ∧ third.Tells "psu" none := by
  intro events first second third
  have hmake : make (straying {}).plant {} = .ok (straying {}) := rfl
  have hfails : ∀ es, ((straying {}).occurs es).fails "psu" = true := fun es =>
    fails_straying (plant_occurs _ es) (dated_occurs (dated_make hmake) es)
  have hfailures : (straying {}).failures "psu" events = [first, second, third] := by
    let limited : List (Event RegisterFile) := [.settings { maxMonitorErrors := 2 }]
    calc (straying {}).failures "psu" (((limited ++ [.step .monitor]) ++ [.step .monitor]) ++ [.step .monitor])
        = (((straying {}).failures "psu" limited ++ [first]) ++ [second]) ++ [third] := by
          rw [failures_concat_monitor (hfails _), failures_concat_monitor (hfails _),
            failures_concat_monitor (hfails _)]
          rfl
      _ = [first, second, third] := rfl
  have hcount : ((straying {}).failures "psu" events).length ≤ FailureStreak.maxCount := by rw [hfailures]; decide
  obtain ⟨⟨hstreak, htold⟩, -, -⟩ := monitoring_debounces hmake (List.mem_singleton_self strayedSupply) events hcount
  have hknown := hstreak.trans (congrArg (fun failures => FailureStreak.after (limits failures)) hfailures)
  exact ⟨hmake, hfailures, hknown, htold [] first [second, third] hfailures, htold [first] second [third] hfailures,
    htold [first, second] third [] hfailures⟩

end Controller
end PowerRails
