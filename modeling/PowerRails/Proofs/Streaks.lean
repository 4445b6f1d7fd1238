import PowerRails.Proofs.Accounts
import PowerRails.Proofs.Boundary
import PowerRails.Proofs.Verdict

/-! # Failure streaks in a run

A run visits each device of a valid plant once, and the streak of a device changes in that visit only, and only if the
device is monitored and found to be there. -/

namespace PowerRails

namespace FailureStreak

/-- Whether one of some failures in a row, each under the limit in force, has reached its limit. -/
def reaches (limits : List Nat) : Bool := limits.zipIdx.any fun x => x.1 ≤ x.2 + 1

/-- The streak after some failures in a row, each under the limit in force. -/
def after (limits : List Nat) : FailureStreak := ⟨limits.length, reaches limits⟩

/-- How a failure is to be reported after others: as a warning until the limit is reached, then once as an error, and
not at all from then on. -/
def escalation (limits : List Nat) (limit : Nat) : Escalation :=
  if reaches limits then .suppress else if limit ≤ limits.length + 1 then .log else .warn

theorem reaches_concat (limits : List Nat) (limit : Nat) :
    reaches (limits ++ [limit]) = (reaches limits || decide (limit ≤ limits.length + 1)) := by
  simp [reaches, List.zipIdx_append]

theorem recordFailure_after {limits : List Nat} (h : limits.length < maxCount) (limit : Nat) :
    (after limits).recordFailure limit = (escalation limits limit, after (limits ++ [limit])) := by
  have hcount : min (limits.length + 1) maxCount = limits.length + 1 := Nat.min_eq_left h
  unfold recordFailure escalation after
  rw [reaches_concat, List.length_append, List.length_singleton]
  dsimp only
  rw [hcount]
  cases hr : reaches limits with
  | true => simp
  | false => by_cases hl : limit ≤ limits.length + 1 <;> simp [hl]

end FailureStreak

section
variable {σ : Type}

/-- A place in the order of the visits, with a device whose identifier no other place has. -/
structure Plant.Turn (p : Plant σ) (before : List (Chassis σ × Device σ)) (place : Chassis σ × Device σ)
    (after : List (Chassis σ × Device σ)) : Prop where
  places : p.places = before ++ place :: after
  before : ∀ other ∈ before, other.2.id ≠ place.2.id
  after : ∀ other ∈ after, other.2.id ≠ place.2.id

theorem Plant.exists_turn {p : Plant σ} (h : p.validate = .ok ()) {d : Device σ} (hd : d ∈ p.devices) :
    ∃ before place after, p.Turn before place after ∧ place.2 = d := by
  have hnodup := nodup_places h
  obtain ⟨place, hplace, rfl⟩ := List.mem_map.mp (p.map_places ▸ hd)
  obtain ⟨before, after, hplaces⟩ := List.append_of_mem hplace
  rw [hplaces, List.map_append, List.map_cons, List.nodup_middle, List.nodup_cons, List.mem_append, not_or] at hnodup
  obtain ⟨⟨hbefore, hafter⟩, -⟩ := hnodup
  exact ⟨before, place, after, ⟨hplaces, fun other hother heq => hbefore (heq ▸ List.mem_map_of_mem hother),
    fun other hother heq => hafter (heq ▸ List.mem_map_of_mem hother)⟩, rfl⟩

/-- Nothing has changed for a device. -/
structure Progress.SameFor (id : String) (p q : Progress σ) : Prop where
  streak : q.streaks.get? id = p.streaks.get? id
  rows : q.report.rows.filter (·.device == id) = p.report.rows.filter (·.device == id)
  faults : q.report.faultsFor id = p.report.faultsFor id

theorem Progress.SameFor.refl (id : String) (p : Progress σ) : p.SameFor id p := ⟨rfl, rfl, rfl⟩

theorem Progress.SameFor.trans {id : String} {p q r : Progress σ} (h : p.SameFor id q) (h' : q.SameFor id r) :
    p.SameFor id r := ⟨h'.streak.trans h.streak, h'.rows.trans h.rows, h'.faults.trans h.faults⟩

namespace Controller
variable {ctl : Controller σ} {kind : RunKind} {place : Chassis σ × Device σ} {id : String}

theorem device_rowOf (ctl : Controller σ) (kind : RunKind) (p : Progress σ) (place : Chassis σ × Device σ) :
    (ctl.rowOf kind p place).device = place.2.id := by
  have hrow : (ctl.visitOf kind ctl.cycles p place).row.device = place.2.id := Context.device_row_visit _ _ _ _ _
  rw [rowOf_eq]
  cases (ctl.visitOf kind ctl.cycles p place).fault with
  | none => exact hrow
  | some fault => exact (DeviceRow.device_toward _ _).trans hrow

/-- A visit changes nothing for other devices. -/
theorem sameFor_visitPlace (p : Progress σ) (h : place.2.id ≠ id) :
    p.SameFor id (ctl.visitPlace kind ctl.cycles p place) where
  streak := by
    have hrow : (ctl.visitOf kind ctl.cycles p place).row.device = place.2.id := Context.device_row_visit _ _ _ _ _
    cases hf : (ctl.visitOf kind ctl.cycles p place).fault with
    | none =>
      rw [visitPlace_of_none hf]
      exact get?_settle (hrow ▸ h.symm)
    | some fault =>
      rw [visitPlace_of_some hf]
      exact get?_escalate h.symm
  rows := by
    rw [visitPlace_rows, List.filter_append, List.filter_singleton, device_rowOf, beq_eq_false_iff_ne.mpr h]
    exact List.append_nil _
  faults := by
    unfold Report.faultsFor
    rw [visitPlace_faults, List.filter_append]
    cases (ctl.visitOf kind ctl.cycles p place).fault with
    | none => exact List.append_nil _
    | some fault =>
      have hother : ((faultOf place fault (ctl.visitOf kind ctl.cycles p place)).device == id) = false :=
        beq_eq_false_iff_ne.mpr h
      simp [hother]

theorem sameFor_progress_append (ctl : Controller σ) (kind : RunKind) (places : List (Chassis σ × Device σ))
    {rest : List (Chassis σ × Device σ)} (h : ∀ place ∈ rest, place.2.id ≠ id) :
    (ctl.progress kind places).SameFor id (ctl.progress kind (places ++ rest)) := by
  induction rest using List.reverseRecOn with
  | nil =>
    rw [List.append_nil]
    exact .refl id _
  | append_singleton rest place ih =>
    rw [← List.append_assoc, progress_concat]
    refine (ih fun other hother => h other (List.mem_append_left _ hother)).trans ?_
    exact sameFor_visitPlace _ (h place (List.mem_append_right _ List.mem_cons_self))

section
variable {before after : List (Chassis σ × Device σ)}

/-- Nothing changes for a device before its turn and after it. -/
theorem sameFor_turn (h : ctl.plant.Turn before place after) (kind : RunKind) :
    (ctl.beginning kind).SameFor place.2.id (ctl.progress kind before) ∧
      (ctl.progress kind (before ++ [place])).SameFor place.2.id (ctl.visitAll kind) := by
  refine ⟨sameFor_progress_append ctl kind [] h.before, ?_⟩
  have hlast := sameFor_progress_append ctl kind (before ++ [place]) h.after
  rwa [← List.append_cons, ← h.places, progress_places] at hlast

theorem row?_turn (h : ctl.plant.Turn before place after) (kind : RunKind) :
    (ctl.visitAll kind).report.row? place.2.id = some (ctl.rowOf kind (ctl.progress kind before) place) := by
  obtain ⟨hfirst, hlast⟩ := sameFor_turn h kind
  rw [Report.row?, ← List.head?_filter, hlast.rows, progress_concat, visitPlace_rows, List.filter_append, hfirst.rows,
    List.filter_singleton, device_rowOf, beq_self_eq_true]
  rfl

theorem faultsFor_turn (h : ctl.plant.Turn before place after) {f : RecordedFault}
    (hf : ctl.FailsAt kind before place f) : (ctl.visitAll kind).report.faultsFor place.2.id = [f] := by
  obtain ⟨hfirst, hlast⟩ := sameFor_turn h kind
  have hnone : (ctl.progress kind before).report.faults.filter (·.device == place.2.id) = [] := hfirst.faults
  rw [hlast.faults, Report.faultsFor, hf.tellsOf.faults, List.filter_append, hnone, List.filter_singleton, hf.device_eq,
    beq_self_eq_true]
  rfl

/-- A run leaves the streak that the visit of the device makes of the one before the run. -/
theorem streak_turn (h : ctl.plant.Turn before place after) (kind : RunKind) :
    (ctl.progress kind before).streaks.get? place.2.id = ctl.streaks.get? place.2.id ∧
      (ctl.run kind).1.streak place.2.id =
        ((ctl.visitPlace kind ctl.cycles (ctl.progress kind before) place).streaks.get? place.2.id).getD {} := by
  obtain ⟨hfirst, hlast⟩ := sameFor_turn h kind
  refine ⟨hfirst.streak, ?_⟩
  rw [← progress_concat, ← hlast.streak]
  rfl

end

/-! ### Configuring -/

/-- Configuring takes no account of streaks. -/
theorem visitPlace_streaks_configure (ctl : Controller σ) (cycle : Cycle) (p : Progress σ)
    (place : Chassis σ × Device σ) : (ctl.visitPlace .configure cycle p place).streaks = p.streaks := by
  cases h : (ctl.visitOf .configure cycle p place).fault with
  | none => rw [visitPlace_of_none h, afterVisit, settle, if_neg (by simp)]
  | some fault => rw [visitPlace_of_some h, afterFault, escalate]

theorem streaks_configure (ctl : Controller σ) : ctl.configure.1.streaks = ctl.streaks := by
  show (ctl.visitAll .configure).streaks = ctl.streaks
  refine visitAll_induct (motive := fun p => p.streaks = ctl.streaks) rfl fun p place _ h => ?_
  exact (visitPlace_streaks_configure ctl ctl.cycles p place).trans h

theorem streak_configure (ctl : Controller σ) (device : String) :
    ctl.configure.1.streak device = ctl.streak device := by
  unfold streak
  rw [streaks_configure]

/-! ### Monitoring -/

/-- The row of a device in a run that monitors. -/
def monitored? (ctl : Controller σ) (device : String) : Option DeviceRow :=
  ctl.monitor.1.lastReport.bind (·.row? device)

/-- Monitoring a device fails. -/
def fails (ctl : Controller σ) (device : String) : Bool := (ctl.monitored? device).any (·.stage == .errored)

/-- A device is there, and monitoring it does not fail. -/
def passes (ctl : Controller σ) (device : String) : Bool :=
  (ctl.monitored? device).any fun row => row.present == some true && row.stage == .done

theorem passes_of_fails {device : String} (h : ctl.fails device = true) : ctl.passes device = false := by
  unfold fails at h
  unfold passes
  cases hrow : ctl.monitored? device with
  | none => rfl
  | some row =>
    rw [hrow, Option.any_some, beq_iff_eq] at h
    simp [h]

/-- Monitoring a device fails. The fault is recorded, as the only one of the device, and a finding of some severity, or
none, is made of it. -/
def Tells (ctl : Controller σ) (device : String) (severity : Option Severity) : Prop :=
  ∃ before place f, place.2.id = device ∧ ctl.TellsOf .monitor before place f severity ∧
    ctl.monitor.1.faultsFor device = [f]

/-- What monitoring makes of the streak of a device. -/
inductive Monitors (ctl : Controller σ) (device : String) : Prop
  | failed {row} : ctl.monitored? device = some row → row.present = some true → row.stage = .errored →
      ctl.Tells device ((ctl.streak device).recordFailure ctl.settings.maxMonitorErrors).1.severity? →
      ctl.monitor.1.streak device = ((ctl.streak device).recordFailure ctl.settings.maxMonitorErrors).2 →
      Monitors ctl device
  | passed {row} : ctl.monitored? device = some row → row.present = some true → row.stage = .done →
      ctl.monitor.1.streak device = {} → Monitors ctl device
  | absent {row} : ctl.monitored? device = some row → row.present = some false → row.stage = .done →
      ctl.monitor.1.streak device = ctl.streak device → Monitors ctl device

theorem monitors (hvalid : ctl.plant.validate = .ok ()) {d : Device σ} (hd : d ∈ ctl.plant.devices) :
    ctl.Monitors d.id := by
  obtain ⟨before, place, after, hturn, rfl⟩ := Plant.exists_turn hvalid hd
  have hrow : ctl.monitored? place.2.id = some (ctl.rowOf .monitor (ctl.progress .monitor before) place) :=
    row?_turn hturn .monitor
  obtain ⟨hbegun, hstreak⟩ := streak_turn hturn .monitor
  obtain ⟨present, hsettles⟩ :=
    settles .monitor (ctl.progress .monitor before) (hturn.places ▸ by simp : place ∈ ctl.plant.places)
  cases hf : (ctl.visitOf .monitor ctl.cycles (ctl.progress .monitor before) place).fault with
  | some fault =>
    have hfails : ctl.FailsAt .monitor before place
        (faultOf place fault (ctl.visitOf .monitor ctl.cycles (ctl.progress .monitor before) place)) :=
      ⟨⟨after, hturn.places⟩, hf, rfl⟩
    have htells := hfails.tellsOf
    rw [escalate, hbegun] at htells
    obtain rfl : present = true := by
      by_contra habsent
      cases hf.symm.trans (hsettles.absent (Bool.eq_false_iff.mpr habsent))
    rw [hsettles.row, hf] at hrow
    refine .failed hrow rfl rfl ⟨before, place, _, rfl, htells, faultsFor_turn hturn hfails⟩ (hstreak.trans ?_)
    rw [visitPlace_of_some hf, afterFault, escalate, hbegun, Table.get?_insert_self]
    rfl
  | none =>
    have hsettled : (ctl.visitPlace .monitor ctl.cycles (ctl.progress .monitor before) place).streaks =
        settle .monitor ⟨place.1.id, place.2.id, some present, .done⟩ (ctl.progress .monitor before).streaks := by
      have hvisited := (rowOf_eq ctl .monitor (ctl.progress .monitor before) place).symm.trans hsettles.row
      rw [hf] at hvisited
      rw [visitPlace_of_none hf, afterVisit]
      exact congrArg (settle .monitor · _) hvisited
    rw [hsettled] at hstreak
    rw [hsettles.row, hf] at hrow
    cases present with
    | true =>
      refine .passed hrow rfl rfl (hstreak.trans ?_)
      rw [settle, if_pos ⟨rfl, rfl⟩, Table.get?_erase, if_pos rfl]
      rfl
    | false =>
      refine .absent hrow rfl rfl (hstreak.trans ?_)
      rw [settle, if_neg (by simp)]
      exact congrArg (fun streak => streak.getD {}) hbegun

end Controller
end
end PowerRails
