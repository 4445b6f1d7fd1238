import PowerRails.Proofs.Rows

/-! # What is told of a fault

The fault that stops a device is told once its visit is over: it is recorded, and a finding is made of it unless the
streak of the device says otherwise. What is told then stays in the report. -/

namespace PowerRails

section
variable {σ : Type}

namespace Controller

/-- A visit fails. Its fault is recorded after all faults before it, and a finding of some severity, or none, is made
of it after the findings of the visit. -/
structure TellsOf (ctl : Controller σ) (kind : RunKind) (before : List (Chassis σ × Device σ))
    (place : Chassis σ × Device σ) (f : RecordedFault) (severity : Option Severity) : Prop
    extends ctl.FailsAt kind before place f where
  faults : (ctl.progress kind (before ++ [place])).report.faults = (ctl.progress kind before).report.faults ++ [f]
  findings : (ctl.progress kind (before ++ [place])).report.findings =
    (ctl.progress kind before).report.findings
      ++ (ctl.visitOf kind ctl.cycles (ctl.progress kind before) place).state.findings
      ++ (severity.map (faultFinding · f)).toList
  /-- Visits that follow only add to this. -/
  stays : ∃ r, (ctl.run kind).1.lastReport = some r ∧
    (ctl.progress kind (before ++ [place])).report.faults <+: r.faults ∧
    (ctl.progress kind (before ++ [place])).report.findings <+: r.findings

variable {ctl : Controller σ} {kind : RunKind} {before : List (Chassis σ × Device σ)} {place : Chassis σ × Device σ}
  {f : RecordedFault}

theorem FailsAt.device_eq (h : ctl.FailsAt kind before place f) : f.device = place.2.id := by
  rw [h.recorded]
  rfl

theorem findings_visitPlace (ctl : Controller σ) (kind : RunKind) (p : Progress σ) (place : Chassis σ × Device σ) :
    p.report.findings <+: (ctl.visitPlace kind ctl.cycles p place).report.findings := by
  cases h : (ctl.visitOf kind ctl.cycles p place).fault with
  | none =>
    rw [visitPlace_of_none h]
    exact List.prefix_append _ _
  | some fault =>
    rw [visitPlace_of_some h]
    exact (List.prefix_append _ _).trans (List.prefix_append _ _)

/-- What is told of faults stays in the report. -/
theorem told_progress_append (ctl : Controller σ) (kind : RunKind) (places rest : List (Chassis σ × Device σ)) :
    (ctl.progress kind places).report.faults <+: (ctl.progress kind (places ++ rest)).report.faults ∧
      (ctl.progress kind places).report.findings <+: (ctl.progress kind (places ++ rest)).report.findings := by
  induction rest using List.reverseRecOn with
  | nil => simp
  | append_singleton rest place ih =>
    rw [← List.append_assoc, progress_concat]
    refine ⟨ih.1.trans ?_, ih.2.trans (findings_visitPlace ctl kind _ place)⟩
    rw [visitPlace_faults]
    exact List.prefix_append _ _

/-- The finding that is made of a fault is as severe as the device has made it by its failures. -/
theorem FailsAt.tellsOf (h : ctl.FailsAt kind before place f) :
    ctl.TellsOf kind before place f (ctl.escalate kind place.2.id (ctl.progress kind before).streaks).1 where
  toFailsAt := h
  faults := by rw [progress_concat, visitPlace_faults, h.fault, Option.map_some, ← h.recorded, Option.toList_some]
  findings := by
    rw [progress_concat, visitPlace_of_some h.fault, afterFault, ← h.recorded]
  stays := by
    obtain ⟨after, hplaces⟩ := h.visited
    obtain ⟨hfaults, hfindings⟩ := told_progress_append ctl kind (before ++ [place]) after
    refine ⟨_, rfl, ?_⟩
    rw [← List.append_cons, ← hplaces, progress_places] at hfaults hfindings
    exact ⟨hfaults, hfindings⟩

end Controller
end
end PowerRails
