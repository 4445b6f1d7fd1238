import PowerRails.Proofs.Isolation

/-! # Cycles

Each run is a cycle of its own, so the presence results that a controller carries from one call to the next are all
of cycles before the one that its next run will be. -/

namespace PowerRails

namespace Controller
variable {σ : Type}

/-- All presence results are of runs that have been. -/
def Dated (ctl : Controller σ) : Prop := ∀ id e, ctl.presence.results.get? id = some e → e.cycle < ctl.cycles

/-- No presence result is of the cycle that the next run will be. -/
def Fresh (ctl : Controller σ) : Prop := ∀ id, ctl.presence.get? id ctl.cycles = none

variable {ctl : Controller σ}

theorem Dated.fresh (h : ctl.Dated) : ctl.Fresh := fun id => by
  cases hknown : ctl.presence.get? id ctl.cycles with
  | none => rfl
  | some present => exact absurd (h _ _ (PresenceCache.get?_eq_some_iff.mp hknown)) (Nat.lt_irrefl _)

/-- A result that a run leaves is one that it found, or is of this run. -/
theorem entry_visitAll (kind : RunKind) {id : String} {e : Presence}
    (h : (ctl.visitAll kind).presence.results.get? id = some e) :
    ctl.presence.results.get? id = some e ∨ e.cycle = ctl.cycles := by
  have hall : ∀ {id e}, (ctl.visitAll kind).presence.results.get? id = some e →
      ctl.presence.results.get? id = some e ∨ e.cycle = ctl.cycles := by
    refine visitAll_induct (motive := fun p => ∀ {id e},
      p.presence.results.get? id = some e → ctl.presence.results.get? id = some e ∨ e.cycle = ctl.cycles)
      Or.inl fun p place _ ih {id e} he => ?_
    rw [visitPlace_presence] at he
    have hvisit : Grows (ctl.visitContext ctl.cycles p.report.captures place.2.id) _ _ :=
      visitOf_moves ctl kind ctl.cycles p place (growing_visitLaw σ) trivial trivial fun _ _ => trivial
    exact (hvisit.entry he).elim ih fun hnew => Or.inr hnew.1
  exact hall h

theorem dated_make {plant : Plant σ} {hardware : σ} (h : make plant hardware = .ok ctl) : ctl.Dated := by
  unfold make at h
  cases hvalid : plant.validate with
  | error fault => rw [hvalid] at h; cases h
  | ok u =>
    rw [hvalid] at h
    cases h
    exact nofun

theorem dated_run (h : ctl.Dated) (kind : RunKind) : (ctl.run kind).1.Dated := fun id e he => by
  show e.cycle < ctl.cycles + 1
  rcases entry_visitAll kind he with hold | hnew
  · exact Nat.lt_succ_of_lt (h _ _ hold)
  · exact hnew ▸ Nat.lt_succ_self _

theorem dated_act (h : ctl.Dated) (step : Step) : (ctl.act step).1.Dated := by
  cases step with
  | configure => exact dated_run h .configure
  | monitor => exact dated_run h .monitor
  | clearStreaks => exact h
  | closeDevices => exact h

/-- Whatever is called from outside, presence results are of runs that have been. -/
theorem dated_acts (h : ctl.Dated) (steps : List Step) : (ctl.acts steps).1.Dated := by
  induction steps generalizing ctl with
  | nil => exact h
  | cons step steps ih => exact ih (dated_act h step)

/-- A controller of a valid plant begins every run without a result of that run. -/
theorem fresh_acts {plant : Plant σ} {hardware : σ} (h : make plant hardware = .ok ctl) (steps : List Step) :
    (ctl.acts steps).1.Fresh := (dated_acts (dated_make h) steps).fresh

end Controller
end PowerRails
