import PowerRails.Proofs.Bystanders

/-! # Accounts

What two runs account for when their plants differ only in one isolated device. They visit the same places in
order: a visit of that device adds nothing elsewhere, and a visit of another one goes the same way in both. -/

namespace PowerRails

section
variable {ρ α β γ : Type}

/-! ### Reports -/

/-- Two reports say the same about all devices but one. -/
structure Report.SameElsewhere (a : String) (r q : Report) : Prop where
  kind : r.kind = q.kind
  cycle : r.cycle = q.cycle
  finished : r.finished = q.finished
  rows : elsewhere (some ·.device) a r.rows = elsewhere (some ·.device) a q.rows
  findings : elsewhere (some ·.device) a r.findings = elsewhere (some ·.device) a q.findings
  faults : elsewhere (some ·.device) a r.faults = elsewhere (some ·.device) a q.faults
  readings : elsewhere (some ·.device) a r.readings = elsewhere (some ·.device) a q.readings
  captures : ∀ key, ¬Captures.IsKeyOf a key → r.captures.get? key = q.captures.get? key

namespace Report.SameElsewhere
variable {a : String} {r q u : Report}

theorem symm (h : r.SameElsewhere a q) : q.SameElsewhere a r :=
  ⟨h.kind.symm, h.cycle.symm, h.finished.symm, h.rows.symm, h.findings.symm, h.faults.symm, h.readings.symm,
    fun key hkey => (h.captures key hkey).symm⟩

theorem trans (h₁ : r.SameElsewhere a q) (h₂ : q.SameElsewhere a u) : r.SameElsewhere a u :=
  ⟨h₁.kind.trans h₂.kind, h₁.cycle.trans h₂.cycle, h₁.finished.trans h₂.finished, h₁.rows.trans h₂.rows,
    h₁.findings.trans h₂.findings, h₁.faults.trans h₂.faults, h₁.readings.trans h₂.readings,
    fun key hkey => (h₁.captures key hkey).trans (h₂.captures key hkey)⟩

theorem collect {s : State (ρ × α)} {t : State (ρ × β)} (h : r.SameElsewhere a q) (hst : s.SameElsewhere a t) :
    (Controller.collect r s).SameElsewhere a (Controller.collect q t) where
  kind := h.kind
  cycle := h.cycle
  finished := h.finished
  rows := h.rows
  findings := by simp only [Controller.collect, elsewhere_append, h.findings, hst.findings]
  faults := h.faults
  readings := by simp only [Controller.collect, elsewhere_append, h.readings, hst.readings]
  captures key hkey := by
    simp only [Controller.collect, Table.get?_extend, h.captures key hkey, hst.captures key hkey]

end Report.SameElsewhere

/-! ### Progress -/

/-- Two runs have come equally far, but for one device. -/
structure Progress.SameElsewhere (a : String) (p : Progress (ρ × α)) (q : Progress (ρ × β)) : Prop where
  hardware : p.hardware.1 = q.hardware.1
  presence : ∀ id, id ≠ a → p.presence.results.get? id = q.presence.results.get? id
  streaks : ∀ id, id ≠ a → p.streaks.get? id = q.streaks.get? id
  report : p.report.SameElsewhere a q.report
  activity : elsewhere Activity.device? a p.activity = elsewhere Activity.device? a q.activity

namespace Progress.SameElsewhere
variable {a : String} {p : Progress (ρ × α)} {q : Progress (ρ × β)} {u : Progress (ρ × γ)}

theorem symm (h : p.SameElsewhere a q) : q.SameElsewhere a p :=
  ⟨h.hardware.symm, fun id hid => (h.presence id hid).symm, fun id hid => (h.streaks id hid).symm, h.report.symm,
    h.activity.symm⟩

theorem trans (h₁ : p.SameElsewhere a q) (h₂ : q.SameElsewhere a u) : p.SameElsewhere a u :=
  ⟨h₁.hardware.trans h₂.hardware, fun id hid => (h₁.presence id hid).trans (h₂.presence id hid),
    fun id hid => (h₁.streaks id hid).trans (h₂.streaks id hid), h₁.report.trans h₂.report,
    h₁.activity.trans h₂.activity⟩

end Progress.SameElsewhere

/-! ### Controllers -/

/-- Controllers of plants that differ in one device, with the same history of all others. -/
structure Controller.SameElsewhere (w : Surroundings ρ) (a : Device α) (b : Device β) (x : Controller (ρ × α))
    (y : Controller (ρ × β)) : Prop where
  plant : x.plant = w.plant a
  plant' : y.plant = w.plant b
  hardware : x.hardware.1 = y.hardware.1
  settings : x.settings = y.settings
  cycles : x.cycles = y.cycles
  presence : ∀ id, id ≠ a.id → x.presence.results.get? id = y.presence.results.get? id
  streaks : ∀ id, id ≠ a.id → x.streaks.get? id = y.streaks.get? id
  lastReport : Option.Rel (Report.SameElsewhere a.id) x.lastReport y.lastReport
  sensorsService : x.sensorsService = y.sensorsService

/-! ### Visits of the isolated device -/

theorem DeviceRow.device_toward (row : DeviceRow) (next : Stage) : (row.toward next).device = row.device := by
  unfold toward advance
  split <;> rfl

/-- A visit fills in the row of the device and of no other. -/
theorem Context.device_row_visit {σ : Type} (c : Context σ) (kind : RunKind) (d : Device σ) (row : DeviceRow)
    (s : State σ) : (c.visit kind d row s).row.device = row.device := by
  rcases hs : c.resolvePresence d.id s with ⟨fault | present, t⟩
  · rw [visit_of_fault hs]
  · cases present with
    | false =>
      rw [visit_of_absent hs]
      exact (DeviceRow.device_toward _ _).trans (DeviceRow.device_toward _ _)
    | true =>
      rcases hw : (Op.note (.log (.deviceVisited kind d.id)) >>= fun _ => c.work kind d) t with ⟨fault | _, u⟩
      · rw [visit_of_work_fault hs hw]
        exact (DeviceRow.device_toward _ _).trans (DeviceRow.device_toward _ _)
      · rw [visit_of_work hs hw]
        exact (DeviceRow.device_toward _ _).trans ((DeviceRow.device_toward _ _).trans (DeviceRow.device_toward _ _))

namespace Controller

variable {w : Surroundings ρ} {a : Device α} {b : Device β} {x : Controller (ρ × α)} {y : Controller (ρ × β)}

/-- What was recorded about the device alone adds nothing elsewhere. -/
theorem collect_own {r : Report} {s t : State (ρ × α)} (hst : s.SameElsewhere a.id t) (hf : s.findings = [])
    (hr : s.readings = []) (hc : s.captures = {}) : r.SameElsewhere a.id (collect r t) where
  kind := rfl
  cycle := rfl
  finished := rfl
  rows := rfl
  findings := by
    have hnone : elsewhere (some ·.device) a.id t.findings = [] := by rw [← hst.findings, hf]; rfl
    simp only [collect, elsewhere_append, hnone, List.append_nil]
  faults := rfl
  readings := by
    have hnone : elsewhere (some ·.device) a.id t.readings = [] := by rw [← hst.readings, hr]; rfl
    simp only [collect, elsewhere_append, hnone, List.append_nil]
  captures key hkey := by
    have hnone : t.captures.get? key = none := by rw [← hst.captures key hkey, hc]; rfl
    simp only [collect, Table.get?_extend, hnone, Option.none_or]

theorem get?_settle {kind : RunKind} {row : DeviceRow} {streaks : Table String FailureStreak} {id : String}
    (h : id ≠ row.device) : (settle kind row streaks).get? id = streaks.get? id := by
  unfold settle
  split
  · rw [Table.get?_erase, if_neg h]
  · rfl

theorem get?_escalate {σ : Type} {ctl : Controller σ} {kind : RunKind} {device id : String}
    {streaks : Table String FailureStreak} (h : id ≠ device) :
    (ctl.escalate kind device streaks).2.get? id = streaks.get? id := by
  cases kind with
  | configure => rfl
  | monitor => exact Table.get?_insert_of_ne _ h _

theorem visitPlace_own (h : w.Isolates a) (hp : x.plant = w.plant a) (kind : RunKind) (cycle : Cycle)
    (p : Progress (ρ × α)) (chassis : Chassis (ρ × α)) :
    p.SameElsewhere a.id (x.visitPlace kind cycle p (chassis, a.onOwn)) := by
  have hpresence : ∀ id, (w.plant a).Reaches (.presence a.id) (.presence id) → id = a.id := fun id hid => by
    cases Plant.reaches_presence hid
    rfl
  obtain ⟨-, hsame⟩ : (alone w a).moves _ _ _ :=
    visitOf_moves x kind cycle p (chassis, a.onOwn) (alone_visitLaw h) ⟨hp, rfl⟩ hpresence fun as has => h.own as has
  have hrow : (x.visitOf kind cycle p (chassis, a.onOwn)).row.device = a.id := Context.device_row_visit _ _ _ _ _
  have hcollect : p.report.SameElsewhere a.id (collect p.report (x.visitOf kind cycle p (chassis, a.onOwn)).state) :=
    collect_own hsame rfl rfl rfl
  have hactivity : elsewhere Activity.device? a.id p.activity =
      elsewhere Activity.device? a.id (p.activity ++ (x.visitOf kind cycle p (chassis, a.onOwn)).state.activity) := by
    rw [elsewhere_append, ← hsame.activity]
    exact (List.append_nil _).symm
  cases hf : (x.visitOf kind cycle p (chassis, a.onOwn)).fault with
  | none =>
    rw [visitPlace_of_none hf]
    refine ⟨hsame.hardware, hsame.presence, fun id hid => (get?_settle (hrow ▸ hid)).symm, { hcollect with rows := ?_ },
      hactivity⟩
    exact (elsewhere_concat fun d hd => by rw [← Option.some.inj hd, hrow]).symm
  | some fault =>
    rw [visitPlace_of_some hf]
    refine ⟨hsame.hardware, hsame.presence, fun id hid => (get?_escalate hid).symm,
      { hcollect with rows := ?_, findings := ?_, faults := ?_ }, ?_⟩
    · exact (elsewhere_concat fun d hd => by rw [← Option.some.inj hd, DeviceRow.device_toward, hrow]).symm
    · refine hcollect.findings.trans (elsewhere_append_own fun f hmem d hd => ?_).symm
      obtain ⟨severity, -, rfl⟩ := Option.map_eq_some_iff.mp (Option.mem_toList.mp hmem)
      exact (Option.some.inj hd).symm
    · exact (elsewhere_concat fun d hd => by rw [← Option.some.inj hd]; rfl).symm
    · exact hactivity.trans (elsewhere_concat fun d hd => by rw [← Option.some.inj hd]; rfl).symm

/-! ### Visits of the others -/

theorem settle_congr {kind : RunKind} {row : DeviceRow} {p q : Table String FailureStreak} {id : String}
    (h : p.get? id = q.get? id) : (settle kind row p).get? id = (settle kind row q).get? id := by
  unfold settle
  split
  · rw [Table.get?_erase, Table.get?_erase, h]
  · exact h

theorem escalate_congr {p q : Table String FailureStreak} (hs : x.settings = y.settings) (kind : RunKind) {id : String}
    (h : p.get? id = q.get? id) : (x.escalate kind id p).1 = (y.escalate kind id q).1 ∧
      ∀ other, p.get? other = q.get? other →
        (x.escalate kind id p).2.get? other = (y.escalate kind id q).2.get? other := by
  cases kind with
  | configure => exact ⟨rfl, fun _ hother => hother⟩
  | monitor =>
    simp only [escalate, hs, h, Table.get?_insert]
    refine ⟨trivial, fun other hother => ?_⟩
    rw [hother]

/-- A device elsewhere is visited alike in both, whatever the visits before have left. -/
theorem visitOf_other (ha : w.Isolates a) (hid : b.id = a.id) (h : x.SameElsewhere w a b y) (kind : RunKind)
    (cycle : Cycle) {p : Progress (ρ × α)} {q : Progress (ρ × β)} (hpq : p.SameElsewhere a.id q) (rack : Rack ρ)
    {e : Device ρ} (he : some e ∈ w.slots) :
    (x.visitOf kind cycle p (rack.filled a, e.onRest)).fault = (y.visitOf kind cycle q (rack.filled b, e.onRest)).fault ∧
      (x.visitOf kind cycle p (rack.filled a, e.onRest)).row = (y.visitOf kind cycle q (rack.filled b, e.onRest)).row ∧
      (x.visitOf kind cycle p (rack.filled a, e.onRest)).state.SameRecords a.id
        (y.visitOf kind cycle q (rack.filled b, e.onRest)).state := by
  have hcontexts : (x.visitContext cycle p.report.captures e.id).SameElsewhere w a b
      (y.visitContext cycle q.report.captures e.id) :=
    { plant := h.plant, plant' := h.plant', cycle := rfl, maxRuleDepth := by simp only [visitContext, h.settings],
      sensorsService := h.sensorsService, held := rfl, scope := rfl, ruleChain := rfl, detecting := rfl, volts := rfl,
      apart := ha.distinct e he,
      earlier := fun key hkey => by simp only [visitContext, Table.contains, hpq.report.captures key hkey] }
  have hpresence : (bystanders w a b).may (.presence e.id) := fun id hreach => by
    cases Plant.reaches_presence hreach
    exact ha.distinct e he
  have hsame : (e.onRest (α := α)).SameText (e.onRest (α := β)) := ⟨rfl, rfl, rfl, rfl, rfl, rfl, rfl⟩
  have hprocedures : ∀ as ∈ (e.onRest (α := α)).workProcedures kind, (bystanders w a b).may (.inOrder as) :=
    fun as has => ha.others e he as (e.onRest.workProcedures_subset kind has)
  exact (bystanders_visitLaw ha hid).visit hcontexts kind hsame hpresence hprocedures _
    ⟨hpq.hardware, hpq.presence, rfl, rfl, rfl, rfl⟩

theorem afterVisit_other {p : Progress (ρ × α)} {q : Progress (ρ × β)} {o : VisitOutcome (ρ × α)}
    {u : VisitOutcome (ρ × β)} (kind : RunKind) (hpq : p.SameElsewhere a.id q) (hrow : o.row = u.row)
    (hstate : o.state.SameRecords a.id u.state) :
    (afterVisit kind p o).SameElsewhere a.id (afterVisit kind q u) := by
  unfold afterVisit
  rw [← hrow]
  refine ⟨hstate.hardware, hstate.presence, fun id hne => settle_congr (hpq.streaks id hne),
    { hpq.report.collect hstate.sameElsewhere with rows := ?_ }, ?_⟩
  · rw [elsewhere_append, elsewhere_append, hpq.report.rows]
  · rw [elsewhere_append, elsewhere_append, hpq.activity, hstate.activity]

theorem afterFault_other {p : Progress (ρ × α)} {q : Progress (ρ × β)} {o : VisitOutcome (ρ × α)}
    {u : VisitOutcome (ρ × β)} (hs : x.settings = y.settings) (kind : RunKind) (hpq : p.SameElsewhere a.id q)
    (rack : Rack ρ) {e : Device ρ} (hne : e.id ≠ a.id) (fault : Fault) (hrow : o.row = u.row)
    (hstate : o.state.SameRecords a.id u.state) :
    (x.afterFault kind p (rack.filled a, e.onRest) fault o).SameElsewhere a.id
      (y.afterFault kind q (rack.filled b, e.onRest) fault u) := by
  obtain ⟨hseverity, hstreaks⟩ := escalate_congr (x := x) (y := y) hs kind (hpq.streaks e.id hne)
  have hrecord :
      faultOf (rack.filled a, e.onRest (α := α)) fault o = faultOf (rack.filled b, e.onRest (α := β)) fault u :=
    congrArg (RecordedFault.make rack.id e.id fault) hstate.captures
  have hfinding : ((x.escalate kind e.id p.streaks).1.map
        (faultFinding · (faultOf (rack.filled a, e.onRest (α := α)) fault o))).toList =
      ((y.escalate kind e.id q.streaks).1.map
        (faultFinding · (faultOf (rack.filled b, e.onRest (α := β)) fault u))).toList := by rw [hseverity, hrecord]
  have hcollect := hpq.report.collect hstate.sameElsewhere
  refine ⟨hstate.hardware, hstate.presence, fun id hid => hstreaks id (hpq.streaks id hid),
    { hcollect with rows := ?_, findings := ?_, faults := ?_ }, ?_⟩
  · simp only [afterFault, elsewhere_append, hpq.report.rows, hrow]
  · refine (elsewhere_append _ _).trans (.trans ?_ (elsewhere_append _ _).symm)
    exact congrArg₂ (· ++ ·) hcollect.findings (congrArg _ hfinding)
  · simp only [afterFault, elsewhere_append, hpq.report.faults, hrecord]
  · simp only [afterFault, elsewhere_append, hpq.activity, hstate.activity, hstate.captures]
    rfl

theorem visitPlace_other (ha : w.Isolates a) (hid : b.id = a.id) (h : x.SameElsewhere w a b y) (kind : RunKind)
    (cycle : Cycle) {p : Progress (ρ × α)} {q : Progress (ρ × β)} (hpq : p.SameElsewhere a.id q) (rack : Rack ρ)
    {e : Device ρ} (he : some e ∈ w.slots) :
    (x.visitPlace kind cycle p (rack.filled a, e.onRest)).SameElsewhere a.id
      (y.visitPlace kind cycle q (rack.filled b, e.onRest)) := by
  obtain ⟨hfault, hrow, hstate⟩ := visitOf_other ha hid h kind cycle hpq rack he
  cases hf : (x.visitOf kind cycle p (rack.filled a, e.onRest)).fault with
  | none =>
    rw [visitPlace_of_none hf, visitPlace_of_none (hfault ▸ hf)]
    exact afterVisit_other kind hpq hrow hstate
  | some fault =>
    rw [visitPlace_of_some hf, visitPlace_of_some (hfault ▸ hf)]
    exact afterFault_other h.settings kind hpq rack (ha.distinct e he) fault hrow hstate

/-- Two runs over the same places come equally far elsewhere. -/
theorem visitAll_sameElsewhere (ha : w.Isolates a) (hb : w.Isolates b) (hid : b.id = a.id) (h : x.SameElsewhere w a b y)
    (kind : RunKind) : (x.visitAll kind).SameElsewhere a.id (y.visitAll kind) := by
  unfold visitAll
  rw [h.plant, h.plant', Surroundings.places_plant, Surroundings.places_plant, List.foldl_map, List.foldl_map,
    ← h.cycles]
  refine List.foldl_rel
    ⟨h.hardware, h.presence, h.streaks, ⟨rfl, rfl, rfl, rfl, rfl, rfl, rfl, fun _ _ => rfl⟩, rfl⟩
    fun site hsite p q hpq => ?_
  obtain ⟨rack, slot⟩ := site
  cases slot with
  | none =>
    -- Neither device in the gap has changed anything elsewhere.
    refine (visitPlace_own ha h.plant kind x.cycles p (rack.filled a)).symm.trans (hpq.trans ?_)
    exact hid ▸ visitPlace_own hb h.plant' kind x.cycles q (rack.filled b)
  | some e => exact visitPlace_other ha hid h kind x.cycles hpq rack (Surroundings.mem_slots_of_mem_sites hsite)

end Controller
end
end PowerRails
