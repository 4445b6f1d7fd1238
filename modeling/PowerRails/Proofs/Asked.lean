import PowerRails.Proofs.Run

/-! # Presence that is asked for

A presence detection is carried out when the presence of its device is asked for and no result of the cycle is
kept, and then its result is kept. So in any stretch of work there are as many detections of a device as results
of its detection that come to be kept, that is one or none. While a detection is under way its result is not kept
yet, and who asks for it then gets a fault and no other detection. -/

namespace PowerRails

/-- A notice about presence, as publishers get it. -/
def Notice.isPresence : Notice → Bool
  | .presence .. => true
  | _ => false

/-- A detection, or a notice about presence. -/
def Activity.isPresence : Activity → Bool
  | .detection _ => true
  | .notice _ told => told.isPresence
  | _ => false

/-- The notices about presence among some activity, each with its recipient. -/
def Activity.published (as : List Activity) : List (String × Notice) := (Activity.notices as).filter (·.2.isPresence)

namespace Activity
variable {as bs : List Activity}

theorem published_append (as bs : List Activity) : published (as ++ bs) = published as ++ published bs := by
  rw [published, notices, List.filterMap_append, List.filter_append]
  rfl

theorem published_eq_nil (h : ∀ x ∈ as, x.isPresence = false) : published as = [] := by
  refine List.filter_eq_nil_iff.mpr fun told htold => ?_
  obtain ⟨x, hx, hsome⟩ := List.mem_filterMap.mp htold
  cases x <;> cases hsome
  exact Bool.eq_false_iff.mp (h _ hx)

theorem isPresence_log (entries : List LogEntry) : ∀ x ∈ entries.map Activity.log, x.isPresence = false := by
  intro x hx
  obtain ⟨entry, -, rfl⟩ := List.mem_map.mp hx
  rfl

theorem count_detection_eq_zero (h : ∀ x ∈ as, x.isPresence = false) (id : String) : as.count (.detection id) = 0 :=
  List.count_eq_zero.mpr fun hmem => Bool.noConfusion (h _ hmem)

end Activity

/-- What the outcome of a presence detection means: one that failed means that the device is absent. -/
def Context.meaning : Except Fault Bool → Bool
  | .ok present => present
  | .error _ => false

section
variable {σ : Type}

/-- How many results of the presence detection of a device are kept, which is one or none. -/
def Plant.detected (p : Plant σ) (cycle : Cycle) (cache : PresenceCache) (id : String) : Nat :=
  if ((p.device? id).bind (·.detection)).isSome ∧ (cache.get? id cycle).isSome then 1 else 0

theorem Plant.detected_insert (p : Plant σ) (cycle : Cycle) (cache : PresenceCache) (id other : String)
    (present : Bool) :
    p.detected cycle (cache.insert id present cycle) other =
      if other = id then if ((p.device? id).bind (·.detection)).isSome then 1 else 0
      else p.detected cycle cache other := by
  unfold detected
  rw [PresenceCache.get?_insert, if_pos rfl]
  by_cases h : other = id <;> simp [h]

theorem Context.told_quiet (c : Context σ) (notice : Notice) (h : notice.isPresence = false) :
    ∀ x ∈ c.told notice, x.isPresence = false := by
  intro x hx
  obtain ⟨service, -, rfl⟩ := Option.map_eq_some_iff.mp (Option.mem_toList.mp hx)
  exact h

theorem Context.keepVerdict_apply (c : Context σ) (id : String) (outcome : Except Fault Bool) (s : State σ) :
    ∃ t : State σ, (detectionVerdict id outcome >>= c.keepPresence id) s =
        (.ok (meaning outcome), { t with presence := s.presence.insert id (meaning outcome) c.cycle }) ∧
      ∃ entries : List LogEntry, t.activity = s.activity ++ entries.map Activity.log := by
  cases outcome with
  | ok present => exact ⟨s, rfl, [], (List.append_nil _).symm⟩
  | error fault => exact ⟨(detectionVerdict id (.error fault) s).2, rfl, [.detectionFailed id fault], rfl⟩

/-- What becomes of presence while something is carried out. -/
structure Asked (c : Context σ) (s t : State σ) : Prop where
  grows : Grows c s t
  /-- As many detections are carried out as results of them come to be kept. -/
  detections : ∀ id, t.activity.count (.detection id) + c.plant.detected c.cycle s.presence id =
    s.activity.count (.detection id) + c.plant.detected c.cycle t.presence id
  /-- A device without detection is there. -/
  assumed : ∀ {id d present}, c.plant.device? id = some d → d.detection = none →
    t.presence.get? id c.cycle = some present → s.presence.get? id c.cycle = some present ∨ present = true
  published : Activity.published t.activity = Activity.published s.activity

namespace Asked
variable {c c' : Context σ} {s t u : State σ}

theorem refl (c : Context σ) (s : State σ) : Asked c s s := ⟨.refl c s, fun _ => rfl, fun _ _ h => Or.inl h, rfl⟩

theorem trans (h₁ : Asked c s t) (h₂ : Asked c t u) : Asked c s u where
  grows := h₁.grows.trans h₂.grows
  detections id := by
    have := h₁.detections id
    have := h₂.detections id
    omega
  assumed hd hnone hu := (h₂.assumed hd hnone hu).elim (h₁.assumed hd hnone) Or.inr
  published := h₂.published.trans h₁.published

theorem of_context (h : Asked c' s t) (hp : c'.plant = c.plant) (hc : c'.cycle = c.cycle)
    (hd : c.detecting ⊆ c'.detecting) : Asked c s t where
  grows := h.grows.of_context hp hc hd
  detections := hp ▸ hc ▸ h.detections
  assumed := hp ▸ hc ▸ h.assumed
  published := h.published

/-- A step that neither carries out a detection nor keeps a result. -/
theorem of_quiet (h : Grows c s t) (hp : t.presence = s.presence) {more : List Activity}
    (ha : t.activity = s.activity ++ more) (hmore : ∀ x ∈ more, x.isPresence = false) : Asked c s t where
  grows := h
  detections id := by
    rw [hp, ha, List.count_append, Activity.count_detection_eq_zero hmore, Nat.add_zero]
  assumed _ _ ht := Or.inl (hp ▸ ht)
  published := by rw [ha, Activity.published_append, Activity.published_eq_nil hmore, List.append_nil]

theorem note {x : Activity} (hx : x.isPresence = false) : Asked c s (Op.note x s).2 :=
  of_quiet (.note x) rfl rfl fun _ hmem => List.mem_singleton.mp hmem ▸ hx

theorem tellService {notice : Notice} (hnotice : notice.isPresence = false) :
    Asked c s (c.tellService notice s).2 := by
  refine of_quiet (.tellService notice) ?_ ?_ (c.told_quiet notice hnotice) <;> rw [Context.tellService_apply]

theorem recordReading (name : String) (kind : SensorKind) (value : Int) :
    Asked c s (c.recordReading name kind value s).2 := by
  refine of_quiet (.recordReading name kind value) ?_ ?_ (c.told_quiet (.value kind value) rfl) <;>
    rw [Context.recordReading_apply]

theorem transfer {α : Type} (register : UInt8) (request : Request) (step : Transfer σ α) :
    Asked c s (c.transfer register request step s).2 := by
  have hgrows := Grows.transfer (c := c) (s := s) register request step
  rw [Context.transfer_state] at hgrows ⊢
  exact of_quiet hgrows rfl rfl fun _ hx => List.mem_singleton.mp hx ▸ rfl

/-- A device without detection is found to be there. -/
theorem presumed {id : String} {d : Device σ} (hd : c.plant.device? id = some d) (has : d.detection = none)
    (hnew : id ∉ c.detecting) (hp : s.presence.get? id c.cycle = none) : Asked c s (c.keepPresence id true s).2 where
  grows := .keepPresence true hd hnew hp
  detections other := by
    rw [Context.keepPresence_apply, Plant.detected_insert, hd]
    split
    · rename_i h
      simp [h, Plant.detected, hd, has]
    · rfl
  assumed {other _ present} _ _ hknown := by
    rw [Context.keepPresence_apply, PresenceCache.get?_insert, if_pos rfl] at hknown
    split at hknown
    · exact Or.inr (Option.some.inj hknown).symm
    · exact Or.inl hknown
  published := rfl

/-- A detection that is carried out, and its result that is kept. -/
theorem detected {id : String} {d : Device σ} {as : Procedure} (hd : c.plant.device? id = some d)
    (has : d.detection = some as) (hnew : id ∉ c.detecting) (hp : s.presence.get? id c.cycle = none)
    (outcome : Except Fault Bool) (hin : Asked (c.detached id) (Op.note (.detection id) s).2 t) :
    Asked c s ((Context.detectionVerdict id outcome >>= c.keepPresence id) t).2 := by
  have hgrows := ((growing_law σ).taskLaw.detected trivial trivial hd has hnew hp).2 outcome t hin.grows
  -- Within the detection its own device stays unresolved.
  have hself : id ∈ (c.detached id).detecting := by simp [Context.detached]
  have hnone : t.presence.get? id c.cycle = none := (growing_law σ).unresolved (c := c.detached id) hin.grows hself hp
  have hdetections : ∀ other, t.activity.count (.detection other) + c.plant.detected c.cycle s.presence other =
      (s.activity ++ [Activity.detection id]).count (.detection other) + c.plant.detected c.cycle t.presence other :=
    hin.detections
  have hpublished : Activity.published t.activity = Activity.published (s.activity ++ [.detection id]) := hin.published
  obtain ⟨u, hkept, entries, hactivity⟩ := c.keepVerdict_apply id outcome t
  have hquiet := Activity.isPresence_log entries
  rw [hkept] at hgrows ⊢
  refine ⟨hgrows, fun other => ?_, fun {other e present} he hnodetection hknown => ?_, ?_⟩
  · have hother := hdetections other
    rw [List.count_append] at hother
    rw [hactivity, List.count_append, Activity.count_detection_eq_zero hquiet, Plant.detected_insert]
    by_cases h : other = id
    · subst h
      have hbefore : c.plant.detected c.cycle s.presence other = 0 := by simp [Plant.detected, hp]
      have hafter : c.plant.detected c.cycle t.presence other = 0 := by simp [Plant.detected, hnone]
      rw [hbefore, hafter, List.count_singleton_self] at hother
      rw [hbefore, if_pos rfl, hd, Option.bind_some, has, Option.isSome_some, if_pos rfl]
      omega
    · have hne : List.count (Activity.detection other) [.detection id] = 0 :=
        List.count_eq_zero.mpr fun hmem => h (Activity.detection.inj (List.mem_singleton.mp hmem))
      rw [hne] at hother
      rw [if_neg h]
      omega
  · rw [PresenceCache.get?_insert, if_pos rfl] at hknown
    split at hknown
    · rename_i h
      rw [h, hd] at he
      rw [← Option.some.inj he, has] at hnodetection
      cases hnodetection
    · exact hin.assumed he hnodetection hknown
  · rw [hactivity, Activity.published_append, Activity.published_eq_nil hquiet, List.append_nil, hpublished,
      Activity.published_append]
    exact List.append_nil _

end Asked

/-- Nothing is forbidden; what is followed is whose presence is asked for. -/
def asking (σ : Type) : Regime σ where
  may := fun _ => True
  fits := fun _ _ => True
  moves := Asked

theorem asking_taskLaw (σ : Type) : (asking σ).TaskLaw where
  refl := Asked.refl
  trans := Asked.trans
  stays _ _ := trivial
  asks_of_fits _ := trivial
  closed _ := Plant.Closed.univ _
  inDevice _ _ _ _ := ⟨trivial, fun _ h => h.of_context rfl rfl fun _ h => h⟩
  inRail _ _ := ⟨trivial, fun _ h => h.of_context rfl rfl fun _ h => h⟩
  inRule _ _ _ := ⟨trivial, fun _ h => h.of_context rfl rfl fun _ h => h⟩
  transfer register _ _ _ := .transfer register _ _
  addFinding _ _ _ _ _ := .of_quiet (.pushFinding _) rfl (List.append_nil _).symm (List.forall_mem_nil _)
  capture register bytes _ :=
    .of_quiet (.capture register bytes) rfl rfl fun _ hx => List.mem_singleton.mp hx ▸ rfl
  recordReading name kind value _ := .recordReading name kind value
  assumed _ _ hd has hnew hp := .presumed hd has hnew hp
  detected _ _ hd has hnew hp := ⟨trivial, fun outcome _ hin => .detected hd has hnew hp outcome hin⟩

theorem asking_visitLaw (σ : Type) : (asking σ).VisitLaw where
  toTaskLaw := asking_taskLaw σ
  arrive _ _ := trivial
  withVolts _ _ := ⟨trivial, fun _ h => h.of_context rfl rfl fun _ h => h⟩
  tellService hnotice _ := .tellService (by cases hnotice <;> rfl)
  skipped _ := .note rfl
  visited _ _ := .note rfl

/-! ### Runs -/

namespace Controller

/-- What the visits of a run have made of presence: all that is kept was found out by them. -/
structure HasAsked (ctl : Controller σ) (p : Progress σ) : Prop where
  detections : ∀ id, p.activity.count (.detection id) = ctl.plant.detected ctl.cycles p.presence id
  assumed : ∀ {id d present}, ctl.plant.device? id = some d → d.detection = none →
    p.presence.get? id ctl.cycles = some present → present = true
  published : Activity.published p.activity = []

variable {ctl : Controller σ} {kind : RunKind} {p : Progress σ} {place : Chassis σ × Device σ}

theorem hasAsked_visitPlace (h : ctl.HasAsked p) : ctl.HasAsked (ctl.visitPlace kind ctl.cycles p place) := by
  have hvisit : Asked (ctl.visitContext ctl.cycles p.report.captures place.2.id) _ _ :=
    visitOf_moves ctl kind ctl.cycles p place (asking_visitLaw σ) trivial trivial fun _ _ => trivial
  obtain ⟨entries, hactivity⟩ := visitPlace_activity ctl kind ctl.cycles p place
  have hquiet := Activity.isPresence_log entries
  refine ⟨fun id => ?_, fun hd hnone hknown => ?_, ?_⟩
  · have hold := h.detections id
    have hnew := hvisit.detections id
    simp only [visitContext, List.count_nil] at hnew
    rw [hactivity, visitPlace_presence, List.count_append, List.count_append, Activity.count_detection_eq_zero hquiet]
    omega
  · rw [visitPlace_presence] at hknown
    exact (hvisit.assumed hd hnone hknown).elim (h.assumed hd hnone) id
  · rw [hactivity, Activity.published_append, Activity.published_append, Activity.published_eq_nil hquiet, h.published,
      hvisit.published]
    rfl

/-- A run carries out a detection for each result of one that it keeps, provided that it begins with none. -/
theorem hasAsked_visitAll (hnone : ∀ id, ctl.presence.get? id ctl.cycles = none) :
    ctl.HasAsked (ctl.visitAll kind) := by
  refine visitAll_induct ⟨fun id => ?_, fun {id _ _} _ _ hknown => ?_, rfl⟩ fun p place _ h => hasAsked_visitPlace h
  · show 0 = ctl.plant.detected ctl.cycles ctl.presence id
    simp [Plant.detected, hnone]
  · exact absurd ((hnone id).symm.trans hknown) (by simp)

end Controller
end
end PowerRails
