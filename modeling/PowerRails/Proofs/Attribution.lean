import PowerRails.Proofs.Provenance

/-! # Attribution

Scopes are entered by naming a device and perhaps a rail, from wherever actions happen to be: a rail is one of the
device that is active at that moment. Each way to enter a scope checks it first, and so all scopes that are active or
were left for a while name devices of the plant and rails that these devices have. Findings, readings and failed
accesses are attributed to the active scope, or to the device of it alone, or to a device whose presence detection
failed. So they all name what exists. -/

namespace PowerRails

/-- The scope that a cause names as its place, if it names one. -/
def Cause.scope? : Cause → Option Scope
  | .busAccess device rail _ _ => some ⟨device, rail⟩
  | .writeMismatch device _ _ _ => some ⟨device, none⟩
  | _ => none

section
variable {σ α β : Type}

/-- A scope names a device of the plant and, if it names a rail, one that this device has. -/
def Plant.Places (p : Plant σ) (scope : Scope) : Prop :=
  ∃ d, p.device? scope.device = some d ∧ ∀ rail, scope.rail = some rail → ∃ r ∈ d.rails, r.id = rail

theorem Plant.places_of_device? {p : Plant σ} {id : String} {d : Device σ} (h : p.device? id = some d) :
    p.Places ⟨id, none⟩ := ⟨d, h, nofun⟩

/-- Without its rail a scope stays one of the plant. -/
theorem Plant.Places.device {p : Plant σ} {scope : Scope} (h : p.Places scope) : p.Places ⟨scope.device, none⟩ := by
  obtain ⟨d, hd, -⟩ := h
  exact Plant.places_of_device? hd

theorem Plant.places_of_mem {p : Plant σ} {place : Chassis σ × Device σ} (h : place ∈ p.places) :
    p.Places ⟨place.2.id, none⟩ := by
  obtain ⟨d, hd⟩ := Plant.device?_of_mem (Plant.mem_devices_of_place h)
  exact Plant.places_of_device? hd

/-! ### Scopes -/

/-- All scopes that have been entered and not left, the active one first. -/
def Context.scopes (c : Context σ) : List Scope := c.scope :: c.outer

/-- All scopes of a context are of the plant. -/
structure Context.Placed (c : Context σ) : Prop where
  scopes : ∀ scope ∈ c.scopes, c.plant.Places scope

namespace Context
variable {c : Context σ} {kind : RunKind} {d : Device σ} {s : State σ} {k k' : Call σ}

theorem Placed.active (h : c.Placed) : c.plant.Places c.scope := h.scopes _ List.mem_cons_self

theorem Placed.enter {scope : Scope} (h : c.Placed) (hscope : c.plant.Places scope) : (c.enter scope).Placed where
  scopes _ hmem := by
    rcases List.mem_cons.mp hmem with rfl | hmem
    · exact hscope
    · exact h.scopes _ hmem

theorem exists_rail_of_requireRail {rail : String} {u : Unit} (h : requireRail d rail = .ok u) :
    ∃ r ∈ d.rails, r.id = rail := by
  unfold requireRail at h
  split at h
  · rename_i r hr
    exact ⟨r, List.mem_of_find?_eq_some hr, by simpa using List.find?_some hr⟩
  · cases h

/-- What is checked on entering a scope makes it one of the plant. -/
theorem places_of_requireScope {device : String} {rail : Option String} {u : Unit}
    (h : c.requireScope device rail = .ok u) : c.plant.Places ⟨device, rail⟩ := by
  unfold requireScope at h
  cases hd : c.plant.device device with
  | error fault =>
    rw [hd] at h
    cases h
  | ok d =>
    rw [hd] at h
    refine ⟨d, Plant.device_eq_ok_iff.mp hd, ?_⟩
    rintro rail rfl
    exact exists_rail_of_requireRail h

theorem places_of_requireActiveRail {rail : String} {u : Unit} (h : c.requireActiveRail rail = .ok u) :
    c.plant.Places ⟨c.scope.device, some rail⟩ := by
  have hscope : c.requireScope c.scope.device (some rail) = .ok u := h
  exact places_of_requireScope hscope

end Context

section
variable {c : Context σ} {kind : RunKind} {d : Device σ} {r : Rail} {s : State σ} {k k' : Call σ}

/-- Every call works in scopes of the plant if the one that makes it does. -/
theorem Call.Makes.placed (h : k.Makes k') (hk : k.context.Placed) : k'.context.Placed := by
  cases h with
  | inDevice _ hscope => exact hk.enter (Context.places_of_requireScope hscope)
  | inRail hrail => exact hk.enter (Context.places_of_requireActiveRail hrail)
  | detection _ hd =>
    have hself := hk.enter (Plant.places_of_device? hd)
    exact ⟨hself.scopes⟩
  | rule => exact ⟨hk.scopes⟩
  | _ => exact hk

theorem Call.Leads.placed (h : k.Leads k') (hk : k.context.Placed) : k'.context.Placed := by
  induction h with
  | refl => exact hk
  | tail _ hmakes ih => exact hmakes.placed ih

/-- No scope that was entered before a call is left in it. -/
theorem Call.Makes.scopes_suffix (h : k.Makes k') : k.context.scopes <:+ k'.context.scopes := by
  cases h with
  | inDevice => exact List.suffix_cons _ _
  | inRail => exact List.suffix_cons _ _
  | detection => exact List.suffix_cons _ _
  | _ => exact List.suffix_rfl

theorem Call.Leads.scopes_suffix (h : k.Leads k') : k.context.scopes <:+ k'.context.scopes := by
  induction h with
  | refl => exact List.suffix_rfl
  | tail _ hmakes ih => exact ih.trans hmakes.scopes_suffix

/-- Work on a rail of the active device is done in a scope of the plant, on top of those before. -/
theorem Context.RailMakes.placed (h : c.RailMakes r s kind k) (hc : c.Placed) :
    k.context.Placed ∧ c.scopes <:+ k.context.scopes := by
  have hrail := hc.enter (Context.places_of_requireActiveRail h.active)
  cases h <;> exact ⟨⟨hrail.scopes⟩, List.suffix_cons _ _⟩

theorem Context.VisitMakes.placed (h : c.VisitMakes kind d s k) (hc : c.Placed) :
    k.context.Placed ∧ c.scopes <:+ k.context.scopes := by
  cases h with
  | presence => exact ⟨hc, List.suffix_rfl⟩
  | own _ h => cases h <;> exact ⟨⟨hc.scopes⟩, List.suffix_rfl⟩
  | rails _ _ h =>
    obtain ⟨r, -, t, hmakes⟩ := h.exists_rail
    exact hmakes.placed hc

end

/-! ### Faults -/

/-- Whatever an operation fails with, the scope that the fault names is one of the plant. -/
def Plant.Blames (p : Plant σ) (x : Op σ α) : Prop :=
  ∀ s fault t, x s = (.error fault, t) → ∀ scope, fault.cause.scope? = some scope → p.Places scope

namespace Plant.Blames
variable {p : Plant σ} {x : Op σ α} {f : α → Op σ β} {c : Context σ}

theorem pure (a : α) : p.Blames (Pure.pure a : Op σ α) := fun _ _ _ h => nomatch h

theorem fail {fault : Fault} (h : ∀ scope, fault.cause.scope? = some scope → p.Places scope) :
    p.Blames (Op.fail fault : Op σ α) := by
  rintro s _ t ⟨⟩
  exact h

theorem ofExcept {r : Except Fault α} (h : ∀ fault, r = .error fault → fault.cause.scope? = none) :
    p.Blames (Op.ofExcept r) := by
  cases r with
  | error fault => exact fail fun scope hscope => nomatch (h fault rfl).symm.trans hscope
  | ok a => exact pure a

theorem bind (hx : p.Blames x) (hf : ∀ a, p.Blames (f a)) : p.Blames (x >>= f) := fun s fault u h => by
  rcases Op.bind_eq_error h with hfirst | ⟨a, t, -, hrest⟩
  · exact hx s fault u hfirst
  · exact hf a t fault u hrest

theorem framed (hx : p.Blames x) (frame : Frame) : p.Blames (Op.framed frame x) := fun s fault t h => by
  obtain ⟨inner, hinner, rfl⟩ := Op.framed_eq_error h
  exact hx s inner t hinner

/-- What is done with the outcome of something may fail as that does. -/
theorem attempted (hx : p.Blames x) {g : Except Fault α → Op σ Unit} (hg : ∀ r, p.Blames (g r)) :
    p.Blames (Op.attempt x >>= fun r => g r >>= fun _ => Op.ofExcept r) := fun s fault u h => by
  rw [Op.bind_of_ok (Op.attempt_apply x s)] at h
  rcases Op.bind_eq_error h with hfirst | ⟨_, t, -, hrest⟩
  · exact hg _ _ _ _ hfirst
  · have hfault : (x s).1 = .error fault := (Prod.mk.inj hrest).1
    exact hx s fault (x s).2 (Prod.ext hfault rfl)

/-! #### Single actions -/

theorem accessFault (hc : c.plant.Places c.scope) (register : UInt8) (details : String) :
    ∀ scope, (c.accessFault register details).cause.scope? = some scope → c.plant.Places scope := by
  rintro _ ⟨⟩
  exact hc

theorem scope?_of_device {fault : Fault} (h : c.device = .error fault) : fault.cause.scope? = none := by
  unfold Context.device Plant.device at h
  split at h <;> cases h
  rfl

theorem transfer (hc : c.plant.Places c.scope) (register : UInt8) (request : Request) (step : Transfer σ α) :
    c.plant.Blames (c.transfer register request step) := fun s fault t h => by
  unfold Context.transfer at h
  split at h <;> cases h
  exact accessFault hc register _

theorem openBus (hc : c.plant.Places c.scope) (register : UInt8) : c.plant.Blames (c.openBus register) := by
  refine bind (ofExcept fun _ => scope?_of_device) fun d => ?_
  split
  · exact fail (accessFault hc register _)
  · refine bind (fun _ _ _ h => nomatch h) fun s => ?_
    split
    · exact pure d.bus
    · exact bind (transfer hc register _ _) fun _ => pure d.bus

theorem access (hc : c.plant.Places c.scope) (register : UInt8) (request : Request) (step : Bus σ → Transfer σ α) :
    c.plant.Blames (c.access register request step) :=
  bind (openBus hc register) fun b => transfer hc register request (step b)

theorem operandValue (operand : Operand) : p.Blames (Context.operandValue operand) := by
  cases operand with
  | literal value => exact pure value
  | sensor name =>
    refine bind (fun _ _ _ h => nomatch h) fun s => ?_
    cases Reading.latest? s.readings name with
    | some value => exact pure value
    | none => exact fail nofun

theorem setVout (hc : c.plant.Places c.scope) (v : VoutCommand) : c.plant.Blames (c.setVout v) := by
  unfold Context.setVout
  cases v.volts.or c.volts with
  | none => exact fail nofun
  | some volts =>
    refine bind ?_ fun exponent => bind (ofExcept fun fault h => ?_) fun word => bind (access hc _ _ _) fun _ => ?_
    · unfold Context.voutExponent
      cases v.exponent with
      | some exponent => exact pure exponent
      | none =>
        refine bind (access hc _ _ _) fun mode => ofExcept fun fault h => ?_
        simp only [Linear16.exponentOfMode] at h
        split at h <;> cases h
        rfl
    · unfold Linear16.encode at h
      split at h <;> cases h
      rfl
    · cases v.verify with
      | false => exact pure true
      | true =>
        refine bind (access hc _ _ _) fun actual => ?_
        unfold Context.confirmWrite
        split
        · exact pure true
        · refine fail ?_
          rintro _ ⟨⟩
          exact hc.device

theorem single (hc : c.plant.Places c.scope) {a : Action} {x : Op σ Bool} (h : c.single? a = some x) :
    c.plant.Blames x := by
  cases a with
  | compareRegister r =>
    cases h
    exact bind (access hc _ _ _) fun _ => bind (operandValue r.operand) fun _ => pure _
  | writeRegister w =>
    cases h
    refine bind ?_ fun bytes => bind (access hc _ _ _) fun _ => pure true
    unfold Context.bytesToWrite
    cases w.mask with
    | none => exact pure w.data
    | some mask => exact bind (access hc _ _ _) fun _ => pure _
  | capture b =>
    cases h
    exact bind (access hc _ _ _) fun bytes => bind (fun _ _ _ h => nomatch h) fun _ => pure true
  | readSensor r =>
    cases h
    refine bind (access hc _ _ _) fun bytes => bind (fun s fault t h => ?_) fun _ => pure true
    rw [Context.recordReading_apply] at h
    cases h
  | logFinding l =>
    cases h
    refine bind ?_ fun _ => bind (fun _ _ _ h => nomatch h) fun _ => pure true
    unfold Context.bytesToLog
    cases l.capture with
    | none => exact pure none
    | some b => exact bind (access hc _ _ _) fun _ => pure _
  | setVout v =>
    cases h
    exact setVout hc v
  | _ => cases h

/-! #### Whole tasks -/

theorem scope?_of_requireScope {device : String} {rail : Option String} {fault : Fault}
    (h : c.requireScope device rail = .error fault) : fault.cause.scope? = none := by
  unfold Context.requireScope at h
  cases hd : c.plant.device device with
  | error fault' =>
    rw [hd] at h
    cases h
    exact scope?_of_device (c := c.enter ⟨device, rail⟩) hd
  | ok d =>
    rw [hd] at h
    cases rail with
    | none => cases h
    | some rail =>
      change Context.requireRail d rail = .error fault at h
      unfold Context.requireRail at h
      split at h <;> cases h
      rfl

theorem scope?_of_requireActiveRail {rail : String} {fault : Fault} (h : c.requireActiveRail rail = .error fault) :
    fault.cause.scope? = none := by
  have hscope : c.requireScope c.scope.device (some rail) = .error fault := h
  exact scope?_of_requireScope hscope

/-- A fault that a call raises itself is about its own scope. -/
theorem raised {k : Call σ} {fault : Fault} {t : State σ} (h : k.Raises fault t)
    (hk : k.context.plant.Places k.context.scope) :
    ∀ scope, fault.cause.scope? = some scope → k.context.plant.Places scope := by
  intro scope hscope
  cases h with
  | single hx hfault => exact single hk hx _ _ _ hfault scope hscope
  | noScope _ hrefused => exact nomatch (scope?_of_requireScope hrefused).symm.trans hscope
  | noRail hrefused => exact nomatch (scope?_of_requireActiveRail hrefused).symm.trans hscope
  | noRule => cases hscope
  | notCallable _ hrefused =>
    obtain ⟨reason, rfl, -⟩ := Context.requireCallable_eq_error hrefused
    cases hscope
  | noDevice => cases hscope
  | circular => cases hscope

/-- Every fault of a task that is carried out in scopes of the plant names one of them. -/
theorem carryOut (c : Context σ) (t : Task) : c.Placed → c.plant.Blames (c.carryOut t) := by
  revert c t
  refine Context.carryOut_induct fun c t ih hc s fault u h => ?_
  have hends := Call.ends ⟨c, t, s⟩
  rw [show Call.outcome ⟨c, t, s⟩ = (.error fault, u) from h] at hends
  cases hends with
  | raises hraises => exact raised hraises hc.active
  | @passes _ k' inner _ hmakes _ hinner =>
    have hplant : k'.context.plant = c.plant := hmakes.enters.inside.plant
    have hk' := ih _ _ hmakes.enters (hmakes.placed hc) k'.state inner u hinner
    rwa [Fault.cause_through, ← hplant]

/-! #### Work on a device -/

theorem applyConfiguration (hc : c.Placed) (k : Configuration) : c.plant.Blames (c.applyConfiguration k) :=
  carryOut (c.withVolts k.volts) (.inOrder k.actions) ⟨hc.scopes⟩

theorem onRail {rail : String} {body : Context σ → Op σ Bool}
    (hbody : c.plant.Places ⟨c.scope.device, some rail⟩ → c.plant.Blames (body (c.inRail rail))) :
    c.plant.Blames (c.onRail rail body) := by
  refine framed (fun s fault t h => ?_) _
  rcases Op.bind_eq_error h with hcheck | ⟨_, u, hcheck, hrest⟩
  · exact ofExcept (fun _ => scope?_of_requireActiveRail) s fault t hcheck
  · have hrail := Context.places_of_requireActiveRail (Prod.mk.inj hcheck).1
    exact bind (hbody hrail) (fun _ => pure ()) u fault t hrest

theorem startRail (rail : String) : c.plant.Blames (c.startRail rail) := by
  unfold Context.startRail
  split
  · refine bind (ofExcept fun _ => scope?_of_device) fun d => bind (ofExcept fun fault h => ?_) fun chassis => ?_
    · unfold Plant.chassisOf at h
      split at h <;> cases h
      rfl
    · intro s fault t h
      rw [Context.tellService_apply] at h
      cases h
  · exact pure ()

theorem railWork (hc : c.Placed) (kind : RunKind) (r : Rail) : c.plant.Blames (c.railWork kind r) := by
  cases kind with
  | configure =>
    show c.plant.Blames (c.configureRail r)
    unfold Context.configureRail
    cases r.configuration with
    | none => exact pure ()
    | some k => exact onRail fun hrail => applyConfiguration (c := c.inRail r.id) (hc.enter hrail) k
  | monitor =>
    show c.plant.Blames (c.monitorRail r)
    unfold Context.monitorRail
    cases r.monitoring with
    | none => exact pure ()
    | some as =>
      refine bind (framed (startRail r.id) _) fun _ => attempted ?_ fun outcome s fault t h => ?_
      · exact onRail fun hrail => carryOut (c.inRail r.id) (.inOrder as) (hc.enter hrail)
      · rw [Context.endRail_ok] at h
        cases h

theorem eachRail {act : Rail → Op σ Unit} (h : ∀ r, p.Blames (act r)) (rs : List Rail) :
    p.Blames (Context.eachRail act rs) := by
  induction rs with
  | nil => exact pure ()
  | cons r rs ih => exact bind (h r) fun _ => ih

theorem work (hc : c.Placed) (kind : RunKind) (d : Device σ) : c.plant.Blames (c.work kind d) := by
  rw [Context.work_eq]
  refine framed (bind ?_ fun _ => eachRail (railWork hc kind) d.rails) _
  cases kind with
  | configure =>
    unfold Context.ownWork
    cases d.configuration with
    | none => exact pure ()
    | some k => exact bind (applyConfiguration hc k) fun _ => pure ()
  | monitor =>
    unfold Context.ownWork
    cases d.monitoring with
    | none => exact pure ()
    | some as => exact bind (carryOut c (.inOrder as) hc) fun _ => pure ()

end Plant.Blames

/-! ### Findings and readings -/

/-- What has been found and read is about scopes of the plant. -/
structure State.Attributed (p : Plant σ) (s : State σ) : Prop where
  findings : ∀ x ∈ s.findings, p.Places ⟨x.device, x.rail⟩
  readings : ∀ x ∈ s.readings, p.Places ⟨x.device, x.rail⟩

section
variable {p : Plant σ} {c : Context σ} {s t : State σ}

theorem State.Attributed.of_same (h : s.Attributed p) (hf : t.findings = s.findings) (hr : t.readings = s.readings) :
    t.Attributed p := ⟨hf ▸ h.findings, hr ▸ h.readings⟩

theorem State.Attributed.pushFinding (h : s.Attributed p) {x : Finding} (hx : p.Places ⟨x.device, x.rail⟩) :
    (Context.pushFinding x s).2.Attributed p where
  findings y hy := by
    rcases List.mem_append.mp hy with hy | hy
    · exact h.findings y hy
    · exact List.mem_singleton.mp hy ▸ hx
  readings := h.readings

theorem State.Attributed.recordReading (h : s.Attributed c.plant) (hc : c.plant.Places c.scope) (name : String)
    (kind : SensorKind) (value : Int) : (c.recordReading name kind value s).2.Attributed c.plant := by
  rw [Context.recordReading_apply]
  refine ⟨h.findings, fun x hx => ?_⟩
  rcases List.mem_append.mp hx with hx | hx
  · exact h.readings x hx
  · exact List.mem_singleton.mp hx ▸ hc

/-- Where the active scope is one of the plant, so are those of what is found and read. -/
def attributing (σ : Type) : Regime σ where
  may := fun _ => True
  asks := fun c => c.plant.Places c.scope
  fits := fun c _ => c.plant.Places c.scope
  moves := fun c s t => Grows c s t ∧ (s.Attributed c.plant → t.Attributed c.plant)

theorem attributing_of_same (h : Grows c s t) (hf : t.findings = s.findings) (hr : t.readings = s.readings) :
    (attributing σ).moves c s t := ⟨h, fun hs => hs.of_same hf hr⟩

theorem attributing_law (σ : Type) : (attributing σ).Law where
  refl c s := ⟨Grows.refl c s, id⟩
  trans h₁ h₂ := ⟨h₁.1.trans h₂.1, h₂.2 ∘ h₁.2⟩
  stays hf _ := hf
  asks_of_fits hf := hf
  closed _ := Plant.Closed.univ _
  unresolved h := (growing_law σ).unresolved h.1
  inDevice _ _ _ hscope :=
    ⟨Context.places_of_requireScope hscope, fun _ h => ⟨h.1.of_context rfl rfl fun _ h => h, h.2⟩⟩
  inRail _ hrail :=
    ⟨Context.places_of_requireActiveRail hrail, fun _ h => ⟨h.1.of_context rfl rfl fun _ h => h, h.2⟩⟩
  inRule hf _ _ := ⟨hf, fun _ h => ⟨h.1.of_context rfl rfl fun _ h => h, h.2⟩⟩
  transfer register _ _ _ := attributing_of_same (Grows.transfer register _ _) (by rw [Context.transfer_state])
    (by rw [Context.transfer_state])
  addFinding _ _ _ _ hf := ⟨Grows.pushFinding _, fun hs => hs.pushFinding hf⟩
  capture register bytes _ := attributing_of_same (Grows.capture register bytes) rfl rfl
  recordReading name kind value hf :=
    ⟨Grows.recordReading name kind value, fun hs => hs.recordReading hf name kind value⟩
  detection _ _ hd _ _ _ := by
    refine ⟨attributing_of_same (Grows.note _) rfl rfl, Plant.places_of_device? hd, fun _ h => ?_⟩
    exact ⟨h.1.of_context rfl rfl (List.subset_append_left _ _), h.2⟩
  detectionVerdict outcome _ _ hd := by
    refine ⟨Grows.detectionVerdict _ outcome, fun hs => ?_⟩
    cases outcome with
    | ok present => exact hs
    | error fault =>
      rw [Context.detectionVerdict_error]
      exact (hs.pushFinding (Plant.places_of_device? hd)).of_same rfl rfl
  keepPresence present _ _ hd hnew hnone := attributing_of_same (Grows.keepPresence present hd hnew hnone) rfl rfl

theorem attributing_visitLaw (σ : Type) : (attributing σ).VisitLaw where
  toTaskLaw := (attributing_law σ).taskLaw
  arrive ha _ := ha
  withVolts _ hf := ⟨hf, fun _ h => ⟨h.1.of_context rfl rfl fun _ h => h, h.2⟩⟩
  tellService _ _ := attributing_of_same (Grows.tellService _) (by rw [Context.tellService_apply])
    (by rw [Context.tellService_apply])
  skipped _ := attributing_of_same (Grows.note _) rfl rfl
  visited _ _ := attributing_of_same (Grows.note _) rfl rfl

end

/-! ### Runs -/

namespace Controller
variable {ctl : Controller σ} {kind : RunKind} {k : Call σ} {f : RecordedFault}

/-- A visit starts in the scope of a device of the plant, and there is none outside of it. -/
theorem placed_visitContext {place : Chassis σ × Device σ} (h : place ∈ ctl.plant.places) (cycle : Cycle)
    (earlier : Captures) : (ctl.visitContext cycle earlier place.2.id).Placed where
  scopes scope hscope := by
    obtain rfl : scope = ⟨place.2.id, none⟩ := List.mem_singleton.mp hscope
    exact Plant.places_of_mem h

/-- Every call of a run works in scopes of the plant, the outermost of which is that of the visited device. -/
theorem Calls.placed (h : ctl.Calls kind k) :
    k.context.Placed ∧ ∃ place ∈ ctl.plant.places, [⟨place.2.id, none⟩] <:+ k.context.scopes := by
  cases h with
  | @visit before place after k₀ _ hplaces hvisit hleads =>
    have hplace : place ∈ ctl.plant.places := hplaces ▸ by simp
    obtain ⟨hplaced, hsuffix⟩ := hvisit.placed (placed_visitContext hplace _ _)
    exact ⟨hleads.placed hplaced, place, hplace, hsuffix.trans hleads.scopes_suffix⟩

/-- Every fault that is recorded, whatever it passed, names a scope of the plant if it names one. -/
theorem blames_recorded (hf : f ∈ (ctl.visitAll kind).report.faults) {scope : Scope}
    (hscope : f.fault.cause.scope? = some scope) : ctl.plant.Places scope := by
  obtain ⟨before, place, hfails⟩ := failsAt_of_mem hf
  obtain ⟨after, hplaces⟩ := hfails.visited
  obtain ⟨s, u, -, hwork⟩ := hfails.work
  have hplaced : (ctl.contextOf kind before place).Placed := placed_visitContext (hplaces ▸ by simp) _ _
  exact Plant.Blames.work hplaced kind place.2 _ _ _ hwork scope hscope

theorem attributed_visitOf (kind : RunKind) (cycle : Cycle) (p : Progress σ) {place : Chassis σ × Device σ}
    (h : place ∈ ctl.plant.places) : (ctl.visitOf kind cycle p place).state.Attributed ctl.plant := by
  obtain ⟨-, hattributed⟩ := visitOf_moves ctl kind cycle p place (attributing_visitLaw σ)
    (Plant.places_of_mem h) trivial fun _ _ => trivial
  exact hattributed ⟨nofun, nofun⟩

/-- Besides what is found in scopes of the plant, a report only has findings that are made of recorded faults. -/
structure ReportAttributed (p : Plant σ) (r : Report) : Prop where
  findings : ∀ x ∈ r.findings, p.Places ⟨x.device, x.rail⟩ ∨ ∃ f ∈ r.faults, ∃ severity, x = faultFinding severity f
  readings : ∀ x ∈ r.readings, p.Places ⟨x.device, x.rail⟩

theorem reportAttributed_visitPlace {cycle : Cycle} {p : Progress σ} {place : Chassis σ × Device σ}
    (hplace : place ∈ ctl.plant.places) (h : ReportAttributed ctl.plant p.report) :
    ReportAttributed ctl.plant (ctl.visitPlace kind cycle p place).report := by
  have hvisit := attributed_visitOf kind cycle p hplace
  have readings : ∀ x ∈ p.report.readings ++ (ctl.visitOf kind cycle p place).state.readings,
      ctl.plant.Places ⟨x.device, x.rail⟩ := fun x hx =>
    (List.mem_append.mp hx).elim (h.readings x) (hvisit.readings x)
  cases hfault : (ctl.visitOf kind cycle p place).fault with
  | none =>
    rw [visitPlace_of_none hfault]
    refine ⟨fun x hx => ?_, readings⟩
    rcases List.mem_append.mp hx with hx | hx
    · exact h.findings x hx
    · exact Or.inl (hvisit.findings x hx)
  | some fault =>
    rw [visitPlace_of_some hfault]
    refine ⟨fun x hx => ?_, readings⟩
    rcases List.mem_append.mp hx with hx | hx
    · rcases List.mem_append.mp hx with hx | hx
      · obtain hplaced | ⟨f, hf, severity, rfl⟩ := h.findings x hx
        · exact Or.inl hplaced
        · exact Or.inr ⟨f, List.mem_append_left _ hf, severity, rfl⟩
      · exact Or.inl (hvisit.findings x hx)
    · obtain ⟨severity, -, rfl⟩ := Option.map_eq_some_iff.mp (Option.mem_toList.mp hx)
      exact Or.inr ⟨_, List.mem_append_right _ List.mem_cons_self, severity, rfl⟩

/-- In every run, each call works in scopes that name devices of the plant and rails of these devices, on top of the
scope of the visited device, which is never left. What a call fails with names such a scope as well, if it is a failed
access or a write that was not confirmed, and so does what is recorded of it. Everything that a visit finds or reads
is attributed to such a scope, and a report has no other readings, and no other findings than these and those made of
recorded faults. -/
theorem run_attributes (ctl : Controller σ) (kind : RunKind) :
    (∀ k, ctl.Calls kind k → (∀ scope ∈ k.context.scopes, ctl.plant.Places scope) ∧
      (∃ place ∈ ctl.plant.places, [⟨place.2.id, none⟩] <:+ k.context.scopes) ∧
      ∀ fault t, k.outcome = (.error fault, t) → ∀ scope, fault.cause.scope? = some scope → ctl.plant.Places scope) ∧
    (∀ before place after, ctl.plant.places = before ++ place :: after →
      (ctl.visitOf kind ctl.cycles (ctl.progress kind before) place).state.Attributed ctl.plant) ∧
    ∃ r, (ctl.run kind).1.lastReport = some r ∧ ReportAttributed ctl.plant r ∧
      ∀ f ∈ r.faults, ∀ scope, f.fault.cause.scope? = some scope → ctl.plant.Places scope := by
  refine ⟨fun k hk => ?_, fun before place after h => attributed_visitOf kind _ _ (h ▸ by simp), _, rfl, ?_,
    fun f hf scope => blames_recorded hf⟩
  · obtain ⟨hplaced, hbase⟩ := hk.placed
    have hplant : k.context.plant = ctl.plant := hk.inside.1
    rw [← hplant]
    exact ⟨hplaced.scopes, hplant ▸ hbase, fun fault t h => Plant.Blames.carryOut _ _ hplaced _ _ _ h⟩
  · have hreport : ReportAttributed ctl.plant (ctl.visitAll kind).report :=
      visitAll_induct (motive := fun p => ReportAttributed ctl.plant p.report) ⟨nofun, nofun⟩
        fun p place hplace => reportAttributed_visitPlace hplace
    exact ⟨hreport.findings, hreport.readings⟩

end Controller
end
end PowerRails
