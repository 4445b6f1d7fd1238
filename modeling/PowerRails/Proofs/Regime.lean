import PowerRails.Proofs.Task

/-! # Regimes

Most of what holds while tasks are carried out follows one pattern. Something is true wherever a task is
carried out, be it of the active device or of the presence results; under that condition each elementary step
changes the state in a certain way only, and so does every whole task.

A `Regime` is such a condition `fits`, such a way `moves`, and the tasks to which all this is confined.
`Regime.TaskLaw` asks for the elementary steps, for the contexts in which nested tasks are carried out, and for a
presence detection as a whole; `Regime.TaskLaw.carryOut` gives the whole task, by one induction for all regimes.
Most regimes are kept by each step of a presence detection as well, which is what `Regime.Law` asks instead. -/

namespace PowerRails

/-- What a bus is made to do for a request. -/
inductive Bus.Serves {σ : Type} (b : Bus σ) : {α : Type} → Request → Transfer σ α → Prop
  | connect : b.Serves .connect b.connect
  | read (register : UInt8) (count : Nat) : b.Serves (.read register count) (b.read register count)
  | readByte (register : UInt8) : b.Serves (.readByte register) (b.readByte register)
  | write (register : UInt8) (data : Bytes) : b.Serves (.write register data) (b.write register data)

/-- What a sensors service is told of the rails that are monitored. -/
inductive Notice.OfRail : Notice → Prop
  | railStarted {rail devicePath chassisPath} : OfRail (.railStarted rail devicePath chassisPath)
  | railEnded {failed} : OfRail (.railEnded failed)

/-- A condition on contexts and states, and what tasks do to the state where it holds. -/
structure Regime (σ : Type) where
  /-- The tasks that are carried out. -/
  may : Task → Prop
  /-- What holds wherever presence is asked for; it may be less than what holds elsewhere, because a detection
  brings its own scope. -/
  asks : Context σ → Prop := fun _ => True
  /-- What holds wherever a task is carried out. -/
  fits : Context σ → State σ → Prop
  /-- What carrying it out does. -/
  moves : Context σ → State σ → State σ → Prop

namespace Regime

variable {σ : Type}

/-- From a state, a task may be carried out in the context `c'`, and what it does there counts as done in `c`. -/
structure Under (g : Regime σ) (c c' : Context σ) (s : State σ) : Prop where
  fits : g.fits c' s
  moves : ∀ t, g.moves c' s t → g.moves c s t

/-- The steps that single actions are made of keep to a regime. -/
structure StepLaw (g : Regime σ) : Prop where
  refl : ∀ c s, g.moves c s s
  trans : ∀ {c s t u}, g.moves c s t → g.moves c t u → g.moves c s u
  stays : ∀ {c s t}, g.fits c s → g.moves c s t → g.fits c t
  transfer : ∀ {c s d} {α : Type} {request : Request} {step : Transfer σ α} (register : UInt8), g.fits c s →
    c.device = .ok d → d.bus.Serves request step → g.moves c s (c.transfer register request step s).2
  addFinding : ∀ {c s} severity code captured message, g.fits c s →
    g.moves c s (c.addFinding severity code captured message s).2
  capture : ∀ {c s} register bytes, g.fits c s → g.moves c s (c.capture register bytes s).2
  recordReading : ∀ {c s} name kind value, g.fits c s → g.moves c s (c.recordReading name kind value s).2

/-- A regime reaches into the contexts in which nested tasks are carried out. -/
structure ScopeLaw (g : Regime σ) : Prop extends g.StepLaw where
  asks_of_fits : ∀ {c s}, g.fits c s → g.asks c
  closed : ∀ {c}, g.asks c → c.plant.Closed g.may
  inDevice : ∀ {c s d r as}, g.fits c s → g.may (.action (.inDevice d r as)) →
    s.presence.get? d c.cycle = some true → c.requireScope d r = .ok () → g.Under c (c.enter ⟨d, r⟩) s
  inRail : ∀ {c s r}, g.fits c s → c.requireActiveRail r = .ok () → g.Under c (c.inRail r) s
  inRule : ∀ {c s id r}, g.fits c s → c.plant.rule? id = some r → c.requireCallable id = .ok () →
    g.Under c (c.inRule id) s

/-- Finding out presence keeps to a regime as a whole, provided that the detection does. -/
structure TaskLaw (g : Regime σ) : Prop extends g.ScopeLaw where
  assumed : ∀ {c s id d}, g.asks c → g.may (.presence id) → c.plant.device? id = some d → d.detection = none →
    id ∉ c.detecting → s.presence.get? id c.cycle = none → g.moves c s (c.keepPresence id true s).2
  detected : ∀ {c s id d as}, g.asks c → g.may (.presence id) → c.plant.device? id = some d →
    d.detection = some as → id ∉ c.detecting → s.presence.get? id c.cycle = none →
    g.fits (c.detached id) (Op.note (.detection id) s).2 ∧
      ∀ outcome t, g.moves (c.detached id) (Op.note (.detection id) s).2 t →
        g.moves c s ((Context.detectionVerdict id outcome >>= c.keepPresence id) t).2

/-- Finding out presence keeps to a regime step by step. -/
structure Law (g : Regime σ) : Prop extends g.ScopeLaw where
  /-- While a presence detection is under way, no result of its device is kept. -/
  unresolved : ∀ {c s t id}, g.moves c s t → id ∈ c.detecting → s.presence.get? id c.cycle = none →
    t.presence.get? id c.cycle = none
  detection : ∀ {c s id d as}, g.asks c → g.may (.presence id) → c.plant.device? id = some d →
    d.detection = some as → id ∉ c.detecting → s.presence.get? id c.cycle = none →
    g.moves c s (Op.note (.detection id) s).2 ∧ g.Under c (c.detached id) (Op.note (.detection id) s).2
  detectionVerdict : ∀ {c s id d} outcome, g.asks c → g.may (.presence id) → c.plant.device? id = some d →
    g.moves c s (Context.detectionVerdict id outcome s).2
  keepPresence : ∀ {c s id d} present, g.asks c → g.may (.presence id) → c.plant.device? id = some d →
    id ∉ c.detecting → s.presence.get? id c.cycle = none → g.moves c s (c.keepPresence id present s).2

namespace StepLaw

variable {g : Regime σ} {c : Context σ} {s : State σ} {α β : Type}

theorem bind (h : g.StepLaw) {x : Op σ α} {f : α → Op σ β} (hx : g.moves c s (x s).2)
    (hf : ∀ a t, x s = (.ok a, t) → g.moves c t (f a t).2) : g.moves c s ((x >>= f) s).2 := by
  rw [Op.bind_apply]
  rcases hxs : x s with ⟨fault | a, t⟩
  · rw [hxs] at hx
    exact hx
  · rw [hxs] at hx
    exact h.trans hx (hf a t hxs)

/-- Nothing that happens after a result changes the state. -/
theorem bind_pure (h : g.StepLaw) {x : Op σ α} {f : α → β} (hx : g.moves c s (x s).2) :
    g.moves c s ((x >>= fun a => pure (f a)) s).2 :=
  h.bind hx fun _ _ _ => h.refl c _

/-- A result that is not a fault is needed to go on; finding it changes nothing. -/
theorem ofExcept (h : g.StepLaw) {r : Except Fault α} {f : α → Op σ β} (hf : ∀ a, r = .ok a → g.moves c s (f a s).2) :
    g.moves c s ((Op.ofExcept r >>= f) s).2 :=
  h.bind (h.refl c s) fun a t hat => by
    rw [Op.ofExcept_apply, Prod.mk.injEq] at hat
    exact hat.2 ▸ hf a hat.1

/-! ### Single actions -/

theorem openBus (h : g.StepLaw) (hf : g.fits c s) (register : UInt8) : g.moves c s (c.openBus register s).2 := by
  refine h.ofExcept fun d hd => ?_
  split
  · exact h.refl c s
  · refine h.bind (h.refl c s) fun _ t ht => ?_
    cases ht
    split
    · exact h.refl c s
    · exact h.bind_pure (h.transfer register hf hd .connect)

theorem openBus_eq_ok {register : UInt8} {b : Bus σ} {t : State σ} (hb : c.openBus register s = (.ok b, t)) :
    ∃ d, c.device = .ok d ∧ b = d.bus := by
  simp only [Context.openBus, Op.bind_apply, Op.ofExcept_apply] at hb
  cases hd : c.device with
  | error fault => simp [hd] at hb
  | ok d =>
    refine ⟨d, rfl, ?_⟩
    simp only [hd] at hb
    split at hb
    · cases hb
    · simp only [Op.bind_apply, Op.state_apply] at hb
      split at hb
      · cases hb
        rfl
      · simp only [Op.bind_apply] at hb
        split at hb
        · cases hb
          rfl
        · cases hb

theorem access (h : g.StepLaw) (hf : g.fits c s) (register : UInt8) {request : Request} {step : Bus σ → Transfer σ α}
    (hstep : ∀ b : Bus σ, b.Serves request (step b)) : g.moves c s (c.access register request step s).2 := by
  refine h.bind (h.openBus hf register) fun b t ht => ?_
  obtain ⟨d, hd, rfl⟩ := openBus_eq_ok ht
  have ho := h.openBus hf register
  rw [ht] at ho
  exact h.transfer register (h.stays hf ho) hd (hstep d.bus)

theorem readBlock (h : g.StepLaw) (hf : g.fits c s) (register : UInt8) (count : Nat) :
    g.moves c s (c.readBlock register count s).2 :=
  h.access hf register fun _ => .read register count

theorem readByte (h : g.StepLaw) (hf : g.fits c s) (register : UInt8) : g.moves c s (c.readByte register s).2 :=
  h.access hf register fun _ => .readByte register

theorem writeBlock (h : g.StepLaw) (hf : g.fits c s) (register : UInt8) (data : Bytes) :
    g.moves c s (c.writeBlock register data s).2 :=
  h.access hf register fun _ => .write register data

theorem fits_after (h : g.StepLaw) {x : Op σ α} {a : α} {t : State σ} (hf : g.fits c s) (hx : g.moves c s (x s).2)
    (ht : x s = (.ok a, t)) : g.fits c t := by
  rw [ht] at hx
  exact h.stays hf hx

theorem operandValue (h : g.StepLaw) (operand : Operand) : g.moves c s (Context.operandValue operand s).2 := by
  cases operand with
  | literal value => exact h.refl c s
  | sensor name =>
    refine h.bind (h.refl c s) fun _ t ht => ?_
    cases ht
    cases Reading.latest? s.readings name <;> exact h.refl c s

theorem setVout (h : g.StepLaw) (hf : g.fits c s) (v : VoutCommand) : g.moves c s (c.setVout v s).2 := by
  have exponent : ∀ t, g.fits c t → g.moves c t (c.voutExponent v t).2 := fun t ht => by
    unfold Context.voutExponent
    cases v.exponent with
    | some e => exact h.refl c t
    | none => exact h.bind (h.readByte ht _) fun _ _ _ => h.refl c _
  unfold Context.setVout
  cases v.volts.or c.volts with
  | none => exact h.refl c s
  | some volts =>
    refine h.bind (exponent s hf) fun e t ht => h.ofExcept fun word _ => ?_
    have hft := h.fits_after hf (exponent s hf) ht
    refine h.bind (h.writeBlock hft _ _) fun _ u hu => ?_
    cases v.verify with
    | false => exact h.refl c u
    | true =>
      refine h.bind (h.readBlock (h.fits_after hft (h.writeBlock hft _ _) hu) _ _) fun actual w _ => ?_
      unfold Context.confirmWrite
      split <;> exact h.refl c w

theorem single (h : g.StepLaw) (hf : g.fits c s) {a : Action} {x : Op σ Bool} (hx : c.single? a = some x) :
    g.moves c s (x s).2 := by
  cases a with
  | compareRegister r =>
    cases hx
    refine h.bind (h.readBlock hf _ _) fun _ _ _ => ?_
    exact h.bind_pure (h.operandValue _)
  | writeRegister w =>
    cases hx
    have bytes : g.moves c s (c.bytesToWrite w s).2 := by
      unfold Context.bytesToWrite
      cases w.mask with
      | none => exact h.refl c s
      | some mask => exact h.bind_pure (h.readBlock hf _ _)
    exact h.bind bytes fun _ _ ht => h.bind_pure (h.writeBlock (h.fits_after hf bytes ht) _ _)
  | capture b =>
    cases hx
    exact h.bind (h.readBlock hf _ _) fun _ _ ht =>
      h.bind_pure (h.capture _ _ (h.fits_after hf (h.readBlock hf _ _) ht))
  | readSensor r =>
    cases hx
    exact h.bind (h.readBlock hf _ _) fun _ _ ht =>
      h.bind_pure (h.recordReading _ _ _ (h.fits_after hf (h.readBlock hf _ _) ht))
  | logFinding l =>
    cases hx
    have bytes : g.moves c s (c.bytesToLog l s).2 := by
      unfold Context.bytesToLog
      cases l.capture with
      | none => exact h.refl c s
      | some b => exact h.bind_pure (h.readBlock hf _ _)
    exact h.bind bytes fun _ _ ht => h.bind_pure (h.addFinding _ _ _ _ (h.fits_after hf bytes ht))
  | setVout v =>
    cases hx
    exact h.setVout hf v
  | _ => cases hx

end StepLaw

/-! ### Whole tasks -/

/-- What finds out presence step by step does so as a whole. -/
theorem Law.taskLaw {g : Regime σ} (h : g.Law) : g.TaskLaw where
  toScopeLaw := h.toScopeLaw
  assumed ha ht hd _ hnew hp := h.keepPresence true ha ht hd hnew hp
  detected {c s id d as} ha ht hd has hnew hp := by
    obtain ⟨hnote, hunder⟩ := h.detection ha ht hd has hnew hp
    refine ⟨hunder.fits, fun outcome t hin => ?_⟩
    have hverdict : g.moves c t (Context.detectionVerdict id outcome t).2 := h.detectionVerdict outcome ha ht hd
    -- The detection kept no result of its own device, so the one kept now replaces none of this cycle.
    have hself : id ∈ (c.detached id).detecting := by simp [Context.detached]
    have hnone : t.presence.get? id (c.detached id).cycle = none := h.unresolved hin hself hp
    refine h.trans (h.trans hnote (hunder.moves t hin)) (h.bind hverdict fun present u hu => ?_)
    refine h.keepPresence present ha ht hd hnew ?_
    cases outcome <;> cases hu <;> exact hnone

namespace TaskLaw

variable {g : Regime σ} {c : Context σ} {s : State σ}

theorem resolvePresence (h : g.TaskLaw) {id : String} (ha : g.asks c) (ht : g.may (.presence id))
    (ih : ∀ {d as u}, c.plant.device? id = some d → d.detection = some as → id ∉ c.detecting →
      g.fits (c.detached id) u → g.moves (c.detached id) u ((c.detached id).inOrder as u).2) :
    g.moves c s (c.resolvePresence id s).2 := by
  have hr := c.resolves id s
  generalize c.resolvePresence id s = x at hr ⊢
  cases hr with
  | cached => exact h.refl c s
  | unknown => exact h.refl c s
  | cyclic => exact h.refl c s
  | assumed hp hd hnew has => exact h.assumed ha ht hd has hnew hp
  | @detected d as r hp hd hnew has hrun =>
    obtain ⟨hfits, hmoves⟩ := h.detected ha ht hd has hnew hp
    have hin := ih hd has hnew hfits
    rw [hrun] at hin
    exact hmoves r.1 r.2 hin

/-- Under the law of a regime, every task keeps to the regime. -/
theorem carryOut (h : g.TaskLaw) (c : Context σ) (t : Task) :
    ∀ s, g.fits c s → g.may t → g.moves c s (c.carryOut t s).2 := by
  revert c t
  refine Context.carryOut_induct fun c t ih s hf ht => ?_
  have next : ∀ {c' t'}, c.Enters t c' t' → g.may t' := fun he => (h.closed (h.asks_of_fits hf)).enters ht he
  cases t with
  | action a =>
    show g.moves c s (c.perform a s).2
    cases hx : c.single? a with
    | some x =>
      rw [Context.perform_of_single? hx]
      show g.moves c s (x s).2
      exact h.single hf hx
    | none =>
      cases a with
      | allOf as =>
        rw [Context.perform]
        exact ih _ _ .allOf s hf (next .allOf)
      | anyOf as =>
        rw [Context.perform]
        exact ih _ _ .anyOf s hf (next .anyOf)
      | negation a =>
        rw [Context.perform]
        exact h.bind_pure (ih _ _ .negation s hf (next .negation))
      | branch a as bs =>
        rw [Context.perform.eq_def]
        have hcond := ih _ _ .condition s hf (next .condition)
        refine h.bind hcond fun b u hu => ?_
        have hfu := h.fits_after hf hcond hu
        cases b with
        | true => exact ih _ _ .consequent u hfu (next .consequent)
        | false =>
          cases bs with
          | none => exact h.refl c u
          | some bs => exact ih _ _ .alternative u hfu (next .alternative)
      | runRule id =>
        rw [Context.perform]
        exact ih _ _ .runRule s hf (next .runRule)
      | inDevice d r as =>
        rw [Context.perform]
        have hgate := ih _ _ .gate s hf (next .gate)
        refine h.bind hgate fun b u hu => ?_
        have hfu := h.fits_after hf hgate hu
        cases b with
        | false => exact h.bind_pure (h.addFinding _ _ _ _ hfu)
        | true =>
          refine h.ofExcept fun _ hscope => ?_
          have hunder := h.inDevice hfu ht (Context.get?_of_resolvePresence hu) hscope
          exact hunder.moves _ (ih _ _ .inDevice u hunder.fits (next .inDevice))
      | inRail r as =>
        rw [Context.perform]
        refine h.ofExcept fun _ hrail => ?_
        have hunder := h.inRail hf hrail
        exact hunder.moves _ (ih _ _ .inRail s hunder.fits (next .inRail))
      | comparePresence d b =>
        rw [Context.perform]
        exact h.bind_pure (ih _ _ .comparePresence s hf (next .comparePresence))
      | _ => cases hx
  | every as =>
    show g.moves c s (c.everyOf as s).2
    cases as with
    | nil =>
      rw [Context.everyOf]
      exact h.refl c s
    | cons a as =>
      rw [Context.everyOf]
      have hhead := ih _ _ .everyHead s hf (next .everyHead)
      refine h.bind hhead fun b u hu => ?_
      cases b with
      | true => exact ih _ _ .everyTail u (h.fits_after hf hhead hu) (next .everyTail)
      | false => exact h.refl c u
  | any as =>
    show g.moves c s (c.someOf as s).2
    cases as with
    | nil =>
      rw [Context.someOf]
      exact h.refl c s
    | cons a as =>
      rw [Context.someOf]
      have hhead := ih _ _ .anyHead s hf (next .anyHead)
      refine h.bind hhead fun b u hu => ?_
      cases b with
      | true => exact h.refl c u
      | false => exact ih _ _ .anyTail u (h.fits_after hf hhead hu) (next .anyTail)
  | inOrder as =>
    show g.moves c s (c.inOrder as s).2
    obtain ⟨a, _ | ⟨b, bs⟩⟩ := as
    · rw [Context.inOrder]
      exact ih _ _ .first s hf (next .first)
    · rw [Context.inOrder]
      have hfirst := ih _ _ .first s hf (next .first)
      exact h.bind hfirst fun _ u hu => ih _ _ .next u (h.fits_after hf hfirst hu) (next .next)
  | rule id =>
    show g.moves c s (c.callRule id s).2
    cases hr : c.plant.rule? id with
    | none =>
      rw [Context.callRule_of_none hr]
      exact h.refl c s
    | some r =>
      rw [Context.callRule_of_some hr]
      refine h.ofExcept fun _ hcall => ?_
      have hunder := h.inRule hf hr hcall
      exact hunder.moves _ (ih _ _ (.rule hr hcall) s hunder.fits (next (.rule hr hcall)))
  | presence id =>
    exact h.resolvePresence (h.asks_of_fits hf) ht fun hd has hnew hfu =>
      ih _ _ (.detection hd has hnew) _ hfu (next (.detection hd has hnew))

/-- Finding out presence keeps to a regime also where nothing else may be carried out. -/
theorem presence (h : g.TaskLaw) (c : Context σ) {id : String} (ha : g.asks c) (ht : g.may (.presence id))
    (s : State σ) :
    g.moves c s (c.resolvePresence id s).2 :=
  h.resolvePresence ha ht fun hd has _ hfu =>
    h.carryOut _ (.inOrder _) _ hfu ((h.closed ha).detection ht hd has)

end TaskLaw

/-! ### Visits -/

section
variable {g : Regime σ} {c : Context σ} {s : State σ}

theorem ScopeLaw.onRail (h : g.ScopeLaw) (hf : g.fits c s) (rail : String) {body : Context σ → Op σ Bool}
    (hbody : g.fits (c.inRail rail) s → g.moves (c.inRail rail) s (body (c.inRail rail) s).2) :
    g.moves c s (c.onRail rail body s).2 :=
  h.ofExcept fun _ hrail =>
    h.bind ((h.inRail hf hrail).moves _ (hbody (h.inRail hf hrail).fits)) fun _ _ _ => h.refl c _

theorem StepLaw.eachRail (h : g.StepLaw) {act : Rail → Op σ Unit} {rs : List Rail} :
    ∀ {s}, g.fits c s → (∀ r ∈ rs, ∀ t, g.fits c t → g.moves c t (act r t).2) →
      g.moves c s (Context.eachRail act rs s).2 := by
  induction rs with
  | nil => exact fun _ _ => h.refl c _
  | cons r rs ih =>
    intro s hf hact
    have hr := hact r List.mem_cons_self s hf
    exact h.bind hr fun _ t ht => ih (h.fits_after hf hr ht) fun r' hr' => hact r' (List.mem_cons_of_mem r hr')

end

/-- What a visit does besides keeps to the regime as well. -/
structure VisitLaw (g : Regime σ) : Prop extends g.TaskLaw where
  /-- A device that was found to be there may be worked on. -/
  arrive : ∀ {c s}, g.asks c → s.presence.get? c.scope.device c.cycle = some true → g.fits c s
  withVolts : ∀ {c s} volts, g.fits c s → g.Under c (c.withVolts volts) s
  tellService : ∀ {c s notice}, Notice.OfRail notice → g.fits c s → g.moves c s (c.tellService notice s).2
  skipped : ∀ {c s}, g.asks c → g.moves c s (Op.note (.log (.deviceSkipped c.scope.device)) s).2
  visited : ∀ {c s} kind, g.asks c → g.moves c s (Op.note (.log (.deviceVisited kind c.scope.device)) s).2

namespace VisitLaw

variable {g : Regime σ} {c : Context σ} {s : State σ}

theorem applyConfiguration (h : g.VisitLaw) (hf : g.fits c s) (k : Configuration) (hk : g.may (.inOrder k.actions)) :
    g.moves c s (c.applyConfiguration k s).2 := by
  have hunder := h.withVolts k.volts hf
  exact hunder.moves _ (h.carryOut _ (.inOrder k.actions) s hunder.fits hk)

theorem configureRail (h : g.VisitLaw) (hf : g.fits c s) {r : Rail}
    (hr : ∀ k ∈ r.configuration, g.may (.inOrder k.actions)) : g.moves c s (c.configureRail r s).2 := by
  unfold Context.configureRail
  cases hk : r.configuration with
  | none => exact h.refl c s
  | some k => exact h.onRail hf r.id fun hf' => h.applyConfiguration hf' k (hr k hk)

theorem startRail (h : g.VisitLaw) (hf : g.fits c s) (rail : String) : g.moves c s (c.startRail rail s).2 := by
  unfold Context.startRail
  split
  · exact h.ofExcept fun _ _ => h.ofExcept fun _ _ => h.tellService .railStarted hf
  · exact h.refl c s

theorem monitorRail (h : g.VisitLaw) (hf : g.fits c s) {r : Rail} (hr : ∀ as ∈ r.monitoring, g.may (.inOrder as)) :
    g.moves c s (c.monitorRail r s).2 := by
  unfold Context.monitorRail
  cases has : r.monitoring with
  | none => exact h.refl c s
  | some as =>
    have hstart : g.moves c s (Op.framed (.rail r.id) (c.startRail r.id) s).2 := h.startRail hf r.id
    refine h.bind hstart fun _ t ht => ?_
    have hft := h.fits_after hf hstart ht
    have hrail : g.moves c t (c.onRail r.id (·.inOrder as) t).2 :=
      h.onRail hft r.id fun hf' => h.carryOut _ (.inOrder as) t hf' (hr as has)
    have hattempt : g.moves c t (Op.attempt (c.onRail r.id (·.inOrder as)) t).2 := hrail
    refine h.bind hattempt fun outcome u hu => ?_
    exact h.bind (h.tellService .railEnded (h.fits_after hft hattempt hu)) fun _ v _ => h.refl c v

/-- A device that is there is worked on by its own procedures and those of its rails. -/
theorem work (h : g.VisitLaw) (hf : g.fits c s) (kind : RunKind) {d : Device σ}
    (hd : ∀ as ∈ d.procedures, g.may (.inOrder as)) : g.moves c s (c.work kind d s).2 := by
  have hwork : ∀ as ∈ d.workProcedures kind, g.may (.inOrder as) := fun as has =>
    hd as (d.workProcedures_subset kind has)
  cases kind with
  | configure =>
    have rails : ∀ t, g.fits c t → g.moves c t (Context.eachRail c.configureRail d.rails t).2 := fun t ht =>
      h.eachRail ht fun r hr u hu => h.configureRail hu fun k hk =>
        hwork _ (Device.mem_workProcedures_configure hr hk)
    show g.moves c s (c.configureDevice d s).2
    unfold Context.configureDevice
    rw [Op.framed_apply]
    cases hk : d.configuration with
    | none => exact rails s hf
    | some k =>
      have hown := h.applyConfiguration hf k (hd _ (by simp [Device.procedures, hk]))
      exact h.bind hown fun _ t ht => rails t (h.fits_after hf hown ht)
  | monitor =>
    have rails : ∀ t, g.fits c t → g.moves c t (Context.eachRail c.monitorRail d.rails t).2 := fun t ht =>
      h.eachRail ht fun r hr u hu => h.monitorRail hu fun as has =>
        hwork _ (Device.mem_workProcedures_monitor hr has)
    show g.moves c s (c.monitorDevice d s).2
    unfold Context.monitorDevice
    rw [Op.framed_apply]
    cases has : d.monitoring with
    | none => exact rails s hf
    | some as =>
      have hown := h.carryOut c (.inOrder as) s hf (hd _ (by simp [Device.procedures, has]))
      exact h.bind hown fun _ t ht => rails t (h.fits_after hf hown ht)

theorem visit (h : g.VisitLaw) (c : Context σ) (kind : RunKind) {d : Device σ} (hid : d.id = c.scope.device)
    (ha : g.asks c) (hp : g.may (.presence d.id)) (hd : ∀ as ∈ d.procedures, g.may (.inOrder as)) (row : DeviceRow)
    (s : State σ) : g.moves c s (c.visit kind d row s).state := by
  have hpresence := h.presence c ha hp s
  rcases hx : c.resolvePresence d.id s with ⟨fault | present, t⟩
  · rw [Context.visit_of_fault hx]
    rw [hx] at hpresence
    exact hpresence
  · rw [hx] at hpresence
    cases present with
    | false =>
      rw [Context.visit_of_absent hx]
      exact h.trans hpresence (hid ▸ h.skipped ha)
    | true =>
      have hft := h.arrive ha (hid ▸ Context.get?_of_resolvePresence hx)
      have hvisited : g.moves c t (Op.note (.log (.deviceVisited kind d.id)) t).2 := hid ▸ h.visited kind ha
      have hwork : g.moves c t ((Op.note (.log (.deviceVisited kind d.id)) >>= fun _ => c.work kind d) t).2 :=
        h.bind hvisited fun _ u hu => h.work (h.fits_after hft hvisited hu) kind hd
      rcases hw : (Op.note (.log (.deviceVisited kind d.id)) >>= fun _ => c.work kind d) t with ⟨_ | _, u⟩
      · rw [Context.visit_of_work_fault hx hw]
        rw [hw] at hwork
        exact h.trans hpresence hwork
      · rw [Context.visit_of_work hx hw]
        rw [hw] at hwork
        exact h.trans hpresence hwork

end VisitLaw
end Regime
end PowerRails
