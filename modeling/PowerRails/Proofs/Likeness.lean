import PowerRails.Proofs.Task

/-! # Likeness

A task that is carried out twice, in contexts and on states that differ in some respects only, does the same
both times as long as it does not see the difference. A `Likeness` says in which respects contexts, states and
hardware are alike, and of which tasks that is to hold; `Likeness.TaskLaw` asks that no single action sees a
difference or makes one, and `Likeness.TaskLaw.carryOut` gives the whole task. Where the hardware answers alike,
it is enough that no elementary step sees a difference, which is what `Likeness.Law` asks. -/

namespace PowerRails

/-- Two buses answer alike on hardware that is alike, and leave it alike. -/
structure Bus.Alike {σ τ : Type} (hardware : σ → τ → Prop) (b : Bus σ) (b' : Bus τ) : Prop where
  endpoint : b.endpoint = b'.endpoint
  isOpen : ∀ {h k}, hardware h k → b.isOpen h = b'.isOpen k
  connect : ∀ {h k}, hardware h k → (b.connect h).1 = (b'.connect k).1 ∧ hardware (b.connect h).2 (b'.connect k).2
  disconnect : ∀ {h k}, hardware h k →
    (b.disconnect h).1 = (b'.disconnect k).1 ∧ hardware (b.disconnect h).2 (b'.disconnect k).2
  read : ∀ {h k} register count, hardware h k →
    (b.read register count h).1 = (b'.read register count k).1 ∧
      hardware (b.read register count h).2 (b'.read register count k).2
  write : ∀ {h k} register data, hardware h k →
    (b.write register data h).1 = (b'.write register data k).1 ∧
      hardware (b.write register data h).2 (b'.write register data k).2

theorem Bus.Alike.refl {σ : Type} (b : Bus σ) : b.Alike Eq b where
  endpoint := rfl
  isOpen := by rintro h _ rfl; rfl
  connect := by rintro h _ rfl; exact ⟨rfl, rfl⟩
  disconnect := by rintro h _ rfl; exact ⟨rfl, rfl⟩
  read _ _ := by rintro rfl; exact ⟨rfl, rfl⟩
  write _ _ := by rintro rfl; exact ⟨rfl, rfl⟩

theorem Bus.Alike.readByte {σ τ : Type} {hardware : σ → τ → Prop} {b : Bus σ} {b' : Bus τ} (h : b.Alike hardware b')
    {s : σ} {t : τ} (register : UInt8) (hst : hardware s t) :
    (b.readByte register s).1 = (b'.readByte register t).1 ∧
      hardware (b.readByte register s).2 (b'.readByte register t).2 := by
  obtain ⟨hanswer, hleft⟩ := h.read register 1 hst
  unfold Bus.readByte
  rcases hs : b.read register 1 s with ⟨e | bytes, u⟩ <;> rcases ht : b'.read register 1 t with ⟨e' | bytes', v⟩ <;>
    rw [hs, ht] at hanswer hleft <;> cases hanswer
  · exact ⟨rfl, hleft⟩
  · cases bytes with
    | nil => exact ⟨by rw [h.endpoint], hleft⟩
    | cons byte bytes => exact ⟨rfl, hleft⟩

/-- In which respects two contexts, two states and two pieces of hardware are alike. -/
structure Likeness (σ τ : Type) where
  /-- The tasks that are carried out. -/
  may : Task → Prop
  /-- Contexts that are alike as far as asking for presence goes; a detection brings the rest. -/
  asks : Context σ → Context τ → Prop
  contexts : Context σ → Context τ → Prop
  hardware : σ → τ → Prop
  states : State σ → State τ → Prop

namespace Likeness

variable {σ τ α β : Type}

/-- Two operations do the same on states that are alike, and leave them alike. -/
def Same (g : Likeness σ τ) (x : Op σ α) (y : Op τ α) : Prop :=
  ∀ ⦃s t⦄, g.states s t → (x s).1 = (y t).1 ∧ g.states (x s).2 (y t).2

/-- Entering other contexts does not tell apart what is alike. -/
structure EntryLaw (g : Likeness σ τ) : Prop where
  rule? : ∀ {c d} id, g.contexts c d → c.plant.rule? id = d.plant.rule? id
  requireCallable : ∀ {c d} id, g.contexts c d → c.requireCallable id = d.requireCallable id
  requireScope : ∀ {c d dv r as}, g.contexts c d → g.may (.action (.inDevice dv r as)) →
    c.requireScope dv r = d.requireScope dv r
  requireActiveRail : ∀ {c d} r, g.contexts c d → c.requireActiveRail r = d.requireActiveRail r
  inRule : ∀ {c d} id, g.contexts c d → g.contexts (c.inRule id) (d.inRule id)
  inDevice : ∀ {c d dv r as}, g.contexts c d → g.may (.action (.inDevice dv r as)) →
    g.contexts (c.enter ⟨dv, r⟩) (d.enter ⟨dv, r⟩)
  inRail : ∀ {c d} r, g.contexts c d → g.contexts (c.inRail r) (d.inRail r)
  addFinding : ∀ {c d} severity code captured message, g.contexts c d →
    g.Same (c.addFinding severity code captured message) (d.addFinding severity code captured message)

/-- Working in another place, on a device or a rail, does not tell apart what is alike. -/
structure PlaceLaw (g : Likeness σ τ) : Prop where
  requireScope : ∀ {c d dv r as}, g.contexts c d → g.may (.action (.inDevice dv r as)) →
    c.requireScope dv r = d.requireScope dv r
  requireActiveRail : ∀ {c d} r, g.contexts c d → c.requireActiveRail r = d.requireActiveRail r
  inDevice : ∀ {c d dv r as}, g.contexts c d → g.may (.action (.inDevice dv r as)) →
    g.contexts (c.enter ⟨dv, r⟩) (d.enter ⟨dv, r⟩)
  inRail : ∀ {c d} r, g.contexts c d → g.contexts (c.inRail r) (d.inRail r)
  addFinding : ∀ {c d} severity code captured message, g.contexts c d →
    g.Same (c.addFinding severity code captured message) (d.addFinding severity code captured message)

theorem EntryLaw.placeLaw {g : Likeness σ τ} (h : g.EntryLaw) : g.PlaceLaw where
  requireScope := h.requireScope
  requireActiveRail := h.requireActiveRail
  inDevice := h.inDevice
  inRail := h.inRail
  addFinding := h.addFinding

/-- Neither finding out presence nor entering other contexts tells apart what is alike. -/
structure ScopeLaw (g : Likeness σ τ) : Prop extends g.EntryLaw where
  asks_of_contexts : ∀ {c d}, g.contexts c d → g.asks c d
  closed : ∀ {c d}, g.asks c d → c.plant.Closed g.may
  known : ∀ {c d s t id}, g.asks c d → g.may (.presence id) → g.states s t →
    s.presence.get? id c.cycle = t.presence.get? id d.cycle
  detections : ∀ {c d id}, g.asks c d → g.may (.presence id) →
    (c.plant.device? id).map (·.detection) = (d.plant.device? id).map (·.detection)
  detecting : ∀ {c d}, g.asks c d → c.detecting = d.detecting
  detached : ∀ {c d id}, g.asks c d → g.may (.presence id) → g.contexts (c.detached id) (d.detached id)
  note : ∀ {c d id}, g.asks c d → g.may (.presence id) → g.Same (Op.note (.detection id)) (Op.note (.detection id))
  detectionVerdict : ∀ {c d id} outcome, g.asks c d → g.may (.presence id) →
    g.Same (Context.detectionVerdict id outcome) (Context.detectionVerdict id outcome)
  keepPresence : ∀ {c d id} present, g.asks c d → g.may (.presence id) →
    g.Same (c.keepPresence id present) (d.keepPresence id present)

/-- Single actions as a whole do not tell apart what is alike. -/
structure TaskLaw (g : Likeness σ τ) : Prop extends g.ScopeLaw where
  single : ∀ {c d a x y}, g.contexts c d → g.may (.action a) → c.single? a = some x → d.single? a = some y →
    g.Same x y

/-- No elementary step of a single action tells apart what is alike. -/
structure Law (g : Likeness σ τ) : Prop extends g.ScopeLaw where
  hardware : ∀ {s t}, g.states s t → g.hardware s.hardware t.hardware
  scope : ∀ {c d}, g.contexts c d → c.scope = d.scope
  held : ∀ {c d}, g.contexts c d → c.held = d.held
  volts : ∀ {c d}, g.contexts c d → c.volts = d.volts
  device : ∀ {c d}, g.contexts c d → (∃ fault, c.device = .error fault ∧ d.device = .error fault) ∨
    ∃ a b, c.device = .ok a ∧ d.device = .ok b ∧ a.id = b.id ∧ a.bus.Alike g.hardware b.bus
  accessed : ∀ {c d s t h k} request failure, g.contexts c d → g.states s t → g.hardware h k →
    g.states { s with hardware := h, activity := s.activity ++ [c.accessed s.presence request failure] }
      { t with hardware := k, activity := t.activity ++ [d.accessed t.presence request failure] }
  /-- Bytes may be kept under different keys. -/
  capture : ∀ {c d s t} register bytes, g.contexts c d → g.states s t →
    g.states (c.capture register bytes s).2 (d.capture register bytes t).2
  recordReading : ∀ {c d} name kind value, g.contexts c d →
    g.Same (c.recordReading name kind value) (d.recordReading name kind value)
  reading : ∀ {c d s t comparison name}, g.contexts c d → g.may (.action (.compareRegister comparison)) →
    comparison.operand = .sensor name → g.states s t →
    Reading.latest? s.readings name = Reading.latest? t.readings name

/-! ### Composition -/

namespace Same

variable {g : Likeness σ τ} {x : Op σ α} {y : Op τ α}

theorem pure (a : α) : g.Same (Pure.pure a) (Pure.pure a) := fun _ _ hst => ⟨rfl, hst⟩

theorem fail (fault : Fault) : g.Same (Op.fail fault : Op σ α) (Op.fail fault) := fun _ _ hst => ⟨rfl, hst⟩

theorem ofExcept (r : Except Fault α) : g.Same (Op.ofExcept r) (Op.ofExcept r) := fun _ _ hst => ⟨rfl, hst⟩

theorem bind {f : α → Op σ β} {f' : α → Op τ β} (hx : g.Same x y) (hf : ∀ a, g.Same (f a) (f' a)) :
    g.Same (x >>= f) (y >>= f') := fun s t hst => by
  obtain ⟨hanswer, hleft⟩ := hx hst
  rw [Op.bind_apply, Op.bind_apply]
  rcases hs : x s with ⟨fault | a, u⟩ <;> rcases ht : y t with ⟨fault' | a', v⟩ <;> rw [hs, ht] at hanswer hleft <;>
    cases hanswer
  · exact ⟨rfl, hleft⟩
  · exact hf a hleft

theorem framed (h : g.Same x y) (frame : Frame) : g.Same (Op.framed frame x) (Op.framed frame y) := fun _ _ hst => by
  rw [Op.framed_apply, Op.framed_apply, (h hst).1]
  exact ⟨rfl, (h hst).2⟩

theorem attempt (h : g.Same x y) : g.Same (Op.attempt x) (Op.attempt y) := fun _ _ hst => by
  rw [Op.attempt_apply, Op.attempt_apply, (h hst).1]
  exact ⟨rfl, (h hst).2⟩

end Same

namespace Law

variable {g : Likeness σ τ} {c : Context σ} {d : Context τ}

/-! ### Single actions -/

theorem transfer (h : g.Law) (hc : g.contexts c d) (register : UInt8) (request : Request) {step : Transfer σ α}
    {step' : Transfer τ α}
    (hstep : ∀ {k l}, g.hardware k l → (step k).1 = (step' l).1 ∧ g.hardware (step k).2 (step' l).2) :
    g.Same (c.transfer register request step) (d.transfer register request step') := fun s t hst => by
  obtain ⟨hanswer, hleft⟩ := hstep (h.hardware hst)
  unfold Context.transfer
  rcases hs : step s.hardware with ⟨e | a, u⟩ <;> rcases ht : step' t.hardware with ⟨e' | a', v⟩ <;>
    rw [hs, ht] at hanswer hleft <;> cases hanswer
  · exact ⟨by simp only [Context.accessFault, h.scope hc], h.accessed request (some e) hc hst hleft⟩
  · exact ⟨rfl, h.accessed request none hc hst hleft⟩

/-- An access that is made alike on buses that are alike. -/
theorem access (h : g.Law) (hc : g.contexts c d) (register : UInt8) (request : Request) {step : Bus σ → Transfer σ α}
    {step' : Bus τ → Transfer τ α}
    (hstep : ∀ {b b' k l}, b.Alike g.hardware b' → g.hardware k l →
      (step b k).1 = (step' b' l).1 ∧ g.hardware (step b k).2 (step' b' l).2) :
    g.Same (c.access register request step) (d.access register request step') := fun s t hst => by
  rcases h.device hc with ⟨fault, ha, hb⟩ | ⟨a, b, ha, hb, hid, hbus⟩
  · rw [Context.access_of_error ha, Context.access_of_error hb]
    exact ⟨rfl, hst⟩
  · rw [Context.access_of_device ha, Context.access_of_device hb, ← hid, ← h.held hc, ← hbus.isOpen (h.hardware hst)]
    have hlast : g.Same (c.transfer register request (step a.bus)) (d.transfer register request (step' b.bus)) :=
      h.transfer hc register request (hstep hbus)
    split
    · exact ⟨by simp only [Context.accessFault, h.scope hc], hst⟩
    · split
      · exact hlast hst
      · exact (h.transfer hc register .connect hbus.connect).bind (fun _ => hlast) hst

theorem readBlock (h : g.Law) (hc : g.contexts c d) (register : UInt8) (count : Nat) :
    g.Same (c.readBlock register count) (d.readBlock register count) :=
  h.access hc register _ fun hbus => hbus.read register count

theorem readByte (h : g.Law) (hc : g.contexts c d) (register : UInt8) :
    g.Same (c.readByte register) (d.readByte register) :=
  h.access hc register _ fun hbus => hbus.readByte register

theorem writeBlock (h : g.Law) (hc : g.contexts c d) (register : UInt8) (data : Bytes) :
    g.Same (c.writeBlock register data) (d.writeBlock register data) :=
  h.access hc register _ fun hbus => hbus.write register data

theorem compareRegister (h : g.Law) (hc : g.contexts c d) {r : RegisterComparison}
    (ht : g.may (.action (.compareRegister r))) : g.Same (c.compareRegister r) (d.compareRegister r) := by
  have operand : g.Same (Context.operandValue r.operand : Op σ Int) (Context.operandValue r.operand) := by
    cases hr : r.operand with
    | literal value => exact .pure value
    | sensor name =>
      intro s t hst
      unfold Context.operandValue
      simp only [Op.bind_apply, Op.state_apply, h.reading hc ht hr hst]
      cases Reading.latest? t.readings name <;> exact ⟨rfl, hst⟩
  exact (h.readBlock hc _ _).bind fun _ => operand.bind fun _ => .pure _

theorem setVout (h : g.Law) (hc : g.contexts c d) (v : VoutCommand) : g.Same (c.setVout v) (d.setVout v) := by
  have exponent : g.Same (c.voutExponent v) (d.voutExponent v) := by
    unfold Context.voutExponent
    cases v.exponent with
    | some e => exact .pure e
    | none => exact (h.readByte hc _).bind fun _ => .ofExcept _
  unfold Context.setVout
  rw [← h.volts hc]
  cases v.volts.or c.volts with
  | none => exact .fail _
  | some volts =>
    refine exponent.bind fun e => (Same.ofExcept _).bind fun word => (h.writeBlock hc _ _).bind fun _ => ?_
    cases v.verify with
    | false => exact .pure true
    | true =>
      refine (h.readBlock hc _ _).bind fun actual => ?_
      unfold Context.confirmWrite
      rw [← h.scope hc]
      split
      · exact .pure true
      · exact .fail _

theorem single (h : g.Law) (hc : g.contexts c d) {a : Action} (ht : g.may (.action a)) {x : Op σ Bool} {y : Op τ Bool}
    (hx : c.single? a = some x) (hy : d.single? a = some y) : g.Same x y := by
  cases a with
  | compareRegister r =>
    cases hx
    cases hy
    exact h.compareRegister hc ht
  | writeRegister w =>
    cases hx
    cases hy
    have bytes : g.Same (c.bytesToWrite w) (d.bytesToWrite w) := by
      unfold Context.bytesToWrite
      cases w.mask with
      | none => exact .pure _
      | some mask => exact (h.readBlock hc _ _).bind fun _ => .pure _
    exact bytes.bind fun _ => (h.writeBlock hc _ _).bind fun _ => .pure _
  | capture b =>
    cases hx
    cases hy
    -- The two runs may answer with different keys, but nobody asks for them.
    exact (h.readBlock hc _ _).bind fun bytes _ _ hst => ⟨rfl, h.capture b.register bytes hc hst⟩
  | readSensor r =>
    cases hx
    cases hy
    exact (h.readBlock hc _ _).bind fun _ => (h.recordReading _ _ _ hc).bind fun _ => .pure _
  | logFinding l =>
    cases hx
    cases hy
    have bytes : g.Same (c.bytesToLog l) (d.bytesToLog l) := by
      unfold Context.bytesToLog
      cases l.capture with
      | none => exact .pure _
      | some b => exact (h.readBlock hc _ _).bind fun _ => .pure _
    exact bytes.bind fun _ => (h.addFinding _ _ _ _ hc).bind fun _ => .pure _
  | setVout v =>
    cases hx
    cases hy
    exact h.setVout hc v
  | _ => cases hx

end Law

/-! ### Whole tasks -/

theorem Law.taskLaw {g : Likeness σ τ} (h : g.Law) : g.TaskLaw where
  toScopeLaw := h.toScopeLaw
  single hc ht hx hy := h.single hc ht hx hy

/-- Two contexts from which the same is entered. -/
structure SameEntries (c d : Context σ) : Prop where
  plant : d.plant = c.plant
  maxRuleDepth : d.maxRuleDepth = c.maxRuleDepth
  scope : d.scope = c.scope
  ruleChain : d.ruleChain = c.ruleChain

/-- Contexts from which the same is entered are refused the same. -/
theorem EntryLaw.of_same {g : Likeness σ σ} (same : ∀ {c d}, g.contexts c d → SameEntries c d)
    (inRule : ∀ {c d} id, g.contexts c d → g.contexts (c.inRule id) (d.inRule id))
    (inDevice : ∀ {c d dv r as}, g.contexts c d → g.may (.action (.inDevice dv r as)) →
      g.contexts (c.enter ⟨dv, r⟩) (d.enter ⟨dv, r⟩))
    (inRail : ∀ {c d} r, g.contexts c d → g.contexts (c.inRail r) (d.inRail r))
    (addFinding : ∀ {c d} severity code captured message, g.contexts c d →
      g.Same (c.addFinding severity code captured message) (d.addFinding severity code captured message)) :
    g.EntryLaw where
  rule? id h := by rw [(same h).plant]
  requireCallable id h := by simp only [Context.requireCallable, (same h).ruleChain, (same h).maxRuleDepth]
  requireScope h _ := by simp only [Context.requireScope, (same h).plant]
  requireActiveRail r h := by simp only [Context.requireActiveRail, Context.device, (same h).plant, (same h).scope]
  inRule
  inDevice
  inRail
  addFinding

/-- The service is told of the same chassis and device, if it is one and the same. -/
theorem Same.startRail {g : Likeness σ σ} {c d : Context σ} (h : SameEntries c d)
    (hservice : d.sensorsService = c.sensorsService)
    (htell : ∀ notice, g.Same (c.tellService notice) (d.tellService notice)) (rail : String) :
    g.Same (c.startRail rail) (d.startRail rail) := by
  have hdevice : d.device = c.device := by rw [Context.device, Context.device, h.plant, h.scope]
  unfold Context.startRail
  rw [hservice, hdevice, h.plant]
  split
  · exact (ofExcept _).bind fun _ => (ofExcept _).bind fun _ => htell _
  · exact .pure ()

/-- A task that neither asks for presence itself nor calls a rule does the same if all that it carries out does. -/
theorem PlaceLaw.step {g : Likeness σ τ} {c : Context σ} {d : Context τ} (h : g.PlaceLaw) (hc : g.contexts c d)
    {t : Task} (ht : g.may t) (hasks : ∀ id, t ≠ .presence id) (hcalls : ∀ id, t ≠ .rule id)
    (hsingle : ∀ {a x y}, g.may (.action a) → c.single? a = some x → d.single? a = some y → g.Same x y)
    (ih : ∀ c' t', c.Enters t c' t' → ∀ d', g.contexts c' d' → g.Same (c'.carryOut t') (d'.carryOut t')) :
    g.Same (c.carryOut t) (d.carryOut t) := by
  cases t with
  | action a =>
    show g.Same (c.perform a) (d.perform a)
    cases a with
    | allOf as =>
      rw [Context.perform, Context.perform]
      exact ih _ _ .allOf d hc
    | anyOf as =>
      rw [Context.perform, Context.perform]
      exact ih _ _ .anyOf d hc
    | negation a =>
      rw [Context.perform, Context.perform]
      exact (ih _ _ .negation d hc).bind fun _ => .pure _
    | branch a as bs =>
      rw [Context.perform.eq_def, Context.perform.eq_def d]
      refine (ih _ _ .condition d hc).bind fun b => ?_
      cases b with
      | true => exact ih _ _ .consequent d hc
      | false =>
        cases bs with
        | none => exact .pure true
        | some bs => exact ih _ _ .alternative d hc
    | runRule id =>
      rw [Context.perform, Context.perform]
      exact ih _ _ .runRule d hc
    | inDevice dv r as =>
      rw [Context.perform, Context.perform]
      refine .framed ((ih _ _ .gate d hc).bind fun b => ?_) _
      cases b with
      | true =>
        rw [if_pos rfl, if_pos rfl, ← h.requireScope hc ht]
        exact (Same.ofExcept _).bind fun _ => ih _ _ .inDevice _ (h.inDevice hc ht)
      | false => exact (h.addFinding _ _ _ _ hc).bind fun _ => .pure false
    | inRail r as =>
      rw [Context.perform, Context.perform, ← h.requireActiveRail r hc]
      exact .framed ((Same.ofExcept _).bind fun _ => ih _ _ .inRail _ (h.inRail r hc)) _
    | comparePresence dv b =>
      rw [Context.perform, Context.perform]
      exact .framed ((ih _ _ .comparePresence d hc).bind fun _ => .pure _) _
    | _ =>
      rw [Context.perform_of_single? rfl, Context.perform_of_single? rfl]
      exact (hsingle ht rfl rfl).framed _
  | every as =>
    show g.Same (c.everyOf as) (d.everyOf as)
    cases as with
    | nil =>
      rw [Context.everyOf, Context.everyOf]
      exact .pure true
    | cons a as =>
      rw [Context.everyOf, Context.everyOf]
      refine (ih _ _ .everyHead d hc).bind fun b => ?_
      cases b with
      | true => exact ih _ _ .everyTail d hc
      | false => exact .pure false
  | any as =>
    show g.Same (c.someOf as) (d.someOf as)
    cases as with
    | nil =>
      rw [Context.someOf, Context.someOf]
      exact .pure false
    | cons a as =>
      rw [Context.someOf, Context.someOf]
      refine (ih _ _ .anyHead d hc).bind fun b => ?_
      cases b with
      | true => exact .pure true
      | false => exact ih _ _ .anyTail d hc
  | inOrder as =>
    show g.Same (c.inOrder as) (d.inOrder as)
    obtain ⟨a, _ | ⟨b, bs⟩⟩ := as
    · rw [Context.inOrder, Context.inOrder]
      exact ih _ _ .first d hc
    · rw [Context.inOrder, Context.inOrder]
      exact (ih _ _ .first d hc).bind fun _ => ih _ _ .next d hc
  | rule id => exact absurd rfl (hcalls id)
  | presence id => exact absurd rfl (hasks id)

namespace EntryLaw

variable {g : Likeness σ τ} {c : Context σ} {d : Context τ}

theorem callRule (h : g.EntryLaw) (hc : g.contexts c d) {id : String}
    (ih : ∀ {r}, c.plant.rule? id = some r → c.requireCallable id = .ok () →
      g.Same ((c.inRule id).inOrder r.actions) ((d.inRule id).inOrder r.actions)) :
    g.Same (c.callRule id) (d.callRule id) := by
  cases hr : c.plant.rule? id with
  | none =>
    rw [Context.callRule_of_none hr, Context.callRule_of_none (h.rule? id hc ▸ hr)]
    exact .fail _
  | some r =>
    rw [Context.callRule_of_some hr, Context.callRule_of_some (h.rule? id hc ▸ hr), ← h.requireCallable id hc]
    cases hcall : c.requireCallable id with
    | error fault => exact fun _ _ hst => ⟨rfl, hst⟩
    | ok _ => exact (Same.ofExcept _).bind fun _ => (ih hr hcall).framed _

/-- A task that does not ask for presence itself does the same if all that it carries out does. -/
theorem step (h : g.EntryLaw) (hc : g.contexts c d) {t : Task} (ht : g.may t) (hasks : ∀ id, t ≠ .presence id)
    (hsingle : ∀ {a x y}, g.may (.action a) → c.single? a = some x → d.single? a = some y → g.Same x y)
    (ih : ∀ c' t', c.Enters t c' t' → ∀ d', g.contexts c' d' → g.Same (c'.carryOut t') (d'.carryOut t')) :
    g.Same (c.carryOut t) (d.carryOut t) := by
  by_cases hcalls : ∃ id, t = .rule id
  · obtain ⟨id, rfl⟩ := hcalls
    exact h.callRule hc fun hr hcall => ih _ _ (.rule hr hcall) _ (h.inRule id hc)
  · exact h.placeLaw.step hc ht hasks (not_exists.mp hcalls) hsingle ih

/-- All tasks do the same with what is alike, if single actions do and presence is found out alike. -/
theorem carryOut (h : g.EntryLaw) (calls : ∀ {c d t u}, g.contexts c d → g.may t → c.plant.Calls t u → g.may u)
    (single : ∀ {c d a x y}, g.contexts c d → g.may (.action a) → c.single? a = some x → d.single? a = some y →
      g.Same x y)
    (presence : ∀ {c d id}, g.contexts c d → g.may (.presence id) →
      g.Same (c.resolvePresence id) (d.resolvePresence id))
    (c : Context σ) (t : Task) : ∀ d, g.contexts c d → g.may t → g.Same (c.carryOut t) (d.carryOut t) := by
  revert c t
  refine Context.carryOut_induct fun c t ih d hc ht => ?_
  by_cases hasks : ∃ id, t = .presence id
  · obtain ⟨id, rfl⟩ := hasks
    exact presence hc ht
  · refine h.step hc ht (not_exists.mp hasks) (single hc) fun c' t' henters d' hc' => ih c' t' henters d' hc' ?_
    exact calls hc ht (.of_enters henters (not_exists.mp hasks))

end EntryLaw

namespace TaskLaw

variable {g : Likeness σ τ} {c : Context σ} {d : Context τ}

theorem resolvePresence (h : g.TaskLaw) {id : String} (ha : g.asks c d) (ht : g.may (.presence id))
    (ih : ∀ {e as}, c.plant.device? id = some e → e.detection = some as → id ∉ c.detecting →
      g.Same ((c.detached id).inOrder as) ((d.detached id).inOrder as)) :
    g.Same (c.resolvePresence id) (d.resolvePresence id) := fun s t hst => by
  have hknown := h.known ha ht hst
  have hdetections := h.detections ha ht
  cases hp : s.presence.get? id c.cycle with
  | some b =>
    rw [Context.resolvePresence_of_cached hp, Context.resolvePresence_of_cached (hknown ▸ hp)]
    exact ⟨rfl, hst⟩
  | none =>
    cases he : c.plant.device? id with
    | none =>
      have he' : d.plant.device? id = none := by simpa [he] using hdetections.symm
      rw [Context.resolvePresence_of_unknown hp he, Context.resolvePresence_of_unknown (hknown ▸ hp) he']
      exact ⟨rfl, hst⟩
    | some e =>
      rw [he, Option.map_some] at hdetections
      obtain ⟨e', he', hsame⟩ := Option.map_eq_some_iff.mp hdetections.symm
      rw [Context.resolvePresence_of_device hp he, Context.resolvePresence_of_device (hknown ▸ hp) he',
        ← h.detecting ha, hsame]
      split
      · exact ⟨rfl, hst⟩
      · rename_i hnew
        cases has : e.detection with
        | none => exact h.keepPresence true ha ht hst
        | some as =>
          refine (h.note ha ht).bind (fun _ => (ih he has hnew).attempt.bind fun outcome => ?_) hst
          exact (h.detectionVerdict outcome ha ht).bind fun present => h.keepPresence present ha ht

/-- What is alike stays alike, and all tasks do the same with it. -/
theorem carryOut (h : g.TaskLaw) (c : Context σ) (t : Task) :
    ∀ d, g.contexts c d → g.may t → g.Same (c.carryOut t) (d.carryOut t) := by
  revert c t
  refine Context.carryOut_induct fun c t ih d hc ht => ?_
  have next : ∀ {c' t'}, c.Enters t c' t' → g.may t' := fun he => (h.closed (h.asks_of_contexts hc)).enters ht he
  by_cases hasks : ∃ id, t = .presence id
  · obtain ⟨id, rfl⟩ := hasks
    exact h.resolvePresence (h.asks_of_contexts hc) ht fun he has hnew =>
      ih _ _ (.detection he has hnew) _ (h.detached (h.asks_of_contexts hc) ht) (next (.detection he has hnew))
  · exact h.step hc ht (not_exists.mp hasks) (h.single hc) fun c' t' henters d' hc' =>
      ih c' t' henters d' hc' (next henters)

/-- Presence is found out alike also where nothing else is alike. -/
theorem presence (h : g.TaskLaw) {id : String} (ha : g.asks c d) (ht : g.may (.presence id)) :
    g.Same (c.resolvePresence id) (d.resolvePresence id) :=
  h.resolvePresence ha ht fun he has _ =>
    h.carryOut _ (.inOrder _) _ (h.detached ha ht) ((h.closed ha).detection ht he has)

end TaskLaw

/-! ### Visits -/

/-- What a visit does besides tells nothing apart either. -/
structure VisitLaw (g : Likeness σ τ) : Prop extends g.TaskLaw where
  withVolts : ∀ {c d} volts, g.contexts c d → g.contexts (c.withVolts volts) (d.withVolts volts)
  startRail : ∀ {c d} rail, g.contexts c d → g.Same (c.startRail rail) (d.startRail rail)
  endRail : ∀ {c d} failed, g.contexts c d → g.Same (c.endRail failed) (d.endRail failed)
  log : ∀ entry, g.Same (Op.note (.log entry)) (Op.note (.log entry))

/-- The same for the visit of one device, where rails are announced in the contexts of the visit only. -/
structure VisitLawAt (g : Likeness σ τ) (c : Context σ) (d : Context τ) : Prop extends g.TaskLaw where
  contexts : g.contexts c d
  withVolts : ∀ {c d} volts, g.contexts c d → g.contexts (c.withVolts volts) (d.withVolts volts)
  startRail : ∀ rail, g.Same (c.startRail rail) (d.startRail rail)
  endRail : ∀ failed, g.Same (c.endRail failed) (d.endRail failed)
  log : ∀ entry, g.Same (Op.note (.log entry)) (Op.note (.log entry))

theorem VisitLaw.visitLawAt {g : Likeness σ τ} {c : Context σ} {d : Context τ} (h : g.VisitLaw) (hc : g.contexts c d) :
    g.VisitLawAt c d where
  toTaskLaw := h.toTaskLaw
  contexts := hc
  withVolts := h.withVolts
  startRail rail := h.startRail rail hc
  endRail failed := h.endRail failed hc
  log := h.log

theorem eachRail_same {g : Likeness σ τ} {act : Rail → Op σ Unit} {act' : Rail → Op τ Unit} {rs : List Rail}
    (hact : ∀ r ∈ rs, g.Same (act r) (act' r)) : g.Same (Context.eachRail act rs) (Context.eachRail act' rs) := by
  induction rs with
  | nil => exact .pure ()
  | cons r rs ih =>
    exact (hact r List.mem_cons_self).bind fun _ => ih fun r' hr' => hact r' (List.mem_cons_of_mem r hr')

namespace VisitLawAt

variable {g : Likeness σ τ} {c : Context σ} {d : Context τ}

theorem applyConfiguration (h : g.VisitLawAt c d) {c' : Context σ} {d' : Context τ} (hc : g.contexts c' d')
    (k : Configuration) (hk : g.may (.inOrder k.actions)) :
    g.Same (c'.applyConfiguration k) (d'.applyConfiguration k) :=
  h.carryOut (c'.withVolts k.volts) (.inOrder k.actions) (d'.withVolts k.volts) (h.withVolts k.volts hc) hk

theorem onRail (h : g.VisitLawAt c d) (rail : String) {body : Context σ → Op σ Bool}
    {body' : Context τ → Op τ Bool} (hbody : g.Same (body (c.inRail rail)) (body' (d.inRail rail))) :
    g.Same (c.onRail rail body) (d.onRail rail body') := by
  unfold Context.onRail
  rw [← h.requireActiveRail rail h.contexts]
  exact ((Same.ofExcept _).bind fun _ => hbody.bind fun _ => .pure ()).framed _

theorem configureRail (h : g.VisitLawAt c d) {r : Rail} (hr : ∀ k ∈ r.configuration, g.may (.inOrder k.actions)) :
    g.Same (c.configureRail r) (d.configureRail r) := by
  unfold Context.configureRail
  cases hk : r.configuration with
  | none => exact .pure ()
  | some k => exact h.onRail r.id (h.applyConfiguration (h.inRail r.id h.contexts) k (hr k hk))

theorem monitorRail (h : g.VisitLawAt c d) {r : Rail} (hr : ∀ as ∈ r.monitoring, g.may (.inOrder as)) :
    g.Same (c.monitorRail r) (d.monitorRail r) := by
  unfold Context.monitorRail
  cases has : r.monitoring with
  | none => exact .pure ()
  | some as =>
    have hrail : g.Same (c.onRail r.id (·.inOrder as)) (d.onRail r.id (·.inOrder as)) :=
      h.onRail r.id (h.carryOut _ (.inOrder as) _ (h.inRail r.id h.contexts) (hr as has))
    refine ((h.startRail r.id).framed _).bind fun _ => hrail.attempt.bind fun outcome => ?_
    exact (h.endRail _).bind fun _ => .ofExcept outcome

theorem work (h : g.VisitLawAt c d) (kind : RunKind) {e : Device σ} {e' : Device τ} (hsame : e.SameText e')
    (he : ∀ as ∈ e.workProcedures kind, g.may (.inOrder as)) : g.Same (c.work kind e) (d.work kind e') := by
  cases kind with
  | configure =>
    have rails : g.Same (Context.eachRail c.configureRail e.rails) (Context.eachRail d.configureRail e.rails) :=
      eachRail_same fun r hr => h.configureRail fun k hk => he _ (Device.mem_workProcedures_configure hr hk)
    show g.Same (c.configureDevice e) (d.configureDevice e')
    unfold Context.configureDevice
    rw [← hsame.id, ← hsame.configuration, ← hsame.rails]
    refine .framed ?_ _
    cases hk : e.configuration with
    | none => exact rails
    | some k =>
      exact (h.applyConfiguration h.contexts k (he _ (by simp [Device.workProcedures, hk]))).bind fun _ => rails
  | monitor =>
    have rails : g.Same (Context.eachRail c.monitorRail e.rails) (Context.eachRail d.monitorRail e.rails) :=
      eachRail_same fun r hr => h.monitorRail fun as has => he _ (Device.mem_workProcedures_monitor hr has)
    show g.Same (c.monitorDevice e) (d.monitorDevice e')
    unfold Context.monitorDevice
    rw [← hsame.id, ← hsame.monitoring, ← hsame.rails]
    refine .framed ?_ _
    cases has : e.monitoring with
    | none => exact rails
    | some as =>
      exact (h.carryOut c (.inOrder as) d h.contexts (he _ (by simp [Device.workProcedures, has]))).bind fun _ => rails

theorem visit (h : g.VisitLawAt c d) (kind : RunKind) {e : Device σ} {e' : Device τ} (hsame : e.SameText e')
    (hp : g.may (.presence e.id)) (he : ∀ as ∈ e.workProcedures kind, g.may (.inOrder as)) (row : DeviceRow)
    {s : State σ} {t : State τ} (hst : g.states s t) :
    (c.visit kind e row s).fault = (d.visit kind e' row t).fault ∧
      (c.visit kind e row s).row = (d.visit kind e' row t).row ∧
      g.states (c.visit kind e row s).state (d.visit kind e' row t).state := by
  obtain ⟨hanswer, hleft⟩ := h.presence (h.asks_of_contexts h.contexts) hp hst
  have hwork : g.Same (Op.note (.log (.deviceVisited kind e.id)) >>= fun _ => c.work kind e)
      (Op.note (.log (.deviceVisited kind e'.id)) >>= fun _ => d.work kind e') := by
    rw [← hsame.id]
    exact (h.log _).bind fun _ => h.work kind hsame he
  have hid : d.resolvePresence e.id t = d.resolvePresence e'.id t := by rw [hsame.id]
  rw [hid] at hanswer hleft
  rcases hs : c.resolvePresence e.id s with ⟨fault | present, u⟩ <;>
    rcases ht : d.resolvePresence e'.id t with ⟨fault' | present', v⟩ <;> rw [hs, ht] at hanswer hleft <;>
    cases hanswer
  · rw [Context.visit_of_fault hs, Context.visit_of_fault ht, ← hsame.id]
    exact ⟨rfl, rfl, hleft⟩
  · cases present with
    | false =>
      rw [Context.visit_of_absent hs, Context.visit_of_absent ht, ← hsame.id]
      exact ⟨rfl, rfl, (h.log _ hleft).2⟩
    | true =>
      obtain ⟨hanswer', hleft'⟩ := hwork hleft
      rcases hs' : (Op.note (.log (.deviceVisited kind e.id)) >>= fun _ => c.work kind e) u with ⟨fault | _, u'⟩ <;>
        rcases ht' : (Op.note (.log (.deviceVisited kind e'.id)) >>= fun _ => d.work kind e') v with ⟨fault' | _, v'⟩ <;>
        rw [hs', ht'] at hanswer' hleft' <;> cases hanswer'
      · rw [Context.visit_of_work_fault hs hs', Context.visit_of_work_fault ht ht']
        exact ⟨rfl, rfl, hleft'⟩
      · rw [Context.visit_of_work hs hs', Context.visit_of_work ht ht']
        exact ⟨rfl, rfl, hleft'⟩

end VisitLawAt

theorem VisitLaw.visit {g : Likeness σ τ} {c : Context σ} {d : Context τ} (h : g.VisitLaw) (hc : g.contexts c d)
    (kind : RunKind) {e : Device σ} {e' : Device τ} (hsame : e.SameText e') (hp : g.may (.presence e.id))
    (he : ∀ as ∈ e.workProcedures kind, g.may (.inOrder as)) (row : DeviceRow) {s : State σ} {t : State τ}
    (hst : g.states s t) :
    (c.visit kind e row s).fault = (d.visit kind e' row t).fault ∧
      (c.visit kind e row s).row = (d.visit kind e' row t).row ∧
      g.states (c.visit kind e row s).state (d.visit kind e' row t).state :=
  (h.visitLawAt hc).visit kind hsame hp he row hst

end Likeness
end PowerRails
