import PowerRails.Proofs.Cycles
import PowerRails.Proofs.Registers
import PowerRails.Proofs.Rows

/-! # Configuring once and again

On simulated buses, configuring a second time changes nothing, provided that what is done does not depend on what it
changes: comparisons are with literals and look at registers that nothing writes, and output voltages come with
their exponent. Two such runs take the same course, so the second applies to each register the same patches as the
first, in the same order; together they are one patch, and a patch that is done twice is done once. -/

namespace PowerRails

namespace Plant

/-- The tasks that configuring may come to, going by the text of a plant. -/
def Configuring {σ : Type} (p : Plant σ) (t : Task) : Prop :=
  (∃ id, t = .presence id) ∨
    ∃ d ∈ p.devices, ∃ as ∈ d.detection.toList ++ d.workProcedures .configure, p.Reaches (.inOrder as) t

/-- Configuring may write a register. -/
inductive Writes {σ : Type} (p : Plant σ) : UInt8 → Prop
  | register {w} : p.Configuring (.action (.writeRegister w)) → Writes p w.register
  | vout {v} : p.Configuring (.action (.setVout v)) → Writes p Linear16.commandRegister

/-- All devices are on simulated buses, and what configuring does depends on nothing that it changes. -/
structure Repeatable (p : Plant Bench) : Prop where
  buses : ∀ d ∈ p.devices, ∃ name endpoint, d.bus = Bench.bus name endpoint
  exponent : ∀ v, p.Configuring (.action (.setVout v)) → ∃ e, v.exponent = some e
  literal : ∀ r, p.Configuring (.action (.compareRegister r)) → ∃ value, r.operand = .literal value
  apart : ∀ r, p.Configuring (.action (.compareRegister r)) → ¬p.Writes r.register

theorem closed_configuring {σ : Type} (p : Plant σ) : p.Closed p.Configuring where
  calls ht hcalls := by
    rcases ht with ⟨id, rfl⟩ | ⟨d, hd, as, has, hreach⟩
    · cases hcalls
    · exact Or.inr ⟨d, hd, as, has, hreach.tail hcalls⟩
  detection {id d as} _ hd has :=
    Or.inr ⟨d, (device?_eq_some hd).1, as, List.mem_append_left _ (by simp [has]), .refl⟩

end Plant

/-- Of two benches, the registers that configuring does not write hold the same, and transfers fail alike. -/
structure Bench.Agree (writes : UInt8 → Prop) (b b' : Bench) : Prop where
  failure : ∀ name register, b'.failure? name register = b.failure? name register
  held : ∀ name register, ¬writes register → b'.held name register = b.held name register

/-- The presence results of a cycle, and for all other devices those from before. -/
def PresenceCache.Since (cache before : PresenceCache) (cycle : Cycle) : Prop :=
  ∀ id, cache.get? id cycle = none → cache.results.get? id = before.results.get? id

theorem PresenceCache.Since.insert {cache before : PresenceCache} {cycle : Cycle} (h : cache.Since before cycle)
    (id : String) (present : Bool) : (cache.insert id present cycle).Since before cycle := fun other hother => by
  rw [get?_insert, if_pos rfl] at hother
  split at hother
  · cases hother
  · rename_i hne
    exact (Table.get?_insert_of_ne _ hne _).trans (h other hother)

/-- Where a run begins: the bench, the presence results, and the cycle. -/
structure Origin where
  bench : Bench
  presence : PresenceCache
  cycle : Cycle

/-- How far two runs have come, if they have done the same. Of each register the patches so far are one patch, if
any. -/
structure State.Twin (writes : UInt8 → Prop) (o o' : Origin) (s t : State Bench) : Prop where
  presence : ∀ id, s.presence.get? id o.cycle = t.presence.get? id o'.cycle
  since : t.presence.Since o'.presence o'.cycle
  failure : ∀ name register, s.hardware.failure? name register = o.bench.failure? name register
  failure' : ∀ name register, t.hardware.failure? name register = o'.bench.failure? name register
  held : ∀ name register, ∃ p, (¬writes register → p = none) ∧
    s.hardware.held name register = Patch.contents p (o.bench.held name register) ∧
    t.hardware.held name register = Patch.contents p (o'.bench.held name register)

namespace State.Twin
variable {writes : UInt8 → Prop} {o o' : Origin} {s t s' t' : State Bench}

theorem keeps (h : s.Twin writes o o' t) (hs : s.Keeps s') (ht : t.Keeps t') : s'.Twin writes o o' t' where
  presence := by
    rw [hs.presence, ht.presence]
    exact h.presence
  since := ht.presence ▸ h.since
  failure name register := (hs.failure name register).trans (h.failure name register)
  failure' name register := (ht.failure name register).trans (h.failure' name register)
  held name register := by
    rw [hs.held, ht.held]
    exact h.held name register

/-- The same register is patched in the same way. -/
theorem becomes (h : s.Twin writes o o' t) {name : String} {register : UInt8} {p : Option Patch}
    (hp : p ≠ none → writes register) (hs : s.Becomes s' name register p) (ht : t.Becomes t' name register p) :
    s'.Twin writes o o' t' where
  presence := by
    rw [hs.presence, ht.presence]
    exact h.presence
  since := ht.presence ▸ h.since
  failure name register := (hs.failure name register).trans (h.failure name register)
  failure' name register := (ht.failure name register).trans (h.failure' name register)
  held other r := by
    obtain ⟨q, hq, hheld, hheld'⟩ := h.held other r
    rw [hs.held, ht.held]
    split
    · rename_i hplace
      cases p with
      | none => exact ⟨q, hq, hheld, hheld'⟩
      | some p =>
        refine ⟨some (Patch.after q p), fun hnot => absurd (hp nofun) (hplace.2 ▸ hnot), ?_, ?_⟩
        · rw [Patch.contents_after, hheld]
          rfl
        · rw [Patch.contents_after, hheld']
          rfl
    · exact ⟨q, hq, hheld, hheld'⟩

theorem insert (h : s.Twin writes o o' t) (id : String) (present : Bool) :
    Twin writes o o' { s with presence := s.presence.insert id present o.cycle }
      { t with presence := t.presence.insert id present o'.cycle } where
  presence other := by simp only [PresenceCache.get?_insert, h.presence other, if_true]
  since := h.since.insert id present
  failure := h.failure
  failure' := h.failure'
  held := h.held

theorem failure_eq (h : s.Twin writes o o' t) (hagree : Bench.Agree writes o.bench o'.bench) (name : String)
    (register : UInt8) : t.hardware.failure? name register = s.hardware.failure? name register := by
  rw [h.failure', h.failure, hagree.failure]

theorem held_eq (h : s.Twin writes o o' t) (hagree : Bench.Agree writes o.bench o'.bench) (name : String)
    {register : UInt8} (hregister : ¬writes register) :
    t.hardware.held name register = s.hardware.held name register := by
  obtain ⟨q, hq, hheld, hheld'⟩ := h.held name register
  rw [hheld, hheld', hagree.held name register hregister]

end State.Twin

/-- Two runs of a plant, from two origins. Their contexts differ in the cycle and in the keys that are taken. -/
def twins (p : Plant Bench) (o o' : Origin) : Likeness Bench Bench where
  may := p.Configuring
  asks c d := c.plant = p ∧ c.cycle = o.cycle ∧ ∃ earlier, d = { c with cycle := o'.cycle, earlier }
  contexts c d := c.plant = p ∧ c.cycle = o.cycle ∧ ∃ earlier, d = { c with cycle := o'.cycle, earlier }
  hardware _ _ := True
  states := State.Twin p.Writes o o'

section
variable {p : Plant Bench} {o o' : Origin} {s t s' t' : State Bench}

/-- Two operations that come to the same answer and patch the same register in the same way. -/
theorem twins_of_changes {α : Type} {x y : Op Bench α}
    (h : ∀ {s t}, s.Twin p.Writes o o' t → ∃ answer name register q, (q ≠ none → p.Writes register) ∧
      x.Changes s answer name register q ∧ y.Changes t answer name register q) : (twins p o o').Same x y := by
  intro s t hst
  obtain ⟨answer, name, register, q, hq, ⟨s', hx, hs'⟩, ⟨t', hy, ht'⟩⟩ := h hst
  rw [hx, hy]
  exact ⟨rfl, hst.becomes hq hs' ht'⟩

theorem twins_entryLaw (p : Plant Bench) (o o' : Origin) : (twins p o o').EntryLaw := by
  refine .of_same ?same ?inRule ?inDevice ?inRail ?addFinding
  case same =>
    rintro c _ ⟨-, -, earlier, rfl⟩
    exact ⟨rfl, rfl, rfl, rfl⟩
  case inRule =>
    rintro c _ id ⟨hplant, hcycle, earlier, rfl⟩
    exact ⟨hplant, hcycle, earlier, rfl⟩
  case inDevice =>
    rintro c _ dv r as ⟨hplant, hcycle, earlier, rfl⟩ -
    exact ⟨hplant, hcycle, earlier, rfl⟩
  case inRail =>
    rintro c _ r ⟨hplant, hcycle, earlier, rfl⟩
    exact ⟨hplant, hcycle, earlier, rfl⟩
  case addFinding =>
    exact fun _ _ _ _ _ _ _ hst => ⟨rfl, hst.keeps (.of_eq rfl rfl) (.of_eq rfl rfl)⟩

theorem twins_scopeLaw (p : Plant Bench) (o o' : Origin) : (twins p o o').ScopeLaw where
  toEntryLaw := twins_entryLaw p o o'
  asks_of_contexts h := h
  closed h := h.1 ▸ p.closed_configuring
  known {c d s t id} h _ hst := by
    obtain ⟨-, hcycle, earlier, rfl⟩ := h
    rw [hcycle]
    exact hst.presence id
  detections h _ := by
    obtain ⟨-, -, earlier, rfl⟩ := h
    rfl
  detecting h := by
    obtain ⟨-, -, earlier, rfl⟩ := h
    rfl
  detached h _ := by
    obtain ⟨hplant, hcycle, earlier, rfl⟩ := h
    exact ⟨hplant, hcycle, earlier, rfl⟩
  note h _ s t hst := ⟨rfl, hst.keeps (.of_eq rfl rfl) (.of_eq rfl rfl)⟩
  detectionVerdict outcome h _ s t hst := by
    cases outcome with
    | ok present => exact ⟨rfl, hst⟩
    | error fault =>
      exact ⟨rfl, hst.keeps (.of_eq rfl rfl) (.of_eq rfl rfl)⟩
  keepPresence {c d id} present h _ s t hst := by
    obtain ⟨-, hcycle, earlier, rfl⟩ := h
    rw [Context.keepPresence_apply, Context.keepPresence_apply, hcycle]
    exact ⟨rfl, hst.insert id present⟩

theorem twins_single (hrep : p.Repeatable) (hagree : Bench.Agree p.Writes o.bench o'.bench) {c d : Context Bench}
    (h : (twins p o o').contexts c d) {a : Action} (ha : p.Configuring (.action a)) {x y : Op Bench Bool}
    (hx : c.single? a = some x) (hy : d.single? a = some y) : (twins p o o').Same x y := by
  obtain ⟨hplant, hcycle, earlier, rfl⟩ := h
  obtain ⟨name, refusal, hlines⟩ := (c.onBench_of_buses (hplant ▸ hrep.buses)).exists_lines
  have hc : c.Line name refusal := hlines c rfl rfl rfl
  have hd := hlines { c with cycle := o'.cycle, earlier } rfl rfl rfl
  cases a with
  | compareRegister r =>
    cases hx
    cases hy
    obtain ⟨value, hr⟩ := hrep.literal r ha
    refine twins_of_changes fun {s t} hst => ⟨_, _, _, none, absurd rfl, hc.compareRegister hr s, ?_⟩
    -- Nothing writes the register that is compared, so both runs find the same in it.
    rw [← hst.failure_eq hagree, ← hst.held_eq hagree name (hrep.apart r ha)]
    exact hd.compareRegister hr t
  | writeRegister w =>
    cases hx
    cases hy
    refine twins_of_changes fun {s t} hst => ⟨_, _, _, _, fun _ => .register ha, hc.writeRegister w s, ?_⟩
    rw [← hst.failure_eq hagree]
    exact hd.writeRegister w t
  | capture b =>
    cases hx
    cases hy
    refine twins_of_changes fun {s t} hst => ⟨_, _, _, none, absurd rfl, hc.capture b s, ?_⟩
    rw [← hst.failure_eq hagree]
    exact hd.capture b t
  | readSensor r =>
    cases hx
    cases hy
    refine twins_of_changes fun {s t} hst => ⟨_, _, _, none, absurd rfl, hc.readSensor r s, ?_⟩
    rw [← hst.failure_eq hagree]
    exact hd.readSensor r t
  | logFinding l =>
    cases hx
    cases hy
    cases hb : l.capture with
    | none =>
      unfold Context.logFinding Context.bytesToLog
      rw [hb, pure_bind, pure_bind]
      exact ((twins_scopeLaw p o o').addFinding _ _ _ _ ⟨hplant, hcycle, earlier, rfl⟩).bind fun _ => .pure true
    | some b =>
      refine twins_of_changes fun {s t} hst => ⟨_, _, _, none, absurd rfl, hc.logFinding hb s, ?_⟩
      rw [← hst.failure_eq hagree]
      exact hd.logFinding hb t
  | setVout v =>
    cases hx
    cases hy
    obtain ⟨exponent, hv⟩ := hrep.exponent v ha
    cases hword : c.voutWord v exponent with
    | error fault =>
      intro s t hst
      have hword' : Context.voutWord { c with cycle := o'.cycle, earlier } v exponent = .error fault := hword
      rw [Context.setVout_of_exponent hv, Context.setVout_of_exponent hv, hword, hword']
      exact ⟨rfl, hst⟩
    | ok word =>
      refine twins_of_changes fun {s t} hst => ⟨_, _, _, _, fun _ => .vout ha, hc.setVout hv hword s, ?_⟩
      rw [← hst.failure_eq hagree]
      exact hd.setVout hv hword t
  | _ => cases hx

theorem twins_tellService {c d : Context Bench} (notice : Notice) :
    (twins p o o').Same (c.tellService notice) (d.tellService notice) := fun s t hst => by
  rw [Context.tellService_apply, Context.tellService_apply]
  exact ⟨rfl, hst.keeps (.of_eq rfl rfl) (.of_eq rfl rfl)⟩

theorem twins_visitLaw (hrep : p.Repeatable) (hagree : Bench.Agree p.Writes o.bench o'.bench) :
    (twins p o o').VisitLaw where
  toScopeLaw := twins_scopeLaw p o o'
  single h ha hx hy := twins_single hrep hagree h ha hx hy
  withVolts _ h := by
    obtain ⟨hplant, hcycle, earlier, rfl⟩ := h
    exact ⟨hplant, hcycle, earlier, rfl⟩
  startRail rail h := by
    obtain ⟨-, -, earlier, rfl⟩ := h
    exact .startRail ⟨rfl, rfl, rfl, rfl⟩ rfl twins_tellService rail
  endRail failed _ := twins_tellService (.railEnded failed)
  log entry s t hst := ⟨rfl, hst.keeps (.of_eq rfl rfl) (.of_eq rfl rfl)⟩

end

/-! ### Runs -/

/-- How far two runs have come, if they have done the same. -/
structure Progress.Twin (writes : UInt8 → Prop) (o o' : Origin) (p q : Progress Bench) : Prop where
  rows : q.report.rows = p.report.rows
  state : State.Twin writes o o' { hardware := p.hardware, presence := p.presence }
    { hardware := q.hardware, presence := q.presence }

namespace Controller

/-- Where a run of the controller starts from. -/
def origin (ctl : Controller Bench) : Origin := ⟨ctl.hardware, ctl.presence, ctl.cycles⟩

/-- Two controllers that manage one plant in the same way. -/
structure Alongside {σ : Type} (x y : Controller σ) : Prop where
  plant : y.plant = x.plant
  settings : y.settings = x.settings
  sensorsService : y.sensorsService = x.sensorsService

variable {x y ctl : Controller Bench}

theorem visitPlace_twin (h : x.Alongside y) (hrep : x.plant.Repeatable)
    (hagree : Bench.Agree x.plant.Writes x.hardware y.hardware) {place : Chassis Bench × Device Bench}
    (hplace : place ∈ x.plant.places) {p q : Progress Bench} (hpq : p.Twin x.plant.Writes x.origin y.origin q) :
    (x.visitPlace .configure x.cycles p place).Twin x.plant.Writes x.origin y.origin
      (y.visitPlace .configure y.cycles q place) := by
  have hcontexts : (twins x.plant x.origin y.origin).contexts
      (x.visitContext x.cycles p.report.captures place.2.id)
      (y.visitContext y.cycles q.report.captures place.2.id) := by
    refine ⟨rfl, rfl, q.report.captures, ?_⟩
    simp only [visitContext, h.plant, h.settings, h.sensorsService]
    rfl
  have hprocedures : ∀ as ∈ place.2.workProcedures .configure, x.plant.Configuring (.inOrder as) := fun as has =>
    Or.inr ⟨place.2, Plant.mem_devices_of_place hplace, as, List.mem_append_right _ has, .refl⟩
  obtain ⟨hfault, hrow, hstate⟩ := (twins_visitLaw hrep hagree).visit hcontexts .configure (.refl place.2)
    (Or.inl ⟨_, rfl⟩) hprocedures { chassis := place.1.id, device := place.2.id } hpq.state
  replace hfault :
    (x.visitOf .configure x.cycles p place).fault = (y.visitOf .configure y.cycles q place).fault := hfault
  replace hrow : (x.visitOf .configure x.cycles p place).row = (y.visitOf .configure y.cycles q place).row := hrow
  constructor
  · rw [visitPlace_rows, visitPlace_rows, rowOf_eq, rowOf_eq, hpq.rows, hfault, hrow]
  · rw [visitPlace_hardware, visitPlace_hardware, visitPlace_presence, visitPlace_presence]
    exact hstate.keeps (.of_eq rfl rfl) (.of_eq rfl rfl)

theorem visitAll_twin (h : x.Alongside y) (hrep : x.plant.Repeatable)
    (hagree : Bench.Agree x.plant.Writes x.hardware y.hardware) (hx : x.Fresh) (hy : y.Fresh) :
    (x.visitAll .configure).Twin x.plant.Writes x.origin y.origin (y.visitAll .configure) := by
  unfold visitAll
  rw [h.plant]
  refine List.foldl_rel ?_ fun place hplace p q hpq => visitPlace_twin h hrep hagree hplace hpq
  exact
    { rows := rfl
      state :=
        { presence := fun id => (hx id).trans (hy id).symm
          since := fun _ _ => rfl
          failure := fun _ _ => rfl
          failure' := fun _ _ => rfl
          held := fun _ _ => ⟨none, fun _ => rfl, rfl, rfl⟩ } }

/-- After a second run that configures, every register, every presence result and every row are as they were after
the first. Controllers are dated from when they are made on, whatever is called (`dated_make`, `dated_acts`). -/
theorem configure_idempotent (ctl : Controller Bench) (hrep : ctl.plant.Repeatable) (hdated : ctl.Dated) :
    let once := ctl.configure.1
    let twice := once.configure.1
    (∀ name register,
        (twice.hardware.file name).register? register = (once.hardware.file name).register? register) ∧
      (∀ id, twice.present? id = once.present? id) ∧
      twice.lastReport.map (·.rows) = once.lastReport.map (·.rows) := by
  intro once twice
  -- The first run beside itself tells what it leaves alone, and beside the second that both do the same.
  have hfirst := visitAll_twin (x := ctl) (y := ctl) ⟨rfl, rfl, rfl⟩ hrep ⟨fun _ _ => rfl, fun _ _ _ => rfl⟩
    hdated.fresh hdated.fresh
  have hagree : Bench.Agree ctl.plant.Writes ctl.hardware once.hardware := by
    refine ⟨hfirst.state.failure, fun name register hnot => ?_⟩
    obtain ⟨q, hq, hheld, -⟩ := hfirst.state.held name register
    rw [hq hnot] at hheld
    exact hheld
  have hsecond := visitAll_twin (x := ctl) (y := once) ⟨rfl, rfl, rfl⟩ hrep hagree hdated.fresh
    (dated_run hdated .configure).fresh
  refine ⟨fun name register => ?_, fun id => ?_, congrArg some hsecond.rows⟩
  · obtain ⟨q, -, honce, htwice⟩ := hsecond.state.held name register
    replace honce : once.hardware.held name register = Patch.contents q (ctl.hardware.held name register) := honce
    replace htwice : twice.hardware.held name register = Patch.contents q (once.hardware.held name register) := htwice
    show twice.hardware.held name register = once.hardware.held name register
    rw [htwice, honce, Patch.contents_contents]
  · have hpresence := hsecond.state.presence id
    show (once.visitAll .configure).presence.lastKnown? id = (ctl.visitAll .configure).presence.lastKnown? id
    unfold PresenceCache.lastKnown?
    cases hknown : (ctl.visitAll .configure).presence.get? id ctl.cycles with
    | none =>
      -- Neither run has asked for the device, so the second has left what the first one left.
      exact congrArg _ (hsecond.state.since id (hpresence.symm.trans hknown))
    | some present =>
      have honce := PresenceCache.get?_eq_some_iff.mp hknown
      have htwice := PresenceCache.get?_eq_some_iff.mp (hpresence.symm.trans hknown)
      rw [honce]
      exact congrArg (Option.map (·.present)) htwice

end Controller

/-! ### Two supplies on one bus -/

namespace Plant
variable {σ : Type} {p : Plant σ} {a b : Action}

/-- An action that carries out no others reaches only itself. -/
theorem eq_of_reaches (hsingle : ∀ t, ¬p.Calls (.action b) t) (h : p.Reaches (.action b) (.action a)) : a = b := by
  rcases h.cases_head with heq | ⟨_, hcalls, -⟩
  · cases heq
    rfl
  · exact absurd hcalls (hsingle _)

/-- A procedure of such actions reaches only those. -/
theorem reaches_action {as : Procedure} (hsingle : ∀ b ∈ as.toList, ∀ t, ¬p.Calls (.action b) t)
    (h : p.Reaches (.inOrder as) (.action a)) : a ∈ as.toList := by
  obtain ⟨first, rest⟩ := as
  induction rest generalizing first with
  | nil =>
    rcases h.cases_head with heq | ⟨_, hcalls, hreach⟩
    · cases heq
    · cases hcalls
      exact List.mem_singleton.mpr (eq_of_reaches (hsingle first List.mem_cons_self) hreach)
  | cons second rest ih =>
    rcases h.cases_head with heq | ⟨_, hcalls, hreach⟩
    · cases heq
    · cases hcalls with
      | first => exact List.mem_cons.mpr (.inl (eq_of_reaches (hsingle first List.mem_cons_self) hreach))
      | next =>
        have hlater := ih second (fun b hb => hsingle b (List.mem_cons_of_mem first hb)) hreach
        exact List.mem_cons_of_mem first hlater

end Plant

/-- Sets the upper half of a byte. -/
def upperHalf : RegisterWrite := ⟨0xD0, [0xA5], some [0xF0], by decide, by decide, by decide⟩

/-- Sets two bytes under the same register. -/
def wholeWord : RegisterWrite := ⟨0xD0, [0x01, 0x02], none, by decide, by decide, by decide⟩

/-- The register of the model holds seven. -/
def hasModel : RegisterComparison where
  register := 0x9A
  format := ⟨.byte, false⟩
  mask := 0xFF
  comparison := .equal
  operand := .literal 7
  mask_pos := Nat.succ_pos _
  mask_le := Nat.le_refl _
  operand_fits := rfl

/-- A supply that is there if its model is the right one, and is configured by some writes. -/
def supply (id : String) (address : UInt16) (writes : Procedure) : Device Bench where
  id
  isRegulator := true
  inventoryPath := ""
  bus := Bench.bus "i2c0" ⟨"i2c0", address⟩
  detection := some ⟨.compareRegister hasModel, []⟩
  configuration := some ⟨none, writes⟩

/-- Two supplies that answer for the same registers, which are written by both. -/
def supplies : Controller Bench where
  plant :=
    ⟨[⟨"chassis", "", [supply "psu0" 0x40 ⟨.writeRegister upperHalf, []⟩,
      supply "psu1" 0x41 ⟨.writeRegister wholeWord, [.writeRegister upperHalf]⟩]⟩], []⟩
  hardware := ⟨[("i2c0", RegisterFile.setRegister {} 0x9A [7])]⟩

theorem supplies_actions {a : Action} (h : supplies.plant.Configuring (.action a)) :
    a = .compareRegister hasModel ∨ a = .writeRegister upperHalf ∨ a = .writeRegister wholeWord := by
  rcases h with ⟨id, heq⟩ | ⟨d, hd, as, has, hreach⟩
  · cases heq
  have hlisted : ∀ b ∈ as.toList,
      b = .compareRegister hasModel ∨ b = .writeRegister upperHalf ∨ b = .writeRegister wholeWord := by
    rcases List.mem_pair.mp hd with rfl | rfl <;> rcases List.mem_pair.mp has with rfl | rfl <;>
      simp [Sequence.toList]
  refine hlisted a (Plant.reaches_action (fun b hb t hcalls => ?_) hreach)
  rcases hlisted b hb with rfl | rfl | rfl <;> cases hcalls

theorem supplies_configured_again :
    supplies.plant.Repeatable ∧ supplies.Dated ∧
      (∀ name register, (supplies.configure.1.configure.1.hardware.file name).register? register =
        (supplies.configure.1.hardware.file name).register? register) ∧
      (∀ id, supplies.configure.1.configure.1.present? id = supplies.configure.1.present? id) ∧
      supplies.configure.1.configure.1.lastReport.map (·.rows) = supplies.configure.1.lastReport.map (·.rows) := by
  have hrepeatable : supplies.plant.Repeatable :=
    { buses := fun d hd => by
        rcases List.mem_pair.mp hd with rfl | rfl <;> exact ⟨"i2c0", _, rfl⟩
      exponent := fun v hv => by rcases supplies_actions hv with h | h | h <;> cases h
      literal := fun r hr => by
        rcases supplies_actions hr with h | h | h <;> cases h
        exact ⟨7, rfl⟩
      apart := fun r hr hwrites => by
        have hregister : r.register = 0x9A := by
          rcases supplies_actions hr with h | h | h <;> cases h
          rfl
        rw [hregister] at hwrites
        generalize hplace : (0x9A : UInt8) = register at hwrites
        cases hwrites with
        | register hw => rcases supplies_actions hw with h | h | h <;> cases h <;> exact absurd hplace (by decide)
        | vout hv => rcases supplies_actions hv with h | h | h <;> cases h }
  have hdated : supplies.Dated := nofun
  exact ⟨hrepeatable, hdated, Controller.configure_idempotent supplies hrepeatable hdated⟩

end PowerRails
