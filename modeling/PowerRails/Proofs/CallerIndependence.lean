import PowerRails.Bus.Simulated
import PowerRails.Proofs.Growth
import PowerRails.Proofs.Likeness

/-! # Who asks for presence

What a presence detection finds out, and what it does to the hardware, hardly depends on who asks. Scope, rules
under way, voltage, findings and captures of the asker make no difference. Its sensor readings may: a detection
that compares a register with a sensor value takes the value that was read last, also if the asker read it. -/

namespace PowerRails

/-- One more reading is the latest of its name, and changes nothing for other names. -/
theorem Reading.latest?_concat (readings : List Reading) (r : Reading) (name : String) :
    Reading.latest? (readings ++ [r]) name = if r.name = name then some r.value else Reading.latest? readings name := by
  by_cases h : r.name = name <;> simp [latest?, h]

section
variable {σ : Type}

namespace Plant

/-- Carrying out a task may directly lead to another, through the presence detections that are asked for as well. -/
inductive Needs (p : Plant σ) : Task → Task → Prop
  | calls {t u} : p.Calls t u → Needs p t u
  | detection {id d as} : p.device? id = some d → d.detection = some as → Needs p (.presence id) (.inOrder as)

/-- Finding out the presence of a device may look up the sensor value of a name. -/
def Consults (p : Plant σ) (id name : String) : Prop :=
  ∃ r : RegisterComparison, Relation.ReflTransGen p.Needs (.presence id) (.action (.compareRegister r)) ∧
    r.operand = .sensor name

theorem closed_needs (p : Plant σ) (t : Task) : p.Closed (Relation.ReflTransGen p.Needs t) where
  calls ht hu := ht.tail (.calls hu)
  detection ht hd has := ht.tail (.detection hd has)

end Plant

/-- Two contexts of one plant in one cycle, under the same limits and with the same detections under way. -/
structure Context.Beside (c d : Context σ) : Prop where
  plant : d.plant = c.plant
  cycle : d.cycle = c.cycle
  maxRuleDepth : d.maxRuleDepth = c.maxRuleDepth
  held : d.held = c.held
  detecting : d.detecting = c.detecting

/-- Two such contexts that act on behalf of the same scope, with the same rules under way and the same voltage. -/
structure Context.Alongside (c d : Context σ) : Prop extends c.Beside d where
  scope : d.scope = c.scope
  ruleChain : d.ruleChain = c.ruleChain
  volts : d.volts = c.volts

/-- Two states of the same hardware with the same presence results of a cycle. -/
structure State.Beside (cycle : Cycle) (s t : State σ) : Prop where
  hardware : t.hardware = s.hardware
  presence : ∀ id, t.presence.get? id cycle = s.presence.get? id cycle

/-- What can be seen of finding out presence: the answer, the accesses made for it, and the hardware after it. -/
def Context.asking (c : Context σ) (id : String) (s : State σ) : Except Fault Bool × List Access × σ :=
  let (answer, t) := c.resolvePresence id s
  (answer, (Activity.accesses t.activity).drop (Activity.accesses s.activity).length, t.hardware)

/-! ### Two askers -/

theorem Context.Beside.detached {c d : Context σ} (h : c.Beside d) (id : String) :
    (c.detached id).Alongside (d.detached id) :=
  { h with detecting := congrArg (· ++ [id]) h.detecting, scope := rfl, ruleChain := rfl, volts := rfl }

theorem Context.Alongside.enter {c d : Context σ} (h : c.Alongside d) (scope : Scope) :
    (c.enter scope).Alongside (d.enter scope) :=
  { h with scope := rfl }

theorem Context.Alongside.inRule {c d : Context σ} (h : c.Alongside d) (id : String) :
    (c.inRule id).Alongside (d.inRule id) :=
  { h with ruleChain := congrArg (· ++ [id]) h.ruleChain }

/-- Two askers on the way through the presence detection of a device, after the accesses that each made before. -/
def askers (p : Plant σ) (cycle : Cycle) (id : String) (before before' : List Access) : Likeness σ σ where
  may := Relation.ReflTransGen p.Needs (.presence id)
  asks c d := (c.plant = p ∧ c.cycle = cycle) ∧ c.Beside d
  contexts c d := (c.plant = p ∧ c.cycle = cycle) ∧ c.Alongside d
  hardware := Eq
  states s t := s.Beside cycle t ∧
    (∀ name, p.Consults id name → Reading.latest? s.readings name = Reading.latest? t.readings name) ∧
    ∃ made, Activity.accesses s.activity = before ++ made ∧ Activity.accesses t.activity = before' ++ made

variable {p : Plant σ} {cycle : Cycle} {id : String} {before before' : List Access} {s t s' t' : State σ}

/-- Two askers stay alike if they make the same accesses and change nothing else that matters. -/
theorem askers_of_accesses (h : (askers p cycle id before before').states s t) (made : List Access)
    (hs : s'.hardware = s.hardware ∧ s'.presence = s.presence ∧ s'.readings = s.readings ∧
      Activity.accesses s'.activity = Activity.accesses s.activity ++ made)
    (ht : t'.hardware = t.hardware ∧ t'.presence = t.presence ∧ t'.readings = t.readings ∧
      Activity.accesses t'.activity = Activity.accesses t.activity ++ made) :
    (askers p cycle id before before').states s' t' := by
  obtain ⟨hbeside, hreadings, made', hbefore, hbefore'⟩ := h
  obtain ⟨hh, hp, hr, ha⟩ := hs
  obtain ⟨kh, kp, kr, ka⟩ := ht
  refine ⟨⟨by rw [hh, kh, hbeside.hardware], fun id => by rw [hp, kp, hbeside.presence]⟩, fun name hn => ?_,
    made' ++ made, by rw [ha, hbefore, List.append_assoc], by rw [ka, hbefore', List.append_assoc]⟩
  rw [hr, kr, hreadings name hn]

theorem accesses_concat_of_nil {as bs : List Activity} (h : Activity.accesses bs = []) :
    Activity.accesses (as ++ bs) = Activity.accesses as ++ [] := by rw [Activity.accesses_append, h]

theorem askers_entryLaw (p : Plant σ) (cycle : Cycle) (id : String) (before before' : List Access) :
    (askers p cycle id before before').EntryLaw := by
  refine .of_same ?same ?inRule ?inDevice ?inRail ?addFinding
  case same => exact fun h => ⟨h.2.plant, h.2.maxRuleDepth, h.2.scope, h.2.ruleChain⟩
  case inRule => exact fun id h => ⟨h.1, h.2.inRule id⟩
  case inDevice => exact fun h _ => ⟨h.1, h.2.enter _⟩
  case inRail =>
    intro c d r h
    refine ⟨h.1, ?_⟩
    unfold Context.inRail
    rw [h.2.scope]
    exact h.2.enter _
  case addFinding =>
    exact fun _ _ _ _ _ _ _ hst => ⟨rfl, askers_of_accesses hst [] ⟨rfl, rfl, rfl, (List.append_nil _).symm⟩
      ⟨rfl, rfl, rfl, (List.append_nil _).symm⟩⟩

theorem askers_law (p : Plant σ) (cycle : Cycle) (id : String) (before before' : List Access) :
    (askers p cycle id before before').Law where
  toEntryLaw := askers_entryLaw p cycle id before before'
  asks_of_contexts h := ⟨h.1, h.2.toBeside⟩
  closed h := h.1.1 ▸ p.closed_needs _
  hardware h := h.1.hardware.symm
  known {c d s t other} h _ hst := by
    rw [h.2.cycle, h.1.2]
    exact (hst.1.presence other).symm
  detections h _ := by rw [h.2.plant]
  detecting h := h.2.detecting.symm
  detached h _ := ⟨h.1, h.2.detached _⟩
  note _ _ _ _ hst := ⟨rfl, askers_of_accesses hst [] ⟨rfl, rfl, rfl, accesses_concat_of_nil rfl⟩
    ⟨rfl, rfl, rfl, accesses_concat_of_nil rfl⟩⟩
  detectionVerdict outcome _ _ _ _ hst := by
    cases outcome with
    | ok present => exact ⟨rfl, hst⟩
    | error fault =>
      exact ⟨rfl, askers_of_accesses hst [] ⟨rfl, rfl, rfl, accesses_concat_of_nil rfl⟩
        ⟨rfl, rfl, rfl, accesses_concat_of_nil rfl⟩⟩
  keepPresence {c d other} present h _ s t hst := by
    refine ⟨rfl, ⟨hst.1.hardware, fun id => ?_⟩, hst.2⟩
    simp only [Context.keepPresence_apply, PresenceCache.get?_insert, h.2.cycle, hst.1.presence id]
  scope h := h.2.scope.symm
  held h := h.2.held.symm
  volts h := h.2.volts.symm
  device {c d} h := by
    have hd : d.device = c.device := by simp only [Context.device, h.2.plant, h.2.scope]
    rw [hd]
    cases c.device with
    | error fault => exact Or.inl ⟨fault, rfl, rfl⟩
    | ok a => exact Or.inr ⟨a, a, rfl, rfl, rfl, .refl a.bus⟩
  accessed {c d s t k l} request failure h hst hkl := by
    have haccess : d.accessed t.presence request failure = c.accessed s.presence request failure := by
      simp only [Context.accessed, h.2.scope, h.2.cycle, h.2.detecting, h.1.2, hst.1.presence]
    obtain ⟨hbeside, hreadings, made, hbefore, hbefore'⟩ := hst
    refine ⟨⟨hkl.symm, hbeside.presence⟩, hreadings,
      made ++ Activity.accesses [c.accessed s.presence request failure], ?_, ?_⟩
    · rw [Activity.accesses_append, hbefore, List.append_assoc]
    · rw [haccess, Activity.accesses_append, hbefore', List.append_assoc]
  capture _ _ _ hst := askers_of_accesses hst [] ⟨rfl, rfl, rfl, accesses_concat_of_nil rfl⟩
    ⟨rfl, rfl, rfl, accesses_concat_of_nil rfl⟩
  recordReading {c d} name kind value h s t hst := by
    rw [Context.recordReading_apply, Context.recordReading_apply]
    obtain ⟨hbeside, hreadings, made, hbefore, hbefore'⟩ := hst
    refine ⟨rfl, ⟨hbeside.hardware, hbeside.presence⟩, fun other hother => ?_, made, ?_, ?_⟩
    · simp only [Reading.latest?_concat, hreadings other hother]
    · rw [Activity.accesses_append, Context.accesses_told, List.append_nil, hbefore]
    · rw [Activity.accesses_append, Context.accesses_told, List.append_nil, hbefore']
  reading _ ht hr hst := hst.2.1 _ ⟨_, ht, hr⟩

namespace Context

/-- Askers that see the same sensor values where a detection consults them see the same of it. -/
theorem asking_eq {c d : Context σ} (hc : c.Beside d) (hs : s.Beside c.cycle t)
    (hr : ∀ name, c.plant.Consults id name → Reading.latest? s.readings name = Reading.latest? t.readings name) :
    c.asking id s = d.asking id t := by
  have law := askers_law c.plant c.cycle id (Activity.accesses s.activity) (Activity.accesses t.activity)
  have hstates : (askers c.plant c.cycle id (Activity.accesses s.activity) (Activity.accesses t.activity)).states s t :=
    ⟨hs, hr, [], (List.append_nil _).symm, (List.append_nil _).symm⟩
  obtain ⟨hanswer, hbeside, -, made, hmade, hmade'⟩ :=
    law.taskLaw.presence ⟨⟨rfl, rfl⟩, hc⟩ Relation.ReflTransGen.refl hstates
  simp only [asking, hanswer, hbeside.hardware, hmade, hmade', List.drop_left]

/-- The readings that the asker made before are the one thing of it that can matter to a presence detection, and
only the latest of each name that the detection may consult. So finding out presence does not depend on the
asker exactly if it does not depend on the readings. -/
theorem presence_depends_on_readings_only (c : Context σ) (id : String) (s : State σ) :
    (∀ d t, c.Beside d → s.Beside c.cycle t →
      (∀ name, c.plant.Consults id name → Reading.latest? s.readings name = Reading.latest? t.readings name) →
      c.asking id s = d.asking id t) ∧
    ((∀ d t, c.Beside d → s.Beside c.cycle t → c.asking id s = d.asking id t) ↔
      ∀ readings, c.asking id s = c.asking id { s with readings }) := by
  refine ⟨fun d t hc hs hr => asking_eq hc hs hr, fun h readings => ?_, fun h d t hc hs => ?_⟩
  · exact h c { s with readings } ⟨rfl, rfl, rfl, rfl, rfl⟩ ⟨rfl, fun _ => rfl⟩
  · rw [h t.readings]
    exact asking_eq hc ⟨hs.hardware, hs.presence⟩ fun _ _ => rfl

end Context
end

/-! ### A detection that consults a reading -/

/-- A supply that is there if a register holds what was last read under a name. -/
def modeSupply : Device RegisterFile where
  id := "psu"
  isRegulator := true
  inventoryPath := ""
  bus := RegisterFile.bus ⟨"i2c0", 0x40⟩
  detection := some ⟨.compareRegister
    ⟨0x20, ⟨.byte, false⟩, 0xFF, .equal, .sensor "mode", by decide, by decide, trivial⟩, []⟩

/-- Somebody who asks for the presence of the supply. -/
def modeAsker : Context RegisterFile where
  plant := ⟨[⟨"chassis", "", [modeSupply]⟩], []⟩
  cycle := 0
  maxRuleDepth := 30
  scope := ⟨"vrm", none⟩

/-- The asker has made some readings, and the register holds one. -/
def modeState (readings : List Reading) : State RegisterFile where
  hardware := { isOpen := true, registers := ⟨[(0x20, [1])]⟩ }
  readings := readings

/-- Askers in different places, who read the same value, are told the same. -/
theorem asking_with_equal_readings :
    let asker := { modeAsker with scope := ⟨"fan", some "12v"⟩, ruleChain := ["start"], volts := some (.zero false) }
    modeAsker.asking "psu" (modeState [⟨"vrm", none, "mode", .vout, 1⟩]) =
      asker.asking "psu" (modeState [⟨"fan", none, "mode", .iout, 2⟩, ⟨"vrm", none, "mode", .vout, 1⟩]) := by
  refine (Context.presence_depends_on_readings_only modeAsker "psu" _).1 _ _ ⟨rfl, rfl, rfl, rfl, rfl⟩
    ⟨rfl, fun _ => rfl⟩ fun name _ => ?_
  by_cases h : "mode" = name <;> simp [Reading.latest?, modeState, h]

/-- An asker who read the value and one who did not are told different things. -/
theorem asking_differs_with_readings :
    ¬ ∀ (c d : Context RegisterFile) (id : String) (s t : State RegisterFile),
      c.Beside d → s.Beside c.cycle t → c.detecting = [] → c.asking id s = d.asking id t := by
  intro h
  have heq := h modeAsker modeAsker "psu" (modeState [⟨"vrm", none, "mode", .vout, 1⟩]) (modeState [])
    ⟨rfl, rfl, rfl, rfl, rfl⟩ ⟨rfl, fun _ => rfl⟩ rfl
  have hanswer := congrArg Prod.fst heq
  have hrun : ∀ readings, modeAsker.resolvePresence "psu" (modeState readings) = _ := fun readings =>
    Context.resolvePresence_of_detection (d := modeSupply) rfl rfl List.not_mem_nil rfl
  simp only [Context.asking, hrun, Context.inOrder, Context.perform] at hanswer
  exact absurd hanswer (by decide +kernel)

end PowerRails
