import Mathlib.Logic.Relation
import PowerRails.Visit

/-! # Tasks

Carrying out an action, a list of actions, a rule or a presence detection are six functions that call each
other. What is proved of one of them is proved of all, so a `Task` is the argument of any of them and
`Context.carryOut` stands for all six.

`Context.Enters` says which tasks a task carries out directly, and in which contexts; it is the recursion of
the six functions, and `Context.carryOut_induct` is induction along it. `Plant.Calls` says the same of the text
of a plant alone, without regard to limits and to what is under way. -/

namespace PowerRails

/-- What a context can be asked to carry out. -/
inductive Task where
  | action (action : Action)
  /-- Actions until one answers no. -/
  | every (actions : List Action)
  /-- Actions until one answers yes. -/
  | any (actions : List Action)
  | inOrder (procedure : Procedure)
  | rule (id : String)
  /-- Finding out whether a device is there. -/
  | presence (id : String)

/-- All that is ever carried out for a rail. -/
def Rail.procedures (r : Rail) : List Procedure := (r.configuration.map (·.actions)).toList ++ r.monitoring.toList

section
variable {σ : Type}

/-- All that is ever carried out for a device and its rails. -/
def Device.procedures (d : Device σ) : List Procedure :=
  d.detection.toList ++ (d.configuration.map (·.actions)).toList ++ d.monitoring.toList
    ++ d.rails.flatMap Rail.procedures

/-- Two devices say the same about everything but their bus. -/
structure Device.SameText {τ : Type} (d : Device σ) (e : Device τ) : Prop where
  id : d.id = e.id
  isRegulator : d.isRegulator = e.isRegulator
  inventoryPath : d.inventoryPath = e.inventoryPath
  detection : d.detection = e.detection
  configuration : d.configuration = e.configuration
  monitoring : d.monitoring = e.monitoring
  rails : d.rails = e.rails

theorem Device.SameText.refl (d : Device σ) : d.SameText d := ⟨rfl, rfl, rfl, rfl, rfl, rfl, rfl⟩

/-- What a run of some kind carries out for a device and its rails, once it is known to be there. -/
def Device.workProcedures (d : Device σ) : RunKind → List Procedure
  | .configure =>
    (d.configuration.map (·.actions)).toList ++ d.rails.flatMap fun r => (r.configuration.map (·.actions)).toList
  | .monitor => d.monitoring.toList ++ d.rails.flatMap fun r => r.monitoring.toList

theorem Device.mem_workProcedures_configure {d : Device σ} {r : Rail} {k : Configuration} (hr : r ∈ d.rails)
    (hk : k ∈ r.configuration) : k.actions ∈ d.workProcedures .configure := by
  refine List.mem_append_right _ (List.mem_flatMap.mpr ⟨r, hr, ?_⟩)
  simp [Option.mem_def.mp hk]

theorem Device.mem_workProcedures_monitor {d : Device σ} {r : Rail} {as : Procedure} (hr : r ∈ d.rails)
    (has : as ∈ r.monitoring) : as ∈ d.workProcedures .monitor := by
  refine List.mem_append_right _ (List.mem_flatMap.mpr ⟨r, hr, ?_⟩)
  simp [Option.mem_def.mp has]

theorem Device.workProcedures_subset (d : Device σ) (kind : RunKind) : d.workProcedures kind ⊆ d.procedures := by
  intro as has
  unfold procedures
  cases kind with
  | configure =>
    rcases List.mem_append.mp has with hown | hrails
    · simp [hown]
    · obtain ⟨r, hr, has⟩ := List.mem_flatMap.mp hrails
      exact List.mem_append_right _ (List.mem_flatMap.mpr ⟨r, hr, List.mem_append_left _ has⟩)
  | monitor =>
    rcases List.mem_append.mp has with hown | hrails
    · simp [hown]
    · obtain ⟨r, hr, has⟩ := List.mem_flatMap.mp hrails
      exact List.mem_append_right _ (List.mem_flatMap.mpr ⟨r, hr, List.mem_append_right _ has⟩)

namespace Context

/-- Carries out a task. -/
def carryOut (ctx : Context σ) : Task → Op σ Bool
  | .action a => ctx.perform a
  | .every as => ctx.everyOf as
  | .any as => ctx.someOf as
  | .inOrder as => ctx.inOrder as
  | .rule id => ctx.callRule id
  | .presence id => ctx.resolvePresence id

/-- What an action does by itself, if it works on registers or records something and carries out no others. -/
def single? (ctx : Context σ) : Action → Option (Op σ Bool)
  | .compareRegister c => some (ctx.compareRegister c)
  | .writeRegister w => some (ctx.writeRegister w)
  | .capture b => some (ctx.captureBlock b)
  | .readSensor r => some (ctx.readSensor r)
  | .logFinding l => some (ctx.logFinding l)
  | .setVout c => some (ctx.setVout c)
  | _ => none

theorem perform_of_single? {ctx : Context σ} {a : Action} {x : Op σ Bool} (h : ctx.single? a = some x) :
    ctx.perform a = Op.framed (.action a.text) x := by
  cases a <;> cases h <;>
  · rw [perform]
    rfl

/-- Carrying out a task in a context directly carries out another one, in the context of the other. -/
inductive Enters : Context σ → Task → Context σ → Task → Prop
  | allOf {c as} : Enters c (.action (.allOf as)) c (.every as.toList)
  | anyOf {c as} : Enters c (.action (.anyOf as)) c (.any as.toList)
  | negation {c a} : Enters c (.action (.negation a)) c (.action a)
  | condition {c a as bs} : Enters c (.action (.branch a as bs)) c (.action a)
  | consequent {c a as bs} : Enters c (.action (.branch a as bs)) c (.inOrder as)
  | alternative {c a as bs} : Enters c (.action (.branch a as (some bs))) c (.inOrder bs)
  | runRule {c id} : Enters c (.action (.runRule id)) c (.rule id)
  | gate {c d r as} : Enters c (.action (.inDevice d r as)) c (.presence d)
  | inDevice {c d r as} : Enters c (.action (.inDevice d r as)) (c.enter ⟨d, r⟩) (.inOrder as)
  | inRail {c r as} : Enters c (.action (.inRail r as)) (c.inRail r) (.inOrder as)
  | comparePresence {c d b} : Enters c (.action (.comparePresence d b)) c (.presence d)
  | everyHead {c a as} : Enters c (.every (a :: as)) c (.action a)
  | everyTail {c a as} : Enters c (.every (a :: as)) c (.every as)
  | anyHead {c a as} : Enters c (.any (a :: as)) c (.action a)
  | anyTail {c a as} : Enters c (.any (a :: as)) c (.any as)
  | first {c a as} : Enters c (.inOrder ⟨a, as⟩) c (.action a)
  | next {c a b bs} : Enters c (.inOrder ⟨a, b :: bs⟩) c (.inOrder ⟨b, bs⟩)
  | rule {c id r} : c.plant.rule? id = some r → c.requireCallable id = .ok () →
      Enters c (.rule id) (c.inRule id) (.inOrder r.actions)
  | detection {c id d as} : c.plant.device? id = some d → d.detection = some as → id ∉ c.detecting →
      Enters c (.presence id) (c.detached id) (.inOrder as)

/-- Induction along what tasks carry out: for every plant the recursion comes to an end. -/
theorem carryOut_induct {motive : Context σ → Task → Prop}
    (step : ∀ c t, (∀ c' t', Enters c t c' t' → motive c' t') → motive c t) : ∀ c t, motive c t := by
  have all := perform.mutual_induct (fun c a => motive c (.action a)) (fun c id => motive c (.presence id))
    (fun c as => motive c (.inOrder as)) (fun c id => motive c (.rule id)) (fun c as => motive c (.any as))
    (fun c as => motive c (.every as))
    (fun c as ih => step _ _ fun _ _ h => by cases h; exact ih)
    (fun c as ih => step _ _ fun _ _ h => by cases h; exact ih)
    (fun c a ih => step _ _ fun _ _ h => by cases h; exact ih)
    (fun c a as bs ha has hbs => step _ _ fun _ _ h => by
      cases h with
      | condition => exact ha
      | consequent => exact has
      | alternative => exact hbs)
    (fun c id ih => step _ _ fun _ _ h => by cases h; exact ih)
    (fun c d r as hd has => step _ _ fun _ _ h => by
      cases h with
      | gate => exact hd
      | inDevice => exact has)
    (fun c r as ih => step _ _ fun _ _ h => by cases h; exact ih)
    (fun c d b ih => step _ _ fun _ _ h => by cases h; exact ih)
    (fun c x => step _ _ fun _ _ h => by cases h)
    (fun c x => step _ _ fun _ _ h => by cases h)
    (fun c x => step _ _ fun _ _ h => by cases h)
    (fun c x => step _ _ fun _ _ h => by cases h)
    (fun c x => step _ _ fun _ _ h => by cases h)
    (fun c x => step _ _ fun _ _ h => by cases h)
    (fun c id ih => step _ _ fun _ _ h => by
      cases h with
      | detection hd _ hnew => exact ih _ hd hnew _)
    (fun c a ih => step _ _ fun _ _ h => by cases h; exact ih)
    (fun c a b bs ha hbs => step _ _ fun _ _ h => by
      cases h with
      | first => exact ha
      | next => exact hbs)
    (fun c id hr => step _ _ fun _ _ h => by
      cases h with
      | rule hr' => rw [hr] at hr'; cases hr')
    (fun c id r hr fault hc => step _ _ fun _ _ h => by
      cases h with
      | rule _ hc' => rw [hc] at hc'; cases hc')
    (fun c id r hr _ hc ih => step _ _ fun _ _ h => by
      cases h with
      | rule hr' _ => rw [hr] at hr'; cases hr'; exact ih)
    (fun c => step _ _ fun _ _ h => by cases h)
    (fun c a as ha has => step _ _ fun _ _ h => by
      cases h with
      | anyHead => exact ha
      | anyTail => exact has)
    (fun c => step _ _ fun _ _ h => by cases h)
    (fun c a as ha has => step _ _ fun _ _ h => by
      cases h with
      | everyHead => exact ha
      | everyTail => exact has)
  obtain ⟨action, presence, inOrder, rule, any, every⟩ := all
  rintro c (a | as | as | as | id | id)
  · exact action c a
  · exact every c as
  · exact any c as
  · exact inOrder c as
  · exact rule c id
  · exact presence c id

theorem callRule_of_none {c : Context σ} {id : String} (h : c.plant.rule? id = none) :
    c.callRule id = Op.fail ⟨.ruleNotFound id, []⟩ := by
  rw [callRule]
  split
  · rfl
  · simp_all

theorem callRule_of_some {c : Context σ} {id : String} {r : Rule} (h : c.plant.rule? id = some r) :
    c.callRule id = (do
      Op.ofExcept (c.requireCallable id)
      Op.framed (.rule id) ((c.inRule id).inOrder r.actions)) := by
  rw [callRule]
  split
  · simp_all
  · rename_i r' hr
    obtain rfl : r' = r := by simpa [hr] using h
    split
    · rename_i fault hc
      rw [hc]
      rfl
    · rename_i hc
      rw [hc]
      rfl

/-! ### Finding out presence -/

/-- All that finding out the presence of a device can come to, with the conditions under which it does. -/
inductive Resolves (c : Context σ) (id : String) (s : State σ) : Except Fault Bool × State σ → Prop
  | cached {b} : s.presence.get? id c.cycle = some b → Resolves c id s (.ok b, s)
  | unknown : s.presence.get? id c.cycle = none → c.plant.device? id = none →
      Resolves c id s (.error ⟨.deviceNotFound id, []⟩, s)
  | cyclic {d} : s.presence.get? id c.cycle = none → c.plant.device? id = some d → id ∈ c.detecting →
      Resolves c id s
        (.error (.invalidAction "presence_detection" s!"presence of device \"{id}\" depends on itself"), s)
  | assumed {d} : s.presence.get? id c.cycle = none → c.plant.device? id = some d → id ∉ c.detecting →
      d.detection = none → Resolves c id s (c.keepPresence id true s)
  | detected {d as r} : s.presence.get? id c.cycle = none → c.plant.device? id = some d → id ∉ c.detecting →
      d.detection = some as → (c.detached id).inOrder as (Op.note (.detection id) s).2 = r →
      Resolves c id s ((detectionVerdict id r.1 >>= c.keepPresence id) r.2)

theorem resolvePresence_of_cached {c : Context σ} {id : String} {s : State σ} {b : Bool}
    (hp : s.presence.get? id c.cycle = some b) : c.resolvePresence id s = (.ok b, s) := by
  rw [resolvePresence, Op.bind_apply]
  simp only [Op.state_apply, hp]
  rfl

theorem resolvePresence_of_unknown {c : Context σ} {id : String} {s : State σ}
    (hp : s.presence.get? id c.cycle = none) (hd : c.plant.device? id = none) :
    c.resolvePresence id s = (.error ⟨.deviceNotFound id, []⟩, s) := by
  rw [resolvePresence, Op.bind_apply]
  simp only [Op.state_apply, hp]
  cases hd' : c.plant.device? id with
  | none => rfl
  | some d => simp_all

/-- What is done about a device whose presence nobody has asked for yet. -/
theorem resolvePresence_of_device {c : Context σ} {id : String} {s : State σ} {d : Device σ}
    (hp : s.presence.get? id c.cycle = none) (hd : c.plant.device? id = some d) :
    c.resolvePresence id s =
      if id ∈ c.detecting then
        (.error (.invalidAction "presence_detection" s!"presence of device \"{id}\" depends on itself"), s)
      else
        d.detection.elim (c.keepPresence id true s) fun as =>
          (do
            Op.note (.detection id)
            let outcome ← Op.attempt ((c.detached id).inOrder as)
            c.keepPresence id (← detectionVerdict id outcome) : Op σ Bool) s := by
  rw [resolvePresence, Op.bind_apply]
  simp only [Op.state_apply, hp]
  cases hd' : c.plant.device? id with
  | none => simp_all
  | some d' =>
    obtain rfl : d' = d := by simpa [hd'] using hd
    by_cases hnew : id ∈ c.detecting
    · simp [hnew]
    · simp only [hnew, ↓reduceDIte, ↓reduceIte]
      cases d'.detection <;> rfl

theorem resolvePresence_of_detection {c : Context σ} {id : String} {s : State σ} {d : Device σ} {as : Procedure}
    (hp : s.presence.get? id c.cycle = none) (hd : c.plant.device? id = some d) (hnew : id ∉ c.detecting)
    (has : d.detection = some as) :
    c.resolvePresence id s =
      (do
        Op.note (.detection id)
        let outcome ← Op.attempt ((c.detached id).inOrder as)
        c.keepPresence id (← detectionVerdict id outcome) : Op σ Bool) s := by
  rw [resolvePresence_of_device hp hd, if_neg hnew, has]
  rfl

theorem resolves (c : Context σ) (id : String) (s : State σ) : c.Resolves id s (c.resolvePresence id s) := by
  cases hp : s.presence.get? id c.cycle with
  | some b => exact resolvePresence_of_cached hp ▸ .cached hp
  | none =>
    cases hd : c.plant.device? id with
    | none => exact resolvePresence_of_unknown hp hd ▸ .unknown hp hd
    | some d =>
      rw [resolvePresence_of_device hp hd]
      split
      · exact .cyclic hp hd ‹_›
      · cases has : d.detection with
        | none => exact .assumed hp hd ‹_› has
        | some as => exact .detected hp hd ‹_› has rfl

@[simp] theorem keepPresence_apply (c : Context σ) (id : String) (present : Bool) (s : State σ) :
    c.keepPresence id present s = (.ok present, { s with presence := s.presence.insert id present c.cycle }) := rfl

/-- What is found out is kept for the rest of the cycle. -/
theorem get?_of_resolvePresence {c : Context σ} {id : String} {s t : State σ} {b : Bool}
    (h : c.resolvePresence id s = (.ok b, t)) : t.presence.get? id c.cycle = some b := by
  have hr := c.resolves id s
  rw [h] at hr
  generalize hx : ((.ok b, t) : Except Fault Bool × State σ) = x at hr
  cases hr with
  | cached hb => cases hx; exact hb
  | unknown => cases hx
  | cyclic => cases hx
  | assumed =>
    cases hx
    simp [PresenceCache.get?_insert]
  | @detected d as r =>
    obtain ⟨_ | verdict, u⟩ := r <;>
    · cases hx
      simp [PresenceCache.get?_insert]

end Context

namespace Plant

/-- Carrying out a task may directly carry out another, going by the text of the plant alone. What a presence
detection carries out is left out: it belongs to the device and not to the task. -/
inductive Calls (p : Plant σ) : Task → Task → Prop
  | allOf {as} : Calls p (.action (.allOf as)) (.every as.toList)
  | anyOf {as} : Calls p (.action (.anyOf as)) (.any as.toList)
  | negation {a} : Calls p (.action (.negation a)) (.action a)
  | condition {a as bs} : Calls p (.action (.branch a as bs)) (.action a)
  | consequent {a as bs} : Calls p (.action (.branch a as bs)) (.inOrder as)
  | alternative {a as bs} : Calls p (.action (.branch a as (some bs))) (.inOrder bs)
  | runRule {id} : Calls p (.action (.runRule id)) (.rule id)
  | gate {d r as} : Calls p (.action (.inDevice d r as)) (.presence d)
  | inDevice {d r as} : Calls p (.action (.inDevice d r as)) (.inOrder as)
  | inRail {r as} : Calls p (.action (.inRail r as)) (.inOrder as)
  | comparePresence {d b} : Calls p (.action (.comparePresence d b)) (.presence d)
  | everyHead {a as} : Calls p (.every (a :: as)) (.action a)
  | everyTail {a as} : Calls p (.every (a :: as)) (.every as)
  | anyHead {a as} : Calls p (.any (a :: as)) (.action a)
  | anyTail {a as} : Calls p (.any (a :: as)) (.any as)
  | first {a as} : Calls p (.inOrder ⟨a, as⟩) (.action a)
  | next {a b bs} : Calls p (.inOrder ⟨a, b :: bs⟩) (.inOrder ⟨b, bs⟩)
  | rule {id r} : p.rule? id = some r → Calls p (.rule id) (.inOrder r.actions)

/-- What a task carries out directly it does by its text, unless it asks for presence. -/
theorem Calls.of_enters {c c' : Context σ} {t t' : Task} (h : c.Enters t c' t') (hasks : ∀ id, t ≠ .presence id) :
    c.plant.Calls t t' := by
  cases h with
  | rule hr _ => exact .rule hr
  | detection => exact absurd rfl (hasks _)
  | _ => constructor

/-- The tasks that a task may carry out, at any depth, and through rules. -/
abbrev Reaches (p : Plant σ) : Task → Task → Prop := Relation.ReflTransGen p.Calls

/-- The text of a plant does not say what a presence detection carries out. -/
theorem reaches_presence {p : Plant σ} {id : String} {t : Task} (h : p.Reaches (.presence id) t) : t = .presence id := by
  rcases h.cases_head with rfl | ⟨_, hcalls, -⟩
  · rfl
  · cases hcalls

/-- Some tasks carry out, in a plant, only each other. -/
structure Closed (p : Plant σ) (may : Task → Prop) : Prop where
  calls : ∀ {t u}, may t → p.Calls t u → may u
  detection : ∀ {id d as}, may (.presence id) → p.device? id = some d → d.detection = some as → may (.inOrder as)

theorem Closed.univ (p : Plant σ) : p.Closed fun _ => True := ⟨fun _ _ => trivial, fun _ _ _ => trivial⟩

theorem Closed.enters {may : Task → Prop} {c c' : Context σ} {t t' : Task} (h : c.plant.Closed may) (ht : may t)
    (he : c.Enters t c' t') : may t' := by
  by_cases hasks : ∃ id, t = .presence id
  · obtain ⟨id, rfl⟩ := hasks
    cases he with
    | detection hd has _ => exact h.detection ht hd has
  · exact h.calls ht (.of_enters he (not_exists.mp hasks))

end Plant
end
end PowerRails
