import Mathlib.Data.List.Forall2
import PowerRails.Proofs.Combinators
import PowerRails.Proofs.Isolation

/-! # Rewriting a plant

A plant may be rewritten: in any of its procedures, parts of actions may be replaced by equal ones. Nothing tells the
two plants apart. Whatever is carried out in one of them is carried out in the other, where a rule or a presence
detection that is called has a text of its own; it is enough that the two texts are equal in the plant that was
rewritten, because calls nest. The texts of actions that faults carry are never those of parts that may be replaced. -/

namespace PowerRails

section
variable {σ : Type}

/-- A configuration with its actions rewritten. -/
structure Configuration.Rewritten (p : Plant σ) (k l : Configuration) : Prop where
  volts : l.volts = k.volts
  actions : p.Rewrites k.actions l.actions

/-- A rail with its procedures rewritten. -/
structure Rail.Rewritten (p : Plant σ) (r s : Rail) : Prop where
  id : s.id = r.id
  configuration : Option.Rel (Configuration.Rewritten p) r.configuration s.configuration
  monitoring : Option.Rel p.Rewrites r.monitoring s.monitoring

/-- A device with its procedures rewritten, and those of its rails. -/
structure Device.Rewritten (p : Plant σ) (d e : Device σ) : Prop where
  id : e.id = d.id
  isRegulator : e.isRegulator = d.isRegulator
  inventoryPath : e.inventoryPath = d.inventoryPath
  bus : e.bus = d.bus
  detection : Option.Rel p.Rewrites d.detection e.detection
  configuration : Option.Rel (Configuration.Rewritten p) d.configuration e.configuration
  monitoring : Option.Rel p.Rewrites d.monitoring e.monitoring
  rails : List.Forall₂ (Rail.Rewritten p) d.rails e.rails

/-- A chassis with its devices rewritten, in the same order. -/
structure Chassis.Rewritten (p : Plant σ) (c e : Chassis σ) : Prop where
  id : e.id = c.id
  inventoryPath : e.inventoryPath = c.inventoryPath
  devices : List.Forall₂ (Device.Rewritten p) c.devices e.devices

/-- A rule with its actions rewritten. -/
structure Rule.Rewritten (p : Plant σ) (r s : Rule) : Prop where
  id : s.id = r.id
  actions : p.Rewrites r.actions s.actions

/-- The second plant is the first one, with parts of actions replaced in some of its procedures by equal ones. -/
structure Plant.Rewritten (p q : Plant σ) : Prop where
  chassis : List.Forall₂ (Chassis.Rewritten p) p.chassis q.chassis
  rules : List.Forall₂ (Rule.Rewritten p) p.rules q.rules

/-! ### Looking up -/

/-- What is found first in two lists that are alike is alike. -/
theorem rel_find? {α β : Type} {R : α → β → Prop} {f : α → Bool} {g : β → Bool} (hfg : ∀ a b, R a b → f a = g b)
    {as : List α} {bs : List β} (h : List.Forall₂ R as bs) : Option.Rel R (as.find? f) (bs.find? g) := by
  induction h with
  | nil => exact .none
  | @cons a b _ _ hab _ ih =>
    rw [List.find?_cons, List.find?_cons, ← hfg a b hab]
    cases f a with
    | true => exact .some hab
    | false => exact ih

theorem flatMap_eq_of_rel {α β γ : Type} {R : α → β → Prop} {f : α → List γ} {g : β → List γ} {as : List α}
    {bs : List β} (h : List.Forall₂ R as bs) (hfg : ∀ a b, R a b → f a = g b) : as.flatMap f = bs.flatMap g := by
  induction h with
  | nil => rfl
  | cons hab _ ih => rw [List.flatMap_cons, List.flatMap_cons, hfg _ _ hab, ih]

theorem none_or_some_of_rel {α β : Type} {R : α → β → Prop} {o : Option α} {u : Option β} (h : Option.Rel R o u) :
    (o = none ∧ u = none) ∨ ∃ a b, o = some a ∧ u = some b ∧ R a b := by
  cases h with
  | none => exact Or.inl ⟨rfl, rfl⟩
  | some hab => exact Or.inr ⟨_, _, rfl, rfl, hab⟩

namespace Plant.Rewritten
variable {p q : Plant σ}

theorem places (h : p.Rewritten q) :
    List.Forall₂ (fun x y => x.1.Rewritten p y.1 ∧ x.2.Rewritten p y.2) p.places q.places :=
  List.rel_flatMap h.chassis fun _ _ hc => List.rel_map (fun _ _ hd => ⟨hc, hd⟩) hc.devices

theorem devices (h : p.Rewritten q) : List.Forall₂ (Device.Rewritten p) p.devices q.devices :=
  List.rel_flatMap h.chassis fun _ _ hc => hc.devices

theorem device? (h : p.Rewritten q) (id : String) : Option.Rel (Device.Rewritten p) (p.device? id) (q.device? id) :=
  rel_find? (fun _ _ hd => by rw [hd.id]) (List.forall₂_reverse_iff.mpr h.devices)

theorem rule? (h : p.Rewritten q) (id : String) : Option.Rel (Rule.Rewritten p) (p.rule? id) (q.rule? id) :=
  rel_find? (fun _ _ hr => by rw [hr.id]) (List.forall₂_reverse_iff.mpr h.rules)

/-- A device is found in both plants, or refused in both. -/
theorem device (h : p.Rewritten q) (id : String) :
    (∃ fault, p.device id = .error fault ∧ q.device id = .error fault) ∨
      ∃ d e, p.device id = .ok d ∧ q.device id = .ok e ∧ d.Rewritten p e := by
  unfold Plant.device
  rcases none_or_some_of_rel (h.device? id) with ⟨hp, hq⟩ | ⟨d, e, hp, hq, hd⟩ <;> rw [hp, hq]
  · exact Or.inl ⟨_, rfl, rfl⟩
  · exact Or.inr ⟨d, e, rfl, rfl, hd⟩

theorem chassisOf (h : p.Rewritten q) (id : String) :
    (∃ fault, p.chassisOf id = .error fault ∧ q.chassisOf id = .error fault) ∨
      ∃ c e, p.chassisOf id = .ok c ∧ q.chassisOf id = .ok e ∧ c.Rewritten p e := by
  have hfound := rel_find? (f := (·.2.id == id)) (g := (·.2.id == id)) (fun _ _ hd => by rw [hd.2.id])
    (List.forall₂_reverse_iff.mpr h.places)
  unfold Plant.chassisOf Plant.chassisOf?
  rcases none_or_some_of_rel hfound with ⟨hp, hq⟩ | ⟨d, e, hp, hq, hd⟩ <;> rw [hp, hq]
  · exact Or.inl ⟨_, rfl, rfl⟩
  · exact Or.inr ⟨d.1, e.1, rfl, rfl, hd.1⟩

end Plant.Rewritten

theorem Device.Rewritten.requireRail {p : Plant σ} {d e : Device σ} (h : d.Rewritten p e) (rail : String) :
    Context.requireRail e rail = Context.requireRail d rail := by
  have hfound := rel_find? (f := (·.id == rail)) (g := (·.id == rail)) (fun _ _ hr => by rw [hr.id]) h.rails
  unfold Context.requireRail Device.rail?
  rcases none_or_some_of_rel hfound with ⟨hd, he⟩ | ⟨_, _, hd, he, -⟩ <;> rw [hd, he]
  rw [h.id]

namespace Context

/-- The same context in another plant. -/
def onto (c : Context σ) (q : Plant σ) : Context σ := { c with plant := q }

variable {p q : Plant σ} {c : Context σ}

theorem requireScope_onto (h : c.plant.Rewritten q) (device : String) (rail : Option String) :
    (c.onto q).requireScope device rail = c.requireScope device rail := by
  unfold requireScope
  rcases h.device device with ⟨fault, hp, hq⟩ | ⟨d, e, hp, hq, hd⟩
  · rw [show (c.onto q).plant = q from rfl, hp, hq]
  · rw [show (c.onto q).plant = q from rfl, hp, hq]
    cases rail with
    | none => rfl
    | some rail => exact hd.requireRail rail

theorem requireActiveRail_onto (h : c.plant.Rewritten q) (rail : String) :
    (c.onto q).requireActiveRail rail = c.requireActiveRail rail := by
  unfold requireActiveRail Context.device
  rcases h.device c.scope.device with ⟨fault, hp, hq⟩ | ⟨d, e, hp, hq, hd⟩
  · rw [show (c.onto q).plant = q from rfl, show (c.onto q).scope = c.scope from rfl, hp, hq]
  · rw [show (c.onto q).plant = q from rfl, show (c.onto q).scope = c.scope from rfl, hp, hq]
    exact hd.requireRail rail

/-- A device has the same bus in both plants. -/
theorem access_onto (h : c.plant.Rewritten q) {α : Type} (register : UInt8) (request : Request)
    (step : Bus σ → Transfer σ α) : (c.onto q).access register request step = c.access register request step := by
  funext s
  rcases h.device c.scope.device with ⟨fault, hp, hq⟩ | ⟨d, e, hp, hq, hd⟩
  · have hc : c.device = .error fault := hp
    have honto : (c.onto q).device = .error fault := hq
    rw [access_of_error hc, access_of_error honto]
  · have hc : c.device = .ok d := hp
    have honto : (c.onto q).device = .ok e := hq
    rw [access_of_device hc, access_of_device honto, hd.id, hd.bus]
    rfl

theorem single?_onto (h : c.plant.Rewritten q) (a : Action) : (c.onto q).single? a = c.single? a := by
  have read : ∀ register count, (c.onto q).readBlock register count = c.readBlock register count :=
    fun _ _ => access_onto h _ _ _
  have write : ∀ register data, (c.onto q).writeBlock register data = c.writeBlock register data :=
    fun _ _ => access_onto h _ _ _
  cases a with
  | compareRegister r =>
    refine congrArg some ?_
    unfold compareRegister
    rw [read]
  | writeRegister w =>
    refine congrArg some ?_
    unfold writeRegister bytesToWrite
    simp only [read, write]
  | capture b =>
    refine congrArg some ?_
    unfold captureBlock
    rw [read]
    rfl
  | readSensor r =>
    refine congrArg some ?_
    unfold readSensor
    rw [read]
    rfl
  | logFinding l =>
    refine congrArg some ?_
    unfold logFinding bytesToLog
    simp only [read]
    rfl
  | setVout v =>
    refine congrArg some ?_
    have exponent : (c.onto q).voutExponent v = c.voutExponent v := by
      unfold voutExponent readByte
      rw [access_onto h]
    unfold setVout
    simp only [exponent, read, write]
    rfl
  | _ => rfl

end Context

/-! ### Whole tasks -/

/-- A context in a plant that was rewritten, and the same context in the plant as it was. -/
def rewriting (p q : Plant σ) : Likeness σ σ where
  may _ := True
  asks d c := c.plant = p ∧ d = c.onto q
  contexts d c := c.plant = p ∧ d = c.onto q
  hardware := Eq
  states := Eq

theorem rewriting_same_iff {p q : Plant σ} {α : Type} {x y : Op σ α} : (rewriting p q).Same x y ↔ x = y := by
  constructor
  · intro h
    funext s
    obtain ⟨hanswer, hleft⟩ := h (rfl : s = s)
    exact Prod.ext hanswer hleft
  · rintro rfl s _ rfl
    exact ⟨rfl, rfl⟩

theorem rewriting_placeLaw {p q : Plant σ} (h : p.Rewritten q) : (rewriting p q).PlaceLaw where
  requireScope := by
    rintro _ c dv r as ⟨rfl, rfl⟩ -
    exact c.requireScope_onto h dv r
  requireActiveRail := by
    rintro _ c r ⟨rfl, rfl⟩
    exact c.requireActiveRail_onto h r
  inDevice := by
    rintro _ c dv r as ⟨rfl, rfl⟩ -
    exact ⟨rfl, rfl⟩
  inRail := by
    rintro _ c r ⟨rfl, rfl⟩
    exact ⟨rfl, rfl⟩
  addFinding := by
    rintro _ c severity code captured message ⟨rfl, rfl⟩
    exact rewriting_same_iff.mpr rfl

namespace Context

variable {q : Plant σ}

theorem callRule_onto {c : Context σ} (h : c.plant.Rewritten q) {id : String}
    (ih : ∀ {r}, q.rule? id = some r → c.requireCallable id = .ok () →
      ((c.inRule id).onto q).inOrder r.actions = (c.inRule id).inOrder r.actions) :
    (c.onto q).callRule id = c.callRule id := by
  rcases none_or_some_of_rel (h.rule? id) with ⟨hp, hq⟩ | ⟨r, s, hp, hq, hrs⟩
  · rw [callRule_of_none hp, callRule_of_none (c := c.onto q) hq]
  · rw [callRule_of_some hp, callRule_of_some (c := c.onto q) hq,
      show (c.onto q).requireCallable id = c.requireCallable id from rfl]
    cases hcall : c.requireCallable id with
    | error fault => rfl
    | ok _ =>
      have hbody : ((c.onto q).inRule id).inOrder s.actions = (c.inRule id).inOrder r.actions :=
        (ih hq hcall).trans (hrs.actions.equal (c.inRule id) rfl).symm
      rw [hbody]

theorem resolvePresence_onto {c : Context σ} (h : c.plant.Rewritten q) {id : String}
    (ih : ∀ {d as}, q.device? id = some d → d.detection = some as → id ∉ c.detecting →
      ((c.detached id).onto q).inOrder as = (c.detached id).inOrder as) :
    (c.onto q).resolvePresence id = c.resolvePresence id := by
  funext s
  cases hs : s.presence.get? id c.cycle with
  | some present => rw [resolvePresence_of_cached hs, resolvePresence_of_cached (c := c.onto q) hs]
  | none =>
    rcases none_or_some_of_rel (h.device? id) with ⟨hp, hq⟩ | ⟨d, e, hp, hq, hde⟩
    · rw [resolvePresence_of_unknown hs hp, resolvePresence_of_unknown (c := c.onto q) hs hq]
    · rw [resolvePresence_of_device hs hp, resolvePresence_of_device (c := c.onto q) hs hq,
        show (c.onto q).detecting = c.detecting from rfl]
      split
      · rfl
      · rename_i hnew
        rcases none_or_some_of_rel hde.detection with ⟨hd, he⟩ | ⟨as, bs, hd, he, has⟩ <;> rw [hd, he]
        · rfl
        · have hbody : ((c.onto q).detached id).inOrder bs = (c.detached id).inOrder as :=
            (ih hq he hnew).trans (has.equal (c.detached id) rfl).symm
          rw [Option.elim_some, Option.elim_some, hbody]
          rfl

/-- Nothing that is carried out tells the two plants apart. The induction is along what is carried out in the plant
that was rewritten, where a rule or a detection that is called has its new text. -/
theorem carryOut_onto {p : Plant σ} (h : p.Rewritten q) (d : Context σ) (t : Task) :
    ∀ c : Context σ, c.plant = p → d = c.onto q → d.carryOut t = c.carryOut t := by
  revert d t
  refine carryOut_induct fun d t ih c hc hd => ?_
  subst hc hd
  by_cases hasks : ∃ id, t = .presence id
  · obtain ⟨id, rfl⟩ := hasks
    exact resolvePresence_onto h fun hq has hnew => ih _ _ (.detection hq has hnew) (c.detached id) rfl rfl
  by_cases hcalls : ∃ id, t = .rule id
  · obtain ⟨id, rfl⟩ := hcalls
    exact callRule_onto h fun hq hcall => ih _ _ (.rule hq hcall) (c.inRule id) rfl rfl
  refine rewriting_same_iff.mp ((rewriting_placeLaw h).step ⟨rfl, rfl⟩ trivial (not_exists.mp hasks)
    (not_exists.mp hcalls) (fun {a x y} _ hx hy => ?_) fun c' t' henters d' hd' => ?_)
  · rw [c.single?_onto h, hy] at hx
    exact rewriting_same_iff.mpr (Option.some.inj hx).symm
  · exact rewriting_same_iff.mpr (ih c' t' henters d' hd'.1 hd'.2)

theorem inOrder_onto {c : Context σ} (h : c.plant.Rewritten q) {as bs : Procedure} (has : c.plant.Rewrites as bs) :
    (c.onto q).inOrder bs = c.inOrder as :=
  (carryOut_onto h (c.onto q) (.inOrder bs) c rfl rfl).trans (has.equal c rfl).symm

/-! ### Visits -/

theorem applyConfiguration_onto {c : Context σ} (h : c.plant.Rewritten q) {k l : Configuration}
    (hk : k.Rewritten c.plant l) : (c.onto q).applyConfiguration l = c.applyConfiguration k := by
  unfold applyConfiguration
  rw [hk.volts]
  exact inOrder_onto (c := c.withVolts k.volts) h hk.actions

theorem onRail_onto {c : Context σ} (h : c.plant.Rewritten q) (rail : String) {body body' : Context σ → Op σ Bool}
    (hbody : body' ((c.inRail rail).onto q) = body (c.inRail rail)) :
    (c.onto q).onRail rail body' = c.onRail rail body := by
  unfold onRail
  rw [c.requireActiveRail_onto h rail, show (c.onto q).inRail rail = (c.inRail rail).onto q from rfl, hbody]

theorem startRail_onto {c : Context σ} (h : c.plant.Rewritten q) (rail : String) :
    (c.onto q).startRail rail = c.startRail rail := by
  unfold startRail Context.device
  rw [show (c.onto q).sensorsService = c.sensorsService from rfl, show (c.onto q).scope = c.scope from rfl,
    show (c.onto q).plant = q from rfl]
  rcases h.device c.scope.device with ⟨fault, hp, hq⟩ | ⟨d, e, hp, hq, hd⟩ <;> rw [hp, hq]
  · rfl
  · have hchassis : (do (c.onto q).tellService (.railStarted rail e.inventoryPath
          (← Op.ofExcept (q.chassisOf e.id)).inventoryPath)) =
        (do c.tellService (.railStarted rail d.inventoryPath
          (← Op.ofExcept (c.plant.chassisOf d.id)).inventoryPath)) := by
      rw [hd.id, hd.inventoryPath]
      rcases h.chassisOf d.id with ⟨fault, hp, hq⟩ | ⟨f, g, hp, hq, hf⟩ <;> rw [hp, hq]
      · rfl
      · show (c.onto q).tellService (.railStarted rail d.inventoryPath g.inventoryPath) =
          c.tellService (.railStarted rail d.inventoryPath f.inventoryPath)
        rw [hf.inventoryPath]
        rfl
    exact congrArg (if c.sensorsService.isSome then · else pure ()) hchassis

theorem configureRail_onto {c : Context σ} (h : c.plant.Rewritten q) {r s : Rail} (hr : r.Rewritten c.plant s) :
    (c.onto q).configureRail s = c.configureRail r := by
  unfold configureRail
  rcases none_or_some_of_rel hr.configuration with ⟨hk, hl⟩ | ⟨k, l, hk, hl, hkl⟩ <;> rw [hk, hl]
  rw [hr.id]
  exact onRail_onto h r.id (applyConfiguration_onto (c := c.inRail r.id) h hkl)

theorem monitorRail_onto {c : Context σ} (h : c.plant.Rewritten q) {r s : Rail} (hr : r.Rewritten c.plant s) :
    (c.onto q).monitorRail s = c.monitorRail r := by
  unfold monitorRail
  rcases none_or_some_of_rel hr.monitoring with ⟨has, hbs⟩ | ⟨as, bs, has, hbs, hasbs⟩ <;> rw [has, hbs]
  have hrail : (c.onto q).onRail r.id (·.inOrder bs) = c.onRail r.id (·.inOrder as) :=
    onRail_onto h r.id (inOrder_onto (c := c.inRail r.id) h hasbs)
  dsimp only
  rw [hr.id, startRail_onto h, hrail]
  rfl

theorem eachRail_of_forall₂ {R : Rail → Rail → Prop} {act act' : Rail → Op σ Unit} {rs ss : List Rail}
    (h : List.Forall₂ R rs ss) (hact : ∀ r s, R r s → act' s = act r) : eachRail act' ss = eachRail act rs := by
  induction h with
  | nil => rfl
  | cons hr _ ih => rw [eachRail, eachRail, hact _ _ hr, ih]

theorem work_onto {c : Context σ} (h : c.plant.Rewritten q) (kind : RunKind) {d e : Device σ}
    (hd : d.Rewritten c.plant e) : (c.onto q).work kind e = c.work kind d := by
  cases kind with
  | configure =>
    show (c.onto q).configureDevice e = c.configureDevice d
    unfold configureDevice
    rw [eachRail_of_forall₂ hd.rails fun _ _ => configureRail_onto h, hd.id]
    rcases none_or_some_of_rel hd.configuration with ⟨hk, hl⟩ | ⟨k, l, hk, hl, hkl⟩ <;> rw [hk, hl]
    dsimp only
    rw [applyConfiguration_onto h hkl]
  | monitor =>
    show (c.onto q).monitorDevice e = c.monitorDevice d
    unfold monitorDevice
    rw [eachRail_of_forall₂ hd.rails fun _ _ => monitorRail_onto h, hd.id]
    rcases none_or_some_of_rel hd.monitoring with ⟨has, hbs⟩ | ⟨as, bs, has, hbs, hasbs⟩ <;> rw [has, hbs]
    dsimp only
    rw [inOrder_onto h hasbs]

theorem visit_onto {c : Context σ} (h : c.plant.Rewritten q) (kind : RunKind) {d e : Device σ}
    (hd : d.Rewritten c.plant e) (row : DeviceRow) (s : State σ) :
    (c.onto q).visit kind e row s = c.visit kind d row s := by
  have hpresence : (c.onto q).resolvePresence e.id = c.resolvePresence d.id :=
    hd.id ▸ carryOut_onto h (c.onto q) (.presence d.id) c rfl rfl
  unfold visit
  rw [hpresence, work_onto h kind hd, hd.id]

end Context

/-! ### Runs -/

namespace Controller
variable {ctl : Controller σ} {q : Plant σ}

/-- The same controller of another plant. -/
def onto (ctl : Controller σ) (q : Plant σ) : Controller σ := { ctl with plant := q }

theorem visitPlace_onto (h : ctl.plant.Rewritten q) (kind : RunKind) (cycle : Cycle) (p : Progress σ)
    {x y : Chassis σ × Device σ} (hchassis : x.1.Rewritten ctl.plant y.1) (hdevice : x.2.Rewritten ctl.plant y.2) :
    (ctl.onto q).visitPlace kind cycle p y = ctl.visitPlace kind cycle p x := by
  have hvisit : (ctl.onto q).visitOf kind cycle p y = ctl.visitOf kind cycle p x := by
    unfold visitOf
    rw [hchassis.id, hdevice.id]
    exact Context.visit_onto (c := ctl.visitContext cycle p.report.captures x.2.id) h kind hdevice _ _
  cases hf : (ctl.visitOf kind cycle p x).fault with
  | none => rw [visitPlace_of_none hf, visitPlace_of_none (hvisit ▸ hf), hvisit]
  | some fault =>
    rw [visitPlace_of_some hf, visitPlace_of_some (hvisit ▸ hf), hvisit]
    unfold afterFault faultOf
    rw [hchassis.id, hdevice.id]
    rfl

theorem visitAll_onto (h : ctl.plant.Rewritten q) (kind : RunKind) :
    (ctl.onto q).visitAll kind = ctl.visitAll kind := by
  unfold visitAll
  exact (List.rel_foldl (P := Eq) (fun p _ hp x y hxy => hp ▸ (visitPlace_onto h kind ctl.cycles p hxy.1 hxy.2).symm)
    rfl h.places).symm

theorem tellPresence_onto (h : ctl.plant.Rewritten q) (presence : PresenceCache) (cycle : Cycle) :
    (ctl.onto q).tellPresence presence cycle = ctl.tellPresence presence cycle := by
  unfold tellPresence
  refine (flatMap_eq_of_rel h.devices fun d e hd => ?_).symm
  rw [hd.id, hd.inventoryPath]
  rfl

theorem run_onto (h : ctl.plant.Rewritten q) (kind : RunKind) :
    (ctl.onto q).run kind = ((ctl.run kind).1.onto q, (ctl.run kind).2) := by
  unfold run
  dsimp only
  rw [visitAll_onto h, show (ctl.onto q).cycles = ctl.cycles from rfl, tellPresence_onto h]
  rfl

theorem closeDevices_onto (h : ctl.plant.Rewritten q) :
    (ctl.onto q).closeDevices = (ctl.closeDevices.1.onto q, ctl.closeDevices.2) := by
  have hdevice : ∀ (hardware : σ) {d e : Device σ}, d.Rewritten ctl.plant e →
      closeDevice hardware e = closeDevice hardware d := fun hardware d e hd => by
    unfold closeDevice
    rw [hd.id, hd.bus]
  let close (s : σ × List Activity) (d : Device σ) : σ × List Activity :=
    ((closeDevice s.1 d).1, s.2 ++ (closeDevice s.1 d).2)
  have hclosed : q.devices.foldl close (ctl.hardware, []) = ctl.plant.devices.foldl close (ctl.hardware, []) :=
    (List.rel_foldl (P := Eq) (fun s _ hs d e hd => by simp only [close, ← hs, hdevice s.1 hd]) rfl h.devices).symm
  exact congrArg (fun s => (({ ctl with hardware := s.1 } : Controller σ).onto q, s.2)) hclosed

theorem act_onto (h : ctl.plant.Rewritten q) (step : Step) :
    (ctl.onto q).act step = ((ctl.act step).1.onto q, (ctl.act step).2) := by
  cases step with
  | configure => exact run_onto h .configure
  | monitor => exact run_onto h .monitor
  | clearStreaks => rfl
  | closeDevices => exact closeDevices_onto h

/-- A controller of a plant that was rewritten does the same, whatever is called from outside. -/
theorem acts_onto (h : ctl.plant.Rewritten q) (steps : List Step) :
    (ctl.onto q).acts steps = ((ctl.acts steps).1.onto q, (ctl.acts steps).2) := by
  induction steps generalizing ctl with
  | nil => rfl
  | cons step steps ih =>
    have hplant : (ctl.act step).1.plant = ctl.plant := by cases step <;> rfl
    rw [acts, acts, act_onto h, ih (hplant ▸ h)]

end Controller

/-- In every plant the combinators obey the laws of Boolean algebra, whatever their parts do to the hardware and
wherever they fail: a double negation, De Morgan's laws, a conjunction within a conjunction and a disjunction within a
disjunction, and a choice by the negated condition. By these and all other equalities of actions parts may be replaced
anywhere in the plant: a controller of the rewritten plant comes to the same reports, presence and failure streaks, and
all that it does is the same, whatever is called from outside. -/
theorem Plant.combinators_boolean (p : Plant σ) :
    (∀ a, (Action.negation (.negation a)).EqualIn p a) ∧
      (∀ as, (Action.negation (.allOf as)).EqualIn p (.anyOf (as.map .negation))) ∧
      (∀ as, (Action.negation (.anyOf as)).EqualIn p (.allOf (as.map .negation))) ∧
      (∀ before as after, (Action.allOf (.between before ⟨.allOf as, []⟩ after)).EqualIn p
        (.allOf (.between before as after))) ∧
      (∀ before as after, (Action.anyOf (.between before ⟨.anyOf as, []⟩ after)).EqualIn p
        (.anyOf (.between before as after))) ∧
      (∀ a as bs, (Action.branch a as (some bs)).EqualIn p (.branch (.negation a) bs (some as))) ∧
      ∀ q, p.Rewritten q → ∀ ctl : Controller σ, ctl.plant = p → ∀ steps,
        ({ ctl with plant := q }).acts steps = ({ (ctl.acts steps).1 with plant := q }, (ctl.acts steps).2) := by
  refine ⟨Action.negation_negation_equal p, Action.negation_allOf_equal p, Action.negation_anyOf_equal p,
    Action.allOf_flatten_equal p, Action.anyOf_flatten_equal p, Action.branch_swap_equal p, ?_⟩
  rintro q h ctl rfl steps
  exact Controller.acts_onto h steps

end

/-! ### A rule put more simply -/

/-- A supply that is there if its detection says so, and is checked by a rule when it is monitored. -/
def checkedSupply (detection check : Action) : Plant RegisterFile where
  chassis :=
    [⟨"chassis", "",
      [{ id := "psu", isRegulator := true, inventoryPath := "", bus := RegisterFile.bus ⟨"i2c0", 0x40⟩,
         detection := some ⟨detection, []⟩, monitoring := some ⟨.runRule "check", []⟩ }]⟩]
  rules := [⟨"check", ⟨.inDevice "psu" none ⟨check, []⟩, []⟩⟩]

/-- A double negation in a detection is dropped, and a negation on a device is moved inwards. -/
theorem checkedSupply_simplified (a b : Action) :
    (checkedSupply (.negation (.negation a)) (.negation (.allOf ⟨a, [b]⟩))).Rewritten
      (checkedSupply a (.anyOf ⟨.negation a, [.negation b]⟩)) where
  chassis :=
    have detection := .single ⟨[], _, _, [], .whole (Action.negation_negation_equal _ a), rfl, rfl⟩
    .cons ⟨rfl, rfl, .cons ⟨rfl, rfl, rfl, rfl, .some detection, .none, .some .refl, .nil⟩ .nil⟩ .nil
  rules :=
    have check := .whole (Action.negation_allOf_equal _ ⟨a, [b]⟩)
    .cons ⟨rfl, .single ⟨[], _, _, [], @Plant.Replaces.inDevice _ _ "psu" none [] _ _ [] check, rfl, rfl⟩⟩ .nil

/-- The supply is managed alike by both plants. -/
theorem checkedSupply_managed_alike :
    let a : Action := .capture ⟨0x78, 2, by decide, by decide⟩
    let b : Action := .comparePresence "psu" false
    let p := checkedSupply (.negation (.negation a)) (.negation (.allOf ⟨a, [b]⟩))
    let q := checkedSupply a (.anyOf ⟨.negation a, [.negation b]⟩)
    let ctl : Controller RegisterFile := { plant := p, hardware := {} }
    let steps : List Step := [.monitor, .closeDevices, .monitor, .configure]
    p.Rewritten q ∧ ctl.plant = p ∧
      ({ ctl with plant := q }).acts steps = ({ (ctl.acts steps).1 with plant := q }, (ctl.acts steps).2) := by
  intro a b p q ctl steps
  have h : p.Rewritten q := checkedSupply_simplified a b
  obtain ⟨-, -, -, -, -, -, hrewritten⟩ := Plant.combinators_boolean p
  exact ⟨h, rfl, hrewritten q h ctl rfl steps⟩

end PowerRails
