import Mathlib.Order.WellFoundedSet
import PowerRails.Proofs.Asked
import PowerRails.Proofs.Call
import PowerRails.Proofs.Idempotence

/-! # Asking in any order

Presence detections ask for the presence of other devices, and who asks first in a cycle finds it out for all others.
Where detections only look at the hardware, and none depends on itself, it makes no difference who asks first: each
device is found to be what it is found to be if nobody has asked for anything before. -/

namespace PowerRails

section
variable {σ : Type}

namespace Plant

/-- The presence detection of a device may ask for the presence of another one. -/
def DependsOn (p : Plant σ) (id other : String) : Prop :=
  ∃ d as, p.device? id = some d ∧ d.detection = some as ∧ p.Reaches (.inOrder as) (.presence other)

/-- The tasks that presence detections may come to, going by the text of a plant. -/
def Detects (p : Plant σ) (t : Task) : Prop := ∃ d ∈ p.devices, ∃ as ∈ d.detection, p.Reaches (.inOrder as) t

/-- All devices are on simulated buses, and their presence detections write nothing, compare with literals only, and
do not depend on themselves. -/
structure Observing (p : Plant Bench) : Prop where
  buses : ∀ d ∈ p.devices, ∃ name endpoint, d.bus = Bench.bus name endpoint
  register : ∀ w, ¬p.Detects (.action (.writeRegister w))
  vout : ∀ v, ¬p.Detects (.action (.setVout v))
  literal : ∀ r, p.Detects (.action (.compareRegister r)) → ∃ value, r.operand = .literal value
  acyclic : ∀ id, ¬Relation.TransGen p.DependsOn id id

/-- A device depends on none of those whose presence is being found out, and is none of them. -/
def Apart (p : Plant σ) (id : String) (detecting : List String) : Prop :=
  ∀ other ∈ detecting, ¬Relation.ReflTransGen p.DependsOn id other

variable {p : Plant σ} {id other : String} {detecting : List String}

theorem Apart.not_mem (h : p.Apart id detecting) : id ∉ detecting := fun hmem => h id hmem .refl

theorem Apart.detached (hacyclic : ∀ id, ¬Relation.TransGen p.DependsOn id id) (h : p.Apart id detecting)
    (hdepends : p.DependsOn id other) : p.Apart other (detecting ++ [id]) := by
  intro x hx hother
  rcases List.mem_append.mp hx with hx | hx
  · exact h x hx (.head hdepends hother)
  · obtain rfl := List.mem_singleton.mp hx
    exact hacyclic x (.head' hdepends hother)

/-- Detections that do not depend on themselves depend on each other only so far. -/
theorem wellFounded_dependsOn (hacyclic : ∀ id, ¬Relation.TransGen p.DependsOn id id) :
    WellFounded (flip p.DependsOn) := by
  have hdevice : ∀ {id other}, p.DependsOn id other → id ∈ p.devices.map (·.id) := by
    rintro id other ⟨d, -, hd, -⟩
    obtain ⟨hmem, rfl⟩ := device?_eq_some hd
    exact List.mem_map_of_mem hmem
  have : IsStrictOrder String (flip (Relation.TransGen p.DependsOn)) :=
    { irrefl := hacyclic, trans := fun _ _ _ h h' => h'.trans h }
  have hdevices : {id | id ∈ p.devices.map (·.id)}.WellFoundedOn (flip (Relation.TransGen p.DependsOn)) :=
    (List.finite_toSet _).wellFoundedOn
  have outside : ∀ id, id ∉ p.devices.map (·.id) → Acc (flip p.DependsOn) id := fun id hid =>
    Acc.intro id fun other hother => absurd (hdevice hother) hid
  refine ⟨fun id => ?_⟩
  by_cases hid : id ∈ p.devices.map (·.id)
  · refine hdevices.induction hid fun id _ ih => Acc.intro id fun other hother => ?_
    by_cases hmem : other ∈ p.devices.map (·.id)
    · exact ih other hmem (.single hother)
    · exact outside other hmem
  · exact outside id hid

/-- Presence, or what detections come to. -/
def Looks (p : Plant σ) (t : Task) : Prop := (∃ id, t = .presence id) ∨ p.Detects t

theorem Looks.calls {t u : Task} (h : p.Looks t) (hcalls : p.Calls t u) : p.Looks u := by
  rcases h with ⟨id, rfl⟩ | ⟨d, hd, as, has, hreach⟩
  · cases hcalls
  · exact Or.inr ⟨d, hd, as, has, hreach.tail hcalls⟩

theorem looks_detection {d : Device σ} {as : Procedure} (hd : p.device? id = some d) (has : d.detection = some as) :
    p.Looks (.inOrder as) := Or.inr ⟨d, (device?_eq_some hd).1, as, has, .refl⟩

end Plant

/-- The fault of a device whose presence is asked for while it is being found out. -/
def Fault.dependsOnItself (id : String) : Fault :=
  .invalidAction "presence_detection" s!"presence of device \"{id}\" depends on itself"

namespace Context

/-- Two contexts of one plant in one cycle, under the same limits and with the same buses taken. -/
structure Peers (c d : Context σ) : Prop where
  plant : d.plant = c.plant
  cycle : d.cycle = c.cycle
  maxRuleDepth : d.maxRuleDepth = c.maxRuleDepth
  held : d.held = c.held

theorem Peers.refl (c : Context σ) : c.Peers c := ⟨rfl, rfl, rfl, rfl⟩

theorem Peers.trans {c d e : Context σ} (h : c.Peers d) (h' : d.Peers e) : c.Peers e :=
  ⟨h'.plant.trans h.plant, h'.cycle.trans h.cycle, h'.maxRuleDepth.trans h.maxRuleDepth, h'.held.trans h.held⟩

theorem Enters.peers {c c' : Context σ} {t t' : Task} (h : c.Enters t c' t') : c.Peers c' := by
  cases h <;> exact ⟨rfl, rfl, rfl, rfl⟩

theorem Enters.detecting {c c' : Context σ} {t t' : Task} (h : c.Enters t c' t') (hasks : ∀ id, t ≠ .presence id) :
    c'.detecting = c.detecting := by
  cases h with
  | detection => exact absurd rfl (hasks _)
  | _ => rfl

/-- What is found out about a device if nothing is known about any. -/
def alone (c : Context σ) (id : String) (s : State σ) : Except Fault Bool :=
  (c.resolvePresence id { s with presence := {} }).1

variable {c : Context σ} {id : String} {s : State σ}

theorem alone_of_unknown (hd : c.plant.device? id = none) : c.alone id s = .error ⟨.deviceNotFound id, []⟩ :=
  congrArg Prod.fst (resolvePresence_of_unknown rfl hd)

/-- A detection that is carried out is understood, and what it means is kept. -/
theorem resolvePresence_of_outcome {d : Device σ} {as : Procedure} (hp : s.presence.get? id c.cycle = none)
    (hd : c.plant.device? id = some d) (hnew : id ∉ c.detecting) (has : d.detection = some as)
    {outcome : Except Fault Bool} {t : State σ}
    (ht : (c.detached id).inOrder as (Op.note (.detection id) s).2 = (outcome, t)) :
    ∃ u : State σ, u.hardware = t.hardware ∧ u.presence = t.presence.insert id (meaning outcome) c.cycle ∧
      c.resolvePresence id s = (.ok (meaning outcome), u) := by
  have hbody : Op.attempt ((c.detached id).inOrder as) (Op.note (.detection id) s).2 = (.ok outcome, t) := by
    rw [Op.attempt_apply, ht]
  have hnote : Op.note (.detection id) s = (.ok (), (Op.note (.detection id) s).2) := rfl
  rw [resolvePresence_of_detection hp hd hnew has, Op.bind_of_ok hnote, Op.bind_of_ok hbody]
  cases outcome with
  | ok present => exact ⟨{ t with presence := t.presence.insert id present c.cycle }, rfl, rfl, rfl⟩
  | error fault => exact ⟨(c.keepPresence id false (detectionVerdict id (.error fault) t).2).2, rfl, rfl, rfl⟩

/-- What is found out about a device alone is whether it is there. -/
theorem alone_of_device {d : Device σ} (hd : c.plant.device? id = some d) (hnew : id ∉ c.detecting) (s : State σ) :
    ∃ present, c.alone id s = .ok present := by
  unfold alone
  cases has : d.detection with
  | none =>
    rw [resolvePresence_of_device rfl hd, if_neg hnew, has]
    exact ⟨true, rfl⟩
  | some as =>
    obtain ⟨u, -, -, hresolved⟩ := resolvePresence_of_outcome (s := { s with presence := {} }) rfl hd hnew has rfl
    rw [hresolved]
    exact ⟨_, rfl⟩

theorem alone_ne_dependsOnItself (hnew : id ∉ c.detecting) (s : State σ) :
    c.alone id s ≠ .error (.dependsOnItself id) := by
  cases hd : c.plant.device? id with
  | none =>
    rw [alone_of_unknown hd]
    nofun
  | some d =>
    obtain ⟨present, halone⟩ := alone_of_device hd hnew s
    rw [halone]
    nofun

end Context

/-! ### Looking -/

/-- Registers and injected failures are those of a state, and what is known in the cycle about a device is what is
found out about it there if nothing is known about any. -/
structure State.Faithful (c : Context Bench) (s t : State Bench) : Prop where
  failure : ∀ name register, t.hardware.failure? name register = s.hardware.failure? name register
  held : ∀ name register, t.hardware.held name register = s.hardware.held name register
  known : ∀ {id present}, t.presence.get? id c.cycle = some present → c.alone id s = .ok present

/-- Whoever asks for a device that depends on no detection under way gets to know what is found out about it alone. -/
def Context.Finds (c : Context Bench) (s : State Bench) (id : String) : Prop :=
  ∀ d t, c.Peers d → c.plant.Apart id d.detecting → s.Faithful c t →
    (d.resolvePresence id t).1 = c.alone id s ∧ s.Faithful c (d.resolvePresence id t).2

/-- Devices are asked for in turn in one cycle, where no detection is under way. In between nothing happens to presence
results, registers and injected failures. -/
inductive Context.AskedInTurn (c : Context Bench) (s : State Bench) : List (Call Bench) → State Bench → Prop
  | nil {t} : s.Keeps t → AskedInTurn c s [] t
  | ask {asks t d u} id : AskedInTurn c s asks t → c.Peers d → d.detecting = [] →
      (d.resolvePresence id t).2.Keeps u → AskedInTurn c s (asks ++ [⟨d, .presence id, t⟩]) u

section
variable {c : Context Bench} {s t u : State Bench}

theorem State.Faithful.keeps (h : s.Faithful c t) (h' : t.Keeps u) : s.Faithful c u where
  failure name register := (h'.failure name register).trans (h.failure name register)
  held name register := (h'.held name register).trans (h.held name register)
  known hknown := h.known (h'.presence ▸ hknown)

theorem State.Faithful.begin (hnone : ∀ id, s.presence.get? id c.cycle = none) (h : s.Keeps t) : s.Faithful c t :=
  State.Faithful.keeps ⟨fun _ _ => rfl, fun _ _ => rfl, fun hknown => nomatch (hnone _).symm.trans hknown⟩ h

theorem State.Faithful.insert {id : String} {present : Bool} (h : s.Faithful c t)
    (hpresent : c.alone id s = .ok present) (hhardware : u.hardware = t.hardware)
    (hpresence : u.presence = t.presence.insert id present c.cycle) : s.Faithful c u where
  failure name register := by rw [hhardware, h.failure]
  held name register := by rw [hhardware, h.held]
  known {other known} hknown := by
    rw [hpresence, PresenceCache.get?_insert, if_pos rfl] at hknown
    split at hknown
    · rename_i hother
      rw [hother, hpresent, Option.some.inj hknown]
    · exact h.known hknown

/-- Two contexts in which the same is looked at, while the presence of some devices is being found out in each. What
is asked for is answered alike in both as a premise: it belongs to devices that come earlier in the induction. -/
def looking (c : Context Bench) (s : State Bench) (under under' : List String) : Likeness Bench Bench where
  may t := c.plant.Looks t ∧ ∀ id, c.plant.Reaches t (.presence id) →
    c.Finds s id ∧ c.plant.Apart id under ∧ c.plant.Apart id under'
  asks _ _ := True
  contexts d e := (c.Peers d ∧ d.detecting = under) ∧ (c.Peers e ∧ e.detecting = under') ∧
    e.scope = d.scope ∧ e.ruleChain = d.ruleChain
  hardware _ _ := True
  states t u := s.Faithful c t ∧ s.Faithful c u

variable {under under' : List String}

/-- Contexts that are entered from such contexts, where nothing else is found out. -/
theorem looking_enters {d e d' e' : Context Bench} (h : (looking c s under under').contexts d e)
    (hd : d.Peers d' ∧ d'.detecting = d.detecting) (he : e.Peers e' ∧ e'.detecting = e.detecting)
    (hscope : e'.scope = d'.scope) (hchain : e'.ruleChain = d'.ruleChain) :
    (looking c s under under').contexts d' e' :=
  ⟨⟨h.1.1.trans hd.1, hd.2.trans h.1.2⟩, ⟨h.2.1.1.trans he.1, he.2.trans h.2.1.2⟩, hscope, hchain⟩

theorem looking_entryLaw (c : Context Bench) (s : State Bench) (under under' : List String) :
    (looking c s under under').EntryLaw := by
  refine .of_same ?same ?inRule ?inDevice ?inRail ?addFinding
  case same =>
    rintro d e ⟨⟨hd, -⟩, ⟨he, -⟩, hscope, hchain⟩
    exact ⟨he.plant.trans hd.plant.symm, he.maxRuleDepth.trans hd.maxRuleDepth.symm, hscope, hchain⟩
  case inRule =>
    exact fun id h => looking_enters h ⟨⟨rfl, rfl, rfl, rfl⟩, rfl⟩ ⟨⟨rfl, rfl, rfl, rfl⟩, rfl⟩ h.2.2.1
      (congrArg (· ++ [id]) h.2.2.2)
  case inDevice =>
    exact fun h _ => looking_enters h ⟨⟨rfl, rfl, rfl, rfl⟩, rfl⟩ ⟨⟨rfl, rfl, rfl, rfl⟩, rfl⟩ rfl h.2.2.2
  case inRail =>
    exact fun r h => looking_enters h ⟨⟨rfl, rfl, rfl, rfl⟩, rfl⟩ ⟨⟨rfl, rfl, rfl, rfl⟩, rfl⟩
      (congrArg (fun scope => Scope.mk scope.device (some r)) h.2.2.1) h.2.2.2
  case addFinding =>
    exact fun _ _ _ _ _ _ _ hst => ⟨rfl, hst.1.keeps (.of_eq rfl rfl), hst.2.keeps (.of_eq rfl rfl)⟩

/-- What comes to an answer by the registers that it reads, and patches none, does the same in both contexts. -/
theorem looking_of_changes {x y : Op Bench Bool} (answer : (String → UInt8 → Option BusFault) →
      (String → UInt8 → Option Bytes) → Except Fault Bool) (name : String) (register : UInt8)
    (hx : ∀ t, x.Changes t (answer t.hardware.failure? t.hardware.held) name register none)
    (hy : ∀ t, y.Changes t (answer t.hardware.failure? t.hardware.held) name register none) :
    (looking c s under under').Same x y := by
  rintro t u ⟨ht, hu⟩
  obtain ⟨t', hxt, ht'⟩ := hx t
  obtain ⟨u', hyu, hu'⟩ := hy u
  rw [funext₂ ht.failure, funext₂ ht.held] at hxt
  rw [funext₂ hu.failure, funext₂ hu.held] at hyu
  rw [hxt, hyu]
  exact ⟨rfl, ht.keeps ht'.unpatched, hu.keeps hu'.unpatched⟩

theorem looking_single (hp : c.plant.Observing) {d e : Context Bench} (h : (looking c s under under').contexts d e)
    {a : Action} (ha : c.plant.Looks (.action a)) {x y : Op Bench Bool} (hx : d.single? a = some x)
    (hy : e.single? a = some y) : (looking c s under under').Same x y := by
  have hdetects : c.plant.Detects (.action a) := ha.resolve_left fun ⟨_, heq⟩ => nomatch heq
  obtain ⟨⟨hd, -⟩, ⟨he, -⟩, hscope, -⟩ := h
  obtain ⟨name, refusal, hlines⟩ := (d.onBench_of_buses (hd.plant ▸ hp.buses)).exists_lines
  have hline := hlines d rfl rfl rfl
  have hline' := hlines e (he.plant.trans hd.plant.symm) hscope (he.held.trans hd.held.symm)
  cases a with
  | compareRegister r =>
    cases hx
    cases hy
    obtain ⟨value, hr⟩ := hp.literal r hdetects
    exact looking_of_changes (fun failure held =>
      (refusal (failure name r.register) r.register r.format.byteLength).elim
        (.ok (r.comparison.holds (r.format.decode
          (RegisterFile.sized r.format.byteLength ((held name r.register).getD [])) r.mask) value)) .error)
      name r.register (hline.compareRegister hr) (hline'.compareRegister hr)
  | writeRegister w => exact absurd hdetects (hp.register w)
  | capture b =>
    cases hx
    cases hy
    exact looking_of_changes (fun failure _ =>
      (refusal (failure name b.register) b.register b.count).elim (.ok true) .error)
      name b.register (hline.capture b) (hline'.capture b)
  | readSensor r =>
    cases hx
    cases hy
    exact looking_of_changes (fun failure _ =>
      (refusal (failure name r.register) r.register r.format.byteLength).elim (.ok true) .error)
      name r.register (hline.readSensor r) (hline'.readSensor r)
  | logFinding l =>
    cases hx
    cases hy
    cases hb : l.capture with
    | none =>
      unfold Context.logFinding Context.bytesToLog
      rw [hb, pure_bind, pure_bind]
      exact fun t u htu => ⟨rfl, htu.1.keeps (.of_eq rfl rfl), htu.2.keeps (.of_eq rfl rfl)⟩
    | some b =>
      exact looking_of_changes (fun failure _ =>
        (refusal (failure name b.register) b.register b.count).elim (.ok true) .error)
        name b.register (hline.logFinding hb) (hline'.logFinding hb)
  | setVout v => exact absurd hdetects (hp.vout v)
  | _ => cases hx

/-- All that detections come to does the same in both contexts. -/
theorem looking_carryOut (hp : c.plant.Observing) {d e : Context Bench} (h : (looking c s under under').contexts d e)
    {task : Task} (htask : (looking c s under under').may task) :
    (looking c s under under').Same (d.carryOut task) (e.carryOut task) := by
  refine (looking_entryLaw c s under under').carryOut (fun {d e t u} h ht hcalls => ?_)
    (fun h ha hx hy => looking_single hp h ha.1 hx hy) (fun {d e id} h hid t u htu => ?_) d task e h htask
  · have hcalls' : c.plant.Calls t u := h.1.1.plant ▸ hcalls
    exact ⟨ht.1.calls hcalls', fun id hreach => ht.2 id (.head hcalls' hreach)⟩
  · obtain ⟨⟨hd, hunder⟩, ⟨he, hunder'⟩, -⟩ := h
    obtain ⟨hfinds, hapart, hapart'⟩ := hid.2 id .refl
    obtain ⟨hanswer, hleft⟩ := hfinds d t hd (hunder ▸ hapart) htu.1
    obtain ⟨hanswer', hleft'⟩ := hfinds e u he (hunder' ▸ hapart') htu.2
    exact ⟨hanswer.trans hanswer'.symm, hleft, hleft'⟩

/-! ### Finding out presence -/

namespace Context
variable {id : String}

/-- A detection that is carried out among others does what it does alone, if all that it asks for is answered as it is
alone. -/
theorem detection_alone (hp : c.plant.Observing) (hc : c.detecting = []) {device : Device Bench} {as : Procedure}
    (hdevice : c.plant.device? id = some device) (has : device.detection = some as)
    (hfinds : ∀ other, c.plant.DependsOn id other → c.Finds s other) {d : Context Bench} (hd : c.Peers d)
    (hapart : c.plant.Apart id d.detecting) (ht : s.Faithful c t) :
    ((d.detached id).inOrder as (Op.note (.detection id) t).2).1 =
        ((c.detached id).inOrder as (Op.note (.detection id) { s with presence := {} }).2).1 ∧
      s.Faithful c ((d.detached id).inOrder as (Op.note (.detection id) t).2).2 := by
  have hcontexts : (looking c s (d.detecting ++ [id]) [id]).contexts (d.detached id) (c.detached id) :=
    ⟨⟨hd.trans ⟨rfl, rfl, rfl, rfl⟩, rfl⟩, ⟨⟨rfl, rfl, rfl, rfl⟩, congrArg (· ++ [id]) hc⟩, rfl, rfl⟩
  have hmay : (looking c s (d.detecting ++ [id]) [id]).may (.inOrder as) := by
    refine ⟨Plant.looks_detection hdevice has, fun other hother => ?_⟩
    have hdepends : c.plant.DependsOn id other := ⟨device, as, hdevice, has, hother⟩
    have hempty : c.plant.Apart id [] := nofun
    exact ⟨hfinds other hdepends, hapart.detached hp.acyclic hdepends, hempty.detached hp.acyclic hdepends⟩
  have hbegin : s.Faithful c { s with presence := {} } := ⟨fun _ _ => rfl, fun _ _ => rfl, nofun⟩
  obtain ⟨hanswer, hleft, -⟩ := looking_carryOut hp hcontexts hmay (s := s)
    ⟨ht.keeps (.of_eq (t := (Op.note (.detection id) t).2) rfl rfl),
      hbegin.keeps (.of_eq (t := (Op.note (.detection id) { s with presence := {} }).2) rfl rfl)⟩
  exact ⟨hanswer, hleft⟩

/-- Presence is found out as it is alone. The induction is on what devices depend on. -/
theorem finds (hp : c.plant.Observing) (hc : c.detecting = []) (s : State Bench) (id : String) : c.Finds s id := by
  induction id using (Plant.wellFounded_dependsOn hp.acyclic).induction with
  | _ id ih =>
  intro d t hd hapart ht
  have hnew : id ∉ c.detecting := hc ▸ List.not_mem_nil
  cases hknown : t.presence.get? id d.cycle with
  | some present =>
    rw [resolvePresence_of_cached hknown]
    exact ⟨(ht.known (hd.cycle ▸ hknown)).symm, ht⟩
  | none =>
    cases hdevice : c.plant.device? id with
    | none =>
      rw [resolvePresence_of_unknown hknown (hd.plant ▸ hdevice), alone_of_unknown hdevice]
      exact ⟨rfl, ht⟩
    | some device =>
      have hdevice' : d.plant.device? id = some device := hd.plant ▸ hdevice
      cases has : device.detection with
      | none =>
        have halone : c.alone id s = .ok true := by
          rw [alone, resolvePresence_of_device rfl hdevice, if_neg hnew, has]
          rfl
        rw [resolvePresence_of_device hknown hdevice', if_neg hapart.not_mem, has, Option.elim_none, keepPresence_apply]
        exact ⟨halone.symm, ht.insert halone rfl (congrArg (t.presence.insert id true) hd.cycle)⟩
      | some as =>
        obtain ⟨hanswer, hleft⟩ := detection_alone hp hc hdevice has ih hd hapart ht
        obtain ⟨u, hhardware, hpresence, hresolved⟩ :=
          resolvePresence_of_outcome hknown hdevice' hapart.not_mem has rfl
        obtain ⟨v, -, -, hbegun⟩ :=
          resolvePresence_of_outcome (s := { s with presence := {} }) rfl hdevice hnew has rfl
        rw [hresolved, hanswer]
        have halone := congrArg Prod.fst hbegun
        refine ⟨halone.symm, hleft.insert halone hhardware ?_⟩
        rw [hpresence, hanswer, hd.cycle]

end Context

/-! ### Calls -/

/-- A call that looks only, on a state as if everybody had asked alone, and leads to no device that is being asked
for. -/
structure Call.Sound (c : Context Bench) (s : State Bench) (k : Call Bench) : Prop where
  peers : c.Peers k.context
  faithful : s.Faithful c k.state
  looks : c.plant.Looks k.task
  apart : ∀ id, c.plant.Reaches k.task (.presence id) → c.plant.Apart id k.context.detecting

namespace Call.Sound
variable {k k' : Call Bench}

theorem ask {d : Context Bench} (hd : c.Peers d) (hdetecting : d.detecting = []) (ht : s.Faithful c t) (id : String) :
    Sound c s ⟨d, .presence id, t⟩ where
  peers := hd
  faithful := ht
  looks := Or.inl ⟨id, rfl⟩
  apart _ _ := by
    rw [hdetecting]
    exact nofun

theorem enters (hp : c.plant.Observing) (h : Sound c s k) {d : Context Bench} {task : Task}
    (he : k.context.Enters k.task d task) (ht : s.Faithful c t) : Sound c s ⟨d, task, t⟩ := by
  obtain ⟨e, entered, u⟩ := k
  have hplant : e.plant = c.plant := h.peers.plant
  have hpeers := h.peers.trans he.peers
  -- A detection adds its device to those that are asked for, and whatever else is entered adds none.
  by_cases hasks : ∃ id, entered = .presence id
  · obtain ⟨id, rfl⟩ := hasks
    cases he with
    | @detection _ device as hdevice has hnew =>
      have hdevice' : c.plant.device? id = some device := hplant ▸ hdevice
      refine ⟨hpeers, ht, Plant.looks_detection hdevice' has, fun other hother => ?_⟩
      exact (h.apart id .refl).detached hp.acyclic ⟨device, as, hdevice', has, hother⟩
  · have hcalls : c.plant.Calls entered task := hplant ▸ .of_enters he (not_exists.mp hasks)
    refine ⟨hpeers, ht, h.looks.calls hcalls, fun id hreach => ?_⟩
    have hdetecting : d.detecting = e.detecting := he.detecting (not_exists.mp hasks)
    exact hdetecting ▸ h.apart id (.head hcalls hreach)

/-- A sound call leaves a state on which further ones are sound. -/
theorem left (hp : c.plant.Observing) (hc : c.detecting = []) (h : Sound c s k) : s.Faithful c k.outcome.2 := by
  have hcontexts : (looking c s k.context.detecting k.context.detecting).contexts k.context k.context :=
    ⟨⟨h.peers, rfl⟩, ⟨h.peers, rfl⟩, rfl, rfl⟩
  have hmay : (looking c s k.context.detecting k.context.detecting).may k.task :=
    ⟨h.looks, fun id hreach => ⟨Context.finds hp hc s id, h.apart id hreach, h.apart id hreach⟩⟩
  exact (looking_carryOut hp hcontexts hmay ⟨h.faithful, h.faithful⟩).2.1

theorem makes (hp : c.plant.Observing) (hc : c.detecting = []) (h : Sound c s k) (hmakes : k.Makes k') :
    Sound c s k' := by
  refine h.enters hp hmakes.enters ?_
  rcases hmakes.found with hfound | ⟨task, henters, hfound⟩ | ⟨id, hfound⟩ <;> rw [hfound]
  · exact h.faithful
  · exact (h.enters hp henters h.faithful).left hp hc
  · exact h.faithful.keeps (.of_eq rfl rfl)

theorem leads (hp : c.plant.Observing) (hc : c.detecting = []) (h : Sound c s k) (hleads : k.Leads k') :
    Sound c s k' := by
  induction hleads with
  | refl => exact h
  | tail _ hmakes ih => exact ih.makes hp hc hmakes

end Call.Sound

/-! ### Asking in turn -/

namespace Context

theorem AskedInTurn.sound (hp : c.plant.Observing) (hc : c.detecting = [])
    (hnone : ∀ id, s.presence.get? id c.cycle = none) {asks : List (Call Bench)} (h : c.AskedInTurn s asks t) :
    (∀ k ∈ asks, Call.Sound c s k) ∧ s.Faithful c t := by
  induction h with
  | nil hkeeps => exact ⟨nofun, .begin hnone hkeeps⟩
  | @ask asks t d u id _ hd hdetecting hkeeps ih =>
    obtain ⟨hasks, ht⟩ := ih
    have hask : Call.Sound c s ⟨d, .presence id, t⟩ := .ask hd hdetecting ht id
    refine ⟨fun k hk => ?_, (hask.left hp hc).keeps hkeeps⟩
    rcases List.mem_append.mp hk with hk | hk
    · exact hasks k hk
    · exact List.mem_singleton.mp hk ▸ hask

/-- If the detections of a plant only look at the hardware, and none depends on itself, then whoever asks for presence
in a cycle, and after whatever has been asked for in it, also from within detections, gets to know what is found out
about the device alone. That is whether it is there, for each device of the plant, and never that it depends on
itself. -/
theorem presence_in_any_order (hp : c.plant.Observing) (hc : c.detecting = [])
    (hnone : ∀ id, s.presence.get? id c.cycle = none) :
    (∀ d ∈ c.plant.devices, ∃ present, c.alone d.id s = .ok present) ∧
      ∀ asks t, c.AskedInTurn s asks t → ∀ k ∈ asks, ∀ k', k.Leads k' → ∀ id, k'.task = .presence id →
        k'.outcome.1 = c.alone id s ∧ k'.outcome.1 ≠ .error (.dependsOnItself id) := by
  have hnew : ∀ id, id ∉ c.detecting := fun id => hc ▸ List.not_mem_nil
  refine ⟨fun d hd => ?_, fun asks t hasks k hk k' hleads id htask => ?_⟩
  · obtain ⟨e, he⟩ := Plant.device?_of_mem hd
    exact alone_of_device he (hnew d.id) s
  · have hsound := ((hasks.sound hp hc hnone).1 k hk).leads hp hc hleads
    obtain ⟨d, task, u⟩ := k'
    obtain rfl : task = .presence id := htask
    have hanswer := (finds hp hc s id d u hsound.peers (hsound.apart id .refl) hsound.faithful).1
    exact ⟨hanswer, fun hself => alone_ne_dependsOnItself (hnew id) s (hanswer.symm.trans hself)⟩

end Context
end
end

/-! ### A fan that depends on a supply -/

/-- A fan that is there if the supply is. -/
def fan : Device Bench where
  id := "fan"
  isRegulator := false
  inventoryPath := ""
  bus := Bench.bus "i2c1" ⟨"i2c1", 0x20⟩
  detection := some ⟨.comparePresence "psu" true, []⟩

/-- The fan is there if the supply is. What configuring the supply writes is no matter. -/
def ventilated : Context Bench where
  plant := ⟨[⟨"chassis", "", [fan, supply "psu" 0x40 ⟨.writeRegister upperHalf, []⟩]⟩], []⟩
  cycle := 0
  maxRuleDepth := 30
  scope := ⟨"fan", none⟩

/-- The supply has the model that its detection looks for. -/
def ventilatedState : State Bench where
  hardware := ⟨[("i2c0", RegisterFile.setRegister {} 0x9A [7])]⟩

/-- What the detections of the two come to. -/
theorem ventilated_reaches {d : Device Bench} (hd : d ∈ ventilated.plant.devices) {as : Procedure}
    (has : as ∈ d.detection) {t : Task} (h : ventilated.plant.Reaches (.inOrder as) t) :
    t = .inOrder as ∨ t = .action (.compareRegister hasModel) ∨
      d.id = "fan" ∧ (t = .action (.comparePresence "psu" true) ∨ t = .presence "psu") := by
  rcases List.mem_pair.mp hd with rfl | rfl <;> cases has <;> rcases h.cases_head with rfl | ⟨_, hcalls, hreach⟩
  · exact .inl rfl
  · cases hcalls
    rcases hreach.cases_head with rfl | ⟨_, hcalls, hreach⟩
    · exact .inr (.inr ⟨rfl, .inl rfl⟩)
    · cases hcalls
      exact .inr (.inr ⟨rfl, .inr (Plant.reaches_presence hreach)⟩)
  · exact .inl rfl
  · cases hcalls
    rcases hreach.cases_head with rfl | ⟨_, hcalls, -⟩
    · exact .inr (.inl rfl)
    · cases hcalls

theorem observing_ventilated : ventilated.plant.Observing where
  buses d hd := by rcases List.mem_pair.mp hd with rfl | rfl <;> exact ⟨_, _, rfl⟩
  register w := by
    rintro ⟨d, hd, as, has, hreach⟩
    rcases ventilated_reaches hd has hreach with h | h | ⟨-, h | h⟩ <;> cases h
  vout v := by
    rintro ⟨d, hd, as, has, hreach⟩
    rcases ventilated_reaches hd has hreach with h | h | ⟨-, h | h⟩ <;> cases h
  literal r := by
    rintro ⟨d, hd, as, has, hreach⟩
    rcases ventilated_reaches hd has hreach with h | h | ⟨-, h | h⟩ <;> cases h
    exact ⟨7, rfl⟩
  acyclic id hcycle := by
    have hdepends : ∀ {id other}, ventilated.plant.DependsOn id other → id = "fan" ∧ other = "psu" := by
      rintro id other ⟨d, as, hd, has, hreach⟩
      obtain ⟨hmem, rfl⟩ := Plant.device?_eq_some hd
      rcases ventilated_reaches hmem has hreach with h | h | ⟨hid, h | h⟩ <;> cases h
      exact ⟨hid, rfl⟩
    -- Nothing that another device depends on depends on a device in turn.
    obtain ⟨other, hfirst, hlast⟩ := Relation.TransGen.head'_iff.mp hcycle
    obtain ⟨rfl, rfl⟩ := hdepends hfirst
    rcases hlast.cases_head with h | ⟨_, h, -⟩
    · exact absurd h (by decide)
    · exact absurd (hdepends h).1 (by decide)

theorem ventilated_alone {id : String} (hid : id ∈ ["fan", "psu"]) :
    ventilated.alone id ventilatedState = .ok true := by
  have hsupply : ventilated.plant.device? "psu" = some (supply "psu" 0x40 ⟨.writeRegister upperHalf, []⟩) := rfl
  have hfan : ventilated.plant.device? "fan" = some fan := rfl
  obtain ⟨t, -, -, ht⟩ := Context.resolvePresence_of_outcome (c := ventilated) (s := ventilatedState) rfl hsupply
    List.not_mem_nil rfl rfl
  obtain ⟨u, -, -, hu⟩ := Context.resolvePresence_of_outcome (c := ventilated) (s := ventilatedState) rfl hfan
    List.not_mem_nil rfl rfl
  obtain ⟨v, -, -, hv⟩ := Context.resolvePresence_of_outcome (c := ventilated.detached "fan")
    (s := (Op.note (.detection "fan") ventilatedState).2) rfl hsupply (by decide) rfl rfl
  simp only [Context.inOrder, Context.perform] at ht hu hv
  rcases List.mem_pair.mp hid with rfl | rfl
  · rw [Op.framed_apply, Op.bind_of_ok hv] at hu
    exact congrArg Prod.fst hu
  · exact congrArg Prod.fst ht

/-- Whichever of the two is asked for first, both are there. -/
theorem ventilated_in_any_order :
    ventilated.plant.Observing ∧ ventilated.detecting = [] ∧ (∀ id, ventilatedState.presence.get? id 0 = none) ∧
      ∀ first ∈ ["fan", "psu"], ∀ second ∈ ["fan", "psu"],
        (ventilated.resolvePresence first ventilatedState).1 = .ok true ∧
          (ventilated.resolvePresence second (ventilated.resolvePresence first ventilatedState).2).1 = .ok true := by
  have hempty : ∀ id, ventilatedState.presence.get? id 0 = none := fun _ => rfl
  obtain ⟨-, hanswers⟩ := Context.presence_in_any_order observing_ventilated rfl hempty
  refine ⟨observing_ventilated, rfl, hempty, fun first hfirst second hsecond => ?_⟩
  have honce : ventilated.AskedInTurn ventilatedState [⟨ventilated, .presence first, ventilatedState⟩]
      (ventilated.resolvePresence first ventilatedState).2 := .ask first (.nil (.refl _)) (.refl _) rfl (.refl _)
  have htwice := honce.ask second (.refl _) rfl (.refl _)
  have hanswer := hanswers _ _ htwice _ List.mem_cons_self _ .refl first rfl
  have hanswer' := hanswers _ _ htwice _ (List.mem_append_right _ List.mem_cons_self) _ .refl second rfl
  exact ⟨hanswer.1.trans (ventilated_alone hfirst), hanswer'.1.trans (ventilated_alone hsecond)⟩

end PowerRails
