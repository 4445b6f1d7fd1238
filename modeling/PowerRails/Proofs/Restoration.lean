import PowerRails.Proofs.Depth
import PowerRails.Proofs.Growth
import PowerRails.Proofs.Guards

/-! # Restoration

The machine with guards does what `Context.carryOut` does in the context that its environment stands for, and
changes nothing of that context. `Guarded.Does` says both at once of one piece of work, and passes from pieces
to what is made of them; so after every task, failed or not, all that was entered is left again. -/

namespace PowerRails

section
variable {σ α β : Type}

/-- An environment after something was carried out in it, and before: everything that was entered is left, and
records and presence results only grew. -/
structure Environment.Restored (before after : Environment σ) : Prop where
  plant : after.plant = before.plant
  cycle : after.cycle = before.cycle
  maxRuleDepth : after.maxRuleDepth = before.maxRuleDepth
  earlier : after.earlier = before.earlier
  sensorsService : after.sensorsService = before.sensorsService
  held : after.held = before.held
  scopes : after.scopes = before.scopes
  ruleChain : after.ruleChain = before.ruleChain
  volts : after.volts = before.volts
  detecting : after.detecting = before.detecting
  findings : before.state.findings <+: after.state.findings
  readings : before.state.readings <+: after.state.readings
  captures : ∀ {key value}, before.state.captures.get? key = some value → after.state.captures.get? key = some value
  presence : ∀ {id e}, before.state.presence.results.get? id = some e → e.cycle = before.cycle →
    after.state.presence.results.get? id = some e
  /-- New results are of the cycle, and of devices that exist. -/
  entry : ∀ {id e}, after.state.presence.results.get? id = some e →
    before.state.presence.results.get? id = some e ∨ (e.cycle = before.cycle ∧ ∃ d, before.plant.device? id = some d)

namespace Guarded

/-- In every environment that stands for a context, a piece of work ends, does to the state what an operation
does, and leaves everything else as it was. -/
def Does (x : Guarded σ α) (c : Context σ) (y : Op σ α) : Prop :=
  ∀ env : Environment σ, env.context = c → x env = some ((y env.state).1, env.withState (y env.state).2)

/-- In every environment that stands for a context, a guard is given out unless a check refuses it. Inside, the
environment stands for another context; releasing the guard leads back. -/
def Opens (enter : Environment σ → Except Fault (Guard × Environment σ)) (c : Context σ) (check : Except Fault Unit)
    (c' : Context σ) : Prop :=
  ∀ env : Environment σ, env.context = c →
    (∀ fault, check = .error fault → enter env = .error fault) ∧
    (check = .ok () → ∃ guard inner, enter env = .ok (guard, inner) ∧ inner.context = c' ∧ inner.state = env.state ∧
      ∀ s, (inner.withState s).release guard = env.withState s)

/-! ### Guards -/

section
variable {c : Context σ}

theorem context_push (env : Environment σ) (scope : Scope) :
    (env.push scope).context = env.context.enter scope := by
  have hlast : (env.scopes ++ [scope]).dropLast.reverse = env.context.scope :: env.context.outer := by
    have hsplit := congrArg List.reverse (List.dropLast_concat_getLast (List.cons_ne_nil env.base env.entered))
    rw [List.reverse_concat] at hsplit
    rw [List.dropLast_concat]
    exact hsplit.symm
  have hscopes : (env.push scope).scopes = env.scopes ++ [scope] := rfl
  simp only [Environment.context, Context.enter, hscopes, List.getLast_concat, hlast]
  rfl

theorem release_push (env : Environment σ) (scope : Scope) (s : State σ) :
    ((env.push scope).withState s).release (.scopes env.entered.length) = env.withState s := by
  simp [Environment.release, Environment.push, Environment.withState]

theorem opens_enterDevice (c : Context σ) (device : String) (rail : Option String) :
    Opens (Environment.enterDevice device rail) c (c.requireScope device rail) (c.enter ⟨device, rail⟩) := by
  rintro env rfl
  refine ⟨fun fault h => ?_, fun h => ⟨.scopes env.entered.length, env.push ⟨device, rail⟩, ?_, ?_, rfl, ?_⟩⟩
  · rw [Environment.enterDevice, h]
    rfl
  · rw [Environment.enterDevice, h]
    rfl
  · exact context_push env _
  · exact release_push env _

theorem opens_enterRail (c : Context σ) (rail : String) :
    Opens (Environment.enterRail rail) c (c.requireActiveRail rail) (c.inRail rail) := by
  rintro env rfl
  unfold Environment.enterRail Context.requireActiveRail
  cases hd : env.context.device with
  | error fault =>
    refine ⟨fun _ h => ?_, fun h => nomatch h⟩
    cases h
    rfl
  | ok d =>
    have hid : d.id = env.context.scope.device := (Plant.device?_eq_some (Plant.device_eq_ok_iff.mp hd)).2
    refine ⟨fun fault h => ?_, fun h => ⟨.scopes env.entered.length, env.push ⟨d.id, rail⟩, ?_, ?_, rfl, ?_⟩⟩
    · show (do Context.requireRail d rail; _) = _
      rw [show Context.requireRail d rail = .error fault from h]
      rfl
    · show (do Context.requireRail d rail; _) = _
      rw [show Context.requireRail d rail = .ok () from h]
      rfl
    · rw [context_push, hid]
      rfl
    · exact release_push env _

theorem opens_enterRule (c : Context σ) (rule : String) :
    Opens (Environment.enterRule rule) c (c.requireCallable rule) (c.inRule rule) := by
  rintro env rfl
  refine ⟨fun fault h => ?_, fun h =>
    ⟨.ruleChain env.ruleChain.length, { env with ruleChain := env.ruleChain ++ [rule] }, ?_, rfl, rfl, fun s => ?_⟩⟩
  · rw [Environment.enterRule, h]
    rfl
  · rw [Environment.enterRule, h]
    rfl
  · simp [Environment.release, Environment.withState]

theorem opens_enterVolts (c : Context σ) (volts : Option Binary64) :
    Opens (Environment.enterVolts volts) c (.ok ()) (c.withVolts volts) := by
  rintro env rfl
  exact ⟨fun _ h => (nomatch h), fun _ => ⟨.volts env.volts, _, rfl, rfl, rfl, fun _ => rfl⟩⟩

end

/-! ### Rules under way

Of a context, only calling a rule looks at the rules under way. So all else is done as well by a machine that stands
for a context with others, or with none. -/

/-- Contexts in which other rules are under way, and from which the same scopes and detections are entered. -/
structure Rechains (f : Context σ → Context σ) : Prop where
  rules : ∀ c, ∃ chain, f c = { c with ruleChain := chain }
  enter : ∀ c scope, f (c.enter scope) = (f c).enter scope
  detached : ∀ c id, f (c.detached id) = (f c).detached id

namespace Rechains
variable {f : Context σ → Context σ}

theorem id : Rechains (fun c : Context σ => c) := ⟨fun c => ⟨c.ruleChain, rfl⟩, fun _ _ => rfl, fun _ _ => rfl⟩

theorem inRail (hf : Rechains f) (c : Context σ) (rail : String) : f (c.inRail rail) = (f c).inRail rail := by
  obtain ⟨chain, hchain⟩ := hf.rules c
  have hscope : (f c).scope = c.scope := by rw [hchain]
  rw [Context.inRail, Context.inRail, hscope]
  exact hf.enter c _

theorem requireScope (hf : Rechains f) (c : Context σ) (device : String) (rail : Option String) :
    (f c).requireScope device rail = c.requireScope device rail := by
  obtain ⟨chain, hchain⟩ := hf.rules c
  rw [hchain]
  rfl

theorem requireActiveRail (hf : Rechains f) (c : Context σ) (rail : String) :
    (f c).requireActiveRail rail = c.requireActiveRail rail := by
  obtain ⟨chain, hchain⟩ := hf.rules c
  rw [hchain]
  rfl

end Rechains

namespace Does

variable {x : Guarded σ α} {y : Op σ α} {c c' : Context σ} {f : Context σ → Context σ}

/-! ### Pieces of work -/

theorem pure (a : α) : Does (Pure.pure a) c (Pure.pure a) := fun _ _ => rfl

theorem bind {f : α → Guarded σ β} {g : α → Op σ β} (hx : Does x c y) (hf : ∀ a, Does (f a) c (g a)) :
    Does (x >>= f) c (y >>= g) := fun env henv => by
  show Guarded.bind x f env = _
  unfold Guarded.bind
  rw [hx env henv, Op.bind_apply]
  rcases y env.state with ⟨fault | a, s⟩
  · rfl
  · exact hf a _ henv

theorem framed (h : Does x c y) (frame : Frame) : Does (x.framed frame) c (Op.framed frame y) := fun env henv => by
  simp only [Guarded.framed, h env henv, Option.map_some, Op.framed_apply]

theorem leaf (z : Context σ → Op σ α) : Does (Guarded.leaf z) c (z c) := fun env henv => by
  subst henv
  rfl

/-- What is done with a guard in hand is done in the context that the guard opens. -/
theorem within {enter : Environment σ → Except Fault (Guard × Environment σ)} {check : Except Fault Unit}
    (ho : Opens enter c check c') (hx : check = .ok () → Does x c' y) :
    Does (Guarded.within enter x) c (do Op.ofExcept check; y) := fun env henv => by
  obtain ⟨herror, hok⟩ := ho env henv
  unfold Guarded.within
  cases hcheck : check with
  | error fault =>
    rw [herror fault hcheck]
    rfl
  | ok u =>
    obtain ⟨guard, inner, henter, hinner, hstate, hrelease⟩ := hok hcheck
    simp only [henter, hx hcheck inner hinner, Option.map_some, hstate, hrelease]
    rfl

theorem detached {id : String} {d : Device σ} (hd : c.plant.device? id = some d) (hx : Does x (c.detached id) y) :
    Does (Guarded.detached id x) c (Op.attempt y) := fun env henv => by
  subst henv
  let inner : Environment σ := { env with detecting := env.detecting ++ [id], ruleChain := [], volts := none }
  have hscope : inner.context.requireScope id none = .ok () := by
    rw [Context.requireScope, show inner.context.plant.device id = .ok d from Plant.device_eq_ok_iff.mpr hd]
    rfl
  have hwithin := within (opens_enterDevice inner.context id none) (fun _ => hx) inner rfl
  rw [hscope] at hwithin
  show Option.map _ (Guarded.within (Environment.enterDevice id none) x inner) = _
  rw [hwithin]
  show some _ = some _
  simp [inner, Environment.withState]

/-! ### Whole tasks -/

theorem callRule {nested : Task → Guarded σ Bool} {id : String}
    (hn : ∀ c' t, c.Enters (.rule id) c' t → Does (nested t) c' (c'.carryOut t)) :
    Does (Guarded.callRule nested id) c (c.callRule id) := fun env henv => by
  have hplant : env.plant = c.plant := henv ▸ rfl
  unfold Guarded.callRule
  rw [hplant]
  cases hr : c.plant.rule? id with
  | none =>
    rw [Context.callRule_of_none hr]
    exact leaf (c := c) (fun _ => Op.fail ⟨.ruleNotFound id, []⟩) env henv
  | some r =>
    rw [Context.callRule_of_some hr]
    exact within (opens_enterRule c id) (fun hc => framed (hn _ _ (.rule hr hc)) _) env henv

theorem leaf_of_rechains (hf : Rechains f) {z : Context σ → Op σ α}
    (hz : ∀ chain, z { c with ruleChain := chain } = z c) : Does (Guarded.leaf z) (f c) (z c) := by
  obtain ⟨chain, hchain⟩ := hf.rules c
  rw [hchain, ← hz chain]
  exact leaf z

theorem resolvePresence (hf : Rechains f) {nested : Task → Guarded σ Bool} {id : String}
    (hn : ∀ c' t, c.Enters (.presence id) c' t → Does (nested t) (f c') (c'.carryOut t)) :
    Does (Guarded.resolvePresence nested id) (f c) (c.resolvePresence id) := fun env henv => by
  obtain ⟨chain, hchain⟩ := hf.rules c
  have hplant : env.plant = c.plant := (congrArg Context.plant henv).trans (by rw [hchain])
  have hcycle : env.cycle = c.cycle := (congrArg Context.cycle henv).trans (by rw [hchain])
  have hdetecting : env.detecting = c.detecting := (congrArg Context.detecting henv).trans (by rw [hchain])
  unfold Guarded.resolvePresence
  rw [hplant, hcycle, hdetecting, Context.resolvePresence, Op.bind_apply]
  simp only [Op.state_apply]
  cases env.state.presence.get? id c.cycle with
  | some present => exact leaf (c := f c) (fun _ => Pure.pure present) env henv
  | none =>
    cases hd : c.plant.device? id with
    | none => exact leaf (c := f c) (fun _ => Op.fail ⟨.deviceNotFound id, []⟩) env henv
    | some d =>
      by_cases hnew : id ∈ c.detecting
      · simp only [hnew, if_true, dif_pos]
        exact leaf (c := f c) (fun _ => Op.fail _) env henv
      · simp only [hnew, if_false, dif_neg, not_false_eq_true]
        cases has : d.detection with
        | none => exact leaf_of_rechains hf (z := fun ctx => ctx.keepPresence id true) (fun _ => rfl) env henv
        | some as =>
          have hdevice : (f c).plant.device? id = some d := by rw [hchain, hd]
          have hdetection := hn _ _ (.detection hd has hnew)
          rw [hf.detached] at hdetection
          refine bind (leaf fun _ => Op.note (.detection id)) (fun _ => ?_) env henv
          refine bind (detached hdevice hdetection) fun outcome => ?_
          exact leaf_of_rechains hf
            (z := fun ctx => do ctx.keepPresence id (← Context.detectionVerdict id outcome)) fun _ => rfl

theorem perform (hf : Rechains f) {nested : Task → Guarded σ Bool} {a : Action}
    (hn : ∀ c' t, c.Enters (.action a) c' t → Does (nested t) (f c') (c'.carryOut t)) :
    Does (Guarded.perform nested a) (f c) (c.perform a) := by
  cases a with
  | allOf as =>
    rw [Context.perform]
    exact hn _ _ .allOf
  | anyOf as =>
    rw [Context.perform]
    exact hn _ _ .anyOf
  | negation a =>
    rw [Context.perform]
    exact bind (hn _ _ .negation) fun _ => pure _
  | branch a as bs =>
    rw [Context.perform.eq_def]
    refine bind (hn _ _ .condition) fun b => ?_
    cases b with
    | true => exact hn _ _ .consequent
    | false =>
      cases bs with
      | none => exact pure _
      | some bs => exact hn _ _ .alternative
  | runRule id =>
    rw [Context.perform]
    exact hn _ _ .runRule
  | inDevice d r as =>
    rw [Context.perform]
    refine framed (bind (hn _ _ .gate) fun b => ?_) _
    cases b with
    | true =>
      have hbody := hn _ _ (.inDevice (d := d) (r := r))
      rw [hf.enter] at hbody
      rw [← hf.requireScope]
      exact within (opens_enterDevice (f c) d r) fun _ => hbody
    | false => exact bind (leaf_of_rechains hf (z := fun ctx => ctx.addFinding _ _ _ _) fun _ => rfl) fun _ => pure _
  | inRail r as =>
    have hbody := hn _ _ (.inRail (r := r))
    rw [hf.inRail] at hbody
    rw [Context.perform, ← hf.requireActiveRail]
    exact framed (within (opens_enterRail (f c) r) fun _ => hbody) _
  | comparePresence d b =>
    rw [Context.perform]
    exact framed (bind (hn _ _ .comparePresence) fun _ => pure _) _
  | compareRegister r =>
    rw [Context.perform]
    exact framed (leaf_of_rechains hf (z := fun ctx => ctx.compareRegister r) fun _ => rfl) _
  | writeRegister w =>
    rw [Context.perform]
    exact framed (leaf_of_rechains hf (z := fun ctx => ctx.writeRegister w) fun _ => rfl) _
  | capture b =>
    rw [Context.perform]
    exact framed (leaf_of_rechains hf (z := fun ctx => ctx.captureBlock b) fun _ => rfl) _
  | readSensor r =>
    rw [Context.perform]
    exact framed (leaf_of_rechains hf (z := fun ctx => ctx.readSensor r) fun _ => rfl) _
  | logFinding l =>
    rw [Context.perform]
    exact framed (leaf_of_rechains hf (z := fun ctx => ctx.logFinding l) fun _ => rfl) _
  | setVout v =>
    rw [Context.perform]
    exact framed (leaf_of_rechains hf (z := fun ctx => ctx.setVout v) fun _ => rfl) _

/-- What consists of tasks does what it should if these do; calling a rule is left to the machine. -/
theorem body (hf : Rechains f) {nested : Task → Guarded σ Bool} {t : Task}
    (hrule : ∀ id, t = .rule id → Does (Guarded.callRule nested id) (f c) (c.callRule id))
    (hn : ∀ c' t', c.Enters t c' t' → Does (nested t') (f c') (c'.carryOut t')) :
    Does (Guarded.body nested t) (f c) (c.carryOut t) := by
  rcases t with a | as | as | as | id | id
  · exact perform hf hn
  · show Does _ (f c) (c.everyOf as)
    cases as with
    | nil =>
      rw [Context.everyOf]
      exact pure true
    | cons a as =>
      rw [Context.everyOf]
      refine bind (hn _ _ .everyHead) fun b => ?_
      cases b with
      | true => exact hn _ _ .everyTail
      | false => exact pure false
  · show Does _ (f c) (c.someOf as)
    cases as with
    | nil =>
      rw [Context.someOf]
      exact pure false
    | cons a as =>
      rw [Context.someOf]
      refine bind (hn _ _ .anyHead) fun b => ?_
      cases b with
      | true => exact pure true
      | false => exact hn _ _ .anyTail
  · show Does _ (f c) (c.inOrder as)
    obtain ⟨a, _ | ⟨b, bs⟩⟩ := as
    · rw [Context.inOrder]
      exact hn _ _ .first
    · rw [Context.inOrder]
      exact bind (hn _ _ .first) fun _ => hn _ _ .next
  · exact hrule id rfl
  · exact resolvePresence hf hn

end Does

/-- The machine does what a task should do, as soon as it may nest deep enough. -/
theorem execute_does (c : Context σ) (t : Task) (n : Nat) (h : c.depth t < n) : Does (execute n t) c (c.carryOut t) := by
  induction n generalizing c t with
  | zero => omega
  | succ n ih =>
    -- Whatever a task enters is less deep than the task itself.
    have hnested : ∀ c' t', c.Enters t c' t' → Does (execute n t') c' (c'.carryOut t') := fun c' t' he => ih c' t' (by
      have := he.depth_lt
      omega)
    refine Does.body .id ?_ hnested
    rintro id rfl
    exact Does.callRule hnested

end Guarded

namespace Environment

/-- Where records and presence results grew and nothing else changed, everything is restored. -/
theorem restored_of_grows {env : Environment σ} {s : State σ} (h : Grows env.context env.state s) :
    env.Restored (env.withState s) where
  plant := rfl
  cycle := rfl
  maxRuleDepth := rfl
  earlier := rfl
  sensorsService := rfl
  held := rfl
  scopes := rfl
  ruleChain := rfl
  volts := rfl
  detecting := rfl
  findings := h.findings
  readings := h.readings
  captures := h.captures
  presence {id e} he hcycle := by
    obtain ⟨present, cycle⟩ := e
    subst hcycle
    exact PresenceCache.get?_eq_some_iff.mp (h.presence (PresenceCache.get?_eq_some_iff.mpr he))
  entry he := (h.entry he).imp_right fun h => ⟨h.1, h.2.1⟩

/-- Carrying out a task in an environment comes to an end, with an answer or a fault, and either way everything
is restored. What it does is what `Context.carryOut` does. -/
theorem execute_restores (env : Environment σ) (t : Task) :
    ∃ outcome after, (∃ depth, ∀ n ≥ depth, Guarded.execute n t env = some (outcome, after)) ∧
      env.Restored after ∧ (outcome, after.state) = env.context.carryOut t env.state := by
  refine ⟨_, _, ⟨env.context.depth t + 1, fun n hn => ?_⟩, restored_of_grows ?_, rfl⟩
  · exact Guarded.execute_does env.context t n hn env rfl
  · exact env.context.grows_carryOut t env.state

/-- The same holds of a configuration, whose voltage is taken back with it. -/
theorem configuration_restores (env : Environment σ) (k : Configuration) :
    ∃ outcome after,
      (∃ depth, ∀ n ≥ depth,
        Guarded.within (enterVolts k.volts) (Guarded.execute n (.inOrder k.actions)) env = some (outcome, after)) ∧
      env.Restored after ∧ (outcome, after.state) = env.context.applyConfiguration k env.state := by
  refine ⟨_, _, ⟨(env.context.withVolts k.volts).depth (.inOrder k.actions) + 1, fun n hn => ?_⟩,
    restored_of_grows ?_, rfl⟩
  · exact Guarded.Does.within (Guarded.opens_enterVolts env.context k.volts)
      (fun _ => Guarded.execute_does _ _ n hn) env rfl
  · exact ((env.context.withVolts k.volts).grows_carryOut (.inOrder k.actions) env.state).of_context rfl rfl
      fun _ h => h

end Environment
end
end PowerRails
