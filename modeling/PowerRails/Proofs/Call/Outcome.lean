import PowerRails.Proofs.Call
import PowerRails.Proofs.Demand

/-! # How calls end

A call answers after the calls that it makes, or it ends with a fault. A fault that a call does not raise itself has
come up from a call that it made, and on its way out it passes the frame of the task, if the task has one. Only a
presence detection lets no fault pass. So every fault can be followed down to the call that raised it, and the rule
frames that it passed are the rules that were under way there. -/

namespace PowerRails

/-- The rule that a frame names. -/
def Frame.rule? : Frame → Option String
  | .rule id => some id
  | _ => none

/-- The frame that faults of other tasks pass on their way out of a task, if it has one. -/
def Task.frame? : Task → Option Frame
  | .action (.inDevice device rail as) => some (.action (Action.inDevice device rail as).text)
  | .action (.inRail rail as) => some (.action (Action.inRail rail as).text)
  | .action (.comparePresence device expected) => some (.action (Action.comparePresence device expected).text)
  | .rule id => some (.rule id)
  | _ => none

/-- Whether a task is to find out about presence. -/
def Task.isPresence : Task → Bool
  | .presence _ => true
  | _ => false

/-- A fault once it has come out of a task. -/
def Fault.through (f : Fault) (t : Task) : Fault := t.frame?.elim f f.within

theorem Fault.cause_through (f : Fault) (t : Task) : (f.through t).cause = f.cause := by
  unfold through
  cases t.frame? <;> rfl

theorem Fault.frames_through (f : Fault) (t : Task) : (f.through t).frames = t.frame?.toList ++ f.frames := by
  unfold through
  cases t.frame? <;> rfl

section
variable {σ : Type}

namespace Context
variable {c : Context σ} {id : String}

theorem requireCallable_eq_error {fault : Fault} (h : c.requireCallable id = .error fault) :
    ∃ reason, fault = ⟨.ruleRecursion id (c.ruleChain.length + 1) reason c.ruleChain, []⟩ ∧
      (id ∈ c.ruleChain ∨ c.maxRuleDepth < c.ruleChain.length + 1) := by
  simp only [requireCallable] at h
  split at h
  · rename_i hmem
    cases h
    exact ⟨_, rfl, Or.inl hmem⟩
  · split at h
    · rename_i hdeep
      cases h
      exact ⟨_, rfl, Or.inr hdeep⟩
    · cases h

theorem requireCallable_eq_ok {u : Unit} (h : c.requireCallable id = .ok u) :
    id ∉ c.ruleChain ∧ c.ruleChain.length + 1 ≤ c.maxRuleDepth := by
  refine ⟨not_mem_of_requireCallable h, ?_⟩
  simp only [requireCallable] at h
  split at h
  · cases h
  · split at h
    · cases h
    · rename_i hshallow
      exact Nat.le_of_not_lt hshallow

end Context

namespace Call

/-- A call raises a fault itself: no call that it makes ends with one. -/
inductive Raises : Call σ → Fault → State σ → Prop
  | single {c a x s fault t} : c.single? a = some x → x s = (.error fault, t) →
      Raises ⟨c, .action a, s⟩ (fault.within (.action a.text)) t
  | noScope {c d r as s t fault} : c.resolvePresence d s = (.ok true, t) → c.requireScope d r = .error fault →
      Raises ⟨c, .action (.inDevice d r as), s⟩ (fault.within (.action (Action.inDevice d r as).text)) t
  | noRail {c r as s fault} : c.requireActiveRail r = .error fault →
      Raises ⟨c, .action (.inRail r as), s⟩ (fault.within (.action (Action.inRail r as).text)) s
  | noRule {c id s} : c.plant.rule? id = none → Raises ⟨c, .rule id, s⟩ ⟨.ruleNotFound id, []⟩ s
  | notCallable {c id r s fault} : c.plant.rule? id = some r → c.requireCallable id = .error fault →
      Raises ⟨c, .rule id, s⟩ fault s
  | noDevice {c id s} : s.presence.get? id c.cycle = none → c.plant.device? id = none →
      Raises ⟨c, .presence id, s⟩ ⟨.deviceNotFound id, []⟩ s
  | circular {c id d s} : s.presence.get? id c.cycle = none → c.plant.device? id = some d → id ∈ c.detecting →
      Raises ⟨c, .presence id, s⟩
        (.invalidAction "presence_detection" s!"presence of device \"{id}\" depends on itself") s

/-- All that a call can come to. -/
inductive Ends : Call σ → Except Fault Bool × State σ → Prop
  | raises {k fault t} : k.Raises fault t → Ends k (.error fault, t)
  | passes {k k' fault t} : k.Makes k' → k.task.isPresence = false → k'.outcome = (.error fault, t) →
      Ends k (.error (fault.through k.task), t)
  | follows {k k' b answer t} : k.Makes k' → k'.outcome = (.ok b, t) → Ends k (.ok answer, t)
  | single {c a x s b t} : c.single? a = some x → x s = (.ok b, t) → Ends ⟨c, .action a, s⟩ (.ok b, t)
  | nothing {k b} : (∀ k', ¬ k.Makes k') → Ends k (.ok b, k.state)
  | skipped {c d r as s t} : c.resolvePresence d s = (.ok false, t) →
      Ends ⟨c, .action (.inDevice d r as), s⟩
        (.ok false, (c.addFinding .notice "device_not_present" none s!"skipped actions for absent device \"{d}\"" t).2)
  | found {c id s b t} : c.Resolves id s (.ok b, t) → Ends ⟨c, .presence id, s⟩ (.ok b, t)

namespace Ends
variable {k k' : Call σ}

/-- A call that ends as another one that it makes. -/
theorem of_call (hmakes : k.Makes k') (hplain : k.task.isPresence = false) (hframe : k.task.frame? = none) :
    k.Ends k'.outcome := by
  rcases h : k'.outcome with ⟨fault | b, t⟩
  · have hpasses := Ends.passes hmakes hplain h
    rwa [Fault.through, hframe] at hpasses
  · exact .follows hmakes h

/-- A call that ends as another one that it makes, except that a fault passes a frame. -/
theorem of_framed {frame : Frame} (hmakes : k.Makes k') (hplain : k.task.isPresence = false)
    (hframe : k.task.frame? = some frame) : k.Ends (Op.framed frame (k'.context.carryOut k'.task) k'.state) := by
  rcases h : k'.outcome with ⟨fault | b, t⟩
  · have hpasses := Ends.passes hmakes hplain h
    rw [Fault.through, hframe] at hpasses
    rwa [Op.framed_of_error h]
  · rw [Op.framed_of_ok h]
    exact .follows hmakes h

/-- A call that goes on after another one that it makes. -/
theorem of_bind {f : Bool → Op σ Bool} (hmakes : k.Makes k') (hplain : k.task.isPresence = false)
    (hframe : k.task.frame? = none) (hf : ∀ b t, k'.outcome = (.ok b, t) → k.Ends (f b t)) :
    k.Ends ((k'.context.carryOut k'.task >>= f) k'.state) := by
  rcases h : k'.outcome with ⟨fault | b, t⟩
  · have hpasses := of_call hmakes hplain hframe
    rw [h] at hpasses
    rwa [Op.bind_of_error h]
  · rw [Op.bind_of_ok h]
    exact hf b t h

theorem of_single {c : Context σ} {a : Action} {x : Op σ Bool} (h : c.single? a = some x) (s : State σ) :
    Ends ⟨c, .action a, s⟩ (c.perform a s) := by
  rw [Context.perform_of_single? h]
  rcases hx : x s with ⟨fault | b, t⟩
  · rw [Op.framed_of_error hx]
    exact .raises (.single h hx)
  · rw [Op.framed_of_ok hx]
    exact .single h hx

theorem of_presence (c : Context σ) (id : String) (s : State σ) :
    Ends ⟨c, .presence id, s⟩ (c.resolvePresence id s) := by
  have hresolves := c.resolves id s
  rcases hx : c.resolvePresence id s with ⟨fault | b, t⟩ <;> rw [hx] at hresolves
  · generalize hr : ((.error fault, t) : Except Fault Bool × State σ) = r at hresolves
    cases hresolves with
    | cached => cases hr
    | unknown hp hd =>
      cases hr
      exact .raises (.noDevice hp hd)
    | cyclic hp hd hdetecting =>
      cases hr
      exact .raises (.circular hp hd hdetecting)
    | assumed => cases hr
    | @detected _ _ r => obtain ⟨_ | _, _⟩ := r <;> cases hr
  · exact .found hresolves

theorem of_rule (c : Context σ) (id : String) (s : State σ) : Ends ⟨c, .rule id, s⟩ (c.callRule id s) := by
  cases hr : c.plant.rule? id with
  | none =>
    rw [Context.callRule_of_none hr]
    exact .raises (.noRule hr)
  | some r =>
    rw [Context.callRule_of_some hr]
    cases hc : c.requireCallable id with
    | error fault => exact .raises (.notCallable hr hc)
    | ok _ => exact of_framed (k := ⟨c, .rule id, s⟩) (.rule hr hc) rfl rfl

theorem of_inDevice (c : Context σ) (d : String) (r : Option String) (as : Procedure) (s : State σ) :
    Ends ⟨c, .action (.inDevice d r as), s⟩ (c.perform (.inDevice d r as) s) := by
  rw [Context.perform]
  rcases hd : c.resolvePresence d s with ⟨fault | _ | _, t⟩
  · rw [Op.framed_of_error (Op.bind_of_error hd)]
    exact .passes (k := ⟨c, .action (.inDevice d r as), s⟩) .gate rfl hd
  · rw [Op.framed_apply, Op.bind_of_ok hd]
    exact .skipped hd
  · rw [Op.framed_apply, Op.bind_of_ok hd, if_pos rfl]
    cases hscope : c.requireScope d r with
    | error fault => exact .raises (.noScope hd hscope)
    | ok _ => exact of_framed (k := ⟨c, .action (.inDevice d r as), s⟩) (.inDevice hd hscope) rfl rfl

theorem of_inRail (c : Context σ) (r : String) (as : Procedure) (s : State σ) :
    Ends ⟨c, .action (.inRail r as), s⟩ (c.perform (.inRail r as) s) := by
  rw [Context.perform]
  cases hrail : c.requireActiveRail r with
  | error fault => exact .raises (.noRail hrail)
  | ok _ => exact of_framed (k := ⟨c, .action (.inRail r as), s⟩) (.inRail hrail) rfl rfl

theorem of_action (c : Context σ) (a : Action) (s : State σ) : Ends ⟨c, .action a, s⟩ (c.perform a s) := by
  cases a with
  | allOf as =>
    rw [Context.perform]
    exact of_call (k := ⟨c, .action (.allOf as), s⟩) .allOf rfl rfl
  | anyOf as =>
    rw [Context.perform]
    exact of_call (k := ⟨c, .action (.anyOf as), s⟩) .anyOf rfl rfl
  | negation a =>
    rw [Context.perform]
    exact of_bind (k := ⟨c, .action (.negation a), s⟩) .negation rfl rfl fun _ _ h => .follows .negation h
  | branch a as bs =>
    rw [Context.perform.eq_def]
    refine of_bind (k := ⟨c, .action (.branch a as bs), s⟩) .condition rfl rfl fun b t h => ?_
    cases b with
    | true => exact of_call (k := ⟨c, .action (.branch a as bs), s⟩) (.consequent h) rfl rfl
    | false =>
      cases bs with
      | none => exact .follows .condition h
      | some bs => exact of_call (k := ⟨c, .action (.branch a as (some bs)), s⟩) (.alternative h) rfl rfl
  | runRule id =>
    rw [Context.perform]
    exact of_call (k := ⟨c, .action (.runRule id), s⟩) .runRule rfl rfl
  | inDevice d r as => exact of_inDevice c d r as s
  | inRail r as => exact of_inRail c r as s
  | comparePresence d b =>
    rw [Context.perform]
    rcases hd : c.resolvePresence d s with ⟨fault | present, t⟩
    · rw [Op.framed_of_error (Op.bind_of_error hd)]
      exact .passes (k := ⟨c, .action (.comparePresence d b), s⟩) .comparePresence rfl hd
    · rw [Op.framed_apply, Op.bind_of_ok hd]
      exact .follows (k := ⟨c, .action (.comparePresence d b), s⟩) .comparePresence hd
  | _ => exact of_single rfl s

end Ends

theorem ends (k : Call σ) : k.Ends k.outcome := by
  obtain ⟨c, t, s⟩ := k
  cases t with
  | action a => exact .of_action c a s
  | every as =>
    show Ends _ (c.everyOf as s)
    cases as with
    | nil =>
      rw [Context.everyOf]
      exact .nothing (k := ⟨c, .every [], s⟩) fun _ h => by cases h
    | cons a as =>
      rw [Context.everyOf]
      refine .of_bind (k := ⟨c, .every (a :: as), s⟩) .everyHead rfl rfl fun b t h => ?_
      cases b with
      | true => exact .of_call (k := ⟨c, .every (a :: as), s⟩) (.everyTail h) rfl rfl
      | false => exact .follows .everyHead h
  | any as =>
    show Ends _ (c.someOf as s)
    cases as with
    | nil =>
      rw [Context.someOf]
      exact .nothing (k := ⟨c, .any [], s⟩) fun _ h => by cases h
    | cons a as =>
      rw [Context.someOf]
      refine .of_bind (k := ⟨c, .any (a :: as), s⟩) .anyHead rfl rfl fun b t h => ?_
      cases b with
      | true => exact .follows .anyHead h
      | false => exact .of_call (k := ⟨c, .any (a :: as), s⟩) (.anyTail h) rfl rfl
  | inOrder as =>
    obtain ⟨a, as⟩ := as
    show Ends _ (c.inOrder ⟨a, as⟩ s)
    cases as with
    | nil =>
      rw [Context.inOrder]
      exact .of_call (k := ⟨c, .inOrder ⟨a, []⟩, s⟩) .first rfl rfl
    | cons b bs =>
      rw [Context.inOrder]
      refine .of_bind (k := ⟨c, .inOrder ⟨a, b :: bs⟩, s⟩) .first rfl rfl fun answer t h => ?_
      exact .of_call (k := ⟨c, .inOrder ⟨a, b :: bs⟩, s⟩) (.next h) rfl rfl
  | rule id => exact .of_rule c id s
  | presence id => exact .of_presence c id s

/-! ### Where faults come from -/

section
variable {k k' : Call σ} {fault : Fault} {t : State σ}

/-- What is said to raise a fault ends with it. -/
theorem Raises.outcome_eq (h : k.Raises fault t) : k.outcome = (.error fault, t) := by
  unfold outcome Context.carryOut
  cases h with
  | single hx hfault =>
    dsimp only
    rw [Context.perform_of_single? hx, Op.framed_of_error hfault]
  | noScope hd hscope =>
    dsimp only
    rw [Context.perform, Op.framed_apply, Op.bind_of_ok hd, if_pos rfl, hscope]
    rfl
  | noRail hrail =>
    dsimp only
    rw [Context.perform, hrail]
    rfl
  | noRule hr =>
    dsimp only
    rw [Context.callRule_of_none hr]
    rfl
  | notCallable hr hc =>
    dsimp only
    rw [Context.callRule_of_some hr, hc]
    rfl
  | noDevice hp hd => exact Context.resolvePresence_of_unknown hp hd
  | circular hp hd hdetecting =>
    dsimp only
    rw [Context.resolvePresence_of_device hp hd, if_pos hdetecting]

/-- A fault that is raised has passed nothing but the action that raises it. -/
theorem Raises.frames (h : k.Raises fault t) : ∀ frame ∈ fault.frames, ∃ text, frame = .action text := by
  have within : ∀ {inner : Fault} {text}, inner.frames = [] →
      ∀ frame ∈ (inner.within (.action text)).frames, ∃ text, frame = .action text := fun hinner frame hframe => by
    rw [Fault.frames_within, hinner] at hframe
    exact ⟨_, List.mem_singleton.mp hframe⟩
  cases h with
  | @single c a x s inner t hx hinner =>
    have hstops := Context.stops_single hx s
    rw [hinner] at hstops
    exact within hstops.frames_eq_nil
  | noScope _ hscope => exact within (Context.simple_of_requireScope hscope).frames
  | noRail hrail => exact within (Context.simple_of_requireActiveRail hrail).frames
  | noRule => exact nofun
  | notCallable _ hc =>
    obtain ⟨reason, rfl, -⟩ := Context.requireCallable_eq_error hc
    exact nofun
  | noDevice => exact nofun
  | circular => exact nofun

/-- Only the refusal to call a rule is about the rules under way. It tells them, and how deep the rule would be. -/
theorem Raises.recursion {rule reason : String} {depth : Nat} {chain : List String} (h : k.Raises fault t)
    (hcause : fault.cause = .ruleRecursion rule depth reason chain) :
    chain = k.context.ruleChain ∧ depth = chain.length + 1 ∧ (rule ∈ chain ∨ k.context.maxRuleDepth < depth) := by
  have never : ∀ {inner : Fault} {frame}, inner.cause.isRecursion = false →
      (inner.within frame).cause ≠ .ruleRecursion rule depth reason chain := fun hinner hcause => by
    rw [Fault.cause_within] at hcause
    rw [hcause] at hinner
    cases hinner
  cases h with
  | @single c a x s inner t hx hinner =>
    have hstops := Context.stops_single hx s
    rw [hinner] at hstops
    exact absurd hcause (never hstops.not_recursion)
  | noScope _ hscope => exact absurd hcause (never (Context.simple_of_requireScope hscope).recursion)
  | noRail hrail => exact absurd hcause (never (Context.simple_of_requireActiveRail hrail).recursion)
  | noRule => cases hcause
  | notCallable _ hc =>
    obtain ⟨reason, rfl, hrefused⟩ := Context.requireCallable_eq_error hc
    cases hcause
    exact ⟨rfl, rfl, hrefused⟩
  | noDevice => cases hcause
  | circular => cases hcause

/-- A fault has come up to a call from one that it made. -/
structure Passes (k k' : Call σ) : Prop where
  makes : k.Makes k'
  plain : k.task.isPresence = false
  fault : ∃ fault t, k'.outcome = (.error fault, t) ∧ k.outcome = (.error (fault.through k.task), t)

/-- On the way to a call that is made, rules are entered just where faults on their way back pass a rule frame. -/
theorem Makes.ruleChain (h : k.Makes k') (hplain : k.task.isPresence = false) :
    k'.context.ruleChain = k.context.ruleChain ++ k.task.frame?.toList.filterMap Frame.rule? := by
  cases h with
  | rule => rfl
  | detection => cases hplain
  | _ => exact (List.append_nil _).symm

/-- A fault that a call ends with, followed down to the call that raised it. -/
structure Traces (k : Call σ) (fault : Fault) (t : State σ) (k' : Call σ) (raised : Fault) : Prop where
  path : Relation.ReflTransGen Passes k k'
  raises : k'.Raises raised t
  cause : raised.cause = fault.cause
  inner : ∀ frame ∈ fault.frames, frame.device? = none ∧ frame.rail? = none
  rules : k'.context.ruleChain = k.context.ruleChain ++ fault.frames.filterMap Frame.rule?

theorem Raises.traces (h : k.Raises fault t) : k.Traces fault t k fault where
  path := .refl
  raises := h
  cause := rfl
  inner frame hframe := by
    obtain ⟨text, rfl⟩ := h.frames frame hframe
    exact ⟨rfl, rfl⟩
  rules := by
    have hnone : fault.frames.filterMap Frame.rule? = [] := List.filterMap_eq_nil_iff.mpr fun frame hframe => by
      obtain ⟨text, rfl⟩ := h.frames frame hframe
      rfl
    rw [hnone, List.append_nil]

theorem Traces.through {raised : Fault} {k₀ : Call σ} (h : k'.Traces fault t k₀ raised) (hpasses : k.Passes k') :
    k.Traces (fault.through k.task) t k₀ raised where
  path := .head hpasses h.path
  raises := h.raises
  cause := by rw [Fault.cause_through, h.cause]
  inner frame hframe := by
    rw [Fault.frames_through, List.mem_append, Option.mem_toList] at hframe
    rcases hframe with hframe | hframe
    · unfold Task.frame? at hframe
      split at hframe <;> cases hframe <;> exact ⟨rfl, rfl⟩
    · exact h.inner frame hframe
  rules := by
    rw [h.rules, hpasses.makes.ruleChain hpasses.plain, Fault.frames_through, List.filterMap_append, List.append_assoc]

/-- Every fault that a call ends with can be traced to the call that raised it. -/
theorem traced (h : k.outcome = (.error fault, t)) : ∃ k' raised, k.Traces fault t k' raised := by
  suffices hall : ∀ (c : Context σ) task, ∀ s fault t, Call.outcome ⟨c, task, s⟩ = (.error fault, t) →
      ∃ k' raised, Traces ⟨c, task, s⟩ fault t k' raised from hall k.context k.task k.state fault t h
  refine Context.carryOut_induct fun c task ih s fault t h => ?_
  have hends := Call.ends ⟨c, task, s⟩
  rw [h] at hends
  cases hends with
  | raises hraises => exact ⟨_, _, hraises.traces⟩
  | @passes _ k' inner _ hmakes hplain hinner =>
    obtain ⟨k₀, raised, htraces⟩ := ih _ _ hmakes.enters k'.state inner t hinner
    exact ⟨k₀, raised, htraces.through ⟨hmakes, hplain, inner, t, hinner, h⟩⟩

end

end Call
end
end PowerRails
