import Mathlib.Logic.Relation
import PowerRails.Proofs.Task

/-! # Combinators

Two actions are equal in a plant if it makes no difference which of them is carried out there: they answer alike or
fail with the same fault, and they leave the same state, which holds everything that was done to the hardware. Parts of
an action have effects and may fail, and still the combinators obey the laws of Boolean algebra up to this equality,
because both sides of a law come to the same parts in the same order and pass faults on as they are. Every way to build
an action respects equality, so that any part of an action may be replaced by an equal one. -/

namespace PowerRails

namespace Sequence
variable {α β : Type}

/-- Applies a function to each element. -/
def map (f : α → β) (s : Sequence α) : Sequence β := ⟨f s.first, s.rest.map f⟩

/-- A sequence with more items before and after it. -/
def between (before : List α) (s : Sequence α) (after : List α) : Sequence α :=
  match before with
  | [] => ⟨s.first, s.rest ++ after⟩
  | a :: before => ⟨a, before ++ s.toList ++ after⟩

@[simp] theorem toList_map (f : α → β) (s : Sequence α) : (s.map f).toList = s.toList.map f := rfl

@[simp] theorem toList_between (before : List α) (s : Sequence α) (after : List α) :
    (between before s after).toList = before ++ s.toList ++ after := by
  cases before <;> rfl

end Sequence

section
variable {σ : Type}

namespace Context

/-- Carries out actions until one gives the answer `stop`. -/
def untilAnswer (c : Context σ) (stop : Bool) : List Action → Op σ Bool
  | [] => pure (!stop)
  | a :: as => do if (← c.perform a) = stop then pure stop else c.untilAnswer stop as

variable (c : Context σ)

theorem perform_allOf (as : Sequence Action) : c.perform (.allOf as) = c.untilAnswer false as.toList := by
  rw [perform]
  induction as.toList with
  | nil =>
    rw [everyOf]
    rfl
  | cons a as ih =>
    rw [everyOf, untilAnswer, ih]
    refine bind_congr fun b => ?_
    cases b <;> rfl

theorem perform_anyOf (as : Sequence Action) : c.perform (.anyOf as) = c.untilAnswer true as.toList := by
  rw [perform]
  induction as.toList with
  | nil =>
    rw [someOf]
    rfl
  | cons a as ih =>
    rw [someOf, untilAnswer, ih]

theorem untilAnswer_append (stop : Bool) (as bs : List Action) :
    c.untilAnswer stop (as ++ bs) =
      (do if (← c.untilAnswer stop as) = stop then pure stop else c.untilAnswer stop bs) := by
  induction as with
  | nil =>
    rw [untilAnswer, pure_bind, if_neg (by cases stop <;> decide)]
    rfl
  | cons a as ih =>
    rw [List.cons_append, untilAnswer, untilAnswer, ih, bind_assoc]
    refine bind_congr fun b => ?_
    split
    · rw [pure_bind, if_pos rfl]
    · rfl

theorem untilAnswer_singleton (stop : Bool) (a : Action) : c.untilAnswer stop [a] = c.perform a := by
  refine (bind_congr fun b => ?_).trans (bind_pure (c.perform a))
  cases b <;> cases stop <;> rfl

theorem untilAnswer_between (stop : Bool) (before after : List Action) {as bs : Sequence Action}
    (h : c.untilAnswer stop as.toList = c.untilAnswer stop bs.toList) :
    c.untilAnswer stop (as.between before after).toList = c.untilAnswer stop (bs.between before after).toList := by
  simp only [Sequence.toList_between, untilAnswer_append, h]

/-- Negations come to an end with the same action, at the opposite answer. -/
theorem untilAnswer_negation (stop : Bool) (as : List Action) :
    c.untilAnswer stop (as.map .negation) = (do pure (!(← c.untilAnswer (!stop) as))) := by
  induction as with
  | nil => rw [List.map_nil, untilAnswer, untilAnswer, pure_bind, Bool.not_not]
  | cons a as ih =>
    rw [List.map_cons, untilAnswer, untilAnswer, ih, perform, bind_assoc, bind_assoc]
    refine bind_congr fun b => ?_
    cases b <;> cases stop <;> rfl

end Context

/-- It makes no difference in a plant which of two actions is carried out. -/
def Action.EqualIn (p : Plant σ) (a b : Action) : Prop := ∀ c : Context σ, c.plant = p → c.perform a = c.perform b

/-- It makes no difference in a plant which of two procedures is carried out. -/
def Procedure.EqualIn (p : Plant σ) (as bs : Procedure) : Prop :=
  ∀ c : Context σ, c.plant = p → c.inOrder as = c.inOrder bs

/-! ### Laws -/

namespace Action
variable (p : Plant σ)

theorem negation_negation_equal (a : Action) : (negation (.negation a)).EqualIn p a := fun c _ => by
  rw [Context.perform, Context.perform, bind_assoc]
  refine (bind_congr fun b => ?_).trans (bind_pure (c.perform a))
  cases b <;> rfl

theorem negation_allOf_equal (as : Sequence Action) :
    (negation (.allOf as)).EqualIn p (.anyOf (as.map .negation)) := fun c _ => by
  rw [c.perform_anyOf, Context.perform, c.perform_allOf]
  exact (c.untilAnswer_negation true as.toList).symm

theorem negation_anyOf_equal (as : Sequence Action) :
    (negation (.anyOf as)).EqualIn p (.allOf (as.map .negation)) := fun c _ => by
  rw [c.perform_allOf, Context.perform, c.perform_anyOf]
  exact (c.untilAnswer_negation false as.toList).symm

theorem allOf_flatten_equal (before : List Action) (as : Sequence Action) (after : List Action) :
    (allOf (.between before ⟨.allOf as, []⟩ after)).EqualIn p (.allOf (.between before as after)) := fun c _ => by
  rw [c.perform_allOf, c.perform_allOf]
  refine c.untilAnswer_between false before after ?_
  exact (c.untilAnswer_singleton false (.allOf as)).trans (c.perform_allOf as)

theorem anyOf_flatten_equal (before : List Action) (as : Sequence Action) (after : List Action) :
    (anyOf (.between before ⟨.anyOf as, []⟩ after)).EqualIn p (.anyOf (.between before as after)) := fun c _ => by
  rw [c.perform_anyOf, c.perform_anyOf]
  refine c.untilAnswer_between true before after ?_
  exact (c.untilAnswer_singleton true (.anyOf as)).trans (c.perform_anyOf as)

theorem branch_swap_equal (a : Action) (as bs : Sequence Action) :
    (branch a as (some bs)).EqualIn p (.branch (.negation a) bs (some as)) := fun c _ => by
  rw [Context.perform, Context.perform, Context.perform, bind_assoc]
  refine bind_congr fun b => ?_
  cases b <;> rfl

end Action

/-! ### Replacing a part -/

namespace Plant

/-- One action is the other with a part replaced by an equal one. -/
inductive Replaces (p : Plant σ) : Action → Action → Prop
  | whole {a b} : a.EqualIn p b → Replaces p a b
  | allOf {before a b after} : Replaces p a b →
      Replaces p (.allOf (.between before ⟨a, []⟩ after)) (.allOf (.between before ⟨b, []⟩ after))
  | anyOf {before a b after} : Replaces p a b →
      Replaces p (.anyOf (.between before ⟨a, []⟩ after)) (.anyOf (.between before ⟨b, []⟩ after))
  | negation {a b} : Replaces p a b → Replaces p (.negation a) (.negation b)
  | condition {a b as bs} : Replaces p a b → Replaces p (.branch a as bs) (.branch b as bs)
  | consequent {condition before a b after bs} : Replaces p a b →
      Replaces p (.branch condition (.between before ⟨a, []⟩ after) bs)
        (.branch condition (.between before ⟨b, []⟩ after) bs)
  | alternative {condition as before a b after} : Replaces p a b →
      Replaces p (.branch condition as (some (.between before ⟨a, []⟩ after)))
        (.branch condition as (some (.between before ⟨b, []⟩ after)))
  | inDevice {device rail before a b after} : Replaces p a b →
      Replaces p (.inDevice device rail (.between before ⟨a, []⟩ after))
        (.inDevice device rail (.between before ⟨b, []⟩ after))
  | inRail {rail before a b after} : Replaces p a b →
      Replaces p (.inRail rail (.between before ⟨a, []⟩ after)) (.inRail rail (.between before ⟨b, []⟩ after))

/-- One procedure is the other with some parts of its actions replaced, one after another, by equal ones. -/
def Rewrites (p : Plant σ) : Procedure → Procedure → Prop :=
  Relation.ReflTransGen fun as bs => ∃ before a b after, p.Replaces a b ∧
    as = .between before ⟨a, []⟩ after ∧ bs = .between before ⟨b, []⟩ after

end Plant

section
variable {p : Plant σ} {a b : Action} {before after : List Action}

/-- Of a procedure only the last answer counts, but everything before it is done. -/
theorem Context.inOrder_cons (c : Context σ) (a : Action) (as : Sequence Action) :
    c.inOrder ⟨a, as.toList⟩ = c.perform a >>= fun _ => c.inOrder as := by
  obtain ⟨b, bs⟩ := as
  rw [show (⟨b, bs⟩ : Sequence Action).toList = b :: bs from rfl, Context.inOrder]

theorem Action.EqualIn.between (h : a.EqualIn p b) (before after : List Action) :
    Procedure.EqualIn p (.between before ⟨a, []⟩ after) (.between before ⟨b, []⟩ after) := fun c hc => by
  induction before with
  | nil =>
    cases after with
    | nil =>
      show c.inOrder ⟨a, []⟩ = c.inOrder ⟨b, []⟩
      rw [Context.inOrder, Context.inOrder, h c hc]
    | cons x after =>
      show c.inOrder ⟨a, x :: after⟩ = c.inOrder ⟨b, x :: after⟩
      rw [Context.inOrder, Context.inOrder, h c hc]
  | cons x before ih =>
    have hcons : ∀ y : Action, c.inOrder (.between (x :: before) ⟨y, []⟩ after) =
        c.perform x >>= fun _ => c.inOrder (.between before ⟨y, []⟩ after) := fun y => by
      rw [← c.inOrder_cons, Sequence.toList_between]
      rfl
    rw [hcons, hcons, ih]

theorem Action.EqualIn.untilAnswer (h : a.EqualIn p b) {c : Context σ} (hc : c.plant = p) (stop : Bool)
    (before after : List Action) : c.untilAnswer stop (Sequence.between before ⟨a, []⟩ after).toList =
      c.untilAnswer stop (Sequence.between before ⟨b, []⟩ after).toList := by
  refine c.untilAnswer_between stop before after ?_
  exact (c.untilAnswer_singleton stop a).trans ((h c hc).trans (c.untilAnswer_singleton stop b).symm)

/-- Replacing a part by an equal one makes no difference to the whole. -/
theorem Plant.Replaces.equal (h : p.Replaces a b) : a.EqualIn p b := by
  induction h with
  | whole h => exact h
  | allOf _ ih =>
    intro c hc
    rw [c.perform_allOf, c.perform_allOf, ih.untilAnswer hc]
  | anyOf _ ih =>
    intro c hc
    rw [c.perform_anyOf, c.perform_anyOf, ih.untilAnswer hc]
  | negation _ ih =>
    intro c hc
    rw [Context.perform, Context.perform, ih c hc]
  | condition _ ih =>
    intro c hc
    rw [Context.perform.eq_def, Context.perform.eq_def c (.branch _ _ _)]
    dsimp only
    rw [ih c hc]
  | @consequent condition before a b after bs _ ih =>
    intro c hc
    rw [Context.perform.eq_def, Context.perform.eq_def c (.branch _ _ _)]
    dsimp only
    rw [ih.between before after c hc]
  | @alternative condition as before a b after _ ih =>
    intro c hc
    rw [Context.perform, Context.perform, ih.between before after c hc]
  | @inDevice device rail before a b after _ ih =>
    intro c hc
    rw [Context.perform, Context.perform, ih.between before after (c.enter ⟨device, rail⟩) hc]
    rfl
  | @inRail rail before a b after _ ih =>
    intro c hc
    rw [Context.perform, Context.perform, ih.between before after (c.inRail rail) hc]
    rfl

theorem Plant.Rewrites.equal {as bs : Procedure} (h : p.Rewrites as bs) : as.EqualIn p bs := by
  induction h with
  | refl => exact fun _ _ => rfl
  | tail _ hstep ih =>
    obtain ⟨before, a, b, after, hreplaces, rfl, rfl⟩ := hstep
    exact fun c hc => (ih c hc).trans (hreplaces.equal.between before after c hc)

end
end
end PowerRails
