import PowerRails.Proofs.Growth

/-! # Calls

A task that is carried out somewhere on some state is a call, and while it is carried out it makes further calls.
`Call.Makes` says which, with the state that each of them finds; so it is the recursion of the six functions as it
takes place, where `Context.Enters` only says what may be reached. What a call leaves behind, the calls that led to
it only add to. -/

namespace PowerRails

/-- A task that is carried out, with where that is done and on what. -/
structure Call (σ : Type) where
  context : Context σ
  task : Task
  state : State σ

section
variable {σ α β : Type}

namespace Call

/-- How a call ends. -/
def outcome (k : Call σ) : Except Fault Bool × State σ := k.context.carryOut k.task k.state

/-- While it is carried out, a call directly makes another. -/
inductive Makes : Call σ → Call σ → Prop
  | allOf {c s as} : Makes ⟨c, .action (.allOf as), s⟩ ⟨c, .every as.toList, s⟩
  | anyOf {c s as} : Makes ⟨c, .action (.anyOf as), s⟩ ⟨c, .any as.toList, s⟩
  | negation {c s a} : Makes ⟨c, .action (.negation a), s⟩ ⟨c, .action a, s⟩
  | condition {c s a as bs} : Makes ⟨c, .action (.branch a as bs), s⟩ ⟨c, .action a, s⟩
  | consequent {c s t a as bs} : c.perform a s = (.ok true, t) →
      Makes ⟨c, .action (.branch a as bs), s⟩ ⟨c, .inOrder as, t⟩
  | alternative {c s t a as bs} : c.perform a s = (.ok false, t) →
      Makes ⟨c, .action (.branch a as (some bs)), s⟩ ⟨c, .inOrder bs, t⟩
  | runRule {c s id} : Makes ⟨c, .action (.runRule id), s⟩ ⟨c, .rule id, s⟩
  | gate {c s d r as} : Makes ⟨c, .action (.inDevice d r as), s⟩ ⟨c, .presence d, s⟩
  | inDevice {c s t d r as} : c.resolvePresence d s = (.ok true, t) → c.requireScope d r = .ok () →
      Makes ⟨c, .action (.inDevice d r as), s⟩ ⟨c.enter ⟨d, r⟩, .inOrder as, t⟩
  | inRail {c s r as} : c.requireActiveRail r = .ok () →
      Makes ⟨c, .action (.inRail r as), s⟩ ⟨c.inRail r, .inOrder as, s⟩
  | comparePresence {c s d b} : Makes ⟨c, .action (.comparePresence d b), s⟩ ⟨c, .presence d, s⟩
  | everyHead {c s a as} : Makes ⟨c, .every (a :: as), s⟩ ⟨c, .action a, s⟩
  | everyTail {c s t a as} : c.perform a s = (.ok true, t) → Makes ⟨c, .every (a :: as), s⟩ ⟨c, .every as, t⟩
  | anyHead {c s a as} : Makes ⟨c, .any (a :: as), s⟩ ⟨c, .action a, s⟩
  | anyTail {c s t a as} : c.perform a s = (.ok false, t) → Makes ⟨c, .any (a :: as), s⟩ ⟨c, .any as, t⟩
  | first {c s a as} : Makes ⟨c, .inOrder ⟨a, as⟩, s⟩ ⟨c, .action a, s⟩
  | next {c s t a b bs answer} : c.perform a s = (.ok answer, t) →
      Makes ⟨c, .inOrder ⟨a, b :: bs⟩, s⟩ ⟨c, .inOrder ⟨b, bs⟩, t⟩
  | rule {c s id r} : c.plant.rule? id = some r → c.requireCallable id = .ok () →
      Makes ⟨c, .rule id, s⟩ ⟨c.inRule id, .inOrder r.actions, s⟩
  | detection {c s id d as} : s.presence.get? id c.cycle = none → c.plant.device? id = some d →
      d.detection = some as → id ∉ c.detecting →
      Makes ⟨c, .presence id, s⟩ ⟨c.detached id, .inOrder as, (Op.note (.detection id) s).2⟩

variable {k k' : Call σ}

theorem Makes.enters (h : k.Makes k') : k.context.Enters k.task k'.context k'.task := by
  cases h <;> constructor <;> assumption

/-- A call finds the state of its maker, or what another task that the maker carries out has left; a detection is noted
before. -/
theorem Makes.found (h : k.Makes k') : k'.state = k.state ∨
    (∃ t, k.context.Enters k.task k.context t ∧ k'.state = (k.context.carryOut t k.state).2) ∨
    ∃ id, k'.state = (Op.note (.detection id) k.state).2 := by
  have after : ∀ {c : Context σ} {t s answer u}, c.carryOut t s = (answer, u) → u = (c.carryOut t s).2 :=
    fun h => (congrArg Prod.snd h).symm
  cases h with
  | @consequent c s t a as bs ha => exact .inr (.inl ⟨.action a, .condition, after (t := .action a) ha⟩)
  | @alternative c s t a as bs ha => exact .inr (.inl ⟨.action a, .condition, after (t := .action a) ha⟩)
  | @inDevice c s t d r as hd => exact .inr (.inl ⟨.presence d, .gate, after (t := .presence d) hd⟩)
  | @everyTail c s t a as ha => exact .inr (.inl ⟨.action a, .everyHead, after (t := .action a) ha⟩)
  | @anyTail c s t a as ha => exact .inr (.inl ⟨.action a, .anyHead, after (t := .action a) ha⟩)
  | @next c s t a b bs answer ha => exact .inr (.inl ⟨.action a, .first, after (t := .action a) ha⟩)
  | detection => exact .inr (.inr ⟨_, rfl⟩)
  | _ => exact .inl rfl

end Call

/-- A context and one that is entered from it, at any depth: they are of one plant and cycle, and no detection
that is under way outside is over inside. -/
structure Context.Inside (c c' : Context σ) : Prop where
  plant : c'.plant = c.plant
  cycle : c'.cycle = c.cycle
  detecting : c.detecting ⊆ c'.detecting

theorem Context.Inside.refl (c : Context σ) : c.Inside c := ⟨rfl, rfl, List.Subset.refl _⟩

theorem Context.Inside.trans {c c' c'' : Context σ} (h : c.Inside c') (h' : c'.Inside c'') : c.Inside c'' :=
  ⟨h'.plant.trans h.plant, h'.cycle.trans h.cycle, List.Subset.trans h.detecting h'.detecting⟩

theorem Context.Enters.inside {c c' : Context σ} {t t' : Task} (h : c.Enters t c' t') : c.Inside c' := by
  cases h with
  | detection => exact ⟨rfl, rfl, List.subset_append_left _ _⟩
  | _ => exact ⟨rfl, rfl, List.Subset.refl _⟩

theorem Grows.outward {c c' : Context σ} {s t : State σ} (h : Grows c' s t) (hc : c.Inside c') : Grows c s t :=
  h.of_context hc.plant hc.cycle hc.detecting

/-- What is still to be done after a part of some work only adds to what the part left. -/
theorem Grows.rest {c : Context σ} {s : State σ} {x : Op σ α} {f : α → Op σ β}
    (hf : ∀ a t, x s = (.ok a, t) → Grows c t (f a t).2) : Grows c (x s).2 ((x >>= f) s).2 := by
  rw [Op.bind_apply]
  rcases hx : x s with ⟨fault | a, t⟩
  · exact Grows.refl c t
  · exact hf a t hx

theorem Grows.rest_of_ok {c : Context σ} {s t u : State σ} {x : Op σ α} {f : α → Op σ β} {a : α}
    (hx : x s = (.ok a, t)) (hf : Grows c u (f a t).2) : Grows c u ((x >>= f) s).2 := by
  rw [Op.bind_apply, hx]
  exact hf

theorem Context.presence_detectionVerdict (id : String) (outcome : Except Fault Bool) (s : State σ) :
    (detectionVerdict id outcome s).2.presence = s.presence := by cases outcome <;> rfl

namespace Call
variable {k k' : Call σ}

/-- What a call leaves behind, the call that made it only adds to. -/
theorem Makes.grows (h : k.Makes k') : Grows k.context k'.outcome.2 k.outcome.2 := by
  have whole : ∀ (c : Context σ) t s, Grows c s (c.carryOut t s).2 := fun c t s => c.grows_carryOut t s
  have law := growing_law σ
  -- The maker does nothing more, or goes on with `whole` work in its own context or one that is entered from it.
  cases h with
  | @allOf c s as =>
    show Grows c (c.everyOf as.toList s).2 (c.perform (.allOf as) s).2
    rw [Context.perform]
    exact .refl c _
  | @anyOf c s as =>
    show Grows c (c.someOf as.toList s).2 (c.perform (.anyOf as) s).2
    rw [Context.perform]
    exact .refl c _
  | @negation c s a =>
    show Grows c (c.perform a s).2 (c.perform (.negation a) s).2
    rw [Context.perform]
    exact .rest fun _ _ _ => .refl c _
  | @condition c s a as bs =>
    show Grows c (c.perform a s).2 (c.perform (.branch a as bs) s).2
    rw [Context.perform.eq_def c (.branch a as bs)]
    refine .rest fun b t _ => ?_
    cases b with
    | true => exact whole c (.inOrder as) t
    | false =>
      cases bs with
      | none => exact .refl c t
      | some bs => exact whole c (.inOrder bs) t
  | @consequent c s t a as bs ha =>
    show Grows c (c.inOrder as t).2 (c.perform (.branch a as bs) s).2
    rw [Context.perform.eq_def c (.branch a as bs)]
    exact .rest_of_ok ha (.refl c _)
  | @alternative c s t a as bs ha =>
    show Grows c (c.inOrder bs t).2 (c.perform (.branch a as (some bs)) s).2
    rw [Context.perform]
    exact .rest_of_ok ha (.refl c _)
  | @runRule c s id =>
    show Grows c (c.callRule id s).2 (c.perform (.runRule id) s).2
    rw [Context.perform]
    exact .refl c _
  | @gate c s d r as =>
    show Grows c (c.resolvePresence d s).2 (c.perform (.inDevice d r as) s).2
    rw [Context.perform, Op.framed_apply]
    refine .rest fun b t _ => ?_
    cases b with
    | false => exact .rest_of_ok rfl (.pushFinding _)
    | true =>
      cases hscope : c.requireScope d r with
      | error fault => exact .refl c t
      | ok u =>
        have hbody := whole (c.enter ⟨d, r⟩) (.inOrder as) t
        exact .rest_of_ok rfl (hbody.outward ⟨rfl, rfl, List.Subset.refl _⟩)
  | @inDevice c s t d r as hd hscope =>
    show Grows c ((c.enter ⟨d, r⟩).inOrder as t).2 (c.perform (.inDevice d r as) s).2
    rw [Context.perform, Op.framed_apply]
    refine .rest_of_ok hd ?_
    rw [if_pos rfl, hscope]
    exact .refl c _
  | @inRail c s r as hrail =>
    show Grows c ((c.inRail r).inOrder as s).2 (c.perform (.inRail r as) s).2
    rw [Context.perform, Op.framed_apply, hrail]
    exact .refl c _
  | @comparePresence c s d b =>
    show Grows c (c.resolvePresence d s).2 (c.perform (.comparePresence d b) s).2
    rw [Context.perform, Op.framed_apply]
    exact .rest fun _ _ _ => .refl c _
  | @everyHead c s a as =>
    show Grows c (c.perform a s).2 (c.everyOf (a :: as) s).2
    rw [Context.everyOf]
    refine .rest fun b t _ => ?_
    cases b with
    | true => exact whole c (.every as) t
    | false => exact .refl c t
  | @everyTail c s t a as ha =>
    show Grows c (c.everyOf as t).2 (c.everyOf (a :: as) s).2
    rw [Context.everyOf]
    exact .rest_of_ok ha (.refl c _)
  | @anyHead c s a as =>
    show Grows c (c.perform a s).2 (c.someOf (a :: as) s).2
    rw [Context.someOf]
    refine .rest fun b t _ => ?_
    cases b with
    | true => exact .refl c t
    | false => exact whole c (.any as) t
  | @anyTail c s t a as ha =>
    show Grows c (c.someOf as t).2 (c.someOf (a :: as) s).2
    rw [Context.someOf.eq_def c (a :: as)]
    exact .rest_of_ok ha (.refl c _)
  | @first c s a as =>
    show Grows c (c.perform a s).2 (c.inOrder ⟨a, as⟩ s).2
    cases as with
    | nil =>
      rw [Context.inOrder]
      exact .refl c _
    | cons b bs =>
      rw [Context.inOrder]
      exact .rest fun _ t _ => whole c (.inOrder ⟨b, bs⟩) t
  | @next c s t a b bs answer ha =>
    show Grows c (c.inOrder ⟨b, bs⟩ t).2 (c.inOrder ⟨a, b :: bs⟩ s).2
    rw [Context.inOrder.eq_def c ⟨a, b :: bs⟩]
    exact .rest_of_ok ha (.refl c _)
  | @rule c s id r hr hc =>
    show Grows c ((c.inRule id).inOrder r.actions s).2 (c.callRule id s).2
    rw [Context.callRule_of_some hr, hc]
    exact .refl c _
  | @detection c s id d as hp hd has hnew =>
    show Grows c ((c.detached id).inOrder as (Op.note (.detection id) s).2).2 (c.resolvePresence id s).2
    -- The verdict is kept for a device that the detection itself has left unresolved.
    have hself : id ∈ (c.detached id).detecting := by simp [Context.detached]
    have hnone := law.unresolved (whole (c.detached id) (.inOrder as) (Op.note (.detection id) s).2) hself hp
    rw [Context.resolvePresence_of_detection hp hd hnew has]
    refine .rest_of_ok rfl (.rest_of_ok rfl (law.bind (.detectionVerdict id _) fun present u hu => ?_))
    have hu : u.presence = _ := (congrArg (·.2.presence) hu).symm
    refine Grows.keepPresence present hd hnew ?_
    rw [hu, Context.presence_detectionVerdict]
    exact hnone

/-- From a call, calls lead to others and to itself. -/
abbrev Leads : Call σ → Call σ → Prop := Relation.ReflTransGen Makes

theorem Leads.inside (h : k.Leads k') : k.context.Inside k'.context := by
  induction h with
  | refl => exact .refl _
  | tail _ hmakes ih => exact ih.trans hmakes.enters.inside

theorem Leads.grows (h : k.Leads k') : Grows k.context k'.outcome.2 k.outcome.2 := by
  induction h using Relation.ReflTransGen.head_induction_on with
  | refl => exact .refl _ _
  | head hmakes _ ih => exact (ih.outward hmakes.enters.inside).trans hmakes.grows

end Call
end
end PowerRails
