import PowerRails.Proofs.Call.Work
import PowerRails.Proofs.Rows

/-! # Where recorded faults come from

A recorded fault has come up through its device, through a rail of the device if it arose in work on that rail, and
through the rules that were under way where it was raised, the outermost first. So the frames of the fault tell these
rules. No rule is among them twice and there are never more than the limit allows, and a refusal to call another one
tells just them. -/

namespace PowerRails

section
variable {σ : Type}

/-! ### The rules under way -/

/-- The rules under way are different rules of a plant, and no more than a limit allows. -/
structure Context.Orderly (p : Plant σ) (limit : Nat) (c : Context σ) : Prop where
  plant : c.plant = p
  maxRuleDepth : c.maxRuleDepth = limit
  distinct : c.ruleChain.Nodup
  registered : ∀ id ∈ c.ruleChain, ∃ r, p.rule? id = some r
  length_le : c.ruleChain.length ≤ limit

section
variable {p : Plant σ} {limit : Nat} {c c' : Context σ} {t t' : Task} {k k' : Call σ}

/-- The rules under way stay orderly in all contexts that are entered. -/
theorem Context.Orderly.enters (h : c.Orderly p limit) (he : c.Enters t c' t') : c'.Orderly p limit := by
  cases he with
  | @rule id r hr hc =>
    obtain ⟨hnew, hlength⟩ := Context.requireCallable_eq_ok hc
    refine ⟨h.plant, h.maxRuleDepth, ?_, fun other hother => ?_, ?_⟩
    · exact List.nodup_append.mpr ⟨h.distinct, List.nodup_singleton id, fun a ha b hb => by
        rw [List.mem_singleton.mp hb]
        exact fun heq => hnew (heq ▸ ha)⟩
    · rcases List.mem_append.mp hother with hother | hother
      · exact h.registered other hother
      · rw [List.mem_singleton.mp hother, ← h.plant]
        exact ⟨r, hr⟩
    · rw [← h.maxRuleDepth]
      exact (List.length_append ▸ hlength : (c.ruleChain ++ [id]).length ≤ c.maxRuleDepth)
  | detection => exact ⟨h.plant, h.maxRuleDepth, List.nodup_nil, nofun, Nat.zero_le _⟩
  | _ => exact ⟨h.plant, h.maxRuleDepth, h.distinct, h.registered, h.length_le⟩

theorem Call.orderly_of_path (h : k.context.Orderly p limit) (hpath : Relation.ReflTransGen Call.Passes k k') :
    k'.context.Orderly p limit := by
  induction hpath with
  | refl => exact h
  | tail _ hpasses ih => exact ih.enters hpasses.makes.enters

end

/-! ### Work on a device -/

/-- A cause of a fault arises in the work on a device, for the device itself or for a rail, while rules are under
way: in a call, or in the refusal to work on a rail. -/
inductive Context.Arises (c : Context σ) (kind : RunKind) (d : Device σ) (s : State σ) :
    Option String → List String → Cause → Prop
  | call {rail k k' raised t} : c.WorkMakes kind d s rail k → Relation.ReflTransGen Call.Passes k k' →
      k'.Raises raised t → Arises c kind d s rail k'.context.ruleChain raised.cause
  | refusal {before r after t u v fault} : c.ownWork d kind s = (.ok (), t) → d.rails = before ++ r :: after →
      eachRail (c.railWork kind) before t = (.ok (), u) → c.RailRefuses kind r u fault v →
      Arises c kind d s (some r.id) c.ruleChain fault.cause

section
variable {c : Context σ} {kind : RunKind} {d : Device σ} {s t : State σ} {p : Plant σ} {limit : Nat}

theorem Context.WorkMakes.context_eq {rail : Option String} {k : Call σ} (h : c.WorkMakes kind d s rail k) :
    k.context.plant = c.plant ∧ k.context.maxRuleDepth = c.maxRuleDepth ∧ k.context.ruleChain = c.ruleChain := by
  cases h with
  | own h => cases h <;> exact ⟨rfl, rfl, rfl⟩
  | rail _ _ _ h => cases h <;> exact ⟨rfl, rfl, rfl⟩

theorem Context.Orderly.workMakes {rail : Option String} {k : Call σ} (h : c.Orderly p limit)
    (hmakes : c.WorkMakes kind d s rail k) : k.context.Orderly p limit := by
  obtain ⟨hplant, hdepth, hchain⟩ := hmakes.context_eq
  exact ⟨hplant.trans h.plant, hdepth.trans h.maxRuleDepth, hchain ▸ h.distinct, hchain ▸ h.registered,
    hchain ▸ h.length_le⟩

/-- What is known of a fault of work on a device, and of the frames that it passed inside. -/
structure Provenance (c : Context σ) (kind : RunKind) (d : Device σ) (s : State σ) (fault : Fault)
    (rail : Option String) (inside : List Frame) : Prop where
  origin : c.Arises kind d s rail (inside.filterMap Frame.rule?) fault.cause
  frames : fault.frames = .device d.id :: (rail.map Frame.rail).toList ++ inside
  /-- Inside there are frames of rules and actions only. -/
  plain : ∀ frame ∈ inside, frame.device? = none ∧ frame.rail? = none
  distinct : (inside.filterMap Frame.rule?).Nodup
  registered : ∀ id ∈ inside.filterMap Frame.rule?, ∃ r, c.plant.rule? id = some r
  length_le : (inside.filterMap Frame.rule?).length ≤ c.maxRuleDepth
  recursion : ∀ rule depth reason chain, fault.cause = .ruleRecursion rule depth reason chain →
    chain = inside.filterMap Frame.rule? ∧ depth = chain.length + 1 ∧ (rule ∈ chain ∨ c.maxRuleDepth < depth)

/-- Work that starts with no rule under way fails with a fault of known provenance. -/
theorem provenance_of_work {fault : Fault} (hchain : c.ruleChain = []) (h : c.work kind d s = (.error fault, t)) :
    ∃ rail inside, Provenance c kind d s fault rail inside := by
  have horderly : c.Orderly c.plant c.maxRuleDepth :=
    ⟨rfl, rfl, hchain ▸ List.nodup_nil, by rw [hchain]; exact nofun, by rw [hchain]; exact Nat.zero_le _⟩
  obtain ⟨rail, inner, hcause, hframes, hsource⟩ := Context.work_eq_error h
  rcases hsource with ⟨k, u, hmakes, hk, -⟩ | ⟨before, r, after, u, v, rfl, hown, hsplit, hbefore, href⟩
  · obtain ⟨k', raised, htraces⟩ := Call.traced hk
    have hrules : k'.context.ruleChain = inner.frames.filterMap Frame.rule? := by
      rw [htraces.rules, hmakes.context_eq.2.2, hchain, List.nil_append]
    have hinside := Call.orderly_of_path (horderly.workMakes hmakes) htraces.path
    have horigin := Context.Arises.call hmakes htraces.path htraces.raises
    rw [hrules, htraces.cause, ← hcause] at horigin
    refine ⟨rail, inner.frames, horigin, hframes, htraces.inner, hrules ▸ hinside.distinct, hrules ▸ hinside.registered,
      hrules ▸ hinside.length_le, fun rule depth reason chain hrecursion => ?_⟩
    have hraised : raised.cause = .ruleRecursion rule depth reason chain :=
      htraces.cause.trans (hcause.symm.trans hrecursion)
    rw [← hrules, ← hinside.maxRuleDepth]
    exact htraces.raises.recursion hraised
  · have horigin := Context.Arises.refusal hown hsplit hbefore href
    rw [hchain, ← hcause] at horigin
    rw [href.simple.frames] at hframes
    refine ⟨some r.id, [], horigin, hframes, nofun, List.nodup_nil, nofun, Nat.zero_le _,
      fun rule depth reason chain hrecursion => ?_⟩
    have hnot := href.simple.recursion
    rw [← hcause, hrecursion] at hnot
    cases hnot

end

/-! ### Runs -/

namespace Controller
variable {ctl : Controller σ} {kind : RunKind} {before : List (Chassis σ × Device σ)} {place : Chassis σ × Device σ}
  {f : RecordedFault}

/-- The context of a visit, after the visits before it. -/
def contextOf (ctl : Controller σ) (kind : RunKind) (before : List (Chassis σ × Device σ))
    (place : Chassis σ × Device σ) : Context σ :=
  ctl.visitContext ctl.cycles (ctl.progress kind before).report.captures place.2.id

/-- A visit fails in the work on its device, once the device is known to be there. -/
theorem FailsAt.work (h : ctl.FailsAt kind before place f) : ∃ s u,
    (ctl.contextOf kind before place).resolvePresence place.2.id
        { hardware := (ctl.progress kind before).hardware, presence := (ctl.progress kind before).presence } =
      (.ok true, s) ∧
    (ctl.contextOf kind before place).work kind place.2 (Op.note (.log (.deviceVisited kind place.2.id)) s).2 =
      (.error f.fault, u) := by
  obtain ⟨after, hplaces⟩ := h.visited
  have hfault := h.fault
  obtain ⟨present, hsettles⟩ := settles kind (ctl.progress kind before) (hplaces ▸ by simp : place ∈ ctl.plant.places)
  obtain ⟨s, hs⟩ := hsettles.known
  cases present with
  | false =>
    rw [hsettles.absent rfl] at hfault
    cases hfault
  | true =>
    rcases hw : (ctl.contextOf kind before place).work kind place.2
      (Op.note (.log (.deviceVisited kind place.2.id)) s).2 with ⟨fault | _, u⟩
    · have hvisit : ctl.visitOf kind ctl.cycles (ctl.progress kind before) place = _ :=
        Context.visit_of_work_fault hs hw
      rw [hvisit] at hfault
      cases hfault
      exact ⟨s, u, hs, hw⟩
    · have hvisit : ctl.visitOf kind ctl.cycles (ctl.progress kind before) place = _ := Context.visit_of_work hs hw
      rw [hvisit] at hfault
      cases hfault

/-- Every fault in the report of a run has passed its device, then the rail of it at which it arose if there is one,
and then just the rules that were under way where it arose, and actions. -/
theorem run_traces_faults (ctl : Controller σ) (kind : RunKind) :
    ∃ r, (ctl.run kind).1.lastReport = some r ∧ ∀ f ∈ r.faults, ∃ before place s rail inside,
      ctl.FailsAt kind before place f ∧ f.device = place.2.id ∧
      (ctl.contextOf kind before place).resolvePresence place.2.id
          { hardware := (ctl.progress kind before).hardware, presence := (ctl.progress kind before).presence } =
        (.ok true, s) ∧
      Provenance (ctl.contextOf kind before place) kind place.2
        (Op.note (.log (.deviceVisited kind place.2.id)) s).2 f.fault rail inside := by
  refine ⟨_, rfl, fun f hf => ?_⟩
  obtain ⟨before, place, hfails⟩ := failsAt_of_mem hf
  obtain ⟨s, u, hpresent, hwork⟩ := hfails.work
  obtain ⟨rail, inside, hprovenance⟩ := provenance_of_work rfl hwork
  have hdevice : f.device = place.2.id := by
    rw [hfails.recorded]
    rfl
  exact ⟨before, place, s, rail, inside, hfails, hdevice, hpresent, hprovenance⟩

end Controller
end
end PowerRails
