import PowerRails.Proofs.Call.Outcome
import PowerRails.Proofs.Call.Run

/-! # How work on a device ends

A device is worked on by its own procedures and then rail by rail, and the first fault is the last thing that
happens, except that whoever was told that a rail is monitored is told that this is over. The fault has come up from
a call that was made for the device or for a rail, or from the refusal to work on a rail at all. -/

namespace PowerRails

section
variable {σ : Type}

namespace Context
variable {c : Context σ} {kind : RunKind} {d : Device σ} {r : Rail} {s t : State σ} {fault : Fault}

/-- The calls that the work on a device makes directly, for the device itself or for a rail, after all work that
comes before. -/
inductive WorkMakes (c : Context σ) (kind : RunKind) (d : Device σ) (s : State σ) : Option String → Call σ → Prop
  | own {k} : c.OwnMakes d s kind k → WorkMakes c kind d s none k
  | rail {before r after t u k} : c.ownWork d kind s = (.ok (), t) → d.rails = before ++ r :: after →
      eachRail (c.railWork kind) before t = (.ok (), u) → c.RailMakes r u kind k → WorkMakes c kind d s (some r.id) k

/-- A state, or the same after it has been told that the monitoring of a rail has failed. -/
def Settled (c : Context σ) (s t : State σ) : Prop := t = s ∨ t = (c.endRail true s).2

theorem endRail_ok (c : Context σ) (failed : Bool) (s : State σ) :
    c.endRail failed s = (.ok (), (c.endRail failed s).2) := by
  rw [endRail, tellService_apply]

theorem accesses_endRail (c : Context σ) (failed : Bool) (s : State σ) :
    Activity.accesses (c.endRail failed s).2.activity = Activity.accesses s.activity := by
  rw [endRail, tellService_apply, Activity.accesses_append, accesses_told, List.append_nil]

theorem Settled.accesses (h : c.Settled s t) : Activity.accesses t.activity = Activity.accesses s.activity := by
  rcases h with rfl | rfl
  · rfl
  · exact c.accesses_endRail true s

/-! ### Own procedures -/

/-- Work by the procedures of the device itself is one call, if it has any. -/
theorem ownWork_cases (c : Context σ) (d : Device σ) (kind : RunKind) (s : State σ) :
    c.ownWork d kind s = (.ok (), s) ∨
      ∃ k, c.OwnMakes d s kind k ∧ k.state = s ∧
        c.ownWork d kind s = (k.context.carryOut k.task >>= fun _ => pure ()) k.state := by
  cases kind with
  | configure =>
    unfold ownWork
    cases hk : d.configuration with
    | none => exact Or.inl rfl
    | some k => exact Or.inr ⟨_, .configuration hk, rfl, rfl⟩
  | monitor =>
    unfold ownWork
    cases has : d.monitoring with
    | none => exact Or.inl rfl
    | some as => exact Or.inr ⟨_, .monitoring has, rfl, rfl⟩

theorem ownWork_eq_error (h : c.ownWork d kind s = (.error fault, t)) :
    ∃ k, c.OwnMakes d s kind k ∧ k.outcome = (.error fault, t) := by
  rcases c.ownWork_cases d kind s with hnone | ⟨k, hmakes, -, hcall⟩
  · cases hnone.symm.trans h
  · rcases Op.bind_eq_error (hcall.symm.trans h) with hk | ⟨_, _, _, hpure⟩
    · exact ⟨k, hmakes, hk⟩
    · cases hpure

theorem ownWork_eq_ok {u : Unit} (h : c.ownWork d kind s = (.ok u, t)) :
    t = s ∨ ∃ k b, c.OwnMakes d s kind k ∧ k.state = s ∧ k.outcome = (.ok b, t) := by
  rcases c.ownWork_cases d kind s with hnone | ⟨k, hmakes, hstate, hcall⟩
  · cases hnone.symm.trans h
    exact Or.inl rfl
  · obtain ⟨b, v, hk, hpure⟩ := Op.bind_eq_ok (hcall.symm.trans h)
    cases hpure
    exact Or.inr ⟨k, b, hmakes, hstate, hk⟩

/-! ### Rails -/

/-- A rail is announced, or it cannot be, which is found out before anything is told. -/
theorem startRail_cases (c : Context σ) (rail : String) (s : State σ) :
    (∃ told, c.startRail rail s = (.ok (), { s with activity := s.activity ++ told }) ∧ Activity.accesses told = []) ∨
      ∃ fault, c.startRail rail s = (.error fault, s) ∧ fault.Simple := by
  unfold startRail
  split
  · cases hd : c.device with
    | error fault => exact Or.inr ⟨fault, rfl, simple_of_device hd⟩
    | ok d =>
      cases hchassis : c.plant.chassisOf d.id with
      | error fault =>
        have hsimple : fault.Simple := by
          unfold Plant.chassisOf at hchassis
          split at hchassis <;> cases hchassis
          exact ⟨rfl, rfl, rfl⟩
        refine Or.inr ⟨fault, ?_, hsimple⟩
        simp only [Op.bind_apply, Op.ofExcept_apply, hchassis]
      | ok chassis =>
        refine Or.inl ⟨_, ?_, c.accesses_told (.railStarted rail d.inventoryPath chassis.inventoryPath)⟩
        simp only [Op.bind_apply, Op.ofExcept_apply, hchassis, tellService_apply]
  · exact Or.inl ⟨[], by rw [List.append_nil]; rfl, rfl⟩

theorem startRail_eq_error {rail : String} (h : c.startRail rail s = (.error fault, t)) : fault.Simple ∧ t = s := by
  rcases c.startRail_cases rail s with ⟨told, hok, -⟩ | ⟨fault', herror, hsimple⟩
  · cases hok.symm.trans h
  · cases herror.symm.trans h
    exact ⟨hsimple, rfl⟩

theorem accesses_startRail {rail : String} {u : Unit} (h : c.startRail rail s = (.ok u, t)) :
    Activity.accesses t.activity = Activity.accesses s.activity := by
  rcases c.startRail_cases rail s with ⟨told, hok, htold⟩ | ⟨fault, herror, -⟩
  · cases hok.symm.trans h
    rw [Activity.accesses_append, htold, List.append_nil]
  · cases herror.symm.trans h

theorem configureRail_of_some {k : Configuration} (h : r.configuration = some k) :
    c.configureRail r = c.onRail r.id (·.applyConfiguration k) := by
  unfold configureRail
  rw [h]

/-- Once a rail has been announced, its end is told whatever comes of it. -/
theorem monitorRail_of_start {as : Procedure} {u : State σ} (has : r.monitoring = some as)
    (hstart : c.startRail r.id s = (.ok (), u)) : ∀ outcome v, c.onRail r.id (·.inOrder as) u = (outcome, v) →
      c.monitorRail r s = (outcome, (c.endRail (outcome matches .error _) v).2) := by
  intro outcome v hrail
  unfold monitorRail
  rw [has]
  dsimp only
  rw [Op.bind_of_ok (Op.framed_of_ok hstart), Op.bind_of_ok (Op.attempt_apply _ _), hrail]
  exact Op.bind_of_ok (c.endRail_ok _ v)

theorem onRail_eq_error {rail : String} {body : Context σ → Op σ Bool} (h : c.onRail rail body s = (.error fault, t)) :
    ∃ inner, fault = inner.within (.rail rail) ∧ ((c.requireActiveRail rail = .error inner ∧ t = s) ∨
      (c.requireActiveRail rail = .ok () ∧ body (c.inRail rail) s = (.error inner, t))) := by
  obtain ⟨inner, hbody, rfl⟩ := Op.framed_eq_error h
  refine ⟨inner, rfl, ?_⟩
  rcases Op.bind_eq_error hbody with hcheck | ⟨_, u, hcheck, hbody⟩
  · obtain ⟨hrail, rfl⟩ := Prod.mk.inj hcheck
    exact Or.inl ⟨hrail, rfl⟩
  · obtain ⟨hrail, rfl⟩ := Prod.mk.inj hcheck
    rcases Op.bind_eq_error hbody with hcall | ⟨_, _, _, hpure⟩
    · exact Or.inr ⟨hrail, hcall⟩
    · cases hpure

theorem onRail_eq_ok {rail : String} {body : Context σ → Op σ Bool} {u : Unit} (h : c.onRail rail body s = (.ok u, t)) :
    c.requireActiveRail rail = .ok () ∧ ∃ b, body (c.inRail rail) s = (.ok b, t) := by
  obtain ⟨_, v, hcheck, hbody⟩ := Op.bind_eq_ok (Op.framed_eq_ok h)
  obtain ⟨hrail, rfl⟩ := Prod.mk.inj hcheck
  obtain ⟨b, v, hcall, hpure⟩ := Op.bind_eq_ok hbody
  cases hpure
  exact ⟨hrail, b, hcall⟩

theorem RailMakes.active {k : Call σ} (h : c.RailMakes r s kind k) : c.requireActiveRail r.id = .ok () := by
  cases h <;> assumption

/-- Work on a rail is refused, before any call is made for it. -/
structure RailRefuses (c : Context σ) (kind : RunKind) (r : Rail) (s : State σ) (fault : Fault) (t : State σ) :
    Prop where
  simple : fault.Simple
  calls : ∀ k, ¬ c.RailMakes r s kind k
  accesses : Activity.accesses t.activity = Activity.accesses s.activity

theorem railRefuses_of_inactive (h : c.requireActiveRail r.id = .error fault)
    (haccesses : Activity.accesses t.activity = Activity.accesses s.activity) : c.RailRefuses kind r s fault t where
  simple := simple_of_requireActiveRail h
  calls _ hmakes := by cases hmakes.active.symm.trans h
  accesses := haccesses

/-- A fault of the work on a rail is that of a call, or a refusal. -/
theorem railWork_eq_error (h : c.railWork kind r s = (.error fault, t)) :
    ∃ inner, fault = inner.within (.rail r.id) ∧
      (c.RailRefuses kind r s inner t ∨
        ∃ k u, c.RailMakes r s kind k ∧ k.outcome = (.error inner, u) ∧ c.Settled u t) := by
  cases kind with
  | configure =>
    change c.configureRail r s = _ at h
    cases hk : r.configuration with
    | none =>
      rw [configureRail, hk] at h
      cases h
    | some k =>
      rw [configureRail_of_some hk] at h
      obtain ⟨inner, rfl, ⟨hrail, rfl⟩ | ⟨hrail, hcall⟩⟩ := onRail_eq_error h
      · exact ⟨inner, rfl, Or.inl (railRefuses_of_inactive hrail rfl)⟩
      · exact ⟨inner, rfl, Or.inr ⟨_, t, .configuration hk hrail, hcall, Or.inl rfl⟩⟩
  | monitor =>
    change c.monitorRail r s = _ at h
    cases has : r.monitoring with
    | none =>
      rw [monitorRail, has] at h
      cases h
    | some as =>
      rcases hstart : c.startRail r.id s with ⟨refusal | _, u⟩
      · obtain ⟨hsimple, rfl⟩ := startRail_eq_error hstart
        rw [monitorRail, has] at h
        cases (Op.bind_of_error (Op.framed_of_error hstart)).symm.trans h
        refine ⟨refusal, rfl, Or.inl ⟨hsimple, fun k hmakes => ?_, rfl⟩⟩
        cases hmakes with
        | monitoring _ hstart' => cases hstart.symm.trans hstart'
      · rcases hrail : c.onRail r.id (·.inOrder as) u with ⟨outcome, v⟩
        cases (monitorRail_of_start has hstart _ _ hrail).symm.trans h
        obtain ⟨inner, rfl, ⟨hactive, rfl⟩ | ⟨hactive, hcall⟩⟩ := onRail_eq_error hrail
        · refine ⟨inner, rfl, Or.inl (railRefuses_of_inactive hactive ?_)⟩
          rw [accesses_endRail, accesses_startRail hstart]
        · exact ⟨inner, rfl, Or.inr ⟨_, v, .monitoring has hstart hactive, hcall, Or.inr rfl⟩⟩

/-- Work on a rail that ends without a fault comes after at most one call. -/
theorem railWork_eq_ok {u : Unit} (h : c.railWork kind r s = (.ok u, t)) :
    Activity.accesses t.activity = Activity.accesses s.activity ∨
      ∃ k b v, c.RailMakes r s kind k ∧ k.outcome = (.ok b, v) ∧
        Activity.accesses t.activity = Activity.accesses v.activity := by
  cases kind with
  | configure =>
    change c.configureRail r s = _ at h
    cases hk : r.configuration with
    | none =>
      rw [configureRail, hk] at h
      cases h
      exact Or.inl rfl
    | some k =>
      rw [configureRail_of_some hk] at h
      obtain ⟨hrail, b, hcall⟩ := onRail_eq_ok h
      exact Or.inr ⟨_, b, t, .configuration hk hrail, hcall, rfl⟩
  | monitor =>
    change c.monitorRail r s = _ at h
    cases has : r.monitoring with
    | none =>
      rw [monitorRail, has] at h
      cases h
      exact Or.inl rfl
    | some as =>
      rcases hstart : c.startRail r.id s with ⟨refusal | _, v⟩
      · rw [monitorRail, has] at h
        cases (Op.bind_of_error (Op.framed_of_error hstart)).symm.trans h
      · rcases hrail : c.onRail r.id (·.inOrder as) v with ⟨outcome, w⟩
        cases (monitorRail_of_start has hstart _ _ hrail).symm.trans h
        obtain ⟨hactive, b, hcall⟩ := onRail_eq_ok hrail
        exact Or.inr ⟨_, b, w, .monitoring has hstart hactive, hcall, c.accesses_endRail _ w⟩

/-- A fault of the work on some rails is that of one of them, after the ones before it. -/
theorem eachRail_eq_error {act : Rail → Op σ Unit} {rs : List Rail} (h : eachRail act rs s = (.error fault, t)) :
    ∃ before r after u, rs = before ++ r :: after ∧ eachRail act before s = (.ok (), u) ∧
      act r u = (.error fault, t) := by
  induction rs generalizing s with
  | nil => cases h
  | cons r rs ih =>
    rcases Op.bind_eq_error h with hfirst | ⟨_, u, hfirst, hrest⟩
    · exact ⟨[], r, rs, s, rfl, rfl, hfirst⟩
    · obtain ⟨before, r', after, v, rfl, hbefore, hlast⟩ := ih hrest
      exact ⟨r :: before, r', after, v, rfl, (Op.bind_of_ok hfirst).trans hbefore, hlast⟩

/-- A fault of the work on a device is that of a call that is made for it or for one of its rails, or the refusal to
work on a rail. It has passed the frame of the device, and of the rail if there is one. -/
theorem work_eq_error (h : c.work kind d s = (.error fault, t)) :
    ∃ rail inner, fault.cause = inner.cause ∧
      fault.frames = .device d.id :: (rail.map Frame.rail).toList ++ inner.frames ∧
      ((∃ k u, c.WorkMakes kind d s rail k ∧ k.outcome = (.error inner, u) ∧ c.Settled u t) ∨
        ∃ before r after u v, rail = some r.id ∧ c.ownWork d kind s = (.ok (), u) ∧ d.rails = before ++ r :: after ∧
          eachRail (c.railWork kind) before u = (.ok (), v) ∧ c.RailRefuses kind r v inner t) := by
  rw [work_eq] at h
  obtain ⟨outer, hwork, rfl⟩ := Op.framed_eq_error h
  rcases Op.bind_eq_error hwork with hown | ⟨_, u, hown, hrails⟩
  · obtain ⟨k, hmakes, hk⟩ := ownWork_eq_error hown
    exact ⟨none, outer, rfl, rfl, Or.inl ⟨k, t, .own hmakes, hk, Or.inl rfl⟩⟩
  · obtain ⟨before, r, after, v, hsplit, hbefore, hrail⟩ := eachRail_eq_error hrails
    obtain ⟨inner, rfl, hrefuses | ⟨k, w, hmakes, hk, hsettled⟩⟩ := railWork_eq_error hrail
    · exact ⟨some r.id, inner, rfl, rfl, Or.inr ⟨before, r, after, u, v, rfl, hown, hsplit, hbefore, hrefuses⟩⟩
    · exact ⟨some r.id, inner, rfl, rfl, Or.inl ⟨k, w, .rail hown hsplit hbefore hmakes, hk, hsettled⟩⟩

end Context
end
end PowerRails
