import PowerRails.Proofs.Call.Work
import PowerRails.Proofs.Depth

/-! # The calls of a run in order

A call makes its calls one after another: the first finds what the call itself has found, and each one after it finds
what the one before has left. So all calls of a run have an order, in which a call comes before those that it makes,
and `Controller.trace` is the list of them. Whatever a run notes, log lines apart, is noted by the calls of this list,
in their order: by single actions, and by whoever has a presence detection carried out. -/

namespace PowerRails

section
variable {σ : Type}

namespace Call

/-! ### The calls that a call makes -/

/-- A call, and after it what follows its answer. -/
def andThen (k : Call σ) (next : Bool → State σ → List (Call σ)) : List (Call σ) :=
  k :: match k.outcome with
    | (.ok answer, s) => next answer s
    | (.error _, _) => []

/-- The calls that a call makes directly, in the order in which it makes them. -/
def made : Call σ → List (Call σ)
  | ⟨c, .action a, s⟩ =>
    match a with
    | .allOf as => [⟨c, .every as.toList, s⟩]
    | .anyOf as => [⟨c, .any as.toList, s⟩]
    | .negation a => [⟨c, .action a, s⟩]
    | .branch a as bs => andThen ⟨c, .action a, s⟩ fun
      | true, t => [⟨c, .inOrder as, t⟩]
      | false, t => bs.toList.map (⟨c, .inOrder ·, t⟩)
    | .runRule id => [⟨c, .rule id, s⟩]
    | .inDevice d r as => andThen ⟨c, .presence d, s⟩ fun present t =>
      match present, c.requireScope d r with
      | true, .ok _ => [⟨c.enter ⟨d, r⟩, .inOrder as, t⟩]
      | _, _ => []
    | .inRail r as =>
      match c.requireActiveRail r with
      | .ok _ => [⟨c.inRail r, .inOrder as, s⟩]
      | .error _ => []
    | .comparePresence d _ => [⟨c, .presence d, s⟩]
    | _ => []
  | ⟨_, .every [], _⟩ => []
  | ⟨c, .every (a :: as), s⟩ => andThen ⟨c, .action a, s⟩ fun
    | true, t => [⟨c, .every as, t⟩]
    | false, _ => []
  | ⟨_, .any [], _⟩ => []
  | ⟨c, .any (a :: as), s⟩ => andThen ⟨c, .action a, s⟩ fun
    | true, _ => []
    | false, t => [⟨c, .any as, t⟩]
  | ⟨c, .inOrder ⟨a, []⟩, s⟩ => [⟨c, .action a, s⟩]
  | ⟨c, .inOrder ⟨a, b :: bs⟩, s⟩ => andThen ⟨c, .action a, s⟩ fun _ t => [⟨c, .inOrder ⟨b, bs⟩, t⟩]
  | ⟨c, .rule id, s⟩ =>
    match c.plant.rule? id, c.requireCallable id with
    | some r, .ok _ => [⟨c.inRule id, .inOrder r.actions, s⟩]
    | _, _ => []
  | ⟨c, .presence id, s⟩ =>
    match s.presence.get? id c.cycle, (c.plant.device? id).bind (·.detection) with
    | none, some as =>
      if id ∈ c.detecting then [] else [⟨c.detached id, .inOrder as, (Op.note (.detection id) s).2⟩]
    | _, _ => []

theorem mem_andThen {k k' : Call σ} {next : Bool → State σ → List (Call σ)} :
    k' ∈ k.andThen next ↔ k' = k ∨ ∃ answer t, k.outcome = (.ok answer, t) ∧ k' ∈ next answer t := by
  unfold andThen
  rw [List.mem_cons]
  refine or_congr_right ?_
  rcases k.outcome with ⟨fault | answer, t⟩ <;> simp

/-- A call that asks for presence has a detection carried out, or makes no call. -/
theorem made_presence (c : Context σ) (id : String) (s : State σ) :
    made ⟨c, .presence id, s⟩ = [] ∨ ∃ d as, s.presence.get? id c.cycle = none ∧ c.plant.device? id = some d ∧
      d.detection = some as ∧ id ∉ c.detecting ∧
      made ⟨c, .presence id, s⟩ = [⟨c.detached id, .inOrder as, (Op.note (.detection id) s).2⟩] := by
  unfold made
  dsimp only
  split
  · rename_i as hp has
    obtain ⟨d, hd, has⟩ := Option.bind_eq_some_iff.mp has
    by_cases hnew : id ∈ c.detecting
    · exact .inl (if_pos hnew)
    · exact .inr ⟨d, as, hp, hd, has, hnew, if_neg hnew⟩
  · exact .inl rfl

theorem makes_of_mem_made {k k' : Call σ} (h : k' ∈ k.made) : k.Makes k' := by
  obtain ⟨c, t, s⟩ := k
  cases t with
  | action a =>
    cases a with
    | allOf as => obtain rfl := List.mem_singleton.mp h; exact .allOf
    | anyOf as => obtain rfl := List.mem_singleton.mp h; exact .anyOf
    | negation a => obtain rfl := List.mem_singleton.mp h; exact .negation
    | branch a as bs =>
      obtain rfl | ⟨answer, t, ha, hnext⟩ := mem_andThen.mp h
      · exact .condition
      · cases answer with
        | true => obtain rfl := List.mem_singleton.mp hnext; exact .consequent ha
        | false =>
          obtain ⟨bs, hbs, rfl⟩ := List.mem_map.mp hnext
          obtain rfl := Option.mem_toList.mp hbs
          exact .alternative ha
    | runRule id => obtain rfl := List.mem_singleton.mp h; exact .runRule
    | inDevice d r as =>
      obtain rfl | ⟨present, t, hd, hnext⟩ := mem_andThen.mp h
      · exact .gate
      · split at hnext
        · rename_i hscope
          obtain rfl := List.mem_singleton.mp hnext
          exact .inDevice hd hscope
        · cases hnext
    | inRail r as =>
      simp only [made] at h
      split at h
      · rename_i hrail
        obtain rfl := List.mem_singleton.mp h
        exact .inRail hrail
      · cases h
    | comparePresence d b => obtain rfl := List.mem_singleton.mp h; exact .comparePresence
    | _ => cases h
  | every as =>
    cases as with
    | nil => cases h
    | cons a as =>
      obtain rfl | ⟨answer, t, ha, hnext⟩ := mem_andThen.mp h
      · exact .everyHead
      · cases answer with
        | true => obtain rfl := List.mem_singleton.mp hnext; exact .everyTail ha
        | false => cases hnext
  | any as =>
    cases as with
    | nil => cases h
    | cons a as =>
      obtain rfl | ⟨answer, t, ha, hnext⟩ := mem_andThen.mp h
      · exact .anyHead
      · cases answer with
        | true => cases hnext
        | false => obtain rfl := List.mem_singleton.mp hnext; exact .anyTail ha
  | inOrder as =>
    obtain ⟨a, _ | ⟨b, bs⟩⟩ := as
    · obtain rfl := List.mem_singleton.mp h; exact .first
    · obtain rfl | ⟨answer, t, ha, hnext⟩ := mem_andThen.mp h
      · exact .first
      · obtain rfl := List.mem_singleton.mp hnext; exact .next ha
  | rule id =>
    simp only [made] at h
    split at h
    · rename_i hr hc
      obtain rfl := List.mem_singleton.mp h
      exact .rule hr hc
    · cases h
  | presence id =>
    rcases made_presence c id s with hnone | ⟨d, as, hp, hd, has, hnew, hmade⟩
    · rw [hnone] at h
      cases h
    · rw [hmade] at h
      obtain rfl := List.mem_singleton.mp h
      exact .detection hp hd has hnew

theorem Makes.mem_made {k k' : Call σ} (h : k.Makes k') : k' ∈ k.made := by
  cases h with
  | condition => exact List.mem_cons_self
  | consequent ha => exact mem_andThen.mpr (.inr ⟨_, _, ha, List.mem_singleton_self _⟩)
  | alternative ha => exact mem_andThen.mpr (.inr ⟨_, _, ha, List.mem_singleton_self _⟩)
  | gate => exact List.mem_cons_self
  | inDevice hd hscope =>
    refine mem_andThen.mpr (.inr ⟨_, _, hd, ?_⟩)
    simp only [hscope]
    exact List.mem_singleton_self _
  | inRail hrail => simp [made, hrail]
  | everyHead => exact List.mem_cons_self
  | everyTail ha => exact mem_andThen.mpr (.inr ⟨_, _, ha, List.mem_singleton_self _⟩)
  | anyHead => exact List.mem_cons_self
  | anyTail ha => exact mem_andThen.mpr (.inr ⟨_, _, ha, List.mem_singleton_self _⟩)
  | @first c s a as => cases as <;> exact List.mem_cons_self
  | next ha => exact mem_andThen.mpr (.inr ⟨_, _, ha, List.mem_singleton_self _⟩)
  | rule hr hc => simp [made, hr, hc]
  | detection hp hd has hnew => simp [made, hp, hd, has, hnew]
  | _ => exact List.mem_singleton_self _

/-- The calls of the list are those that are made. -/
theorem mem_made {k k' : Call σ} : k' ∈ k.made ↔ k.Makes k' := ⟨makes_of_mem_made, Makes.mem_made⟩

/-- A call, and all calls that it leads to, each before those that it makes. -/
def trace (k : Call σ) : List (Call σ) := k :: k.made.attach.flatMap fun ⟨k', _⟩ => k'.trace
  termination_by k.context.depth k.task
  decreasing_by exact (mem_made.mp ‹_›).enters.depth_lt

theorem trace_eq (k : Call σ) : k.trace = k :: k.made.flatMap trace := by
  rw [trace]
  simp [List.flatMap_subtype]

theorem mem_trace {k k' : Call σ} : k' ∈ k.trace ↔ k.Leads k' := by
  induction k using trace.induct with
  | case1 k ih =>
    rw [trace_eq, List.mem_cons, List.mem_flatMap, Leads, Relation.ReflTransGen.cases_head_iff]
    refine or_congr eq_comm (exists_congr fun m => ?_)
    constructor
    · rintro ⟨hm, hk⟩
      exact ⟨mem_made.mp hm, (ih m hm).mp hk⟩
    · rintro ⟨hm, hk⟩
      exact ⟨mem_made.mpr hm, (ih m (mem_made.mpr hm)).mpr hk⟩

/-! ### One call after another -/

/-- Some calls follow each other: the first finds the one state, each one after it what the one before has left, and the
last leaves the other state. -/
inductive Follow : State σ → List (Call σ) → State σ → Prop
  | nil {s} : Follow s [] s
  | cons {k ks t} : Follow k.outcome.2 ks t → Follow k.state (k :: ks) t

theorem Follow.one (k : Call σ) : Follow k.state [k] k.outcome.2 := .cons .nil

/-- After a call whatever follows its answer. -/
theorem Follow.andThen {k : Call σ} {next : Bool → State σ → List (Call σ)} {f : Bool → Op σ Bool}
    (h : ∀ answer t, ∃ u, Follow t (next answer t) u ∧ (f answer t).2.activity = u.activity) :
    ∃ u, Follow k.state (k.andThen next) u ∧
      ((k.context.carryOut k.task >>= f) k.state).2.activity = u.activity := by
  rcases hk : k.outcome with ⟨fault | answer, t⟩
  · have hone := Follow.one k
    rw [hk] at hone
    rw [Op.bind_of_error hk, Call.andThen, hk]
    exact ⟨t, hone, rfl⟩
  · obtain ⟨u, hnext, hactivity⟩ := h answer t
    rw [Op.bind_of_ok hk, Call.andThen, hk]
    refine ⟨u, .cons ?_, hactivity⟩
    rw [hk]
    exact hnext

/-- Apart from single actions and presence detections, a call notes nothing but what the calls that it makes note. -/
theorem follow_made {k : Call σ} (hsingle : ∀ a, k.task = .action a → k.context.single? a = none)
    (hasks : ∀ id, k.task ≠ .presence id) :
    ∃ t, Follow k.state k.made t ∧ k.outcome.2.activity = t.activity := by
  obtain ⟨c, t, s⟩ := k
  -- Most tasks make one call, or none if it is refused; the others go on by the answer of the first.
  cases t with
  | action a =>
    show ∃ t, Follow s _ t ∧ (c.perform a s).2.activity = t.activity
    cases a with
    | allOf as =>
      rw [Context.perform]
      exact ⟨_, .one ⟨c, .every as.toList, s⟩, rfl⟩
    | anyOf as =>
      rw [Context.perform]
      exact ⟨_, .one ⟨c, .any as.toList, s⟩, rfl⟩
    | negation a =>
      rw [Context.perform]
      exact ⟨_, .one ⟨c, .action a, s⟩, congrArg State.activity (Op.state_bind_pure (c.perform a) not s)⟩
    | branch a as bs =>
      rw [Context.perform.eq_def c (.branch a as bs)]
      refine Follow.andThen (k := ⟨c, .action a, s⟩) fun answer t => ?_
      cases answer with
      | true => exact ⟨_, .one ⟨c, .inOrder as, t⟩, rfl⟩
      | false =>
        cases bs with
        | none => exact ⟨t, .nil, rfl⟩
        | some bs => exact ⟨_, .one ⟨c, .inOrder bs, t⟩, rfl⟩
    | runRule id =>
      rw [Context.perform]
      exact ⟨_, .one ⟨c, .rule id, s⟩, rfl⟩
    | inDevice d r as =>
      rw [Context.perform, Op.framed_apply]
      refine Follow.andThen (k := ⟨c, .presence d, s⟩) fun present t => ?_
      cases present with
      | false => exact ⟨t, .nil, rfl⟩
      | true =>
        cases hscope : c.requireScope d r with
        | error fault => exact ⟨t, .nil, rfl⟩
        | ok u => exact ⟨_, .one ⟨c.enter ⟨d, r⟩, .inOrder as, t⟩, rfl⟩
    | inRail r as =>
      rw [Context.perform, Op.framed_apply]
      unfold made
      dsimp only
      cases hrail : c.requireActiveRail r with
      | error fault => exact ⟨s, .nil, rfl⟩
      | ok u => exact ⟨_, .one ⟨c.inRail r, .inOrder as, s⟩, rfl⟩
    | comparePresence d b =>
      rw [Context.perform, Op.framed_apply]
      exact ⟨_, .one ⟨c, .presence d, s⟩, congrArg State.activity (Op.state_bind_pure (c.resolvePresence d) (· == b) s)⟩
    | _ => cases hsingle _ rfl
  | every as =>
    show ∃ t, Follow s _ t ∧ (c.everyOf as s).2.activity = t.activity
    cases as with
    | nil =>
      rw [Context.everyOf]
      exact ⟨s, .nil, rfl⟩
    | cons a as =>
      rw [Context.everyOf]
      refine Follow.andThen (k := ⟨c, .action a, s⟩) fun answer t => ?_
      cases answer with
      | true => exact ⟨_, .one ⟨c, .every as, t⟩, rfl⟩
      | false => exact ⟨t, .nil, rfl⟩
  | any as =>
    show ∃ t, Follow s _ t ∧ (c.someOf as s).2.activity = t.activity
    cases as with
    | nil =>
      rw [Context.someOf]
      exact ⟨s, .nil, rfl⟩
    | cons a as =>
      rw [Context.someOf]
      refine Follow.andThen (k := ⟨c, .action a, s⟩) fun answer t => ?_
      cases answer with
      | true => exact ⟨t, .nil, rfl⟩
      | false => exact ⟨_, .one ⟨c, .any as, t⟩, rfl⟩
  | inOrder as =>
    show ∃ t, Follow s _ t ∧ (c.inOrder as s).2.activity = t.activity
    obtain ⟨a, _ | ⟨b, bs⟩⟩ := as
    · rw [Context.inOrder]
      exact ⟨_, .one ⟨c, .action a, s⟩, rfl⟩
    · rw [Context.inOrder]
      exact Follow.andThen (k := ⟨c, .action a, s⟩) fun _ t => ⟨_, .one ⟨c, .inOrder ⟨b, bs⟩, t⟩, rfl⟩
  | rule id =>
    show ∃ t, Follow s _ t ∧ (c.callRule id s).2.activity = t.activity
    unfold made
    dsimp only
    cases hr : c.plant.rule? id with
    | none =>
      rw [Context.callRule_of_none hr]
      exact ⟨s, .nil, rfl⟩
    | some r =>
      rw [Context.callRule_of_some hr]
      cases hc : c.requireCallable id with
      | error fault => exact ⟨s, .nil, rfl⟩
      | ok u => exact ⟨_, .one ⟨c.inRule id, .inOrder r.actions, s⟩, rfl⟩
  | presence id => exact absurd rfl (hasks id)

/-! ### What calls note -/

/-- What a call notes before the calls that it makes: all that a single action notes, and that the presence detection
of a device is carried out. -/
def notes (k : Call σ) : List Activity :=
  match k.task with
  | .action a => if (k.context.single? a).isSome then k.outcome.2.activity.drop k.state.activity.length else []
  | .presence id => if k.made.isEmpty then [] else [.detection id]
  | _ => []

theorem made_of_single {c : Context σ} {a : Action} {x : Op σ Bool} (h : c.single? a = some x) (s : State σ) :
    made ⟨c, .action a, s⟩ = [] := by cases a <;> cases h <;> rfl

theorem activity_of_single {c : Context σ} {a : Action} {x : Op σ Bool} (h : c.single? a = some x) (s : State σ) :
    (outcome ⟨c, .action a, s⟩).2.activity = s.activity ++ notes ⟨c, .action a, s⟩ := by
  have hprefix := (c.grows_carryOut (.action a) s).activity
  have hnotes : notes ⟨c, .action a, s⟩ = (c.carryOut (.action a) s).2.activity.drop s.activity.length :=
    if_pos (Option.isSome_iff_exists.mpr ⟨x, h⟩)
  rw [hnotes]
  exact (List.prefix_iff_eq_append.mp hprefix).symm

/-- All that a call comes to note is noted by itself and then by the calls that it makes, one after another, and at last
it may log. -/
inductive Accounted (k : Call σ) : Prop
  | intro {s t : State σ} (entries : List LogEntry) : s.activity = k.state.activity ++ k.notes → Follow s k.made t →
      k.outcome.2.activity = t.activity ++ entries.map Activity.log → Accounted k

theorem Accounted.of_follow {k : Call σ} (hnotes : k.notes = [])
    (h : ∃ t, Follow k.state k.made t ∧ k.outcome.2.activity = t.activity) : k.Accounted := by
  obtain ⟨t, hfollow, hactivity⟩ := h
  refine .intro [] ?_ hfollow ?_
  · rw [hnotes, List.append_nil]
  · rw [hactivity, List.map_nil, List.append_nil]

theorem Accounted.of_idle {k : Call σ} (hnotes : k.notes = []) (hmade : k.made = [])
    (hactivity : k.outcome.2.activity = k.state.activity) : k.Accounted :=
  .of_follow hnotes ⟨k.state, hmade.symm ▸ .nil, hactivity⟩

theorem keepVerdict_activity (c : Context σ) (id : String) (outcome : Except Fault Bool) (s : State σ) :
    ∃ entries : List LogEntry, ((Context.detectionVerdict id outcome >>= c.keepPresence id) s).2.activity =
      s.activity ++ entries.map Activity.log := by
  cases outcome with
  | ok present => exact ⟨[], (List.append_nil _).symm⟩
  | error fault => exact ⟨[.detectionFailed id fault], rfl⟩

theorem accounted_presence (c : Context σ) (id : String) (s : State σ) : Accounted ⟨c, .presence id, s⟩ := by
  have idle : made ⟨c, .presence id, s⟩ = [] → (c.resolvePresence id s).2.activity = s.activity →
      Accounted ⟨c, .presence id, s⟩ :=
    fun hmade hactivity => .of_idle (if_pos (List.isEmpty_iff.mpr hmade)) hmade hactivity
  have hresolves := c.resolves id s
  generalize hr : c.resolvePresence id s = r at hresolves
  cases hresolves with
  | cached hp => exact idle (by simp [made, hp]) (by rw [hr])
  | unknown hp hd => exact idle (by simp [made, hp, hd]) (by rw [hr])
  | cyclic hp hd hin => exact idle (by simp only [made, hp, hd, hin, if_true]; split <;> rfl) (by rw [hr])
  | assumed hp hd hnew has => exact idle (by simp [made, hp, hd, has]) (by rw [hr]; rfl)
  | @detected d as r hp hd hnew has hrun =>
    subst hrun
    have hmade : made ⟨c, .presence id, s⟩ = [⟨c.detached id, .inOrder as, (Op.note (.detection id) s).2⟩] := by
      simp [made, hp, hd, has, hnew]
    have hnotes : notes ⟨c, .presence id, s⟩ = [.detection id] := if_neg (by simp [hmade])
    obtain ⟨entries, hactivity⟩ := keepVerdict_activity c id
      ((c.detached id).inOrder as (Op.note (.detection id) s).2).1
      ((c.detached id).inOrder as (Op.note (.detection id) s).2).2
    have hfollow := Follow.one ⟨c.detached id, .inOrder as, (Op.note (.detection id) s).2⟩
    rw [← hmade] at hfollow
    refine .intro entries ?_ hfollow ((congrArg (·.2.activity) hr).trans hactivity)
    rw [hnotes]
    rfl

theorem accounted (k : Call σ) : k.Accounted := by
  obtain ⟨c, task, s⟩ := k
  cases task with
  | action a =>
    cases hx : c.single? a with
    | none => exact .of_follow (by simp [notes, hx]) (follow_made (fun _ ha => by cases ha; exact hx) nofun)
    | some x =>
      have hmade := made_of_single hx s
      exact .intro [] (activity_of_single hx s) (hmade.symm ▸ .nil) (List.append_nil _).symm
  | presence id => exact accounted_presence c id s
  | _ => exact .of_follow rfl (follow_made nofun nofun)

section
variable {β : Type} {f : Activity → Option β}

theorem filterMap_logs (hlog : ∀ entry, f (.log entry) = none) (entries : List LogEntry) :
    (entries.map Activity.log).filterMap f = [] := by
  refine List.filterMap_eq_nil_iff.mpr fun x hx => ?_
  obtain ⟨entry, -, rfl⟩ := List.mem_map.mp hx
  exact hlog entry

/-- What the calls of a list and those that they lead to note. -/
def noted (f : Activity → Option β) (ks : List (Call σ)) : List β :=
  (ks.flatMap trace).flatMap fun k => k.notes.filterMap f

theorem noted_append (ks ks' : List (Call σ)) : noted f (ks ++ ks') = noted f ks ++ noted f ks' := by
  simp only [noted, List.flatMap_append]

theorem Follow.filterMap_activity {s t : State σ} {ks : List (Call σ)} (h : Follow s ks t)
    (hks : ∀ k ∈ ks, k.outcome.2.activity.filterMap f = k.state.activity.filterMap f ++ noted f [k]) :
    t.activity.filterMap f = s.activity.filterMap f ++ noted f ks := by
  induction h with
  | nil => exact (List.append_nil _).symm
  | @cons k ks t _ ih =>
    rw [ih fun k' hk' => hks k' (List.mem_cons_of_mem k hk'), hks k List.mem_cons_self, List.append_assoc,
      ← noted_append]
    rfl

/-- Of what a call comes to note, log lines apart, all is noted by a call of its trace. -/
theorem filterMap_activity (hlog : ∀ entry, f (.log entry) = none) (k : Call σ) :
    k.outcome.2.activity.filterMap f = k.state.activity.filterMap f ++ noted f [k] := by
  induction k using trace.induct with
  | case1 k ih =>
    -- The calls that are made stand in one row, from what the call notes itself to what it logs at last.
    obtain ⟨entries, hown, hfollow, hrest⟩ := k.accounted
    have hnoted : noted f [k] = k.notes.filterMap f ++ noted f k.made := by
      simp only [noted, List.flatMap_singleton]
      rw [trace_eq, List.flatMap_cons]
    rw [hrest, List.filterMap_append, filterMap_logs hlog, List.append_nil, hfollow.filterMap_activity ih, hown,
      List.filterMap_append, hnoted, List.append_assoc]

end
end Call

/-! ### What single actions note -/

/-- Something that is done notes nothing of some kind. -/
def Op.Quiet {α β : Type} (f : Activity → Option β) (x : Op σ α) : Prop :=
  ∀ s, (x s).2.activity.filterMap f = s.activity.filterMap f

namespace Op.Quiet
variable {α β γ : Type} {f : Activity → Option γ} {c : Context σ}

theorem pure (a : α) : Quiet f (Pure.pure a : Op σ α) := fun _ => rfl

theorem fail (fault : Fault) : Quiet f (Op.fail fault : Op σ α) := fun _ => rfl

theorem ofExcept (r : Except Fault α) : Quiet f (Op.ofExcept r : Op σ α) := fun _ => rfl

theorem bind {x : Op σ α} {g : α → Op σ β} (hx : Quiet f x) (hg : ∀ a, Quiet f (g a)) : Quiet f (x >>= g) := by
  intro s
  have hfirst := hx s
  rcases h : x s with ⟨fault | a, t⟩ <;> rw [h] at hfirst
  · rw [Op.bind_of_error h]
    exact hfirst
  · rw [Op.bind_of_ok h]
    exact (hg a t).trans hfirst

theorem framed {x : Op σ α} (frame : Frame) (hx : Quiet f x) : Quiet f (Op.framed frame x) := hx

theorem filterMap_concat {x : Activity} (h : f x = none) (as : List Activity) :
    (as ++ [x]).filterMap f = as.filterMap f := by
  rw [List.filterMap_append, List.filterMap_cons_none h, List.filterMap_nil, List.append_nil]

theorem note {x : Activity} (h : f x = none) : Quiet f (Op.note x : Op σ Unit) := fun s =>
  filterMap_concat h s.activity

theorem tellService (notice : Notice) (h : ∀ recipient, f (.notice recipient notice) = none) :
    Quiet f (c.tellService notice) := by
  unfold Context.tellService
  cases c.sensorsService with
  | none => exact pure ()
  | some service => exact note (h service)

theorem transfer (haccess : ∀ a, f (.access a) = none) (register : UInt8) (request : Request) (step : Transfer σ α) :
    Quiet f (c.transfer register request step) := by
  intro s
  rw [Context.transfer_state]
  exact filterMap_concat (haccess _) s.activity

theorem access (haccess : ∀ a, f (.access a) = none) (register : UInt8) (request : Request)
    (step : Bus σ → Transfer σ α) : Quiet f (c.access register request step) := by
  intro s
  cases hd : c.device with
  | error fault => rw [Context.access_of_error hd]
  | ok d =>
    rw [Context.access_of_device hd]
    split
    · rfl
    · split
      · exact transfer haccess _ _ _ s
      · exact bind (transfer haccess _ _ _) (fun _ => transfer haccess _ _ _) s

theorem operandValue (operand : Operand) : Quiet f (Context.operandValue operand : Op σ Int) := by
  cases operand with
  | literal value => exact pure value
  | sensor name =>
    refine bind (x := Op.state) (fun _ => rfl) fun s => ?_
    cases Reading.latest? s.readings name with
    | none => exact fail _
    | some value => exact pure value

theorem setVout (haccess : ∀ a, f (.access a) = none) (v : VoutCommand) : Quiet f (c.setVout v) := by
  have exponent : Quiet f (c.voutExponent v) := by
    unfold Context.voutExponent
    cases v.exponent with
    | some exponent => exact pure exponent
    | none => exact bind (access haccess _ _ _) fun _ => ofExcept _
  unfold Context.setVout
  cases v.volts.or c.volts with
  | none => exact fail _
  | some volts =>
    refine bind exponent fun _ => bind (ofExcept _) fun word => bind (access haccess _ _ _) fun _ => ?_
    cases v.verify with
    | false => exact pure true
    | true =>
      refine bind (access haccess _ _ _) fun actual => ?_
      unfold Context.confirmWrite
      split
      · exact pure true
      · exact fail _

/-- A single action notes its accesses and what it tells of a value, and if it is to capture bytes, these. -/
theorem single (haccess : ∀ a, f (.access a) = none) (hnotice : ∀ recipient notice, f (.notice recipient notice) = none)
    {a : Action} {x : Op σ Bool} (hx : c.single? a = some x)
    (hcapture : ∀ b, a = .capture b → ∀ device register key bytes, f (.captured device register key bytes) = none) :
    Quiet f x := by
  cases a with
  | compareRegister r =>
    cases hx
    exact bind (access haccess _ _ _) fun _ => bind (operandValue _) fun _ => pure _
  | writeRegister w =>
    cases hx
    refine bind ?_ fun _ => bind (access haccess _ _ _) fun _ => pure _
    unfold Context.bytesToWrite
    cases w.mask with
    | none => exact pure _
    | some mask => exact bind (access haccess _ _ _) fun _ => pure _
  | capture b =>
    cases hx
    have kept : ∀ bytes, Quiet f (c.capture b.register bytes) := by
      intro bytes s
      rw [Context.capture_apply]
      exact filterMap_concat (hcapture b rfl _ _ _ _) s.activity
    exact bind (access haccess _ _ _) fun bytes => bind (kept bytes) fun _ => pure _
  | readSensor r =>
    cases hx
    refine bind (access haccess _ _ _) fun _ => bind ?_ fun _ => pure _
    exact bind (fun _ => rfl) fun _ => tellService _ fun recipient => hnotice recipient _
  | logFinding l =>
    cases hx
    refine bind ?_ fun _ => bind (fun _ => rfl) fun _ => pure _
    unfold Context.bytesToLog
    cases l.capture with
    | none => exact pure _
    | some b => exact bind (access haccess _ _ _) fun _ => pure _
  | setVout v =>
    cases hx
    exact setVout haccess v
  | _ => cases hx

end Op.Quiet

theorem Call.filterMap_notes {β : Type} {f : Activity → Option β} {c : Context σ} {a : Action} {x : Op σ Bool}
    (hx : c.single? a = some x) (hquiet : x.Quiet f) (s : State σ) : (notes ⟨c, .action a, s⟩).filterMap f = [] := by
  have hactivity := congrArg (List.filterMap f) (activity_of_single hx s)
  have hsame := Op.Quiet.framed (.action a.text) hquiet s
  rw [← Context.perform_of_single? hx] at hsame
  rw [List.filterMap_append] at hactivity
  exact List.append_right_eq_self.mp (hactivity.symm.trans hsame)

end
end PowerRails
