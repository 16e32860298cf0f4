import Mathlib.Data.List.Basic

/-! Runs of a guarded step function. `step s a` is the state after action `a`
when it is enabled in `s`, and `none` otherwise, so one definition serves the
replay of a concrete trace and the induction over all traces. A run records
every transition it took: what happens "at most once" in a run is a count over
that record, and what holds "from then on" splits the record in two. -/
namespace KiTicket.Runs

/-- One step taken: where it started, what was done, where it ended. -/
structure Transition (σ : Type u) (α : Type v) where
  source : σ
  action : α
  target : σ

/-- The runs of `step` from `start`, with the transitions taken in order. -/
inductive Run (step : σ → α → Option σ) (start : σ) : List (Transition σ α) → σ → Prop where
  | nil : Run step start [] start
  | snoc (before : Run step start ts s) (taken : step s a = some s') :
      Run step start (ts ++ [⟨s, a, s'⟩]) s'

/-- Every action of the record is one of the allowed ones. -/
def Within (allowed : α → Prop) (ts : List (Transition σ α)) : Prop :=
  ∀ t ∈ ts, allowed t.action

variable {step : σ → α → Option σ} {allowed : Transition σ α → Prop}

theorem within_append {allowed : α → Prop} {ts us : List (Transition σ α)} :
    Within allowed (ts ++ us) ↔ Within allowed ts ∧ Within allowed us := by
  simp only [Within, List.mem_append]
  exact ⟨fun all => ⟨fun t member => all t (.inl member), fun t member => all t (.inr member)⟩,
    fun both t member => member.elim (both.1 t) (both.2 t)⟩

/-- What one allowed step keeps, every run of allowed steps keeps. -/
theorem Run.invariant {P : σ → Prop} (run : Run step start ts s) (inside : ∀ t ∈ ts, allowed t)
    (holds : P start)
    (keeps : ∀ s a s', P s → allowed ⟨s, a, s'⟩ → step s a = some s' → P s') : P s := by
  induction run with
  | nil => exact holds
  | snoc before taken ih =>
    have earlier := ih fun t member => inside t (List.mem_append_left _ member)
    exact keeps _ _ _ earlier (inside _ List.mem_concat_self) taken

/-- The same for a property of the state together with the record so far. -/
theorem Run.history {P : List (Transition σ α) → σ → Prop} (run : Run step start ts s)
    (inside : ∀ t ∈ ts, allowed t) (holds : P [] start)
    (keeps : ∀ ts s a s', Run step start ts s → (∀ t ∈ ts, allowed t) → P ts s →
      allowed ⟨s, a, s'⟩ → step s a = some s' → P (ts ++ [⟨s, a, s'⟩]) s') : P ts s := by
  induction run with
  | nil => exact holds
  | snoc before taken ih =>
    have front : ∀ t ∈ _, allowed t := fun t member => inside t (List.mem_append_left _ member)
    exact keeps _ _ _ _ before front (ih front) (inside _ List.mem_concat_self) taken

theorem Run.append (first : Run step start ts middle) (second : Run step middle us s) :
    Run step start (ts ++ us) s := by
  induction second with
  | nil => simpa using first
  | snoc _ taken ih =>
    rw [← List.append_assoc]
    exact .snoc ih taken

theorem Run.single (taken : step s a = some s') : Run step s [⟨s, a, s'⟩] s' :=
  .snoc .nil taken

/-- A record that falls in two parts comes from two runs. -/
theorem Run.of_append (run : Run step start (ts ++ us) s) :
    ∃ middle, Run step start ts middle ∧ Run step middle us s := by
  generalize whole : ts ++ us = vs at run
  induction run generalizing us with
  | nil =>
    obtain ⟨rfl, rfl⟩ := List.append_eq_nil_iff.mp whole
    exact ⟨start, .nil, .nil⟩
  | snoc before taken ih =>
    rcases List.eq_nil_or_concat us with rfl | ⟨front, last, rfl⟩
    · rw [List.append_nil] at whole
      subst whole
      exact ⟨_, .snoc before taken, .nil⟩
    · rw [List.concat_eq_append, ← List.append_assoc] at whole
      obtain ⟨same, final⟩ := List.append_inj' whole rfl
      cases final
      obtain ⟨middle, first, rest⟩ := ih same
      exact ⟨middle, first, List.concat_eq_append ▸ .snoc rest taken⟩

private theorem Run.of_nil (run : Run step start [] s) : s = start := by
  generalize none : [] = ts at run
  cases run with
  | nil => rfl
  | snoc _ _ => exact absurd none.symm (List.append_ne_nil_of_right_ne_nil _ (List.cons_ne_nil _ _))

theorem Run.of_single (run : Run step start [t] s) :
    t.source = start ∧ step t.source t.action = some t.target ∧ t.target = s := by
  generalize one : [t] = ts at run
  cases run with
  | nil => cases one
  | @snoc ts _ _ _ before taken =>
    cases ts with
    | nil =>
      cases one
      exact ⟨before.of_nil, taken, rfl⟩
    | cons first rest => simp at one

/-- A transition splits its record: a run leads to its source, the step was
enabled there, and the rest is a run from its target. -/
theorem Run.cut (run : Run step start (ts ++ t :: us) s) :
    Run step start ts t.source ∧ step t.source t.action = some t.target ∧ Run step t.target us s := by
  obtain ⟨middle, first, rest⟩ := run.of_append
  rw [← List.singleton_append] at rest
  obtain ⟨later, single, rest⟩ := rest.of_append
  obtain ⟨rfl, taken, rfl⟩ := single.of_single
  exact ⟨first, taken, rest⟩

/-- A record says where its run ends. -/
theorem Run.unique (run : Run step start ts s) (other : Run step start ts s') : s = s' := by
  rcases List.eq_nil_or_concat ts with rfl | ⟨front, last, rfl⟩
  · exact run.of_nil.trans other.of_nil.symm
  · rw [List.concat_eq_append] at run other
    exact run.cut.2.2.of_nil.trans other.cut.2.2.of_nil.symm

/-- A property of all the states of a run, as one of its steps: what holds at the start
and is kept exactly by the steps of some kind. -/
theorem Run.prefixes_iff {P : List (Transition σ α) → σ → Prop} {Q : Transition σ α → Prop}
    (run : Run step start ts s) (holds : P [] start)
    (keeps : ∀ ts s a s', Run step start ts s → step s a = some s' → P ts s →
      (P (ts ++ [⟨s, a, s'⟩]) s' ↔ Q ⟨s, a, s'⟩)) :
    (∀ before middle, before <+: ts → Run step start before middle → P before middle) ↔
      ∀ t ∈ ts, Q t := by
  induction run with
  | nil =>
    refine iff_of_true (fun before middle front reaches => ?_) fun _ member => absurd member List.not_mem_nil
    obtain rfl := List.prefix_nil.mp front
    exact reaches.of_nil ▸ holds
  | @snoc ts s a s' run taken ih =>
    have last := run.snoc taken
    constructor
    · intro all t member
      have earlier : ∀ before middle, before <+: ts → Run step start before middle →
          P before middle := fun before middle front =>
        all before middle (front.trans (List.prefix_append _ _))
      rcases List.mem_append.mp member with old | new
      · exact ih.mp earlier t old
      · rw [List.mem_singleton.mp new]
        exact (keeps _ _ _ _ run taken (earlier _ _ List.prefix_rfl run)).mp
          (all _ _ List.prefix_rfl last)
    · intro each before middle front reaches
      have earlier := ih.mpr fun t member => each t (List.mem_append_left _ member)
      rcases List.prefix_concat_iff.mp front with rfl | front
      · rw [reaches.unique last]
        exact (keeps _ _ _ _ run taken (earlier _ _ List.prefix_rfl run)).mpr
          (each _ List.mem_concat_self)
      · exact earlier before middle front reaches

/-- Each recorded transition splits the run. -/
theorem Run.split (run : Run step start ts s) (member : t ∈ ts) :
    ∃ before after, ts = before ++ t :: after ∧ Run step start before t.source ∧
      step t.source t.action = some t.target ∧ Run step t.target after s := by
  obtain ⟨before, after, rfl⟩ := List.append_of_mem member
  exact ⟨before, after, rfl, run.cut⟩

/-- Each recorded transition is a step from a state that an earlier part of the
record leads to. -/
theorem Run.reaches (run : Run step start ts s) (member : t ∈ ts) :
    ∃ before, before ⊆ ts ∧ Run step start before t.source ∧
      step t.source t.action = some t.target := by
  obtain ⟨before, after, rfl, reaches, taken, -⟩ := run.split member
  exact ⟨before, List.subset_append_left _ _, reaches, taken⟩

/-- A property of single steps that holds wherever a run can stand holds of
every transition of the record. -/
theorem Run.forall_transitions {P : σ → Prop} {Q : Transition σ α → Prop}
    (run : Run step start ts s) (inside : ∀ t ∈ ts, allowed t) (holds : P start)
    (keeps : ∀ s a s', P s → allowed ⟨s, a, s'⟩ → step s a = some s' → P s')
    (each : ∀ s a s', P s → allowed ⟨s, a, s'⟩ → step s a = some s' → Q ⟨s, a, s'⟩) :
    ∀ t ∈ ts, Q t := by
  intro t member
  obtain ⟨before, after, rfl, reaches, enabled, -⟩ := run.split member
  have earlier := reaches.invariant (fun u early => inside u (List.mem_append_left _ early)) holds keeps
  exact each _ _ _ earlier (inside t member) enabled

/-- A change into an absorbing property happens at most once in a run. -/
theorem Run.count_le_one {P Q : σ → Prop} (changes : Transition σ α → Bool)
    (run : Run step start ts s) (inside : ∀ t ∈ ts, allowed t) (holds : P start)
    (keeps : ∀ s a s', P s → allowed ⟨s, a, s'⟩ → step s a = some s' → P s')
    (absorbing : ∀ s a s', P s → allowed ⟨s, a, s'⟩ → step s a = some s' → Q s → Q s')
    (enters : ∀ s a s', P s → allowed ⟨s, a, s'⟩ → step s a = some s' →
      changes ⟨s, a, s'⟩ = true → ¬ Q s ∧ Q s') : ts.countP changes ≤ 1 := by
  have counted : P s ∧ (Q s ∨ ts.countP changes = 0) ∧ ts.countP changes ≤ 1 := by
    refine run.history (P := fun ts s => P s ∧ (Q s ∨ ts.countP changes = 0) ∧
      ts.countP changes ≤ 1) inside ⟨holds, .inr rfl, Nat.zero_le _⟩ ?_
    rintro ts s a s' _ _ ⟨good, ih, most⟩ ok taken
    refine ⟨keeps _ _ _ good ok taken, ?_⟩
    rw [List.countP_append]
    by_cases change : changes ⟨s, a, s'⟩ = true
    · obtain ⟨outside, inside'⟩ := enters _ _ _ good ok taken change
      have none : ts.countP changes = 0 := ih.resolve_left outside
      simp [change, none, inside']
    · simp only [List.countP_singleton, change, Bool.false_eq_true, if_false, Nat.add_zero]
      exact ⟨ih.imp (absorbing _ _ _ good ok taken) id, most⟩
  exact counted.2.2

/-- Where a property is entered by the counted steps and never left, there is at
most one such step exactly when none is taken inside. -/
theorem Run.count_le_one_iff {P Q : σ → Prop} (changes : Transition σ α → Bool)
    (run : Run step start ts s) (holds : P start) (outside : ¬ Q start)
    (keeps : ∀ s a s', P s → step s a = some s' → P s')
    (enters : ∀ s a s', P s → step s a = some s' → (Q s' ↔ Q s ∨ changes ⟨s, a, s'⟩ = true)) :
    ts.countP changes ≤ 1 ↔ ∀ t ∈ ts, changes t = true → ¬ Q t.source := by
  have counted : P s ∧ (Q s ↔ 0 < ts.countP changes) ∧
      (ts.countP changes ≤ 1 ↔ ∀ t ∈ ts, changes t = true → ¬ Q t.source) := by
    refine run.history (P := fun ts s => P s ∧ (Q s ↔ 0 < ts.countP changes) ∧
      (ts.countP changes ≤ 1 ↔ ∀ t ∈ ts, changes t = true → ¬ Q t.source))
      (fun _ _ => (trivial : True)) ⟨holds, by simp [outside], by simp⟩ ?_
    rintro ts s a s' - - ⟨good, inside, once⟩ - taken
    refine ⟨keeps _ _ _ good taken, ?_⟩
    rw [enters _ _ _ good taken, inside, List.countP_append, List.countP_singleton]
    by_cases change : changes ⟨s, a, s'⟩ = true
    · simp only [change, if_true, or_true, true_iff, List.mem_append, List.mem_singleton]
      refine ⟨by omega, fun most t member changed => ?_, fun clear => ?_⟩
      · rcases member with earlier | rfl
        · have none : ts.countP changes = 0 := by omega
          exact absurd changed (List.countP_eq_zero.mp none t earlier)
        · rw [inside]
          omega
      · have last := clear _ (.inr rfl) change
        rw [inside] at last
        omega
    · simp only [change, Bool.false_eq_true, if_false, or_false, Nat.add_zero, true_and,
        List.mem_append, List.mem_singleton, once]
      refine ⟨fun clear t member changed => ?_, fun clear t earlier => clear t (.inl earlier)⟩
      rcases member with earlier | rfl
      · exact clear t earlier changed
      · exact absurd changed change
  exact counted.2.2

/-- Steps of one kind in two phases: while `P` holds they are silent, one of them may pass
from `P` to `Q`, and from then on they are calm. Either it has not happened yet, or the
record splits where it did. -/
theorem Run.before_or_after {P Q : σ → Prop} {mine silent passes calm : Transition σ α → Prop}
    (run : Run step start ts s) (holds : P start)
    (first : ∀ s a s', P s → step s a = some s' → P s' ∧ (mine ⟨s, a, s'⟩ → silent ⟨s, a, s'⟩) ∨
      Q s' ∧ mine ⟨s, a, s'⟩ ∧ passes ⟨s, a, s'⟩)
    (later : ∀ s a s', Q s → step s a = some s' → Q s' ∧ (mine ⟨s, a, s'⟩ → calm ⟨s, a, s'⟩)) :
    P s ∧ (∀ t ∈ ts, mine t → silent t) ∨ Q s ∧ ∃ before t after, ts = before ++ t :: after ∧
      mine t ∧ passes t ∧ (∀ u ∈ before, mine u → silent u) ∧ ∀ u ∈ after, mine u → calm u := by
  induction run with
  | nil => exact .inl ⟨holds, fun _ none => absurd none List.not_mem_nil⟩
  | @snoc ts s a s' run taken ih =>
    rcases ih with ⟨still, quiet⟩ | ⟨passed, before, t, after, rfl, own, happened, quiet, calmly⟩
    · rcases first s a s' still taken with ⟨stays, alone⟩ | ⟨passed, own, happened⟩
      · refine .inl ⟨stays, fun t member => ?_⟩
        rcases List.mem_append.mp member with old | new
        · exact quiet t old
        · exact List.mem_singleton.mp new ▸ alone
      · exact .inr ⟨passed, ts, ⟨s, a, s'⟩, [], rfl, own, happened, quiet,
          fun _ none => absurd none List.not_mem_nil⟩
    · obtain ⟨stays, alone⟩ := later s a s' passed taken
      refine .inr ⟨stays, before, t, after ++ [⟨s, a, s'⟩], by simp, own, happened, quiet,
        fun u member => ?_⟩
      rcases List.mem_append.mp member with old | new
      · exact calmly u old
      · exact List.mem_singleton.mp new ▸ alone

/-! ## The states of a run -/

/-- The run stands in the state at some moment. -/
def Visits (start : σ) (ts : List (Transition σ α)) (s : σ) : Prop :=
  s = start ∨ ∃ t ∈ ts, t.target = s

theorem Run.visits_last (run : Run step start ts s) : Visits start ts s := by
  cases run with
  | nil => exact .inl rfl
  | snoc _ _ => exact .inr ⟨_, List.mem_concat_self, rfl⟩

theorem Visits.mono {us : List (Transition σ α)} (visits : Visits start ts s) (more : ts ⊆ us) :
    Visits start us s :=
  visits.imp_right fun ⟨t, member, ends⟩ => ⟨t, more member, ends⟩

/-- A step that changes nothing can be taken wherever the run stands. -/
theorem Run.insert (run : Run step start ts last) (visits : Visits start ts s)
    (idle : step s a = some s) :
    ∃ us, us.Perm (⟨s, a, s⟩ :: ts) ∧ Run step start us last := by
  rcases visits with rfl | ⟨t, member, rfl⟩
  · exact ⟨_, .rfl, (Run.single idle).append run⟩
  · obtain ⟨before, after, rfl, first, taken, rest⟩ := run.split member
    refine ⟨before ++ [t] ++ ⟨t.target, a, t.target⟩ :: after, ?_, ?_⟩
    · refine List.perm_middle.trans ?_
      rw [List.append_assoc, List.singleton_append]
    · have here : Run step start (before ++ [t]) t.target := first.append (.single taken)
      exact here.append ((Run.single idle).append rest)

/-! ## Replaying a concrete trace -/

/-- Take the actions in order; `none` if one of them is not enabled. -/
def exec (step : σ → α → Option σ) : σ → List α → Option σ
  | s, [] => some s
  | s, a :: rest => (step s a).bind fun s' => exec step s' rest

/-- The transitions `exec` takes, up to the first action that is not enabled. -/
def transitions (step : σ → α → Option σ) : σ → List α → List (Transition σ α)
  | _, [] => []
  | s, a :: rest =>
    match step s a with
    | none => []
    | some s' => ⟨s, a, s'⟩ :: transitions step s' rest

/-- A replay that goes through is a run. -/
theorem run_of_exec (replay : exec step start actions = some s) :
    Run step start (transitions step start actions) s := by
  induction actions generalizing start with
  | nil =>
    cases replay
    exact .nil
  | cons a rest ih =>
    obtain ⟨middle, taken, replay⟩ := Option.bind_eq_some_iff.mp replay
    simp only [transitions, taken]
    exact (Run.single taken).append (ih replay)

/-- A replay takes exactly the actions it is given. -/
theorem actions_of_exec (replay : exec step start actions = some s) :
    (transitions step start actions).map Transition.action = actions := by
  induction actions generalizing start with
  | nil => rfl
  | cons a rest ih =>
    obtain ⟨middle, taken, replay⟩ := Option.bind_eq_some_iff.mp replay
    simp [transitions, taken, ih replay]

theorem within_of_exec {allowed : α → Prop} (replay : exec step start actions = some s)
    (ok : ∀ a ∈ actions, allowed a) : Within allowed (transitions step start actions) := by
  intro t member
  apply ok
  rw [← actions_of_exec replay]
  exact List.mem_map_of_mem member

/-- Where a replay that goes through ends. -/
def replay (step : σ → α → Option σ) (start : σ) (actions : List α)
    (enabled : (exec step start actions).isSome = true) : σ :=
  (exec step start actions).get enabled

theorem run_replay {step : σ → α → Option σ}
    (enabled : (exec step start actions).isSome = true) :
    Run step start (transitions step start actions) (replay step start actions enabled) :=
  run_of_exec (Option.some_get enabled).symm

theorem within_replay {step : σ → α → Option σ} {allowed : α → Prop}
    (enabled : (exec step start actions).isSome = true) (ok : ∀ a ∈ actions, allowed a) :
    Within allowed (transitions step start actions) :=
  within_of_exec (Option.some_get enabled).symm ok

theorem exec_append {step : σ → α → Option σ} {more : List α} :
    exec step start (actions ++ more) =
      (exec step start actions).bind fun middle => exec step middle more := by
  induction actions generalizing start with
  | nil => rfl
  | cons a rest ih =>
    rw [List.cons_append, exec, exec]
    cases step start a with
    | none => rfl
    | some middle => exact ih

theorem enabled_of_append {step : σ → α → Option σ} {more : List α}
    (enabled : (exec step start (actions ++ more)).isSome = true) :
    (exec step start actions).isSome = true := by
  rw [exec_append] at enabled
  exact Option.isSome_of_isSome_bind enabled

/-- The last action of a replay, as a step. -/
theorem step_replay {step : σ → α → Option σ}
    (enabled : (exec step start (actions ++ [a])).isSome = true) :
    step (replay step start actions (enabled_of_append enabled)) a =
      some (replay step start (actions ++ [a]) enabled) := by
  have before : exec step start actions =
      some (replay step start actions (enabled_of_append enabled)) :=
    (Option.some_get (enabled_of_append enabled)).symm
  have after : exec step start (actions ++ [a]) = some (replay step start (actions ++ [a]) enabled) :=
    (Option.some_get enabled).symm
  rw [exec_append, before, Option.bind_some, exec] at after
  obtain ⟨last, taken, rest⟩ := Option.bind_eq_some_iff.mp after
  cases rest
  exact taken

/-! ## Telling two states apart -/

/-- The state after the actions, where one that is not enabled changes nothing. -/
def settle (step : σ → α → Option σ) (s : σ) (actions : List α) : σ :=
  actions.foldl (fun s a => (step s a).getD s) s

theorem settle_of_exec {step : σ → α → Option σ} (replay : exec step start actions = some s) :
    settle step start actions = s := by
  induction actions generalizing start with
  | nil =>
    cases replay
    rfl
  | cons a rest ih =>
    obtain ⟨middle, taken, replay⟩ := Option.bind_eq_some_iff.mp replay
    simp only [settle, List.foldl_cons, taken, Option.getD_some]
    exact ih replay

/-- What the given actions keep holds after all of them. -/
theorem settle_invariant {step : σ → α → Option σ} {P : σ → Prop} (holds : P s)
    (keeps : ∀ s s', ∀ a ∈ actions, P s → step s a = some s' → P s') :
    P (settle step s actions) := by
  induction actions generalizing s with
  | nil => exact holds
  | cons a rest ih =>
    refine ih ?_ fun s s' b member => keeps s s' b (List.mem_cons_of_mem _ member)
    change P ((step s a).getD s)
    cases taken : step s a with
    | none => exact holds
    | some s' => exact keeps s s' a List.mem_cons_self holds taken

/-- Whatever is done next, the two states show the same. -/
def Alike (step : σ → α → Option σ) (view : σ → β) (s s' : σ) : Prop :=
  ∀ actions, view (settle step s actions) = view (settle step s' actions)

theorem Alike.refl {step : σ → α → Option σ} {view : σ → β} : Alike step view s s :=
  fun _ => rfl

/-- What is shown at once is the same. -/
theorem Alike.now {step : σ → α → Option σ} {view : σ → β} (alike : Alike step view s s') :
    view s = view s' :=
  alike []

theorem Alike.symm {step : σ → α → Option σ} {view : σ → β} (alike : Alike step view s s') :
    Alike step view s' s :=
  fun actions => (alike actions).symm

end KiTicket.Runs
