import KiTicket.Lib.Runs

/-! Effects of a component that is rendered again and again. An effect is started for the
values it depends on; when they change it is cleaned up and started anew, while what the old
start awaits may still arrive. Where a start that was cleaned up leaves the view alone, the
view is as if the newest start had been the only one. A change of the values and the start
it leads to are one step: nothing else runs between a render and its effects. -/
namespace KiTicket.Effects
open Runs

/-- One start of the effect, until its cleanup. -/
structure Task (κ : Type u) (σ : Type v) where
  deps : κ
  state : σ
  active : Bool

/-- A component with what its effect and its handlers read from outside. -/
structure Component (ε : Type w) (κ : Type u) (σ : Type v) (ω : Type x) where
  env : ε
  tasks : List (Task κ σ)
  view : ω

inductive Action (α : Type u) (κ : Type v) (γ : Type w) (β : Type x) where
  | env (a : α)
  | change (deps : κ)
  | unmount
  | turn (i : Nat) (choice : γ)
  /-- What the user does without changing the values. -/
  | act (input : β)

structure Hook (ε : Type u) (α : Type v) (κ : Type w) (σ : Type x) (ω : Type y) (γ : Type z)
    (β : Type t) where
  env : ε → α → Option ε
  start : κ → σ
  enter : κ → ω → ω
  turn : ε → κ → Bool → γ → σ → ω → Option (σ × ω)
  act : ε → β → ω → Option (ε × ω)
  /-- What was cleaned up writes nothing. -/
  quiet : ∀ {env deps choice state state' view view'},
    turn env deps false choice state view = some (state', view') → view' = view

section
variable {ε : Type u} {α : Type v} {κ : Type w} {σ : Type x} {ω : Type y} {γ : Type z} {β : Type t}
  {hook : Hook ε α κ σ ω γ β}

def Task.cleanUp (task : Task κ σ) : Task κ σ := { task with active := false }

def Hook.step (hook : Hook ε α κ σ ω γ β) (c : Component ε κ σ ω) :
    Action α κ γ β → Option (Component ε κ σ ω)
  | .env a => (hook.env c.env a).map fun env => { c with env }
  | .change deps => some { c with
      tasks := c.tasks.map Task.cleanUp ++ [⟨deps, hook.start deps, true⟩]
      view := hook.enter deps c.view }
  | .unmount => some { c with tasks := c.tasks.map Task.cleanUp }
  | .turn i choice => c.tasks[i]?.bind fun task =>
    (hook.turn c.env task.deps task.active choice task.state c.view).map fun moved =>
      { c with tasks := c.tasks.set i { task with state := moved.1 }, view := moved.2 }
  | .act input => (hook.act c.env input c.view).map fun moved =>
    { c with env := moved.1, view := moved.2 }

/-- The values do not change and the component stays. -/
def Action.Calm : Action α κ γ β → Prop
  | .change _ | .unmount => False
  | _ => True

/-- What the steps of the environment, the starts of the effect, the turns of starts that are
not cleaned up, and the inputs keep, every run keeps. -/
theorem history_of_run {J : List (Transition (Component ε κ σ ω) (Action α κ γ β)) → ε → ω → Prop}
    {c c' : Component ε κ σ ω} {ts : List (Transition (Component ε κ σ ω) (Action α κ γ β))}
    (run : Run hook.step c ts c') (holds : J [] c.env c.view)
    (others : ∀ ts t env view, J ts env view → (∀ input, t.action ≠ .act input) →
      J (ts ++ [t]) env view)
    (env : ∀ ts t a env env' view, J ts env view → t.action = .env a → t.target.env = env' →
      hook.env env a = some env' → J (ts ++ [t]) env' view)
    (enter : ∀ ts t deps env view, J ts env view → t.action = .change deps →
      J (ts ++ [t]) env (hook.enter deps view))
    (turn : ∀ ts t i deps choice state state' env view view', J ts env view →
      t.action = .turn i choice → hook.turn env deps true choice state view = some (state', view') →
      J (ts ++ [t]) env view')
    (act : ∀ ts t input env env' view view', J ts env view → t.action = .act input →
      t.source.view = view → t.target.env = env' → hook.act env input view = some (env', view') →
      J (ts ++ [t]) env' view') :
    J ts c'.env c'.view := by
  refine run.history (P := fun ts c => J ts c.env c.view) (fun _ _ => (trivial : True)) holds ?_
  rintro ts c a c' - - holds - taken
  cases a with
  | env a =>
    obtain ⟨env', moves, rfl⟩ := Option.map_eq_some_iff.mp taken
    exact env _ _ _ _ _ _ holds rfl rfl moves
  | change deps =>
    cases taken
    exact enter _ _ _ _ _ holds rfl
  | unmount =>
    cases taken
    exact others _ _ _ _ holds fun _ same => (by cases same)
  | turn i choice =>
    obtain ⟨task, -, taken⟩ := Option.bind_eq_some_iff.mp taken
    obtain ⟨⟨state, view⟩, moves, rfl⟩ := Option.map_eq_some_iff.mp taken
    cases active : task.active with
    | true =>
      rw [active] at moves
      exact turn _ _ _ _ _ _ _ _ _ _ holds rfl moves
    | false =>
      rw [active] at moves
      obtain rfl : view = c.view := hook.quiet moves
      exact others _ _ _ _ holds fun _ same => (by cases same)
  | act input =>
    obtain ⟨⟨env, view⟩, moves, rfl⟩ := Option.map_eq_some_iff.mp taken
    exact act _ _ _ _ _ _ _ holds rfl rfl rfl moves

/-- A turn of the newest start. -/
theorem step_newest {before : List (Task κ σ)} {deps : κ} {state : σ} {choice : γ} {moved : σ × ω}
    (moves : hook.turn env deps true choice state view = some moved) :
    hook.step ⟨env, before ++ [⟨deps, state, true⟩], view⟩ (.turn before.length choice) =
      some ⟨env, before ++ [⟨deps, moved.1, true⟩], moved.2⟩ := by
  simp only [Hook.step, List.getElem?_concat_length, Option.bind_some, moves, Option.map_some,
    List.set_append_right _ _ (Nat.le_refl _), Nat.sub_self, List.set_cons_zero]

/-- Starts that were cleaned up, and the newest one, about whose state, the view and the
record so far something holds. -/
def Alone (R : List (Transition (Component ε κ σ ω) (Action α κ γ β)) → σ → ω → Prop) (deps : κ)
    (older : Nat) (ts : List (Transition (Component ε κ σ ω) (Action α κ γ β)))
    (c : Component ε κ σ ω) : Prop :=
  ∃ before state, c.tasks = before ++ [⟨deps, state, true⟩] ∧ before.length = older ∧
    (∀ task ∈ before, task.active = false) ∧ R ts state c.view

/-- After a change of the values all that counts is the start it led to, whatever older
starts were awaiting. -/
theorem alone_of_run {R : List (Transition (Component ε κ σ ω) (Action α κ γ β)) → σ → ω → Prop}
    {deps : κ} {c₀ c c' : Component ε κ σ ω}
    {ts : List (Transition (Component ε κ σ ω) (Action α κ γ β))}
    (changed : hook.step c₀ (.change deps) = some c) (run : Run hook.step c ts c')
    (calm : ∀ t ∈ ts, t.action.Calm)
    (start : R [] (hook.start deps) (hook.enter deps c₀.view))
    (others : ∀ ts t state view, R ts state view →
      (∀ choice, t.action ≠ .turn c₀.tasks.length choice) → R (ts ++ [t]) state view)
    (turn : ∀ ts t choice state state' view view', R ts state view →
      t.action = .turn c₀.tasks.length choice →
      hook.turn t.source.env deps true choice state view = some (state', view') →
      R (ts ++ [t]) state' view')
    (act : ∀ ts t input state env view view', R ts state view → t.action = .act input →
      hook.act t.source.env input view = some (env, view') → R (ts ++ [t]) state view') :
    Alone R deps c₀.tasks.length ts c' := by
  cases changed
  refine run.history (P := Alone R deps c₀.tasks.length) calm ?_ ?_
  · refine ⟨c₀.tasks.map Task.cleanUp, hook.start deps, rfl, List.length_map _, ?_, start⟩
    intro task member
    obtain ⟨old, -, rfl⟩ := List.mem_map.mp member
    rfl
  rintro ts ⟨env, tasks, view⟩ a c' - - ⟨before, state, rfl, size, cleaned, holds⟩ calm taken
  cases a with
  | env a =>
    obtain ⟨env', -, rfl⟩ := Option.map_eq_some_iff.mp taken
    exact ⟨before, state, rfl, size, cleaned, others _ _ _ _ holds fun _ other => (by cases other)⟩
  | change => exact calm.elim
  | unmount => exact calm.elim
  | act input =>
    obtain ⟨⟨env', view'⟩, moves, rfl⟩ := Option.map_eq_some_iff.mp taken
    exact ⟨before, state, rfl, size, cleaned, act _ _ _ _ _ _ _ holds rfl moves⟩
  | turn i choice =>
    obtain ⟨task, here, taken⟩ := Option.bind_eq_some_iff.mp taken
    obtain ⟨⟨state', view'⟩, moves, rfl⟩ := Option.map_eq_some_iff.mp taken
    rw [List.getElem?_append] at here
    split at here
    · -- an older start: it changes itself only
      rename_i old
      have inactive : task.active = false := cleaned task (List.mem_of_getElem? here)
      rw [inactive] at moves
      obtain rfl : view' = view := hook.quiet moves
      refine ⟨before.set i { task with state := state' }, state, ?_, ?_, ?_, ?_⟩
      · exact List.set_append_left _ _ old
      · rw [List.length_set, size]
      · intro other member
        rcases List.mem_or_eq_of_mem_set member with kept | rfl
        · exact cleaned other kept
        · exact inactive
      · refine others _ _ _ _ holds fun _ own => ?_
        cases own
        omega
    · rename_i late
      obtain ⟨zero, found⟩ := List.getElem?_eq_some_iff.mp here
      have position : i = before.length := by
        have first : i - before.length = 0 := Nat.lt_one_iff.mp zero
        omega
      subst position
      simp only [Nat.sub_self, List.getElem_cons_zero] at found
      subst found
      refine ⟨before, state', ?_, size, cleaned, ?_⟩
      · rw [List.set_append_right _ _ (Nat.le_refl _), Nat.sub_self]
        rfl
      · exact turn _ _ _ _ _ _ _ holds (by rw [size]) moves

/-- The values the effect was last started for. -/
def Component.latest (c : Component ε κ σ ω) : Option κ := (c.tasks.map Task.deps).getLast?

/-- Each step keeps something of every start, cleaned up or not, and of the view beside the
values that came last. -/
structure Hook.Keeps (hook : Hook ε α κ σ ω γ β) (K : ε → κ → σ → Prop) (V : ε → Option κ → ω → Prop) :
    Prop where
  env {env env' : ε} {a : α} {latest : Option κ} {view : ω} :
    V env latest view → hook.env env a = some env' →
      V env' latest view ∧ ∀ deps state, K env deps state → K env' deps state
  enter {env : ε} {latest : Option κ} {view : ω} (deps : κ) :
    V env latest view → V env (some deps) (hook.enter deps view) ∧ K env deps (hook.start deps)
  turn {env : ε} {deps : κ} {active : Bool} {choice : γ} {state state' : σ} {latest : Option κ}
    {view view' : ω} :
    V env latest view → K env deps state → (active = true → latest = some deps) →
      hook.turn env deps active choice state view = some (state', view') →
      V env latest view' ∧ K env deps state'
  act {env env' : ε} {input : β} {latest : Option κ} {view view' : ω} :
    V env latest view → hook.act env input view = some (env', view') →
      V env' latest view' ∧ ∀ deps state, K env deps state → K env' deps state

structure Kept (K : ε → κ → σ → Prop) (V : ε → Option κ → ω → Prop) (c : Component ε κ σ ω) :
    Prop where
  tasks : ∀ task ∈ c.tasks, K c.env task.deps task.state
  newest : ∀ task ∈ c.tasks, task.active = true → c.latest = some task.deps
  view : V c.env c.latest c.view

theorem deps_cleanUp (tasks : List (Task κ σ)) :
    (tasks.map Task.cleanUp).map Task.deps = tasks.map Task.deps := by
  rw [List.map_map]
  rfl

theorem deps_set {tasks : List (Task κ σ)} {i : Nat} {task : Task κ σ} (here : tasks[i]? = some task)
    (state : σ) : (tasks.set i { task with state }).map Task.deps = tasks.map Task.deps := by
  obtain ⟨bound, rfl⟩ := List.getElem?_eq_some_iff.mp here
  have bound : i < (tasks.map Task.deps).length := by rwa [List.length_map]
  have same : (tasks.map Task.deps)[i] = tasks[i].deps := List.getElem_map Task.deps
  rw [List.map_set, ← same, List.set_getElem_self]

theorem Kept.next {K : ε → κ → σ → Prop} {V : ε → Option κ → ω → Prop} {c c' : Component ε κ σ ω}
    {a : Action α κ γ β} (kept : Kept K V c) (keeps : hook.Keeps K V)
    (taken : hook.step c a = some c') : Kept K V c' := by
  cases a with
  | env a =>
    obtain ⟨env', moves, rfl⟩ := Option.map_eq_some_iff.mp taken
    obtain ⟨view, tasks⟩ := keeps.env kept.view moves
    exact ⟨fun task member => tasks _ _ (kept.tasks task member), kept.newest, view⟩
  | change deps =>
    cases taken
    obtain ⟨view, started⟩ := keeps.enter deps kept.view
    have latest : ((c.tasks.map Task.cleanUp ++
        [(⟨deps, hook.start deps, true⟩ : Task κ σ)]).map Task.deps).getLast? = some deps := by
      rw [List.map_append]
      exact List.getLast?_concat
    refine ⟨fun task member => ?_, fun task member active => ?_, ?_⟩
    · rcases List.mem_append.mp member with older | new
      · obtain ⟨old, was, rfl⟩ := List.mem_map.mp older
        exact kept.tasks old was
      · cases List.mem_singleton.mp new
        exact started
    · rcases List.mem_append.mp member with older | new
      · obtain ⟨old, -, rfl⟩ := List.mem_map.mp older
        cases active
      · cases List.mem_singleton.mp new
        exact latest
    · rw [Component.latest, latest]
      exact view
  | unmount =>
    cases taken
    refine ⟨fun task member => ?_, fun task member active => ?_, ?_⟩
    · obtain ⟨old, was, rfl⟩ := List.mem_map.mp member
      exact kept.tasks old was
    · obtain ⟨old, -, rfl⟩ := List.mem_map.mp member
      cases active
    · rw [Component.latest, deps_cleanUp]
      exact kept.view
  | turn i choice =>
    obtain ⟨task, here, taken⟩ := Option.bind_eq_some_iff.mp taken
    obtain ⟨⟨state, view⟩, moves, rfl⟩ := Option.map_eq_some_iff.mp taken
    have member := List.mem_of_getElem? here
    obtain ⟨view, moved⟩ := keeps.turn kept.view (kept.tasks task member) (kept.newest task member) moves
    refine ⟨fun other member => ?_, fun other member active => ?_, ?_⟩
    · rcases List.mem_or_eq_of_mem_set member with old | rfl
      · exact kept.tasks other old
      · exact moved
    · rw [Component.latest, deps_set here]
      rcases List.mem_or_eq_of_mem_set member with old | rfl
      · exact kept.newest other old active
      · exact kept.newest task (List.mem_of_getElem? here) active
    · rw [Component.latest, deps_set here]
      exact view
  | act input =>
    obtain ⟨⟨env, view⟩, moves, rfl⟩ := Option.map_eq_some_iff.mp taken
    obtain ⟨view, tasks⟩ := keeps.act kept.view moves
    exact ⟨fun task member => tasks _ _ (kept.tasks task member), kept.newest, view⟩

theorem Kept.run {K : ε → κ → σ → Prop} {V : ε → Option κ → ω → Prop} {c c' : Component ε κ σ ω}
    {ts : List (Transition (Component ε κ σ ω) (Action α κ γ β))} (kept : Kept K V c)
    (keeps : hook.Keeps K V) (run : Run hook.step c ts c') : Kept K V c' :=
  run.invariant (fun _ _ => (trivial : True)) kept fun _ _ _ kept _ taken => kept.next keeps taken

end

end KiTicket.Effects
