import Mathlib.Data.List.Induction
import KiTicket.Lib.Lists
import KiTicket.Checkout

/-! `idempotencyKey` of the client's `api.ts`. A key is kept in the storage of the tab,
which may throw, and in a map, which lives as long as the page; the map is asked only when
the storage throws. -/
namespace KiTicket.Client

/-- What the random part of a key is made of: the clock and a number in base 16 where
there is no `crypto.randomUUID`. -/
structure Draw where
  uuid : Uuid
  now : Nat
  fraction : List (Fin 16)
deriving DecidableEq

def Draw.text (randomUUID : Bool) (draw : Draw) : Text :=
  if randomUUID then draw.uuid.text
  else Nat.toDigits 10 draw.now ++ '-' :: draw.fraction.map (Nat.digitChar ∘ Fin.val)

/-- A call, with what the storage does in it. -/
structure Call where
  scope : Text
  getFails : Bool
  setFails : Bool
  draw : Draw
deriving DecidableEq

structure Tab where
  session : Text → Option Text
  volatile : Text → Option Text

def Tab.fresh : Tab := ⟨fun _ => none, fun _ => none⟩

def storageKey (scope : Text) : Text := "narm-idempotency-".toList ++ scope

def Call.generated (randomUUID : Bool) (call : Call) : Text :=
  call.scope ++ '-' :: call.draw.text randomUUID

/-- `setItem` and `Map.set`. -/
def put (items : Text → Option Text) (key value : Text) : Text → Option Text :=
  Function.update items key (some value)

def idempotencyKey (randomUUID : Bool) (tab : Tab) (call : Call) : Tab × Text :=
  let key := storageKey call.scope
  let existing := if call.getFails then tab.volatile key else tab.session key
  -- an empty string counts as none
  match existing.filter (· ≠ []) with
  | some existing => (tab, existing)
  | none =>
    let generated := call.generated randomUUID
    ({ session := if call.setFails then tab.session else put tab.session key generated
       volatile := put tab.volatile key generated }, generated)

/-- What happens in a tab. -/
inductive Act where
  | call (call : Call)
  | reload
deriving DecidableEq

/-- The tab, and the keys given out so far with their scopes. -/
def serve (randomUUID : Bool) : Tab × List (Text × Text) → Act → Tab × List (Text × Text)
  | (tab, keys), .call call =>
    let (tab, key) := idempotencyKey randomUUID tab call
    (tab, keys ++ [(call.scope, key)])
  | (tab, keys), .reload => ({ tab with volatile := fun _ => none }, keys)

def served (randomUUID : Bool) (acts : List Act) : Tab × List (Text × Text) :=
  acts.foldl (serve randomUUID) (.fresh, [])

/-- Calls have the same key exactly when they have the same scope. -/
def Stable (keys : List (Text × Text)) : Prop :=
  ∀ x ∈ keys, ∀ y ∈ keys, x.1 = y.1 ↔ x.2 = y.2

instance : Decidable (Stable keys) := by
  unfold Stable
  infer_instance

def Act.asks : Act → Option Call
  | .call request => some request
  | .reload => none

def randoms (randomUUID : Bool) (acts : List Act) : List Text :=
  (acts.filterMap Act.asks).map fun call => call.draw.text randomUUID

/-! ## The first call of a scope -/

/-- The first call of the scope, and whether the page was loaded anew since. -/
def note (scope : Text) : Option (Call × Bool) → Act → Option (Call × Bool)
  | none, .call call => if call.scope = scope then some (call, false) else none
  | none, .reload => none
  | some past, .call _ => some past
  | some (call, _), .reload => some (call, true)

def first (scope : Text) (acts : List Act) : Option (Call × Bool) := acts.foldl (note scope) none

/-- Where the storage throws, the map has to be the one of the first call; where it does
not, the first call has to have been stored. -/
def Finds (past : Call × Bool) (call : Call) : Prop :=
  if call.getFails then past.2 = false else past.1.setFails = false

instance : Decidable (Finds past call) := by
  unfold Finds
  infer_instance

/-- The call, if it is one, finds the key of the first call of its scope. -/
def Act.Follows (before : List Act) : Act → Prop
  | .call request => ∀ past ∈ first request.scope before, Finds past request
  | .reload => True

instance {act : Act} : Decidable (act.Follows before) := by
  cases act <;> unfold Act.Follows <;> infer_instance

def Settles (acts : List Act) : Prop := ∀ before act, before ++ [act] <+: acts → act.Follows before

instance : Decidable (Settles acts) := decidable_of_iff _ Lists.forall_prefix_iff.symm

variable {randomUUID : Bool} {acts : List Act} {act : Act} {a b : Call} {scope scope' key : Text}
  {tab : Tab} {keys : List (Text × Text)} {past : Call × Bool} {draw draw' : Draw}

@[simp] theorem first_concat : first scope (acts ++ [act]) = note scope (first scope acts) act := by
  rw [first, List.foldl_append]
  rfl

theorem first_spec (known : first scope acts = some past) :
    past.1.scope = scope ∧ .call past.1 ∈ acts := by
  induction acts using List.reverseRecOn generalizing past with
  | nil => cases known
  | append_singleton acts act ih =>
    rw [first_concat] at known
    cases earlier : first scope acts with
    | none =>
      rw [earlier] at known
      cases act with
      | call call =>
        simp only [note] at known
        split at known <;> cases known
        exact ⟨by assumption, List.mem_concat_self⟩
      | reload => cases known
    | some past' =>
      rw [earlier] at known
      obtain ⟨named, member⟩ := ih earlier
      cases act <;> cases known <;> exact ⟨named, List.mem_append_left _ member⟩

theorem settles_concat : Settles (acts ++ [act]) ↔ Settles acts ∧ act.Follows acts := by
  constructor
  · intro settles
    exact ⟨fun before act front => settles before act (front.trans (List.prefix_append _ _)),
      settles acts act List.prefix_rfl⟩
  · rintro ⟨settles, follows⟩ before act' front
    rcases List.prefix_concat_iff.mp front with same | front
    · obtain ⟨rfl, last⟩ := List.append_inj' same rfl
      cases last
      exact follows
    · exact settles before act' front

/-! ## Keys of different scopes -/

private theorem dash_of_digit (digit : Fin 16) : Nat.digitChar digit ≠ '-' := by
  revert digit
  decide

private theorem dash_of_number {n : Nat} : '-' ∉ Nat.toDigits 10 n := by
  intro member
  exact absurd (Nat.isDigit_of_mem_toDigits (by decide) (by decide) member) (by decide)

/-- What comes after the last hyphen. -/
theorem last_part {front front' rest rest' : Text} (plain : '-' ∉ rest) (plain' : '-' ∉ rest')
    (same : front ++ '-' :: rest = front' ++ '-' :: rest') : front = front' ∧ rest = rest' := by
  have reads : ∀ front rest : Text, '-' ∉ rest →
      (front ++ '-' :: rest).reverse.takeWhile (· ≠ '-') = rest.reverse := by
    intro front rest plain
    rw [List.reverse_append, List.reverse_cons, List.append_assoc, List.takeWhile_append_of_pos]
    · simp
    · intro c member
      refine decide_eq_true fun hyphen => plain ?_
      rwa [← hyphen, ← List.mem_reverse]
  have tails : rest = rest' := by
    rw [← List.reverse_inj, ← reads front rest plain, same, reads front' rest' plain']
  subst tails
  exact ⟨List.append_cancel_right same, rfl⟩

/-- A key says what its scope and its random part are. -/
theorem generated_inj (same : a.generated randomUUID = b.generated randomUUID) :
    a.scope = b.scope ∧ a.draw.text randomUUID = b.draw.text randomUUID := by
  cases randomUUID with
  | true =>
    have size : ∀ draw : Draw, (draw.text true).length = 36 := by
      intro draw
      have layout := draw.uuid.layout
      simp only [uuidLayout, Bool.and_eq_true, beq_iff_eq] at layout
      exact layout.1
    obtain ⟨scopes, tails⟩ := List.append_inj' same (by simp [size])
    exact ⟨scopes, List.cons_injective tails⟩
  | false =>
    have plain : ∀ draw : Draw, '-' ∉ draw.fraction.map (Nat.digitChar ∘ Fin.val) := by
      intro draw member
      obtain ⟨digit, -, hyphen⟩ := List.mem_map.mp member
      exact dash_of_digit digit hyphen
    have texts : ∀ call : Call, call.generated false =
        (call.scope ++ '-' :: Nat.toDigits 10 call.draw.now) ++
          '-' :: call.draw.fraction.map (Nat.digitChar ∘ Fin.val) := by
      intro call
      simp [Call.generated, Draw.text]
    rw [texts, texts] at same
    obtain ⟨fronts, fractions⟩ := last_part (plain a.draw) (plain b.draw) same
    obtain ⟨scopes, clocks⟩ := last_part dash_of_number dash_of_number fronts
    refine ⟨scopes, ?_⟩
    simp only [Draw.text, Bool.false_eq_true, if_false, clocks, fractions]

theorem generated_ne_nil : a.generated randomUUID ≠ [] :=
  List.append_ne_nil_of_right_ne_nil _ (List.cons_ne_nil _ _)

theorem filter_full (full : key ≠ []) : (some key).filter (fun text => decide (text ≠ [])) = some key := by
  simp [full]

/-- While the storage works a call does what the checkout relies on. -/
theorem idempotencyKey_of_works (reads : a.getFails = false) (writes : a.setFails = false)
    (full : tab.session (storageKey a.scope) ≠ some []) :
    (idempotencyKey randomUUID tab a).2 = KiTicket.idempotencyKey
      (tab.session (storageKey a.scope)) a.scope (a.draw.text randomUUID) ∧
    (idempotencyKey randomUUID tab a).1.session (storageKey a.scope) =
      some (idempotencyKey randomUUID tab a).2 := by
  simp only [idempotencyKey, reads, writes, Bool.false_eq_true, if_false]
  cases stored : tab.session (storageKey a.scope) with
  | none =>
    rw [Option.filter_none]
    exact ⟨rfl, Function.update_self _ _ _⟩
  | some key =>
    rw [filter_full fun none => full (by rw [stored, none])]
    exact ⟨rfl, stored⟩

/-! ## What the tab knows of a scope -/

theorem storageKey_inj : storageKey scope = storageKey scope' ↔ scope = scope' :=
  List.append_right_inj _

/-- Of every scope the tab has the key of the first call, in the storage if it took it and
in the map until the page is loaded anew. -/
structure Keeps (randomUUID : Bool) (acts : List Act) (tab : Tab) (keys : List (Text × Text)) : Prop where
  session : ∀ scope, tab.session (storageKey scope) = (first scope acts).bind fun past =>
    if past.1.setFails then none else some (past.1.generated randomUUID)
  volatile : ∀ scope, tab.volatile (storageKey scope) = (first scope acts).bind fun past =>
    if past.2 then none else some (past.1.generated randomUUID)
  keys : ∀ scope key, (scope, key) ∈ keys ↔
    ∃ past, first scope acts = some past ∧ key = past.1.generated randomUUID

theorem keeps_nil : Keeps randomUUID [] .fresh [] where
  session _ := rfl
  volatile _ := rfl
  keys _ _ := by simp [first]

theorem Keeps.reload (keeps : Keeps randomUUID acts tab keys) :
    Keeps randomUUID (acts ++ [.reload]) { tab with volatile := fun _ => none } keys where
  session scope := by
    rw [keeps.session, first_concat]
    cases first scope acts <;> rfl
  volatile scope := by
    rw [first_concat]
    cases first scope acts <;> rfl
  keys scope key := by
    rw [keeps.keys, first_concat]
    cases first scope acts <;> simp [note]

/-- A call of a new scope, or one that does not find the key of its scope, makes a key. -/
theorem idempotencyKey_new (keeps : Keeps randomUUID acts tab keys)
    (missing : ∀ past, first b.scope acts = some past → ¬Finds past b) :
    idempotencyKey randomUUID tab b =
      ({ session := if b.setFails then tab.session
           else put tab.session (storageKey b.scope) (b.generated randomUUID)
         volatile := put tab.volatile (storageKey b.scope) (b.generated randomUUID) },
        b.generated randomUUID) := by
  have none : (if b.getFails then tab.volatile (storageKey b.scope)
      else tab.session (storageKey b.scope)) = none := by
    rw [keeps.session, keeps.volatile]
    cases known : first b.scope acts with
    | none => split <;> rfl
    | some past =>
      have lost := missing past known
      unfold Finds at lost
      split <;> rename_i thrown <;> simp_all
  simp only [idempotencyKey, none, Option.filter_none]

theorem idempotencyKey_found (keeps : Keeps randomUUID acts tab keys)
    (known : first b.scope acts = some past) (finds : Finds past b) :
    idempotencyKey randomUUID tab b = (tab, past.1.generated randomUUID) := by
  have found : (if b.getFails then tab.volatile (storageKey b.scope)
      else tab.session (storageKey b.scope)) = some (past.1.generated randomUUID) := by
    rw [keeps.session, keeps.volatile, known]
    unfold Finds at finds
    split at finds <;> rename_i thrown <;> simp [thrown, finds]
  simp only [idempotencyKey, found, filter_full generated_ne_nil]

theorem put_storageKey {items : Text → Option Text} {value : Text} :
    put items (storageKey scope) value (storageKey scope') =
      if scope = scope' then some value else items (storageKey scope') := by
  unfold put Function.update
  simp only [storageKey_inj, eq_comm (a := scope'), eq_rec_constant, dite_eq_ite]

theorem first_call : first scope (acts ++ [.call b]) =
    (first scope acts).or (if b.scope = scope then some (b, false) else none) := by
  rw [first_concat]
  cases first scope acts <;> rfl

theorem Keeps.found (keeps : Keeps randomUUID acts tab keys) (known : first b.scope acts = some past) :
    Keeps randomUUID (acts ++ [.call b]) tab (keys ++ [(b.scope, past.1.generated randomUUID)]) := by
  have same : ∀ scope, first scope (acts ++ [.call b]) = first scope acts := by
    intro scope
    rw [first_call]
    split
    · rename_i named
      rw [← named, known]
      rfl
    · exact Option.or_none
  constructor
  · intro scope
    rw [same, keeps.session]
  · intro scope
    rw [same, keeps.volatile]
  · intro scope key
    rw [same, List.mem_append, keeps.keys, List.mem_singleton, Prod.mk.injEq]
    constructor
    · rintro (old | ⟨rfl, rfl⟩)
      · exact old
      · exact ⟨past, known, rfl⟩
    · exact .inl

theorem Keeps.generated (keeps : Keeps randomUUID acts tab keys) (new : first b.scope acts = none) :
    Keeps randomUUID (acts ++ [.call b])
      { session := if b.setFails then tab.session
          else put tab.session (storageKey b.scope) (b.generated randomUUID)
        volatile := put tab.volatile (storageKey b.scope) (b.generated randomUUID) }
      (keys ++ [(b.scope, b.generated randomUUID)]) := by
  have other : ∀ scope, b.scope ≠ scope → first scope (acts ++ [.call b]) = first scope acts := by
    intro scope different
    rw [first_call, if_neg different, Option.or_none]
  have own : first b.scope (acts ++ [.call b]) = some (b, false) := by
    rw [first_call, new, if_pos rfl]
    rfl
  constructor
  · intro scope
    by_cases mine : b.scope = scope
    · subst mine
      have unset := keeps.session b.scope
      rw [new] at unset
      rw [own]
      dsimp only [Option.bind_some]
      split
      · exact unset
      · rw [put_storageKey, if_pos rfl]
    · rw [other scope mine, ← keeps.session]
      dsimp only
      split
      · rfl
      · rw [put_storageKey, if_neg mine]
  · intro scope
    dsimp only
    rw [put_storageKey]
    split
    · rename_i mine
      rw [← mine, own]
      rfl
    · rename_i mine
      rw [other scope mine, keeps.volatile]
  · intro scope key
    rw [List.mem_append, keeps.keys, List.mem_singleton, Prod.mk.injEq]
    by_cases mine : b.scope = scope
    · subst mine
      rw [own, new]
      simp
    · rw [other scope mine]
      simp [Ne.symm mine]

theorem served_concat : served randomUUID (acts ++ [act]) = serve randomUUID (served randomUUID acts) act := by
  rw [served, List.foldl_append]
  rfl

/-- As long as every call finds the key of its scope, this is what the tab knows. -/
theorem keeps_of_settles (settles : Settles acts) :
    Keeps randomUUID acts (served randomUUID acts).1 (served randomUUID acts).2 := by
  induction acts using List.reverseRecOn with
  | nil => exact keeps_nil
  | append_singleton acts act ih =>
    obtain ⟨earlier, follows⟩ := settles_concat.mp settles
    have keeps := ih earlier
    rw [served_concat]
    cases act with
    | reload => exact keeps.reload
    | call b =>
      simp only [serve]
      cases known : first b.scope acts with
      | some past =>
        rw [idempotencyKey_found keeps known (follows past known)]
        exact keeps.found known
      | none =>
        have new := idempotencyKey_new keeps fun past known' => by
          cases known.symm.trans known'
        rw [new]
        exact keeps.generated known

theorem stable_of_keeps (keeps : Keeps randomUUID acts tab keys) : Stable keys := by
  rintro ⟨scope, key⟩ inX ⟨scope', key'⟩ inY
  obtain ⟨past, known, rfl⟩ := (keeps.keys scope key).mp inX
  obtain ⟨past', known', rfl⟩ := (keeps.keys scope' key').mp inY
  constructor
  · rintro rfl
    cases known.symm.trans known'
    rfl
  · intro same
    rw [← (first_spec known).1, ← (first_spec known').1]
    exact (generated_inj same).1

/-- A key that was given out stays given out. -/
theorem keys_subset : (served randomUUID acts).2 ⊆ (served randomUUID (acts ++ [act])).2 := by
  rw [served_concat]
  cases act with
  | call b => exact List.subset_append_left _ _
  | reload => exact List.Subset.refl _

theorem settles_of_stable (distinct : (randoms randomUUID acts).Nodup)
    (stable : Stable (served randomUUID acts).2) : Settles acts := by
  induction acts using List.reverseRecOn with
  | nil =>
    rintro before act ⟨after, none⟩
    simp at none
  | append_singleton acts act ih =>
    rw [randoms, List.filterMap_append, List.map_append] at distinct
    obtain ⟨earlier, -, apart⟩ := List.nodup_append.mp distinct
    have settles := ih earlier fun x inX y inY => stable x (keys_subset inX) y (keys_subset inY)
    refine settles_concat.mpr ⟨settles, ?_⟩
    cases act with
    | reload => trivial
    | call b =>
      intro past known
      by_contra lost
      have keeps : Keeps randomUUID acts _ _ := keeps_of_settles settles
      have fresh := idempotencyKey_new keeps fun past' known' => by
        cases known.symm.trans known'
        exact lost
      have given : (served randomUUID (acts ++ [.call b])).2 =
          (served randomUUID acts).2 ++ [(b.scope, b.generated randomUUID)] := by
        simp only [served_concat, serve, fresh]
      have old := (keeps.keys b.scope _).mpr ⟨past, known, rfl⟩
      rw [given] at stable
      have same := (stable _ (List.mem_append_left _ old) _ List.mem_concat_self).mp rfl
      refine apart _ ?_ _ List.mem_cons_self (generated_inj same).2
      exact List.mem_map_of_mem (List.mem_filterMap.mpr ⟨_, (first_spec known).2, rfl⟩)

/-- In a tab whose random parts are distinct, calls have the same key exactly when they
have the same scope, if and only if of every later call of a scope this is true: where
`getItem` throws in it the page has not been loaded anew since the first call of the scope,
and where it does not `setItem` did not throw in that first call. -/
theorem stable_iff (distinct : (randoms randomUUID acts).Nodup) :
    Stable (served randomUUID acts).2 ↔ Settles acts :=
  ⟨settles_of_stable distinct, fun settles => stable_of_keeps (keeps_of_settles settles)⟩

/-- The calls of a checkout. -/
def pay (getFails setFails : Bool) (id : Fin 16) : Act :=
  .call ⟨['r'], getFails, setFails, ⟨flat id, 0, []⟩⟩

/-- The storage is blocked for good. -/
theorem stable_iff_blocked : Stable (served true [pay true true 1, pay true true 2]).2 :=
  (stable_iff (by decide +kernel)).mpr (by decide +kernel)

/-- The storage is full: the second call reads, and finds nothing. -/
theorem key_unstable :
    ¬ ∀ (randomUUID : Bool) (acts : List Act), (randoms randomUUID acts).Nodup →
      Stable (served randomUUID acts).2 := by
  intro stable
  have both := stable true [pay false true 1, pay false true 2] (by decide +kernel)
  revert both
  decide +kernel

end KiTicket.Client
