import KiTicket.Lib.Runs
import KiTicket.Auth
import KiTicket.Broker

/-! `api` of the client's `api.ts`, by which every page asks the server. What only reads is
tried a second time after a fault on the way; everything else is sent once, whatever comes
of it. -/
namespace KiTicket.Api
open Runs
open Broker (Json)

structure ApiError where
  status : Nat
  message : Text
  retryable : Bool
deriving DecidableEq

/-- `transientStatuses` -/
def transient (status : Nat) : Bool := [408, 502, 503, 504].any (· = status)

def unsuccessful : Text := "درخواست ناموفق بود".toList

def member (name : String) (members : List (Text × Json)) : Option Json :=
  (members.reverse.find? (·.1 = name.toList)).map Prod.snd

/-- `errorMessage`; it throws where `String` does. -/
def errorMessage : Option Json → Except String Text
  | some (.string text) => .ok (if Auth.trim text = [] then unsuccessful else text)
  | some (.object members) =>
    match member "message" members, member "detail" members with
    | some (.array items), _ => (items.mapM Json.toText).map ("، ".toList.intercalate ·)
    | some (.string text), _ => .ok text
    | _, some (.string text) => .ok text
    | _, _ => .ok unsuccessful
  | _ => .ok unsuccessful

/-- What a `fetch` and the reading of its body come to. -/
inductive Fetched (β : Type) where
  /-- `response.ok` -/
  | ok (body : β)
  | refused (status : Nat) (body : Option Json)
  /-- It rejects: no connection, the timeout, or the signal of the caller. -/
  | lost (timedOut : Bool)

/-- Where the loop of `api` stands. -/
inductive Progress (β : Type) where
  | ready (attempt : Nat)
  | sent (attempt : Nat)
  | resolved (body : β)
  | rejected (error : ApiError)
  /-- What the aborted `fetch` rejected with is thrown on. -/
  | aborted

def attempts (canRetry : Bool) : Nat := if canRetry then 2 else 1

def connectionError (timedOut : Bool) : ApiError :=
  if timedOut then ⟨408, "زمان پاسخ‌گویی سرور تمام شد؛ دوباره تلاش کنید.".toList, true⟩
  else ⟨0, "ارتباط با سرور برقرار نشد؛ اتصال اینترنت را بررسی کنید.".toList, true⟩

variable {β : Type} {canRetry : Bool} {n : Nat}

/-- The `catch` of an attempt, of what is no `ApiError`. -/
def caught (canRetry aborted : Bool) (attempt : Nat) (timedOut : Bool) : Progress β :=
  if aborted then .aborted
  else if attempts canRetry ≤ attempt + 1 then .rejected (connectionError timedOut)
  else .ready (attempt + 1)

/-- The rest of an attempt. -/
def receive (canRetry aborted : Bool) (attempt : Nat) : Fetched β → Progress β
  | .ok body => .resolved body
  | .refused status body =>
    if transient status = true ∧ attempt + 1 < attempts canRetry then .ready (attempt + 1)
    else
      match errorMessage body with
      | .ok message => .rejected ⟨status, message, transient status⟩
      | .error _ => caught canRetry aborted attempt false
  | .lost timedOut => caught canRetry aborted attempt timedOut

/-- An attempt begins. Nothing is sent for a caller who has given up. -/
def Progress.fetch (aborted : Bool) : Progress β → Option (Progress β)
  | .ready attempt => some (if aborted then .aborted else .sent attempt)
  | _ => none

def Progress.settle (canRetry aborted : Bool) (fetched : Fetched β) : Progress β → Option (Progress β)
  | .sent attempt => some (receive canRetry aborted attempt fetched)
  | _ => none

/-- A call, with the signal its caller passed. -/
structure Call (β : Type) where
  aborted : Bool
  progress : Progress β

inductive Action (β : Type) where
  | abort
  | fetch
  | settle (fetched : Fetched β)

def step (canRetry : Bool) (call : Call β) : Action β → Option (Call β)
  | .abort => some { call with aborted := true }
  | .fetch => (call.progress.fetch call.aborted).map fun progress => { call with progress }
  | .settle fetched =>
    (call.progress.settle canRetry call.aborted fetched).map fun progress => { call with progress }

/-- What an attempt ended with, where the step is its end. -/
def Action.fetched : Action β → Option (Fetched β)
  | .settle fetched => some fetched
  | _ => none

def Action.isAbort : Action β → Bool
  | .abort => true
  | _ => false

/-- The step hands a request to the network. -/
def sends (t : Transition (Call β) (Action β)) : Bool :=
  match t.action with
  | .fetch => !t.source.aborted
  | _ => false

/-- Something went wrong that the same request may not meet again. -/
def Fetched.Fault : Fetched β → Prop
  | .ok _ => False
  | .refused status body => transient status = true ∨ ∃ error, errorMessage body = .error error
  | .lost _ => True

/-- The error says what the attempt ended with. -/
def Fetched.Tells (error : ApiError) : Fetched β → Prop
  | .ok _ => False
  | .refused status body =>
    (∃ message, errorMessage body = .ok message ∧ error = ⟨status, message, transient status⟩) ∨
      (∃ failure, errorMessage body = .error failure) ∧ error = connectionError false
  | .lost timedOut => error = connectionError timedOut

/-- Where the attempts made so far, with what each ended with, leave the call. -/
def Progress.Follows (canRetry aborted : Bool) (ended : List (Fetched β)) : Progress β → Prop
  | .ready attempt | .sent attempt =>
    ended.length = attempt ∧ attempt < attempts canRetry ∧ ∀ f ∈ ended, f.Fault
  | .resolved body => ∃ faults, ended = faults ++ [.ok body] ∧ ∀ f ∈ faults, f.Fault
  | .rejected error => ∃ faults last, ended = faults ++ [last] ∧ (∀ f ∈ faults, f.Fault) ∧
      last.Tells error ∧ (error.retryable = true → ended.length = attempts canRetry)
  | .aborted => aborted = true ∧ ∀ f ∈ ended, f.Fault

/-- The request of the attempt that is being made. -/
def Progress.pending : Progress β → Nat
  | .sent _ => 1
  | _ => 0

theorem attempts_pos : 0 < attempts canRetry := by
  cases canRetry <;> decide

theorem forall_concat {P : β → Prop} {xs : List β} {x : β} (all : ∀ y ∈ xs, P y) (last : P x) :
    ∀ y ∈ xs ++ [x], P y := by
  intro y member
  rcases List.mem_append.mp member with earlier | final
  · exact all y earlier
  · exact List.mem_singleton.mp final ▸ last

/-- What is caught is tried again, or is the end of the call. -/
theorem follows_caught {aborted timedOut : Bool} {ended : List (Fetched β)} {f : Fetched β}
    (counted : ended.length < attempts canRetry) (faults : ∀ f ∈ ended, f.Fault) (fault : f.Fault)
    (tells : f.Tells (connectionError timedOut)) :
    (caught canRetry aborted ended.length timedOut : Progress β).Follows canRetry aborted
      (ended ++ [f]) := by
  have more := forall_concat faults fault
  unfold caught
  split
  · rename_i given
    exact ⟨given, more⟩
  · split
    · rename_i final
      refine ⟨ended, f, rfl, faults, tells, fun _ => ?_⟩
      rw [List.length_append, List.length_singleton]
      omega
    · rename_i again
      refine ⟨List.length_append, by omega, more⟩

theorem follows_receive {aborted : Bool} {ended : List (Fetched β)} {f : Fetched β}
    (counted : ended.length < attempts canRetry) (faults : ∀ f ∈ ended, f.Fault) :
    (receive canRetry aborted ended.length f).Follows canRetry aborted (ended ++ [f]) := by
  cases f with
  | ok body => exact ⟨ended, rfl, faults⟩
  | lost timedOut => exact follows_caught counted faults trivial rfl
  | refused status body =>
    simp only [receive]
    split
    · rename_i again
      exact ⟨List.length_append, again.2, forall_concat faults (.inl again.1)⟩
    rename_i last
    split
    · rename_i message read
      refine ⟨ended, _, rfl, faults, .inl ⟨message, read, rfl⟩, fun retryable => ?_⟩
      have final : ¬ ended.length + 1 < attempts canRetry := fun more => last ⟨retryable, more⟩
      rw [List.length_append, List.length_singleton]
      omega
    · rename_i failure thrown
      exact follows_caught counted faults (.inr ⟨failure, thrown⟩) (.inr ⟨⟨failure, thrown⟩, rfl⟩)

/-- What an attempt can lead to, for a caller who still waits. -/
theorem receive_cases (canRetry : Bool) (n : Nat) (f : Fetched β) :
    (∃ body, f = .ok body ∧ receive canRetry false n f = .resolved body) ∨
      (n + 1 < attempts canRetry ∧ receive canRetry false n f = .ready (n + 1)) ∨
      ∃ error, f.Tells error ∧ receive canRetry false n f = .rejected error := by
  have caught_cases (timedOut : Bool) (tells : f.Tells (connectionError timedOut)) :
      n + 1 < attempts canRetry ∧ caught (β := β) canRetry false n timedOut = .ready (n + 1) ∨
        ∃ error, f.Tells error ∧ caught (β := β) canRetry false n timedOut = .rejected error := by
    unfold caught
    by_cases final : attempts canRetry ≤ n + 1
    · exact .inr ⟨_, tells, by rw [if_neg Bool.false_ne_true, if_pos final]⟩
    · exact .inl ⟨by omega, by rw [if_neg Bool.false_ne_true, if_neg final]⟩
  cases f with
  | ok body => exact .inl ⟨body, rfl, rfl⟩
  | lost timedOut => exact .inr (caught_cases timedOut rfl)
  | refused status body =>
    simp only [receive]
    by_cases again : transient status = true ∧ n + 1 < attempts canRetry
    · exact .inr (.inl ⟨again.2, if_pos again⟩)
    rw [if_neg again]
    cases read : errorMessage body with
    | ok message => exact .inr (.inr ⟨_, .inl ⟨message, read, rfl⟩, rfl⟩)
    | error failure => exact .inr (caught_cases false (.inr ⟨⟨failure, read⟩, rfl⟩))

/-- Aborted or not, a call resolves only to what was fetched. -/
theorem fetched_of_resolved {aborted : Bool} {f : Fetched β} {body : β}
    (resolved : receive canRetry aborted n f = .resolved body) : f = .ok body := by
  have uncaught (timedOut : Bool) : caught canRetry aborted n timedOut ≠ .resolved body := by
    unfold caught
    repeat' split
    all_goals exact fun same => (by cases same)
  cases f with
  | ok other =>
    cases resolved
    rfl
  | lost timedOut => exact absurd resolved (uncaught timedOut)
  | refused status sent =>
    simp only [receive] at resolved
    split at resolved
    · cases resolved
    split at resolved
    · cases resolved
    · exact absurd resolved (uncaught false)

variable {call call' : Call β} {ts us : List (Transition (Call β) (Action β))}

/-- What the attempts ended with, in order. -/
def ended (ts : List (Transition (Call β) (Action β))) : List (Fetched β) :=
  ts.filterMap (·.action.fetched)

theorem ended_concat {t : Transition (Call β) (Action β)} :
    ended (ts ++ [t]) = ended ts ++ t.action.fetched.toList := by
  rw [ended, List.filterMap_append]
  cases other : t.action.fetched <;> simp [ended, other]

theorem countP_concat {t : Transition (Call β) (Action β)} :
    (ts ++ [t]).countP sends = ts.countP sends + if sends t then 1 else 0 := by
  rw [List.countP_append, List.countP_singleton]

/-- The call is where its attempts leave it, and every request it sent was an attempt. -/
structure Accounted (canRetry : Bool) (ts : List (Transition (Call β) (Action β))) (call : Call β) :
    Prop where
  follows : call.progress.Follows canRetry call.aborted (ended ts)
  counted : ts.countP sends = (ended ts).length + call.progress.pending
  few : (ended ts).length + call.progress.pending ≤ attempts canRetry

theorem Progress.Follows.abort {progress : Progress β} {aborted : Bool} {ended : List (Fetched β)}
    (follows : progress.Follows canRetry aborted ended) : progress.Follows canRetry true ended := by
  cases progress with
  | aborted => exact ⟨rfl, follows.2⟩
  | _ => exact follows

theorem pending_receive {aborted : Bool} {f : Fetched β} :
    (receive canRetry aborted n f).pending = 0 := by
  unfold receive caught
  repeat' split
  all_goals rfl

theorem accounted_concat {t : Transition (Call β) (Action β)} {new : List (Fetched β)}
    (fetched : t.action.fetched.toList = new)
    (follows : call.progress.Follows canRetry call.aborted (ended ts ++ new))
    (counted : ts.countP sends + (if sends t then 1 else 0) =
      (ended ts).length + new.length + call.progress.pending)
    (few : (ended ts).length + new.length + call.progress.pending ≤ attempts canRetry) :
    Accounted canRetry (ts ++ [t]) call := by
  have grown : ended (ts ++ [t]) = ended ts ++ new := by rw [ended_concat, fetched]
  constructor
  · exact grown ▸ follows
  · rw [countP_concat, grown, List.length_append, counted]
  · rw [grown, List.length_append]
    exact few

theorem Accounted.next (accounted : Accounted canRetry ts call) {a : Action β}
    (taken : step canRetry call a = some call') :
    Accounted canRetry (ts ++ [⟨call, a, call'⟩]) call' := by
  obtain ⟨follows, counted, few⟩ := accounted
  obtain ⟨aborted, progress⟩ := call
  cases a with
  | abort =>
    cases taken
    refine accounted_concat rfl ?_ counted few
    exact (List.append_nil _).symm ▸ follows.abort
  | fetch =>
    obtain ⟨progress', moves, rfl⟩ := Option.map_eq_some_iff.mp taken
    cases progress with
    | ready attempt =>
      cases moves
      obtain ⟨made, more, faults⟩ := follows
      rw [← List.append_nil (ended ts)] at made faults
      cases aborted with
      | true => exact accounted_concat rfl ⟨rfl, faults⟩ counted few
      | false =>
        refine accounted_concat rfl ⟨made, more, faults⟩ (congrArg (· + 1) counted) ?_
        rw [List.append_nil] at made
        exact made ▸ more
    | _ => cases moves
  | settle f =>
    obtain ⟨progress', moves, rfl⟩ := Option.map_eq_some_iff.mp taken
    cases progress with
    | sent attempt =>
      cases moves
      obtain ⟨rfl, more, faults⟩ := follows
      have fetched : (Action.settle f).fetched.toList = [f] := rfl
      refine accounted_concat fetched (follows_receive more faults) ?_ ?_
      · rw [pending_receive]
        exact counted
      · rw [pending_receive]
        exact more
    | _ => cases moves

theorem aborted_of_step {a : Action β} (aborted : call.aborted = true)
    (taken : step canRetry call a = some call') : call'.aborted = true := by
  cases a with
  | abort =>
    cases taken
    rfl
  | fetch | settle =>
    obtain ⟨progress, -, rfl⟩ := Option.map_eq_some_iff.mp taken
    exact aborted

/-- After `abort` no request leaves. -/
theorem no_sends_of_aborted (run : Run (step canRetry) call us call') (aborted : call.aborted = true) :
    ∀ t ∈ us, sends t = false := by
  intro t member
  obtain ⟨before, after, rfl⟩ := List.append_of_mem member
  have given : t.source.aborted = true := run.cut.1.invariant (P := fun c => c.aborted = true)
    (fun _ _ => (trivial : True)) aborted fun _ _ _ given _ taken => aborted_of_step given taken
  unfold sends
  split
  · rw [given]
    rfl
  · rfl

/-- A call is one attempt, or two where it only reads and the first one met a fault; what it
ends with is what its last attempt ended with, and nothing is sent after `abort`. -/
theorem attempts_accounted (run : Run (step canRetry) ⟨false, .ready 0⟩ ts call) :
    call.progress.Follows canRetry call.aborted (ended ts) ∧
      ts.countP sends = (ended ts).length + call.progress.pending ∧
      ts.countP sends ≤ (if canRetry then 2 else 1) ∧
      ∀ before t after, ts = before ++ t :: after → t.action.isAbort = true →
        ∀ u ∈ after, sends u = false := by
  have accounted : Accounted canRetry ts call := by
    refine run.history (P := Accounted canRetry) (fun _ _ => (trivial : True)) ?_ ?_
    · exact ⟨⟨rfl, attempts_pos, fun _ member => (by cases member)⟩, rfl, Nat.zero_le _⟩
    · exact fun ts c a c' _ _ accounted _ taken => accounted.next taken
  refine ⟨accounted.follows, accounted.counted, accounted.counted ▸ accounted.few, ?_⟩
  rintro before ⟨source, a, target⟩ after rfl abort
  obtain ⟨-, taken, rest⟩ := run.cut
  cases a with
  | abort =>
    obtain rfl : { source with aborted := true } = target := Option.some.inj taken
    exact no_sends_of_aborted rest rfl
  | fetch | settle => cases abort

/-- The first attempt times out. -/
def retried : List (Action Unit) := [.fetch, .settle (.lost true), .fetch, .settle (.ok ())]

theorem retried_enabled : (exec (step true) ⟨false, .ready 0⟩ retried).isSome = true := rfl

theorem attempts_accounted_retried :
    (transitions (step true) ⟨false, .ready 0⟩ retried).countP sends ≤ 2 ∧
      ∃ faults, ended (transitions (step true) ⟨false, .ready 0⟩ retried) = faults ++ [.ok ()] ∧
        ∀ f ∈ faults, f.Fault := by
  obtain ⟨follows, -, few, -⟩ := attempts_accounted (run_replay retried_enabled)
  exact ⟨few, follows⟩

end KiTicket.Api
