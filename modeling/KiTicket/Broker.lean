import KiTicket.Lib.Pool
import KiTicket.Lib.Runs
import KiTicket.Server

/-! The consumer of `broker.service.ts`. Every message is handled on its own, and waits at
most once, for its notification to be saved. The channel may be gone by then, and the
`catch` block needs it as well. -/
namespace KiTicket.Broker
open Runs

/-- What `JSON.parse` makes of a text; a number by what it is printed as. Of a name that
occurs twice in an object the last value counts. -/
inductive Json where
  | null
  | boolean (value : Bool)
  | number (printed : Text)
  | string (text : Text)
  | array (items : List Json)
  | object (members : List (Text × Json))

/-- `undefined` is `none`. -/
def truthy : Option Json → Bool
  | none | some .null => false
  | some (.boolean value) => value
  | some (.number printed) => printed ≠ ['0']
  | some (.string text) => text ≠ []
  | some (.array _) | some (.object _) => true

/-- A property; `null` and `undefined` have none. -/
def property (name : String) : Option Json → Except String (Option Json)
  | none | some .null => .error ("Cannot read properties (reading '" ++ name ++ "')")
  | some (.object members) => .ok ((members.reverse.find? (·.1 = name.toList)).map Prod.snd)
  | some _ => .ok none

mutual

/-- A value inside a template literal. What an object calls `toString` is no function. -/
def Json.toText : Json → Except String Text
  | .null => .ok "null".toList
  | .boolean value => .ok (if value then "true".toList else "false".toList)
  | .number printed => .ok printed
  | .string text => .ok text
  | .array items => (itemTexts items).map ([','].intercalate ·)
  | .object members =>
    if members.any (·.1 = "toString".toList) then .error "Cannot convert object to primitive value"
    else .ok "[object Object]".toList

/-- The items of an array, as it is joined. -/
def itemTexts : List Json → Except String (List Text)
  | [] => .ok []
  | .null :: rest => (itemTexts rest).map ([] :: ·)
  | item :: rest => do
    let text ← item.toText
    let texts ← itemTexts rest
    pure (text :: texts)

end

structure Notification where
  userId : Json
  channel : Text
  message : Text
  sent : Bool
  sentAt : Nat
  providerReference : Text

def messageFor : Option Json → Text
  | some (.string type) =>
    if type = "payment.succeeded".toList then "پرداخت شما با موفقیت انجام شد.".toList
    else if type = "ticket.issued".toList then "بلیت شما صادر شد.".toList
    else "وضعیت سفارش شما به‌روزرسانی شد.".toList
  | _ => "وضعیت سفارش شما به‌روزرسانی شد.".toList

/-- What the content of a message asks to be saved, if anything; the content is `none` if
it is no JSON. -/
def read (now : Nat) : Option Json → Except String (Option Notification)
  | none => .error "Unexpected token"
  | some event => do
    let payload ← property "payload" (some event)
    match ← property "userId" payload with
    | none => pure none
    | some userId =>
      if truthy (some userId) then
        let type ← property "type" (some event)
        let id ← property "id" (some event)
        let printed ← match id with
          | none => pure "undefined".toList
          | some id => id.toText
        pure (some {
          userId
          channel := "EMAIL".toList
          message := messageFor type
          sent := true
          sentAt := now
          providerReference := "sandbox-".toList ++ printed })
      else pure none

inductive Settlement where
  | ack
  | nack
deriving DecidableEq

inductive Progress where
  | saving (notification : Notification)
  | returned
  /-- An exception has left `consume`. -/
  | escaped

/-- One message and what has been done with it. -/
structure Delivery where
  progress : Progress
  saved : Bool
  calls : List Settlement

/-- The `catch` block. Without a channel `nack` is called on `undefined`. -/
def Delivery.fail (delivery : Delivery) (channel : Bool) : Delivery :=
  if channel then { delivery with progress := .returned, calls := delivery.calls ++ [.nack] }
  else { delivery with progress := .escaped }

/-- The end of the `try` block. Without a channel `ack` is called on `undefined`. -/
def Delivery.acknowledge (delivery : Delivery) (channel : Bool) : Delivery :=
  if channel then { delivery with progress := .returned, calls := delivery.calls ++ [.ack] }
  else delivery.fail channel

/-- `consume`, up to its `await`. The message is `none` when the consumer is cancelled. -/
def consume (channel : Bool) (now : Nat) : Option (Option Json) → Delivery
  | none => ⟨.returned, false, []⟩
  | some content =>
    let delivery : Delivery := ⟨.returned, false, []⟩
    if channel then
      match read now content with
      | .error _ => delivery.fail channel
      | .ok none => delivery.acknowledge channel
      | .ok (some notification) => { delivery with progress := .saving notification }
    else delivery

/-- And from there, when the save has gone through or failed. -/
def Delivery.resume (delivery : Delivery) (channel : Bool) (saved : Bool) : Delivery :=
  if saved then { delivery with saved := true }.acknowledge channel else delivery.fail channel

/-- The service. An exception that nobody catches ends the process. -/
structure Service where
  channel : Bool
  crashed : Bool
  notifications : List Notification
  deliveries : List Delivery

inductive Action where
  | deliver (now : Nat) (message : Option (Option Json))
  /-- The save of a message settles. -/
  | settle (message : Nat) (saved : Bool)
  /-- The handler of `close` runs. -/
  | close

def Delivery.hasEscaped (delivery : Delivery) : Bool :=
  match delivery.progress with
  | .escaped => true
  | _ => false

def step (s : Service) : Action → Option Service
  | .deliver now message =>
    if s.crashed then none
    else
      let delivery := consume s.channel now message
      some { s with crashed := delivery.hasEscaped, deliveries := s.deliveries ++ [delivery] }
  | .settle i saved =>
    if s.crashed then none
    else
      match s.deliveries[i]? with
      | some delivery =>
        match delivery.progress with
        | .saving notification =>
          let delivery' := delivery.resume s.channel saved
          some { s with
            crashed := delivery'.hasEscaped
            notifications := if saved then s.notifications ++ [notification] else s.notifications
            deliveries := s.deliveries.set i delivery' }
        | _ => none
      | none => none
  | .close => if s.crashed then none else some { s with channel := false }

/-- Connected, or not, and no message yet. -/
def Service.started (channel : Bool) : Service := ⟨channel, false, [], []⟩

/-- No exception leaves `consume`, what was saved is not refused, and the message is
settled at most once. -/
def Delivery.Sound (delivery : Delivery) : Prop :=
  delivery.hasEscaped = false ∧ (delivery.saved = true → .nack ∉ delivery.calls) ∧
    ¬(.ack ∈ delivery.calls ∧ .nack ∈ delivery.calls) ∧ delivery.calls.length ≤ 1

/-- A save that settles does so while the channel is there. -/
def inTime (t : Transition Service Action) : Bool :=
  match t.action with
  | .settle _ _ => t.source.channel
  | _ => true

/-- What one step can do to the messages. -/
inductive Stepped (s : Service) : Action → Service → Prop where
  | deliver (now : Nat) (message : Option (Option Json)) : Stepped s (.deliver now message)
      { s with
        crashed := (consume s.channel now message).hasEscaped
        deliveries := s.deliveries ++ [consume s.channel now message] }
  | settle (i : Nat) (saved : Bool) (delivery : Delivery) (notification : Notification)
      (at_i : s.deliveries[i]? = some delivery) (waits : delivery.progress = .saving notification) :
      Stepped s (.settle i saved)
        { s with
          crashed := (delivery.resume s.channel saved).hasEscaped
          notifications := if saved then s.notifications ++ [notification] else s.notifications
          deliveries := s.deliveries.set i (delivery.resume s.channel saved) }
  | close : Stepped s .close { s with channel := false }

/-- A message whose save has settled is through. -/
def Ends (t : Transition Service Action) : Prop :=
  match t.action with
  | .settle i _ => ∀ delivery, t.target.deliveries[i]? = some delivery →
      ∀ notification, delivery.progress ≠ .saving notification
  | _ => True

variable {s s' : Service} {a : Action} {delivery : Delivery} {channel saved : Bool} {now : Nat}
  {message : Option (Option Json)} {ts : List (Transition Service Action)}
  {notification : Notification}

/-! ## One message -/

/-- What holds of a message whatever happens; while it is saved nothing is called. -/
structure Delivery.Regular (delivery : Delivery) : Prop where
  waiting : ∀ notification, delivery.progress = .saving notification →
    delivery.saved = false ∧ delivery.calls = []
  saved : delivery.saved = true → .nack ∉ delivery.calls
  once : delivery.calls.length ≤ 1

theorem Delivery.Regular.not_both (regular : delivery.Regular) :
    ¬(.ack ∈ delivery.calls ∧ .nack ∈ delivery.calls) := by
  rintro ⟨acked, nacked⟩
  obtain ⟨call, rest, shape⟩ := List.exists_cons_of_ne_nil (List.ne_nil_of_mem acked)
  have once := regular.once
  rw [shape] at acked nacked once
  obtain rfl : rest = [] := List.eq_nil_of_length_eq_zero (by simpa using once)
  exact absurd ((List.mem_singleton.mp acked).trans (List.mem_singleton.mp nacked).symm) (by decide)

theorem Delivery.sound_iff (regular : delivery.Regular) :
    delivery.Sound ↔ delivery.hasEscaped = false :=
  ⟨And.left, fun kept => ⟨kept, regular.saved, regular.not_both, regular.once⟩⟩

/-- Without a channel nothing is called, and the exception escapes. -/
theorem Delivery.fail_spec (unsaved : delivery.saved = false ∨ channel = false)
    (idle : delivery.calls = []) :
    (delivery.fail channel).Regular ∧ (delivery.fail channel).hasEscaped = !channel := by
  unfold Delivery.fail
  cases channel with
  | true =>
    have unsaved : delivery.saved = false := unsaved.resolve_right (by decide)
    exact ⟨⟨by simp, by simp [unsaved], by simp [idle]⟩, rfl⟩
  | false => exact ⟨⟨by simp, by simp [idle], by simp [idle]⟩, rfl⟩

theorem Delivery.acknowledge_spec (idle : delivery.calls = []) :
    (delivery.acknowledge channel).Regular ∧
      (delivery.acknowledge channel).hasEscaped = !channel := by
  unfold Delivery.acknowledge
  cases channel with
  | true => exact ⟨⟨by simp, by simp [idle], by simp [idle]⟩, rfl⟩
  | false =>
    -- `ack` throws, and so does the `nack` of the `catch` block
    exact fail_spec (.inr rfl) idle

/-- Before the `await` nothing can go wrong: the channel that was checked is still there. -/
theorem consume_spec : (consume channel now message).Regular ∧
    (consume channel now message).hasEscaped = false := by
  have idle : Delivery.Regular ⟨.returned, false, []⟩ := ⟨by simp, by simp, by simp⟩
  cases message with
  | none => exact ⟨idle, rfl⟩
  | some content =>
    cases channel with
    | false => exact ⟨idle, rfl⟩
    | true =>
      simp only [consume, if_true]
      split
      · exact Delivery.fail_spec (.inl rfl) rfl
      · exact Delivery.acknowledge_spec rfl
      · exact ⟨⟨by simp, by simp, by simp⟩, rfl⟩

/-- A message that was waiting is through with it, and an exception escapes exactly when
the channel is gone. -/
theorem resume_spec (waiting : delivery.saved = false ∧ delivery.calls = []) :
    (delivery.resume channel saved).Regular ∧
      (delivery.resume channel saved).hasEscaped = !channel := by
  cases saved with
  | true => exact Delivery.acknowledge_spec waiting.2
  | false => exact Delivery.fail_spec (.inl waiting.1) waiting.2

/-! ## Runs -/

theorem step_cases (taken : step s a = some s') : s.crashed = false ∧ Stepped s a s' := by
  cases a <;> simp only [step] at taken
  case deliver now message =>
    split at taken <;> cases taken
    rename_i up
    exact ⟨by simpa using up, .deliver now message⟩
  case settle i saved =>
    split at taken
    · cases taken
    rename_i up
    split at taken
    · rename_i delivery at_i
      split at taken <;> cases taken
      rename_i notification waits
      exact ⟨by simpa using up, .settle i saved delivery notification at_i waits⟩
    · cases taken
  case close =>
    split at taken <;> cases taken
    rename_i up
    exact ⟨by simpa using up, .close⟩

/-- The messages are settled in order, and an exception of one has ended the process. -/
structure Service.Steady (s : Service) : Prop where
  regular : ∀ delivery ∈ s.deliveries, delivery.Regular
  running : s.crashed = false ↔ ∀ delivery ∈ s.deliveries, delivery.hasEscaped = false

theorem steady_next (steady : s.Steady) (taken : step s a = some s') :
    s'.Steady ∧ (s'.crashed = false ↔ inTime ⟨s, a, s'⟩ = true) := by
  obtain ⟨up, stepped⟩ := step_cases taken
  have fine := steady.running.mp up
  cases stepped with
  | deliver now message =>
    obtain ⟨regular, kept⟩ : (consume s.channel now message).Regular ∧ _ := consume_spec
    refine ⟨⟨?_, ?_⟩, iff_of_true kept rfl⟩
    · intro delivery member
      rcases List.mem_append.mp member with old | new
      · exact steady.regular delivery old
      · exact List.mem_singleton.mp new ▸ regular
    · refine iff_of_true kept fun delivery member => ?_
      rcases List.mem_append.mp member with old | new
      · exact fine delivery old
      · exact List.mem_singleton.mp new ▸ kept
  | settle i saved delivery notification at_i waits =>
    have member := List.mem_of_getElem? at_i
    obtain ⟨regular, escapes⟩ : (delivery.resume s.channel saved).Regular ∧ _ :=
      resume_spec ((steady.regular delivery member).waiting notification waits)
    refine ⟨⟨?_, ?_⟩, ?_⟩
    · exact Pool.forall_set steady.regular regular fun _ _ _ _ => id
    · constructor
      · intro kept
        exact Pool.forall_set fine kept fun _ _ _ _ => id
      · intro all
        have size := (List.getElem?_eq_some_iff.mp at_i).1
        exact all _ (List.mem_set size _)
    · dsimp only [inTime]
      rw [escapes, Bool.not_eq_false']
  | close => exact ⟨⟨steady.regular, steady.running⟩, iff_of_true up rfl⟩

theorem steady_of_run (run : Run step (.started channel) ts s) :
    s.Steady ∧ (s.crashed = false ↔ ∀ t ∈ ts, inTime t = true) := by
  refine run.history (P := fun ts s => s.Steady ∧ (s.crashed = false ↔ ∀ t ∈ ts, inTime t = true))
    (fun _ _ => (trivial : True)) ?_ ?_
  · exact ⟨⟨fun _ none => absurd none List.not_mem_nil,
      iff_of_true rfl fun _ none => absurd none List.not_mem_nil⟩,
      iff_of_true rfl fun _ none => absurd none List.not_mem_nil⟩
  · rintro ts s a s' - - ⟨steady, all⟩ - taken
    obtain ⟨next, last⟩ := steady_next steady taken
    have earlier := all.mp (step_cases taken).1
    refine ⟨next, last.trans ?_⟩
    simp only [List.mem_append, List.mem_singleton]
    constructor
    · rintro now t (old | rfl)
      · exact earlier t old
      · exact now
    · exact fun each => each _ (.inr rfl)

theorem resume_ends : (delivery.resume channel saved).progress ≠ .saving notification := by
  cases channel <;> cases saved <;> simp [Delivery.resume, Delivery.acknowledge, Delivery.fail]

theorem ends_of_step (taken : step s a = some s') : Ends ⟨s, a, s'⟩ := by
  obtain ⟨-, stepped⟩ := step_cases taken
  cases stepped with
  | deliver => trivial
  | close => trivial
  | settle i saved delivery notification at_i waits =>
    intro delivery' later
    have size := (List.getElem?_eq_some_iff.mp at_i).1
    rw [List.getElem?_set_self size, Option.some.injEq] at later
    exact fun _ => later ▸ resume_ends

/-- In a run a message is through once its save has settled, and every message is handled
without an exception that escapes, is settled at most once and not refused after it was
saved, exactly when every save settles before the handler of `close` runs. -/
theorem consumer_sound_iff (run : Run step (.started channel) ts s) :
    (∀ t ∈ ts, Ends t) ∧
      ((∀ delivery ∈ s.deliveries, delivery.Sound) ↔ ∀ t ∈ ts, inTime t = true) := by
  constructor
  · intro t member
    obtain ⟨_, _, _, _, taken, _⟩ := run.split member
    exact ends_of_step taken
  · obtain ⟨steady, all⟩ := steady_of_run run
    rw [← all, steady.running]
    constructor
    · exact fun sound delivery member => (sound delivery member).1
    · exact fun kept delivery member =>
        (Delivery.sound_iff (steady.regular delivery member)).mpr (kept delivery member)

/-! ## What the server publishes -/

/-- The body of an event; the user id is spread over what the payload has. -/
def body (id type occurredAt : Text) (payload : List (Text × Json)) (userId : Text) : Json :=
  .object [("id".toList, .string id), ("type".toList, .string type),
    ("occurredAt".toList, .string occurredAt),
    ("payload".toList, .object (payload ++ [("userId".toList, .string userId)]))]

/-- Every event the server publishes asks for a notification of its user. -/
theorem read_body {id type occurredAt userId : Text} {payload : List (Text × Json)}
    (named : userId ≠ []) : read now (some (body id type occurredAt payload userId)) =
      .ok (some ⟨.string userId, "EMAIL".toList, messageFor (some (.string type)), true, now,
        "sandbox-".toList ++ id⟩) := by
  have member : property "userId" (some (.object (payload ++ [("userId".toList, .string userId)]))) =
      .ok (some (.string userId)) := by
    simp [property]
  have payload' : property "payload" (some (body id type occurredAt payload userId)) =
      .ok (some (.object (payload ++ [("userId".toList, .string userId)]))) := rfl
  have type' : property "type" (some (body id type occurredAt payload userId)) =
      .ok (some (.string type)) := rfl
  have id' : property "id" (some (body id type occurredAt payload userId)) = .ok (some (.string id)) :=
    rfl
  have printed : (Json.string id).toText = .ok id := by rw [Json.toText]
  have some : truthy (some (.string userId)) = true := decide_eq_true named
  simp only [read, payload', member, type', id', some, printed, if_true, bind, Except.bind, pure,
    Except.pure]

/-- A ticket was issued. -/
def issued : Action :=
  .deliver 0 (some (some (body ['1'] "ticket.issued".toList [] [] ['u'])))

private theorem inTime_enabled : (exec step (.started true) [issued, .settle 0 true, .close]).isSome =
    true := by
  decide +kernel

/-- The notification is saved and the message acknowledged. -/
theorem consumer_sound_iff_in_time : Delivery.Sound ⟨.returned, true, [.ack]⟩ :=
  (consumer_sound_iff (run_replay inTime_enabled)).2.mpr (by decide +kernel) _ List.mem_cons_self

private theorem late_enabled : (exec step (.started true) [issued, .close, .settle 0 true]).isSome =
    true := by
  decide +kernel

/-- The connection is lost while a notification is saved. -/
theorem consumer_crashes :
    ¬ ∀ (channel : Bool) (ts : List (Transition Service Action)) (s : Service),
      Run step (.started channel) ts s → ∀ delivery ∈ s.deliveries, delivery.Sound := by
  intro sound
  have kept := sound _ _ _ (run_replay late_enabled) _ List.mem_cons_self
  exact absurd kept.1 (by decide +kernel)

end KiTicket.Broker
