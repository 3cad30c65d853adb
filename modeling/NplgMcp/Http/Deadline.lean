import Mathlib.Data.List.Infix
import NplgMcp.Http.Responses

/-!
# Responses under the application deadline

`tracked_send` and the `TimeoutError` handler of `_admitted_call`. Every message of the application
is first recorded in the flags and then handed to the outer `send`, which may keep it waiting: the
deadline lands before a message, while it waits, or after it has been delivered, and a message that
waits is lost. `deadline_wellFormed_iff` says when what the client has been sent is a response.
-/

namespace NplgMcp

/-- The messages of a well-behaved application: one start, then bodies of which the last is final. -/
structure AppResponse where
  status : ℕ
  headers : List (Bytes × Bytes)
  chunks : List Bytes
  last : Bytes

/-- The bodies of a response. -/
def bodyMessages (chunks : List Bytes) (last : Bytes) : List Message :=
  chunks.map (.body · true) ++ [.body last false]

/-- The messages of a response, in order. -/
def AppResponse.messages (response : AppResponse) : List Message :=
  .start response.status response.headers :: bodyMessages response.chunks response.last

/-- A complete response: one start before any body, one final body, and nothing after it. -/
def WellFormed (messages : List Message) : Prop :=
  ∃ response : AppResponse, messages = response.messages

/-- What an admitted call has sent. -/
structure Exchange where
  flags : ResponseFlags := {}
  /-- The message that waits in the outer `send`. -/
  pending : Option Message := none
  delivered : List Message := []

namespace Exchange

/-- What happens to a message. -/
inductive Step where
  /-- The application calls `policy_send`, and so `tracked_send`. -/
  | send (message : Message)
  /-- The outer `send` delivers the message that waits. -/
  | deliver

/-- One step of a call. -/
def step (exchange : Exchange) : Step → Exchange
  | .send message =>
    { exchange with
      flags := exchange.flags.track (sendWithPolicy message)
      pending := some (sendWithPolicy message) }
  | .deliver =>
    { exchange with
      pending := none
      delivered := exchange.delivered ++ exchange.pending.toList }

/-- The deadline: the message that waits is cancelled, and the handler sends its own. -/
def timeout (starlette : Starlette) (exchange : Exchange) : Exchange :=
  { exchange with
    pending := none
    delivered := exchange.delivered ++ timeoutMessages starlette exchange.flags }

/-- The steps of an application that sends the messages one after the other. -/
def sending (messages : List Message) : List Step :=
  messages.flatMap fun message => [.send message, .deliver]

/-- The flags after the messages. -/
def flagsOf (messages : List Message) : ResponseFlags :=
  messages.foldl (fun flags message => flags.track (sendWithPolicy message)) {}

/-- A call after some of its messages. -/
def after (messages : List Message) : Exchange where
  flags := flagsOf messages
  delivered := messages.map sendWithPolicy

/-- A call while one more message waits. -/
def waiting (messages : List Message) (message : Message) : Exchange where
  flags := flagsOf (messages ++ [message])
  pending := some (sendWithPolicy message)
  delivered := messages.map sendWithPolicy

/-! ## Where a deadline can land -/

/-- **The points of a call.** A deadline lands between two messages or while one waits. -/
theorem foldl_sending {messages : List Message} :
    ∀ {sent : List Message} {front : List Step}, front <+: sending messages →
      ∃ done todo, messages = done ++ todo ∧
        (front.foldl step (after sent) = after (sent ++ done) ∨
          ∃ message rest, todo = message :: rest ∧
            front.foldl step (after sent) = waiting (sent ++ done) message) := by
  induction messages with
  | nil =>
      intro sent front hfront
      obtain rfl := List.prefix_nil.1 hfront
      exact ⟨[], [], rfl, .inl (by rw [List.append_nil]; rfl)⟩
  | cons message messages ih =>
      intro sent front hfront
      have hsend : step (after sent) (.send message) = waiting sent message := by
        simp only [step, after, waiting, flagsOf, List.foldl_append, List.foldl_cons,
          List.foldl_nil]
      have hdeliver : step (waiting sent message) .deliver = after (sent ++ [message]) := by
        simp only [step, after, waiting, Option.toList_some, List.map_append, List.map_cons,
          List.map_nil]
      match front, hfront with
      | [], _ => exact ⟨[], message :: messages, rfl, .inl (by rw [List.append_nil]; rfl)⟩
      | [first], hfront =>
          obtain rfl : first = .send message := (List.cons_prefix_cons.1 hfront).1
          refine ⟨[], message :: messages, rfl, .inr ⟨message, messages, rfl, ?_⟩⟩
          rw [List.append_nil]
          exact hsend
      | first :: second :: front, hfront =>
          obtain ⟨rfl, hsecond⟩ := List.cons_prefix_cons.1 hfront
          obtain ⟨rfl, hrest⟩ := List.cons_prefix_cons.1 hsecond
          obtain ⟨done, todo, rfl, hstate⟩ := @ih (sent ++ [message]) front hrest
          refine ⟨message :: done, todo, rfl, ?_⟩
          rw [List.foldl_cons, List.foldl_cons, hsend, hdeliver]
          rwa [List.append_assoc] at hstate

end Exchange

/-! ## The two ends of a response -/

/-- A start, or a final body. -/
def Message.isBoundary : Message → Bool
  | .start _ _ => true
  | .body _ moreBody => !moreBody
  | .other => false

section
variable {chunks : List Bytes} {last : Bytes} {done todo : List Message}

/-- What is sent of the bodies is some of the chunks, or all there is. -/
theorem bodyMessages_eq_append :
    ∀ {chunks : List Bytes} {done : List Message}, bodyMessages chunks last = done ++ todo →
      (∃ front back : List Bytes, done = front.map (.body · true) ∧ todo = bodyMessages back last) ∨
        done = bodyMessages chunks last ∧ todo = []
  | chunks, [], h => .inl ⟨[], chunks, rfl, h.symm⟩
  | [], first :: done, h => by
      obtain ⟨rfl, hrest⟩ := List.cons.inj h
      obtain ⟨rfl, rfl⟩ := List.append_eq_nil_iff.1 hrest.symm
      exact .inr ⟨rfl, rfl⟩
  | chunk :: chunks, first :: done, h => by
      obtain ⟨rfl, hrest⟩ := List.cons.inj h
      obtain ⟨front, back, rfl, htodo⟩ | ⟨rfl, htodo⟩ := bodyMessages_eq_append hrest
      · exact .inl ⟨chunk :: front, back, rfl, htodo⟩
      · exact .inr ⟨rfl, htodo⟩

/-- Chunks that are not final leave the flags as they are. -/
theorem flags_chunks {flags : ResponseFlags} {chunks : List Bytes} :
    (chunks.map (Message.body · true)).foldl
      (fun flags message => flags.track (sendWithPolicy message)) flags = flags := by
  induction chunks with
  | nil => rfl
  | cons chunk chunks ih => exact ih

/-- Nothing changes a body. -/
theorem map_sendWithPolicy_chunks {chunks : List Bytes} :
    (chunks.map (Message.body · true)).map sendWithPolicy = chunks.map (.body · true) := by
  rw [List.map_map]
  rfl

/-- The policy changes the headers of a response and nothing else. -/
theorem map_sendWithPolicy_messages {response : AppResponse} :
    WellFormed (response.messages.map sendWithPolicy) := by
  refine ⟨{ response with headers := policyHeaders response.headers }, ?_⟩
  unfold AppResponse.messages bodyMessages
  rw [List.map_cons, List.map_append, map_sendWithPolicy_chunks]
  rfl

end

/-- A response has a final body. -/
theorem WellFormed.final {messages : List Message} (h : WellFormed messages) :
    ∃ last, .body last false ∈ messages := by
  obtain ⟨response, rfl⟩ := h
  exact ⟨response.last, List.mem_cons_of_mem _ (List.mem_append_right _ List.mem_cons_self)⟩

namespace Exchange

variable {starlette : Starlette} {response : AppResponse} {sent : List Bytes} {chunk : Bytes}

/-- The flags of a response of which no final body has been sent. -/
theorem flagsOf_chunks : flagsOf (.start response.status response.headers ::
    sent.map (.body · true)) = { responseStarted := true, responseComplete := false } := by
  unfold flagsOf
  rw [List.foldl_cons, flags_chunks]
  rfl

/-- The flags of a response whose final body has been sent, delivered or not. -/
theorem flagsOf_final : flagsOf ((.start response.status response.headers ::
    sent.map (.body · true)) ++ [.body response.last false]) =
      { responseStarted := true, responseComplete := true } := by
  unfold flagsOf
  rw [List.foldl_append, ← flagsOf, flagsOf_chunks]
  rfl

/-- Where a response has been started and no final body sent, the handler's own ends it. -/
theorem wellFormed_closed : WellFormed
    ((.start response.status response.headers :: sent.map (Message.body · true)).map
        sendWithPolicy ++
      timeoutMessages starlette { responseStarted := true, responseComplete := false }) := by
  refine ⟨⟨response.status, policyHeaders response.headers, sent, []⟩, ?_⟩
  rw [List.map_cons, map_sendWithPolicy_chunks]
  rfl

/-- Between two messages of a response the handler ends it, answers for it, or has nothing to do. -/
theorem wellFormed_after {done todo : List Message} (h : response.messages = done ++ todo) :
    WellFormed ((after done).timeout starlette).delivered := by
  cases done with
  | nil => exact @map_sendWithPolicy_messages ⟨504, _, [], _⟩
  | cons first done =>
      obtain ⟨rfl, hbodies⟩ := List.cons.inj h
      obtain ⟨front, back, rfl, -⟩ | ⟨rfl, rfl⟩ := bodyMessages_eq_append hbodies
      · change WellFormed (List.map _ _ ++ timeoutMessages starlette (flagsOf _))
        rw [flagsOf_chunks]
        exact wellFormed_closed
      · change WellFormed (List.map _ _ ++ timeoutMessages starlette (flagsOf _))
        rw [bodyMessages, ← List.cons_append, flagsOf_final]
        have hnothing : timeoutMessages starlette
            { responseStarted := true, responseComplete := true } = [] := rfl
        rw [hnothing, List.append_nil]
        exact map_sendWithPolicy_messages

/-- A start or a final body that waits is lost, and the handler takes it for sent. -/
theorem wellFormed_waiting {done rest : List Message} {message : Message}
    (h : response.messages = done ++ message :: rest) :
    WellFormed ((waiting done message).timeout starlette).delivered ↔
      message.isBoundary = false := by
  cases done with
  | nil =>
      obtain ⟨rfl, -⟩ := List.cons.inj h
      refine iff_of_false ?_ (by simp [Message.isBoundary])
      rintro ⟨response', hmessages⟩
      exact absurd (List.cons.inj hmessages).1 (by simp)
  | cons first done =>
      obtain ⟨rfl, hbodies⟩ := List.cons.inj h
      obtain ⟨front, back, rfl, hback⟩ | ⟨-, hnil⟩ := bodyMessages_eq_append hbodies
      · change WellFormed (List.map _ _ ++ timeoutMessages starlette (flagsOf _)) ↔ _
        cases back with
        | nil =>
            obtain ⟨rfl, -⟩ := List.cons.inj hback
            rw [flagsOf_final]
            refine iff_of_false ?_ (by simp [Message.isBoundary])
            intro hwell
            obtain ⟨last, hlast⟩ := hwell.final
            rw [List.map_cons, map_sendWithPolicy_chunks] at hlast
            simp [timeoutMessages, sendWithPolicy] at hlast
        | cons chunk back =>
            obtain ⟨rfl, -⟩ := List.cons.inj hback
            refine iff_of_true ?_ rfl
            have hflags : flagsOf ((.start response.status response.headers ::
                front.map (.body · true)) ++ [.body chunk true]) =
                  { responseStarted := true, responseComplete := false } := by
              rw [flagsOf, List.foldl_append, ← flagsOf, flagsOf_chunks]
              rfl
            rw [hflags]
            exact wellFormed_closed
      · cases hnil

end Exchange

/-- **Responses under the deadline.** At whatever point the deadline cancels the application, the
client has been sent a complete response exactly when no start and no final body waits there. -/
theorem deadline_wellFormed_iff {starlette : Starlette} {response : AppResponse}
    {front : List Exchange.Step} (hfront : front <+: Exchange.sending response.messages) :
    WellFormed ((front.foldl Exchange.step {}).timeout starlette).delivered ↔
      ∀ message ∈ (front.foldl Exchange.step {}).pending, message.isBoundary = false := by
  obtain ⟨done, todo, hmessages, hstate | ⟨message, rest, rfl, hstate⟩⟩ :=
    @Exchange.foldl_sending _ [] front hfront
  · change front.foldl Exchange.step {} = Exchange.after done at hstate
    rw [hstate]
    exact iff_of_true (Exchange.wellFormed_after hmessages) (by simp [Exchange.after])
  · change front.foldl Exchange.step {} = Exchange.waiting done message at hstate
    rw [hstate, Exchange.wellFormed_waiting hmessages]
    cases message <;> simp [Exchange.waiting, sendWithPolicy, Message.isBoundary]

/-- A short response. -/
def shortResponse : AppResponse where
  status := 200
  headers := [(ascii "content-type", ascii "application/json")]
  chunks := []
  last := ascii "[]"

/-- Between the start and the body of a response nothing waits. -/
theorem deadline_wellFormed_short : WellFormed
    (([Exchange.Step.send (.start 200 shortResponse.headers), .deliver].foldl
      Exchange.step {}).timeout plainStarlette).delivered :=
  (@deadline_wellFormed_iff _ shortResponse _ ⟨_, rfl⟩).2
    fun _ hpending => nomatch hpending

/-- While the start of a response waits, the client is sent a body that nothing opens. -/
theorem closing_body_unopened : ¬ ∀ (response : AppResponse) (front : List Exchange.Step),
    front <+: Exchange.sending response.messages →
      WellFormed ((front.foldl Exchange.step {}).timeout plainStarlette).delivered := by
  intro h
  obtain ⟨response, hmessages⟩ := h shortResponse
    [.send (.start 200 shortResponse.headers)] ⟨_, rfl⟩
  exact absurd (List.cons.inj hmessages).1 (by simp)

end NplgMcp
