/-
**The topology watch: streams, the first-snapshot timer and reconnects.**

`Watch.step` is one step of `agentWatch.run` and `agentWatch.stream` or of what runs beside them: the
agent, the timer and its function, the parent context. `Recv` on a cancelled stream returns a buffered
message or `Canceled`, and `Timer.Stop` does not undo a timer that has fired.

* `Watch.ordered_step` — snapshots are handed over in the order their messages were received, none
  lost or repeated.
* `timeout_stops_watch` — the timer fires after `Recv` has returned the first message and before
  `Stop`: the next `Recv` returns `Canceled`, which the watch takes for a permanent failure.
* `cancelled_transient_iff` — a stream the timer cancelled is classified transient exactly when it
  has received nothing.
* **`timeout_survived`** — in every run in which no stream both takes a message and has its timer
  fire, the watch never stops, and every stream that ends is followed by a reconnect.
-/

import DraDriver.Base.Transition
import DraDriver.FabricManager.Topology

namespace DraDriver.FabricManager

open DraDriver.Base

/-! ### Errors -/

/-- `codes.Code`, with the codes the client looks at. -/
inductive Code
  | canceled
  | unknown
  | deadlineExceeded
  | resourceExhausted
  | unimplemented
  | unavailable
  | other (number : ℕ)
  deriving DecidableEq, Repr

/-- What can end a stream. -/
inductive StreamError
  /-- `io.EOF` -/
  | eof
  /-- A gRPC status. -/
  | status (code : Code)
  /-- `ErrAgentUnavailable` around `errNoFirstSnapshot`. -/
  | agentUnavailable
  /-- `ErrWatchUnsupported` around a gRPC status. -/
  | watchUnsupported (code : Code)
  /-- The parent context's own error. -/
  | contextDone
  deriving DecidableEq, Repr

/-- `status.Code`: of a status or of what wraps one, else `Unknown`. -/
def StreamError.code : StreamError → Code
  | .status code => code
  | .watchUnsupported code => code
  | _ => .unknown

/-- `errors.Is(err, ErrAgentUnavailable)`. -/
def StreamError.isAgentUnavailable : StreamError → Bool
  | .agentUnavailable => true
  | _ => false

/-- `errors.Is(err, io.EOF)`. -/
def StreamError.isEOF : StreamError → Bool
  | .eof => true
  | _ => false

/-- Why a stream's context was cancelled: the first cancellation counts. -/
inductive Cause
  | noFirstSnapshot
  | parent
  deriving DecidableEq, Repr

/-- What `stream` returns for a failure: a stream its own timer cancelled before the first message has an
agent that is unavailable. -/
def watchError (cause : Option Cause) (err : StreamError) (received : Bool) : StreamError :=
  if !received && cause = some .noFirstSnapshot then .agentUnavailable
  else if err.code = .unimplemented then .watchUnsupported err.code
  else err

/-- Whether a failure is worth a reconnect. -/
def transient (parentDone : Bool) (err : StreamError) : Bool :=
  if parentDone then false
  else if err.isAgentUnavailable || err.isEOF then true
  else match err.code with
    | .unavailable => true
    | .resourceExhausted => true
    | .deadlineExceeded => true
    | _ => false

/-! ### The reconnect delay -/

/-- `time.Duration`, in nanoseconds: arithmetic wraps around. -/
abbrev Duration := Int64

/-- `AgentClient`, with its durations; a timeout that is not positive sets no timer. -/
structure AgentClient where
  firstSnapshotTimeout : Duration
  reconnectInitial : Duration
  reconnectMax : Duration
  deriving DecidableEq, Repr

/-- `reconnectBackoff.next`, from the current delay: what it returns is the new current delay. -/
def AgentClient.nextDelay (c : AgentClient) (current : Duration) : Duration :=
  let doubled := if current = 0 then c.reconnectInitial
    else if current < c.reconnectMax then current * 2 else current
  if 0 < c.reconnectMax ∧ c.reconnectMax < doubled then c.reconnectMax else doubled

/-! ### The state -/

/-- `firstSnapshot`: fired, its function runs on its own. -/
inductive Timer
  | unset
  | armed
  | fired
  | done
  | stopped
  deriving DecidableEq, Repr

/-- Where `run` and `stream` are. -/
inductive Phase
  /-- In `c.client.WatchTopology`. -/
  | opening
  /-- In `stream.Recv`. -/
  | receiving
  /-- `Recv` has returned a message; the timer is not yet stopped. -/
  | received (resp : WatchTopologyResponse)
  /-- In the `select` that hands the snapshot over. -/
  | forwarding (snapshot : Snapshot)
  /-- `stream` has returned. -/
  | ended (err : StreamError)
  /-- In the `select` on the reconnect delay. -/
  | waiting (delay : Duration)
  /-- `run` has returned, with `Err`. -/
  | stopped (err : Option StreamError)
  deriving DecidableEq, Repr

/-- One stream. `buffer` and `failure` are what the agent has sent that `Recv` has not returned. -/
structure Stream where
  timer : Timer
  cause : Option Cause
  received : Bool
  buffer : List WatchTopologyResponse
  failure : Option StreamError
  deriving DecidableEq, Repr

/-- The watch; `delivered` and `forwarded` record all messages `Recv` has returned and all snapshots
that have been handed over. -/
structure Watch where
  phase : Phase
  stream : Stream
  backoff : Duration
  parentDone : Bool
  delivered : List WatchTopologyResponse
  forwarded : List Snapshot
  deriving DecidableEq, Repr

/-- A stream that was just opened. -/
def Stream.fresh (c : AgentClient) (parentDone : Bool) : Stream where
  timer := if 0 < c.firstSnapshotTimeout then .armed else .unset
  cause := if parentDone then some .parent else none
  received := false
  buffer := []
  failure := none

/-- The watch as `WatchTopology` starts it. -/
def Watch.start (c : AgentClient) : Watch where
  phase := .opening
  stream := .fresh c false
  backoff := 0
  parentDone := false
  delivered := []
  forwarded := []

/-! ### Steps -/

/-- A step of the watch, or of what runs beside it. -/
inductive WatchEvent
  /-- A message of the agent arrives. -/
  | arrive (resp : WatchTopologyResponse)
  /-- The agent ends the stream. -/
  | hangUp (err : StreamError)
  /-- The timer fires. -/
  | fire
  /-- Its function cancels the stream's context. -/
  | cancel
  /-- The parent context is cancelled. -/
  | shutdown
  | opened
  | openFailed (err : StreamError)
  | openCancelled
  | recvMessage
  | recvFailed
  | recvCancelled
  /-- `Stop`, `received = true` and `backoff.reset()`. -/
  | stop
  /-- The consumer takes the snapshot. -/
  | forward
  /-- The `select` sees the parent done. -/
  | giveUp
  /-- The `switch` of `run`. -/
  | classify
  | reconnect
  deriving DecidableEq, Repr

namespace Watch

/-- `stream` returns what `watchError` makes of the failure. -/
def fail (w : Watch) (err : StreamError) (received : Bool) : Watch :=
  { w with phase := .ended (watchError w.stream.cause err received) }

/-- The agent can still send on the stream. -/
def agentMaySend (w : Watch) : Bool :=
  w.stream.failure.isNone && match w.phase with
    | .receiving => true
    | .received _ => true
    | .forwarding _ => true
    | _ => false

/-- The stream has not returned yet. -/
def live (w : Watch) : Bool :=
  match w.phase with
  | .ended _ => false
  | .waiting _ => false
  | .stopped _ => false
  | _ => true

/-- One step of the watch, or of what runs beside it; `none` where it cannot be taken. -/
def step (c : AgentClient) (w : Watch) : WatchEvent → Option Watch
  | .arrive resp =>
    if w.agentMaySend then some { w with stream := { w.stream with buffer := w.stream.buffer ++ [resp] } }
    else none
  | .hangUp err =>
    if w.agentMaySend then some { w with stream := { w.stream with failure := some err } } else none
  | .fire =>
    if w.live && w.stream.timer = .armed then
      some { w with stream := { w.stream with timer := .fired } }
    else none
  | .cancel =>
    if w.live && w.stream.timer = .fired then
      some { w with stream := { w.stream with
        timer := .done, cause := w.stream.cause.or (some .noFirstSnapshot) } }
    else none
  | .shutdown =>
    some { w with
      parentDone := true
      stream := { w.stream with cause := w.stream.cause.or (some .parent) } }
  | .opened => if w.phase = .opening then some { w with phase := .receiving } else none
  | .openFailed err => if w.phase = .opening then some (w.fail err false) else none
  | .openCancelled =>
    if w.phase = .opening && w.stream.cause.isSome then some (w.fail (.status .canceled) false)
    else none
  | .recvMessage =>
    match w.phase, w.stream.buffer with
    | .receiving, resp :: rest => some { w with
        phase := .received resp
        stream := { w.stream with buffer := rest }
        delivered := w.delivered ++ [resp] }
    | _, _ => none
  | .recvFailed =>
    match w.phase, w.stream.buffer, w.stream.failure with
    | .receiving, [], some err => some (w.fail err w.stream.received)
    | _, _, _ => none
  | .recvCancelled =>
    if w.phase = .receiving && w.stream.cause.isSome then
      some (w.fail (.status .canceled) w.stream.received)
    else none
  | .stop =>
    match w.phase with
    | .received resp => some { w with
        phase := .forwarding (snapshotOf resp)
        stream := { w.stream with
          timer := if w.stream.timer = .armed then .stopped else w.stream.timer
          received := true }
        backoff := 0 }
    | _ => none
  | .forward =>
    match w.phase with
    | .forwarding snapshot =>
      some { w with phase := .receiving, forwarded := w.forwarded ++ [snapshot] }
    | _ => none
  | .giveUp =>
    match w.phase, w.parentDone with
    | .forwarding _, true => some { w with phase := .ended .contextDone }
    | .waiting _, true => some { w with phase := .stopped none }
    | _, _ => none
  | .classify =>
    match w.phase with
    | .ended err =>
      if w.parentDone then some { w with phase := .stopped none }
      else if transient w.parentDone err then
        some { w with phase := .waiting (c.nextDelay w.backoff), backoff := c.nextDelay w.backoff }
      else some { w with phase := .stopped (some err) }
    | _ => none
  | .reconnect =>
    match w.phase with
    | .waiting _ => some { w with phase := .opening, stream := .fresh c w.parentDone }
    | _ => none

/-- What each step does, and when it can be taken. -/
inductive Moves (c : AgentClient) (w : Watch) : WatchEvent → Watch → Prop
  | arrive (resp : WatchTopologyResponse) (sending : w.agentMaySend = true) :
    Moves c w (.arrive resp)
      { w with stream := { w.stream with buffer := w.stream.buffer ++ [resp] } }
  | hangUp (err : StreamError) (sending : w.agentMaySend = true) :
    Moves c w (.hangUp err) { w with stream := { w.stream with failure := some err } }
  | fire (live : w.live = true) (armed : w.stream.timer = .armed) :
    Moves c w .fire { w with stream := { w.stream with timer := .fired } }
  | cancel (live : w.live = true) (fired : w.stream.timer = .fired) :
    Moves c w .cancel { w with stream := { w.stream with
      timer := .done, cause := w.stream.cause.or (some .noFirstSnapshot) } }
  | shutdown :
    Moves c w .shutdown { w with
      parentDone := true
      stream := { w.stream with cause := w.stream.cause.or (some .parent) } }
  | opened (phase : w.phase = .opening) : Moves c w .opened { w with phase := .receiving }
  | openFailed (err : StreamError) (phase : w.phase = .opening) :
    Moves c w (.openFailed err) (w.fail err false)
  | openCancelled (phase : w.phase = .opening) (cancelled : w.stream.cause.isSome = true) :
    Moves c w .openCancelled (w.fail (.status .canceled) false)
  | recvMessage {resp : WatchTopologyResponse} {rest : List WatchTopologyResponse}
      (phase : w.phase = .receiving) (buffer : w.stream.buffer = resp :: rest) :
    Moves c w .recvMessage { w with
      phase := .received resp
      stream := { w.stream with buffer := rest }
      delivered := w.delivered ++ [resp] }
  | recvFailed {err : StreamError} (phase : w.phase = .receiving) (buffer : w.stream.buffer = [])
      (failure : w.stream.failure = some err) :
    Moves c w .recvFailed (w.fail err w.stream.received)
  | recvCancelled (phase : w.phase = .receiving) (cancelled : w.stream.cause.isSome = true) :
    Moves c w .recvCancelled (w.fail (.status .canceled) w.stream.received)
  | stop {resp : WatchTopologyResponse} (phase : w.phase = .received resp) :
    Moves c w .stop { w with
      phase := .forwarding (snapshotOf resp)
      stream := { w.stream with
        timer := if w.stream.timer = .armed then .stopped else w.stream.timer
        received := true }
      backoff := 0 }
  | forward {snapshot : Snapshot} (phase : w.phase = .forwarding snapshot) :
    Moves c w .forward { w with phase := .receiving, forwarded := w.forwarded ++ [snapshot] }
  | giveUpSend {snapshot : Snapshot} (phase : w.phase = .forwarding snapshot)
      (done : w.parentDone = true) :
    Moves c w .giveUp { w with phase := .ended .contextDone }
  | giveUpWait {delay : Duration} (phase : w.phase = .waiting delay) (done : w.parentDone = true) :
    Moves c w .giveUp { w with phase := .stopped none }
  | leave {err : StreamError} (phase : w.phase = .ended err) (done : w.parentDone = true) :
    Moves c w .classify { w with phase := .stopped none }
  | retry {err : StreamError} (phase : w.phase = .ended err) (lives : w.parentDone = false)
      (worth : transient w.parentDone err = true) :
    Moves c w .classify { w with
      phase := .waiting (c.nextDelay w.backoff), backoff := c.nextDelay w.backoff }
  | abandon {err : StreamError} (phase : w.phase = .ended err) (lives : w.parentDone = false)
      (lost : transient w.parentDone err = false) :
    Moves c w .classify { w with phase := .stopped (some err) }
  | reconnect {delay : Duration} (phase : w.phase = .waiting delay) :
    Moves c w .reconnect { w with phase := .opening, stream := .fresh c w.parentDone }

/-- **Every step is one of these.** -/
theorem moves {c : AgentClient} {w w' : Watch} {event : WatchEvent}
    (moved : w.step c event = some w') : Moves c w event w' := by
  cases event with
  | arrive resp =>
    obtain ⟨sending, moved⟩ := Option.ite_none_right_eq_some.mp moved
    cases moved
    exact .arrive resp sending
  | hangUp err =>
    obtain ⟨sending, moved⟩ := Option.ite_none_right_eq_some.mp moved
    cases moved
    exact .hangUp err sending
  | fire =>
    obtain ⟨guard, moved⟩ := Option.ite_none_right_eq_some.mp moved
    cases moved
    obtain ⟨live, armed⟩ := Bool.and_eq_true_iff.mp guard
    exact .fire live (of_decide_eq_true armed)
  | cancel =>
    obtain ⟨guard, moved⟩ := Option.ite_none_right_eq_some.mp moved
    cases moved
    obtain ⟨live, fired⟩ := Bool.and_eq_true_iff.mp guard
    exact .cancel live (of_decide_eq_true fired)
  | shutdown =>
    cases moved
    exact .shutdown
  | opened =>
    obtain ⟨phase, moved⟩ := Option.ite_none_right_eq_some.mp moved
    cases moved
    exact .opened phase
  | openFailed err =>
    obtain ⟨phase, moved⟩ := Option.ite_none_right_eq_some.mp moved
    cases moved
    exact .openFailed err phase
  | openCancelled =>
    obtain ⟨guard, moved⟩ := Option.ite_none_right_eq_some.mp moved
    cases moved
    obtain ⟨phase, cancelled⟩ := Bool.and_eq_true_iff.mp guard
    exact .openCancelled (of_decide_eq_true phase) cancelled
  | recvMessage =>
    simp only [step] at moved
    split at moved
    next phase buffer =>
      cases moved
      exact .recvMessage phase buffer
    next => cases moved
  | recvFailed =>
    simp only [step] at moved
    split at moved
    next phase buffer failure =>
      cases moved
      exact .recvFailed phase buffer failure
    next => cases moved
  | recvCancelled =>
    obtain ⟨guard, moved⟩ := Option.ite_none_right_eq_some.mp moved
    cases moved
    obtain ⟨phase, cancelled⟩ := Bool.and_eq_true_iff.mp guard
    exact .recvCancelled (of_decide_eq_true phase) cancelled
  | stop =>
    simp only [step] at moved
    split at moved
    next phase =>
      cases moved
      exact .stop phase
    next => cases moved
  | forward =>
    simp only [step] at moved
    split at moved
    next phase =>
      cases moved
      exact .forward phase
    next => cases moved
  | giveUp =>
    simp only [step] at moved
    split at moved
    next phase done =>
      cases moved
      exact .giveUpSend phase done
    next phase done =>
      cases moved
      exact .giveUpWait phase done
    next => cases moved
  | classify =>
    simp only [step] at moved
    split at moved
    next err phase =>
      by_cases done : w.parentDone = true
      · rw [if_pos done] at moved
        cases moved
        exact .leave phase done
      · rw [if_neg done] at moved
        have lives := Bool.eq_false_of_not_eq_true done
        by_cases worth : transient w.parentDone err = true
        · rw [if_pos worth] at moved
          cases moved
          exact .retry phase lives worth
        · rw [if_neg worth] at moved
          cases moved
          exact .abandon phase lives (Bool.eq_false_of_not_eq_true worth)
    next => cases moved
  | reconnect =>
    simp only [step] at moved
    split at moved
    next phase =>
      cases moved
      exact .reconnect phase
    next => cases moved

end Watch

/-! ### Order -/

/-- The snapshot a stream has received and not handed over yet. -/
def Watch.inHand (w : Watch) : List Snapshot :=
  match w.phase with
  | .received resp => [snapshotOf resp]
  | .forwarding snapshot => [snapshot]
  | _ => []

/-- **What was received has been handed over, in order**, but for the snapshot in hand. -/
structure Ordered (w : Watch) : Prop where
  parent : w.parentDone = false
  all : w.forwarded ++ w.inHand = w.delivered.map snapshotOf

theorem ordered_start (c : AgentClient) : Ordered (.start c) := ⟨rfl, rfl⟩

namespace Watch

variable {c : AgentClient} {w w' : Watch} {event : WatchEvent}

/-- Only a hand-over adds to what was handed over. -/
theorem step_forwarded (other : event ≠ .forward) (moved : w.step c event = some w') :
    w'.forwarded = w.forwarded := by
  cases moves moved with
  | forward _ => exact absurd rfl other
  | _ => rfl

theorem step_forward {snapshot : Snapshot} (phase : w.phase = .forwarding snapshot)
    (moved : w.step c .forward = some w') :
    w' = { w with phase := .receiving, forwarded := w.forwarded ++ [snapshot] } := by
  cases moves moved with
  | forward handed =>
    cases phase.symm.trans handed
    rfl

/-- **One step keeps the order**, while the parent context lives. -/
theorem ordered_step (ordered : Ordered w) (lives : event ≠ .shutdown)
    (moved : w.step c event = some w') : Ordered w' := by
  have all := ordered.all
  have idle : ∀ {phase : Phase}, w.phase = phase →
      (match phase with
        | .received resp => [snapshotOf resp]
        | .forwarding snapshot => [snapshot]
        | _ => []) = w.inHand := fun same => by rw [inHand, same]
  cases moves moved with
  | shutdown => exact absurd rfl lives
  | arrive | hangUp | fire | cancel => exact ⟨ordered.parent, all⟩
  | @recvMessage resp _ phase _ =>
    refine ⟨ordered.parent, ?_⟩
    rw [← idle phase, List.append_nil] at all
    show w.forwarded ++ [snapshotOf resp] = (w.delivered ++ [resp]).map snapshotOf
    rw [all, List.map_append]
    rfl
  | stop phase =>
    rw [← idle phase] at all
    exact ⟨ordered.parent, all⟩
  | forward phase =>
    rw [← idle phase] at all
    exact ⟨ordered.parent, (List.append_nil _).trans all⟩
  | giveUpSend _ done | giveUpWait _ done | leave _ done =>
    rw [ordered.parent] at done
    cases done
  | opened phase | openFailed _ phase | openCancelled phase _ | recvFailed phase _ _
  | recvCancelled phase _ | retry phase _ _ | abandon phase _ _ | reconnect phase =>
    -- nothing is in hand before or after
    rw [← idle phase] at all
    exact ⟨ordered.parent, all⟩

end Watch

/-! ### The client's own timeout -/

/-- A failure of the agent that is worth a reconnect. -/
def StreamError.agentTransient : StreamError → Bool
  | .eof => true
  | .status .unavailable => true
  | .status .resourceExhausted => true
  | .status .deadlineExceeded => true
  | _ => false

/-- The parent context lives, and the agent fails in transient ways only. -/
def WatchEvent.allowed : WatchEvent → Bool
  | .shutdown => false
  | .hangUp err => err.agentTransient
  | .openFailed err => err.agentTransient
  | _ => true

/-- The timer does not fire once the stream has taken a message, and the stream takes no message
once the timer has fired. -/
def Watch.apart (w : Watch) : WatchEvent → Bool
  | .fire => !w.stream.received && match w.phase with
    | .received _ => false
    | _ => true
  | .recvMessage => w.stream.timer ≠ .fired && w.stream.timer ≠ .done
  | _ => true

/-- One allowed step. -/
def WatchStep (c : AgentClient) (w : Watch) (event : WatchEvent) (w' : Watch) : Prop :=
  event.allowed = true ∧ w.step c event = some w'

/-- One allowed step that keeps the timer and messages apart. -/
def ApartStep (c : AgentClient) (w : Watch) (event : WatchEvent) (w' : Watch) : Prop :=
  w.apart event = true ∧ WatchStep c w event w'

/-- **A stream the timer cancelled is taken for transient exactly when it received nothing.** -/
theorem cancelled_transient_iff (received : Bool) :
    transient false (watchError (some .noFirstSnapshot) (.status .canceled) received) = true ↔
      received = false := by
  cases received <;> decide

theorem watchError_agentTransient {err : StreamError} (agent : err.agentTransient = true)
    (cause : Option Cause) (received : Bool) : transient false (watchError cause err received) = true := by
  have plain : transient false err = true ∧ err.code ≠ .unimplemented := by
    unfold StreamError.agentTransient at agent
    split at agent
    · decide
    · decide
    · decide
    · decide
    · cases agent
  unfold watchError
  split
  · rfl
  · rw [if_neg plain.2]
    exact plain.1

/-- What holds in every state while timer and messages are kept apart. -/
structure Riding (w : Watch) : Prop where
  parent : w.parentDone = false
  cause : ∀ cause, w.stream.cause = some cause → cause = .noFirstSnapshot ∧ w.stream.timer = .done
  failure : ∀ err, w.stream.failure = some err → err.agentTransient = true
  fired : w.stream.timer = .fired ∨ w.stream.timer = .done →
    w.stream.received = false ∧ ∀ resp, w.phase ≠ .received resp
  ended : ∀ err, w.phase = .ended err → transient false err = true
  running : ∀ err, w.phase ≠ .stopped err

theorem riding_start (c : AgentClient) : Riding (.start c) where
  parent := rfl
  cause _ := nofun
  failure _ := nofun
  fired early := by
    have timer : (Watch.start c).stream.timer =
      if 0 < c.firstSnapshotTimeout then .armed else .unset := rfl
    rw [timer] at early
    split at early <;> simp at early
  ended _ := nofun
  running _ := nofun

namespace Riding

variable {c : AgentClient} {w w' : Watch}

/-- A stream may fail with what is transient. -/
theorem fail (riding : Riding w) {err : StreamError} {received : Bool}
    (worth : transient false (watchError w.stream.cause err received) = true) :
    Riding (w.fail err received) where
  parent := riding.parent
  cause := riding.cause
  failure := riding.failure
  fired early := ⟨(riding.fired early).1, fun _ => nofun⟩
  ended err same := by
    cases same
    exact worth
  running _ := nofun

/-- A cancelled stream has received nothing. -/
theorem cancelled (riding : Riding w) (done : w.stream.cause.isSome = true) :
    w.stream.cause = some .noFirstSnapshot ∧ w.stream.received = false := by
  obtain ⟨cause, same⟩ := Option.isSome_iff_exists.mp done
  obtain ⟨rfl, fired⟩ := riding.cause cause same
  exact ⟨same, (riding.fired (Or.inr fired)).1⟩

/-- Fewer messages or another delay change nothing. -/
theorem turn (riding : Riding w) {phase : Phase} (messages : List WatchTopologyResponse) (delay : Duration)
    (delivered : List WatchTopologyResponse) (forwarded : List Snapshot)
    (quiet : ∀ resp, phase ≠ .received resp) (live : ∀ err, phase ≠ .ended err)
    (running : ∀ err, phase ≠ .stopped err) :
    Riding { w with
      phase := phase, stream := { w.stream with buffer := messages }, backoff := delay,
      delivered := delivered, forwarded := forwarded } where
  parent := riding.parent
  cause := riding.cause
  failure := riding.failure
  fired early := ⟨(riding.fired early).1, quiet⟩
  ended err same := absurd same (live err)
  running := running

/-- The timer fires on a stream that has taken no message. -/
theorem fire (riding : Riding w) (armed : w.stream.timer = .armed) (apart : w.apart .fire = true) :
    Riding { w with stream := { w.stream with timer := .fired } } := by
  obtain ⟨fresh, before⟩ := Bool.and_eq_true_iff.mp apart
  refine ⟨riding.parent, ?_, riding.failure, fun _ => ⟨by simpa using fresh, ?_⟩, riding.ended,
    riding.running⟩
  · intro cause same
    have done := (riding.cause cause same).2
    rw [armed] at done
    cases done
  · intro resp same
    have phase : w.phase = .received resp := same
    rw [phase] at before
    cases before

/-- Its function is the first to cancel the stream's context. -/
theorem cancel (riding : Riding w) (fired : w.stream.timer = .fired) :
    Riding { w with stream := { w.stream with
      timer := .done, cause := w.stream.cause.or (some .noFirstSnapshot) } } := by
  refine ⟨riding.parent, ?_, riding.failure, fun _ => riding.fired (Or.inl fired), riding.ended,
    riding.running⟩
  intro cause same
  refine ⟨?_, rfl⟩
  cases before : w.stream.cause with
  | none =>
    have set : (w.stream.cause.or (some .noFirstSnapshot)) = some cause := same
    rw [before, Option.none_or] at set
    exact (Option.some.inj set).symm
  | some earlier =>
    have done := (riding.cause earlier before).2
    rw [fired] at done
    cases done

/-- A stream that has taken a message stops a timer that has not fired. -/
theorem stop (riding : Riding w) {resp : WatchTopologyResponse} (phase : w.phase = .received resp) :
    Riding { w with
      phase := .forwarding (snapshotOf resp)
      stream := { w.stream with
        timer := if w.stream.timer = .armed then .stopped else w.stream.timer
        received := true }
      backoff := 0 } := by
  have early : ¬ (w.stream.timer = .fired ∨ w.stream.timer = .done) := fun fired =>
    (riding.fired fired).2 resp phase
  refine ⟨riding.parent, ?_, riding.failure, ?_, fun _ => nofun, fun _ => nofun⟩
  · intro cause same
    exact absurd (Or.inr (riding.cause cause same).2) early
  · intro fired
    refine absurd ?_ early
    by_cases armed : w.stream.timer = .armed
    · simp [armed] at fired
    · simpa [armed] using fired

/-- **One step keeps the watch riding.** -/
theorem step {event : WatchEvent} (riding : Riding w) (moved : ApartStep c w event w') : Riding w' := by
  obtain ⟨apart, allowed, moved⟩ := moved
  cases Watch.moves moved with
  | arrive resp _ =>
    exact ⟨riding.parent, riding.cause, riding.failure, riding.fired, riding.ended, riding.running⟩
  | hangUp err _ =>
    refine ⟨riding.parent, riding.cause, ?_, riding.fired, riding.ended, riding.running⟩
    intro failure same
    cases same
    exact allowed
  | fire _ armed => exact riding.fire armed apart
  | cancel _ fired => exact riding.cancel fired
  | shutdown => cases allowed
  | opened _ =>
    exact riding.turn w.stream.buffer w.backoff w.delivered w.forwarded (fun _ => nofun)
      (fun _ => nofun) (fun _ => nofun)
  | openFailed err _ => exact riding.fail (watchError_agentTransient allowed _ _)
  | openCancelled _ cancelled =>
    refine riding.fail ?_
    rw [(riding.cancelled cancelled).1]
    rfl
  | recvMessage _ _ =>
    obtain ⟨notFired, notDone⟩ := Bool.and_eq_true_iff.mp apart
    refine ⟨riding.parent, riding.cause, riding.failure, ?_, fun _ => nofun, fun _ => nofun⟩
    rintro (fired | done)
    · exact absurd fired (of_decide_eq_true notFired)
    · exact absurd done (of_decide_eq_true notDone)
  | recvFailed _ _ failure =>
    exact riding.fail (watchError_agentTransient (riding.failure _ failure) _ _)
  | recvCancelled _ cancelled =>
    obtain ⟨cause, nothing⟩ := riding.cancelled cancelled
    refine riding.fail ?_
    rw [cause]
    exact (cancelled_transient_iff _).mpr nothing
  | stop phase => exact riding.stop phase
  | forward _ =>
    exact riding.turn w.stream.buffer w.backoff w.delivered _ (fun _ => nofun) (fun _ => nofun)
      (fun _ => nofun)
  | giveUpSend _ done | giveUpWait _ done | leave _ done =>
    -- the parent context lives
    rw [riding.parent] at done
    cases done
  | retry _ _ _ =>
    exact riding.turn w.stream.buffer _ w.delivered w.forwarded (fun _ => nofun)
      (fun _ => nofun) (fun _ => nofun)
  | abandon phase _ lost =>
    -- the failure was transient
    rw [riding.parent, riding.ended _ phase] at lost
    cases lost
  | reconnect _ =>
    have start := riding_start c
    rw [riding.parent]
    exact ⟨rfl, start.cause, start.failure, start.fired, fun _ => nofun, fun _ => nofun⟩

end Riding

/-- **The client's own timeout never ends the watch**, in any run in which no stream both takes a
message and has its timer fire: `run` has not returned, and a stream that has ended is classified
transient and followed by a new one. -/
theorem timeout_survived (c : AgentClient) {events : List WatchEvent} {w : Watch}
    (run : Run (ApartStep c) (.start c) events w) :
    (∀ err, w.phase ≠ .stopped err) ∧
    ∀ err, w.phase = .ended err → transient w.parentDone err = true ∧
      ∃ waiting again, w.step c .classify = some waiting ∧ waiting.step c .reconnect = some again ∧
        again.phase = .opening := by
  have riding : Riding w := run.invariant (fun _ _ _ riding moved => riding.step moved) (riding_start c)
  refine ⟨riding.running, fun err phase => ?_⟩
  have worth : transient w.parentDone err = true := by
    rw [riding.parent]
    exact riding.ended err phase
  have classified : w.step c .classify = some { w with
      phase := .waiting (c.nextDelay w.backoff), backoff := c.nextDelay w.backoff } := by
    simp only [Watch.step, phase]
    rw [if_neg (Bool.not_eq_true _ ▸ riding.parent), if_pos worth]
  exact ⟨worth, _, _, classified, rfl, rfl⟩

/-- A first message. -/
def sampleResponse : WatchTopologyResponse :=
  { status := .topologyNotDiscovered, physicalTopology := none, version := 1 }

/-- A client with small delays. -/
def sampleClient : AgentClient :=
  { firstSnapshotTimeout := 10, reconnectInitial := 1, reconnectMax := 30 }

/-- **The client's own timeout can end the watch**: the timer fires between `Recv` and `Stop`. -/
theorem timeout_stops_watch :
    ∃ w, Run (WatchStep sampleClient) (.start sampleClient)
        [.opened, .arrive sampleResponse, .recvMessage, .fire, .stop, .forward, .cancel, .recvCancelled,
          .classify] w ∧
      w.phase = .stopped (some (.status .canceled)) := by
  have ran : ([.opened, .arrive sampleResponse, .recvMessage, .fire, .stop, .forward, .cancel,
      .recvCancelled, .classify].foldlM (guarded (fun _ event => event.allowed)
        (Watch.step sampleClient)) (Watch.start sampleClient)).map Watch.phase =
      some (.stopped (some (.status .canceled))) := by decide
  obtain ⟨w, moved, phase⟩ := Option.map_eq_some_iff.mp ran
  exact ⟨w, run_of_guarded moved, phase⟩

/-- A timer that cancels a silent stream is followed by a second stream. -/
theorem silent_stream_survived :
    ∃ w, Run (ApartStep sampleClient) (.start sampleClient)
        [.opened, .fire, .cancel, .recvCancelled, .classify, .reconnect, .opened,
          .arrive sampleResponse, .recvMessage, .stop, .forward, .hangUp .eof, .recvFailed] w ∧
      w.phase = .ended .eof ∧ w.forwarded = [snapshotOf sampleResponse] ∧
      ∃ waiting again, w.step sampleClient .classify = some waiting ∧
        waiting.step sampleClient .reconnect = some again ∧ again.phase = .opening := by
  have ran : ([.opened, .fire, .cancel, .recvCancelled, .classify, .reconnect, .opened,
      .arrive sampleResponse, .recvMessage, .stop, .forward, .hangUp .eof, .recvFailed].foldlM
        (guarded (fun w event => w.apart event && event.allowed) (Watch.step sampleClient))
        (Watch.start sampleClient)).map (fun w => (w.phase, w.forwarded)) =
      some (.ended .eof, [snapshotOf sampleResponse]) := by decide
  obtain ⟨w, moved, facts⟩ := Option.map_eq_some_iff.mp ran
  obtain ⟨phase, forwarded⟩ := Prod.mk.inj facts
  have run : Run (ApartStep sampleClient) (.start sampleClient) _ w :=
    (run_of_guarded moved).mono fun _ _ _ step => by
      obtain ⟨apart, allowed⟩ := Bool.and_eq_true_iff.mp step.1
      exact ⟨apart, allowed, step.2⟩
  exact ⟨w, run, phase, forwarded, ((timeout_survived sampleClient run).2 _ phase).2⟩

end DraDriver.FabricManager
