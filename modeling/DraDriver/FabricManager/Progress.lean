/-
**How far the topology watch can run on its own.**

Two ranks bound the steps of the watch. `Watch.drainRank` is for a watch whose parent context is
done: a reconnect delay that elapses first opens one more stream, which is cancelled from the start.
`Watch.settleRank` is for one whose parent lives: a stream in trouble costs a reconnect.

* `Watch.Sound` — a stream of a cancelled parent is cancelled, and a watch that stopped without an
  error has a cancelled parent.
* **`Watch.drainRank_step`**, **`Watch.settleRank_step`** — own steps lower the rank, a message of the
  agent raises it by at most eight.
* `Watch.drainRank_le` — a shutdown costs at most two steps more.
* **`Watch.exists_drain`**, **`Watch.exists_settle`** — the watch is never blocked but at its ends.
* **`Watch.reconnect_paced`** — how long each reconnect has waited, over whole runs.
-/

import DraDriver.FabricManager.Watch

namespace DraDriver.FabricManager

open DraDriver.Base

/-! ### What a watch has seen -/

/-- **The parent's cancellation reaches the stream**, and only it stops a watch without an error. -/
structure Watch.Sound (w : Watch) : Prop where
  cancels : w.parentDone = true → w.stream.cause.isSome = true
  stops : w.phase = .stopped none → w.parentDone = true

namespace Watch

variable {c : AgentClient} {w w' : Watch} {event : WatchEvent}

theorem sound_start (c : AgentClient) : (start c).Sound := by
  refine ⟨?_, ?_⟩ <;> intro wrong <;> cases wrong

/-- The parent context stays cancelled. -/
theorem parentDone_step (moved : w.step c event = some w') :
    w'.parentDone = (w.parentDone || decide (event = .shutdown)) := by
  cases moves moved <;> simp [fail]

theorem sound_step (sound : w.Sound) (moved : w.step c event = some w') : w'.Sound := by
  have kept := sound.cancels
  cases moves moved with
  | arrive | hangUp | fire => exact ⟨kept, sound.stops⟩
  | cancel => exact ⟨fun _ => by cases w.stream.cause <;> rfl, sound.stops⟩
  | shutdown => exact ⟨fun _ => by cases w.stream.cause <;> rfl, fun _ => rfl⟩
  | leave _ done | giveUpWait _ done => exact ⟨kept, fun _ => done⟩
  | reconnect =>
    refine ⟨fun done => ?_, by simp⟩
    have parent : w.parentDone = true := done
    simp [Stream.fresh, parent]
  | openFailed | openCancelled | recvFailed | recvCancelled => exact ⟨kept, by simp [fail]⟩
  | opened | recvMessage | stop | forward | giveUpSend | retry | abandon => exact ⟨kept, by simp⟩

end Watch

/-! ### Draining -/

/-- A step of the watch or of its timer, not of the agent or the parent. -/
def WatchEvent.drains : WatchEvent → Bool
  | .arrive _ => false
  | .hangUp _ => false
  | .shutdown => false
  | _ => true

/-- The steps a timer has left: it fires and its function runs. -/
def Timer.rank : Timer → ℕ
  | .armed => 2
  | .fired => 1
  | _ => 0

/-- A buffered message is worth eight: it is received, the timer is stopped, it is handed over, and
what takes it has work of its own. -/
def Stream.drainLoad (stream : Stream) : ℕ :=
  8 * stream.buffer.length + stream.timer.rank

/-- **The steps a watch has left once its parent is done.** -/
def Watch.drainRank (w : Watch) : ℕ :=
  match w.phase with
  | .waiting _ => 13
  | .opening => w.stream.drainLoad + 10
  | .receiving => w.stream.drainLoad + 9
  | .received _ => w.stream.drainLoad + 16
  | .forwarding _ => w.stream.drainLoad + 15
  | .ended _ => 1
  | .stopped _ => 0

/-- The watch cannot go on: its parent is done, or it has returned. -/
def Watch.Doomed (w : Watch) : Prop :=
  w.parentDone = true ∨ ∃ err, w.phase = .stopped err

namespace Watch

variable {c : AgentClient} {w w' : Watch} {event : WatchEvent}

theorem live_of_agentMaySend (sending : w.agentMaySend = true) : w.live = true := by
  unfold agentMaySend at sending
  unfold live
  cases phase : w.phase <;> simp [phase] at sending ⊢

/-- A watch that has returned takes no step but the environment's. -/
theorem stopped_step {err : Option StreamError} (phase : w.phase = .stopped err)
    (moved : w.step c event = some w') : w'.phase = .stopped err ∧ event = .shutdown := by
  have returned : w.live = false := by rw [live, phase]
  cases moves moved with
  | shutdown => exact ⟨phase, rfl⟩
  | arrive _ sending | hangUp _ sending =>
    rw [live_of_agentMaySend sending] at returned
    cases returned
  | fire running | cancel running =>
    rw [running] at returned
    cases returned
  | opened other | openFailed _ other | openCancelled other | recvMessage other | recvFailed other
  | recvCancelled other | stop other | forward other | giveUpSend other | giveUpWait other | leave other
  | retry other | abandon other | reconnect other =>
    rw [phase] at other
    cases other

/-- What happens to a stream that has not returned shows in its load only. -/
theorem drainRank_stream (running : w.live = true) {stream : Stream} :
    (stream.drainLoad < w.stream.drainLoad → drainRank { w with stream := stream } < w.drainRank) ∧
      (stream.drainLoad ≤ w.stream.drainLoad + 8 →
        drainRank { w with stream := stream } ≤ w.drainRank + 8) := by
  unfold live at running
  unfold drainRank
  cases phase : w.phase <;> simp only [phase, Bool.false_eq_true] at running ⊢ <;> omega

theorem drainLoad_fresh (c : AgentClient) (parentDone : Bool) :
    (Stream.fresh c parentDone).drainLoad ≤ 2 := by
  show 0 + Timer.rank (if 0 < c.firstSnapshotTimeout then .armed else .unset) ≤ 2
  split <;> decide

/-- `Timer.Stop`. -/
theorem drainLoad_stop (stream : Stream) (received : Bool) : Stream.drainLoad { stream with
    timer := if stream.timer = .armed then .stopped else stream.timer, received := received } ≤
      stream.drainLoad := by
  unfold Stream.drainLoad
  have lower : (if stream.timer = .armed then Timer.stopped else stream.timer).rank ≤ stream.timer.rank := by
    split
    · exact Nat.zero_le _
    · exact le_rfl
  exact Nat.add_le_add_left lower _

/-- **One step of a doomed watch.** -/
theorem drainRank_step (doomed : w.Doomed) (moved : w.step c event = some w') :
    (event.drains = true → w'.drainRank < w.drainRank) ∧ w'.drainRank ≤ w.drainRank + 8 ∧
      (event = .forward → w'.drainRank + 6 ≤ w.drainRank) := by
  rcases doomed with done | ⟨err, phase⟩
  · cases moves moved with
    | arrive resp sending =>
      refine ⟨nofun, (drainRank_stream (live_of_agentMaySend sending)).2 ?_, nofun⟩
      simp only [Stream.drainLoad, List.length_append, List.length_singleton]
      omega
    | hangUp | shutdown => exact ⟨nofun, Nat.le_add_right _ _, nofun⟩
    | fire running timer | cancel running timer =>
      refine ⟨fun _ => (drainRank_stream running).1 ?_, (drainRank_stream running).2 ?_, nofun⟩ <;>
        simp only [Stream.drainLoad, timer, Timer.rank] <;> omega
    | stop phase =>
      have less := drainLoad_stop w.stream true
      simp only [drainRank, phase]
      exact ⟨fun _ => by omega, by omega, nofun⟩
    | reconnect phase =>
      have less := drainLoad_fresh c w.parentDone
      simp only [drainRank, phase]
      exact ⟨fun _ => by omega, by omega, nofun⟩
    | recvMessage phase buffer =>
      simp only [drainRank, phase, Stream.drainLoad, buffer, List.length_cons]
      exact ⟨fun _ => by omega, by omega, nofun⟩
    | forward phase =>
      simp only [drainRank, phase]
      exact ⟨fun _ => by omega, by omega, fun _ => by omega⟩
    | retry _ lives | abandon _ lives =>
      rw [done] at lives
      cases lives
    | opened phase | giveUpSend phase | giveUpWait phase | leave phase | openFailed _ phase
    | openCancelled phase | recvFailed phase | recvCancelled phase =>
      simp only [drainRank, phase, fail]
      exact ⟨fun _ => by omega, by omega, nofun⟩
  · obtain ⟨-, rfl⟩ := stopped_step phase moved
    cases moves moved
    exact ⟨nofun, Nat.le_add_right _ _, nofun⟩

/-- **A watch whose parent is done is never blocked**: every `Recv`, hand-over and delay returns. -/
theorem exists_drain (c : AgentClient) (sound : w.Sound) (done : w.parentDone = true)
    (runs : ∀ err, w.phase ≠ .stopped err) :
    ∃ event w', event.drains = true ∧ event ≠ .forward ∧ w.step c event = some w' := by
  have cancelled := sound.cancels done
  cases phase : w.phase with
  | opening => exact ⟨.opened, _, rfl, by decide, if_pos phase⟩
  | receiving => exact ⟨.recvCancelled, _, rfl, by decide, if_pos (by simp [phase, cancelled])⟩
  | received resp => exact ⟨.stop, _, rfl, by decide, by simp only [step, phase]; rfl⟩
  | forwarding snapshot => exact ⟨.giveUp, _, rfl, by decide, by simp only [step, phase, done]; rfl⟩
  | ended err => exact ⟨.classify, _, rfl, by decide, by simp only [step, phase, done]; rfl⟩
  | waiting delay => exact ⟨.giveUp, _, rfl, by decide, by simp only [step, phase, done]; rfl⟩
  | stopped err => exact absurd phase (runs err)

end Watch

/-! ### Settling -/

/-- A step of the watch that no failure of the agent's causes. -/
def WatchEvent.settles : WatchEvent → Bool
  | .arrive _ => false
  | .hangUp _ => false
  | .fire => false
  | .openFailed _ => false
  | .shutdown => false
  | _ => true

/-- A stream that has failed, is cancelled or is about to be costs a reconnect. -/
def trouble (timer : Timer) (cause : Option Cause) (failure : Option StreamError) : ℕ :=
  match timer, cause, failure with
  | .fired, _, _ => 7
  | _, some _, _ => 6
  | _, _, some _ => 6
  | _, _, _ => 0

/-- The steps of a stream whose parent lives: a message is worth eight, as above, and trouble a reconnect. -/
def Stream.settleLoad (stream : Stream) : ℕ :=
  8 * stream.buffer.length + trouble stream.timer stream.cause stream.failure

/-- **The steps a watch has left while its parent lives** and the agent is silent. -/
def Watch.settleRank (w : Watch) : ℕ :=
  match w.phase with
  | .waiting _ => 11
  | .opening => w.stream.settleLoad + 10
  | .receiving => w.stream.settleLoad + 9
  | .received _ => w.stream.settleLoad + 16
  | .forwarding _ => w.stream.settleLoad + 15
  | .ended _ => 12
  | .stopped _ => 0

/-- `Recv` waits on a stream that is up. -/
structure Watch.Silent (w : Watch) : Prop where
  phase : w.phase = .receiving
  buffer : w.stream.buffer = []
  failure : w.stream.failure = none
  cause : w.stream.cause = none

namespace Watch

variable {c : AgentClient} {w w' : Watch} {event : WatchEvent}

theorem settleRank_stream (running : w.live = true) {stream : Stream} :
    (stream.settleLoad < w.stream.settleLoad → settleRank { w with stream := stream } < w.settleRank) ∧
      (stream.settleLoad ≤ w.stream.settleLoad + 8 →
        settleRank { w with stream := stream } ≤ w.settleRank + 8) := by
  unfold live at running
  unfold settleRank
  cases phase : w.phase <;> simp only [phase, Bool.false_eq_true] at running ⊢ <;> omega

theorem trouble_le (timer : Timer) (cause : Option Cause) (failure : Option StreamError) :
    trouble timer cause failure ≤ 7 := by
  unfold trouble
  split <;> omega

theorem le_trouble {timer : Timer} {cause : Option Cause} {failure : Option StreamError}
    (troubled : cause.isSome = true ∨ failure.isSome = true) : 6 ≤ trouble timer cause failure := by
  cases timer <;> cases cause <;> cases failure <;> simp [trouble] at troubled ⊢

theorem settleLoad_fresh (c : AgentClient) : (Stream.fresh c false).settleLoad = 0 := by
  show 0 + trouble (if 0 < c.firstSnapshotTimeout then .armed else .unset) none none = 0
  split <;> rfl

/-- Trouble costs no more than a message. -/
theorem settleLoad_same {stream stream' : Stream} (buffer : stream'.buffer = stream.buffer) :
    stream'.settleLoad ≤ stream.settleLoad + 8 := by
  have most := trouble_le stream'.timer stream'.cause stream'.failure
  unfold Stream.settleLoad
  rw [buffer]
  omega

theorem trouble_stop (timer : Timer) (cause : Option Cause) (failure : Option StreamError) :
    trouble (if timer = .armed then .stopped else timer) cause failure = trouble timer cause failure := by
  cases timer <;> cases cause <;> cases failure <;> rfl

/-- **One step of a watch whose parent lives.** -/
theorem settleRank_step (lives : w.parentDone = false) (other : event ≠ .shutdown)
    (moved : w.step c event = some w') :
    (event.settles = true → w'.settleRank < w.settleRank) ∧ w'.settleRank ≤ w.settleRank + 8 ∧
      (event = .forward → w'.settleRank + 6 ≤ w.settleRank) := by
  cases moves moved with
  | shutdown => exact absurd rfl other
  | giveUpSend _ done | giveUpWait _ done | leave _ done =>
    rw [lives] at done
    cases done
  | arrive resp sending =>
    refine ⟨nofun, (settleRank_stream (live_of_agentMaySend sending)).2 ?_, nofun⟩
    simp only [Stream.settleLoad, List.length_append, List.length_singleton]
    omega
  | hangUp err sending =>
    exact ⟨nofun, (settleRank_stream (live_of_agentMaySend sending)).2 (settleLoad_same rfl), nofun⟩
  | fire running => exact ⟨nofun, (settleRank_stream running).2 (settleLoad_same rfl), nofun⟩
  | cancel running fired =>
    refine ⟨fun _ => (settleRank_stream running).1 ?_,
      (settleRank_stream running).2 (settleLoad_same rfl), nofun⟩
    have after : trouble .done (w.stream.cause.or (some .noFirstSnapshot)) w.stream.failure = 6 := by
      cases w.stream.cause <;> rfl
    have before : trouble .fired w.stream.cause w.stream.failure = 7 := rfl
    simp only [Stream.settleLoad, fired, after, before]
    omega
  | openFailed err phase =>
    simp only [settleRank, phase, fail]
    exact ⟨nofun, by omega, nofun⟩
  | openCancelled phase cancelled | recvCancelled phase cancelled =>
    have most : 6 ≤ trouble w.stream.timer w.stream.cause w.stream.failure :=
      le_trouble (Or.inl cancelled)
    simp only [settleRank, phase, fail, Stream.settleLoad]
    exact ⟨fun _ => by omega, by omega, nofun⟩
  | recvFailed phase _ failure =>
    have most : 6 ≤ trouble w.stream.timer w.stream.cause w.stream.failure :=
      le_trouble (Or.inr (Option.isSome_of_eq_some failure))
    simp only [settleRank, phase, fail, Stream.settleLoad]
    exact ⟨fun _ => by omega, by omega, nofun⟩
  | recvMessage phase buffer =>
    simp only [settleRank, phase, Stream.settleLoad, buffer, List.length_cons]
    exact ⟨fun _ => by omega, by omega, nofun⟩
  | stop phase =>
    simp only [settleRank, phase, Stream.settleLoad, trouble_stop]
    exact ⟨fun _ => by omega, by omega, nofun⟩
  | forward phase =>
    simp only [settleRank, phase]
    exact ⟨fun _ => by omega, by omega, fun _ => by omega⟩
  | opened phase | retry phase | abandon phase =>
    simp only [settleRank, phase]
    exact ⟨fun _ => by omega, by omega, nofun⟩
  | reconnect phase =>
    have load := settleLoad_fresh c
    simp only [settleRank, phase, lives]
    exact ⟨fun _ => by omega, by omega, nofun⟩

/-- The parent's end costs no more than the timer. -/
theorem drainRank_le (w : Watch) : w.drainRank ≤ w.settleRank + 2 := by
  have timer : w.stream.timer.rank ≤ 2 := by cases w.stream.timer <;> decide
  unfold drainRank settleRank Stream.drainLoad Stream.settleLoad
  cases w.phase <;> simp only <;> omega

/-- The steps a watch has left, whether or not its parent is done. -/
def rank (w : Watch) : ℕ :=
  if w.parentDone then w.drainRank else w.settleRank

theorem rank_step (other : event ≠ .shutdown) (moved : w.step c event = some w') :
    (event.settles = true → w'.rank < w.rank) ∧ w'.rank ≤ w.rank + 8 ∧
      (event = .forward → w'.rank + 6 ≤ w.rank) := by
  have same : w'.parentDone = w.parentDone := by simp [parentDone_step moved, other]
  unfold rank
  rw [same]
  cases done : w.parentDone with
  | true =>
    obtain ⟨lower, higher, forward⟩ := drainRank_step (Or.inl done) moved
    refine ⟨fun settles => lower ?_, higher, forward⟩
    cases event <;> first | rfl | cases settles
  | false => exact settleRank_step done other moved

/-- **A watch whose parent lives waits for the agent or for whoever takes its snapshot**, or has
returned. -/
theorem exists_settle (c : AgentClient) (w : Watch) : w.Silent ∨
    (∃ snapshot, w.phase = .forwarding snapshot) ∨ (∃ err, w.phase = .stopped err) ∨
    ∃ event w', event.settles = true ∧ event ≠ .forward ∧ w.step c event = some w' := by
  cases phase : w.phase with
  | forwarding snapshot => exact Or.inr (Or.inl ⟨snapshot, rfl⟩)
  | stopped err => exact Or.inr (Or.inr (Or.inl ⟨err, rfl⟩))
  | opening => exact Or.inr (Or.inr (Or.inr ⟨.opened, _, rfl, by decide, if_pos phase⟩))
  | received resp =>
    exact Or.inr (Or.inr (Or.inr ⟨.stop, _, rfl, by decide, by simp only [step, phase]; rfl⟩))
  | waiting delay =>
    exact Or.inr (Or.inr (Or.inr ⟨.reconnect, _, rfl, by decide, by simp only [step, phase]; rfl⟩))
  | ended err =>
    refine Or.inr (Or.inr (Or.inr ⟨.classify, ?_⟩))
    simp only [step, phase]
    split
    · exact ⟨_, rfl, by decide, rfl⟩
    · split <;> exact ⟨_, rfl, by decide, rfl⟩
  | receiving =>
    cases cause : w.stream.cause with
    | some cause' =>
      exact Or.inr (Or.inr (Or.inr ⟨.recvCancelled, _, rfl, by decide, if_pos (by simp [phase, cause])⟩))
    | none =>
      cases buffer : w.stream.buffer with
      | cons resp rest =>
        exact Or.inr (Or.inr (Or.inr ⟨.recvMessage, _, rfl, by decide,
          by simp only [step, phase, buffer]; rfl⟩))
      | nil =>
        cases failure : w.stream.failure with
        | some err =>
          exact Or.inr (Or.inr (Or.inr ⟨.recvFailed, _, rfl, by decide,
            by simp only [step, phase, buffer, failure]; rfl⟩))
        | none => exact Or.inl ⟨phase, buffer, failure, cause⟩

end Watch

/-! ### The reconnect delay -/

/-- The delay after so many streams have already ended since the last message: doubling, capped. -/
def AgentClient.delayAfter (c : AgentClient) (ended : ℕ) : ℤ :=
  if c.reconnectMax.toInt ≤ 0 then c.reconnectInitial.toInt
  else min (c.reconnectInitial.toInt * 2 ^ ended) c.reconnectMax.toInt

/-- **Delays that can be doubled**: the initial one is not negative, and twice a delay below the cap
does not wrap around. -/
structure AgentClient.Doubles (c : AgentClient) : Prop where
  initial : 0 ≤ c.reconnectInitial.toInt
  cap : c.reconnectMax.toInt ≤ 2 ^ 62

/-- The streams that have ended since the last message, one event later. -/
def endedAfter (ended : ℕ) : WatchEvent → ℕ
  | .stop => 0
  | .classify => ended + 1
  | _ => ended

/-- The streams that have ended since the last message. -/
def endedSince (events : List WatchEvent) : ℕ := events.foldl endedAfter 0

namespace AgentClient

variable (c : AgentClient) {current : Duration}

theorem toInt_double (nonneg : 0 ≤ current.toInt) (small : current.toInt < 2 ^ 62) :
    (current * 2).toInt = current.toInt * 2 := by
  have two : (2 : Duration).toInt = 2 := rfl
  rw [Int64.toInt_mul, two]
  exact Int.bmod_eq_of_le (by omega) (by omega)

/-- `next` as arithmetic on integers, where nothing wraps. -/
theorem toInt_nextDelay (doubles : c.Doubles) (nonneg : 0 ≤ current.toInt) :
    (c.nextDelay current).toInt =
      let doubled := if current.toInt = 0 then c.reconnectInitial.toInt
        else if current.toInt < c.reconnectMax.toInt then current.toInt * 2 else current.toInt
      if 0 < c.reconnectMax.toInt ∧ c.reconnectMax.toInt < doubled then c.reconnectMax.toInt
      else doubled := by
  have cap := doubles.cap
  have zero : current = 0 ↔ current.toInt = 0 := by rw [← Int64.toInt_inj, Int64.toInt_zero]
  have doubled : (if current = 0 then c.reconnectInitial
      else if current < c.reconnectMax then current * 2 else current).toInt =
        if current.toInt = 0 then c.reconnectInitial.toInt
        else if current.toInt < c.reconnectMax.toInt then current.toInt * 2 else current.toInt := by
    simp only [zero, Int64.lt_iff_toInt_lt]
    split_ifs with none below
    · rfl
    · exact toInt_double nonneg (by omega)
    · rfl
  unfold nextDelay
  dsimp only
  simp only [Int64.lt_iff_toInt_lt, Int64.toInt_zero, apply_ite Int64.toInt] at doubled ⊢
  rw [doubled]

/-- The first call of `next` gives the first delay. -/
theorem nextDelay_zero (doubles : c.Doubles) : (c.nextDelay 0).toInt = c.delayAfter 0 := by
  have initial := doubles.initial
  rw [c.toInt_nextDelay doubles le_rfl]
  unfold delayAfter
  simp only [Int64.toInt_zero, if_true, pow_zero, mul_one]
  split_ifs <;> omega

/-- **Each further call doubles the delay, up to the cap.** -/
theorem nextDelay_delayAfter (doubles : c.Doubles) {ended : ℕ}
    (now : current.toInt = c.delayAfter ended) :
    (c.nextDelay current).toInt = c.delayAfter (ended + 1) := by
  have initial := doubles.initial
  have double : c.reconnectInitial.toInt * 2 ^ (ended + 1) = c.reconnectInitial.toInt * 2 ^ ended * 2 := by
    rw [pow_succ, mul_assoc]
  have grown : 0 ≤ c.reconnectInitial.toInt * 2 ^ ended := by positivity
  -- a zero delay is a zero initial one, which never grows
  have zero : c.reconnectInitial.toInt * 2 ^ ended = 0 → c.reconnectInitial.toInt = 0 := fun none =>
    (mul_eq_zero.mp none).resolve_right (by positivity)
  have nonneg : 0 ≤ current.toInt := by
    rw [now]
    unfold delayAfter
    split_ifs <;> omega
  rw [c.toInt_nextDelay doubles nonneg, now]
  unfold delayAfter
  rw [double]
  generalize c.reconnectInitial.toInt * 2 ^ ended = delay at grown zero ⊢
  dsimp only
  split_ifs <;> omega

/-- A cap beyond that lets a delay of 2⁶² ns wrap around. -/
example : ({ firstSnapshotTimeout := 0, reconnectInitial := 1, reconnectMax := 2 ^ 62 + 1 } :
    AgentClient).nextDelay (2 ^ 62) = -2 ^ 63 := by decide +kernel

end AgentClient

namespace Watch

/-- **What `backoff` holds** while the watch runs, and that a wait is as long. -/
structure Paced (c : AgentClient) (ended : ℕ) (w : Watch) : Prop where
  backoff : w.backoff.toInt = if ended = 0 then 0 else c.delayAfter (ended - 1)
  waits : ∀ delay, w.phase = .waiting delay → 0 < ended ∧ delay = w.backoff

theorem paced_step {c : AgentClient} (doubles : c.Doubles) {ended : ℕ} {w w' : Watch} {event : WatchEvent}
    (paced : (∃ err, w.phase = .stopped err) ∨ w.Paced c ended) (moved : w.step c event = some w') :
    (∃ err, w'.phase = .stopped err) ∨ w'.Paced c (endedAfter ended event) := by
  cases moves moved with
  | arrive | hangUp | fire | cancel | shutdown =>
    exact paced.imp_right fun paced => ⟨paced.backoff, paced.waits⟩
  | leave | abandon | giveUpWait => exact Or.inl ⟨_, rfl⟩
  | opened phase | openFailed _ phase | openCancelled phase | recvMessage phase | recvFailed phase
  | recvCancelled phase | forward phase | giveUpSend phase | reconnect phase =>
    refine Or.inr ⟨?_, by simp [fail]⟩
    rcases paced with ⟨err, stopped⟩ | paced
    · rw [phase] at stopped
      cases stopped
    · exact paced.backoff
  | stop => exact Or.inr ⟨rfl, by simp⟩
  | retry phase =>
    rcases paced with ⟨err, stopped⟩ | paced
    · rw [phase] at stopped
      cases stopped
    · have next : (c.nextDelay w.backoff).toInt = c.delayAfter ended := by
        cases ended with
        | zero =>
          rw [Int64.toInt_inj.mp (paced.backoff.trans Int64.toInt_zero.symm)]
          exact c.nextDelay_zero doubles
        | succ before => exact c.nextDelay_delayAfter doubles paced.backoff
      refine Or.inr ⟨next, fun delay waiting => ⟨Nat.succ_pos ended, ?_⟩⟩
      exact (Phase.waiting.inj waiting).symm

theorem paced_run {c : AgentClient} (doubles : c.Doubles) {events : List WatchEvent} {w : Watch}
    (run : Run (fun w event w' => w.step c event = some w') (start c) events w) :
    (∃ err, w.phase = .stopped err) ∨ w.Paced c (endedSince events) := by
  generalize begun : start c = first at run
  induction run with
  | nil =>
    subst begun
    exact Or.inr ⟨rfl, by simp [start]⟩
  | @snoc events _ event _ _ moved ih =>
    have later : endedSince (events ++ [event]) = endedAfter (endedSince events) event := by
      rw [endedSince, List.foldl_append]
      rfl
    rw [later]
    exact paced_step doubles ih moved

/-- **Reconnects are paced**: in every run, the wait before a reconnect is the initial delay, doubled once
for every earlier stream that has ended since the last message, up to the cap. -/
theorem reconnect_paced (c : AgentClient) (doubles : c.Doubles) {events : List WatchEvent} {w w' : Watch}
    (run : Run (fun w event w' => w.step c event = some w') (start c) events w)
    (reconnects : w.step c .reconnect = some w') :
    ∃ ended delay, endedSince events = ended + 1 ∧ w.phase = .waiting delay ∧
      delay.toInt = c.delayAfter ended := by
  cases moves reconnects with
  | @reconnect delay phase =>
    rcases paced_run doubles run with ⟨err, stopped⟩ | paced
    · rw [phase] at stopped
      cases stopped
    · obtain ⟨some, long⟩ := paced.waits delay phase
      obtain ⟨ended, count⟩ := Nat.exists_eq_succ_of_ne_zero some.ne'
      refine ⟨ended, delay, count, phase, ?_⟩
      rw [long, paced.backoff, if_neg some.ne', count]
      rfl

/-- Three streams that fail. -/
def flappingEvents : List WatchEvent :=
  [.openFailed (.status .unavailable), .classify, .reconnect,
    .openFailed (.status .unavailable), .classify, .reconnect,
    .openFailed (.status .unavailable), .classify]

/-- The third stream in a row that fails is followed by the delay doubled twice. -/
theorem flapping_paced :
    sampleClient.Doubles ∧ ∃ w w' : Watch,
      Run (fun w event w' => w.step sampleClient event = some w') (start sampleClient) flappingEvents w ∧
      w.step sampleClient .reconnect = some w' ∧ w.phase = .waiting 4 ∧
      sampleClient.delayAfter 2 = 4 := by
  have doubles : sampleClient.Doubles := ⟨by decide, by decide⟩
  have ran : ∃ w w' : Watch, flappingEvents.foldlM (fun w event => w.step sampleClient event)
      (start sampleClient) = some w ∧ w.step sampleClient .reconnect = some w' ∧ w.phase = .waiting 4 :=
    ⟨_, _, rfl, rfl, rfl⟩
  obtain ⟨w, w', ran, reconnects, phase⟩ := ran
  obtain ⟨ended, delay, count, waits, long⟩ :=
    reconnect_paced sampleClient doubles (run_of_foldlM ran) reconnects
  cases (Nat.succ.inj count : 2 = ended)
  cases phase.symm.trans waits
  exact ⟨doubles, w, w', run_of_foldlM ran, reconnects, phase, long.symm⟩

end Watch

end DraDriver.FabricManager
