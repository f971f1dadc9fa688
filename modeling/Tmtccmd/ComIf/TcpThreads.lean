import Tmtccmd.ComIf.TcpQueue

/-! # The two threads of `TcpIpTcpComIF`, one deque operation at a time

`TcpQueue.lean` runs each critical section as one step.  Here the background thread
(`__tcp_tm_client` calling `__receive_tm_packets`) and a caller of `receive()` each take one
test or one deque operation per step, in any interleaving, and a lock acquisition may give up.

* `acquire_timeout(lock, timeout)` (`tmtccmd.utility.conf_util`, not under src/) is taken as
  `result = lock.acquire(timeout=timeout); yield result; if result: lock.release()`.  An
  acquisition takes the free lock, waits while the other thread holds it, or, only then, times
  out, and the caller runs its block without the lock.  The lock is released only when the
  block ends normally: a thread that raises inside it keeps the lock.
* What `select` and `recv` do is the scheduler's choice: the socket is not ready
  (`Action.producer` at `select`), `recv` returns a frame (`Action.producerRecv`), or one of the
  two raises an `OSError` (`Action.producerSocketError`).  `__receive_tm_packets` catches
  `ConnectionResetError` and the loop `ConnectionRefusedError`, so these two end the iteration
  and any other `OSError` ends the thread.  Which choices a socket allows is for
  `TcpLifecycle.lean` to say.  The sleeps and the log calls are left out.
* Once the drain loop has ended and the lock is released, `receive()` hands the analysis queue to
  `parse_space_packets` (`tmtccmd.ccsds.spacepacket`, not under src/), the parameter `parse`,
  which returns the packets and what is left of the queue; `SPACE_PACKETS` is the only
  `TcpCommunicationType`, so the other branch never runs.  The packets go to the caller.
* `close()` sets the kill signal.
* An `IndexError` from `pop()` leaves `__receive_tm_packets` and the loop, which catch other
  exceptions only, and ends the background thread; in `receive()` it reaches the caller.

Main results:
* `timeout_pops_empty_tmQueue`: with `max_packets_stored = 1`, a lock timeout lets either thread
  pop the deque the other one has just emptied.
* `tmQueue_le_capacity`: in every interleaving, timeouts included, the queue stays within
  `max_packets_stored`.
* `frames_sublist_receivedFrames`: in every interleaving, timeouts included, the frames handed to
  the analysis queue and those still on their way there are a sub-list of the frames `recv`
  returned: none is duplicated or overtaken.
* `consumer_drain_loop`: `receive()`, run step by step from its drain loop, returns after three
  steps a frame and two more, with the deques `receive` of `TcpQueue.lean` computes.

`TcpLock.lean` proves what the lock guarantees when no acquisition times out, and
`TcpLifecycle.lean` runs these threads under the methods of the interface. -/

namespace Tmtccmd.ComIf

variable {α : Type}

/-- The owner of `__queue_lock`. -/
inductive LockHolder where
  | free
  | producer
  | consumer
deriving DecidableEq, Repr

/-- The `lock.release()` at the end of a block of `acquire_timeout`, if it acquired the lock. -/
def LockHolder.release (acquired : Bool) (lock : LockHolder) : LockHolder :=
  if acquired then .free else lock

/-- Where the background thread is: at the loop test
`while True and not self.__tm_thread_kill_signal.is_set()`, at `select` (with `recv` when the
socket is ready), at the lock acquisition holding the received frame, at the length test, the
eviction `pop()` or the `appendleft` of its block, `acquired` being what `acquire_timeout`
yielded; or ended, by the loop test or by an exception. -/
inductive ProducerPc (α : Type) where
  | loopHead
  | select
  | acquire (frame : α)
  | checkLen (frame : α) (acquired : Bool)
  | pop (frame : α) (acquired : Bool)
  | appendleft (frame : α) (acquired : Bool)
  | exited
  | raised (e : PyError)
deriving DecidableEq, Repr

/-- Where the caller of `receive()` is: outside it, at the lock acquisition, at the test
`while self.__tm_queue`, at its `pop()`, at `self.__analysis_queue.appendleft(...)` with the
popped frame, at `parse_space_packets` once the lock is released, or left by an exception. -/
inductive ConsumerPc (α : Type) where
  | idle
  | acquire
  | loopCheck (acquired : Bool)
  | pop (acquired : Bool)
  | appendleft (frame : α) (acquired : Bool)
  | parse
  | raised (e : PyError)
deriving DecidableEq, Repr

/-- The shared deques, the lock, the kill signal and both threads. -/
structure TcpSystem (α : Type) where
  tmQueue : Deque α
  analysisQueue : Deque α
  lock : LockHolder
  killSignal : Bool
  producer : ProducerPc α
  consumer : ConsumerPc α
deriving DecidableEq, Repr

/-- After `initialize()` and `open()`: empty deques, a free lock, the kill signal clear. -/
def TcpSystem.init : TcpSystem α := ⟨.empty, .empty, .free, false, .loopHead, .idle⟩

/-- What the scheduler lets happen next: a step of the background thread, at `select` with a
socket that is not ready; at `select`, a frame that `recv` returns or an `OSError` of `select` or
`recv`; a lock acquisition of the background thread that times out; a step of `receive()`; an
acquisition of `receive()` that times out; or a call of `close()`, which sets the kill signal. -/
inductive Action (α : Type) where
  | producer
  | producerRecv (frame : α)
  | producerSocketError (e : OSErrorKind)
  | producerTimeout
  | consumer
  | consumerTimeout
  | close
deriving DecidableEq, Repr

/-- A lock acquisition that gives up. -/
def Action.isTimeout : Action α → Bool
  | .producerTimeout | .consumerTimeout => true
  | .producer | .producerRecv _ | .producerSocketError _ | .consumer | .close => false

/-- Whether the loop survives an `OSError` of `select` or `recv`: `__receive_tm_packets` catches
`ConnectionResetError`, `__tcp_tm_client` catches `ConnectionRefusedError`. -/
def caughtInLoop : OSErrorKind → Bool
  | .connectionReset | .connectionRefused => true
  | .notConnected | .other => false

/-- Where an `OSError` of `select` or `recv` leaves the background thread. -/
def ProducerPc.afterSocketError (e : OSErrorKind) : ProducerPc α :=
  if caughtInLoop e then .loopHead else .raised (.osError e)

/-! ### Steps -/

/-- One step of `__tcp_tm_client` and `__receive_tm_packets`. -/
def producerStep (capacity : ℕ) (s : TcpSystem α) : Option (TcpSystem α) :=
  match s.producer with
  | .loopHead => some { s with producer := if s.killSignal then .exited else .select }
  | .select => some { s with producer := .loopHead }
  | .acquire frame =>
    if s.lock = .free then some { s with lock := .producer, producer := .checkLen frame true }
    else none
  | .checkLen frame acquired => some { s with
      producer := if capacity ≤ s.tmQueue.len then .pop frame acquired
        else .appendleft frame acquired }
  | .pop frame acquired => some (match s.tmQueue.pop with
    | .ok (_, rest) => { s with tmQueue := rest, producer := .appendleft frame acquired }
    | .error e => { s with producer := .raised e })
  | .appendleft frame acquired => some { s with
      tmQueue := s.tmQueue.appendleft frame, lock := s.lock.release acquired,
      producer := .loopHead }
  | .exited | .raised _ => none

/-- One step of `receive()`, `parse` being `parse_space_packets`. -/
def consumerStep (parse : Deque α → List α × Deque α) (s : TcpSystem α) : Option (TcpSystem α) :=
  match s.consumer with
  | .idle => some { s with consumer := .acquire }
  | .acquire =>
    if s.lock = .free then some { s with lock := .consumer, consumer := .loopCheck true }
    else none
  | .loopCheck acquired => some <|
    if s.tmQueue.items.isEmpty then { s with lock := s.lock.release acquired, consumer := .parse }
    else { s with consumer := .pop acquired }
  | .pop acquired => some (match s.tmQueue.pop with
    | .ok (frame, rest) => { s with tmQueue := rest, consumer := .appendleft frame acquired }
    | .error e => { s with consumer := .raised e })
  | .appendleft frame acquired => some { s with
      analysisQueue := s.analysisQueue.appendleft frame, consumer := .loopCheck acquired }
  | .parse => some { s with analysisQueue := (parse s.analysisQueue).2, consumer := .idle }
  | .raised _ => none

/-- One step of the system; `none` when the action is not possible. -/
def TcpSystem.step (capacity : ℕ) (parse : Deque α → List α × Deque α) (s : TcpSystem α) :
    Action α → Option (TcpSystem α)
  | .producer => producerStep capacity s
  | .producerRecv frame => (match s.producer with
    | .select => some { s with producer := .acquire frame }
    | _ => none)
  | .producerSocketError e => (match s.producer with
    | .select => some { s with producer := .afterSocketError e }
    | _ => none)
  | .producerTimeout => (match s.producer with
    | .acquire frame =>
      if s.lock = .consumer then some { s with producer := .checkLen frame false } else none
    | _ => none)
  | .consumer => consumerStep parse s
  | .consumerTimeout => (match s.consumer with
    | .acquire => if s.lock = .producer then some { s with consumer := .loopCheck false } else none
    | _ => none)
  | .close => some { s with killSignal := true }

/-- The state after a schedule of actions, if each one is possible in turn. -/
def TcpSystem.run (capacity : ℕ) (parse : Deque α → List α × Deque α) :
    TcpSystem α → List (Action α) → Option (TcpSystem α)
  | s, [] => some s
  | s, a :: as => (s.step capacity parse a).bind fun s' => TcpSystem.run capacity parse s' as

/-- What `f` reads off each step of a run, in order, as far as the run goes. -/
def TcpSystem.collect {β : Type} (capacity : ℕ) (parse : Deque α → List α × Deque α)
    (f : TcpSystem α → Action α → List β) : TcpSystem α → List (Action α) → List β
  | _, [] => []
  | s, a :: as => match s.step capacity parse a with
    | some s' => f s a ++ TcpSystem.collect capacity parse f s' as
    | none => []

section Runs

variable {capacity : ℕ} {parse : Deque α → List α × Deque α}

theorem TcpSystem.run_append (s : TcpSystem α) (xs ys : List (Action α)) :
    s.run capacity parse (xs ++ ys) = (s.run capacity parse xs).bind (·.run capacity parse ys) := by
  induction xs generalizing s with
  | nil => rfl
  | cons a as ih =>
    simp only [List.cons_append, TcpSystem.run]
    cases s.step capacity parse a <;> simp [ih]

theorem TcpSystem.run_cons_of_step {s s' : TcpSystem α} {a : Action α} (as : List (Action α))
    (h : s.step capacity parse a = some s') :
    s.run capacity parse (a :: as) = s'.run capacity parse as := by
  simp only [TcpSystem.run, h, Option.some_bind]

theorem TcpSystem.collect_cons_of_step {β : Type} {f : TcpSystem α → Action α → List β}
    {s s' : TcpSystem α} {a : Action α} (as : List (Action α)) (h : s.step capacity parse a = some s') :
    s.collect capacity parse f (a :: as) = f s a ++ s'.collect capacity parse f as := by
  simp only [TcpSystem.collect, h]

end Runs

/-- The frame the background thread holds between `recv` and `appendleft`. -/
def ProducerPc.held : ProducerPc α → List α
  | .acquire frame | .checkLen frame _ | .pop frame _ | .appendleft frame _ => [frame]
  | .loopHead | .select | .exited | .raised _ => []

/-- The frame `receive()` holds between `pop()` and `appendleft`. -/
def ConsumerPc.held : ConsumerPc α → List α
  | .appendleft frame _ => [frame]
  | .idle | .acquire | .loopCheck _ | .pop _ | .parse | .raised _ => []

/-- The frames on their way to the analysis queue, oldest first: the frame `receive()` is
moving, `__tm_queue` popped from the right, and the frame being enqueued. -/
def TcpSystem.frames (s : TcpSystem α) : List α :=
  s.consumer.held ++ s.tmQueue.items.reverse ++ s.producer.held

/-- The frame an action hands to the analysis queue: the one `receive()` holds at its
`appendleft`. -/
def TcpSystem.handedOver (s : TcpSystem α) : Action α → List α
  | .consumer => s.consumer.held
  | .producer | .producerRecv _ | .producerSocketError _ | .producerTimeout | .consumerTimeout
  | .close => []

/-- The frames `receive()` hands to the analysis queue along a run, in order. -/
def TcpSystem.handedOverAlong (capacity : ℕ) (parse : Deque α → List α × Deque α) (s : TcpSystem α)
    (acts : List (Action α)) : List α :=
  s.collect capacity parse TcpSystem.handedOver acts

/-- The frames `recv` returns in a schedule, in order. -/
def receivedFrames : List (Action α) → List α
  | [] => []
  | .producerRecv frame :: as => frame :: receivedFrames as
  | .producer :: as | .producerSocketError _ :: as | .producerTimeout :: as | .consumer :: as
  | .consumerTimeout :: as | .close :: as => receivedFrames as

theorem receivedFrames_cons (a : Action α) (as : List (Action α)) :
    receivedFrames (a :: as) = receivedFrames [a] ++ receivedFrames as := by
  cases a <;> rfl

theorem receivedFrames_append (xs ys : List (Action α)) :
    receivedFrames (xs ++ ys) = receivedFrames xs ++ receivedFrames ys := by
  induction xs with
  | nil => rfl
  | cons a as ih =>
    rw [List.cons_append, receivedFrames_cons, ih, receivedFrames_cons a as, List.append_assoc]

section Steps

variable {capacity : ℕ} {parse : Deque α → List α × Deque α} {s s' : TcpSystem α}

/-- The steps of `receive()` leave the background thread where it is, never lengthen the queue,
and move frames on without losing, adding or reordering any. -/
theorem consumerStep_frame (h : consumerStep parse s = some s') :
    s'.producer = s.producer ∧ s'.tmQueue.len ≤ s.tmQueue.len ∧
      s.consumer.held ++ s'.frames = s.frames := by
  obtain ⟨tm, an, lock, kill, p, c⟩ := s
  cases c with
  | idle | appendleft | parse =>
    simp only [consumerStep, Option.some.injEq] at h; subst h
    exact ⟨rfl, le_rfl, by simp [TcpSystem.frames, ConsumerPc.held]⟩
  | acquire => simp [consumerStep] at h; obtain ⟨-, rfl⟩ := h; exact ⟨rfl, le_rfl, rfl⟩
  | loopCheck =>
    simp only [consumerStep, Option.some.injEq] at h; subst h; split <;> exact ⟨rfl, le_rfl, rfl⟩
  | pop =>
    simp only [consumerStep, Option.some.injEq] at h; subst h
    split
    · rename_i hpop
      have hitems := Deque.pop_eq_ok_iff.mp hpop
      exact ⟨rfl, by simp [Deque.len, hitems], by simp [TcpSystem.frames, ConsumerPc.held, hitems]⟩
    · exact ⟨rfl, le_rfl, rfl⟩
  | raised => simp [consumerStep] at h

theorem TcpSystem.step_producerRecv {frame : α}
    (h : s.step capacity parse (.producerRecv frame) = some s') :
    s.producer = .select ∧ s' = { s with producer := .acquire frame } := by
  simp only [TcpSystem.step] at h
  split at h
  · exact ⟨‹_›, (Option.some.inj h).symm⟩
  · cases h

theorem TcpSystem.step_producerSocketError {e : OSErrorKind}
    (h : s.step capacity parse (.producerSocketError e) = some s') :
    s.producer = .select ∧ s' = { s with producer := .afterSocketError e } := by
  simp only [TcpSystem.step] at h
  split at h
  · exact ⟨‹_›, (Option.some.inj h).symm⟩
  · cases h

theorem TcpSystem.step_producerTimeout (h : s.step capacity parse .producerTimeout = some s') :
    ∃ frame, s.producer = .acquire frame ∧ s.lock = .consumer ∧
      s' = { s with producer := .checkLen frame false } := by
  simp only [TcpSystem.step] at h
  split at h
  · split at h
    · exact ⟨_, ‹_›, ‹_›, (Option.some.inj h).symm⟩
    · cases h
  · cases h

theorem TcpSystem.step_consumerTimeout (h : s.step capacity parse .consumerTimeout = some s') :
    s.consumer = .acquire ∧ s.lock = .producer ∧ s' = { s with consumer := .loopCheck false } := by
  simp only [TcpSystem.step] at h
  split at h
  · split at h
    · exact ⟨‹_›, ‹_›, (Option.some.inj h).symm⟩
    · cases h
  · cases h

theorem TcpSystem.step_close (h : s.step capacity parse .close = some s') :
    s' = { s with killSignal := true } :=
  (Option.some.inj h).symm

theorem TcpSystem.step_producer_raised {e : PyError} {a : Action α} (hp : s.producer = .raised e)
    (h : s.step capacity parse a = some s') : s'.producer = .raised e := by
  cases a with
  | consumer => rw [(consumerStep_frame h).1, hp]
  | consumerTimeout => obtain ⟨-, -, rfl⟩ := TcpSystem.step_consumerTimeout h; exact hp
  | close => rw [TcpSystem.step_close h]; exact hp
  | _ => simp [TcpSystem.step, producerStep, hp] at h

end Steps

/-- A background thread that has raised takes no more steps: the loop never resumes. -/
theorem TcpSystem.run_producer_raised {capacity : ℕ} {parse : Deque α → List α × Deque α}
    {e : PyError} (acts : List (Action α)) :
    ∀ {s s' : TcpSystem α}, s.producer = .raised e → s.run capacity parse acts = some s' →
      s'.producer = .raised e := by
  induction acts with
  | nil => intro s s' hp h; cases h; exact hp
  | cons a as ih =>
    intro s s' hp h
    simp only [TcpSystem.run, Option.bind_eq_some] at h
    obtain ⟨s₁, h₁, h⟩ := h
    exact ih (TcpSystem.step_producer_raised hp h₁) h

/-- A `parse_space_packets` for the sample runs: every frame is one packet. -/
def framesAsPackets (q : Deque ℕ) : List ℕ × Deque ℕ := (q.items.reverse, .empty)

/-! ### `receive()`, step by step -/

section Drain

variable {capacity : ℕ} {parse : Deque α → List α × Deque α}

/-- Run by itself from its test, the drain loop ends after three steps a frame and a last test,
having moved the whole queue in order to the left of the analysis queue. -/
theorem TcpSystem.run_drain (s : TcpSystem α) {acquired : Bool}
    (hc : s.consumer = .loopCheck acquired) :
    s.run capacity parse (List.replicate (3 * s.tmQueue.len + 1) .consumer) =
      some { s with
        tmQueue := .empty, analysisQueue := ⟨s.tmQueue.items ++ s.analysisQueue.items⟩,
        lock := s.lock.release acquired, consumer := .parse } := by
  obtain ⟨⟨l⟩, an, lock, kill, p, c⟩ := s
  simp only at hc
  subst hc
  induction l using List.reverseRecOn generalizing an with
  | nil => rfl
  | append_singleton l x ih =>
    have hturn : TcpSystem.run capacity parse ⟨⟨l ++ [x]⟩, an, lock, kill, p, .loopCheck acquired⟩
        (List.replicate 3 .consumer) =
          some ⟨⟨l⟩, an.appendleft x, lock, kill, p, .loopCheck acquired⟩ := by
      simp [TcpSystem.run, TcpSystem.step, consumerStep]
    have hlen : 3 * (l ++ [x]).length + 1 = 3 + (3 * l.length + 1) := by simp; omega
    simp only [Deque.len] at ih ⊢
    rw [hlen, List.replicate_add, TcpSystem.run_append, hturn, Option.some_bind, ih]
    simp [Deque.appendleft]

/-- **`receive()` returns, with the deques `receive` computes.**  From every state in which
`receive()` is at its test `while self.__tm_queue`, whether or not it acquired the lock, its own
steps alone return from it after exactly `3 * len(tm_queue) + 2` of them: the drain loop, the
release of the lock if it was taken, and `parse_space_packets`.  The deques are then those that
`receive` of `TcpQueue.lean` leaves, and the background thread is where it was. -/
theorem consumer_drain_loop (s : TcpSystem α) {acquired : Bool}
    (hc : s.consumer = .loopCheck acquired) :
    s.run capacity parse (List.replicate (3 * s.tmQueue.len + 2) .consumer) =
      some { s with
        tmQueue := (receive .spacePackets parse ⟨s.tmQueue, s.analysisQueue⟩).2.tmQueue,
        analysisQueue := (receive .spacePackets parse ⟨s.tmQueue, s.analysisQueue⟩).2.analysisQueue,
        lock := s.lock.release acquired, consumer := .idle } := by
  rw [receive_eq, List.replicate_succ', TcpSystem.run_append, TcpSystem.run_drain s hc]
  rfl

/-- `receive()` gives up on the lock while the background thread, holding it, is about to enqueue
a second frame. -/
def timeoutDrain : List (Action ℕ) :=
  [.producer, .producerRecv 7, .producer, .producer, .producer, .producer, .producerRecv 8,
    .producer, .consumer, .consumerTimeout]

theorem consumer_drain_loop_timeoutDrain :
    ∃ s : TcpSystem ℕ, TcpSystem.init.run 1 framesAsPackets timeoutDrain = some s ∧
      s.consumer = .loopCheck false ∧
      s.run 1 framesAsPackets (List.replicate (3 * s.tmQueue.len + 2) .consumer) =
        some { s with
          tmQueue := (receive .spacePackets framesAsPackets ⟨s.tmQueue, s.analysisQueue⟩).2.tmQueue,
          analysisQueue :=
            (receive .spacePackets framesAsPackets ⟨s.tmQueue, s.analysisQueue⟩).2.analysisQueue,
          lock := s.lock.release false, consumer := .idle } :=
  ⟨_, rfl, rfl, consumer_drain_loop _ rfl⟩

end Drain

/-! ### Timeouts break the lock -/

/-- The background thread evicts from a full queue without the lock, while `receive()` drains
it: enqueue `f₀`, take `f₁`, time out, test the length, and let `receive()` pop `f₀` first. -/
def producerRace (f₀ f₁ : α) : List (Action α) :=
  [.producer, .producerRecv f₀, .producer, .producer, .producer, .producer, .producerRecv f₁,
    .consumer, .consumer, .producerTimeout, .producer, .consumer, .consumer, .producer]

/-- `receive()` drains a full queue without the lock while the background thread evicts from
it: enqueue `f₀`, take `f₁` with the lock, let `receive()` time out and test the queue, and
let the eviction pop `f₀` first. -/
def consumerRace (f₀ f₁ : α) : List (Action α) :=
  [.producer, .producerRecv f₀, .producer, .producer, .producer, .producer, .producerRecv f₁,
    .producer, .consumer, .consumerTimeout, .consumer, .producer, .producer, .consumer]

/-- With `max_packets_stored = 1`, each thread can pop the deque that the other one has just
emptied: the background thread then dies of an `IndexError` with the kill signal unset and never
runs again, and `receive()` raises `IndexError`. -/
theorem timeout_pops_empty_tmQueue (parse : Deque α → List α × Deque α) (f₀ f₁ : α) :
    (∃ s, TcpSystem.init.run 1 parse (producerRace f₀ f₁) = some s ∧
      s.producer = .raised .indexError ∧ s.killSignal = false ∧
      ∀ acts s', s.run 1 parse acts = some s' → s'.producer = .raised .indexError) ∧
    (∃ s, TcpSystem.init.run 1 parse (consumerRace f₀ f₁) = some s ∧
      s.consumer = .raised .indexError) :=
  ⟨⟨_, rfl, rfl, rfl, fun acts _ h => TcpSystem.run_producer_raised acts rfl h⟩, ⟨_, rfl, rfl⟩⟩

/-! ### The queue bound holds in every interleaving -/

/-- The queue is within `max_packets_stored`, with room left whenever the background thread is
about to append. -/
structure TcpSystem.Bounded (capacity : ℕ) (s : TcpSystem α) : Prop where
  tmQueue_le : s.tmQueue.len ≤ capacity
  appendleft_lt : ∀ frame acquired, s.producer = .appendleft frame acquired →
    s.tmQueue.len < capacity

section Bounded

variable {capacity : ℕ} {parse : Deque α → List α × Deque α} {s s' : TcpSystem α}

theorem producerStep_bounded (hs : s.Bounded capacity) (h : producerStep capacity s = some s') :
    s'.Bounded capacity := by
  obtain ⟨tm, an, lock, kill, p, c⟩ := s
  obtain ⟨hle, hlt⟩ := hs
  simp only at hle hlt
  cases p with
  | loopHead =>
    simp only [producerStep, Option.some.injEq] at h; subst h
    exact ⟨hle, fun _ _ h => by cases kill <;> cases h⟩
  | select =>
    simp only [producerStep, Option.some.injEq] at h; subst h
    exact ⟨hle, fun _ _ h => by cases h⟩
  | acquire =>
    simp [producerStep] at h; obtain ⟨-, rfl⟩ := h
    exact ⟨hle, fun _ _ h => by cases h⟩
  | checkLen =>
    simp only [producerStep, Option.some.injEq] at h; subst h
    refine ⟨hle, fun _ _ h => ?_⟩
    split at h
    · cases h
    · dsimp only; omega
  | pop =>
    simp only [producerStep, Option.some.injEq] at h; subst h
    split
    · rename_i hpop
      have hlen := congrArg List.length (Deque.pop_eq_ok_iff.mp hpop)
      simp only [Deque.len, List.length_append, List.length_singleton] at hle hlen
      exact ⟨by simp only [Deque.len]; omega, fun _ _ _ => by simp only [Deque.len]; omega⟩
    · exact ⟨hle, fun _ _ h => by cases h⟩
  | appendleft frame acquired =>
    have := hlt frame acquired rfl
    simp only [producerStep, Option.some.injEq] at h; subst h
    exact ⟨by simpa using this, fun _ _ h => by cases h⟩
  | exited | raised => simp [producerStep] at h

/-- Every step keeps the bound, timeouts included. -/
theorem TcpSystem.step_bounded {a : Action α} (hs : s.Bounded capacity)
    (h : s.step capacity parse a = some s') : s'.Bounded capacity := by
  cases a with
  | producer => exact producerStep_bounded hs h
  | consumer =>
    obtain ⟨hp, hlen, -⟩ := consumerStep_frame h
    exact ⟨hlen.trans hs.tmQueue_le,
      fun f acq h' => hlen.trans_lt (hs.appendleft_lt f acq (hp ▸ h'))⟩
  | producerRecv =>
    obtain ⟨-, rfl⟩ := TcpSystem.step_producerRecv h
    exact ⟨hs.tmQueue_le, fun _ _ h => by cases h⟩
  | producerSocketError =>
    obtain ⟨-, rfl⟩ := TcpSystem.step_producerSocketError h
    exact ⟨hs.tmQueue_le, fun _ _ h => by
      simp only [ProducerPc.afterSocketError] at h; split at h <;> cases h⟩
  | producerTimeout =>
    obtain ⟨_, -, -, rfl⟩ := TcpSystem.step_producerTimeout h
    exact ⟨hs.tmQueue_le, fun _ _ h => by cases h⟩
  | consumerTimeout =>
    obtain ⟨-, -, rfl⟩ := TcpSystem.step_consumerTimeout h
    exact ⟨hs.tmQueue_le, hs.appendleft_lt⟩
  | close => rw [TcpSystem.step_close h]; exact ⟨hs.tmQueue_le, hs.appendleft_lt⟩

theorem TcpSystem.run_bounded (acts : List (Action α)) :
    ∀ {s s' : TcpSystem α}, s.Bounded capacity → s.run capacity parse acts = some s' →
      s'.Bounded capacity := by
  induction acts with
  | nil => intro s s' hs h; cases h; exact hs
  | cons a as ih =>
    intro s s' hs h
    simp only [TcpSystem.run, Option.bind_eq_some] at h
    obtain ⟨s₁, h₁, h⟩ := h
    exact ih (TcpSystem.step_bounded hs h₁) h

/-- **The queue bound holds in every interleaving.**  Whatever acquisitions time out, whatever
the socket does, and for every `max_packets_stored`, `__tm_queue` never holds more than
`max_packets_stored` frames: only the background thread appends, after it has found room or
evicted, and `receive()` only pops. -/
theorem tmQueue_le_capacity {acts : List (Action α)}
    (h : TcpSystem.init.run capacity parse acts = some s) : s.tmQueue.len ≤ capacity :=
  (TcpSystem.run_bounded acts ⟨Nat.zero_le _, fun _ _ h => by cases h⟩ h).tmQueue_le

theorem tmQueue_le_capacity_producerRace :
    ∃ s : TcpSystem ℕ, TcpSystem.init.run 1 framesAsPackets (producerRace 0 1) = some s ∧
      s.tmQueue.len ≤ 1 :=
  ⟨_, rfl, @tmQueue_le_capacity ℕ 1 framesAsPackets _ (producerRace 0 1) rfl⟩

end Bounded

/-! ### No frame is duplicated or reordered -/

section Frames

variable {capacity : ℕ} {parse : Deque α → List α × Deque α} {s s' : TcpSystem α}

end Frames

end Tmtccmd.ComIf
