import Tmtccmd.ComIf.TcpThreads

/-! # What the queue lock of `TcpIpTcpComIF` guarantees without timeouts

Over the thread model of `TcpThreads.lean`, for the runs in which every acquisition of
`__queue_lock` succeeds:

* `TcpSystem.Safe` says what each thread's position tells: inside its block a thread holds the
  lock, the background thread evicts only from a full queue and appends only to one with room,
  `receive()` pops only a non-empty queue, and the background thread has ended only at its loop
  test after the kill signal or by an `OSError` that its handlers do not catch.  Every step keeps
  it (`TcpSystem.step_safe`).
* `TcpSystem.event` is the critical section an action starts, if it is a lock acquisition, and
  `TcpSystem.schedule` lists them along a run, in the order the threads start them.
* `TcpSystem.settle` runs the block in progress to its end.  Given the frames `receive()` has
  handed to the analysis queue, it is the state of the atomic model of `TcpQueue.lean` that a
  state of the threads stands for, and each step runs on it the critical section the step starts,
  if any (`TcpSystem.step_settle`).

Main results:
* `run_safe`: no `pop()` meets an empty deque, `receive()` never raises, the queue stays within
  `max_packets_stored`, and the loop ends only at its test after the kill signal or by an
  uncaught `OSError` of the socket.
* `run_refines_queues`: the threads run the atomic model on their own schedule, whose frames are
  those `recv` returned; `__tm_queue` is the atomic one once the block in progress ends, and the
  frames handed over are those of the atomic analysis queue, so the guarantees of
  `tmQueue_run_invariants` hold of the threads.
* `lock_released`: the holder of the lock releases it within `3 * max_packets_stored + 2` steps of
  its own, so no thread waits for the lock without bound.
* `dataAvailable_stays_true`: for `max_packets_stored ≥ 2`, `data_available()` needs no lock: once
  it answers `True` it does so until `receive()` runs. -/

namespace Tmtccmd.ComIf

variable {α : Type}

/-- What the background thread's position says of a run without timeouts: inside the block it
holds the lock, it evicts only from a full queue and appends only to one with room left;
outside the block it does not hold the lock; it has exited only after the kill signal, and
raised only an `OSError` of the socket that the loop does not catch. -/
def ProducerPc.Safe (capacity : ℕ) (lock : LockHolder) (tmQueue : Deque α) (killSignal : Bool) :
    ProducerPc α → Prop
  | .loopHead | .select | .acquire _ => lock ≠ .producer
  | .checkLen _ acquired => acquired = true ∧ lock = .producer
  | .pop _ acquired => acquired = true ∧ lock = .producer ∧ tmQueue.len = capacity
  | .appendleft _ acquired => acquired = true ∧ lock = .producer ∧ tmQueue.len < capacity
  | .exited => killSignal = true ∧ lock ≠ .producer
  | .raised e => (∃ k, e = .osError k ∧ caughtInLoop k = false) ∧ lock ≠ .producer

/-- What the position of `receive()` says of a run without timeouts: inside the block it holds
the lock and pops only a non-empty queue; outside it does not hold the lock; it never raises. -/
def ConsumerPc.Safe (lock : LockHolder) (tmQueue : Deque α) : ConsumerPc α → Prop
  | .idle | .acquire | .parse => lock ≠ .consumer
  | .loopCheck acquired | .appendleft _ acquired => acquired = true ∧ lock = .consumer
  | .pop acquired => acquired = true ∧ lock = .consumer ∧ tmQueue.items ≠ []
  | .raised _ => False

/-- The invariant of the runs without timeouts. -/
structure TcpSystem.Safe (capacity : ℕ) (s : TcpSystem α) : Prop where
  tmQueue_le : s.tmQueue.len ≤ capacity
  producer : s.producer.Safe capacity s.lock s.tmQueue s.killSignal
  consumer : s.consumer.Safe s.lock s.tmQueue

section Safe

variable {capacity : ℕ} {lock lock' : LockHolder} {tm tm' : Deque α} {killSignal : Bool}

theorem ProducerPc.Safe.of_lock_ne {p : ProducerPc α} (h : p.Safe capacity lock tm killSignal)
    (hl : lock ≠ .producer) (hl' : lock' ≠ .producer) : p.Safe capacity lock' tm' killSignal := by
  cases p <;> simp_all [ProducerPc.Safe]

theorem ConsumerPc.Safe.of_lock_ne {c : ConsumerPc α} (h : c.Safe lock tm)
    (hl : lock ≠ .consumer) (hl' : lock' ≠ .consumer) : c.Safe lock' tm' := by
  cases c <;> simp_all [ConsumerPc.Safe]

theorem ProducerPc.Safe.close {p : ProducerPc α} (h : p.Safe capacity lock tm killSignal) :
    p.Safe capacity lock tm true := by
  cases p <;> simp_all [ProducerPc.Safe]

theorem ProducerPc.safe_afterSocketError {e : OSErrorKind} (hl : lock ≠ .producer) :
    (ProducerPc.afterSocketError e : ProducerPc α).Safe capacity lock tm killSignal := by
  unfold ProducerPc.afterSocketError
  split
  · exact hl
  · exact ⟨⟨e, rfl, Bool.eq_false_iff.mpr ‹_›⟩, hl⟩

theorem TcpSystem.safe_init : (TcpSystem.init : TcpSystem α).Safe capacity :=
  ⟨Nat.zero_le _, LockHolder.noConfusion, LockHolder.noConfusion⟩

end Safe

/-! ### The atomic model a state stands for -/

/-- What is left of the block of `__receive_tm_packets`, run on the queue. -/
def ProducerPc.rest (capacity : ℕ) : ProducerPc α → Deque α → Except PyError (Deque α)
  | .checkLen frame _, q => enqueueFrame capacity frame q
  | .pop frame _, q => (fun r => r.2.appendleft frame) <$> q.pop
  | .appendleft frame _, q => .ok (q.appendleft frame)
  | .loopHead, q | .select, q | .acquire _, q | .exited, q | .raised _, q => .ok q

/-- What is left of the drain loop of `receive()`, run on the queue: the queue it leaves, and the
frames it still hands over, oldest first. -/
def ConsumerPc.rest : ConsumerPc α → Deque α → Deque α × List α
  | .loopCheck _, q | .pop _, q => (.empty, q.items.reverse)
  | .appendleft frame _, q => (.empty, frame :: q.items.reverse)
  | .idle, q | .acquire, q | .parse, q | .raised _, q => (q, [])

/-- **The atomic deques a state of the threads stands for**, `handed` being the frames
`receive()` has handed to the analysis queue: `__tm_queue` once the block in progress has ended,
and an analysis queue that gives back, popped from the right, every frame handed over by then, as
if `parse_space_packets` had consumed none. -/
def TcpSystem.settle (capacity : ℕ) (handed : List α) (s : TcpSystem α) :
    Except PyError (TcpQueues α) := do
  let tmQueue ← s.producer.rest capacity s.tmQueue
  let (tmQueue, pending) := s.consumer.rest tmQueue
  pure ⟨tmQueue, ⟨(handed ++ pending).reverse⟩⟩

/-- The critical section an action starts: a lock acquisition, whether it takes the lock or
gives up on it, starts the block of its thread. -/
def TcpSystem.event (s : TcpSystem α) : Action α → List (QueueEvent α)
  | .producer | .producerTimeout => match s.producer with
    | .acquire frame => [.receiveTmPackets frame]
    | _ => []
  | .consumer | .consumerTimeout => match s.consumer with
    | .acquire => [.receive]
    | _ => []
  | .producerRecv _ | .producerSocketError _ | .close => []

/-- The critical sections a run starts, in order. -/
def TcpSystem.schedule (capacity : ℕ) (parse : Deque α → List α × Deque α) (s : TcpSystem α)
    (acts : List (Action α)) : List (QueueEvent α) :=
  s.collect capacity parse TcpSystem.event acts

theorem bind_runQueues_nil {capacity : ℕ} (x : Except PyError (TcpQueues α)) :
    x >>= (runQueues capacity · []) = x := by
  cases x <;> rfl

/-! ### One step -/

section Step

variable {capacity : ℕ} {parse : Deque α → List α × Deque α} {lock : LockHolder} {tm : Deque α}
  {killSignal : Bool}

theorem ProducerPc.Safe.rest {p : ProducerPc α} (h : p.Safe capacity lock tm killSignal)
    (hl : lock ≠ .producer) (q : Deque α) : p.rest capacity q = .ok q := by
  cases p <;> simp_all [ProducerPc.Safe, ProducerPc.rest]

theorem ConsumerPc.Safe.rest {c : ConsumerPc α} (h : c.Safe lock tm) (hl : lock ≠ .consumer)
    (q : Deque α) : c.rest q = (q, []) := by
  cases c <;> simp_all [ConsumerPc.Safe, ConsumerPc.rest]

variable {s s' : TcpSystem α}

theorem producerStep_safe (hcap : 1 ≤ capacity) (hs : s.Safe capacity)
    (h : producerStep capacity s = some s') : s'.Safe capacity := by
  obtain ⟨tm, an, lock, kill, p, c⟩ := s
  obtain ⟨hle, hp, hc⟩ := hs
  simp only at hle hp hc
  cases p with
  | loopHead =>
    simp only [producerStep, Option.some.injEq] at h; subst h
    cases kill
    · exact ⟨hle, hp, hc⟩
    · exact ⟨hle, ⟨rfl, hp⟩, hc⟩
  | select => simp only [producerStep, Option.some.injEq] at h; subst h; exact ⟨hle, hp, hc⟩
  | acquire frame =>
    simp only [producerStep] at h
    split at h
    · rename_i hfree
      simp only [Option.some.injEq] at h; subst h hfree
      exact ⟨hle, ⟨rfl, rfl⟩, hc.of_lock_ne (by decide) (by simp)⟩
    · cases h
  | checkLen frame acquired =>
    obtain ⟨rfl, rfl⟩ := hp
    simp only [producerStep, Option.some.injEq] at h; subst h
    split <;> exact ⟨hle, ⟨rfl, rfl, by dsimp only; omega⟩, hc⟩
  | pop frame acquired =>
    obtain ⟨rfl, rfl, hlen⟩ := hp
    have hne : tm.items ≠ [] := List.ne_nil_of_length_pos (by simp only [Deque.len] at hlen; omega)
    simp only [producerStep, Deque.pop_of_ne_nil hne, Option.some.injEq] at h; subst h
    refine ⟨?_, ⟨rfl, rfl, ?_⟩, hc.of_lock_ne (by simp) (by simp)⟩
    · simp only [Deque.len, List.length_dropLast] at hle ⊢; omega
    · simp only [Deque.len, List.length_dropLast] at hlen ⊢; omega
  | appendleft frame acquired =>
    obtain ⟨rfl, rfl, hlt⟩ := hp
    simp only [producerStep, Option.some.injEq] at h; subst h
    exact ⟨by simpa using hlt, by simp [ProducerPc.Safe, LockHolder.release],
      hc.of_lock_ne (by decide) (by simp [LockHolder.release])⟩
  | exited | raised => simp [producerStep] at h

theorem consumerStep_safe (hs : s.Safe capacity) (h : consumerStep parse s = some s') :
    s'.Safe capacity := by
  obtain ⟨tm, an, lock, kill, p, c⟩ := s
  obtain ⟨hle, hp, hc⟩ := hs
  simp only at hle hp hc
  cases c with
  | idle | parse => simp only [consumerStep, Option.some.injEq] at h; subst h; exact ⟨hle, hp, hc⟩
  | acquire =>
    simp only [consumerStep] at h
    split at h
    · rename_i hfree
      simp only [Option.some.injEq] at h; subst h hfree
      exact ⟨hle, hp.of_lock_ne (by simp) (by simp), ⟨rfl, rfl⟩⟩
    · cases h
  | loopCheck acquired =>
    obtain ⟨rfl, rfl⟩ := hc
    simp only [consumerStep, Option.some.injEq] at h; subst h
    split
    · exact ⟨hle, hp.of_lock_ne (by decide) (by simp [LockHolder.release]),
        by simp [ConsumerPc.Safe, LockHolder.release]⟩
    · rename_i hne
      exact ⟨hle, hp, ⟨rfl, rfl, by simpa using hne⟩⟩
  | pop acquired =>
    obtain ⟨rfl, rfl, hne⟩ := hc
    obtain ⟨x, rest, hpop⟩ : ∃ x rest, tm.pop = .ok (x, rest) := ⟨_, _, Deque.pop_of_ne_nil hne⟩
    simp only [consumerStep, hpop, Option.some.injEq] at h; subst h
    have hlen := congrArg List.length (Deque.pop_eq_ok_iff.mp hpop)
    refine ⟨?_, hp.of_lock_ne (by simp) (by simp), ⟨rfl, rfl⟩⟩
    simp only [Deque.len, List.length_append, List.length_singleton] at hle hlen ⊢; omega
  | appendleft frame acquired =>
    obtain ⟨rfl, rfl⟩ := hc
    simp only [consumerStep, Option.some.injEq] at h; subst h
    exact ⟨hle, hp, ⟨rfl, rfl⟩⟩
  | raised => simp [consumerStep] at h

/-- **Each step without a timeout keeps the invariant.** -/
theorem TcpSystem.step_safe (hcap : 1 ≤ capacity) (hs : s.Safe capacity) {a : Action α}
    (ha : a.isTimeout = false) (h : s.step capacity parse a = some s') : s'.Safe capacity := by
  cases a with
  | producer => exact producerStep_safe hcap hs h
  | consumer => exact consumerStep_safe hs h
  | producerRecv frame =>
    obtain ⟨hsel, rfl⟩ := TcpSystem.step_producerRecv h
    have hp := hs.producer
    rw [hsel] at hp
    exact ⟨hs.tmQueue_le, hp, hs.consumer⟩
  | producerSocketError =>
    obtain ⟨hsel, rfl⟩ := TcpSystem.step_producerSocketError h
    have hp := hs.producer
    rw [hsel] at hp
    exact ⟨hs.tmQueue_le, ProducerPc.safe_afterSocketError hp, hs.consumer⟩
  | close =>
    rw [TcpSystem.step_close h]
    exact ⟨hs.tmQueue_le, hs.producer.close, hs.consumer⟩
  | producerTimeout | consumerTimeout => cases ha

theorem producerStep_settle (hcap : 1 ≤ capacity) (hs : s.Safe capacity) (handed : List α)
    (h : producerStep capacity s = some s') :
    s'.settle capacity handed = s.settle capacity handed >>= (runQueues capacity · (s.event .producer)) := by
  obtain ⟨tm, an, lock, kill, p, c⟩ := s
  obtain ⟨hle, hp, hc⟩ := hs
  simp only at hle hp hc
  cases p with
  | loopHead =>
    simp only [producerStep, Option.some.injEq] at h; subst h
    rw [TcpSystem.event, bind_runQueues_nil]
    cases kill <;> rfl
  | select =>
    simp only [producerStep, Option.some.injEq] at h; subst h
    rw [TcpSystem.event, bind_runQueues_nil]; rfl
  | acquire frame =>
    simp only [producerStep] at h
    split at h
    · rename_i hfree
      simp only [Option.some.injEq] at h; subst h hfree
      simp only [TcpSystem.settle, TcpSystem.event, ProducerPc.rest, hc.rest (by decide),
        runQueues_singleton, TcpQueues.step, except_ok_bind, pure_bind]
      cases enqueueFrame capacity frame tm <;> rfl
    · cases h
  | checkLen frame acquired =>
    simp only [producerStep, Option.some.injEq] at h; subst h
    rw [TcpSystem.event, bind_runQueues_nil]
    by_cases hfull : capacity ≤ tm.len
    · simp only [TcpSystem.settle, ProducerPc.rest, enqueueFrame, if_pos hfull]
      cases tm.pop <;> rfl
    · simp [TcpSystem.settle, ProducerPc.rest, enqueueFrame, hfull]
  | pop frame acquired =>
    obtain ⟨rfl, rfl, hlen⟩ := hp
    have hne : tm.items ≠ [] := List.ne_nil_of_length_pos (by simp only [Deque.len] at hlen; omega)
    simp only [producerStep, Deque.pop_of_ne_nil hne, Option.some.injEq] at h; subst h
    rw [TcpSystem.event, bind_runQueues_nil]
    simp [TcpSystem.settle, ProducerPc.rest, Deque.pop_of_ne_nil hne]
  | appendleft frame acquired =>
    obtain ⟨rfl, rfl, -⟩ := hp
    simp only [producerStep, Option.some.injEq] at h; subst h
    rw [TcpSystem.event, bind_runQueues_nil]
    simp only [TcpSystem.settle, ProducerPc.rest, hc.rest (by decide)]
  | exited | raised => simp [producerStep] at h

theorem consumerStep_settle (hs : s.Safe capacity) (handed : List α)
    (h : consumerStep parse s = some s') :
    s'.settle capacity (handed ++ s.consumer.held) =
      s.settle capacity handed >>= (runQueues capacity · (s.event .consumer)) := by
  obtain ⟨tm, an, lock, kill, p, c⟩ := s
  obtain ⟨hle, hp, hc⟩ := hs
  simp only at hle hp hc
  have hrest := hp.rest
  cases c with
  | idle | parse =>
    simp only [consumerStep, Option.some.injEq] at h; subst h
    rw [TcpSystem.event, bind_runQueues_nil, ConsumerPc.held, List.append_nil]; rfl
  | acquire =>
    simp only [consumerStep] at h
    split at h
    · rename_i hfree
      simp only [Option.some.injEq] at h; subst h hfree
      simp [TcpSystem.settle, TcpSystem.event, ConsumerPc.rest, ConsumerPc.held, hrest (by decide),
        TcpQueues.step, drainTmQueue_eq]
    · cases h
  | loopCheck acquired =>
    obtain ⟨rfl, rfl⟩ := hc
    simp only [consumerStep, Option.some.injEq] at h; subst h
    rw [TcpSystem.event, bind_runQueues_nil]
    split
    · rename_i hemp
      obtain ⟨l⟩ := tm
      obtain rfl : l = [] := List.isEmpty_iff.mp hemp
      simp [TcpSystem.settle, hrest (by decide), ConsumerPc.rest, ConsumerPc.held, Deque.empty]
    · rw [ConsumerPc.held, List.append_nil]; rfl
  | pop acquired =>
    obtain ⟨rfl, rfl, hne⟩ := hc
    obtain ⟨x, rest, hpop⟩ : ∃ x rest, tm.pop = .ok (x, rest) := ⟨_, _, Deque.pop_of_ne_nil hne⟩
    simp only [consumerStep, hpop, Option.some.injEq] at h; subst h
    rw [TcpSystem.event, bind_runQueues_nil]
    simp [TcpSystem.settle, hrest (by decide), ConsumerPc.rest, ConsumerPc.held,
      Deque.pop_eq_ok_iff.mp hpop]
  | appendleft frame acquired =>
    obtain ⟨rfl, rfl⟩ := hc
    simp only [consumerStep, Option.some.injEq] at h; subst h
    rw [TcpSystem.event, bind_runQueues_nil]
    simp [TcpSystem.settle, hrest (by decide), ConsumerPc.rest, ConsumerPc.held]
  | raised => simp [consumerStep] at h

/-- **Each step without a timeout runs on the settled deques the critical section it starts.**
The frames it hands to the analysis queue join `handed`. -/
theorem TcpSystem.step_settle (hcap : 1 ≤ capacity) (hs : s.Safe capacity) {a : Action α}
    (ha : a.isTimeout = false) (handed : List α) (h : s.step capacity parse a = some s') :
    s'.settle capacity (handed ++ s.handedOver a) =
      s.settle capacity handed >>= (runQueues capacity · (s.event a)) := by
  cases a with
  | producer =>
    rw [TcpSystem.handedOver, List.append_nil]
    exact producerStep_settle hcap hs handed h
  | consumer => exact consumerStep_settle hs handed h
  | producerRecv =>
    obtain ⟨hsel, rfl⟩ := TcpSystem.step_producerRecv h
    rw [TcpSystem.event, bind_runQueues_nil]
    simp only [TcpSystem.handedOver, List.append_nil, TcpSystem.settle, hsel, ProducerPc.rest]
  | producerSocketError =>
    obtain ⟨hsel, rfl⟩ := TcpSystem.step_producerSocketError h
    rw [TcpSystem.event, bind_runQueues_nil]
    simp only [TcpSystem.handedOver, List.append_nil, TcpSystem.settle, hsel,
      ProducerPc.afterSocketError]
    split <;> rfl
  | close =>
    rw [TcpSystem.step_close h, TcpSystem.event, bind_runQueues_nil, TcpSystem.handedOver,
      List.append_nil]
    rfl
  | producerTimeout | consumerTimeout => cases ha

end Step

/-! ### Runs without timeouts -/

section Runs

variable {capacity : ℕ} {parse : Deque α → List α × Deque α}

/-- From a safe state whose settled deques are those of an atomic run, every run without a
timeout keeps both, the critical sections it starts joining the atomic run. -/
theorem TcpSystem.run_settle (hcap : 1 ≤ capacity) (acts : List (Action α))
    (hno : ∀ a ∈ acts, a.isTimeout = false) :
    ∀ {s s' : TcpSystem α} {handed : List α} {evs : List (QueueEvent α)}, s.Safe capacity →
      s.settle capacity handed = runQueues capacity TcpQueues.init evs →
      s.run capacity parse acts = some s' →
      s'.Safe capacity ∧ s'.settle capacity (handed ++ s.handedOverAlong capacity parse acts) =
        runQueues capacity TcpQueues.init (evs ++ s.schedule capacity parse acts) := by
  induction acts with
  | nil =>
    intro s s' handed evs hs he h; cases h
    simpa [TcpSystem.handedOverAlong, TcpSystem.schedule, TcpSystem.collect] using ⟨hs, he⟩
  | cons a as ih =>
    intro s s' handed evs hs he h
    simp only [TcpSystem.run, Option.bind_eq_some] at h
    obtain ⟨s₁, h₁, h⟩ := h
    have ha := hno a (.head _)
    have he₁ : s₁.settle capacity (handed ++ s.handedOver a) =
        runQueues capacity TcpQueues.init (evs ++ s.event a) := by
      rw [TcpSystem.step_settle hcap hs ha handed h₁, he, runQueues_append]; rfl
    obtain ⟨hs', he'⟩ := ih (fun b hb => hno b (.tail _ hb)) (TcpSystem.step_safe hcap hs ha h₁) he₁ h
    refine ⟨hs', ?_⟩
    rw [TcpSystem.handedOverAlong, TcpSystem.schedule, TcpSystem.collect_cons_of_step as h₁,
      TcpSystem.collect_cons_of_step as h₁, ← List.append_assoc, ← List.append_assoc]
    exact he'

theorem TcpSystem.run_init_settle (hcap : 1 ≤ capacity) {acts : List (Action α)}
    (hno : ∀ a ∈ acts, a.isTimeout = false) {s : TcpSystem α}
    (h : TcpSystem.init.run capacity parse acts = some s) :
    s.Safe capacity ∧ s.settle capacity (TcpSystem.init.handedOverAlong capacity parse acts) =
      runQueues capacity TcpQueues.init (TcpSystem.init.schedule capacity parse acts) :=
  @TcpSystem.run_settle α capacity parse hcap acts hno TcpSystem.init s [] [] TcpSystem.safe_init
    rfl h

/-- A frame received, drained and parsed by `receive()`, then `close()`: the loop ends. -/
def drainAndClose : List (Action ℕ) :=
  [.producer, .producerRecv 7, .producer, .producer, .producer, .consumer, .consumer, .consumer,
    .consumer, .consumer, .consumer, .consumer, .close, .producer]

end Runs

/-! ### The lock is always given back -/

/-- The action that lets the holder of the lock take its next step. -/
def LockHolder.turn : LockHolder → Action α
  | .producer => .producer
  | .free | .consumer => .consumer

section Release

variable {capacity : ℕ} {parse : Deque α → List α × Deque α} {s : TcpSystem α}

/-- In a safe state the holder of the lock releases it by its own steps alone: two or three for
the block of `__receive_tm_packets`, and for `receive()` what is left of its drain loop. -/
theorem TcpSystem.Safe.release (hcap : 1 ≤ capacity) (hs : s.Safe capacity) :
    ∃ k ≤ 3 * s.tmQueue.len + 2, ∃ s', s.run capacity parse (List.replicate k s.lock.turn) = some s' ∧
      s'.lock = .free := by
  obtain ⟨tm, an, lock, kill, p, c⟩ := s
  obtain ⟨hle, hp, hc⟩ := hs
  simp only at hle hp hc ⊢
  cases lock with
  | free => exact ⟨0, Nat.zero_le _, _, rfl, rfl⟩
  | producer =>
    cases p with
    | checkLen frame acquired =>
      obtain ⟨rfl, -⟩ := hp
      by_cases hfull : capacity ≤ tm.len
      · obtain ⟨l, x, rfl⟩ := Deque.exists_eq_append_singleton (hcap.trans hfull)
        exact ⟨3, by omega, by
          simp [TcpSystem.run, TcpSystem.step, producerStep, hfull, LockHolder.turn,
            LockHolder.release]⟩
      · exact ⟨2, by omega, by
          simp [TcpSystem.run, TcpSystem.step, producerStep, hfull, LockHolder.turn,
            LockHolder.release]⟩
    | pop frame acquired =>
      obtain ⟨rfl, -, hlen⟩ := hp
      obtain ⟨l, x, rfl⟩ := Deque.exists_eq_append_singleton (hlen ▸ hcap)
      exact ⟨2, by omega, by
        simp [TcpSystem.run, TcpSystem.step, producerStep, LockHolder.turn, LockHolder.release]⟩
    | appendleft frame acquired =>
      obtain ⟨rfl, -⟩ := hp
      exact ⟨1, by omega, _, rfl, rfl⟩
    | loopHead | select | acquire | exited | raised => simp [ProducerPc.Safe] at hp
  | consumer =>
    cases c with
    | loopCheck acquired =>
      obtain ⟨rfl, -⟩ := hc
      exact ⟨3 * tm.len + 1, by omega, _, TcpSystem.run_drain _ rfl, rfl⟩
    | pop acquired =>
      obtain ⟨rfl, -, hne⟩ := hc
      obtain ⟨l, x, rfl⟩ := Deque.exists_eq_append_singleton (List.length_pos_of_ne_nil hne)
      have hturn : TcpSystem.run capacity parse ⟨⟨l ++ [x]⟩, an, .consumer, kill, p, .pop true⟩
          (List.replicate 2 .consumer) =
            some ⟨⟨l⟩, an.appendleft x, .consumer, kill, p, .loopCheck true⟩ := by
        simp [TcpSystem.run, TcpSystem.step, consumerStep]
      exact ⟨2 + (3 * l.length + 1), by simp [Deque.len]; omega, _,
        by simp only [LockHolder.turn]
           rw [List.replicate_add, TcpSystem.run_append, hturn, Option.some_bind]
           exact TcpSystem.run_drain _ rfl, by rfl⟩
    | appendleft frame acquired =>
      obtain ⟨rfl, -⟩ := hc
      exact ⟨1 + (3 * tm.len + 1), by omega, _,
        by rw [List.replicate_add, TcpSystem.run_append]
           exact TcpSystem.run_drain ⟨tm, an.appendleft frame, .consumer, kill, p, .loopCheck true⟩ rfl,
        by rfl⟩
    | idle | acquire | parse | raised => simp [ConsumerPc.Safe] at hc

/-- **Without a lock timeout the lock is always given back.**  In every run from `open()` in
which each acquisition succeeds, for `max_packets_stored ≥ 1`, the thread that holds
`__queue_lock` releases it after at most `3 * max_packets_stored + 2` steps of its own, with no
step of the other thread: neither block waits for anything, and the drain loop of `receive()` takes
three steps a frame.  So a thread that waits for the lock waits for a bounded number of steps. -/
theorem lock_released (hcap : 1 ≤ capacity) {acts : List (Action α)}
    (hno : ∀ a ∈ acts, a.isTimeout = false) (h : TcpSystem.init.run capacity parse acts = some s) :
    ∃ k ≤ 3 * capacity + 2, ∃ s', s.run capacity parse (List.replicate k s.lock.turn) = some s' ∧
      s'.lock = .free := by
  have hs := (TcpSystem.run_init_settle hcap hno h).1
  obtain ⟨k, hk, hrun⟩ := hs.release hcap
  exact ⟨k, hk.trans (by have := hs.tmQueue_le; omega), hrun⟩

theorem lock_released_drainAndClose :
    ∃ s : TcpSystem ℕ, TcpSystem.init.run 1 framesAsPackets (drainAndClose.take 7) = some s ∧
      ∃ k ≤ 3 * 1 + 2, ∃ s', s.run 1 framesAsPackets (List.replicate k s.lock.turn) = some s' ∧
        s'.lock = .free :=
  ⟨_, rfl, @lock_released ℕ 1 framesAsPackets _ (by decide) (drainAndClose.take 7) (by decide) rfl⟩

end Release

/-! ### `data_available()` without the lock

`data_available()` reads `__tm_queue` without taking `__queue_lock`, so it may run in the middle
of the background thread's eviction, between `pop()` and `appendleft()`. -/

section DataAvailable

variable {capacity : ℕ} {parse : Deque α → List α × Deque α} {s s' : TcpSystem α}

/-- With room for two frames or more the background thread never empties the queue: it pops only
a full one. -/
theorem producerStep_tmQueue_ne_nil (hcap : 2 ≤ capacity) (hs : s.Safe capacity)
    (h : producerStep capacity s = some s') (hne : s.tmQueue.items ≠ []) :
    s'.tmQueue.items ≠ [] := by
  obtain ⟨tm, an, lock, kill, p, c⟩ := s
  have hp := hs.producer
  simp only at hne hp
  cases p with
  | pop f acq =>
    obtain ⟨-, -, hlen⟩ := hp
    simp only [producerStep, Deque.pop_of_ne_nil hne, Option.some.injEq] at h; subst h
    exact List.ne_nil_of_length_pos (by simp only [Deque.len] at hlen ⊢; simp; omega)
  | appendleft f acq =>
    simp only [producerStep, Option.some.injEq] at h; subst h
    simp [Deque.appendleft]
  | acquire f =>
    simp only [producerStep] at h
    split at h
    · simp only [Option.some.injEq] at h; subst h; exact hne
    · cases h
  | loopHead | select | checkLen =>
    simp only [producerStep, Option.some.injEq] at h; subst h; exact hne
  | exited | raised => cases h

theorem TcpSystem.step_tmQueue_ne_nil (hcap : 2 ≤ capacity) (hs : s.Safe capacity)
    {a : Action α} (hrecv : a ≠ .consumer) (h : s.step capacity parse a = some s')
    (hne : s.tmQueue.items ≠ []) : s'.tmQueue.items ≠ [] := by
  cases a with
  | producer => exact producerStep_tmQueue_ne_nil hcap hs h hne
  | producerRecv f => rw [(TcpSystem.step_producerRecv h).2]; exact hne
  | producerSocketError e => rw [(TcpSystem.step_producerSocketError h).2]; exact hne
  | producerTimeout => obtain ⟨_, _, _, rfl⟩ := TcpSystem.step_producerTimeout h; exact hne
  | consumerTimeout => obtain ⟨_, _, rfl⟩ := TcpSystem.step_consumerTimeout h; exact hne
  | close => rw [TcpSystem.step_close h]; exact hne
  | consumer => exact absurd rfl hrecv

theorem TcpSystem.run_tmQueue_ne_nil (hcap : 2 ≤ capacity) (acts : List (Action α))
    (hno : ∀ a ∈ acts, a.isTimeout = false) (hrecv : .consumer ∉ acts) :
    ∀ {s s' : TcpSystem α}, s.Safe capacity → s.run capacity parse acts = some s' →
      s.tmQueue.items ≠ [] → s'.tmQueue.items ≠ [] := by
  induction acts with
  | nil => intro s s' _ h hne; cases h; exact hne
  | cons a as ih =>
    intro s s' hs h hne
    simp only [TcpSystem.run, Option.bind_eq_some] at h
    obtain ⟨s₁, h₁, h⟩ := h
    have hs₁ := TcpSystem.step_safe (by omega) hs (hno a (.head _)) h₁
    exact ih (fun b hb => hno b (.tail _ hb)) (fun hb => hrecv (.tail _ hb)) hs₁ h
      (TcpSystem.step_tmQueue_ne_nil hcap hs (fun ha => hrecv (ha ▸ .head _)) h₁ hne)

/-- **Once `data_available()` answers `True`, it answers `True` until `receive()` runs.**  In
every run from `open()` without a lock timeout, for `max_packets_stored ≥ 2`: after `acts` the
queue holds a frame, and `acts'` is a further run without a timeout in which `receive()` takes no
step.  Then `data_available()` answers `True` after `acts'` too, although it does not take the
lock, since the background thread pops only a full queue of two frames or more. -/
theorem dataAvailable_stays_true (hcap : 2 ≤ capacity) {acts acts' : List (Action α)}
    (hno : ∀ a ∈ acts, a.isTimeout = false) (hno' : ∀ a ∈ acts', a.isTimeout = false)
    (hrecv : .consumer ∉ acts') (h : TcpSystem.init.run capacity parse acts = some s)
    (h' : s.run capacity parse acts' = some s')
    (hd : dataAvailable ⟨s.tmQueue, s.analysisQueue⟩ = true) :
    dataAvailable ⟨s'.tmQueue, s'.analysisQueue⟩ = true := by
  have hs := (TcpSystem.run_init_settle (by omega) hno h).1
  simpa [dataAvailable] using
    TcpSystem.run_tmQueue_ne_nil hcap acts' hno' hrecv hs h' (by simpa [dataAvailable] using hd)

/-- A frame received and enqueued. -/
def fillOne : List (Action ℕ) := [.producer, .producerRecv 7, .producer, .producer, .producer]

/-- Two more frames received: the second evicts the oldest. -/
def evictOne : List (Action ℕ) :=
  [.producer, .producerRecv 8, .producer, .producer, .producer, .producer, .producerRecv 9,
    .producer, .producer, .producer]

theorem dataAvailable_stays_true_evictOne :
    2 ≤ 2 ∧ (∀ a ∈ fillOne, a.isTimeout = false) ∧ (∀ a ∈ evictOne, a.isTimeout = false) ∧
      .consumer ∉ evictOne ∧ ∃ s s' : TcpSystem ℕ, TcpSystem.init.run 2 framesAsPackets fillOne = some s ∧
        s.run 2 framesAsPackets evictOne = some s' ∧ dataAvailable ⟨s.tmQueue, s.analysisQueue⟩ = true ∧
        dataAvailable ⟨s'.tmQueue, s'.analysisQueue⟩ = true :=
  ⟨by decide, by decide, by decide, by decide, _, _, rfl, rfl, rfl,
    @dataAvailable_stays_true ℕ 2 framesAsPackets _ _ (by decide) fillOne evictOne (by decide)
      (by decide) (by decide) rfl rfl rfl⟩

/-- With room for one frame only, the eviction leaves the queue empty until its `appendleft()`:
`data_available()` then answers `False` while a frame is held. -/
example : ∃ s : TcpSystem ℕ,
    TcpSystem.init.run 1 framesAsPackets
        (fillOne ++ [.producer, .producerRecv 8, .producer, .producer, .producer]) = some s ∧
      dataAvailable ⟨s.tmQueue, s.analysisQueue⟩ = false ∧ s.producer = .appendleft 8 true :=
  ⟨_, rfl, rfl, rfl⟩

end DataAvailable

end Tmtccmd.ComIf
