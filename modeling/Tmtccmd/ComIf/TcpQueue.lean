import Tmtccmd.Python

/-! # The receive queue of `TcpIpTcpComIF` (`tmtccmd/com_if/tcpip_tcp_com_if.py`)

Two deques carry frames from the background thread to `receive()`: `__tm_queue`, bounded by
`max_packets_stored`, and `__analysis_queue`.  This module takes each critical section as one
step, as it runs when the queue lock is acquired; `TcpThreads.lean` takes them apart.

* `enqueueFrame` is the critical section of `__receive_tm_packets`: on a queue holding
  `max_packets_stored` frames or more, `pop()` the right end, then `appendleft` the new frame.
* `drainTmQueue` is the loop of `receive()`:
  `while tm_queue: analysis_queue.appendleft(tm_queue.pop())`.
* `receive` is `receive()` for a reassembler `parseSpacePackets` standing for
  `parse_space_packets` (`tmtccmd.ccsds.spacepacket`, not under src/).
* A `QueueEvent` is one of the two critical sections; `runQueues` runs a list of them.

`Channel` says what the queue is for: the frames of each drain period in arrival order, of which
a drain hands over the newest `capacity` ones.  `Represents` reads the deques as a channel:
`__tm_queue` holds, newest at the left, the last `capacity` frames of the current period, and
popping `__analysis_queue` from the right yields the delivered frames.  Every step keeps it
(`step_represents`), so the code refines the channel on every run (`runQueues_represents`),
and the queue never holds more than `capacity` frames (`tmQueue_run_invariants`). -/

namespace Tmtccmd.ComIf

variable {α : Type}

/-- The two deques of a `TcpIpTcpComIF`. -/
structure TcpQueues (α : Type) where
  tmQueue : Deque α
  analysisQueue : Deque α

/-- Both deques as `__init__` creates them. -/
def TcpQueues.init : TcpQueues α := ⟨.empty, .empty⟩

/-- `TcpCommunicationType`: its only member is `SPACE_PACKETS`. -/
inductive TcpCommunicationType where
  | spacePackets
deriving DecidableEq, Repr

/-! ### The critical sections -/

/-- The critical section of `__receive_tm_packets`. -/
def enqueueFrame (maxPacketsStored : ℕ) (frame : α) (tmQueue : Deque α) :
    Except PyError (Deque α) := do
  let tmQueue ← if maxPacketsStored ≤ tmQueue.len then Prod.snd <$> tmQueue.pop else pure tmQueue
  pure (tmQueue.appendleft frame)

/-- The loop of `receive()`: move every frame of `__tm_queue`, popped at its right end, to the
left end of `__analysis_queue`. -/
def drainTmQueue (tmQueue analysisQueue : Deque α) : Deque α × Deque α :=
  match h : tmQueue.pop with
  | .ok (frame, rest) => drainTmQueue rest (analysisQueue.appendleft frame)
  | .error _ => (tmQueue, analysisQueue)
termination_by tmQueue.len
decreasing_by
  have := Deque.pop_eq_ok_iff.mp h
  simp only [Deque.len, this, List.length_append, List.length_singleton]
  omega

/-- `receive()`: drain the queue, then reassemble packets from the analysis queue. -/
def receive (comType : TcpCommunicationType) (parseSpacePackets : Deque α → List α × Deque α)
    (s : TcpQueues α) : List α × TcpQueues α :=
  let (tmQueue, analysisQueue) := drainTmQueue s.tmQueue s.analysisQueue
  match comType with
  | .spacePackets =>
    let (packets, analysisQueue) := parseSpacePackets analysisQueue
    (packets, ⟨tmQueue, analysisQueue⟩)

/-- `data_available()`. -/
def dataAvailable (s : TcpQueues α) : Bool := !s.tmQueue.items.isEmpty

theorem enqueueFrame_of_lt {n : ℕ} {frame : α} {q : Deque α} (h : q.len < n) :
    enqueueFrame n frame q = .ok (q.appendleft frame) := by
  simp [enqueueFrame, Nat.not_le.mpr h]

theorem enqueueFrame_of_le {n : ℕ} {frame : α} {q : Deque α} (h : n ≤ q.len) (hq : q.items ≠ []) :
    enqueueFrame n frame q = .ok ⟨frame :: q.items.dropLast⟩ := by
  simp [enqueueFrame, h, Deque.pop_of_ne_nil hq, Deque.appendleft]

/-- The drain moves the whole queue, in order, to the left of the analysis queue. -/
theorem drainTmQueue_eq (tmQueue analysisQueue : Deque α) :
    drainTmQueue tmQueue analysisQueue = (.empty, ⟨tmQueue.items ++ analysisQueue.items⟩) := by
  obtain ⟨l⟩ := tmQueue
  induction l using List.reverseRecOn generalizing analysisQueue with
  | nil => rw [drainTmQueue]; rfl
  | append_singleton l x ih =>
    rw [drainTmQueue]
    split
    · rename_i frame rest hpop
      rw [Deque.pop_mk_append_singleton, Except.ok.injEq, Prod.mk.injEq] at hpop
      obtain ⟨rfl, rfl⟩ := hpop
      rw [ih]
      simp [Deque.appendleft]
    · rename_i hpop
      simp at hpop

theorem receive_eq (comType : TcpCommunicationType) (parse : Deque α → List α × Deque α)
    (s : TcpQueues α) :
    receive comType parse s =
      ((parse ⟨s.tmQueue.items ++ s.analysisQueue.items⟩).1,
        ⟨.empty, (parse ⟨s.tmQueue.items ++ s.analysisQueue.items⟩).2⟩) := by
  cases comType
  simp [receive, drainTmQueue_eq]

/-! ### Runs -/

/-- A critical section on the queue: the background thread enqueues a received frame, or
`receive()` drains the queue. -/
inductive QueueEvent (α : Type) where
  | receiveTmPackets (frame : α)
  | receive

/-- One critical section, for `max_packets_stored = capacity`. -/
def TcpQueues.step (capacity : ℕ) (s : TcpQueues α) : QueueEvent α → Except PyError (TcpQueues α)
  | .receiveTmPackets frame =>
    (fun q => { s with tmQueue := q }) <$> enqueueFrame capacity frame s.tmQueue
  | .receive =>
    let (tmQueue, analysisQueue) := drainTmQueue s.tmQueue s.analysisQueue
    .ok ⟨tmQueue, analysisQueue⟩

/-- The critical sections of a run, in the order the lock admits them. -/
def runQueues (capacity : ℕ) : TcpQueues α → List (QueueEvent α) → Except PyError (TcpQueues α)
  | s, [] => .ok s
  | s, e :: es => (s.step capacity e).bind fun s' => runQueues capacity s' es

@[simp] theorem runQueues_singleton (capacity : ℕ) (s : TcpQueues α) (e : QueueEvent α) :
    runQueues capacity s [e] = s.step capacity e := by
  simp only [runQueues]
  cases s.step capacity e <;> rfl

theorem runQueues_append (capacity : ℕ) (s : TcpQueues α) (xs ys : List (QueueEvent α)) :
    runQueues capacity s (xs ++ ys) = (runQueues capacity s xs).bind (runQueues capacity · ys) := by
  induction xs generalizing s with
  | nil => rfl
  | cons e es ih =>
    simp only [List.cons_append, runQueues]
    cases s.step capacity e <;> simp [Except.bind, ih]

/-- The frames received in a run, in arrival order. -/
def arrivals : List (QueueEvent α) → List α
  | [] => []
  | .receiveTmPackets frame :: es => frame :: arrivals es
  | .receive :: es => arrivals es

/-! ### What the queue is for -/

/-- The frames handed to the analysis buffer, in the order it gives them back, and the frames
received since the previous drain, in arrival order. -/
structure Channel (α : Type) where
  delivered : List α
  pending : List α

/-- A frame joins the current period; a drain hands over its newest `capacity` frames. -/
def Channel.step (capacity : ℕ) (c : Channel α) : QueueEvent α → Channel α
  | .receiveTmPackets frame => { c with pending := c.pending ++ [frame] }
  | .receive => ⟨c.delivered ++ c.pending.rtake capacity, []⟩

/-- The channel after a run. -/
def Channel.run (capacity : ℕ) : Channel α → List (QueueEvent α) → Channel α
  | c, [] => c
  | c, e :: es => Channel.run capacity (c.step capacity e) es

/-- The deques hold what the channel says: `__tm_queue`, newest at the left, the newest
`capacity` frames of the period, and `__analysis_queue`, popped from the right, the delivered
frames. -/
def Represents (capacity : ℕ) (c : Channel α) (s : TcpQueues α) : Prop :=
  s.tmQueue.items = c.pending.reverse.take capacity ∧ s.analysisQueue.items.reverse = c.delivered

theorem represents_init (capacity : ℕ) : Represents capacity ⟨[], []⟩ (TcpQueues.init : TcpQueues α) :=
  ⟨List.take_nil.symm, rfl⟩

theorem dropLast_take_of_le {l : List α} {n : ℕ} (h : n ≤ l.length) :
    (l.take n).dropLast = l.take (n - 1) := by
  rcases Nat.lt_or_eq_of_le h with h | rfl
  · exact List.dropLast_take h
  · rw [List.take_length, List.dropLast_eq_take]

theorem enqueueFrame_take {capacity : ℕ} (hcap : 1 ≤ capacity) (frame : α) (l : List α) :
    enqueueFrame capacity frame ⟨l.take capacity⟩ = .ok ⟨(frame :: l).take capacity⟩ := by
  obtain ⟨k, rfl⟩ : ∃ k, capacity = k + 1 := ⟨capacity - 1, by omega⟩
  rw [List.take_succ_cons]
  by_cases hl : k + 1 ≤ l.length
  · have hlen : (l.take (k + 1)).length = k + 1 := by simp; omega
    rw [enqueueFrame_of_le (by simp [Deque.len, hlen])
      (List.ne_nil_of_length_pos (by rw [hlen]; omega)), dropLast_take_of_le hl]
    rfl
  · have hlt : (l.take (k + 1)).length < k + 1 := by simp; omega
    rw [enqueueFrame_of_lt (by simpa [Deque.len] using hlt), List.take_of_length_le (by omega),
      List.take_of_length_le (by omega)]
    rfl

/-- **One critical section keeps the representation.** -/
theorem step_represents {capacity : ℕ} (hcap : 1 ≤ capacity) {c : Channel α} {s : TcpQueues α}
    (h : Represents capacity c s) (e : QueueEvent α) :
    ∃ s', s.step capacity e = .ok s' ∧ Represents capacity (c.step capacity e) s' := by
  obtain ⟨⟨tm⟩, an⟩ := s
  obtain ⟨htm, han⟩ := h
  simp only at htm han
  subst htm
  cases e with
  | receiveTmPackets frame =>
    refine ⟨⟨⟨(frame :: c.pending.reverse).take capacity⟩, an⟩, ?_, ?_, han⟩
    · simp only [TcpQueues.step, enqueueFrame_take hcap]; rfl
    · simp [Channel.step]
  | receive =>
    refine ⟨_, rfl, ?_, ?_⟩
    · simp [drainTmQueue_eq, Channel.step]
    · simp [drainTmQueue_eq, Channel.step, han, List.rtake_eq_reverse_take_reverse]

/-- **The code refines the channel on every run.** -/
theorem runQueues_represents {capacity : ℕ} (hcap : 1 ≤ capacity) (evs : List (QueueEvent α)) :
    ∀ {c : Channel α} {s : TcpQueues α}, Represents capacity c s →
      ∃ s', runQueues capacity s evs = .ok s' ∧ Represents capacity (c.run capacity evs) s' := by
  induction evs with
  | nil => exact fun h => ⟨_, rfl, h⟩
  | cons e es ih =>
    intro c s h
    obtain ⟨s₁, h₁, hr₁⟩ := step_represents hcap h e
    obtain ⟨s', h', hr'⟩ := ih hr₁
    exact ⟨s', by rw [runQueues, h₁]; exact h', hr'⟩

theorem Channel.run_sublist (capacity : ℕ) (evs : List (QueueEvent α)) (c : Channel α) :
    List.Sublist ((c.run capacity evs).delivered ++ (c.run capacity evs).pending)
      (c.delivered ++ c.pending ++ arrivals evs) := by
  induction evs generalizing c with
  | nil => simp [Channel.run, arrivals]
  | cons e es ih =>
    refine (ih _).trans ?_
    cases e with
    | receiveTmPackets frame => simp [Channel.step, arrivals]
    | receive =>
      simp only [Channel.step, List.append_nil, arrivals]
      exact ((List.drop_sublist _ _).append_left _).append_right _

/-- **The receive queue on every run.**  From the empty deques, with the lock held around each
critical section: every run succeeds; `__tm_queue` never holds more than `capacity` frames and
holds, newest at the left, the newest `capacity` frames received since the previous drain; the
analysis queue, popped from the right, gives back the delivered frames, which together with the
queued ones are a sub-list of the arrivals.  A full queue evicts its oldest frame, and a drain
empties the queue behind what the analysis queue held. -/
theorem tmQueue_run_invariants {capacity : ℕ} (hcap : 1 ≤ capacity) :
    (∀ evs : List (QueueEvent α), ∃ s, runQueues capacity TcpQueues.init evs = .ok s ∧
      s.tmQueue.len ≤ capacity ∧
      s.tmQueue.items = (Channel.run capacity ⟨[], []⟩ evs).pending.reverse.take capacity ∧
      s.analysisQueue.items.reverse = (Channel.run capacity ⟨[], []⟩ evs).delivered ∧
      List.Sublist (s.analysisQueue.items.reverse ++ s.tmQueue.items.reverse) (arrivals evs)) ∧
    (∀ (s : TcpQueues α) (frame : α), capacity ≤ s.tmQueue.len →
      ∃ s', s.step capacity (.receiveTmPackets frame) = .ok s' ∧
        s'.tmQueue.items.reverse = s.tmQueue.items.reverse.tail ++ [frame]) ∧
    (∀ s : TcpQueues α, ∃ s', s.step capacity .receive = .ok s' ∧ s'.tmQueue.items = [] ∧
      s'.analysisQueue.items.reverse = s.analysisQueue.items.reverse ++ s.tmQueue.items.reverse) := by
  refine ⟨fun evs => ?_, fun s frame hfull => ?_, fun s => ?_⟩
  · obtain ⟨s, hs, htm, han⟩ := runQueues_represents hcap evs (represents_init capacity)
    refine ⟨s, hs, by simp [Deque.len, htm], htm, han, ?_⟩
    have hsub := Channel.run_sublist capacity evs ⟨[], []⟩
    rw [han, htm, ← List.rtake_eq_reverse_take_reverse]
    exact ((List.drop_sublist _ _).append_left _).trans (by simpa using hsub)
  · have hne : s.tmQueue.items ≠ [] :=
      List.ne_nil_of_length_pos (by simp [Deque.len] at hfull ⊢; omega)
    refine ⟨_, by simp only [TcpQueues.step, enqueueFrame_of_le hfull hne]; rfl, ?_⟩
    simp [List.tail_reverse]
  · exact ⟨_, rfl, by simp [drainTmQueue_eq], by simp [drainTmQueue_eq]⟩

/-- Three frames into a queue of capacity two: the oldest one is evicted. -/
theorem tmQueue_run_invariants_three_frames :
    1 ≤ 2 ∧ ∃ s : TcpQueues ℕ,
      runQueues 2 TcpQueues.init [.receiveTmPackets 1, .receiveTmPackets 2, .receiveTmPackets 3] =
        .ok s ∧ s.tmQueue.len ≤ 2 ∧ s.tmQueue.items = [3, 2] := by
  obtain ⟨s, hs, hlen, htm, -⟩ := (@tmQueue_run_invariants ℕ 2 (by decide)).1
    [.receiveTmPackets 1, .receiveTmPackets 2, .receiveTmPackets 3]
  exact ⟨by decide, s, hs, hlen, htm⟩

end Tmtccmd.ComIf
