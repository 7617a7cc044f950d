import RichNX.Http.Loop

/-! # Start and stop

`http_server_start` fills in the server with `running` true and starts the serving
thread; `http_server_stop`, from the controller, clears `running`, shuts the listening
socket down and waits in `threadWaitForExit` for the thread to return. Controller and
thread share the `HttpServer`: the thread reads `running` at the head of each iteration
and writes the other fields, the controller writes only `running`. A step here is the
thread's first open, one of its iterations, the controller's signal (all of
`http_server_stop` up to the wait), or the wait returning once the thread has exited.

In every interleaving `running` goes from true to false once, and never back; an
iteration that starts after the signal leaves the loop; and once `http_server_stop` has
returned no serving thread is left: every later step leaves the thread and its calls
as they are. -/
namespace RichNX.Http.Control
open RichNX.Telemetry.State RichNX.Http.Server RichNX.Http.Loop

/-- The controller's calls in `http_server_stop`. -/
inductive CtlOp
  | shutdown (fd : BitVec 32)
  | waitForExit
  | threadClose
  deriving DecidableEq

/-- How far `http_server_stop` has got. -/
inductive StopPhase
  | idle
  | waiting
  | returned
  deriving DecidableEq

/-- `http_server_stop` up to its wait: the server after it, whether it waits, its calls. -/
def httpServerStop (srv : HttpServer) : HttpServer × Bool × List CtlOp :=
  if !srv.running then (srv, false, [])
  else ({ srv with running := false }, true,
    (if 0 ≤ srv.listenFd.toInt then [.shutdown srv.listenFd] else []) ++ [.waitForExit])

/-- The shared server inside the thread's state, whether `http_server_start` started the
thread, whether the thread has made its first open, the stop, and the calls so far. -/
structure Sys where
  thread : Thread
  started : Bool
  opened : Bool
  phase : StopPhase
  calls : List Op
  ctl : List CtlOp

/-- Right after `http_server_start`, with `threadCreate` and `threadStart` answering
`created` and `started`. -/
def sysInit (port : BitVec 16) (created started : Bool) : Sys :=
  let r := httpServerStart port created started
  ⟨⟨r.1, 0, true⟩, r.2, false, .idle, [], []⟩

/-- The thread's first open attempt. -/
def Sys.openSocket (s : Sys) (o : OpenAnswers) : Sys :=
  { s with
    thread := (threadStart s.thread.srv o).1
    opened := true
    calls := s.calls ++ (threadStart s.thread.srv o).2 }

/-- One iteration of the thread, reading the shared `running`. -/
def Sys.iterate (s : Sys) (a : Answers) : Sys :=
  let r := iteration s.thread { a with running := s.thread.srv.running }
  { s with
    thread := r.1
    calls := s.calls ++ r.2 }

/-- `http_server_stop` up to `threadWaitForExit`, or to its return if `running` was false. -/
def Sys.signal (s : Sys) : Sys :=
  let r := httpServerStop s.thread.srv
  { s with
    thread := { s.thread with srv := r.1 }
    phase := if r.2.1 then .waiting else .returned
    ctl := s.ctl ++ r.2.2 }

/-- `threadWaitForExit` returning, and `threadClose`. -/
def Sys.join (s : Sys) : Sys :=
  { s with
    phase := .returned
    ctl := s.ctl ++ [.threadClose] }

/-- The steps of an interleaving, each with the condition under which it can happen. -/
inductive Step : Sys → Sys → Prop
  | openSocket (s : Sys) (o : OpenAnswers) (h1 : s.started = true) (h2 : s.opened = false) :
      Step s (s.openSocket o)
  | iterate (s : Sys) (a : Answers) (h : s.opened = true) : Step s (s.iterate a)
  | signal (s : Sys) (h : s.phase = .idle) : Step s s.signal
  | join (s : Sys) (h : s.phase = .waiting) (hl : s.opened = true ∧ s.thread.looping = false) :
      Step s s.join

inductive Reachable (port : BitVec 16) (created started : Bool) : Sys → Prop
  | init : Reachable port created started (sysInit port created started)
  | step {s s' : Sys} : Reachable port created started s → Step s s' →
      Reachable port created started s'

/-! ## The thread never writes `running` -/

theorem stopListening_running (srv : HttpServer) : (stopListening srv).1.running = srv.running := by
  obtain ⟨fd, h⟩ := stopListening_fst srv
  rw [h]

theorem socketRecovery_running (srv : HttpServer) (a : OpenAnswers) :
    (socketRecovery srv a).1.running = srv.running := by
  simp only [socketRecovery, httpServerOpenListenSocket]
  split_ifs <;> exact stopListening_running srv

theorem serverHandleClient_running (srv : HttpServer) (tel : TelemetryState) (r : Option Request) :
    (serverHandleClient srv tel r).1.running = srv.running := by
  obtain ⟨n, h⟩ := serverHandleClient_fst srv tel r
  rw [h]

theorem threadStart_running (srv : HttpServer) (o : OpenAnswers) :
    (threadStart srv o).1.srv.running = srv.running := by
  simp only [threadStart, httpServerOpenListenSocket]
  split_ifs <;> rfl

/-- An iteration leaves `running` as it read it. -/
theorem iteration_running (t : Thread) (a : Answers) :
    (iteration t { a with running := t.srv.running }).1.srv.running = t.srv.running := by
  rcases iteration_cases t { a with running := t.srv.running } with ⟨-, h⟩ | ⟨-, hr, h⟩ |
    ⟨-, hr, -, -, h⟩ | ⟨-, hr, -, -, h⟩ | ⟨-, hr, -, -, -, h⟩ | ⟨-, hr, -, -, -, -, h⟩ |
    ⟨-, hr, -, -, -, -, h⟩ | ⟨-, hr, -, -, h⟩ <;> rw [h]
  · rw [stopListening_running]; exact hr.symm
  · rw [stopListening_running]; exact hr.symm
  · exact hr.symm
  · exact hr.symm
  · exact hr.symm
  · rw [socketRecovery_running]; exact hr.symm
  · rw [serverHandleClient_running]; exact hr.symm

/-! ## The invariant -/

/-- What every interleaving keeps. -/
structure Inv (s : Sys) : Prop where
  cleared : s.phase ≠ .idle → s.thread.srv.running = false
  stopped : s.thread.srv.running = false → s.phase ≠ .idle ∨ s.started = false
  exited : s.phase = .returned → s.started = false ∨ (s.opened = true ∧ s.thread.looping = false)
  unopened : s.started = false → s.opened = false

theorem inv_sysInit (port : BitVec 16) (created started : Bool) :
    Inv (sysInit port created started) := by
  refine ⟨fun h => absurd rfl h, fun h => .inr ?_, fun h => (by cases h), fun _ => rfl⟩
  revert h
  simp only [sysInit, httpServerStart]
  split <;> simp_all

theorem Inv.step {s s' : Sys} (hi : Inv s) (h : Step s s') : Inv s' := by
  cases h with
  | openSocket o h1 h2 =>
    dsimp only [Sys.openSocket]
    refine ⟨fun hp => ?_, fun hr => ?_, fun hp => ?_, fun h => absurd h1 (by rw [h]; decide)⟩
    · rw [threadStart_running]; exact hi.cleared hp
    · rw [threadStart_running] at hr; exact hi.stopped hr
    · rcases hi.exited hp with h | ⟨h, -⟩
      · rw [h] at h1; cases h1
      · rw [h] at h2; cases h2
  | iterate a ho =>
    dsimp only [Sys.iterate]
    refine ⟨fun hp => ?_, fun hr => ?_, fun hp => ?_, fun hs => hi.unopened hs⟩
    · rw [iteration_running]; exact hi.cleared hp
    · rw [iteration_running] at hr; exact hi.stopped hr
    · rcases hi.exited hp with h | ⟨h, hl⟩
      · exact .inl h
      · rw [iteration_of_not_looping hl]; exact .inr ⟨h, hl⟩
  | signal hp =>
    dsimp only [Sys.signal, httpServerStop]
    cases hr : s.thread.srv.running
    · have hs := (hi.stopped hr).resolve_left (by simpa using hp)
      simp only [hr, Bool.not_false, if_true, Bool.false_eq_true, if_false]
      exact ⟨fun _ => hr, fun _ => .inr hs, fun _ => .inl hs, hi.unopened⟩
    · simp only [hr, Bool.not_true, Bool.false_eq_true, if_false, if_true]
      exact ⟨fun _ => rfl, fun _ => .inl (by simp), fun h => (by cases h), hi.unopened⟩
  | join hp hl =>
    exact ⟨fun _ => hi.cleared (by simp [hp]), fun _ => .inl (by simp [Sys.join]), fun _ => .inr hl,
      hi.unopened⟩

theorem inv_reachable {port : BitVec 16} {created started : Bool} {s : Sys}
    (h : Reachable port created started s) : Inv s := by
  induction h with
  | init => exact inv_sysInit port created started
  | step _ hs ih => exact ih.step hs

/-- **No serving thread survives `http_server_stop`.** In every interleaving of the
serving thread with the controller, after `http_server_start` whatever `threadCreate`
and `threadStart` answered: once the stop has begun `running` is false for good; an
iteration the thread starts after that leaves the loop; and once `http_server_stop`
has returned, the thread is out of its loop (or was never started) and no later step
changes it or adds a call of it. -/
theorem stop_leaves_no_thread (port : BitVec 16) (created started : Bool) (s : Sys)
    (h : Reachable port created started s) :
    (s.phase ≠ .idle → s.thread.srv.running = false ∧
      ∀ a : Answers, s.opened = true →
        (iteration s.thread { a with running := s.thread.srv.running }).1.looping = false) ∧
    (s.phase = .returned → ∀ s', Step s s' → s'.thread = s.thread ∧ s'.calls = s.calls) := by
  have hi := inv_reachable h
  refine ⟨fun hp => ⟨hi.cleared hp, fun a _ => ?_⟩, fun hp s' hs => ?_⟩
  · rcases iteration_cases s.thread { a with running := s.thread.srv.running } with ⟨hl, h⟩ | ⟨-, -, h⟩ |
      ⟨-, hr, -⟩ | ⟨-, hr, -⟩ | ⟨-, hr, -⟩ | ⟨-, hr, -⟩ | ⟨-, hr, -⟩ | ⟨-, hr, -⟩
    · rw [h]; exact hl
    · rw [h]
    all_goals exact absurd (hr.symm.trans (hi.cleared hp)) (by decide)
  · cases hs with
    | openSocket o h1 h2 =>
      rcases hi.exited hp with h | ⟨h, -⟩
      · rw [h] at h1; cases h1
      · rw [h] at h2; cases h2
    | iterate a ho =>
      rcases hi.exited hp with h | ⟨-, hl⟩
      · rw [hi.unopened h] at ho; cases ho
      · simp [Sys.iterate, iteration_of_not_looping hl]
    | signal h => rw [hp] at h; cases h
    | join h => rw [hp] at h; cases h

/-- A start, an open on descriptor 3, a stop while the thread waits, the thread's
iteration that reads `running` false, and the wait returning. -/
def stoppedSys : Sys :=
  ((((sysInit 80 true true).openSocket openOk).signal).iterate idleAnswer).join

theorem stop_at_stopped_sys :
    Reachable 80 true true stoppedSys ∧
    (stoppedSys.phase ≠ .idle → stoppedSys.thread.srv.running = false ∧
      ∀ a : Answers, stoppedSys.opened = true →
        (iteration stoppedSys.thread { a with running := stoppedSys.thread.srv.running }).1.looping =
          false) ∧
    (stoppedSys.phase = .returned → ∀ s', Step stoppedSys s' →
      s'.thread = stoppedSys.thread ∧ s'.calls = stoppedSys.calls) :=
  have h : Reachable 80 true true stoppedSys :=
    .step (.step (.step (.step .init (.openSocket _ openOk rfl rfl)) (.signal _ rfl))
      (.iterate _ idleAnswer rfl)) (.join _ rfl ⟨rfl, rfl⟩)
  ⟨h, stop_leaves_no_thread 80 true true _ h⟩

end RichNX.Http.Control
