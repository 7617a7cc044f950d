import RichNX.Http.Server

/-! # The serving thread

`http_server_thread` opens the listening socket and then loops while `running`: it waits
up to a second on the socket, accepts, and serves the connection. An accept failure
other than `EINTR` is counted in `accept_error_streak`; on `ENETUNREACH` (113), or when
the count reaches 32, the thread recovers: it closes the socket, sleeps, and opens it
again. The operating system's answers are inputs: an iteration gets what it reads of
`running`, what `select`, `accept` and `recv` return, the record a reader copies, and
the answers to a reopen. It returns the thread's next state and the calls it made. -/
namespace RichNX.Http.Loop
open RichNX.Telemetry.State RichNX.Http.Server

/-- What a system call returns: its `int` result and the `errno` it leaves. -/
structure Ret where
  rc : BitVec 32
  errno : BitVec 32
  deriving DecidableEq

/-- The answers to one attempt of `http_server_open_listen_socket`. -/
structure OpenAnswers where
  socket : Ret
  bind : Ret
  listen : Ret
  deriving DecidableEq

/-- The answers one iteration of the loop gets. -/
structure Answers where
  running : Bool
  select : Ret
  fdIsSet : Bool
  accept : Ret
  recv : Option Request
  telemetry : TelemetryState
  reopen : OpenAnswers

/-- The thread's calls: on the listening socket, to `server_handle_client` with the
accepted descriptor, the server it is given and what it sends, and the sleeps of a
recovery. -/
inductive Op
  | socket
  | bind (fd : BitVec 32)
  | listen (fd : BitVec 32)
  | close (fd : BitVec 32)
  | select (fd : BitVec 32)
  | accept (fd : BitVec 32)
  | handleClient (client : BitVec 32) (srv : HttpServer) (sent : Option (List UInt8))
  | sleepMs (ms : Nat)
  deriving DecidableEq

def eintr : BitVec 32 := 4

def acceptErrnoNetUnreach : BitVec 32 := 113

def acceptErrorReopenThreshold : BitVec 32 := 32

/-- `http_server_open_listen_socket`: the server after it, whether it succeeded, its calls. -/
def httpServerOpenListenSocket (srv : HttpServer) (a : OpenAnswers) : HttpServer × Bool × List Op :=
  let fd := a.socket.rc
  let srv := { srv with stage := 1, listenFd := fd }
  if fd.toInt < 0 then
    ({ srv with lastErrno := a.socket.errno, stage := -1 }, false, [.socket])
  else if a.bind.rc.toInt < 0 then
    ({ srv with lastErrno := a.bind.errno, stage := -2, listenFd := -1 }, false,
      [.socket, .bind fd, .close fd])
  else if a.listen.rc.toInt < 0 then
    ({ srv with lastErrno := a.listen.errno, stage := -3, listenFd := -1 }, false,
      [.socket, .bind fd, .listen fd, .close fd])
  else ({ srv with listening := true, stage := 4 }, true, [.socket, .bind fd, .listen fd])

/-- `listening = false`, then the listening socket closed if there is one: the start of
a recovery, and the code after the loop. -/
def stopListening (srv : HttpServer) : HttpServer × List Op :=
  if 0 ≤ srv.listenFd.toInt then ({ srv with listening := false, listenFd := -1 }, [.close srv.listenFd])
  else ({ srv with listening := false }, [])

/-- Socket recovery: stop listening, back off 500 ms, reopen, and back off another
second if the reopen failed. -/
def socketRecovery (srv : HttpServer) (a : OpenAnswers) : HttpServer × List Op :=
  let closed := stopListening srv
  let opened := httpServerOpenListenSocket closed.1 a
  (opened.1, closed.2 ++ .sleepMs 500 :: opened.2.2 ++ if opened.2.1 then [] else [.sleepMs 1000])

/-- The thread between two iterations: the server, `accept_error_streak`, and whether it
is still in the loop. -/
structure Thread where
  srv : HttpServer
  streak : BitVec 32
  looping : Bool

/-- One pass of `while (server->running)`: the thread after it and the calls it made. -/
def iteration (t : Thread) (a : Answers) : Thread × List Op :=
  if !t.looping then (t, []) else
  let srv := { t.srv with running := a.running }
  if !srv.running then
    let r := stopListening srv
    (⟨r.1, t.streak, false⟩, r.2)
  else
  let waited := [Op.select srv.listenFd]
  if a.select.rc.toInt < 0 then
    if a.select.errno = eintr then (⟨srv, t.streak, true⟩, waited)
    else
      let r := stopListening { srv with lastErrno := a.select.errno, stage := -4 }
      (⟨r.1, t.streak, false⟩, waited ++ r.2)
  else if a.select.rc = 0 ∨ !a.fdIsSet then (⟨srv, t.streak, true⟩, waited)
  else
  let called := waited ++ [Op.accept srv.listenFd]
  if a.accept.rc.toInt < 0 then
    if a.accept.errno ≠ eintr then
      let srv := { srv with lastErrno := a.accept.errno, stage := -5 }
      let streak := t.streak + 1
      if a.accept.errno = acceptErrnoNetUnreach ∨ acceptErrorReopenThreshold.toInt ≤ streak.toInt then
        let r := socketRecovery srv a.reopen
        (⟨r.1, 0, true⟩, called ++ r.2)
      else (⟨srv, streak, true⟩, called)
    else (⟨srv, t.streak, true⟩, called)
  else
    let srv := { srv with acceptedCount := srv.acceptedCount + 1 }
    let r := serverHandleClient srv a.telemetry a.recv
    (⟨r.1, 0, true⟩, called ++ [.handleClient a.accept.rc srv r.2, .close a.accept.rc])

/-- `http_server_start`: the server the thread gets, and whether the thread runs. -/
def httpServerStart (port : BitVec 16) (created started : Bool) : HttpServer × Bool :=
  let srv : HttpServer :=
    { running := true
      listenFd := -1
      port := port
      acceptedCount := 0
      requestCount := 0
      lastErrno := 0
      stage := 0
      listening := false }
  if created && started then (srv, true) else ({ srv with running := false }, false)

/-- The thread's entry: the streak at 0, then the first open; a failed one returns. -/
def threadStart (srv : HttpServer) (a : OpenAnswers) : Thread × List Op :=
  let r := httpServerOpenListenSocket srv a
  (⟨r.1, 0, r.2.1⟩, r.2.2)

/-- The thread over a sequence of iterations, and all its calls. -/
def runThread (t : Thread) : List Answers → Thread × List Op
  | [] => (t, [])
  | a :: as =>
    let r := iteration t a
    let rest := runThread r.1 as
    (rest.1, r.2 ++ rest.2)

/-- A server thread started on `port`, over the iterations `as`. -/
def serve (port : BitVec 16) (o : OpenAnswers) (as : List Answers) : Thread × List Op :=
  let s := threadStart (httpServerStart port true true).1 o
  let r := runThread s.1 as
  (r.1, s.2 ++ r.2)

/-! ## What one iteration can do -/

/-- `select` let the iteration through to `accept`. -/
def SelectReady (a : Answers) : Prop := 0 ≤ a.select.rc.toInt ∧ a.select.rc ≠ 0 ∧ a.fdIsSet = true

/-- `stopListening` only clears `listening` and, when there was one, the descriptor. -/
theorem stopListening_fst (srv : HttpServer) :
    ∃ fd, (stopListening srv).1 = { srv with listening := false, listenFd := fd } := by
  unfold stopListening; split
  · exact ⟨-1, rfl⟩
  · exact ⟨srv.listenFd, rfl⟩

/-- `stopListening` closes the listening descriptor when there is one, and calls nothing
else. -/
theorem stopListening_snd (srv : HttpServer) :
    (stopListening srv).2 = if 0 ≤ srv.listenFd.toInt then [.close srv.listenFd] else [] := by
  unfold stopListening; split <;> rfl

/-- The one call of `stopListening` closes the listening descriptor. -/
theorem mem_stopListening {srv : HttpServer} {o : Op} (h : o ∈ (stopListening srv).2) :
    o = .close srv.listenFd := by
  unfold stopListening at h; split at h <;> simp_all

/-- What an open attempt leaves: a listening socket at stage 4, or no descriptor, the
listening flag as it was, and a negative stage. Either way it called `socket` first, and
only then. -/
theorem open_result (srv : HttpServer) (a : OpenAnswers) :
    let r := httpServerOpenListenSocket srv a
    (∃ rest, Op.socket ∉ rest ∧ r.2.2 = .socket :: rest) ∧
    ((r.2.1 = true ∧ r.1.listening = true ∧ r.1.stage = 4 ∧ 0 ≤ r.1.listenFd.toInt) ∨
    (r.2.1 = false ∧ r.1.listening = srv.listening ∧ r.1.listenFd.toInt < 0 ∧
      (r.1.stage = -1 ∨ r.1.stage = -2 ∨ r.1.stage = -3))) := by
  simp only [httpServerOpenListenSocket]
  by_cases h1 : a.socket.rc.toInt < 0
  · rw [if_pos h1]
    exact ⟨⟨_, by simp, rfl⟩, .inr ⟨rfl, rfl, h1, .inl rfl⟩⟩
  rw [if_neg h1]
  by_cases h2 : a.bind.rc.toInt < 0
  · rw [if_pos h2]
    exact ⟨⟨_, by simp, rfl⟩, .inr ⟨rfl, rfl, show (-1 : BitVec 32).toInt < 0 by decide, .inr (.inl rfl)⟩⟩
  rw [if_neg h2]
  by_cases h3 : a.listen.rc.toInt < 0
  · rw [if_pos h3]
    exact ⟨⟨_, by simp, rfl⟩, .inr ⟨rfl, rfl, show (-1 : BitVec 32).toInt < 0 by decide, .inr (.inr rfl)⟩⟩
  rw [if_neg h3]
  exact ⟨⟨_, by simp, rfl⟩, .inl ⟨rfl, rfl, rfl, Int.not_lt.mp h1⟩⟩

/-- Everything one iteration can do, with its guards: nothing once out of the loop; stop
listening and leave when `running` is false, or when `select` fails other than by
`EINTR`; go round again after a timeout or an interrupted `select` or `accept`; record
an accept failure, with a recovery on `ENETUNREACH` or at the threshold; or serve the
accepted connection. -/
theorem iteration_cases (t : Thread) (a : Answers) :
    (t.looping = false ∧ iteration t a = (t, [])) ∨
    (t.looping = true ∧ a.running = false ∧
      iteration t a = (⟨(stopListening { t.srv with running := false }).1, t.streak, false⟩,
        (stopListening { t.srv with running := false }).2)) ∨
    (t.looping = true ∧ a.running = true ∧ a.select.rc.toInt < 0 ∧ a.select.errno ≠ eintr ∧
      iteration t a =
        (⟨(stopListening { t.srv with running := true, lastErrno := a.select.errno, stage := -4 }).1,
          t.streak, false⟩,
        .select t.srv.listenFd ::
          (stopListening { t.srv with running := true, lastErrno := a.select.errno, stage := -4 }).2)) ∨
    (t.looping = true ∧ a.running = true ∧ (a.select.rc.toInt < 0 → a.select.errno = eintr) ∧
      ¬SelectReady a ∧
      iteration t a = (⟨{ t.srv with running := true }, t.streak, true⟩, [.select t.srv.listenFd])) ∨
    (t.looping = true ∧ a.running = true ∧ SelectReady a ∧ a.accept.rc.toInt < 0 ∧
      a.accept.errno = eintr ∧
      iteration t a = (⟨{ t.srv with running := true }, t.streak, true⟩,
        [.select t.srv.listenFd, .accept t.srv.listenFd])) ∨
    (t.looping = true ∧ a.running = true ∧ SelectReady a ∧ a.accept.rc.toInt < 0 ∧
      a.accept.errno ≠ eintr ∧
      ¬(a.accept.errno = acceptErrnoNetUnreach ∨ acceptErrorReopenThreshold.toInt ≤ (t.streak + 1).toInt) ∧
      iteration t a =
        (⟨{ t.srv with running := true, lastErrno := a.accept.errno, stage := -5 }, t.streak + 1, true⟩,
          [.select t.srv.listenFd, .accept t.srv.listenFd])) ∨
    (t.looping = true ∧ a.running = true ∧ SelectReady a ∧ a.accept.rc.toInt < 0 ∧
      a.accept.errno ≠ eintr ∧
      (a.accept.errno = acceptErrnoNetUnreach ∨ acceptErrorReopenThreshold.toInt ≤ (t.streak + 1).toInt) ∧
      iteration t a =
        (⟨(socketRecovery { t.srv with running := true, lastErrno := a.accept.errno, stage := -5 }
            a.reopen).1, 0, true⟩,
          [.select t.srv.listenFd, .accept t.srv.listenFd] ++
            (socketRecovery { t.srv with running := true, lastErrno := a.accept.errno, stage := -5 }
              a.reopen).2)) ∨
    (t.looping = true ∧ a.running = true ∧ SelectReady a ∧ 0 ≤ a.accept.rc.toInt ∧
      iteration t a =
        (⟨(serverHandleClient { t.srv with running := true, acceptedCount := t.srv.acceptedCount + 1 }
            a.telemetry a.recv).1, 0, true⟩,
        [.select t.srv.listenFd, .accept t.srv.listenFd,
          .handleClient a.accept.rc
            { t.srv with running := true, acceptedCount := t.srv.acceptedCount + 1 }
            (serverHandleClient { t.srv with running := true, acceptedCount := t.srv.acceptedCount + 1 }
              a.telemetry a.recv).2,
          .close a.accept.rc])) := by
  cases hl : t.looping
  · exact .inl ⟨rfl, by simp [iteration, hl]⟩
  cases hr : a.running
  · exact .inr (.inl ⟨rfl, rfl, by simp [iteration, hl, hr]⟩)
  simp only [iteration, hl, hr, Bool.not_true, Bool.false_eq_true, if_false]
  by_cases hs : a.select.rc.toInt < 0
  · rw [if_pos hs]
    have hnr : ¬SelectReady a := fun h => absurd h.1 (Int.not_le.mpr hs)
    by_cases he : a.select.errno = eintr
    · exact .inr (.inr (.inr (.inl ⟨trivial, trivial, fun _ => he, hnr, by rw [if_pos he]⟩)))
    · exact .inr (.inr (.inl ⟨trivial, trivial, hs, he, by rw [if_neg he]; rfl⟩))
  rw [if_neg hs]
  by_cases hi : a.select.rc = 0 ∨ (!a.fdIsSet) = true
  · refine .inr (.inr (.inr (.inl ⟨trivial, trivial, fun h => absurd h hs, fun h => ?_, by rw [if_pos hi]⟩)))
    rcases hi with hi | hi
    · exact h.2.1 hi
    · simp [h.2.2] at hi
  rw [if_neg hi]
  have hready : SelectReady a :=
    ⟨Int.not_lt.mp hs, fun h => hi (.inl h), by simpa using fun h => hi (.inr h)⟩
  refine .inr (.inr (.inr (.inr ?_)))
  by_cases ha : a.accept.rc.toInt < 0
  · rw [if_pos ha]
    by_cases he : a.accept.errno = eintr
    · exact .inl ⟨trivial, trivial, hready, ha, he, by rw [if_neg (not_not.mpr he)]; rfl⟩
    rw [if_pos he]
    by_cases hrec : a.accept.errno = acceptErrnoNetUnreach ∨
        acceptErrorReopenThreshold.toInt ≤ (t.streak + 1).toInt
    · exact .inr (.inr (.inl ⟨trivial, trivial, hready, ha, he, hrec, by rw [if_pos hrec]; rfl⟩))
    · exact .inr (.inl ⟨trivial, trivial, hready, ha, he, hrec, by rw [if_neg hrec]; rfl⟩)
  · rw [if_neg ha]
    exact .inr (.inr (.inr ⟨trivial, trivial, hready, Int.not_lt.mp ha, rfl⟩))

theorem stopListening_listening (srv : HttpServer) : (stopListening srv).1.listening = false := by
  unfold stopListening; split <;> rfl

theorem open_fails (srv : HttpServer) {a : OpenAnswers}
    (h : a.socket.rc.toInt < 0 ∨ a.bind.rc.toInt < 0 ∨ a.listen.rc.toInt < 0) :
    (httpServerOpenListenSocket srv a).2.1 = false := by
  simp only [httpServerOpenListenSocket]
  split_ifs <;> first | rfl | omega

/-- A recovery closes the old descriptor, backs off, and makes one open attempt (one call of
`socket`); it leaves a listening socket at stage 4, or no descriptor, nothing listening,
and a negative stage. -/
theorem socketRecovery_result (srv : HttpServer) (a : OpenAnswers) :
    let r := socketRecovery srv a
    (∃ rest, Op.socket ∉ rest ∧ r.2 = (stopListening srv).2 ++ .sleepMs 500 :: .socket :: rest) ∧
    (((httpServerOpenListenSocket (stopListening srv).1 a).2.1 = true ∧ r.1.listening = true ∧
      r.1.stage = 4 ∧ 0 ≤ r.1.listenFd.toInt) ∨
    ((httpServerOpenListenSocket (stopListening srv).1 a).2.1 = false ∧ r.1.listening = false ∧
      r.1.listenFd.toInt < 0 ∧ (r.1.stage = -1 ∨ r.1.stage = -2 ∨ r.1.stage = -3))) := by
  obtain ⟨⟨rest, hrest, hcalls⟩, hres⟩ := open_result (stopListening srv).1 a
  refine ⟨?_, ?_⟩
  · refine ⟨rest ++ if (httpServerOpenListenSocket (stopListening srv).1 a).2.1 then [] else [.sleepMs 1000],
      ?_, by simp [socketRecovery, hcalls]⟩
    split <;> simpa using hrest
  · rcases hres with ⟨h0, h1, h2, h3⟩ | ⟨h0, h1, h2, h3⟩
    · exact .inl ⟨h0, h1, h2, h3⟩
    · exact .inr ⟨h0, h1.trans (stopListening_listening srv), h2, h3⟩

theorem handleClient_not_mem_open (srv : HttpServer) (a : OpenAnswers) (c : BitVec 32)
    (s : HttpServer) (x : Option (List UInt8)) :
    Op.handleClient c s x ∉ (httpServerOpenListenSocket srv a).2.2 := by
  simp only [httpServerOpenListenSocket]
  split_ifs <;> simp

theorem handleClient_not_mem_socketRecovery (srv : HttpServer) (a : OpenAnswers) (c : BitVec 32)
    (s : HttpServer) (x : Option (List UInt8)) : Op.handleClient c s x ∉ (socketRecovery srv a).2 := by
  intro h
  simp only [socketRecovery, List.mem_append, List.mem_cons] at h
  rcases h with (h | h | h) | h
  · cases mem_stopListening h
  · cases h
  · exact handleClient_not_mem_open _ _ c s x h
  · split at h <;> simp at h

/-- `server_handle_client` changes only `request_count`. -/
theorem serverHandleClient_fst (srv : HttpServer) (tel : TelemetryState) (r : Option Request) :
    ∃ n, (serverHandleClient srv tel r).1 = { srv with requestCount := n } := by
  cases r with
  | none => exact ⟨srv.requestCount, rfl⟩
  | some r =>
    refine ⟨srv.requestCount + 1, ?_⟩
    simp only [serverHandleClient]
    split_ifs <;> rfl

/-- A running iteration first waits on the listening descriptor. -/
theorem iteration_head {t : Thread} {a : Answers} (ht : t.looping = true) (hr : a.running = true) :
    (iteration t a).2.head? = some (.select t.srv.listenFd) := by
  rcases iteration_cases t a with ⟨hl, -⟩ | ⟨-, hr', -⟩ | ⟨-, -, -, -, h⟩ | ⟨-, -, -, -, h⟩ |
    ⟨-, -, -, -, -, h⟩ | ⟨-, -, -, -, -, -, h⟩ | ⟨-, -, -, -, -, -, h⟩ | ⟨-, -, -, -, h⟩
  · exact absurd (ht.symm.trans hl) (by decide)
  · exact absurd (hr.symm.trans hr') (by decide)
  all_goals rw [h]; rfl

/-- Only a served connection calls `server_handle_client`: in the loop, with the server
after counting the connection, and what `server_handle_client` sends. -/
theorem handleClient_mem_iteration {t : Thread} {a : Answers} {c : BitVec 32} {s : HttpServer}
    {x : Option (List UInt8)} (h : Op.handleClient c s x ∈ (iteration t a).2) :
    t.looping = true ∧ s = { t.srv with running := true, acceptedCount := t.srv.acceptedCount + 1 } ∧
      x = (serverHandleClient s a.telemetry a.recv).2 := by
  rcases iteration_cases t a with ⟨-, he⟩ | ⟨-, -, he⟩ | ⟨-, -, -, -, he⟩ | ⟨-, -, -, -, he⟩ |
    ⟨-, -, -, -, -, he⟩ | ⟨-, -, -, -, -, -, he⟩ | ⟨-, -, -, -, -, -, he⟩ | ⟨hl, -, -, -, he⟩ <;>
    rw [he] at h
  · cases h
  · cases mem_stopListening h
  · rcases List.mem_cons.mp h with h | h
    · cases h
    · cases mem_stopListening h
  · simp at h
  · simp at h
  · simp at h
  · rcases List.mem_append.mp h with h | h
    · simp at h
    · exact absurd h (handleClient_not_mem_socketRecovery _ _ _ _ _)
  · simp only [List.mem_cons, List.not_mem_nil, or_false] at h
    rcases h with h | h | h | h <;> cases h
    exact ⟨hl, rfl, rfl⟩

/-- A run over `as ++ bs` is the run over `as`, then the run over `bs` from where it
stopped. -/
theorem runThread_append (t : Thread) (as bs : List Answers) :
    runThread t (as ++ bs) =
      ((runThread (runThread t as).1 bs).1, (runThread t as).2 ++ (runThread (runThread t as).1 bs).2) := by
  induction as generalizing t with
  | nil => simp [runThread]
  | cons a as ih => simp only [List.cons_append, runThread, List.append_eq, ih, List.append_assoc]

theorem serve_append (port : BitVec 16) (o : OpenAnswers) (as bs : List Answers) :
    serve port o (as ++ bs) =
      ((runThread (serve port o as).1 bs).1, (serve port o as).2 ++ (runThread (serve port o as).1 bs).2) := by
  simp only [serve, runThread_append, List.append_assoc]

/-- Every call of a run is a call of one of its iterations, made from where the run
before it stopped. -/
theorem mem_runThread {t : Thread} {as : List Answers} {o : Op} (h : o ∈ (runThread t as).2) :
    ∃ pre a post, as = pre ++ a :: post ∧ o ∈ (iteration (runThread t pre).1 a).2 := by
  induction as generalizing t with
  | nil => cases h
  | cons a as ih =>
    rcases List.mem_append.mp h with h | h
    · exact ⟨[], a, as, rfl, h⟩
    · obtain ⟨pre, b, post, rfl, hb⟩ := ih h
      exact ⟨a :: pre, b, post, rfl, hb⟩

/-! ## The stage the debug body reports -/

/-- Where `server_handle_client` runs, stage 4 (Serving) means listening, and listening
means stage 4 or -5 (an accept failure since). -/
def StageOk (srv : HttpServer) : Prop :=
  (srv.stage = 4 → srv.listening = true) ∧ (srv.listening = true → srv.stage = 4 ∨ srv.stage = -5)

/-- In the loop, `StageOk` holds, and a listening server has a descriptor. -/
def Serving (t : Thread) : Prop :=
  t.looping = true → StageOk t.srv ∧ (t.srv.listening = true → 0 ≤ t.srv.listenFd.toInt)

theorem serving_threadStart (srv : HttpServer) (o : OpenAnswers) : Serving (threadStart srv o).1 := by
  intro hl
  rcases (open_result srv o).2 with ⟨-, h1, h2, h3⟩ | ⟨h0, -⟩
  · exact ⟨⟨fun _ => h1, fun _ => .inl h2⟩, fun _ => h3⟩
  · exact absurd (h0 ▸ hl : false = true) Bool.false_ne_true

/-- One iteration keeps `Serving`, and hands `server_handle_client` a server that is `StageOk`. -/
theorem Serving.step {t : Thread} (hs : Serving t) (a : Answers) :
    Serving (iteration t a).1 ∧ ∀ c s x, Op.handleClient c s x ∈ (iteration t a).2 → StageOk s := by
  refine ⟨?_, fun c s x hx => ?_⟩
  · rcases iteration_cases t a with ⟨-, h⟩ | ⟨-, -, h⟩ | ⟨-, -, -, -, h⟩ | ⟨hl, -, -, -, h⟩ |
      ⟨hl, -, -, -, -, h⟩ | ⟨hl, -, -, -, -, -, h⟩ | ⟨-, -, -, -, -, -, h⟩ | ⟨hl, -, -, -, h⟩ <;> rw [h]
    · exact hs
    · exact fun h => absurd h Bool.false_ne_true
    · exact fun h => absurd h Bool.false_ne_true
    · exact fun _ => hs hl
    · exact fun _ => hs hl
    · exact fun _ => ⟨⟨fun h => absurd h (show (-5 : BitVec 32) ≠ 4 by decide), fun _ => .inr rfl⟩,
        (hs hl).2⟩
    · obtain ⟨-, hres⟩ := socketRecovery_result
        { t.srv with running := true, lastErrno := a.accept.errno, stage := -5 } a.reopen
      rcases hres with ⟨-, h1, h2, h3⟩ | ⟨-, h1, -, h3⟩
      · exact fun _ => ⟨⟨fun _ => h1, fun _ => .inl h2⟩, fun _ => h3⟩
      · refine fun _ => ⟨⟨fun h4 => ?_, fun h => absurd (h1 ▸ h : false = true) Bool.false_ne_true⟩,
          fun h => absurd (h1 ▸ h : false = true) Bool.false_ne_true⟩
        rcases h3 with h3 | h3 | h3 <;> rw [h3] at h4 <;> exact absurd h4 (by decide)
    · obtain ⟨n, hn⟩ := serverHandleClient_fst
        { t.srv with running := true, acceptedCount := t.srv.acceptedCount + 1 } a.telemetry a.recv
      exact fun _ => by rw [hn]; exact hs hl
  · obtain ⟨hl, rfl, -⟩ := handleClient_mem_iteration hx
    exact (hs hl).1

theorem serving_runThread {t : Thread} (hs : Serving t) (as : List Answers) :
    ∀ c s x, Op.handleClient c s x ∈ (runThread t as).2 → StageOk s := by
  induction as generalizing t with
  | nil => intro c s x h; cases h
  | cons a as ih =>
    intro c s x h
    obtain ⟨hs', hops⟩ := hs.step a
    rcases List.mem_append.mp h with h | h
    · exact hops c s x h
    · exact ih hs' c s x h

/-- **What the debug body can report.** In every run of the server thread, with any
answers of `socket`, `bind`, `listen`, `select`, `accept` and `recv`, wherever
`server_handle_client` runs, stage 4 (Serving) means `listening`, and `listening` means
stage 4 or stage -5: an accept failure that did not lead to a recovery leaves the socket
listening with stage -5 recorded. -/
theorem handle_client_stage (port : BitVec 16) (o : OpenAnswers) (as : List Answers)
    (c : BitVec 32) (s : HttpServer) (x : Option (List UInt8))
    (h : Op.handleClient c s x ∈ (serve port o as).2) :
    (s.stage = 4 → s.listening = true) ∧ (s.listening = true → s.stage = 4 ∨ s.stage = -5) := by
  rcases List.mem_append.mp h with h | h
  · exact absurd h (handleClient_not_mem_open _ _ _ _ _)
  · exact serving_runThread (serving_threadStart _ o) as c s x h

/-- An open that succeeds on descriptor 3. -/
def openOk : OpenAnswers := ⟨⟨3, 0⟩, ⟨0, 0⟩, ⟨0, 0⟩⟩

/-- An iteration whose `accept` gets `r`, its `recv` failing. -/
def acceptAnswer (r : Ret) : Answers :=
  ⟨true, ⟨1, 0⟩, true, r, none, telemetryInit 0, openOk⟩

theorem handle_client_stage_after_failed_accept :
    Op.handleClient 4 ⟨true, 3, 80, 1, 0, 11, -5, true⟩ none ∈
      (serve 80 openOk [acceptAnswer ⟨-1, 11⟩, acceptAnswer ⟨4, 0⟩]).2 ∧
    ((-5 : BitVec 32) = 4 → true = true) ∧
      (true = true → (-5 : BitVec 32) = 4 ∨ (-5 : BitVec 32) = -5) :=
  have h : Op.handleClient 4 ⟨true, 3, 80, 1, 0, 11, -5, true⟩ none ∈
      (serve 80 openOk [acceptAnswer ⟨-1, 11⟩, acceptAnswer ⟨4, 0⟩]).2 := by decide
  ⟨h, handle_client_stage 80 openOk _ 4 _ none h⟩

/-- After an `EAGAIN` (11) accept failure the next connection is served with the
socket listening and stage -5 recorded, not 4. -/
theorem handle_client_listening_at_stage_minus_five :
    ∃ c s x, Op.handleClient c s x ∈
        (serve 80 openOk [acceptAnswer ⟨-1, 11⟩, acceptAnswer ⟨4, 0⟩]).2 ∧
      s.listening = true ∧ s.stage ≠ 4 :=
  ⟨4, ⟨true, 3, 80, 1, 0, 11, -5, true⟩, none, by decide, rfl, by decide⟩

/-! ## The accept error streak -/

/-- What an iteration's `accept` did, as the error accounting counts it. -/
inductive AcceptEvent
  | accepted
  | failed (recovered : Bool)
  deriving DecidableEq

/-- An iteration's accept event: a success, or a failure other than `EINTR` and whether a
reopen (a call of `socket`) followed it; nothing when the iteration did not call
`accept` or `accept` was interrupted. -/
def acceptEvent (t : Thread) (a : Answers) : Option AcceptEvent :=
  if Op.accept t.srv.listenFd ∈ (iteration t a).2 then
    if 0 ≤ a.accept.rc.toInt then some .accepted
    else if a.accept.errno = eintr then none
    else some (.failed (decide (Op.socket ∈ (iteration t a).2)))
  else none

def acceptEvents : Thread → List Answers → List AcceptEvent
  | _, [] => []
  | t, a :: as => (acceptEvent t a).toList ++ acceptEvents (iteration t a).1 as

/-- The failures since the last success or recovery. -/
def failuresSinceReset (ev : List AcceptEvent) : Nat :=
  (ev.reverse.takeWhile (· == .failed false)).length

theorem failuresSinceReset_snoc (ev : List AcceptEvent) (e : AcceptEvent) :
    failuresSinceReset (ev ++ [e]) = if e = .failed false then failuresSinceReset ev + 1 else 0 := by
  by_cases h : e = .failed false
  · subst h; simp [failuresSinceReset]
  · simp [failuresSinceReset, List.takeWhile_cons, h]

/-- The streak counts the failures since the last reset, and stays below 32. -/
def Counted (t : Thread) (ev : List AcceptEvent) : Prop :=
  t.streak.toInt = failuresSinceReset ev ∧ failuresSinceReset ev ≤ 31

theorem toInt_succ_of_small {x : BitVec 32} {n : Nat} (hx : x.toInt = n) (hn : n ≤ 31) :
    (x + 1).toInt = n + 1 := by
  rw [BitVec.toInt_eq_toNat_cond] at hx ⊢
  rw [BitVec.toNat_add, show (1 : BitVec 32).toNat = 1 from rfl]
  split at hx <;> split <;> omega

theorem acceptErrorReopenThreshold_toInt : acceptErrorReopenThreshold.toInt = 32 := by decide

/-- What an iteration does to the streak, by its accept event: nothing without one, a
reset after a success, and after a failure a reset exactly when a recovery followed,
which is exactly on `ENETUNREACH` or at the threshold. A failure's calls are `select` and
`accept`, then for a recovery the close of the old descriptor, the back-off and one open
attempt. -/
theorem acceptEvent_spec (t : Thread) (a : Answers) :
    (acceptEvent t a = none ∧ (iteration t a).1.streak = t.streak) ∨
    (acceptEvent t a = some .accepted ∧ (iteration t a).1.streak = 0) ∨
    (∃ r, acceptEvent t a = some (.failed r) ∧
      (r = true ↔ a.accept.errno = acceptErrnoNetUnreach ∨
        acceptErrorReopenThreshold.toInt ≤ (t.streak + 1).toInt) ∧
      (iteration t a).1.streak = (if r then 0 else t.streak + 1) ∧
      ∃ rest, Op.socket ∉ rest ∧ (iteration t a).2 = [.select t.srv.listenFd, .accept t.srv.listenFd] ++
        if r then (if 0 ≤ t.srv.listenFd.toInt then [.close t.srv.listenFd] else []) ++
          .sleepMs 500 :: .socket :: rest else []) := by
  rcases iteration_cases t a with ⟨-, h⟩ | ⟨-, -, h⟩ | ⟨-, -, -, -, h⟩ | ⟨-, -, -, -, h⟩ |
    ⟨-, -, -, hrc, he, h⟩ | ⟨-, -, -, hrc, he, hrec, h⟩ | ⟨-, -, -, hrc, he, hrec, h⟩ | ⟨-, -, -, hrc, h⟩
  · exact .inl ⟨by rw [acceptEvent, h]; simp, by rw [h]⟩
  · refine .inl ⟨?_, by rw [h]⟩
    rw [acceptEvent, h, if_neg fun hm => by cases mem_stopListening hm]
  · refine .inl ⟨?_, by rw [h]⟩
    rw [acceptEvent, h, if_neg fun hm => ?_]
    rcases List.mem_cons.mp hm with hm | hm
    · cases hm
    · cases mem_stopListening hm
  · exact .inl ⟨by rw [acceptEvent, h]; simp, by rw [h]⟩
  · exact .inl ⟨by rw [acceptEvent, h]; simp [Int.not_le.mpr hrc, he], by rw [h]⟩
  · refine .inr (.inr ⟨false, by rw [acceptEvent, h]; simp [Int.not_le.mpr hrc, he], ?_, by rw [h]; rfl,
      [], List.not_mem_nil _, by rw [h]; rfl⟩)
    simpa using hrec
  · obtain ⟨rest, hrest, hcalls⟩ := (socketRecovery_result
      { t.srv with running := true, lastErrno := a.accept.errno, stage := -5 } a.reopen).1
    have hsock : Op.socket ∈ (iteration t a).2 := by rw [h, hcalls]; simp
    refine .inr (.inr ⟨true, ?_, by simpa using hrec, by rw [h]; rfl, rest, hrest,
      by rw [h, hcalls, stopListening_snd]; rfl⟩)
    rw [acceptEvent, if_pos (by rw [h]; simp), if_neg (Int.not_le.mpr hrc), if_neg he, decide_eq_true hsock]
  · exact .inr (.inl ⟨by rw [acceptEvent, h]; simp [hrc], by rw [h]⟩)

theorem Counted.step {t : Thread} {ev : List AcceptEvent} (hc : Counted t ev) (a : Answers) :
    Counted (iteration t a).1 (ev ++ (acceptEvent t a).toList) := by
  obtain ⟨h1, h2⟩ := hc
  unfold Counted
  rcases acceptEvent_spec t a with ⟨he, hst⟩ | ⟨he, hst⟩ | ⟨r, he, hr, hst, -⟩
  · rw [he, Option.toList_none, List.append_nil]
    exact ⟨hst ▸ h1, h2⟩
  · rw [he, Option.toList_some, failuresSinceReset_snoc, if_neg (by simp)]
    exact ⟨by rw [hst]; rfl, Nat.zero_le _⟩
  · rw [he, Option.toList_some, failuresSinceReset_snoc]
    have hsucc := toInt_succ_of_small h1 h2
    cases r with
    | true => exact ⟨by simp [hst], by simp⟩
    | false =>
      rw [acceptErrorReopenThreshold_toInt, hsucc] at hr
      rw [hst, if_neg Bool.false_ne_true, if_pos rfl, hsucc]
      refine ⟨by push_cast; rfl, ?_⟩
      have : ¬(32 : Int) ≤ ↑(failuresSinceReset ev) + 1 := fun h => absurd (hr.mpr (.inr h)) (by simp)
      omega

theorem counted_runThread {t : Thread} {ev : List AcceptEvent} (hc : Counted t ev) (as : List Answers) :
    Counted (runThread t as).1 (ev ++ acceptEvents t as) := by
  induction as generalizing t ev with
  | nil => simpa [runThread, acceptEvents] using hc
  | cons a as ih =>
    have := ih (hc.step a)
    rwa [List.append_assoc] at this

/-- **The accept error streak.** In every run of the server thread, with any answers of
`select` and `accept`, at the start of every iteration `accept_error_streak` is between
0 and 31 and counts the accept failures other than `EINTR` since the last successful
accept or recovery (timeouts and interrupted calls count nothing). At a failure, the
thread recovers exactly when `errno` is 113 or the failure brings the count to 32, and a
recovery sets the streak to 0. After the failed `accept`, a recovery closes the old
descriptor (when there is one), backs off 500 ms, and makes one open attempt, with one
`socket` call; a failure without recovery calls nothing more. -/
theorem accept_streak_counts (srv : HttpServer) (o : OpenAnswers) (as : List Answers) :
    let t0 := (threadStart srv o).1
    let t := (runThread t0 as).1
    let n := failuresSinceReset (acceptEvents t0 as)
    t.streak.toInt = n ∧ n ≤ 31 ∧
    ∀ (a : Answers) (r : Bool), acceptEvent t a = some (.failed r) →
      (r = true ↔ a.accept.errno = 113 ∨ n + 1 = 32) ∧
      (iteration t a).1.streak.toInt = (if r then 0 else n + 1) ∧
      ∃ rest, Op.socket ∉ rest ∧ (iteration t a).2 = [.select t.srv.listenFd, .accept t.srv.listenFd] ++
        if r then (if 0 ≤ t.srv.listenFd.toInt then [.close t.srv.listenFd] else []) ++
          .sleepMs 500 :: .socket :: rest else [] := by
  intro t0 t n
  have hc : Counted t (acceptEvents t0 as) := by
    simpa using counted_runThread (show Counted t0 [] from ⟨rfl, Nat.zero_le _⟩) as
  refine ⟨hc.1, hc.2, fun a r he => ?_⟩
  have hsucc := toInt_succ_of_small hc.1 hc.2
  rcases acceptEvent_spec t a with ⟨he', -⟩ | ⟨he', -⟩ | ⟨r', he', hr, hst, hcalls⟩
  · rw [he] at he'; cases he'
  · rw [he] at he'; cases he'
  · rw [he] at he'
    cases he'
    rw [acceptErrorReopenThreshold_toInt, hsucc] at hr
    refine ⟨hr.trans (or_congr Iff.rfl (by have := hc.2; omega)), ?_, hcalls⟩
    rw [hst]
    split
    · rfl
    · exact hsucc

/-- An iteration that sees accept fail with `errno` 113 and the reopen's `socket` fail. -/
def unreachableAnswer : Answers :=
  ⟨true, ⟨1, 0⟩, true, ⟨-1, 113⟩, none, telemetryInit 0, ⟨⟨-1, 24⟩, ⟨0, 0⟩, ⟨0, 0⟩⟩⟩

/-- An iteration whose `select` times out. -/
def idleAnswer : Answers :=
  ⟨true, ⟨0, 0⟩, false, ⟨-1, 0⟩, none, telemetryInit 0, openOk⟩

theorem accept_streak_at_unreachable :
    let t0 := (threadStart (httpServerStart 80 true true).1 openOk).1
    let t := (runThread t0 [acceptAnswer ⟨-1, 11⟩]).1
    let n := failuresSinceReset (acceptEvents t0 [acceptAnswer ⟨-1, 11⟩])
    acceptEvent t unreachableAnswer = some (.failed true) ∧
    (iteration t unreachableAnswer).2 = [.select 3, .accept 3, .close 3, .sleepMs 500, .socket, .sleepMs 1000] ∧
    (true = true ↔ unreachableAnswer.accept.errno = 113 ∨ n + 1 = 32) ∧
      (iteration t unreachableAnswer).1.streak.toInt = (if true then 0 else n + 1) ∧
      ∃ rest, Op.socket ∉ rest ∧ (iteration t unreachableAnswer).2 =
        [.select t.srv.listenFd, .accept t.srv.listenFd] ++
          if true then (if 0 ≤ t.srv.listenFd.toInt then [.close t.srv.listenFd] else []) ++
            .sleepMs 500 :: .socket :: rest else [] :=
  have h : acceptEvent (runThread (threadStart (httpServerStart 80 true true).1 openOk).1
      [acceptAnswer ⟨-1, 11⟩]).1 unreachableAnswer = some (.failed true) := by decide
  ⟨h, by decide, (accept_streak_counts _ openOk [acceptAnswer ⟨-1, 11⟩]).2.2 unreachableAnswer true h⟩

/-! ## A failed reopen -/

/-- **After a failed reopen the loop waits on no socket.** When a recovery's reopen fails
(`socket`, `bind` or `listen` fails), the thread stays in its loop with nothing listening
and a negative `listen_fd`, and its next iteration that reads `running` true passes that
descriptor to `FD_SET` and `select` before anything else: the reopen is not retried. -/
theorem failed_reopen_selects_negative_fd (t : Thread) (a a' : Answers)
    (hrec : Op.socket ∈ (iteration t a).2)
    (hfail : a.reopen.socket.rc.toInt < 0 ∨ a.reopen.bind.rc.toInt < 0 ∨ a.reopen.listen.rc.toInt < 0)
    (hrun : a'.running = true) :
    let t' := (iteration t a).1
    t'.looping = true ∧ t'.srv.listening = false ∧ t'.srv.listenFd.toInt < 0 ∧
      (iteration t' a').2.head? = some (.select t'.srv.listenFd) := by
  rcases iteration_cases t a with ⟨-, h⟩ | ⟨-, -, h⟩ | ⟨-, -, -, -, h⟩ | ⟨-, -, -, -, h⟩ |
    ⟨-, -, -, -, -, h⟩ | ⟨-, -, -, -, -, -, h⟩ | ⟨-, -, -, -, -, -, h⟩ | ⟨-, -, -, -, h⟩ <;>
    rw [h] at hrec
  · cases hrec
  · cases mem_stopListening hrec
  · rcases List.mem_cons.mp hrec with hrec | hrec
    · cases hrec
    · cases mem_stopListening hrec
  · simp at hrec
  · simp at hrec
  · simp at hrec
  · obtain ⟨-, hres⟩ := socketRecovery_result
      { t.srv with running := true, lastErrno := a.accept.errno, stage := -5 } a.reopen
    rcases hres with ⟨hok, -⟩ | ⟨-, h1, h2, -⟩
    · rw [open_fails _ hfail] at hok; cases hok
    · rw [h]
      exact ⟨rfl, h1, h2, iteration_head rfl hrun⟩
  · simp at hrec

theorem failed_reopen_at_unreachable :
    let t := (threadStart (httpServerStart 80 true true).1 openOk).1
    let t' := (iteration t unreachableAnswer).1
    (Op.socket ∈ (iteration t unreachableAnswer).2 ∧ unreachableAnswer.reopen.socket.rc.toInt < 0) ∧
    t'.looping = true ∧ t'.srv.listening = false ∧ t'.srv.listenFd.toInt < 0 ∧
      (iteration t' idleAnswer).2.head? = some (.select t'.srv.listenFd) :=
  have h1 : Op.socket ∈ (iteration (threadStart (httpServerStart 80 true true).1 openOk).1
      unreachableAnswer).2 := by decide
  have h2 : unreachableAnswer.reopen.socket.rc.toInt < 0 := by decide
  ⟨⟨h1, h2⟩, failed_reopen_selects_negative_fd _ unreachableAnswer idleAnswer h1 (.inl h2) rfl⟩

/-! ## A failed select -/

/-- An iteration of a thread out of its loop changes nothing and calls nothing. -/
theorem iteration_of_not_looping {t : Thread} (h : t.looping = false) (a : Answers) :
    iteration t a = (t, []) := by
  simp [iteration, h]

/-- A thread out of its loop makes no more calls and stays as it is. -/
theorem runThread_of_not_looping {t : Thread} (h : t.looping = false) (as : List Answers) :
    runThread t as = (t, []) := by
  induction as with
  | nil => rfl
  | cons a as ih => simp [runThread, iteration_of_not_looping h, ih]

/-- An iteration whose `select` fails other than by `EINTR`: `select`, then the close of
the listening descriptor when there is one, and the thread out of its loop at stage -4. -/
theorem iteration_of_select_failure {t : Thread} {a : Answers} (hl : t.looping = true)
    (hr : a.running = true) (hs : a.select.rc.toInt < 0) (he : a.select.errno ≠ eintr) :
    iteration t a =
      (⟨{ t.srv with
            running := true, lastErrno := a.select.errno, stage := -4, listening := false,
            listenFd := if 0 ≤ t.srv.listenFd.toInt then -1 else t.srv.listenFd }, t.streak, false⟩,
        .select t.srv.listenFd :: if 0 ≤ t.srv.listenFd.toInt then [.close t.srv.listenFd] else []) := by
  by_cases hfd : 0 ≤ t.srv.listenFd.toInt <;>
    simp [iteration, stopListening, hl, hr, hs, he, hfd]

/-- An iteration whose `select` fails with `EBADF` (9). -/
def badSelectAnswer : Answers :=
  ⟨true, ⟨-1, 9⟩, false, ⟨-1, 0⟩, none, telemetryInit 0, openOk⟩

end RichNX.Http.Loop
