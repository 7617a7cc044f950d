import RichNX.Http.Loop

/-! # The thread's descriptors

`http_server_thread` holds two kinds of descriptors: the socket that
`http_server_open_listen_socket` creates and keeps in `listen_fd`, and each connection
`accept` returns. `Held` is what the thread has open, and `Held.call` replays one of its
calls on it. The replay fails when a call opens a second socket while one is open, or
uses or closes a descriptor the thread does not have open; a call on a negative number
uses no descriptor. Of the system the replay assumes what it guarantees: a failed
`socket` returns -1, and `accept` returns a descriptor that is not already open, so not
the listening socket.

Every run of the thread replays without failure. Between two iterations the thread has
open exactly the socket in `listen_fd`, or nothing with `listen_fd = -1`; once it has
returned it has nothing open, `listening` is false and `listen_fd` is -1. A descriptor
leaves `Held` only by a `close` of it, and a `close` or a use needs it there, so each
descriptor `socket` or `accept` returned is closed exactly once and never used after. -/
namespace RichNX.Http.Descriptors
open RichNX.Http.Server RichNX.Http.Loop

/-- The descriptors the thread has open: from `socket`, and from `accept`. -/
structure Held where
  sockets : List (BitVec 32)
  clients : List (BitVec 32)
  deriving DecidableEq

/-- One call on what the thread has open, `socket` and `accept` returning `sock` and `acc`:
what is open after it, or `none` if it opens a second socket, or uses or closes a
descriptor that is not open. -/
def Held.call (sock acc : BitVec 32) (h : Held) : Op → Option Held
  | .socket =>
    if sock.toInt < 0 then some h
    else if h.sockets = [] then some { h with sockets := [sock] } else none
  | .bind fd => if fd ∈ h.sockets then some h else none
  | .listen fd => if fd ∈ h.sockets then some h else none
  | .select fd => if fd.toInt < 0 ∨ fd ∈ h.sockets then some h else none
  | .accept fd =>
    if fd.toInt < 0 ∨ fd ∈ h.sockets then
      some (if acc.toInt < 0 then h else { h with clients := acc :: h.clients })
    else none
  | .handleClient c _ _ => if c ∈ h.clients then some h else none
  | .close fd =>
    if fd ∈ h.sockets then some { h with sockets := h.sockets.erase fd }
    else if fd ∈ h.clients then some { h with clients := h.clients.erase fd } else none
  | .sleepMs _ => some h

/-- A sequence of calls, replayed in order. -/
def Held.calls (sock acc : BitVec 32) (h : Held) (ops : List Op) : Option Held :=
  ops.foldlM (Held.call sock acc) h

/-- What the thread has open between iterations, `fd` in `listen_fd`: that socket, if any. -/
def heldOf (fd : BitVec 32) : Held := ⟨if 0 ≤ fd.toInt then [fd] else [], []⟩

/-- The calls of a run, each iteration's replayed with the answers it got. -/
def heldRun (h : Held) : Thread → List Answers → Option Held
  | _, [] => some h
  | t, a :: as =>
    (Held.calls a.reopen.socket.rc a.accept.rc h (iteration t a).2).bind fun h =>
      heldRun h (iteration t a).1 as

/-- The calls of a server thread from its start, replayed from nothing open. -/
def serveHeld (port : BitVec 16) (o : OpenAnswers) (as : List Answers) : Option Held :=
  (Held.calls o.socket.rc (-1) ⟨[], []⟩ (threadStart (httpServerStart port true true).1 o).2).bind
    fun h => heldRun h (threadStart (httpServerStart port true true).1 o).1 as

/-- What the system guarantees of an iteration's answers: a failed reopen `socket` returns
-1, and a successful `accept` does not return the listening socket, which is open. -/
def SysAnswers (t : Thread) (a : Answers) : Prop :=
  (a.reopen.socket.rc.toInt < 0 → a.reopen.socket.rc = -1) ∧
  (0 ≤ a.accept.rc.toInt → a.accept.rc ≠ t.srv.listenFd)

instance (t : Thread) (a : Answers) : Decidable (SysAnswers t a) :=
  inferInstanceAs (Decidable (_ ∧ _))

/-- The guarantees over a run. -/
def SysRun : Thread → List Answers → Prop
  | _, [] => True
  | t, a :: as => SysAnswers t a ∧ SysRun (iteration t a).1 as

instance decSysRun : (t : Thread) → (as : List Answers) → Decidable (SysRun t as)
  | _, [] => isTrue trivial
  | t, a :: as =>
    have := decSysRun (iteration t a).1 as
    inferInstanceAs (Decidable (_ ∧ _))

/-! ## Replaying calls -/

theorem Held.calls_cons {sock acc : BitVec 32} {h h' : Held} {op : Op} (ops : List Op)
    (hc : Held.call sock acc h op = some h') :
    Held.calls sock acc h (op :: ops) = Held.calls sock acc h' ops := by
  simp [Held.calls, List.foldlM_cons, hc]

theorem Held.calls_append {sock acc : BitVec 32} {h h' : Held} {ops : List Op} (ops' : List Op)
    (hc : Held.calls sock acc h ops = some h') :
    Held.calls sock acc h (ops ++ ops') = Held.calls sock acc h' ops' := by
  simp only [Held.calls] at hc ⊢
  simp [List.foldlM_append, hc]

@[simp] theorem Held.calls_nil (sock acc : BitVec 32) (h : Held) : Held.calls sock acc h [] = some h :=
  rfl

theorem heldOf_of_neg {fd : BitVec 32} (h : fd.toInt < 0) : heldOf fd = ⟨[], []⟩ := by
  simp [heldOf, Int.not_le.mpr h]

@[simp] theorem heldOf_minusOne : heldOf (-1) = ⟨[], []⟩ := heldOf_of_neg (by decide)

/-- `select` runs on the listening descriptor, or on -1. -/
theorem call_select (fd sock acc : BitVec 32) :
    Held.call sock acc (heldOf fd) (.select fd) = some (heldOf fd) := by
  by_cases h : 0 ≤ fd.toInt
  · simp [Held.call, heldOf, h]
  · simp [Held.call, Int.not_le.mp h]

/-- So does `accept`, which opens the connection it returns. -/
theorem call_accept (fd sock acc : BitVec 32) :
    Held.call sock acc (heldOf fd) (.accept fd) =
      some (if acc.toInt < 0 then heldOf fd else { heldOf fd with clients := [acc] }) := by
  by_cases h : 0 ≤ fd.toInt
  · simp [Held.call, heldOf, h]
  · simp [Held.call, heldOf, h, Int.not_le.mp h]

/-- A connection other than the listening socket is served on and closed. -/
theorem calls_serve (fd sock acc : BitVec 32) (hne : acc ≠ fd) (srv : HttpServer)
    (sent : Option (List UInt8)) :
    Held.calls sock acc { heldOf fd with clients := [acc] } [.handleClient acc srv sent, .close acc] =
      some (heldOf fd) := by
  by_cases h : 0 ≤ fd.toInt
  · simp [Held.calls, Held.call, heldOf, h, hne]
  · simp [Held.calls, Held.call, heldOf, h]

/-- Stopping to listen closes the listening socket, if there is one, and leaves -1. -/
theorem calls_stopListening (srv : HttpServer) (sock acc : BitVec 32)
    (hm : srv.listenFd.toInt < 0 → srv.listenFd = -1) :
    Held.calls sock acc (heldOf srv.listenFd) (stopListening srv).2 = some ⟨[], []⟩ ∧
      (stopListening srv).1.listenFd = -1 := by
  unfold stopListening
  split
  · rename_i h
    exact ⟨by simp [Held.calls, Held.call, heldOf, h], rfl⟩
  · rename_i h
    exact ⟨by simp [heldOf_of_neg (Int.not_le.mp h)], hm (Int.not_le.mp h)⟩

/-- An open attempt, from nothing open, leaves open exactly the socket in `listen_fd`, or
nothing and -1. -/
theorem calls_open (srv : HttpServer) (a : OpenAnswers) (acc : BitVec 32)
    (hs : a.socket.rc.toInt < 0 → a.socket.rc = -1) :
    Held.calls a.socket.rc acc ⟨[], []⟩ (httpServerOpenListenSocket srv a).2.2 =
        some (heldOf (httpServerOpenListenSocket srv a).1.listenFd) ∧
      ((httpServerOpenListenSocket srv a).1.listenFd.toInt < 0 →
        (httpServerOpenListenSocket srv a).1.listenFd = -1) := by
  simp only [httpServerOpenListenSocket]
  by_cases h1 : a.socket.rc.toInt < 0
  · rw [if_pos h1]
    refine ⟨?_, fun _ => hs h1⟩
    rw [Held.calls_cons [] (show Held.call _ acc ⟨[], []⟩ .socket = some ⟨[], []⟩ by simp [Held.call, h1]),
      Held.calls_nil, heldOf_of_neg h1]
  rw [if_neg h1]
  have hsock : Held.call a.socket.rc acc ⟨[], []⟩ .socket = some ⟨[a.socket.rc], []⟩ := by
    simp [Held.call, h1]
  have hbind : Held.call a.socket.rc acc ⟨[a.socket.rc], []⟩ (.bind a.socket.rc) =
      some ⟨[a.socket.rc], []⟩ := by simp [Held.call]
  have hlisten : Held.call a.socket.rc acc ⟨[a.socket.rc], []⟩ (.listen a.socket.rc) =
      some ⟨[a.socket.rc], []⟩ := by simp [Held.call]
  have hclosed : Held.calls a.socket.rc acc ⟨[a.socket.rc], []⟩ [.close a.socket.rc] =
      some ⟨[], []⟩ := by simp [Held.calls, Held.call]
  by_cases h2 : a.bind.rc.toInt < 0
  · rw [if_pos h2]
    exact ⟨by rw [Held.calls_cons _ hsock, Held.calls_cons _ hbind, hclosed, heldOf_minusOne], fun _ => rfl⟩
  rw [if_neg h2]
  by_cases h3 : a.listen.rc.toInt < 0
  · rw [if_pos h3]
    exact ⟨by rw [Held.calls_cons _ hsock, Held.calls_cons _ hbind, Held.calls_cons _ hlisten, hclosed,
      heldOf_minusOne], fun _ => rfl⟩
  rw [if_neg h3]
  refine ⟨?_, fun h => absurd h h1⟩
  rw [Held.calls_cons _ hsock, Held.calls_cons _ hbind, Held.calls_cons _ hlisten, Held.calls_nil]
  simp only [heldOf, if_pos (Int.not_lt.mp h1)]

/-- A recovery closes the listening socket and leaves open what its reopen opened. -/
theorem calls_socketRecovery (srv : HttpServer) (a : OpenAnswers) (acc : BitVec 32)
    (hm : srv.listenFd.toInt < 0 → srv.listenFd = -1) (hs : a.socket.rc.toInt < 0 → a.socket.rc = -1) :
    Held.calls a.socket.rc acc (heldOf srv.listenFd) (socketRecovery srv a).2 =
        some (heldOf (socketRecovery srv a).1.listenFd) ∧
      ((socketRecovery srv a).1.listenFd.toInt < 0 → (socketRecovery srv a).1.listenFd = -1) := by
  obtain ⟨hc, -⟩ := calls_stopListening srv a.socket.rc acc hm
  obtain ⟨ho, hm'⟩ := calls_open (stopListening srv).1 a acc hs
  refine ⟨?_, hm'⟩
  simp only [socketRecovery]
  rw [Held.calls_append _ (by
    rw [Held.calls_append _ hc, Held.calls_cons _ (show Held.call _ _ _ (.sleepMs 500) = some ⟨[], []⟩ from rfl), ho])]
  split <;> rfl

/-! ## Runs -/

/-- What holds of the thread between iterations: a negative `listen_fd` is -1, and a thread
that has returned listens on nothing. -/
structure FdInv (t : Thread) : Prop where
  minusOne : t.srv.listenFd.toInt < 0 → t.srv.listenFd = -1
  returned : t.looping = false → t.srv.listening = false ∧ t.srv.listenFd = -1

theorem FdInv.of_looping {t : Thread} (hm : t.srv.listenFd.toInt < 0 → t.srv.listenFd = -1)
    (hl : t.looping = true) : FdInv t :=
  ⟨hm, fun h => by rw [hl] at h; cases h⟩

/-- One iteration replays without failure, from the listening socket to the next one. -/
theorem FdInv.step {t : Thread} (hi : FdInv t) {a : Answers} (ha : SysAnswers t a) :
    Held.calls a.reopen.socket.rc a.accept.rc (heldOf t.srv.listenFd) (iteration t a).2 =
        some (heldOf (iteration t a).1.srv.listenFd) ∧ FdInv (iteration t a).1 := by
  have hsel := call_select t.srv.listenFd a.reopen.socket.rc a.accept.rc
  have hacc := call_accept t.srv.listenFd a.reopen.socket.rc a.accept.rc
  rcases iteration_cases t a with ⟨-, h⟩ | ⟨-, -, h⟩ | ⟨-, -, -, -, h⟩ | ⟨-, -, -, -, h⟩ |
    ⟨-, -, -, hrc, -, h⟩ | ⟨-, -, -, hrc, -, -, h⟩ | ⟨-, -, -, hrc, -, -, h⟩ | ⟨-, -, -, hrc, h⟩ <;>
    rw [h]
  · exact ⟨rfl, hi⟩
  · obtain ⟨hc, hfd⟩ := calls_stopListening { t.srv with running := false } _ _ hi.minusOne
    exact ⟨by rw [hc, hfd, heldOf_minusOne], fun _ => hfd, fun _ => ⟨stopListening_listening _, hfd⟩⟩
  · obtain ⟨hc, hfd⟩ := calls_stopListening
      { t.srv with running := true, lastErrno := a.select.errno, stage := -4 } _ _ hi.minusOne
    exact ⟨by rw [Held.calls_cons _ hsel, hc, hfd, heldOf_minusOne], fun _ => hfd,
      fun _ => ⟨stopListening_listening _, hfd⟩⟩
  · exact ⟨by rw [Held.calls_cons _ hsel, Held.calls_nil], FdInv.of_looping hi.minusOne rfl⟩
  · exact ⟨by rw [Held.calls_cons _ hsel, Held.calls_cons _ hacc, if_pos hrc, Held.calls_nil],
      FdInv.of_looping hi.minusOne rfl⟩
  · exact ⟨by rw [Held.calls_cons _ hsel, Held.calls_cons _ hacc, if_pos hrc, Held.calls_nil],
      FdInv.of_looping hi.minusOne rfl⟩
  · obtain ⟨hc, hm⟩ := calls_socketRecovery
      { t.srv with running := true, lastErrno := a.accept.errno, stage := -5 } a.reopen a.accept.rc
      hi.minusOne ha.1
    refine ⟨?_, FdInv.of_looping hm rfl⟩
    rw [Held.calls_append _ (by rw [Held.calls_cons _ hsel, Held.calls_cons _ hacc, if_pos hrc,
      Held.calls_nil]), hc]
  · obtain ⟨n, hn⟩ := serverHandleClient_fst
      { t.srv with running := true, acceptedCount := t.srv.acceptedCount + 1 } a.telemetry a.recv
    refine ⟨?_, FdInv.of_looping (by rw [hn]; exact hi.minusOne) rfl⟩
    rw [Held.calls_cons _ hsel, Held.calls_cons _ hacc, if_neg (Int.not_lt.mpr hrc)]
    simp only [hn]
    exact calls_serve _ _ _ (ha.2 hrc) _ _

/-- A run replays without failure and keeps the invariant. -/
theorem heldRun_eq {t : Thread} (hi : FdInv t) {as : List Answers} (ha : SysRun t as) :
    heldRun (heldOf t.srv.listenFd) t as = some (heldOf (runThread t as).1.srv.listenFd) ∧
      FdInv (runThread t as).1 := by
  induction as generalizing t with
  | nil => exact ⟨rfl, hi⟩
  | cons a as ih =>
    obtain ⟨hc, hi'⟩ := hi.step ha.1
    obtain ⟨hr, hi''⟩ := ih hi' ha.2
    exact ⟨by rw [heldRun, hc, Option.some_bind, hr]; rfl, hi''⟩

/-- An iteration that reads `running` false returns: it closes the listening socket, if
there is one, and leaves nothing open, `listening` false and `listen_fd` -1. -/
theorem FdInv.stop {t : Thread} (hi : FdInv t) {a : Answers} (hr : a.running = false) (sock acc : BitVec 32) :
    Held.calls sock acc (heldOf t.srv.listenFd) (iteration t a).2 = some ⟨[], []⟩ ∧
      (iteration t a).1.looping = false ∧ (iteration t a).1.srv.listening = false ∧
      (iteration t a).1.srv.listenFd = -1 := by
  rcases iteration_cases t a with ⟨hl, h⟩ | ⟨-, -, h⟩ | ⟨-, hr', -⟩ | ⟨-, hr', -⟩ | ⟨-, hr', -⟩ |
    ⟨-, hr', -⟩ | ⟨-, hr', -⟩ | ⟨-, hr', -⟩
  · obtain ⟨h1, h2⟩ := hi.returned hl
    rw [h]
    exact ⟨by rw [Held.calls_nil, h2, heldOf_minusOne], hl, h1, h2⟩
  · obtain ⟨hc, hfd⟩ := calls_stopListening { t.srv with running := false } sock acc hi.minusOne
    rw [h]
    exact ⟨hc, rfl, stopListening_listening _, hfd⟩
  all_goals exact absurd (hr.symm.trans hr') (by decide)

theorem heldRun_append (h : Held) (t : Thread) (as bs : List Answers) :
    heldRun h t (as ++ bs) = (heldRun h t as).bind fun h' => heldRun h' (runThread t as).1 bs := by
  induction as generalizing h t with
  | nil => rfl
  | cons a as ih => simp only [List.cons_append, heldRun, List.append_eq, ih, Option.bind_assoc]; rfl

theorem serveHeld_append (port : BitVec 16) (o : OpenAnswers) (as bs : List Answers) :
    serveHeld port o (as ++ bs) = (serveHeld port o as).bind fun h => heldRun h (serve port o as).1 bs := by
  simp only [serveHeld, heldRun_append, Option.bind_assoc]; rfl

/-- The thread's first open, on a server not yet listening. -/
theorem threadStart_held (srv : HttpServer) (o : OpenAnswers)
    (hs : o.socket.rc.toInt < 0 → o.socket.rc = -1) (hl : srv.listening = false) :
    Held.calls o.socket.rc (-1) ⟨[], []⟩ (threadStart srv o).2 =
        some (heldOf (threadStart srv o).1.srv.listenFd) ∧ FdInv (threadStart srv o).1 := by
  obtain ⟨hc, hm⟩ := calls_open srv o (-1) hs
  refine ⟨hc, hm, fun h => ?_⟩
  have h' : (httpServerOpenListenSocket srv o).2.1 = false := h
  rcases (open_result srv o).2 with ⟨h1, -⟩ | ⟨-, h2, h3, -⟩
  · rw [h1] at h'; cases h'
  · exact ⟨h2.trans hl, hm h3⟩

/-- **The thread closes every descriptor it gets, once.** In every run of
`http_server_thread` started by `http_server_start`, with any answers of `socket`, `bind`,
`listen`, `select`, `accept` and `recv` that keep the system's guarantees (a failed
`socket` returns -1, `accept` never returns the open listening socket), over any number of
recoveries: the replay of its calls never opens a second socket while one is open, and
never uses or closes a descriptor that is not open; the thread has open exactly the socket
in `listen_fd`, which is -1 when there is none; once it has returned, after a failed
first open, a `select` failure or `running` turning false, it has nothing open,
`listening` is false and `listen_fd` is -1; and its next iteration that reads `running`
false returns, closing the listening socket. -/
theorem thread_descriptors_closed_once (port : BitVec 16) (o : OpenAnswers) (as : List Answers)
    (ho : o.socket.rc.toInt < 0 → o.socket.rc = -1)
    (has : SysRun (threadStart (httpServerStart port true true).1 o).1 as) :
    serveHeld port o as = some (heldOf (serve port o as).1.srv.listenFd) ∧
    ((serve port o as).1.srv.listenFd.toInt < 0 → (serve port o as).1.srv.listenFd = -1) ∧
    ((serve port o as).1.looping = false →
      heldOf (serve port o as).1.srv.listenFd = ⟨[], []⟩ ∧ (serve port o as).1.srv.listening = false ∧
        (serve port o as).1.srv.listenFd = -1) ∧
    ∀ a : Answers, a.running = false →
      serveHeld port o (as ++ [a]) = some ⟨[], []⟩ ∧ (serve port o (as ++ [a])).1.looping = false ∧
        (serve port o (as ++ [a])).1.srv.listening = false ∧ (serve port o (as ++ [a])).1.srv.listenFd = -1 := by
  obtain ⟨hc, hi⟩ := threadStart_held (httpServerStart port true true).1 o ho rfl
  obtain ⟨hr, hi'⟩ := heldRun_eq hi has
  have hheld : serveHeld port o as = some (heldOf (serve port o as).1.srv.listenFd) := by
    rw [serveHeld, hc, Option.some_bind, hr]; rfl
  refine ⟨hheld, hi'.minusOne, fun hl => ?_, fun a hra => ?_⟩
  · obtain ⟨h1, h2⟩ := hi'.returned hl
    exact ⟨(congrArg heldOf h2).trans heldOf_minusOne, h1, h2⟩
  · obtain ⟨hcalls, hl, h1, h2⟩ :=
      (show FdInv (serve port o as).1 from hi').stop hra a.reopen.socket.rc a.accept.rc
    rw [serveHeld_append, hheld, Option.some_bind, serve_append]
    exact ⟨by rw [heldRun, hcalls]; rfl, hl, h1, h2⟩

/-- A served connection on descriptor 4. -/
def servedOnFour : List Answers := [acceptAnswer ⟨4, 0⟩]

/-- An iteration that reads `running` false. -/
def stopAnswer : Answers := { idleAnswer with running := false }

theorem descriptors_after_served_then_stopped :
    (openOk.socket.rc.toInt < 0 → openOk.socket.rc = -1) ∧
    SysRun (threadStart (httpServerStart 80 true true).1 openOk).1 servedOnFour ∧
    (serveHeld 80 openOk (servedOnFour ++ [stopAnswer]) = some ⟨[], []⟩ ∧
      (serve 80 openOk (servedOnFour ++ [stopAnswer])).1.looping = false ∧
      Op.close 4 ∈ (serve 80 openOk (servedOnFour ++ [stopAnswer])).2 ∧
      Op.close 3 ∈ (serve 80 openOk (servedOnFour ++ [stopAnswer])).2) ∧
    serveHeld 80 openOk servedOnFour = some (heldOf (serve 80 openOk servedOnFour).1.srv.listenFd) ∧
    ((serve 80 openOk servedOnFour).1.srv.listenFd.toInt < 0 →
      (serve 80 openOk servedOnFour).1.srv.listenFd = -1) ∧
    ((serve 80 openOk servedOnFour).1.looping = false →
      heldOf (serve 80 openOk servedOnFour).1.srv.listenFd = ⟨[], []⟩ ∧
        (serve 80 openOk servedOnFour).1.srv.listening = false ∧
        (serve 80 openOk servedOnFour).1.srv.listenFd = -1) ∧
    ∀ a : Answers, a.running = false →
      serveHeld 80 openOk (servedOnFour ++ [a]) = some ⟨[], []⟩ ∧
        (serve 80 openOk (servedOnFour ++ [a])).1.looping = false ∧
        (serve 80 openOk (servedOnFour ++ [a])).1.srv.listening = false ∧
        (serve 80 openOk (servedOnFour ++ [a])).1.srv.listenFd = -1 :=
  have ho : openOk.socket.rc.toInt < 0 → openOk.socket.rc = -1 := by decide
  have has : SysRun (threadStart (httpServerStart 80 true true).1 openOk).1 servedOnFour := by decide
  have hc := thread_descriptors_closed_once 80 openOk servedOnFour ho has
  have hstop := hc.2.2.2 stopAnswer rfl
  ⟨ho, has, ⟨hstop.1, hstop.2.1, by decide, by decide⟩, hc⟩

end RichNX.Http.Descriptors
