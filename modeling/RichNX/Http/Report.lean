import RichNX.Http.Loop

/-! # What the server reports

Two facts about whole runs of the serving thread, whatever the system calls answer.
Every response it sends is the fixed 404 or a 200 whose `Content-Length` counts a body
that reads back as one JSON object: the debug fields of the server that answers, with
the request counted, or the telemetry fields of the record the iteration that sent it
copied. And the two
counters of the debug body count what the thread's calls show: `accepted_count` the
connections handed to `server_handle_client`, `request_count` those whose `recv`
succeeded, both modulo `2^64`. And `listening`, which the debug body reports beside
`listen_fd`, is true exactly when `listen_fd` holds a descriptor. -/
namespace RichNX.Http.Report
open RichNX.CString RichNX.Format RichNX.Json.Decoder RichNX.Telemetry.State RichNX.Telemetry.Json
open RichNX.Http.Server RichNX.Http.Loop

/-! ## Responses -/

/-- **Every response is well formed.** In every run of a server started by
`http_server_start`, with any answers of `socket`, `bind`, `listen`, `select`, `accept`
and `recv`, each response the thread sends is sent by one of its iterations, and it is
the fixed 404, or a 200 response whose `Content-Length` is the length of its body, and
the body reads back as one JSON object: the debug schema of the server
`server_handle_client` was given, with this request counted, or the telemetry schema of
the record that iteration copied. -/
theorem responses_well_formed (port : BitVec 16) (o : OpenAnswers) (as : List Answers)
    (c : BitVec 32) (s : HttpServer) (b : List UInt8)
    (h : Op.handleClient c s (some b) ∈ (serve port o as).2) :
    ∃ pre a post, as = pre ++ a :: post ∧
      Op.handleClient c s (some b) ∈ (iteration (serve port o pre).1 a).2 ∧
      (b = notFoundResponse ∨ ∃ body ms, b = okResponse body ∧ decodeObject body = some ms ∧
        (ms = debugSchema { s with requestCount := s.requestCount + 1 } ∨ ms = telemetrySchema a.telemetry)) := by
  rcases List.mem_append.mp h with h | h
  · exact absurd h (handleClient_not_mem_open _ _ _ _ _)
  obtain ⟨pre, a, post, has, h⟩ := mem_runThread h
  refine ⟨pre, a, post, has, h, ?_⟩
  obtain ⟨-, -, hx⟩ := handleClient_mem_iteration h
  cases hr : a.recv with
  | none => rw [hr] at hx; cases hx
  | some r =>
    rw [hr, serverHandleClient_some, Option.some.injEq] at hx
    subst hx
    split_ifs
    · exact .inr ⟨_, _, rfl, decodeObject_debugJsonText _, .inl rfl⟩
    · exact .inr ⟨_, _, rfl, decodeObject_telemetryJsonText _, .inr rfl⟩
    · exact .inl rfl

/-- An iteration that accepts descriptor 4 and receives `GET /x`. -/
def unknownPathAnswer : Answers :=
  ⟨true, ⟨1, 0⟩, true, ⟨4, 0⟩, some ⟨bytesOf "GET /x", by decide⟩, telemetryInit 0, openOk⟩

theorem responses_well_formed_at_unknown_path :
    Op.handleClient 4 ⟨true, 3, 80, 1, 0, 0, 4, true⟩ (some notFoundResponse) ∈
        (serve 80 openOk [unknownPathAnswer]).2 ∧
      ∃ pre a post, [unknownPathAnswer] = pre ++ a :: post ∧
        Op.handleClient 4 ⟨true, 3, 80, 1, 0, 0, 4, true⟩ (some notFoundResponse) ∈
          (iteration (serve 80 openOk pre).1 a).2 ∧
        (notFoundResponse = notFoundResponse ∨ ∃ body ms, notFoundResponse = okResponse body ∧
          decodeObject body = some ms ∧
          (ms = debugSchema ⟨true, 3, 80, 1, 0 + 1, 0, 4, true⟩ ∨ ms = telemetrySchema a.telemetry)) :=
  have h : Op.handleClient 4 ⟨true, 3, 80, 1, 0, 0, 4, true⟩ (some notFoundResponse) ∈
      (serve 80 openOk [unknownPathAnswer]).2 := by decide
  ⟨h, responses_well_formed 80 openOk _ 4 _ _ h⟩

/-! ## The counters of the debug body -/

/-- A call of `server_handle_client`: one accepted connection. -/
def served : Op → Bool
  | .handleClient .. => true
  | _ => false

/-- A call of `server_handle_client` whose `recv` succeeded, so that it sent a response. -/
def answered : Op → Bool
  | .handleClient _ _ x => x.isSome
  | _ => false

/-- The counters as the calls so far fix them. -/
structure Tallied (srv : HttpServer) (ops : List Op) : Prop where
  accepted : srv.acceptedCount.toNat = ops.countP served % 2 ^ 64
  requests : srv.requestCount.toNat = ops.countP answered % 2 ^ 64

/-- Two servers with the same counters. -/
def SameCounts (srv' srv : HttpServer) : Prop :=
  srv'.acceptedCount = srv.acceptedCount ∧ srv'.requestCount = srv.requestCount

theorem sameCounts_stopListening (srv : HttpServer) : SameCounts (stopListening srv).1 srv := by
  obtain ⟨fd, h⟩ := stopListening_fst srv
  rw [h]; exact ⟨rfl, rfl⟩

theorem sameCounts_open (srv : HttpServer) (a : OpenAnswers) :
    SameCounts (httpServerOpenListenSocket srv a).1 srv := by
  simp only [httpServerOpenListenSocket]
  split_ifs <;> exact ⟨rfl, rfl⟩

theorem sameCounts_socketRecovery (srv : HttpServer) (a : OpenAnswers) :
    SameCounts (socketRecovery srv a).1 srv :=
  have h1 := sameCounts_open (stopListening srv).1 a
  have h2 := sameCounts_stopListening srv
  ⟨h1.1.trans h2.1, h1.2.trans h2.2⟩

/-- Calls without a call of `server_handle_client` leave the counters as they were. -/
theorem Tallied.frame {srv srv' : HttpServer} {ops new : List Op} (ht : Tallied srv ops)
    (hc : SameCounts srv' srv) (hn : ∀ c s x, Op.handleClient c s x ∉ new) :
    Tallied srv' (ops ++ new) := by
  have hs : new.countP served = 0 := List.countP_eq_zero.mpr fun o ho => by
    cases o <;> first | exact absurd ho (hn _ _ _) | simp [served]
  have ha : new.countP answered = 0 := List.countP_eq_zero.mpr fun o ho => by
    cases o <;> first | exact absurd ho (hn _ _ _) | simp [answered]
  exact ⟨by rw [hc.1, List.countP_append, hs, Nat.add_zero]; exact ht.accepted,
    by rw [hc.2, List.countP_append, ha, Nat.add_zero]; exact ht.requests⟩

theorem Tallied.step {t : Thread} {ops : List Op} (ht : Tallied t.srv ops) (a : Answers) :
    Tallied (iteration t a).1.srv (ops ++ (iteration t a).2) := by
  rcases iteration_cases t a with ⟨-, h⟩ | ⟨-, -, h⟩ | ⟨-, -, -, -, h⟩ | ⟨-, -, -, -, h⟩ |
    ⟨-, -, -, -, -, h⟩ | ⟨-, -, -, -, -, -, h⟩ | ⟨-, -, -, -, -, -, h⟩ | ⟨-, -, -, -, h⟩ <;> rw [h]
  · simpa using ht
  · exact ht.frame (sameCounts_stopListening _) fun c s x hx => by cases mem_stopListening hx
  · refine ht.frame (sameCounts_stopListening _) fun c s x hx => ?_
    rcases List.mem_cons.mp hx with hx | hx
    · cases hx
    · cases mem_stopListening hx
  · exact ht.frame ⟨rfl, rfl⟩ fun c s x hx => by simp at hx
  · exact ht.frame ⟨rfl, rfl⟩ fun c s x hx => by simp at hx
  · exact ht.frame ⟨rfl, rfl⟩ fun c s x hx => by simp at hx
  · refine ht.frame (sameCounts_socketRecovery _ _) fun c s x hx => ?_
    rcases List.mem_append.mp hx with hx | hx
    · simp at hx
    · exact handleClient_not_mem_socketRecovery _ _ c s x hx
  · cases a.recv with
    | none =>
      exact ⟨by rw [List.countP_append]; exact toNat_succ_mod ht.accepted,
        by rw [List.countP_append]; exact ht.requests⟩
    | some r =>
      rw [serverHandleClient_some]
      exact ⟨by rw [List.countP_append]; exact toNat_succ_mod ht.accepted,
        by rw [List.countP_append]; exact toNat_succ_mod ht.requests⟩

theorem tallied_runThread {t : Thread} {ops : List Op} (ht : Tallied t.srv ops) (as : List Answers) :
    Tallied (runThread t as).1.srv (ops ++ (runThread t as).2) := by
  induction as generalizing t ops with
  | nil => simpa [runThread] using ht
  | cons a as ih => simpa [runThread, List.append_assoc] using ih (ht.step a)

/-- **The debug counters count connections and requests.** In every run of a server
started by `http_server_start`, with any answers of the system calls, `accepted_count` is
the number of connections the thread handed to `server_handle_client`, and
`request_count` the number of those whose `recv` succeeded, both modulo `2^64`. -/
theorem debug_counters_count (port : BitVec 16) (o : OpenAnswers) (as : List Answers) :
    (serve port o as).1.srv.acceptedCount.toNat = (serve port o as).2.countP served % 2 ^ 64 ∧
    (serve port o as).1.srv.requestCount.toNat = (serve port o as).2.countP answered % 2 ^ 64 := by
  have h0 : Tallied (threadStart (httpServerStart port true true).1 o).1.srv
      (threadStart (httpServerStart port true true).1 o).2 :=
    Tallied.frame (show Tallied (httpServerStart port true true).1 [] from ⟨rfl, rfl⟩)
      (sameCounts_open _ o) (handleClient_not_mem_open _ o)
  have h := tallied_runThread h0 as
  exact ⟨h.accepted, h.requests⟩

/-! ## Listening and the descriptor -/

/-- The debug body's `listening` and `listen_fd` agree: listening exactly when there is a
descriptor. -/
def ListenFdOk (srv : HttpServer) : Prop := srv.listening = true ↔ 0 ≤ srv.listenFd.toInt

theorem listenFdOk_stopListening (srv : HttpServer) : ListenFdOk (stopListening srv).1 := by
  unfold stopListening ListenFdOk
  split
  · exact ⟨fun h => absurd h Bool.false_ne_true,
      fun h => absurd h (show ¬(0 : Int) ≤ (-1 : BitVec 32).toInt by decide)⟩
  · exact ⟨fun h => absurd h Bool.false_ne_true, fun h => absurd h ‹_›⟩

/-- An open attempt on a server that is not listening leaves the two in agreement. -/
theorem listenFdOk_open (srv : HttpServer) (hl : srv.listening = false) (a : OpenAnswers) :
    ListenFdOk (httpServerOpenListenSocket srv a).1 := by
  rcases (open_result srv a).2 with ⟨-, h1, -, h3⟩ | ⟨-, h1, h2, -⟩
  · exact ⟨fun _ => h3, fun _ => h1⟩
  · refine ⟨fun h => ?_, fun h => absurd h (Int.not_le.mpr h2)⟩
    rw [h1, hl] at h
    cases h

theorem listenFdOk_socketRecovery (srv : HttpServer) (a : OpenAnswers) :
    ListenFdOk (socketRecovery srv a).1 := by
  rcases (socketRecovery_result srv a).2 with ⟨-, h1, -, h3⟩ | ⟨-, h1, h2, -⟩
  · exact ⟨fun _ => h3, fun _ => h1⟩
  · exact ⟨fun h => absurd (h1.symm.trans h) Bool.false_ne_true, fun h => absurd h (Int.not_le.mpr h2)⟩

theorem ListenFdOk.step {t : Thread} (h : ListenFdOk t.srv) (a : Answers) :
    ListenFdOk (iteration t a).1.srv := by
  rcases iteration_cases t a with ⟨-, he⟩ | ⟨-, -, he⟩ | ⟨-, -, -, -, he⟩ | ⟨-, -, -, -, he⟩ |
    ⟨-, -, -, -, -, he⟩ | ⟨-, -, -, -, -, -, he⟩ | ⟨-, -, -, -, -, -, he⟩ | ⟨-, -, -, -, he⟩ <;> rw [he]
  · exact h
  · exact listenFdOk_stopListening _
  · exact listenFdOk_stopListening _
  · exact h
  · exact h
  · exact h
  · exact listenFdOk_socketRecovery _ _
  · obtain ⟨n, hn⟩ := serverHandleClient_fst
      { t.srv with running := true, acceptedCount := t.srv.acceptedCount + 1 } a.telemetry a.recv
    rw [hn]
    exact h

theorem ListenFdOk.runThread {t : Thread} (h : ListenFdOk t.srv) (as : List Answers) :
    ListenFdOk (runThread t as).1.srv ∧
      ∀ c s x, Op.handleClient c s x ∈ (runThread t as).2 → ListenFdOk s := by
  induction as generalizing t with
  | nil => exact ⟨h, fun c s x hx => by cases hx⟩
  | cons a as ih =>
    obtain ⟨h1, h2⟩ := ih (h.step a)
    refine ⟨h1, fun c s x hx => ?_⟩
    rcases List.mem_append.mp hx with hx | hx
    · obtain ⟨-, rfl, -⟩ := handleClient_mem_iteration hx
      exact h
    · exact h2 c s x hx

/-- **`listening` means a descriptor.** In every run of a server started by
`http_server_start`, with any answers of the system calls, through failed opens,
recoveries and the exit path, `listening` is true exactly when `listen_fd` is not
negative, both in the thread's state and in every server `server_handle_client` is given,
whose debug body reports the two. -/
theorem listening_iff_descriptor (port : BitVec 16) (o : OpenAnswers) (as : List Answers) :
    ((serve port o as).1.srv.listening = true ↔ 0 ≤ (serve port o as).1.srv.listenFd.toInt) ∧
    ∀ c s x, Op.handleClient c s x ∈ (serve port o as).2 →
      (s.listening = true ↔ 0 ≤ s.listenFd.toInt) := by
  obtain ⟨h1, h2⟩ := ListenFdOk.runThread (t := (threadStart (httpServerStart port true true).1 o).1)
    (listenFdOk_open _ rfl o) as
  refine ⟨h1, fun c s x hx => ?_⟩
  rcases List.mem_append.mp hx with hx | hx
  · exact absurd hx (handleClient_not_mem_open _ _ _ _ _)
  · exact h2 c s x hx

end RichNX.Http.Report
