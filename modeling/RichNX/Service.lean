import RichNX.Http.Control
import RichNX.Telemetry.Invariant

/-! # The service

The sysmodule runs the telemetry record and the HTTP server side by side: the Detection
Poller's `telemetry_update` calls and `telemetry_set_firmware` on one side, the serving
thread and its controller on the other. The two share the record only through
`telemetry_build_json`, which `server_handle_client` calls and which copies the record in
one critical section; the rest of an iteration touches the server alone, so an iteration
is one step here, taken at its copy. A step of the service is a step of the server and
its controller (`Http.Control`), an iteration being given the record as it is, or one
critical section on the record (`Telemetry.Invariant`).

Every run of the service is a run of each part, so what is proved of each part holds of
the service. And a client receives the fixed 404, a debug body, or the telemetry body of
a record the telemetry side reached: one that satisfies the record's invariant, and that
the client reads back field by field. -/
namespace RichNX.Service
open RichNX.CString RichNX.Json.Decoder RichNX.Telemetry.State RichNX.Telemetry.Json
open RichNX.Http.Server RichNX.Http.Loop
open RichNX.Telemetry.Invariant (Inv)

/-- The server with its controller, and the record with the updates between their two
critical sections. -/
structure Sys where
  server : Http.Control.Sys
  telemetry : Telemetry.Invariant.Sys

/-- After `telemetry_init` and `http_server_start`. -/
def init (port : BitVec 16) (created started : Bool) (ns : BitVec 64) : Sys :=
  ⟨Http.Control.sysInit port created started, ⟨telemetryInit ns, []⟩⟩

/-- The steps of an interleaving: the server's, an iteration copying the record as it is,
and the critical sections on the record. -/
inductive Step : Sys → Sys → Prop
  | openSocket (s : Sys) (o : OpenAnswers) (h1 : s.server.started = true)
      (h2 : s.server.opened = false) : Step s ⟨s.server.openSocket o, s.telemetry⟩
  | iterate (s : Sys) (a : Answers) (h : s.server.opened = true) :
      Step s ⟨s.server.iterate { a with telemetry := s.telemetry.st }, s.telemetry⟩
  | signal (s : Sys) (h : s.server.phase = .idle) : Step s ⟨s.server.signal, s.telemetry⟩
  | join (s : Sys) (h : s.server.phase = .waiting)
      (hl : s.server.opened = true ∧ s.server.thread.looping = false) : Step s ⟨s.server.join, s.telemetry⟩
  | record (s : Sys) (t : Telemetry.Invariant.Sys) (h : Telemetry.Invariant.Step s.telemetry t) :
      Step s ⟨s.server, t⟩

inductive Reachable (port : BitVec 16) (created started : Bool) (ns : BitVec 64) : Sys → Prop
  | init : Reachable port created started ns (init port created started ns)
  | step {s s' : Sys} : Reachable port created started ns s → Step s s' →
      Reachable port created started ns s'

/-! ## The two parts -/

/-- A step of the service is a step of the server, or leaves it as it is. -/
theorem Step.server {s s' : Sys} (h : Step s s') :
    Http.Control.Step s.server s'.server ∨ s'.server = s.server := by
  cases h with
  | openSocket o h1 h2 => exact .inl (.openSocket _ o h1 h2)
  | iterate a h => exact .inl (.iterate _ _ h)
  | signal h => exact .inl (.signal _ h)
  | join h hl => exact .inl (.join _ h hl)
  | record t _ => exact .inr rfl

/-- A step of the service is a critical section on the record, or leaves it as it is. -/
theorem Step.telemetry {s s' : Sys} (h : Step s s') :
    Telemetry.Invariant.Step s.telemetry s'.telemetry ∨ s'.telemetry = s.telemetry := by
  cases h with
  | record t h => exact .inl h
  | _ => exact .inr rfl

theorem Reachable.server {port : BitVec 16} {created started : Bool} {ns : BitVec 64} {s : Sys}
    (h : Reachable port created started ns s) : Http.Control.Reachable port created started s.server := by
  induction h with
  | init => exact .init
  | step _ hs ih => exact hs.server.elim (.step ih) (· ▸ ih)

theorem Reachable.telemetry {port : BitVec 16} {created started : Bool} {ns : BitVec 64} {s : Sys}
    (h : Reachable port created started ns s) : Telemetry.Invariant.Reachable ns s.telemetry := by
  induction h with
  | init => exact .init
  | step _ hs ih => exact hs.telemetry.elim (.step ih) (· ▸ ih)

/-! ## What a client receives -/

/-- What a client can receive: the fixed 404, the debug body of the server
`server_handle_client` was given with the request counted, or the telemetry body of a
record the telemetry side reached that satisfies `Inv`. -/
def Served (ns : BitVec 64) (srv : HttpServer) (b : List UInt8) : Prop :=
  b = notFoundResponse ∨
  b = okResponse (debugJsonText { srv with requestCount := srv.requestCount + 1 }) ∨
  ∃ t, Telemetry.Invariant.Reachable ns t ∧ Inv t.st ∧ b = okResponse (telemetryJsonText t.st)

/-- An iteration given a reached record sends only what `Served` allows. -/
theorem served_iteration {ns : BitVec 64} {t : Telemetry.Invariant.Sys}
    (ht : Telemetry.Invariant.Reachable ns t) (hi : Inv t.st) {th : Thread} {a : Answers}
    (hcopy : a.telemetry = t.st) {c : BitVec 32} {srv : HttpServer} {b : List UInt8}
    (hx : Op.handleClient c srv (some b) ∈ (iteration th a).2) : Served ns srv b := by
  obtain ⟨-, -, hx⟩ := handleClient_mem_iteration hx
  cases hr : a.recv with
  | none => rw [hr] at hx; cases hx
  | some r =>
    rw [hr, serverHandleClient_some, hcopy, Option.some.injEq] at hx
    subst hx
    split_ifs
    · exact .inr (.inl rfl)
    · exact .inr (.inr ⟨t, ht, hi, rfl⟩)
    · exact .inl rfl

/-- The record satisfies `Inv`, and every response sent so far is `Served`. -/
structure Sound (ns : BitVec 64) (s : Sys) : Prop where
  inv : Inv s.telemetry.st
  served : ∀ c srv b, Op.handleClient c srv (some b) ∈ s.server.calls → Served ns srv b

theorem Sound.step {port : BitVec 16} {created started : Bool} {ns : BitVec 64} {s s' : Sys}
    (hr : Reachable port created started ns s) (hs : Sound ns s) (h : Step s s') : Sound ns s' := by
  cases h with
  | openSocket o _ _ =>
    refine ⟨hs.inv, fun c srv b hx => ?_⟩
    rcases List.mem_append.mp hx with hx | hx
    · exact hs.served c srv b hx
    · exact absurd hx (handleClient_not_mem_open _ _ _ _ _)
  | iterate a _ =>
    refine ⟨hs.inv, fun c srv b hx => ?_⟩
    rcases List.mem_append.mp hx with hx | hx
    · exact hs.served c srv b hx
    · exact served_iteration hr.telemetry hs.inv rfl hx
  | signal _ => exact ⟨hs.inv, hs.served⟩
  | join _ _ => exact ⟨hs.inv, hs.served⟩
  | record t ht =>
    refine ⟨?_, hs.served⟩
    cases ht with
    | enter ns' allow => exact hs.inv.enter _ _
    | exit i a => exact hs.inv.exit _ _
    | setFirmware fw => exact hs.inv.setFirmware fw
    | buildJson => exact hs.inv

/-- **Clients see records the telemetry side reached.** In every interleaving of the
serving thread, its controller, any number of `telemetry_update` calls and
`telemetry_set_firmware`, after `telemetry_init` and `http_server_start`: the server and
its controller, and the record, each went through a run of their own; and every response
the serving thread has sent is the fixed 404, the debug body of its server, or the
telemetry body of a record the telemetry side reached (the server copies it in one
critical section and never writes it), which satisfies the record's invariant and which a
client reads back as that record's twenty fields. -/
theorem clients_see_reached_records (port : BitVec 16) (created started : Bool) (ns : BitVec 64)
    {s : Sys} (h : Reachable port created started ns s) :
    Http.Control.Reachable port created started s.server ∧
    Telemetry.Invariant.Reachable ns s.telemetry ∧
    ∀ c srv b, Op.handleClient c srv (some b) ∈ s.server.calls →
      b = notFoundResponse ∨
      b = okResponse (debugJsonText { srv with requestCount := srv.requestCount + 1 }) ∨
      ∃ t, Telemetry.Invariant.Reachable ns t ∧ Inv t.st ∧
        b = okResponse (telemetryJsonText t.st) ∧
        decodeObject (telemetryJsonText t.st) = some (telemetrySchema t.st) := by
  have hs : Sound ns s := by
    induction h with
    | init => exact ⟨Telemetry.Invariant.inv_telemetryInit ns, fun _ _ _ hx => by cases hx⟩
    | step hr hst ih => exact ih.step hr hst
  refine ⟨h.server, h.telemetry, fun c srv b hx => ?_⟩
  rcases hs.served c srv b hx with hb | hb | ⟨t, ht, hi, hb⟩
  · exact .inl hb
  · exact .inr (.inl hb)
  · exact .inr (.inr ⟨t, ht, hi, hb, decodeObject_telemetryJsonText t.st⟩)

/-- An iteration that accepts descriptor 4 and receives `GET /state`. -/
def stateAnswer : Answers :=
  ⟨true, ⟨1, 0⟩, true, ⟨4, 0⟩, some ⟨bytesOf "GET /state", by decide⟩, telemetryInit 0, openOk⟩

/-- A start, the open on descriptor 3, a firmware write, and a served `GET /state`. -/
def stateServed : Sys :=
  let s0 := init 80 true true 0
  let s1 : Sys := ⟨s0.server.openSocket openOk, s0.telemetry⟩
  let s2 : Sys := ⟨s1.server, ⟨telemetrySetFirmware s1.telemetry.st (some (bytesOf "18.1.0")), []⟩⟩
  ⟨s2.server.iterate { stateAnswer with telemetry := s2.telemetry.st }, s2.telemetry⟩

theorem clients_see_state_served :
    Reachable 80 true true 0 stateServed ∧
    Http.Control.Reachable 80 true true stateServed.server ∧
    Telemetry.Invariant.Reachable 0 stateServed.telemetry ∧
    ∀ c srv b, Op.handleClient c srv (some b) ∈ stateServed.server.calls →
      b = notFoundResponse ∨
      b = okResponse (debugJsonText { srv with requestCount := srv.requestCount + 1 }) ∨
      ∃ t, Telemetry.Invariant.Reachable 0 t ∧ Inv t.st ∧
        b = okResponse (telemetryJsonText t.st) ∧
        decodeObject (telemetryJsonText t.st) = some (telemetrySchema t.st) :=
  have h : Reachable 80 true true 0 stateServed :=
    .step (.step (.step .init (.openSocket _ openOk rfl rfl)) (.record _ _ (.setFirmware _ _)))
      (.iterate _ stateAnswer rfl)
  ⟨h, clients_see_reached_records 80 true true 0 h⟩

end RichNX.Service
