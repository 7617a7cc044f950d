import RichNX.Telemetry.Json

/-! # Serving one connection

`server_handle_client` reads one request of at most 1023 bytes, counts it, and answers
by its first bytes: `GET /debug` with the server's own fields, `GET /state` and `GET / `
with the telemetry body, anything else with a fixed 404. Both bodies stay far inside
their buffers, and the header adds 120 bytes and the length's digits, so each 200
response carries its whole body after a `Content-Length` that counts it. -/
namespace RichNX.Http.Server
open RichNX.CString RichNX.Format RichNX.Json.Decoder RichNX.Telemetry.State
open RichNX.Telemetry.Json

/-- The fields of `HttpServer` the serving thread and the debug body use. -/
structure HttpServer where
  running : Bool
  listenFd : BitVec 32
  port : BitVec 16
  acceptedCount : BitVec 64
  requestCount : BitVec 64
  lastErrno : BitVec 32
  stage : BitVec 32
  listening : Bool
  deriving DecidableEq

/-- The text the `snprintf` of `http_server_build_debug_json` formats. -/
def debugJsonText (srv : HttpServer) : List UInt8 :=
  bytesOf "\x7b\"running\":" ++ bytesOf (if srv.running then "true" else "false") ++
  bytesOf ",\"listening\":" ++ bytesOf (if srv.listening then "true" else "false") ++
  bytesOf ",\"stage\":" ++ signedDecimal srv.stage.toInt ++
  bytesOf ",\"listen_fd\":" ++ signedDecimal srv.listenFd.toInt ++
  bytesOf ",\"port\":" ++ decimal srv.port.toNat ++
  bytesOf ",\"accepted_count\":" ++ decimal srv.acceptedCount.toNat ++
  bytesOf ",\"request_count\":" ++ decimal srv.requestCount.toNat ++
  bytesOf ",\"last_errno\":" ++ signedDecimal srv.lastErrno.toInt ++
  bytesOf "\x7d"

/-- `http_server_build_debug_json(server, out, out_size)`: what `out` holds. -/
def httpServerBuildDebugJson (srv : HttpServer) (outSize : Nat) : List UInt8 :=
  snprintf outSize (debugJsonText srv)

/-- The fixed part of the header of `send_http_json`, up to the length. -/
def okHeader : List UInt8 :=
  bytesOf "HTTP/1.1 200 OK\r\nContent-Type: application/json\r\n" ++
    bytesOf "Access-Control-Allow-Origin: *\r\nConnection: close\r\nContent-Length: "

/-- The bytes `send_http_json(client_fd, json_body)` hands to `send`: the response as
`snprintf` leaves it in `char response[4096]`, up to its NUL. -/
def sendHttpJson (jsonBody : List UInt8) : List UInt8 :=
  let bodyLen : BitVec 32 := BitVec.ofNat 32 (cstr jsonBody).length
  cstr (snprintf 4096 (okHeader ++ signedDecimal bodyLen.toInt ++ bytesOf "\r\n\r\n" ++
    cstr jsonBody))

/-- The bytes `send_http_not_found` sends: its literal without the NUL. -/
def notFoundResponse : List UInt8 :=
  bytesOf "HTTP/1.1 404 Not Found\r\nConnection: close\r\nContent-Length: 0\r\n\r\n"

/-- What `recv` left in `char req_buf[1024]`: at most 1023 bytes, NULs included. -/
structure Request where
  bytes : List UInt8
  fits : bytes.length ≤ 1023

/-- `server_handle_client`: the server afterwards, and the bytes it sends, for a request
`recv` delivered or `none` when `recv` failed. -/
def serverHandleClient (srv : HttpServer) (tel : TelemetryState) :
    Option Request → HttpServer × Option (List UInt8)
  | none => (srv, none)
  | some r =>
    let reqBuf := r.bytes ++ [0]
    let srv := { srv with requestCount := srv.requestCount + 1 }
    if strncmp reqBuf (bytesOf "GET /debug") 10 = 0 then
      (srv, some (sendHttpJson (httpServerBuildDebugJson srv 1024)))
    else if strncmp reqBuf (bytesOf "GET /state") 10 ≠ 0 ∧ strncmp reqBuf (bytesOf "GET / ") 6 ≠ 0 then
      (srv, some notFoundResponse)
    else (srv, some (sendHttpJson (telemetryBuildJson tel 2048)))

/-- A 200 response as the spec describes it: the fixed headers, a `Content-Length` equal
to the body's length, and the whole body. -/
def okResponse (body : List UInt8) : List UInt8 :=
  okHeader ++ decimal body.length ++ bytesOf "\r\n\r\n" ++ body

/-! ## The debug body -/

/-- The debug body as the schema describes it. -/
def debugSchema (srv : HttpServer) : List (List UInt8 × Scalar) :=
  [(bytesOf "running", .bool srv.running),
   (bytesOf "listening", .bool srv.listening),
   (bytesOf "stage", .num srv.stage.toInt),
   (bytesOf "listen_fd", .num srv.listenFd.toInt),
   (bytesOf "port", .num srv.port.toNat),
   (bytesOf "accepted_count", .num srv.acceptedCount.toNat),
   (bytesOf "request_count", .num srv.requestCount.toNat),
   (bytesOf "last_errno", .num srv.lastErrno.toInt)]

theorem debugJsonText_eq_writeObject (srv : HttpServer) :
    debugJsonText srv = writeObject (debugSchema srv) := by
  simp only [debugJsonText, writeObject, debugSchema, writeMembers, memberText, scalarText,
    signedDecimal_natCast, List.append_assoc, List.cons_append]
  rfl

theorem writable_debugSchema (srv : HttpServer) : ∀ m ∈ debugSchema srv, Writable m := by
  simp only [debugSchema, List.forall_mem_cons]
  exact ⟨.bool (by decide) _, .bool (by decide) _, .num (by decide) _, .num (by decide) _,
    .num (by decide) _, .num (by decide) _, .num (by decide) _, .num (by decide) _,
    fun _ h => by cases h⟩

/-- The longest debug body: 104 bytes of format text and every field at its widest. -/
theorem debugJsonText_length_le (srv : HttpServer) : (debugJsonText srv).length ≤ 192 := by
  have := signedDecimal_length_i32 srv.stage; have := signedDecimal_length_i32 srv.listenFd
  have := signedDecimal_length_i32 srv.lastErrno
  have := decimal_length_u64 srv.acceptedCount; have := decimal_length_u64 srv.requestCount
  have : (decimal srv.port.toNat).length ≤ 5 :=
    decimal_length_le (Nat.lt_of_lt_of_le srv.port.isLt (by norm_num)) (by norm_num)
  have h1 : (if srv.running then "true" else "false").data.length ≤ 5 := by split <;> decide
  have h2 : (if srv.listening then "true" else "false").data.length ≤ 5 := by split <;> decide
  simp only [debugJsonText, List.length_append, bytesOf_length, String.length, List.length_cons,
    List.length_nil]
  omega

theorem decodeObject_debugJsonText (srv : HttpServer) :
    decodeObject (debugJsonText srv) = some (debugSchema srv) := by
  rw [debugJsonText_eq_writeObject]
  exact decode_writeObject _ (writable_debugSchema srv)

/-- **The debug body reads back as the server's fields.** The body
`http_server_build_debug_json` writes into the 1024 bytes `server_handle_client` gives
it is the whole formatted text, at most 192 bytes, and reads back as one JSON object
with the eight fields of the debug schema in order. -/
theorem debug_json_reads_back (srv : HttpServer) :
    httpServerBuildDebugJson srv 1024 = debugJsonText srv ∧
    (httpServerBuildDebugJson srv 1024).length ≤ 192 ∧
    decodeObject (httpServerBuildDebugJson srv 1024) = some (debugSchema srv) := by
  have hlen := debugJsonText_length_le srv
  rw [httpServerBuildDebugJson, snprintf_of_length_lt (by omega)]
  exact ⟨rfl, hlen, decodeObject_debugJsonText srv⟩

/-! ## The response -/

theorem toInt_ofNat_of_lt {n : Nat} (h : n < 2 ^ 31) : (BitVec.ofNat 32 n).toInt = n := by
  rw [BitVec.toInt_eq_toNat_cond, BitVec.toNat_ofNat]
  split <;> omega

theorem zero_not_mem_okResponse {body : List UInt8} (h : (0 : UInt8) ∉ body) :
    (0 : UInt8) ∉ okResponse body := by
  simp only [okResponse, List.mem_append, not_or]
  refine ⟨⟨⟨by decide, fun h0 => ?_⟩, by decide⟩, h⟩
  exact absurd ((show ∀ c ∈ digitBytes, c ≠ 0 by decide) 0 (mem_decimal h0)) (by decide)

/-- A body without NUL and of at most 2047 bytes goes out whole, after its length. -/
theorem sendHttpJson_eq {body : List UInt8} (h0 : (0 : UInt8) ∉ body) (hlen : body.length ≤ 2047) :
    sendHttpJson body = okResponse body := by
  have hd : (decimal body.length).length ≤ 4 :=
    decimal_length_le (show body.length < 10 ^ 4 by omega) (by norm_num)
  have hok : (okResponse body).length < 4096 := by
    simp only [okResponse, okHeader, List.length_append, bytesOf_length, String.length,
      List.length_cons, List.length_nil]
    omega
  simp only [sendHttpJson, cstr_of_noNul h0, toInt_ofNat_of_lt (show body.length < 2 ^ 31 by omega),
    signedDecimal_natCast]
  rw [← okResponse, snprintf_of_length_lt hok, cstr_of_noNul (zero_not_mem_okResponse h0)]

theorem sendHttpJson_debug (srv : HttpServer) :
    sendHttpJson (httpServerBuildDebugJson srv 1024) = okResponse (debugJsonText srv) := by
  have hlen := debugJsonText_length_le srv
  rw [httpServerBuildDebugJson, snprintf_of_length_lt (by omega)]
  refine sendHttpJson_eq ?_ (by omega)
  rw [debugJsonText_eq_writeObject]
  exact zero_not_mem_of_printable (printable_writeObject (writable_debugSchema srv))

theorem sendHttpJson_telemetry (tel : TelemetryState) :
    sendHttpJson (telemetryBuildJson tel 2048) = okResponse (telemetryJsonText tel) := by
  have hlen := telemetryJsonText_length_le tel
  rw [telemetryBuildJson_2048]
  exact sendHttpJson_eq (zero_not_mem_telemetryJsonText tel) (by omega)

/-- `server_handle_client` on a request `recv` delivered: the request counted, and one
response chosen by the request's first bytes. -/
theorem serverHandleClient_some (srv : HttpServer) (tel : TelemetryState) (r : Request) :
    serverHandleClient srv tel (some r) =
      ({ srv with requestCount := srv.requestCount + 1 },
        some (if bytesOf "GET /debug" <+: r.bytes then
            okResponse (debugJsonText { srv with requestCount := srv.requestCount + 1 })
          else if bytesOf "GET /state" <+: r.bytes ∨ bytesOf "GET / " <+: r.bytes then
            okResponse (telemetryJsonText tel)
          else notFoundResponse)) := by
  have hd := strncmp_request r.bytes (show (0 : UInt8) ∉ bytesOf "GET /debug" by decide)
    (show 10 ≤ (bytesOf "GET /debug").length by decide)
  have hs := strncmp_request r.bytes (show (0 : UInt8) ∉ bytesOf "GET /state" by decide)
    (show 10 ≤ (bytesOf "GET /state").length by decide)
  have hr := strncmp_request r.bytes (show (0 : UInt8) ∉ bytesOf "GET / " by decide)
    (show 6 ≤ (bytesOf "GET / ").length by decide)
  rw [List.take_of_length_le (by decide)] at hd hs hr
  simp only [serverHandleClient, ne_eq, hd, hs, hr, ← not_or, ite_not, sendHttpJson_debug,
    sendHttpJson_telemetry]
  split_ifs <;> rfl

/-- **One request, one response.** For every request `recv` delivers (any 0 to 1023
bytes) and every server and telemetry state, `server_handle_client` counts the request
once and sends exactly one response: the debug body if the request starts with
`GET /debug`, else the telemetry body if it starts with `GET /state` or `GET / `, each
whole after a `Content-Length` that counts it, else the fixed 404. When `recv` fails it
sends nothing and changes nothing. -/
theorem handle_client_routes (srv : HttpServer) (tel : TelemetryState) (r : Request) :
    let srv' := { srv with requestCount := srv.requestCount + 1 }
    serverHandleClient srv tel (some r) =
      (srv', some (if bytesOf "GET /debug" <+: r.bytes then okResponse (debugJsonText srv')
        else if bytesOf "GET /state" <+: r.bytes ∨ bytesOf "GET / " <+: r.bytes then
          okResponse (telemetryJsonText tel)
        else notFoundResponse)) ∧
    serverHandleClient srv tel none = (srv, none) :=
  ⟨serverHandleClient_some srv tel r, rfl⟩

end RichNX.Http.Server
