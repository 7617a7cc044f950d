import RichNX.Format

/-! # The log file

`logger_write` appends one line to `LOG_PATH` while logging is enabled: the seconds
since boot, the line's number, the formatted message and a newline. `g_log_line`
counts the lines written, and it moves only after `fopen` succeeded. The file is stated
as a function of the calls: the lines of the writes made while logging is enabled whose
`fopen` succeeds, numbered 0, 1, 2, ... in order; the other writes add nothing, and no
line is ever rewritten. -/
namespace RichNX.Logger
open RichNX.CString RichNX.Format

/-- `g_logger_enabled`, `g_log_line`, and the lines the process appended to the file. -/
structure LoggerState where
  enabled : Bool
  logLine : BitVec 64
  file : List (List UInt8)

/-- The globals as the program starts, before any line. -/
def loggerInit : LoggerState := ⟨false, 0, []⟩

/-- `logger_set_enabled`. -/
def loggerSetEnabled (lg : LoggerState) (enabled : Bool) : LoggerState := { lg with enabled := enabled }

/-- The line `fprintf`, `vfprintf` and `fputc` write for message `msg`. -/
def logEntry (sec line : BitVec 64) (msg : List UInt8) : List UInt8 :=
  bytesOf "[" ++ decimal sec.toNat ++ bytesOf " s] [line=" ++ decimal line.toNat ++ bytesOf "] " ++
    msg ++ [10]

/-- `logger_vwrite`, and `logger_write` through it: `opened` is whether `fopen` succeeded,
`ns` the tick time in nanoseconds, `msg` what `vfprintf` formats. -/
def loggerVwrite (lg : LoggerState) (opened : Bool) (ns : BitVec 64) (msg : List UInt8) : LoggerState :=
  if !lg.enabled then lg
  else if !opened then lg
  else { lg with logLine := lg.logLine + 1, file := lg.file ++ [logEntry (ns / 1000000000) lg.logLine msg] }

/-- `logger_vwrite` appends the line numbered `g_log_line` and counts it exactly when
logging is enabled and `fopen` succeeded; otherwise it changes nothing. -/
theorem loggerVwrite_eq (lg : LoggerState) (opened : Bool) (ns : BitVec 64) (msg : List UInt8) :
    loggerVwrite lg opened ns msg = if lg.enabled && opened then
      ⟨lg.enabled, lg.logLine + 1, lg.file ++ [logEntry (ns / 1000000000) lg.logLine msg]⟩ else lg := by
  obtain ⟨e, n, f⟩ := lg
  cases e <;> cases opened <;> rfl

/-- A call of the logger's interface. -/
inductive LogCall
  | setEnabled (enabled : Bool)
  | write (opened : Bool) (ns : BitVec 64) (msg : List UInt8)

def LogCall.apply : LogCall → LoggerState → LoggerState
  | .setEnabled e, lg => loggerSetEnabled lg e
  | .write o ns msg, lg => loggerVwrite lg o ns msg

/-- The logger after a sequence of calls. -/
def runLog (lg : LoggerState) (calls : List LogCall) : LoggerState := calls.foldl (fun lg c => c.apply lg) lg

/-! ## What reaches the file -/

/-- The writes among `calls` that reach the file, with their tick time and message: those
made while logging is enabled, `enabled` being its state before the calls, whose `fopen`
succeeds. A write while logging is off, or after a failed `fopen`, is not among them. -/
def written (enabled : Bool) : List LogCall → List (BitVec 64 × List UInt8)
  | [] => []
  | .setEnabled e :: cs => written e cs
  | .write o ns msg :: cs => if enabled && o then (ns, msg) :: written enabled cs else written enabled cs

/-- The lines of the writes `ws`, numbered from `n` on. -/
def numberedLines (n : BitVec 64) : List (BitVec 64 × List UInt8) → List (List UInt8)
  | [] => []
  | (ns, msg) :: ws => logEntry (ns / 1000000000) n msg :: numberedLines (n + 1) ws

/-! ## Runs -/

/-- From any state, a run appends the numbered lines of the writes that reach the file and
nothing else, and `g_log_line` moves by their count. -/
theorem runLog_file (lg : LoggerState) (calls : List LogCall) :
    (runLog lg calls).file = lg.file ++ numberedLines lg.logLine (written lg.enabled calls) ∧
    (runLog lg calls).logLine.toNat = (lg.logLine.toNat + (written lg.enabled calls).length) % 2 ^ 64 := by
  induction calls generalizing lg with
  | nil => exact ⟨(List.append_nil _).symm, (Nat.mod_eq_of_lt lg.logLine.isLt).symm⟩
  | cons c cs ih =>
    cases c with
    | setEnabled e => exact ih (loggerSetEnabled lg e)
    | write o ns msg =>
      rw [show runLog lg (.write o ns msg :: cs) = runLog (loggerVwrite lg o ns msg) cs from rfl, written,
        loggerVwrite_eq]
      by_cases hw : (lg.enabled && o) = true
      · obtain ⟨hf, hl⟩ := ih ⟨lg.enabled, lg.logLine + 1, lg.file ++ [logEntry (ns / 1000000000) lg.logLine msg]⟩
        dsimp only at hf hl
        rw [if_pos hw, if_pos hw, numberedLines, hf, List.append_assoc, List.singleton_append, hl,
          List.length_cons, toNat_succ_mod (Nat.mod_eq_of_lt lg.logLine.isLt).symm]
        exact ⟨rfl, by omega⟩
      · rw [if_neg hw, if_neg hw]
        exact ih lg

/-- A write while logging is off and one whose `fopen` fails leave no line; the next
successful write is line 0. -/
example : (runLog loggerInit [.write true 0 [65], .setEnabled true, .write false 0 [66],
    .write true 3000000000 [67]]).file = [logEntry 3 0 [67]] := rfl

end RichNX.Logger
