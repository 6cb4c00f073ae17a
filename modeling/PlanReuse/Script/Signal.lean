import PlanReuse.Script.Text

/-!
# Signals

Signals have numbers and names. Some end a process, some do nothing unless they are waited for.
-/

namespace PlanReuse.Script

/-- How a process has ended. -/
inductive Ending
  | exited (status : Nat)
  | killed (signal : Nat)
deriving DecidableEq

def signals : List (Nat × String) :=
  [(1, "HUP"), (2, "INT"), (3, "QUIT"), (4, "ILL"), (5, "TRAP"), (6, "ABRT"), (7, "BUS"), (8, "FPE"),
    (9, "KILL"), (10, "USR1"), (11, "SEGV"), (12, "USR2"), (13, "PIPE"), (14, "ALRM"), (15, "TERM"),
    (16, "STKFLT"), (17, "CHLD"), (18, "CONT"), (19, "STOP"), (20, "TSTP"), (21, "TTIN"), (22, "TTOU"),
    (23, "URG"), (24, "XCPU"), (25, "XFSZ"), (26, "VTALRM"), (27, "PROF"), (28, "WINCH"), (29, "IO"),
    (30, "PWR"), (31, "SYS")]

/-- The last signal. -/
def lastSignal : Nat := 64

/-- Whether a signal ends a process that has made no provision for it. -/
def isDeadly (signal : Nat) : Bool := signal ≠ 0 && !(17 ≤ signal && signal ≤ 23) && signal ≠ 28

/-- The name by which the shell knows a signal, or its number. The later ones are counted from the ends of
their range. -/
def signalName (signal : Nat) : String :=
  if signal = 0 then "EXIT"
  else if signal = 34 then "RTMIN"
  else if signal = lastSignal then "RTMAX"
  else if 35 ≤ signal ∧ signal ≤ 49 then "RTMIN+" ++ toString (signal - 34)
  else if 50 ≤ signal ∧ signal < lastSignal then "RTMAX-" ++ toString (lastSignal - signal)
  else if signal = 16 then "16"
  else (signals.lookup signal).getD (toString signal)

/-- The signal that a number or a name stands for; zero is the end of a process. -/
def signalOf? (s : String) : Option Nat :=
  if s.toList.all Char.isDigit ∧ s ≠ "" then (countOf? s).filter (· ≤ lastSignal)
  else (List.range (lastSignal + 1)).find? fun n => signalName n = s.toUpper


def Ending.message : Ending → String
  | .exited status => "exit status: " ++ toString status
  | .killed signal =>
    "signal: " ++ toString signal ++
      match signals.lookup signal with
      | some name => " (SIG" ++ name ++ ")"
      | none => ""

/-- What is said of the signals that end processes. -/
def signalTexts : List (Nat × String) :=
  [(1, "Hangup"), (3, "Quit"), (4, "Illegal instruction"), (5, "Trace/breakpoint trap"), (6, "Aborted"),
    (7, "Bus error"), (8, "Floating point exception"), (9, "Killed"), (10, "User defined signal 1"),
    (11, "Segmentation fault"), (12, "User defined signal 2"), (14, "Alarm clock"), (15, "Terminated"),
    (16, "Stack fault"), (24, "CPU time limit exceeded"), (25, "File size limit exceeded"),
    (26, "Virtual timer expired"), (27, "Profiling timer expired"), (29, "I/O possible"),
    (30, "Power failure"), (31, "Bad system call")]

/-- What a shell says when a process that it has waited for ends like this. Of an interrupt, of a closed
pipe and of a status nothing is said. -/
def Ending.notice : Ending → Option String
  | .exited _ => none
  | .killed signal => signalTexts.lookup signal

def Ending.isSuccess (e : Ending) : Bool := e == .exited 0

/-- The status by which another process learns of an ending. -/
def Ending.status : Ending → Nat
  | .exited status => status
  | .killed signal => 128 + signal

theorem Ending.isSuccess_iff (e : Ending) : e.isSuccess = true ↔ e = .exited 0 := by
  simp [isSuccess]

end PlanReuse.Script
