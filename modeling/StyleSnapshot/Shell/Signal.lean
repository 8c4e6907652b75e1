import StyleSnapshot.Text.Basic

/-! Signals by number and name. -/
namespace StyleSnapshot.Signal

/-- The names of the signals. -/
def names : List (Nat × Text) :=
  [(1, "HUP".toList), (2, "INT".toList), (3, "QUIT".toList), (4, "ILL".toList),
    (5, "TRAP".toList), (6, "ABRT".toList), (7, "BUS".toList), (8, "FPE".toList),
    (9, "KILL".toList), (10, "USR1".toList), (11, "SEGV".toList), (12, "USR2".toList),
    (13, "PIPE".toList), (14, "ALRM".toList), (15, "TERM".toList), (16, "STKFLT".toList),
    (17, "CHLD".toList), (18, "CONT".toList), (19, "STOP".toList), (20, "TSTP".toList),
    (21, "TTIN".toList), (22, "TTOU".toList), (23, "URG".toList), (24, "XCPU".toList),
    (25, "XFSZ".toList), (26, "VTALRM".toList), (27, "PROF".toList), (28, "WINCH".toList),
    (29, "IO".toList), (30, "PWR".toList), (31, "SYS".toList)]

/-- What is said of a program that a signal ended. -/
def descriptions : List (Nat × Text) :=
  [(1, "Hangup".toList), (2, "Interrupt".toList), (3, "Quit".toList),
    (4, "Illegal instruction".toList), (5, "Trace/breakpoint trap".toList),
    (6, "Aborted".toList), (7, "Bus error".toList), (8, "Floating point exception".toList),
    (9, "Killed".toList), (10, "User defined signal 1".toList),
    (11, "Segmentation fault".toList), (12, "User defined signal 2".toList),
    (13, "Broken pipe".toList), (14, "Alarm clock".toList), (15, "Terminated".toList),
    (16, "Stack fault".toList), (24, "CPU time limit exceeded".toList),
    (25, "File size limit exceeded".toList), (26, "Virtual timer expired".toList),
    (27, "Profiling timer expired".toList), (29, "I/O possible".toList),
    (30, "Power failure".toList), (31, "Bad system call".toList)]

/-- The least number above those of signals. -/
def bound : Nat := 65

/-- The signals that end no program unless it asks for it: those that are ignored and
those that only halt it for a while. -/
def harmless : List Nat := [17, 18, 19, 20, 21, 22, 23, 28]

/-- The signal that programs get when their terminal goes away. -/
def hangup : Nat := 1

/-- The signal that a program gets for writing where nobody reads. -/
def brokenPipe : Nat := 13

/-- The name that a script has for a signal: the plain number where it knows none. -/
def scriptName (n : Nat) : Text :=
  if n = 0 then "EXIT".toList
  else if n = 16 then "16".toList
  else if n = 34 then "RTMIN".toList
  else if n = 64 then "RTMAX".toList
  else if 34 < n && n < 50 then "RTMIN+".toList ++ Text.ofNat (n - 34)
  else if 50 ≤ n && n < 64 then "RTMAX-".toList ++ Text.ofNat (64 - n)
  else (names.lookup n).getD (Text.ofNat n)

/-- The signal of a number or a name, case aside; none below `least`. -/
def ofScript? (least : Nat) (t : Text) : Option Nat :=
  if t ≠ [] && t.all Char.isDigit then ((String.ofList t).toNat?).filter (· < bound)
  else
    ((List.range bound).drop least).find? fun n => scriptName n = t.map Char.toUpper

end StyleSnapshot.Signal
