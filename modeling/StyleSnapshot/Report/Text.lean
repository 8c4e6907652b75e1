import StyleSnapshot.Decimal.Digits
import StyleSnapshot.Report.Basic

/-! Reports as text for a reader: the failures up to a limit, the files that could not be
read, the counts, the reasons for skipping, and the pass rate. -/
namespace StyleSnapshot

/-- A line with its end. -/
def lineOf (parts : List Text) : Text := parts.flatten ++ ['\n']

/-- The tokens of a case in brackets. -/
def tokensText (tokens : List Text) : Text := '[' :: Text.join [',', ' '] tokens ++ [']']

namespace FailureReason

/-- How many characters of an unexpected output are shown. -/
def previewLength : Nat := 160

def missingLine (e : Text × List Declaration) : Text :=
  lineOf ["  missing selector ".toList, e.1, " (".toList, Text.ofNat e.2.length,
    " declaration(s))".toList]

def differenceLine (e : Text × Text × ValueDifference) : Text :=
  lineOf ["  ".toList, e.1, " \x7b ".toList, e.2.1, " \x7d: expected ".toList,
    Text.quoted e.2.2.expected, ", got ".toList, Text.quoted e.2.2.actual]

def toText : FailureReason → Text
  | .mismatch c => c.missing.entries.flatMap missingLine ++ c.failing.flatMap differenceLine
  | .unexpectedOutput css =>
    lineOf ["  expected empty output, got: ".toList, (Text.collapse css).take previewLength]
  | .compilerError message => lineOf ["  compiler error: ".toList, message]

end FailureReason

def Failure.toText (f : Failure) : Text :=
  lineOf ["FAIL ".toList, f.file, [':'], Text.ofNat f.line, [' '], f.group, " #".toList,
    Text.ofNat f.ordinal, [' '], tokensText f.tokens] ++ f.reason.toText

namespace Report

/-- The failures up to a limit, and how many there are. -/
def failuresText (limit : Nat) (failures : List Failure) : Text :=
  if failures = [] then []
  else
    lineOf ["\n".toList, Text.ofNat failures.length, " failure(s):".toList] ++
      (failures.take limit).flatMap (·.toText) ++
      if limit < failures.length then
        lineOf ["... and ".toList, Text.ofNat (failures.length - limit),
          " more failure(s)".toList]
      else []

def countsText (c : Counts) : Text :=
  lineOf ["\ntotal: ".toList, Text.ofNat c.total, ", passed: ".toList, Text.ofNat c.passed,
    ", failed: ".toList, Text.ofNat c.failed, ", skipped: ".toList, Text.ofNat c.skipped]

def rateText : Option Double → Text
  | some rate => "pass rate: ".toList ++ rate.toTenths ++ ['%']
  | none => "pass rate: n/a".toList

/-- The report with the details of at most `limit` failures. -/
def toText (limit : Nat) (r : Report) : Text :=
  failuresText limit r.failures ++
    r.unreadable.flatMap (fun path => lineOf ["unreadable fixture: ".toList, path]) ++
    countsText r.counts ++
    r.skipReasons.entries.flatMap (fun e =>
      lineOf ["skipped (".toList, e.1, "): ".toList, Text.ofNat e.2]) ++
    rateText r.passRate?

end Report
end StyleSnapshot
