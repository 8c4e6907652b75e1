import StyleSnapshot.Comparison.Json
import StyleSnapshot.Decimal.Digits
import StyleSnapshot.Report.Basic

/-! Reports in structured output. -/
namespace StyleSnapshot

def FailureReason.toJson : FailureReason → Json
  | .mismatch c => .record [("kind", .string "css_mismatch".toList), ("comparison", c.toJson)]
  | .unexpectedOutput css =>
    .record [("kind", .string "unexpected_output".toList), ("actual_css", .string css)]
  | .compilerError message =>
    .record [("kind", .string "compiler_error".toList), ("message", .string message)]

def Outcome.toJson : Outcome → Json
  | .passed => .record [("status", .string "passed".toList)]
  | .failed reason => .record [("status", .string "failed".toList), ("reason", reason.toJson)]
  | .skipped reason =>
    .record [("status", .string "skipped".toList), ("reason", .string reason)]

def Counts.members (c : Counts) : List (String × Json) :=
  [("total", .ofNat c.total), ("passed", .ofNat c.passed), ("failed", .ofNat c.failed),
    ("skipped", .ofNat c.skipped)]

def FileSummary.toJson (s : FileSummary) : Json :=
  .record ([("path", .string s.path), ("fingerprint", .string s.fingerprint)] ++ s.counts.members)

def Failure.toJson (f : Failure) : Json :=
  .record [("file", .string f.file), ("group_name", .string f.group),
    ("ordinal", .ofNat f.ordinal), ("line", .ofNat f.line),
    ("input_tokens", .ofTexts f.tokens), ("reason", f.reason.toJson)]

namespace Report

def members (r : Report) : List (String × Json) :=
  r.counts.members ++
    [("files", .array (r.files.map (·.toJson))), ("failures", .array (r.failures.map (·.toJson))),
      ("skip_reasons", r.skipReasons.toJson .ofNat)] ++
    if r.unreadable.isEmpty then [] else [("unreadable_files", .ofTexts r.unreadable)]

def toJson (r : Report) : Json := .record r.members

def rateJson (r : Report) : Json :=
  match r.passRate? with
  | some rate => .number rate.toText
  | none => .null

end Report
end StyleSnapshot
