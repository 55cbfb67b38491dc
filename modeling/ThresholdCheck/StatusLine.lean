import ThresholdCheck.PerfData
import ThresholdCheck.Severity

/-!
# The status line

The one line a check reports: the severity, a message, and the performance data if there is any.

## Main definitions

* `StatusLine.render` — the line without its newline
* `StatusLine.printed` — a line as it is printed
-/

namespace ThresholdCheck

namespace StatusLine

/-- Severity and message. -/
def head (severity : Severity) (message : Text) : Text :=
  severity.label ++ " - ".toList ++ message

/-- The status line: items of performance data stand after a bar, with blanks between them. -/
def render (severity : Severity) (message : Text) (items : List PerfData) : Text :=
  if items.isEmpty then head severity message
  else head severity message ++ " | ".toList ++ Text.joinWith [' '] (items.map PerfData.text)

/-- A line as it is printed. -/
def printed (line : Text) : Text := line ++ ['\n']

theorem render_nil (severity : Severity) (message : Text) :
    render severity message [] = head severity message := rfl

end StatusLine

end ThresholdCheck
