/-
Reports: what a command tells the user on the standard error.

* **`Report.error`** — one failure;
* **`Report.usage`** — how the command is used.

Design notes:

* Reports are fit for a terminal: without controls and without tabs.  Nothing in them
  is wrapped.
* A usage text may name emoji.  The message of a failure may not: it holds user text.
-/
import TapeMachine.Text.Blank
import TapeMachine.Text.Console
import TapeMachine.Text.Emoji

namespace TapeMachine.Report

/-- A text as a terminal shows it, with a line feed at the end. -/
def shown (chars : List Char) : String :=
  String.ofList (Text.expandTabs (Text.dropControls chars) ++ ['\n'])

/-- The report of a failure. -/
def error (message : String) : String :=
  shown ("ERROR: " ++ message).toList

/-- The report of a usage text, without the blanks at its end. -/
def usage (text : String) : String :=
  shown (Text.Emoji.replace (Text.trimEnd text.toList))

end TapeMachine.Report
