/-
Line ends: `CR LF` and a lone `CR` are read as `LF`.

* **`normalizeNewlines`** — the text with line feeds as its only line ends.
-/

namespace TapeMachine.Text

/-- Line ends made uniform, after the characters already `done`, which stand in reverse. -/
def normalizeNewlinesFrom (done : List Char) : List Char → List Char
  | [] => done.reverse
  | '\r' :: '\n' :: rest => normalizeNewlinesFrom ('\n' :: done) rest
  | '\r' :: rest => normalizeNewlinesFrom ('\n' :: done) rest
  | c :: rest => normalizeNewlinesFrom (c :: done) rest

/-- The characters with every line end turned into a line feed. -/
def normalizeNewlines (chars : List Char) : List Char :=
  normalizeNewlinesFrom [] chars

end TapeMachine.Text
