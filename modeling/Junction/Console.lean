/-!
# The console

Everything that a run writes goes through one console. Some entries carry a level; a quiet console
drops those and still takes the plain ones.

## Main definitions

* `Console.Level` — how important an entry is
* `Console.Entry` — one piece of output, plain or with a level
* `Console` — the entries written so far, and whether the console is quiet

## Main results

* `report_of_quiet` — a quiet console ignores an entry with a level
-/

namespace Junction

/-- How important an entry of the console is. -/
inductive Console.Level where
  /-- What a run does in its normal course. -/
  | info
  /-- What went wrong. -/
  | warning
  /-- Every single event. -/
  | debug
deriving DecidableEq, Repr, Inhabited

/-- The mark before an entry of a level. -/
def Console.Level.tag : Console.Level → String
  | info => "[INFO]"
  | warning => "[WARN]"
  | debug => "[DEBUG]"

/-- One piece of output. -/
inductive Console.Entry where
  /-- A text written as it is. -/
  | plain (text : String)
  /-- A line with the mark of its level, and possibly a text after the mark. -/
  | leveled (level : Console.Level) (text : Option String)
deriving DecidableEq, Repr, Inhabited

/-- The characters of an entry. -/
def Console.Entry.text : Console.Entry → String
  | plain text => text
  | leveled level none => level.tag ++ "\n"
  | leveled level (some text) => s!"{level.tag} {text}\n"

/-- A console: what was written so far, and whether entries with a level are dropped. -/
structure Console where
  /-- Whether entries with a level are dropped. -/
  quiet : Bool := false
  /-- The entries written so far, in order. -/
  entries : List Console.Entry := []
deriving DecidableEq, Repr, Inhabited

namespace Console

/-- Writes an entry without looking at its level. -/
def write (c : Console) (entry : Entry) : Console := { c with entries := c.entries ++ [entry] }

/-- Writes a text as it is. -/
def print (c : Console) (text : String) : Console := c.write (.plain text)

/-- Writes a text and ends the line. -/
def printLine (c : Console) (text : String) : Console := c.print (text ++ "\n")

/-- Writes a line with a level, unless the console is quiet. -/
def report (c : Console) (level : Level) (text : Option String) : Console :=
  if c.quiet then c else c.write (.leveled level text)

/-- Writes an information. -/
def info (c : Console) (text : String) : Console := c.report .info (some text)

/-- Writes a warning. -/
def warn (c : Console) (text : String) : Console := c.report .warning (some text)

/-- Writes a debug line. -/
def debug (c : Console) (text : String) : Console := c.report .debug (some text)

/-- Makes the console quiet or loud; the previous setting comes first. -/
def hush (c : Console) (quiet : Bool) : Bool × Console := (c.quiet, { c with quiet })

/-- All that was written. -/
def text (c : Console) : String := String.join (c.entries.map Entry.text)

/-- A line without the carriage return at its end, if there is one. -/
def withoutReturn (line : String) : String :=
  match line.toList.reverse with
  | '\r' :: rest => .ofList rest.reverse
  | _ => line

/-- The lines of a text. A line ends with a line feed, or with a carriage return and a line feed;
what follows the last line end counts as it is if there is any. -/
def linesOf (text : String) : List String :=
  let parts := text.splitOn "\n"
  parts.dropLast.map withoutReturn ++ parts.getLast?.toList.filter (· != "")

/-- The lines written so far. -/
def lines (c : Console) : List String := linesOf c.text

theorem report_of_quiet {c : Console} (h : c.quiet = true) (level : Level)
    (text : Option String) : c.report level text = c := by
  simp [report, h]

end Console

end Junction
