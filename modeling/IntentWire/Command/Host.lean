import IntentWire.Command.Settings
import IntentWire.Text.Grid

/-!
# Hosts

What a run depends on besides its command line and what it reads: the terminal that its output
goes to, if it goes to one, and the build of the program. On a terminal, a report is a table
unless another form is set, and tables are fitted to the terminal. Elsewhere it is JSON unless
another form is set, and tables are as wide as what is in them.
-/

namespace IntentWire.Command

open Text

/-- A terminal. -/
structure Terminal where
  /-- The text of a table, by its header and its rows, fitted to the terminal. -/
  fit : List String → List (List String) → String

/-- A terminal that every table fits into. -/
def Terminal.wide : Terminal where
  fit header rows := "\n".intercalate (Grid.render header rows)

/-- What is set when the program is built. -/
structure Build where
  target : Option String := none
  profile : Option String := none

/-- The lines that tell of a build. -/
def Build.lines (b : Build) : List String :=
  ["target: " ++ b.target.getD "unknown", "profile: " ++ b.profile.getD "unknown"]

/-- What a program runs on. -/
structure Host where
  /-- The terminal that the output goes to, if it goes to one. -/
  terminal : Option Terminal := none
  /-- The build of the program, where it is known. -/
  build : Option Build := none

namespace Host

/-- The form of the output where none is set. -/
def usualFormat (h : Host) : Format :=
  if h.terminal.isSome then .table else .json

/-- The lines of a table. -/
def table (h : Host) (header : List String) (rows : List (List String)) : List String :=
  match h.terminal with
  | some t => [t.fit header rows]
  | none => Grid.render header rows

/-- Tables are fitted to the terminal, and to nothing else. -/
theorem table_congr {h h' : Host} (ht : h.terminal = h'.terminal) : h.table = h'.table := by
  funext header rows
  rw [table, table, ht]

end Host

/-- The form of the output, that which is usual on the host unless set. -/
def Settings.outputFormat (s : Settings) (h : Host) : Format :=
  s.format.getD h.usualFormat

end IntentWire.Command
