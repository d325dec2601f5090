/-!
# Reports of failures

What went wrong is told by a message and the messages that caused it, each the
cause of the one before.  A report is written on one line or, for a person to
read, with its causes below.
-/

namespace Pinhole

/-- A message with the messages that caused it, the outermost first. -/
structure Report where
  message : String
  causes : List String
deriving DecidableEq, Repr

namespace Report

/-- Puts a message in front of what caused it. -/
def because (message : String) (report : Report) : Report :=
  ⟨message, report.message :: report.causes⟩

def alone (message : String) : Report := ⟨message, []⟩

/-- All messages on one line. -/
def line (report : Report) : String :=
  String.intercalate ": " (report.message :: report.causes)

/-- A text whose lines start at the same column, the first of them behind a
label. -/
def hanging (label text : String) : String :=
  let margin := "\n" ++ String.ofList (List.replicate label.length ' ')
  label ++ String.intercalate margin (text.splitOn "\n")

/-- The causes on lines of their own, numbered if there are several. -/
def causeLines : List String → List String
  | [] => []
  | [cause] => [hanging "    " cause]
  | causes =>
      causes.zipIdx.map fun (cause, number) =>
        let digits := toString number
        let padding := String.ofList (List.replicate (5 - digits.length) ' ')
        hanging (padding ++ digits ++ ": ") cause

/-- The message, and the causes below it. -/
def paragraphs (report : Report) : String :=
  match report.causes with
  | [] => report.message
  | causes =>
      report.message ++ "\n\nCaused by:\n" ++
        String.intercalate "\n" (causeLines causes)

end Report

end Pinhole
