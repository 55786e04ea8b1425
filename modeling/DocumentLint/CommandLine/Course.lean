import DocumentLint.CommandLine.Run

/-! # Runs in any order

The linter runs on all files at once, and its runs end in any order. A course
tells the order, and what each invocation is answered; diagnostics are listed
when all of it is over.
-/

namespace DocumentLint.CommandLine

/-- How the invocations of a session end, each told by its number. -/
structure Course where
  order : List Nat
  answer : Nat → Answer

namespace Course

def finish (c : Course) (s : Session) (number : Nat) : Session :=
  s.finish number (.answered (c.answer number))

/-- Lets invocations end as the course has it, and handles all events then. -/
def await (c : Course) (s : Session) : Session :=
  let s := c.order.foldl c.finish s
  (s.poll s.inbox.length).2

end Course

namespace Job

def opened (j : Job) : Session := openAll j.settings j.documents

def targets (j : Job) : List Path := CommandLine.targets j.settings j.documents

/-- The invocations of a job, one for each target. -/
def started (j : Job) : List Invocation := j.opened.running

def conclude (j : Job) (c : Course) : Outcome :=
  CommandLine.conclude j.format j.documents (c.await j.opened)

end Job

/-- A run up to the writing of its output whose processes end as a course has it. -/
def runBy (w : Surroundings) (arguments : List Octets) (c : Course) : Outcome :=
  match prepare w arguments with
  | .error outcome => outcome
  | .ok job => job.conclude c

end DocumentLint.CommandLine
