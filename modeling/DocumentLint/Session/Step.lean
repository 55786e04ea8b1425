import DocumentLint.Session.Basic

/-! # Actions and steps

A session is acted upon from outside, and its invocations end at any moment in
between. A script drives a session by steps: it names the launches by their
numbers, and leaves no invocation waiting that launches nothing.
-/

namespace DocumentLint

/-- Whatever can happen to a session. -/
inductive Action where
  | trigger (path : Path) (language : Language)
  | close (path : Path)
  | finish (number : Nat) (ending : Ending)
  | poll (budget : Nat)
  | idle (ending : Invocation → Ending)
  | takeCompletions
  | takeNotices

inductive Step where
  | opened (path : Path) (language : Language)
  | saved (path : Path) (language : Language)
  | closed (path : Path)
  | finished (launch : Nat) (ending : Ending)
  | polled (budget : Nat)
  | idled (ending : Invocation → Ending)
  | tookCompletions
  | tookNotices

/-- What a step answers. -/
inductive Reply where
  | done
  | decided (decision : Decision)
  | wasRunning (yes : Bool)
  | handled (count : Nat)
  | completions (list : List Completion)
  | notices (list : List Notice)

namespace Reply

/-- The completions that a reply hands out. -/
def takenCompletions : Reply → List Completion
  | .completions list => list
  | _ => []

/-- The notices that a reply hands out. -/
def takenNotices : Reply → List Notice
  | .notices list => list
  | _ => []

end Reply

namespace Session

def isRunning (s : Session) (number : Nat) : Bool := s.running.any fun i => i.number == number

/-- What an action answers, and the session that it leaves. -/
def respond (s : Session) : Action → Reply × Session
  | .trigger path language => (s.trigger path language).map .decided id
  | .close path => (.done, s.close path)
  | .finish number ending => (.wasRunning (s.isRunning number), s.finish number ending)
  | .poll budget => (s.poll budget).map .handled id
  | .idle ending => (.done, s.idle ending)
  | .takeCompletions => s.takeCompletions.map .completions id
  | .takeNotices => s.takeNotices.map .notices id

def act (s : Session) (a : Action) : Session := (s.respond a).2

def answerTo (s : Session) (a : Action) : Reply := (s.respond a).1

/-- What a list of actions is answered. -/
def answers (s : Session) : List Action → List Reply
  | [] => []
  | a :: as => s.answerTo a :: (s.act a).answers as

theorem answerTo_poll (s : Session) (budget : Nat) :
    s.answerTo (.poll budget) = .handled (min budget s.inbox.length) :=
  congrArg Reply.handled (count_drain _ budget)

/-- A fresh session after a list of actions. -/
def after (settings : Settings) (actions : List Action) : Session := actions.foldl act { settings }

theorem settings_act (s : Session) (a : Action) : (s.act a).settings = s.settings := by
  cases a with
  | trigger path language =>
    change (s.trigger path language).2.settings = s.settings
    rw [trigger]
    split <;> rfl
  | finish number ending => exact settings_finish s number ending
  | poll budget => exact settings_drain _ budget
  | idle ending => exact (settings_drain _ _).trans (settings_finishes s ending _)
  | close | takeCompletions | takeNotices => rfl

theorem settings_acts (s : Session) (as : List Action) :
    (as.foldl act s).settings = s.settings := by
  induction as generalizing s with
  | nil => rfl
  | cons a as ih => rw [List.foldl_cons, ih, settings_act]

/-- The number of the invocation behind a launch; zero is the number of none. -/
def invocationOf (s : Session) (launch : Nat) : Nat :=
  ((0 :: s.launches.map (·.invocation))[launch]?).getD 0

/-- The action that a step begins with, and by which it is answered. -/
def actionOf (s : Session) : Step → Action
  | .opened path language | .saved path language => .trigger path language
  | .closed path => .close path
  | .finished launch ending => .finish (s.invocationOf launch) ending
  | .polled budget => .poll budget
  | .idled ending => .idle ending
  | .tookCompletions => .takeCompletions
  | .tookNotices => .takeNotices

/-- A trigger without a launch has its invocation end at once. -/
def followUps (s : Session) : Step → List Action
  | .opened path language | .saved path language =>
    match s.trigger path language with
    | (.scheduled _ none, s') => [.finish s'.scheduled (.answered (.error (.invalidTarget path)))]
    | _ => []
  | _ => []

def actionsOf (s : Session) (x : Step) : List Action := s.actionOf x :: s.followUps x

def replyTo (s : Session) (x : Step) : Reply := s.answerTo (s.actionOf x)

def step (s : Session) (x : Step) : Reply × Session := (s.replyTo x, (s.actionsOf x).foldl act s)

/-- What the steps of a script are answered. -/
def replies (s : Session) : List Step → List Reply
  | [] => []
  | x :: xs => (s.step x).1 :: (s.step x).2.replies xs

/-- A fresh session after a script. -/
def run (settings : Settings) (xs : List Step) : Session :=
  xs.foldl (fun s x => (s.step x).2) { settings }

/-- The actions of a script. -/
def script (s : Session) : List Step → List Action
  | [] => []
  | x :: xs => s.actionsOf x ++ (s.step x).2.script xs

theorem foldl_script (s : Session) (xs : List Step) :
    (s.script xs).foldl act s = xs.foldl (fun s x => (s.step x).2) s := by
  induction xs generalizing s with
  | nil => rfl
  | cons x xs ih =>
    rw [script, List.foldl_append, List.foldl_cons, ← ih]
    rfl

end Session

end DocumentLint
