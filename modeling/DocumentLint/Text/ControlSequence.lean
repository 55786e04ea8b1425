/-! # Terminal control sequences

A control sequence begins with an escape character and ends with the character
that its kind asks for. Stripping takes the sequences and all control characters
but white space out of a text, which keeps a text without any as it is.
-/

namespace DocumentLint.Text.ControlSequence

def isIntermediate (c : Char) : Bool := 0x20 ≤ c.toNat && c.toNat ≤ 0x2F

def isParameter (c : Char) : Bool := 0x30 ≤ c.toNat && c.toNat ≤ 0x3F

/-- The parameters that only the first place may hold. -/
def isPrivate (c : Char) : Bool := 0x3C ≤ c.toNat && c.toNat ≤ 0x3F

def isFinal (c : Char) : Bool := 0x40 ≤ c.toNat && c.toNat ≤ 0x7E

/-- What a sequence with parameters is made of, one part after the other. -/
inductive Part where
  | start
  | parameters
  | intermediates
  | invalid
  deriving DecidableEq, Repr

/-- The part that a sequence is in after one more character, unless that ends it. -/
def Part.next? (p : Part) (c : Char) : Option Part :=
  if isFinal c then none
  else match p with
    | .start =>
      if isIntermediate c then some .intermediates
      else if isParameter c then some .parameters
      else some .start
    | .parameters =>
      if isIntermediate c then some .intermediates
      else if isPrivate c then some .invalid
      else some .parameters
    | .intermediates => if isParameter c then some .invalid else some .intermediates
    | .invalid => some .invalid

inductive State where
  | ground
  | escape
  | intermediates
  | control (p : Part)
  | device (p : Part)
  | command
  | data
  deriving DecidableEq, Repr

namespace State

/-- What follows an escape character decides the kind of the sequence. -/
def ofKind (c : Char) : State :=
  if c = '[' then .control .start
  else if c = ']' then .command
  else if c = 'P' then .device .start
  else if c = 'X' ∨ c = '^' ∨ c = '_' then .data
  else if isIntermediate c then .intermediates
  else if isParameter c || isFinal c then .ground
  else .escape

/-- The state after a character that is not shown. An escape character begins
anew and two control characters cancel, in whatever state. The data of a device
also end with the octet `0x9C`, even inside the encoding of another character. -/
def next (s : State) (c : Char) : State :=
  if c = '\x1b' then .escape
  else if c = '\x18' ∨ c = '\x1a' then .ground
  else match s with
    | .ground => .ground
    | .escape => ofKind c
    | .intermediates => if isParameter c || isFinal c then .ground else .intermediates
    | .control p =>
      match p.next? c with
      | some p => .control p
      | none => .ground
    | .device p =>
      match p.next? c with
      | some .invalid | none => .data
      | some p => .device p
    | .command => if c = '\x07' then .ground else .command
    | .data => if 0x9C ∈ String.utf8EncodeChar c then .ground else .data

def isSpace (c : Char) : Bool := c == '\t' || c == '\n' || c == '\x0c' || c == '\r'

/-- Control characters that are white space show inside a sequence too, unless
a device or a command takes them. -/
def shows (s : State) (c : Char) : Bool :=
  match s with
  | .ground => (0x20 ≤ c.toNat && c.toNat != 0x7F) || isSpace c
  | .escape | .intermediates | .control _ => isSpace c
  | .device _ | .command | .data => false

end State

/-- The characters that show. Behind one that does, all that would show outside
of sequences does as well, and what comes next finds the state as it was, unless
a character beyond ASCII has ended every sequence. -/
def shown (s : State) (running : Bool) : List Char → List Char
  | [] => []
  | c :: cs =>
    if (if running then .ground else s).shows c then
      c :: shown (if c.toNat < 0x80 then s else .ground) true cs
    else shown (s.next c) false cs

theorem shown_ground {cs : List Char} (h : ∀ c ∈ cs, State.ground.shows c) (running : Bool) :
    shown .ground running cs = cs := by
  induction cs generalizing running with
  | nil => rfl
  | cons c cs ih => simp_all [shown]

def strip (s : String) : String := String.ofList (shown .ground false s.toList)

end DocumentLint.Text.ControlSequence
