import SqlScribe.Diagnostic

/-!
# Writing

Writing appends text to an `Output` and notes events in its log. It stops at the first error, and
then the output still holds all that was written before: an `Emit` is a state transformer whose
state outlives its errors.
-/

namespace SqlScribe

/-- The text written so far and the events noted so far, oldest first. -/
structure Output where
  sql : String := ""
  events : List Event := []
deriving DecidableEq

/-- An action that yields a value, or fails, and leaves an output in either case. -/
abbrev EmitM := EStateM Error Output

/-- An action that only writes. -/
abbrev Emit := EmitM Unit

namespace Emit

/-- Appends a text. -/
def write (text : String) : Emit :=
  modify fun o => { o with sql := o.sql ++ text }

/-- Notes an event. -/
def note (event : Event) : Emit :=
  modify fun o => { o with events := o.events ++ [event] }

/-- Writes nothing. -/
def nothing : Emit := pure ()

/-- Writes an action's text between two parentheses. -/
def parenthesized (body : Emit) : Emit := do
  write "("
  body
  write ")"

/-- Writes a text if a condition holds. -/
def writeIf (condition : Bool) (text : String) : Emit :=
  if condition then write text else nothing

/-- Writes an optional part behind the text that leads it in. -/
def led (lead : String) : Option Emit → Emit
  | none => nothing
  | some body => do
    write lead
    body

/-- Writes parts one after the other. -/
def inOrder : List Emit → Emit
  | [] => nothing
  | part :: parts => do
    part
    inOrder parts

/-- Writes parts with a separator between each two. -/
def separated (separator : String) : List Emit → Emit
  | [] => nothing
  | part :: parts => do
    part
    inOrder (parts.map fun next => do
      write separator
      next)

/-- Writes the parts of a clause behind the word that leads it in; a clause without parts is not
written. -/
def clause (lead separator : String) (parts : List Emit) : Emit :=
  if parts.isEmpty then nothing else do
    write lead
    separated separator parts

/-! ## What the steps do to an output -/

@[simp]
theorem write_apply (text : String) (o : Output) :
    write text o = .ok () { o with sql := o.sql ++ text } := rfl

@[simp]
theorem note_apply (event : Event) (o : Output) :
    note event o = .ok () { o with events := o.events ++ [event] } := rfl

@[simp]
theorem nothing_apply (o : Output) : nothing o = .ok () o := rfl

/-- The output of an action that starts from nothing. -/
def fresh (action : Emit) : Output :=
  match action {} with
  | .ok _ o => o
  | .error _ o => o

end Emit

end SqlScribe
