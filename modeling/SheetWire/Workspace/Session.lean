import SheetWire.Workspace.Resolution

/-!
# Sessions

A session is a workspace together with the index that references are bound with. Schemes come and go
while the index stays as it was built, so it may hold handles of schemes that are gone.
-/

namespace SheetWire

/-- A workspace and the index in use. -/
structure Session where
  workspace : Workspace
  index : Index

/-- What can happen in a session. -/
inductive SessionStep where
  | add (scheme : Scheme)
  | drop (number : Nat)
  | reindex (numbers : List Nat)
  | bind (numbers : List Nat)
  | resolve (numbers : List Nat)

namespace Session

/-- A session without schemes. -/
def start : Session :=
  ⟨Workspace.empty, ⟨[]⟩⟩

/-- The number that the next scheme gets. -/
def nextNumber (session : Session) : Nat :=
  session.workspace.schemes.length

/-- The session with one more scheme. -/
def add (session : Session) (scheme : Scheme) : Session :=
  { session with workspace := session.workspace.add scheme }

/-- The session without the scheme of a number. -/
def drop (session : Session) (number : Nat) : Session :=
  { session with workspace := session.workspace.drop number }

/-- The session with an index built anew from the schemes with the given numbers. -/
def reindex (session : Session) (numbers : List Nat) : Session :=
  { session with index := Index.build session.workspace numbers }

/-- Binds the references of the schemes with the given numbers by the index in use. -/
def bind (session : Session) (numbers : List Nat) : Session × Resolution :=
  let (workspace, resolution) := session.index.resolve session.workspace numbers
  ({ session with workspace := workspace }, resolution)

/-- Resolves the schemes with the given numbers against each other. -/
def resolve (session : Session) (numbers : List Nat) : Session × Resolution :=
  (session.reindex numbers).bind numbers

/-- The session after a step. -/
def after (session : Session) : SessionStep → Session
  | .add scheme => session.add scheme
  | .drop number => session.drop number
  | .reindex numbers => session.reindex numbers
  | .bind numbers => (session.bind numbers).1
  | .resolve numbers => (session.resolve numbers).1

/-- The session after some steps. -/
def run (session : Session) (steps : List SessionStep) : Session :=
  steps.foldl after session

end Session

end SheetWire
