import ServicePlan.Fault

/-!
# The registry of resources

Phases hand resources on to later phases through the registry.  An entry is written once and read
any number of times, and entries of most kinds are held back until the phase that writes them is
complete.  Every write that succeeds, every read and every completion is noted in a journal.

* `Registry.write`, `Registry.read`, `Registry.complete`: the operations that are noted.
* `Registry.get?`, `Registry.contains`, `Registry.isCompleted`: looking without a note.
-/

namespace ServicePlan

namespace Registry

/-- What the journal notes. -/
inductive Event
  /-- An entry was written. -/
  | written (key : Key)
  /-- An entry was asked for, with or without success. -/
  | read (key : Key)
  /-- A phase was completed. -/
  | completed (phase : Phase)
  deriving DecidableEq, Repr

end Registry

/-- The entries, the completed phases and the journal. -/
structure Registry where
  /-- The entries, in the order they were written. -/
  entries : List (Registry.Key × Handle)
  /-- The phases that are complete. -/
  completed : List Phase
  /-- What happened, in order. -/
  journal : List Registry.Event
  deriving DecidableEq, Repr

namespace Registry

/-- The registry without entries. -/
def empty : Registry := ⟨[], [], []⟩

/-- The handle of an entry. -/
def get? (r : Registry) (key : Key) : Option Handle := r.entries.lookup key

/-- Whether there is an entry. -/
def contains (r : Registry) (key : Key) : Bool := (r.get? key).isSome

/-- Whether a phase is complete. -/
def isCompleted (r : Registry) (phase : Phase) : Bool := r.completed.contains phase

/-- Adds an entry; there must be none for the key. -/
def write (r : Registry) (key : Key) (handle : Handle) : Except Fault Registry :=
  if r.contains key then .error (.registeredTwice key)
  else .ok { r with
    entries := r.entries ++ [(key, handle)], journal := r.journal ++ [.written key] }

/-- What a read finds. -/
def find (r : Registry) (key : Key) (requestedBy : String) : Except Fault Handle :=
  let found : Except Fault Handle :=
    match r.get? key with
    | some handle => .ok handle
    | none => .error (.unregistered key requestedBy)
  match key.kind.owner? with
  | some owner =>
    if r.isCompleted owner then found else .error (.readTooEarly key owner requestedBy)
  | none => found

/-- The registry after a read. -/
def noteRead (r : Registry) (key : Key) : Registry :=
  { r with journal := r.journal ++ [.read key] }

/-- Reads an entry; the journal notes it even if there is none. -/
def read (r : Registry) (key : Key) (requestedBy : String) : Registry × Except Fault Handle :=
  (r.noteRead key, r.find key requestedBy)

/-- Marks a phase as complete. -/
def complete (r : Registry) (phase : Phase) : Registry :=
  { r with completed := r.completed ++ [phase], journal := r.journal ++ [.completed phase] }

end Registry

end ServicePlan
