import ServicePlan.Proofs.Registry

/-!
# What a registry tells of its history

A registry does not choose who uses it, or when.  Keys may be asked for before they are written,
written again, or read while the phase that owns them still goes on, and a phase may be completed
more than once.  Whatever the calls have been, what the registry answers next is decided by them
alone: by the first write of a key, by the phases that were completed, and by nothing else.

* `Registry.Call`, `Registry.answer`: a call, and what comes of it.
* `Registry.after`, `Registry.transcript`: a new registry after calls, and the calls with their
  answers.
* `Registry.IsLeftBy`: the entries and the complete phases, told by the calls; `IsLeftBy.answer`
  carries it over one call and `isLeftBy_after` over many.
* `Registry.Recalls`, `Registry.recalls_after`: all that a registry answers after calls.
-/

namespace ServicePlan.Registry

/-! ## Calls and answers -/

/-- What a registry can be asked to do. -/
inductive Call
  /-- Adding an entry. -/
  | write (key : Key) (handle : Handle)
  /-- Reading an entry. -/
  | read (key : Key) (requestedBy : String)
  /-- Marking a phase as complete. -/
  | complete (phase : Phase)

/-- What a call answers: a handle if it is a read, nothing if it is another call, and a fault if it
fails. -/
abbrev Answer := Except Fault (Option Handle)

/-- Makes a call.  A write that fails leaves the registry as it was. -/
def answer (r : Registry) : Call → Registry × Answer
  | .write key handle =>
    match r.write key handle with
    | .ok s => (s, .ok none)
    | .error f => (r, .error f)
  | .read key requestedBy =>
    ((r.read key requestedBy).1, (r.read key requestedBy).2.map some)
  | .complete phase => (r.complete phase, .ok none)

/-- Makes calls one after another, and keeps each of them with its answer. -/
def converse (r : Registry) : List Call → Registry × List (Call × Answer)
  | [] => (r, [])
  | call :: rest =>
    let next := r.answer call
    let last := next.1.converse rest
    (last.1, (call, next.2) :: last.2)

/-- A new registry after calls. -/
def after (calls : List Call) : Registry := (empty.converse calls).1

/-- Calls to a new registry, each with its answer. -/
def transcript (calls : List Call) : List (Call × Answer) := (empty.converse calls).2

variable {r : Registry} {calls : List Call} {key : Key} {handle : Handle} {phase : Phase}
  {requestedBy : String}

/-! ## Single calls -/

/-- A write of a key with an entry is refused. -/
theorem answer_write_of_contains (h : r.contains key = true) :
    r.answer (.write key handle) = (r, .error (.registeredTwice key)) := by
  have hwrite : r.write key handle = .error (.registeredTwice key) := if_pos h
  rw [answer, hwrite]

/-- A write of a key without an entry adds one. -/
theorem answer_write_of_not_contains (h : r.contains key = false) :
    r.answer (.write key handle) =
      ({ r with
        entries := r.entries ++ [(key, handle)], journal := r.journal ++ [.written key] },
        .ok none) := by
  rw [answer, write_eq_ok_iff.2 ⟨h, rfl⟩]

/-- A read before its phase is complete comes too early. -/
theorem find_of_not_isCompleted {owner : Phase} (howner : key.kind.owner? = some owner)
    (h : r.isCompleted owner = false) :
    r.find key requestedBy = .error (.readTooEarly key owner requestedBy) := by
  simp [find, howner, h]

/-- A read in time finds the entry, if there is one. -/
theorem find_of_isCompleted
    (h : ∀ owner, key.kind.owner? = some owner → r.isCompleted owner = true) :
    r.find key requestedBy =
      match r.get? key with
      | some handle => .ok handle
      | none => .error (.unregistered key requestedBy) := by
  rw [find]
  cases howner : key.kind.owner? with
  | none => rfl
  | some owner => exact if_pos (h owner howner)

/-! ## The journal -/

/-- What the journal notes of a call that was answered: everything but refused writes. -/
def noted? : Call × Answer → Option Event
  | (.write key _, .ok _) => some (.written key)
  | (.write _ _, .error _) => none
  | (.read key _, _) => some (.read key)
  | (.complete phase, _) => some (.completed phase)

theorem journal_answer (r : Registry) (call : Call) :
    (r.answer call).1.journal = r.journal ++ (noted? (call, (r.answer call).2)).toList := by
  cases call with
  | read key requestedBy => rfl
  | complete phase => rfl
  | write key handle =>
    cases h : r.contains key with
    | true =>
      rw [answer_write_of_contains h]
      exact (List.append_nil _).symm
    | false =>
      rw [answer_write_of_not_contains h]
      rfl

/-- The journal goes on with what is noted of the calls, in their order. -/
theorem journal_converse (r : Registry) (calls : List Call) :
    (r.converse calls).1.journal = r.journal ++ (r.converse calls).2.filterMap noted? := by
  induction calls generalizing r with
  | nil => exact (List.append_nil _).symm
  | cons call rest ih =>
    rw [converse]
    dsimp only
    rw [ih, journal_answer, List.append_assoc]
    congr 1
    rw [List.filterMap_cons]
    cases noted? (call, (r.answer call).2) <;> rfl

/-! ## What calls leave -/

/-- The handle that a call gives to a key. -/
def Call.given? (key : Key) : Call → Option Handle
  | .write other handle => if other = key then some handle else none
  | .read _ _ | .complete _ => none

/-- The handle that a key is given first. -/
def firstGiven? (calls : List Call) (key : Key) : Option Handle :=
  calls.findSome? (Call.given? key)

/-- The first write of a key gives it a handle. -/
def WrittenFirst (calls : List Call) (key : Key) (handle : Handle) : Prop :=
  ∃ before later, calls = before ++ .write key handle :: later ∧
    ∀ other, .write key other ∉ before

theorem Call.given?_eq_some_iff {call : Call} :
    call.given? key = some handle ↔ call = .write key handle := by
  cases call with
  | write other given => simp [given?, and_comm]
  | read other requestedBy => simp [given?]
  | complete phase => simp [given?]

/-- A key is given nothing exactly if it is not written. -/
theorem firstGiven?_eq_none_iff :
    firstGiven? calls key = none ↔ ∀ handle, .write key handle ∉ calls := by
  rw [firstGiven?, List.findSome?_eq_none_iff]
  constructor
  · intro h handle hwrite
    have hgiven := h _ hwrite
    rw [Call.given?_eq_some_iff.2 rfl] at hgiven
    cases hgiven
  · intro h call hcall
    cases hgiven : call.given? key with
    | none => rfl
    | some handle => exact absurd (Call.given?_eq_some_iff.1 hgiven ▸ hcall) (h handle)

theorem firstGiven?_eq_some_iff :
    firstGiven? calls key = some handle ↔ WrittenFirst calls key handle := by
  rw [firstGiven?, List.findSome?_eq_some_iff]
  constructor
  · rintro ⟨before, call, later, rfl, hgiven, hnone⟩
    obtain rfl := Call.given?_eq_some_iff.1 hgiven
    exact ⟨before, later, rfl, firstGiven?_eq_none_iff.1 (List.findSome?_eq_none_iff.2 hnone)⟩
  · rintro ⟨before, later, rfl, hnot⟩
    have hnone := firstGiven?_eq_none_iff.2 hnot
    exact ⟨before, _, later, rfl, Call.given?_eq_some_iff.2 rfl,
      List.findSome?_eq_none_iff.1 hnone⟩

/-- A further call gives a key its handle only if no call has done so before. -/
theorem firstGiven?_concat (call : Call) :
    firstGiven? (calls ++ [call]) key = (firstGiven? calls key).or (call.given? key) := by
  rw [firstGiven?, List.findSome?_append, List.findSome?_singleton]
  rfl

/-- The calls tell what entries a registry has and what phases are complete. -/
structure IsLeftBy (r : Registry) (calls : List Call) : Prop where
  /-- A key has the handle of its first write. -/
  entries : ∀ key, r.get? key = firstGiven? calls key
  /-- A phase is complete if it was completed, however often. -/
  completed : ∀ phase, r.isCompleted phase = true ↔ .complete phase ∈ calls

namespace IsLeftBy

theorem contains_eq (h : r.IsLeftBy calls) (key : Key) :
    r.contains key = (firstGiven? calls key).isSome := by
  rw [contains, h.entries]

/-- One more call is one more in what the registry tells. -/
theorem answer (h : r.IsLeftBy calls) (call : Call) :
    (r.answer call).1.IsLeftBy (calls ++ [call]) := by
  have hopen : (∀ phase, call ≠ .complete phase) →
      ∀ phase, r.isCompleted phase = true ↔ .complete phase ∈ calls ++ [call] := by
    intro hcall phase
    have hne : Call.complete phase ≠ call := (hcall phase).symm
    simpa [hne] using h.completed phase
  cases call with
  | read key requestedBy =>
    refine ⟨fun other => ?_, hopen (by simp)⟩
    rw [firstGiven?_concat]
    exact (h.entries other).trans Option.or_none.symm
  | complete phase =>
    constructor
    case entries =>
      intro other
      rw [firstGiven?_concat]
      exact (h.entries other).trans Option.or_none.symm
    case completed =>
      intro other
      have hother := h.completed other
      rw [isCompleted, List.contains_iff_mem] at hother
      simp [Registry.answer, Registry.complete, isCompleted, hother, eq_comm]
  | write key handle =>
    cases hcontains : r.contains key with
    | true =>
      -- the key has its handle, and keeps it
      rw [answer_write_of_contains hcontains]
      refine ⟨fun other => ?_, hopen (by simp)⟩
      rw [firstGiven?_concat, h.entries]
      by_cases hother : other = key
      · subst hother
        rw [h.contains_eq, Option.isSome_iff_exists] at hcontains
        obtain ⟨old, hold⟩ := hcontains
        rw [hold]
        rfl
      · simp [Call.given?, Ne.symm hother]
    | false =>
      rw [answer_write_of_not_contains hcontains]
      refine ⟨fun other => ?_, hopen (by simp)⟩
      have hget : r.entries.lookup other = firstGiven? calls other := h.entries other
      rw [get?, firstGiven?_concat, List.lookup_append, hget]
      by_cases hother : other = key
      · subst hother
        simp [Call.given?]
      · have hne : (other == key) = false := beq_eq_false_iff_ne.2 hother
        simp [Call.given?, Ne.symm hother, List.lookup_cons, hne]

/-- The same for many calls. -/
theorem converse (h : r.IsLeftBy calls) (later : List Call) :
    (r.converse later).1.IsLeftBy (calls ++ later) := by
  induction later generalizing r calls with
  | nil => rwa [List.append_nil]
  | cons call rest ih =>
    have hrest := ih (h.answer call)
    rwa [List.append_assoc] at hrest

end IsLeftBy

theorem isLeftBy_after (calls : List Call) : (after calls).IsLeftBy calls := by
  have hempty : empty.IsLeftBy [] := ⟨fun _ => rfl, fun _ => by simp [isCompleted, empty]⟩
  exact hempty.converse calls

/-! ## What a registry recalls -/

/-- A call fails with a fault of a kind. -/
def Fails (a : Answer) (kind : FaultKind) : Prop := ∃ f, a = .error f ∧ f.kind = kind

/-- The phase that owns a key, if there is one, was completed. -/
def InTime (calls : List Call) (key : Key) : Prop :=
  ∀ owner, key.kind.owner? = some owner → .complete owner ∈ calls

/-- What a registry answers, told by the calls before. -/
structure Recalls (r : Registry) (calls : List Call) : Prop where
  /-- There are entries for exactly the keys that were written. -/
  contains : ∀ key, r.contains key = true ↔ ∃ handle, .write key handle ∈ calls
  /-- A read comes too early exactly if the phase that owns the key was not completed, whether the
  key was written or not. -/
  early : ∀ key requestedBy, Fails (r.answer (.read key requestedBy)).2 .order ↔
    ∃ owner, key.kind.owner? = some owner ∧ .complete owner ∉ calls
  /-- A read in time finds the handle of the first write. -/
  found : ∀ key requestedBy handle, InTime calls key → WrittenFirst calls key handle →
    (r.answer (.read key requestedBy)).2 = .ok (some handle)
  /-- Without a write there is nothing to refer to. -/
  missing : ∀ key requestedBy, InTime calls key → (∀ handle, .write key handle ∉ calls) →
    Fails (r.answer (.read key requestedBy)).2 .reference
  /-- A key is written. -/
  fresh : ∀ key handle, (∀ other, .write key other ∉ calls) →
    (r.answer (.write key handle)).2 = .ok none
  /-- It is not written again, with whatever handle, and the attempt leaves no trace. -/
  once : ∀ key first handle, .write key first ∈ calls →
    Fails (r.answer (.write key handle)).2 .duplicate ∧ (r.answer (.write key handle)).1 = r
  /-- A read is noted, and changes nothing else. -/
  reads : ∀ key requestedBy,
    (r.answer (.read key requestedBy)).1 = { r with journal := r.journal ++ [.read key] }
  /-- The journal notes the writes that succeeded, all reads and all completions, in the order of
  the calls. -/
  journal : r.journal = (transcript calls).filterMap noted?
  /-- What was read once is read again, whatever happens in between. -/
  steady : ∀ key requestedBy handle, (r.answer (.read key requestedBy)).2 = .ok (some handle) →
    ∀ later again,
      ((after (calls ++ .read key requestedBy :: later)).answer (.read key again)).2 =
        .ok (some handle)

/-- A read in time answers with what the key was given first. -/
theorem IsLeftBy.answer_read (h : r.IsLeftBy calls) (htime : InTime calls key) :
    (r.answer (.read key requestedBy)).2 =
      match firstGiven? calls key with
      | some handle => .ok (some handle)
      | none => .error (.unregistered key requestedBy) := by
  have hfind : r.find key requestedBy = _ :=
    find_of_isCompleted fun owner howner => (h.completed owner).2 (htime owner howner)
  rw [h.entries] at hfind
  rw [Registry.answer]
  dsimp only [Registry.read]
  rw [hfind]
  cases firstGiven? calls key <;> rfl

/-- A read that does not come in time comes too early. -/
theorem IsLeftBy.fails_order (h : r.IsLeftBy calls) {owner : Phase}
    (howner : key.kind.owner? = some owner) (hnot : .complete owner ∉ calls) :
    Fails (r.answer (.read key requestedBy)).2 .order := by
  have hopen : r.isCompleted owner = false :=
    Bool.eq_false_iff.2 fun hcompleted => hnot ((h.completed owner).1 hcompleted)
  have hfind : r.find key requestedBy = .error (.readTooEarly key owner requestedBy) :=
    find_of_not_isCompleted howner hopen
  refine ⟨.readTooEarly key owner requestedBy, ?_, rfl⟩
  rw [Registry.answer]
  dsimp only [Registry.read]
  rw [hfind]
  rfl

/-- A read answers with a handle exactly if it is in time and the key was given the handle first. -/
theorem IsLeftBy.answer_read_eq_ok_iff (h : r.IsLeftBy calls) :
    (r.answer (.read key requestedBy)).2 = .ok (some handle) ↔
      InTime calls key ∧ firstGiven? calls key = some handle := by
  constructor
  · intro hread
    have htime : InTime calls key := by
      intro owner howner
      by_contra hnot
      have hfails : Fails (r.answer (.read key requestedBy)).2 .order :=
        h.fails_order howner hnot
      obtain ⟨f, hearly, -⟩ := hfails
      rw [hread] at hearly
      cases hearly
    refine ⟨htime, ?_⟩
    rw [h.answer_read htime] at hread
    cases hgiven : firstGiven? calls key with
    | none =>
      rw [hgiven] at hread
      cases hread
    | some found =>
      rw [hgiven] at hread
      exact Except.ok.inj hread
  · rintro ⟨htime, hgiven⟩
    rw [h.answer_read htime, hgiven]

/-- **What a registry answers is its history.**  After any calls to a new registry there are entries
for the keys that were written.  A read comes too early exactly if the phase that owns the key was
not completed; otherwise it finds the handle of the first write, and a broken reference without one.
A second write of a key is refused and leaves no trace, reads leave a note only, and the journal is
the list of all calls but the refused writes.  So what was read once is read ever after. -/
theorem recalls_after (calls : List Call) : (after calls).Recalls calls := by
  have hleft := isLeftBy_after calls
  constructor
  case contains =>
    intro key
    rw [hleft.contains_eq, Option.isSome_iff_ne_none, ne_eq, firstGiven?_eq_none_iff]
    simp only [not_forall, not_not]
  case early =>
    intro key requestedBy
    constructor
    · rintro ⟨f, hread, hkind⟩
      by_contra hnone
      have htime : InTime calls key := by
        intro owner howner
        by_contra hnot
        exact hnone ⟨owner, howner, hnot⟩
      rw [hleft.answer_read htime] at hread
      split at hread
      · cases hread
      · cases hread
        cases hkind
    · rintro ⟨owner, howner, hnot⟩
      exact hleft.fails_order howner hnot
  case found =>
    intro key requestedBy handle htime hfirst
    exact hleft.answer_read_eq_ok_iff.2 ⟨htime, firstGiven?_eq_some_iff.2 hfirst⟩
  case missing =>
    intro key requestedBy htime hnot
    refine ⟨.unregistered key requestedBy, ?_, rfl⟩
    rw [hleft.answer_read htime, firstGiven?_eq_none_iff.2 hnot]
  case fresh =>
    intro key handle hnot
    have hnew : (after calls).contains key = false := by
      rw [hleft.contains_eq, firstGiven?_eq_none_iff.2 hnot]
      rfl
    rw [answer_write_of_not_contains hnew]
  case once =>
    intro key first handle hwritten
    have hold : (after calls).contains key = true := by
      rw [hleft.contains_eq, Option.isSome_iff_ne_none, ne_eq, firstGiven?_eq_none_iff]
      exact fun hnot => hnot first hwritten
    rw [answer_write_of_contains hold]
    exact ⟨⟨.registeredTwice key, rfl, rfl⟩, rfl⟩
  case reads => exact fun key requestedBy => rfl
  case journal =>
    rw [after, journal_converse]
    rfl
  case steady =>
    intro key requestedBy handle hread later again
    obtain ⟨htime, hgiven⟩ := hleft.answer_read_eq_ok_iff.1 hread
    have hlater := isLeftBy_after (calls ++ .read key requestedBy :: later)
    refine hlater.answer_read_eq_ok_iff.2 ⟨fun owner howner => ?_, ?_⟩
    · exact List.mem_append_left _ (htime owner howner)
    · rw [firstGiven?] at hgiven ⊢
      rw [List.findSome?_append, hgiven]
      rfl

end ServicePlan.Registry
