import ServicePlan.Naming
import ServicePlan.Plan.Basic
import ServicePlan.Splits

/-!
# When names coincide

Behind the api name, the name of a function spells its branch and its key with a separator between
them, and the name of a function that all branches share spells the key alone.  The separator may
occur in a branch and in a key as well, so the text does not say where the branch ends.

* `Naming.Respells`: two ways to spell one text.
* `function_eq_iff`: two functions have one name exactly if they are the same or spell one text.
* `function_injective_of_readings`: without a separator in branches and in the keys of shared
  functions, different functions have different names.
* `push_of_contains`: a plan refuses a second resource of one name.
* `names_coincide_iff_respells`: all of it, for functions, their queues and batch jobs.
-/

namespace ServicePlan

namespace Naming

/-! ## The text behind the api name -/

/-- What the name of a function says behind the api name and a separator. -/
def spelling (key : String) : Option String → String
  | some branch => branch ++ "-" ++ key
  | none => key

theorem function_eq (n : Naming) (key : String) (branch : Option String) :
    n.function key branch = n.apiName ++ "-" ++ spelling key branch := by
  cases branch <;> simp [function, spelling, String.append_assoc]

theorem job_eq (n : Naming) (key branch : String) :
    n.job key branch = n.function key (some branch) := rfl

/-- Two different pairs of a branch and a key that spell one text: one branch goes on behind a
separator with what the other key starts with, or there is only one branch, and it is in the key of
the other pair. -/
def Respells (key : String) (branch : Option String) (key' : String) (branch' : Option String) :
    Prop :=
  match branch, branch' with
  | some b, some b' =>
    (∃ middle, b' = b ++ "-" ++ middle ∧ key = middle ++ "-" ++ key') ∨
      ∃ middle, b = b' ++ "-" ++ middle ∧ key' = middle ++ "-" ++ key
  | some b, none => key' = b ++ "-" ++ key
  | none, some b' => key = b' ++ "-" ++ key'
  | none, none => False

/-- Two texts with a separator are the same exactly if their parts are, or if one part before the
separator goes on with it. -/
theorem joined_eq_iff {b k b' k' : String} :
    b ++ "-" ++ k = b' ++ "-" ++ k' ↔
      (b = b' ∧ k = k') ∨ (∃ m, b' = b ++ "-" ++ m ∧ k = m ++ "-" ++ k') ∨
        ∃ m, b = b' ++ "-" ++ m ∧ k' = m ++ "-" ++ k := by
  have hjoin : ∀ x y z : String, x = y ++ "-" ++ z ↔ x.toList = y.toList ++ '-' :: z.toList := by
    intro x y z
    rw [← String.toList_inj]
    simp
  have hmiddle : ∀ x y u v : String,
      (∃ m : String, x = y ++ "-" ++ m ∧ u = m ++ "-" ++ v) ↔
        ∃ m : List Char, x.toList = y.toList ++ '-' :: m ∧ u.toList = m ++ '-' :: v.toList := by
    intro x y u v
    constructor
    · rintro ⟨m, hx, hu⟩
      exact ⟨m.toList, (hjoin ..).1 hx, (hjoin ..).1 hu⟩
    · rintro ⟨m, hx, hu⟩
      refine ⟨String.ofList m, (hjoin ..).2 ?_, (hjoin ..).2 ?_⟩
      · rw [String.toList_ofList, hx]
      · rw [String.toList_ofList, hu]
  rw [hjoin, hmiddle, hmiddle, ← String.toList_inj, ← @String.toList_inj k]
  simpa using append_cons_eq_iff

/-! ## Functions -/

/-- Two functions have one name exactly if they are the same or spell one text. -/
theorem function_eq_iff (n : Naming) (key : String) (branch : Option String) (key' : String)
    (branch' : Option String) :
    n.function key branch = n.function key' branch' ↔
      (branch = branch' ∧ key = key') ∨ Respells key branch key' branch' := by
  rw [function_eq, function_eq, String.append_right_inj]
  cases branch with
  | some b =>
    cases branch' with
    | some b' => simpa only [spelling, Respells, Option.some.injEq] using joined_eq_iff
    | none => simp [spelling, Respells, eq_comm]
  | none =>
    cases branch' with
    | some b' => simp [spelling, Respells]
    | none => simp [spelling, Respells]

/-- What a name must not hold for the pairs to be read back from it: the branch, and the key where
there is no branch. -/
def reading (key : String) (branch : Option String) : String := branch.getD key

/-- Without the separator where it would be misread, different functions have different names. -/
theorem function_injective_of_readings (n : Naming) {key key' : String}
    {branch branch' : Option String} (h : '-' ∉ (reading key branch).toList)
    (h' : '-' ∉ (reading key' branch').toList)
    (heq : n.function key branch = n.function key' branch') : branch = branch' ∧ key = key' := by
  refine ((n.function_eq_iff ..).1 heq).resolve_right fun hspell => ?_
  cases branch with
  | some b =>
    cases branch' with
    | some b' =>
      rcases hspell with ⟨m, rfl, -⟩ | ⟨m, rfl, -⟩
      · simp [reading] at h'
      · simp [reading] at h
    | none =>
      obtain rfl : key' = b ++ "-" ++ key := hspell
      simp [reading] at h'
  | none =>
    cases branch' with
    | some b' =>
      obtain rfl : key = b' ++ "-" ++ key' := hspell
      simp [reading] at h
    | none => exact hspell

/-! ## Queues, jobs and plans -/

/-- Two functions have one waiting queue exactly if they have one name. -/
theorem waitingQueue_eq_iff (n : Naming) (key : String) (branch : Option String) (key' : String)
    (branch' : Option String) :
    n.waitingQueue key branch = n.waitingQueue key' branch' ↔
      n.function key branch = n.function key' branch' :=
  String.append_left_inj _

/-- Two functions have one queue for what they fail to handle exactly if they have one name. -/
theorem deadQueue_eq_iff (n : Naming) (key : String) (branch : Option String) (key' : String)
    (branch' : Option String) :
    n.deadQueue key branch = n.deadQueue key' branch' ↔
      n.function key branch = n.function key' branch' :=
  String.append_left_inj _

/-- A plan that lists a resource refuses any other of the same category and name. -/
theorem push_of_contains {p : Plan} {c : Category} {name : String}
    (h : p.contains (.of c name) = true) (phase : Phase) (attributes : Json)
    (dependsOn : List Handle) :
    p.push (.of c phase name attributes dependsOn) =
      (p, .error (.emittedTwice (.of c name))) := by
  have hc : p.contains (Intent.of c phase name attributes dependsOn).handle = true := h
  rw [Plan.push, if_pos hc]
  rfl

/-- **Names coincide only where the separator is misread.**  Whatever the api name, two functions
have one name exactly if they are the same or their branches and keys spell one text, and so do
their queues of either kind and two batch jobs of branches.  Where two names coincide, a plan that
lists one of the resources refuses the other. -/
theorem names_coincide_iff_respells (n : Naming) (key : String) (branch : Option String)
    (key' : String) (branch' : Option String) :
    (n.function key branch = n.function key' branch' ↔
      (branch = branch' ∧ key = key') ∨ Respells key branch key' branch') ∧
    (n.waitingQueue key branch = n.waitingQueue key' branch' ↔
      (branch = branch' ∧ key = key') ∨ Respells key branch key' branch') ∧
    (n.deadQueue key branch = n.deadQueue key' branch' ↔
      (branch = branch' ∧ key = key') ∨ Respells key branch key' branch') ∧
    (∀ b b', n.job key b = n.job key' b' ↔
      (b = b' ∧ key = key') ∨ Respells key (some b) key' (some b')) ∧
    ∀ (p : Plan) (c : Category) (phase : Phase) (attributes : Json) (dependsOn : List Handle),
      p.contains (.of c (n.function key branch)) = true →
      n.function key branch = n.function key' branch' →
      p.push (.of c phase (n.function key' branch') attributes dependsOn) =
        (p, .error (.emittedTwice (.of c (n.function key' branch')))) := by
  have hname := n.function_eq_iff key branch key' branch'
  refine ⟨hname, (n.waitingQueue_eq_iff ..).trans hname, (n.deadQueue_eq_iff ..).trans hname,
    fun b b' => ?_, fun p c phase attributes dependsOn hp heq => ?_⟩
  · rw [job_eq, job_eq, function_eq_iff, Option.some.injEq]
  · rw [heq] at hp
    exact push_of_contains hp phase attributes dependsOn

/-- Different functions may have one name: the branch `a-b` with the key `c` is written like the
branch `a` with the key `b-c`. -/
theorem not_forall_function_ne :
    ¬ ∀ (n : Naming) (key key' : String) (branch branch' : Option String),
      key ≠ "" → key' ≠ "" → branch ≠ some "" → branch' ≠ some "" →
      (branch, key) ≠ (branch', key') → n.function key branch ≠ n.function key' branch' := by
  intro h
  exact h ⟨"shop-api", "123456789012", "us-east-1"⟩ "c" "b-c" (some "a-b") (some "a")
    (by decide) (by decide) (by decide) (by decide) (by decide) (by decide)

end Naming

end ServicePlan
