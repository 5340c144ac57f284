import Mathlib.Data.List.Nodup
import Mathlib.Logic.Relation
import ServicePlan.Build.QueueChain

/-!
# Chains of queues end

A function sends its messages on to at most one other function, so the functions behind it form a
chain.  `QueueChain.check` walks every chain up to its end, to a key that an earlier walk has passed
or to a key of its own path; the theorems say what it finds out.

* `QueueChain.Sends`, `QueueChain.Ends`: one edge of a chain, and a chain that comes to an end.
* `QueueChain.Sound`: every edge leads to a function with a queue, and no chain comes back.
* `ends_of_walk`, `exists_cycle_of_walk`: what one walk finds out.
* `check_eq_ok_iff`: the check accepts exactly the sound tables.
-/

namespace ServicePlan.QueueChain

variable {functions : Table FunctionSpec}

/-- The function of a key sends its messages on to the function of another key. -/
def Sends (functions : Table FunctionSpec) (key next : String) : Prop :=
  next? functions key = some next

/-- The chain from a key comes to an end. -/
def Ends (functions : Table FunctionSpec) (key : String) : Prop :=
  Acc (fun next key => Sends functions key next) key

/-- Every function sends its messages on to a function beside it that has a queue, if it sends any,
and no message comes back to where it was. -/
structure Sound (functions : Table FunctionSpec) : Prop where
  /-- Messages go where there is a queue. -/
  queued : ∀ key f, functions.get? key = some f → ∀ next, f.queueNext = some next →
    ∃ target, functions.get? next = some target ∧ target.queue.isSome
  /-- No key reaches itself in one or more steps. -/
  acyclic : ∀ key, ¬ Relation.TransGen (Sends functions) key key

/-! ## Edges -/

/-- Only the keys of the table send messages on. -/
theorem Sends.mem_keys {key next : String} (h : Sends functions key next) :
    key ∈ functions.keys := by
  obtain ⟨f, hf, -⟩ := Option.bind_eq_some_iff.1 h
  exact Table.mem_keys_of_get? hf

/-- A key whose function sends nothing on is the end of its chain. -/
theorem ends_of_none {key : String} (h : next? functions key = none) : Ends functions key :=
  .intro key fun next hs => by rw [Sends, h] at hs; cases hs

/-- A chain ends if it ends from its second key on. -/
theorem Ends.of_next {key next : String} (hs : Sends functions key next)
    (h : Ends functions next) : Ends functions key :=
  .intro key fun _ ho => Option.some.inj (hs.symm.trans ho) ▸ h

/-- A chain that ends does not come back. -/
theorem Ends.not_cycle {key : String} (h : Ends functions key) :
    ¬ Relation.TransGen (Sends functions) key key := by
  induction h with
  | intro key _ ih =>
    intro hcycle
    obtain ⟨next, hs, hback⟩ := Relation.TransGen.head'_iff.1 hcycle
    exact ih next hs (Relation.TransGen.tail' hback hs)

/-! ## One walk -/

/-- The keys of a path without repetition are not more than those of the table. -/
theorem length_le_size {path : List String} (hnodup : path.Nodup)
    (hkeys : ∀ k ∈ path, k ∈ functions.keys) : path.length ≤ functions.size := by
  have := List.Nodup.length_le_of_subset hnodup hkeys
  simpa [Table.keys, Table.size] using this

/-- A walk that meets no circle passes only keys whose chains end, and so does the chain of the key
it starts from.  The fuel does not run out, because all keys of the path are different keys of the
table. -/
theorem ends_of_walk {settled : List String} (hsettled : ∀ k ∈ settled, Ends functions k)
    {fuel : Nat} {path : List String} {key : String} {passed : List String}
    (h : walk functions settled fuel path key = .ok passed) (hnodup : path.Nodup)
    (hkeys : ∀ k ∈ path, k ∈ functions.keys) (hfuel : functions.size < fuel + path.length) :
    Ends functions key ∧ ∀ k ∈ passed, k ∈ path ∨ Ends functions k := by
  induction fuel generalizing path key with
  | zero =>
    have := length_le_size hnodup hkeys
    omega
  | succ fuel ih =>
    rw [walk] at h
    split at h
    · rename_i hmem
      cases h
      exact ⟨hsettled key hmem, fun k hk => .inl hk⟩
    · split at h
      · cases h
      · rename_i hnew
        cases hnext : next? functions key with
        | none =>
          rw [hnext] at h
          cases h
          refine ⟨ends_of_none hnext, fun k hk => ?_⟩
          rcases List.mem_append.1 hk with hk | hk
          · exact .inl hk
          · exact .inr (List.mem_singleton.1 hk ▸ ends_of_none hnext)
        | some next =>
          rw [hnext] at h
          have hs : Sends functions key next := hnext
          have hnodup' : (path ++ [key]).Nodup :=
            List.concat_eq_append ▸ List.Nodup.concat hnew hnodup
          have hkeys' : ∀ k ∈ path ++ [key], k ∈ functions.keys := by
            intro k hk
            rcases List.mem_append.1 hk with hk | hk
            · exact hkeys k hk
            · exact List.mem_singleton.1 hk ▸ hs.mem_keys
          have hfuel' : functions.size < fuel + (path ++ [key]).length := by
            rw [List.length_append, List.length_singleton]
            omega
          obtain ⟨hend, hpassed⟩ := ih h hnodup' hkeys' hfuel'
          refine ⟨hend.of_next hs, fun k hk => ?_⟩
          rcases hpassed k hk with hk | hk
          · rcases List.mem_append.1 hk with hk | hk
            · exact .inl hk
            · exact .inr (List.mem_singleton.1 hk ▸ hend.of_next hs)
          · exact .inr hk

/-- A walk from the start that meets no circle has settled more keys. -/
theorem ends_of_whole_walk {settled passed : List String} {key : String}
    (hsettled : ∀ k ∈ settled, Ends functions k)
    (h : walk functions settled (functions.size + 1) [] key = .ok passed) :
    Ends functions key ∧ ∀ k ∈ settled ++ passed, Ends functions k := by
  obtain ⟨hend, hpassed⟩ := ends_of_walk hsettled h List.nodup_nil (by simp) (by simp)
  refine ⟨hend, fun k hk => ?_⟩
  rcases List.mem_append.1 hk with hk | hk
  · exact hsettled k hk
  · exact (hpassed k hk).resolve_left List.not_mem_nil

/-- A walk along a chain that reports a circle has come back to a key. -/
theorem exists_cycle_of_walk {settled : List String} {fuel : Nat} {path : List String}
    {key : String} {circle : List String}
    (h : walk functions settled fuel path key = .error circle)
    (hchain : ∀ k ∈ path, Relation.TransGen (Sends functions) k key) :
    ∃ k, Relation.TransGen (Sends functions) k k := by
  induction fuel generalizing path key with
  | zero => cases h
  | succ fuel ih =>
    rw [walk] at h
    split at h
    · cases h
    · split at h
      · rename_i hmem
        exact ⟨key, hchain key hmem⟩
      · cases hnext : next? functions key with
        | none =>
          rw [hnext] at h
          cases h
        | some next =>
          rw [hnext] at h
          refine ih h fun k hk => ?_
          rcases List.mem_append.1 hk with hk | hk
          · exact (hchain k hk).tail hnext
          · exact List.mem_singleton.1 hk ▸ .single hnext

/-! ## All walks -/

/-- If no walk meets a circle, all chains end. -/
theorem ends_of_firstCycle? {settled keys : List String}
    (hsettled : ∀ k ∈ settled, Ends functions k)
    (h : firstCycle? functions settled keys = none) : ∀ k ∈ keys, Ends functions k := by
  induction keys generalizing settled with
  | nil => simp
  | cons key rest ih =>
    rw [firstCycle?] at h
    cases hwalk : walk functions settled (functions.size + 1) [] key with
    | error circle =>
      rw [hwalk] at h
      cases h
    | ok passed =>
      rw [hwalk] at h
      obtain ⟨hend, hmore⟩ := ends_of_whole_walk hsettled hwalk
      exact List.forall_mem_cons.2 ⟨hend, ih hmore h⟩

/-- If a walk meets a circle, there is one. -/
theorem exists_cycle_of_firstCycle? {settled keys circle : List String}
    (h : firstCycle? functions settled keys = some circle) :
    ∃ k, Relation.TransGen (Sends functions) k k := by
  induction keys generalizing settled with
  | nil => cases h
  | cons key rest ih =>
    rw [firstCycle?] at h
    cases hwalk : walk functions settled (functions.size + 1) [] key with
    | error circle => exact exists_cycle_of_walk hwalk (by simp)
    | ok passed =>
      rw [hwalk] at h
      exact ih h

/-- There is no circle to report exactly if no key reaches itself. -/
theorem cycle?_eq_none_iff :
    cycle? functions = none ↔ ∀ key, ¬ Relation.TransGen (Sends functions) key key := by
  constructor
  · intro h key hcycle
    obtain ⟨next, hs, -⟩ := Relation.TransGen.head'_iff.1 hcycle
    exact (ends_of_firstCycle? (by simp) h key hs.mem_keys).not_cycle hcycle
  · intro h
    cases hc : cycle? functions with
    | none => rfl
    | some circle =>
      obtain ⟨k, hk⟩ := exists_cycle_of_firstCycle? hc
      exact absurd hk (h k)

/-! ## The check -/

/-- Nothing is wrong with where a function sends its messages exactly if there is a queue. -/
theorem edgeFault?_eq_none_iff {key : String} {f : FunctionSpec} :
    edgeFault? functions key f = none ↔ ∀ next, f.queueNext = some next →
      ∃ target, functions.get? next = some target ∧ target.queue.isSome := by
  rw [edgeFault?]
  cases f.queueNext with
  | none => simp
  | some next =>
    cases hget : functions.get? next with
    | none => simp [hget]
    | some target => cases hqueue : target.queue <;> simp [hget, hqueue]

/-- All edges are good exactly if every function sends its messages where there is a queue. -/
theorem badEdge?_eq_none_iff :
    badEdge? functions = none ↔
      ∀ key f, functions.get? key = some f → ∀ next, f.queueNext = some next →
        ∃ target, functions.get? next = some target ∧ target.queue.isSome := by
  simp only [badEdge?, List.findSome?_eq_none_iff, edgeFault?_eq_none_iff, Prod.forall,
    Table.get?_eq_some_iff]

/-- The check accepts a table of functions exactly if its chains are sound. -/
theorem check_eq_ok_iff : check functions = .ok () ↔ Sound functions := by
  have hfault : check functions = .ok () ↔ badEdge? functions = none ∧ cycle? functions = none := by
    rw [check, fault?]
    cases badEdge? functions with
    | some f => simp
    | none => cases cycle? functions <;> simp
  rw [hfault, badEdge?_eq_none_iff, cycle?_eq_none_iff]
  exact ⟨fun h => ⟨h.1, h.2⟩, fun h => ⟨h.queued, h.acyclic⟩⟩

/-- Whatever the check rejects is a broken reference. -/
theorem kind_of_check {f : Fault} (h : check functions = .error f) : f.kind = .reference := by
  rw [check, fault?] at h
  cases hedge : badEdge? functions with
  | some g =>
    rw [hedge] at h
    cases h
    obtain ⟨e, -, he⟩ := List.exists_of_findSome?_eq_some hedge
    rw [edgeFault?] at he
    split at he
    · cases he
    · split at he
      · cases he
        rfl
      · split at he
        · cases he
          rfl
        · cases he
  | none =>
    rw [hedge] at h
    cases hcycle : cycle? functions with
    | none =>
      rw [hcycle] at h
      cases h
    | some circle =>
      rw [hcycle] at h
      cases h
      rfl

end ServicePlan.QueueChain
