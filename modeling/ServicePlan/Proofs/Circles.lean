import Mathlib.Data.List.Chain
import ServicePlan.Proofs.QueueChain

/-!
# Circles of queues

Whoever declares functions wants to know what is wrong with their queues.  The check finds the first
function that sends its messages where there is no queue.  If there is none, it follows the chains in
key order, and the first one that does not end runs into a circle: a path with a loop at its end,
like a lasso.  What is reported is the loop, from the key where the path enters it.

* `QueueChain.Walks`: following a chain without a bound; `walks_iff` says that the bound of `walk` is
  never met.
* `QueueChain.Lasso`: a path into a circle, `Lasso.not_cycle`: the path does not touch the circle
  before its entry.
* `QueueChain.Reports`: what a message says about a table of functions.
* `QueueChain.judges_check`: the check accepts the sound tables, and its message is right about the
  others.
-/

namespace ServicePlan.QueueChain

variable {functions : Table FunctionSpec}

/-! ## Walks without a bound -/

/-- Follows the chain from a key behind the keys of `path`, as long as it takes. -/
inductive Walks (functions : Table FunctionSpec) (settled : List String) :
    List String → String → Except (List String) (List String) → Prop
  /-- A key that is known to lead into no circle. -/
  | settled {path : List String} {key : String} (hsettled : key ∈ settled) :
    Walks functions settled path key (.ok path)
  /-- A key that comes again. -/
  | circle {path : List String} {key : String} (hopen : key ∉ settled) (hagain : key ∈ path) :
    Walks functions settled path key (.error (path.dropWhile (· ≠ key) ++ [key]))
  /-- The end of the chain. -/
  | last {path : List String} {key : String} (hopen : key ∉ settled) (hnew : key ∉ path)
    (hnone : next? functions key = none) : Walks functions settled path key (.ok (path ++ [key]))
  /-- One key more. -/
  | next {path : List String} {key next : String} {result : Except (List String) (List String)}
    (hopen : key ∉ settled) (hnew : key ∉ path) (hnext : next? functions key = some next)
    (hrest : Walks functions settled (path ++ [key]) next result) :
    Walks functions settled path key result

variable {settled path : List String} {key : String} {result : Except (List String) (List String)}

/-- With enough fuel a walk comes to its end: the keys of its path are different keys of the
table. -/
theorem walks_walk {fuel : Nat} (hnodup : path.Nodup) (hkeys : ∀ k ∈ path, k ∈ functions.keys)
    (hfuel : functions.size < fuel + path.length) :
    Walks functions settled path key (walk functions settled fuel path key) := by
  induction fuel generalizing path key with
  | zero =>
    have hlength := length_le_size hnodup hkeys
    omega
  | succ fuel ih =>
    rw [walk]
    by_cases hsettled : key ∈ settled
    · rw [if_pos hsettled]
      exact .settled hsettled
    · rw [if_neg hsettled]
      by_cases hagain : key ∈ path
      · rw [if_pos hagain]
        exact .circle hsettled hagain
      · rw [if_neg hagain]
        cases hnext : next? functions key with
        | none => exact .last hsettled hagain hnext
        | some next =>
          have hs : Sends functions key next := hnext
          refine .next hsettled hagain hnext (ih ?_ ?_ ?_)
          · exact List.concat_eq_append ▸ List.Nodup.concat hagain hnodup
          · intro k hk
            rcases List.mem_append.1 hk with hk | hk
            · exact hkeys k hk
            · exact List.mem_singleton.1 hk ▸ hs.mem_keys
          · rw [List.length_append, List.length_singleton]
            omega

/-- A walk has one result. -/
theorem Walks.unique {other : Except (List String) (List String)}
    (h : Walks functions settled path key result) (h' : Walks functions settled path key other) :
    result = other := by
  induction h generalizing other with
  | settled hsettled =>
    cases h' with
    | settled _ => rfl
    | circle hopen _ | last hopen _ _ | next hopen _ _ _ => exact absurd hsettled hopen
  | circle hopen hagain =>
    cases h' with
    | settled hsettled => exact absurd hsettled hopen
    | circle _ _ => rfl
    | last _ hnew _ | next _ hnew _ _ => exact absurd hagain hnew
  | last hopen hnew hnone =>
    cases h' with
    | settled hsettled => exact absurd hsettled hopen
    | circle _ hagain => exact absurd hagain hnew
    | last _ _ _ => rfl
    | next _ _ hnext _ =>
      rw [hnone] at hnext
      cases hnext
  | next hopen hnew hnext _ ih =>
    cases h' with
    | settled hsettled => exact absurd hsettled hopen
    | circle _ hagain => exact absurd hagain hnew
    | last _ _ hnone =>
      rw [hnone] at hnext
      cases hnext
    | next _ _ hnext' hrest =>
      obtain rfl := Option.some.inj (hnext.symm.trans hnext')
      exact ih hrest

/-- Following a chain ends, and with the result of the walk. -/
theorem walks_iff : Walks functions settled [] key result ↔
    walk functions settled (functions.size + 1) [] key = result := by
  have hwalk : Walks functions settled [] key (walk functions settled (functions.size + 1) [] key) :=
    walks_walk List.nodup_nil (by simp) (by simp)
  constructor
  · exact fun h => hwalk.unique h
  · rintro rfl
    exact hwalk

/-! ## Chains -/

section Chains

variable {α : Type} {R : α → α → Prop} {l : List α} {a last : α}

/-- Every entry of a chain leads to the last one. -/
theorem transGen_last (h : (l ++ [last]).IsChain R) (ha : a ∈ l) : Relation.TransGen R a last := by
  induction l generalizing a with
  | nil => cases ha
  | cons first rest ih =>
    rw [List.cons_append] at h
    cases rest with
    | nil =>
      obtain rfl := List.mem_singleton.1 ha
      exact .single h.rel
    | cons second rest =>
      have hrest : ∀ b ∈ second :: rest, Relation.TransGen R b last := fun b hb => ih h.tail hb
      rcases List.mem_cons.1 ha with rfl | ha
      · exact .head (List.isChain_cons_cons.1 h).1 (hrest second (List.mem_cons_self ..))
      · exact hrest a ha

/-- Every entry of a chain but the last is followed by one. -/
theorem exists_rel_of_isChain (h : (l ++ [last]).IsChain R) (ha : a ∈ l) :
    ∃ b ∈ l ++ [last], R a b := by
  induction l with
  | nil => cases ha
  | cons first rest ih =>
    rw [List.cons_append] at h ⊢
    rcases List.mem_cons.1 ha with rfl | ha
    · cases hrest : rest ++ [last] with
      | nil => simp at hrest
      | cons b tail =>
        rw [hrest] at h
        exact ⟨b, by simp, (List.isChain_cons_cons.1 h).1⟩
    · obtain ⟨b, hb, hab⟩ := ih h.tail ha
      exact ⟨b, List.mem_cons_of_mem _ hb, hab⟩

end Chains

/-- A function sends its messages on to one other function. -/
theorem Sends.eq {next other : String} (h : Sends functions key next)
    (h' : Sends functions key other) : next = other :=
  Option.some.inj (h.symm.trans h')

/-- What a key on a circle leads to leads back to the key. -/
theorem reaches_back (hcycle : Relation.TransGen (Sends functions) key key) {other : String}
    (h : Relation.ReflTransGen (Sends functions) key other) :
    Relation.ReflTransGen (Sends functions) other key := by
  induction h with
  | refl => exact .refl
  | @tail middle other _ hs ih =>
    rcases Relation.ReflTransGen.cases_head ih with rfl | ⟨next, hs', hback⟩
    · obtain ⟨next, hs', hback⟩ := Relation.TransGen.head'_iff.1 hcycle
      exact hs.eq hs' ▸ hback
    · exact hs.eq hs' ▸ hback

/-! ## Paths into circles -/

/-- A path that enters a circle: it follows the chain through different keys, up to a key that comes
again. -/
structure Lasso (functions : Table FunctionSpec) (before : List String) (entry : String)
    (loop : List String) : Prop where
  /-- Each key sends its messages on to the next one. -/
  chain : (before ++ entry :: loop ++ [entry]).IsChain (Sends functions)
  /-- No key occurs twice before the entry comes again. -/
  nodup : (before ++ entry :: loop).Nodup

namespace Lasso

variable {before loop : List String} {entry : String}

theorem transGen_entry (h : Lasso functions before entry loop) {k : String}
    (hk : k ∈ before ++ entry :: loop) : Relation.TransGen (Sends functions) k entry :=
  transGen_last h.chain hk

/-- The circle is closed: no message leaves it. -/
theorem mem_loop (h : Lasso functions before entry loop) {k : String}
    (hk : Relation.ReflTransGen (Sends functions) entry k) : k ∈ entry :: loop := by
  have hcircle : (entry :: loop ++ [entry]).IsChain (Sends functions) := by
    have hchain := h.chain
    rw [List.append_assoc] at hchain
    exact (List.isChain_append.1 hchain).2.1
  induction hk with
  | refl => exact List.mem_cons_self ..
  | tail _ hs ih =>
    obtain ⟨next, hnext, hs'⟩ := exists_rel_of_isChain hcircle ih
    rw [hs.eq hs']
    rcases List.mem_append.1 hnext with hnext | hnext
    · exact hnext
    · rw [List.mem_singleton.1 hnext]
      exact List.mem_cons_self ..

/-- The path lies on no circle before it enters one. -/
theorem not_cycle (h : Lasso functions before entry loop) {k : String} (hk : k ∈ before) :
    ¬ Relation.TransGen (Sends functions) k k := by
  intro hcycle
  -- a key on a circle is led back to from the entry, so it would lie on the loop as well
  have hentry := h.transGen_entry (List.mem_append_left _ hk)
  have hloop : k ∈ entry :: loop := h.mem_loop (reaches_back hcycle hentry.to_reflTransGen)
  exact (List.nodup_append.1 h.nodup).2.2 k hk k hloop rfl

end Lasso

/-- A list is split at the first occurrence of an entry. -/
theorem exists_eq_append_dropWhile {l : List String} (h : key ∈ l) :
    ∃ before after, l = before ++ key :: after ∧ l.dropWhile (· ≠ key) = key :: after := by
  obtain ⟨before, after, rfl, hnot⟩ := List.eq_append_cons_of_mem h
  have hbefore : ∀ k ∈ before, decide (k ≠ key) = true := by
    intro k hk
    exact decide_eq_true fun heq => hnot (heq ▸ hk)
  refine ⟨before, after, rfl, ?_⟩
  rw [List.dropWhile_append_of_pos hbefore, List.dropWhile_cons_of_neg (by simp)]

/-- A walk along a chain that reports a circle has gone along a lasso, whose loop is the circle. -/
theorem Walks.exists_lasso {circle : List String}
    (h : Walks functions settled path key (.error circle))
    (hchain : (path ++ [key]).IsChain (Sends functions)) (hnodup : path.Nodup) :
    ∃ before entry loop, Lasso functions before entry loop ∧ circle = entry :: loop ++ [entry] ∧
      path ++ [key] <+: before ++ circle := by
  -- by induction on the walk, whose path is the beginning of the lasso
  generalize hresult : Except.error circle = result at h
  induction h with
  | settled _ => cases hresult
  | last _ _ _ => cases hresult
  | @circle path key _ hagain =>
    cases hresult
    obtain ⟨before, loop, rfl, hdrop⟩ := exists_eq_append_dropWhile hagain
    have hwhole : before ++ key :: loop ++ [key] =
        before ++ ((before ++ key :: loop).dropWhile (· ≠ key) ++ [key]) := by
      rw [hdrop, List.append_assoc]
    exact ⟨before, key, loop, ⟨hchain, hnodup⟩, by rw [hdrop], hwhole ▸ List.prefix_rfl⟩
  | @next path key next result _ hnew hnext _ ih =>
    have hlonger : (path ++ [key] ++ [next]).IsChain (Sends functions) := by
      refine List.isChain_append.2 ⟨hchain, List.isChain_singleton _, ?_⟩
      intro k hk other hother
      rw [List.getLast?_concat, Option.mem_some_iff] at hk
      rw [List.head?_cons, Option.mem_some_iff] at hother
      subst hk hother
      exact hnext
    have hmore : (path ++ [key]).Nodup := List.concat_eq_append ▸ List.Nodup.concat hnew hnodup
    obtain ⟨before, entry, loop, hlasso, hcircle, hprefix⟩ := ih hlonger hmore hresult
    exact ⟨before, entry, loop, hlasso, hcircle, (List.prefix_append ..).trans hprefix⟩

/-! ## The first walk into a circle -/

/-- The chain from a key runs into a circle. -/
def LeadsIntoCircle (functions : Table FunctionSpec) (key : String) : Prop :=
  ∃ k, Relation.ReflTransGen (Sends functions) key k ∧ Relation.TransGen (Sends functions) k k

/-- What a chain that ends leads to is the start of a chain that ends. -/
theorem Ends.of_reaches (h : Ends functions key) {k : String}
    (hk : Relation.ReflTransGen (Sends functions) key k) : Ends functions k := by
  induction hk with
  | refl => exact h
  | tail _ hs ih => exact Acc.inv ih hs

theorem Ends.not_leadsIntoCircle (h : Ends functions key) : ¬ LeadsIntoCircle functions key := by
  rintro ⟨k, hk, hcycle⟩
  exact (h.of_reaches hk).not_cycle hcycle

/-- The first walk into a circle starts behind keys whose chains end, and it knows of no others. -/
theorem exists_walk_of_firstCycle? {keys circle : List String}
    (hsettled : ∀ k ∈ settled, Ends functions k)
    (h : firstCycle? functions settled keys = some circle) :
    ∃ before start after known, keys = before ++ start :: after ∧
      (∀ k ∈ before, Ends functions k) ∧
      walk functions known (functions.size + 1) [] start = .error circle := by
  induction keys generalizing settled with
  | nil => cases h
  | cons first rest ih =>
    rw [firstCycle?] at h
    cases hwalk : walk functions settled (functions.size + 1) [] first with
    | error found =>
      rw [hwalk] at h
      obtain rfl := Option.some.inj h
      exact ⟨[], first, rest, settled, rfl, by simp, hwalk⟩
    | ok passed =>
      rw [hwalk] at h
      obtain ⟨hend, hmore⟩ := ends_of_whole_walk hsettled hwalk
      obtain ⟨before, start, after, known, rfl, hbefore, hstart⟩ := ih hmore h
      exact ⟨first :: before, start, after, known, rfl,
        List.forall_mem_cons.2 ⟨hend, hbefore⟩, hstart⟩

/-- What is smaller than an entry of an ascending list stands before it. -/
theorem mem_before_of_lt {α : Type} {name : α → String} {before after : List α} {a x : α}
    (hsorted : (before ++ a :: after).Pairwise fun y z => name y < name z)
    (hx : x ∈ before ++ a :: after) (hlt : name x < name a) : x ∈ before := by
  rw [List.pairwise_append, List.pairwise_cons] at hsorted
  obtain ⟨-, ⟨hlater, -⟩, -⟩ := hsorted
  rcases List.mem_append.1 hx with hx | hx
  · exact hx
  · rcases List.mem_cons.1 hx with rfl | hx
    · exact absurd hlt (String.lt_irrefl _)
    · exact absurd (String.lt_trans hlt (hlater x hx)) (String.lt_irrefl _)

/-- The chain of a key that is smaller than all that are left of the table comes to an end. -/
theorem ends_of_lt {before after : List String} {start : String}
    (hkeys : functions.keys = before ++ start :: after) (hbefore : ∀ k ∈ before, Ends functions k)
    (h : key < start) : Ends functions key := by
  by_cases hmem : key ∈ functions.keys
  · have hsorted := functions.pairwise_keys
    rw [hkeys] at hsorted hmem
    exact hbefore key (mem_before_of_lt hsorted hmem h)
  · have hnone : next? functions key = none := by
      rw [next?, Table.get?_eq_none_iff.2 hmem]
      rfl
    exact ends_of_none hnone

/-! ## What is reported -/

/-- A function sends its messages, if it sends any, to a function that has a queue. -/
def SendsWell (functions : Table FunctionSpec) (key : String) : Prop :=
  ∀ next, Sends functions key next →
    ∃ target, functions.get? next = some target ∧ target.queue.isSome

/-- What a message says about a table of functions that is not sound. -/
inductive Reports (functions : Table FunctionSpec) : String → Prop
  /-- The first function that sends its messages badly sends them to a function that is not
  there. -/
  | unknown {key next : String} (hsends : Sends functions key next)
    (hmissing : functions.get? next = none) (hfirst : ∀ k < key, SendsWell functions k) :
    Reports functions ("lambda '" ++ next ++ "' spec not found: requested by " ++
      ("queue_next of `" ++ key ++ "`"))
  /-- The first function that sends its messages badly sends them to one without a queue. -/
  | noQueue {key next : String} {target : FunctionSpec} (hsends : Sends functions key next)
    (hget : functions.get? next = some target) (hqueue : target.queue = none)
    (hfirst : ∀ k < key, SendsWell functions k) :
    Reports functions ("lambda '" ++ next ++
      "' spec should have `queue` key: requested by queue_next of `" ++ key ++ "`")
  /-- The path from the smallest key that leads into a circle enters it at the key that starts and
  ends the list. -/
  | circle {start entry : String} {before loop : List String}
    (hwell : ∀ k, SendsWell functions k) (hleads : LeadsIntoCircle functions start)
    (hleast : ∀ k < start, ¬ LeadsIntoCircle functions k)
    (hstart : (before ++ entry :: loop).head? = some start)
    (hlasso : Lasso functions before entry loop)
    (houtside : ∀ k ∈ before, ¬ Relation.TransGen (Sends functions) k k) :
    Reports functions
      ("queue_next chain forms a cycle: " ++ " -> ".intercalate (entry :: loop ++ [entry]))

theorem edgeFault?_eq_none_iff_sendsWell {f : FunctionSpec} (hget : functions.get? key = some f) :
    edgeFault? functions key f = none ↔ SendsWell functions key := by
  rw [edgeFault?_eq_none_iff, SendsWell]
  simp only [Sends, next?, hget, Option.bind_some]

/-- A function that is not there sends nothing badly. -/
theorem sendsWell_of_get?_eq_none (h : functions.get? key = none) : SendsWell functions key := by
  intro next hs
  rw [Sends, next?, h] at hs
  cases hs

theorem message_of_kind {f : Fault} (h : f.kind = .reference) :
    f.message = "Referential integrity error: " ++ f.detail := by
  have hheading : FaultKind.reference.heading = "Referential integrity error: " := rfl
  have hclosing : FaultKind.reference.closing = "" := rfl
  rw [Fault.message, h, hheading, hclosing, String.append_empty]

/-- What is wrong with the first bad edge. -/
theorem reports_of_badEdge? {f : Fault} (h : badEdge? functions = some f) :
    Reports functions f.detail := by
  obtain ⟨before, ⟨key, spec⟩, after, hentries, hfault, hbefore⟩ := List.findSome?_eq_some_iff.1 h
  have hget : functions.get? key = some spec := by
    rw [Table.get?_eq_some_iff, hentries]
    simp
  have hfirst : ∀ k < key, SendsWell functions k := by
    intro k hk
    cases hspec : functions.get? k with
    | none => exact sendsWell_of_get?_eq_none hspec
    | some other =>
      refine (edgeFault?_eq_none_iff_sendsWell hspec).1 (hbefore (k, other) ?_)
      have hsorted := functions.ascending
      have hmem := Table.get?_eq_some_iff.1 hspec
      rw [hentries] at hsorted hmem
      exact mem_before_of_lt hsorted hmem hk
  rw [edgeFault?] at hfault
  cases hnext : spec.queueNext with
  | none =>
    rw [hnext] at hfault
    cases hfault
  | some next =>
    have hsends : Sends functions key next := by
      rw [Sends, next?, hget]
      exact hnext
    rw [hnext] at hfault
    cases htarget : functions.get? next with
    | none =>
      simp only [htarget, Option.some.injEq] at hfault
      exact hfault ▸ Reports.unknown hsends htarget hfirst
    | some target =>
      simp only [htarget, Option.isNone_iff_eq_none, Option.ite_none_right_eq_some,
        Option.some.injEq] at hfault
      exact hfault.2 ▸ Reports.noQueue hsends htarget hfault.1 hfirst

/-- What is reported of the first circle. -/
theorem reports_of_cycle? {circle : List String} (hwell : ∀ k, SendsWell functions k)
    (h : cycle? functions = some circle) : Reports functions (Fault.queueCycle circle).detail := by
  obtain ⟨before, start, after, known, hkeys, hbefore, hwalk⟩ :=
    exists_walk_of_firstCycle? (by simp) h
  have hwalks : Walks functions known [] start (.error circle) :=
    hwalk ▸ walks_walk List.nodup_nil (by simp) (by simp)
  obtain ⟨way, entry, loop, hlasso, rfl, hprefix⟩ :=
    hwalks.exists_lasso (List.isChain_singleton _) List.nodup_nil
  have hhead : (way ++ entry :: loop).head? = some start := by
    obtain ⟨rest, hrest⟩ := hprefix
    cases way with
    | nil => simpa using (congrArg List.head? hrest).symm
    | cons first rest => simpa using (congrArg List.head? hrest).symm
  have hmem : start ∈ way ++ entry :: loop := List.mem_of_head? hhead
  have hcycle : Relation.TransGen (Sends functions) entry entry :=
    hlasso.transGen_entry (by simp)
  exact .circle hwell ⟨entry, (hlasso.transGen_entry hmem).to_reflTransGen, hcycle⟩
    (fun k hk => (ends_of_lt hkeys hbefore hk).not_leadsIntoCircle) hhead hlasso
    (fun k hk => hlasso.not_cycle hk)

/-- **The check is exact.**  It accepts the sound tables, and of any other it says what is wrong
first.  On the way it follows each chain to its end: the fuel of a walk does not run out. -/
theorem judges_check (functions : Table FunctionSpec) :
    (check functions = .ok () ↔ Sound functions) ∧
      (∀ f, check functions = .error f → f.kind = .reference ∧
        ∃ text, Reports functions text ∧ f.message = "Referential integrity error: " ++ text) ∧
      ∀ settled key result, Walks functions settled [] key result ↔
        walk functions settled (functions.size + 1) [] key = result := by
  refine ⟨check_eq_ok_iff, ?_, fun settled key result => walks_iff⟩
  intro f hf
  have hkind := kind_of_check hf
  refine ⟨hkind, f.detail, ?_, message_of_kind hkind⟩
  rw [check, fault?] at hf
  cases hedge : badEdge? functions with
  | some g =>
    rw [hedge] at hf
    cases hf
    exact reports_of_badEdge? hedge
  | none =>
    have hwell : ∀ k, SendsWell functions k := by
      intro k
      cases hget : functions.get? k with
      | none => exact sendsWell_of_get?_eq_none hget
      | some spec =>
        refine (edgeFault?_eq_none_iff_sendsWell hget).1 ?_
        exact List.findSome?_eq_none_iff.1 hedge (k, spec) (Table.get?_eq_some_iff.1 hget)
    rw [hedge] at hf
    cases hcycle : cycle? functions with
    | none =>
      rw [hcycle] at hf
      cases hf
    | some circle =>
      rw [hcycle] at hf
      cases hf
      exact reports_of_cycle? hwell hcycle

end ServicePlan.QueueChain
