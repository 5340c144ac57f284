import ServicePlan.FileTree

/-!
# What a write changes

A write changes one file.  To say which one, places are lists of names: what a path leads to is
found at its place, and two paths lead to the same file if they lead to the same place, be they
absolute or not.

* `FileTree.Written`: how the entries of a directory change on the way to a file.
* `FileTree.walk_straighten`: a walk is one to a place.
* `FileTree.LeadsTo`: the place of a path.
* `FileTree.read_eq_ok_iff`, `FileTree.write_eq_ok_iff`: reading and writing by places.
* `FileTree.Stored`, `FileTree.stored_of_write`: what a write leaves.
-/

namespace ServicePlan

/-! ## Places -/

namespace FileNode

/-- Whether a node is a directory. -/
def isDirectory : FileNode → Bool
  | directory _ => true
  | _ => false

/-- A node without what is in it, if it is a directory. -/
def bare : FileNode → FileNode
  | directory _ => directory []
  | node => node

end FileNode

namespace FileTree

variable {entries after inner : List (String × FileNode)} {content name : String}
  {place other : List String}

theorem below?_cons (entries : List (String × FileNode)) (name : String) (names : List String) :
    (FileNode.directory entries).below? (name :: names) =
      (entries.lookup name).bind fun node => node.below? names := rfl

/-! ## Entries -/

theorem lookup_filter_ne {step : String} (h : step ≠ name) :
    (entries.filter fun e => e.1 != name).lookup step = entries.lookup step := by
  induction entries with
  | nil => rfl
  | cons e rest ih =>
    obtain ⟨key, held⟩ := e
    by_cases hkey : key = name
    · have hne : (step == key) = false := by simpa [hkey] using h
      rw [List.filter_cons_of_neg (by simpa using hkey), ih, List.lookup_cons, hne]
    · rw [List.filter_cons_of_pos (by simpa using hkey), List.lookup_cons, List.lookup_cons, ih]

theorem lookup_place (node : FileNode) (name : String) (entries : List (String × FileNode))
    (step : String) : (FileTree.place node [name] entries).lookup step =
      if step = name then some node else entries.lookup step := by
  rw [FileTree.place, List.lookup_append]
  by_cases h : step = name
  · subst h
    have hnone : (entries.filter fun e => e.1 != step).lookup step = none :=
      List.lookup_eq_none_iff.2 fun e he => by
        rw [bne_comm]
        exact (List.mem_filter.1 he).2
    rw [hnone, if_pos rfl, List.lookup_cons_self]
    rfl
  · have hne : (step == name) = false := by simpa using h
    rw [lookup_filter_ne h, if_neg h, List.lookup_cons, hne, List.lookup_nil, Option.or_none]

/-! ## Writing -/

/-- The entries of a directory and what becomes of them where a file at a place gets a text. -/
inductive Written (content : String) :
    List String → List (String × FileNode) → List (String × FileNode) → Prop
  /-- The file is in the directory itself, or will be. -/
  | here {name : String} {entries : List (String × FileNode)}
      (short : name.utf8ByteSize ≤ maxNameLength)
      (free : ∀ inner, entries.lookup name ≠ some (.directory inner)) :
      Written content [name] entries (FileTree.place (.text content) [name] entries)
  /-- The file is further down. -/
  | within {name : String} {names : List String}
      {entries inner after : List (String × FileNode)}
      (short : name.utf8ByteSize ≤ maxNameLength)
      (found : entries.lookup name = some (.directory inner))
      (written : Written content names inner after) :
      Written content (name :: names) entries (FileTree.place (.directory after) [name] entries)

theorem written_of_writeIn (h : writeIn content place entries = .ok after) :
    Written content place entries after := by
  induction place generalizing entries after with
  | nil => cases h
  | cons name names ih =>
    cases names with
    | nil =>
      rw [writeIn] at h
      split at h
      · cases h
      · rename_i hshort
        split at h
        · cases h
        · rename_i hfree
          cases h
          exact .here (Nat.not_lt.1 hshort) hfree
    | cons next names =>
      rw [writeIn] at h
      · split at h
        · cases h
        · rename_i hshort
          split at h
          · cases h
          · rename_i inner hfound
            cases hinner : writeIn content (next :: names) inner with
            | error f => rw [hinner] at h; cases h
            | ok changed =>
              rw [hinner] at h
              cases h
              exact .within (Nat.not_lt.1 hshort) hfound (ih hinner)
          · cases h
      · exact List.cons_ne_nil _ _

namespace Written

/-- The text is at the place. -/
theorem below?_eq (h : Written content place entries after) :
    (FileNode.directory after).below? place = some (.text content) := by
  induction h with
  | here short free =>
    rw [below?_cons, lookup_place, if_pos rfl]
    rfl
  | within short found written ih =>
    rw [below?_cons, lookup_place, if_pos rfl]
    exact ih

/-- At any other place there is what was there, but for the entries of directories. -/
theorem bare_below? (h : Written content place entries after) (hne : other ≠ place) :
    ((FileNode.directory after).below? other).map FileNode.bare =
      ((FileNode.directory entries).below? other).map FileNode.bare := by
  induction h generalizing other with
  | @here name entries short free =>
    cases other with
    | nil => rfl
    | cons step rest =>
      rw [below?_cons, below?_cons, lookup_place]
      by_cases hstep : step = name
      · -- the file has nothing below it, and neither has what was there
        subst hstep
        rw [if_pos rfl]
        cases rest with
        | nil => exact absurd rfl hne
        | cons next rest =>
          cases hfound : entries.lookup step with
          | none => rfl
          | some node =>
            cases node with
            | directory inner => exact absurd hfound (free inner)
            | text _ => rfl
            | bytes _ => rfl
      · rw [if_neg hstep]
  | @within name names entries inner after short found written ih =>
    cases other with
    | nil => rfl
    | cons step rest =>
      rw [below?_cons, below?_cons, lookup_place]
      by_cases hstep : step = name
      · subst hstep
        rw [if_pos rfl, found]
        exact ih fun heq => hne (heq ▸ rfl)
      · rw [if_neg hstep]

/-- No directory makes way for the text. -/
theorem below?_ne_directory (h : Written content place entries after)
    (held : List (String × FileNode)) :
    (FileNode.directory entries).below? place ≠ some (.directory held) := by
  induction h with
  | @here name entries short free =>
    rw [below?_cons]
    cases hfound : entries.lookup name with
    | none => simp
    | some node => exact fun h => free held (hfound.trans h)
  | within short found written ih =>
    rw [below?_cons, found]
    exact ih

theorem short (h : Written content place entries after) :
    ∀ name ∈ place, name.utf8ByteSize ≤ maxNameLength := by
  induction h with
  | here short free => simpa using short
  | within short found written ih => exact List.forall_mem_cons.2 ⟨short, ih⟩

end Written

/-! ## Walks -/

/-- What a walk has come to. -/
def Spot.Holds : Spot → FileNode → Prop
  | .file held, node => held = node ∧ node.isDirectory = false
  | .directory entries _, node => .directory entries = node

/-- A walk is made step by step. -/
theorem walk_cons (name : String) (steps : List String) (spot : Spot) :
    walk (name :: steps) spot = (walk [name] spot).bind (walk steps) := by
  cases spot with
  | file node => rfl
  | directory entries above =>
    simp only [walk]
    split
    · cases above <;> rfl
    · split
      · rfl
      · cases entries.lookup name with
        | none => rfl
        | some node => cases node <;> rfl

/-- A walk in two parts. -/
theorem walk_append (first second : List String) (spot : Spot) :
    walk (first ++ second) spot = (walk first spot).bind (walk second) := by
  induction first generalizing spot with
  | nil => rfl
  | cons name steps ih =>
    rw [List.cons_append, walk_cons, walk_cons name steps]
    cases walk [name] spot with
    | error f => rfl
    | ok next => exact ih next

/-- Files lead to nothing else. -/
theorem exists_walk_file_iff {steps : List String} (held : FileNode) {node : FileNode}
    (hheld : held.isDirectory = false) :
    (∃ spot, walk steps (.file held) = .ok spot ∧ spot.Holds node) ↔
      held.below? steps = some node ∧ ∀ name ∈ steps, name.utf8ByteSize ≤ maxNameLength := by
  cases steps with
  | nil =>
    have hleaf : held = node → node.isDirectory = false := fun heq => heq ▸ hheld
    simpa [walk, Spot.Holds, FileNode.below?] using hleaf
  | cons name steps =>
    cases held with
    | directory entries => cases hheld
    | text content => simp [walk, FileNode.below?]
    | bytes content => simp [walk, FileNode.below?]

/-- A walk downwards comes to what is at the place, if the names are short enough. -/
theorem exists_walk_iff (hplace : ".." ∉ place) {above : List (List (String × FileNode))}
    {node : FileNode} :
    (∃ spot, walk place (.directory entries above) = .ok spot ∧ spot.Holds node) ↔
      (FileNode.directory entries).below? place = some node ∧
        ∀ name ∈ place, name.utf8ByteSize ≤ maxNameLength := by
  induction place generalizing entries above with
  | nil => simp [walk, Spot.Holds, FileNode.below?]
  | cons name names ih =>
    have hname : name ≠ ".." := fun h => hplace (h ▸ List.mem_cons_self ..)
    have hrest : ".." ∉ names := fun h => hplace (List.mem_cons_of_mem _ h)
    simp only [walk, if_neg hname, below?_cons, List.forall_mem_cons]
    by_cases hshort : name.utf8ByteSize ≤ maxNameLength
    · rw [if_neg (Nat.not_lt.2 hshort)]
      cases entries.lookup name with
      | none => simp
      | some found =>
        cases found with
        | directory inner => simpa [hshort] using ih hrest
        | text content => simpa [hshort] using exists_walk_file_iff (.text content) rfl
        | bytes content => simpa [hshort] using exists_walk_file_iff (.bytes content) rfl
    · rw [if_pos (Nat.not_le.1 hshort)]
      simp [hshort]

/-! ## Straight walks -/

/-- A walk that ends with a step downwards has come through the directory above. -/
theorem walk_of_concat {steps : List String} {spot : Spot} (hname : name ≠ "..")
    {above : List (List (String × FileNode))}
    (h : walk (steps ++ [name]) spot = .ok (.directory entries above)) :
    ∃ outer rest, walk steps spot = .ok (.directory outer rest) ∧ above = outer :: rest := by
  rw [walk_append] at h
  cases hsteps : walk steps spot with
  | error f => rw [hsteps] at h; cases h
  | ok last =>
    rw [hsteps] at h
    cases last with
    | file node => cases h
    | directory outer rest =>
      refine ⟨outer, rest, rfl, ?_⟩
      simp only [Except.bind, walk, if_neg hname] at h
      split at h
      · cases h
      · split at h <;> cases h
        rfl

variable {t : FileTree} {path : String} {done steps : List String}

/-- A step back from where steps downwards lead to comes to where all but the last of them lead. -/
theorem walk_drop_of_walk (hdone : ".." ∉ done) {above : List (List (String × FileNode))}
    (h : walk done.reverse t.root = .ok (.directory entries above)) :
    walk [".."] (.directory entries above) = walk (done.drop 1).reverse t.root := by
  cases done with
  | nil =>
    cases h
    rfl
  | cons last before =>
    have hlast : last ≠ ".." := fun heq => hdone (heq ▸ List.mem_cons_self ..)
    rw [List.reverse_cons] at h
    obtain ⟨outer, rest, houter, rfl⟩ := walk_of_concat hlast h
    exact houter.symm

theorem notMem_drop (hdone : ".." ∉ done) : ".." ∉ done.drop 1 :=
  fun h => hdone (List.mem_of_mem_drop h)

/-- No step of a place leads upwards. -/
theorem notMem_straighten (hdone : ".." ∉ done) (h : t.straighten done steps = .ok place) :
    ".." ∉ place := by
  induction steps generalizing done with
  | nil =>
    cases h
    rwa [List.mem_reverse]
  | cons step steps ih =>
    rw [straighten] at h
    split at h
    · cases hwalk : walk done.reverse t.root with
      | error f => rw [hwalk] at h; cases h
      | ok spot =>
        rw [hwalk] at h
        cases spot with
        | file node => cases h
        | directory entries above => exact ih (notMem_drop hdone) h
    · rename_i hstep
      exact ih (by simpa [hdone] using Ne.symm hstep) h

/-- **Walks are straight.**  Steps lead to what is at their place. -/
theorem walk_straighten (t : FileTree) (steps : List String) (hdone : ".." ∉ done) :
    (walk done.reverse t.root).bind (walk steps) =
      (t.straighten done steps).bind fun place => walk place t.root := by
  induction steps generalizing done with
  | nil =>
    rw [straighten]
    cases h : walk done.reverse t.root with
    | error f => exact h.symm
    | ok spot => exact h.symm
  | cons step steps ih =>
    rw [straighten]
    split
    · rename_i hstep
      subst hstep
      cases hwalk : walk done.reverse t.root with
      | error f => rfl
      | ok spot =>
        cases spot with
        | file node => rfl
        | directory entries above =>
          have hsteps := ih (notMem_drop hdone)
          rw [← walk_drop_of_walk hdone hwalk] at hsteps
          exact (walk_cons ".." steps _).trans hsteps
    · rename_i hstep
      have hnext : ".." ∉ step :: done := by simpa [hdone] using Ne.symm hstep
      rw [← ih hnext, List.reverse_cons, walk_append]
      cases walk done.reverse t.root with
      | error f => rfl
      | ok spot => exact walk_cons step steps spot

/-! ## Reading and writing -/

/-- The place of a path to a file.  It may be that there is no such file yet. -/
structure LeadsTo (t : FileTree) (path : String) (place : List String) : Prop where
  /-- The path can be walked along. -/
  accepted : refused? path = none
  /-- The path may be that of a file. -/
  plain : namesDirectory path = false
  /-- The steps along the path lead to the place. -/
  straight : t.straighten [] (t.steps path) = .ok place

theorem LeadsTo.notMem (h : t.LeadsTo path place) : ".." ∉ place :=
  notMem_straighten List.not_mem_nil h.straight

/-- The walk along a path is one to its place. -/
theorem walk_steps (t : FileTree) (path : String) :
    walk (t.steps path) t.root =
      (t.straighten [] (t.steps path)).bind fun place => walk place t.root :=
  walk_straighten t (t.steps path) List.not_mem_nil

/-- A text is read if a walk comes to it. -/
theorem read_eq_ok_iff_walk {s : String} : t.read path = .ok s ↔
    refused? path = none ∧ namesDirectory path = false ∧
      walk (t.steps path) t.root = .ok (.file (.text s)) := by
  rw [read, find]
  cases refused? path with
  | some f => simp [bind, Except.bind]
  | none =>
    cases walk (t.steps path) t.root with
    | error f => simp [bind, Except.bind]
    | ok spot =>
      cases spot with
      | directory entries above => simp [bind, Except.bind]
      | file node =>
        cases namesDirectory path <;> cases node <;> simp [bind, Except.bind]

/-- Reading by places. -/
theorem read_eq_ok_iff {s : String} :
    t.read path = .ok s ↔ ∃ place, t.LeadsTo path place ∧ t.node? place = some (.text s) ∧
      ∀ name ∈ place, name.utf8ByteSize ≤ maxNameLength := by
  rw [read_eq_ok_iff_walk, walk_steps]
  constructor
  · rintro ⟨haccepted, hplain, hwalk⟩
    cases hstraight : t.straighten [] (t.steps path) with
    | error f => rw [hstraight] at hwalk; cases hwalk
    | ok place =>
      rw [hstraight] at hwalk
      have hleads : t.LeadsTo path place := ⟨haccepted, hplain, hstraight⟩
      exact ⟨place, hleads, (exists_walk_iff hleads.notMem).1 ⟨_, hwalk, rfl, rfl⟩⟩
  · rintro ⟨place, hleads, hnode, hshort⟩
    obtain ⟨spot, hwalk, hspot⟩ := (exists_walk_iff hleads.notMem).2 ⟨hnode, hshort⟩
    refine ⟨hleads.accepted, hleads.plain, ?_⟩
    rw [hleads.straight]
    cases spot with
    | directory entries above => cases hspot
    | file held => rw [← hspot.1]; exact hwalk

/-- Writing by places. -/
theorem write_eq_ok_iff {after : FileTree} : t.write path content = .ok after ↔
    ∃ place entries, t.LeadsTo path place ∧ t.permits place = true ∧
      writeIn content place t.entries = .ok entries ∧ after = { t with entries } := by
  rw [write]
  constructor
  · intro h
    split at h
    · cases h
    · rename_i haccepted
      cases hstraight : t.straighten [] (t.steps path) with
      | error f => rw [hstraight] at h; cases h
      | ok place =>
        rw [hstraight] at h
        simp only [bind, Except.bind] at h
        split at h
        · split at h
          · cases h
          · split at h <;> cases h
        · rename_i hplain
          cases hentries : writeIn content place t.entries with
          | error f => rw [hentries] at h; cases h
          | ok entries =>
            rw [hentries] at h
            dsimp only at h
            split at h
            · rename_i hpermits
              cases h
              exact ⟨place, entries, ⟨haccepted, by simpa using hplain, hstraight⟩, hpermits,
                hentries, rfl⟩
            · cases h
  · rintro ⟨place, entries, ⟨haccepted, hplain, hstraight⟩, hpermits, hentries, rfl⟩
    simp [haccepted, hplain, hstraight, hentries, hpermits, bind, Except.bind]

/-! ## What a write leaves -/

/-- What the write of a text leaves: the text at one place, and at all others what was there. -/
structure Stored (t : FileTree) (path content : String) (place : List String) (after : FileTree) :
    Prop where
  /-- The place is that of the path. -/
  leads : t.LeadsTo path place
  /-- The text is at the place. -/
  node : after.node? place = some (.text content)
  /-- The text is read at the path. -/
  read : after.read path = .ok content
  /-- At all other places there is what was there, but for the entries of directories. -/
  kept : ∀ other, other ≠ place →
    (after.node? other).map FileNode.bare = (t.node? other).map FileNode.bare
  /-- Paths that do not lead to the place are read as they were. -/
  reads : ∀ other, ¬ t.LeadsTo other place → ∀ s, after.read other = .ok s ↔ t.read other = .ok s
  /-- The working directory is where it was, and the same places are locked. -/
  home : after.home = t.home ∧ after.locked = t.locked

/-- Whether there is a directory at a place. -/
def HasDirectory (t : FileTree) (place : List String) : Prop :=
  ∃ entries, t.node? place = some (.directory entries)

theorem hasDirectory_iff : t.HasDirectory place ↔
    (t.node? place).map FileNode.bare = some (.directory []) := by
  rw [HasDirectory]
  cases t.node? place with
  | none => simp
  | some node => cases node <;> simp [FileNode.bare]

theorem node?_eq_text_iff {s : String} : t.node? place = some (.text s) ↔
    (t.node? place).map FileNode.bare = some (.text s) := by
  cases t.node? place with
  | none => simp
  | some node => cases node <;> simp [FileNode.bare]

/-- Trees with the same directories have the same places. -/
theorem straighten_of_hasDirectory {after : FileTree}
    (hsame : ∀ place, t.HasDirectory place → after.HasDirectory place) (hdone : ".." ∉ done)
    (h : t.straighten done steps = .ok place) : after.straighten done steps = .ok place := by
  induction steps generalizing done with
  | nil => exact h
  | cons step steps ih =>
    rw [straighten] at h ⊢
    split
    · rename_i hstep
      rw [if_pos hstep] at h
      cases hwalk : walk done.reverse t.root with
      | error f => rw [hwalk] at h; cases h
      | ok spot =>
        rw [hwalk] at h
        cases spot with
        | file node => cases h
        | directory entries above =>
          have hreverse : ".." ∉ done.reverse := by rwa [List.mem_reverse]
          obtain ⟨hnode, hshort⟩ := (exists_walk_iff hreverse).1 ⟨_, hwalk, rfl⟩
          obtain ⟨held, hheld⟩ := hsame _ ⟨entries, hnode⟩
          obtain ⟨spot, hwalk', hspot⟩ := (exists_walk_iff hreverse).2 ⟨hheld, hshort⟩
          rw [root, hwalk']
          cases spot with
          | file node => cases hspot.2
          | directory _ _ => exact ih (notMem_drop hdone) h
    · rename_i hstep
      rw [if_neg hstep] at h
      exact ih (by simpa [hdone] using Ne.symm hstep) h

theorem LeadsTo.of_hasDirectory {after : FileTree} (h : t.LeadsTo path place)
    (hhome : after.home = t.home)
    (hsame : ∀ place, t.HasDirectory place → after.HasDirectory place) :
    after.LeadsTo path place where
  accepted := h.accepted
  plain := h.plain
  straight := by
    have hsteps : after.steps path = t.steps path := by rw [FileTree.steps, FileTree.steps, hhome]
    rw [hsteps]
    exact straighten_of_hasDirectory hsame List.not_mem_nil h.straight

/-- A text is not put where a directory is, and makes none. -/
theorem Written.hasDirectory_iff {after : FileTree}
    (h : Written content place t.entries after.entries) (other : List String) :
    after.HasDirectory other ↔ t.HasDirectory other := by
  by_cases hother : other = place
  · subst hother
    constructor
    · rintro ⟨entries, hdir⟩
      cases h.below?_eq.symm.trans hdir
    · rintro ⟨entries, hdir⟩
      exact absurd hdir (h.below?_ne_directory entries)
  · rw [FileTree.hasDirectory_iff, FileTree.hasDirectory_iff, node?, node?,
      h.bare_below? hother]

/-- **Writes are local.**  A write that succeeds changes the one file that its path leads to. -/
theorem stored_of_write {after : FileTree} (h : t.write path content = .ok after) :
    ∃ place, t.Stored path content place after := by
  obtain ⟨place, entries, hleads, -, hentries, rfl⟩ := write_eq_ok_iff.1 h
  have hwritten := written_of_writeIn hentries
  have hkept : ∀ other, other ≠ place →
      (({ t with entries } : FileTree).node? other).map FileNode.bare =
        (t.node? other).map FileNode.bare :=
    fun other hne => hwritten.bare_below? hne
  have hdirectory : ∀ other, ({ t with entries } : FileTree).HasDirectory other ↔
      t.HasDirectory other := fun other => Written.hasDirectory_iff hwritten other
  have hleads_iff : ∀ {other elsewhere},
      ({ t with entries } : FileTree).LeadsTo other elsewhere ↔ t.LeadsTo other elsewhere :=
    fun {other elsewhere} => ⟨fun h => h.of_hasDirectory rfl fun place => (hdirectory place).1,
      fun h => h.of_hasDirectory rfl fun place => (hdirectory place).2⟩
  refine ⟨place, hleads, hwritten.below?_eq, ?_, hkept, fun other hother s => ?_, rfl, rfl⟩
  · exact read_eq_ok_iff.2
      ⟨place, hleads_iff.2 hleads, hwritten.below?_eq, hwritten.short⟩
  · rw [read_eq_ok_iff, read_eq_ok_iff]
    refine exists_congr fun elsewhere => ?_
    rw [hleads_iff]
    refine and_congr_right fun helsewhere => and_congr_left' ?_
    have hne : elsewhere ≠ place := fun heq => hother (heq ▸ helsewhere)
    rw [node?_eq_text_iff, node?_eq_text_iff, hkept elsewhere hne]

/-- A file gets a text that is named from the root, and one beside it keeps its own. -/
example :
    let t : FileTree := {
      entries := [("srv", .directory [("b", .text "old")]),
        ("work", .directory [("c", .text "kept")])]
      home := ["work"] }
    ((t.write "/work/../srv/b" "new").toOption.map fun t =>
      ((t.read "../../srv/b").toOption, (t.read "c").toOption)) =
        some (some "new", some "kept") := by decide

end FileTree

end ServicePlan
