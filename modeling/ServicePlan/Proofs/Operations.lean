import Mathlib
import ServicePlan.Proofs.Yaml.Keys
import ServicePlan.Routes

/-!
# The operations of api documents

An operation belongs to a path and stands there under the name of its method, in letters of either
case.  Every operation of a document becomes one route, and a route tells its method and its path.
Since no mapping has a key twice, two operations become the same route only if one path has its
method in two spellings.

* `Route.Spells`, `Route.method?_eq_some_iff`: the spellings of methods.
* `Route.split_key`: a route is its method, a space and its path.
* `Route.operations`: the operations of a document, in its order.
* `Route.Derives`: what comes of the paths of a document.
* `Route.derives_ofText`: the routes of a document are those of its operations.
-/

namespace ServicePlan.Route

variable {name method path : String} {paths members : List (Yaml × Yaml)}

/-! ## Methods -/

/-- A name is a method up to the case of its letters. -/
def Spells (name method : String) : Prop :=
  method ∈ methods ∧ name.toList.map Char.toLower = method.toList.map Char.toLower

instance (name method : String) : Decidable (Spells name method) :=
  inferInstanceAs (Decidable (_ ∧ _))

/-- Methods are in capital letters. -/
theorem map_toUpper_of_mem_methods : ∀ m ∈ methods, m.toList.map Char.toUpper = m.toList := by
  decide

/-- The method that is found is the one that the name spells. -/
theorem method?_eq_some_iff : method? name = some method ↔ Spells name method := by
  have hlower : (name.toList.map Char.toUpper).map Char.toLower = name.toList.map Char.toLower := by
    simp only [List.map_map, Function.comp_def, Char.toLower_toUpper_eq_toLower]
  have hupper : ∀ chars : List Char,
      (chars.map Char.toLower).map Char.toUpper = chars.map Char.toUpper := by
    intro chars
    simp only [List.map_map, Function.comp_def, Char.toUpper_toLower_eq_toUpper]
  rw [method?, Option.ite_none_right_eq_some, List.contains_iff_mem, Option.some.injEq]
  constructor
  · rintro ⟨hmem, rfl⟩
    exact ⟨hmem, by rw [String.toList_ofList, hlower]⟩
  · rintro ⟨hmem, hletters⟩
    have hname : String.ofList (name.toList.map Char.toUpper) = method := by
      rw [← hupper, hletters, hupper, map_toUpper_of_mem_methods _ hmem, String.ofList_toList]
    exact ⟨hname ▸ hmem, hname⟩

/-! ## Splitting a route -/

/-- What stands in front of the first space, and what stands behind it. -/
def split (route : String) : String × String :=
  (String.ofList (route.toList.takeWhile (· ≠ ' ')),
    String.ofList ((route.toList.dropWhile (· ≠ ' ')).drop 1))

theorem space_notMem_of_mem_methods : ∀ m ∈ methods, ' ' ∉ m.toList := by
  decide

/-- The path of a route may have spaces, and names of methods, but its method has none. -/
theorem split_key (h : method ∈ methods) (path : String) :
    split (key method path) = (method, path) := by
  have hmethod : ∀ c ∈ method.toList, decide (c ≠ ' ') = true := fun c hc =>
    decide_eq_true fun heq => space_notMem_of_mem_methods _ h (heq ▸ hc)
  have hkey : (key method path).toList = method.toList ++ ' ' :: path.toList := by
    rw [key, String.toList_append, String.toList_append, List.append_assoc]
    rfl
  rw [split, hkey, List.takeWhile_append_of_pos hmethod, List.dropWhile_append_of_pos hmethod,
    List.takeWhile_cons_of_neg (by simp), List.dropWhile_cons_of_neg (by simp), List.append_nil,
    List.drop_one, List.tail_cons, String.ofList_toList, String.ofList_toList]

/-! ## Operations -/

/-- An operation of a document. -/
structure Operation where
  /-- The path that it belongs to. -/
  path : String
  /-- The name under which it stands there. -/
  name : String

/-- A route leads to an operation. -/
def Operation.IsRoutedBy (op : Operation) (route : String) : Prop :=
  ∃ method, Spells op.name method ∧ route = key method op.path ∧ split route = (method, op.path)

/-- The operation under a key of a path. -/
def operation? (path : String) : Yaml → Option Operation
  | .string name => if ∃ method ∈ methods, Spells name method then some ⟨path, name⟩ else none
  | _ => none

/-- The operations of a path. -/
def operationsAt : Yaml × Yaml → List Operation
  | (.string path, .mapping members) => members.filterMap fun e => operation? path e.1
  | _ => []

/-- The operations of all paths, in their order. -/
def operations (paths : List (Yaml × Yaml)) : List Operation := paths.flatMap operationsAt

theorem operation?_eq_some_iff {v : Yaml} {op : Operation} :
    operation? path v = some op ↔
      v = .string op.name ∧ path = op.path ∧ ∃ method, Spells op.name method := by
  obtain ⟨path', name'⟩ := op
  cases v with
  | string name =>
    rw [operation?, Option.ite_none_right_eq_some]
    constructor
    · rintro ⟨⟨m, -, hspells⟩, heq⟩
      cases heq
      exact ⟨rfl, rfl, m, hspells⟩
    · rintro ⟨hname, rfl, m, hspells⟩
      cases hname
      exact ⟨⟨m, hspells.1, hspells⟩, rfl⟩
  | _ => simp [operation?]

theorem mem_operationsAt {e : Yaml × Yaml} {op : Operation} :
    op ∈ operationsAt e ↔ ∃ members, e = (.string op.path, .mapping members) ∧
      (∃ v, (.string op.name, v) ∈ members) ∧ ∃ method, Spells op.name method := by
  constructor
  · intro hop
    unfold operationsAt at hop
    split at hop
    · obtain ⟨⟨k, v⟩, hk, hop⟩ := List.mem_filterMap.1 hop
      obtain ⟨rfl, rfl, hspells⟩ := operation?_eq_some_iff.1 hop
      exact ⟨_, rfl, ⟨v, hk⟩, hspells⟩
    · cases hop
  · rintro ⟨members, rfl, ⟨v, hv⟩, hspells⟩
    exact List.mem_filterMap.2 ⟨_, hv, operation?_eq_some_iff.2 ⟨rfl, rfl, hspells⟩⟩

theorem mem_operations {op : Operation} :
    op ∈ operations paths ↔ ∃ members, (.string op.path, .mapping members) ∈ paths ∧
      (∃ v, (.string op.name, v) ∈ members) ∧ ∃ method, Spells op.name method := by
  rw [operations, List.mem_flatMap]
  constructor
  · rintro ⟨e, he, hop⟩
    obtain ⟨members, rfl, hrest⟩ := mem_operationsAt.1 hop
    exact ⟨members, he, hrest⟩
  · rintro ⟨members, he, hrest⟩
    exact ⟨_, he, mem_operationsAt.2 ⟨members, rfl, hrest⟩⟩

/-- Different keys are different operations. -/
theorem nodup_operations (h : (Yaml.mapping paths).KeysApart) : (operations paths).Nodup := by
  cases h with
  | mapping hpaths _ hitems =>
    refine List.nodup_flatMap.2 ⟨fun e he => ?_, hpaths.strings.imp fun {e e'} hne op hop hop' => ?_⟩
    · unfold operationsAt
      split
      · cases hitems _ he with
        | mapping hmembers _ _ =>
          refine List.pairwise_filterMap.2 (hmembers.strings.imp fun {e e'} hne op hop op' hop' => ?_)
          rintro rfl
          exact hne _ (operation?_eq_some_iff.1 hop).1 (operation?_eq_some_iff.1 hop').1
      · exact .nil
    · obtain ⟨members, rfl, -⟩ := mem_operationsAt.1 hop
      obtain ⟨members', rfl, -⟩ := mem_operationsAt.1 hop'
      exact hne _ rfl rfl

/-! ## Routes -/

/-- The route of an operation. -/
def Operation.route (op : Operation) : String := key ((method? op.name).getD "") op.path

theorem Operation.route_mk (path : String) (h : Spells name method) :
    (Operation.mk path name).route = key method path := by
  rw [route, method?_eq_some_iff.2 h, Option.getD_some]

theorem Operation.isRoutedBy_route {op : Operation} (h : op ∈ operations paths) :
    op.IsRoutedBy op.route := by
  obtain ⟨-, -, -, m, hspells⟩ := mem_operations.1 h
  have hroute := route_mk op.path hspells
  exact ⟨m, hspells, hroute, (congrArg split hroute).trans (split_key hspells.1 _)⟩

/-- The routes of an item are those of the operations in it. -/
theorem ofItem_eq {item : Yaml} (h : item.isUntagged = true) :
    ofItem path item = (operationsAt (.string path, item)).map Operation.route := by
  cases item with
  | tagged => cases h
  | mapping members =>
    have hkey : ∀ e ∈ members, ((e.1.text?.bind method?).map fun m => key m path) =
        (operation? path e.1).map Operation.route := by
      rintro ⟨k, v⟩ he
      have hk := (Yaml.isUntagged_mapping.1 h _ he).1
      cases k with
      | tagged => cases hk
      | string name =>
        cases hmethod : method? name with
        | none =>
          have hnot : ¬ ∃ m ∈ methods, Spells name m := by
            rintro ⟨m, -, hspells⟩
            rw [method?_eq_some_iff.2 hspells] at hmethod
            cases hmethod
          simp [Yaml.text?, Yaml.untagged, hmethod, operation?, hnot]
        | some m =>
          have hspells := method?_eq_some_iff.1 hmethod
          have hop : operation? path (.string name) = some ⟨path, name⟩ :=
            operation?_eq_some_iff.2 ⟨rfl, rfl, m, hspells⟩
          simp [Yaml.text?, Yaml.untagged, hmethod, hop, Operation.route_mk path hspells]
      | _ => rfl
    simp only [ofItem, Yaml.entries?, Yaml.untagged, operationsAt, List.map_filterMap]
    exact List.filterMap_congr hkey
  | _ => rfl

/-- All paths have to be strings. -/
theorem ofPaths_eq_ok (htags : (Yaml.mapping paths).isUntagged = true)
    (h : ∀ e ∈ paths, ∃ path, e.1 = .string path) :
    ofPaths paths = .ok ((operations paths).map Operation.route) := by
  rw [Yaml.isUntagged_mapping] at htags
  induction paths with
  | nil => rfl
  | cons e rest ih =>
    obtain ⟨k, item⟩ := e
    obtain ⟨⟨path, rfl⟩, hrest⟩ := List.forall_mem_cons.1 h
    obtain ⟨⟨-, hitem⟩, htags⟩ := List.forall_mem_cons.1 htags
    have hcons : operations ((.string path, item) :: rest) =
        operationsAt (.string path, item) ++ operations rest := List.flatMap_cons
    rw [ofPaths, ih htags hrest, hcons, List.map_append, ← ofItem_eq hitem]
    rfl

/-- The first path that is no string is told. -/
theorem exists_ofPaths_eq_error (htags : (Yaml.mapping paths).isUntagged = true)
    (h : ∃ e ∈ paths, ∀ path, e.1 ≠ .string path) :
    ∃ before e after, paths = before ++ e :: after ∧ (∀ e' ∈ before, ∃ path, e'.1 = .string path) ∧
      (∀ path, e.1 ≠ .string path) ∧ ofPaths paths = .error (.pathKey e.1.shown) := by
  rw [Yaml.isUntagged_mapping] at htags
  induction paths with
  | nil => obtain ⟨e, he, -⟩ := h; cases he
  | cons e rest ih =>
    obtain ⟨k, item⟩ := e
    obtain ⟨⟨hk, -⟩, htags⟩ := List.forall_mem_cons.1 htags
    cases htext : k.text? with
    | none =>
      refine ⟨[], (k, item), rest, rfl, by simp, fun path hpath => ?_, by rw [ofPaths, htext]⟩
      rw [(Yaml.text?_eq_some_iff hk).2 hpath] at htext
      cases htext
    | some path =>
      have hstring := (Yaml.text?_eq_some_iff hk).1 htext
      have hother : ∃ e ∈ rest, ∀ path, e.1 ≠ .string path := by
        obtain ⟨e, he, hne⟩ := h
        rcases List.mem_cons.1 he with rfl | he
        · exact absurd hstring (hne path)
        · exact ⟨e, he, hne⟩
      obtain ⟨before, e, after, rfl, hbefore, hne, herror⟩ := ih htags hother
      refine ⟨(k, item) :: before, e, after, rfl, ?_, hne, by rw [ofPaths, htext, herror]; rfl⟩
      exact List.forall_mem_cons.2 ⟨⟨path, hstring⟩, hbefore⟩

/-- Some path has a method in two spellings. -/
def SpellsTwice (paths : List (Yaml × Yaml)) : Prop :=
  ∃ path members name name' method, (.string path, .mapping members) ∈ paths ∧
    (∃ v, (.string name, v) ∈ members) ∧ (∃ v, (.string name', v) ∈ members) ∧ name ≠ name' ∧
    Spells name method ∧ Spells name' method

/-- Two operations have one route if they have one path and one method. -/
theorem not_nodup_iff_spellsTwice (h : (Yaml.mapping paths).KeysApart) :
    ¬ ((operations paths).map Operation.route).Nodup ↔ SpellsTwice paths := by
  rw [List.nodup_map_iff_inj_on (nodup_operations h)]
  push Not
  constructor
  · rintro ⟨⟨path, name⟩, hop, ⟨path', name'⟩, hop', hroute, hne⟩
    obtain ⟨members, hmem, hname, m, hspells⟩ := mem_operations.1 hop
    obtain ⟨members', hmem', hname', m', hspells'⟩ := mem_operations.1 hop'
    rw [Operation.route_mk _ hspells, Operation.route_mk _ hspells'] at hroute
    have hsplit := congrArg split hroute
    rw [split_key hspells.1, split_key hspells'.1] at hsplit
    obtain ⟨rfl, hpath⟩ := Prod.mk.inj hsplit
    obtain rfl : path = path' := hpath
    -- a path is the key of one item, so both names stand in the same one
    cases h with
    | mapping hpaths _ _ =>
      obtain rfl := Yaml.mapping.inj (hpaths.eq_of_mem hmem hmem')
      exact ⟨path, members, name, name', m, hmem, hname, hname',
        fun heq => hne (heq ▸ rfl), hspells, hspells'⟩
  · rintro ⟨path, members, name, name', m, hmem, hname, hname', hne, hspells, hspells'⟩
    refine ⟨⟨path, name⟩, mem_operations.2 ⟨members, hmem, hname, m, hspells⟩,
      ⟨path, name'⟩, mem_operations.2 ⟨members, hmem, hname', m, hspells'⟩, ?_, ?_⟩
    · rw [Operation.route_mk _ hspells, Operation.route_mk _ hspells']
    · exact fun heq => hne (congrArg Operation.name heq)

/-- What comes of the paths of a document. -/
structure Derives (paths : List (Yaml × Yaml)) (result : Except Fault (List String)) : Prop where
  /-- Paths that are strings give one route for each operation, in order. -/
  routes : (∀ e ∈ paths, ∃ path, e.1 = .string path) →
    ∃ routes, result = .ok routes ∧ List.Forall₂ Operation.IsRoutedBy (operations paths) routes ∧
      (¬ routes.Nodup ↔ SpellsTwice paths)
  /-- Of other paths the first is told. -/
  refuses : (∃ e ∈ paths, ∀ path, e.1 ≠ .string path) →
    ∃ before e after, paths = before ++ e :: after ∧ (∀ e' ∈ before, ∃ path, e'.1 = .string path) ∧
      (∀ path, e.1 ≠ .string path) ∧ result = .error (.pathKey e.1.shown)

/-- **Routes.**  A document without tags that maps `paths` to a mapping with strings as keys gives
one route for each operation, in order and nothing else.  A route tells its method and its path when
it is split at its first space, and one occurs twice exactly if some path has a method in two
spellings.  With any other key among the paths nothing is derived. -/
theorem derives_ofText {text : String} {entries : List (Yaml × Yaml)}
    (hread : Yaml.read text = some (.mapping entries))
    (htags : (Yaml.mapping entries).isUntagged = true)
    (hpaths : (.string "paths", .mapping paths) ∈ entries) :
    Derives paths (ofText text) ∧
      ∀ method ∈ methods, ∀ path, split (key method path) = (method, path) := by
  obtain ⟨hof, hapart⟩ : ofText text = ofPaths paths ∧ (Yaml.mapping paths).KeysApart := by
    cases Yaml.keysApart_of_read hread with
    | mapping hdiffer _ hvalues =>
      refine ⟨?_, hvalues _ hpaths⟩
      unfold ofText ofYaml
      rw [hread]
      dsimp only
      rw [hdiffer.get?_eq hpaths]
      rfl
  have hpathTags := (Yaml.isUntagged_mapping.1 htags _ hpaths).2
  refine ⟨⟨fun hstrings => ?_, fun hother => ?_⟩, fun _ hm => split_key hm⟩
  · refine ⟨_, hof.trans (ofPaths_eq_ok hpathTags hstrings), ?_, not_nodup_iff_spellsTwice hapart⟩
    exact List.forall₂_map_right_iff.2 (List.forall₂_same.2 fun op => Operation.isRoutedBy_route)
  · rw [hof]
    exact exists_ofPaths_eq_error hpathTags hother

/-- A document in which a path has a method in two spellings. -/
def petsText : String :=
  "paths:\n  /pets and owners:\n    parameters: []\n    get:\n    Post:\n    post:\n  /status: none\n"

/-- Its events. -/
def petsEvents : List Yaml.Event :=
  [.mappingStart {}, .scalar {} "paths" true,
    .mappingStart {}, .scalar {} "/pets and owners" true,
    .mappingStart {}, .scalar {} "parameters" true, .sequenceStart {}, .sequenceEnd,
    .scalar {} "get" true, .scalar {} "" true, .scalar {} "Post" true, .scalar {} "" true,
    .scalar {} "post" true, .scalar {} "" true, .mappingEnd,
    .scalar {} "/status" true, .scalar {} "none" true, .mappingEnd, .mappingEnd]

/-- Its paths. -/
def petsPaths : List (Yaml × Yaml) :=
  [(.string "/pets and owners", .mapping
      [(.string "parameters", .sequence []), (.string "get", .null), (.string "Post", .null),
        (.string "post", .null)]),
    (.string "/status", .string "none")]

set_option maxRecDepth 20000 in
theorem read_petsText :
    Yaml.read petsText = some (.mapping [(.string "paths", .mapping petsPaths)]) := by
  have hevents : (Yaml.Token.ofText? petsText.toList).bind Yaml.Event.ofTokens? =
      some petsEvents := by
    decide +kernel
  have hvalue : Yaml.ofEvents? petsEvents =
      some (.mapping [(.string "paths", .mapping petsPaths)]) := by
    with_unfolding_all rfl
  obtain ⟨tokens, htokens, hevents⟩ := Option.bind_eq_some_iff.1 hevents
  rw [Yaml.read, htokens, ← hvalue]
  exact congrArg (·.bind Yaml.ofEvents?) hevents

/-- The document is read, and its routes are not distinct. -/
theorem exists_routes_petsText :
    ∃ routes, ofText petsText = .ok routes ∧
      List.Forall₂ Operation.IsRoutedBy (operations petsPaths) routes ∧ ¬ routes.Nodup := by
  obtain ⟨⟨hroutes, -⟩, -⟩ :=
    derives_ofText read_petsText (by decide) (List.mem_singleton_self _)
  obtain ⟨routes, hok, hops, htwice⟩ := hroutes (by simp [petsPaths])
  refine ⟨routes, hok, hops, htwice.2 ⟨"/pets and owners", _, "Post", "post", "POST",
    List.mem_cons_self .., ⟨.null, ?_⟩, ⟨.null, ?_⟩, by decide, by decide, by decide⟩⟩
  · simp
  · simp

end ServicePlan.Route
