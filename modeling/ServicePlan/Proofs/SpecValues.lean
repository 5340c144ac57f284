import Mathlib.Data.List.Sort
import ServicePlan.Proofs.Records
import ServicePlan.Spec.Service

/-!
# Specs are restored from their values

A part of a spec is decoded from many values: an object or an array, with or without members that
may be left out or be null, under one name or another.  It is written as one of them, an object
with all of its members in ascending order.  Decoding this object makes up the same part again, and
so the object is what it is written as from then on.

* `Decoder.Undoes`: a decoder undoes a way of writing what it decodes.
* `Decoder.Undoes.list`, `Decoder.Undoes.table`: lists and tables of such values.
* `Fields.retakes_required`, …: fields take again what they were decoded from.
* `Fields.undoes_decode`: records that are written member by member.
* `SpecsRestored`, `specs_restored`: all parts of a spec.
-/

namespace ServicePlan

open Json (bind_eq_ok exists_of_bind_eq_ok)

section Values

variable {α : Type} {d : Decoder α} {encode : α → Json}

/-! ## Single values -/

/-- A decoder undoes a way of writing what it decodes, which never writes null. -/
structure Decoder.Undoes (d : Decoder α) (encode : α → Json) : Prop where
  /-- What was decoded from some value is decoded from the value that it is written as. -/
  decode_encode : ∀ v a, d v = .ok a → d (encode a) = .ok a
  /-- Null stands for what is missing. -/
  ne_null : ∀ a, encode a ≠ .null

namespace Decode

theorem undoes_string : Decoder.Undoes string .string where
  decode_encode _ _ _ := rfl
  ne_null := nofun

theorem undoes_bool : Decoder.Undoes bool .bool where
  decode_encode _ _ _ := rfl
  ne_null := nofun

theorem undoes_number : Decoder.Undoes number .number where
  decode_encode _ _ _ := rfl
  ne_null := nofun

/-- An integer is written as the number that it was decoded from. -/
theorem undoes_int : Decoder.Undoes int .int where
  decode_encode v i h := by
    obtain rfl := eq_of_int_eq_ok h
    exact h
  ne_null := nofun

end Decode

namespace Decoder.Undoes

/-- Lists are restored item by item. -/
theorem list (h : d.Undoes encode) :
    (Decode.list d).Undoes fun items => .array (items.map encode) where
  decode_encode v items hv := by
    cases v with
    | array values =>
      have hitems : ∀ a ∈ items, d (encode a) = .ok (id a) := by
        intro a ha
        obtain ⟨w, -, hw⟩ := Decode.exists_of_list_eq_ok hv a ha
        exact h.decode_encode w a hw
      have hlist := Decode.list_map hitems
      rwa [List.map_id] at hlist
    | _ => cases hv
  ne_null := nofun

/-- Tables are restored value by value. -/
theorem table (h : d.Undoes encode) : (Decode.table d).Undoes (.ofTable encode) where
  decode_encode v t hv := by
    cases v with
    | object members =>
      refine Decode.table_ofTable fun e he => ?_
      obtain ⟨w, -, hw⟩ := Decode.exists_mem_of_table_eq_ok hv he
      exact h.decode_encode w e.2 hw
    | _ => cases hv
  ne_null := nofun

end Decoder.Undoes

theorem Decode.undoes_strings : Decoder.Undoes (list string) .strings := undoes_string.list

/-! ## Records -/

namespace Fields

variable {f : Fields α} {name : String} {look before : String → Option Json}

/-- A field takes again what it was decoded from, once this is written. -/
theorem retakes_required {a : α} (hd : d.Undoes encode)
    (h : (required name d).build before = .ok a) (hlook : look name = some (encode a)) :
    (required name d).Takes look a := by
  obtain ⟨v, -, hv⟩ := given_of_build_required h
  exact takes_required hlook (hd.decode_encode v a hv)

/-- So does a field that was left out, if its default can be written. -/
theorem retakes_withDefault {default a : α} {alternative : Option String} (hd : d.Undoes encode)
    (hdefault : d (encode default) = .ok default)
    (h : (withDefault name d default alternative).build before = .ok a)
    (hlook : look name = some (encode a)) :
    (withDefault name d default alternative).Takes look a := by
  obtain ⟨v, -, hv⟩ | rfl := given_of_build_withDefault h
  · exact takes_withDefault hlook (hd.decode_encode v a hv)
  · exact takes_withDefault hlook hdefault

/-- And a field that may be missing, which is written as null then. -/
theorem retakes_optional {o : Option α} {alternative : Option String} (hd : d.Undoes encode)
    (h : (optional name d alternative).build before = .ok o)
    (hlook : look name = some (Json.orNull encode o)) :
    (optional name d alternative).Takes look o := by
  refine takes_withDefault hlook ?_
  cases o with
  | none => rfl
  | some a =>
    obtain ⟨v, -, hv⟩ := given_of_build_optional h a rfl
    have hsome : Decode.optional d (encode a) = (d (encode a)).map some := by
      rw [Decode.optional]
      exact hd.ne_null a
    rw [Json.orNull, hsome, hd.decode_encode v a hv]
    rfl

/-- What was decoded is built from what its fields were given. -/
theorem exists_build_eq_ok {shape : String} {v : Json} {a : α} (h : f.decode shape v = .ok a) :
    ∃ look, f.build look = .ok a := by
  cases v with
  | object members =>
    obtain ⟨given, -, h⟩ := exists_of_bind_eq_ok h
    exact ⟨_, h⟩
  | array items =>
    obtain ⟨given, -, h⟩ := exists_of_bind_eq_ok h
    obtain ⟨b, hb, h⟩ := exists_of_bind_eq_ok h
    split at h
    · cases h
    · cases h
      exact ⟨_, hb⟩
  | _ => cases h

/-- **Records are restored field by field.**  Let a record be written as an object with the names of
its fields in ascending order.  If its fields take what is written again, the record is decoded from
what it is written as. -/
theorem undoes_decode {shape : String} {write : α → List (String × Json)}
    (hnames : (f.fields.flatMap Field.names).Nodup)
    (hwrite : ∀ a, (write a).map (·.1) = (f.fields.map (·.name)).insertionSort (· ≤ ·))
    (h : ∀ before a, f.build before = .ok a → f.Takes ((write a).lookup ·) a) :
    Decoder.Undoes (f.decode shape) fun a => .object (write a) where
  decode_encode v a hv := by
    obtain ⟨before, hbefore⟩ := exists_build_eq_ok hv
    refine (h before a hbefore).decode_eq_ok shape hnames ?_
    rw [hwrite]
    exact List.perm_insertionSort ..
  ne_null := nofun

end Fields

end Values

/-! ## User pools -/

/-- A user pool is written with its id among the other members, of which none has the name of the
id. -/
theorem UserPoolSpec.undoes : Decoder.Undoes decode encode where
  decode_encode v p h := by
    cases v with
    | object members =>
      simp only [decode] at h
      split at h
      · rename_i v hv
        obtain ⟨id, -, h⟩ := exists_of_bind_eq_ok h
        cases h
        generalize hextra : Table.ofList (members.filter (·.1 ≠ idName)) = extra
        have hnew : idName ∉ extra.keys := by
          intro hmem
          obtain ⟨e, he, hname⟩ := List.mem_map.1 (Table.mem_map_of_mem_keys_ofList (hextra ▸ hmem))
          simpa [hname] using (List.mem_filter.1 he).2
        have hentries : (extra.insert idName (.string id)).entries.map (fun e => (e.1, e.2)) =
            Table.insertEntry idName (.string id) extra.entries := List.map_id _
        have hid : (Table.insertEntry idName (.string id) extra.entries).lookup idName =
            some (.string id) := by rw [Table.lookup_insertEntry, if_pos rfl]
        simp only [encode, Json.ofTable, hentries, decode, hid, Table.filter_insertEntry hnew]
        have hfilled : Table.ofList extra.entries = extra :=
          Table.ext (Table.entries_ofList extra.ascending)
        rw [hfilled]
        rfl
      · cases h
    | _ => cases h
  ne_null := nofun

/-! ## The parts of a spec -/

open Fields (retakes_required retakes_withDefault retakes_optional)
open Decode (undoes_string undoes_strings undoes_bool undoes_number undoes_int)

theorem QueueSpec.undoes : Decoder.Undoes decode encode := by
  refine Fields.undoes_decode (by decide) (fun _ => rfl) fun before queue h => ?_
  obtain ⟨timeout, htimeout, rfl⟩ := Fields.exists_of_build_map h
  exact (retakes_optional undoes_int htimeout rfl).map mk

theorem FunctionSpec.undoes : Decoder.Undoes decode encode := by
  refine Fields.undoes_decode (by decide) (fun _ => rfl) fun before => ?_
  unfold fields
  iterate 9 refine Fields.of_build_seq ?_
  intro _ h runtime hruntime timeout htimeout memory hmemory storage hstorage layers hlayers
    policies hpolicies queue hqueue next hnext test htest
  obtain ⟨code, hcode, rfl⟩ := Fields.exists_of_build_map h
  refine .seq (.seq (.seq (.seq (.seq (.seq (.seq (.seq (.seq (.map ?code mk) ?runtime) ?timeout)
    ?memory) ?storage) ?layers) ?policies) ?queue) ?next) ?test
  case code => exact retakes_optional undoes_string hcode rfl
  case runtime => exact retakes_optional undoes_string hruntime rfl
  case timeout => exact retakes_optional undoes_int htimeout rfl
  case memory => exact retakes_optional undoes_int hmemory rfl
  case storage => exact retakes_optional undoes_int hstorage rfl
  case layers => exact retakes_withDefault undoes_strings rfl hlayers rfl
  case policies => exact retakes_withDefault undoes_strings rfl hpolicies rfl
  case queue => exact retakes_optional QueueSpec.undoes hqueue rfl
  case next => exact retakes_optional undoes_string hnext rfl
  case test => exact retakes_optional undoes_string htest rfl

theorem TopicSpec.undoes : Decoder.Undoes decode encode := by
  refine Fields.undoes_decode (by decide) (fun _ => rfl) fun before => ?_
  refine Fields.of_build_seq ?_
  intro _ h functions hfunctions
  obtain ⟨description, hdescription, rfl⟩ := Fields.exists_of_build_map h
  refine .seq (.map ?description mk) ?functions
  case description => exact retakes_optional undoes_string hdescription rfl
  case functions => exact retakes_optional FunctionSpec.undoes.table hfunctions rfl

theorem BucketSpec.undoes : Decoder.Undoes decode encode := by
  refine Fields.undoes_decode (by decide) (fun _ => rfl) fun before => ?_
  refine Fields.of_build_seq ?_
  intro _ h website hwebsite
  obtain ⟨publicRead, hread, rfl⟩ := Fields.exists_of_build_map h
  refine .seq (.map ?read mk) ?website
  case read => exact retakes_withDefault undoes_bool rfl hread rfl
  case website => exact retakes_withDefault undoes_bool rfl hwebsite rfl

theorem JobSpec.undoes : Decoder.Undoes decode encode := by
  refine Fields.undoes_decode (by decide) (fun _ => rfl) fun before => ?_
  iterate 3 refine Fields.of_build_seq ?_
  intro _ h memory hmemory processors hprocessors state hstate
  obtain ⟨most, hmost, rfl⟩ := Fields.exists_of_build_map h
  refine .seq (.seq (.seq (.map ?most mk) ?memory) ?processors) ?state
  case most => exact retakes_required undoes_int hmost rfl
  case memory => exact retakes_optional undoes_int hmemory rfl
  case processors => exact retakes_optional undoes_number hprocessors rfl
  case state => exact retakes_required undoes_string hstate rfl

theorem AuthorizationSpec.undoes : Decoder.Undoes decode encode := by
  refine Fields.undoes_decode (by decide) (fun _ => rfl) fun before => ?_
  refine Fields.of_build_seq ?_
  intro _ h app happ
  obtain ⟨user, huser, rfl⟩ := Fields.exists_of_build_map h
  refine .seq (.map ?user mk) ?app
  case user => exact retakes_required undoes_string huser rfl
  case app => exact retakes_required undoes_string happ rfl

/-- The name that a document was given under is not kept. -/
theorem RouteSpec.undoes : Decoder.Undoes decode encode := by
  refine Fields.undoes_decode (by decide) (fun _ => rfl) fun before => ?_
  iterate 2 refine Fields.of_build_seq ?_
  intro _ h document hdocument authorization hauthorization
  obtain ⟨routes, hroutes, rfl⟩ := Fields.exists_of_build_map h
  refine .seq (.seq (.map ?routes mk) ?document) ?authorization
  case routes => exact retakes_optional undoes_strings hroutes rfl
  case document => exact retakes_optional undoes_string hdocument rfl
  case authorization => exact retakes_optional AuthorizationSpec.undoes hauthorization rfl

theorem GatewaySpec.undoes : Decoder.Undoes decode encode := by
  refine Fields.undoes_decode (by decide) (fun _ => rfl) fun before => ?_
  iterate 4 refine Fields.of_build_seq ?_
  intro _ h domain hdomain zone hzone certificate hcertificate integrations hintegrations
  obtain ⟨description, hdescription, rfl⟩ := Fields.exists_of_build_map h
  refine .seq (.seq (.seq (.seq (.map ?description mk) ?domain) ?zone) ?certificate) ?integrations
  case description => exact retakes_optional undoes_string hdescription rfl
  case domain => exact retakes_optional undoes_string hdomain rfl
  case zone => exact retakes_optional undoes_string hzone rfl
  case certificate => exact retakes_optional undoes_string hcertificate rfl
  case integrations => exact retakes_withDefault RouteSpec.undoes.table rfl hintegrations rfl

theorem AppSpec.undoes : Decoder.Undoes decode encode := by
  refine Fields.undoes_decode (by decide) (fun _ => rfl) fun before => ?_
  iterate 5 refine Fields.of_build_seq ?_
  intro _ h description hdescription user huser topic htopic inline hinline managed hmanaged
  obtain ⟨domain, hdomain, rfl⟩ := Fields.exists_of_build_map h
  refine .seq (.seq (.seq (.seq (.seq (.map ?domain mk) ?description) ?user) ?topic) ?inline)
    ?managed
  case domain => exact retakes_required undoes_string hdomain rfl
  case description => exact retakes_optional undoes_string hdescription rfl
  case user => exact retakes_optional undoes_string huser rfl
  case topic => exact retakes_optional undoes_string htopic rfl
  case inline => exact retakes_withDefault undoes_strings rfl hinline rfl
  case managed => exact retakes_withDefault undoes_strings rfl hmanaged rfl

theorem BranchSpec.undoes : Decoder.Undoes decode encode := by
  refine Fields.undoes_decode (by decide) (fun _ => rfl) fun before => ?_
  iterate 3 refine Fields.of_build_seq ?_
  intro _ h appStage happ bucket hbucket url hurl
  obtain ⟨stage, hstage, rfl⟩ := Fields.exists_of_build_map h
  refine .seq (.seq (.seq (.map ?stage mk) ?app) ?bucket) ?url
  case stage => exact retakes_optional undoes_string hstage rfl
  case app => exact retakes_optional undoes_string happ rfl
  case bucket => exact retakes_optional undoes_string hbucket rfl
  case url => exact retakes_optional undoes_string hurl rfl

theorem NetworkSpec.undoes : Decoder.Undoes decode encode := by
  refine Fields.undoes_decode (by decide) (fun _ => rfl) fun before => ?_
  refine Fields.of_build_seq ?_
  intro _ h group hgroup
  obtain ⟨subnets, hsubnets, rfl⟩ := Fields.exists_of_build_map h
  refine .seq (.map ?subnets mk) ?group
  case subnets => exact retakes_required undoes_strings hsubnets rfl
  case group => exact retakes_required undoes_string hgroup rfl

theorem ReferenceSpec.undoes : Decoder.Undoes decode encode := by
  refine Fields.undoes_decode (by decide) (fun _ => rfl) fun before => ?_
  iterate 2 refine Fields.of_build_seq ?_
  intro _ h pools hpools network hnetwork
  obtain ⟨layers, hlayers, rfl⟩ := Fields.exists_of_build_map h
  refine .seq (.seq (.map ?layers mk) ?pools) ?network
  case layers => exact retakes_withDefault undoes_string.table rfl hlayers rfl
  case pools => exact retakes_withDefault UserPoolSpec.undoes.table rfl hpools rfl
  case network => exact retakes_optional NetworkSpec.undoes hnetwork rfl

theorem ServiceSpec.undoes : Decoder.Undoes decode encode := by
  refine Fields.undoes_decode (by decide) (fun _ => rfl) fun before => ?_
  unfold fields
  iterate 14 refine Fields.of_build_seq ?_
  intro _ h apiName hapi branches hbranches handler hhandler policies hpolicies references
    hreferences tags htags runtime hruntime repository hrepository functions hfunctions gateway
    hgateway buckets hbuckets topics htopics jobs hjobs apps happs
  obtain ⟨serviceName, hservice, rfl⟩ := Fields.exists_of_build_map h
  refine .seq (.seq (.seq (.seq (.seq (.seq (.seq (.seq (.seq (.seq (.seq (.seq (.seq (.seq
    (.map ?service mk) ?api) ?branches) ?handler) ?policies) ?references) ?tags) ?runtime)
    ?repository) ?functions) ?gateway) ?buckets) ?topics) ?jobs) ?apps
  case service => exact retakes_required undoes_string hservice rfl
  case api => exact retakes_required undoes_string hapi rfl
  case branches => exact retakes_required BranchSpec.undoes.table hbranches rfl
  case handler => exact retakes_required undoes_string hhandler rfl
  case policies => exact retakes_withDefault undoes_strings rfl hpolicies rfl
  case references => exact retakes_optional ReferenceSpec.undoes hreferences rfl
  case tags => exact retakes_withDefault undoes_string.table rfl htags rfl
  case runtime => exact retakes_optional undoes_string hruntime rfl
  case repository => exact retakes_optional undoes_string hrepository rfl
  case functions => exact retakes_withDefault FunctionSpec.undoes.table rfl hfunctions rfl
  case gateway => exact retakes_optional GatewaySpec.undoes hgateway rfl
  case buckets => exact retakes_optional BucketSpec.undoes.table hbuckets rfl
  case topics => exact retakes_optional TopicSpec.undoes.table htopics rfl
  case jobs => exact retakes_optional JobSpec.undoes.table hjobs rfl
  case apps => exact retakes_optional AppSpec.undoes.table happs rfl

/-! ## Whole specs -/

/-- What was decoded is decoded again from the value that it is written as, and is written as this
value then. -/
def Decoder.Restores {α : Type} (d : Decoder α) (encode : α → Json) : Prop :=
  ∀ v a, d v = .ok a → d (encode a) = .ok a ∧ (d (encode a)).map encode = .ok (encode a)

theorem Decoder.Undoes.restores {α : Type} {d : Decoder α} {encode : α → Json}
    (h : d.Undoes encode) : d.Restores encode := by
  intro v a hv
  have hagain := h.decode_encode v a hv
  exact ⟨hagain, by rw [hagain]; rfl⟩

/-- All parts of a spec are restored from their values. -/
structure SpecsRestored : Prop where
  service : Decoder.Restores ServiceSpec.decode ServiceSpec.encode
  function : Decoder.Restores FunctionSpec.decode FunctionSpec.encode
  queue : Decoder.Restores QueueSpec.decode QueueSpec.encode
  topic : Decoder.Restores TopicSpec.decode TopicSpec.encode
  bucket : Decoder.Restores BucketSpec.decode BucketSpec.encode
  job : Decoder.Restores JobSpec.decode JobSpec.encode
  gateway : Decoder.Restores GatewaySpec.decode GatewaySpec.encode
  routes : Decoder.Restores RouteSpec.decode RouteSpec.encode
  authorization : Decoder.Restores AuthorizationSpec.decode AuthorizationSpec.encode
  branch : Decoder.Restores BranchSpec.decode BranchSpec.encode
  references : Decoder.Restores ReferenceSpec.decode ReferenceSpec.encode
  pool : Decoder.Restores UserPoolSpec.decode UserPoolSpec.encode
  network : Decoder.Restores NetworkSpec.decode NetworkSpec.encode
  app : Decoder.Restores AppSpec.decode AppSpec.encode
  /-- A service also passes its checks again. -/
  checked : ∀ v s, ServiceSpec.ofJson v = .ok s → ServiceSpec.ofJson s.encode = .ok s

theorem ServiceSpec.ofJson_encode {v : Json} {s : ServiceSpec} (h : ofJson v = .ok s) :
    ofJson s.encode = .ok s := by
  obtain ⟨t, ht, h⟩ := exists_of_bind_eq_ok h
  obtain ⟨⟨⟩, hcheck, h⟩ := exists_of_bind_eq_ok h
  cases h
  cases hdecode : decode v with
  | error e =>
    rw [hdecode] at ht
    cases ht
  | ok t =>
    rw [hdecode] at ht
    cases ht
    rw [ofJson, undoes.decode_encode v s hdecode]
    exact bind_eq_ok rfl (bind_eq_ok hcheck rfl)

/-- **Specs are restored.**  Let a value be decoded as a service or as one of the parts of a
service: an object, or an array where the part has a list of fields, with unknown members, with
members that are missing or null, and with a document of routes under either name.  What was decoded
is decoded again from the value that it is written as, and is written as the same value after
that. -/
theorem specs_restored : SpecsRestored where
  service := ServiceSpec.undoes.restores
  function := FunctionSpec.undoes.restores
  queue := QueueSpec.undoes.restores
  topic := TopicSpec.undoes.restores
  bucket := BucketSpec.undoes.restores
  job := JobSpec.undoes.restores
  gateway := GatewaySpec.undoes.restores
  routes := RouteSpec.undoes.restores
  authorization := AuthorizationSpec.undoes.restores
  branch := BranchSpec.undoes.restores
  references := ReferenceSpec.undoes.restores
  pool := UserPoolSpec.undoes.restores
  network := NetworkSpec.undoes.restores
  app := AppSpec.undoes.restores
  checked _ _ := ServiceSpec.ofJson_encode

/-- A document under its other name, and a member that no field has the name of. -/
example :
    let members := [("comment", .null), ("openapi_yaml", .string "api.yaml")]
    (RouteSpec.decode (.object members)).map RouteSpec.encode = .ok (.object [
      ("cognito_auth", .null), ("route", .null), ("route_openapi", .string "api.yaml")]) := rfl

end ServicePlan
