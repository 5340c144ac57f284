import ServicePlan.Deployment
import ServicePlan.Distinct
import ServicePlan.Text.Replace

/-!
# Placeholders

A spec or a policy fragment may contain placeholder tokens, a name between an opening brace with
a dollar sign and a closing brace.  A set of `Bindings` gives values to some of the six
placeholders, `Bindings.substitute` replaces the bound tokens one placeholder after another, and
`unresolved` lists the tokens that are still in a text.

* `Placeholder.all`: the order in which placeholders are replaced.  A value may itself contain
  the token of a later placeholder, which is then replaced too.
* `Bindings.ofSpec`, `Bindings.ofPolicy`: what a spec and a policy fragment may refer to.
* `unresolved`: every token once, by first occurrence.
-/

namespace ServicePlan

/-- The placeholders that have a meaning. -/
inductive Placeholder
  /-- The account id. -/
  | account
  /-- The region name. -/
  | region
  /-- The service name of the spec. -/
  | serviceName
  /-- The service name, as policy fragments spell it. -/
  | service
  /-- The api name of the spec. -/
  | api
  /-- The branch that is being deployed. -/
  | branch
  deriving DecidableEq, Repr

namespace Placeholder

/-- All placeholders, in the order they are replaced. -/
def all : List Placeholder := [account, region, serviceName, service, api, branch]

/-- The token that stands for a placeholder in a document. -/
def token : Placeholder → String
  | account => "\x7b$account\x7d"
  | region => "\x7b$region\x7d"
  | serviceName => "\x7b$service_name\x7d"
  | service => "\x7b$service\x7d"
  | api => "\x7b$api\x7d"
  | branch => "\x7b$branch\x7d"

theorem mem_all (p : Placeholder) : p ∈ all := by
  cases p <;> decide

end Placeholder

/-- The values that are bound to placeholders. -/
structure Bindings where
  /-- The value of a placeholder, if it is bound. -/
  value? : Placeholder → Option String

namespace Bindings

/-- Nothing is bound. -/
def none : Bindings := ⟨fun _ => .none⟩

/-- Binds one placeholder, in place of any earlier value. -/
def bind (b : Bindings) (p : Placeholder) (value : String) : Bindings :=
  ⟨fun q => if q = p then some value else b.value? q⟩

@[simp] theorem value?_bind_self (b : Bindings) (p : Placeholder) (value : String) :
    (b.bind p value).value? p = some value := if_pos rfl

theorem value?_bind_of_ne (b : Bindings) {p q : Placeholder} (value : String) (h : q ≠ p) :
    (b.bind p value).value? q = b.value? q := if_neg h

/-- What a spec document may refer to; the branch only if one is given. -/
def ofSpec (site : Deployment) (serviceName apiName : String) (branch : Option String) :
    Bindings :=
  let shared := none
    |>.bind .account site.account
    |>.bind .region site.region
    |>.bind .serviceName serviceName
    |>.bind .api apiName
  match branch with
  | some branch => shared.bind .branch branch
  | .none => shared

/-- What a policy fragment of one branch may refer to. -/
def ofPolicy (site : Deployment) (service branch : String) : Bindings :=
  none
    |>.bind .account site.account
    |>.bind .region site.region
    |>.bind .service service
    |>.bind .branch branch

/-- What the api name of a spec may refer to, before it is bound itself. -/
def ofApiName (site : Deployment) (serviceName : String) : Bindings :=
  none
    |>.bind .account site.account
    |>.bind .region site.region
    |>.bind .serviceName serviceName

/-- Replaces the token of one placeholder, if it is bound. -/
def replaceToken (b : Bindings) (text : List Char) (p : Placeholder) : List Char :=
  match b.value? p with
  | some value => Text.replace p.token.toList value.toList text
  | .none => text

/-- Replaces the bound tokens of a text, one placeholder after another. -/
def substitute (b : Bindings) (text : String) : String :=
  String.ofList (Placeholder.all.foldl b.replaceToken text.toList)

end Bindings

/-! ## Tokens left in a text -/

/-- The tokens behind the next `skip` characters, repetitions included.  A token runs from an
opening brace with a dollar sign to the next closing brace, and the search goes on behind it; an
opening that is never closed ends the search. -/
def tokensFrom : Nat → List Char → List (List Char)
  | _, [] => []
  | skip + 1, _ :: rest => tokensFrom skip rest
  | 0, c :: rest =>
    if c = '{' ∧ rest.head? = some '$' then
      if '}' ∈ rest then
        let body := rest.takeWhile (· ≠ '}')
        (c :: body ++ ['}']) :: tokensFrom (body.length + 1) rest
      else []
    else tokensFrom 0 rest

/-- The tokens of a text, each once, in the order of their first occurrence. -/
def unresolved (text : String) : List String :=
  (appendNew [] (tokensFrom 0 text.toList)).map String.ofList

end ServicePlan
