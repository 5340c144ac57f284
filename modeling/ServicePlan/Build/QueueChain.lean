import ServicePlan.Spec.Function

/-!
# Chains of queues

A function may send its messages on to the queue of another function.  The other function has to
be declared beside it and to have a queue, and no message may come back to where it was.

* `QueueChain.badEdge?`: the first function that sends messages where there is no queue.
* `QueueChain.cycle?`: the keys along a circle, if there is one.
* `QueueChain.check`: both checks.
-/

namespace ServicePlan.QueueChain

/-- The function that a function sends its messages on to. -/
def next? (functions : Table FunctionSpec) (key : String) : Option String :=
  (functions.get? key).bind (·.queueNext)

/-- What is wrong with where a function sends its messages on to. -/
def edgeFault? (functions : Table FunctionSpec) (key : String) (f : FunctionSpec) : Option Fault :=
  match f.queueNext with
  | none => none
  | some next =>
    match functions.get? next with
    | none => some (.unknownFunction next (s!"queue_next of `{key}`"))
    | some target => if target.queue.isNone then some (.noQueue next key) else none

/-- What is wrong with the first function, in key order, that sends messages where there is no
queue. -/
def badEdge? (functions : Table FunctionSpec) : Option Fault :=
  functions.entries.findSome? fun e => edgeFault? functions e.1 e.2

/-- Follows the chain from a key behind the keys of `path`, up to its end or to a key that is known
to lead into no circle.  The result lists the keys on the way or, as a fault, the keys of the
circle that the chain runs into, from the first one that comes again up to its second
occurrence. -/
def walk (functions : Table FunctionSpec) (settled : List String) :
    Nat → List String → String → Except (List String) (List String)
  | 0, path, _ => .ok path
  | fuel + 1, path, key =>
    if key ∈ settled then .ok path
    else if key ∈ path then .error (path.dropWhile (· ≠ key) ++ [key])
    else
      match next? functions key with
      | none => .ok (path ++ [key])
      | some next => walk functions settled fuel (path ++ [key]) next

/-- The circle that the chain from the first possible key runs into.  A chain that ends settles all
its keys.  A chain without repetition has at most as many keys as there are functions. -/
def firstCycle? (functions : Table FunctionSpec) :
    List String → List String → Option (List String)
  | _, [] => none
  | settled, key :: rest =>
    match walk functions settled (functions.size + 1) [] key with
    | .ok path => firstCycle? functions (settled ++ path) rest
    | .error circle => some circle

/-- The circle that the chain from the first possible key, in key order, runs into. -/
def cycle? (functions : Table FunctionSpec) : Option (List String) :=
  firstCycle? functions [] functions.keys

/-- What is wrong with the chains, if anything is. -/
def fault? (functions : Table FunctionSpec) : Option Fault :=
  (badEdge? functions).or ((cycle? functions).map .queueCycle)

/-- Makes sure that nothing is wrong with the chains. -/
def check (functions : Table FunctionSpec) : Except Fault Unit :=
  match fault? functions with
  | some f => .error f
  | none => .ok ()

end ServicePlan.QueueChain
