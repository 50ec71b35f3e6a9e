/- Render calls that tools without an answer cut short.

Partial tools leave some uses without an answer (`PartialToolbox`). The first such use ends the
call: nothing is returned or stored, the call counts neither as rendered nor as refused, and what
was done before stays done: the look-up, the warnings, and what the tools did to the surrounding
state. A call in which every use has its answer is a render with the completed tools
(`PartialRenderer.attempt_spec` in Proofs/Attempt).

So the render goes on with null to its end, and its tools are watched: they note how many were
used before the first one without an answer, and the state that this one left. What came after
is then cut off. -/
import Herald.Renderer
namespace Herald
set_option autoImplicit false

/-- A surrounding state that is watched: how many tools have been used, and, once a tool has had
no answer, how many were used before it and the state that it left. -/
structure Watched (State : Type) where
  state : State
  uses : Nat
  stop : Option (Nat × State)

namespace Watched
variable {State : Type}

/-- A watch that begins. -/
def start (state : State) : Watched State := ⟨state, 0, none⟩

/-- A watched use of a tool, with null for a missing answer. -/
def use (tool : State → Option Value × State) (watched : Watched State) : Value × Watched State :=
  let (answer, state) := tool watched.state
  let stop := match watched.stop, answer with
    | some earlier, _ => some earlier
    | none, some _ => none
    | none, none => some (watched.uses, state)
  (answer.getD .null, ⟨state, watched.uses + 1, stop⟩)

end Watched

/-- The toolbox with its uses watched. -/
def PartialToolbox.watched {State : Type} (tools : PartialToolbox State) : Toolbox (Watched State) :=
  ⟨Dict.mapValues (fun function arguments context => Watched.use (function arguments context)) tools.functions,
    Dict.mapValues (fun formatter value arguments context => Watched.use (formatter value arguments context))
      tools.formatters⟩

/-- The entries of a trace before the use of a tool that comes after so many other uses. -/
def Event.beforeUse : Nat → List Event → List Event
  | _, [] => []
  | uses, .warned warning :: rest => .warned warning :: beforeUse uses rest
  | 0, _ :: _ => []
  | uses + 1, used :: rest => used :: beforeUse uses rest

/-- What comes of a render call: the result, unless the call is cut short; the trace; and the
session after it. -/
structure Attempt (State : Type) where
  result : Option (Except RenderError Rendered)
  events : Array Event
  session : Session State

/-- A delivery is what comes of a call that is not cut short. -/
def Delivery.toAttempt {State : Type} (delivery : Delivery State) : Attempt State :=
  ⟨some delivery.result, delivery.events, delivery.session⟩

/-- The session around another state. -/
def Session.withState {State Other : Type} (session : Session State) (state : Other) : Session Other :=
  ⟨session.cache, session.tally, state⟩

/-- A renderer with partial tools. -/
structure PartialRenderer (State : Type) where
  config : RendererConfig
  tools : PartialToolbox State

namespace PartialRenderer
variable {State : Type}

/-- The renderer with its tools completed. -/
def completed (renderer : PartialRenderer State) : Renderer State :=
  ⟨renderer.config, renderer.tools.completed⟩

/-- The renderer with its tools watched. -/
def watched (renderer : PartialRenderer State) : Renderer (Watched State) :=
  ⟨renderer.config, renderer.tools.watched⟩

/-- The session behind a look-up that finds nothing, if the call makes one. -/
def lookedUp (renderer : PartialRenderer State) (clock : Clock) (template : Template) (data : Value)
    (options : RenderOptions) (session : Session State) : Session State :=
  if renderer.completed.usesCache options then
    { session with
      cache := (session.cache.get clock.time (CacheKey.ofRender template data options)).2
      tally := session.tally.countMiss }
  else session

/-- The call with its tools watched. -/
def watch (renderer : PartialRenderer State) (clock : Clock) (template : Template) (data : Value)
    (options : RenderOptions) (session : Session State) : Delivery (Watched State) :=
  renderer.watched.render clock template data options (session.withState (Watched.start session.state))

/-- Renders a template against data; the first tool without an answer cuts the call short. -/
def attempt (renderer : PartialRenderer State) (clock : Clock) (template : Template) (data : Value)
    (options : RenderOptions) (session : Session State) : Attempt State :=
  let delivery := renderer.watch clock template data options session
  match delivery.session.state.stop with
  | none => ⟨some delivery.result, delivery.events, delivery.session.withState delivery.session.state.state⟩
  | some (uses, state) =>
    let events := (Event.beforeUse uses delivery.events.toList).toArray
    let met := renderer.lookedUp clock template data options session
    ⟨none, events, ⟨met.cache, met.tally.countEvents events, state⟩⟩

end PartialRenderer
end Herald
