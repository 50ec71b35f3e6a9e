/- Renderers with matching tools.

Renderers of one set-up whose tools match deliver the same, from sessions that agree but for the
states of the surrounding program, and leave such sessions behind (`render_related`). A
renderer with tools that keep a property of the state keeps it, and one with pure tools leaves
the state alone (`renderTemplate_state`). -/
import Herald.Proofs.Rendering
import Herald.Renderer
namespace Herald
set_option autoImplicit false

section Related
variable {First Second : Type}

/-- Two sessions with the same cache and the same tally, in related states. -/
structure Session.Related (related : First → Second → Prop) (first : Session First)
    (second : Session Second) : Prop where
  cache : first.cache = second.cache
  tally : first.tally = second.tally
  state : related first.state second.state

/-- Two deliveries of the same, in related sessions. -/
structure Delivery.Related (related : First → Second → Prop) (first : Delivery First)
    (second : Delivery Second) : Prop where
  result : first.result = second.result
  events : first.events = second.events
  session : first.session.Related related second.session

end Related

namespace Renderer

section Matched
variable {First Second : Type} {related : First → Second → Prop}

/-- Two renderers of one set-up with matching tools. -/
structure Matched (related : First → Second → Prop) (renderer : Renderer First)
    (other : Renderer Second) : Prop where
  config : renderer.config = other.config
  tools : renderer.tools.Matched related other.tools

variable {renderer : Renderer First} {other : Renderer Second} {state : First} {state' : Second}

theorem renderText_related (matched : Matched related renderer other) (context : Context)
    (source : String) (same : related state state') :
    (renderer.renderText context source state).Related related
      (other.renderText context source state') := by
  have begun : (Progress.start state).Related related (Progress.start state') := ⟨rfl, rfl, same⟩
  obtain ⟨text, events, after⟩ :=
    Toolbox.renderNodes_related matched.tools context (Node.ofSource source.toList) begun
  refine ⟨?_, events, after⟩
  simp only [renderText, finish, Toolbox.renderSource, matched.config, text]

theorem renderOptional_related (matched : Matched related renderer other) (context : Context)
    (source : Option String) (same : related state state') :
    (renderer.renderOptional context source state).1 = (other.renderOptional context source state').1 ∧
      (renderer.renderOptional context source state).2.1 =
        (other.renderOptional context source state').2.1 ∧
      related (renderer.renderOptional context source state).2.2
        (other.renderOptional context source state').2.2 := by
  cases source with
  | none => exact ⟨rfl, rfl, same⟩
  | some source =>
      obtain ⟨text, events, after⟩ := renderText_related matched context source same
      exact ⟨congrArg some text, events, after⟩

theorem renderTemplate_related (matched : Matched related renderer other) (context : Context)
    (template : Template) (same : related state state') :
    (renderer.renderTemplate context template state).1 =
        (other.renderTemplate context template state').1 ∧
      (renderer.renderTemplate context template state).2.1 =
        (other.renderTemplate context template state').2.1 ∧
      related (renderer.renderTemplate context template state).2.2
        (other.renderTemplate context template state').2.2 := by
  obtain ⟨title, titleEvents, titled⟩ := renderOptional_related matched context template.title same
  obtain ⟨content, contentEvents, written⟩ :=
    renderText_related matched context template.content titled
  obtain ⟨link, linkEvents, linked⟩ := renderOptional_related matched context template.link written
  simp only [renderTemplate]
  exact ⟨by rw [title, content, link], by rw [titleEvents, contentEvents, linkEvents], linked⟩

variable {first : Session First} {second : Session Second}

theorem renderFresh_related (matched : Matched related renderer other) (clock : Clock)
    (template : Template) (data : Value) (options : RenderOptions) (key : Option String)
    (same : first.Related related second) :
    (renderer.renderFresh clock template data options key first).Related related
      (other.renderFresh clock template data options key second) := by
  simp only [renderFresh]
  split
  · exact ⟨rfl, rfl, same.cache, congrArg Tally.countError same.tally, same.state⟩
  · rename_i context built
    obtain ⟨rendered, events, after⟩ := renderTemplate_related matched context template same.state
    refine ⟨congrArg Except.ok rendered, events, ?_, ?_, after⟩
    · rw [same.cache, rendered]
    · rw [same.tally, events]

/-- **Renderers with matching tools deliver the same.** -/
theorem render_related (matched : Matched related renderer other) (clock : Clock) (template : Template)
    (data : Value) (options : RenderOptions) (same : first.Related related second) :
    (renderer.render clock template data options first).Related related
      (other.render clock template data options second) := by
  have uses : renderer.usesCache options = other.usesCache options := by
    rw [usesCache, usesCache, matched.config]
  simp only [render, uses, same.cache]
  split
  · split
    · exact ⟨rfl, rfl, rfl, congrArg Tally.countHit same.tally, same.state⟩
    · exact renderFresh_related matched clock template data options _
        ⟨rfl, congrArg Tally.countMiss same.tally, same.state⟩
  · exact renderFresh_related matched clock template data options none same

end Matched

variable {State : Type} {renderer : Renderer State}

/-- A renderer whose tools keep a property of the state matches itself. -/
theorem matched_of_keeps {kept : State → Prop} (keeps : renderer.tools.Keeps kept) :
    Matched (fun state other => state = other ∧ kept state) renderer renderer :=
  ⟨rfl, keeps.matched⟩

/-- **Pure tools leave the surrounding state alone.** -/
theorem renderTemplate_state (pure : renderer.tools.Pure) (context : Context) (template : Template)
    (state : State) : (renderer.renderTemplate context template state).2.2 = state :=
  (renderTemplate_related (matched_of_keeps (pure.keeps state)) context template ⟨rfl, rfl⟩).2.2.2

end Renderer
end Herald
