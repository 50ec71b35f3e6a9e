/- What comes of a render call.

A watched render is a render with the completed tools, state by state (`watched_matched`). So a
call is that render unless it is cut short, and one that is cut short looked its key up in vain,
leaves a beginning of that render's trace, and has counted the look-up and the warnings and
nothing else (`attempt_spec`). Tools with all answers cut no call short
(`attempt_of_answers`), so that a renderer is a partial renderer whose calls are its renders
(`attempt_ofToolbox`). -/
import Herald.Attempt
import Herald.Proofs.Renderer
namespace Herald
set_option autoImplicit false

/-! ## Watched tools -/

/-- An answer stops no watch. -/
theorem Watched.use_stop {State : Type} {tool : State → Option Value × State} {watched : Watched State}
    (answered : (tool watched.state).1.isSome = true) (running : watched.stop = none) :
    (use tool watched).2.stop = none := by
  obtain ⟨answer, found⟩ := Option.isSome_iff_exists.mp answered
  simp only [use, running, found]

/-- What is cut off is the end of a trace. -/
theorem Event.beforeUse_prefix (uses : Nat) (events : List Event) : beforeUse uses events <+: events := by
  fun_induction beforeUse uses events with
  | case1 => exact List.prefix_rfl
  | case2 uses warning rest ih => exact (List.prefix_cons_inj _).mpr ih
  | case3 => exact List.nil_prefix
  | case4 uses used rest other ih => exact (List.prefix_cons_inj _).mpr ih

namespace PartialToolbox
variable {State : Type} {tools : PartialToolbox State}

/-- **Watched tools answer as the completed ones.** -/
theorem watched_matched (tools : PartialToolbox State) :
    tools.watched.Matched (fun watched state => watched.state = state) tools.completed where
  functions := by
    intro name
    simp only [watched, completed, Dict.find?_mapValues]
    cases Dict.find? name tools.functions with
    | none => exact .none
    | some function =>
        refine .some fun arguments context watched state same => ?_
        subst same
        exact ⟨rfl, rfl⟩
  formatters := by
    intro name
    simp only [watched, completed, Dict.find?_mapValues]
    cases Dict.find? name tools.formatters with
    | none => exact .none
    | some formatter =>
        refine .some fun value arguments context watched state same => ?_
        subst same
        exact ⟨rfl, rfl⟩

/-- **Tools with all answers stop no watch.** -/
theorem Answers.keeps (answers : tools.Answers) :
    tools.watched.Keeps fun watched => watched.stop = none where
  functions := by
    intro entry inside arguments context watched running
    obtain ⟨given, listed, rfl⟩ := List.mem_map.mp inside
    exact Watched.use_stop (answers.functions given listed arguments context watched.state) running
  formatters := by
    intro entry inside value arguments context watched running
    obtain ⟨given, listed, rfl⟩ := List.mem_map.mp inside
    exact Watched.use_stop (answers.formatters given listed value arguments context watched.state) running

end PartialToolbox

/-! ## Calls -/

namespace PartialRenderer
variable {State : Type} (renderer : PartialRenderer State) (clock : Clock) (template : Template)
  (data : Value) (options : RenderOptions) (session : Session State)

/-- A watched call is the render with the completed tools. -/
theorem watch_related :
    (renderer.watch clock template data options session).Related
      (fun watched state => watched.state = state)
      (renderer.completed.render clock template data options session) := by
  have matched : Renderer.Matched (fun watched state => watched.state = state) renderer.watched
      renderer.completed := ⟨rfl, renderer.tools.watched_matched⟩
  exact Renderer.render_related matched clock template data options ⟨rfl, rfl, rfl⟩

/-- A call in which no watch stops is the render with the completed tools. -/
theorem attempt_of_unstopped
    (running : (renderer.watch clock template data options session).session.state.stop = none) :
    renderer.attempt clock template data options session =
      (renderer.completed.render clock template data options session).toAttempt := by
  have related := renderer.watch_related clock template data options session
  obtain ⟨result, events, cache, tally, state⟩ := related
  simp only [attempt, running, Delivery.toAttempt, Session.withState]
  rw [result, events, cache, tally, state]

/-- A call that is served from the cache uses no tool. -/
theorem unstopped_of_found {rendered : Rendered} (uses : renderer.completed.usesCache options = true)
    (found : (session.cache.get clock.time (CacheKey.ofRender template data options)).1 = some rendered) :
    (renderer.watch clock template data options session).session.state.stop = none := by
  have uses : renderer.watched.usesCache options = true := uses
  simp only [watch, Renderer.render, uses, if_true, Session.withState]
  split
  · rfl
  · rename_i cache missed
    rw [missed] at found
    cases found

/-- **A call is the render with the completed tools, unless it is cut short.** -/
theorem attempt_spec :
    renderer.attempt clock template data options session =
        (renderer.completed.render clock template data options session).toAttempt ∨
      (renderer.completed.usesCache options = true →
        (session.cache.get clock.time (CacheKey.ofRender template data options)).1 = none) ∧
      ∃ events state,
        events.toList <+: (renderer.completed.render clock template data options session).events.toList ∧
        renderer.attempt clock template data options session =
          let met := renderer.lookedUp clock template data options session
          ⟨none, events, met.cache, met.tally.countEvents events, state⟩ := by
  cases stopped : (renderer.watch clock template data options session).session.state.stop with
  | none => exact .inl (renderer.attempt_of_unstopped clock template data options session stopped)
  | some place =>
      obtain ⟨uses, state⟩ := place
      have missed (looks : renderer.completed.usesCache options = true) :
          (session.cache.get clock.time (CacheKey.ofRender template data options)).1 = none := by
        cases found : (session.cache.get clock.time (CacheKey.ofRender template data options)).1 with
        | none => rfl
        | some rendered =>
            rw [renderer.unstopped_of_found clock template data options session looks found] at stopped
            cases stopped
      have events := (renderer.watch_related clock template data options session).events
      refine .inr ⟨missed, _, state, ?_, by simp only [attempt, stopped]; rfl⟩
      rw [← events]
      exact Event.beforeUse_prefix uses _

/-- **Tools with all answers cut no call short.** -/
theorem attempt_of_answers (answers : renderer.tools.Answers) :
    renderer.attempt clock template data options session =
      (renderer.completed.render clock template data options session).toAttempt := by
  refine renderer.attempt_of_unstopped clock template data options session ?_
  let running (watched other : Watched State) : Prop := watched = other ∧ watched.stop = none
  have matched : Renderer.Matched running renderer.watched renderer.watched :=
    Renderer.matched_of_keeps answers.keeps
  have begun : (session.withState (Watched.start session.state)).Related running
      (session.withState (Watched.start session.state)) := ⟨rfl, rfl, rfl, rfl⟩
  exact (Renderer.render_related matched clock template data options begun).session.state.2

/-- **A renderer is a partial renderer that cuts no call short.** -/
theorem attempt_ofToolbox (renderer : Renderer State) :
    (PartialRenderer.mk renderer.config (.ofToolbox renderer.tools)).attempt clock template data options session =
      (renderer.render clock template data options session).toAttempt := by
  have answers := PartialToolbox.answers_ofToolbox renderer.tools
  rw [attempt_of_answers _ _ _ _ _ _ answers, completed, PartialToolbox.completed_ofToolbox]

end PartialRenderer
end Herald
