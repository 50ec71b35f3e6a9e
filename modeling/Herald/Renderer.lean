/- A renderer: templates, a cache of what they gave, and a tally.

A render looks its key up in the cache first, unless the renderer or the call does without
it, and so before it looks at the data and the options. Without an entry it builds the
context, renders title, content and link in this order, and stores the result. A refusal
stores nothing. Calls whose tools may have no answer are those of Attempt. -/
import Herald.Builtins
import Herald.Cache
import Herald.CacheKey
import Herald.Metrics
import Herald.Text.Tidy
namespace Herald
set_option autoImplicit false

/-- How a renderer is set up; cached results live for a number of nanoseconds. -/
structure RendererConfig where
  cacheEnabled : Bool := true
  cacheNanoseconds : Nat := 300 * 1000000000
  cacheCapacity : Nat := 10000
  normalizeWhitespace : Bool := true
  deriving DecidableEq, Repr

/-- The lifetime of cached results in whole seconds. -/
def RendererConfig.cacheLifetime (config : RendererConfig) : Nat := config.cacheNanoseconds / 1000000000

/-- A renderer: its set-up and its toolbox. -/
structure Renderer (State : Type) where
  config : RendererConfig
  tools : Toolbox State

/-- What a renderer carries from one call to the next: its cache, its tally, and the state of
the surrounding program. -/
structure Session (State : Type) where
  cache : Cache Rendered
  tally : Tally
  state : State

/-- The two clocks of a call: the render instant, and the time in nanoseconds by which cache
entries grow old. -/
structure Clock where
  instant : Moment
  time : Nat

/-- What a render call gives: the result, its trace, and the session after it. -/
structure Delivery (State : Type) where
  result : Except RenderError Rendered
  events : Array Event
  session : Session State

namespace Renderer
variable {State : Type}

/-- The session of a new renderer. -/
def newSession (renderer : Renderer State) (state : State) : Session State :=
  ⟨Cache.empty renderer.config.cacheNanoseconds renderer.config.cacheCapacity, {}, state⟩

/-- The finished text of a render. -/
def finish (renderer : Renderer State) (text : String) : String :=
  if renderer.config.normalizeWhitespace then String.ofList (Text.tidy text.toList) else text

/-- Renders one source in a context. -/
def renderText (renderer : Renderer State) (context : Context) (source : String) (state : State) :
    Progress State :=
  let progress := renderer.tools.renderSource context source.toList state
  { progress with text := renderer.finish progress.text }

/-- Renders a source that may be missing. -/
def renderOptional (renderer : Renderer State) (context : Context) (source : Option String)
    (state : State) : Option String × Array Event × State :=
  match source with
  | none => (none, #[], state)
  | some source =>
    let progress := renderer.renderText context source state
    (some progress.text, progress.events, progress.state)

/-- Renders the fields of a template in a context. -/
def renderTemplate (renderer : Renderer State) (context : Context) (template : Template)
    (state : State) : Rendered × Array Event × State :=
  let (title, titleEvents, state) := renderer.renderOptional context template.title state
  let content := renderer.renderText context template.content state
  let (link, linkEvents, state) := renderer.renderOptional context template.link content.state
  (⟨title, content.text, link, context.now, context.data⟩,
    titleEvents ++ content.events ++ linkEvents, state)

/-- Whether a call uses the cache. -/
def usesCache (renderer : Renderer State) (options : RenderOptions) : Bool :=
  renderer.config.cacheEnabled && options.enableCache

/-- Renders without looking into the cache; with a key the result is stored under it. -/
def renderFresh (renderer : Renderer State) (clock : Clock) (template : Template) (data : Value)
    (options : RenderOptions) (key : Option String) (session : Session State) : Delivery State :=
  match Context.build data options.locale options.timezone clock.instant with
  | .error refusal =>
    ⟨.error refusal, #[], { session with tally := session.tally.countError }⟩
  | .ok context =>
    let (rendered, events, state) := renderer.renderTemplate context template session.state
    let cache := match key with
      | some key => (session.cache.insert clock.time key rendered).2
      | none => session.cache
    ⟨.ok rendered, events, ⟨cache, (session.tally.countEvents events).countOk, state⟩⟩

/-- Renders a template against data. -/
def render (renderer : Renderer State) (clock : Clock) (template : Template) (data : Value)
    (options : RenderOptions) (session : Session State) : Delivery State :=
  if renderer.usesCache options then
    let key := CacheKey.ofRender template data options
    match session.cache.get clock.time key with
    | (some rendered, cache) =>
      ⟨.ok rendered, #[], { session with cache := cache, tally := session.tally.countHit }⟩
    | (none, cache) =>
      renderer.renderFresh clock template data options (some key)
        { session with cache := cache, tally := session.tally.countMiss }
  else renderer.renderFresh clock template data options none session

/-- Drops every cached result. -/
def clearCache (session : Session State) : Session State :=
  { session with cache := session.cache.clear }

/-- Drops the expired results, and tells how many there were. -/
def purgeCache (time : Nat) (session : Session State) : Nat × Session State :=
  let (removed, cache) := session.cache.purge time
  (removed, { session with cache := cache })

/-- Looks a key up in the cache. -/
def peek (time : Nat) (key : String) (session : Session State) : Option Rendered × Session State :=
  let (found, cache) := session.cache.get time key
  (found, { session with cache := cache })

end Renderer
end Herald
