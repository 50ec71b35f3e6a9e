/- A render cache that cannot be seen.

A service keeps a catalogue and renders, at one render instant. Its steps are renders of
given and of stored templates, changes of the catalogue, and the clearing and purging of the
cache, in any order and at any times. What each step replies is what it replies without any
cache (`replies_eq_uncached`): the cache's lifetime, its capacity and the calls that pass it
by leave no trace in the replies.

The invariant is that every entry of the cache is the answer to some request of the run with
the entry's key (`Sound`). A look-up comes before the data and the options are checked, so
the request at hand may be one that has to be refused; its key is then no entry's key, since
an entry's locale and zone could be read and hold no bar (`answer_eq_of_key_eq`). -/
import Herald.Catalog
import Herald.Proofs.Cache
import Herald.Proofs.CacheKey
import Herald.Proofs.Renderer
namespace Herald
set_option autoImplicit false

/-! ## Answers without a cache -/

/-- What a render is asked for. -/
structure Request where
  template : Template
  data : Value
  options : RenderOptions

namespace Request

/-- The key of a request. -/
def key (request : Request) : String :=
  CacheKey.ofRender request.template request.data request.options

/-- The texts whose digests make the computed key of a request. -/
def hashedTexts (request : Request) : List String :=
  [CacheKey.templateText request.template,
    CacheKey.dataText request.data request.options.locale request.options.timezone]

end Request

namespace Renderer
variable {State : Type}

/-- The answer to a request from its own template, data, locale and zone. -/
def answer (renderer : Renderer State) (instant : Moment) (state : State) (request : Request) :
    Except RenderError Rendered :=
  (Context.build request.data request.options.locale request.options.timezone instant).map
    fun context => (renderer.renderTemplate context request.template state).1

/-- The renderer without its cache. -/
def uncached (renderer : Renderer State) : Renderer State :=
  { renderer with config := { renderer.config with cacheEnabled := false } }

end Renderer

/-! ## Renders of a pure toolbox -/

namespace Renderer
variable {State : Type} {renderer : Renderer State}

/-- A render without the cache gives the answer, leaves the state alone, and adds to the cache
at most the answer under the key given. -/
theorem renderFresh_spec (pure : renderer.tools.Pure) (clock : Clock) (request : Request)
    (key : Option String) (session : Session State) :
    let delivery := renderer.renderFresh clock request.template request.data request.options key session
    delivery.result = renderer.answer clock.instant session.state request ∧
      delivery.session.state = session.state ∧
      ∀ entry ∈ delivery.session.cache.entries, entry ∈ session.cache.entries ∨
        some entry.1 = key ∧
          renderer.answer clock.instant session.state request = .ok entry.2.value := by
  simp only [renderFresh, answer]
  cases built : Context.build request.data request.options.locale request.options.timezone
      clock.instant with
  | error refusal => exact ⟨rfl, rfl, fun entry inside => Or.inl inside⟩
  | ok context =>
      refine ⟨rfl, renderTemplate_state pure context request.template session.state, ?_⟩
      intro entry inside
      cases key with
      | none => exact Or.inl inside
      | some key =>
          rcases Cache.mem_insert inside with rfl | old
          · exact Or.inr ⟨rfl, rfl⟩
          · exact Or.inl old

end Renderer

/-! ## One key, one answer -/

/-- A context is built only where locale and zone can be read. -/
theorem Context.readable_of_build {data : Value} {locale zone : String} {now : Moment}
    {context : Context} (built : build data locale zone now = .ok context) :
    '|' ∉ locale.toList ∧ '|' ∉ zone.toList := by
  simp only [build] at built
  cases fields : callerFields data with
  | error refusal => simp [fields, bind, Except.bind] at built
  | ok given =>
      simp only [fields, bind, Except.bind] at built
      split at built
      · cases built
      · rename_i locale known
        split at built
        · cases built
        · rename_i zone known'
          exact ⟨Locale.noBar_of_read? known, Zone.noBar_of_read? known'⟩

/-- The conditions on the requests of a run under which keys tell them apart: no request
brings a key of its own, the digest has no collisions among the texts hashed for them, and
the numbers in their data print apart. -/
structure Distinguished (pool : List Request) : Prop where
  ownKey : ∀ request ∈ pool, request.options.cacheKey = none
  collisionFree : Digest.CollisionFree (pool.flatMap Request.hashedTexts)
  printApart : Value.PrintApart (pool.flatMap fun request => request.data.numbers)

namespace Renderer
variable {State : Type} {renderer : Renderer State}

/-- **A request that shares its key with an answered one has the same answer.** -/
theorem answer_eq_of_key_eq {pool : List Request} (distinguished : Distinguished pool)
    {instant : Moment} {state : State} {asked answered : Request} {value : Rendered}
    (askedIn : asked ∈ pool) (answeredIn : answered ∈ pool) (keys : asked.key = answered.key)
    (known : renderer.answer instant state answered = .ok value) :
    renderer.answer instant state asked = .ok value := by
  have hashed : ∀ request ∈ pool, ∀ text ∈ request.hashedTexts,
      text ∈ pool.flatMap Request.hashedTexts :=
    fun request inside text listed => List.mem_flatMap.mpr ⟨request, inside, listed⟩
  have numbersIn : ∀ request ∈ pool, request.data.numbers ⊆
      pool.flatMap fun request => request.data.numbers :=
    fun request inside number listed => List.mem_flatMap.mpr ⟨request, inside, listed⟩
  simp only [Request.key, CacheKey.ofRender, distinguished.ownKey asked askedIn,
    distinguished.ownKey answered answeredIn, Option.getD_none] at keys
  obtain ⟨templateDigests, dataDigests⟩ := CacheKey.digests_of_computed_eq keys
  have templateTexts := distinguished.collisionFree _ (hashed asked askedIn _ (by simp [Request.hashedTexts]))
    _ (hashed answered answeredIn _ (by simp [Request.hashedTexts])) templateDigests
  have dataTexts := distinguished.collisionFree _ (hashed asked askedIn _ (by simp [Request.hashedTexts]))
    _ (hashed answered answeredIn _ (by simp [Request.hashedTexts])) dataDigests
  -- only the answered request is known to be readable, so the bar is excluded on its side
  have noBars : '|' ∉ answered.options.locale.toList ∧ '|' ∉ answered.options.timezone.toList := by
    cases built : Context.build answered.data answered.options.locale answered.options.timezone
        instant with
    | error refusal => simp [answer, built, Except.map] at known
    | ok context => exact Context.readable_of_build built
  obtain ⟨data, locale, timezone⟩ := CacheKey.dataText_inj distinguished.printApart
    (numbersIn answered answeredIn) (numbersIn asked askedIn) noBars.1 noBars.2 dataTexts.symm
  rw [answer, CacheKey.templateText_injective templateTexts, ← data, ← locale, ← timezone]
  exact known

end Renderer

/-! ## Services -/

/-- A catalogue of templates beside a renderer's session. -/
structure Service (State : Type) where
  catalog : Catalog
  session : Session State

namespace Service
variable {State : Type}

/-- A step of a service; `time` is the clock by which cache entries grow old. -/
inductive Step where
  | render (time : Nat) (request : Request)
  | renderStored (time : Nat) (id : String) (data : Value) (options : RenderOptions)
  | create (stored : StoredTemplate)
  | update (id : String) (changes : TemplateUpdate) (now : Moment)
  | delete (id : String)
  | clearCache
  | purgeCache (time : Nat)

/-- What a step replies. -/
inductive Reply where
  | rendered (result : Except RenderError Rendered)
  | renderedStored (result : Except CatalogError Rendered)
  | stored (result : Except CatalogError StoredTemplate)
  | deleted (result : Except CatalogError Unit)
  | done

/-- The reply to a step and the service after it. -/
def perform (renderer : Renderer State) (instant : Moment) (service : Service State) :
    Step → Reply × Service State
  | .render time request =>
    let delivery := renderer.render ⟨instant, time⟩ request.template request.data request.options
      service.session
    (.rendered delivery.result, { service with session := delivery.session })
  | .renderStored time id data options =>
    let (result, session) := service.catalog.render renderer ⟨instant, time⟩ id data options
      service.session
    (.renderedStored result, { service with session := session })
  | .create stored =>
    let (result, catalog) := service.catalog.create stored
    (.stored result, { service with catalog := catalog })
  | .update id changes now =>
    let (result, catalog) := service.catalog.update id changes now
    (.stored result, { service with catalog := catalog })
  | .delete id =>
    let (result, catalog) := service.catalog.delete id
    (.deleted result, { service with catalog := catalog })
  | .clearCache => (.done, { service with session := Renderer.clearCache service.session })
  | .purgeCache time => (.done, { service with session := (Renderer.purgeCache time service.session).2 })

/-- The replies to a run of steps. -/
def replies (renderer : Renderer State) (instant : Moment) (service : Service State) :
    List Step → List Reply
  | [] => []
  | step :: rest =>
    let (reply, next) := service.perform renderer instant step
    reply :: replies renderer instant next rest

namespace Step

/-- The catalogue after a step; no render changes it. -/
def catalogAfter (catalog : Catalog) : Step → Catalog
  | .create stored => (catalog.create stored).2
  | .update id changes now => (catalog.update id changes now).2
  | .delete id => (catalog.delete id).2
  | _ => catalog

/-- The request that a step makes of the renderer. -/
def request? (catalog : Catalog) : Step → Option Request
  | .render _ request => some request
  | .renderStored _ id data options =>
    match catalog.get id with
    | .ok stored => some ⟨stored.template, data, options⟩
    | .error _ => none
  | _ => none

/-- The reply that a step has to get: a render is answered from its own request, and a stored
template is the one of the catalogue at that step. -/
def expected (renderer : Renderer State) (instant : Moment) (state : State) (catalog : Catalog) :
    Step → Reply
  | .render _ request => .rendered (renderer.answer instant state request)
  | .renderStored _ id data options =>
    .renderedStored ((catalog.get id).bind fun stored =>
      (renderer.answer instant state ⟨stored.template, data, options⟩).mapError .render)
  | .create stored => .stored (catalog.create stored).1
  | .update id changes now => .stored (catalog.update id changes now).1
  | .delete id => .deleted (catalog.delete id).1
  | .clearCache => .done
  | .purgeCache _ => .done

end Step

/-- The replies that a run has to get. -/
def expectedReplies (renderer : Renderer State) (instant : Moment) (state : State) (catalog : Catalog) :
    List Step → List Reply
  | [] => []
  | step :: rest =>
    step.expected renderer instant state catalog ::
      expectedReplies renderer instant state (step.catalogAfter catalog) rest

/-- The requests that a run makes of the renderer. -/
def requests (catalog : Catalog) : List Step → List Request
  | [] => []
  | step :: rest => (step.request? catalog).toList ++ requests (step.catalogAfter catalog) rest

/-- The requests of a run that use the cache. -/
def cachedRequests (renderer : Renderer State) (catalog : Catalog) (steps : List Step) : List Request :=
  (requests catalog steps).filter fun request => renderer.usesCache request.options

end Service
/-! ## The invariant -/

/-- The surrounding state is what it was, and every entry of the cache is the answer to some
request of the pool with the entry's key. -/
structure Session.Sound {State : Type} (renderer : Renderer State) (instant : Moment) (state : State)
    (pool : List Request) (session : Session State) : Prop where
  stateKept : session.state = state
  answered : ∀ entry ∈ session.cache.entries, ∃ request ∈ pool,
    entry.1 = request.key ∧ renderer.answer instant state request = .ok entry.2.value

namespace Session.Sound
variable {State : Type} {renderer : Renderer State} {instant : Moment} {state : State}
  {pool : List Request} {session : Session State}

theorem newSession : (renderer.newSession state).Sound renderer instant state pool :=
  ⟨rfl, fun _ inside => absurd inside (List.not_mem_nil)⟩

/-- Losing entries keeps the invariant, and so does counting. -/
theorem of_entries_subset (sound : session.Sound renderer instant state pool) {later : Session State}
    (stateKept : later.state = session.state)
    (old : ∀ entry ∈ later.cache.entries, entry ∈ session.cache.entries) :
    later.Sound renderer instant state pool :=
  ⟨stateKept.trans sound.stateKept, fun entry inside => sound.answered entry (old entry inside)⟩

/-- A render without a look-up gives the answer and keeps the invariant. -/
theorem renderFresh (pure : renderer.tools.Pure) (sound : session.Sound renderer instant state pool)
    (time : Nat) (request : Request) (key : Option String)
    (keyed : ∀ given ∈ key, given = request.key ∧ request ∈ pool) :
    let delivery := renderer.renderFresh ⟨instant, time⟩ request.template request.data request.options
      key session
    delivery.result = renderer.answer instant state request ∧
      delivery.session.Sound renderer instant state pool := by
  obtain ⟨result, stateKept, entries⟩ :=
    Renderer.renderFresh_spec pure ⟨instant, time⟩ request key session
  rw [sound.stateKept] at result entries stateKept
  refine ⟨result, stateKept, fun entry inside => ?_⟩
  rcases entries entry inside with old | ⟨named, value⟩
  · exact sound.answered entry old
  · obtain ⟨isKey, inPool⟩ := keyed entry.1 named.symm
    exact ⟨request, inPool, isKey, value⟩

/-- **A render gives the answer to its own request, whatever the cache holds**, and keeps the
invariant. -/
theorem render (pure : renderer.tools.Pure) (distinguished : Distinguished pool)
    (sound : session.Sound renderer instant state pool) (time : Nat) (request : Request)
    (inPool : renderer.usesCache request.options = true → request ∈ pool) :
    let delivery := renderer.render ⟨instant, time⟩ request.template request.data request.options
      session
    delivery.result = renderer.answer instant state request ∧
      delivery.session.Sound renderer instant state pool := by
  simp only [Renderer.render]
  split
  · rename_i uses
    split
    · rename_i rendered cache found
      have sameCache : cache = (session.cache.get time request.key).2 := by
        simp only [Request.key, found]
      obtain ⟨entry, present, value⟩ := Cache.get_eq_some (congrArg Prod.fst found)
      obtain ⟨answered, answeredIn, keys, known⟩ := sound.answered _ present
      rw [value] at known
      refine ⟨(Renderer.answer_eq_of_key_eq distinguished (inPool uses) answeredIn keys known).symm,
        sound.of_entries_subset rfl fun entry inside => Cache.mem_get (sameCache ▸ inside)⟩
    · rename_i cache found
      have sameCache : cache = (session.cache.get time request.key).2 := by
        simp only [Request.key, found]
      have missed : Session.Sound renderer instant state pool
          ⟨cache, session.tally.countMiss, session.state⟩ :=
        sound.of_entries_subset rfl fun entry inside => Cache.mem_get (sameCache ▸ inside)
      exact renderFresh pure missed time request _
        fun given isKey => ⟨(Option.some.inj isKey).symm, inPool uses⟩
  · exact renderFresh pure sound time request none
      fun given isKey => absurd isKey (Option.not_mem_none given)

end Session.Sound

/-! ## Runs -/

namespace Service
variable {State : Type} {renderer : Renderer State} {instant : Moment} {state : State}
  {pool : List Request}

/-- **One step**: it gets the reply that it has to get, leaves the catalogue that it has to
leave, and keeps the invariant. -/
theorem perform_spec (pure : renderer.tools.Pure) (distinguished : Distinguished pool)
    (service : Service State) (sound : service.session.Sound renderer instant state pool) (step : Step)
    (inPool : ∀ request ∈ step.request? service.catalog,
      renderer.usesCache request.options = true → request ∈ pool) :
    (service.perform renderer instant step).1 =
        step.expected renderer instant state service.catalog ∧
      (service.perform renderer instant step).2.catalog = step.catalogAfter service.catalog ∧
      (service.perform renderer instant step).2.session.Sound renderer instant state pool := by
  cases step with
  | render time request =>
      obtain ⟨result, kept⟩ := sound.render pure distinguished time request (inPool request rfl)
      exact ⟨congrArg Reply.rendered result, rfl, kept⟩
  | renderStored time id data options =>
      simp only [perform, Catalog.render, Step.expected, Step.request?] at inPool ⊢
      cases found : service.catalog.get id with
      | error absent => exact ⟨rfl, rfl, sound⟩
      | ok stored =>
          rw [found] at inPool
          obtain ⟨result, kept⟩ := sound.render pure distinguished time
            ⟨stored.template, data, options⟩ (inPool _ rfl)
          exact ⟨congrArg (fun given => Reply.renderedStored (given.mapError .render)) result, rfl, kept⟩
  | create stored => exact ⟨rfl, rfl, sound⟩
  | update id changes now => exact ⟨rfl, rfl, sound⟩
  | delete id => exact ⟨rfl, rfl, sound⟩
  | clearCache =>
      exact ⟨rfl, rfl, sound.of_entries_subset rfl fun entry inside => absurd inside List.not_mem_nil⟩
  | purgeCache time =>
      exact ⟨rfl, rfl, sound.of_entries_subset rfl fun entry inside => Cache.mem_purge inside⟩

/-- **A run** gets the replies that it has to get. -/
theorem replies_eq_expectedReplies (pure : renderer.tools.Pure) (distinguished : Distinguished pool)
    (service : Service State) (sound : service.session.Sound renderer instant state pool)
    (steps : List Step) (inPool : cachedRequests renderer service.catalog steps ⊆ pool) :
    replies renderer instant service steps =
      expectedReplies renderer instant state service.catalog steps := by
  induction steps generalizing service with
  | nil => rfl
  | cons step rest ih =>
      simp only [cachedRequests, requests, List.filter_append, List.append_subset] at inPool
      obtain ⟨reply, catalog, kept⟩ := perform_spec pure distinguished service sound step
        fun request asked uses => inPool.1 (List.mem_filter.mpr ⟨by simpa using asked, uses⟩)
      have later := ih (service.perform renderer instant step).2 kept (by rw [catalog]; exact inPool.2)
      simp only [replies, expectedReplies, reply, later, catalog]

/-- Without a cache the answers are the same. -/
theorem expectedReplies_uncached (catalog : Catalog) (steps : List Step) :
    expectedReplies renderer.uncached instant state catalog steps =
      expectedReplies renderer instant state catalog steps := by
  induction steps generalizing catalog with
  | nil => rfl
  | cons step rest ih =>
      have reply : step.expected renderer.uncached instant state catalog =
          step.expected renderer instant state catalog := by cases step <;> rfl
      simp only [expectedReplies, reply, ih]

theorem cachedRequests_uncached (catalog : Catalog) (steps : List Step) :
    cachedRequests renderer.uncached catalog steps = [] :=
  List.filter_eq_nil_iff.mpr fun request _ => by simp [Renderer.usesCache, Renderer.uncached]

/-- **The cache cannot be seen.** Every step of a run replies what it replies in the same run
without a cache, and that is the answer to its own request, or the reply of the catalogue as
it is at that step. -/
theorem replies_eq_uncached (renderer : Renderer State) (pure : renderer.tools.Pure)
    (instant : Moment) (state : State) (catalog : Catalog) (steps : List Step)
    (distinguished : Distinguished (cachedRequests renderer catalog steps)) :
    replies renderer instant ⟨catalog, renderer.newSession state⟩ steps =
        replies renderer.uncached instant ⟨catalog, renderer.uncached.newSession state⟩ steps ∧
      replies renderer instant ⟨catalog, renderer.newSession state⟩ steps =
        expectedReplies renderer instant state catalog steps := by
  have cached : replies renderer instant ⟨catalog, renderer.newSession state⟩ steps =
      expectedReplies renderer instant state catalog steps :=
    replies_eq_expectedReplies pure distinguished _ .newSession steps (List.Subset.refl _)
  have plain : replies renderer.uncached instant ⟨catalog, renderer.uncached.newSession state⟩ steps =
      expectedReplies renderer.uncached instant state catalog steps := by
    have plainPure : renderer.uncached.tools.Pure := pure
    have nothingHashed : Distinguished [] := ⟨nofun, nofun, nofun⟩
    refine replies_eq_expectedReplies plainPure nothingHashed _ .newSession steps ?_
    rw [cachedRequests_uncached]
    exact List.Subset.refl _
  exact ⟨by rw [cached, plain, expectedReplies_uncached], cached⟩

end Service

/-! ## A run -/

namespace Service.Example

/-- A renderer whose cache has room for one result. -/
def renderer : Renderer Unit := ⟨{ cacheCapacity := 1 }, Toolbox.builtins Unit⟩

def instant : Moment := ⟨1718424000, 0⟩

def greeting : StoredTemplate :=
  ⟨"greeting", "Greeting", none, ⟨none, "Hello \x7bname\x7d", some "/"⟩, instant, instant⟩

def data : Value := .object [("name", .string "Ann"), ("n", .number (.int 1))]

/-- The template is rendered twice, the second time from the cache, then changed and rendered
again. The last two requests have to be refused. -/
def steps : List Step := [
  .create greeting,
  .renderStored 0 "greeting" data {},
  .renderStored 1 "greeting" data {},
  .update "greeting" ⟨none, .keep, .keep, some "Bye", .keep⟩ instant,
  .renderStored 2 "greeting" data {},
  .purgeCache 3,
  .render 4 ⟨greeting.template, data, { timezone := "Asia|Tokyo" }⟩,
  .render 5 ⟨greeting.template, .bool true, { enableCache := false }⟩]

theorem replies_eq_uncached_greeting :
    renderer.tools.Pure ∧ Distinguished (cachedRequests renderer Catalog.empty steps) ∧
      replies renderer instant ⟨Catalog.empty, renderer.newSession ()⟩ steps =
        replies renderer.uncached instant ⟨Catalog.empty, renderer.uncached.newSession ()⟩ steps ∧
      replies renderer instant ⟨Catalog.empty, renderer.newSession ()⟩ steps =
        expectedReplies renderer instant () Catalog.empty steps := by
  have pure : renderer.tools.Pure := Toolbox.builtins_pure
  have distinguished : Distinguished (cachedRequests renderer Catalog.empty steps) :=
    ⟨by decide +kernel, by decide +kernel, by decide +kernel⟩
  exact ⟨pure, distinguished,
    replies_eq_uncached renderer pure instant () Catalog.empty steps distinguished⟩

end Service.Example
end Herald
