/- What a renderer counts.

A render call goes one of four ways: it is served from the cache, it is refused, it is rendered
afresh, or it is cut short by a tool without an answer (`Course`). Which of the first three it
went is what it counts, once; a call that is cut short does not come back, and counts its look-up
only (`Exchange.Counted`). Clearing, purging and looking into the cache count nothing. So the
counters of a run follow from its calls (`Totals.call`).

What a call is served is no new result: it is that of the latest call that was rendered afresh
under the same key. The invariant is that every entry of the cache holds the result of such a
call of the run so far (`Recorded`). A call keeps it (`Recorded.course`), and so does a run
(`Accounted.run`). -/
import Herald.Proofs.Cache.Shrinking
import Herald.Proofs.Attempt
import Herald.Proofs.Transparency
namespace Herald
set_option autoImplicit false

/-! ## Calls and runs -/

/-- A render call: the session that it meets, the clock, what is asked for, and what comes of
it. -/
structure Exchange (State : Type) where
  before : Session State
  clock : Clock
  request : Request
  attempt : Attempt State

namespace Exchange
variable {State : Type}

/-- The call moves a count of the tally up by an amount. -/
def Gains (exchange : Exchange State) (count : Tally → Nat) (amount : Nat) : Prop :=
  count exchange.attempt.session.tally = count exchange.before.tally + amount

/-- The call comes back: it is not cut short. -/
def comesBack (exchange : Exchange State) : Bool := exchange.attempt.result.isSome

/-- The call is refused. -/
def isRefused (exchange : Exchange State) : Bool :=
  match exchange.attempt.result with
  | some (.error _) => true
  | _ => false

/-- The call uses the cache: neither the renderer nor the call does without it. -/
def usesCache (renderer : PartialRenderer State) (exchange : Exchange State) : Bool :=
  renderer.config.cacheEnabled && exchange.request.options.enableCache

/-- The call is rendered afresh, and its result is one to be kept under a key. -/
structure RendersFor (renderer : PartialRenderer State) (key : String) (exchange : Exchange State) : Prop where
  uses : exchange.usesCache renderer = true
  keyed : exchange.request.key = key
  fresh : exchange.Gains Tally.ok 1

end Exchange

namespace PartialRenderer
variable {State : Type}

/-- What a renderer can be asked to do. -/
inductive Operation where
  | render (clock : Clock) (request : Request)
  | clear
  | purge (time : Nat)
  | peek (time : Nat) (key : String)

/-- A render call in a session. -/
def exchange (renderer : PartialRenderer State) (session : Session State) (clock : Clock)
    (request : Request) : Exchange State :=
  ⟨session, clock, request,
    renderer.attempt clock request.template request.data request.options session⟩

/-- The render calls so far and the session, after one more operation. -/
def advance (renderer : PartialRenderer State) (past : List (Exchange State) × Session State) :
    Operation → List (Exchange State) × Session State
  | .render clock request =>
    let call := renderer.exchange past.2 clock request
    (past.1 ++ [call], call.attempt.session)
  | .clear => (past.1, Renderer.clearCache past.2)
  | .purge time => (past.1, (Renderer.purgeCache time past.2).2)
  | .peek time key => (past.1, (Renderer.peek time key past.2).2)

/-- The render calls of a run of operations on a new renderer, and the session after it. -/
def run (renderer : PartialRenderer State) (state : State) (operations : List Operation) :
    List (Exchange State) × Session State :=
  operations.foldl renderer.advance ([], renderer.completed.newSession state)

end PartialRenderer

/-! ## The four ways of a call -/

namespace Tally

/-- Trace entries count as warnings only. -/
theorem countEvents_results (tally : Tally) (events : Array Event) :
    (tally.countEvents events).ok = tally.ok ∧ (tally.countEvents events).error = tally.error ∧
      (tally.countEvents events).cached = tally.cached ∧
      (tally.countEvents events).hits = tally.hits ∧
      (tally.countEvents events).misses = tally.misses := by
  rw [countEvents, ← Array.foldl_toList]
  induction events.toList generalizing tally with
  | nil => exact ⟨rfl, rfl, rfl, rfl, rfl⟩
  | cons event rest ih =>
      have step : (tally.countEvent event).ok = tally.ok ∧ (tally.countEvent event).error = tally.error ∧
          (tally.countEvent event).cached = tally.cached ∧
          (tally.countEvent event).hits = tally.hits ∧
          (tally.countEvent event).misses = tally.misses := by
        cases event with
        | warned warning => cases warning <;> exact ⟨rfl, rfl, rfl, rfl, rfl⟩
        | called function arguments => exact ⟨rfl, rfl, rfl, rfl, rfl⟩
        | applied formatter value arguments => exact ⟨rfl, rfl, rfl, rfl, rfl⟩
      simpa only [List.foldl_cons, step] using ih (tally.countEvent event)

end Tally

namespace PartialRenderer
variable {State : Type}

/-- The tally of a call that found nothing in the cache. -/
def afterLookup (renderer : PartialRenderer State) (options : RenderOptions) (tally : Tally) : Tally :=
  if renderer.completed.usesCache options then tally.countMiss else tally

/-- The ways in which a call can go, with all that it leaves behind. -/
inductive Course (renderer : PartialRenderer State) (session : Session State) (request : Request) :
    Attempt State → Prop where
  | served {entry : CacheEntry Rendered} (uses : renderer.completed.usesCache request.options = true)
      (present : Dict.find? request.key session.cache.entries = some entry) :
      Course renderer session request
        ⟨some (.ok entry.value), #[], { session with tally := session.tally.countHit }⟩
  | refused {refusal : RenderError} {cache : Cache Rendered}
      (shrinks : Cache.Shrinks session.cache cache) :
      Course renderer session request
        ⟨some (.error refusal), #[],
          ⟨cache, (renderer.afterLookup request.options session.tally).countError, session.state⟩⟩
  | rendered {rendered : Rendered} {events : Array Event} {cache : Cache Rendered} {state : State}
      (ordered : Dict.Ordered cache.entries)
      (own : renderer.completed.usesCache request.options = true →
        ∀ entry, Dict.find? request.key cache.entries = some entry → entry.value = rendered)
      (others : ∀ key entry, Dict.find? key cache.entries = some entry →
        renderer.completed.usesCache request.options = false ∨ key ≠ request.key →
          Dict.find? key session.cache.entries = some entry) :
      Course renderer session request
        ⟨some (.ok rendered), events,
          ⟨cache, ((renderer.afterLookup request.options session.tally).countEvents events).countOk,
            state⟩⟩
  | cutShort {events : Array Event} {cache : Cache Rendered} {state : State}
      (shrinks : Cache.Shrinks session.cache cache) :
      Course renderer session request
        ⟨none, events,
          ⟨cache, (renderer.afterLookup request.options session.tally).countEvents events, state⟩⟩

/-- A render that is not served is refused or goes through; `met` is the session behind the
look-up. -/
theorem course_renderFresh (renderer : PartialRenderer State) (clock : Clock) (request : Request)
    {session met : Session State} (shrinks : Cache.Shrinks session.cache met.cache)
    (tally : met.tally = renderer.afterLookup request.options session.tally)
    (state : met.state = session.state) :
    Course renderer session request
      (renderer.completed.renderFresh clock request.template request.data request.options
        (if renderer.completed.usesCache request.options then some request.key else none) met).toAttempt := by
  simp only [Renderer.renderFresh]
  split
  · rw [tally, state]
    exact .refused shrinks
  · rename_i context built
    rw [tally]
    cases uses : renderer.completed.usesCache request.options with
    | false =>
        exact .rendered shrinks.ordered (by simp [uses]) fun key entry found _ => shrinks.held key entry found
    | true =>
        refine .rendered (Cache.ordered_insert shrinks.ordered) (fun _ entry found => ?_)
          fun key entry found other => ?_
        · rw [Cache.find?_insert_key found]
        · have different : key ≠ request.key := other.resolve_left (by simp [uses])
          exact shrinks.held key entry (Cache.find?_insert_of_ne shrinks.ordered different found)

/-- A render with the completed tools is served, is refused or goes through. -/
theorem course_render (renderer : PartialRenderer State) (clock : Clock) (request : Request)
    {session : Session State} (ordered : Dict.Ordered session.cache.entries) :
    Course renderer session request
      (renderer.completed.render clock request.template request.data request.options session).toAttempt := by
  have fresh : ∀ met : Session State, Cache.Shrinks session.cache met.cache →
      met.tally = renderer.afterLookup request.options session.tally → met.state = session.state →
      Course renderer session request
        (renderer.completed.renderFresh clock request.template request.data request.options
          (if renderer.completed.usesCache request.options then some request.key else none) met).toAttempt :=
    fun met shrinks tally state => course_renderFresh renderer clock request shrinks tally state
  cases uses : renderer.completed.usesCache request.options with
  | false =>
      simp only [uses, afterLookup, Bool.false_eq_true, if_false] at fresh
      simp only [Renderer.render, uses, Bool.false_eq_true, if_false]
      exact fresh session (.refl ordered) rfl rfl
  | true =>
      simp only [uses, afterLookup, if_true] at fresh
      simp only [Renderer.render, uses, if_true]
      split
      · rename_i rendered cache found
        obtain ⟨entry, present, -, rfl⟩ := Cache.get_eq_some_iff.mp (congrArg Prod.fst found)
        have kept : cache = session.cache := by
          rw [← Cache.get_of_found (congrArg Prod.fst found), found]
        rw [kept]
        exact .served uses present
      · rename_i cache missed
        have behind : (session.cache.get clock.time request.key).2 = cache := congrArg Prod.snd missed
        have shrinks : Cache.Shrinks session.cache cache := behind ▸ .get ordered
        exact fresh ⟨cache, session.tally.countMiss, session.state⟩ shrinks rfl rfl

/-- A look-up loses entries at most, and is counted. -/
theorem lookedUp_spec (renderer : PartialRenderer State) (clock : Clock) (request : Request)
    {session : Session State} (ordered : Dict.Ordered session.cache.entries) :
    let met := renderer.lookedUp clock request.template request.data request.options session
    Cache.Shrinks session.cache met.cache ∧
      met.tally = renderer.afterLookup request.options session.tally := by
  simp only [lookedUp, afterLookup]
  split
  · exact ⟨.get ordered, rfl⟩
  · exact ⟨.refl ordered, rfl⟩

/-- **A call is served, is refused, goes through or is cut short.** -/
theorem course_attempt (renderer : PartialRenderer State) (clock : Clock) (request : Request)
    {session : Session State} (ordered : Dict.Ordered session.cache.entries) :
    Course renderer session request
      (renderer.attempt clock request.template request.data request.options session) := by
  have spec := renderer.attempt_spec clock request.template request.data request.options session
  rcases spec with same | ⟨-, events, state, -, same⟩
  · rw [same]
    exact renderer.course_render clock request ordered
  · obtain ⟨shrinks, tally⟩ := renderer.lookedUp_spec clock request ordered
    simp only [same, tally]
    exact .cutShort shrinks

end PartialRenderer

/-! ## What a call counts -/

/-- What a call counts. If it comes back, it is counted once, as rendered, refused or served, and
if it is cut short, as none of these; a look-up is counted with it if it uses the cache. A served
call does nothing but count, and a call that is refused or cut short stores nothing. -/
structure Exchange.Counted {State : Type} (renderer : PartialRenderer State) (exchange : Exchange State) :
    Prop where
  once : exchange.comesBack = true →
    exchange.Gains Tally.ok 1 ∧ exchange.Gains Tally.error 0 ∧ exchange.Gains Tally.cached 0 ∨
    exchange.Gains Tally.ok 0 ∧ exchange.Gains Tally.error 1 ∧ exchange.Gains Tally.cached 0 ∨
    exchange.Gains Tally.ok 0 ∧ exchange.Gains Tally.error 0 ∧ exchange.Gains Tally.cached 1
  cutShort : exchange.comesBack = false →
    exchange.Gains Tally.ok 0 ∧ exchange.Gains Tally.error 0 ∧ exchange.Gains Tally.cached 0
  refused : exchange.Gains Tally.error 1 ↔ exchange.isRefused = true
  hit : ∀ amount, exchange.Gains Tally.hits amount ↔ exchange.Gains Tally.cached amount
  lookups : exchange.Gains (fun tally => tally.hits + tally.misses)
    (if exchange.usesCache renderer then 1 else 0)
  served : exchange.Gains Tally.cached 1 → exchange.attempt.events = #[] ∧
    exchange.attempt.session = { exchange.before with tally := exchange.before.tally.countHit }
  storesNothing : exchange.Gains Tally.error 1 ∨ exchange.comesBack = false →
    ∀ entry ∈ exchange.attempt.session.cache.entries, entry ∈ exchange.before.cache.entries

namespace Exchange.Counted
variable {State : Type} {renderer : PartialRenderer State} {exchange : Exchange State}

/-- A call that comes back adds one result, and one that is cut short none. -/
theorem results (counted : exchange.Counted renderer) :
    let before := exchange.before.tally
    let after := exchange.attempt.session.tally
    after.ok + after.error + after.cached =
      before.ok + before.error + before.cached + if exchange.comesBack then 1 else 0 := by
  cases back : exchange.comesBack with
  | false =>
      obtain ⟨ok, error, cached⟩ := counted.cutShort back
      simp only [Exchange.Gains] at ok error cached
      simp only [Bool.false_eq_true, if_false]
      omega
  | true =>
      have once := counted.once back
      simp only [Exchange.Gains] at once
      simp only [if_true]
      omega

/-- A call adds a refusal if it is refused. -/
theorem refusals (counted : exchange.Counted renderer) :
    exchange.attempt.session.tally.error =
      exchange.before.tally.error + if exchange.isRefused then 1 else 0 := by
  cases refused : exchange.isRefused with
  | true => exact counted.refused.mpr refused
  | false =>
      have stays : ¬ exchange.Gains Tally.error 1 :=
        fun grows => Bool.false_ne_true (refused.symm.trans (counted.refused.mp grows))
      cases back : exchange.comesBack with
      | false => exact (counted.cutShort back).2.1
      | true =>
          rcases counted.once back with ⟨-, none, -⟩ | ⟨-, one, -⟩ | ⟨-, none, -⟩
          · exact none
          · exact absurd one stays
          · exact none

/-- Hits stay as many as the served calls. -/
theorem hits (counted : exchange.Counted renderer)
    (before : exchange.before.tally.hits = exchange.before.tally.cached) :
    exchange.attempt.session.tally.hits = exchange.attempt.session.tally.cached := by
  have follow : ∀ amount, exchange.Gains Tally.cached amount →
      exchange.attempt.session.tally.hits = exchange.attempt.session.tally.cached := by
    intro amount cached
    have hit : exchange.Gains Tally.hits amount := (counted.hit amount).mpr cached
    exact hit.trans ((congrArg (· + amount) before).trans cached.symm)
  cases back : exchange.comesBack with
  | false => exact follow 0 (counted.cutShort back).2.2
  | true =>
      rcases counted.once back with ⟨-, -, none⟩ | ⟨-, -, none⟩ | ⟨-, -, one⟩
      · exact follow 0 none
      · exact follow 0 none
      · exact follow 1 one

end Exchange.Counted

namespace PartialRenderer
variable {State : Type} {renderer : PartialRenderer State}

/-- The counts of a look-up that found nothing. -/
theorem afterLookup_counts (options : RenderOptions) (tally : Tally) :
    let looked := renderer.afterLookup options tally
    looked.ok = tally.ok ∧ looked.error = tally.error ∧ looked.cached = tally.cached ∧
      looked.hits = tally.hits ∧
      looked.misses = tally.misses + if renderer.completed.usesCache options then 1 else 0 := by
  simp only [afterLookup]
  split
  · exact ⟨rfl, rfl, rfl, rfl, rfl⟩
  · exact ⟨rfl, rfl, rfl, rfl, rfl⟩

/-- So are they behind a trace. -/
theorem afterTrace_counts (options : RenderOptions) (tally : Tally) (events : Array Event) :
    let reached := (renderer.afterLookup options tally).countEvents events
    reached.ok = tally.ok ∧ reached.error = tally.error ∧ reached.cached = tally.cached ∧
      reached.hits = tally.hits ∧
      reached.misses = tally.misses + if renderer.completed.usesCache options then 1 else 0 := by
  obtain ⟨ok, error, cached, hits, misses⟩ := renderer.afterLookup_counts options tally
  obtain ⟨ok', error', cached', hits', misses'⟩ :=
    (renderer.afterLookup options tally).countEvents_results events
  exact ⟨ok'.trans ok, error'.trans error, cached'.trans cached, hits'.trans hits, misses'.trans misses⟩

/-- **Each way of a call has its own count.** -/
theorem Course.counted {before : Session State} {request : Request} {attempt : Attempt State}
    (course : Course renderer before request attempt) (clock : Clock) :
    (Exchange.mk before clock request attempt).Counted renderer := by
  cases course with
  | @served entry uses present =>
      have uses : (renderer.config.cacheEnabled && request.options.enableCache) = true := uses
      exact {
        once := fun _ => .inr (.inr ⟨rfl, rfl, rfl⟩)
        cutShort := nofun
        refused := by simp [Exchange.Gains, Exchange.isRefused, Tally.countHit]
        hit := by simp [Exchange.Gains, Tally.countHit]
        lookups := by
          simp only [Exchange.Gains, Exchange.usesCache, uses, Tally.countHit, if_true]
          omega
        served := fun _ => ⟨rfl, rfl⟩
        storesNothing := fun _ entry inside => inside }
  | @refused refusal cache shrinks =>
      have lookup := renderer.afterLookup_counts request.options before.tally
      obtain ⟨ok, error, cached, hits, misses⟩ := lookup
      exact {
        once := fun _ => .inr (.inl ⟨ok, congrArg (· + 1) error, cached⟩)
        cutShort := nofun
        refused := by simp [Exchange.Gains, Exchange.isRefused, Tally.countError, error]
        hit := by simp [Exchange.Gains, Tally.countError, hits, cached]
        lookups := by
          simp only [Exchange.Gains, Tally.countError, hits, misses, Nat.add_assoc]
          rfl
        served := fun gained => by simp [Exchange.Gains, Tally.countError, cached] at gained
        storesNothing := fun _ _ inside => shrinks.mem inside }
  | @rendered rendered events cache state ordered own others =>
      have trace := renderer.afterTrace_counts request.options before.tally events
      obtain ⟨ok, error, cached, hits, misses⟩ := trace
      exact {
        once := fun _ => .inl ⟨congrArg (· + 1) ok, error, cached⟩
        cutShort := nofun
        refused := by simp [Exchange.Gains, Exchange.isRefused, Tally.countOk, error]
        hit := by simp [Exchange.Gains, Tally.countOk, hits, cached]
        lookups := by
          simp only [Exchange.Gains, Tally.countOk, hits, misses, Nat.add_assoc]
          rfl
        served := fun gained => by simp [Exchange.Gains, Tally.countOk, cached] at gained
        storesNothing := fun either => by
          simp [Exchange.Gains, Exchange.comesBack, Tally.countOk, error] at either }
  | @cutShort events cache state shrinks =>
      have trace := renderer.afterTrace_counts request.options before.tally events
      obtain ⟨ok, error, cached, hits, misses⟩ := trace
      exact {
        once := nofun
        cutShort := fun _ => ⟨ok, error, cached⟩
        refused := by simp [Exchange.Gains, Exchange.isRefused, error]
        hit := by simp [Exchange.Gains, hits, cached]
        lookups := by
          simp only [Exchange.Gains, hits, misses, Nat.add_assoc]
          rfl
        served := fun gained => by simp [Exchange.Gains, cached] at gained
        storesNothing := fun _ _ inside => shrinks.mem inside }

end PartialRenderer

/-! ## What is served -/

/-- Among these calls some call was rendered for a key with a result, and no later one was
rendered for the key. -/
def LatestRendered {State : Type} (renderer : PartialRenderer State) (calls : List (Exchange State))
    (key : String) (rendered : Rendered) : Prop :=
  ∃ earlier call later, calls = earlier ++ call :: later ∧ call.RendersFor renderer key ∧
    call.attempt.result = some (.ok rendered) ∧ ∀ other ∈ later, ¬ other.RendersFor renderer key

/-- Every entry of the cache holds the result of the latest call that was rendered for its
key. -/
structure Recorded {State : Type} (renderer : PartialRenderer State)
    (past : List (Exchange State) × Session State) : Prop where
  ordered : Dict.Ordered past.2.cache.entries
  held : ∀ key entry, Dict.find? key past.2.cache.entries = some entry →
    LatestRendered renderer past.1 key entry.value

section Runs
variable {State : Type} {renderer : PartialRenderer State} {calls : List (Exchange State)}
  {session : Session State} {key : String} {rendered : Rendered}

/-- A call that is not rendered for a key leaves the latest one that is. -/
theorem LatestRendered.skip (latest : LatestRendered renderer calls key rendered)
    {call : Exchange State} (other : ¬ call.RendersFor renderer key) :
    LatestRendered renderer (calls ++ [call]) key rendered := by
  obtain ⟨earlier, source, later, rfl, renders, result, none⟩ := latest
  refine ⟨earlier, source, later ++ [call], by simp, renders, result, fun next inside => ?_⟩
  rcases List.mem_append.mp inside with among | last
  · exact none next among
  · rw [List.mem_singleton.mp last]
    exact other

/-- Losing entries keeps the record. -/
theorem Recorded.shrink (recorded : Recorded renderer (calls, session)) {later : Session State}
    (shrinks : Cache.Shrinks session.cache later.cache) : Recorded renderer (calls, later) :=
  ⟨shrinks.ordered, fun key entry found => recorded.held key entry (shrinks.held key entry found)⟩

/-- **A call keeps the record.** -/
theorem Recorded.course (recorded : Recorded renderer (calls, session)) {request : Request}
    {attempt : Attempt State} (course : renderer.Course session request attempt) (clock : Clock) :
    Recorded renderer (calls ++ [⟨session, clock, request, attempt⟩], attempt.session) := by
  cases course with
  | served uses present =>
      exact ⟨recorded.ordered, fun key entry found =>
        (recorded.held key entry found).skip fun renders => Nat.succ_ne_self _ renders.fresh.symm⟩
  | refused shrinks =>
      have lookup := (renderer.afterLookup_counts request.options session.tally).1
      exact ⟨shrinks.ordered, fun key entry found =>
        (recorded.held key entry (shrinks.held key entry found)).skip
          fun renders => Nat.succ_ne_self _ (lookup.symm.trans renders.fresh).symm⟩
  | @cutShort events cache state shrinks =>
      have trace := (renderer.afterTrace_counts request.options session.tally events).1
      exact ⟨shrinks.ordered, fun key entry found =>
        (recorded.held key entry (shrinks.held key entry found)).skip
          fun renders => Nat.succ_ne_self _ (trace.symm.trans renders.fresh).symm⟩
  | @rendered rendered events cache state ordered own others =>
      have trace := (renderer.afterTrace_counts request.options session.tally events).1
      refine ⟨ordered, fun key entry found => ?_⟩
      by_cases mine : renderer.completed.usesCache request.options = true ∧ request.key = key
      · obtain ⟨uses, rfl⟩ := mine
        refine ⟨calls, _, [], rfl, ⟨uses, rfl, congrArg (· + 1) trace⟩, ?_, by simp⟩
        rw [own uses entry found]
      · have apart : renderer.completed.usesCache request.options = false ∨ key ≠ request.key := by
          cases uses : renderer.completed.usesCache request.options with
          | false => exact .inl rfl
          | true => exact .inr fun same => mine ⟨uses, same.symm⟩
        exact (recorded.held key entry (others key entry found apart)).skip
          fun renders => mine ⟨renders.uses, renders.keyed⟩

/-! ## Runs -/

/-- The counters of a session that has seen these calls. -/
structure Totals (renderer : PartialRenderer State) (past : List (Exchange State) × Session State) : Prop where
  results : past.2.tally.ok + past.2.tally.error + past.2.tally.cached = past.1.countP Exchange.comesBack
  refusals : past.2.tally.error = past.1.countP Exchange.isRefused
  hits : past.2.tally.hits = past.2.tally.cached
  lookups : past.2.tally.hits + past.2.tally.misses = past.1.countP (Exchange.usesCache renderer)

/-- **A call adds its counts to the totals.** -/
theorem Totals.call (totals : Totals renderer (calls, session)) {call : Exchange State}
    (met : call.before = session) (counted : call.Counted renderer) :
    Totals renderer (calls ++ [call], call.attempt.session) := by
  subst met
  obtain ⟨results, refusals, hits, lookups⟩ := totals
  constructor
  · rw [counted.results, results, List.countP_append, List.countP_singleton]
  · rw [counted.refusals, refusals, List.countP_append, List.countP_singleton]
  · exact counted.hits hits
  · rw [List.countP_append, List.countP_singleton, ← lookups]
    exact counted.lookups

/-- A run whose calls have counted as they should, came back if the tools have all answers, and
were served what was rendered before. -/
structure Accounted (renderer : PartialRenderer State) (past : List (Exchange State) × Session State) : Prop where
  recorded : Recorded renderer past
  totals : Totals renderer past
  counted : ∀ call ∈ past.1, call.Counted renderer
  answered : renderer.tools.Answers → ∀ call ∈ past.1, call.comesBack = true
  served : ∀ earlier call later, past.1 = earlier ++ call :: later → call.Gains Tally.cached 1 →
    ∃ rendered, call.attempt.result = some (.ok rendered) ∧
      LatestRendered renderer earlier call.request.key rendered

/-- A call that is served gets the result of the latest call that was rendered for its key. -/
theorem Recorded.served (recorded : Recorded renderer (calls, session)) {request : Request}
    {attempt : Attempt State} (course : renderer.Course session request attempt)
    {clock : Clock} (cached : (Exchange.mk session clock request attempt).Gains Tally.cached 1) :
    ∃ rendered, attempt.result = some (.ok rendered) ∧ LatestRendered renderer calls request.key rendered := by
  cases course with
  | served uses present => exact ⟨_, rfl, recorded.held _ _ present⟩
  | refused shrinks =>
      have lookup := (renderer.afterLookup_counts request.options session.tally).2.2.1
      exact absurd (lookup.symm.trans cached).symm (Nat.succ_ne_self _)
  | @rendered rendered events cache state ordered own others =>
      have trace := (renderer.afterTrace_counts request.options session.tally events).2.2.1
      exact absurd (trace.symm.trans cached).symm (Nat.succ_ne_self _)
  | @cutShort events cache state shrinks =>
      have trace := (renderer.afterTrace_counts request.options session.tally events).2.2.1
      exact absurd (trace.symm.trans cached).symm (Nat.succ_ne_self _)

/-- With tools that have all answers a call comes back. -/
theorem PartialRenderer.comesBack_exchange (answers : renderer.tools.Answers) (session : Session State)
    (clock : Clock) (request : Request) : (renderer.exchange session clock request).comesBack = true := by
  simp only [exchange, Exchange.comesBack, renderer.attempt_of_answers _ _ _ _ _ answers]
  rfl

theorem Accounted.call (accounted : Accounted renderer (calls, session)) (clock : Clock)
    (request : Request) :
    let call := renderer.exchange session clock request
    Accounted renderer (calls ++ [call], call.attempt.session) := by
  have course := renderer.course_attempt clock request accounted.recorded.ordered
  have counted := course.counted clock
  intro call
  refine ⟨accounted.recorded.course course clock, accounted.totals.call rfl counted, ?_, ?_, ?_⟩
  · intro other inside
    rcases List.mem_append.mp inside with among | last
    · exact accounted.counted other among
    · rw [List.mem_singleton.mp last]
      exact counted
  · intro answers other inside
    rcases List.mem_append.mp inside with among | last
    · exact accounted.answered answers other among
    · rw [List.mem_singleton.mp last]
      exact PartialRenderer.comesBack_exchange answers session clock request
  · intro earlier other later split cached
    rcases List.eq_nil_or_concat later with rfl | ⟨before, last, rfl⟩
    · obtain ⟨rfl, same⟩ := List.append_inj' split rfl
      cases same
      exact accounted.recorded.served course cached
    · have shorter : calls = earlier ++ other :: before := by
        have ends : calls ++ [call] = (earlier ++ other :: before) ++ [last] := by simpa using split
        exact (List.append_inj' ends rfl).1
      exact accounted.served earlier other before shorter cached

/-- Operations that render nothing count nothing. -/
theorem Accounted.shrink (accounted : Accounted renderer (calls, session)) {later : Session State}
    (shrinks : Cache.Shrinks session.cache later.cache) (tally : later.tally = session.tally) :
    Accounted renderer (calls, later) where
  recorded := accounted.recorded.shrink shrinks
  totals := by
    obtain ⟨results, refusals, hits, lookups⟩ := accounted.totals
    constructor <;> simp only [tally] <;> assumption
  counted := accounted.counted
  answered := accounted.answered
  served := accounted.served

/-- **An operation keeps the account.** -/
theorem Accounted.advance (accounted : Accounted renderer (calls, session))
    (operation : PartialRenderer.Operation) : Accounted renderer (renderer.advance (calls, session) operation) := by
  have ordered := accounted.recorded.ordered
  cases operation with
  | render clock request => exact accounted.call clock request
  | clear => exact accounted.shrink .clear rfl
  | purge time => exact accounted.shrink (.purge ordered) rfl
  | peek time key => exact accounted.shrink (.get ordered) rfl

/-- **A run keeps the account.** -/
theorem Accounted.run (accounted : Accounted renderer (calls, session))
    (operations : List PartialRenderer.Operation) :
    Accounted renderer (operations.foldl renderer.advance (calls, session)) := by
  induction operations generalizing calls session with
  | nil => exact accounted
  | cons operation rest ih => exact ih (accounted.advance operation)

end Runs

namespace PartialRenderer
variable {State : Type}

namespace Example

/-- The built-in tools, and a cache whose results live for 50 milliseconds. -/
def renderer : PartialRenderer Unit := ⟨{ cacheNanoseconds := 50000000 }, PartialToolbox.builtins Unit⟩

def greeting (content : String) : Request := ⟨⟨none, content, none⟩, .null, { cacheKey := some "greeting" }⟩

/-- Asks for an age from a day that lies beyond the calendar in Tokyo, between two unknown
functions. -/
def ageBeyond : Request :=
  ⟨⟨none, "\x7b\x7bnope()\x7d\x7d \x7b\x7bage(8210266876799999)\x7d\x7d \x7b\x7bnope()\x7d\x7d", none⟩, .null,
    { timezone := "Asia/Tokyo" }⟩

/-- After the call that is cut short, two within the lifetime and one at its end. -/
def operations : List Operation :=
  let clock (time : Nat) : Clock := ⟨Service.Example.instant, time⟩
  [.render (clock 0) ageBeyond, .render (clock 0) (greeting "Hello"),
    .render (clock 49999999) (greeting "Bye"), .render (clock 50000000) (greeting "Bye")]

end Example
end PartialRenderer
end Herald
