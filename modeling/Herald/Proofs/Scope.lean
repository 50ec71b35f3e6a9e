/- The scopes of loops.

A turn of a loop lays four names over the data around it (`Context.find?_inLoop`). So in loops
inside of loops a path that begins at another name leads where it leads outside of all of them
(`Context.resolve?_within`), and the four names are those of the innermost turn, whatever the
turns and the data around it call by these names. In a loop the first turn and no other has
`first`, and the last one and no other has `last` (`Context.nested_loops`). -/
import Herald.Rendering
import Herald.Proofs.Value.Path
namespace Herald
set_option autoImplicit false

/-- A turn of a loop: an item, its index, and the number of items. -/
structure Turn where
  item : Value
  index : Nat
  count : Nat

/-- The turns of a loop over items. -/
def Turn.ofItems (items : List Value) : List Turn :=
  items.zipIdx.map fun (item, index) => ⟨item, index, items.length⟩

theorem Turn.getElem?_ofItems_eq_some_iff {items : List Value} {place : Nat} {turn : Turn} :
    (ofItems items)[place]? = some turn ↔
      items[place]? = some turn.item ∧ turn.index = place ∧ turn.count = items.length := by
  obtain ⟨item, index, count⟩ := turn
  simp only [ofItems, List.getElem?_map, List.getElem?_zipIdx, Option.map_map, Option.map_eq_some_iff,
    Function.comp_apply, Turn.mk.injEq, Nat.zero_add]
  constructor
  · rintro ⟨other, listed, rfl, rfl, rfl⟩
    exact ⟨listed, rfl, rfl⟩
  · rintro ⟨listed, rfl, rfl⟩
    exact ⟨item, listed, rfl, rfl, rfl⟩

namespace Context

/-- The context of a turn. -/
def enter (context : Context) (turn : Turn) : Context := context.inLoop turn.item turn.index turn.count

/-- The context inside of loops, by their turns from the outermost to the innermost. -/
def within (root : Context) (turns : List Turn) : Context := turns.foldl enter root

theorem within_concat (root : Context) (outer : List Turn) (turn : Turn) :
    root.within (outer ++ [turn]) = (root.within outer).enter turn := by
  rw [within, List.foldl_append]
  rfl

/-- The names that a turn lays over the data. -/
def loopNames : List String := ["this", "index", "first", "last"]

/-- The name at which a path begins. -/
def startName (path : List Char) : String := String.ofList ((segments path).headD [])

variable {context other : Context} {path : List Char} {name : String}

/-! ## One turn -/

theorem find?_inLoop (outside : name ∉ loopNames) (context : Context) (item : Value)
    (index count : Nat) :
    Dict.find? name (context.inLoop item index count).data = Dict.find? name context.data := by
  simp only [loopNames, List.mem_cons, List.not_mem_nil, or_false, not_or] at outside
  obtain ⟨this, index, first, last⟩ := outside
  rw [inLoop, Dict.find?_insert_of_ne last, Dict.find?_insert_of_ne first,
    Dict.find?_insert_of_ne index, Dict.find?_insert_of_ne this]

/-- A path looks at no other field than the one at which it begins. -/
theorem resolve?_congr
    (same : Dict.find? (startName path) context.data = Dict.find? (startName path) other.data) :
    context.resolve? path = other.resolve? path := by
  obtain ⟨segment, rest, shape⟩ : ∃ segment rest, segments path = segment :: rest :=
    List.exists_cons_of_ne_nil (by simpa [segments] using Text.cutAt_ne_nil _ path)
  have start : startName path = String.ofList segment := by rw [startName, shape]; rfl
  rw [start] at same
  rw [resolve?_eq, resolve?_eq, shape, Value.descend?_cons, Value.descend?_cons, Value.child?,
    Value.child?, same]

theorem resolve?_enter (outside : startName path ∉ loopNames) (context : Context) (turn : Turn) :
    (context.enter turn).resolve? path = context.resolve? path :=
  resolve?_congr (find?_inLoop outside context turn.item turn.index turn.count)

/-- A name alone is looked up in the data. -/
theorem resolve?_name (whole : segments name.toList = [name.toList])
    (something : Text.trim name.toList ≠ []) (context : Context) :
    context.resolve? name.toList = Dict.find? name context.data := by
  have filled : (Text.trim name.toList).isEmpty = false := by simpa using something
  rw [resolve?_eq, filled, whole, Value.descend?_cons, Value.child?, String.ofList_toList]
  exact Option.bind_fun_some _

section Turn
variable (context : Context) (turn : Turn)

theorem resolve?_this : (context.enter turn).resolve? "this".toList = some turn.item := by
  rw [resolve?_name (by decide) (by decide), enter, inLoop,
    Dict.find?_insert_of_ne (by decide), Dict.find?_insert_of_ne (by decide),
    Dict.find?_insert_of_ne (by decide), Dict.find?_insert_self]

theorem resolve?_index : (context.enter turn).resolve? "index".toList = some (.int turn.index) := by
  rw [resolve?_name (by decide) (by decide), enter, inLoop,
    Dict.find?_insert_of_ne (by decide), Dict.find?_insert_of_ne (by decide),
    Dict.find?_insert_self]

theorem resolve?_first :
    (context.enter turn).resolve? "first".toList = some (.bool (turn.index == 0)) := by
  rw [resolve?_name (by decide) (by decide), enter, inLoop,
    Dict.find?_insert_of_ne (by decide), Dict.find?_insert_self]

theorem resolve?_last :
    (context.enter turn).resolve? "last".toList = some (.bool (turn.index + 1 == turn.count)) := by
  rw [resolve?_name (by decide) (by decide), enter, inLoop, Dict.find?_insert_self]

end Turn

/-! ## Loops in loops -/

/-- **Outside of the four names, loops change nothing.** -/
theorem resolve?_within (outside : startName path ∉ loopNames) (root : Context) (turns : List Turn) :
    (root.within turns).resolve? path = root.resolve? path := by
  induction turns generalizing root with
  | nil => rfl
  | cons turn turns ih => exact (ih (root.enter turn)).trans (resolve?_enter outside root turn)

/-- The body of a loop is rendered turn by turn, each in the context of the turn. -/
theorem renderNode_each {State : Type} (tools : Toolbox State) {items : List Value}
    (listed : context.resolve? path = some (.array items)) (something : items ≠ [])
    (body : List Node) (otherwise : Option (List Node)) (progress : Progress State) :
    tools.renderNode context (.block .each path body otherwise) progress =
      (Turn.ofItems items).foldl
        (fun progress turn => tools.renderNodes (context.enter turn) body progress) progress := by
  have found : Toolbox.loopItems context path = items := by rw [Toolbox.loopItems, listed]
  have filled : items.isEmpty = false := by simpa using something
  simp only [Toolbox.renderNode, found, filled, Turn.ofItems, List.foldl_map]
  rfl

/-- **Scopes of loops in loops.** In any context inside of loops, a path that begins at none of
the four names leads where it leads in the root context. The four names are those of the innermost
turn: its item, its index, whether that is 0, and whether it is the last one; and segments behind
the item lead from it into its fields and items. Behind any path, segments lead on from the value
of the path. A loop there renders its body turn by turn, for every item in order in a context of
its own, one turn further in; of these contexts that of the first turn and no other has `first`
true, and that of the last turn and no other has `last` true. -/
theorem nested_loops (root : Context) (turns : List Turn) :
    (∀ path, startName path ∉ loopNames →
      (root.within turns).resolve? path = root.resolve? path) ∧
    (∀ outer turn, turns = outer ++ [turn] →
      (root.within turns).resolve? "this".toList = some turn.item ∧
      (root.within turns).resolve? "index".toList = some (.int turn.index) ∧
      (root.within turns).resolve? "first".toList = some (.bool (turn.index == 0)) ∧
      (root.within turns).resolve? "last".toList = some (.bool (turn.index + 1 == turn.count)) ∧
      ∀ further target, (root.within turns).resolve? ("this.".toList ++ further) = some target ↔
        turn.item.Leads (segments further) target) ∧
    (∀ path value, (root.within turns).resolve? path = some value → ∀ further target,
      (root.within turns).resolve? (path ++ '.' :: further) = some target ↔
        value.Leads (segments further) target) ∧
    ∀ path items, (root.within turns).resolve? path = some (.array items) → items ≠ [] →
      (∀ {State : Type} (tools : Toolbox State) body otherwise progress,
        tools.renderNode (root.within turns) (.block .each path body otherwise) progress =
          (Turn.ofItems items).foldl (fun progress turn =>
            tools.renderNodes (root.within (turns ++ [turn])) body progress) progress) ∧
      (Turn.ofItems items).map Turn.item = items ∧
      ∀ place turn, (Turn.ofItems items)[place]? = some turn →
        turn.index = place ∧
        ((root.within (turns ++ [turn])).resolve? "first".toList = some (.bool true) ↔ place = 0) ∧
        ((root.within (turns ++ [turn])).resolve? "last".toList = some (.bool true) ↔
          place + 1 = items.length) := by
  have dotted : ∀ path value, (root.within turns).resolve? path = some value → ∀ further target,
      (root.within turns).resolve? (path ++ '.' :: further) = some target ↔
        value.Leads (segments further) target := by
    intro path value found further target
    rw [resolve?_append_dot found, Value.descend?_eq_some_iff]
  refine ⟨fun path outside => resolve?_within outside root turns, ?innermost, dotted, ?loop⟩
  case innermost =>
    rintro outer turn rfl
    have item := resolve?_this (root.within outer) turn
    rw [← within_concat] at item
    refine ⟨item, ?_, ?_, ?_, fun further target => dotted _ _ item further target⟩
    · rw [within_concat, resolve?_index]
    · rw [within_concat, resolve?_first]
    · rw [within_concat, resolve?_last]
  case loop =>
    intro path items listed something
    refine ⟨?_, ?_, ?_⟩
    · intro State tools body otherwise progress
      simp only [renderNode_each tools listed something, within_concat]
    · rw [Turn.ofItems, List.map_map]
      exact List.zipIdx_map_fst 0 items
    · intro place turn here
      obtain ⟨-, rfl, count⟩ := Turn.getElem?_ofItems_eq_some_iff.mp here
      rw [within_concat, resolve?_first, resolve?_last, count]
      simp only [Option.some.injEq, Value.bool.injEq, beq_iff_eq, and_self]

/-! ## Teams and their members -/

namespace Example

/-- Two teams. -/
def teams : List Value := [
  .object [("members", .array [.string "Ann", .string "Bo"]), ("name", .string "A")],
  .object [("members", .array [.string "Cy"]), ("name", .string "B")]]

/-- A context that has a field for two of the names of a loop. -/
def root : Context :=
  ⟨[("index", .string "outer"), ("teams", .array teams), ("this", .string "caller")], .enUS,
    ⟨"UTC", 0⟩, ⟨0, 0⟩⟩

/-- The second turn over the teams, and in it the first one over the members. -/
def turns : List Turn := [
  ⟨.object [("members", .array [.string "Cy"]), ("name", .string "B")], 1, 2⟩,
  ⟨.string "Cy", 0, 1⟩]

/-- The second turn over the teams. -/
def secondTeam : List Turn := turns.take 1

theorem nested_loops_teams :
    root.resolve? "index".toList = some (.string "outer") ∧
      startName "teams.0.name".toList ∉ loopNames ∧
      (root.within turns).resolve? "teams.0.name".toList = root.resolve? "teams.0.name".toList ∧
      (root.within secondTeam).resolve? "index".toList = some (.int 1) ∧
      (root.within secondTeam).resolve? "this. members .0".toList = some (.string "Cy") ∧
      (root.within turns).resolve? "this".toList = some (.string "Cy") ∧
      (root.within turns).resolve? "index".toList = some (.int 0) ∧
      (root.within turns).resolve? "this.name".toList = none ∧
      (root.within turns).resolve? "teams".toList = some (.array teams) ∧
      (root.within turns).resolve? "teams.1.name".toList = some (.string "B") ∧
      ∃ first last, Turn.ofItems teams = [first, last] ∧
        (root.within (turns ++ [first])).resolve? "first".toList = some (.bool true) ∧
        (root.within (turns ++ [last])).resolve? "first".toList ≠ some (.bool true) ∧
        (root.within (turns ++ [last])).resolve? "last".toList = some (.bool true) := by
  obtain ⟨outside, innermost, behind, loop⟩ := nested_loops root turns
  obtain ⟨item, index, -, -, fields⟩ := innermost secondTeam _ rfl
  obtain ⟨-, innermostTeam, -, -⟩ := nested_loops root secondTeam
  obtain ⟨-, teamIndex, -, -, teamFields⟩ := innermostTeam [] _ rfl
  have begins : startName "teams.0.name".toList ∉ loopNames := by decide
  have listed : (root.within turns).resolve? "teams".toList = some (.array teams) :=
    (outside "teams".toList (by decide)).trans rfl
  obtain ⟨-, -, marks⟩ := loop "teams".toList teams listed (by simp [teams])
  have firstMark := (marks 0 _ rfl).2.1
  have lastMarks := (marks 1 _ rfl).2
  refine ⟨rfl, begins, outside _ begins, teamIndex, ?_, item, index, ?_, listed, ?_, _, _, rfl,
    firstMark.mpr rfl, fun same => absurd (lastMarks.1.mp same) (by decide), lastMarks.2.mpr rfl⟩
  · have member : Value.Leads (.array [.string "Cy"]) ["0".toList] (.string "Cy") :=
      .item (show readNat? "0".toList = some 0 from rfl) rfl (.here _)
    exact (teamFields " members .0".toList _).mpr (.field rfl member)
  · refine Option.eq_none_iff_forall_ne_some.mpr fun target found => ?_
    cases (fields "name".toList target).mp found
  · have name : Value.Leads (.array teams) ["1".toList, "name".toList] (.string "B") :=
      .item (show readNat? "1".toList = some 1 from rfl) rfl (.field rfl (.here _))
    exact (behind "teams".toList _ listed "1.name".toList _).mpr name

end Example

end Context
end Herald
