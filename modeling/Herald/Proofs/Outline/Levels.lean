/- The levels of blocks.

In the outline of a token list a block lies deeper than the block around it, and no level
reaches the number of tokens (`nested_ofTokens`). So a limit that large caps nothing, and
the nodes that are left by a smaller limit nest no deeper than the limit. -/
import Herald.Proofs.Outline.Basic
namespace Herald
set_option autoImplicit false

/-! ## Depth -/

namespace Node

mutual
/-- How deep blocks nest in a node. -/
def depth : Node → Nat
  | .text _ => 0
  | .placeholder _ _ _ => 0
  | .block _ _ body otherwise => max (listDepth body) (branchDepth otherwise) + 1

/-- How deep blocks nest in the nodes of a list. -/
def listDepth : List Node → Nat
  | [] => 0
  | node :: rest => max (depth node) (listDepth rest)

/-- How deep blocks nest in an otherwise-branch. -/
def branchDepth : Option (List Node) → Nat
  | none => 0
  | some nodes => listDepth nodes
end

@[simp] theorem listDepth_append (first second : List Node) :
    listDepth (first ++ second) = max (listDepth first) (listDepth second) := by
  induction first with
  | nil => simp [listDepth]
  | cons node rest ih => simp only [List.cons_append, listDepth, ih, Nat.max_assoc]

@[simp] theorem listDepth_mergeTexts (nodes : List Node) :
    listDepth (mergeTexts nodes) = listDepth nodes := by
  induction nodes with
  | nil => rfl
  | cons node rest ih =>
      simp only [mergeTexts, List.foldr_cons] at ih ⊢
      split
      · rename_i raw next more joined
        rw [joined] at ih
        simpa [listDepth, depth] using ih
      · simp only [listDepth, ih]

end Node

namespace Outline

/-! ## Levels that grow inwards -/

mutual
/-- The blocks of an item have levels from `low` on and below `high`, growing inwards. -/
def Nested (low high : Nat) : Outline → Prop
  | .text _ => True
  | .placeholder _ _ _ => True
  | .block _ _ _ level body otherwise _ =>
    low ≤ level ∧ level < high ∧ ListNested (level + 1) high body ∧
      BranchNested (level + 1) high otherwise

/-- The same of every item of a list. -/
def ListNested (low high : Nat) : List Outline → Prop
  | [] => True
  | item :: rest => Nested low high item ∧ ListNested low high rest

/-- The same of an otherwise-branch. -/
def BranchNested (low high : Nat) : Option (List Char × List Outline) → Prop
  | none => True
  | some (_, items) => ListNested low high items
end

variable {low high limit : Nat}

@[simp] theorem listNested_append (first second : List Outline) :
    ListNested low high (first ++ second) ↔
      ListNested low high first ∧ ListNested low high second := by
  induction first with
  | nil => simp [ListNested]
  | cons item rest ih => simp only [List.cons_append, ListNested, ih, and_assoc]

theorem Nested.mono {lower : Nat} (le : lower ≤ low) {item : Outline}
    (nested : Nested low high item) : Nested lower high item := by
  match item with
  | .text _ => trivial
  | .placeholder _ _ _ => trivial
  | .block _ _ _ _ _ _ _ => exact ⟨Nat.le_trans le nested.1, nested.2⟩

theorem ListNested.mono {lower : Nat} (le : lower ≤ low) {items : List Outline}
    (nested : ListNested low high items) : ListNested lower high items := by
  induction items with
  | nil => trivial
  | cons item rest ih => exact ⟨nested.1.mono le, ih nested.2⟩

mutual
/-- A limit above every level changes nothing. -/
theorem capped_eq_self (above : high ≤ limit) (item : Outline) (low : Nat)
    (nested : Nested low high item) : capped limit item = [item] := by
  match item with
  | .text _ => rfl
  | .placeholder _ _ _ => rfl
  | .block kind argument openRaw level body otherwise closeRaw =>
      obtain ⟨-, below, inBody, inBranch⟩ := nested
      rw [capped, if_pos (Nat.lt_of_lt_of_le below above), listCapped_eq_self above body _ inBody,
        branchCapped_eq_self above otherwise _ inBranch]

theorem listCapped_eq_self (above : high ≤ limit) (items : List Outline) (low : Nat)
    (nested : ListNested low high items) : listCapped limit items = items := by
  match items with
  | [] => rfl
  | item :: rest =>
      rw [listCapped, capped_eq_self above item low nested.1,
        listCapped_eq_self above rest low nested.2]
      rfl

theorem branchCapped_eq_self (above : high ≤ limit) (branch : Option (List Char × List Outline))
    (low : Nat) (nested : BranchNested low high branch) : branchCapped limit branch = branch := by
  match branch with
  | none => rfl
  | some (raw, items) => rw [branchCapped, listCapped_eq_self above items low nested]
end

mutual
/-- What is left by a limit nests no deeper than the levels up to the limit allow. -/
theorem depth_capped_le (item : Outline) (low : Nat) (nested : Nested low high item) :
    Node.listDepth (nodes (capped limit item)) ≤ limit - low := by
  match item with
  | .text _ => simp [capped, nodes, node, Node.listDepth, Node.depth]
  | .placeholder _ _ _ => simp [capped, nodes, node, Node.listDepth, Node.depth]
  | .block kind argument openRaw level body otherwise closeRaw =>
      obtain ⟨above, -, inBody, inBranch⟩ := nested
      have bodyBound := listDepth_capped_le body (level + 1) inBody
      have branchBound := branchDepth_capped_le otherwise (level + 1) inBranch
      rw [capped]
      split
      · simp only [nodes, node, Node.listDepth, Node.depth]
        omega
      · simp only [nodes, node, nodes_append, Node.listDepth, Node.depth, Node.listDepth_append]
        omega

theorem listDepth_capped_le (items : List Outline) (low : Nat)
    (nested : ListNested low high items) :
    Node.listDepth (nodes (listCapped limit items)) ≤ limit - low := by
  match items with
  | [] => simp [listCapped, nodes, Node.listDepth]
  | item :: rest =>
      have first := depth_capped_le item low nested.1
      have others := listDepth_capped_le rest low nested.2
      rw [listCapped, nodes_append, Node.listDepth_append]
      omega

theorem branchDepth_capped_le (branch : Option (List Char × List Outline)) (low : Nat)
    (nested : BranchNested low high branch) :
    Node.branchDepth (branchNodes (branchCapped limit branch)) ≤ limit - low ∧
      Node.listDepth (nodes (spelled (branchCapped limit branch))) ≤ limit - low := by
  match branch with
  | none => simp [branchCapped, branchNodes, spelled, nodes, Node.branchDepth, Node.listDepth]
  | some (raw, items) =>
      have bound := listDepth_capped_le items low nested
      simpa [branchCapped, branchNodes, spelled, nodes, node, Node.branchDepth, Node.listDepth,
        Node.depth] using bound
end

end Outline

/-! ## The levels of a draft -/

namespace Draft
variable {high : Nat}

/-- What the openings hold lies deeper than they do. -/
def OpeningsNested (high : Nat) : List Opening → Prop
  | [] => True
  | opening :: outer =>
    Outline.ListNested (outer.length + 1) high opening.body ∧
      Outline.BranchNested (outer.length + 1) high opening.otherwise ∧ OpeningsNested high outer

/-- The levels of a draft are in order. -/
structure WellNested (high : Nat) (draft : Draft) : Prop where
  root : Outline.ListNested 0 high draft.root
  openings : OpeningsNested high draft.openings

/-- An item nested below the innermost opening can be emitted. -/
theorem WellNested.emit {draft : Draft} (nested : WellNested high draft) {item : Outline}
    (deeper : Outline.Nested draft.openings.length high item) : WellNested high (draft.emit item) := by
  obtain ⟨root, openings⟩ := draft
  cases openings with
  | nil =>
      refine ⟨?_, nested.openings⟩
      exact (Outline.listNested_append _ _).mpr ⟨nested.root, deeper, trivial⟩
  | cons opening outer =>
      refine ⟨nested.root, ?_⟩
      obtain ⟨kind, argument, openRaw, body, otherwise⟩ := opening
      obtain ⟨inBody, inBranch, below⟩ := nested.openings
      match otherwise with
      | none =>
          exact ⟨(Outline.listNested_append _ _).mpr ⟨inBody, deeper, trivial⟩, trivial, below⟩
      | some (raw, items) =>
          exact ⟨inBody, (Outline.listNested_append _ _).mpr ⟨inBranch, deeper, trivial⟩, below⟩

theorem WellNested.step {draft : Draft} (nested : WellNested high draft)
    (room : draft.openings.length < high) (token : Token) : WellNested high (draft.step token) := by
  cases token with
  | text raw => exact nested.emit trivial
  | placeholder source braces raw => exact nested.emit trivial
  | opener kind argument raw => exact ⟨nested.root, trivial, trivial, nested.openings⟩
  | otherwise raw =>
      have written : WellNested high (draft.emit (.text raw)) := nested.emit trivial
      obtain ⟨root, openings⟩ := draft
      cases openings with
      | nil => exact written
      | cons opening outer =>
          simp only [Draft.step]
          split
          · exact ⟨nested.root, nested.openings.1, trivial, nested.openings.2.2⟩
          · exact written
  | closer kind raw =>
      have written : WellNested high (draft.emit (.text raw)) := nested.emit trivial
      obtain ⟨root, openings⟩ := draft
      cases openings with
      | nil => exact written
      | cons opening outer =>
          simp only [Draft.step]
          split
          · obtain ⟨inBody, inBranch, below⟩ := nested.openings
            have outside : WellNested high ⟨root, outer⟩ := ⟨nested.root, below⟩
            exact outside.emit ⟨Nat.le_refl _, Nat.lt_of_succ_lt room, inBody, inBranch⟩
          · exact written

theorem length_openings_emit (draft : Draft) (item : Outline) :
    (draft.emit item).openings.length = draft.openings.length := by
  obtain ⟨root, openings⟩ := draft
  cases openings <;> rfl

/-- A token opens one block at most. -/
theorem length_openings_step (draft : Draft) (token : Token) :
    (draft.step token).openings.length ≤ draft.openings.length + 1 := by
  have written : ∀ item : Outline,
      (draft.emit item).openings.length ≤ draft.openings.length + 1 := by
    intro item
    rw [length_openings_emit]
    exact Nat.le_succ _
  cases token with
  | text raw => exact written _
  | placeholder source braces raw => exact written _
  | opener kind argument raw => exact Nat.le_refl _
  | otherwise raw =>
      obtain ⟨root, openings⟩ := draft
      cases openings with
      | nil => exact written _
      | cons opening outer =>
          simp only [Draft.step]
          split
          · exact Nat.le_succ _
          · exact written _
  | closer kind raw =>
      obtain ⟨root, openings⟩ := draft
      cases openings with
      | nil => exact written _
      | cons opening outer =>
          simp only [Draft.step]
          split
          · rw [length_openings_emit, List.length_cons]
            exact Nat.le_add_right outer.length 2
          · exact written _

theorem wellNested_run (tokens : List Token) :
    ∀ draft : Draft, WellNested high draft → draft.openings.length + tokens.length ≤ high →
      WellNested high (tokens.foldl Draft.step draft) := by
  induction tokens with
  | nil => exact fun draft nested _ => nested
  | cons token rest ih =>
      intro draft nested room
      rw [List.length_cons] at room
      refine ih _ (nested.step (by omega) token) ?_
      have bound := length_openings_step draft token
      omega

theorem nested_pending {openings : List Opening} (nested : OpeningsNested high openings) :
    Outline.ListNested 0 high (pending openings) := by
  induction openings with
  | nil => trivial
  | cons opening outer ih =>
      obtain ⟨kind, argument, openRaw, body, otherwise⟩ := opening
      obtain ⟨inBody, inBranch, below⟩ := nested
      have inside : Outline.ListNested 0 high (body ++ Outline.spelled otherwise) := by
        refine (Outline.listNested_append _ _).mpr ⟨inBody.mono (Nat.zero_le _), ?_⟩
        match otherwise with
        | none => trivial
        | some (raw, items) => exact ⟨trivial, inBranch.mono (Nat.zero_le _)⟩
      exact (Outline.listNested_append _ _).mpr ⟨ih below, trivial, inside⟩

end Draft

namespace Outline

/-- The levels of an outline are below the number of its tokens. -/
theorem nested_ofTokens (tokens : List Token) :
    ListNested 0 tokens.length (ofTokens tokens) := by
  have run : Draft.WellNested tokens.length (tokens.foldl Draft.step Draft.empty) :=
    Draft.wellNested_run tokens Draft.empty ⟨trivial, trivial⟩ (by simp [Draft.empty])
  exact (listNested_append _ _).mpr ⟨run.root, Draft.nested_pending run.openings⟩

end Outline
end Herald
