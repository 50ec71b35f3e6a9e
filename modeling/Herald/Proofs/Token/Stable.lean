/- Tokens read alone.

Cutting a source between its tokens changes nothing that reading decided by looking ahead. A
marker ends where it is found to end. What is skipped as literal text was skipped because no
marker begins there, and with less text behind it none begins there either. So every token is
read again from its own text, and no literal text hides a marker (`ofSource_stable`). -/
import Herald.Proofs.Token.Reading
import Mathlib.Data.List.Chain
namespace Herald.Token
set_option autoImplicit false

/-- No two literal texts are next to each other. -/
def Apart (tokens : List Token) : Prop :=
  tokens.IsChain fun first second => first.isText = false ∨ second.isText = false

theorem exists_text_of_isText {token : Token} (literal : token.isText = true) :
    ∃ text, token = .text text := by
  cases token with
  | text text => exact ⟨text, rfl⟩
  | opener | otherwise | closer | placeholder => cases literal

/-- A token that is not empty and is read from its own text alone. -/
structure Stable (token : Token) : Prop where
  nonempty : token.raw ≠ []
  alone : ofSource token.raw = [token]

theorem IsMarker.stable {token : Token} (marker : IsMarker token) : Stable token where
  nonempty := by
    obtain ⟨inside, raw⟩ := marker.raw_eq
    rw [raw]
    exact List.cons_ne_nil _ _
  alone := by simpa using ofSource_marked marker []

theorem apart_cons_of_marker {token : Token} (marker : token.isText = false) {tokens : List Token}
    (apart : Apart tokens) : Apart (token :: tokens) := by
  cases tokens with
  | nil => exact List.isChain_singleton token
  | cons next rest => exact List.isChain_cons_cons.mpr ⟨.inl marker, apart⟩

/-- What the first literal text says does not matter. -/
theorem Apart.text {text : List Char} {tokens : List Token} (apart : Apart (.text text :: tokens))
    (other : List Char) : Apart (.text other :: tokens) := by
  cases tokens with
  | nil => exact List.isChain_singleton _
  | cons next rest =>
      obtain ⟨first, later⟩ := List.isChain_cons_cons.mp apart
      exact List.isChain_cons_cons.mpr ⟨first, later⟩

/-- A skipped piece is stable, alone and together with the literal text behind it. -/
theorem Skips.stable {piece text rest : List Char} (skips : Skips piece (text ++ rest))
    (literal : text = [] ∨ Stable (.text text)) : Stable (.text (piece ++ text)) where
  nonempty := List.append_ne_nil_of_left_ne_nil skips.ne_nil text
  alone := by
    have filled : piece.isEmpty = false := List.isEmpty_eq_false_iff.mpr skips.ne_nil
    show ofSource (piece ++ text) = _
    rw [ofSource_skipped skips.cut]
    rcases literal with rfl | stable
    · simp [prepend, filled]
    · have same : ofSource text = [.text text] := stable.alone
      simp [prepend, filled, same]

/-- **Putting a skipped piece in front of stable tokens keeps them stable and apart.** -/
theorem Skips.stable_prepend {piece rest : List Char} (skips : Skips piece rest)
    (stable : ∀ token ∈ ofSource rest, Stable token) (apart : Apart (ofSource rest)) :
    (∀ token ∈ prepend piece (ofSource rest), Stable token) ∧ Apart (prepend piece (ofSource rest)) := by
  have filled : piece.isEmpty = false := List.isEmpty_eq_false_iff.mpr skips.ne_nil
  have single : Stable (.text piece) := by simpa using @Skips.stable piece [] rest skips (.inl rfl)
  cases shape : ofSource rest with
  | nil => exact ⟨by simpa [prepend, filled] using single, by simp [prepend, filled, Apart]⟩
  | cons token more =>
      rw [shape] at stable apart
      obtain ⟨first, others⟩ := List.forall_mem_cons.mp stable
      cases kind : token.isText with
      | false =>
          have between : prepend piece (token :: more) = .text piece :: token :: more := by
            rw [prepend_of_marker kind]
            simp [flush, skips.ne_nil]
          rw [between]
          exact ⟨List.forall_mem_cons.mpr ⟨single, stable⟩, List.isChain_cons_cons.mpr ⟨.inr kind, apart⟩⟩
      | true =>
          obtain ⟨text, rfl⟩ := exists_text_of_isText kind
          have split : rest = text ++ more.flatMap raw := by
            rw [← raws_ofSource rest, shape]
            rfl
          have joined : prepend piece (.text text :: more) = .text (piece ++ text) :: more := by
            simp [prepend, filled]
          rw [split] at skips
          rw [joined]
          exact ⟨List.forall_mem_cons.mpr ⟨skips.stable (.inr first), others⟩, apart.text (piece ++ text)⟩

/-- **Every token is what its own text reads as**, and no two literal texts are next to each
other. So no literal text has a marker inside. -/
theorem ofSource_stable (source : List Char) :
    (∀ token ∈ ofSource source, Stable token) ∧ Apart (ofSource source) := by
  induction source using reading_induction with
  | nil => exact ⟨by simp, by simp [Apart]⟩
  | skip piece rest skips ih =>
      rw [ofSource_skipped skips]
      exact skips.stable_prepend ih.1 ih.2
  | mark token rest marker ih =>
      rw [ofSource_marked marker]
      exact ⟨List.forall_mem_cons.mpr ⟨marker.stable, ih.1⟩, apart_cons_of_marker marker.isText ih.2⟩

namespace Example

/-- An unknown directive. -/
def directive : List Char := marker "#with x".toList

/-- A placeholder. -/
def name : Token := .placeholder "name".toList .single "\x7bname\x7d".toList

theorem ofSource_directive : ofSource (directive ++ name.raw) = [.text directive, name] := by
  have closed : Enclosed "#with x".toList := enclosed_of_notMem (by decide)
  have unknown : ofInside? "#with x".toList = none := by decide
  have path : isPath (Text.trim "name".toList) = true := by decide
  have read : ofSource name.raw = [name] := (IsMarker.single path).stable.alone
  have skipped := ofSource_skipped (.unknown closed unknown name.raw)
  rw [read] at skipped
  exact skipped

theorem ofSource_stable_directive :
    .text directive ∈ ofSource (directive ++ name.raw) ∧ Stable (.text directive) ∧
      Apart (ofSource (directive ++ name.raw)) := by
  have listed : .text directive ∈ ofSource (directive ++ name.raw) := by
    rw [ofSource_directive]
    exact List.mem_cons_self
  obtain ⟨stable, apart⟩ := ofSource_stable (directive ++ name.raw)
  exact ⟨listed, stable _ listed, apart⟩

end Example
end Herald.Token
