/- Double braces that nothing closes.

Reading takes the opening braces of a source two by two. Before a text that shows no closing
braces, no earlier marker reaches beyond its place, so reading comes to a place behind paired
braces and reads on from there as if the source began there (`ofSource_resumed`). In particular
a double brace without closing braces is literal text and takes nothing else with it: the scan
goes on right behind it, and finds every placeholder in single braces that stands there. That
the scan remembers having found no closing braces makes no difference (`ofSource_unclosed`). -/
import Herald.Proofs.Token.Reading
namespace Herald.Token
set_option autoImplicit false

/-! ## Paired braces -/

/-- The opening braces that a text ends with are two by two, so a brace behind them begins a
marker of its own. -/
def PairsUp (text : List Char) : Prop := (text.reverse.takeWhile (· == '{')).length % 2 = 0

instance (text : List Char) : Decidable (PairsUp text) := inferInstanceAs (Decidable (_ = _))

theorem pairsUp_append_iff {first : List Char} (paired : PairsUp first) (second : List Char) :
    PairsUp (first ++ second) ↔ PairsUp second := by
  unfold PairsUp at *
  rw [List.reverse_append, List.takeWhile_append]
  split
  · rename_i all
    rw [List.length_append, List.length_reverse]
    rw [List.length_reverse] at all
    omega
  · rfl

theorem pairsUp_concat {c : Char} (other : c ≠ '{') (text : List Char) : PairsUp (text ++ [c]) := by
  simp [PairsUp, other]

theorem pairsUp_marker (inside : List Char) : PairsUp (marker inside) := by
  have shape : marker inside = '{' :: '{' :: (inside ++ ['}']) ++ ['}'] := by simp [marker]
  rw [shape]
  exact pairsUp_concat (by decide) _

theorem IsMarker.pairsUp {token : Token} (marker : IsMarker token) : PairsUp token.raw := by
  obtain ⟨inside, raw⟩ := marker.raw_eq
  rw [raw, ← List.cons_append]
  exact pairsUp_concat (by decide) _

/-! ## The place where reading resumes -/

theorem prepend_append {tokens : List Token} (nonempty : tokens ≠ []) (held : List Char)
    (more : List Token) : prepend held (tokens ++ more) = prepend held tokens ++ more := by
  cases tokens with
  | nil => exact absurd rfl nonempty
  | cons token rest => cases held <;> cases token <;> rfl

theorem prepend_append_of_marker {token : Token} (marker : token.isText = false) (held : List Char)
    (rest : List Token) : prepend held (token :: rest) = prepend held [] ++ token :: rest := by
  cases held with
  | nil => rfl
  | cons c held => cases token <;> simp_all [isText, prepend]

/-- What is left of a double-brace marker from an opening brace on shows its closing braces. -/
theorem braces_of_marker {inside front tail : List Char} (split : marker inside = front ++ tail)
    (brace : tail.head? = some '{') : ['}', '}'] <:+: tail := by
  have shape : front ++ tail = ('{' :: '{' :: inside) ++ ['}', '}'] := by rw [← split, marker]; rfl
  rcases List.append_eq_append_iff.mp shape with ⟨more, -, rfl⟩ | ⟨closing, -, ends⟩
  · exact (List.suffix_append more _).isInfix
  · have inside : '{' ∈ ['}', '}'] := by
      rw [ends]
      exact List.mem_append_right _ (List.mem_of_mem_head? brace)
    exact absurd inside (by decide)

section Resumed
variable {front rest piece behind : List Char}

/-- A piece that holds no brace from which reading could resume lies before such a brace. -/
theorem exists_append_of_tail (same : piece ++ behind = front ++ rest) (brace : rest.head? = some '{')
    (absent : ¬ ['}', '}'] <:+: rest)
    (none_inside : ∀ tail, piece = front ++ tail → tail.head? = some '{' → ['}', '}'] <:+: tail) :
    ∃ more, front = piece ++ more ∧ behind = more ++ rest := by
  rcases List.append_eq_append_iff.mp same with inside | ⟨tail, split, whole⟩
  · exact inside
  · cases tail with
    | nil => exact ⟨[], by simpa using split.symm, by simpa using whole.symm⟩
    | cons c tail =>
        have begins : (c :: tail).head? = some '{' := by rw [← brace, whole]; rfl
        have braces := none_inside _ split begins
        rw [whole] at absent
        exact absurd (braces.trans (List.prefix_append _ _).isInfix) absent

theorem IsMarker.exists_append {token : Token} (mark : IsMarker token) (nonempty : front ≠ [])
    (paired : PairsUp front) (brace : rest.head? = some '{') (absent : ¬ ['}', '}'] <:+: rest)
    (same : token.raw ++ behind = front ++ rest) :
    ∃ more, front = token.raw ++ more ∧ behind = more ++ rest ∧ PairsUp more := by
  have none_inside : ∀ tail, token.raw = front ++ tail → tail.head? = some '{' →
      ['}', '}'] <:+: tail := by
    intro tail split begins
    cases mark with
    | double _ known => exact braces_of_marker ((raw_of_ofInside known).symm.trans split) begins
    | @single inside path =>
        obtain ⟨c, front, rfl⟩ := List.exists_cons_of_ne_nil nonempty
        obtain ⟨-, split⟩ := List.cons.inj split
        have listed : '{' ∈ inside ++ ['}'] := by
          rw [split]
          exact List.mem_append_right _ (List.mem_of_mem_head? begins)
        have open? : '{' ∉ inside := notMem_of_isPath_trim path (by decide) (by decide)
        simp [open?] at listed
  obtain ⟨more, rfl, rfl⟩ := exists_append_of_tail same brace absent none_inside
  exact ⟨more, rfl, rfl, (pairsUp_append_iff mark.pairsUp more).mp paired⟩

theorem Skips.exists_append (skips : Skips piece behind) (nonempty : front ≠ [])
    (paired : PairsUp front) (brace : rest.head? = some '{') (absent : ¬ ['}', '}'] <:+: rest)
    (same : piece ++ behind = front ++ rest) :
    ∃ more, front = piece ++ more ∧ behind = more ++ rest ∧ PairsUp more := by
  have alone_inside : ∀ {c : Char} {tail : List Char}, [c] = front ++ tail → tail.head? ≠ some '{' := by
    intro c tail split begins
    obtain ⟨first, others, rfl⟩ := List.exists_cons_of_ne_nil nonempty
    obtain ⟨-, rfl⟩ := List.append_eq_nil_iff.mp (List.cons.inj split).2.symm
    cases begins
  have none_inside : ∀ tail, piece = front ++ tail → tail.head? = some '{' →
      ['}', '}'] <:+: tail := by
    intro tail split begins
    cases skips with
    | unknown closed unknown => exact braces_of_marker split begins
    | unclosed =>
        -- Between the two braces there is no such place: the one before it has no partner.
        obtain ⟨first, others, rfl⟩ := List.exists_cons_of_ne_nil nonempty
        obtain ⟨rfl, second⟩ := List.cons.inj split
        rcases List.cons_eq_append_iff.mp second with ⟨rfl, -⟩ | ⟨more, -, ended⟩
        · exact absurd paired (by decide)
        · obtain ⟨-, rfl⟩ := List.append_eq_nil_iff.mp ended.symm
          cases begins
    | brace => exact absurd begins (alone_inside split)
    | other => exact absurd begins (alone_inside split)
  obtain ⟨more, rfl, rfl⟩ := exists_append_of_tail same brace absent none_inside
  refine ⟨more, rfl, rfl, ?_⟩
  cases skips with
  | unclosed => exact (pairsUp_append_iff (by decide) more).mp paired
  | unknown => exact (pairsUp_append_iff (pairsUp_marker _) more).mp paired
  | other other =>
      exact (pairsUp_append_iff (pairsUp_concat other []) more).mp paired
  | brace alone =>
      cases more with
      | nil =>
          obtain ⟨after, begins⟩ := List.head?_eq_some_iff.mp brace
          exact absurd begins (alone after)
      | cons d more =>
          have other : d ≠ '{' := by
            rintro rfl
            exact alone _ rfl
          have behindBoth := (pairsUp_append_iff (pairsUp_concat other ['{']) more).mp paired
          exact (pairsUp_append_iff (pairsUp_concat other []) more).mpr behindBoth

/-- **Reading resumes behind paired braces** where no closing braces follow: the source before the
place is read as it is alone, and so is the source from there on. -/
theorem ofSource_resumed (paired : PairsUp front) (brace : rest.head? = some '{')
    (absent : ¬ ['}', '}'] <:+: rest) :
    ∃ tokens held, ofSource front = tokens ++ prepend held [] ∧
      ofSource (front ++ rest) = tokens ++ prepend held (ofSource rest) := by
  have here : ∃ tokens held, ofSource [] = tokens ++ prepend held [] ∧
      ofSource ([] ++ rest) = tokens ++ prepend held (ofSource rest) := ⟨[], [], ofSource_nil, rfl⟩
  generalize whole : front ++ rest = source
  induction source using reading_induction generalizing front with
  | nil =>
      obtain ⟨-, rfl⟩ := List.append_eq_nil_iff.mp whole
      cases brace
  | skip piece behind skips ih =>
      by_cases empty : front = []
      · rw [← whole, empty]
        exact here
      obtain ⟨more, rfl, rfl, pairedMore⟩ := skips.exists_append empty paired brace absent whole.symm
      obtain ⟨tokens, held, alone, followed⟩ := ih pairedMore rfl
      rw [ofSource_skipped skips, ofSource_skipped skips.cut, alone, followed]
      cases tokens with
      | nil => exact ⟨[], piece ++ held, prepend_prepend piece held [], prepend_prepend piece held _⟩
      | cons token tokens =>
          exact ⟨prepend piece (token :: tokens), held, prepend_append (List.cons_ne_nil _ _) _ _,
            prepend_append (List.cons_ne_nil _ _) _ _⟩
  | mark token behind marker ih =>
      by_cases empty : front = []
      · rw [← whole, empty]
        exact here
      obtain ⟨more, rfl, rfl, pairedMore⟩ := marker.exists_append empty paired brace absent whole.symm
      obtain ⟨tokens, held, alone, followed⟩ := ih pairedMore rfl
      rw [ofSource_marked marker, ofSource_marked marker, alone, followed]
      exact ⟨token :: tokens, held, rfl, rfl⟩

end Resumed

/-- **A double brace that nothing closes is literal text and no more.** The tokens of a source are
those of the scan that looks for closing braces afresh at every double brace. Behind a double brace
without closing braces reading goes on as if the source began there, so every placeholder in
single braces that follows is a token, with the tokens of what is before it and of what is behind
it around it. -/
theorem ofSource_unclosed (source : List Char) :
    ofSource source = scanAfresh [] [] source ∧
      ∀ before inner, source = before ++ '{' :: '{' :: inner → PairsUp before →
        ¬ ['}', '}'] <:+: inner →
        (∃ tokens held, ofSource before = tokens ++ prepend held [] ∧
          ofSource source = tokens ++ prepend (held ++ ['{', '{']) (ofSource inner)) ∧
        ∀ front inside behind, inner = front ++ '{' :: (inside ++ '}' :: behind) → PairsUp front →
          isPath (Text.trim inside) = true →
          ofSource source = ofSource (before ++ '{' :: '{' :: front) ++
            .placeholder (Text.trim inside) .single ('{' :: (inside ++ ['}'])) :: ofSource behind := by
  refine ⟨scan_eq_scanAfresh (.inl rfl) [] [], ?_⟩
  rintro before inner rfl paired absent
  constructor
  · have none_later : ¬ ['}', '}'] <:+: '{' :: '{' :: inner := by
      rwa [braces_infix_cons (by decide), braces_infix_cons (by decide)]
    obtain ⟨tokens, held, alone, followed⟩ := ofSource_resumed paired rfl none_later
    refine ⟨tokens, held, alone, ?_⟩
    have lone : ofSource ('{' :: '{' :: inner) = prepend ['{', '{'] (ofSource inner) :=
      ofSource_skipped (.unclosed absent)
    rw [followed, lone, prepend_prepend]
  · rintro front inside behind rfl pairedFront path
    have pairedWhole : PairsUp (before ++ '{' :: '{' :: front) := by
      rw [pairsUp_append_iff paired]
      exact (pairsUp_append_iff (by decide : PairsUp ['{', '{']) front).mpr pairedFront
    have none_later : ¬ ['}', '}'] <:+: '{' :: (inside ++ '}' :: behind) :=
      fun braces => absent (braces.trans (List.suffix_append front _).isInfix)
    obtain ⟨tokens, held, alone, followed⟩ := ofSource_resumed pairedWhole rfl none_later
    have single : ofSource ('{' :: (inside ++ '}' :: behind)) =
        .placeholder (Text.trim inside) .single ('{' :: (inside ++ ['}'])) :: ofSource behind := by
      simpa [raw] using ofSource_marked (.single path) behind
    have shape : before ++ '{' :: '{' :: (front ++ '{' :: (inside ++ '}' :: behind)) =
        (before ++ '{' :: '{' :: front) ++ '{' :: (inside ++ '}' :: behind) := by simp
    rw [shape, followed, alone, single, prepend_append_of_marker rfl, List.append_assoc]

namespace Example

/-- A text with a marker. -/
def before : List Char := "Hi \x7b\x7bname\x7d\x7d, ".toList

/-- Two double braces that nothing closes. -/
def front : List Char := " \x7b\x7b \x7b\x7b".toList

/-- What follows one more of them: the two, and a placeholder in single braces. -/
def inner : List Char := front ++ '{' :: (" city ".toList ++ '}' :: "!".toList)

def lone : List Char := before ++ '{' :: '{' :: inner

theorem ofSource_unclosed_city :
    PairsUp before ∧ ¬ ['}', '}'] <:+: inner ∧ PairsUp front ∧
      isPath (Text.trim " city ".toList) = true ∧ ofSource lone = scanAfresh [] [] lone ∧
      (∃ tokens held, ofSource before = tokens ++ prepend held [] ∧
        ofSource lone = tokens ++ prepend (held ++ ['{', '{']) (ofSource inner)) ∧
      ofSource lone = ofSource (before ++ '{' :: '{' :: front) ++
        .placeholder "city".toList .single "\x7b city \x7d".toList :: ofSource "!".toList := by
  have paired : PairsUp before := by decide
  have absent : ¬ ['}', '}'] <:+: inner := not_braces_of_count (by decide)
  have pairedFront : PairsUp front := by decide
  have path : isPath (Text.trim " city ".toList) = true := by decide
  obtain ⟨afresh, resumes⟩ := ofSource_unclosed lone
  obtain ⟨goesOn, finds⟩ := resumes before inner rfl paired absent
  exact ⟨paired, absent, pairedFront, path, afresh, goesOn,
    finds front " city ".toList "!".toList rfl pairedFront path⟩

end Example
end Herald.Token
