/- The places where texts are cut.

A separator cuts a text only where it stands outside quotes, that is, where the quotes of the
text before it are closed (`placesOutside`). The scanners of the library keep the open quote each
in its own way, but they act at the same places: cutting at a separator cuts there and nowhere
else (`joints_cutOutside`), the search for it stops at the first of them (`breakOutside_eq`), and
the arguments of a call are the pieces between its commas there, unless a quote is open at the end
(`scanners_agree`). -/
import Herald.Proofs.Call
import Herald.Text.Offset
namespace Herald.Text
set_option autoImplicit false

/-! ## Places outside quotes -/

/-- The places where a character stands while the quotes are closed, if `quote` is open before the
text. -/
def placesFrom (wanted : Char) (quote : Option Char) (text : List Char) : List Nat :=
  (List.range text.length).filter fun place =>
    ((text.take place).foldl quoteStep quote).isNone && text[place]? == some wanted

/-- The places where a character stands outside quotes, counted in characters. -/
def placesOutside (wanted : Char) (text : List Char) : List Nat :=
  (List.range text.length).filter fun place => balanced (text.take place) && text[place]? == some wanted

theorem placesOutside_eq (wanted : Char) (text : List Char) :
    placesOutside wanted text = placesFrom wanted none text := rfl

theorem placesFrom_cons (wanted : Char) (quote : Option Char) (c : Char) (rest : List Char) :
    placesFrom wanted quote (c :: rest) =
      (if quote.isNone && c == wanted then [0] else []) ++
        (placesFrom wanted (quoteStep quote c) rest).map (· + 1) := by
  rw [placesFrom, List.length_cons, List.range_succ_eq_map, List.filter_cons, List.filter_map, placesFrom]
  have later : (fun place => (((c :: rest).take place).foldl quoteStep quote).isNone &&
        (c :: rest)[place]? == some wanted) ∘ Nat.succ =
      fun place => ((rest.take place).foldl quoteStep (quoteStep quote c)).isNone &&
        rest[place]? == some wanted := by
    funext place
    simp
  rw [later]
  split <;> simp_all

theorem placesFrom_append (wanted : Char) (quote : Option Char) (first second : List Char) :
    placesFrom wanted quote (first ++ second) =
      placesFrom wanted quote first ++
        (placesFrom wanted (first.foldl quoteStep quote) second).map (· + first.length) := by
  induction first generalizing quote with
  | nil => simp [placesFrom]
  | cons c first ih =>
      rw [List.cons_append, placesFrom_cons, ih, placesFrom_cons, List.map_append, List.map_map,
        List.append_assoc, List.foldl_cons]
      congr 3

section Plain
variable {separator : Char}

/-- A separator without places does not stand outside quotes. -/
theorem placesFrom_eq_nil_iff (plain : isQuote separator = false) (quote : Option Char)
    (text : List Char) : placesFrom separator quote text = [] ↔ separator ∉ outsideFrom quote text := by
  induction text generalizing quote with
  | nil => simp [placesFrom, outsideFrom]
  | cons c text ih =>
      rw [placesFrom_cons, List.append_eq_nil_iff, List.map_eq_nil_iff, ih, outsideFrom]
      by_cases same : c = separator
      · subst same
        cases quote <;> simp [plain]
      · have apart : separator ≠ c := Ne.symm same
        cases shown : quote.isNone && !isQuote c <;> simp [same, apart]

theorem placesOutside_eq_nil_iff (plain : isQuote separator = false) (text : List Char) :
    placesOutside separator text = [] ↔ separator ∉ outside text :=
  placesFrom_eq_nil_iff plain none text

/-- The first separator outside quotes, and those behind it. -/
theorem placesOutside_append (plain : isQuote separator = false) {first : List Char}
    (closed : openQuote first = none) (absent : separator ∉ outside first) (rest : List Char) :
    placesOutside separator (first ++ separator :: rest) =
      first.length :: (placesOutside separator rest).map (· + (first.length + 1)) := by
  have passed : quoteStep none separator = none := by simp [quoteStep, plain]
  have nowhere := (placesFrom_eq_nil_iff plain none first).mpr absent
  rw [placesOutside_eq, placesFrom_append, nowhere, ← openQuote, closed, placesFrom_cons, passed,
    placesOutside_eq]
  simp only [Option.isNone_none, beq_self_eq_true, Bool.and_self, if_true, List.nil_append,
    List.cons_append, List.map_cons, List.map_map, Nat.zero_add, List.cons.injEq, true_and]
  congr 1
  funext place
  simp only [Function.comp_apply]
  omega

/-- A text is whole, or there is a first place to cut it. -/
@[elab_as_elim]
theorem separator_induction (plain : isQuote separator = false) {motive : List Char → Prop}
    (text : List Char) (whole : ∀ text, separator ∉ outside text → motive text)
    (cut : ∀ first rest, openQuote first = none → separator ∉ outside first → motive rest →
      motive (first ++ separator :: rest)) : motive text := by
  rcases exists_first_separator plain none text with absent | ⟨first, rest, shape, absent, closed⟩
  · exact whole text absent
  · have shorter : rest.length < text.length := by
      rw [shape, List.length_append, List.length_cons]
      omega
    rw [shape]
    exact cut first rest closed absent (separator_induction plain rest whole cut)
termination_by text.length

/-! ## Cutting there -/

/-- The places of the separators in a joined text. -/
def joints : List (List Char) → List Nat
  | [] => []
  | [_] => []
  | first :: second :: rest => first.length :: (joints (second :: rest)).map (· + (first.length + 1))

theorem joints_cons {pieces : List (List Char)} (nonempty : pieces ≠ []) (first : List Char) :
    joints (first :: pieces) = first.length :: (joints pieces).map (· + (first.length + 1)) := by
  obtain ⟨second, rest, rfl⟩ := List.exists_cons_of_ne_nil nonempty
  rfl

theorem length_joints {pieces : List (List Char)} (nonempty : pieces ≠ []) :
    pieces.length = (joints pieces).length + 1 := by
  induction pieces with
  | nil => exact absurd rfl nonempty
  | cons first rest ih =>
      cases rest with
      | nil => rfl
      | cons second rest =>
          rw [joints_cons (List.cons_ne_nil _ _), List.length_cons, ih (List.cons_ne_nil _ _),
            List.length_cons, List.length_map]

theorem cutOutside_ne_nil (separator : Char) (text : List Char) : cutOutside separator text ≠ [] := by
  obtain ⟨first, rest, pieces, -⟩ := @cutOutsideFrom_front separator none ' ' [] text
  rw [cutOutside, pieces]
  exact List.cons_ne_nil _ _

/-- **A text is cut exactly where a separator stands outside quotes.** -/
theorem joints_cutOutside (plain : isQuote separator = false) (text : List Char) :
    joints (cutOutside separator text) = placesOutside separator text := by
  induction text using separator_induction plain with
  | whole text absent =>
      rw [cutOutside_of_notMem absent, (placesOutside_eq_nil_iff plain text).mpr absent]
      rfl
  | cut first rest closed absent ih =>
      rw [cutOutside_append plain closed absent, joints_cons (cutOutside_ne_nil _ _), ih,
        placesOutside_append plain closed absent]

theorem length_splitOutside (plain : isQuote separator = false) (text : List Char) :
    (splitOutside separator text).length = (placesOutside separator text).length + 1 := by
  rw [splitOutside, List.length_map, length_joints (cutOutside_ne_nil _ _), joints_cutOutside plain]

/-- Trimmed pieces that show no separator are found again in their joined text. -/
theorem splitOutside_joinWith (plain : isQuote separator = false) {pieces : List (List Char)}
    (nonempty : pieces ≠ []) (trimmed : ∀ piece ∈ pieces, trim piece = piece)
    (closed : ∀ piece ∈ pieces, openQuote piece = none)
    (whole : ∀ piece ∈ pieces, placesOutside separator piece = []) :
    splitOutside separator (joinWith [separator] pieces) = pieces := by
  have cut : CutInto separator (joinWith [separator] pieces) pieces := {
    nonempty
    joined := rfl
    closed
    whole := fun piece listed => (placesOutside_eq_nil_iff plain piece).mp (whole piece listed) }
  rw [splitOutside, cut.cutOutside plain]
  exact (List.map_congr_left trimmed).trans (List.map_id pieces)

/-! ## Searching there -/

theorem breakOutside_of_notMem {text : List Char} (absent : separator ∉ outside text) :
    breakOutside [separator] text = none := by
  have passed := @breakOutsideFrom_passed separator [] none text absent [] []
  rw [List.append_nil] at passed
  rw [breakOutside, passed, breakOutsideFrom]

/-- **The search stops at the first place** where the separator stands outside quotes. -/
theorem breakOutside_eq (plain : isQuote separator = false) (text : List Char) :
    breakOutside [separator] text =
      (placesOutside separator text).head?.map fun place => (text.take place, text.drop (place + 1)) := by
  induction text using separator_induction plain with
  | whole text absent =>
      rw [breakOutside_of_notMem absent, (placesOutside_eq_nil_iff plain text).mpr absent]
      rfl
  | cut first rest closed absent =>
      have found := @breakOutside_append separator [] plain first closed absent rest
      rw [placesOutside_append plain closed absent]
      simpa using found

end Plain

/-- **The scanners agree on what stands outside quotes.** Take a separator that is no quote
character. The pieces of a text, before they are trimmed, join to the text, and the joints are the
places where the separator stands outside quotes; so there is one piece more than there are such
places, and trimmed pieces that are closed and show no separator are found again in their joined
text. The search for the separator stops at the first of the places, which it tells by the text
before it and so by the byte offset, and finds none exactly where there is one piece. The list of a
call's arguments is refused exactly if it is not blank and a quote of it stays open; a blank one has
no arguments, and any other one has its pieces between commas. -/
theorem scanners_agree (text : List Char) :
    (∀ separator, isQuote separator = false →
      (∃ pieces, splitOutside separator text = pieces.map trim ∧ joinWith [separator] pieces = text ∧
        joints pieces = placesOutside separator text) ∧
      (splitOutside separator text).length = (placesOutside separator text).length + 1 ∧
      (∀ pieces, pieces ≠ [] →
        (∀ piece ∈ pieces, trim piece = piece ∧ openQuote piece = none ∧ placesOutside separator piece = []) →
        splitOutside separator (joinWith [separator] pieces) = pieces) ∧
      breakOutside [separator] text =
        (placesOutside separator text).head?.map (fun place => (text.take place, text.drop (place + 1))) ∧
      (breakOutside [separator] text).map (fun parts => byteLength parts.1) =
        (placesOutside separator text).head?.map (fun place => byteLength (text.take place)) ∧
      (breakOutside [separator] text = none ↔ (splitOutside separator text).length = 1)) ∧
    (Call.readArguments? text = none ↔ (∃ c ∈ text, isBlank c = false) ∧ openQuote text ≠ none) ∧
    ((∀ c ∈ text, isBlank c = true) → Call.readArguments? text = some []) ∧
    ((∃ c ∈ text, isBlank c = false) → openQuote text = none →
      Call.readArguments? text = some (splitOutside ',' text)) := by
  have blank_iff : trim text = [] ↔ ¬ ∃ c ∈ text, isBlank c = false := by
    rw [trim_eq_nil_iff]
    simp
  refine ⟨?_, ?_, ?_, ?_⟩
  · intro separator plain
    have found := breakOutside_eq plain text
    have count := length_splitOutside plain text
    refine ⟨⟨cutOutside separator text, rfl, joinWith_cutOutside separator text,
      joints_cutOutside plain text⟩, count, ?_, found, ?_, ?_⟩
    · intro pieces nonempty each
      exact splitOutside_joinWith plain nonempty (fun piece listed => (each piece listed).1)
        (fun piece listed => (each piece listed).2.1) fun piece listed => (each piece listed).2.2
    · rw [found, Option.map_map]
      rfl
    · rw [found, count]
      cases placesOutside separator text <;> simp
  · rw [Call.readArguments?_eq]
    by_cases blank : trim text = []
    · simp [blank, blank_iff.mp blank]
    · have something := not_not.mp (mt blank_iff.mpr blank)
      by_cases closed : openQuote text = none
      · simp [blank, closed]
      · simp [blank, closed, something]
  · intro blank
    rw [Call.readArguments?_eq, if_pos (trim_eq_nil_iff.mpr blank)]
  · intro something closed
    have visible : trim text ≠ [] := fun blank => blank_iff.mp blank something
    rw [Call.readArguments?_eq, if_neg visible, if_pos closed]

namespace Example

/-- A quoted comma, two commas outside quotes, and a character of two bytes. -/
def listed : List Char := "'a, (ü' , b ,\"c\"".toList

def pieces : List (List Char) := ["'a, (ü'".toList, "b".toList, "\"c\"".toList]

theorem scanners_agree_listed :
    isQuote ',' = false ∧ pieces ≠ [] ∧
      (∀ piece ∈ pieces, trim piece = piece ∧ openQuote piece = none ∧ placesOutside ',' piece = []) ∧
      (∃ c ∈ listed, isBlank c = false) ∧ openQuote listed = none ∧
      (∀ c ∈ [' ', '\n'], isBlank c = true) ∧ placesOutside ',' listed = [8, 12] ∧
      splitOutside ',' (joinWith [','] pieces) = pieces ∧
      (breakOutside [','] listed).map (fun parts => byteLength parts.1) = some 9 ∧
      Call.readArguments? listed = some (splitOutside ',' listed) ∧
      Call.readArguments? [' ', '\n'] = some [] := by
  have plain : isQuote ',' = false := by decide
  have nonempty : pieces ≠ [] := by decide
  have each : ∀ piece ∈ pieces,
      trim piece = piece ∧ openQuote piece = none ∧ placesOutside ',' piece = [] := by decide
  have something : ∃ c ∈ listed, isBlank c = false := ⟨'a', by decide, by decide⟩
  have closed : openQuote listed = none := by decide
  have blank : ∀ c ∈ [' ', '\n'], isBlank c = true := List.all_eq_true.mp rfl
  have places : placesOutside ',' listed = [8, 12] := by decide
  obtain ⟨cuts, -, -, reads⟩ := scanners_agree listed
  obtain ⟨-, -, finds, -, offset, -⟩ := cuts ',' plain
  obtain ⟨-, -, empty, -⟩ := scanners_agree [' ', '\n']
  rw [places] at offset
  exact ⟨plain, nonempty, each, something, closed, blank, places, finds pieces nonempty each, offset,
    reads something closed, empty blank⟩

end Example
end Herald.Text
