import ReqlLua.Proofs.Template.Cursor

/-! The loop over byte positions and the scanner make the same template of a source, so the loop comes to its
end, and what it cuts out are the pieces. -/

namespace ReqlLua.Template

open Text

/-- The phase in which the loop is when the scanner is in a mode, the opener beginning at this byte. -/
def Mode.phase (markerStart : Nat) : Mode → Phase
  | .outside => .outside
  | .inside _ => .inside markerStart (markerStart + byteLength opener)

namespace Cursor

variable {source : String} {cursor next : Cursor} {template : Template}
  {front before rest : List Char} {c : Char}

/-- The loop comes to its end and makes this template. -/
inductive Makes (source : String) : Cursor → Template → Prop
  | finish {cursor : Cursor} {template : Template} (ended : cursor.position = source.utf8ByteSize)
      (finished : cursor.finish source = some template) : Makes source cursor template
  | turn {cursor next : Cursor} {template : Template} (inside : cursor.position < source.utf8ByteSize)
      (stepped : cursor.step source = some next) (later : Makes source next template) :
      Makes source cursor template

theorem Makes.reached {count : Nat} (makes : Makes source cursor template)
    (reached : Reached source count cursor) :
    ∃ turns last, Reached source turns last ∧ last.position = source.utf8ByteSize ∧
      last.finish source = some template := by
  induction makes generalizing count with
  | finish ended finished => exact ⟨count, _, reached, ended, finished⟩
  | turn inside stepped _ ih => exact ih (reached.turn inside stepped)

theorem finish_of_split (split : source.toList = front ++ rest)
    (place : cursor.literalStart = byteLength front) :
    cursor.finish source = some ⟨cursor.pieces, String.ofList rest⟩ := by
  have cut := slice?_between (split.trans (by rw [List.append_nil] : _ = front ++ (rest ++ [])))
  rw [← split, ← utf8ByteSize_eq_byteLength] at cut
  rw [finish, place, cut]
  rfl

theorem le_of_split (split : source.toList = before ++ c :: rest) :
    byteLength before + c.utf8Size ≤ source.utf8ByteSize := by
  rw [utf8ByteSize_eq_byteLength, split, byteLength_append, byteLength_cons]
  omega

theorem lt_of_split (split : source.toList = before ++ c :: rest) :
    byteLength before < source.utf8ByteSize :=
  Nat.lt_of_lt_of_le (Nat.lt_add_of_pos_right c.utf8Size_pos) (le_of_split split)

/-! ### Characters that are read over -/

theorem lineFeed_ascii : ∀ c ∈ ['\n'], IsAscii c := by
  simp [IsAscii]

/-- Nothing at the front of a text ends a literal or an opener. -/
def Passes (cursor : Cursor) (text : List Char) : Prop :=
  match cursor.phase with
  | .outside => ¬opener <+: text
  | .inside _ keyStart => ¬['\n'] <+: text ∧ (keyStart < cursor.position → ¬closer <+: text)

/-- No byte of such a character stops the loop. -/
theorem step_passes {skipped : Nat} (split : source.toList = before ++ c :: rest)
    (here : cursor.position = byteLength before) (passes : cursor.Passes (c :: rest))
    (short : skipped < c.utf8Size) :
    step source { cursor with position := cursor.position + skipped } =
      some { cursor with position := cursor.position + (skipped + 1) } := by
  obtain ⟨position, literalStart, phase, pieces⟩ := cursor
  obtain rfl : position = byteLength before := here
  have front {pattern : List Char} (ascii : ∀ c ∈ pattern, IsAscii c) (nonempty : pattern ≠ [])
      (stands : StandsAt source pattern (byteLength before + skipped)) :
      skipped = 0 ∧ pattern <+: c :: rest :=
    front_of_standsAt ascii nonempty split short stands
  cases phase with
  | outside => exact if_neg fun stands => passes (front opener_ascii (by decide) stands).2
  | inside markerStart keyStart =>
    obtain ⟨noLineFeed, noCloser⟩ := passes
    have noLineFeed : ¬StandsAt source ['\n'] (byteLength before + skipped) := fun stands =>
      noLineFeed (front lineFeed_ascii (by decide) stands).2
    have noCloser : ¬(keyStart < byteLength before + skipped ∧
        StandsAt source closer (byteLength before + skipped)) := by
      rintro ⟨someText, stands⟩
      obtain ⟨rfl, closes⟩ := front closer_ascii (by decide) stands
      exact noCloser someText closes
    exact (if_neg noLineFeed).trans (if_neg noCloser)

theorem makes_of_passes (split : source.toList = before ++ c :: rest)
    (here : cursor.position = byteLength before) (passes : cursor.Passes (c :: rest))
    (later : Makes source { cursor with position := cursor.position + c.utf8Size } template) :
    Makes source cursor template := by
  have bound := le_of_split split
  have bytes (skipped : Nat) (short : skipped ≤ c.utf8Size) :
      Makes source { cursor with position := cursor.position + skipped } template →
        Makes source cursor template := by
    induction skipped with
    | zero => exact id
    | succ skipped ih =>
      intro later
      refine ih (by omega) (.turn ?_ (step_passes split here passes (by omega)) later)
      show cursor.position + skipped < _
      omega
  exact bytes _ (Nat.le_refl _) later

/-! ### The scanner's way -/

/-- Where the loop is when the scanner has the text in front of it behind it. -/
def along (front literal : List Char) (mode : Mode) (pieces : List Piece) : Cursor where
  position := byteLength (front ++ (literal.reverse ++ mode.held))
  literalStart := byteLength front
  phase := mode.phase (byteLength (front ++ literal.reverse))
  pieces := pieces

variable {literal raw : List Char} {pieces : List Piece}

theorem along_outside_cons (front literal : List Char) (pieces : List Piece) (c : Char) :
    { along front literal .outside pieces with
      position := (along front literal .outside pieces).position + c.utf8Size } =
      along front (c :: literal) .outside pieces := by
  simp [along, Mode.phase, Mode.held, Nat.add_assoc]

theorem along_inside_cons (front literal raw : List Char) (pieces : List Piece) (c : Char) :
    { along front literal (.inside raw) pieces with
      position := (along front literal (.inside raw) pieces).position + c.utf8Size } =
      along front literal (.inside (c :: raw)) pieces := by
  simp [along, Mode.phase, Mode.held, Nat.add_assoc]

/-- The loop stands behind the start of the key exactly if some of the key has been read. -/
theorem keyStart_lt_iff :
    byteLength (front ++ literal.reverse) + byteLength opener <
      byteLength (front ++ (literal.reverse ++ (Mode.inside raw).held)) ↔ raw ≠ [] := by
  cases raw with
  | nil => simp [Mode.held, Nat.add_assoc]
  | cons d raw =>
    have positive := d.utf8Size_pos
    simp only [Mode.held, byteLength_append, List.reverse_cons, byteLength_cons]
    refine iff_of_true ?_ (List.cons_ne_nil d raw)
    omega

theorem step_opener (split : source.toList = front ++ (literal.reverse ++ Mode.outside.held) ++ (opener ++ rest)) :
    step source (along front literal .outside pieces) = some (along front literal (.inside []) pieces) := by
  refine (if_pos (standsAt_of_split split)).trans ?_
  simp [along, Mode.phase, Mode.held, Nat.add_assoc]

/-- The opener and what was read behind it go to the literal. -/
theorem step_lineFeed
    (split : source.toList = front ++ (literal.reverse ++ (Mode.inside raw).held) ++ '\n' :: rest) :
    step source (along front literal (.inside raw) pieces) =
      some (along front (raw ++ (opener.reverse ++ literal)) .outside pieces) := by
  refine (if_pos (standsAt_of_split split)).trans ?_
  simp [along, Mode.phase, Mode.held, Nat.add_assoc]

/-- Literal and key are cut out, and the next literal begins behind the closer. -/
theorem step_closer (someText : raw ≠ [])
    (split : source.toList = front ++ (literal.reverse ++ (Mode.inside raw).held) ++ (closer ++ rest)) :
    step source (along front literal (.inside raw) pieces) =
      some (along (front ++ (literal.reverse ++ (Mode.inside raw).held) ++ closer) [] .outside
        (pieces ++ [⟨String.ofList literal.reverse, String.ofList raw.reverse,
          byteLength (front ++ literal.reverse)⟩])) := by
  have noLineFeed : ¬StandsAt source ['\n'] (along front literal (.inside raw) pieces).position := by
    intro stands
    obtain ⟨-, more, same⟩ := front_of_standsAt lineFeed_ascii (by decide) split (Char.utf8Size_pos _) stands
    cases same
  have closed : byteLength (front ++ literal.reverse) + byteLength opener <
        (along front literal (.inside raw) pieces).position ∧
      StandsAt source closer (along front literal (.inside raw) pieces).position :=
    ⟨keyStart_lt_iff.2 someText, standsAt_of_split split⟩
  have cutLiteral : slice? source (byteLength front) (byteLength (front ++ literal.reverse)) =
      some (String.ofList literal.reverse) := by
    apply slice?_between
    rw [split]
    simp only [List.append_assoc]
    rfl
  have cutRaw : slice? source (byteLength (front ++ literal.reverse) + byteLength opener)
      (byteLength (front ++ (literal.reverse ++ (Mode.inside raw).held))) =
        some (String.ofList raw.reverse) := by
    have between : source.toList = (front ++ literal.reverse ++ opener) ++ (raw.reverse ++ (closer ++ rest)) := by
      rw [split]
      simp only [Mode.held, List.append_assoc]
    have cut := slice?_between between
    simpa only [Mode.held, List.append_assoc, byteLength_append, Nat.add_assoc] using cut
  refine (if_neg noLineFeed).trans ((if_pos closed).trans ?_)
  simp only [along, Mode.phase]
  rw [cutLiteral, cutRaw]
  simp [Mode.held, Nat.add_assoc]

/-- At the end of the source all that was read behind the last marker is text. -/
theorem makes_end {mode : Mode} (pieces : List Piece)
    (split : source.toList = front ++ (literal.reverse ++ mode.held)) :
    Makes source (along front literal mode pieces)
      ⟨pieces, String.ofList (literal.reverse ++ mode.held)⟩ := by
  have ended : (along front literal mode pieces).position = source.utf8ByteSize := by
    rw [utf8ByteSize_eq_byteLength, split]
    rfl
  exact .finish ended (finish_of_split split rfl)

theorem makes_scan (front literal : List Char) (mode : Mode) (text : List Char) (pieces : List Piece)
    (split : source.toList = front ++ (literal.reverse ++ mode.held) ++ text) :
    Makes source (along front literal mode pieces)
      ⟨pieces ++ place (byteLength front) (scan literal mode text).marked,
        String.ofList (scan literal mode text).last⟩ := by
  fun_induction scan literal mode text generalizing front pieces with
  | case1 literal =>
    rw [List.append_nil] at split
    simpa [place, Mode.held] using makes_end pieces split
  | case2 literal rest ih =>
    exact .turn (lt_of_split split) (step_opener split)
      (ih front pieces (by simpa [Mode.held, opener] using split))
  | case3 literal c rest noOpener ih =>
    have passes : (along front literal .outside pieces).Passes (c :: rest) := by
      rintro ⟨more, same⟩
      obtain ⟨rfl, rfl⟩ := List.cons_eq_cons.1 same
      exact noOpener _ rfl rfl
    refine makes_of_passes split rfl passes ?_
    rw [along_outside_cons]
    exact ih front pieces (by simpa [Mode.held] using split)
  | case4 literal raw =>
    rw [List.append_nil] at split
    simpa [place, Mode.held] using makes_end pieces split
  | case5 literal raw rest ih =>
    refine .turn (lt_of_split split) (step_lineFeed split) ?_
    have split' : source.toList =
        front ++ ((raw ++ (opener.reverse ++ literal)).reverse ++ Mode.outside.held) ++ '\n' :: rest := by
      simpa [Mode.held] using split
    have passes : (along front (raw ++ (opener.reverse ++ literal)) .outside pieces).Passes ('\n' :: rest) := by
      rintro ⟨more, same⟩
      cases same
    refine makes_of_passes split' rfl passes ?_
    rw [along_outside_cons]
    exact ih front pieces (by simpa [Mode.held] using split)
  | case6 literal c raw rest ih =>
    refine .turn (lt_of_split split) (step_closer (List.cons_ne_nil c raw) split) ?_
    have later := ih (front ++ (literal.reverse ++ (Mode.inside (c :: raw)).held) ++ closer)
      (pieces ++ [⟨String.ofList literal.reverse, String.ofList (c :: raw).reverse,
        byteLength (front ++ literal.reverse)⟩]) (by simpa [Mode.held, closer] using split)
    have template : pieces ++ place (byteLength front)
          ((scan [] .outside rest).behind literal.reverse (c :: raw).reverse).marked =
        (pieces ++ [⟨String.ofList literal.reverse, String.ofList (c :: raw).reverse,
          byteLength (front ++ literal.reverse)⟩]) ++
        place (byteLength (front ++ (literal.reverse ++ (Mode.inside (c :: raw)).held) ++ closer))
          (scan [] .outside rest).marked := by
      simp [Cuts.behind, place, Mode.held, Nat.add_assoc]
    rw [template]
    exact later
  | case7 literal raw c rest notLineFeed notClosed ih =>
    have passes : (along front literal (.inside raw) pieces).Passes (c :: rest) := by
      refine ⟨?_, ?_⟩
      · rintro ⟨more, same⟩
        exact notLineFeed (List.cons_eq_cons.1 same).1.symm
      · rintro someText ⟨more, same⟩
        obtain ⟨rfl, rfl⟩ := List.cons_eq_cons.1 same
        cases raw with
        | nil => exact absurd rfl (keyStart_lt_iff.1 someText)
        | cons d raw => exact notClosed d raw _ rfl rfl rfl
    refine makes_of_passes split rfl passes ?_
    rw [along_inside_cons]
    exact ih front pieces (by simpa [Mode.held] using split)

/-- The loop comes to the end of every source and makes the template of it. At each cursor on the way no more
turns were taken than two for each byte, the position is one of the source, the turn is not stuck, and whatever
may be cut out there can be cut out: the literal before an open marker, the text of the marker where a closer
stands, and the text up to the end. -/
theorem loop_ends (source : String) :
    (∃ count last, Reached source count last ∧ last.position = source.utf8ByteSize ∧
      last.finish source = some (ofSource source)) ∧
    ∀ count cursor, Reached source count cursor →
      count ≤ 2 * source.utf8ByteSize ∧
      cursor.position ≤ source.utf8ByteSize ∧
      (cursor.position < source.utf8ByteSize → ∃ next, cursor.step source = some next) ∧
      Sliceable source cursor.literalStart source.utf8ByteSize ∧
      ∀ markerStart keyStart, cursor.phase = .inside markerStart keyStart →
        Sliceable source cursor.literalStart markerStart ∧
          (StandsAt source closer cursor.position → Sliceable source keyStart cursor.position) := by
  constructor
  · have makes : Makes source start (ofSource source) := makes_scan [] [] .outside source.toList [] rfl
    exact makes.reached .start
  · intro count cursor reached
    obtain ⟨placed, bound⟩ := reached.placed
    refine ⟨by omega, placed.within, ?_, placed.tail, ?_⟩
    · intro inside
      obtain ⟨next, stepped, -⟩ := step_turned placed inside
      exact ⟨next, stepped⟩
    · intro markerStart keyStart phase
      have opened := placed.opened phase
      exact ⟨opened.literal, opened.raw⟩

end Cursor

end ReqlLua.Template
