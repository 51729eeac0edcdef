/-
# What stands outside quotation marks

Outside its quoted texts a strict document has words, numbers, marks and gaps only, so neither
of the letters occurs there with which the names of the numbers that are not finite begin. A
printed value has one of them there for every such number in it. So a value is printed as a
strict document exactly when all numbers in it are finite, whatever its texts say.
-/

import Stencil.Proofs.Json.Strict

namespace Stencil.Json

/-- Where a search stands: outside quotation marks, inside them, or behind a backslash there. -/
inductive Standing
  | outside
  | inside
  | escaped

/-- Whether a name of a number that is not finite begins with the character, but for its
sign. -/
def beginsName (c : Char) : Bool := c == 'N' || c == 'I'

/-- Whether such a letter occurs outside quotation marks, from where the search stands. -/
def hasLetter : Standing → List Char → Bool
  | _, [] => false
  | .outside, c :: rest =>
    if c = '"' then hasLetter .inside rest else beginsName c || hasLetter .outside rest
  | .inside, c :: rest =>
    if c = '"' then hasLetter .outside rest
    else if c = '\\' then hasLetter .escaped rest
    else hasLetter .inside rest
  | .escaped, _ :: rest => hasLetter .inside rest

/-- Whatever follows the text, `found` is what it adds to a search outside quotation marks. -/
def Adds (cs : List Char) (found : Bool) : Prop :=
  ∀ rest, hasLetter .outside (cs ++ rest) = (found || hasLetter .outside rest)

namespace Adds

variable {cs ds : List Char} {found other : Bool}

theorem hasLetter_eq (h : Adds cs found) : hasLetter .outside cs = found := by
  have whole := h []
  rwa [List.append_nil, hasLetter, Bool.or_false] at whole

theorem append (h : Adds cs found) (g : Adds ds other) : Adds (cs ++ ds) (found || other) := by
  intro rest
  rw [List.append_assoc, h, g, Bool.or_assoc]

/-- Without quotation marks the text is searched as it stands. -/
theorem of_noQuote (noQuote : '"' ∉ cs) : Adds cs (cs.any beginsName) := by
  intro rest
  induction cs with
  | nil => rfl
  | cons c cs ih =>
      rw [List.mem_cons, not_or] at noQuote
      rw [List.cons_append, hasLetter, if_neg (Ne.symm noQuote.1), ih noQuote.2, List.any_cons,
        Bool.or_assoc]

theorem flatMap {α : Type} {text : α → List Char} {found : α → Bool} {xs : List α}
    (each : ∀ x ∈ xs, Adds (text x) (found x)) : Adds (xs.flatMap text) (xs.any found) := by
  induction xs with
  | nil => exact fun rest => rfl
  | cons x xs ih =>
      rw [List.forall_mem_cons] at each
      rw [List.flatMap_cons, List.any_cons]
      exact each.1.append (ih each.2)

/-- Texts that add nothing make a text that adds nothing. -/
theorem flatMap_nothing {α : Type} {text : α → List Char} {xs : List α}
    (each : ∀ x ∈ xs, Adds (text x) false) : Adds (xs.flatMap text) false := by
  have whole : Adds (xs.flatMap text) (xs.any fun _ => false) := flatMap each
  rwa [List.any_eq_false.mpr fun _ _ => Bool.false_ne_true] at whole

end Adds

section Tokens

variable {cs run : List Char} {mark : Char}

/-- A text of characters of a class without quotation marks and without the letters adds
nothing. -/
theorem adds_nothing_of_class {p : Char → Bool} (quote : p '"' = false) (n : p 'N' = false)
    (i : p 'I' = false) (all : ∀ c ∈ cs, p c = true) : Adds cs false := by
  have apart : ∀ d, p d = false → d ∉ cs := by
    intro d outside mem
    rw [all d mem] at outside
    cases outside
  have nothing : cs.any beginsName = false := by
    rw [List.any_eq_false]
    intro c mem letter
    simp only [beginsName, Bool.or_eq_true, beq_iff_eq] at letter
    rcases letter with rfl | rfl
    · exact apart _ n mem
    · exact apart _ i mem
  rw [← nothing]
  exact .of_noQuote (apart _ quote)

theorem IsGapText.adds (gaps : IsGapText cs) : Adds cs false :=
  adds_nothing_of_class rfl rfl rfl gaps

/-- The characters of numbers. -/
def isInNumber (c : Char) : Bool := c.isDigit || ['.', 'e', 'E', '+', '-'].contains c

theorem isInNumber_of_isDigit {c : Char} (digit : c.isDigit = true) : isInNumber c = true := by
  simp [isInNumber, digit]

theorem IsNumber.isInNumber (h : IsNumber cs) : ∀ c ∈ cs, isInNumber c = true := by
  obtain ⟨negative, whole, fraction, exponent, isWhole, isFraction, isExponent, rfl⟩ := h
  have sign : ∀ c ∈ signText negative, Json.isInNumber c = true := by
    cases negative <;> exact List.all_eq_true.mp rfl
  have inWhole : ∀ c ∈ whole, Json.isInNumber c = true :=
    fun c mem => isInNumber_of_isDigit (isWhole.digits c mem)
  have inFraction : ∀ c ∈ fraction, Json.isInNumber c = true := by
    cases isFraction with
    | none => exact List.forall_mem_nil _
    | point digits =>
        exact List.forall_mem_cons.mpr ⟨rfl, fun c mem => isInNumber_of_isDigit (digits.2 c mem)⟩
  have inExponent : ∀ c ∈ exponent, Json.isInNumber c = true := by
    cases isExponent with
    | none => exact List.forall_mem_nil _
    | letter letter sign digits =>
        have marks : ∀ mark ∈ ['e', 'E'], Json.isInNumber mark = true := List.all_eq_true.mp rfl
        have signs : ∀ sign ∈ [[], ['+'], ['-']], sign.all Json.isInNumber = true := by decide
        exact List.forall_mem_cons.mpr ⟨marks _ letter, List.forall_mem_append.mpr
          ⟨List.all_eq_true.mp (signs _ sign), fun c mem => isInNumber_of_isDigit (digits.2 c mem)⟩⟩
  simp only [List.forall_mem_append]
  exact ⟨sign, inWhole, inFraction, inExponent⟩

theorem IsNumber.adds (h : IsNumber cs) : Adds cs false :=
  adds_nothing_of_class rfl rfl rfl h.isInNumber

/-- A search inside quotation marks passes over what stands for one character. -/
theorem IsSpelling.hasLetter_append (h : IsSpelling cs) (rest : List Char) :
    hasLetter .inside (cs ++ rest) = hasLetter .inside rest := by
  cases h with
  | plain _ quote backslash =>
      rw [List.singleton_append, hasLetter, if_neg quote, if_neg backslash]
  | short _ => rfl
  | @code digits length hex =>
      match digits, length with
      | [a, b, c, d], _ =>
          have plain : ∀ x ∈ [a, b, c, d], x ≠ '"' ∧ x ≠ '\\' := by
            intro x mem
            have digit := hex x mem
            constructor <;> (rintro rfl; exact absurd digit (by decide))
          simp only [List.forall_mem_cons] at plain
          obtain ⟨⟨a₁, a₂⟩, ⟨b₁, b₂⟩, ⟨c₁, c₂⟩, ⟨d₁, d₂⟩, -⟩ := plain
          simp only [List.cons_append, List.nil_append, hasLetter, a₁, a₂, b₁, b₂, c₁, c₂, d₁, d₂,
            if_false]
          rfl

/-- A quoted text adds nothing, whatever it says. -/
theorem IsQuoted.adds (h : IsQuoted cs) : Adds cs false := by
  obtain ⟨spellings, each, rfl⟩ := h
  intro rest
  have inside (after : List Char) :
      hasLetter .inside (spellings.flatten ++ after) = hasLetter .inside after := by
    induction spellings with
    | nil => rfl
    | cons spelling spellings ih =>
        rw [List.forall_mem_cons] at each
        rw [List.flatten_cons, List.append_assoc, each.1.hasLetter_append, ih each.2]
  rw [List.cons_append, List.append_assoc, hasLetter, if_pos rfl, inside]
  rfl

theorem IsMark.adds (h : IsMark mark cs) (quote : mark ≠ '"') : Adds cs (beginsName mark) := by
  obtain ⟨before, after, gapsBefore, gapsAfter, rfl⟩ := h
  have self : Adds [mark] (beginsName mark) := by
    intro rest
    rw [List.singleton_append, hasLetter, if_neg quote]
  have whole := gapsBefore.adds.append (self.append gapsAfter.adds)
  rwa [Bool.or_false, Bool.false_or] at whole

theorem IsName.adds (h : IsName cs) : Adds cs false := by
  obtain ⟨quoted, colon, isQuoted, isColon, rfl⟩ := h
  exact isQuoted.adds.append (isColon.adds (by decide))

end Tokens

/-- A strict document has none of the letters outside quotation marks. -/
theorem IsStrict.adds {cs : List Char} (h : IsStrict cs) : Adds cs false := by
  induction h with
  | null => exact .of_noQuote (by decide)
  | yes => exact .of_noQuote (by decide)
  | no => exact .of_noQuote (by decide)
  | number number => exact number.adds
  | text quoted => exact quoted.adds
  | emptyList opening closing => exact (opening.adds (by decide)).append (closing.adds (by decide))
  | list opening _ commas _ closing first rest =>
      have others := Adds.flatMap_nothing fun p mem =>
        ((commas p mem).adds (by decide)).append (rest p mem)
      exact (opening.adds (by decide)).append
        (first.append (others.append (closing.adds (by decide))))
  | emptyObject opening closing =>
      exact (opening.adds (by decide)).append (closing.adds (by decide))
  | @object _ _ _ _ members opening name _ commas _ closing first rest =>
      have front : ∀ p ∈ members, Adds p.1 false := by
        intro p mem
        obtain ⟨comma, name, isComma, isName, eq⟩ := commas p mem
        rw [eq]
        exact (isComma.adds (by decide)).append isName.adds
      have others := Adds.flatMap_nothing fun p mem => (front p mem).append (rest p mem)
      exact (opening.adds (by decide)).append
        (name.adds.append (first.append (others.append (closing.adds (by decide)))))

theorem IsStrictText.hasLetter_eq {cs : List Char} (h : IsStrictText cs) :
    hasLetter .outside cs = false := by
  obtain ⟨before, document, after, gapsBefore, strict, gapsAfter, rfl⟩ := h
  exact (gapsBefore.adds.append (strict.adds.append gapsAfter.adds)).hasLetter_eq

section Printed

variable {style : Style}

/-- The style writes finite numbers as numbers, and the others by names. -/
structure Style.NamesOthers (style : Style) : Prop where
  writes : style.WritesNumbers
  names : ∀ x : Binary64, x.isFinite = false → Adds (style.number x) true

/-- Whether some number in the value is not finite. -/
def holdsName (v : Value) : Bool := v.numbers.any fun x => !x.isFinite

theorem holdsName_eq_false_iff {v : Value} : holdsName v = false ↔ v.IsFinite := by
  simp [holdsName, Value.IsFinite]

theorem holdsName_list (items : List Value) :
    holdsName (.list items) = items.any holdsName := by
  simp only [holdsName, Value.numbers_list, List.any_flatMap]
  rfl

theorem holdsName_object (entries : List (String × Value)) :
    holdsName (.object entries) = entries.any fun entry => holdsName entry.2 := by
  simp only [holdsName, Value.numbers_object, List.any_flatMap]

theorem adds_printAt_list {items : List Value} {depth : Nat}
    (each : ∀ v ∈ items, Adds (printAt style (depth + 1) v) (holdsName v)) :
    Adds (printAt style depth (.list items)) (holdsName (.list items)) := by
  rw [holdsName_list]
  cases items with
  | nil => exact (IsStrict.emptyList (isMark_singleton '[') (isMark_singleton ']')).adds
  | cons first rest =>
      obtain ⟨head, tail⟩ := List.forall_mem_cons.mp each
      have opening := (isMark_cons_lineBreak '[' style (depth + 1)).adds (by decide)
      have closing := (isMark_lineBreak_append ']' style depth).adds (by decide)
      have comma := (isMark_cons_lineBreak ',' style (depth + 1)).adds (by decide)
      have others := Adds.flatMap fun v mem => comma.append (tail v mem)
      have whole := opening.append (head.append (others.append closing))
      simpa [printAt, printItems_eq_flatMap, List.flatMap_map, beginsName] using whole

theorem adds_printAt_object {entries : List (String × Value)} {depth : Nat}
    (each : ∀ entry ∈ entries, Adds (printAt style (depth + 1) entry.2) (holdsName entry.2)) :
    Adds (printAt style depth (.object entries)) (holdsName (.object entries)) := by
  rw [holdsName_object]
  cases entries with
  | nil => exact (IsStrict.emptyObject (isMark_singleton '\x7b') (isMark_singleton '\x7d')).adds
  | cons first rest =>
      obtain ⟨head, tail⟩ := List.forall_mem_cons.mp each
      have opening := (isMark_cons_lineBreak '\x7b' style (depth + 1)).adds (by decide)
      have closing := (isMark_lineBreak_append '\x7d' style depth).adds (by decide)
      have comma := (isMark_cons_lineBreak ',' style (depth + 1)).adds (by decide)
      have name (entry : String × Value) := (isName_quotedText_append style entry.1).adds
      have others := Adds.flatMap fun entry mem =>
        comma.append ((name entry).append (tail entry mem))
      have whole := opening.append ((name first).append (head.append (others.append closing)))
      simpa [printAt, printEntries_eq_flatMap, List.flatMap_map, beginsName] using whole

/-- A printed value has one of the letters outside quotation marks if and only if some number
in it is not finite. -/
theorem adds_printAt (h : style.NamesOthers) (v : Value) (depth : Nat) :
    Adds (printAt style depth v) (holdsName v) := by
  induction v using Value.induction generalizing depth with
  | null => exact IsStrict.null.adds
  | bool b =>
      cases b with
      | true => exact IsStrict.yes.adds
      | false => exact IsStrict.no.adds
  | int i => exact (isNumber_integerText i).adds
  | float x =>
      rw [printAt, holdsName, Value.numbers, List.any_cons, List.any_nil, Bool.or_false]
      cases finite : x.isFinite with
      | true => exact (h.writes x finite).adds
      | false => exact h.names x finite
  | text s => exact (isQuoted_quotedText s).adds
  | list items ih => exact adds_printAt_list fun v mem => ih v mem (depth + 1)
  | object entries ih => exact adds_printAt_object fun entry mem => ih entry mem (depth + 1)

/-- Printed documents name the numbers that are not finite. -/
theorem documentStyle_namesOthers : documentStyle.NamesOthers where
  writes := fun _ => isNumber_shortestText rfl
  names := by
    intro x notFinite
    cases x with
    | nan => exact .of_noQuote (by decide)
    | infinite negative => cases negative <;> exact .of_noQuote (by decide)
    | finite negative rank => cases notFinite

/-- A value with a line end behind it is printed as a strict document if and only if all
numbers in it are finite. -/
theorem isStrictText_print_iff (h : style.NamesOthers) {v : Value} {ending : List Char}
    (gaps : IsGapText ending) :
    IsStrictText ((print style v).toList ++ ending) ↔ v.IsFinite := by
  rw [print, String.toList_ofList]
  constructor
  · intro strict
    have found := ((adds_printAt h v 0).append gaps.adds).hasLetter_eq
    rw [strict.hasLetter_eq, Bool.or_false] at found
    exact holdsName_eq_false_iff.mp found.symm
  · intro finite
    exact ⟨[], _, ending, isGapText_nil, isStrict_printAt h.writes finite 0, gaps, rfl⟩

end Printed

end Stencil.Json
