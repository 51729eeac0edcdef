/-
# What settings can be relied on

Settings are loaded exactly if each of them can be read from the value that the sources give for
it, or else from its default, and if a document can be laid out by them: the rule is one
character wide at least, no text vanishes, and the footer is smaller than the body. Where the
two sizes come from makes no difference, and no size is undefined, as nothing lies below an
undefined number.
-/

import Stencil.Proofs.Number.Order
import Stencil.Proofs.Schema.Acceptance
import Stencil.Settings.Load

namespace Stencil.Settings

open Schema

variable {given : String → Option Value} {settings : Settings} {v : Value}

/-- A document can be laid out by the settings. -/
structure IsUsable (settings : Settings) : Prop where
  one_le_width : 1 ≤ settings.separatorWidth
  header_pos : (Number.int 0).IsBelow (.float settings.headerSize)
  heading_pos : (Number.int 0).IsBelow (.float settings.headingSize)
  body_pos : (Number.int 0).IsBelow (.float settings.bodySize)
  footer_pos : (Number.int 0).IsBelow (.float settings.footerSize)
  footer_below_body : (Number.float settings.footerSize).IsBelow (.float settings.bodySize)

/-- A setting is what its given value is read as, or else its default. -/
def IsGiven {α : Type} (given : String → Option Value) (name : String) (absent : Value)
    (read : Value → Checked α) (a : α) : Prop :=
  read ((given name).getD absent) = .accepted a

/-- All settings are what their given values are read as, or else their defaults. -/
structure AreGiven (given : String → Option Value) (settings : Settings) : Prop where
  separatorWidth : IsGiven given "separator_width" (.int 80) readInteger settings.separatorWidth
  signatureBlank : IsGiven given "signature_blank"
    (.text (String.ofList (List.replicate 24 '_'))) readText settings.signatureBlank
  readsLegacyRows : IsGiven given "table_data_fallback" (.bool true) readBoolean
    settings.readsLegacyRows
  fillsDefaults : IsGiven given "apply_defaults" (.bool true) readBoolean settings.fillsDefaults
  headerSize : IsGiven given "header_font_size" (.int 18) readNumber settings.headerSize
  headingSize : IsGiven given "heading_font_size" (.int 13) readNumber settings.headingSize
  bodySize : IsGiven given "body_font_size" (.int 11) readNumber settings.bodySize
  footerSize : IsGiven given "footer_font_size" (.int 9) readNumber settings.footerSize
  logLevel : ∃ word, IsGiven given "log_level" (.text "INFO") readText word ∧
    Text.upper word = settings.logLevel
  logDirectory : IsGiven given "log_dir" .null (readNullable readDirectory) settings.logDirectory

theorem setting_eq_accepted {α : Type} {name : String} {absent : Value}
    {read : Value → Checked α} {a : α} :
    setting given name absent read = .accepted a ↔ IsGiven given name absent read a :=
  Checked.within_eq_accepted

theorem readWidth_eq_accepted {width : Int} :
    readWidth v = .accepted width ↔ readInteger v = .accepted width ∧ 1 ≤ width := by
  rw [readWidth, Checked.andThen_eq_accepted]
  constructor
  · rintro ⟨found, read, checked⟩
    split at checked
    · rename_i wide
      cases checked
      exact ⟨read, wide⟩
    · cases checked
  · rintro ⟨read, wide⟩
    exact ⟨width, read, if_pos wide⟩

theorem readSize_eq_accepted {size : Binary64} :
    readSize v = .accepted size ↔
      readNumber v = .accepted size ∧ (Number.int 0).IsBelow (.float size) := by
  rw [readSize, Checked.andThen_eq_accepted]
  constructor
  · rintro ⟨found, read, checked⟩
    split at checked
    · rename_i above
      cases checked
      exact ⟨read, Number.lt_iff.mp above⟩
    · cases checked
  · rintro ⟨read, above⟩
    exact ⟨size, read, if_pos (Number.lt_iff.mpr above)⟩

/-- A size that is not refused next to that of the body lies below it, since neither of the two
is undefined. -/
theorem readFooterSize_eq_accepted {bodySize size : Binary64}
    (body_pos : (Number.int 0).IsBelow (.float bodySize)) :
    readFooterSize (.accepted bodySize) v = .accepted size ↔
      readNumber v = .accepted size ∧ (Number.int 0).IsBelow (.float size) ∧
        (Number.float size).IsBelow (.float bodySize) := by
  have refused_iff (size_pos : (Number.int 0).IsBelow (.float size)) :
      (Number.float bodySize).le (.float size) = true ↔
        ¬ (Number.float size).IsBelow (.float bodySize) := by
    rw [Number.le_iff, Number.isAtMost_iff, and_iff_left ⟨body_pos.ne_nan.2, size_pos.ne_nan.2⟩]
  rw [readFooterSize, Checked.andThen_eq_accepted]
  constructor
  · rintro ⟨found, read, checked⟩
    obtain ⟨read, above⟩ := readSize_eq_accepted.mp read
    simp only at checked
    split at checked
    · cases checked
    · rename_i kept
      cases checked
      exact ⟨read, above, not_not.mp fun beyond => kept ((refused_iff above).mpr beyond)⟩
  · rintro ⟨read, above, below⟩
    refine ⟨size, readSize_eq_accepted.mpr ⟨read, above⟩, ?_⟩
    simp only
    exact if_neg fun beyond => (refused_iff above).mp beyond below

/-- Settings are read exactly if they are what is given for them and usable. -/
theorem read_eq_accepted_iff : read given = .accepted settings ↔
    AreGiven given settings ∧ settings.IsUsable := by
  obtain ⟨_, _, _, _, _, _, bodySize, _, _, _⟩ := settings
  simp only [read, Checked.seq_eq_accepted, Checked.map_eq_accepted, setting_eq_accepted,
    existsAndEq, true_and, and_assoc, mk.injEq, exists_and_left]
  constructor
  · rintro ⟨width, blank, legacyRows, defaults, header, heading, body, footer, word, level,
      directory, upper, -⟩
    obtain ⟨width, one_le_width⟩ := readWidth_eq_accepted.mp width
    obtain ⟨header, header_pos⟩ := readSize_eq_accepted.mp header
    obtain ⟨heading, heading_pos⟩ := readSize_eq_accepted.mp heading
    -- the reader of the footer looks at what the reader of the body came to
    rw [setting_eq_accepted.mpr body] at footer
    obtain ⟨body, body_pos⟩ := readSize_eq_accepted.mp body
    obtain ⟨footer, footer_pos, below⟩ := (readFooterSize_eq_accepted body_pos).mp footer
    exact ⟨⟨width, blank, legacyRows, defaults, header, heading, body, footer, ⟨word, level, upper⟩,
      directory⟩, one_le_width, header_pos, heading_pos, body_pos, footer_pos, below⟩
  · rintro ⟨⟨width, blank, legacyRows, defaults, header, heading, body, footer, ⟨word, level, upper⟩,
      directory⟩, one_le_width, header_pos, heading_pos, body_pos, footer_pos, below⟩
    have bodyRead : IsGiven given "body_font_size" (.int 11) readSize bodySize :=
      readSize_eq_accepted.mpr ⟨body, body_pos⟩
    have footerRead := (readFooterSize_eq_accepted body_pos).mpr ⟨footer, footer_pos, below⟩
    rw [setting_eq_accepted.mpr bodyRead]
    exact ⟨readWidth_eq_accepted.mpr ⟨width, one_le_width⟩, blank, legacyRows, defaults,
      readSize_eq_accepted.mpr ⟨header, header_pos⟩, readSize_eq_accepted.mpr ⟨heading, heading_pos⟩,
      bodyRead, footerRead, word, level, directory, upper, trivial⟩

/-- Settings are loaded from arguments, an environment and an environment file exactly if
environment files are not asked for by a number, each setting is what the sources give for it or
else its default, and a document can be laid out by the settings. -/
theorem load_eq_ok_iff {sources : Sources} :
    (load sources).result = .ok settings ↔
      Options.checkFiles sources.arguments = .ok () ∧ AreGiven sources.given settings ∧
        settings.IsUsable := by
  rw [← read_eq_accepted_iff, load, Traced.result_bind_eq_ok]
  constructor
  · rintro ⟨⟨⟩, files, loaded⟩
    refine ⟨files, ?_⟩
    cases accepted : read sources.given with
    | accepted found =>
        rw [accepted] at loaded
        exact congrArg _ (Except.ok.inj loaded)
    | refused issues =>
        rw [accepted] at loaded
        cases loaded
  · rintro ⟨files, accepted⟩
    exact ⟨(), files, by rw [accepted]; rfl⟩

/-- A body without bound leaves room for a large footer, but an undefined size is refused. -/
example :
    (load { environment := [("BODY_FONT_SIZE", "inf"), ("footer_font_size", "1e3")] }
      ).result.toOption.isSome = true ∧
    (load { file := some "BODY_FONT_SIZE=nan".toList }).result.toOption = none := by
  decide +kernel

end Stencil.Settings
