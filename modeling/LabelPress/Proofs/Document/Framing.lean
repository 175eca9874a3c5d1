import LabelPress.Proofs.Generation
import LabelPress.Proofs.Numerals
import LabelPress.Proofs.Options.Allowed
import LabelPress.Proofs.Text.Cut
import LabelPress.Proofs.Text.Sanitized

/-!
# Blocks read back

A block of an allowed layout is cut into its commands at its blank lines, and a command that takes texts is
cut into its arguments at the commas outside quotes (`rendered_readsBack`). So neither a label nor an option
adds, drops, splits or shifts a command or an argument: whatever could is kept out by the checks of the
settings (`Command.IsFramed`) or by sanitising.
-/

namespace LabelPress

/-! ## Single lines -/

/-- A text without line breaks. -/
def IsOneLine (s : String) : Prop :=
  ∀ c ∈ s.toList, isLineBreak c = false

instance (s : String) : Decidable (IsOneLine s) :=
  List.decidableBAll _ s.toList

namespace IsOneLine

theorem append {s t : String} (hs : IsOneLine s) (ht : IsOneLine t) : IsOneLine (s ++ t) := by
  intro c hc
  rw [String.toList_append] at hc
  exact (List.mem_append.1 hc).elim (hs c) (ht c)

theorem intercalate {sep : String} (hsep : IsOneLine sep) {ls : List String}
    (h : ∀ l ∈ ls, IsOneLine l) : IsOneLine (String.intercalate sep ls) := by
  induction ls with
  | nil => exact fun c hc => by simp at hc
  | cons l ls ih =>
    have hl := h l List.mem_cons_self
    have hls := ih fun m hm => h m (List.mem_cons_of_mem l hm)
    cases ls with
    | nil => rwa [String.intercalate_singleton]
    | cons m ls =>
      rw [String.intercalate_cons_cons]
      exact (hl.append hsep).append hls

theorem lineFeed_not_mem {s : String} (h : IsOneLine s) : '\n' ∉ s.toList :=
  fun hm => absurd (h '\n' hm) (by decide)

end IsOneLine

theorem IsNumeric.isOneLine {s : String} (h : IsNumeric s) : IsOneLine s := by
  intro c hc
  refine Bool.eq_false_iff.2 fun hbreak => ?_
  have hnumeric := h c hc
  simp only [isLineBreak, Bool.or_eq_true, decide_eq_true_eq] at hbreak
  rcases hbreak with rfl | rfl <;> exact absurd hnumeric (by decide)

theorem isOneLine_literal (s : String) : IsOneLine (literal s) :=
  .append (.append (by decide) fun _ hc => isLineBreak_of_mem_sanitize hc) (by decide)

theorem not_mem_of_forall {s : String} {p : Char → Bool} (h : ∀ c ∈ s.toList, p c = false) {c : Char}
    (hc : p c = true) : c ∉ s.toList :=
  fun hm => Bool.false_ne_true ((h c hm).symm.trans hc)

theorem isOneLine_of_not_mem {s : String} (hcr : '\r' ∉ s.toList) (hlf : '\n' ∉ s.toList) :
    IsOneLine s := by
  intro c hc
  refine Bool.eq_false_iff.2 fun hbreak => ?_
  simp only [isLineBreak, Bool.or_eq_true, decide_eq_true_eq] at hbreak
  rcases hbreak with rfl | rfl
  · exact hcr hc
  · exact hlf hc

theorem IsBareToken.isOneLine {s : String} (h : IsBareToken s) : IsOneLine s :=
  isOneLine_of_not_mem (not_mem_of_forall h.2 (by decide)) (not_mem_of_forall h.2 (by decide))

theorem IsFontName.isOneLine {s : String} (h : IsFontName s) : IsOneLine s :=
  isOneLine_of_not_mem (not_mem_of_forall h.2 (by decide)) (not_mem_of_forall h.2 (by decide))

theorem Codepage.IsBare.isOneLine {c : Codepage} (h : c.IsBare) : IsOneLine c.text := by
  cases c with
  | number n => exact (isNumeric_signedNumeral n).isOneLine
  | name s => exact IsBareToken.isOneLine h

/-! ## Closed arguments -/

theorem IsNumeric.isClosed {s : String} (h : IsNumeric s) : IsClosed s.toList :=
  isClosed_bare (h.not_mem (by decide)) (h.not_mem (by decide))

theorem IsBareToken.isClosed {s : String} (h : IsBareToken s) : IsClosed s.toList :=
  isClosed_bare (not_mem_of_forall h.2 (by decide)) (not_mem_of_forall h.2 (by decide))

theorem isClosed_literal (s : String) : IsClosed (literal s).toList := by
  rw [toList_literal]
  exact isClosed_quoted (quote_not_mem_sanitize s)

theorem IsFontName.isClosed {s : String} (h : IsFontName s) : IsClosed ("\"" ++ s ++ "\"").toList := by
  have hquotes : ("\"" ++ s ++ "\"").toList = '"' :: s.toList ++ ['"'] := by
    rw [String.toList_append, String.toList_append]
    rfl
  rw [hquotes]
  exact isClosed_quoted (not_mem_of_forall h.2 (by decide))

/-! ## Framed commands -/

namespace Command

/-- A command whose texts stay within the arguments they stand in. Sanitised texts need no condition. -/
def IsFramed : Command → Prop
  | .media pitch _ _ | .tear pitch _ => IsNumeric pitch
  | .qrCode _ style _ =>
    IsBareToken style.model ∧ IsBareToken style.mask ∧ IsBareToken style.errorLevel
  | .codepage c => c.IsBare
  | .text _ style _ => IsFontName style.font
  | _ => True

theorem isOneLine_switchText (on : Bool) : IsOneLine (switchText on) := by
  cases on <;> decide

theorem isOneLine_openTag (quantity : Nat) {pitch : String} (h : IsNumeric pitch) :
    IsOneLine (openTag quantity pitch) := by
  refine .append (.append (.append (.append (by decide) ?_) (by decide)) h.isOneLine) (by decide)
  exact (isNumeric_numeral quantity).isOneLine

theorem qrArguments_isClosed {style : QrStyle} (place : Position) (data : String)
    (h : IsFramed (.qrCode place style data)) : ∀ a ∈ qrArguments place style data, IsClosed a.toList := by
  obtain ⟨hmodel, hmask, hlevel⟩ := h
  have hint : ∀ n, IsClosed (signedNumeral n).toList := fun n => (isNumeric_signedNumeral n).isClosed
  have hauto : IsClosed "A".toList := IsNumeric.isClosed (by decide)
  simp only [qrArguments, List.forall_mem_cons]
  exact ⟨hint _, hint _, hmodel.isClosed, hint _, hauto, hint _, hmask.isClosed, hlevel.isClosed,
    isClosed_literal data, fun _ h => absurd h List.not_mem_nil⟩

theorem textArguments_isClosed {style : TextStyle} (place : Position) (content : String)
    (h : IsFramed (.text place style content)) :
    ∀ a ∈ textArguments place style content, IsClosed a.toList := by
  have hfont : IsFontName style.font := h
  have hint : ∀ n, IsClosed (signedNumeral n).toList := fun n => (isNumeric_signedNumeral n).isClosed
  have hnumber : ∀ n : Number, IsClosed n.text.toList := fun n => (isNumeric_number n).isClosed
  simp only [textArguments, List.forall_mem_cons]
  exact ⟨hint _, hint _, hfont.isClosed, hint _, hnumber _, hnumber _, isClosed_literal content,
    fun _ h => absurd h List.not_mem_nil⟩

theorem argumentsOf_qrCode {place : Position} {style : QrStyle} {data : String}
    (h : IsFramed (.qrCode place style data)) :
    argumentsOf (line (.qrCode place style data)) = qrArguments place style data := by
  have hread : argumentsOf ("QRCODE" ++ " " ++ String.intercalate "," (qrArguments place style data)) =
      qrArguments place style data :=
    argumentsOf_intercalate (by decide) (List.cons_ne_nil _ _) (qrArguments_isClosed place data h)
  exact hread

theorem argumentsOf_text {place : Position} {style : TextStyle} {content : String}
    (h : IsFramed (.text place style content)) :
    argumentsOf (line (.text place style content)) = textArguments place style content := by
  have hread : argumentsOf ("TEXT" ++ " " ++ String.intercalate "," (textArguments place style content)) =
      textArguments place style content :=
    argumentsOf_intercalate (by decide) (List.cons_ne_nil _ _) (textArguments_isClosed place content h)
  exact hread

/-- **A framed command is a single line.** -/
theorem isOneLine_line {c : Command} (h : c.IsFramed) : IsOneLine c.line := by
  have hnumber : ∀ n : Number, IsOneLine n.text := fun n => (isNumeric_number n).isOneLine
  have hint : ∀ n, IsOneLine (signedNumeral n) := fun n => (isNumeric_signedNumeral n).isOneLine
  cases c with
  | media pitch width height =>
    have hsize : IsOneLine (openTag 0 pitch ++ "SIZE " ++ width.text) :=
      .append (.append (isOneLine_openTag 0 h) (by decide)) (hnumber width)
    exact .append (.append (.append hsize (by decide)) (hnumber height)) (by decide)
  | gap g => exact .append (.append (by decide) (hnumber g)) (by decide)
  | speed s => exact .append (by decide) (hnumber s)
  | density d => exact .append (by decide) (hint d)
  | ribbon on => exact .append (by decide) (isOneLine_switchText on)
  | tear pitch on =>
    exact .append (.append (isOneLine_openTag 1 h) (by decide)) (isOneLine_switchText on)
  | qrCode place style data =>
    obtain ⟨hmodel, hmask, hlevel⟩ := h
    refine .append (by decide) (.intercalate (by decide) ?_)
    simp only [qrArguments, List.forall_mem_cons]
    exact ⟨hint _, hint _, hmodel.isOneLine, hint _, by decide, hint _, hmask.isOneLine,
      hlevel.isOneLine, isOneLine_literal data, fun _ h => absurd h List.not_mem_nil⟩
  | codepage c => exact .append (by decide) (Codepage.IsBare.isOneLine h)
  | text place style content =>
    have hfont : IsFontName style.font := h
    refine .append (by decide) (.intercalate (by decide) ?_)
    simp only [textArguments, List.forall_mem_cons]
    exact ⟨hint _, hint _, .append (.append (by decide) hfont.isOneLine) (by decide), hint _,
      hnumber _, hnumber _, isOneLine_literal content, fun _ h => absurd h List.not_mem_nil⟩
  | direction | reference | offset | peelOff | cutterOff | partialCutterOff | clear | print | close =>
    decide

/-- A command that a layout renders: it is framed and drawn in a style of the layout. -/
def IsRenderedBy (l : Layout) (c : Command) : Prop :=
  c.IsFramed ∧ match c with
    | .qrCode _ style _ => style = l.qrStyle
    | .text _ style _ => style = l.textStyle ∨ style = l.nameStyle
    | _ => True

end Command

/-! ## Blocks of a layout -/

namespace Layout

variable {l : Layout} {pitch : String}

theorem headerBlock_isRenderedBy (hpitch : IsNumeric pitch) :
    ∀ c ∈ l.headerBlock pitch, c.IsRenderedBy l := by
  simp [headerBlock, Command.IsRenderedBy, Command.IsFramed, hpitch]

theorem qrCode_isRenderedBy (hl : l.IsAllowed) (place : Position) (data : String) :
    Command.IsRenderedBy l (.qrCode place l.qrStyle data) :=
  ⟨⟨hl .qrModel, hl .qrMask, hl .qrErrorLevel⟩, rfl⟩

theorem codepage_isRenderedBy (hl : l.IsAllowed) : Command.IsRenderedBy l (.codepage (l .codepage)) :=
  ⟨hl .codepage, trivial⟩

theorem text_isRenderedBy (hl : l.IsAllowed) (place : Position) (content : String) :
    Command.IsRenderedBy l (.text place l.textStyle content) ∧
      Command.IsRenderedBy l (.text place l.nameStyle content) :=
  ⟨⟨hl .textFont, .inl rfl⟩, ⟨hl .nameTextFont, .inr rfl⟩⟩

theorem label_isRenderedBy (hl : l.IsAllowed) (slot : Nat) (r : Record) :
    ∀ c ∈ l.label slot r, c.IsRenderedBy l :=
  forall_mem_label (fun place => qrCode_isRenderedBy hl place r.payload) (codepage_isRenderedBy hl)
    (fun place => (text_isRenderedBy hl place r.id).1) fun place => (text_isRenderedBy hl place r.name).2

theorem valueLabel_isRenderedBy (hl : l.IsAllowed) (slot : Nat) (v : String) :
    ∀ c ∈ l.valueLabel slot v, c.IsRenderedBy l :=
  forall_mem_valueLabel (fun place => qrCode_isRenderedBy hl place v) (codepage_isRenderedBy hl)
    fun place => (text_isRenderedBy hl place v).1

theorem sheet_isRenderedBy {α : Type} (hpitch : IsNumeric pitch) {label : Nat → α → Block}
    (hlabel : ∀ slot item, ∀ c ∈ label slot item, c.IsRenderedBy l) (items : List α) :
    ∀ c ∈ l.sheet pitch label items, c.IsRenderedBy l := by
  rw [sheet, List.forall_mem_append, List.forall_mem_append]
  refine ⟨⟨?_, forall_mem_labels hlabel⟩, ?_⟩
  · simp [Command.IsRenderedBy, Command.IsFramed, hpitch]
  · simp [Command.IsRenderedBy, Command.IsFramed]

end Layout

/-- A block that is cut back into its commands, and these into their arguments. -/
structure Block.ReadsBack (l : Layout) (b : Block) : Prop where
  pieces_eq : blankLinePieces b.text = b.map Command.line
  isOneLine : ∀ c ∈ b, IsOneLine c.line
  symbol_arguments : ∀ (place : Position) (style : QrStyle) (data : String), .qrCode place style data ∈ b →
    argumentsOf (Command.line (.qrCode place style data)) =
      [signedNumeral place.x, signedNumeral place.y, l .qrModel, signedNumeral (l .qrSize), "A",
        signedNumeral (l .qrRotation), l .qrMask, l .qrErrorLevel, "\"" ++ sanitize data ++ "\""]
  text_style : ∀ (place : Position) (style : TextStyle) (content : String), .text place style content ∈ b →
    style = l.textStyle ∨ style = l.nameStyle
  text_arguments : ∀ (place : Position) (style : TextStyle) (content : String),
    .text place style content ∈ b →
      argumentsOf (Command.line (.text place style content)) =
        [signedNumeral place.x, signedNumeral place.y, "\"" ++ style.font ++ "\"",
          signedNumeral style.rotation, style.xMul.text, style.yMul.text,
          "\"" ++ sanitize content ++ "\""]

theorem readsBack_of_isRenderedBy {l : Layout} {b : Block} (hne : b ≠ [])
    (h : ∀ c ∈ b, c.IsRenderedBy l) : b.ReadsBack l where
  pieces_eq := by
    refine blankLinePieces_intercalate (by simpa using hne) fun line hline => ?_
    obtain ⟨c, hc, rfl⟩ := List.mem_map.1 hline
    exact (Command.isOneLine_line (h c hc).1).lineFeed_not_mem
  isOneLine c hc := Command.isOneLine_line (h c hc).1
  symbol_arguments place style data hc := by
    obtain ⟨hframed, rfl⟩ := h _ hc
    exact Command.argumentsOf_qrCode hframed
  text_style _ _ _ hc := (h _ hc).2
  text_arguments _ _ _ hc := Command.argumentsOf_text (h _ hc).1

/-- **What is rendered reads back.** Every header and every page of records or values, for every layout that
options resolve to, is cut at its blank lines into the commands it was rendered as, each of them one line, and
the commands with texts are cut at their commas into the arguments they were given. -/
theorem rendered_readsBack {stock : Stock} {options : Options} (hg : options.IsGenuine) {l : Layout}
    (hl : (options.resolve stock).outcome = .ok l) {b : Block}
    (hb : l.header = .ok b ∨ (∃ records, l.recordPage records = .ok b) ∨
      ∃ values, l.valuePage values = .ok b) : b.ReadsBack l := by
  have hallowed := resolve_allows hg hl
  have page_readsBack : ∀ {α : Type} {commands : Nat → α → Except RenderFault Block}
      {label : Nat → α → Block} {items : List α},
      (∀ slot item, commands slot item =
        if l .qrPositions = [] then .error .noQrPosition else .ok (label slot item)) →
      (∀ slot item, ∀ c ∈ label slot item, c.IsRenderedBy l) →
      l.page commands items = .ok b → b.ReadsBack l := by
    intro α commands label items hlabel hrendered h
    rw [Layout.page_eq hlabel] at h
    split at h
    case h_2 => cases h
    case h_1 pitch hpitch =>
      split at h
      case isTrue => cases h
      case isFalse =>
        obtain rfl := Except.ok.inj h
        exact readsBack_of_isRenderedBy (by simp [Layout.sheet])
          (Layout.sheet_isRenderedBy (isNumeric_pitch hpitch) hrendered items)
  rcases hb with h | ⟨records, h⟩ | ⟨values, h⟩
  · rw [Layout.header_eq] at h
    split at h
    case h_2 => cases h
    case h_1 pitch hpitch =>
      obtain rfl := Except.ok.inj h
      exact readsBack_of_isRenderedBy (List.cons_ne_nil _ _)
        (Layout.headerBlock_isRenderedBy (isNumeric_pitch hpitch))
  · exact page_readsBack l.recordCommands_eq (Layout.label_isRenderedBy hallowed) h
  · exact page_readsBack l.valueCommands_eq (Layout.valueLabel_isRenderedBy hallowed) h

/-- A font name with a comma in it and a payload that imitates the end of its argument and a command. -/
theorem rendered_readsBack_imitation : ∃ (l : Layout) (b : Block),
    (Options.resolve .small
      (.given (.map [(.text "nameTextFont", .text "A,B"), (.text "codepage", .text "UTF-8")]))).outcome =
        .ok l ∧
    l.recordPage [⟨"x\"\r\n\r\nPRINT 1,1", "a,\"b\"", ""⟩] = .ok b ∧ b.ReadsBack l := by
  have hg : Options.IsGenuine
      (.given (.map [(.text "nameTextFont", .text "A,B"), (.text "codepage", .text "UTF-8")])) := trivial
  refine ⟨_, _, rfl, rfl, rendered_readsBack hg rfl (.inr (.inl ?_))⟩
  exact ⟨[⟨"x\"\r\n\r\nPRINT 1,1", "a,\"b\"", ""⟩], rfl⟩

end LabelPress
