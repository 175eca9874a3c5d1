import LabelPress.Proofs.Document.Characters
import LabelPress.Proofs.Generation
import LabelPress.Proofs.Numerals
import LabelPress.Proofs.Text.Occurrences
import LabelPress.Proofs.Text.Sanitized

/-!
# Markup of documents

A document starts with the tag that opens its header, has one for every page and closes with the end tag
(`assemble_tagCounts`). Sanitising leaves angle brackets alone, and so do the checks of bare tokens and font
names, so tags in the texts that a document copies are met as well; what a document adds itself is one header,
its pages and one end.
-/

namespace LabelPress

/-- The tags that a document is divided by. -/
inductive Tag where
  | header
  | page
  | final
  deriving DecidableEq

namespace Tag

/-- What a tag starts with, as far as it tells the tag from others. -/
def text : Tag → String
  | .header => "<xpml><page quantity='0'"
  | .page => "<xpml><page quantity='1'"
  | .final => endTag

/-- How often a document of so many pages has a tag by itself. -/
def due (pages : Nat) : Tag → Nat
  | .header => 1
  | .page => pages
  | .final => 1

/-- The tags agree in more than their first character, and what they differ in does not close anything. -/
theorem toList_text (t : Tag) : ∃ c rest, c ≠ '/' ∧
    t.text.toList = '<' :: 'x' :: 'p' :: 'm' :: 'l' :: '>' :: '<' :: c :: rest := by
  cases t <;> exact ⟨_, _, by decide, rfl⟩

theorem toList_text_ne_nil (t : Tag) : t.text.toList ≠ [] := by
  cases t <;> decide

theorem not_mem_text (t : Tag) : ',' ∉ t.text.toList ∧ '"' ∉ t.text.toList ∧ '\n' ∉ t.text.toList := by
  cases t <;> decide

/-! ## Characters without tags -/

variable (t : Tag)

theorem occurrencesFrom_append_of_not_mem {u : List Char} (hu : '<' ∉ u) (v : List Char) :
    occurrencesFrom t.text.toList 0 (u ++ v) = occurrencesFrom t.text.toList 0 v := by
  obtain ⟨c, rest, -, ht⟩ := t.toList_text
  rw [ht]
  exact LabelPress.occurrencesFrom_append_of_not_mem hu v

theorem occurrences_append_of_not_mem {s : String} (hs : '<' ∉ s.toList) (s' : String) :
    occurrences t.text (s ++ s') = occurrences t.text s' := by
  rw [occurrences, String.toList_append, t.occurrencesFrom_append_of_not_mem hs]
  rfl

theorem occurrences_of_not_mem {s : String} (hs : '<' ∉ s.toList) : occurrences t.text s = 0 := by
  have h := t.occurrencesFrom_append_of_not_mem hs []
  rwa [List.append_nil] at h

theorem occurrences_of_isNumeric {s : String} (hs : IsNumeric s) : occurrences t.text s = 0 :=
  t.occurrences_of_not_mem (hs.not_mem (by decide))

theorem occurrences_quoted (s : String) : occurrences t.text ("\"" ++ s ++ "\"") = occurrences t.text s := by
  have hquote : "\"".toList = ['"'] := by decide
  rw [String.append_assoc, t.occurrences_append_of_not_mem (by decide), occurrences,
    String.toList_append, hquote, occurrencesFrom_append_cons t.toList_text_ne_nil t.not_mem_text.2.1]
  rfl

theorem occurrences_literal (s : String) : occurrences t.text (literal s) = occurrences t.text (sanitize s) :=
  t.occurrences_quoted (sanitize s)

/-- Markup that closes something is no tag. -/
theorem occurrencesFrom_closing (v : List Char) :
    occurrencesFrom t.text.toList 0 ('<' :: '/' :: v) = occurrencesFrom t.text.toList 0 v := by
  obtain ⟨c, rest, -, ht⟩ := t.toList_text
  simp [ht, occurrencesFrom]

theorem occurrencesFrom_closeTag (v : List Char) :
    occurrencesFrom t.text.toList 0 (closeTag.toList ++ v) = occurrencesFrom t.text.toList 0 v := by
  obtain ⟨c, rest, hc, ht⟩ := t.toList_text
  simp [closeTag, ht, occurrencesFrom, hc]

/-- Where a tag starts, only this tag is met. -/
theorem occurrencesFrom_text_append (t' : Tag) (v : List Char) :
    occurrencesFrom t.text.toList 0 (t'.text.toList ++ v) =
      (if t = t' then 1 else 0) + occurrencesFrom t.text.toList 0 v := by
  by_cases ht : t = t'
  · subst ht
    rw [if_pos rfl, occurrencesFrom_append_self t.toList_text_ne_nil]
  · rw [if_neg ht, Nat.zero_add]
    cases t <;> cases t' <;> first | exact absurd rfl ht | simp [text, endTag, occurrencesFrom]

theorem header_text_eq : "<xpml><page quantity='" ++ numeral 0 ++ "'" = text .header := by decide

theorem page_text_eq : "<xpml><page quantity='" ++ numeral 1 ++ "'" = text .page := by decide

theorem toList_openTag_eq {t' : Tag} {quantity : Nat} (pitch : String)
    (ht' : "<xpml><page quantity='" ++ numeral quantity ++ "'" = t'.text) :
    (openTag quantity pitch).toList =
      t'.text.toList ++ ((" pitch='" ++ pitch ++ " mm'>").toList ++ '<' :: '/' :: "xpml>".toList) := by
  rw [← ht']
  simp [toList_openTag]

/-- What follows the quantity of an opening tag has no tag in it. -/
theorem occurrences_openTag_append {t' : Tag} {quantity : Nat} {pitch : String} (hpitch : IsNumeric pitch)
    (ht' : "<xpml><page quantity='" ++ numeral quantity ++ "'" = t'.text) (s : String) :
    occurrences t.text (openTag quantity pitch ++ s) = (if t = t' then 1 else 0) + occurrences t.text s := by
  have hmid : '<' ∉ (" pitch='" ++ pitch ++ " mm'>").toList := by
    have hp : '<' ∉ pitch.toList := hpitch.not_mem (by decide)
    simp [hp]
  rw [occurrences, String.toList_append, toList_openTag_eq pitch ht', List.append_assoc,
    occurrencesFrom_text_append, List.append_assoc, t.occurrencesFrom_append_of_not_mem hmid,
    List.cons_append, List.cons_append, t.occurrencesFrom_closing,
    t.occurrencesFrom_append_of_not_mem (by decide)]
  rfl

end Tag

namespace Command

/-! ## Commands -/

/-- The texts that a command copies, sanitised or as they are. -/
def copied : Command → List String
  | .qrCode _ style data => [style.model, style.mask, style.errorLevel, sanitize data]
  | .codepage c => [c.text]
  | .text _ style content => [style.font, sanitize content]
  | _ => []

/-- The tag that a command opens a block with. -/
def tag? : Command → Option Tag
  | .media .. => some .header
  | .tear .. => some .page
  | _ => none

/-- The pitch that a command opens a block with. -/
def pitch? : Command → Option String
  | .media pitch _ _ | .tear pitch _ => some pitch
  | _ => none

variable (t : Tag)

/-- How often a tag is met in a line: where the command opens a block with it, and in what it copies. -/
def tagCount (c : Command) : Nat :=
  (if c.tag? = some t then 1 else 0) + totalOccurrences t.text c.copied

theorem occurrences_line {c : Command} (hpitch : ∀ pitch ∈ c.pitch?, IsNumeric pitch) :
    occurrences t.text c.line = tagCount t c := by
  have hint : ∀ n, occurrences t.text (signedNumeral n) = 0 := fun n =>
    t.occurrences_of_isNumeric (isNumeric_signedNumeral n)
  have hnumber : ∀ n : Number, occurrences t.text n.text = 0 := fun n =>
    t.occurrences_of_isNumeric (isNumeric_number n)
  have hcomma : ∀ texts, occurrences t.text (String.intercalate "," texts) =
      totalOccurrences t.text texts :=
    occurrences_intercalate t.toList_text_ne_nil (by decide) t.not_mem_text.1
  have hbare : ∀ n : Number, '<' ∉ n.text.toList := fun n => (isNumeric_number n).not_mem (by decide)
  have hswitch : ∀ on, '<' ∉ (switchText on).toList := by decide
  -- A line without markup and copies has no tag because it has no angle bracket.
  have hplain : '<' ∉ c.line.toList → c.tag? = none → c.copied = [] →
      occurrences t.text c.line = tagCount t c := by
    intro hline htag hcopied
    rw [t.occurrences_of_not_mem hline, tagCount, htag, hcopied]
    rfl
  cases c with
  | media pitch width height =>
    have hsize : '<' ∉ ("SIZE " ++ (width.text ++ (" mm, " ++ (height.text ++ " mm")))).toList := by
      simp [hbare]
    simp only [line, String.append_assoc]
    rw [t.occurrences_openTag_append (hpitch pitch rfl) Tag.header_text_eq,
      t.occurrences_of_not_mem hsize]
    simp [tagCount, tag?, copied, eq_comm]
  | tear pitch on =>
    have htear : '<' ∉ ("SET TEAR " ++ switchText on).toList := by simp [hswitch]
    simp only [line, String.append_assoc]
    rw [t.occurrences_openTag_append (hpitch pitch rfl) Tag.page_text_eq,
      t.occurrences_of_not_mem htear]
    simp [tagCount, tag?, copied, eq_comm]
  | qrCode place style data =>
    have hauto : occurrences t.text "A" = 0 := t.occurrences_of_not_mem (by decide)
    rw [line, t.occurrences_append_of_not_mem (by decide), hcomma]
    simp [qrArguments, tagCount, tag?, copied, hint, hauto, t.occurrences_literal]
  | codepage c =>
    rw [line, t.occurrences_append_of_not_mem (by decide)]
    simp [tagCount, tag?, copied]
  | text place style content =>
    rw [line, t.occurrences_append_of_not_mem (by decide), hcomma]
    simp [textArguments, tagCount, tag?, copied, hint, hnumber, t.occurrences_literal,
      t.occurrences_quoted]
  | gap g => exact hplain (by simp [line, hbare]) rfl rfl
  | speed s => exact hplain (by simp [line, hbare]) rfl rfl
  | density d =>
    have hd : '<' ∉ (signedNumeral d).toList := (isNumeric_signedNumeral d).not_mem (by decide)
    exact hplain (by simp [line, hd]) rfl rfl
  | ribbon on => exact hplain (by simp [line, hswitch]) rfl rfl
  | close =>
    have hclose := t.occurrencesFrom_closeTag []
    rwa [List.append_nil] at hclose
  | direction | reference | offset | peelOff | cutterOff | partialCutterOff | clear | print =>
    exact hplain (by decide) rfl rfl

end Command

/-! ## Blocks -/

/-- How often a tag is met in the lines of a block. -/
def Block.tagCount (t : Tag) : Block → Nat
  | [] => 0
  | c :: b => c.tagCount t + tagCount t b

namespace Block

variable (t : Tag)

@[simp] theorem tagCount_nil : tagCount t [] = 0 := rfl

@[simp] theorem tagCount_cons (c : Command) (b : Block) :
    tagCount t (c :: b) = c.tagCount t + tagCount t b := rfl

@[simp] theorem tagCount_append (a b : Block) : tagCount t (a ++ b) = tagCount t a + tagCount t b := by
  induction a with
  | nil => exact (Nat.zero_add _).symm
  | cons c a ih => rw [List.cons_append, tagCount_cons, tagCount_cons, ih, Nat.add_assoc]

/-- No tag reaches over a blank line, and none from the end of a block into what follows. -/
theorem occurrencesFrom_append_trail {b : Block} (hb : ∀ c ∈ b, ∀ pitch ∈ c.pitch?, IsNumeric pitch)
    (x rest : List Char) :
    occurrencesFrom t.text.toList 0 (x ++ (trail (b ++ [.close]) ++ rest)) =
      occurrencesFrom t.text.toList 0 x + (tagCount t b + occurrencesFrom t.text.toList 0 rest) := by
  have hblank : ∀ x rest, occurrencesFrom t.text.toList 0 (x ++ '\n' :: '\n' :: rest) =
      occurrencesFrom t.text.toList 0 x + occurrencesFrom t.text.toList 0 rest := by
    intro x rest
    rw [occurrencesFrom_append_cons t.toList_text_ne_nil t.not_mem_text.2.2]
    exact congrArg _ (t.occurrencesFrom_append_of_not_mem (u := ['\n']) (by decide) rest)
  induction b generalizing x with
  | nil =>
    rw [List.nil_append, trail_cons, trail_nil, List.append_nil, List.cons_append, List.cons_append,
      hblank, Command.line, t.occurrencesFrom_closeTag, tagCount_nil, Nat.zero_add]
  | cons c b ih =>
    have hc := hb c List.mem_cons_self
    have hline : occurrencesFrom t.text.toList 0 c.line.toList = c.tagCount t := c.occurrences_line t hc
    rw [List.cons_append, trail_cons, List.append_assoc, List.cons_append, List.cons_append, hblank,
      ih (fun c' hc' => hb c' (List.mem_cons_of_mem c hc')), hline, tagCount_cons, Nat.add_assoc]

theorem occurrencesFrom_text {b : Block} (hne : b ≠ [])
    (hb : ∀ c ∈ b, ∀ pitch ∈ c.pitch?, IsNumeric pitch) (rest : List Char) :
    occurrencesFrom t.text.toList 0 ((text (b ++ [.close])).toList ++ rest) =
      tagCount t b + occurrencesFrom t.text.toList 0 rest := by
  obtain ⟨c, b, rfl⟩ := List.exists_cons_of_ne_nil hne
  have hc := hb c List.mem_cons_self
  have hline : occurrencesFrom t.text.toList 0 c.line.toList = c.tagCount t := c.occurrences_line t hc
  rw [List.cons_append, toList_text_cons, List.append_assoc,
    occurrencesFrom_append_trail t (fun c' hc' => hb c' (List.mem_cons_of_mem c hc')), hline,
    tagCount_cons, Nat.add_assoc]

end Block

namespace Layout

variable (l : Layout) (t : Tag) {pitch : String}

/-- The texts that the label of a record copies. -/
def recordTexts (r : Record) : List String :=
  [l .qrModel, l .qrMask, l .qrErrorLevel, sanitize r.payload] ++
    (if l .includeIdText = true ∧ l .idTextPositions ≠ [] then [l .textFont, sanitize r.id] else []) ++
    (if l .nameTextPositions ≠ [] then [l .nameTextFont, sanitize r.name] else [])

/-- The texts that some pages copy, the codepage on every page included. -/
def copiedTexts (pages : Nat) (records : List Record) : List String :=
  List.replicate pages (l .codepage).text ++ records.flatMap l.recordTexts

theorem occurrencesFrom_headerBlock (hpitch : IsNumeric pitch) (rest : List Char) :
    occurrencesFrom t.text.toList 0 ((Block.text (l.headerBlock pitch)).toList ++ rest) =
      (if t = .header then 1 else 0) + occurrencesFrom t.text.toList 0 rest := by
  have hclose : l.headerBlock pitch = (l.headerBlock pitch).dropLast ++ [.close] := rfl
  have hcount : Block.tagCount t (l.headerBlock pitch).dropLast = if t = .header then 1 else 0 := by
    simp [headerBlock, Command.tagCount, Command.tag?, Command.copied, eq_comm]
  rw [hclose, Block.occurrencesFrom_text t (by simp [headerBlock])
    (by simp [headerBlock, Command.pitch?, hpitch]), hcount]

theorem tagCount_captionBlock (table : List Position) (style : TextStyle) (slot : Nat) (content : String) :
    Block.tagCount t (captionBlock table style slot content) =
      totalOccurrences t.text (if table ≠ [] then [style.font, sanitize content] else []) := by
  unfold captionBlock
  by_cases htable : table = [] <;>
    simp [htable, Command.tagCount, Command.tag?, Command.copied]

theorem tagCount_label (slot : Nat) (r : Record) : Block.tagCount t (l.label slot r) =
    (if slot = 0 then occurrences t.text (l .codepage).text else 0) +
      totalOccurrences t.text (l.recordTexts r) := by
  have hsymbol : Block.tagCount t (l.symbolBlock slot r.payload) =
      (if slot = 0 then occurrences t.text (l .codepage).text else 0) +
        totalOccurrences t.text [l .qrModel, l .qrMask, l .qrErrorLevel, sanitize r.payload] := by
    by_cases hslot : slot = 0 <;>
      simp [symbolBlock, hslot, Command.tagCount, Command.tag?, Command.copied, qrStyle]
    omega
  have hid : Block.tagCount t (if l .includeIdText then
      captionBlock (l .idTextPositions) l.textStyle slot r.id else []) =
        totalOccurrences t.text (if l .includeIdText = true ∧ l .idTextPositions ≠ [] then
          [l .textFont, sanitize r.id] else []) := by
    by_cases hinclude : l .includeIdText = true <;> simp [hinclude, tagCount_captionBlock, textStyle]
  rw [label, Block.tagCount_append, Block.tagCount_append, hsymbol, hid, tagCount_captionBlock,
    recordTexts, totalOccurrences_append, totalOccurrences_append, Nat.add_assoc, Nat.add_assoc,
    Nat.add_assoc]
  rfl

/-- The codepage is copied once for the first label, every record for its own. -/
theorem tagCount_labels (slot : Nat) (records : List Record) :
    Block.tagCount t (labels l.label slot records) =
      (if slot = 0 ∧ records ≠ [] then occurrences t.text (l .codepage).text else 0) +
        totalOccurrences t.text (records.flatMap l.recordTexts) := by
  induction records generalizing slot with
  | nil => simp [labels]
  | cons r records ih =>
    have hcons : labels l.label slot (r :: records) = l.label slot r ++ labels l.label (slot + 1) records :=
      rfl
    have hlater : ¬(slot + 1 = 0 ∧ records ≠ []) := fun h => absurd h.1 (Nat.succ_ne_zero slot)
    rw [hcons, Block.tagCount_append, tagCount_label, ih, if_neg hlater, List.flatMap_cons,
      totalOccurrences_append]
    simp only [ne_eq, List.cons_ne_nil, not_false_eq_true, and_true]
    omega

theorem occurrencesFrom_sheet (hpitch : IsNumeric pitch) {records : List Record} (hne : records ≠ [])
    (rest : List Char) :
    occurrencesFrom t.text.toList 0 ((Block.text (l.sheet pitch l.label records)).toList ++ rest) =
      (if t = .page then 1 else 0) + occurrences t.text (l .codepage).text +
        totalOccurrences t.text (records.flatMap l.recordTexts) + occurrencesFrom t.text.toList 0 rest := by
  have hclose : l.sheet pitch l.label records =
      ([.tear pitch (l .tearOn), .clear] ++ labels l.label 0 records ++ [.print]) ++ [.close] := by
    simp [sheet]
  have hopen : ∀ c ∈ [.tear pitch (l .tearOn), .clear] ++ labels l.label 0 records ++ [.print],
      ∀ pitch ∈ c.pitch?, IsNumeric pitch := by
    have hlabels : ∀ c ∈ labels l.label 0 records, ∀ pitch ∈ c.pitch?, IsNumeric pitch :=
      forall_mem_labels fun slot r => forall_mem_label (fun _ _ h => nomatch h) (fun _ h => nomatch h)
        (fun _ _ h => nomatch h) fun _ _ h => nomatch h
    rw [List.forall_mem_append, List.forall_mem_append]
    exact ⟨⟨by simp [Command.pitch?, hpitch], hlabels⟩, by simp [Command.pitch?]⟩
  have hcount : Block.tagCount t ([.tear pitch (l .tearOn), .clear] ++ labels l.label 0 records ++
      [.print]) = (if t = .page then 1 else 0) + occurrences t.text (l .codepage).text +
        totalOccurrences t.text (records.flatMap l.recordTexts) := by
    simp [tagCount_labels, hne, Command.tagCount, Command.tag?, Command.copied, eq_comm, Nat.add_assoc]
  rw [hclose, Block.occurrencesFrom_text t (by simp) hopen, hcount]

theorem occurrencesFrom_sheets (hpitch : IsNumeric pitch) {plan : List (List Record)}
    (hplan : ∀ records ∈ plan, records ≠ []) :
    occurrencesFrom t.text.toList 0
        (((plan.map (l.sheet pitch l.label)).flatMap fun page => page.text.toList) ++ endTag.toList) =
      plan.length * (if t = .page then 1 else 0) +
        totalOccurrences t.text (l.copiedTexts plan.length plan.flatten) + if t = .final then 1 else 0 := by
  induction plan with
  | nil =>
    have hend : occurrencesFrom t.text.toList 0 (endTag.toList ++ []) = if t = .final then 1 else 0 :=
      t.occurrencesFrom_text_append .final []
    rw [List.append_nil] at hend
    simpa [copiedTexts] using hend
  | cons records plan ih =>
    have hrest := ih fun records' h => hplan records' (List.mem_cons_of_mem records h)
    rw [List.map_cons, List.flatMap_cons, List.append_assoc,
      l.occurrencesFrom_sheet t hpitch (hplan records List.mem_cons_self), hrest, copiedTexts,
      copiedTexts, List.length_cons, List.flatten_cons, List.flatMap_append, totalOccurrences_append,
      totalOccurrences_append, totalOccurrences_append, totalOccurrences_replicate,
      totalOccurrences_replicate, Nat.succ_mul, Nat.succ_mul]
    omega

end Layout

/-! ## Documents -/

/-- How often a document for records has each tag, for a layout with `k` items per page: as often as is due,
and as often as the texts have it that the pages copy. -/
structure Document.TagCounts (d : Document) (l : Layout) (k : Nat) (records : List Record) : Prop where
  starts : Tag.header.text.toList <+: d.text.toList
  ends : Tag.final.text.toList <:+ d.text.toList
  count_eq (t : Tag) : occurrences t.text d.text = t.due ((records.length + k - 1) / k) +
    totalOccurrences t.text (l.copiedTexts ((records.length + k - 1) / k) records)
  /-- Tags are counted as is due exactly when no copied text has one. -/
  count_eq_due_iff (t : Tag) : occurrences t.text d.text = t.due ((records.length + k - 1) / k) ↔
    ∀ s ∈ l.copiedTexts ((records.length + k - 1) / k) records, ¬t.text.toList <:+: s.toList

theorem Generation.MakesDocument.tagCounts {options : Options} {stock : Stock} {records : List Record}
    {l : Layout} {pitch : String} {spare : Nat} {d : Document}
    (h : MakesDocument options stock Layout.label records l pitch spare d) :
    d.TagCounts l (spare + 1) records := by
  have hpitch := isNumeric_pitch h.pitch_eq
  have htext : d.text.toList = (Block.text (l.headerBlock pitch)).toList ++
      ((((Page.split spare records).map (l.sheet pitch l.label)).flatMap fun page => page.text.toList) ++
        endTag.toList) := by
    rw [Document.toList_text, h.document_eq]
  have hstarts : Tag.header.text.toList <+: d.text.toList := by
    have hline : Tag.header.text.toList <+:
        (Command.line (.media pitch (l .width) (l .height))).toList := by
      simp only [Command.line, String.toList_append, List.append_assoc,
        Tag.toList_openTag_eq pitch Tag.header_text_eq]
      exact List.prefix_append _ _
    rw [htext, Layout.headerBlock, Block.toList_text_cons, List.append_assoc]
    exact hline.trans (List.prefix_append _ _)
  have hends : Tag.final.text.toList <:+ d.text.toList := by
    rw [htext, ← List.append_assoc]
    exact List.suffix_append _ _
  have hcount : ∀ t : Tag, occurrences t.text d.text =
      t.due ((records.length + (spare + 1) - 1) / (spare + 1)) +
        totalOccurrences t.text
          (l.copiedTexts ((records.length + (spare + 1) - 1) / (spare + 1)) records) := by
    intro t
    have hpages : records.length + (spare + 1) - 1 = records.length + spare := rfl
    rw [hpages, occurrences, htext, l.occurrencesFrom_headerBlock t hpitch,
      l.occurrencesFrom_sheets t hpitch fun _ => Page.ne_nil_of_mem_split, Page.length_split,
      Page.flatten_split]
    cases t <;> simp [Tag.due, Nat.add_comm]
  refine ⟨hstarts, hends, hcount, fun t => ?_⟩
  rw [hcount, Nat.add_eq_left, totalOccurrences_eq_zero_iff t.toList_text_ne_nil]

/-- **A document has one header, its pages and one end**, and no more tags than these and those in the texts
that its pages copy. -/
theorem assemble_tagCounts {records : List Record} {stock : Stock} {options : Options} {d : Document}
    (h : (Generation.assemble records stock options).outcome = .ok d) :
    ∃ (l : Layout) (k : Nat), (options.resolve stock).outcome = .ok l ∧ l .itemsPerPage = (k : Int) ∧
      0 < k ∧ d.TagCounts l k records := by
  rw [Generation.assemble_outcome] at h
  obtain ⟨l, pitch, spare, hd⟩ := (Generation.made_eq_ok_iff Layout.recordCommands_eq).1 h
  exact ⟨l, spare + 1, hd.resolved, hd.itemsPerPage_eq, Nat.succ_pos spare, hd.tagCounts⟩

/-- A payload that imitates the opening of a page. -/
theorem assemble_tagCounts_medium : ∃ d,
    (Generation.assemble [⟨"<xpml><page quantity='1'", "A", "1"⟩, ⟨"b", "B", "2"⟩] .medium
      .absent).outcome = .ok d ∧
    ∃ (l : Layout) (k : Nat), (Options.absent.resolve .medium).outcome = .ok l ∧
      l .itemsPerPage = (k : Int) ∧ 0 < k ∧
      d.TagCounts l k [⟨"<xpml><page quantity='1'", "A", "1"⟩, ⟨"b", "B", "2"⟩] := by
  obtain ⟨d, hd⟩ := Generation.exists_made_absent Layout.recordCommands_eq .medium
    [⟨"<xpml><page quantity='1'", "A", "1"⟩, ⟨"b", "B", "2"⟩]
  rw [← Generation.assemble_outcome] at hd
  exact ⟨d, hd, assemble_tagCounts hd⟩

/-- A payload that is the end tag is copied as it is, so the document has this tag twice. -/
theorem assemble_endTag_twice : ∃ d,
    (Generation.assemble [⟨"<xpml><end/></xpml>", "", ""⟩] .small .absent).outcome = .ok d ∧
      occurrences endTag d.text = 2 := by
  obtain ⟨d, hd⟩ := Generation.exists_made_absent Layout.recordCommands_eq .small
    [⟨"<xpml><end/></xpml>", "", ""⟩]
  obtain ⟨l, pitch, spare, h⟩ := (Generation.made_eq_ok_iff Layout.recordCommands_eq).1 hd
  obtain rfl := Except.ok.inj ((Generation.resolve_absent .small).symm.trans h.resolved)
  have hpages : ([⟨"<xpml><end/></xpml>", "", ""⟩] : List Record).length + (spare + 1) - 1 = spare + 1 :=
    Nat.add_comm 1 spare
  have hcount := h.tagCounts.count_eq .final
  rw [hpages, Nat.div_self (Nat.succ_pos spare)] at hcount
  rw [← Generation.assemble_outcome] at hd
  exact ⟨d, hd, hcount.trans (by decide)⟩

end LabelPress
