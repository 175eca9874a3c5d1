import LabelPress.Proofs.Document.Characters
import LabelPress.Proofs.Generation
import LabelPress.Proofs.Text.Sanitized
import Mathlib.Data.List.Forall2

/-!
# Documents tell labels apart

For one layout the document determines what is printed (`document_text_eq_iff`). It is read from left to
right: each command of a label is the same for all labels of its slot up to a literal, and a literal ends at
its first quote (`literal_append_inj`), so what is read next starts at the same place in equal documents.
After a label comes another symbol or the end of the page, after a page another page or the end, and these
differ in characters that no label can reach.
-/

namespace LabelPress

namespace Command

variable {place : Position} {style : TextStyle} {s t : String} {u v : List Char}

theorem line_qrCode_append_inj {style : QrStyle} :
    (line (.qrCode place style s)).toList ++ u = (line (.qrCode place style t)).toList ++ v ↔
      sanitize s = sanitize t ∧ u = v := by
  obtain ⟨stem, hstem⟩ : ∃ stem, ∀ data, line (.qrCode place style data) = stem ++ literal data :=
    ⟨_, fun _ => (String.append_assoc ..).symm⟩
  rw [hstem, hstem, append_literal_append_inj]

theorem line_text_append_inj :
    (line (.text place style s)).toList ++ u = (line (.text place style t)).toList ++ v ↔
      sanitize s = sanitize t ∧ u = v := by
  obtain ⟨stem, hstem⟩ : ∃ stem, ∀ content, line (.text place style content) = stem ++ literal content :=
    ⟨_, fun _ => (String.append_assoc ..).symm⟩
  rw [hstem, hstem, append_literal_append_inj]

end Command

namespace Layout

variable {l : Layout} {slot : Nat} {u v : List Char}

/-! ## Labels -/

/-- Two records that print the same: their payloads do, and their ids and names as far as they are printed. -/
structure PrintsAlike (l : Layout) (x y : Record) : Prop where
  payload_eq : sanitize x.payload = sanitize y.payload
  id_eq : l .includeIdText = true → l .idTextPositions ≠ [] → sanitize x.id = sanitize y.id
  name_eq : l .nameTextPositions ≠ [] → sanitize x.name = sanitize y.name

theorem symbolBlock_append_inj {s t : String} :
    Block.trail (l.symbolBlock slot s) ++ u = Block.trail (l.symbolBlock slot t) ++ v ↔
      sanitize s = sanitize t ∧ u = v := by
  simp only [symbolBlock, Block.trail_cons, List.cons_append, List.append_assoc, List.cons.injEq,
    true_and, Command.line_qrCode_append_inj, List.append_cancel_left_eq]

theorem captionBlock_append_inj {table : List Position} {style : TextStyle} {s t : String} :
    Block.trail (captionBlock table style slot s) ++ u =
        Block.trail (captionBlock table style slot t) ++ v ↔
      (table ≠ [] → sanitize s = sanitize t) ∧ u = v := by
  unfold captionBlock
  split
  · next htable => simp [htable]
  · next htable =>
    simp only [Block.trail_cons, Block.trail_nil, List.cons_append, List.append_nil, List.cons.injEq,
      true_and, Command.line_text_append_inj, ne_eq, htable, not_false_eq_true, true_imp_iff]

/-- **A label is read back with what follows it.** -/
theorem label_append_inj {x y : Record} :
    Block.trail (l.label slot x) ++ u = Block.trail (l.label slot y) ++ v ↔
      l.PrintsAlike x y ∧ u = v := by
  have hid : ∀ {u v : List Char},
      Block.trail (if l .includeIdText then captionBlock (l .idTextPositions) l.textStyle slot x.id
          else []) ++ u =
        Block.trail (if l .includeIdText then captionBlock (l .idTextPositions) l.textStyle slot y.id
          else []) ++ v ↔
      (l .includeIdText = true → l .idTextPositions ≠ [] → sanitize x.id = sanitize y.id) ∧ u = v := by
    intro u v
    split
    · next hinclude => simp only [captionBlock_append_inj, hinclude, true_imp_iff]
    · next hinclude => simp [hinclude]
  have hparts : l.PrintsAlike x y ↔ sanitize x.payload = sanitize y.payload ∧
      (l .includeIdText = true → l .idTextPositions ≠ [] → sanitize x.id = sanitize y.id) ∧
      (l .nameTextPositions ≠ [] → sanitize x.name = sanitize y.name) :=
    ⟨fun h => ⟨h.payload_eq, h.id_eq, h.name_eq⟩, fun h => ⟨h.1, h.2.1, h.2.2⟩⟩
  rw [label, label]
  simp only [Block.trail_append, List.append_assoc, symbolBlock_append_inj, hid,
    captionBlock_append_inj, hparts, and_assoc]

theorem valueLabel_append_inj {x y : String} :
    Block.trail (l.valueLabel slot x) ++ u = Block.trail (l.valueLabel slot y) ++ v ↔
      sanitize x = sanitize y ∧ u = v := by
  rw [valueLabel, valueLabel]
  simp only [Block.trail_append, List.append_assoc, symbolBlock_append_inj, captionBlock_append_inj]
  exact ⟨fun h => ⟨h.1, h.2.2⟩, fun h => ⟨h.1, fun _ => h.1, h.2⟩⟩

/-! ## Pages -/

section pages
variable {α : Type} {pitch : String} {label : Nat → α → Block} {Alike : α → α → Prop}

/-- What is needed to read pages of labels: a label can be told from the end of its page, and it is read back
up to being printed alike. -/
structure IsReadable (label : Nat → α → Block) (Alike : α → α → Prop) : Prop where
  starts : ∀ slot x, ∃ rest, Block.trail (label slot x) = '\n' :: '\n' :: 'Q' :: rest
  append_inj : ∀ {slot x y u v}, Block.trail (label slot x) ++ u = Block.trail (label slot y) ++ v ↔
    Alike x y ∧ u = v

theorem symbolBlock_starts (l : Layout) (slot : Nat) (data : String) (b : Block) :
    ∃ rest, Block.trail (l.symbolBlock slot data ++ b) = '\n' :: '\n' :: 'Q' :: rest := by
  rw [symbolBlock, List.cons_append, Block.trail_cons, Command.line, String.toList_append]
  exact ⟨_, rfl⟩

theorem label_isReadable : IsReadable l.label l.PrintsAlike where
  starts slot r := by
    rw [label, List.append_assoc]
    exact l.symbolBlock_starts slot r.payload _
  append_inj := label_append_inj

theorem valueLabel_isReadable : IsReadable l.valueLabel fun x y => sanitize x = sanitize y where
  starts slot v := l.symbolBlock_starts slot v _
  append_inj := valueLabel_append_inj

variable (hlabel : IsReadable label Alike)

include hlabel in
/-- The labels of a page are read back with what follows the page: one by one, up to its end. -/
theorem labels_append_inj {xs ys : List α} :
    Block.trail (labels label slot xs) ++ (Block.trail [.print, .close] ++ u) =
        Block.trail (labels label slot ys) ++ (Block.trail [.print, .close] ++ v) ↔
      List.Forall₂ Alike xs ys ∧ u = v := by
  have not_end : ∀ {slot x u v},
      Block.trail (label slot x) ++ u ≠ Block.trail [.print, .close] ++ v := by
    intro slot x u v h
    obtain ⟨rest, hrest⟩ := hlabel.starts slot x
    obtain ⟨rest', hrest'⟩ : ∃ rest, Block.trail [.print, .close] = '\n' :: '\n' :: 'P' :: rest :=
      ⟨_, rfl⟩
    rw [hrest, hrest'] at h
    simp at h
  have labels_cons : ∀ (slot : Nat) (x : α) (xs : List α),
      labels label slot (x :: xs) = label slot x ++ labels label (slot + 1) xs := fun _ _ _ => rfl
  -- Both pages are read label by label; one cannot end where the other goes on.
  induction xs generalizing slot ys with
  | nil =>
    cases ys with
    | nil => simp [labels]
    | cons y ys =>
      rw [labels_cons, Block.trail_append, List.append_assoc]
      exact iff_of_false (Ne.symm not_end) fun h => nomatch h.1
  | cons x xs ih =>
    cases ys with
    | nil =>
      rw [labels_cons, Block.trail_append, List.append_assoc]
      exact iff_of_false not_end fun h => nomatch h.1
    | cons y ys =>
      rw [labels_cons, labels_cons, Block.trail_append, Block.trail_append, List.append_assoc,
        List.append_assoc, hlabel.append_inj, List.forall₂_cons, and_assoc]
      exact and_congr_right fun _ => ih

theorem toList_sheet_append (items : List α) (rest : List Char) :
    (Block.text (l.sheet pitch label items)).toList ++ rest =
      (Command.line (.tear pitch (l .tearOn))).toList ++ (Block.trail [.clear] ++
        (Block.trail (labels label 0 items) ++ (Block.trail [.print, .close] ++ rest))) := by
  have hcons : l.sheet pitch label items =
      .tear pitch (l .tearOn) :: ([.clear] ++ (labels label 0 items ++ [.print, .close])) := by
    rw [sheet, List.append_assoc]
    rfl
  rw [hcons, Block.toList_text_cons, Block.trail_append, Block.trail_append, List.append_assoc,
    List.append_assoc, List.append_assoc]

include hlabel in
/-- **A page is read back with what follows it.** -/
theorem sheet_append_inj {xs ys : List α} :
    (Block.text (l.sheet pitch label xs)).toList ++ u =
        (Block.text (l.sheet pitch label ys)).toList ++ v ↔
      List.Forall₂ Alike xs ys ∧ u = v := by
  rw [toList_sheet_append, toList_sheet_append, List.append_cancel_left_eq,
    List.append_cancel_left_eq, labels_append_inj hlabel]

theorem sheet_append_ne_endTag (items : List α) (rest : List Char) :
    (Block.text (l.sheet pitch label items)).toList ++ rest ≠ endTag.toList := by
  intro h
  have hstart := (toList_sheet_append items rest).symm.trans h
  rw [Command.line, String.toList_append, String.toList_append, toList_openTag] at hstart
  have heighth := congrArg (·[7]?) hstart
  simp [endTag] at heighth

include hlabel in
/-- The pages of a document are read back one by one, up to the end. -/
theorem sheets_append_inj {plan plan' : List (List α)} :
    ((plan.map (l.sheet pitch label)).flatMap fun page => page.text.toList) ++ endTag.toList =
        ((plan'.map (l.sheet pitch label)).flatMap fun page => page.text.toList) ++ endTag.toList ↔
      List.Forall₂ (List.Forall₂ Alike) plan plan' := by
  induction plan generalizing plan' with
  | nil =>
    cases plan' with
    | nil => simp
    | cons ys plan' =>
      rw [List.map_cons, List.flatMap_cons, List.append_assoc]
      exact iff_of_false (Ne.symm (sheet_append_ne_endTag ys _)) fun h => nomatch h
  | cons xs plan ih =>
    cases plan' with
    | nil =>
      rw [List.map_cons, List.flatMap_cons, List.append_assoc]
      exact iff_of_false (sheet_append_ne_endTag xs _) fun h => nomatch h
    | cons ys plan' =>
      rw [List.map_cons, List.map_cons, List.flatMap_cons, List.flatMap_cons, List.append_assoc,
        List.append_assoc, sheet_append_inj hlabel, List.forall₂_cons]
      exact and_congr_right fun _ => ih

end pages

end Layout

/-! ## Documents -/

namespace Generation

variable {α : Type} {options : Options} {stock : Stock} {xs ys : List α} {d e : Document}
  {commands : Layout → Nat → α → Except RenderFault Block} {label : Layout → Nat → α → Block}
  {Alike : Layout → α → α → Prop}

theorem made_text_eq_iff (hlabel : ∀ l slot item, commands l slot item =
      if l .qrPositions = [] then .error .noQrPosition else .ok (label l slot item))
    (hread : ∀ l, Layout.IsReadable (label l) (Alike l))
    (hd : made options stock commands xs = .ok d) (he : made options stock commands ys = .ok e) :
    ∃ l, (options.resolve stock).outcome = .ok l ∧ (d.text = e.text ↔ List.Forall₂ (Alike l) xs ys) := by
  obtain ⟨l, pitch, spare, hd⟩ := (made_eq_ok_iff hlabel).1 hd
  obtain ⟨m, pitch', spare', he⟩ := (made_eq_ok_iff hlabel).1 he
  obtain rfl := Except.ok.inj (hd.resolved.symm.trans he.resolved)
  obtain rfl := Option.some.inj (hd.pitch_eq.symm.trans he.pitch_eq)
  obtain rfl : spare = spare' := by
    have hperPage : (spare : Int) + 1 = spare' + 1 := hd.itemsPerPage_eq.symm.trans he.itemsPerPage_eq
    omega
  refine ⟨l, hd.resolved, ?_⟩
  rw [← String.toList_inj, Document.toList_text, Document.toList_text, hd.document_eq, he.document_eq,
    List.append_cancel_left_eq, Layout.sheets_append_inj (hread l), Page.forall₂_split]

end Generation

/-- **A document determines what is printed.** Two lists of records give the same document for one layout
exactly when they have the same length and print alike one by one, and two lists of bare values exactly when
their sanitised texts are the same. -/
theorem document_text_eq_iff (options : Options) :
    (∀ (stock : Stock) (xs ys : List Record) (d e : Document),
      (Generation.assemble xs stock options).outcome = .ok d →
      (Generation.assemble ys stock options).outcome = .ok e →
      ∃ l, (options.resolve stock).outcome = .ok l ∧
        (d.text = e.text ↔ List.Forall₂ l.PrintsAlike xs ys)) ∧
    ∀ (size : Value) (vs ws : List String) (d e : Document),
      (Generation.ofValues vs size options).outcome = .ok d →
      (Generation.ofValues ws size options).outcome = .ok e →
      (d.text = e.text ↔ vs.map sanitize = ws.map sanitize) := by
  constructor
  · intro stock xs ys d e hd he
    rw [Generation.assemble_outcome] at hd he
    exact Generation.made_text_eq_iff Layout.recordCommands_eq (fun _ => Layout.label_isReadable) hd he
  · intro size vs ws d e hd he
    rw [Generation.ofValues_outcome] at hd he
    obtain ⟨-, -, htext⟩ := Generation.made_text_eq_iff Layout.valueCommands_eq
      (fun _ => Layout.valueLabel_isReadable) hd he
    rw [htext, ← List.forall₂_eq_eq_eq, List.forall₂_map_left_iff, List.forall₂_map_right_iff]

/-- Payloads and values that differ in their quotes only. -/
theorem document_text_eq_iff_quotes :
    (∃ d e, (Generation.assemble [⟨"a\"b", "A", "1"⟩] .medium .absent).outcome = .ok d ∧
      (Generation.assemble [⟨"a'b", "A", "1"⟩] .medium .absent).outcome = .ok e ∧ d.text = e.text) ∧
    ∃ d e, (Generation.ofValues ["a\"b", "c"] (.text "large") .absent).outcome = .ok d ∧
      (Generation.ofValues ["a'b", "c"] (.text "large") .absent).outcome = .ok e ∧ d.text = e.text := by
  constructor
  · obtain ⟨d, hd⟩ := Generation.exists_made_absent Layout.recordCommands_eq .medium [⟨"a\"b", "A", "1"⟩]
    obtain ⟨e, he⟩ := Generation.exists_made_absent Layout.recordCommands_eq .medium [⟨"a'b", "A", "1"⟩]
    rw [← Generation.assemble_outcome] at hd he
    obtain ⟨l, -, htext⟩ := (document_text_eq_iff .absent).1 _ _ _ d e hd he
    have halike : l.PrintsAlike ⟨"a\"b", "A", "1"⟩ ⟨"a'b", "A", "1"⟩ :=
      ⟨by decide, fun _ _ => rfl, fun _ => rfl⟩
    exact ⟨d, e, hd, he, htext.2 (.cons halike .nil)⟩
  · obtain ⟨d, hd⟩ := Generation.exists_made_absent Layout.valueCommands_eq
      (Generation.stockOf (.text "large")) ["a\"b", "c"]
    obtain ⟨e, he⟩ := Generation.exists_made_absent Layout.valueCommands_eq
      (Generation.stockOf (.text "large")) ["a'b", "c"]
    rw [← Generation.ofValues_outcome] at hd he
    exact ⟨d, e, hd, he, ((document_text_eq_iff .absent).2 _ _ _ d e hd he).2 (by decide)⟩

end LabelPress
