import LabelPress.Proofs.Text.Lines
import LabelPress.Sources

/-!
# Values of a text

The values of a text are its pieces between line breaks, trimmed and without those that are empty
(`isValuesOf_iff`). So neither the way a line ends nor a blank line makes a difference to them
(`valuesOf_congr`), and values that are written line by line are read back (`valuesOf_of_writesLines`).
-/

namespace LabelPress.Sources
variable {files : Files} {path : Path} {text : String} {values : List String}

/-! ## Values by their pieces -/

/-- The values that pieces of a text are. -/
def valuesIn (pieces : List (List Char)) : List String :=
  (pieces.map (trimBy isBlank)).filterMap fun line => if line.isEmpty then none else some (String.ofList line)

/-- Whether values are what the pieces of a text between its line breaks leave when they are trimmed, but for those
that leave nothing. -/
def IsValuesOf (text : String) (values : List String) : Prop :=
  ∃ trimmed, List.Forall₂ (IsTrimmed isBlank) (breakPieces text.toList) trimmed ∧
    values.map String.toList = trimmed.filter (· ≠ [])

theorem valuesIn_append (ps qs : List (List Char)) : valuesIn (ps ++ qs) = valuesIn ps ++ valuesIn qs := by
  rw [valuesIn, List.map_append, List.filterMap_append, valuesIn, valuesIn]

theorem valuesIn_filter (ps : List (List Char)) : valuesIn (ps.filter (· ≠ [])) = valuesIn ps := by
  induction ps with
  | nil => rfl
  | cons piece ps ih =>
    by_cases hempty : piece = []
    · rw [List.filter_cons_of_neg (by simpa using hempty), ih, hempty]
      rfl
    · rw [List.filter_cons_of_pos (by simpa using hempty), ← List.singleton_append, valuesIn_append, ih,
        ← valuesIn_append, List.singleton_append]

theorem valuesIn_eq_nil {ps : List (List Char)} (h : ∀ piece ∈ ps, ∀ c ∈ piece, isBlank c = true) :
    valuesIn ps = [] := by
  refine List.filterMap_eq_nil_iff.2 fun line hline => ?_
  obtain ⟨piece, hpiece, rfl⟩ := List.mem_map.1 hline
  rw [trimBy_eq_nil (h piece hpiece)]
  rfl

theorem map_toList_valuesIn (ps : List (List Char)) :
    (valuesIn ps).map String.toList = (ps.map (trimBy isBlank)).filter (· ≠ []) := by
  unfold valuesIn
  induction ps.map (trimBy isBlank) with
  | nil => rfl
  | cons line lines ih =>
    by_cases hempty : line = []
    · rw [List.filterMap_cons_none (by simp [hempty]), List.filter_cons_of_neg (by simpa using hempty), ih]
    · rw [List.filterMap_cons_some (b := String.ofList line) (by simpa using hempty),
        List.filter_cons_of_pos (by simpa using hempty), List.map_cons, String.toList_ofList, ih]

theorem valuesOf_eq (text : String) : valuesOf text = valuesIn (breakPieces text.toList) := by
  have halike := (splitLines_alike text.toList).filter_eq
  change valuesIn (splitLines (unifyNewlines text.toList)) = _
  rw [← valuesIn_filter, halike, valuesIn_filter]

theorem forall₂_isTrimmed_iff {p : Char → Bool} {ps trimmed : List (List Char)} :
    List.Forall₂ (IsTrimmed p) ps trimmed ↔ ps.map (trimBy p) = trimmed := by
  have htrimmed : IsTrimmed p = fun piece t => trimBy p piece = t := by
    funext piece t
    exact propext trimBy_eq_iff.symm
  rw [htrimmed, ← List.forall₂_map_left_iff (R := Eq), List.forall₂_eq_eq_eq]

theorem isValuesOf_iff : IsValuesOf text values ↔ values = valuesOf text := by
  rw [valuesOf_eq]
  simp only [IsValuesOf, forall₂_isTrimmed_iff, exists_eq_left', ← map_toList_valuesIn]
  exact (List.map_injective_iff.2 fun _ _ h => String.toList_inj.1 h).eq_iff

/-- A value is trimmed, is not empty and has no line break. -/
theorem of_mem_valuesOf {value : String} (h : value ∈ valuesOf text) : value.toList ≠ [] ∧
    (∀ c ∈ value.toList, isLineBreak c = false) ∧ trimBy isBlank value.toList = value.toList := by
  have hmem := List.mem_map_of_mem (f := String.toList) h
  rw [valuesOf_eq, map_toList_valuesIn] at hmem
  obtain ⟨hmem, hempty⟩ := List.mem_filter.1 hmem
  obtain ⟨piece, hpiece, htrim⟩ := List.mem_map.1 hmem
  have htrimmed := isTrimmed_trimBy isBlank piece
  rw [htrim] at htrimmed
  refine ⟨by simpa using hempty, fun c hc => ?_, ?_⟩
  · obtain ⟨before, after, rfl, -, -⟩ := htrimmed.within
    exact (isLineBreak_of_mem_breakPieces hpiece c
      (List.mem_append_left after (List.mem_append_right before hc))).2
  · exact (IsTrimmed.mk ⟨[], [], by simp, by simp, by simp⟩ htrimmed.head htrimmed.last).trimBy_eq

/-! ## Other line breaks -/

/-- One change of line ends and blank lines. -/
inductive LineChange : List Char → List Char → Prop
  /-- A line ends in another way. -/
  | ending (before : List Char) (e e' : LineEnd) (after : List Char) :
    LineChange (before ++ e.chars ++ after) (before ++ e'.chars ++ after)
  /-- A blank line is put in front of all lines. -/
  | first {blank : List Char} (hblank : ∀ c ∈ blank, isBlank c = true) (e : LineEnd) (after : List Char) :
    LineChange after (blank ++ e.chars ++ after)
  /-- A blank line is put behind another line. -/
  | between (before : List Char) (e : LineEnd) {blank : List Char} (hblank : ∀ c ∈ blank, isBlank c = true)
    (e' : LineEnd) (after : List Char) :
    LineChange (before ++ e.chars ++ after) (before ++ e.chars ++ (blank ++ e'.chars ++ after))
  /-- The last line is ended, with a blank line behind it. -/
  | last (before : List Char) (e : LineEnd) {blank : List Char} (hblank : ∀ c ∈ blank, isBlank c = true) :
    LineChange before (before ++ e.chars ++ blank)

theorem valuesIn_breakPieces_append (before : List Char) (e : LineEnd) (after : List Char) :
    valuesIn (breakPieces (before ++ e.chars ++ after)) =
      valuesIn (breakPieces before) ++ valuesIn (breakPieces after) := by
  rw [← valuesIn_filter, breakPieces_append, ← List.filter_append, valuesIn_filter, valuesIn_append]

theorem valuesIn_breakPieces_blank {blank : List Char} (h : ∀ c ∈ blank, isBlank c = true) :
    valuesIn (breakPieces blank) = [] :=
  valuesIn_eq_nil fun _ hpiece c hc => h c (isLineBreak_of_mem_breakPieces hpiece c hc).1

theorem LineChange.valuesIn_eq {cs cs' : List Char} (h : LineChange cs cs') :
    valuesIn (breakPieces cs) = valuesIn (breakPieces cs') := by
  cases h with
  | ending before e e' after => rw [valuesIn_breakPieces_append, valuesIn_breakPieces_append]
  | first hblank e after =>
    rw [valuesIn_breakPieces_append, valuesIn_breakPieces_blank hblank, List.nil_append]
  | between before e hblank e' after =>
    rw [valuesIn_breakPieces_append, valuesIn_breakPieces_append, valuesIn_breakPieces_append,
      valuesIn_breakPieces_blank hblank, List.nil_append]
  | last before e hblank =>
    rw [valuesIn_breakPieces_append, valuesIn_breakPieces_blank hblank, List.append_nil]

theorem valuesOf_congr {text' : String} (h : Relation.EqvGen LineChange text.toList text'.toList) :
    valuesOf text = valuesOf text' := by
  rw [valuesOf_eq, valuesOf_eq]
  generalize text.toList = cs at h
  generalize text'.toList = cs' at h
  induction h with
  | rel _ _ hchange => exact hchange.valuesIn_eq
  | refl _ => rfl
  | symm _ _ _ ih => exact ih.symm
  | trans _ _ _ _ _ ih ih' => exact ih.trans ih'

/-! ## Values written line by line -/

/-- Values written one per line, the last of them with a line end or without. -/
inductive WritesLines : List String → List Char → Prop
  | nil : WritesLines [] []
  | last (value : String) : WritesLines [value] value.toList
  | line (value : String) (e : LineEnd) {values : List String} {cs : List Char} (h : WritesLines values cs) :
    WritesLines (value :: values) (value.toList ++ e.chars ++ cs)

theorem valuesIn_breakPieces_value {value : String} (hempty : value.toList ≠ [])
    (hbreak : ∀ c ∈ value.toList, isLineBreak c = false) (htrim : trimBy isBlank value.toList = value.toList) :
    valuesIn (breakPieces value.toList) = [value] := by
  rw [breakPieces, List.splitOnP_eq_singleton hbreak, valuesIn, List.map_singleton, htrim,
    List.filterMap_cons_some (b := value) (by simpa using hempty), List.filterMap_nil]

theorem valuesOf_of_writesLines {text' : String} (h : WritesLines (valuesOf text) text'.toList) :
    valuesOf text' = valuesOf text := by
  have hvalues := fun value => @of_mem_valuesOf text value
  rw [valuesOf_eq text']
  generalize text'.toList = cs at h
  generalize valuesOf text = values at h hvalues
  induction h with
  | nil => rfl
  | last value =>
    obtain ⟨hempty, hbreak, htrim⟩ := hvalues value List.mem_cons_self
    exact valuesIn_breakPieces_value hempty hbreak htrim
  | line value e _ ih =>
    obtain ⟨hempty, hbreak, htrim⟩ := hvalues value List.mem_cons_self
    rw [valuesIn_breakPieces_append, valuesIn_breakPieces_value hempty hbreak htrim,
      ih fun other hother => hvalues other (List.mem_cons_of_mem value hother), List.singleton_append]

/-! ## Values of a file -/

theorem readValues_of_text (h : files.read path = .ok text.toUTF8) :
    readValues files path = .ok (valuesOf text) := by
  rw [readValues, streamText, h]
  change ((Utf8.decodeStream text.toUTF8).mapError SourceError.undecodable).map valuesOf = _
  rw [Utf8.decodeStream_toUTF8]
  rfl

/-- **Values are the trimmed lines of a file.** They stay the same with other line ends and with blank lines, have no
line breaks of their own, and are read back when they are written line by line. -/
theorem readValues_eq_lines (h : files.read path = .ok text.toUTF8) :
    ∃ values, readValues files path = .ok values ∧ (∀ others, IsValuesOf text others ↔ others = values) ∧
      (∀ value ∈ values, value ≠ "" ∧ ∀ c ∈ value.toList, c ≠ '\r' ∧ c ≠ '\n') ∧
      (∀ files' path' (text' : String), Relation.EqvGen LineChange text.toList text'.toList →
        files'.read path' = .ok text'.toUTF8 → readValues files' path' = .ok values) ∧
      ∀ files' path' (text' : String), WritesLines values text'.toList →
        files'.read path' = .ok text'.toUTF8 → readValues files' path' = .ok values := by
  refine ⟨valuesOf text, readValues_of_text h, fun others => isValuesOf_iff, ?_, ?_, ?_⟩
  · intro value hvalue
    obtain ⟨hempty, hbreak, -⟩ := of_mem_valuesOf hvalue
    refine ⟨fun hnone => hempty (by rw [hnone]; rfl), fun c hc => ?_⟩
    simpa [isLineBreak] using hbreak c hc
  · intro files' path' text' hchange hread
    rw [readValues_of_text hread, valuesOf_congr hchange]
  · intro files' path' text' hwrites hread
    rw [readValues_of_text hread, valuesOf_of_writesLines hwrites]

/-- Two values with a blank line between them, the same with another line end, and written line by line. -/
def mixedLines : Files := ⟨[
  (["mixed.txt"], .file " A\r\n\rB\u2028\n".toUTF8),
  (["changed.txt"], .file " A\n\rB\u2028\n".toUTF8),
  (["written.txt"], .file "A\r\nB".toUTF8)]⟩

theorem readValues_eq_lines_mixed : mixedLines.read ⟨"", ["mixed.txt"]⟩ = .ok " A\r\n\rB\u2028\n".toUTF8 ∧
    readValues mixedLines ⟨"", ["mixed.txt"]⟩ = .ok ["A", "B"] ∧
    readValues mixedLines ⟨"", ["changed.txt"]⟩ = .ok ["A", "B"] ∧
    readValues mixedLines ⟨"", ["written.txt"]⟩ = .ok ["A", "B"] := by
  have hread : mixedLines.read ⟨"", ["mixed.txt"]⟩ = .ok " A\r\n\rB\u2028\n".toUTF8 := by decide +kernel
  have hvalues : readValues mixedLines ⟨"", ["mixed.txt"]⟩ = .ok ["A", "B"] := by decide +kernel
  obtain ⟨values, hmixed, -, -, hchanged, hwritten⟩ := readValues_eq_lines hread
  obtain rfl := Except.ok.inj (hvalues.symm.trans hmixed)
  have hchange : LineChange " A\r\n\rB\u2028\n".toList " A\n\rB\u2028\n".toList :=
    .ending [' ', 'A'] .both .feed ['\r', 'B', '\u2028', '\n']
  have hwrites : WritesLines ["A", "B"] "A\r\nB".toList := .line "A" .both (.last "B")
  exact ⟨hread, hvalues, hchanged mixedLines ⟨"", ["changed.txt"]⟩ _ (.rel _ _ hchange) (by decide +kernel),
    hwritten mixedLines ⟨"", ["written.txt"]⟩ _ hwrites (by decide +kernel)⟩

end LabelPress.Sources
