import LabelPress.Proofs.Generation.Reports
import LabelPress.Proofs.Options.Restated

/-!
# Documents with restated choices

What a stock has can be said again in the options, for any settings that they leave alone: the options are accepted
as before, and the documents and the reports on short tables are the same (`restating_prints_same`).
-/

namespace LabelPress

/-- Two generations with the same to show: the text of a document, or the same failure, and the same reports on short
tables. -/
structure Logged.ShowsAs (a b : Logged GenerationError Document) : Prop where
  text_eq : a.outcome.map Document.text = b.outcome.map Document.text
  reports_eq : a.events.filter Event.isUnderflow = b.events.filter Event.isUnderflow

namespace Layout.PrintsLike
variable {options options' : Options} {stock : Stock} {l l' : Layout}
  (hl : (options.resolve stock).outcome = .ok l) (hl' : (options'.resolve stock).outcome = .ok l')
include hl hl'

theorem assemble_showsAs (h : l.PrintsLike l') (records : List Record) :
    (Generation.assemble records stock options).ShowsAs (Generation.assemble records stock options') := by
  refine ⟨h.assemble_text hl hl' records, ?_⟩
  rw [Generation.assemble_reports hl, Generation.assemble_reports hl', h.recordTables_eq, h.underflowEvents_eq]

theorem ofValues_showsAs (h : l.PrintsLike l') {size : Value} (hsize : Generation.stockOf size = stock)
    (values : List String) :
    (Generation.ofValues values size options).ShowsAs (Generation.ofValues values size options') := by
  refine ⟨h.ofValues_text hl hl' hsize values, ?_⟩
  subst hsize
  rw [Generation.ofValues_reports hl, Generation.ofValues_reports hl', h.underflowEvents_eq]

end Layout.PrintsLike

namespace Generation
variable {stock : Stock} {m added : Mapping} {o : Overrides} {settings : List Setting}

theorem resolve_of_validate (stock : Stock) (h : Options.validate m = .ok o) :
    ((Options.given (.map m)).resolve stock).outcome = .ok (stock.layout.override o) :=
  Options.resolve_eq_ok_iff.2 ⟨o, except_mapError_eq_ok.2 h, rfl⟩

/-- **Restating what a stock has changes nothing.** A valid mapping stays valid with entries that give settings it
does not name, not even with null, what the stock has for them; and the options show the same for records and for
values as without these entries. -/
theorem restating_prints_same (h : Options.validate m = .ok o) (hnodup : settings.Nodup)
    (hunnamed : ∀ s ∈ settings, ∀ key v, ¬ m.Names s key v)
    (hadded : List.Forall₂ (Options.Restates stock) settings added) :
    (∃ o', Options.validate (m ++ added) = .ok o') ∧
    (∀ records, (assemble records stock (.given (.map (m ++ added)))).ShowsAs
      (assemble records stock (.given (.map m)))) ∧
    ∀ values size, stockOf size = stock → (ofValues values size (.given (.map (m ++ added)))).ShowsAs
      (ofValues values size (.given (.map m))) := by
  obtain ⟨o', ho', hlike⟩ := Options.exists_validate_restated h hnodup hunnamed hadded
  have hl := resolve_of_validate stock h
  have hl' := resolve_of_validate stock ho'
  refine ⟨⟨o', ho'⟩, hlike.assemble_showsAs hl' hl, ?_⟩
  intro values size hsize
  exact hlike.ofValues_showsAs hl' hl hsize values

/-- A medium stock with three labels to a page, whose width, height, tables and font are said again. -/
theorem restating_prints_same_medium :
    let m : Mapping := [(.text "itemsPerRow", .int 3)]
    let added : Mapping := [(.text "width_mm", .float (.finite false 7072058789855232 (-46))),
      (.text "heightMm", .int 50), (.text "qr_positions", .list [.tuple [.int 656, .int 257]]),
      (.text "idTextPositions", .list []), (.text "text_font", .text "0")]
    (∃ o, Options.validate m = .ok o) ∧ (∃ o', Options.validate (m ++ added) = .ok o') ∧
      ∀ records, (assemble records .medium (.given (.map (m ++ added)))).ShowsAs
        (assemble records .medium (.given (.map m))) := by
  intro m added
  obtain ⟨o, ho⟩ : ∃ o, Options.validate m = .ok o := ⟨_, rfl⟩
  have hunnamed : ∀ s ∈ [Setting.width, .height, .qrPositions, .idTextPositions, .textFont],
      ∀ key v, ¬ m.Names s key v := by
    intro s hs key v ⟨hkey, hmem⟩
    obtain ⟨rfl, rfl⟩ : key = "itemsPerRow" ∧ v = .int 3 := by simpa [m] using hmem
    obtain rfl : s = .itemsPerPage := Setting.eq_of_goesBy hkey (by decide)
    revert hs
    decide
  have hadded : List.Forall₂ (Options.Restates .medium)
      [Setting.width, .height, .qrPositions, .idTextPositions, .textFont] added := by
    refine .cons ⟨_, ?_, rfl, rfl⟩ (.cons ⟨_, ?_, rfl, rfl⟩ (.cons ⟨_, ?_, rfl, ⟨_, .inl rfl, ?_⟩⟩
      (.cons ⟨_, ?_, rfl, ⟨_, .inl rfl, .nil⟩⟩ (.cons ⟨_, ?_, rfl, rfl⟩ .nil))))
    · decide
    · decide
    · decide
    · exact .cons (.tuple ⟨656, 257⟩) .nil
    · decide
    · decide
  obtain ⟨hvalid, hrecords, -⟩ := restating_prints_same ho (by decide) hunnamed hadded
  exact ⟨⟨o, ho⟩, hvalid, hrecords⟩

end Generation
end LabelPress
