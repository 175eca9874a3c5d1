import Mathlib.Data.List.Forall2
import LabelPress.Proofs.Options.Allowed

/-!
# Layouts setting by setting

Resolving treats every setting apart from the others (`resolve_settingwise`): what a valid mapping sets is as
the check reads it, whatever it is and under whichever key it stands, and everything else is that of the stock.
A table has the positions of the value that gives it, in their order (`GivesTable`).
-/

namespace LabelPress.Options

/-! ## The positions of a value -/

/-- A value that gives a position: the position itself, its coordinates as a pair, or each under its key. -/
inductive GivesPosition : Value → Position → Prop where
  | position (p : Position) : GivesPosition (.position p) p
  | list {x y : Value} {p : Position} (hx : whole x = .ok p.x) (hy : whole y = .ok p.y) :
    GivesPosition (.list [x, y]) p
  | tuple {x y : Value} {p : Position} (hx : whole x = .ok p.x) (hy : whole y = .ok p.y) :
    GivesPosition (.tuple [x, y]) p
  | map {m : Mapping} {x y : Value} {p : Position} (hgetx : m.get? "x" = some x) (hgety : m.get? "y" = some y)
    (hx : whole x = .ok p.x) (hy : whole y = .ok p.y) : GivesPosition (.map m) p

/-- A value that gives a table: items that give its positions one by one, or a set of nothing. -/
inductive GivesTable : Value → List Position → Prop where
  | list {items : List Value} {table : List Position} (h : List.Forall₂ GivesPosition items table) :
    GivesTable (.list items) table
  | tuple {items : List Value} {table : List Position} (h : List.Forall₂ GivesPosition items table) :
    GivesTable (.tuple items) table
  | emptySet : GivesTable (.set []) []

theorem entry_gives {place : Place} {v : Value} {p : Position} (h : entry place v = .ok p) :
    GivesPosition v p := by
  unfold entry at h
  split at h
  · next q =>
    obtain ⟨⟨hx, -⟩, hy, -⟩ := positionOfMembers_members.1 h
    obtain rfl : q = p := by
      rw [Position.mk.injEq]
      exact ⟨Except.ok.inj hx, Except.ok.inj hy⟩
    exact .position q
  · obtain ⟨⟨hx, -⟩, hy, -⟩ := positionOfMembers_members.1 h
    exact .list hx hy
  · obtain ⟨⟨hx, -⟩, hy, -⟩ := positionOfMembers_members.1 h
    exact .tuple hx hy
  · obtain ⟨hx, hy, -⟩ := positionOfMembers_eq_ok_iff.1 h
    obtain ⟨x, hgetx, hx, -⟩ := coordinate_eq_ok_iff.1 hx
    obtain ⟨y, hgety, hy, -⟩ := coordinate_eq_ok_iff.1 hy
    exact .map hgetx hgety hx hy
  · cases h

theorem entries_give {key : String} {items : List Value} {i : Nat} {table : List Position}
    (h : entries key i items = .ok table) : List.Forall₂ GivesPosition items table := by
  induction items generalizing i table with
  | nil =>
    obtain rfl := Except.ok.inj h
    exact .nil
  | cons v vs ih =>
    obtain ⟨p, ps, rfl, hp, hps⟩ := entries_cons_eq_ok_iff.1 h
    exact .cons (entry_gives hp) (ih hps)

theorem positions_give {key : String} {v : Value} {table : List Position} (h : positions key v = .ok table) :
    GivesTable v table := by
  obtain ⟨items, rfl | rfl, hentries⟩ | ⟨rfl, rfl⟩ := positions_eq_ok h
  · exact .list (entries_give hentries)
  · exact .tuple (entries_give hentries)
  · exact .emptySet

theorem positions_of_check {t : Table} {l : Layout} {key : String} {v : Value}
    (h : check t.setting key v = .ok (l t.setting)) : positions key v = .ok (l.table t) := by
  cases t with
  | qr => exact (qrPositions_eq_ok_iff.1 h).1
  | text | idText | nameText => exact h

theorem check_givesTable {t : Table} {l : Layout} {key : String} {v : Value}
    (h : check t.setting key v = .ok (l t.setting)) : GivesTable v (l.table t) :=
  positions_give (positions_of_check h)

/-! ## Resolving -/

/-- **Options are resolved setting by setting.** Of a valid mapping, a setting of the layout is what the
mapping sets it to, as its check reads it, or that of the stock if the mapping does not set it; the tables have
the given positions in order; and the overrides that the mapping validates to resolve like the mapping. A mapping
that is not valid resolves to no layout. -/
theorem resolve_settingwise (stock : Stock) (m : Mapping) :
    (∀ o, validate m = .ok o → ∃ l : Layout,
      ((Options.given (.map m)).resolve stock).outcome = .ok l ∧
      (Options.validated o).resolve stock = (Options.given (.map m)).resolve stock ∧
      (∀ (s : Setting) (key : String) (v : Value), m.Sets s key v →
        ∃ c, check s key v = .ok c ∧ o s = some c ∧ l s = c) ∧
      (∀ s : Setting, (∀ key v, ¬ m.Sets s key v) → o s = none ∧ l s = stock.layout s) ∧
      ∀ (t : Table) (key : String) (v : Value), m.Sets t.setting key v → GivesTable v (l.table t)) ∧
    ∀ details, validate m = .error details →
      ((Options.given (.map m)).resolve stock).outcome = .error (.invalid details) := by
  constructor
  · intro o h
    have hoverrides : (Options.given (.map m)).overrides = .ok o := except_mapError_eq_ok.2 h
    refine ⟨stock.layout.override o, resolve_eq_ok_iff.2 ⟨o, hoverrides, rfl⟩, ?_, ?_, ?_, ?_⟩
    · unfold Options.resolve
      rw [hoverrides]
      rfl
    · intro s key v hsets
      obtain ⟨c, hcheck, hc⟩ := chosen_of_sets h hsets
      exact ⟨c, hcheck, hc, Layout.override_of_some hc⟩
    · intro s hunset
      have hnone := (notChosen_iff h).2 hunset
      exact ⟨hnone, Layout.override_of_none hnone⟩
    · intro t key v hsets
      obtain ⟨c, hcheck, hc⟩ := chosen_of_sets h hsets
      rw [← Layout.override_of_some (l := stock.layout) hc] at hcheck
      exact check_givesTable hcheck
  · intro details h
    rw [resolve_outcome, Options.overrides, h]
    rfl

/-- What counts as nothing elsewhere is a choice here, and only null is none; a position is read in any notation. -/
theorem resolve_settingwise_zeroGap :
    let written : Value := .list [.tuple [.int 8, .text "16"], .position ⟨0, 1⟩]
    let m : Mapping := [(.text "gapMm", .int 0), (.text "ribbon_on", .bool false), (.text "speed", .null),
      (.text "textPositions", written)]
    ∃ l : Layout, ((Options.given (.map m)).resolve .medium).outcome = .ok l ∧
      l .gap = .real Binary64.zero ∧ l .ribbonOn = false ∧ l .speed = Stock.medium.layout .speed ∧
      l .textPositions = [⟨8, 16⟩, ⟨0, 1⟩] ∧ GivesTable written (l.table .text) := by
  intro written m
  have hvalid : (validate m).toBool = true := by decide +kernel
  obtain ⟨o, ho⟩ : ∃ o, validate m = .ok o := by
    cases h : validate m with
    | error details =>
      rw [h] at hvalid
      cases hvalid
    | ok o => exact ⟨o, rfl⟩
  obtain ⟨l, hl, -, hset, hunset, htable⟩ := (resolve_settingwise .medium m).1 o ho
  have hread : ∀ (s : Setting) (key : String) (v : Value) (c : s.Choice), m.Sets s key v → check s key v = .ok c →
      l s = c := by
    intro s key v c hsets hcheck
    obtain ⟨c', hcheck', -, hc'⟩ := hset s key v hsets
    rw [hc', Except.ok.inj (hcheck.symm.trans hcheck')]
  have hpositions : m.Sets .textPositions "textPositions" written := ⟨by decide, rfl, fun h => nomatch h⟩
  refine ⟨l, hl, ?_, ?_, (hunset .speed ?_).2, ?_, htable .text _ _ hpositions⟩
  · exact hread .gap "gapMm" (.int 0) _ ⟨by decide, rfl, fun h => nomatch h⟩ rfl
  · exact hread .ribbonOn "ribbon_on" (.bool false) _ ⟨by decide, rfl, fun h => nomatch h⟩ rfl
  · rintro key v ⟨hkey, hget, hnull⟩
    obtain rfl : key = "speed" := by simpa [Setting.keys] using hkey
    exact hnull (Option.some.inj hget).symm
  · exact hread .textPositions _ _ _ hpositions rfl

end LabelPress.Options
