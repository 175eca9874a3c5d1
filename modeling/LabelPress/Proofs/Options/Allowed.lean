import LabelPress.Options.Resolution
import LabelPress.Proofs.Options.Given

/-!
# Allowed choices

What a setting may be set to (`Setting.Allows`). A check accepts nothing else (`check_allows`) and the stocks
have nothing else (`stock_allows`), so every layout that options resolve to is allowed in every setting
(`resolve_allows`). This is all that rendering knows of where a layout comes from.
-/

namespace LabelPress

/-- A text that can stand as an argument without quotes. -/
def IsBareToken (s : String) : Prop :=
  s ≠ "" ∧ ∀ c ∈ s.toList, Options.splitsArgument c = false

/-- A text that can stand between quotes as it is. -/
def IsFontName (s : String) : Prop :=
  s ≠ "" ∧ ∀ c ∈ s.toList, Options.endsQuoted c = false

/-- A codepage that can stand as an argument: any number, and a name that is a bare token. -/
def Codepage.IsBare : Codepage → Prop
  | .number _ => True
  | .name s => IsBareToken s

/-- Positions that lie on the page side of the reference point. -/
def AreOnPage (table : List Position) : Prop :=
  ∀ p ∈ table, 0 ≤ p.x ∧ 0 ≤ p.y

/-- What a setting may be set to. -/
def Setting.Allows : (s : Setting) → s.Choice → Prop
  | .width, n | .height, n | .speed, n => n.isPositive = true
  | .gap, n => n.isNonnegative = true
  | .density, n => 0 ≤ n ∧ n ≤ 15
  | .ribbonOn, _ | .tearOn, _ | .includeIdText, _ => True
  | .codepage, c => c.IsBare
  | .itemsPerPage, n => 1 ≤ n
  | .qrPositions, table => table ≠ [] ∧ AreOnPage table
  | .textPositions, table | .idTextPositions, table | .nameTextPositions, table => AreOnPage table
  | .qrModel, s | .qrMask, s | .qrErrorLevel, s => IsBareToken s
  | .qrSize, n => 1 ≤ n ∧ n ≤ 10
  | .qrRotation, n | .textRotation, n | .nameTextRotation, n => n ∈ Options.rotations
  | .textFont, s | .nameTextFont, s => IsFontName s
  | .textXMul, n | .textYMul, n | .nameTextXMul, n | .nameTextYMul, n => n.isPositive = true

-- Instances are named where a search could settle on one that goes through all characters there are.
instance (s : String) : Decidable (IsBareToken s) :=
  @instDecidableAnd _ _ _ (List.decidableBAll _ s.toList)

instance (s : String) : Decidable (IsFontName s) :=
  @instDecidableAnd _ _ _ (List.decidableBAll _ s.toList)

instance : (c : Codepage) → Decidable c.IsBare
  | .number _ => isTrue trivial
  | .name s => inferInstanceAs (Decidable (IsBareToken s))

instance (table : List Position) : Decidable (AreOnPage table) :=
  inferInstanceAs (Decidable (∀ p ∈ table, 0 ≤ p.x ∧ 0 ≤ p.y))

instance : (s : Setting) → (c : s.Choice) → Decidable (s.Allows c)
  | .width, n | .height, n | .speed, n => inferInstanceAs (Decidable (n.isPositive = true))
  | .gap, n => inferInstanceAs (Decidable (n.isNonnegative = true))
  | .density, n => inferInstanceAs (Decidable (0 ≤ n ∧ n ≤ 15))
  | .ribbonOn, _ | .tearOn, _ | .includeIdText, _ => isTrue trivial
  | .codepage, c => inferInstanceAs (Decidable c.IsBare)
  | .itemsPerPage, n => inferInstanceAs (Decidable (1 ≤ n))
  | .qrPositions, table => inferInstanceAs (Decidable (table ≠ [] ∧ AreOnPage table))
  | .textPositions, table | .idTextPositions, table | .nameTextPositions, table =>
    inferInstanceAs (Decidable (AreOnPage table))
  | .qrModel, s | .qrMask, s | .qrErrorLevel, s => inferInstanceAs (Decidable (IsBareToken s))
  | .qrSize, n => inferInstanceAs (Decidable (1 ≤ n ∧ n ≤ 10))
  | .qrRotation, n | .textRotation, n | .nameTextRotation, n =>
    inferInstanceAs (Decidable (n ∈ Options.rotations))
  | .textFont, s | .nameTextFont, s => inferInstanceAs (Decidable (IsFontName s))
  | .textXMul, n | .textYMul, n | .nameTextXMul, n | .nameTextYMul, n =>
    inferInstanceAs (Decidable (n.isPositive = true))

/-- A layout with an allowed choice for every setting. -/
def Layout.IsAllowed (l : Layout) : Prop :=
  ∀ s : Setting, s.Allows (l s)

namespace Options

/-! ## Readings -/

theorem toList_isEmpty_iff {s : String} : s.toList.isEmpty = true ↔ s = "" := by
  rw [List.isEmpty_iff, String.toList_eq_nil_iff]

theorem isEmpty_or_any_eq_false {s : String} {p : Char → Bool} :
    ¬ (s.toList.isEmpty || s.toList.any p) = true ↔ s ≠ "" ∧ ∀ c ∈ s.toList, p c = false := by
  rw [Bool.or_eq_true, not_or, toList_isEmpty_iff, Bool.not_eq_true, List.any_eq_false]
  simp only [Bool.not_eq_true, ne_eq]

theorem requireBareToken_eq_ok_iff {s t : String} : requireBareToken s = .ok t ↔ IsBareToken s ∧ t = s := by
  unfold requireBareToken
  split
  · next hs =>
    refine iff_of_false (fun h => nomatch h) ?_
    rintro ⟨hbare, -⟩
    exact isEmpty_or_any_eq_false.2 hbare hs
  · next hs =>
    rw [Except.ok.injEq, eq_comm]
    exact ⟨fun h => ⟨isEmpty_or_any_eq_false.1 hs, h⟩, And.right⟩

theorem bareToken_eq_ok_iff {v : Value} {s : String} : bareToken v = .ok s ↔ text v = .ok s ∧ IsBareToken s := by
  refine except_bind_eq_ok.trans ?_
  simp only [requireBareToken_eq_ok_iff]
  constructor
  · rintro ⟨t, ht, hbare, rfl⟩
    exact ⟨ht, hbare⟩
  · rintro ⟨hs, hbare⟩
    exact ⟨s, hs, hbare, rfl⟩

theorem fontName_eq_ok_iff {v : Value} {s : String} : fontName v = .ok s ↔ text v = .ok s ∧ IsFontName s := by
  refine except_bind_eq_ok.trans ?_
  constructor
  · rintro ⟨t, ht, h⟩
    split at h
    · cases h
    · next hfont =>
      obtain rfl := Except.ok.inj h
      exact ⟨ht, isEmpty_or_any_eq_false.1 hfont⟩
  · rintro ⟨hs, hfont⟩
    exact ⟨s, hs, if_neg (isEmpty_or_any_eq_false.2 hfont)⟩

theorem positive_eq_ok_iff {v : Value} {n : Number} :
    positive v = .ok n ↔ ∃ x, double v = .ok x ∧ x.isPositive = true ∧ n = .real x := by
  refine except_bind_eq_ok.trans (exists_congr fun x => and_congr_right fun _ => ?_)
  split
  · next hx =>
    rw [Except.ok.injEq, eq_comm]
    exact (and_iff_right hx).symm
  · next hx => exact iff_of_false (fun h => nomatch h) fun h => hx h.1

theorem nonnegative_eq_ok_iff {v : Value} {n : Number} :
    nonnegative v = .ok n ↔ ∃ x, double v = .ok x ∧ x.isNonnegative = true ∧ n = .real x := by
  refine except_bind_eq_ok.trans (exists_congr fun x => and_congr_right fun _ => ?_)
  split
  · next hx =>
    rw [Except.ok.injEq, eq_comm]
    exact (and_iff_right hx).symm
  · next hx => exact iff_of_false (fun h => nomatch h) fun h => hx h.1

theorem wholeWithin_eq_ok_iff {low high : Option Int} {lowFault : Int → OptionFault} {v : Value} {n : Int} :
    wholeWithin low high lowFault v = .ok n ↔
      whole v = .ok n ∧ (∀ l ∈ low, l ≤ n) ∧ (∀ u ∈ high, n ≤ u) := by
  refine except_bind_eq_ok.trans ?_
  constructor
  · rintro ⟨m, hm, h⟩
    cases low <;> cases high <;> dsimp only at h <;> (repeat' split at h) <;> cases h <;>
      refine ⟨hm, ?_⟩ <;> simp <;> omega
  · rintro ⟨hn, hlow, hhigh⟩
    refine ⟨n, hn, ?_⟩
    have hlow : ∀ l ∈ low, ¬ n < l := fun l hl => Int.not_lt.2 (hlow l hl)
    have hhigh : ∀ u ∈ high, ¬ u < n := fun u hu => Int.not_lt.2 (hhigh u hu)
    cases low <;> cases high <;> simp_all only [Option.mem_def, Option.some.injEq, forall_eq', if_false]

theorem rotation_eq_ok {v : Value} {n : Int} (h : rotation v = .ok n) : n ∈ rotations := by
  unfold rotation at h
  split at h
  · split at h
    · next hn =>
      obtain rfl := Except.ok.inj h
      exact List.contains_iff_mem.1 hn
    · split at h <;> cases h
  · split at h
    · next hr =>
      obtain rfl := Except.ok.inj h
      exact List.mem_of_find?_eq_some hr
    · cases h

theorem atKey_eq_ok {α : Type} {key : String} {r : Except OptionFault α} {x : α} :
    atKey key r = .ok x ↔ r = .ok x :=
  except_mapError_eq_ok

theorem codepage_eq_ok {key : String} {v : Value} {c : Codepage} (h : codepage key v = .ok c) :
    c.IsBare := by
  have named {s : String} (hs : (atKey key (requireBareToken s)).map Codepage.name = .ok c) : c.IsBare := by
    obtain ⟨t, ht, rfl⟩ := except_map_eq_ok.1 hs
    obtain ⟨hbare, rfl⟩ := requireBareToken_eq_ok_iff.1 (atKey_eq_ok.1 ht)
    exact hbare
  unfold codepage at h
  split at h
  · exact named h
  · split at h
    · obtain rfl := Except.ok.inj h
      trivial
    · exact named h
    · cases h

/-! ## Position tables -/

theorem both_eq_ok {α β : Type} {a : Except (List OptionDetail) α} {b : Except (List OptionDetail) β}
    {x : α} {y : β} : both a b = .ok (x, y) ↔ a = .ok x ∧ b = .ok y := by
  cases a <;> cases b <;> simp [both]

theorem coordinate_eq_ok_iff {place : Place} {axis : String} {given : Option Value} {n : Int} :
    coordinate place axis given = .ok n ↔ ∃ v, given = some v ∧ whole v = .ok n ∧ 0 ≤ n := by
  cases given with
  | none => exact iff_of_false (fun h => nomatch h) (fun ⟨_, h, _⟩ => nomatch h)
  | some v =>
    refine except_mapError_eq_ok.trans (wholeWithin_eq_ok_iff.trans ?_)
    simp

theorem positionOfMembers_eq_ok_iff {place : Place} {m : Mapping} {p : Position} :
    positionOfMembers place m = .ok p ↔ coordinate place "x" (m.get? "x") = .ok p.x ∧
      coordinate place "y" (m.get? "y") = .ok p.y ∧ strayMembers place m = [] := by
  refine except_map_eq_ok.trans ?_
  constructor
  · rintro ⟨⟨⟨x, y⟩, u⟩, h, rfl⟩
    obtain ⟨hxy, hstray⟩ := both_eq_ok.1 h
    obtain ⟨hx, hy⟩ := both_eq_ok.1 hxy
    refine ⟨hx, hy, ?_⟩
    split at hstray
    · next hnil => exact hnil
    · cases hstray
  · rintro ⟨hx, hy, hstray⟩
    rw [hstray]
    exact ⟨((p.x, p.y), ()), both_eq_ok.2 ⟨both_eq_ok.2 ⟨hx, hy⟩, rfl⟩, rfl⟩

@[simp] theorem members_x (x y : Value) : Mapping.get? (members x y) "x" = some x := rfl

@[simp] theorem members_y (x y : Value) : Mapping.get? (members x y) "y" = some y := rfl

theorem positionOfMembers_members {place : Place} {x y : Value} {p : Position} :
    positionOfMembers place (members x y) = .ok p ↔
      (whole x = .ok p.x ∧ 0 ≤ p.x) ∧ whole y = .ok p.y ∧ 0 ≤ p.y := by
  have hstray : strayMembers place (members x y) = [] := rfl
  simp [positionOfMembers_eq_ok_iff, coordinate_eq_ok_iff, hstray]

theorem positionOfMembers_isOnPage {place : Place} {m : Mapping} {p : Position}
    (h : positionOfMembers place m = .ok p) : 0 ≤ p.x ∧ 0 ≤ p.y := by
  obtain ⟨hx, hy, -⟩ := positionOfMembers_eq_ok_iff.1 h
  obtain ⟨_, -, -, hx⟩ := coordinate_eq_ok_iff.1 hx
  obtain ⟨_, -, -, hy⟩ := coordinate_eq_ok_iff.1 hy
  exact ⟨hx, hy⟩

theorem entry_isOnPage {place : Place} {v : Value} {p : Position} (h : entry place v = .ok p) :
    0 ≤ p.x ∧ 0 ≤ p.y := by
  unfold entry at h
  split at h
  case h_5 => cases h
  all_goals exact positionOfMembers_isOnPage h

theorem entries_cons_eq_ok_iff {key : String} {i : Nat} {v : Value} {vs : List Value} {table : List Position} :
    entries key i (v :: vs) = .ok table ↔ ∃ p ps, table = p :: ps ∧
      entry [.key key, .index i] v = .ok p ∧ entries key (i + 1) vs = .ok ps := by
  refine except_map_eq_ok.trans ?_
  constructor
  · rintro ⟨⟨p, ps⟩, h, rfl⟩
    exact ⟨p, ps, rfl, both_eq_ok.1 h⟩
  · rintro ⟨p, ps, rfl, h⟩
    exact ⟨(p, ps), both_eq_ok.2 h, rfl⟩

theorem entries_areOnPage {key : String} {vs : List Value} {i : Nat} {table : List Position}
    (h : entries key i vs = .ok table) : AreOnPage table := by
  induction vs generalizing i table with
  | nil =>
    obtain rfl := Except.ok.inj h
    exact fun p hp => absurd hp List.not_mem_nil
  | cons v vs ih =>
    obtain ⟨p, ps, rfl, hp, hps⟩ := entries_cons_eq_ok_iff.1 h
    exact List.forall_mem_cons.2 ⟨entry_isOnPage hp, ih hps⟩

/-- A table is read from a list or tuple, one entry after another, or from a set of nothing. -/
theorem positions_eq_ok {key : String} {v : Value} {table : List Position} (h : positions key v = .ok table) :
    (∃ items, (v = .list items ∨ v = .tuple items) ∧ entries key 0 items = .ok table) ∨
      v = .set [] ∧ table = [] := by
  unfold positions at h
  split at h
  case h_1 items | h_2 items =>
    split at h
    · cases h
    · exact .inl ⟨items, by simp, h⟩
  · split at h
    · exact .inr ⟨rfl, (Except.ok.inj h).symm⟩
    · cases h
  · cases h

theorem positions_areOnPage {key : String} {v : Value} {table : List Position}
    (h : positions key v = .ok table) : AreOnPage table := by
  obtain ⟨items, -, hentries⟩ | ⟨-, rfl⟩ := positions_eq_ok h
  · exact entries_areOnPage hentries
  · exact fun p hp => absurd hp List.not_mem_nil

theorem qrPositions_eq_ok_iff {key : String} {v : Value} {table : List Position} :
    qrPositions key v = .ok table ↔ positions key v = .ok table ∧ table ≠ [] := by
  unfold qrPositions
  split
  · next hnil =>
    refine iff_of_false (fun h => nomatch h) ?_
    rintro ⟨htable, hne⟩
    rw [hnil] at htable
    exact hne (Except.ok.inj htable).symm
  · next hne =>
    refine ⟨fun h => ⟨h, ?_⟩, And.left⟩
    rintro rfl
    exact hne h

/-! ## All settings -/

/-- **A check accepts allowed choices only.** -/
theorem check_allows {s : Setting} {key : String} {v : Value} {c : s.Choice}
    (h : check s key v = .ok c) : s.Allows c := by
  cases s with
  | width | height | speed | textXMul | textYMul | nameTextXMul | nameTextYMul =>
    obtain ⟨x, -, hpos, rfl⟩ := positive_eq_ok_iff.1 (atKey_eq_ok.1 h)
    exact hpos
  | gap =>
    obtain ⟨x, -, hnonneg, rfl⟩ := nonnegative_eq_ok_iff.1 (atKey_eq_ok.1 h)
    exact hnonneg
  | density | qrSize =>
    obtain ⟨-, hlow, hhigh⟩ := wholeWithin_eq_ok_iff.1 (atKey_eq_ok.1 h)
    exact ⟨hlow _ rfl, hhigh _ rfl⟩
  | itemsPerPage => exact (wholeWithin_eq_ok_iff.1 (atKey_eq_ok.1 h)).2.1 1 rfl
  | ribbonOn | tearOn | includeIdText => trivial
  | codepage => exact codepage_eq_ok h
  | qrPositions =>
    obtain ⟨htable, hne⟩ := qrPositions_eq_ok_iff.1 h
    exact ⟨hne, positions_areOnPage htable⟩
  | textPositions | idTextPositions | nameTextPositions => exact positions_areOnPage h
  | qrModel | qrMask | qrErrorLevel => exact (bareToken_eq_ok_iff.1 (atKey_eq_ok.1 h)).2
  | textFont | nameTextFont => exact (fontName_eq_ok_iff.1 (atKey_eq_ok.1 h)).2
  | qrRotation | textRotation | nameTextRotation => exact rotation_eq_ok (atKey_eq_ok.1 h)

theorem validate_allows {m : Mapping} {o : Overrides} (h : validate m = .ok o) {s : Setting}
    {c : s.Choice} (hc : o s = some c) : s.Allows c := by
  obtain ⟨_, _, -, hcheck⟩ := (chosen_iff h).1 hc
  exact check_allows hcheck

end Options

/-! ## Layouts -/

theorem stock_allows (stock : Stock) : stock.layout.IsAllowed := by
  intro s
  cases stock <;> cases s <;> decide

theorem Layout.override_of_some {l : Layout} {o : Overrides} {s : Setting} {c : s.Choice} (h : o s = some c) :
    l.override o s = c := by
  rw [override, h, Option.getD_some]

theorem Layout.override_of_none {l : Layout} {o : Overrides} {s : Setting} (h : o s = none) :
    l.override o s = l s := by
  rw [override, h, Option.getD_none]

theorem Layout.IsAllowed.override {l : Layout} (hl : l.IsAllowed) {o : Overrides}
    (ho : ∀ (s : Setting) (c : s.Choice), o s = some c → s.Allows c) : (l.override o).IsAllowed := by
  intro s
  cases hc : o s with
  | none =>
    rw [override_of_none hc]
    exact hl s
  | some c =>
    rw [override_of_some hc]
    exact ho s c hc

theorem Options.resolve_outcome (stock : Stock) (options : Options) :
    (options.resolve stock).outcome = options.overrides.map stock.layout.override := by
  simp only [Options.resolve, Logged.outcome_bind, Logged.outcome_ofExcept, Logged.outcome_report,
    Logged.outcome_pure, Setting.tabulate_eq]
  rfl

theorem Options.resolve_eq_ok_iff {stock : Stock} {options : Options} {l : Layout} :
    (options.resolve stock).outcome = .ok l ↔
      ∃ o, options.overrides = .ok o ∧ stock.layout.override o = l := by
  rw [resolve_outcome, except_map_eq_ok]

/-- Options that a caller can hold: overrides are only called validated when they come out of a
validation. -/
def Options.IsGenuine : Options → Prop
  | .given _ => True
  | .validated o => ∃ m, Options.validate m = .ok o

/-- **Options resolve to allowed layouts only.** -/
theorem resolve_allows {stock : Stock} {options : Options} (hg : options.IsGenuine) {l : Layout}
    (h : (options.resolve stock).outcome = .ok l) : l.IsAllowed := by
  obtain ⟨o, ho, rfl⟩ := Options.resolve_eq_ok_iff.1 h
  refine (stock_allows stock).override fun s c hc => ?_
  unfold Options.overrides at ho
  split at ho
  · obtain rfl := Except.ok.inj ho
    obtain ⟨m, hm⟩ := hg
    exact Options.validate_allows hm hc
  · obtain rfl := Except.ok.inj ho
    cases hc
  · exact Options.validate_allows (except_mapError_eq_ok.1 ho) hc
  · cases ho

end LabelPress
