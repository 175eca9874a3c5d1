import LabelPress.Proofs.Document.Alike
import LabelPress.Proofs.Number.Whole
import LabelPress.Proofs.Options.Names
import LabelPress.Proofs.Options.Printable
import LabelPress.Proofs.Pitch

/-!
# Restating choices

A choice can be written out as a value and given as an option (`Setting.Writes`). What is read of it need not be the
same, since options hold all numbers as doubles, but it prints alike (`Options.check_of_writes`). An option for a
setting that a mapping does not name can be put behind it, and decides this setting alone (`Options.validate_append`).
So the choices of a stock can be restated in any valid mapping, and the layout prints as before
(`Options.exists_validate_restated`).
-/

namespace LabelPress

/-! ## Numbers held in two ways -/

namespace Number
variable {a b : Number}

/-- A number that is held as a double, or would be one without rounding. -/
def IsShort : Number → Prop
  | .whole n => n.natAbs < 2 ^ 53
  | .real _ => True

/-- Numbers that are the same, or the same whole number in two ways. -/
def Same (a b : Number) : Prop :=
  a = b ∨ ∃ k : Int, a.value? = some (k : ℚ) ∧ b.value? = some (k : ℚ)

theorem Same.text_eq (h : a.Same b) : a.text = b.text := by
  obtain rfl | ⟨k, ha, hb⟩ := h
  · rfl
  · rw [text_of_value ha, text_of_value hb]

theorem Same.pitch_eq (h : a.Same b) (ha : a.isPositive = true) (hb : b.isPositive = true) :
    Pitch.text? a = Pitch.text? b := by
  obtain rfl | ⟨k, hka, hkb⟩ := h
  · rfl
  · rw [Pitch.text?_of_value ha hka, Pitch.text?_of_value hb hkb]

theorem Same.isPositive_iff (h : a.Same b) : a.isPositive = true ↔ b.isPositive = true := by
  obtain rfl | ⟨k, ha, hb⟩ := h
  · rfl
  · rw [isPositive_of_value ha, isPositive_of_value hb]

theorem Same.isNonnegative_iff (h : a.Same b) : a.isNonnegative = true ↔ b.isNonnegative = true := by
  obtain rfl | ⟨k, ha, hb⟩ := h
  · rfl
  · rw [isNonnegative_of_value ha, isNonnegative_of_value hb]

end Number

/-! ## Writing a choice -/

namespace Setting

/-- A value that writes a choice: a list of positions for a table, and a plain number, truth value or text for
anything else. -/
def Writes : (s : Setting) → s.Choice → Value → Prop
  | .qrPositions, c, v | .textPositions, c, v | .idTextPositions, c, v | .nameTextPositions, c, v =>
    Options.WritesTable c v
  | s, c, v => v = Options.valueOf s c

/-- A choice that is no number, or one that a double holds. -/
def IsShort : (s : Setting) → s.Choice → Prop
  | .width, n | .height, n | .gap, n | .speed, n => n.IsShort
  | .textXMul, n | .textYMul, n | .nameTextXMul, n | .nameTextYMul, n => n.IsShort
  | _, _ => True

theorem Writes.ne_null {s : Setting} {c : s.Choice} {v : Value} (h : s.Writes c v) : v ≠ .null := by
  cases s with
  | qrPositions | textPositions | idTextPositions | nameTextPositions =>
    obtain ⟨items, rfl | rfl, -⟩ := h <;> exact fun h => nomatch h
  | _ => exact h ▸ Options.valueOf_ne_null _ c

end Setting

theorem stock_isShort (stock : Stock) (s : Setting) : s.IsShort (stock.layout s) := by
  cases stock <;> cases s <;> simp [Setting.IsShort, Number.IsShort, Stock.layout, Stock.wideWidth]

namespace Options
variable {m : Mapping} {o : Overrides} {s : Setting} {key : String} {v : Value}

theorem exists_double_of_isShort {n : Number} (h : n.IsShort) :
    ∃ x, double (valueOf.number n) = .ok x ∧ (Number.real x).Same n := by
  cases n with
  | real x => exact ⟨x, rfl, .inl rfl⟩
  | whole k =>
    have hvalue := Binary64.value?_ofInt h
    have hfinite : (Binary64.ofInt k).isFinite = true := by
      cases hx : Binary64.ofInt k with
      | finite _ _ _ => rfl
      | _ =>
        rw [hx] at hvalue
        cases hvalue
    exact ⟨Binary64.ofInt k, if_pos hfinite, .inr ⟨k, hvalue, rfl⟩⟩

theorem exists_positive_of_isShort {n : Number} (h : n.IsShort) (hn : n.isPositive = true) :
    ∃ a, positive (valueOf.number n) = .ok a ∧ a.isPositive = true ∧ a.Same n := by
  obtain ⟨x, hx, hsame⟩ := exists_double_of_isShort h
  have hpos := hsame.isPositive_iff.2 hn
  exact ⟨.real x, positive_eq_ok_iff.2 ⟨x, hx, hpos, rfl⟩, hpos, hsame⟩

theorem exists_nonnegative_of_isShort {n : Number} (h : n.IsShort) (hn : n.isNonnegative = true) :
    ∃ a, nonnegative (valueOf.number n) = .ok a ∧ a.Same n := by
  obtain ⟨x, hx, hsame⟩ := exists_double_of_isShort h
  exact ⟨.real x, nonnegative_eq_ok_iff.2 ⟨x, hx, hsame.isNonnegative_iff.2 hn, rfl⟩, hsame⟩

/-- **What is read of a written choice prints like it.** -/
theorem check_of_writes {c : s.Choice} (hallows : s.Allows c) (hshort : s.IsShort c) (h : s.Writes c v) :
    ∃ c', check s key v = .ok c' ∧ s.PrintsLike c' c := by
  cases s with
  | width | speed | textXMul | textYMul | nameTextXMul | nameTextYMul =>
    obtain rfl := h
    obtain ⟨a, ha, -, hsame⟩ := exists_positive_of_isShort hshort hallows
    exact ⟨a, atKey_eq_ok.2 ha, hsame.text_eq⟩
  | height =>
    obtain rfl := h
    obtain ⟨a, ha, hpos, hsame⟩ := exists_positive_of_isShort hshort hallows
    exact ⟨a, atKey_eq_ok.2 ha, hsame.text_eq, hsame.pitch_eq hpos hallows⟩
  | gap =>
    obtain rfl := h
    obtain ⟨a, ha, hsame⟩ := exists_nonnegative_of_isShort hshort hallows
    exact ⟨a, atKey_eq_ok.2 ha, hsame.text_eq⟩
  | qrPositions => exact ⟨c, qrPositions_eq_ok_iff.2 ⟨positions_of_writes h hallows.2, hallows.1⟩, rfl⟩
  | textPositions | idTextPositions | nameTextPositions => exact ⟨c, positions_of_writes h hallows, rfl⟩
  | _ =>
    obtain rfl := h
    exact ⟨c, check_valueOf_of_allows hallows trivial, rfl⟩

/-! ## One more option -/

theorem given?_append_of_ne {t : Setting} (hts : t ≠ s) (hkey : s.GoesBy key) (m : Mapping) (v : Value) :
    given? (m ++ [(.text key, v)]) t = given? m t := by
  have hget : ∀ other ∈ t.keys, Mapping.get? (m ++ [(.text key, v)]) other = m.get? other := by
    intro other hother
    refine Mapping.get?_append_of_ne (fun he => ?_) m v
    exact hts (Setting.eq_of_goesBy (Setting.goesBy_iff.2 hother) (he ▸ hkey))
  unfold given?
  generalize t.keys = keys at hget
  induction keys with
  | nil => rfl
  | cons other keys ih =>
    obtain ⟨hother, hkeys⟩ := List.forall_mem_cons.1 hget
    rw [List.findSome?_cons, List.findSome?_cons, hother, ih hkeys]

theorem given?_append_self (hunnamed : ∀ key v, ¬ m.Names s key v) (hkey : s.GoesBy key) (v : Value) :
    given? (m ++ [(.text key, v)]) s = some (key, v) := by
  apply given?_of_names ⟨hkey, List.mem_append_right m List.mem_cons_self⟩
  intro other w ⟨hother, hmem⟩
  rcases List.mem_append.1 hmem with hold | hnew
  · exact absurd ⟨hother, hold⟩ (hunnamed other w)
  · simpa using hnew

/-- **An option for a setting that is not named yet** decides this setting and no other. -/
theorem validate_append (h : validate m = .ok o) (hunnamed : ∀ key v, ¬ m.Names s key v) (hkey : s.GoesBy key)
    (hv : v ≠ .null) {c : s.Choice} (hcheck : check s key v = .ok c) :
    validate (m ++ [(.text key, v)]) = .ok (Function.update o s (some c)) := by
  obtain ⟨hchecks, htaken⟩ := validate_eq_ok_iff.1 h
  have hself := given?_append_self hunnamed hkey v
  have hother : ∀ t, t ≠ s → given? (m ++ [(.text key, v)]) t = given? m t :=
    fun t ht => given?_append_of_ne ht hkey m v
  refine validate_eq_ok_iff.2 ⟨fun t => ?_, List.forall_mem_append.2 ⟨fun entry hentry => ?_, ?_⟩⟩
  · by_cases ht : t = s
    · subst ht
      rw [Function.update_self]
      exact checkSetting_eq_some_iff.2 ⟨key, v, hself, hv, hcheck⟩
    · rw [Function.update_of_ne ht, ← hchecks t, checkSetting, checkSetting, hother t ht]
  · obtain ⟨other, hentry, htaken⟩ := htaken entry hentry
    obtain ⟨t, w, hgiven⟩ := isTaken_iff.1 htaken
    have ht : t ≠ s := by
      rintro rfl
      exact hunnamed other w (names_of_given? hgiven)
    exact ⟨other, hentry, isTaken_iff.2 ⟨t, w, (hother t ht).trans hgiven⟩⟩
  · exact List.forall_mem_singleton.2 ⟨key, rfl, isTaken_iff.2 ⟨s, v, hself⟩⟩

/-! ## Restating what a stock has -/

/-- An entry that gives a setting what a stock has for it. -/
def Restates (stock : Stock) (s : Setting) (entry : Value × Value) : Prop :=
  ∃ key, s.GoesBy key ∧ entry.1 = .text key ∧ s.Writes (stock.layout s) entry.2

variable {stock : Stock} {entry : Value × Value}

theorem exists_validate_append (h : validate m = .ok o) (hunnamed : ∀ key v, ¬ m.Names s key v)
    (hentry : Restates stock s entry) : ∃ o', validate (m ++ [entry]) = .ok o' ∧
      (stock.layout.override o').PrintsLike (stock.layout.override o) := by
  obtain ⟨k, v⟩ := entry
  obtain ⟨key, hkey, rfl, hwrites⟩ := hentry
  obtain ⟨c, hcheck, hlike⟩ : ∃ c, check s key v = .ok c ∧ s.PrintsLike c (stock.layout s) :=
    check_of_writes (stock_allows stock s) (stock_isShort stock s) hwrites
  refine ⟨_, validate_append h hunnamed hkey hwrites.ne_null hcheck, fun t => ?_⟩
  by_cases ht : t = s
  · subst ht
    have hnone : o t = none := by
      refine (notChosen_iff h).2 fun other w hsets => ?_
      exact hunnamed other w ⟨Setting.goesBy_iff.2 hsets.1, Mapping.mem_of_get? hsets.2.1⟩
    rw [Layout.override_of_some (Function.update_self t (some c) o), Layout.override_of_none hnone]
    exact hlike
  · rw [Layout.override, Function.update_of_ne ht]
    exact .refl t _

/-- **Stock choices can be restated** in a valid mapping, for settings that it does not name. -/
theorem exists_validate_restated {settings : List Setting} {added : Mapping} (h : validate m = .ok o)
    (hnodup : settings.Nodup) (hunnamed : ∀ s ∈ settings, ∀ key v, ¬ m.Names s key v)
    (hadded : List.Forall₂ (Restates stock) settings added) : ∃ o', validate (m ++ added) = .ok o' ∧
      (stock.layout.override o').PrintsLike (stock.layout.override o) := by
  induction hadded generalizing m o with
  | nil => exact ⟨o, by rwa [List.append_nil], .refl _⟩
  | @cons s entry settings added hentry _ ih =>
    obtain ⟨hs, hunnamed⟩ := List.forall_mem_cons.1 hunnamed
    obtain ⟨hfresh, hnodup⟩ := List.nodup_cons.1 hnodup
    obtain ⟨o', ho', hlike⟩ := exists_validate_append h hs hentry
    have hunnamed' : ∀ t ∈ settings, ∀ key v, ¬ Mapping.Names (m ++ [entry]) t key v := by
      intro t ht key v hnames
      rcases List.mem_append.1 hnames.2 with hold | hnew
      · exact hunnamed t ht key v ⟨hnames.1, hold⟩
      · -- The new entry is under a name of another setting.
        obtain ⟨other, hother, hkey, -⟩ := hentry
        obtain rfl := List.mem_singleton.1 hnew
        obtain rfl := Value.text.inj hkey
        exact hfresh (Setting.eq_of_goesBy hnames.1 hother ▸ ht)
    obtain ⟨o'', ho'', hlike'⟩ := ih ho' hnodup hunnamed'
    exact ⟨o'', by rwa [List.append_cons], hlike'.trans hlike⟩

end Options
end LabelPress
