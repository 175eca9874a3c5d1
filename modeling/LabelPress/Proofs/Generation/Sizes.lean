import LabelPress.Proofs.Generation.Reports
import LabelPress.Proofs.Text.Lines
import LabelPress.Proofs.Text.LowerCase
import Mathlib.Data.Bool.AllAny

/-!
# The stock for a size

A size fits a stock if it is this stock, or a text that spells the name or the dimensions of it, whatever blanks stand
around the text and whichever of its ASCII letters are capitals. No size fits two stocks. Labels for a size that fits
are made as on its stock, and for any other size as on the small one, after one warning (`Generation.sizes_dispatch`).
-/

namespace LabelPress

/-! ## Sizes that fit -/

/-- A text that names a stock: without the blanks at its ends it spells the name or the dimensions. -/
def Stock.IsNamedBy (s : Stock) (tag : String) : Prop :=
  ∃ core, IsTrimmed isBlank tag.toList core ∧ (Spells core s.name.toList ∨ Spells core s.dimensions.toList)

/-- A size that fits a stock: the stock itself, or a text that names it. -/
inductive Size.Fits : Size → Stock → Prop
  | stock (s : Stock) : Fits (.stock s) s
  | text {s : Stock} {tag : String} (h : s.IsNamedBy tag) : Fits (.value (.text tag)) s

namespace Stock
variable {s : Stock} {tag key : String}

theorem isPlainLower_of_mem_tags (s : Stock) :
    (∀ d ∈ s.name.toList, IsPlainLower d) ∧ ∀ d ∈ s.dimensions.toList, IsPlainLower d := by
  rw [← List.all_iff_forall_prop, ← List.all_iff_forall_prop]
  cases s <;> exact ⟨by decide +kernel, by decide +kernel⟩

theorem isNamedBy_iff : s.IsNamedBy tag ↔ Spells (trimBlank tag).toList s.name.toList ∨
    Spells (trimBlank tag).toList s.dimensions.toList := by
  rw [trimBlank, String.toList_ofList]
  constructor
  · rintro ⟨core, hcore, hspells⟩
    rwa [hcore.trimBy_eq]
  · exact fun hspells => ⟨_, isTrimmed_trimBy isBlank tag.toList, hspells⟩

/-- No two stocks share a tag. -/
theorem find?_tag_eq_some_iff :
    (all.find? fun stock => key = stock.name || key = stock.dimensions) = some s ↔
      key = s.name ∨ key = s.dimensions := by
  constructor
  · intro h
    have hkey := List.find?_some (p := fun stock : Stock => key = stock.name || key = stock.dimensions) h
    simpa only [Bool.or_eq_true, decide_eq_true_eq] using hkey
  · rintro (rfl | rfl) <;> cases s <;> decide +kernel

theorem ofTag?_eq_some_iff : ofTag? tag = some s ↔ s.IsNamedBy tag := by
  obtain ⟨hname, hdimensions⟩ := s.isPlainLower_of_mem_tags
  rw [ofTag?, find?_tag_eq_some_iff, lowerCase_eq_iff hname, lowerCase_eq_iff hdimensions, isNamedBy_iff]

end Stock

namespace Size
variable {size : Size} {s s' : Stock}

theorem fits_value_iff {v : Value} : (Size.value v).Fits s ↔ Stock.ofValue? v = some s := by
  constructor
  · rintro (_ | h)
    rw [Stock.ofValue?]
    exact Stock.ofTag?_eq_some_iff.2 h
  · intro h
    unfold Stock.ofValue? at h
    split at h
    · exact .text (Stock.ofTag?_eq_some_iff.1 h)
    · cases h

theorem Fits.unique (h : size.Fits s) (h' : size.Fits s') : s = s' := by
  cases size with
  | stock given =>
    cases h
    cases h'
    rfl
  | value v => exact Option.some.inj ((fits_value_iff.1 h).symm.trans (fits_value_iff.1 h'))

/-- A character beyond ASCII, but for blanks at the ends, keeps a text from naming a stock. -/
theorem not_fits_of_beyond_ascii {tag : String} {core : List Char} {c : Char}
    (hcore : IsTrimmed isBlank tag.toList core) (hc : c ∈ core) (hbeyond : 0x80 ≤ c.toNat) :
    ¬ (Size.value (.text tag)).Fits s := by
  rintro ⟨⟩
  next h =>
    obtain ⟨core', hcore', hspells⟩ := h
    -- Both are what trimming leaves of the text, so there is one core only.
    obtain rfl := hcore.trimBy_eq.symm.trans hcore'.trimBy_eq
    obtain ⟨hname, hdimensions⟩ := s.isPlainLower_of_mem_tags
    have hascii : c.toNat < 0x80 := hspells.elim (·.ascii hname c hc) (·.ascii hdimensions c hc)
    omega

end Size

/-! ## Labels for a size -/

/-- Whether an event warns of a size that names no stock. -/
def Event.isUnknownSize : Event → Bool
  | .unknownSize _ => true
  | _ => false

namespace Generation
variable {size : Size} {stock : Stock} {warnings : List Event}

/-- A size comes to a stock after some warnings: labels for it are made as on this stock, with these warnings in front
and no other of their kind. -/
structure Dispatches (size : Size) (stock : Stock) (warnings : List Event) : Prop where
  resolved : ∀ ε, (stockFor size : Logged ε Stock) = ⟨warnings, .ok stock⟩
  records_outcome : ∀ records options,
    (recordsFor size records options).outcome = (assemble records stock options).outcome
  records_events : ∀ records options,
    (recordsFor size records options).events = warnings ++ (assemble records stock options).events
  records_warnings : ∀ records options, (recordsFor size records options).events.filter Event.isUnknownSize = warnings
  values_outcome : ∀ values options,
    (valuesFor values size options).outcome = (assembleValues values stock options).outcome
  values_events : ∀ values options,
    (valuesFor values size options).events = warnings ++ (assembleValues values stock options).events
  values_warnings : ∀ values options, (valuesFor values size options).events.filter Event.isUnknownSize = warnings

theorem isUnknownSize_eq_false {e : Event} (h : e.isUnderflow = true ∨ e.severity = .debug) :
    e.isUnknownSize = false := by
  cases e <;> simp_all [Event.isUnderflow, Event.severity, Event.isUnknownSize]

theorem filter_isUnknownSize {events : List Event} (hwarnings : ∀ e ∈ warnings, e.isUnknownSize = true)
    (hevents : ∀ e ∈ events, e.isUnderflow = true ∨ e.severity = .debug) :
    (warnings ++ events).filter Event.isUnknownSize = warnings := by
  have hnone : events.filter Event.isUnknownSize = [] :=
    List.filter_eq_nil_iff.2 fun e he => by simp [isUnknownSize_eq_false (hevents e he)]
  rw [List.filter_append, List.filter_eq_self.2 hwarnings, hnone, List.append_nil]

theorem dispatches_of_stockFor (hsize : ∀ ε, (stockFor size : Logged ε Stock) = ⟨warnings, .ok stock⟩)
    (hwarnings : ∀ e ∈ warnings, e.isUnknownSize = true) : Dispatches size stock warnings := by
  have hrecords : ∀ records options, recordsFor size records options =
      ⟨warnings ++ (assemble records stock options).events, (assemble records stock options).outcome⟩ := by
    intro records options
    rw [recordsFor, hsize]
    rfl
  have hvalues : ∀ values options, valuesFor values size options =
      ⟨warnings ++ (assembleValues values stock options).events, (assembleValues values stock options).outcome⟩ := by
    intro values options
    rw [valuesFor, hsize]
    rfl
  refine ⟨hsize, ?_, ?_, ?_, ?_, ?_, ?_⟩
  · intro records options
    rw [hrecords]
  · intro records options
    rw [hrecords]
  · intro records options
    rw [hrecords]
    exact filter_isUnknownSize hwarnings fun e => mem_assemble_events
  · intro values options
    rw [hvalues]
  · intro values options
    rw [hvalues]
  · intro values options
    rw [hvalues]
    exact filter_isUnknownSize hwarnings fun e => mem_assembleValues_events

theorem dispatches_of_fits (h : size.Fits stock) : Dispatches size stock [] := by
  refine dispatches_of_stockFor (fun ε => ?_) (fun e he => absurd he List.not_mem_nil)
  cases size with
  | stock given =>
    cases h
    rfl
  | value v =>
    rw [stockFor, resolveSize, Size.fits_value_iff.1 h]
    rfl

theorem dispatches_of_not_fits (h : ∀ s, ¬ size.Fits s) :
    ∃ v, size = .value v ∧ Dispatches size .small [.unknownSize v] := by
  cases size with
  | stock given => exact absurd (.stock given) (h given)
  | value v =>
    have hnone : Stock.ofValue? v = none :=
      Option.eq_none_iff_forall_ne_some.2 fun s hs => h s (Size.fits_value_iff.2 hs)
    refine ⟨v, rfl, dispatches_of_stockFor (fun ε => ?_) (List.forall_mem_singleton.2 rfl)⟩
    rw [stockFor, resolveSize, hnone]
    rfl

/-- The warning is known by its wording. -/
theorem isUnknownSize_iff {e : Event} : e.isUnknownSize = true ↔
    e.severity = .warning ∧ "Unknown label size ".toList <+: e.message.toList := by
  cases e with
  | unknownSize given =>
    have hmessage : (Event.unknownSize given).message =
        "Unknown label size " ++ given.shown ++ ", using " ++ Stock.small.name := rfl
    rw [String.append_assoc, String.append_assoc] at hmessage
    have hprefix := (congrArg String.toList hmessage).trans (String.toList_append ..)
    exact iff_of_true rfl ⟨rfl, _, hprefix.symm⟩
  | underflow report builtIn =>
    refine iff_of_false Bool.false_ne_true fun h => ?_
    obtain ⟨rest, hrest⟩ := h.2
    have hmessage := hrest.trans (String.toList_append ..)
    -- The two wordings part at their first letter.
    have hunknown : "Unknown label size ".toList = 'U' :: "nknown label size ".toList := rfl
    have hposition : "Position table underflow: ".toList = 'P' :: "osition table underflow: ".toList := rfl
    rw [hunknown, hposition, List.cons_append, List.cons_append] at hmessage
    exact absurd (List.cons.inj hmessage).1 (by decide)
  | _ => simp [Event.isUnknownSize, Event.severity]

/-- **A size comes to the one stock that it fits, and to the small one if there is none.** So no letter that looks like
one of a tag, and none whose lower case has an ASCII letter in it, makes a text fit. -/
theorem sizes_dispatch :
    (∀ size stock, Size.Fits size stock → Dispatches size stock []) ∧
    (∀ size, (∀ stock, ¬ Size.Fits size stock) → ∃ v, size = .value v ∧ Dispatches size .small [.unknownSize v]) ∧
    (∀ tag core c, IsTrimmed isBlank tag.toList core → c ∈ core → 0x80 ≤ c.toNat →
      Dispatches (.value (.text tag)) .small [.unknownSize (.text tag)]) ∧
    (∀ size stock stock', Size.Fits size stock → Size.Fits size stock' → stock = stock') ∧
    ∀ e : Event, e.isUnknownSize = true ↔
      e.severity = .warning ∧ "Unknown label size ".toList <+: e.message.toList := by
  refine ⟨fun _ _ => dispatches_of_fits, fun _ => dispatches_of_not_fits, ?_, fun _ _ _ => Size.Fits.unique,
    fun _ => isUnknownSize_iff⟩
  intro tag core c hcore hc hbeyond
  obtain ⟨v, hv, hdispatches⟩ :=
    dispatches_of_not_fits fun _ => Size.not_fits_of_beyond_ascii hcore hc hbeyond
  obtain rfl := Size.value.inj hv
  exact hdispatches

/-- A name among blanks and with capitals, a value that is no text, and a name that begins with a long s. -/
theorem sizes_dispatch_medium_and_small :
    ((Size.value (.text " \u00a0MeDiUm\t")).Fits .medium ∧ Dispatches (.value (.text " \u00a0MeDiUm\t")) .medium [] ∧
      ¬ (Size.value (.text " \u00a0MeDiUm\t")).Fits .large) ∧
    ((∀ stock, ¬ (Size.value .null).Fits stock) ∧ Dispatches (.value .null) .small [.unknownSize .null]) ∧
    Dispatches (.value (.text "\u017fmall ")) .small [.unknownSize (.text "\u017fmall ")] ∧
    (Event.unknownSize .null).severity = .warning := by
  obtain ⟨hfits, hothers, hbeyond, hunique, hwarning⟩ := sizes_dispatch
  refine ⟨?_, ?_, ?_, ?_⟩
  · have hmedium : (Size.value (.text " \u00a0MeDiUm\t")).Fits .medium :=
      .text ⟨_, isTrimmed_trimBy isBlank _, .inl (by decide +kernel)⟩
    exact ⟨hmedium, hfits _ _ hmedium, fun hlarge => absurd (hunique _ _ _ hmedium hlarge) (by decide)⟩
  · have hnone : ∀ stock, ¬ (Size.value .null).Fits stock := fun _ => nofun
    obtain ⟨v, hv, hsmall⟩ := hothers _ hnone
    obtain rfl := Size.value.inj hv
    exact ⟨hnone, hsmall⟩
  · exact hbeyond _ _ 'ſ' (isTrimmed_trimBy isBlank _) (by decide +kernel) (by decide)
  · exact ((hwarning (.unknownSize .null)).1 rfl).1

end Generation
end LabelPress
