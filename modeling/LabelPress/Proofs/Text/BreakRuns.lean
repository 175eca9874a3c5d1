import LabelPress.Proofs.Text.Sanitized
import Mathlib.Data.List.Induction

/-!
# Runs of line breaks

What sanitising makes of a text, said without the scan that does it: every maximal run of line breaks is one space,
every double quote is a single one, and the rest stands as it is (`SanitizesTo`). The scan carries whether the
character before was a line break, so a text goes through it piece by piece (`sanitizeFrom_append`), and two texts
that meet in a run lose one space of the two (`sanitize_collapses`).
-/

namespace LabelPress
variable {inBreak : Bool} {cs out run : List Char}

/-- A text and what it becomes if every maximal run of line breaks is made one space and every double quote a single
one. A run starts behind something else, as the run before has been taken to its end. -/
inductive SanitizesTo : List Char → List Char → Prop
  | nil : SanitizesTo [] []
  | keep {c : Char} {cs out : List Char} (hbreak : isLineBreak c = false) (hquote : c ≠ '"')
    (h : SanitizesTo cs out) : SanitizesTo (c :: cs) (c :: out)
  | quote {cs out : List Char} (h : SanitizesTo cs out) : SanitizesTo ('"' :: cs) ('\'' :: out)
  | run {run cs out : List Char} (hne : run ≠ []) (hrun : ∀ c ∈ run, isLineBreak c = true)
    (hmax : ∀ c, cs.head? = some c → isLineBreak c = false) (h : SanitizesTo cs out) :
    SanitizesTo (run ++ cs) (' ' :: out)

/-! ## The scan -/

theorem sanitizeFrom_of_isLineBreak {c : Char} (hc : isLineBreak c = true) (cs : List Char) :
    sanitizeFrom inBreak (c :: cs) = (if inBreak then [] else [' ']) ++ sanitizeFrom true cs := by
  rw [sanitizeFrom, if_pos hc]
  cases inBreak <;> rfl

theorem sanitizeFrom_of_not_isLineBreak {c : Char} (hc : isLineBreak c = false) (cs : List Char) :
    sanitizeFrom inBreak (c :: cs) = (if c = '"' then '\'' else c) :: sanitizeFrom false cs := by
  rw [sanitizeFrom, if_neg (Bool.eq_false_iff.1 hc)]

/-- Whether the scan is in a run of line breaks behind a text. -/
def breakAfter (inBreak : Bool) (cs : List Char) : Bool :=
  cs.getLast?.elim inBreak isLineBreak

theorem breakAfter_cons (c : Char) (cs : List Char) :
    breakAfter inBreak (c :: cs) = breakAfter (isLineBreak c) cs := by
  cases cs with
  | nil => rfl
  | cons d cs =>
    rw [breakAfter, breakAfter, List.getLast?_cons_cons, List.getLast?_cons]
    rfl

/-- **A text is scanned piece by piece**: of the first piece the second one needs to know its last character only. -/
theorem sanitizeFrom_append (inBreak : Bool) (cs ds : List Char) :
    sanitizeFrom inBreak (cs ++ ds) = sanitizeFrom inBreak cs ++ sanitizeFrom (breakAfter inBreak cs) ds := by
  induction cs generalizing inBreak with
  | nil => rfl
  | cons c cs ih =>
    rw [List.cons_append, breakAfter_cons]
    cases hc : isLineBreak c with
    | true => rw [sanitizeFrom_of_isLineBreak hc, sanitizeFrom_of_isLineBreak hc, ih, List.append_assoc]
    | false => rw [sanitizeFrom_of_not_isLineBreak hc, sanitizeFrom_of_not_isLineBreak hc, ih, List.cons_append]

/-- Where no line break follows, it does not matter whether one came before. -/
theorem sanitizeFrom_true_of_head? (h : ∀ c, cs.head? = some c → isLineBreak c = false) :
    sanitizeFrom true cs = sanitizeFrom false cs := by
  cases cs with
  | nil => rfl
  | cons c cs => rw [sanitizeFrom_of_not_isLineBreak (h c rfl), sanitizeFrom_of_not_isLineBreak (h c rfl)]

/-- A run that has been given its space leaves nothing. -/
theorem sanitizeFrom_true_run (hrun : ∀ c ∈ run, isLineBreak c = true) (cs : List Char) :
    sanitizeFrom true (run ++ cs) = sanitizeFrom true cs := by
  induction run with
  | nil => rfl
  | cons c run ih =>
    obtain ⟨hc, hrun⟩ := List.forall_mem_cons.1 hrun
    rw [List.cons_append, sanitizeFrom_of_isLineBreak hc, ih hrun]
    rfl

theorem sanitizeFrom_run (hne : run ≠ []) (hrun : ∀ c ∈ run, isLineBreak c = true) (cs : List Char) :
    sanitizeFrom false (run ++ cs) = ' ' :: sanitizeFrom true cs := by
  cases run with
  | nil => exact absurd rfl hne
  | cons c run =>
    obtain ⟨hc, hrun⟩ := List.forall_mem_cons.1 hrun
    rw [List.cons_append, sanitizeFrom_of_isLineBreak hc, sanitizeFrom_true_run hrun]
    rfl

theorem length_sanitizeFrom_le (inBreak : Bool) (cs : List Char) :
    (sanitizeFrom inBreak cs).length ≤ cs.length := by
  induction cs generalizing inBreak with
  | nil => exact Nat.le_refl 0
  | cons c cs ih =>
    cases hc : isLineBreak c with
    | true =>
      have hspace : (if inBreak then [] else [' ']).length ≤ 1 := by cases inBreak <;> decide
      rw [sanitizeFrom_of_isLineBreak hc, List.length_append, List.length_cons, Nat.add_comm]
      exact Nat.add_le_add (ih true) hspace
    | false =>
      rw [sanitizeFrom_of_not_isLineBreak hc, List.length_cons, List.length_cons]
      exact Nat.succ_le_succ (ih false)

theorem sanitizeFrom_eq_self (h : ∀ c ∈ cs, c ≠ '"' ∧ isLineBreak c = false) : sanitizeFrom inBreak cs = cs := by
  induction cs generalizing inBreak with
  | nil => rfl
  | cons c cs ih =>
    obtain ⟨⟨hquote, hbreak⟩, hcs⟩ := List.forall_mem_cons.1 h
    rw [sanitizeFrom_of_not_isLineBreak hbreak, if_neg hquote, ih hcs]

/-! ## The scan and the rule -/

/-- The scan follows the rule. In a run, what has been passed of it is a run as well, which the rule takes as a whole
when it ends. -/
theorem sanitizesTo_sanitizeFrom (cs : List Char) : SanitizesTo cs (sanitizeFrom false cs) ∧
    ∀ run, run ≠ [] → (∀ c ∈ run, isLineBreak c = true) → SanitizesTo (run ++ cs) (' ' :: sanitizeFrom true cs) := by
  induction cs with
  | nil =>
    refine ⟨.nil, fun run hne hrun => .run hne hrun (fun c hc => ?_) .nil⟩
    cases hc
  | cons c cs ih =>
    cases hc : isLineBreak c with
    | true =>
      constructor
      · rw [sanitizeFrom_of_isLineBreak hc]
        exact ih.2 [c] (List.cons_ne_nil c []) (List.forall_mem_singleton.2 hc)
      · intro run hne hrun
        rw [sanitizeFrom_of_isLineBreak hc, List.append_cons]
        refine ih.2 (run ++ [c]) (List.append_ne_nil_of_left_ne_nil hne _) ?_
        exact List.forall_mem_append.2 ⟨hrun, List.forall_mem_singleton.2 hc⟩
    | false =>
      have hrest : SanitizesTo (c :: cs) (sanitizeFrom false (c :: cs)) := by
        rw [sanitizeFrom_of_not_isLineBreak hc]
        split
        · next hquote =>
          subst hquote
          exact .quote ih.1
        · next hquote => exact .keep hc hquote ih.1
      refine ⟨hrest, fun run hne hrun => ?_⟩
      have hhead : ∀ d, (c :: cs).head? = some d → isLineBreak d = false := by
        rintro d ⟨rfl⟩
        exact hc
      rw [sanitizeFrom_true_of_head? hhead]
      exact .run hne hrun hhead hrest

theorem SanitizesTo.eq (h : SanitizesTo cs out) : out = sanitizeFrom false cs := by
  induction h with
  | nil => rfl
  | keep hbreak hquote _ ih => rw [sanitizeFrom_of_not_isLineBreak hbreak, if_neg hquote, ih]
  | quote _ ih =>
    rw [sanitizeFrom_of_not_isLineBreak (by decide), if_pos rfl, ih]
  | run hne hrun hmax _ ih => rw [sanitizeFrom_run hne hrun, sanitizeFrom_true_of_head? hmax, ih]

theorem sanitizesTo_iff (s t : String) : SanitizesTo s.toList t.toList ↔ t = sanitize s := by
  rw [sanitize, ← String.toList_inj, String.toList_ofList]
  constructor
  · exact SanitizesTo.eq
  · intro h
    rw [h]
    exact (sanitizesTo_sanitizeFrom s.toList).1

/-! ## Sanitised texts -/

/-- Whether a text starts with a line break. -/
def startsInBreak (s : String) : Bool :=
  s.toList.head?.any isLineBreak

/-- Whether a text ends with a line break. -/
def endsInBreak (s : String) : Bool :=
  s.toList.getLast?.any isLineBreak

theorem breakAfter_false (s : String) : breakAfter false s.toList = endsInBreak s := by
  unfold breakAfter endsInBreak
  cases s.toList.getLast? <;> rfl

theorem toList_sanitize (s : String) : (sanitize s).toList = sanitizeFrom false s.toList :=
  String.toList_ofList

theorem toList_sanitize_append (s t : String) :
    (sanitize (s ++ t)).toList = (sanitize s).toList ++ sanitizeFrom (endsInBreak s) t.toList := by
  rw [toList_sanitize, toList_sanitize, String.toList_append, sanitizeFrom_append, breakAfter_false]

/-- Texts that do not meet in a run are sanitised apart from each other. -/
theorem sanitize_append {s t : String} (h : ¬(endsInBreak s = true ∧ startsInBreak t = true)) :
    sanitize (s ++ t) = sanitize s ++ sanitize t := by
  rw [← String.toList_inj, toList_sanitize_append, String.toList_append, toList_sanitize t,
    List.append_cancel_left_eq]
  cases hend : endsInBreak s with
  | false => rfl
  | true =>
    refine sanitizeFrom_true_of_head? fun c hc => Bool.eq_false_iff.2 fun hbreak => h ⟨hend, ?_⟩
    rw [startsInBreak, hc]
    exact hbreak

/-- The last run of a text leaves the last space. -/
theorem exists_sanitizeFrom_eq_concat (h : breakAfter false cs = true) :
    ∃ before, sanitizeFrom false cs = before ++ [' '] := by
  induction cs using List.reverseRecOn with
  | nil => cases h
  | append_singleton cs c ih =>
    have hc : isLineBreak c = true := by
      rwa [breakAfter, List.getLast?_concat] at h
    rw [sanitizeFrom_append, sanitizeFrom_of_isLineBreak hc]
    cases hcs : breakAfter false cs with
    | false => exact ⟨sanitizeFrom false cs, rfl⟩
    | true =>
      -- The run began earlier, so its space stands already.
      obtain ⟨before, hbefore⟩ := ih hcs
      refine ⟨before, ?_⟩
      rw [hbefore]
      exact List.append_nil _

/-- Texts that meet in a run keep one of the two spaces that it leaves in them. -/
theorem exists_sanitize_meeting {s t : String} (hs : endsInBreak s = true) (ht : startsInBreak t = true) :
    ∃ before after, sanitize s = before ++ " " ∧ sanitize t = " " ++ after ∧
      sanitize (s ++ t) = before ++ " " ++ after := by
  obtain ⟨before, hbefore⟩ := exists_sanitizeFrom_eq_concat ((breakAfter_false s).trans hs)
  have hafter : sanitizeFrom false t.toList = ' ' :: sanitizeFrom true t.toList := by
    unfold startsInBreak at ht
    cases hcs : t.toList with
    | nil =>
      rw [hcs] at ht
      cases ht
    | cons c cs =>
      rw [hcs] at ht
      rw [sanitizeFrom_of_isLineBreak ht, sanitizeFrom_of_isLineBreak ht]
      rfl
  have hspace : " ".toList = [' '] := by decide
  refine ⟨String.ofList before, String.ofList (sanitizeFrom true t.toList), ?_, ?_, ?_⟩
  · rw [← String.toList_inj, toList_sanitize, hbefore, String.toList_append, hspace, String.toList_ofList]
  · rw [← String.toList_inj, toList_sanitize, hafter, String.toList_append, hspace, String.toList_ofList]
    rfl
  · rw [← String.toList_inj, toList_sanitize_append, hs, toList_sanitize, hbefore, String.toList_append,
      String.toList_append, hspace, String.toList_ofList, String.toList_ofList]

/-- **What sanitising does** to any text: it follows the rule for runs and quotes, which leaves one text only; no line
break and no double quote is left; the text does not grow; a second time changes nothing; and texts are sanitised
apart from each other, but for the second space of a run in which they meet. -/
theorem sanitize_collapses (s : String) :
    (∀ t : String, SanitizesTo s.toList t.toList ↔ t = sanitize s) ∧
    (∀ c ∈ (sanitize s).toList, c ≠ '\r' ∧ c ≠ '\n' ∧ c ≠ '"') ∧
    (sanitize s).length ≤ s.length ∧
    sanitize (sanitize s) = sanitize s ∧
    ∀ t : String, if endsInBreak s = true ∧ startsInBreak t = true then
      ∃ before after, sanitize s = before ++ " " ∧ sanitize t = " " ++ after ∧
        sanitize (s ++ t) = before ++ " " ++ after
    else sanitize (s ++ t) = sanitize s ++ sanitize t := by
  have hclean : ∀ c ∈ (sanitize s).toList, c ≠ '"' ∧ isLineBreak c = false := by
    intro c hc
    rw [toList_sanitize] at hc
    exact of_mem_sanitizeFrom hc
  refine ⟨sanitizesTo_iff s, fun c hc => ?_, ?_, ?_, fun t => ?_⟩
  · obtain ⟨hquote, hbreak⟩ := hclean c hc
    rw [isLineBreak, Bool.or_eq_false_iff, decide_eq_false_iff_not, decide_eq_false_iff_not] at hbreak
    exact ⟨hbreak.1, hbreak.2, hquote⟩
  · rw [← String.length_toList, ← String.length_toList, toList_sanitize]
    exact length_sanitizeFrom_le false s.toList
  · rw [← String.toList_inj, toList_sanitize (sanitize s)]
    exact sanitizeFrom_eq_self hclean
  · split
    · next h => exact exists_sanitize_meeting h.1 h.2
    · next h => exact sanitize_append h

/-- A quote and a run of two line breaks, in front of another such run. -/
theorem sanitize_collapses_meeting :
    ' ' ∈ (sanitize "\"\r\n").toList ∧ (' ' ≠ '\r' ∧ ' ' ≠ '\n' ∧ ' ' ≠ '"') ∧
    (endsInBreak "\"\r\n" = true ∧ startsInBreak "\n\rb" = true) ∧
    ∃ before after, sanitize "\"\r\n" = before ++ " " ∧ sanitize "\n\rb" = " " ++ after ∧
      sanitize ("\"\r\n" ++ "\n\rb") = before ++ " " ++ after := by
  obtain ⟨-, hclean, -, -, happend⟩ := sanitize_collapses "\"\r\n"
  have hspace : ' ' ∈ (sanitize "\"\r\n").toList := by decide
  have hmeet : endsInBreak "\"\r\n" = true ∧ startsInBreak "\n\rb" = true := by decide
  refine ⟨hspace, hclean ' ' hspace, hmeet, ?_⟩
  simpa only [if_pos hmeet] using happend "\n\rb"

end LabelPress
