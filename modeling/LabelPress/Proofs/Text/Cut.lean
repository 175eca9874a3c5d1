import LabelPress.Text.Literal
import Mathlib.Data.List.Basic

/-!
# Cutting texts

A text is cut at its blank lines, or at the commas outside double quotes; both readings go from left to
right and know nothing of how the text was made. Cutting undoes joining: at blank lines as soon as no piece
holds a line feed (`cutAtBlankLines_intercalate`), at commas as soon as every piece is closed, which a text
without commas and quotes is and a quoted one is as well (`cutAtCommas_intercalate`).
-/

namespace LabelPress

/-- Joined texts start with the first one. -/
theorem exists_toList_intercalate (sep t : String) (texts : List String) :
    ∃ rest, (String.intercalate sep (t :: texts)).toList = t.toList ++ rest := by
  rw [String.toList_intercalate, List.map_cons]
  cases texts with
  | nil =>
    rw [List.map_nil, List.intercalate_singleton]
    exact ⟨[], (List.append_nil _).symm⟩
  | cons u texts =>
    rw [List.map_cons, List.intercalate_cons_cons, List.append_assoc]
    exact ⟨_, rfl⟩

/-! ## Blank lines -/

/-- The pieces of a text between its blank lines, taken from the left. -/
def cutAtBlankLines : List Char → List (List Char)
  | [] => [[]]
  | [c] => [[c]]
  | c :: d :: rest =>
    if c = '\n' ∧ d = '\n' then [] :: cutAtBlankLines rest
    else (cutAtBlankLines (d :: rest)).modifyHead (c :: ·)

theorem cutAtBlankLines_cons {c : Char} (hc : c ≠ '\n') (rest : List Char) :
    cutAtBlankLines (c :: rest) = (cutAtBlankLines rest).modifyHead (c :: ·) := by
  cases rest with
  | nil => rfl
  | cons d rest => rw [cutAtBlankLines, if_neg fun h => hc h.1]

theorem cutAtBlankLines_of_not_mem {l : List Char} (h : '\n' ∉ l) : cutAtBlankLines l = [l] := by
  induction l with
  | nil => rfl
  | cons c l ih =>
    rw [List.mem_cons, not_or] at h
    rw [cutAtBlankLines_cons (Ne.symm h.1), ih h.2]
    rfl

/-- A piece without line feeds ends at the blank line behind it. -/
theorem cutAtBlankLines_append {l : List Char} (h : '\n' ∉ l) (rest : List Char) :
    cutAtBlankLines (l ++ '\n' :: '\n' :: rest) = l :: cutAtBlankLines rest := by
  induction l with
  | nil =>
    rw [List.nil_append, cutAtBlankLines, if_pos ⟨rfl, rfl⟩]
  | cons c l ih =>
    rw [List.mem_cons, not_or] at h
    rw [List.cons_append, cutAtBlankLines_cons (Ne.symm h.1), ih h.2]
    rfl

/-- **Cutting at blank lines undoes joining by them.** -/
theorem cutAtBlankLines_intercalate {ls : List (List Char)} (hne : ls ≠ [])
    (h : ∀ l ∈ ls, '\n' ∉ l) : cutAtBlankLines (['\n', '\n'].intercalate ls) = ls := by
  induction ls with
  | nil => exact absurd rfl hne
  | cons l ls ih =>
    have hl := h l List.mem_cons_self
    cases ls with
    | nil => rw [List.intercalate_singleton, cutAtBlankLines_of_not_mem hl]
    | cons m ls =>
      have hrest := ih (List.cons_ne_nil m ls) fun x hx => h x (List.mem_cons_of_mem l hx)
      rw [List.intercalate_cons_cons, List.append_assoc]
      exact (cutAtBlankLines_append hl _).trans (congrArg (l :: ·) hrest)

/-- The pieces of a text between its blank lines. -/
def blankLinePieces (s : String) : List String :=
  (cutAtBlankLines s.toList).map String.ofList

theorem blankLinePieces_intercalate {ls : List String} (hne : ls ≠ [])
    (h : ∀ l ∈ ls, '\n' ∉ l.toList) : blankLinePieces (String.intercalate "\n\n" ls) = ls := by
  have hcut : cutAtBlankLines (['\n', '\n'].intercalate (ls.map String.toList)) =
      ls.map String.toList := by
    refine cutAtBlankLines_intercalate (by simpa using hne) fun l hl => ?_
    obtain ⟨s, hs, rfl⟩ := List.mem_map.1 hl
    exact h s hs
  have hsep : "\n\n".toList = ['\n', '\n'] := by decide
  rw [blankLinePieces, String.toList_intercalate, hsep, hcut, List.map_map]
  exact (List.map_congr_left fun s _ => String.ofList_toList).trans (List.map_id ls)

/-! ## Commas outside quotes -/

/-- The pieces of a text between the commas outside double quotes; `quoted` says that the text starts
inside of quotes. -/
def cutAtCommas : (quoted : Bool) → List Char → List (List Char)
  | _, [] => [[]]
  | quoted, c :: rest =>
    if c = ',' ∧ quoted = false then [] :: cutAtCommas false rest
    else (cutAtCommas (if c = '"' then !quoted else quoted) rest).modifyHead (c :: ·)

/-- A text that closes its quotes and has no comma outside of them: what follows it is cut as if it stood
alone. -/
def IsClosed (l : List Char) : Prop :=
  ∀ rest, cutAtCommas false (l ++ rest) = (cutAtCommas false rest).modifyHead (l ++ ·)

/-- The longest stretch that a cut passes without a comma to end at or a quote to turn at. -/
theorem cutAtCommas_append (quoted : Bool) {l : List Char} (hc : quoted = true ∨ ',' ∉ l)
    (hq : '"' ∉ l) (rest : List Char) :
    cutAtCommas quoted (l ++ rest) = (cutAtCommas quoted rest).modifyHead (l ++ ·) := by
  induction l with
  | nil => exact (congrFun List.modifyHead_id _).symm
  | cons c l ih =>
    rw [List.mem_cons, not_or] at hq
    have hne : ¬(c = ',' ∧ quoted = false) := by
      rintro ⟨rfl, rfl⟩
      rcases hc with hc | hc
      · exact Bool.false_ne_true hc
      · exact hc List.mem_cons_self
    have hc' : quoted = true ∨ ',' ∉ l := hc.imp_right fun h hm => h (List.mem_cons_of_mem c hm)
    rw [List.cons_append, cutAtCommas, if_neg hne, if_neg (Ne.symm hq.1), ih hc' hq.2,
      List.modifyHead_modifyHead]
    rfl

theorem isClosed_bare {l : List Char} (hc : ',' ∉ l) (hq : '"' ∉ l) : IsClosed l :=
  cutAtCommas_append false (.inr hc) hq

theorem isClosed_quoted {l : List Char} (hq : '"' ∉ l) : IsClosed ('"' :: l ++ ['"']) := by
  intro rest
  have hopen : ∀ (quoted : Bool) (r : List Char),
      cutAtCommas quoted ('"' :: r) = (cutAtCommas (!quoted) r).modifyHead ('"' :: ·) := by
    intro quoted r
    rw [cutAtCommas, if_neg fun h => absurd h.1 (by decide), if_pos rfl]
  rw [List.append_assoc, List.cons_append, List.singleton_append, hopen, Bool.not_false,
    cutAtCommas_append true (.inl rfl) hq, hopen, Bool.not_true, List.modifyHead_modifyHead,
    List.modifyHead_modifyHead]
  congr 1
  funext r
  simp

/-- **Cutting at commas undoes joining by them**, whatever commas stand inside of quotes. -/
theorem cutAtCommas_intercalate {ls : List (List Char)} (hne : ls ≠ [])
    (h : ∀ l ∈ ls, IsClosed l) : cutAtCommas false ([','].intercalate ls) = ls := by
  induction ls with
  | nil => exact absurd rfl hne
  | cons l ls ih =>
    have hl := h l List.mem_cons_self
    cases ls with
    | nil =>
      rw [List.intercalate_singleton]
      simpa [cutAtCommas] using hl []
    | cons m ls =>
      have hrest := ih (List.cons_ne_nil m ls) fun x hx => h x (List.mem_cons_of_mem l hx)
      rw [List.intercalate_cons_cons, List.append_assoc, hl, List.singleton_append, cutAtCommas,
        if_pos ⟨rfl, rfl⟩, hrest, List.modifyHead_cons, List.append_nil]

/-- The arguments of a command line: the pieces behind its keyword. -/
def argumentsOf (line : String) : List String :=
  (cutAtCommas false ((line.toList.dropWhile (· ≠ ' ')).drop 1)).map String.ofList

/-- The arguments that a keyword was joined to are read back. -/
theorem argumentsOf_intercalate {keyword : String} (hk : ' ' ∉ keyword.toList) {args : List String}
    (hne : args ≠ []) (h : ∀ a ∈ args, IsClosed a.toList) :
    argumentsOf (keyword ++ " " ++ String.intercalate "," args) = args := by
  have hcut : cutAtCommas false ([','].intercalate (args.map String.toList)) =
      args.map String.toList := by
    refine cutAtCommas_intercalate (by simpa using hne) fun l hl => ?_
    obtain ⟨s, hs, rfl⟩ := List.mem_map.1 hl
    exact h s hs
  have hsep : ",".toList = [','] := by decide
  have hblank : " ".toList = [' '] := by decide
  have hdrop : (keyword.toList ++ ([' '] ++ [','].intercalate (args.map String.toList))).dropWhile
      (· ≠ ' ') = [' '] ++ [','].intercalate (args.map String.toList) := by
    rw [List.dropWhile_append_of_pos fun c hc => by
      simpa using fun e : c = ' ' => hk (e ▸ hc)]
    rfl
  rw [argumentsOf, String.toList_append, String.toList_append, String.toList_intercalate, hsep, hblank,
    List.append_assoc, hdrop, List.singleton_append, List.drop_one, List.tail_cons, hcut, List.map_map]
  exact (List.map_congr_left fun s _ => String.ofList_toList).trans (List.map_id args)

end LabelPress
