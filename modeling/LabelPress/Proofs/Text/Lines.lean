import LabelPress.Text.Blank
import LabelPress.Text.Literal
import LabelPress.Text.Newline
import Mathlib.Data.List.Forall2
import Mathlib.Data.List.TakeWhile
import Mathlib.Logic.Relation

/-!
# Lines of a text

A text can be cut at each of its line breaks, or first have its line ends made line feeds and then be cut at these.
Both give the same pieces but for empty ones (`splitLines_alike`): a carriage return and a line feed have nothing
between them. Trimming takes the longest stretches of a class off both ends of a piece (`trimBy_eq_iff`).
-/

namespace LabelPress

/-! ## Line ends -/

/-- A way to end a line. -/
inductive LineEnd where
  | feed
  | carriageReturn
  | both
  deriving DecidableEq, Repr

/-- The characters of a line end. -/
def LineEnd.chars : LineEnd → List Char
  | .feed => ['\n']
  | .carriageReturn => ['\r']
  | .both => ['\r', '\n']

theorem unifyNewlines_of_not_mem {cs : List Char} (h : '\r' ∉ cs) : unifyNewlines cs = cs := by
  fun_induction unifyNewlines cs with
  | case1 rest | case2 rest => exact absurd List.mem_cons_self h
  | case3 c rest _ _ ih => rw [ih fun hmem => h (List.mem_cons_of_mem c hmem)]
  | case4 => rfl

/-- The pieces of a text between its line breaks, each character of which counts for itself. -/
def breakPieces (cs : List Char) : List (List Char) :=
  cs.splitOnP isLineBreak

/-- Two lists of pieces that are the same but for empty ones after the first. -/
def AlikePieces (ps qs : List (List Char)) : Prop :=
  ∃ first ps' qs', ps = first :: ps' ∧ qs = first :: qs' ∧ ps'.filter (· ≠ []) = qs'.filter (· ≠ [])

theorem AlikePieces.filter_eq {ps qs : List (List Char)} (h : AlikePieces ps qs) :
    ps.filter (· ≠ []) = qs.filter (· ≠ []) := by
  obtain ⟨first, ps', qs', rfl, rfl, hrest⟩ := h
  rw [List.filter_cons, List.filter_cons, hrest]

theorem AlikePieces.cons {ps qs : List (List Char)} (h : AlikePieces ps qs) (c : Char) :
    AlikePieces (ps.modifyHead (c :: ·)) (qs.modifyHead (c :: ·)) := by
  obtain ⟨first, ps', qs', rfl, rfl, hrest⟩ := h
  exact ⟨c :: first, ps', qs', rfl, rfl, hrest⟩

theorem pieces_cons_of_ne {separator c : Char} (h : c ≠ separator) (cs : List Char) :
    pieces separator (c :: cs) = (pieces separator cs).modifyHead (c :: ·) := by
  have hne : pieces separator cs ≠ [] := by
    cases cs with
    | nil => simp [pieces]
    | cons d cs =>
      rw [pieces]
      split
      · exact List.cons_ne_nil _ _
      · split <;> exact List.cons_ne_nil _ _
  rw [pieces, if_neg h]
  split
  · next hnil => exact absurd hnil hne
  · next hcons => rw [hcons, List.modifyHead_cons]

/-- A line without a line feed, and the lines behind it. -/
theorem splitLines_append_feed {line : List Char} (h : '\n' ∉ line) (rest : List Char) :
    splitLines (line ++ '\n' :: rest) = line :: splitLines rest := by
  unfold splitLines
  induction line with
  | nil => exact if_pos rfl
  | cons c line ih =>
    rw [List.mem_cons, not_or] at h
    rw [List.cons_append, pieces_cons_of_ne (Ne.symm h.1), ih h.2, List.modifyHead_cons]

/-- **Lines that each end in a line feed** are what their text splits into, but for the nothing behind the last. -/
theorem splitLines_flatMap_feed {lines : List (List Char)} (h : ∀ line ∈ lines, '\n' ∉ line) :
    splitLines (lines.flatMap fun line => line ++ ['\n']) = lines ++ [[]] := by
  induction lines with
  | nil => rfl
  | cons line lines ih =>
    obtain ⟨hline, hlines⟩ := List.forall_mem_cons.1 h
    rw [List.flatMap_cons, List.append_assoc, List.singleton_append, splitLines_append_feed hline, ih hlines,
      List.cons_append]

theorem splitLines_alike (cs : List Char) : AlikePieces (splitLines (unifyNewlines cs)) (breakPieces cs) := by
  unfold splitLines breakPieces
  -- A line feed that is made of a line end has the same lines behind it as what it is made of.
  have hfeed : ∀ {ps qs : List (List Char)}, AlikePieces ps qs → AlikePieces ([] :: ps) ([] :: qs) :=
    fun h => ⟨[], _, _, rfl, rfl, h.filter_eq⟩
  fun_induction unifyNewlines cs with
  | case1 rest ih =>
    have hbreaks : List.splitOnP isLineBreak ('\r' :: '\n' :: rest) = [] :: [] :: rest.splitOnP isLineBreak := by
      simp [List.splitOnP_cons_eq_if_modifyHead, isLineBreak]
    rw [pieces, if_pos rfl, hbreaks]
    refine ⟨[], _, _, rfl, rfl, ?_⟩
    rw [ih.filter_eq, List.filter_cons_of_neg (by simp)]
  | case2 rest _ ih =>
    rw [pieces, if_pos rfl, List.splitOnP_cons_eq_if_modifyHead, if_pos (by decide)]
    exact hfeed ih
  | case3 c rest hboth hreturn ih =>
    rw [List.splitOnP_cons_eq_if_modifyHead]
    by_cases hc : c = '\n'
    · subst hc
      rw [pieces, if_pos rfl, if_pos (by decide)]
      exact hfeed ih
    · have hbreak : isLineBreak c = false := by
        simp only [isLineBreak, Bool.or_eq_false_iff, decide_eq_false_iff_not]
        exact ⟨fun hr => hreturn hr, hc⟩
      rw [pieces_cons_of_ne hc, if_neg (by simp [hbreak])]
      exact ih.cons c
  | case4 => exact ⟨[], [], [], rfl, rfl, rfl⟩

/-- A line end that stands between two texts parts their pieces, but for an empty one. -/
theorem breakPieces_append (before : List Char) (e : LineEnd) (after : List Char) :
    (breakPieces (before ++ e.chars ++ after)).filter (· ≠ []) =
      (breakPieces before).filter (· ≠ []) ++ (breakPieces after).filter (· ≠ []) := by
  unfold breakPieces
  rw [List.append_assoc, ← List.filter_append]
  cases e with
  | feed | carriageReturn => exact congrArg _ (List.splitOnP_append_cons before after (by decide))
  | both =>
    have hfeed : List.splitOnP isLineBreak ('\n' :: after) = [] :: after.splitOnP isLineBreak := by
      rw [List.splitOnP_cons_eq_if_modifyHead, if_pos (by decide)]
    change (List.splitOnP isLineBreak (before ++ '\r' :: '\n' :: after)).filter _ = _
    rw [List.splitOnP_append_cons before _ (by decide), hfeed, List.filter_append, List.filter_append,
      List.filter_cons_of_neg (by simp)]

theorem isLineBreak_of_mem_breakPieces {cs piece : List Char} (h : piece ∈ breakPieces cs) :
    ∀ c ∈ piece, c ∈ cs ∧ isLineBreak c = false := by
  unfold breakPieces at h
  induction cs generalizing piece with
  | nil =>
    obtain rfl := List.mem_singleton.1 h
    exact fun _ hc => absurd hc List.not_mem_nil
  | cons d cs ih =>
    have hlater : ∀ {other}, other ∈ cs.splitOnP isLineBreak → ∀ c ∈ other, c ∈ d :: cs ∧ isLineBreak c = false :=
      fun hother c hc => ⟨List.mem_cons_of_mem d (ih hother c hc).1, (ih hother c hc).2⟩
    rw [List.splitOnP_cons_eq_if_modifyHead] at h
    split at h
    · rcases List.mem_cons.1 h with rfl | h
      · exact fun _ hc => absurd hc List.not_mem_nil
      · exact hlater h
    · next hd =>
      obtain ⟨first, rest, hpieces⟩ := List.exists_cons_of_ne_nil (List.splitOnP_ne_nil isLineBreak cs)
      rw [hpieces, List.modifyHead_cons] at h
      rcases List.mem_cons.1 h with rfl | h
      · intro c hc
        rcases List.mem_cons.1 hc with rfl | hc
        · exact ⟨List.mem_cons_self, Bool.eq_false_iff.2 hd⟩
        · exact hlater (hpieces ▸ List.mem_cons_self) c hc
      · exact hlater (hpieces ▸ List.mem_cons_of_mem first h)

/-! ## Trimming -/

section
variable {p : Char → Bool} {cs before after t : List Char}

/-- Whether a text is what is left of another without the characters of a class at its ends. -/
structure IsTrimmed (p : Char → Bool) (cs t : List Char) : Prop where
  within : ∃ before after, cs = before ++ t ++ after ∧ (∀ c ∈ before, p c = true) ∧ ∀ c ∈ after, p c = true
  head : ∀ c, t.head? = some c → p c = false
  last : ∀ c, t.getLast? = some c → p c = false

theorem trimBy_append_left (h : ∀ c ∈ before, p c = true) : trimBy p (before ++ cs) = trimBy p cs := by
  rw [trimBy, List.dropWhile_append_of_pos h, trimBy]

theorem trimBy_append_right (h : ∀ c ∈ after, p c = true) : trimBy p (cs ++ after) = trimBy p cs := by
  unfold trimBy
  rw [List.dropWhile_append]
  split
  · next hempty =>
    rw [List.isEmpty_iff.1 hempty, List.dropWhile_eq_nil_iff.2 h]
  · rw [List.reverse_append, List.dropWhile_append_of_pos fun c hc => h c (List.mem_reverse.1 hc)]

theorem trimBy_eq_nil (h : ∀ c ∈ cs, p c = true) : trimBy p cs = [] := by
  rw [trimBy, List.dropWhile_eq_nil_iff.2 h]
  rfl

theorem dropWhile_eq_self_of_head? (h : ∀ c, cs.head? = some c → p c = false) : cs.dropWhile p = cs := by
  cases cs with
  | nil => rfl
  | cons c cs => rw [List.dropWhile_cons, if_neg (by simp [h c rfl])]

theorem IsTrimmed.trimBy_eq (h : IsTrimmed p cs t) : trimBy p cs = t := by
  obtain ⟨before, after, rfl, hbefore, hafter⟩ := h.within
  have hlast : ∀ c, t.reverse.head? = some c → p c = false := by
    rw [List.head?_reverse]
    exact h.last
  rw [trimBy_append_right hafter, trimBy_append_left hbefore, trimBy, dropWhile_eq_self_of_head? h.head,
    dropWhile_eq_self_of_head? hlast, List.reverse_reverse]

theorem head?_dropWhile {c : Char} (h : (cs.dropWhile p).head? = some c) : p c = false := by
  have hstop := List.head?_dropWhile_not p cs
  rw [h] at hstop
  exact hstop

theorem isTrimmed_trimBy (p : Char → Bool) (cs : List Char) : IsTrimmed p cs (trimBy p cs) := by
  have hfront := List.takeWhile_append_dropWhile (p := p) (l := cs)
  have hback := congrArg List.reverse (List.takeWhile_append_dropWhile (p := p) (l := (cs.dropWhile p).reverse))
  rw [List.reverse_append, List.reverse_reverse] at hback
  refine ⟨⟨cs.takeWhile p, ((cs.dropWhile p).reverse.takeWhile p).reverse, ?_, ?_, ?_⟩, ?_, ?_⟩
  · rw [trimBy, List.append_assoc, hback, hfront]
  · intro c hc
    exact List.mem_takeWhile_imp hc
  · intro c hc
    exact List.mem_takeWhile_imp (List.mem_reverse.1 hc)
  · intro c hc
    have hhead : (cs.dropWhile p).head? = some c := by
      rw [← hback, List.head?_append_of_ne_nil _ fun hnil => ?_]
      · exact hc
      · rw [trimBy, hnil] at hc
        cases hc
    exact head?_dropWhile hhead
  · intro c hc
    rw [trimBy, List.getLast?_reverse] at hc
    exact head?_dropWhile hc

/-- **What trimming leaves** is the one text without the class at its ends that lies within stretches of it. -/
theorem trimBy_eq_iff : trimBy p cs = t ↔ IsTrimmed p cs t := by
  constructor
  · rintro rfl
    exact isTrimmed_trimBy p cs
  · exact IsTrimmed.trimBy_eq

end
end LabelPress
