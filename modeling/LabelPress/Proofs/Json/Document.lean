import LabelPress.Proofs.Json.Text
import LabelPress.Proofs.Text.Lines

/-!
# Documents in JSON

What is written of a value is read back as this value, in front of anything that can follow one (`IsReadBack`). Texts
and words are read back, and so are arrays and objects of values that are. A document is one such value on a line of
printable ASCII, so it is read back with its line ends unified, too (`read_write_unified`).
-/

namespace LabelPress.Json
variable {fuel : Nat} {v : Json} {items : List Json} {members : List (String × Json)} {key : String} {c : Char}
  {cs left rest : List Char}

/-! ## Printable characters -/

/-- Whether all characters of a text are printable ASCII. -/
def IsPrintable (cs : List Char) : Prop :=
  ∀ c ∈ cs, 0x20 ≤ c.toNat ∧ c.toNat < 0x7F

instance (cs : List Char) : Decidable (IsPrintable cs) :=
  List.decidableBAll (fun c : Char => 0x20 ≤ c.toNat ∧ c.toNat < 0x7F) cs

theorem IsPrintable.append {ds : List Char} (h : IsPrintable cs) (h' : IsPrintable ds) : IsPrintable (cs ++ ds) :=
  List.forall_mem_append.2 ⟨h, h'⟩

theorem IsPrintable.intercalate {sep : List Char} {ls : List (List Char)} (hsep : IsPrintable sep)
    (h : ∀ l ∈ ls, IsPrintable l) : IsPrintable (sep.intercalate ls) := by
  induction ls with
  | nil => exact fun _ hc => absurd hc List.not_mem_nil
  | cons l ls ih =>
    obtain ⟨hl, hls⟩ := List.forall_mem_cons.1 h
    cases ls with
    | nil => rwa [List.intercalate_singleton]
    | cons m ls =>
      rw [List.intercalate_cons_cons]
      exact (hl.append hsep).append (ih hls)

theorem isPrintable_unitEscape {n : Nat} (h : n < 0x10000) : IsPrintable (unitEscape n) := by
  have hdigit : ∀ d < 16, 0x20 ≤ (Nat.digitChar d).toNat ∧ (Nat.digitChar d).toNat < 0x7F := by decide
  have hmark : IsPrintable ['\\', 'u'] := by decide
  refine hmark.append ?_
  rw [toList_hexNumeral h]
  intro c hc
  obtain ⟨d, hd, rfl⟩ := List.mem_map.1 hc
  apply hdigit
  simp only [List.mem_cons, List.not_mem_nil, or_false] at hd
  omega

theorem isPrintable_escapeChar (c : Char) : IsPrintable (escapeChar c) := by
  have hshort : ∀ {d}, IsPrintable [d] → IsPrintable ['\\', d] := fun {d} hd =>
    IsPrintable.append (show IsPrintable ['\\'] by decide) hd
  have hlimit : c.toNat < 0xD800 ∨ 0xDFFF < c.toNat ∧ c.toNat < 0x110000 := c.valid
  unfold escapeChar
  split_ifs with _ _ _ _ _ _ _ hplain hunit
  · exact hshort (by decide)
  · exact hshort (by decide)
  · exact hshort (by decide)
  · exact hshort (by decide)
  · exact hshort (by decide)
  · exact hshort (by decide)
  · exact hshort (by decide)
  · exact List.forall_mem_singleton.2 hplain
  · exact isPrintable_unitEscape hunit
  · exact (isPrintable_unitEscape (by omega)).append (isPrintable_unitEscape (by omega))

theorem isPrintable_quote (s : String) : IsPrintable (quote s).toList := by
  have hmark : IsPrintable ['"'] := by decide
  have hbody : IsPrintable (s.toList.flatMap escapeChar) := by
    intro c hc
    obtain ⟨d, -, hc⟩ := List.mem_flatMap.1 hc
    exact isPrintable_escapeChar d c hc
  rw [quote, String.toList_ofList]
  exact (hmark.append hbody).append hmark

/-! ## Values that are read back -/

/-- Whether a value can end in front of a rest. -/
def EndsValue (rest : List Char) : Prop :=
  ∀ c, rest.head? = some c → c = ',' ∨ c = ']' ∨ c = '\x7d'

theorem endsValue_nil : EndsValue [] :=
  fun _ h => absurd h (Option.some_ne_none _).symm

theorem endsValue_cons (h : c = ',' ∨ c = ']' ∨ c = '\x7d') : EndsValue (c :: rest) := by
  intro d hd
  obtain rfl := Option.some.inj hd
  exact h

/-- A value that is read back from what is written of it, which is printable and starts like a value. -/
structure IsReadBack (v : Json) : Prop where
  printable : IsPrintable (write v).toList
  starts : ∃ c cs, (write v).toList = c :: cs ∧ isSpace c = false ∧ c ≠ ']'
  reads : ∀ fuel rest, (write v).toList.length < fuel → EndsValue rest →
    readValue fuel ((write v).toList ++ rest) = .ok (v, rest)

theorem skipSpace_cons (h : isSpace c = false) : skipSpace (c :: cs) = c :: cs := by
  rw [skipSpace, List.dropWhile_cons, if_neg (by simp [h])]

theorem skipSpace_blank (h : isSpace c = false) : skipSpace (' ' :: c :: cs) = c :: cs :=
  skipSpace_cons h

theorem exists_quote_eq (s : String) : ∃ cs, (quote s).toList = '"' :: cs :=
  ⟨_, by rw [quote, String.toList_ofList, List.cons_append]⟩

theorem isReadBack_text (s : String) : IsReadBack (.text s) := by
  obtain ⟨cs, hcs⟩ := exists_quote_eq s
  refine ⟨isPrintable_quote s, ⟨'"', cs, hcs, by decide, by decide⟩, fun fuel rest hfuel _ => ?_⟩
  obtain ⟨fuel, rfl⟩ := Nat.exists_eq_add_one_of_ne_zero (Nat.ne_of_gt (Nat.zero_lt_of_lt hfuel))
  have hread := readText_quote s rest
  change readValue (fuel + 1) ((quote s).toList ++ rest) = _
  rw [hcs, List.cons_append] at hread ⊢
  rw [readValue, hread]
  exact congrArg (fun v => Except.ok (v, rest)) (ofParts_ofText s)

theorem isReadBack_of_mem_words (h : ((write v).toList, v) ∈ words) : IsReadBack v := by
  simp only [words, List.mem_cons, Prod.mk.injEq, List.not_mem_nil, or_false] at h
  rcases h with ⟨hword, rfl⟩ | ⟨hword, rfl⟩ | ⟨hword, rfl⟩ | ⟨hword, rfl⟩ | ⟨hword, rfl⟩ | ⟨hword, rfl⟩
  all_goals
    refine ⟨?_, ⟨_, _, hword, by decide, by decide⟩, fun fuel rest hfuel _ => ?_⟩
    · rw [hword]
      decide
    · obtain ⟨fuel, rfl⟩ := Nat.exists_eq_add_one_of_ne_zero (Nat.ne_of_gt (Nat.zero_lt_of_lt hfuel))
      rw [hword]
      rfl

theorem isReadBack_null : IsReadBack .null :=
  isReadBack_of_mem_words (by simp [words, write])

theorem isReadBack_bool (b : Bool) : IsReadBack (.bool b) :=
  isReadBack_of_mem_words (by cases b <;> simp [words, write])

/-! ## Arrays -/

/-- The texts of values with commas between them. -/
def itemChars (items : List Json) : List Char :=
  [',', ' '].intercalate (items.map fun v => (write v).toList)

theorem writeItems_eq_map (items : List Json) : writeItems items = items.map write := by
  induction items with
  | nil => rfl
  | cons v items ih => rw [writeItems, ih, List.map_cons]

theorem toList_write_array (items : List Json) :
    (write (.array items)).toList = '[' :: (itemChars items ++ [']']) := by
  have hsep : ", ".toList = [',', ' '] := by decide
  rw [write, String.toList_append, String.toList_append, String.toList_intercalate, writeItems_eq_map, List.map_map,
    hsep]
  rfl

theorem itemChars_cons_cons (v u : Json) (items : List Json) :
    itemChars (v :: u :: items) = (write v).toList ++ ',' :: ' ' :: itemChars (u :: items) := by
  rw [itemChars, List.map_cons, List.map_cons, List.intercalate_cons_cons, List.append_assoc]
  rfl

theorem exists_itemChars_eq (hne : items ≠ []) (h : ∀ v ∈ items, IsReadBack v) :
    ∃ c cs, itemChars items = c :: cs ∧ isSpace c = false ∧ c ≠ ']' := by
  obtain ⟨v, items, rfl⟩ := List.exists_cons_of_ne_nil hne
  obtain ⟨c, cs, hcs, hspace, hclose⟩ := (h v List.mem_cons_self).starts
  cases items with
  | nil => exact ⟨c, cs, by rw [itemChars, List.map_singleton, List.intercalate_singleton, hcs], hspace, hclose⟩
  | cons u items => exact ⟨c, _, by rw [itemChars_cons_cons, hcs, List.cons_append], hspace, hclose⟩

theorem readValue_array (hspace : isSpace c = false) (hclose : c ≠ ']') :
    readValue (fuel + 1) ('[' :: c :: cs) =
      (readItems fuel (c :: cs)).map fun (items, left) => (.array items, left) := by
  rw [readValue, skipSpace_cons hspace]
  split
  · next h => exact absurd (List.cons.inj h).1 hclose
  · cases readItems fuel (c :: cs) <;> rfl

theorem readItems_last (h : readValue fuel cs = .ok (v, ']' :: rest)) : readItems (fuel + 1) cs = .ok ([v], rest) := by
  rw [readItems, h]
  rfl

theorem readItems_more (h : readValue fuel cs = .ok (v, ',' :: ' ' :: c :: rest)) (hc : isSpace c = false) :
    readItems (fuel + 1) cs = (readItems fuel (c :: rest)).map fun (items, left) => (v :: items, left) := by
  rw [readItems, h]
  change (readItems fuel (skipSpace (' ' :: c :: rest)) >>= fun more => Except.ok (v :: more.1, more.2)) = _
  rw [skipSpace_blank hc]
  cases readItems fuel (c :: rest) <;> rfl

theorem readItems_itemChars (hne : items ≠ []) (h : ∀ v ∈ items, IsReadBack v)
    (hfuel : (itemChars items).length + 1 < fuel) :
    readItems fuel (itemChars items ++ ']' :: rest) = .ok (items, rest) := by
  induction items generalizing fuel with
  | nil => exact absurd rfl hne
  | cons v items ih =>
    obtain ⟨fuel, rfl⟩ := Nat.exists_eq_add_one_of_ne_zero (Nat.ne_of_gt (Nat.zero_lt_of_lt hfuel))
    obtain ⟨hv, hitems⟩ := List.forall_mem_cons.1 h
    cases items with
    | nil =>
      rw [itemChars, List.map_singleton, List.intercalate_singleton] at hfuel ⊢
      exact readItems_last (hv.reads _ _ (by omega) (endsValue_cons (by decide)))
    | cons u items =>
      obtain ⟨c, cs, hcs, hspace, -⟩ := exists_itemChars_eq (List.cons_ne_nil u items) hitems
      rw [itemChars_cons_cons, List.length_append, List.length_cons, List.length_cons] at hfuel
      have hmore := ih (List.cons_ne_nil u items) hitems (show _ < fuel by omega)
      have hfirst := hv.reads fuel (',' :: ' ' :: (itemChars (u :: items) ++ ']' :: rest)) (by omega)
        (endsValue_cons (by decide))
      rw [hcs, List.cons_append] at hmore hfirst
      rw [itemChars_cons_cons, List.append_assoc, List.cons_append, List.cons_append, hcs, List.cons_append,
        readItems_more hfirst hspace, hmore]
      rfl

/-- **An array of values that are read back is read back.** -/
theorem isReadBack_array (h : ∀ v ∈ items, IsReadBack v) : IsReadBack (.array items) := by
  have hprintable : IsPrintable (itemChars items) := by
    refine IsPrintable.intercalate (by decide) fun l hl => ?_
    obtain ⟨v, hv, rfl⟩ := List.mem_map.1 hl
    exact (h v hv).printable
  have hopen : IsPrintable ['['] := by decide
  have hclose : IsPrintable [']'] := by decide
  have hwritten := toList_write_array items
  refine ⟨?_, ⟨_, _, hwritten, by decide, by decide⟩, fun fuel rest hfuel _ => ?_⟩
  · rw [hwritten]
    exact hopen.append (hprintable.append hclose)
  · obtain ⟨fuel, rfl⟩ := Nat.exists_eq_add_one_of_ne_zero (Nat.ne_of_gt (Nat.zero_lt_of_lt hfuel))
    rw [hwritten] at hfuel ⊢
    rw [List.cons_append, List.append_assoc, List.singleton_append]
    rw [List.length_cons, List.length_append, List.length_singleton] at hfuel
    by_cases hne : items = []
    · subst hne
      rfl
    · obtain ⟨c, cs, hcs, hspace, hend⟩ := exists_itemChars_eq hne h
      have hitems : readItems fuel (itemChars items ++ ']' :: rest) = .ok (items, rest) :=
        readItems_itemChars hne h (by omega)
      rw [hcs, List.cons_append] at hitems ⊢
      rw [readValue_array hspace hend, hitems]
      rfl

/-! ## Objects -/

/-- The text of a member. -/
def memberText (member : String × Json) : List Char :=
  (quote member.1).toList ++ ':' :: ' ' :: (write member.2).toList

/-- The texts of members with commas between them. -/
def memberChars (members : List (String × Json)) : List Char :=
  [',', ' '].intercalate (members.map memberText)

theorem writeMembers_eq_map (members : List (String × Json)) :
    writeMembers members = members.map fun member => quote member.1 ++ ": " ++ write member.2 := by
  induction members with
  | nil => rfl
  | cons member members ih => rw [writeMembers, ih, List.map_cons]

theorem toList_write_object (members : List (String × Json)) :
    (write (.object members)).toList = '\x7b' :: (memberChars members ++ ['\x7d']) := by
  have hsep : ", ".toList = [',', ' '] := by decide
  have htexts : (members.map fun member => quote member.1 ++ ": " ++ write member.2).map String.toList =
      members.map memberText := by
    rw [List.map_map]
    refine List.map_congr_left fun member _ => ?_
    rw [Function.comp_apply, String.toList_append, String.toList_append, List.append_assoc]
    rfl
  rw [write, String.toList_append, String.toList_append, String.toList_intercalate, writeMembers_eq_map, htexts, hsep]
  rfl

theorem memberChars_cons_cons (member next : String × Json) (members : List (String × Json)) :
    memberChars (member :: next :: members) = memberText member ++ ',' :: ' ' :: memberChars (next :: members) := by
  rw [memberChars, List.map_cons, List.map_cons, List.intercalate_cons_cons, List.append_assoc]
  rfl

theorem exists_memberChars_eq (hne : members ≠ []) : ∃ cs, memberChars members = '"' :: cs := by
  obtain ⟨member, members, rfl⟩ := List.exists_cons_of_ne_nil hne
  obtain ⟨cs, hcs⟩ := exists_quote_eq member.1
  cases members with
  | nil =>
    rw [memberChars, List.map_singleton, List.intercalate_singleton, memberText, hcs, List.cons_append]
    exact ⟨_, rfl⟩
  | cons next members => exact ⟨_, by rw [memberChars_cons_cons, memberText, hcs, List.cons_append, List.cons_append]⟩

theorem readValue_object :
    readValue (fuel + 1) ('\x7b' :: '"' :: cs) =
      (readMembers fuel ('"' :: cs)).map fun (members, left) => (.ofMembers members, left) := by
  rw [readValue, skipSpace_cons (by decide)]
  change (readMembers fuel ('"' :: cs) >>= _) = _
  cases readMembers fuel ('"' :: cs) <;> rfl

section
variable {parts : List TextPart} (hkey : readText ('"' :: cs) = .ok (parts, ':' :: ' ' :: c :: left))
  (hc : isSpace c = false)
include hkey hc

theorem readMembers_last (h : readValue fuel (c :: left) = .ok (v, '\x7d' :: rest)) :
    readMembers (fuel + 1) ('"' :: cs) = .ok ([(parts, v)], rest) := by
  rw [readMembers, hkey]
  change (readValue fuel (skipSpace (' ' :: c :: left)) >>= _) = _
  rw [skipSpace_blank hc, h]
  rfl

theorem readMembers_more (h : readValue fuel (c :: left) = .ok (v, ',' :: ' ' :: '"' :: rest)) :
    readMembers (fuel + 1) ('"' :: cs) =
      (readMembers fuel ('"' :: rest)).map fun (members, left) => ((parts, v) :: members, left) := by
  rw [readMembers, hkey]
  change (readValue fuel (skipSpace (' ' :: c :: left)) >>= _) = _
  rw [skipSpace_blank hc, h]
  change (readMembers fuel ('"' :: rest) >>= _) = _
  cases readMembers fuel ('"' :: rest) <;> rfl

end

/-- A member is its name, which is read in front of the rest, and then its value. -/
theorem exists_memberText_append_eq {member : String × Json} (h : IsReadBack member.2) (tail : List Char) :
    ∃ cs c left, memberText member ++ tail = '"' :: cs ∧ isSpace c = false ∧
      readText ('"' :: cs) = .ok (TextPart.ofText member.1, ':' :: ' ' :: c :: left) ∧
      (write member.2).toList ++ tail = c :: left := by
  obtain ⟨c, value, hvalue, hspace, -⟩ := h.starts
  obtain ⟨name, hname⟩ := exists_quote_eq member.1
  refine ⟨name ++ ':' :: ' ' :: c :: (value ++ tail), c, value ++ tail, ?_, hspace, ?_, ?_⟩
  · rw [memberText, hname, hvalue]
    simp
  · rw [← List.cons_append, ← hname]
    exact readText_quote member.1 _
  · rw [hvalue, List.cons_append]

theorem readMembers_memberChars (hne : members ≠ []) (h : ∀ member ∈ members, IsReadBack member.2)
    (hfuel : (memberChars members).length + 1 < fuel) :
    readMembers fuel (memberChars members ++ '\x7d' :: rest) = .ok (keyedByParts members, rest) := by
  induction members generalizing fuel with
  | nil => exact absurd rfl hne
  | cons member members ih =>
    obtain ⟨fuel, rfl⟩ := Nat.exists_eq_add_one_of_ne_zero (Nat.ne_of_gt (Nat.zero_lt_of_lt hfuel))
    obtain ⟨hmember, hmembers⟩ := List.forall_mem_cons.1 h
    have hlength : (write member.2).toList.length < (memberText member).length := by
      rw [memberText, List.length_append, List.length_cons, List.length_cons]
      omega
    cases members with
    | nil =>
      rw [memberChars, List.map_singleton, List.intercalate_singleton] at hfuel ⊢
      have hvalue := hmember.reads fuel ('\x7d' :: rest) (by omega) (endsValue_cons (by decide))
      obtain ⟨cs, c, left, htext, hspace, hkey, hleft⟩ := exists_memberText_append_eq hmember ('\x7d' :: rest)
      rw [hleft] at hvalue
      rw [htext, readMembers_last hkey hspace hvalue]
      rfl
    | cons next members =>
      obtain ⟨more, hmore⟩ := exists_memberChars_eq (List.cons_ne_nil next members)
      rw [memberChars_cons_cons, List.length_append, List.length_cons, List.length_cons] at hfuel
      have hrest := ih (List.cons_ne_nil next members) hmembers (show _ < fuel by omega)
      rw [hmore, List.cons_append] at hrest
      have hvalue := hmember.reads fuel (',' :: ' ' :: '"' :: (more ++ '\x7d' :: rest)) (by omega)
        (endsValue_cons (by decide))
      obtain ⟨cs, c, left, htext, hspace, hkey, hleft⟩ :=
        exists_memberText_append_eq hmember (',' :: ' ' :: '"' :: (more ++ '\x7d' :: rest))
      rw [hleft] at hvalue
      rw [memberChars_cons_cons, hmore, List.append_assoc, List.cons_append, List.cons_append, List.cons_append, htext,
        readMembers_more hkey hspace hvalue, hrest]
      rfl

/-- **An object whose values are read back is read back.** -/
theorem isReadBack_object (h : ∀ member ∈ members, IsReadBack member.2) : IsReadBack (.object members) := by
  have hcolon : IsPrintable [':', ' '] := by decide
  have hprintable : IsPrintable (memberChars members) := by
    refine IsPrintable.intercalate (by decide) fun l hl => ?_
    obtain ⟨member, hmember, rfl⟩ := List.mem_map.1 hl
    exact (isPrintable_quote member.1).append (hcolon.append (h member hmember).printable)
  have hopen : IsPrintable ['\x7b'] := by decide
  have hclose : IsPrintable ['\x7d'] := by decide
  have hwritten := toList_write_object members
  refine ⟨?_, ⟨_, _, hwritten, by decide, by decide⟩, fun fuel rest hfuel _ => ?_⟩
  · rw [hwritten]
    exact hopen.append (hprintable.append hclose)
  · obtain ⟨fuel, rfl⟩ := Nat.exists_eq_add_one_of_ne_zero (Nat.ne_of_gt (Nat.zero_lt_of_lt hfuel))
    rw [hwritten] at hfuel ⊢
    rw [List.cons_append, List.append_assoc, List.singleton_append]
    rw [List.length_cons, List.length_append, List.length_singleton] at hfuel
    by_cases hne : members = []
    · subst hne
      rfl
    · obtain ⟨cs, hcs⟩ := exists_memberChars_eq hne
      have hmembers : readMembers fuel (memberChars members ++ '\x7d' :: rest) = .ok (keyedByParts members, rest) :=
        readMembers_memberChars hne h (by omega)
      rw [hcs, List.cons_append] at hmembers ⊢
      rw [readValue_object, hmembers]
      exact congrArg (fun v => Except.ok (v, rest)) (ofMembers_keyedByParts members)

/-! ## Documents -/

theorem IsPrintable.not_mem (h : IsPrintable cs) (hc : c.toNat < 0x20 ∨ 0x7F ≤ c.toNat) : c ∉ cs := by
  intro hmem
  have := h c hmem
  omega

/-- **A written document is read back.** -/
theorem read_write (h : IsReadBack v) : read (write v) = .ok v := by
  have hvalue := h.reads ((write v).toList.length + 1) [] (Nat.lt_succ_self _) endsValue_nil
  obtain ⟨c, cs, hcs, hspace, -⟩ := h.starts
  have hmark : c ≠ '\uFEFF' := by
    rintro rfl
    exact h.printable.not_mem (by decide) (hcs ▸ List.mem_cons_self)
  rw [List.append_nil, hcs] at hvalue
  have hdocument : readDocument (c :: cs) = .ok v := by
    unfold readDocument
    split
    · next hstart => exact absurd (List.cons.inj hstart).1 hmark
    · rw [skipSpace_cons hspace, hvalue]
      rfl
  rw [read, hcs, hdocument]
  rfl

theorem read_write_unified (h : IsReadBack v) : read (String.ofList (unifyNewlines (write v).toList)) = .ok v := by
  rw [unifyNewlines_of_not_mem (h.printable.not_mem (by decide)), String.ofList_toList, read_write h]

end LabelPress.Json
