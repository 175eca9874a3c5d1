import LabelPress.Proofs.Options.Canonical
import LabelPress.Proofs.Options.Details
import LabelPress.Proofs.Options.Names
import LabelPress.Proofs.Options.Resolution

/-!
# Notations of positions

The items of a table are pairs of coordinates, each in one of four notations (`Options.WritesPair`). A check reads all
of them as members under their keys, so that the notation makes no difference, neither to what is read nor to what is
wrong (`Options.check_writesPairs`): each coordinate has its fault under the number of its pair and its own key
(`Options.rejectionDetails_check`). Validation sees values through their checks only (`Options.validate_congr`), so
that it makes none there either (`Options.notations_interchangeable`).
-/

namespace LabelPress.Options

/-! ## Entries that check alike -/

section
variable {m m' : Mapping} {s : Setting} {key : String}

/-- Whether two values under a key are the same to every setting that goes by it. -/
def SameUnder (key : String) (v v' : Value) : Prop :=
  ∀ s : Setting, s.GoesBy key → (v = .null ↔ v' = .null) ∧ check s key v = check s key v'

/-- Whether two entries have the same key and values that are the same under it. -/
def SameEntry (entry entry' : Value × Value) : Prop :=
  entry.1 = entry'.1 ∧ ∀ key, entry.1 = .text key → SameUnder key entry.2 entry'.2

theorem SameUnder.refl (key : String) (v : Value) : SameUnder key v v :=
  fun _ _ => ⟨Iff.rfl, rfl⟩

theorem get?_rel (h : List.Forall₂ SameEntry m m') (key : String) :
    Option.Rel (SameUnder key) (m.get? key) (m'.get? key) := by
  induction h with
  | nil => exact .none
  | @cons entry entry' m m' hentry _ ih =>
    obtain ⟨k, v⟩ := entry
    obtain ⟨k', v'⟩ := entry'
    obtain ⟨hkeys, hvalues⟩ := hentry
    obtain rfl : k = k' := hkeys
    by_cases hk : k = .text key
    · subst hk
      rw [Mapping.get?_cons_self, Mapping.get?_cons_self]
      exact .some (hvalues key rfl)
    · rw [Mapping.get?_cons_of_ne hk, Mapping.get?_cons_of_ne hk]
      exact ih

theorem given?_cases (h : List.Forall₂ SameEntry m m') (s : Setting) : given? m s = none ∧ given? m' s = none ∨
    ∃ key v v', given? m s = some (key, v) ∧ given? m' s = some (key, v') ∧ SameUnder key v v' := by
  unfold given?
  induction s.keys with
  | nil => exact .inl ⟨rfl, rfl⟩
  | cons key keys ih =>
    rw [List.findSome?_cons, List.findSome?_cons]
    have hget := get?_rel h key
    generalize m.get? key = v? at hget
    generalize m'.get? key = v'? at hget
    cases hget with
    | none => exact ih
    | some hsame => exact .inr ⟨key, _, _, rfl, rfl, hsame⟩

theorem checkSetting_congr (h : List.Forall₂ SameEntry m m') (s : Setting) : checkSetting m s = checkSetting m' s := by
  obtain ⟨hnone, hnone'⟩ | ⟨key, v, v', hgiven, hgiven', hsame⟩ := given?_cases h s
  · rw [checkSetting, checkSetting, hnone, hnone']
  · obtain ⟨hnull, hcheck⟩ := hsame s (names_of_given? hgiven).1
    by_cases hv : v = .null
    · rw [checkSetting, checkSetting, hgiven, hgiven', hv, hnull.1 hv]
    · rw [checkSetting_of_given? hgiven hv, checkSetting_of_given? hgiven' fun hv' => hv (hnull.2 hv'), hcheck]

theorem isTaken_congr (h : List.Forall₂ SameEntry m m') (key : String) : isTaken m key = isTaken m' key := by
  unfold isTaken
  split
  · rfl
  · next s _ =>
    obtain ⟨hnone, hnone'⟩ | ⟨other, v, v', hgiven, hgiven', -⟩ := given?_cases h s
    · rw [hnone, hnone']
    · rw [hgiven, hgiven']
      rfl

theorem strayFaults_congr (h : List.Forall₂ SameEntry m m') :
    m.filterMap (strayFault? m) = m'.filterMap (strayFault? m') := by
  -- Whether an entry is stray depends on its key, and on the mapping for the keys that are taken.
  have hstray : ∀ entry entry', SameEntry entry entry' → strayFault? m entry = strayFault? m' entry' := by
    rintro ⟨k, v⟩ ⟨k', v'⟩ ⟨hkeys, -⟩
    obtain rfl : k = k' := hkeys
    cases k with
    | text key => simp only [strayFault?, isTaken_congr h key]
    | _ => rfl
  generalize strayFault? m = stray at hstray
  generalize strayFault? m' = stray' at hstray
  induction h with
  | nil => rfl
  | cons hentry _ ih => rw [List.filterMap_cons, List.filterMap_cons, hstray _ _ hentry, ih]

/-- **Entries that check alike validate alike.** -/
theorem validate_congr (h : List.Forall₂ SameEntry m m') : validate m = validate m' :=
  validate_eq_of_checks (checkSetting_congr h) (strayFaults_congr h)

end

/-! ## Pairs -/

section
variable {a b a' b' v v' : Value} {pairs : List (Value × Value)} {items : List Value} {place : Place} {key : String}

/-- A value that writes a pair of coordinates: each under its key, or both in a list or tuple, or as a position if both
are whole. -/
inductive WritesPair (a b : Value) : Value → Prop where
  | members : WritesPair a b (.map (members a b))
  | list : WritesPair a b (.list [a, b])
  | tuple : WritesPair a b (.tuple [a, b])
  | position {p : Position} (hx : a.asInt? = some p.x) (hy : b.asInt? = some p.y) : WritesPair a b (.position p)

/-- A value that writes pairs of coordinates: a list or tuple of values that write one each, in order. -/
def WritesPairs (pairs : List (Value × Value)) (v : Value) : Prop :=
  ∃ items, (v = .list items ∨ v = .tuple items) ∧ List.Forall₂ (fun ab => WritesPair ab.1 ab.2) pairs items

theorem whole_of_asInt? {n : Int} (h : v.asInt? = some n) : whole v = .ok n := by
  cases v with
  | bool b =>
    obtain rfl := Option.some.inj h
    rfl
  | int n =>
    obtain rfl := Option.some.inj h
    rfl
  | _ => cases h

theorem positionOfMembers_congr (ha : whole a = whole a') (hb : whole b = whole b') :
    positionOfMembers place (members a b) = positionOfMembers place (members a' b') := by
  have hcoordinate : ∀ {v v' : Value} (axis : String), whole v = whole v' →
      coordinate place axis (some v) = coordinate place axis (some v') := by
    intro v v' axis h
    simp only [coordinate, wholeWithin, h]
  have hstrays : strayMembers place (members a b) = strayMembers place (members a' b') := rfl
  simp only [positionOfMembers, members_x, members_y, hcoordinate "x" ha, hcoordinate "y" hb, hstrays]

/-- A pair is read as members under their keys, whatever writes it. -/
theorem entry_writesPair (h : WritesPair a b v) : entry place v = positionOfMembers place (members a b) := by
  cases h with
  | members | list | tuple => rfl
  | position hx hy =>
    exact positionOfMembers_congr (whole_of_asInt? hx).symm (whole_of_asInt? hy).symm

theorem entries_writesPairs {i : Nat} {items' : List Value}
    (h : List.Forall₂ (fun ab => WritesPair ab.1 ab.2) pairs items)
    (h' : List.Forall₂ (fun ab => WritesPair ab.1 ab.2) pairs items') :
    entries key i items = entries key i items' := by
  induction h generalizing i items' with
  | nil =>
    cases h'
    rfl
  | cons hpair _ ih =>
    cases h' with
    | cons hpair' hpairs' => rw [entries, entries, entry_writesPair hpair, entry_writesPair hpair', ih hpairs']

theorem isBadPair_writesPair (h : WritesPair a b v) : isBadPair v = false := by
  cases h <;> rfl

theorem positions_writesPairs (h : WritesPairs pairs v) : ∃ items,
    List.Forall₂ (fun ab => WritesPair ab.1 ab.2) pairs items ∧ positions key v = entries key 0 items := by
  obtain ⟨items, hv, hitems⟩ := h
  exact ⟨items, hitems, positions_of_forall₂ (fun _ _ => isBadPair_writesPair) hitems hv⟩

theorem check_positions (t : Table) (h : positions key v = positions key v') :
    check t.setting key v = check t.setting key v' := by
  cases t with
  | qr =>
    show qrPositions key v = qrPositions key v'
    rw [qrPositions, qrPositions, h]
  | text | idText | nameText => exact h

/-- **A table checks alike in all notations.** -/
theorem check_writesPairs (t : Table) (h : WritesPairs pairs v) (h' : WritesPairs pairs v') :
    check t.setting key v = check t.setting key v' := by
  obtain ⟨items, hitems, hv⟩ := positions_writesPairs h
  obtain ⟨items', hitems', hv'⟩ := positions_writesPairs h'
  exact check_positions t (by rw [hv, hv', entries_writesPairs hitems hitems'])

theorem WritesPairs.ne_null (h : WritesPairs pairs v) : v ≠ .null := by
  obtain ⟨items, rfl | rfl, -⟩ := h <;> exact fun h => nomatch h

/-! ## What is read of pairs -/

/-- Positions with the coordinates of pairs, as they are read. -/
def ReadsPairs (pairs : List (Value × Value)) (table : List Position) : Prop :=
  List.Forall₂ (fun ab p => whole ab.1 = .ok p.x ∧ whole ab.2 = .ok p.y) pairs table

theorem entries_readPairs {i : Nat} {table : List Position}
    (h : List.Forall₂ (fun ab => WritesPair ab.1 ab.2) pairs items) (hread : entries key i items = .ok table) :
    ReadsPairs pairs table := by
  induction h generalizing i table with
  | nil =>
    obtain rfl := Except.ok.inj hread
    exact .nil
  | cons hpair _ ih =>
    obtain ⟨p, table, rfl, hp, htable⟩ := entries_cons_eq_ok_iff.1 hread
    rw [entry_writesPair hpair] at hp
    obtain ⟨⟨hx, -⟩, hy, -⟩ := positionOfMembers_members.1 hp
    exact .cons ⟨hx, hy⟩ (ih htable)

theorem check_readsPairs {t : Table} {l : Layout} (hpairs : WritesPairs pairs v)
    (h : check t.setting key v = .ok (l t.setting)) : ReadsPairs pairs (l.table t) := by
  obtain ⟨items, hitems, hv⟩ := positions_writesPairs hpairs
  exact entries_readPairs hitems (hv.symm.trans (positions_of_check h))

/-! ## What is wrong with pairs -/

/-- What is wrong with a pair, each detail at the number of the pair and the axis of the coordinate. -/
def pairDetails (key : String) (i : Nat) (ab : Value × Value) : List OptionDetail :=
  rejectionDetails (coordinate [.key key, .index i] "x" (some ab.1)) ++
    rejectionDetails (coordinate [.key key, .index i] "y" (some ab.2))

theorem rejectionDetails_positionOfMembers (a b : Value) (i : Nat) :
    rejectionDetails (positionOfMembers [.key key, .index i] (members a b)) = pairDetails key i (a, b) := by
  have hstrays : strayMembers [.key key, .index i] (members a b) = [] := rfl
  simp only [positionOfMembers, hstrays, rejectionDetails_map, rejectionDetails_both, members_x, members_y, pairDetails]
  exact List.append_nil _

theorem rejectionDetails_entries {i : Nat} (h : List.Forall₂ (fun ab => WritesPair ab.1 ab.2) pairs items) :
    rejectionDetails (entries key i items) = (pairs.mapIdx fun j => pairDetails key (i + j)).flatten := by
  induction h generalizing i with
  | nil => rfl
  | cons hpair _ ih =>
    rw [entries, rejectionDetails_map, rejectionDetails_both, entry_writesPair hpair,
      rejectionDetails_positionOfMembers, ih, List.mapIdx_cons, List.flatten_cons]
    simp only [Nat.add_zero, Nat.add_assoc, Nat.add_comm 1]

/-- **A table of pairs is rejected for its coordinates one by one**, in whichever notations they are. -/
theorem rejectionDetails_check (t : Table) (hpairs : WritesPairs pairs v) (hne : pairs ≠ []) :
    rejectionDetails (check t.setting key v) = (pairs.mapIdx (pairDetails key)).flatten := by
  obtain ⟨items, hitems, hv⟩ := positions_writesPairs hpairs
  have hpositions : rejectionDetails (positions key v) = (pairs.mapIdx (pairDetails key)).flatten := by
    rw [hv, rejectionDetails_entries hitems]
    simp only [Nat.zero_add]
  cases t with
  | qr =>
    show rejectionDetails (qrPositions key v) = _
    rw [← hpositions, qrPositions]
    split
    · next hnil => exact absurd (List.forall₂_nil_right_iff.1 (entries_readPairs hitems (hv.symm.trans hnil))) hne
    · rfl
  | text | idText | nameText => exact hpositions

/-! ## What is no pair -/

theorem isBadPair_iff : isBadPair v = true ↔
    ∃ parts, (v = .list parts ∨ v = .tuple parts) ∧ parts.length ≠ 2 := by
  cases v <;> simp [isBadPair]

/-- A list or tuple that is no pair spoils the table. -/
theorem exists_check_of_badPair (t : Table) (hv : v = .list items ∨ v = .tuple items)
    (hbad : ∃ item ∈ items, isBadPair item = true) :
    ∃ item ∈ items, check t.setting key v = .error [⟨[.key key], .pairLength item.shown⟩] := by
  obtain ⟨item, hfind⟩ := Option.ne_none_iff_exists'.1 fun hnone => by
    obtain ⟨item, hmem, hitem⟩ := hbad
    exact List.find?_eq_none.1 hnone item hmem hitem
  have hpositions : positions key v = .error [⟨[.key key], .pairLength item.shown⟩] := by
    obtain rfl | rfl := hv <;> simp only [positions, hfind]
  refine ⟨item, List.mem_of_find?_eq_some hfind, ?_⟩
  cases t with
  | qr =>
    show qrPositions key v = _
    rw [qrPositions, hpositions]
    rfl
  | text | idText | nameText => exact hpositions

end

/-! ## Validation in other notations -/

/-- Whether two entries are the same but for the notations of the pairs that they give a table. -/
def SameButForNotation (entry entry' : Value × Value) : Prop :=
  entry = entry' ∨ ∃ (t : Table) (key : String) (pairs : List (Value × Value)), t.setting.GoesBy key ∧
    entry.1 = .text key ∧ entry'.1 = .text key ∧ WritesPairs pairs entry.2 ∧ WritesPairs pairs entry'.2

theorem SameButForNotation.sameEntry {entry entry' : Value × Value} (h : SameButForNotation entry entry') :
    SameEntry entry entry' := by
  rcases h with rfl | ⟨t, key, pairs, hkey, hentry, hentry', hpairs, hpairs'⟩
  · exact ⟨rfl, fun key _ => .refl key entry.2⟩
  · refine ⟨hentry.trans hentry'.symm, fun other hother s hs => ?_⟩
    obtain rfl := Value.text.inj (hentry.symm.trans hother)
    obtain rfl := Setting.eq_of_goesBy hs hkey
    exact ⟨iff_of_false hpairs.ne_null hpairs'.ne_null, check_writesPairs t hpairs hpairs'⟩

/-- **Notations are interchangeable.** Mappings that are the same but for the notations of pairs validate alike. A
valid mapping has the coordinates of the pairs in their order. One that gives a table a list or tuple that is no pair
is rejected, and that is all that is wrong with the table. -/
theorem notations_interchangeable (m : Mapping) :
    (∀ m', List.Forall₂ SameButForNotation m m' → validate m' = validate m) ∧
    (∀ o, validate m = .ok o → ∀ (l : Layout) (t : Table) (key : String) (v : Value) (pairs : List (Value × Value)),
      m.Sets t.setting key v → WritesPairs pairs v → ReadsPairs pairs ((l.override o).table t)) ∧
    ∀ (t : Table) (key : String) (v : Value) (items : List Value), m.Sets t.setting key v →
      (v = .list items ∨ v = .tuple items) →
      (∃ item ∈ items, ∃ parts, (item = .list parts ∨ item = .tuple parts) ∧ parts.length ≠ 2) →
      (∃ item ∈ items, check t.setting key v = .error [⟨[.key key], .pairLength item.shown⟩]) ∧
        ∃ details, validate m = .error details := by
  refine ⟨fun m' h => (validate_congr (h.imp fun _ _ => SameButForNotation.sameEntry)).symm, ?_, ?_⟩
  · intro o ho l t key v pairs hsets hpairs
    obtain ⟨c, hcheck, hc⟩ := chosen_of_sets ho hsets
    rw [← Layout.override_of_some (l := l) hc] at hcheck
    exact check_readsPairs hpairs hcheck
  · intro t key v items hsets hv hbad
    simp only [← isBadPair_iff] at hbad
    have hcheck : ∃ item ∈ items, check t.setting key v = .error [⟨[.key key], .pairLength item.shown⟩] :=
      exists_check_of_badPair t hv hbad
    refine ⟨hcheck, ?_⟩
    cases hvalid : validate m with
    | error details => exact ⟨details, rfl⟩
    | ok o =>
      obtain ⟨item, -, hitem⟩ := hcheck
      obtain ⟨c, hok, -⟩ := chosen_of_sets hvalid hsets
      rw [hitem] at hok
      cases hok

theorem notations_interchangeable_text :
    let pairs : List (Value × Value) := [(.int 8, .text "16"), (.int 0, .bool true)]
    let written : Value := .list [.list [.int 8, .text "16"], .position ⟨0, 1⟩]
    let written' : Value := .tuple [.tuple [.int 8, .text "16"], .map (members (.int 0) (.bool true))]
    let odd : Value := .list [.position ⟨0, 1⟩, .tuple [.int 8]]
    validate [(.text "textPositions", written')] = validate [(.text "textPositions", written)] ∧
      (∃ o, validate [(.text "textPositions", written)] = .ok o ∧
        ReadsPairs pairs ((Stock.medium.layout.override o).table .text)) ∧
      ∃ details, validate [(.text "textPositions", odd)] = .error details := by
  intro pairs written written' odd
  have hwritten : WritesPairs pairs written := ⟨_, .inl rfl, .cons .list (.cons (.position rfl rfl) .nil)⟩
  have hwritten' : WritesPairs pairs written' := ⟨_, .inr rfl, .cons .tuple (.cons .members .nil)⟩
  have hsame : SameButForNotation (.text "textPositions", written) (.text "textPositions", written') :=
    .inr ⟨.text, "textPositions", pairs, by decide, rfl, rfl, hwritten, hwritten'⟩
  have hsets : ∀ v : Value, v ≠ .null →
      Mapping.Sets [(.text "textPositions", v)] Table.text.setting "textPositions" v :=
    fun v hv => ⟨by decide, Mapping.get?_cons_self _ _ _, hv⟩
  have hvalid : (validate [(.text "textPositions", written)]).toBool = true := by decide +kernel
  obtain ⟨hvalidate, hread, -⟩ := notations_interchangeable [(.text "textPositions", written)]
  obtain ⟨-, -, hodd⟩ := notations_interchangeable [(.text "textPositions", odd)]
  refine ⟨hvalidate _ (.cons hsame .nil), ?_, (hodd .text _ _ _ (hsets _ (fun h => nomatch h)) (.inl rfl) ?_).2⟩
  · cases ho : validate [(.text "textPositions", written)] with
    | error details =>
      rw [ho] at hvalid
      cases hvalid
    | ok o => exact ⟨o, rfl, hread o ho _ .text _ _ pairs (hsets _ hwritten.ne_null) hwritten⟩
  · exact ⟨_, List.mem_cons_of_mem _ (List.mem_singleton_self _), _, .inr rfl, by decide⟩

end LabelPress.Options
