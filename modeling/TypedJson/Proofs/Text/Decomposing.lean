import TypedJson.Proofs.Text.Composition

/-!
# Characters and what they decompose into

Two facts about the tables carry everything that is said about normal forms. What a character
decomposes into does not decompose any further (`decomposition_of_mem`), and a character that two
others compose to decomposes into what the first does and the second
(`decomposition_of_composeChars?`). Both come down to checks of the entries (`pair_spec`,
`singleton_settles`): a chain of entries ends after two pairs at the latest.
-/

namespace TypedJson.Text

variable {α : Type}

/-! ## Reading rows -/

/-- A value that is found is in one of the rows. -/
theorem exists_of_rowValue? {rows : List (Nat × List α)} {n : Nat} {entry : α}
    (h : rowValue? rows n = some entry) : ∃ row ∈ rows, entry ∈ row.2 := by
  fun_induction rowValue? rows n with
  | case1 => cases h
  | case2 => cases h
  | case3 _ _ _ _ _ _ hfound =>
      cases h
      exact ⟨_, List.mem_cons_self, List.mem_of_getElem? hfound⟩
  | case4 _ _ _ _ _ _ ih =>
      obtain ⟨row, hrow, hentry⟩ := ih h
      exact ⟨row, List.mem_cons_of_mem _ hrow, hentry⟩

/-- What is checked for all entries holds for a value that is found. -/
theorem of_rowValue? {rows : List (Nat × List α)} {p : α → Bool}
    (h : rows.all fun row => row.2.all p) {n : Nat} {entry : α}
    (hvalue : rowValue? rows n = some entry) : p entry := by
  obtain ⟨row, hrow, hentry⟩ := exists_of_rowValue? hvalue
  exact List.all_eq_true.1 (List.all_eq_true.1 h row hrow) entry hentry

/-- An entry that is found has a place in one of the rows. -/
theorem exists_of_rowFind? {p : Nat → α → Bool} {rows : List (Nat × List α)} {n : Nat}
    (h : rowFind? p rows = some n) :
    ∃ row ∈ rows, ∃ i entry, row.2[i]? = some entry ∧ n = row.1 + i ∧ p n entry := by
  fun_induction rowFind? p rows with
  | case1 => cases h
  | case2 first entries rest e hfound =>
      cases h
      have hmem := List.mem_of_find?_eq_some hfound
      have hp := List.find?_some hfound
      rw [List.mem_zipIdx_iff_getElem?] at hmem
      exact ⟨_, List.mem_cons_self, e.2, e.1, hmem, rfl, hp⟩
  | case3 _ _ _ _ ih =>
      obtain ⟨row, hrow, hentry⟩ := ih h
      exact ⟨row, List.mem_cons_of_mem _ hrow, hentry⟩

/-- The rows begin at the code point or behind it, ascend and do not overlap. -/
def rowsAscend : Nat → List (Nat × List α) → Bool
  | _, [] => true
  | low, (first, entries) :: rest => Nat.ble low first && rowsAscend (first + entries.length) rest

/-- In ascending rows each entry is found. -/
theorem rowValue?_of_getElem? {rows : List (Nat × List α)} {low : Nat} (h : rowsAscend low rows)
    {row : Nat × List α} (hrow : row ∈ rows) {i : Nat} {entry : α}
    (hentry : row.2[i]? = some entry) :
    low ≤ row.1 + i ∧ rowValue? rows (row.1 + i) = some entry := by
  induction rows generalizing low with
  | nil => cases hrow
  | cons head rest ih =>
      simp only [rowsAscend, Bool.and_eq_true, Nat.ble_eq] at h
      obtain rfl | hrest := List.mem_cons.1 hrow
      · refine ⟨by omega, ?_⟩
        rw [rowValue?, if_neg (by omega), Nat.add_sub_cancel_left, hentry]
      · obtain ⟨hlow, hvalue⟩ := ih h.2 hrest
        refine ⟨by omega, ?_⟩
        rw [rowValue?, if_neg (by omega), List.getElem?_eq_none (by omega)]
        exact hvalue

/-- The value of a code point, by a single reading of the rows. -/
def lookup? (rows : List (Nat × List α)) (n : Nat) : Option α :=
  rows.foldr (fun row behind =>
    bif Nat.blt n row.1 then none
    else bif Nat.blt n (row.1 + row.2.length) then row.2[n - row.1]?
    else behind) none

/-- Both readings find the same. -/
theorem lookup?_eq_rowValue? (rows : List (Nat × List α)) (n : Nat) :
    lookup? rows n = rowValue? rows n := by
  induction rows with
  | nil => rfl
  | cons row rest ih =>
      rw [rowValue?, lookup?, List.foldr_cons, ← lookup?, ih]
      simp only [cond_eq_ite, Nat.blt_eq]
      by_cases hfront : n < row.1
      · rw [if_pos hfront, if_pos hfront]
      · rw [if_neg hfront, if_neg hfront]
        by_cases hinside : n < row.1 + row.2.length
        · rw [if_pos hinside, List.getElem?_eq_getElem (by omega)]
        · rw [if_neg hinside, List.getElem?_eq_none (by omega)]

/-- No row has an entry from the first of the code points to the last one. -/
def noEntries (rows : List (Nat × List α)) (first last : Nat) : Bool :=
  rows.all fun row => Nat.blt last row.1 || Nat.ble (row.1 + row.2.length) first

/-- Such a code point has no value. -/
theorem rowValue?_of_noEntries {rows : List (Nat × List α)} {first last : Nat}
    (h : noEntries rows first last) {n : Nat} (hfirst : first ≤ n) (hlast : n ≤ last) :
    rowValue? rows n = none := by
  induction rows with
  | nil => rfl
  | cons row rest ih =>
      simp only [noEntries, List.all_cons, Bool.and_eq_true, Bool.or_eq_true, Nat.blt_eq,
        Nat.ble_eq] at h
      rw [rowValue?]
      split
      · rfl
      · rw [List.getElem?_eq_none (by omega)]
        exact ih h.2

/-! ## Chains of entries -/

/-- The character of the code point decomposes into itself. -/
def IsBare (n : Nat) : Prop :=
  decomposeStep? n = none ∧ Syllable.isSyllable n = false

/-- The code points that are no syllables. -/
theorem isSyllable_eq_false {n : Nat} :
    Syllable.isSyllable n = false ↔ n < 0xAC00 ∨ 0xD7A4 ≤ n := by
  have hyes : Syllable.isSyllable n = true ↔ 0xAC00 ≤ n ∧ n < 0xD7A4 := by
    rw [Syllable.isSyllable, Bool.and_eq_true, decide_eq_true_iff, decide_eq_true_iff]
    rfl
  rw [← Bool.not_eq_true, hyes]
  omega

/-- Stretches of letters and marks without an entry: the ASCII characters, marks, Greek, Cyrillic
and Semitic letters, the letters of syllables, and ideographs. -/
def bareStretches : List (Nat × Nat) :=
  [(0, 0xBF), (0x300, 0x33F), (0x345, 0x373), (0x391, 0x3A9), (0x3B1, 0x3C9), (0x41A, 0x438),
    (0x4FA, 0x621), (0x1100, 0x11FF), (0x3095, 0x309D), (0x3400, 0x9FFF), (0x20000, 0x2F7FF)]

/-- Code points in the stretches have no entries. -/
theorem isBare_of_stretch {first last n : Nat} (h : (first, last) ∈ bareStretches)
    (hfirst : first ≤ n) (hlast : n ≤ last) : IsBare n := by
  have hcheck : bareStretches.all fun stretch =>
      noEntries Table.pairRows stretch.1 stretch.2
        && noEntries Table.singletonRows stretch.1 stretch.2
        && (Nat.blt stretch.2 0xAC00 || Nat.ble 0xD7A4 stretch.1) := by decide +kernel
  have hnone := List.all_eq_true.1 hcheck _ h
  simp only [Bool.and_eq_true, Bool.or_eq_true, Nat.ble_eq, Nat.blt_eq] at hnone
  obtain ⟨⟨hpairs, hsingletons⟩, hsyllables⟩ := hnone
  refine ⟨?_, isSyllable_eq_false.2 (by omega)⟩
  rw [decomposeStep?, rowValue?_of_noEntries hpairs hfirst hlast,
    rowValue?_of_noEntries hsingletons hfirst hlast]
  rfl

/-- The code point is in one of the stretches. -/
def inBareStretch (n : Nat) : Bool :=
  bareStretches.any fun stretch => Nat.ble stretch.1 n && Nat.ble n stretch.2

/-- Then it is bare. -/
theorem isBare_of_inBareStretch {n : Nat} (h : inBareStretch n) : IsBare n := by
  obtain ⟨⟨first, last⟩, hstretch, hn⟩ := List.any_eq_true.1 h
  rw [Bool.and_eq_true, Nat.ble_eq, Nat.ble_eq] at hn
  exact isBare_of_stretch hstretch hn.1 hn.2

/-- The code point has no entry, found out by a single reading of the rows. -/
def isBare (n : Nat) : Bool :=
  inBareStretch n || (lookup? Table.pairRows n).isNone && (lookup? Table.singletonRows n).isNone
    && (Nat.blt n 0xAC00 || Nat.ble 0xD7A4 n)

/-- What is found to be bare is so. -/
theorem isBare_spec {n : Nat} (h : isBare n) : IsBare n := by
  rw [isBare, Bool.or_eq_true] at h
  rcases h with h | h
  · exact isBare_of_inBareStretch h
  · simp only [Bool.and_eq_true, Bool.or_eq_true, Nat.blt_eq, Nat.ble_eq, lookup?_eq_rowValue?,
      Option.isNone_iff_eq_none] at h
    obtain ⟨⟨hpair, hsingleton⟩, hsyllable⟩ := h
    refine ⟨?_, isSyllable_eq_false.2 hsyllable⟩
    rw [decomposeStep?, hpair, hsingleton]
    rfl

/-- The chain of entries that begins at the code point leads through at most the given number of
pairs to a character that decomposes into itself. -/
def settles : Nat → Nat → Bool
  | 0, n => isBare n
  | steps + 1, n =>
    inBareStretch n || match lookup? Table.pairRows n with
      | some (base, _) => settles steps base
      | none => isBare n

/-- What is known of a pair: the chain that begins at its base settles, and its mark is bare. The
base is no syllable and no underscore. -/
theorem pair_spec {n base mark : Nat} (h : rowValue? Table.pairRows n = some (base, mark)) :
    settles 2 base ∧ IsBare mark ∧ Syllable.isSyllable base = false ∧ base ≠ '_'.toNat := by
  have hcheck : Table.pairRows.all fun row => row.2.all fun pair =>
      settles 2 pair.1 && isBare pair.2
        && (Nat.blt pair.1 0xAC00 || Nat.ble 0xD7A4 pair.1) && !Nat.beq pair.1 0x5F := by
    decide +kernel
  have hpair := of_rowValue? hcheck h
  simp only [Bool.and_eq_true, Bool.or_eq_true, Nat.blt_eq, Nat.ble_eq, Bool.not_eq_true'] at hpair
  obtain ⟨⟨⟨hbase, hmark⟩, hsyllable⟩, hunderscore⟩ := hpair
  exact ⟨hbase, isBare_spec hmark, isSyllable_eq_false.2 hsyllable,
    Nat.ne_of_beq_eq_false hunderscore⟩

/-- The chain that begins at what a character stands for settles. -/
theorem singleton_settles {n m : Nat} (h : rowValue? Table.singletonRows n = some m) :
    settles 2 m := by
  have hcheck : Table.singletonRows.all fun row => row.2.all (settles 2) := by decide +kernel
  exact of_rowValue? hcheck h

/-- A bare code point decomposes into itself, however many entries are allowed for. -/
theorem decomposeWithin_bare {n : Nat} (h : IsBare n) (steps : Nat) :
    decomposeWithin steps n = [n] := by
  cases steps with
  | zero => rfl
  | succ steps => rw [decomposeWithin, h.1]

/-- From where the chain settles on, the decomposition stays the same and is bare. -/
theorem decomposeWithin_of_settles {steps n : Nat} (h : settles steps n) :
    ∃ ms, (∀ m ∈ ms, IsBare m) ∧ ∀ more, steps ≤ more → decomposeWithin more n = ms := by
  have hbare {steps n : Nat} (h : IsBare n) :
      ∃ ms, (∀ m ∈ ms, IsBare m) ∧ ∀ more, steps ≤ more → decomposeWithin more n = ms :=
    ⟨[n], List.forall_mem_singleton.2 h, fun more _ => decomposeWithin_bare h more⟩
  induction steps generalizing n with
  | zero => exact hbare (isBare_spec h)
  | succ steps ih =>
      rw [settles, Bool.or_eq_true, lookup?_eq_rowValue?] at h
      rcases h with h | h
      · exact hbare (isBare_of_inBareStretch h)
      · cases hpair : rowValue? Table.pairRows n with
        | none =>
            rw [hpair] at h
            exact hbare (isBare_spec h)
        | some pair =>
            obtain ⟨base, mark⟩ := pair
            rw [hpair] at h
            obtain ⟨ms, hms, hall⟩ := ih h
            refine ⟨ms ++ [mark], List.forall_mem_append.2
              ⟨hms, List.forall_mem_singleton.2 (pair_spec hpair).2.1⟩, fun more hmore => ?_⟩
            obtain ⟨more, rfl⟩ := Nat.exists_eq_add_of_le' hmore
            rw [← Nat.add_assoc, decomposeWithin, decomposeStep?, hpair]
            simp only
            rw [hall _ (by omega)]

/-! ## Decompositions -/

/-- A code point that is no syllable decomposes into bare ones. -/
theorem isBare_of_mem_decomposeWithin {n : Nat} (hn : Syllable.isSyllable n = false) :
    ∀ m ∈ decomposeWithin 4 n, IsBare m := by
  rw [decomposeWithin]
  cases hpair : rowValue? Table.pairRows n with
  | some pair =>
      obtain ⟨base, mark⟩ := pair
      obtain ⟨hbase, hmark, -, -⟩ := pair_spec hpair
      obtain ⟨ms, hms, hall⟩ := decomposeWithin_of_settles hbase
      simp only [decomposeStep?, hpair, hall 3 (by omega)]
      exact List.forall_mem_append.2 ⟨hms, List.forall_mem_singleton.2 hmark⟩
  | none =>
      cases hsingleton : rowValue? Table.singletonRows n with
      | some m =>
          obtain ⟨ms, hms, hall⟩ := decomposeWithin_of_settles (singleton_settles hsingleton)
          simp only [decomposeStep?, hpair, hsingleton, Option.map_some, hall 3 (by omega),
            List.append_nil]
          exact hms
      | none =>
          have hnone : decomposeStep? n = none := by
            rw [decomposeStep?, hpair, hsingleton]
            rfl
          rw [hnone]
          exact List.forall_mem_singleton.2 ⟨hnone, hn⟩

/-- A character that is no syllable decomposes by the tables, an ASCII character too. -/
theorem decomposition_eq {c : Char} (h : Syllable.isSyllable c.toNat = false) :
    decomposition c = (decomposeWithin 4 c.toNat).map Char.ofNat := by
  unfold decomposition
  split
  · next hplain =>
    have hbare : IsBare c.toNat := isBare_of_stretch (by decide : (0, 0xBF) ∈ bareStretches)
      (Nat.zero_le _) (by omega)
    rw [decomposeWithin_bare hbare, List.map_singleton, Char.ofNat_toNat]
  · rw [if_neg (by simp [h])]

/-- The character of a valid code point has it. -/
theorem toNat_ofNat {n : Nat} (h : n.isValidChar) : (Char.ofNat n).toNat = n := by
  rw [Char.ofNat, dif_pos h]
  rfl

/-- The character of a bare code point decomposes into itself. -/
theorem decomposition_ofNat {n : Nat} (h : IsBare n) :
    decomposition (Char.ofNat n) = [Char.ofNat n] := by
  by_cases hvalid : n.isValidChar
  · have hself := toNat_ofNat hvalid
    rw [decomposition_eq (by rw [hself]; exact h.2), hself, decomposeWithin_bare h]
    rfl
  · rw [Char.ofNat, dif_neg hvalid]
    decide

/-! ## Syllables -/

namespace Syllable

/-- The syllable of a lead, a vowel and, unless it is the zeroth one, a tail. -/
def ofIndices (lead vowel tail : Nat) : Nat :=
  base + (lead * vowelCount + vowel) * tailCount + tail

/-- Every syllable has its letters. -/
theorem exists_ofIndices {n : Nat} (h : isSyllable n) :
    ∃ lead < 19, ∃ vowel < 21, ∃ tail < 28, n = ofIndices lead vowel tail := by
  have hrange : ¬ (n < 0xAC00 ∨ 0xD7A4 ≤ n) := by simp [← isSyllable_eq_false, h]
  refine ⟨(n - 0xAC00) / 588, by omega, (n - 0xAC00) / 28 % 21, by omega, (n - 0xAC00) % 28,
    by omega, ?_⟩
  simp only [ofIndices, base, vowelCount, tailCount]
  omega

variable {lead vowel tail : Nat}

/-- What has letters is a syllable. -/
theorem isSyllable_ofIndices (hlead : lead < 19) (hvowel : vowel < 21) (htail : tail < 28) :
    isSyllable (ofIndices lead vowel tail) := by
  rw [← Bool.not_eq_false, isSyllable_eq_false]
  simp only [ofIndices, base, vowelCount, tailCount]
  omega

/-- A syllable decomposes into its letters. -/
theorem decompose_ofIndices (hvowel : vowel < 21) (htail : tail < 28) :
    decompose (ofIndices lead vowel tail) =
      (0x1100 + lead) :: (0x1161 + vowel) :: if tail = 0 then [] else [0x11A7 + tail] := by
  have hindex : ofIndices lead vowel tail - base = (lead * 21 + vowel) * 28 + tail := by
    simp only [ofIndices, base, vowelCount, tailCount]
    omega
  have hlead : ((lead * 21 + vowel) * 28 + tail) / (21 * 28) = lead := by omega
  have hvowel : ((lead * 21 + vowel) * 28 + tail) / 28 % 21 = vowel := by omega
  have htail : ((lead * 21 + vowel) * 28 + tail) % 28 = tail := by omega
  simp only [decompose, hindex, vowelCount, tailCount, leadBase, vowelBase, tailBase, hlead, hvowel,
    htail]
  split <;> rfl

/-- The letters of syllables are bare. -/
theorem isBare_letter {n : Nat} (hfirst : 0x1100 ≤ n) (hlast : n ≤ 0x11FF) : IsBare n :=
  isBare_of_stretch (by decide : (0x1100, 0x11FF) ∈ bareStretches) hfirst hlast

/-- Syllables decompose into letters. -/
theorem isBare_of_mem_decompose {n : Nat} (h : isSyllable n) : ∀ m ∈ decompose n, IsBare m := by
  obtain ⟨lead, hlead, vowel, hvowel, tail, htail, rfl⟩ := exists_ofIndices h
  rw [decompose_ofIndices hvowel htail, List.forall_mem_cons, List.forall_mem_cons]
  refine ⟨isBare_letter (by omega) (by omega), isBare_letter (by omega) (by omega), ?_⟩
  split
  · exact List.forall_mem_nil _
  · exact List.forall_mem_singleton.2 (isBare_letter (by omega) (by omega))

/-- What two code points compose to decomposes into what the first does and the second. -/
theorem decompose_of_compose? {a b n : Nat} (h : compose? a b = some n) :
    isSyllable n ∧ IsBare b ∧
      (IsBare a ∧ decompose n = [a, b] ∨ isSyllable a ∧ decompose n = decompose a ++ [b]) := by
  unfold compose? at h
  split at h
  · next hletters =>
    simp only [leadBase, leadCount, vowelBase, vowelCount] at hletters
    have hn : n = ofIndices (a - 0x1100) (b - 0x1161) 0 := by
      rw [ofIndices, Nat.add_zero]
      exact (Option.some.inj h).symm
    rw [hn]
    refine ⟨isSyllable_ofIndices (by omega) (by omega) (by omega),
      isBare_letter (by omega) (by omega), .inl ⟨isBare_letter (by omega) (by omega), ?_⟩⟩
    rw [decompose_ofIndices (by omega) (by omega), if_pos rfl, Nat.add_sub_cancel' (by omega),
      Nat.add_sub_cancel' (by omega)]
  · split at h
    · next htail =>
      obtain ⟨ha, hnone, hb⟩ := htail
      obtain ⟨lead, hlead, vowel, hvowel, tail, htail, rfl⟩ := exists_ofIndices ha
      obtain rfl : tail = 0 := by
        simp only [ofIndices, base, vowelCount, tailCount] at hnone
        omega
      simp only [tailBase, tailCount, Option.some.injEq] at hb h
      have hn : n = ofIndices lead vowel (b - 0x11A7) := by
        simp only [ofIndices, base, vowelCount, tailCount] at h ⊢
        omega
      rw [hn]
      refine ⟨isSyllable_ofIndices hlead hvowel (by omega),
        isBare_letter (by omega) (by omega), .inr ⟨ha, ?_⟩⟩
      rw [decompose_ofIndices hvowel (by omega), decompose_ofIndices hvowel (by omega), if_pos rfl,
        if_neg (by omega), Nat.add_sub_cancel' (by omega), List.cons_append, List.cons_append,
        List.nil_append]
    · cases h

end Syllable

/-! ## Characters -/

/-- A syllable decomposes by arithmetic. -/
theorem decomposition_syllable {c : Char} (h : Syllable.isSyllable c.toNat) :
    decomposition c = (Syllable.decompose c.toNat).map Char.ofNat := by
  have hbeyond : ¬ c.toNat < 0xC0 := by
    intro hplain
    rw [isSyllable_eq_false.2 (by omega)] at h
    cases h
  rw [decomposition, if_neg hbeyond, if_pos h]

/-- What a character decomposes into does not decompose any further. -/
theorem decomposition_of_mem {c d : Char} (h : d ∈ decomposition c) : decomposition d = [d] := by
  by_cases hsyllable : Syllable.isSyllable c.toNat
  · rw [decomposition_syllable hsyllable] at h
    obtain ⟨m, hm, rfl⟩ := List.mem_map.1 h
    exact decomposition_ofNat (Syllable.isBare_of_mem_decompose hsyllable m hm)
  · rw [Bool.not_eq_true] at hsyllable
    rw [decomposition_eq hsyllable] at h
    obtain ⟨m, hm, rfl⟩ := List.mem_map.1 h
    exact decomposition_ofNat (isBare_of_mem_decomposeWithin hsyllable m hm)

/-- A character that is composed by the tables is no syllable, and the two are its pair. -/
theorem composePair?_spec {base mark n : Nat} (h : composePair? base mark = some n) :
    n.isValidChar ∧ Syllable.isSyllable n = false ∧
      rowValue? Table.pairRows n = some (base, mark) := by
  have hascend : rowsAscend 0xC0 Table.pairRows := by decide +kernel
  have hbounds : Table.pairRows.all fun row => Nat.ble (row.1 + row.2.length) 0xAC00
      || Nat.ble 0xE000 row.1 && Nat.ble (row.1 + row.2.length) 0x110000 := by decide +kernel
  unfold composePair? at h
  split at h
  · cases h
  · obtain ⟨row, hrow, i, entry, hentry, rfl, hp⟩ := exists_of_rowFind? h
    rw [Bool.and_eq_true, beq_iff_eq] at hp
    obtain ⟨rfl, -⟩ := hp
    have hlt := (List.getElem?_eq_some_iff.1 hentry).1
    have hrange := List.all_eq_true.1 hbounds row hrow
    simp only [Bool.or_eq_true, Bool.and_eq_true, Nat.ble_eq] at hrange
    refine ⟨?_, isSyllable_eq_false.2 (by omega), (rowValue?_of_getElem? hascend hrow hentry).2⟩
    rcases hrange with hrange | hrange
    · exact .inl (by omega)
    · exact .inr ⟨by omega, by omega⟩

/-- A bare character decomposes into itself. -/
theorem decomposition_bare {c : Char} (h : IsBare c.toNat) : decomposition c = [c] := by
  simpa using decomposition_ofNat h

/-- A syllable is a character. -/
theorem isValidChar_of_isSyllable {n : Nat} (h : Syllable.isSyllable n) : n.isValidChar := by
  have hrange : ¬ (n < 0xAC00 ∨ 0xD7A4 ≤ n) := by simp [← isSyllable_eq_false, h]
  exact .inl (by omega)

/-- A character that two others compose to decomposes into what the first does and the second. -/
theorem decomposition_of_composeChars? {base c joined : Char}
    (h : composeChars? base c = some joined) :
    decomposition joined = decomposition base ++ [c] := by
  unfold composeChars? at h
  split at h
  · next n hcompose =>
    cases h
    obtain ⟨hn, -, hcases⟩ := Syllable.decompose_of_compose? hcompose
    have hself := toNat_ofNat (isValidChar_of_isSyllable hn)
    rw [decomposition_syllable (by rwa [hself]), hself]
    rcases hcases with ⟨hbare, hletters⟩ | ⟨hbase, hletters⟩
    · rw [hletters, decomposition_bare hbare]
      simp
    · rw [hletters, decomposition_syllable hbase]
      simp
  · obtain ⟨n, hn, rfl⟩ := Option.map_eq_some_iff.1 h
    obtain ⟨hvalid, hsyllable, hvalue⟩ := composePair?_spec hn
    have hself := toNat_ofNat hvalid
    obtain ⟨hbase, -, hnone, -⟩ := pair_spec hvalue
    obtain ⟨ms, -, hall⟩ := decomposeWithin_of_settles hbase
    have hstep : decomposeStep? n = some [base.toNat, c.toNat] := by
      rw [decomposeStep?, hvalue]
    rw [decomposition_eq (by rwa [hself]), hself, decomposeWithin, hstep]
    simp only
    rw [hall 3 (by omega), ← hall 4 (by omega), List.map_append, List.map_singleton,
      Char.ofNat_toNat, ← decomposition_eq (hnone)]

/-- An underscore composes with nothing. -/
theorem composeChars?_underscore (c : Char) : composeChars? '_' c = none := by
  have hsyllable : Syllable.compose? '_'.toNat c.toNat = none := by
    rw [Syllable.compose?, if_neg, if_neg]
    · rintro ⟨h, -⟩
      exact absurd h (by decide)
    · rintro ⟨h, -⟩
      exact absurd h (by decide)
  have hpair : composePair? '_'.toNat c.toNat = none := by
    rw [Option.eq_none_iff_forall_ne_some]
    intro n hn
    obtain ⟨-, -, -, hbase⟩ := pair_spec (composePair?_spec hn).2.2
    exact hbase rfl
  rw [composeChars?, hsyllable, hpair]
  rfl

end TypedJson.Text
