import TypedJson.Proofs.Ordered
import TypedJson.Text.CaseMap
import TypedJson.Text.Identifier

/-!
# Case mappings and identifiers

Both case mappings send a character of identifiers to characters of identifiers, and the upper-case
mapping yields no small ASCII letter. The tables list runs of characters, so both facts are checked
run by run: an interval of code points lies in a set or outside it when no switch falls into it.
-/

namespace TypedJson.Text

/-! ## Intervals of code points -/

/-- Reading starts outside the set, and the interval lies between two switches that open and close
a stretch of members. -/
def CodeSet.holds : List Nat → Nat → Nat → Bool
  | opening :: closing :: rest, first, last =>
    Nat.ble opening first &&
      (Nat.blt last closing || (Nat.ble closing first && holds rest first last))
  | _, _, _ => false

/-- What lies in such an interval is in the set. -/
theorem CodeSet.containsFrom_of_holds {switches : List Nat} {first last n : Nat}
    (h : holds switches first last) (hfirst : first ≤ n) (hlast : n ≤ last) :
    containsFrom switches n := by
  fun_induction holds switches first last with
  | case1 opening closing rest first last ih =>
      simp only [Bool.and_eq_true, Bool.or_eq_true, Nat.ble_eq, Nat.blt_eq] at h
      obtain ⟨hopening, hclosing | ⟨hclosing, hrest⟩⟩ := h
      · rw [containsFrom, if_neg (by omega), containsFrom, if_pos (by omega)]
        rfl
      · rw [containsFrom, if_neg (by omega), containsFrom, if_neg (by omega), ih hrest hfirst hlast]
        rfl
  | case2 => cases h

/-- The interval holds scalar values beyond ASCII only. -/
def isScalarInterval (first last : Nat) : Bool :=
  0x80 ≤ first && (last < 0xD800 || 0xE000 ≤ first && last < 0x110000)

/-- The members of such an interval are the code points of characters. -/
theorem toNat_ofNat_of_interval {first last n : Nat} (h : isScalarInterval first last)
    (hfirst : first ≤ n) (hlast : n ≤ last) : (Char.ofNat n).toNat = n ∧ 0x80 ≤ n := by
  simp only [isScalarInterval, Bool.and_eq_true, Bool.or_eq_true, decide_eq_true_eq] at h
  obtain ⟨hbeyond, hscalar⟩ := h
  refine ⟨?_, Nat.le_trans hbeyond hfirst⟩
  have hvalid : n.isValidChar := by
    rcases hscalar with hscalar | hscalar
    · exact .inl (by omega)
    · exact .inr ⟨by omega, by omega⟩
  rw [Char.ofNat, dif_pos hvalid]
  rfl

/-! ## Runs -/

namespace CaseRun

/-- The image of a code point that the run covers. -/
def image (r : CaseRun) (n : Nat) : Nat :=
  (n + r.shift : Int).toNat

/-- All images of the run satisfy `p`: the interval around them is known to, or each is checked. -/
def landsIn (interval : Nat → Nat → Bool) (p : Char → Bool) (r : CaseRun) : Bool :=
  interval (r.image r.first) (r.image r.last) ||
    (List.range' r.first (r.last + 1 - r.first)).all fun n =>
      !r.covers n || p (Char.ofNat (r.image n))

/-- The image of a covered code point satisfies `p` if all images do. -/
theorem landsIn_covers {interval : Nat → Nat → Bool} {p : Char → Bool}
    (hinterval : ∀ {first last n}, interval first last → first ≤ n → n ≤ last → p (Char.ofNat n))
    {r : CaseRun} (h : r.landsIn interval p) {n : Nat} (hn : r.covers n) :
    p (Char.ofNat (r.image n)) := by
  have hrange : r.first ≤ n ∧ n ≤ r.last := by
    simp only [covers, Bool.and_eq_true, decide_eq_true_eq] at hn
    exact hn.1
  rw [landsIn, Bool.or_eq_true] at h
  rcases h with h | h
  · exact hinterval h (Int.toNat_le_toNat (by omega)) (Int.toNat_le_toNat (by omega))
  · have hmem : n ∈ List.range' r.first (r.last + 1 - r.first) :=
      List.mem_range'_1.2 ⟨hrange.1, by omega⟩
    simpa [hn] using List.all_eq_true.1 h n hmem

end CaseRun

/-- What a case mapping makes of a character beyond ASCII satisfies `p` if the character does, the
listed forms do and so do the images of the runs that cover it. -/
theorem forall_mapCase {p : Char → Bool} {sequences : List (Nat × List Nat)} {runs : List CaseRun}
    {c : Char} (hself : p c)
    (hsequences : sequences.all fun entry => entry.2.all fun n => p (Char.ofNat n))
    (hruns : ∀ r ∈ runs, r.covers c.toNat → p (Char.ofNat (r.image c.toNat))) :
    ∀ d ∈ mapCase sequences runs c, p d := by
  intro d hd
  unfold mapCase at hd
  split at hd
  next form hform =>
    obtain ⟨n, hn, rfl⟩ := List.mem_map.1 hd
    exact List.all_eq_true.1 (List.all_eq_true.1 hsequences _ (Ordered.mem_of_lookup hform)) n hn
  next =>
    split at hd
    next m hm =>
      obtain ⟨r, hfind, rfl⟩ := Option.map_eq_some_iff.1 hm
      rw [List.mem_singleton.1 hd]
      have hcovers := List.find?_some hfind
      exact hruns r (List.mem_of_find?_eq_some hfind) hcovers
    next => rwa [List.mem_singleton.1 hd]

/-! ## Characters of identifiers -/

/-- A property of ASCII characters is checked one by one. -/
theorem ascii_all {p : Char → Prop} (h : ∀ n < 0x80, p (Char.ofNat n)) {c : Char}
    (hc : c.toNat < 0x80) : p c := by
  have hform := h c.toNat hc
  rwa [Char.ofNat_toNat] at hform

/-- The interval holds characters that continue identifiers only. -/
def isIdentifierInterval (first last : Nat) : Bool :=
  isScalarInterval first last && CodeSet.holds Table.identifierContinue.switches first last

/-- The members of such an interval continue identifiers. -/
theorem isIdentifierContinue_of_interval {first last n : Nat} (h : isIdentifierInterval first last)
    (hfirst : first ≤ n) (hlast : n ≤ last) : isIdentifierContinue (Char.ofNat n) := by
  rw [isIdentifierInterval, Bool.and_eq_true] at h
  obtain ⟨hself, hbeyond⟩ := toNat_ofNat_of_interval h.1 hfirst hlast
  rw [isIdentifierContinue, hself, if_neg (by omega), CodeSet.contains, hself]
  exact CodeSet.containsFrom_of_holds h.2 hfirst hlast

/-- The run maps to characters of identifiers, or it covers no such character: then it lies in the
complement, which has one more switch, at zero. -/
def CaseRun.keepsIdentifiers (r : CaseRun) : Bool :=
  r.landsIn isIdentifierInterval isIdentifierContinue ||
    CodeSet.holds (0 :: Table.identifierContinue.switches) r.first r.last

/-- A run that keeps identifiers maps a character of identifiers to one. -/
theorem CaseRun.keepsIdentifiers_covers {r : CaseRun} (h : r.keepsIdentifiers) {c : Char}
    (hbeyond : 0x80 ≤ c.toNat) (hc : isIdentifierContinue c) (hcovers : r.covers c.toNat) :
    isIdentifierContinue (Char.ofNat (r.image c.toNat)) := by
  rw [keepsIdentifiers, Bool.or_eq_true] at h
  rcases h with hlands | hnone
  · exact landsIn_covers isIdentifierContinue_of_interval hlands hcovers
  · have hrange : r.first ≤ c.toNat ∧ c.toNat ≤ r.last := by
      simp only [covers, Bool.and_eq_true, decide_eq_true_eq] at hcovers
      exact hcovers.1
    have hout := CodeSet.containsFrom_of_holds hnone hrange.1 hrange.2
    rw [CodeSet.containsFrom, if_neg (Nat.not_lt_zero _), Bool.not_eq_true'] at hout
    rw [isIdentifierContinue, if_neg (by omega), CodeSet.contains, CodeSet.containsCode, hout] at hc
    cases hc

/-- All runs of the upper-case mapping keep identifiers. -/
theorem upperRuns_keepIdentifiers : Table.upperRuns.all CaseRun.keepsIdentifiers := by
  decide +kernel

/-- All runs of the lower-case mapping keep identifiers. -/
theorem lowerRuns_keepIdentifiers : Table.lowerRuns.all CaseRun.keepsIdentifiers := by
  decide +kernel

/-- The upper-case form of a character of identifiers is made of such characters. -/
theorem isIdentifierContinue_upperForm {c : Char} (h : isIdentifierContinue c) :
    ∀ d ∈ upperForm c, isIdentifierContinue d := by
  unfold upperForm
  split
  next hascii =>
    intro d hd
    rw [List.mem_singleton.1 hd]
    exact ascii_all (p := fun c => isIdentifierContinue c → isIdentifierContinue c.toUpper)
      (by decide) hascii h
  next hbeyond =>
    exact forall_mapCase h (by decide +kernel) fun r hr =>
      CaseRun.keepsIdentifiers_covers (List.all_eq_true.1 upperRuns_keepIdentifiers r hr)
        (by omega) h

/-- The lower-case form of a character of identifiers is made of such characters. -/
theorem isIdentifierContinue_lowerForm {c : Char} (h : isIdentifierContinue c) :
    ∀ d ∈ lowerForm c, isIdentifierContinue d := by
  unfold lowerForm
  split
  next hascii =>
    intro d hd
    rw [List.mem_singleton.1 hd]
    exact ascii_all (p := fun c => isIdentifierContinue c → isIdentifierContinue c.toLower)
      (by decide) hascii h
  next hbeyond =>
    exact forall_mapCase h (by decide +kernel) fun r hr =>
      CaseRun.keepsIdentifiers_covers (List.all_eq_true.1 lowerRuns_keepIdentifiers r hr)
        (by omega) h

/-! ## Small letters -/

/-- A character beyond ASCII is no small letter. -/
theorem isLower_beyond {c : Char} (h : 0x80 ≤ c.toNat) : !c.isLower := by
  rw [Bool.not_eq_true', Bool.eq_false_iff]
  intro hlower
  rw [Char.isLower, Bool.and_eq_true, decide_eq_true_eq, decide_eq_true_eq] at hlower
  have hle : c.toNat ≤ 122 := UInt32.le_iff_toNat_le.1 hlower.2
  omega

/-- No member of an interval beyond ASCII is a small letter. -/
theorem isLower_of_interval {first last n : Nat} (h : isScalarInterval first last)
    (hfirst : first ≤ n) (hlast : n ≤ last) : !(Char.ofNat n).isLower := by
  obtain ⟨hself, hbeyond⟩ := toNat_ofNat_of_interval h hfirst hlast
  exact isLower_beyond (by omega)

/-- The upper-case form of a character has no small ASCII letter. -/
theorem isLower_upperForm (c : Char) : ∀ d ∈ upperForm c, !d.isLower := by
  unfold upperForm
  split
  next hascii =>
    intro d hd
    rw [List.mem_singleton.1 hd]
    exact ascii_all (p := fun c => !c.toUpper.isLower) (by decide) hascii
  next hbeyond =>
    have hruns : Table.upperRuns.all (CaseRun.landsIn isScalarInterval fun d => !d.isLower) := by
      decide
    exact forall_mapCase (isLower_beyond (by omega)) (by decide) fun r hr hcovers =>
      CaseRun.landsIn_covers isLower_of_interval (List.all_eq_true.1 hruns r hr) hcovers

/-- The upper-case form of a character other than an underscore has no underscore. -/
theorem ne_underscore_upperForm {c : Char} (hc : c ≠ '_') : ∀ d ∈ upperForm c, d != '_' := by
  have hbeyondAscii {d : Char} (hd : 0x80 ≤ d.toNat) : d != '_' := by
    rw [bne_iff_ne]
    rintro rfl
    exact absurd hd (by decide)
  unfold upperForm
  split
  next hascii =>
    intro d hd
    rw [List.mem_singleton.1 hd]
    exact ascii_all (p := fun c => c ≠ '_' → c.toUpper != '_') (by decide) hascii hc
  next hbeyond =>
    have hruns : Table.upperRuns.all (CaseRun.landsIn isScalarInterval fun d => d != '_') := by
      decide
    have hinterval {first last n : Nat} (h : isScalarInterval first last) (hfirst : first ≤ n)
        (hlast : n ≤ last) : (Char.ofNat n) != '_' := by
      obtain ⟨hself, hcode⟩ := toNat_ofNat_of_interval h hfirst hlast
      exact hbeyondAscii (by omega)
    exact forall_mapCase (hbeyondAscii (by omega)) (by decide) fun r hr hcovers =>
      CaseRun.landsIn_covers hinterval (List.all_eq_true.1 hruns r hr) hcovers

end TypedJson.Text
