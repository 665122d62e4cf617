import Mathlib.Data.List.Basic
import Mathlib.Data.List.TakeWhile
import SoundEngine.Address

/-!
# When an address is final

A name that was resolved can come back as a name, and be resolved again.  Whether it is then left alone
depends on its beginning only: it must be absolute or rooted.  The beginning of a joined address is the
base, so the base decides, but with its trailing slashes gone it is not the base that was given: `https://`
loses its mark, and `/` loses everything.

What has to be shown is that the name cannot make up for it.  A mark may stand in the name or be made
where the two are joined, but a scheme has no slash, so that a mark behind the joint has no scheme before
it; and the joint itself makes no mark, since there is no slash on either side of it
(`hasScheme_join_iff`).

* §1 says what an absolute name is without looking for its first mark.
* §2 is the joint.
* §3 resolves twice (`resolved_address`).
-/

namespace SoundEngine.Address

/-! ## 1. Schemes and marks -/

/-- What stands between a scheme and the rest. -/
def mark : List Char := [':', '/', '/']

/-- The text is a scheme, a mark and a rest. -/
def HasScheme (s : List Char) : Prop :=
  ∃ scheme rest, s = scheme ++ (mark ++ rest) ∧ isScheme scheme = true

theorem isSchemeChar_of_isScheme {s : List Char} (h : isScheme s = true) :
    ∀ c ∈ s, isSchemeChar c = true := by
  cases s with
  | nil => cases h
  | cons c cs =>
    obtain ⟨hfirst, hrest⟩ := Bool.and_eq_true_iff.mp h
    have hletter : isSchemeChar c = true := by simp [isSchemeChar, Char.isAlphanum, hfirst]
    exact List.forall_mem_cons.mpr ⟨hletter, List.all_eq_true.mp hrest⟩

/-- No character of a mark belongs to a scheme. -/
theorem not_mem_scheme {s : List Char} (h : isScheme s = true) : ':' ∉ s ∧ '/' ∉ s := by
  refine ⟨fun hmem => ?_, fun hmem => ?_⟩ <;>
    exact absurd (isSchemeChar_of_isScheme h _ hmem) (by decide)

theorem eq_of_beforeMark? {s before : List Char} (h : beforeMark? s = some before) :
    ∃ rest, s = before ++ (mark ++ rest) := by
  induction s generalizing before with
  | nil => cases h
  | cons c cs ih =>
    unfold beforeMark? at h
    split at h
    · next hmark =>
      obtain ⟨rfl, rest, rfl⟩ := hmark
      cases h
      exact ⟨rest, rfl⟩
    · obtain ⟨before, hbefore, rfl⟩ := Option.map_eq_some_iff.mp h
      obtain ⟨rest, rfl⟩ := ih hbefore
      exact ⟨rest, rfl⟩

/-- The first mark is the one behind the characters that are no colon. -/
theorem beforeMark?_of_no_colon {before : List Char} (h : ':' ∉ before) (rest : List Char) :
    beforeMark? (before ++ (mark ++ rest)) = some before := by
  induction before with
  | nil => exact if_pos ⟨rfl, rest, rfl⟩
  | cons c cs ih =>
    obtain ⟨hc, hcs⟩ := not_or.mp (mt List.mem_cons.mpr h)
    rw [List.cons_append, beforeMark?, if_neg fun hmark => hc hmark.1.symm, ih hcs]
    rfl

/-- **A name is absolute if it can be cut at any mark into a scheme and a rest.**  Only the first mark has
to be looked at, as no scheme has a colon. -/
theorem isAbsolute_iff {name : String} : isAbsolute name = true ↔ HasScheme name.toList := by
  unfold isAbsolute
  rw [Option.any_eq_true]
  constructor
  · rintro ⟨scheme, hbefore, hscheme⟩
    obtain ⟨rest, hrest⟩ := eq_of_beforeMark? hbefore
    exact ⟨scheme, rest, hrest, hscheme⟩
  · rintro ⟨scheme, rest, hname, hscheme⟩
    rw [hname]
    exact ⟨scheme, beforeMark?_of_no_colon (not_mem_scheme hscheme).1 rest, hscheme⟩

theorem isRooted_iff {name : String} : isRooted name = true ↔ name.toList.head? = some '/' := by
  simp [isRooted]

/-! ## 2. The joint -/

/-- What is put before a name: the base that is used, without its trailing slashes, however many there
are.  One slash is put back between the two. -/
def stem (base : String) : String :=
  String.ofList (dropTrailingSlashes (baseOrStandard base).toList)

theorem join_eq (base name : String) : join base name = stem base ++ "/" ++ name := by
  refine String.toList_injective ?_
  simp [join, stem]

theorem toList_join (base name : String) :
    (join base name).toList = (stem base).toList ++ '/' :: name.toList := by
  rw [join, String.toList_ofList, stem, String.toList_ofList]

theorem dropTrailingSlashes_getLast? (s : List Char) :
    (dropTrailingSlashes s).getLast? ≠ some '/' := by
  rw [dropTrailingSlashes, List.getLast?_reverse]
  intro hlast
  obtain ⟨rest, hrest⟩ := List.head?_eq_some_iff.mp hlast
  have hne : s.reverse.dropWhile (· == '/') ≠ [] := by simp [hrest]
  have hfirst := List.head_dropWhile_not (· == '/') hne
  simp [hrest] at hfirst

/-- Nothing but slashes is dropped. -/
theorem eq_append_dropped (s : List Char) :
    ∃ slashes, (∀ c ∈ slashes, c = '/') ∧ s = dropTrailingSlashes s ++ slashes := by
  refine ⟨(s.reverse.takeWhile (· == '/')).reverse, fun c hc => ?_, ?_⟩
  · simpa using List.mem_takeWhile_imp (List.mem_reverse.mp hc)
  · rw [dropTrailingSlashes, ← List.reverse_append, List.takeWhile_append_dropWhile,
      List.reverse_reverse]

/-- **Joining makes no scheme and breaks none.** -/
theorem hasScheme_join_iff {t n : List Char} (ht : t.getLast? ≠ some '/')
    (hn : n.head? ≠ some '/') : HasScheme (t ++ '/' :: n) ↔ HasScheme t := by
  constructor
  · rintro ⟨scheme, rest, heq, hscheme⟩
    obtain ⟨-, hslash⟩ := not_mem_scheme hscheme
    -- a scheme has no slash, so it ends in front of the joint
    rcases List.append_eq_append_iff.mp heq with ⟨more, rfl, hmore⟩ | ⟨left, rfl, hleft⟩
    · cases more with
      | nil => exact absurd (List.cons.inj hmore).1 (by decide)
      | cons c more =>
        obtain ⟨rfl, -⟩ := List.cons.inj hmore
        exact absurd (List.mem_append_right t List.mem_cons_self) hslash
    · -- what is left of the base holds the whole mark
      rcases left with _ | ⟨a, _ | ⟨b, _ | ⟨c, left⟩⟩⟩ <;>
        simp only [mark, List.cons_append, List.nil_append, List.cons.injEq] at hleft
      · exact absurd hleft.1 (by decide)
      · exact absurd hleft.2.2 fun heq => hn (heq ▸ rfl)
      · exact absurd (by simp [← hleft.2.1]) ht
      · obtain ⟨rfl, rfl, rfl, -⟩ := hleft
        exact ⟨scheme, left, rfl, hscheme⟩
  · rintro ⟨scheme, rest, rfl, hscheme⟩
    exact ⟨scheme, rest ++ '/' :: n, by simp, hscheme⟩

theorem isAbsolute_join {base name : String} (hname : isRooted name = false) :
    isAbsolute (join base name) = isAbsolute (stem base) := by
  have hn : name.toList.head? ≠ some '/' := by
    rw [ne_eq, ← isRooted_iff, hname]
    exact Bool.false_ne_true
  have ht : (stem base).toList.getLast? ≠ some '/' := by
    rw [stem, String.toList_ofList]
    exact dropTrailingSlashes_getLast? _
  rw [Bool.eq_iff_iff, isAbsolute_iff, isAbsolute_iff, toList_join, hasScheme_join_iff ht hn]

/-- A joined address is rooted if its base is, even if nothing is left of the base. -/
theorem isRooted_join (base name : String) :
    isRooted (join base name) = isRooted (baseOrStandard base) := by
  obtain ⟨slashes, hslashes, hbase⟩ := eq_append_dropped (baseOrStandard base).toList
  have hne : (baseOrStandard base).toList ≠ [] := by
    unfold baseOrStandard
    split
    · decide
    · next h => simpa using h
  rw [Bool.eq_iff_iff, isRooted_iff, isRooted_iff, toList_join, stem, String.toList_ofList]
  cases hstem : dropTrailingSlashes (baseOrStandard base).toList with
  | cons c rest =>
    rw [hstem] at hbase
    rw [hbase]
    rfl
  | nil =>
    rw [hstem, List.nil_append] at hbase
    rw [hbase] at hne ⊢
    cases slashes with
    | nil => exact absurd rfl hne
    | cons c slashes => simp [hslashes c List.mem_cons_self]

theorem join_injective {base name name' : String} (h : join base name = join base name') :
    name = name' := by
  have hlist := congrArg String.toList h
  rw [toList_join, toList_join] at hlist
  exact String.toList_injective (List.cons.inj (List.append_cancel_left hlist)).2

/-! ## 3. Resolving twice -/

/-- The name is an address already, absolute or rooted, so that it is used as it stands and no base is put
before it. -/
def IsAddress (name : String) : Prop := isAbsolute name = true ∨ isRooted name = true

instance (name : String) : Decidable (IsAddress name) := inferInstanceAs (Decidable (_ ∨ _))

/-- The base turns every name into an address: it is rooted, or its stem is absolute.  Over any other base
a name that is relative stays so, and it is left to the page to resolve it. -/
def Anchors (base : String) : Prop :=
  isRooted (baseOrStandard base) = true ∨ isAbsolute (stem base) = true

instance (base : String) : Decidable (Anchors base) := inferInstanceAs (Decidable (_ ∨ _))

theorem resolve_of_isAddress {name : String} (hne : name ≠ "") (h : IsAddress name) (base : String) :
    resolve name base = some name := by
  unfold resolve
  rw [if_neg hne, if_pos (Bool.or_eq_true_iff.mpr h)]

theorem resolve_of_not_isAddress {name : String} (hne : name ≠ "") (h : ¬ IsAddress name)
    (base : String) : resolve name base = some (join base name) := by
  unfold resolve
  rw [if_neg hne, if_neg fun hor => h (Bool.or_eq_true_iff.mp hor)]

theorem join_ne_empty (base name : String) : join base name ≠ "" := by
  intro h
  have hlist := congrArg String.toList h
  rw [toList_join] at hlist
  simp at hlist

/-- **The base decides whether a joined address is one.** -/
theorem isAddress_join_iff {base name : String} (h : ¬ IsAddress name) :
    IsAddress (join base name) ↔ Anchors base := by
  have hrooted : isRooted name = false := Bool.eq_false_iff.mpr fun hr => h (.inr hr)
  unfold IsAddress Anchors
  rw [isAbsolute_join hrooted, isRooted_join, or_comm]

theorem length_lt_join (base name : String) : name.length < (join base name).length := by
  rw [join_eq, String.length_append, String.length_append]
  have hslash : "/".length = 1 := rfl
  omega

/-- **When an address is final.**  For every name and every base:

* the address is the name itself if that is absolute or rooted, and otherwise the base without its
  trailing slashes, a slash and the name;
* to resolve the address again, against any base, gives the address if the name was absolute or rooted,
  or the base is rooted, or the base is absolute when its trailing slashes are gone; in every other case
  it gives a longer one;
* a relative name does not make the address absolute, and no two of them share an address. -/
theorem resolved_address {name : String} (base : String) (h : name ≠ "") :
    ∃ address, resolve name base = some address ∧
      (IsAddress name → address = name) ∧
      (¬ IsAddress name → address = stem base ++ "/" ++ name) ∧
      (IsAddress name ∨ Anchors base → ∀ other, resolve address other = some address) ∧
      (¬ (IsAddress name ∨ Anchors base) → ∀ other, ∃ longer, resolve address other = some longer ∧
        address.length < longer.length) ∧
      (¬ IsAddress name → isAbsolute address = isAbsolute (stem base)) ∧
      ∀ name', name' ≠ "" → ¬ IsAddress name → ¬ IsAddress name' → resolve name' base = some address →
        name' = name := by
  by_cases hname : IsAddress name
  · refine ⟨name, resolve_of_isAddress h hname base, fun _ => rfl, fun hno => absurd hname hno,
      fun _ => resolve_of_isAddress h hname, fun hno => absurd (.inl hname) hno,
      fun hno => absurd hname hno, fun _ _ hno => absurd hname hno⟩
  · have hrooted : isRooted name = false := Bool.eq_false_iff.mpr fun hr => hname (.inr hr)
    refine ⟨join base name, resolve_of_not_isAddress h hname base, fun hyes => absurd hyes hname,
      fun _ => join_eq base name, fun hfinal other => ?_, fun hopen other => ?_,
      fun _ => isAbsolute_join hrooted, fun name' hne _ hname' hsame => ?_⟩
    · have hanchors : Anchors base := hfinal.resolve_left hname
      exact resolve_of_isAddress (join_ne_empty base name) ((isAddress_join_iff hname).mpr hanchors)
        other
    · have hopen' : ¬ IsAddress (join base name) :=
        fun haddress => hopen (.inr ((isAddress_join_iff hname).mp haddress))
      exact ⟨join other (join base name), resolve_of_not_isAddress (join_ne_empty base name) hopen' other,
        length_lt_join other _⟩
    · rw [resolve_of_not_isAddress hne hname' base] at hsame
      exact join_injective (Option.some.inj hsame)

/-- A base that is final as it is given, and one that its trailing slashes had made absolute. -/
theorem resolved_address_joined :
    (∃ address, resolve "a b://x" "https://cdn/audio///" = some address ∧
      address = "https://cdn/audio/a b://x" ∧ ∀ other, resolve address other = some address) ∧
    ∃ address, resolve "x" "https://" = some address ∧ address = "https:/x" ∧
      ∀ other, ∃ longer, resolve address other = some longer ∧ address.length < longer.length := by
  have hname : ¬ IsAddress "a b://x" := by decide
  have hname' : ¬ IsAddress "x" := by decide
  obtain ⟨address, haddress, -, hjoin, hfinal, -⟩ :=
    @resolved_address "a b://x" "https://cdn/audio///" (by decide)
  obtain ⟨address', haddress', -, hjoin', -, hlonger, -⟩ :=
    @resolved_address "x" "https://" (by decide)
  refine ⟨⟨address, haddress, ?_, hfinal (.inr (by decide))⟩,
    ⟨address', haddress', ?_, hlonger (by decide)⟩⟩
  · rw [hjoin hname]
    decide
  · rw [hjoin' hname']
    decide

end SoundEngine.Address
