import Mathlib
import SoundEngine.Json.Reader

/-!
# What a reader takes from a text

A document is read from the left to the right, and most statements about documents are about their
parts: what one member says does not depend on the other ones, and a list without its first item is
read as before.  The reason is that a reader takes a piece of the text and does not look at the rest,
whatever that is.

This is almost so.  A number ends where the first character stands that cannot belong to it, so the
rest may not begin with such a character.  `Takes least r` says it as far as it is true: the reader may
be given another rest that is `Alike`, one that begins with the same character, or with one that
belongs to no number.

* §1 opens the ways in which readers are put together.
* §2 is about blanks, which most readers pass over first.
* §3 defines `Takes`, with one rule for each way of building a reader.
* §4 is about loops.  Every turn takes something, and so the loop takes something and its equation
  holds (`Takes.loop`); two loops whose turns take the same go on together (`loop_simulates`).
-/

namespace SoundEngine.Json

open Reader

variable {α β σ τ : Type}

/-! ## 1. How readers are put together -/

section Parts

variable {r : Reader α} {f : α → Reader β} {g : α → β} {s t : List Char} {a : α} {b : β}

theorem bind_eq_ok :
    (r >>= f) s = .ok (b, t) ↔ ∃ a rest, r s = .ok (a, rest) ∧ f a rest = .ok (b, t) := by
  simp only [bind, StateT.bind, Except.bind]
  cases r s with
  | error e => simp
  | ok x =>
    obtain ⟨a, rest⟩ := x
    constructor
    · intro h
      exact ⟨a, rest, rfl, h⟩
    · rintro ⟨a', rest', heq, h⟩
      cases heq
      exact h

/-- What follows goes on with the rest. -/
theorem bind_apply (h : r s = .ok (a, t)) : (r >>= f) s = f a t := by
  simp only [bind, StateT.bind, Except.bind, h]

theorem map_eq_ok : (g <$> r) s = .ok (b, t) ↔ ∃ a, r s = .ok (a, t) ∧ g a = b := by
  simp only [Functor.map, StateT.map, bind, Except.bind, pure, Except.pure]
  cases r s with
  | error e => simp
  | ok x =>
    obtain ⟨a, rest⟩ := x
    constructor
    · intro h
      cases h
      exact ⟨a, rfl, rfl⟩
    · rintro ⟨a', heq, rfl⟩
      cases heq
      rfl

/-- The written out form of `<$>`. -/
theorem map_apply :
    (g <$> r) s = match r s with
      | .error e => .error e
      | .ok (a, rest) => .ok (g a, rest) := by
  simp only [Functor.map, StateT.map, bind, Except.bind, pure, Except.pure]
  cases r s <;> rfl

theorem pure_eq_ok {a' : α} : (pure a : Reader α) s = .ok (a', t) ↔ a = a' ∧ s = t := by
  simp only [pure, StateT.pure, Except.pure, Except.ok.injEq, Prod.mk.injEq]

theorem fail_ne_ok {e : Error} : (fail e : Reader α) s ≠ .ok (a, t) := by
  intro h
  cases h

theorem ofResult_eq_ok {x : Except Error α} : ofResult x s = .ok (a, t) ↔ x = .ok a ∧ s = t := by
  cases x with
  | error e => simp [ofResult, fail]
  | ok a' => simp [ofResult, pure_eq_ok]

/-- A document is what its reader makes of it, and blanks. -/
theorem run_eq_ok {text : String} :
    Reader.run r text = .ok a ↔ ∃ t, r text.toList = .ok (a, t) ∧ trimmed t = [] := by
  unfold Reader.run
  cases r text.toList with
  | error e => simp
  | ok x =>
    obtain ⟨a', rest⟩ := x
    by_cases hrest : trimmed rest = []
    · simp only [hrest, List.isEmpty_nil, if_true, Except.ok.injEq, Prod.mk.injEq]
      constructor
      · rintro rfl
        exact ⟨rest, ⟨rfl, rfl⟩, hrest⟩
      · rintro ⟨t, ⟨rfl, -⟩, -⟩
        rfl
    · have hne : (trimmed rest).isEmpty = false := by simpa using hrest
      simp only [hne, Bool.false_eq_true, if_false]
      constructor
      · intro h
        cases h
      · rintro ⟨t, heq, ht⟩
        cases heq
        exact absurd ht hrest

end Parts

/-! ## 2. Blanks -/

/-- Nothing but blanks. -/
def Blank (w : List Char) : Prop := ∀ c ∈ w, isBlank c = true

theorem blank_nil : Blank [] := by simp [Blank]

theorem trimmed_append {w : List Char} (h : Blank w) (s : List Char) :
    trimmed (w ++ s) = trimmed s := by
  induction w with
  | nil => rfl
  | cons c w ih =>
    obtain ⟨hc, hw⟩ := List.forall_mem_cons.mp h
    have hcons : trimmed (c :: (w ++ s)) = trimmed (w ++ s) := List.dropWhile_cons_of_pos hc
    rw [List.cons_append, hcons, ih hw]

theorem trimmed_cons {c : Char} (h : isBlank c = false) (s : List Char) :
    trimmed (c :: s) = c :: s :=
  List.dropWhile_cons_of_neg (by rw [h]; exact Bool.false_ne_true)

theorem trimmed_eq_nil_iff {w : List Char} : trimmed w = [] ↔ Blank w := by
  unfold trimmed Blank
  rw [List.dropWhile_eq_nil_iff]

theorem blank_takeWhile (s : List Char) : Blank (s.takeWhile isBlank) := by
  intro c hc
  exact List.mem_takeWhile_imp hc

/-- What is in front of the first character that is no blank. -/
theorem trimmed_eq_cons {s rest : List Char} {c : Char} (h : trimmed s = c :: rest) :
    isBlank c = false ∧ ∃ w, Blank w ∧ s = w ++ c :: rest := by
  constructor
  · have hcons : s.dropWhile isBlank = c :: rest := h
    have hne : s.dropWhile isBlank ≠ [] := by
      rw [hcons]
      exact List.cons_ne_nil c rest
    have hhead := List.head_dropWhile_not isBlank hne
    simp only [hcons, List.head_cons] at hhead
    exact hhead
  · refine ⟨s.takeWhile isBlank, blank_takeWhile s, ?_⟩
    rw [← h]
    exact List.takeWhile_append_dropWhile.symm

/-- The reader passes over blanks first. -/
def Trims (r : Reader α) : Prop := ∀ s, r (trimmed s) = r s

theorem Trims.blank {r : Reader α} (h : Trims r) {w : List Char} (hw : Blank w) (s : List Char) :
    r (w ++ s) = r s := by
  rw [← h (w ++ s), trimmed_append hw, h s]

theorem Trims.bind {r : Reader α} (h : Trims r) (f : α → Reader β) : Trims (r >>= f) := by
  intro s
  change StateT.bind r f (trimmed s) = StateT.bind r f s
  unfold StateT.bind
  rw [h s]

theorem trimmed_trimmed (s : List Char) : trimmed (trimmed s) = trimmed s := by
  cases h : trimmed s with
  | nil => rfl
  | cons c rest => exact trimmed_cons (trimmed_eq_cons h).1 rest

/-! ## 3. What is taken -/

/-- The characters that can go on with a number. -/
def isNumeric (c : Char) : Bool :=
  c.isDigit || c == '.' || c == 'e' || c == 'E' || c == '+' || c == '-'

/-- What `t` begins with does not belong to the text before it any more than what `rest` begins
with. -/
def Alike (rest t : List Char) : Prop := t.head? = rest.head? ∨ ∀ c ∈ t.head?, isNumeric c = false

theorem alike_nil (rest : List Char) : Alike rest [] := .inr (by simp)

theorem alike_cons (rest : List Char) {c : Char} (h : isNumeric c = false) (t : List Char) :
    Alike rest (c :: t) := .inr (by simpa using h)

/-- What is taken afterwards stands in between. -/
theorem Alike.append {rest t : List Char} (h : Alike rest t) (m : List Char) :
    Alike (m ++ rest) (m ++ t) := by
  cases m with
  | nil => exact h
  | cons c m => exact .inl rfl

/-- A character that would go on with a number comes next in both texts or in neither. -/
theorem Alike.head {p : Char → Bool} (hp : ∀ c, p c = true → isNumeric c = true)
    {rest t : List Char} (h : Alike rest t) (hrest : rest.head?.any p = false) :
    t.head?.any p = false := by
  rcases h with heq | hfree
  · rw [heq]
    exact hrest
  · cases t with
    | nil => rfl
    | cons c t =>
      have hc : isNumeric c = false := hfree c rfl
      cases hpc : p c with
      | false => simpa using hpc
      | true => exact absurd (hp c hpc) (by rw [hc]; exact Bool.false_ne_true)

/-- **The reader takes a piece of the text**, of `least` characters or more, and would take the same
piece in front of another rest. -/
def Takes (least : Nat) (r : Reader α) : Prop :=
  ∀ s a rest, r s = .ok (a, rest) →
    ∃ m, least ≤ m.length ∧ s = m ++ rest ∧ ∀ t, Alike rest t → r (m ++ t) = .ok (a, t)

section Rules

variable {least more : Nat} {r r' : Reader α}

theorem Takes.mono (h : Takes least r) (hle : more ≤ least) : Takes more r := by
  intro s a rest hr
  obtain ⟨m, hm, rfl, ht⟩ := h s a rest hr
  exact ⟨m, hle.trans hm, rfl, ht⟩

theorem Takes.length_le (h : Takes least r) {s rest : List Char} {a : α}
    (hr : r s = .ok (a, rest)) : rest.length + least ≤ s.length := by
  obtain ⟨m, hm, rfl, -⟩ := h s a rest hr
  rw [List.length_append]
  omega

theorem takes_pure (a : α) : Takes 0 (pure a : Reader α) := by
  intro s a' rest h
  obtain ⟨rfl, rfl⟩ := pure_eq_ok.mp h
  exact ⟨[], Nat.le_refl 0, rfl, fun t _ => rfl⟩

theorem takes_fail (e : Error) : Takes least (fail e : Reader α) := by
  intro s a rest h
  exact absurd h fail_ne_ok

theorem takes_ofResult (x : Except Error α) : Takes 0 (ofResult x) := by
  cases x with
  | error e => exact takes_fail e
  | ok a => exact takes_pure a

theorem Takes.bind {f : α → Reader β} (h : Takes least r) (hf : ∀ a, Takes more (f a)) :
    Takes (least + more) (r >>= f) := by
  intro s b rest hb
  obtain ⟨a, rest', hr, hfa⟩ := bind_eq_ok.mp hb
  obtain ⟨m, hm, rfl, ht⟩ := h s a rest' hr
  obtain ⟨m', hm', rfl, ht'⟩ := hf a rest' b rest hfa
  refine ⟨m ++ m', ?_, (List.append_assoc m m' rest).symm, ?_⟩
  · rw [List.length_append]
    omega
  · intro t halike
    rw [List.append_assoc]
    exact bind_eq_ok.mpr ⟨a, m' ++ t, ht (m' ++ t) (halike.append m'), ht' t halike⟩

/-- What follows may take nothing. -/
theorem Takes.andThen {f : α → Reader β} (h : Takes least r) (hf : ∀ a, Takes 0 (f a)) :
    Takes least (r >>= f) :=
  h.bind hf

/-- What comes first may take nothing. -/
theorem Takes.after {f : α → Reader β} (h : Takes 0 r) (hf : ∀ a, Takes least (f a)) :
    Takes least (r >>= f) :=
  (h.bind hf).mono (by omega)

theorem Takes.map (h : Takes least r) (g : α → β) : Takes least (g <$> r) := by
  intro s b rest hb
  obtain ⟨a, hr, rfl⟩ := map_eq_ok.mp hb
  obtain ⟨m, hm, rfl, ht⟩ := h s a rest hr
  exact ⟨m, hm, rfl, fun t halike => map_eq_ok.mpr ⟨a, ht t halike, rfl⟩⟩

theorem Takes.ite {p : Prop} [Decidable p] (h : p → Takes least r) (h' : ¬ p → Takes least r') :
    Takes least (if p then r else r') := by
  by_cases hp : p
  · rw [if_pos hp]
    exact h hp
  · rw [if_neg hp]
    exact h' hp

/-- The same where the text has been named. -/
theorem Takes.iteAt {p : Prop} [Decidable p] (h : p → Takes least r) (h' : ¬ p → Takes least r') :
    Takes least fun s => if p then r s else r' s := by
  by_cases hp : p
  · simp only [hp, if_true]
    exact h hp
  · simp only [hp, if_false]
    exact h' hp

/-- A reader that gives results where another one does, the same ones. -/
theorem Takes.congr (h : Takes least r) (heq : ∀ s x, r' s = .ok x ↔ r s = .ok x) :
    Takes least r' := by
  intro s a rest hr
  obtain ⟨m, hm, hs, ht⟩ := h s a rest ((heq s (a, rest)).mp hr)
  exact ⟨m, hm, hs, fun t halike => (heq (m ++ t) (a, t)).mpr (ht t halike)⟩

/-- The character that a reader begins with can be read before. -/
theorem Takes.back (h : Takes 1 r) (c : Char) : Takes 0 fun s => r (c :: s) := by
  intro s a rest hr
  obtain ⟨m, hm, hs, ht⟩ := h (c :: s) a rest hr
  cases m with
  | nil => exact absurd hm (by decide)
  | cons d m =>
    obtain ⟨rfl, rfl⟩ := List.cons.inj hs
    exact ⟨m, Nat.zero_le _, rfl, ht⟩

end Rules

/-- Goes on by the next character. -/
def byChar (e : Error) (k : Char → Reader α) : Reader α := fun s =>
  match s with
  | [] => .error e
  | c :: rest => k c rest

/-- Goes on by the next character that is no blank. -/
def afterBlanks (e : Error) (k : Char → Reader α) : Reader α := fun s =>
  match trimmed s with
  | [] => .error e
  | c :: rest => k c rest

section Dispatch

variable {e : Error} {k : Char → Reader α} {s rest : List Char} {c : Char}

theorem afterBlanks_of_trimmed (h : trimmed s = c :: rest) : afterBlanks e k s = k c rest := by
  unfold afterBlanks
  rw [h]

theorem afterBlanks_eq_ok {x : α × List Char} (h : afterBlanks e k s = .ok x) :
    ∃ c rest, trimmed s = c :: rest ∧ k c rest = .ok x := by
  unfold afterBlanks at h
  cases hs : trimmed s with
  | nil =>
    rw [hs] at h
    cases h
  | cons c rest =>
    rw [hs] at h
    exact ⟨c, rest, rfl, h⟩

theorem trims_afterBlanks : Trims (afterBlanks e k) := by
  intro s
  unfold afterBlanks
  rw [trimmed_trimmed]

theorem takes_byChar {least : Nat} (h : ∀ c, Takes least (k c)) :
    Takes (least + 1) (byChar e k) := by
  intro s a rest hs
  cases s with
  | nil => cases hs
  | cons c s =>
    obtain ⟨m, hm, rfl, ht⟩ := h c s a rest hs
    exact ⟨c :: m, Nat.succ_le_succ hm, rfl, ht⟩

theorem takes_afterBlanks {least : Nat} (h : ∀ c, Takes least (k c)) :
    Takes (least + 1) (afterBlanks e k) := by
  intro s a rest hs
  obtain ⟨c, s', htrim, hk⟩ := afterBlanks_eq_ok hs
  obtain ⟨hc, w, hw, rfl⟩ := trimmed_eq_cons htrim
  obtain ⟨m, hm, rfl, ht⟩ := h c s' a rest hk
  refine ⟨w ++ c :: m, ?_, (List.append_assoc w (c :: m) rest).symm, ?_⟩
  · rw [List.length_append, List.length_cons]
    omega
  · intro t halike
    have htrim' : trimmed (w ++ c :: m ++ t) = c :: (m ++ t) := by
      rw [List.append_assoc, trimmed_append hw, List.cons_append, trimmed_cons hc]
    exact (afterBlanks_of_trimmed htrim').trans (ht t halike)

end Dispatch

/-! ## 4. Loops -/

/-- A loop whose turns take something makes progress. -/
theorem progresses {step : σ → Reader (σ ⊕ α)} (h : ∀ a, Takes 1 (step a)) : Progresses step := by
  intro a s b rest hs
  have hlen := (h a).length_le hs
  omega

/-- What a loop does: a last turn, or another turn and the loop again. -/
theorem loop_eq_ok {step : σ → Reader (σ ⊕ α)} (h : ∀ a, Takes 1 (step a)) {a : σ} {s : List Char}
    {x : α × List Char} :
    loop step a s = .ok x ↔
      (∃ b rest, step a s = .ok (.inl b, rest) ∧ loop step b rest = .ok x) ∨
        step a s = .ok (.inr x.1, x.2) := by
  rw [loop_eq (progresses h)]
  rcases step a s with e | ⟨b | y, rest⟩
  · simp
  · constructor
    · intro hloop
      exact .inl ⟨b, rest, rfl, hloop⟩
    · rintro (⟨b', rest', heq, hloop⟩ | heq)
      · cases heq
        exact hloop
      · cases heq
  · constructor
    · intro hx
      cases hx
      exact .inr rfl
    · rintro (⟨b', rest', heq, -⟩ | heq)
      · cases heq
      · cases heq
        rfl

/-- **A loop takes something if every turn does.** -/
theorem Takes.loop {step : σ → Reader (σ ⊕ α)} (h : ∀ a, Takes 1 (step a)) (a : σ) :
    Takes 1 (Reader.loop step a) := by
  intro s x rest hs
  -- the text gets shorter with every turn
  induction hn : s.length using Nat.strong_induction_on generalizing a s with
  | _ n ih =>
  subst hn
  rcases (loop_eq_ok h).mp hs with ⟨b, s', hstep, hloop⟩ | hstep
  · have hlen := (h a).length_le hstep
    obtain ⟨m, hm, rfl, ht⟩ := h a s (.inl b) s' hstep
    obtain ⟨m', hm', rfl, ht'⟩ := ih s'.length (by omega) b s' hloop rfl
    refine ⟨m ++ m', ?_, (List.append_assoc m m' rest).symm, ?_⟩
    · rw [List.length_append]
      omega
    · intro t halike
      rw [List.append_assoc]
      exact (loop_eq_ok h).mpr
        (.inl ⟨b, m' ++ t, ht (m' ++ t) (halike.append m'), ht' t halike⟩)
  · obtain ⟨m, hm, rfl, ht⟩ := h a s (.inr x) rest hstep
    exact ⟨m, hm, rfl, fun t halike => (loop_eq_ok h).mpr (.inr (ht t halike))⟩

/-- **Two loops go on together** if each turn of the second one leaves the text that the turn of the
first one leaves.  The relation may look at the text that is left. -/
theorem loop_simulates {stepA : σ → Reader (σ ⊕ α)} (stepB : τ → Reader (τ ⊕ β))
    (R : σ → τ → List Char → Prop) (S : α → β → Prop)
    (hgo : ∀ a b s a' rest, R a b s → stepA a s = .ok (.inl a', rest) →
      ∃ b', stepB b s = .ok (.inl b', rest) ∧ R a' b' rest)
    (hend : ∀ a b s x rest, R a b s → stepA a s = .ok (.inr x, rest) →
      ∃ y, stepB b s = .ok (.inr y, rest) ∧ S x y)
    {a : σ} {b : τ} {s rest : List Char} {x : α} (hR : R a b s)
    (h : loop stepA a s = .ok (x, rest)) : ∃ y, loop stepB b s = .ok (y, rest) ∧ S x y := by
  unfold loop at h ⊢
  generalize s.length + 1 = n at h ⊢
  induction n generalizing a b s with
  | zero => cases h
  | succ n ih =>
    simp only [turns] at h ⊢
    rcases hstep : stepA a s with e | ⟨a' | x', s'⟩
    · rw [hstep] at h
      cases h
    · rw [hstep] at h
      obtain ⟨b', hstep', hR'⟩ := hgo a b s a' s' hR hstep
      rw [hstep']
      exact ih hR' h
    · rw [hstep] at h
      cases h
      obtain ⟨y, hstep', hS⟩ := hend a b s x rest hR hstep
      rw [hstep']
      exact ⟨y, rfl, hS⟩

end SoundEngine.Json
